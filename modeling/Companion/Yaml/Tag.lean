import Companion.Text.Hex
import Companion.Yaml.Cursor

/-!
# Tags, anchors and directives

A tag is written in full between angle brackets, or as a handle and a suffix. Handles stand for
prefixes, which directives declare. Tags are strings of octets, because they may contain octets by
number. The octet zero ends such a string: what is written behind it is read but does not count.
-/

namespace Companion.Yaml

abbrev Octets : Type :=
  List UInt8

def octetsOf (text : String) : Octets :=
  text.toUTF8.toList

def beforeZero (octets : Octets) : Octets :=
  octets.takeWhile (· ≠ 0)

/-- A tag as it is written. Without a handle the suffix is the tag. -/
structure TagName where
  handle : Option String
  suffix : Octets
deriving DecidableEq, Repr

def isTagChar (c : Char) : Bool :=
  isNameChar c || ";/?:@&=+$.!~*'()".toList.contains c

/-- A character that tags may contain in addition where nothing else could be meant. -/
def isBracketChar (c : Char) : Bool :=
  c = ',' || c = '[' || c = ']'

/-- How many octets a character has whose encoding begins with this one. -/
def encodedWidth (octet : Nat) : Option Nat :=
  if octet < 0x80 then some 1
  else if octet / 0x20 = 0x06 then some 2
  else if octet / 0x10 = 0x0e then some 3
  else if octet / 0x08 = 0x1e then some 4
  else none

def scanOctet : Scan Nat := do
  Scan.expect '%'
  let some high ← Scan.peek | failure
  let some low ← Scan.ahead 1 | failure
  let high ← liftM (Text.hexValue? high)
  let low ← liftM (Text.hexValue? low)
  Scan.skip 2
  pure (high * 16 + low)

def scanContinuation : Nat → Scan Octets
  | 0 => pure []
  | count + 1 => do
      let octet ← scanOctet
      if octet / 0x40 = 0x02 then (octet.toUInt8 :: ·) <$> scanContinuation count else failure

def scanOctets : Scan Octets := do
  let first ← scanOctet
  let width ← liftM (encodedWidth first)
  (first.toUInt8 :: ·) <$> scanContinuation (width - 1)

def scanTagChars (brackets : Bool) : Nat → Scan Octets
  | 0 => pure []
  | steps + 1 => do
      match ← Scan.peek with
      | none => pure []
      | some c =>
          if c = '%' then
            let octets ← scanOctets
            (octets ++ ·) <$> scanTagChars brackets steps
          else if isTagChar c ∨ (brackets ∧ isBracketChar c) then
            Scan.skip 1
            (octetsOf (String.singleton c) ++ ·) <$> scanTagChars brackets steps
          else pure []

def scanTagRun (brackets : Bool) : Scan Octets := do
  scanTagChars brackets ((← get).rest.length + 1)

def scanTagText (brackets : Bool) : Scan Octets := do
  let octets ← scanTagRun brackets
  if octets = [] then failure
  pure (beforeZero octets)

/-- Reads a handle: an exclamation mark, a name, and a second one if it follows. -/
def scanHandle : Scan String := do
  Scan.expect '!'
  let name ← Scan.readWhile isNameChar
  if (← Scan.peek) = some '!' then
    Scan.skip 1
    pure (String.ofList ('!' :: name ++ ['!']))
  else pure (String.ofList ('!' :: name))

def scanVerbatimTag : Scan TagName := do
  Scan.skip 2
  let suffix ← scanTagText true
  Scan.expect '>'
  pure { handle := none, suffix }

/-- Reads a tag with a handle. A handle of one mark and a name is the primary one and a suffix. -/
def scanShortTag : Scan TagName := do
  let handle ← scanHandle
  if handle.length ≥ 2 ∧ handle.toList.getLast? = some '!' then
    let suffix ← scanTagText false
    pure { handle := some handle, suffix }
  else
    let name := octetsOf (String.ofList (handle.toList.drop 1))
    let suffix := beforeZero (name ++ (← scanTagRun false))
    if suffix = [] then pure { handle := none, suffix := octetsOf "!" }
    else pure { handle := some "!", suffix }

def scanTag (inFlow : Bool) : Scan TagName := do
  let tag ← if (← Scan.ahead 1) = some '<' then scanVerbatimTag else scanShortTag
  let next ← Scan.peek
  if isWordEnd next ∨ (inFlow ∧ next = some ',') then pure tag else failure

def scanAnchor : Scan String := do
  Scan.skip 1
  let name ← Scan.readWhile isNameChar
  let next ← Scan.peek
  if name ≠ [] ∧ (isWordEnd next ∨ next.any fun c => "?:,]\x7d%@`".toList.contains c) then
    pure (String.ofList name)
  else failure

inductive Directive where
  | version (major minor : Nat)
  | tag (handle : String) (start : Octets)
deriving DecidableEq, Repr

/-- Reads one half of a version number, of at most nine digits. -/
def scanVersionPart : Scan Nat := do
  let digits ← Scan.readWhile Char.isDigit
  if digits = [] ∨ 9 < digits.length then failure
  pure (digits.foldl (fun sum c => sum * 10 + (c.toNat - '0'.toNat)) 0)

def scanBlanks : Scan Unit := do
  if (← Scan.peek).any isBlank then Scan.skipWhile isBlank else failure

def scanVersion : Scan Directive := do
  Scan.skipWhile isBlank
  let major ← scanVersionPart
  Scan.expect '.'
  let minor ← scanVersionPart
  pure (.version major minor)

def scanTagDeclaration : Scan Directive := do
  Scan.skipWhile isBlank
  let handle ← scanHandle
  if handle ≠ "!" ∧ (handle.length < 2 ∨ handle.toList.getLast? ≠ some '!') then failure
  scanBlanks
  let start ← scanTagText true
  if isWordEnd (← Scan.peek) then pure (.tag handle start) else failure

def scanDirective : Scan Directive := do
  Scan.skip 1
  let name ← Scan.readWhile isNameChar
  if !isWordEnd (← Scan.peek) then failure
  let directive ←
    if name = "YAML".toList then scanVersion
    else if name = "TAG".toList then scanTagDeclaration
    else failure
  Scan.skipLineRest
  pure directive

end Companion.Yaml
