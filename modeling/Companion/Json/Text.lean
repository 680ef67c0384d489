import Companion.Json.Reader
import Companion.Text.Hex

/-!
# Strings in JSON text

Both readers start after the opening quote and end after the closing one. `skipString` checks the
form only; `readString` also checks that escaped surrogates come in pairs, and gives the text.
-/

namespace Companion.Json

/-- Reads the four hexadecimal digits of an escape. The text has to go on for four bytes. -/
def readHex : Reader Nat := fun text =>
  let digits := text.take 4
  if (String.ofList digits).utf8ByteSize < 4 then .error .endOfText
  else
    match Text.hexNumber? digits with
    | some code => .ok (code, text.drop 4)
    | none => .error .unexpected

def escapes : List (Char × Char) :=
  [('"', '"'), ('\\', '\\'), ('/', '/'), ('b', '\x08'), ('f', '\x0c'), ('n', '\n'), ('r', '\r'),
    ('t', '\t')]

def isLeadingSurrogate (code : Nat) : Bool :=
  0xD800 ≤ code && code < 0xDC00

def isTrailingSurrogate (code : Nat) : Bool :=
  0xDC00 ≤ code && code < 0xE000

def readEscapedCode : Reader Char := do
  let code ← readHex
  if isTrailingSurrogate code then throw .unexpected
  else if isLeadingSurrogate code then
    readWord ['\\', 'u']
    let second ← readHex
    if isTrailingSurrogate second then
      pure (Char.ofNat (0x10000 + (code - 0xD800) * 0x400 + (second - 0xDC00)))
    else throw .unexpected
  else pure (Char.ofNat code)

def readEscape : Reader Char := do
  let letter ← Reader.next
  if letter = 'u' then readEscapedCode
  else
    match escapes.lookup letter with
    | some c => pure c
    | none => throw .unexpected

def skipEscape : Reader Unit := do
  let letter ← Reader.next
  if letter = 'u' then discard readHex
  else if (escapes.lookup letter).isNone then throw .unexpected

/-- Reads a string to its closing quote, in at most so many steps; `reversed` is what was read. -/
def readStringFrom (reversed : List Char) : Nat → Reader String
  | 0 => Reader.refuse
  | steps + 1 => do
      let c ← Reader.next
      if c = '"' then pure (String.ofList reversed.reverse)
      else if c = '\\' then
        let escaped ← readEscape
        readStringFrom (escaped :: reversed) steps
      else if c < ' ' then throw .unexpected
      else readStringFrom (c :: reversed) steps

def readString : Reader String :=
  fun text => readStringFrom [] (text.length + 1) text

def skipStringFrom : Nat → Reader Unit
  | 0 => Reader.refuse
  | steps + 1 => do
      let c ← Reader.next
      if c = '"' then pure ()
      else if c = '\\' then
        skipEscape
        skipStringFrom steps
      else if c < ' ' then throw .unexpected
      else skipStringFrom steps

def skipString : Reader Unit :=
  fun text => skipStringFrom (text.length + 1) text

end Companion.Json
