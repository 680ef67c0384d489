import Companion.Yaml.Token
import Companion.Yaml.Scalar.Block
import Companion.Yaml.Scalar.Plain
import Companion.Yaml.Scalar.Quoted

/-!
# From text to tokens

The scanner keeps the columns of the open block collections, and for each open flow collection the
place of a token that may turn out to be a key: only the colon behind it tells. Such a key has to
stand on one line, at most 1024 octets before its colon. Where a line of a block mapping begins
with a token that could be a key, it has to be one.
-/

namespace Companion.Yaml

/-- A token that may turn out to be a key. -/
structure PendingKey where
  /-- Nothing but a key is possible here. -/
  required : Bool
  /-- The number of the token. -/
  number : Nat
  octets : Nat
  line : Nat
  column : Nat

/-- How many octets the colon may be behind the start of its key. -/
def keyReach : Nat :=
  1024

structure Layout where
  cursor : Cursor
  tokens : TokenList := {}
  /-- The columns of the open block collections, innermost first. -/
  columns : List Nat := []
  /-- Whether a key may begin here. -/
  keyAllowed : Bool := true
  /-- The pending key of the innermost flow collection, or outside all of them. -/
  pending : Option PendingKey := none
  /-- The pending keys around the innermost flow collection. -/
  outer : List (Option PendingKey) := []

abbrev Scanner (α : Type) : Type :=
  StateT Layout Option α

namespace Layout

def inFlow (layout : Layout) : Bool :=
  !layout.outer.isEmpty

/-- One more than the column of the innermost block collection; zero outside all of them. -/
def parent (layout : Layout) : Nat :=
  match layout.columns with
  | column :: _ => column + 1
  | [] => 0

end Layout

namespace Scanner

/-- Runs a step that only moves the cursor. -/
def scan {α : Type} (step : Scan α) : Scanner α := do
  let layout ← get
  let (result, cursor) ← liftM (step layout.cursor)
  set { layout with cursor }
  pure result

def emit (token : Token) : Scanner Unit :=
  modify fun layout => { layout with tokens := layout.tokens.push token }

def allowKey (allowed : Bool) : Scanner Unit :=
  modify fun layout => { layout with keyAllowed := allowed }

def skipToToken : Nat → Scanner Unit
  | 0 => pure ()
  | steps + 1 => do
      let layout ← get
      let tabs := layout.inFlow || !layout.keyAllowed
      scan do
        if (← get).column = 0 ∧ (← Scan.peek) = some '\ufeff' then Scan.skip 1
        Scan.skipWhile fun c => c = ' ' || (tabs && c = '\t')
        Scan.skipComment
      if (← get).cursor.rest.head?.any isBreak then
        scan Scan.skipBreak
        if !layout.inFlow then allowKey true
        skipToToken steps

def isStale (cursor : Cursor) (key : PendingKey) : Bool :=
  key.line < cursor.line || key.octets + keyReach < cursor.octets

/-- Gives a pending key up if it can no longer be a key; a required one may not be given up. -/
def refresh (cursor : Cursor) (key : Option PendingKey) : Option (Option PendingKey) :=
  match key with
  | none => some none
  | some key =>
      if !isStale cursor key then some (some key)
      else if key.required then none
      else some none

def refreshKeys : Scanner Unit := do
  let layout ← get
  let pending ← liftM (refresh layout.cursor layout.pending)
  let outer ← liftM (layout.outer.mapM (refresh layout.cursor))
  set { layout with pending, outer }

def dropKey : Scanner Unit := do
  let layout ← get
  if layout.pending.any (·.required) then failure
  set { layout with pending := none }

def noteKey : Scanner Unit := do
  let layout ← get
  if layout.keyAllowed then
    dropKey
    let cursor := layout.cursor
    modify fun layout => { layout with
      pending := some {
        required := !layout.inFlow && layout.columns.head? = some cursor.column
        number := layout.tokens.length
        octets := cursor.octets
        line := cursor.line
        column := cursor.column } }

/-- Closes block collections for as long as their columns satisfy a condition. -/
def closeBlocks (isInside : Nat → Bool) : List Nat → TokenList → List Nat × TokenList
  | [], tokens => ([], tokens)
  | column :: rest, tokens =>
      if isInside column then closeBlocks isInside rest (tokens.push .blockEnd)
      else (column :: rest, tokens)

/-- Closes the block collections that the condition holds for, unless a flow collection is open. -/
def unroll (isInside : Nat → Bool) : Scanner Unit :=
  modify fun layout =>
    if layout.inFlow then layout
    else
      let (columns, tokens) := closeBlocks isInside layout.columns layout.tokens
      { layout with columns, tokens }

/-- Opens a block collection at a column if it lies further in, with a token in front of the one
with a number. -/
def roll (column number : Nat) (token : Token) : Scanner Unit :=
  modify fun layout =>
    if layout.inFlow || column < layout.parent then layout
    else { layout with
      columns := column :: layout.columns
      tokens := layout.tokens.insert number token }

def rollHere (token : Token) : Scanner Unit := do
  let layout ← get
  roll layout.cursor.column layout.tokens.length token

def mark (width : Nat) (token : Token) : Scanner Unit := do
  scan (Scan.skip width)
  emit token

def reset : Scanner Unit := do
  unroll fun _ => true
  dropKey
  allowKey false

def directive : Scanner Unit := do
  reset
  emit (.directive (← scan scanDirective))

def documentMark (token : Token) : Scanner Unit := do
  reset
  mark 3 token

def openFlow (token : Token) : Scanner Unit := do
  noteKey
  modify fun layout => { layout with
    pending := none
    outer := layout.pending :: layout.outer
    keyAllowed := true }
  mark 1 token

def closeFlow (token : Token) : Scanner Unit := do
  dropKey
  modify fun layout =>
    match layout.outer with
    | pending :: outer => { layout with pending, outer, keyAllowed := false }
    | [] => { layout with keyAllowed := false }
  mark 1 token

def flowEntry : Scanner Unit := do
  dropKey
  allowKey true
  mark 1 .flowEntry

/-- Outside flow collections, an entry or a key with a mark may stand only where a key may. -/
def requireKeyAllowed : Scanner Unit := do
  let layout ← get
  if !layout.inFlow ∧ !layout.keyAllowed then failure

def blockEntry : Scanner Unit := do
  requireKeyAllowed
  rollHere .blockSequenceStart
  dropKey
  allowKey true
  mark 1 .blockEntry

def explicitKey : Scanner Unit := do
  requireKeyAllowed
  rollHere .blockMappingStart
  dropKey
  allowKey (!(← get).inFlow)
  mark 1 .key

/-- Reads the colon in front of a value; the pending key becomes a key. -/
def value : Scanner Unit := do
  match (← get).pending with
  | some key =>
      modify fun layout => { layout with
        tokens := layout.tokens.insert key.number .key
        pending := none
        keyAllowed := false }
      roll key.column key.number .blockMappingStart
  | none =>
      requireKeyAllowed
      rollHere .blockMappingStart
      allowKey (!(← get).inFlow)
  mark 1 .value

def keyable (token : Scan Token) : Scanner Unit := do
  noteKey
  allowKey false
  emit (← scan token)

def plain : Scanner Unit := do
  noteKey
  let layout ← get
  let scalar ← scan (scanPlain { inFlow := layout.inFlow, column := layout.parent })
  allowKey scalar.onNewLine
  emit (.scalar .plain (String.ofList scalar.text))

def block (literal : Bool) : Scanner Unit := do
  dropKey
  allowKey true
  let text ← scan (scanBlock literal (← get).parent)
  emit (.scalar .marked (String.ofList text))

def quoted (quote : Char) : Scan Token := do
  return .scalar .marked (String.ofList (← scanQuoted quote))

/-- A character that cannot begin a plain scalar, unless what follows allows it. -/
def isIndicator (c : Char) : Bool :=
  "-?:,[]\x7b\x7d#&*!|>'\"%@`".toList.contains c

def beginsPlain (inFlow : Bool) (c : Char) (next : Option Char) : Bool :=
  (!isGap c && !isIndicator c) || (c = '-' && !next.any isBlank) ||
    (!inFlow && (c = '?' || c = ':') && !isWordEnd next)

def tokenFrom (c : Char) : Scanner Unit := do
  let layout ← get
  let cursor := layout.cursor
  let inFlow := layout.inFlow
  let next := cursor.ahead 1
  if c = '%' ∧ cursor.column = 0 then directive
  else if cursor.isAtMarks '-' then documentMark .documentStart
  else if cursor.isAtMarks '.' then documentMark .documentEnd
  else if c = '[' then openFlow .flowSequenceStart
  else if c = '\x7b' then openFlow .flowMappingStart
  else if c = ']' then closeFlow .flowSequenceEnd
  else if c = '\x7d' then closeFlow .flowMappingEnd
  else if c = ',' then flowEntry
  else if c = '-' ∧ isWordEnd next then blockEntry
  else if c = '?' ∧ (inFlow ∨ isWordEnd next) then explicitKey
  else if c = ':' ∧ (inFlow ∨ isWordEnd next) then value
  else if c = '*' then keyable do return .alias (← scanAnchor)
  else if c = '&' then keyable do return .anchor (← scanAnchor)
  else if c = '!' then keyable do return .tag (← scanTag inFlow)
  else if c = '|' ∧ !inFlow then block true
  else if c = '>' ∧ !inFlow then block false
  else if c = '\'' ∨ c = '"' then keyable (quoted c)
  else if beginsPlain inFlow c next then plain
  else failure

def tokens : Nat → Scanner Unit
  | 0 => failure
  | steps + 1 => do
      skipToToken ((← get).cursor.rest.length + 1)
      refreshKeys
      let column := (← get).cursor.column
      unroll fun open_ => column < open_
      match (← get).cursor.rest.head? with
      | some c =>
          tokenFrom c
          tokens steps
      | none => reset

end Scanner

def tokensOf? (text : String) : Option (List Token) := do
  let chars := text.toList
  if chars.all isAllowed then
    let ((), layout) ← Scanner.tokens (chars.length + 1) { cursor := { rest := chars } }
    some layout.tokens.toList
  else none

end Companion.Yaml
