import Companion.Yaml.Character

/-!
# Places in a YAML text

A cursor is the rest of a text together with how much of it has been passed: octets of its UTF-8
encoding in all, lines, and characters on the current line. Scanners move a cursor forward or fail.
-/

namespace Companion.Yaml

structure Cursor where
  rest : List Char
  /-- The octets passed. -/
  octets : Nat := 0
  line : Nat := 0
  column : Nat := 0
deriving Repr

abbrev Scan (α : Type) : Type :=
  StateT Cursor Option α

namespace Cursor

def ahead (cursor : Cursor) (distance : Nat) : Option Char :=
  cursor.rest[distance]?

def octetsAfter (cursor : Cursor) (count : Nat) : Nat :=
  cursor.octets + (String.ofList (cursor.rest.take count)).utf8ByteSize

/-- The cursor after so many characters that are no line ends. -/
def advance (cursor : Cursor) (count : Nat) : Cursor :=
  { cursor with
    rest := cursor.rest.drop count
    octets := cursor.octetsAfter count
    column := cursor.column + count }

/-- The cursor after the longest run of characters with a property, none of which ends a line. -/
def advanceWhile (cursor : Cursor) (p : Char → Bool) : Cursor :=
  cursor.advance (cursor.rest.takeWhile p).length

def advanceBreak (cursor : Cursor) : Cursor :=
  let next (width : Nat) : Cursor :=
    { rest := cursor.rest.drop width
      octets := cursor.octetsAfter width
      line := cursor.line + 1
      column := 0 }
  match cursor.rest with
  | '\r' :: '\n' :: _ => next 2
  | c :: _ => if isBreak c then next 1 else cursor
  | [] => cursor

/-- Three equal marks that stand alone at the start of a line. -/
def isAtMarks (cursor : Cursor) (mark : Char) : Bool :=
  cursor.column = 0 && cursor.rest.take 3 = [mark, mark, mark] && isWordEnd (cursor.ahead 3)

def isAtDocumentMark (cursor : Cursor) : Bool :=
  cursor.isAtMarks '-' || cursor.isAtMarks '.'

end Cursor

namespace Scan

def peek : Scan (Option Char) := do
  return (← get).rest.head?

def ahead (distance : Nat) : Scan (Option Char) := do
  return (← get).ahead distance

def skip (count : Nat) : Scan Unit :=
  modify fun cursor => cursor.advance count

def skipWhile (p : Char → Bool) : Scan Unit :=
  modify fun cursor => cursor.advanceWhile p

def readWhile (p : Char → Bool) : Scan (List Char) := do
  let run := (← get).rest.takeWhile p
  skip run.length
  pure run

def skipBreak : Scan Unit :=
  modify Cursor.advanceBreak

/-- Reads a line end, if one stands here. The usual ones are all read as a line feed. -/
def readBreak : Scan (List Char) := do
  let c ← peek
  skipBreak
  match c with
  | some c =>
      if c = '\u2028' ∨ c = '\u2029' then pure [c]
      else if isBreak c then pure ['\n']
      else pure []
  | none => pure []

def skipComment : Scan Unit := do
  if (← peek) = some '#' then skipWhile fun c => !isBreak c

/-- Passes over blanks, a comment and the end of the line; nothing else may stand there. -/
def skipLineRest : Scan Unit := do
  skipWhile isBlank
  skipComment
  if isLineEnd (← peek) then skipBreak else failure

def expect (c : Char) : Scan Unit := do
  if (← peek) = some c then skip 1 else failure

end Scan

end Companion.Yaml
