import Companion.Yaml.Cursor

/-!
# Block scalars

A block scalar is made of the lines that are indented below it. A literal one keeps its line ends, a
folded one joins lines that do not start with a blank. The line ends at the end of the scalar are
cut to one, all dropped, or all kept.
-/

namespace Companion.Yaml

/-- What becomes of the line ends at the end of a block scalar. -/
inductive Chomping where
  | drop
  | clip
  | keep
deriving DecidableEq, Repr

structure BlockHeader where
  chomping : Chomping := .clip
  /-- The indentation below the surroundings, if it is given. -/
  indentation : Option Nat := none

def scanChomping : Scan (Option Chomping) := do
  match ← Scan.peek with
  | some '+' =>
      Scan.skip 1
      pure (some .keep)
  | some '-' =>
      Scan.skip 1
      pure (some .drop)
  | _ => pure none

/-- Reads the digit for the indentation; zero is refused. -/
def scanIndentation : Scan (Option Nat) := do
  match ← Scan.peek with
  | some c =>
      if c = '0' then failure
      else if c.isDigit then
        Scan.skip 1
        pure (some (c.toNat - '0'.toNat))
      else pure none
  | none => pure none

/-- Reads the two indicators in either order and the rest of the line. -/
def scanBlockHeader : Scan BlockHeader := do
  let before ← scanChomping
  let indentation ← scanIndentation
  let chomping ←
    match before, indentation with
    | none, some _ => scanChomping
    | _, _ => pure before
  Scan.skipLineRest
  pure { chomping := chomping.getD .clip, indentation }

/-- The empty lines in front of a line with content. -/
structure BlockBreaks where
  lineEnds : List Char
  /-- The column that the widest line reached in blanks. -/
  widest : Nat

/--
Passes over indentation and reads the line ends of empty lines, in at most so many steps. Without a
known indentation all spaces belong to it. A tab cannot stand in the indentation.
-/
def scanBlockBreaks (indentation : Option Nat) (soFar : BlockBreaks) : Nat → Scan BlockBreaks
  | 0 => failure
  | steps + 1 => do
      let cursor ← get
      let spaces := (cursor.rest.takeWhile (· = ' ')).length
      let room :=
        match indentation with
        | some column => min spaces (column - cursor.column)
        | none => spaces
      Scan.skip room
      let cursor ← get
      let soFar := { soFar with widest := max soFar.widest cursor.column }
      let inIndentation : Bool :=
        match indentation with
        | some column => cursor.column < column
        | none => true
      if inIndentation ∧ cursor.rest.head? = some '\t' then failure
      if cursor.rest.head?.any isBreak then
        let lineEnd ← Scan.readBreak
        scanBlockBreaks indentation { soFar with lineEnds := soFar.lineEnds ++ lineEnd } steps
      else pure soFar

structure BlockContent where
  text : List Char := []
  /-- The line end of the last line. -/
  lineEnd : List Char := []
  /-- The line ends of the empty lines after it. -/
  further : List Char
  /-- Whether the last line starts with a blank. -/
  blankStart : Bool := false

def BlockContent.joint (content : BlockContent) (literal blankNext : Bool) : List Char :=
  if !literal ∧ content.lineEnd = ['\n'] ∧ !content.blankStart ∧ !blankNext then
    if content.further = [] then [' '] else content.further
  else content.lineEnd ++ content.further

def scanBlockLines (literal : Bool) (column : Nat) (content : BlockContent) :
    Nat → Scan BlockContent
  | 0 => failure
  | steps + 1 => do
      let cursor ← get
      if cursor.column = column ∧ cursor.rest ≠ [] then
        let blank := cursor.rest.head?.any isBlank
        let joint := content.joint literal blank
        let line ← Scan.readWhile fun c => !isBreak c
        let lineEnd ← Scan.readBreak
        let breaks ← scanBlockBreaks (some column) ⟨[], 0⟩ (cursor.rest.length + 1)
        scanBlockLines literal column
          { text := content.text ++ joint ++ line
            lineEnd
            further := breaks.lineEnds
            blankStart := blank } steps
      else pure content

/--
Reads a block scalar, from its mark on. `parent` is one more than the column of the surroundings.
-/
def scanBlock (literal : Bool) (parent : Nat) : Scan (List Char) := do
  Scan.skip 1
  let header ← scanBlockHeader
  let steps := (← get).rest.length + 1
  let known := header.indentation.map (· + (parent - 1))
  let breaks ← scanBlockBreaks known ⟨[], 0⟩ steps
  let column := known.getD (max breaks.widest (max parent 1))
  let content ← scanBlockLines literal column { further := breaks.lineEnds } steps
  pure <|
    match header.chomping with
    | .drop => content.text
    | .clip => content.text ++ content.lineEnd
    | .keep => content.text ++ content.lineEnd ++ content.further

end Companion.Yaml
