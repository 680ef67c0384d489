import Companion.Yaml.Cursor

/-!
# Gaps between the words of a scalar

Inside a scalar that is not a block, blanks between words on one line are kept. Between words on
different lines a single line end becomes a space, and of several the first one is dropped; blanks
around them are dropped as well.
-/

namespace Companion.Yaml

structure Gap where
  blanks : List Char := []
  /-- Whether the words are on different lines. -/
  broken : Bool := false
  /-- The first line end. -/
  first : List Char := []
  /-- The line ends after it. -/
  further : List Char := []
deriving Repr

namespace Gap

def text (gap : Gap) : List Char :=
  if !gap.broken then gap.blanks
  else if gap.first = ['\n'] then
    if gap.further = [] then [' '] else gap.further
  else gap.first ++ gap.further

/--
Reads on in a gap, in at most so many steps. A tab is no indentation: on a line that continues a
scalar it may not stand to the left of the given column.
-/
def read (column : Nat) (gap : Gap) : Nat → Scan Gap
  | 0 => pure gap
  | steps + 1 => do
      match ← Scan.peek with
      | none => pure gap
      | some c =>
          if isBlank c then
            if gap.broken then
              if c = '\t' ∧ (← get).column < column then failure
              Scan.skip 1
              read column gap steps
            else
              Scan.skip 1
              read column { gap with blanks := gap.blanks ++ [c] } steps
          else if isBreak c then
            let lineEnd ← Scan.readBreak
            if gap.broken then read column { gap with further := gap.further ++ lineEnd } steps
            else read column { gap with broken := true, first := lineEnd } steps
          else pure gap

end Gap

end Companion.Yaml
