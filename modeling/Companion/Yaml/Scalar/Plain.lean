import Companion.Yaml.Scalar.Gap

/-!
# Plain scalars

A plain scalar is written without quotes. It ends before a comment, before a colon that ends a word,
at a document mark, where the indentation falls back, and in flow collections also at commas and
brackets.
-/

namespace Companion.Yaml

structure Surroundings where
  /-- Inside a flow collection. -/
  inFlow : Bool
  /-- The column that the lines of the scalar have to reach. -/
  column : Nat

def isFlowMark (c : Char) : Bool :=
  c = ',' || c = '[' || c = ']' || c = '\x7b' || c = '\x7d'

def plainWord (inFlow : Bool) : List Char → Option (List Char)
  | [] => some []
  | c :: rest =>
      let next := rest.head?
      if isGap c then some []
      else if inFlow ∧ c = ':' ∧ next.any (fun d => isFlowMark d || d = '?') then none
      else if (c = ':' ∧ isWordEnd next) ∨ (inFlow ∧ isFlowMark c) then some []
      else (plainWord inFlow rest).map (c :: ·)

/-- A plain scalar, and whether the scanner stopped at the start of a line. -/
structure Plain where
  text : List Char
  onNewLine : Bool

def scanPlainFrom (around : Surroundings) (text : List Char) (gap : Gap) : Nat → Scan Plain
  | 0 => failure
  | steps + 1 => do
      let cursor ← get
      if cursor.isAtDocumentMark ∨ cursor.rest.head? = some '#' then
        pure ⟨text, gap.broken⟩
      else
        let word ← liftM (plainWord around.inFlow cursor.rest)
        Scan.skip word.length
        if word = [] then pure ⟨text, gap.broken⟩
        else
          let text := text ++ gap.text ++ word
          let gap ← Gap.read around.column {} cursor.rest.length
          if gap.blanks = [] ∧ !gap.broken then pure ⟨text, false⟩
          else if !around.inFlow ∧ (← get).column < around.column then pure ⟨text, gap.broken⟩
          else scanPlainFrom around text gap steps

def scanPlain (around : Surroundings) : Scan Plain := do
  scanPlainFrom around [] {} ((← get).rest.length + 1)

end Companion.Yaml
