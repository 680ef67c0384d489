import Companion.Text.Line

/-!
# Documentation comments

A description becomes a comment block with one row for each of its lines. The end mark of a
comment inside a line is written with an escaped slash, so that the block ends where it should.
-/

namespace Companion.EntityClass

/-- A row of a source text: its level of indentation and what it says. -/
structure Row where
  level : Nat
  text : List Char
deriving DecidableEq, Repr

namespace Row

def blank : Row :=
  ⟨0, []⟩

def layout (indentSize : Nat) (row : Row) : List Char :=
  List.replicate (row.level * indentSize) ' ' ++ row.text ++ ['\n']

end Row

/-- The text with every end mark of a comment made harmless. -/
def escapeEndMarks : List Char → List Char
  | '*' :: '/' :: rest => "*&#47;".toList ++ escapeEndMarks rest
  | c :: rest => c :: escapeEndMarks rest
  | [] => []

def documentationRow (level : Nat) (line : List Char) : Row :=
  if line = [] then ⟨level, " *".toList⟩ else ⟨level, " * ".toList ++ escapeEndMarks line⟩

def documentation (level : Nat) (description : String) : List Row :=
  ⟨level, "/**".toList⟩ ::
    (Text.lines description.toList).map (documentationRow level) ++ [⟨level, " */".toList⟩]

end Companion.EntityClass
