/-!
# Settings

What the user can choose about the text of a companion.
-/

namespace Companion

structure Settings where
  /-- Write descriptions as documentation comments. -/
  includeDocs : Bool := true
  /-- Write a getter and a setter for each property. -/
  generateAccessors : Bool := true
  /-- Spaces for each level of indentation. -/
  indentSize : Nat := 4
  /-- A comment line at the very top. -/
  header : Option String := none
deriving DecidableEq, Repr

end Companion
