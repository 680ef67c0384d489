import Companion.Unicode.CaseMapping

/-!
# Capital letters at the start of a name

Case conversion touches the first character only and may replace it by several.
-/

namespace Companion.Text

def mapFirst (f : Char → List Char) (name : String) : String :=
  match name.toList with
  | [] => ""
  | first :: rest => String.ofList (f first ++ rest)

/-- The name with its first character in upper case, as accessors spell it. -/
def capitalized (name : String) : String :=
  mapFirst Unicode.uppercase name

/-- The name with its first character in lower case, as fields spell it. -/
def uncapitalized (name : String) : String :=
  mapFirst Unicode.lowercase name

end Companion.Text
