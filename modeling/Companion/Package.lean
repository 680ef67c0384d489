import Companion.Text.Segment

/-!
# Packages

The package of a qualified name is what stands before its last dot. A name without a dot lives in
the default package, whose name is empty.
-/

namespace Companion

/-- The package whose types are visible everywhere without an import. -/
def implicitPackage : String :=
  "java.lang"

def packagePart (qualifiedName : String) : String :=
  match Text.splitLast? '.' qualifiedName.toList with
  | some (before, _) => String.ofList before
  | none => ""

def qualify (package unit : String) : String :=
  if package = "" then unit else package ++ "." ++ unit

end Companion
