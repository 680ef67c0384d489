import Companion.Unicode.Numeric

/-!
# Identifiers

The character rule for type names: letters, numbers, the underscore and the dollar sign, not
starting with an ASCII digit. The empty text passes.
-/

namespace Companion

def isIdentifierChar (c : Char) : Bool :=
  Unicode.isAlphanumeric c || c = '_' || c = '$'

def isIdentifierOrEmpty (name : String) : Bool :=
  match name.toList with
  | [] => true
  | first :: rest => !first.isDigit && (first :: rest).all isIdentifierChar

end Companion
