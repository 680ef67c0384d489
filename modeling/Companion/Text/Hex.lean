/-!
# Hexadecimal digits

Numbers by their hexadecimal digits, as escapes give the code points of characters.
-/

namespace Companion.Text

def hexValue? (c : Char) : Option Nat :=
  if c.isDigit then some (c.toNat - '0'.toNat)
  else if 'a' ≤ c ∧ c ≤ 'f' then some (c.toNat - 'a'.toNat + 10)
  else if 'A' ≤ c ∧ c ≤ 'F' then some (c.toNat - 'A'.toNat + 10)
  else none

/-- The number that digits stand for in a base, the first digit being the highest. -/
def valueOf (base : Nat) (digits : List Nat) : Nat :=
  digits.foldl (fun sum digit => sum * base + digit) 0

def hexNumber? (digits : List Char) : Option Nat :=
  (digits.mapM hexValue?).map (valueOf 16)

def hexChar? (digits : List Char) : Option Char := do
  let code ← hexNumber? digits
  if code.isValidChar then some (Char.ofNat code) else none

end Companion.Text
