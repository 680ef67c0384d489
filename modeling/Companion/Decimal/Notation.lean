import Companion.Decimal.Shortest

/-!
# Decimal notation

The text of a double: its shortest digits, written out where the leading digit stands between the
fifth place after the point and the sixteenth before it, and with a power of ten elsewhere.
-/

namespace Companion.Decimal

def digitChars (n : Nat) : List Char :=
  Nat.toDigits 10 n

/-- Digits with a point after the first `whole` of them; zeros fill what is missing. -/
def positional (digits : List Char) (whole : Int) : List Char :=
  if whole ≤ 0 then
    ['0', '.'] ++ List.replicate (-whole).toNat '0' ++ digits
  else
    let count := whole.toNat
    let head := digits.take count ++ List.replicate (count - digits.length) '0'
    let tail := digits.drop count
    head ++ ['.'] ++ (if tail = [] then ['0'] else tail)

/-- Digits with a point after the first of them, and the power of ten to multiply by. -/
def scientific (digits : List Char) (power : Int) : List Char :=
  let fraction := digits.drop 1
  digits.take 1 ++ (if fraction = [] then [] else '.' :: fraction) ++
    ['e', if power < 0 then '-' else '+'] ++ digitChars power.natAbs

def text (x : Double) : String :=
  let decimal := shortest x
  let digits := digitChars decimal.digits
  let power := (digits.length : Int) - 1 + decimal.scale
  let magnitude :=
    if -5 ≤ power ∧ power ≤ 15 then positional digits (power + 1) else scientific digits power
  String.ofList (if x.isNegative then '-' :: magnitude else magnitude)

end Companion.Decimal
