import Companion.Decimal.Double

/-!
# Shortest decimals

The shortest decimal of a double is the point nearest to it on the coarsest decimal grid that has
a point among the reals that round to the double. Two equally near points go to the even one.
-/

namespace Companion.Decimal

/-- The number `digits * 10 ^ scale`. -/
structure Scaled where
  digits : Nat
  scale : Int
deriving DecidableEq, Repr

/-- A positive real and the interval of the reals that round to it, as fractions of one
denominator. -/
structure Target where
  lower : Nat
  value : Nat
  upper : Nat
  denominator : Nat
  closed : Bool

/-- The interval of a double, measured in steps of the grid `10 ^ scale`. -/
def Target.ofDouble (x : Double) (scale : Int) : Target :=
  let quarter := Nat.pow 2 x.exponent.toNat * Nat.pow 10 (-scale).toNat
  { lower := (4 * x.significand - (if x.isAtBinade then 1 else 2)) * quarter
    value := 4 * x.significand * quarter
    upper := (4 * x.significand + 2) * quarter
    denominator := 4 * (Nat.pow 2 (-x.exponent).toNat * Nat.pow 10 scale.toNat)
    closed := x.significand % 2 = 0 }

def Target.holds (target : Target) (point : Nat) : Bool :=
  let scaled := point * target.denominator
  (target.lower < scaled && scaled < target.upper) ||
    (target.closed && (scaled = target.lower || scaled = target.upper))

/-- The point of the grid that lies in the interval and is nearest to the value, if there is one. -/
def Target.nearest? (target : Target) : Option Nat :=
  let below := target.value / target.denominator
  let above := below + 1
  match target.holds below, target.holds above with
  | false, false => none
  | true, false => some below
  | false, true => some above
  | true, true =>
      let down := target.value - below * target.denominator
      let up := above * target.denominator - target.value
      if down < up || (down = up && below % 2 = 0) then some below else some above

def searchGrids (x : Double) (scale : Int) : Nat → Scaled
  | 0 => ⟨0, 0⟩
  | grids + 1 =>
      match (Target.ofDouble x scale).nearest? with
      | some digits => ⟨digits, scale⟩
      | none => searchGrids x (scale - 1) grids

/-- The shortest decimal that rounds to the magnitude of a finite double. -/
def shortest (x : Double) : Scaled :=
  if x.significand = 0 then ⟨0, 0⟩ else searchGrids x 309 660

end Companion.Decimal
