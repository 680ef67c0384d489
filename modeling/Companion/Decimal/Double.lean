/-!
# Binary floating-point numbers

A double is kept as its bit pattern, so that it can be compared and stored. The magnitude of a
finite one is a natural significand times a power of two.
-/

namespace Companion

structure Double where
  bits : UInt64
deriving DecidableEq, Repr, Inhabited

namespace Double

def ofFloat (value : Float) : Double :=
  ⟨value.toBits⟩

def isNegative (x : Double) : Bool :=
  x.bits >>> 63 = 1

/-- The number of different fractions: the weight of the hidden leading bit. -/
def hiddenBit : Nat :=
  0x10000000000000

def exponentBits (x : Double) : Nat :=
  x.bits.toNat / hiddenBit % 0x800

def fractionBits (x : Double) : Nat :=
  x.bits.toNat % hiddenBit

def significand (x : Double) : Nat :=
  if x.exponentBits = 0 then x.fractionBits else hiddenBit + x.fractionBits

def exponent (x : Double) : Int :=
  (max x.exponentBits 1 : Nat) - 1075

/-- Whether the next smaller number is only half as far away as the next larger one. -/
def isAtBinade (x : Double) : Bool :=
  x.fractionBits = 0 && 1 < x.exponentBits

end Double

end Companion
