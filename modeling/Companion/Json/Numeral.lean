import Companion.Json.Reader
import Companion.Json.Value

/-!
# Numerals

A numeral is a number as it is written. Its value is an integer if it has neither fraction nor
exponent and fits 64 bits. Otherwise its digits are gathered into a 64-bit significand, the digits
that no longer fit only move the point, and the significand is scaled by one power of ten after
another in double precision.
-/

namespace Companion.Json

structure Exponent where
  negative : Bool
  digits : List Char
deriving DecidableEq, Repr

structure Numeral where
  negative : Bool
  whole : List Char
  fraction : Option (List Char)
  exponent : Option Exponent
deriving DecidableEq, Repr

def readDigits : Reader (List Char) := fun text =>
  let digits := text.takeWhile Char.isDigit
  if digits = [] then Reader.refuse text else .ok (digits, text.dropWhile Char.isDigit)

/-- Reads the digits before the point; a leading zero stands alone. -/
def readWhole : Reader (List Char) := do
  match ← readDigits with
  | '0' :: _ :: _ => throw .unexpected
  | digits => pure digits

def readFraction : Reader (Option (List Char)) := do
  match ← Reader.peek with
  | some '.' =>
      Reader.advance
      some <$> readDigits
  | _ => pure none

/-- Reads the sign of an exponent; true for a minus. -/
def readExponentSign : Reader Bool := do
  match ← Reader.peek with
  | some '+' =>
      Reader.advance
      pure false
  | some '-' =>
      Reader.advance
      pure true
  | _ => pure false

def readExponent : Reader (Option Exponent) := do
  let c ← Reader.peek
  if c = some 'e' ∨ c = some 'E' then
    Reader.advance
    let negative ← readExponentSign
    let digits ← readDigits
    pure (some { negative, digits })
  else pure none

def readSign : Reader Bool := do
  if (← Reader.peek) = some '-' then
    Reader.advance
    pure true
  else pure false

def readNumeral : Reader Numeral := do
  let negative ← readSign
  let whole ← readWhole
  let fraction ← readFraction
  let exponent ← readExponent
  pure { negative, whole, fraction, exponent }

namespace Numeral

def digitValue (c : Char) : Nat :=
  c.toNat - '0'.toNat

/-- Appends digits to a significand for as long as it fits 64 bits; gives the digits left over. -/
def gather (significand : Nat) : List Char → Nat × List Char
  | [] => (significand, [])
  | c :: rest =>
      let next := significand * 10 + digitValue c
      if next < 0x10000000000000000 then gather next rest else (significand, c :: rest)

def tenTo (power : Nat) : Float :=
  Float.ofScientific 1 false power

/-- Multiplies by a power of ten, one representable step at a time. -/
def scale (value : Float) (power : Int) : Option Float :=
  if power < -308 then
    if value == 0 then some value else scale (value / tenTo 308) (power + 308)
  else if power < 0 then
    some (value / tenTo power.natAbs)
  else if power ≤ 308 then
    let scaled := value * tenTo power.natAbs
    if scaled.isInf then none else some scaled
  else if value == 0 then some value else none
termination_by power.natAbs
decreasing_by omega

/-- The double with a significand, a power of ten and a sign, unless it is too large. -/
def double? (negative : Bool) (significand : Nat) (power : Int) : Option Number := do
  let magnitude ← scale significand.toUInt64.toFloat power
  pure (.double (.ofFloat (if negative then -magnitude else magnitude)))

def exponential? (negative : Bool) (significand : Nat) (power : Int) (e : Exponent) :
    Option Number :=
  let magnitude := e.digits.foldl (fun sum c => sum * 10 + digitValue c) 0
  if magnitude < 0x80000000 then
    double? negative significand (if e.negative then power - magnitude else power + magnitude)
  else if significand ≠ 0 ∧ !e.negative then none
  else some (.double (.ofFloat (if negative then -0.0 else 0.0)))

def integral? (negative : Bool) (significand : Nat) : Option Number :=
  if !negative then some (.integer significand)
  else if significand = 0 ∨ 0x8000000000000000 < significand then double? true significand 0
  else some (.integer (-(significand : Int)))

def value? (numeral : Numeral) : Option Number :=
  let (significand, left) := gather 0 numeral.whole
  let power : Int := left.length
  match numeral.fraction, numeral.exponent with
  | none, none =>
      if left = [] then integral? numeral.negative significand
      else double? numeral.negative significand power
  | fraction, exponent =>
      let places := fraction.getD []
      let (significand, unused) := gather significand places
      let power := power - (places.length - unused.length : Nat)
      match exponent with
      | none => double? numeral.negative significand power
      | some e => exponential? numeral.negative significand power e

end Numeral

/-- Reads a number; one that is too large does not belong in the text. -/
def readNumber : Reader Number := do
  match (← readNumeral).value? with
  | some number => pure number
  | none => throw .unexpected

end Companion.Json
