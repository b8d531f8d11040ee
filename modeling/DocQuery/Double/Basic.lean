import DocQuery.Bits

/-!
# Doubles

A double-precision number is known by its sixty-four bits; `Double.classify` decodes them. A finite
one is a significand times a power of two, so its integer part (`Double.truncate`) is exact.
-/

namespace DocQuery

/-- A double-precision number, by its sixty-four bits. -/
structure Double where
  bits : UInt64
  deriving DecidableEq

namespace Double

/-- What the bits of a double stand for. -/
inductive Class
  | nan
  | infinite (negative : Bool)
  /-- The number `significand * 2 ^ exponent`, with its sign. -/
  | finite (negative : Bool) (significand : Nat) (exponent : Int)
  deriving DecidableEq

/-- Decodes the bits: one of sign, eleven of exponent, fifty-two of fraction. -/
def classify (x : Double) : Class :=
  let n := x.bits.toNat
  let negative := Bits.field n 63 1 == 1
  let exponent := Bits.field n 52 11
  let fraction := Bits.field n 0 52
  if exponent = 2047 then if fraction = 0 then .infinite negative else .nan
  else if exponent = 0 then .finite negative fraction (-1074)
  else .finite negative (Nat.pow 2 52 + fraction) ((exponent : Int) - 1075)

/-- Whether the number is a zero of either sign. -/
def isZero (x : Double) : Bool :=
  match x.classify with
  | .finite _ m _ => m == 0
  | _ => false

/-- The integer part of `m * 2 ^ q`. -/
def integerPart (m : Nat) (q : Int) : Nat :=
  if 0 ≤ q then m * Nat.pow 2 q.toNat else m / Nat.pow 2 (-q).toNat

/-- The nearest whole number of sixty-four bits on the side of zero; a number that is none counts
as zero. -/
def truncate (x : Double) : Int :=
  match x.classify with
  | .nan => 0
  | .infinite negative => if negative then Int64.minValue.toInt else Int64.maxValue.toInt
  | .finite negative m q =>
    if negative then max Int64.minValue.toInt (-(integerPart m q : Int))
    else min Int64.maxValue.toInt (integerPart m q : Int)

end Double

end DocQuery
