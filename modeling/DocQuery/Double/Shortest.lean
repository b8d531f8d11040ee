import DocQuery.Double.Basic

/-!
# Shortest decimals

The decimal with the fewest digits that reads back as a given double. A double `m * 2 ^ q` is what
every real of its rounding interval reads as; the interval reaches half way to the neighbouring
doubles and holds its ends when `m` is even. For one, two, … seventeen digits the two neighbours of
the number on that decimal grid are tried, and the first grid with a hit wins; of two hits the
nearer is taken, the upper one when both are as near.

All arithmetic is on natural numbers: a real is a numerator over a common denominator.
-/

namespace DocQuery.Double

/-- The decimal `digits * 10 ^ exponent`. -/
structure Decimal where
  digits : Nat
  exponent : Int
  deriving DecidableEq

/-- The reals that read as `value / denominator`, as numerators over `denominator`. -/
structure Interval where
  low : Nat
  value : Nat
  high : Nat
  denominator : Nat
  closed : Bool
  deriving DecidableEq

/-- The rounding interval of `m * 2 ^ q`. Below the smallest significand of its exponent the
neighbouring double is only half as far. -/
def interval (m : Nat) (q : Int) : Interval :=
  let scale := Nat.pow 2 q.toNat
  { low := (4 * m - if m = Nat.pow 2 52 ∧ -1074 < q then 1 else 2) * scale
    value := 4 * m * scale
    high := (4 * m + 2) * scale
    denominator := 4 * Nat.pow 2 (-q).toNat
    closed := m % 2 = 0 }

/-- Whether `digits * 10 ^ exponent` lies in the interval. -/
def Interval.holds (i : Interval) (d : Decimal) : Bool :=
  let x := d.digits * Nat.pow 10 d.exponent.toNat * i.denominator
  let scale := Nat.pow 10 (-d.exponent).toNat
  if i.closed then i.low * scale ≤ x && x ≤ i.high * scale
  else i.low * scale < x && x < i.high * scale

/-- How often a fraction below one can be multiplied by ten and stay below a tenth. -/
def leadingZeros : (fuel num den : Nat) → Nat
  | 0, _, _ => 0
  | fuel + 1, num, den => if num * 10 < den then 1 + leadingZeros fuel (num * 10) den else 0

/-- The number of digits before the point, negative for zeros after it. -/
def magnitude (num den : Nat) : Int :=
  if den ≤ num then (Nat.toDigits 10 (num / den)).length
  else -(leadingZeros den.log2 num den : Int)

/-- The neighbours of the number on the grid of the multiples of `10 ^ exponent`, the one below
first. -/
def neighbours (i : Interval) (exponent : Int) : Decimal × Decimal :=
  let below :=
    i.value * Nat.pow 10 (-exponent).toNat / (i.denominator * Nat.pow 10 exponent.toNat)
  (⟨below, exponent⟩, ⟨below + 1, exponent⟩)

/-- Whether the grid point above the number is at least as near as the one below it. -/
def nearerAbove (i : Interval) (below : Decimal) : Bool :=
  let value := 2 * i.value * Nat.pow 10 (-below.exponent).toNat
  let middle := (2 * below.digits + 1) * Nat.pow 10 below.exponent.toNat * i.denominator
  middle ≤ value

/-- The grid point chosen, if one of the two reads back. -/
def choose (i : Interval) (exponent : Int) : Option Decimal :=
  let (below, above) := neighbours i exponent
  match i.holds below, i.holds above with
  | true, true => some (if nearerAbove i below then above else below)
  | true, false => some below
  | false, true => some above
  | false, false => none

/-- Drops the zeros at the end of the digits. -/
def Decimal.strip : (fuel : Nat) → Decimal → Decimal
  | 0, d => d
  | fuel + 1, d =>
    if d.digits % 10 = 0 ∧ d.digits ≠ 0 then strip fuel ⟨d.digits / 10, d.exponent + 1⟩ else d

/-- The shortest decimal that reads as `m * 2 ^ q`, without zeros at the end of its digits. -/
def shortest (m : Nat) (q : Int) : Decimal :=
  if m = 0 then ⟨0, 0⟩
  else
    let i := interval m q
    let size := magnitude i.value i.denominator
    let found := (List.range 17).findSome? (fun n : Nat => choose i (size - n - 1))
    (found.getD ⟨i.value / i.denominator, 0⟩).strip 17

end DocQuery.Double
