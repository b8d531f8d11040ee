import DocQuery.Bits
import DocQuery.Value.Basic

/-!
# Decimal numbers of thirty-four digits as text

Sixteen bytes hold a sign, an exponent of ten and a coefficient. The text is positional when the
exponent is not positive and the number is not small, and scientific otherwise.
-/

namespace DocQuery.Decimal128

/-- The number whose bytes are given, lowest first. -/
def magnitude : List UInt8 → Nat
  | [] => 0
  | b :: bs => b.toNat + 256 * magnitude bs

/-- The text of `coefficient * 10 ^ exponent`. -/
def finiteText (coefficient : Nat) (exponent : Int) : String :=
  let digits := Nat.toDigits 10 coefficient
  let adjusted := exponent + digits.length - 1
  String.ofList <|
    if exponent = 0 then digits
    else if exponent < 0 ∧ -6 ≤ adjusted then
      let places := (-exponent).toNat
      if digits.length ≤ places then
        '0' :: '.' :: (List.replicate (places - digits.length) '0' ++ digits)
      else digits.take (digits.length - places) ++ '.' :: digits.drop (digits.length - places)
    else
      let mantissa := if digits.length ≤ 1 then digits else digits.take 1 ++ '.' :: digits.drop 1
      let sign := if adjusted < 0 then '-' else '+'
      mantissa ++ 'E' :: sign :: Nat.toDigits 10 adjusted.natAbs

/-- The text of a decimal number. A coefficient of more than thirty-four digits counts as zero. -/
def text (d : Decimal128) : String :=
  let n := magnitude d.bytes
  let sign := if Bits.field n 127 1 = 1 then "-" else ""
  if Bits.field n 122 5 = 31 then "NaN"
  else if Bits.field n 122 5 = 30 then sign ++ "Infinity"
  else
    let wide := Bits.field n 125 2 = 3
    let exponent := if wide then Bits.field n 111 14 else Bits.field n 113 14
    let coefficient := if wide then Nat.pow 2 113 + Bits.field n 0 111 else Bits.field n 0 113
    let kept := if coefficient < Nat.pow 10 34 then coefficient else 0
    sign ++ finiteText kept ((exponent : Int) - 6176)

end DocQuery.Decimal128
