import DocQuery.Double.Shortest

/-!
# Doubles as text

A double is written with the digits of its shortest decimal, always positionally: no exponent, and
no point for a whole number. The special numbers are `NaN`, `inf` and `-inf`.
-/

namespace DocQuery.Double

/-- The digits of a decimal with the point in place. -/
def Decimal.positional (d : Decimal) : String :=
  let digits := Nat.toDigits 10 d.digits
  let point := digits.length + d.exponent
  String.ofList <|
    if 0 ≤ d.exponent then digits ++ List.replicate d.exponent.toNat '0'
    else if 0 < point then digits.take point.toNat ++ '.' :: digits.drop point.toNat
    else '0' :: '.' :: (List.replicate (-point).toNat '0' ++ digits)

/-- The text of a double. -/
def text (x : Double) : String :=
  match x.classify with
  | .nan => "NaN"
  | .infinite negative => if negative then "-inf" else "inf"
  | .finite negative m q =>
    let digits := (shortest m q).positional
    if negative then "-" ++ digits else digits

/-- The text of a double, with `.0` at the end of a number that shows no point. -/
def pointedText (x : Double) : String :=
  let t := x.text
  match x.classify with
  | .finite _ _ _ => if t.toList.contains '.' then t else t ++ ".0"
  | _ => t

end DocQuery.Double
