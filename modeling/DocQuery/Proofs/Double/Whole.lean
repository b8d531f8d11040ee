import DocQuery.Proofs.Double.Shortest
import DocQuery.Double.Text

/-!
# Whole doubles as text

A double below `2 ^ 53` is so close to its neighbours that no whole number but the double itself, if
it is whole, lies in its rounding interval. So the shortest decimal of a whole double is that
number, and its text is the text of the number; and the shortest decimal of a fraction has places,
and its text a point. Above, the shortest decimal of a double may be another whole number.

* `Decimal.Is`: decimals that are a whole number, without places;
* `value_of_holds`: a decimal without places in the interval of a double is the double;
* `is_shortest`: the shortest decimal of a whole double is the double;
* `exponent_shortest_neg`: that of a fraction has places;
* `text_eq_truncate_iff`: a text is that of the integer part exactly for whole doubles.
-/

namespace DocQuery.Double

/-! ### Decimals without places -/

/-- A decimal without places that is the number `n`. -/
def Decimal.Is (d : Decimal) (n : Nat) : Prop :=
  0 ≤ d.exponent ∧ d.digits * 10 ^ d.exponent.toNat = n

/-- Dropping zeros at the end gives no places. -/
theorem le_exponent_strip (fuel : Nat) (d : Decimal) : d.exponent ≤ (d.strip fuel).exponent := by
  induction fuel generalizing d with
  | zero => exact le_rfl
  | succ fuel ih =>
    rw [Decimal.strip]
    split
    case isFalse => exact le_rfl
    case isTrue => exact (Int.le_add_one le_rfl).trans (ih _)

/-- Zeros at the end multiply a number by ten. -/
theorem toDigits_append_zeros {n : Nat} (hn : 0 < n) (e : Nat) :
    Nat.toDigits 10 n ++ List.replicate e '0' = Nat.toDigits 10 (n * 10 ^ e) := by
  induction e with
  | zero => simp
  | succ e ih =>
    have hpos : 0 < n * 10 ^ e := by positivity
    have hzero : Nat.toDigits 10 0 = ['0'] := rfl
    rw [List.replicate_succ', ← List.append_assoc, ih, ← hzero,
      Nat.toDigits_append_toDigits (by decide) hpos (by decide)]
    congr 1
    ring

/-- A decimal without places is written as the number that it is. -/
theorem Decimal.Is.positional {d : Decimal} {n : Nat} (h : d.Is n) (hn : 0 < n) :
    d.positional = n.repr := by
  obtain ⟨hexponent, hvalue⟩ := h
  have hdigits : 0 < d.digits := Nat.pos_of_mul_pos_right (hvalue ▸ hn)
  rw [Decimal.positional, if_pos hexponent, toDigits_append_zeros hdigits, hvalue,
    Nat.repr_eq_ofList_toDigits]

/-- A decimal with places is written with a point. -/
theorem point_mem_positional {d : Decimal} (h : d.exponent < 0) : '.' ∈ d.positional.toList := by
  rw [Decimal.positional, if_neg (by omega), String.toList_ofList]
  split <;> simp

/-! ### Decimals in the interval of a double -/

/-- The rounding interval of `m * 2 ^ -k`, in quarters of `2 ^ -k`. -/
theorem interval_neg (m k : Nat) :
    ∃ c closed, 0 < c ∧ c ≤ 2 ∧
      interval m (-k) = ⟨4 * m - c, 4 * m, 4 * m + 2, 4 * 2 ^ k, closed⟩ := by
  obtain ⟨c, closed, hc, hc2, -, hi⟩ := interval_eq m (-k)
  have hup : (-(k : Int)).toNat = 0 := by omega
  have hdown : (-(-(k : Int))).toNat = k := by omega
  refine ⟨c, closed, hc, hc2, ?_⟩
  rw [hi, hup, hdown, pow_zero, mul_one, mul_one, mul_one]

section

variable {m n k : Nat}

/-- A decimal without places in the interval of a double is the double. -/
theorem value_of_holds {d : Decimal} (he : 0 ≤ d.exponent)
    (h : (interval m (-k)).holds d = true) : d.digits * 10 ^ d.exponent.toNat * 2 ^ k = m := by
  obtain ⟨c, closed, -, hc, hi⟩ := interval_neg m k
  have hbounds := Interval.le_of_holds h
  have hquarters : d.digits * (4 * 2 ^ k * 10 ^ d.exponent.toNat)
      = 4 * (d.digits * 10 ^ d.exponent.toNat * 2 ^ k) := by ring
  rw [hi] at hbounds
  dsimp only at hbounds
  rw [show (-d.exponent).toNat = 0 by omega, pow_zero, hquarters] at hbounds
  -- whole numbers are four quarters of a unit apart, and the interval reaches two far
  omega

/-- A whole double lies in its interval. -/
theorem holds_of_whole (hn : 0 < n) : (interval (n * 2 ^ k) (-k)).holds ⟨n, 0⟩ = true := by
  obtain ⟨c, closed, hc, -, hi⟩ := interval_neg (n * 2 ^ k) k
  have hpos : 0 < n * 2 ^ k := by positivity
  have hquarters : n * (4 * 2 ^ k) = 4 * (n * 2 ^ k) := by ring
  rw [hi]
  apply Interval.holds_of_lt <;> dsimp only <;>
    rw [Int.neg_zero, Int.toNat_zero, pow_zero, mul_one, mul_one, hquarters] <;> omega

/-- On the grid of the whole numbers a decimal is chosen. -/
theorem isSome_choose_of_whole (hn : 0 < n) :
    (choose (interval (n * 2 ^ k) (-k)) 0).isSome = true := by
  have hbelow : (neighbours (interval (n * 2 ^ k) (-k)) 0).1 = ⟨n, 0⟩ := by
    obtain ⟨c, closed, -, -, hi⟩ := interval_neg (n * 2 ^ k) k
    have hpos : 0 < 4 * 2 ^ k := by positivity
    have hquarters : 4 * (n * 2 ^ k) = n * (4 * 2 ^ k) := by ring
    rw [hi]
    simp only [neighbours, Int.toNat_zero, Int.neg_zero, Nat.pow_eq, Nat.pow_zero, Nat.mul_one,
      hquarters, Nat.mul_div_cancel _ hpos]
  apply isSome_choose_of_holds
  rw [hbelow]
  exact .inl (holds_of_whole hn)

/-- A whole double has as many digits before the point as the number. -/
theorem magnitude_of_whole (hn : 0 < n) :
    magnitude (interval (n * 2 ^ k) (-k)).value (interval (n * 2 ^ k) (-k)).denominator
      = (Nat.toDigits 10 n).length := by
  obtain ⟨c, closed, -, -, hi⟩ := interval_neg (n * 2 ^ k) k
  have hpos : 0 < 4 * 2 ^ k := by positivity
  have hquarters : 4 * (n * 2 ^ k) = n * (4 * 2 ^ k) := by ring
  rw [hi]
  dsimp only
  rw [hquarters, magnitude, if_pos (Nat.le_mul_of_pos_left _ hn), Nat.mul_div_cancel _ hpos]

/-! ### Shortest decimals -/

theorem shortest_zero (q : Int) : shortest 0 q = ⟨0, 0⟩ := if_pos rfl

/-- The shortest decimal of a whole double is the double. -/
theorem is_shortest (hn : 0 < n) (hlt : n < 2 ^ 53) : (shortest (n * 2 ^ k) (-k)).Is n := by
  have hmagnitude := magnitude_of_whole (n := n) (k := k) hn
  have hpos : 0 < (Nat.toDigits 10 n).length := Nat.length_toDigits_pos
  have hle : (Nat.toDigits 10 n).length ≤ 16 := by
    rw [Nat.length_toDigits_le_iff (by decide) (by decide)]
    omega
  set size := (Nat.toDigits 10 n).length
  have hsome : (choose (interval (n * 2 ^ k) (-k)) (size - (size - 1 : Nat) - 1)).isSome
      = true := by
    rw [show (size : Int) - (size - 1 : Nat) - 1 = 0 by omega]
    exact isSome_choose_of_whole hn
  rw [← hmagnitude] at hsome
  -- a grid that is not finer than that of the whole numbers has no places
  obtain ⟨j, hj, d, hd, hshortest⟩ := shortest_eq (by positivity) (by omega) hsome
  rw [hmagnitude] at hd
  obtain ⟨hholds, hexponent⟩ := holds_of_choose hd
  have hplaces : 0 ≤ (d.strip 17).exponent := by
    have hstrip := le_exponent_strip 17 d
    omega
  rw [← Interval.holds_strip _ 17] at hholds
  rw [hshortest]
  exact ⟨hplaces, Nat.eq_of_mul_eq_mul_right (by positivity) (value_of_holds hplaces hholds)⟩

/-- The shortest decimal of a fraction has places. -/
theorem exponent_shortest_neg (hm : 0 < m) (hlt : m < 2 ^ 53) (hfraction : ¬ 2 ^ k ∣ m) :
    (shortest m (-k)).exponent < 0 := by
  by_contra hge
  have hvalue := value_of_holds (Int.not_lt.1 hge) (holds_shortest hm hlt)
  exact hfraction (Dvd.intro_left _ hvalue)

end

/-! ### Texts -/

/-- A whole number below `2 ^ 53`, but not the zero below zero. -/
def IsWhole (x : Double) : Prop :=
  ∃ (negative : Bool) (n k : Nat), x.classify = .finite negative (n * 2 ^ k) (-k) ∧ n < 2 ^ 53
    ∧ (n = 0 → negative = false)

/-- A significand has fifty-three bits. -/
theorem lt_of_classify {x : Double} {negative : Bool} {m : Nat} {q : Int}
    (hx : x.classify = .finite negative m q) : m < 2 ^ 53 := by
  have hfraction : Bits.field x.bits.toNat 0 52 < 2 ^ 52 := Bits.field_lt _ _ _
  simp only [classify, Nat.pow_eq] at hx
  split at hx
  · split at hx <;> cases hx
  · split at hx <;> cases hx <;> omega

theorem integerPart_of_whole (n k : Nat) : integerPart (n * 2 ^ k) (-k) = n := by
  rw [integerPart]
  split
  case isTrue h =>
    have hk : k = 0 := by omega
    simp [hk]
  case isFalse =>
    rw [Int.neg_neg, Int.toNat_natCast, Nat.pow_eq, Nat.mul_div_cancel _ (by positivity)]

theorem truncate_of_whole {x : Double} {negative : Bool} {n k : Nat}
    (hx : x.classify = .finite negative (n * 2 ^ k) (-k)) (hlt : n < 2 ^ 53) :
    x.truncate = if negative then -(n : Int) else n := by
  have hmin : Int64.minValue.toInt = -9223372036854775808 := by decide
  have hmax : Int64.maxValue.toInt = 9223372036854775807 := by decide
  rw [truncate, hx]
  dsimp only
  rw [integerPart_of_whole]
  cases negative <;> simp only [if_true, Bool.false_eq_true, if_false] <;> omega

/-- The text of a whole double is that of its integer part. -/
theorem text_of_whole {x : Double} (h : x.IsWhole) : x.text = toString x.truncate := by
  obtain ⟨negative, n, k, hx, hlt, hzero⟩ := h
  rw [truncate_of_whole hx hlt, text, hx]
  dsimp only
  have hdigits : (shortest (n * 2 ^ k) (-k)).positional = n.repr := by
    rcases Nat.eq_zero_or_pos n with rfl | hn
    · rw [Nat.zero_mul, shortest_zero]
      rfl
    · exact (is_shortest hn hlt).positional hn
  rw [hdigits, Int.toString_eq_repr, Int.repr_eq_if]
  cases negative with
  | false => simp
  | true =>
    have hn : n ≠ 0 := fun h => by cases hzero h
    simp [hn]

theorem point_notMem_int (n : Int) : '.' ∉ (toString n).toList := by
  have hdigits : ∀ n : Nat, '.' ∉ Nat.toDigits 10 n := by
    intro n h
    have hdigit := Nat.isDigit_of_mem_toDigits (by decide) (by decide) h
    exact absurd hdigit (by decide)
  rw [Int.toString_eq_repr, Int.repr_eq_if]
  split <;> simp [Nat.repr_eq_ofList_toDigits, hdigits]

/-- The text of a fraction has a point. -/
theorem point_mem_text {x : Double} {negative : Bool} {m k : Nat}
    (hx : x.classify = .finite negative m (-k)) (hfraction : ¬ 2 ^ k ∣ m) :
    '.' ∈ x.text.toList := by
  have hm : 0 < m := Nat.pos_of_ne_zero (fun h => hfraction (h ▸ Nat.dvd_zero _))
  have hpoint := point_mem_positional (exponent_shortest_neg hm (lt_of_classify hx) hfraction)
  rw [text, hx]
  dsimp only
  split <;> simp [hpoint]

/-- A zero below zero has a sign in its text. -/
theorem text_ne_of_negative_zero {x : Double} {k : Nat}
    (hx : x.classify = .finite true (0 * 2 ^ k) (-k)) : x.text ≠ toString x.truncate := by
  rw [truncate_of_whole hx (by decide), text, hx]
  dsimp only
  rw [Nat.zero_mul, shortest_zero]
  decide

/-- A double without a positive exponent has the text of its integer part only if it is whole. -/
theorem isWhole_of_text {x : Double} {negative : Bool} {m k : Nat}
    (hx : x.classify = .finite negative m (-k)) (htext : x.text = toString x.truncate) :
    x.IsWhole := by
  have hdvd : 2 ^ k ∣ m := by
    by_contra hfraction
    have hpoint := point_mem_text hx hfraction
    rw [htext] at hpoint
    exact point_notMem_int _ hpoint
  obtain ⟨n, rfl⟩ := exists_eq_mul_left_of_dvd hdvd
  have hlt : n < 2 ^ 53 :=
    lt_of_le_of_lt (Nat.le_mul_of_pos_right n (by positivity)) (lt_of_classify hx)
  refine ⟨negative, n, k, hx, hlt, ?_⟩
  rintro rfl
  cases negative with
  | false => rfl
  | true => exact absurd htext (text_ne_of_negative_zero hx)

/-- **Which doubles have the text of their integer part.** Apart from the numbers of `2 ^ 53` and
more, which are those with a positive exponent, these are the whole ones. -/
theorem text_eq_truncate_iff {x : Double}
    (hsmall : ∀ negative m q, x.classify = .finite negative m q → q ≤ 0) :
    x.text = toString x.truncate ↔ x.IsWhole := by
  refine ⟨fun htext => ?_, text_of_whole⟩
  cases hx : x.classify with
  | nan =>
    rw [text, truncate, hx] at htext
    exact absurd htext (by decide)
  | infinite negative =>
    rw [text, truncate, hx] at htext
    cases negative <;> exact absurd htext (by decide)
  | finite negative m q =>
    obtain ⟨k, rfl⟩ := Int.exists_eq_neg_ofNat (hsmall negative m q hx)
    exact isWhole_of_text hx htext

end DocQuery.Double
