import Mathlib.Tactic.Linarith
import Mathlib.Tactic.Ring
import DocQuery.Double.Shortest

/-!
# Shortest decimals read back

The shortest decimal of a double lies in its rounding interval, so it reads back as the double.
Grids are tried from coarse to fine, the last one with seventeen digits. A grid that is finer than
the interval is wide has a point in it, and this one is: a double is at least `10 ^ 16` steps of it,
and less than `10 ^ 16` times as much as its interval is wide.

* `Interval.holds_strip`: zeros at the end of the digits may be dropped;
* `isSome_choose`: a grid that is finer than the interval is wide;
* `le_magnitude`: the number of digits before the point is not too large;
* `shortest_eq`: the shortest decimal is chosen on the first grid with a hit;
* `holds_shortest`: it lies in the interval.
-/

namespace DocQuery.Double

/-! ### Decimals in an interval -/

variable {i : Interval} {digits : Nat} {e : Int}

/-- A decimal as a multiple of the steps of its grid. -/
theorem mul_step (i : Interval) (digits : Nat) (e : Int) :
    digits * 10 ^ e.toNat * i.denominator = digits * (i.denominator * 10 ^ e.toNat) := by
  ring

/-- A decimal between the ends of an interval lies in it. -/
theorem Interval.holds_of_lt
    (hlow : i.low * 10 ^ (-e).toNat < digits * (i.denominator * 10 ^ e.toNat))
    (hhigh : digits * (i.denominator * 10 ^ e.toNat) < i.high * 10 ^ (-e).toNat) :
    i.holds ⟨digits, e⟩ = true := by
  simp only [Interval.holds, Nat.pow_eq, mul_step]
  split <;> simp only [Bool.and_eq_true, decide_eq_true_eq] <;> omega

/-- A decimal in an interval lies between its ends, or on one of them. -/
theorem Interval.le_of_holds (h : i.holds ⟨digits, e⟩ = true) :
    i.low * 10 ^ (-e).toNat ≤ digits * (i.denominator * 10 ^ e.toNat) ∧
      digits * (i.denominator * 10 ^ e.toNat) ≤ i.high * 10 ^ (-e).toNat := by
  simp only [Interval.holds, Nat.pow_eq, mul_step] at h
  split at h <;> simp only [Bool.and_eq_true, decide_eq_true_eq] at h <;> omega

/-- A zero at the end of the digits may be dropped. -/
theorem Interval.holds_ten : i.holds ⟨digits, e + 1⟩ = i.holds ⟨digits * 10, e⟩ := by
  -- both sides of all comparisons are multiplied by 10, or by 1
  obtain ⟨t, ht, hscale, hdigits⟩ : ∃ t, 0 < t ∧ 10 ^ (-e).toNat = 10 ^ (-(e + 1)).toNat * t ∧
      10 * 10 ^ e.toNat = 10 ^ (e + 1).toNat * t := by
    rcases le_or_gt 0 e with h | h
    · refine ⟨1, by decide, ?_, ?_⟩
      · rw [show (-e).toNat = 0 by omega, show (-(e + 1)).toNat = 0 by omega, mul_one]
      · rw [show (e + 1).toNat = e.toNat + 1 by omega, pow_succ', mul_one]
    · refine ⟨10, by decide, ?_, ?_⟩
      · rw [show (-e).toNat = (-(e + 1)).toNat + 1 by omega, pow_succ]
      · rw [show e.toNat = 0 by omega, show (e + 1).toNat = 0 by omega, mul_comm]
  have hx : digits * 10 * 10 ^ e.toNat * i.denominator
      = digits * 10 ^ (e + 1).toNat * i.denominator * t := by
    rw [mul_assoc digits, hdigits]
    ring
  simp only [Interval.holds, Nat.pow_eq, hx, hscale, ← mul_assoc, Nat.mul_le_mul_right_iff ht,
    Nat.mul_lt_mul_right ht]

/-- Zeros at the end of the digits may be dropped. -/
theorem Interval.holds_strip (i : Interval) (fuel : Nat) (d : Decimal) :
    i.holds (d.strip fuel) = i.holds d := by
  induction fuel generalizing d with
  | zero => rfl
  | succ fuel ih =>
    rw [Decimal.strip]
    split
    case isFalse => rfl
    case isTrue hzero =>
      have hdigits : d.digits / 10 * 10 = d.digits := by omega
      rw [ih, holds_ten, hdigits]

/-- A decimal that is chosen lies in the interval, on its grid. -/
theorem holds_of_choose {d : Decimal} (h : choose i e = some d) :
    i.holds d = true ∧ d.exponent = e := by
  rw [choose] at h
  dsimp only at h
  split at h
  case h_1 hbelow habove =>
    cases h
    split
    · exact ⟨habove, rfl⟩
    · exact ⟨hbelow, rfl⟩
  case h_2 hbelow habove => cases h; exact ⟨hbelow, rfl⟩
  case h_3 hbelow habove => cases h; exact ⟨habove, rfl⟩
  case h_4 => cases h

/-- A decimal is chosen if one of the neighbours lies in the interval. -/
theorem isSome_choose_of_holds
    (h : i.holds (neighbours i e).1 = true ∨ i.holds (neighbours i e).2 = true) :
    (choose i e).isSome = true := by
  rw [choose]
  dsimp only
  rcases h with h | h
  · rw [h]
    cases i.holds (neighbours i e).2 <;> rfl
  · rw [h]
    cases i.holds (neighbours i e).1 <;> rfl

/-- On a grid that is finer than the interval is wide a decimal is chosen. -/
theorem isSome_choose (hlow : i.low < i.value) (hhigh : i.value < i.high) (hden : 0 < i.denominator)
    (hfine : i.low * 10 ^ (-e).toNat + i.denominator * 10 ^ e.toNat < i.high * 10 ^ (-e).toNat) :
    (choose i e).isSome = true := by
  have hstep : 0 < i.denominator * 10 ^ e.toNat := by positivity
  have hscale : 0 < 10 ^ (-e).toNat := by positivity
  have hlow' := Nat.mul_lt_mul_of_pos_right hlow hscale
  have hhigh' := Nat.mul_lt_mul_of_pos_right hhigh hscale
  set below := i.value * 10 ^ (-e).toNat / (i.denominator * 10 ^ e.toNat) with hbelow
  have hle : below * (i.denominator * 10 ^ e.toNat) ≤ i.value * 10 ^ (-e).toNat :=
    Nat.div_mul_le_self _ _
  have hlt : i.value * 10 ^ (-e).toNat < (below + 1) * (i.denominator * 10 ^ e.toNat) :=
    Nat.lt_mul_of_div_lt (Nat.lt_succ_self below) hstep
  apply isSome_choose_of_holds
  change i.holds ⟨below, e⟩ = true ∨ i.holds ⟨below + 1, e⟩ = true
  -- if the neighbour below is not in the interval, the one above is less than a step behind its
  -- low end
  rcases lt_or_ge (i.low * 10 ^ (-e).toNat) (below * (i.denominator * 10 ^ e.toNat)) with h | h
  · exact .inl (Interval.holds_of_lt h (by omega))
  · right
    rw [Nat.succ_mul] at hlt
    apply Interval.holds_of_lt <;> rw [Nat.succ_mul] <;> omega

/-! ### Digits before the point -/

/-- Moved by the zeros that are counted and by one place more, a fraction reaches one. -/
theorem le_leadingZeros (fuel : Nat) {num den : Nat} (h : den ≤ num * 10 ^ (fuel + 1)) :
    den ≤ num * 10 ^ (leadingZeros fuel num den + 1) := by
  induction fuel generalizing num with
  | zero => exact h
  | succ fuel ih =>
    rw [leadingZeros]
    split
    case isTrue =>
      have hnum : den ≤ num * 10 * 10 ^ (fuel + 1) := by
        rw [mul_assoc, ← pow_succ']
        exact h
      calc den ≤ num * 10 * 10 ^ (leadingZeros fuel (num * 10) den + 1) := ih hnum
        _ = num * 10 ^ (1 + leadingZeros fuel (num * 10) den + 1) := by ring
    case isFalse hge =>
      rw [zero_add, pow_one]
      omega

/-- A number with so many digits is not less than the first one. -/
theorem pow_length_toDigits_le {n : Nat} (hn : 0 < n) :
    10 ^ ((Nat.toDigits 10 n).length - 1) ≤ n := by
  by_contra hlt
  have hone : 1 < (Nat.toDigits 10 n).length := by
    by_contra hle
    rw [show (Nat.toDigits 10 n).length - 1 = 0 by omega, pow_zero] at hlt
    omega
  have hshort := (Nat.length_toDigits_le_iff (by decide) (by omega)).2 (Nat.not_le.1 hlt)
  omega

/-- A fraction is not less than the least one with so many digits before the point. -/
theorem le_magnitude {num den : Nat} (hnum : 0 < num) (hden : 0 < den) :
    den * 10 ^ (magnitude num den - 1).toNat ≤ num * 10 ^ (1 - magnitude num den).toNat := by
  rw [magnitude]
  split
  case isTrue hle =>
    have hsize : 0 < (Nat.toDigits 10 (num / den)).length := Nat.length_toDigits_pos
    have hpow := pow_length_toDigits_le (Nat.div_pos hle hden)
    set size := (Nat.toDigits 10 (num / den)).length
    rw [show ((size : Int) - 1).toNat = size - 1 by omega,
      show (1 - (size : Int)).toNat = 0 by omega, pow_zero, mul_one, mul_comm]
    exact (Nat.le_div_iff_mul_le hden).1 hpow
  case isFalse hlt =>
    have hfuel : den ≤ num * 10 ^ (den.log2 + 1) := by
      calc den ≤ 2 ^ (den.log2 + 1) := Nat.lt_log2_self.le
        _ ≤ 10 ^ (den.log2 + 1) := Nat.pow_le_pow_left (by decide) _
        _ ≤ num * 10 ^ (den.log2 + 1) := Nat.le_mul_of_pos_left _ hnum
    have hzeros := le_leadingZeros _ hfuel
    set zeros := leadingZeros den.log2 num den
    rw [show (-(zeros : Int) - 1).toNat = 0 by omega,
      show (1 - -(zeros : Int)).toNat = zeros + 1 by omega, pow_zero, mul_one]
    exact hzeros

/-- A fraction is at least `10 ^ 16` steps of the grid of seventeen digits. -/
theorem le_finest {num den : Nat} (hnum : 0 < num) (hden : 0 < den)
    (he : e = magnitude num den - 17) :
    den * 10 ^ e.toNat * 10 ^ 16 ≤ num * 10 ^ (-e).toNat := by
  have h := le_magnitude hnum hden
  rw [show magnitude num den - 1 = e + 16 by omega,
    show 1 - magnitude num den = -(e + 16) by omega] at h
  -- the same after the powers of ten on both sides are cancelled
  refine Nat.le_of_mul_le_mul_right (c := 10 ^ (-(e + 16)).toNat) ?_ (by positivity)
  calc den * 10 ^ e.toNat * 10 ^ 16 * 10 ^ (-(e + 16)).toNat
      = den * 10 ^ (e.toNat + 16 + (-(e + 16)).toNat) := by ring
    _ = den * 10 ^ ((e + 16).toNat + (-e).toNat) := by congr 2; omega
    _ = den * 10 ^ (e + 16).toNat * 10 ^ (-e).toNat := by ring
    _ ≤ num * 10 ^ (-(e + 16)).toNat * 10 ^ (-e).toNat := Nat.mul_le_mul_right _ h
    _ = num * 10 ^ (-e).toNat * 10 ^ (-(e + 16)).toNat := by ring

/-! ### Shortest decimals -/

/-- The rounding interval of `m * 2 ^ q`. It reaches half a `2 ^ q` to both sides, but below only a
quarter if `m` is the least significand. -/
theorem interval_eq (m : Nat) (q : Int) :
    ∃ c closed, 0 < c ∧ c ≤ 2 ∧ (m ≠ 2 ^ 52 → c = 2) ∧
      interval m q = ⟨(4 * m - c) * 2 ^ q.toNat, 4 * m * 2 ^ q.toNat, (4 * m + 2) * 2 ^ q.toNat,
        4 * 2 ^ (-q).toNat, closed⟩ := by
  refine ⟨if m = Nat.pow 2 52 ∧ -1074 < q then 1 else 2, decide (m % 2 = 0), ?_, ?_, ?_, rfl⟩
  · split <;> omega
  · split <;> omega
  · intro hm
    rw [if_neg (fun h => hm h.1)]

/-- The first of some results is not later than one that is known. -/
theorem findSome?_range {α : Type} (f : Nat → Option α) {bound j : Nat} (hj : j < bound)
    (h : (f j).isSome = true) :
    ∃ j' ≤ j, ∃ a, f j' = some a ∧ (List.range bound).findSome? f = some a := by
  obtain ⟨rest, hbound⟩ := Nat.exists_eq_add_of_lt hj
  have hfirst : ((List.range (j + 1)).findSome? f).isSome = true :=
    List.findSome?_isSome_iff.2 ⟨j, List.self_mem_range_succ, h⟩
  obtain ⟨a, ha⟩ := Option.isSome_iff_exists.1 hfirst
  obtain ⟨j', hj', hf⟩ := List.exists_of_findSome?_eq_some ha
  refine ⟨j', Nat.lt_succ_iff.1 (List.mem_range.1 hj'), a, hf, ?_⟩
  rw [hbound, show j + rest + 1 = j + 1 + rest by omega, List.range_add, List.findSome?_append, ha,
    Option.some_or]

section

variable {m : Nat} {q : Int} (hm : 0 < m)

include hm

/-- The shortest decimal is chosen on a grid that is not finer than any on which one is chosen. -/
theorem shortest_eq {j : Nat} (hj : j < 17)
    (h : (choose (interval m q)
      (magnitude (interval m q).value (interval m q).denominator - j - 1)).isSome = true) :
    ∃ j' ≤ j, ∃ d, choose (interval m q)
        (magnitude (interval m q).value (interval m q).denominator - j' - 1) = some d ∧
      shortest m q = d.strip 17 := by
  obtain ⟨j', hj', d, hd, hfound⟩ := findSome?_range (fun n : Nat => choose (interval m q)
    (magnitude (interval m q).value (interval m q).denominator - n - 1)) hj h
  refine ⟨j', hj', d, hd, ?_⟩
  rw [shortest, if_neg hm.ne']
  dsimp only
  rw [hfound, Option.getD_some]

/-- On the grid of seventeen digits a decimal is chosen. -/
theorem isSome_choose_finest (hlt : m < 2 ^ 53) :
    (choose (interval m q)
      (magnitude (interval m q).value (interval m q).denominator - (16 : Nat) - 1)).isSome
        = true := by
  obtain ⟨c, closed, hc, hc2, hleast, hi⟩ := interval_eq m q
  rw [hi]
  dsimp only
  set r := 2 ^ q.toNat with hr
  set e := magnitude (4 * m * r) (4 * 2 ^ (-q).toNat) - (16 : Nat) - 1 with he
  have hrpos : 0 < r := by positivity
  have hfinest : 4 * 2 ^ (-q).toNat * 10 ^ e.toNat * 10 ^ 16 ≤ 4 * m * r * 10 ^ (-e).toNat :=
    le_finest (by positivity) (by positivity) (by omega)
  -- the double is less than `10 ^ 16` times as much as the interval is wide
  have hwide : 4 * m < (2 + c) * 10 ^ 16 := by
    by_cases hm : m = 2 ^ 52
    · rw [hm]
      omega
    · rw [hleast hm]
      omega
  have hstep : 4 * 2 ^ (-q).toNat * 10 ^ e.toNat < (2 + c) * (r * 10 ^ (-e).toNat) := by
    have hscale : 0 < r * 10 ^ (-e).toNat := by positivity
    refine Nat.lt_of_mul_lt_mul_right (a := 10 ^ 16) ?_
    calc 4 * 2 ^ (-q).toNat * 10 ^ e.toNat * 10 ^ 16
        ≤ 4 * m * r * 10 ^ (-e).toNat := hfinest
      _ = 4 * m * (r * 10 ^ (-e).toNat) := by ring
      _ < (2 + c) * 10 ^ 16 * (r * 10 ^ (-e).toNat) := Nat.mul_lt_mul_of_pos_right hwide hscale
      _ = (2 + c) * (r * 10 ^ (-e).toNat) * 10 ^ 16 := by ring
  refine isSome_choose ?_ ?_ ?_ ?_
  · exact Nat.mul_lt_mul_of_pos_right (by omega) hrpos
  · exact Nat.mul_lt_mul_of_pos_right (by omega) hrpos
  · positivity
  · have hhigh : (4 * m + 2) * r * 10 ^ (-e).toNat
        = (4 * m - c) * r * 10 ^ (-e).toNat + (2 + c) * (r * 10 ^ (-e).toNat) := by
      rw [show 4 * m + 2 = 4 * m - c + (2 + c) by omega]
      ring
    rw [hhigh]
    dsimp only
    omega

/-- **The shortest decimal of a double reads back as the double.** -/
theorem holds_shortest (hlt : m < 2 ^ 53) : (interval m q).holds (shortest m q) = true := by
  obtain ⟨j, -, d, hd, hshortest⟩ :=
    shortest_eq hm (by decide) (isSome_choose_finest (q := q) hm hlt)
  rw [hshortest, Interval.holds_strip]
  exact (holds_of_choose hd).1

end

end DocQuery.Double
