import DocQuery.TypeCode
import Mathlib.Data.List.Forall2
import Mathlib.Data.Nat.Digits.Defs

/-!
# Reading the numbers of types

A type is given by a number or by a name. A number is written in decimal digits with a sign or
without, may have white space around it, and has to be one of thirty-two bits. A name is one of
`TypeCode.IsName`, in any case of its ASCII letters, with nothing around it. No text is both:
numbers are written without letters. So it does not matter in which case letters are written.

* `Text.upperCase_eq_upperCase_iff`: upper case forgets the case of letters and nothing else;
* `Text.trim_append`, `Text.exists_eq_append_trim`: white space around a text;
* `TypeCode.integer?_eq_some_iff`, `TypeCode.number?_trim_eq_some_iff`: how numbers are written;
* `TypeCode.mem_table_iff`: the table of names;
* `TypeCode.resolve_reads_numbers_and_names`: what is read, and what is refused.
-/

namespace DocQuery

/-! ### Letter case -/

namespace Text

/-- Two characters are the same, or one is an ASCII letter in lower case and the other is the same
letter in upper case, thirty-two places before it. -/
def SameLetter (a b : Char) : Prop :=
  a = b ∨ a.isLower = true ∧ b.toNat + 32 = a.toNat ∨ b.isLower = true ∧ a.toNat + 32 = b.toNat

/-- Two texts differ in the case of ASCII letters only. -/
def SameButCase (s t : String) : Prop := List.Forall₂ SameLetter s.toList t.toList

theorem isLower_iff (c : Char) : c.isLower = true ↔ 97 ≤ c.toNat ∧ c.toNat ≤ 122 := by
  show (decide (c.val ≥ 'a'.val) && decide (c.val ≤ 'z'.val)) = true ↔ _
  rw [Bool.and_eq_true, decide_eq_true_iff, decide_eq_true_iff]
  exact Iff.rfl

theorem toNat_toUpper (c : Char) :
    c.toUpper.toNat = if c.isLower = true then c.toNat - 32 else c.toNat := by
  simp only [isLower_iff]
  show (if h : 97 ≤ c.toNat ∧ c.toNat ≤ 122 then (⟨c.val + (65 - 97), _⟩ : Char) else c).toNat = _
  split
  · next h =>
    show (c.val + (65 - 97)).toNat = _
    rw [UInt32.toNat_add]
    have hval : c.val.toNat = c.toNat := rfl
    have hshift : (65 - 97 : UInt32).toNat = 4294967264 := rfl
    rw [hval, hshift]
    omega
  · rfl

theorem toUpper_eq_toUpper_iff {a b : Char} : a.toUpper = b.toUpper ↔ SameLetter a b := by
  rw [SameLetter, ← Char.toNat_inj, ← Char.toNat_inj, toNat_toUpper, toNat_toUpper]
  simp only [isLower_iff]
  split <;> split <;> omega

/-- Upper case forgets the case of letters and nothing else. -/
theorem upperCase_eq_upperCase_iff {s t : String} :
    upperCase s = upperCase t ↔ SameButCase s t := by
  rw [upperCase, upperCase, String.ofList_inj, ← List.forall₂_eq_eq_eq, List.forall₂_map_left_iff,
    List.forall₂_map_right_iff, SameButCase]
  simp only [toUpper_eq_toUpper_iff]

theorem isLower_toUpper (c : Char) : c.toUpper.isLower = false := by
  rw [Bool.eq_false_iff, ne_eq, isLower_iff, toNat_toUpper]
  simp only [isLower_iff]
  split <;> omega

/-- A text in upper case is the same text but for the case of letters. -/
theorem sameButCase_upperCase (s : String) : SameButCase s (upperCase s) := by
  rw [SameButCase, upperCase, String.toList_ofList, List.forall₂_map_right_iff, List.forall₂_same]
  intro c _
  rw [← toUpper_eq_toUpper_iff, ← Char.toNat_inj, toNat_toUpper c.toUpper, isLower_toUpper]
  rfl

theorem isLower_of_mem_upperCase {s : String} {c : Char} (h : c ∈ (upperCase s).toList) :
    c.isLower = false := by
  rw [upperCase, String.toList_ofList, List.mem_map] at h
  obtain ⟨d, -, rfl⟩ := h
  exact isLower_toUpper d

theorem SameButCase.symm {s t : String} (h : SameButCase s t) : SameButCase t s :=
  upperCase_eq_upperCase_iff.1 (upperCase_eq_upperCase_iff.2 h).symm

/-- Whether a character is outside the range of the ASCII letters. -/
def IsBeyondLetters (c : Char) : Prop := c.toNat < 65 ∨ 122 < c.toNat

theorem SameLetter.eq {a b : Char} (h : SameLetter a b) (ha : IsBeyondLetters a) : a = b := by
  rw [SameLetter, isLower_iff, isLower_iff] at h
  rw [IsBeyondLetters] at ha
  rcases h with h | h | h
  · exact h
  · omega
  · omega

/-- Without letters there is no case in which texts could differ. -/
theorem SameButCase.eq {s t : String} (h : SameButCase s t)
    (hs : ∀ c ∈ s.toList, IsBeyondLetters c) : s = t := by
  -- character by character
  rw [SameButCase] at h
  rw [← String.toList_inj]
  generalize s.toList = cs at h hs
  generalize t.toList = ds at h
  induction h with
  | nil => rfl
  | cons hab _ ih =>
    rw [List.forall_mem_cons] at hs
    rw [hab.eq hs.1, ih hs.2]

/-! ### White space -/

/-- White space stands in front of the visible ASCII characters or behind all ASCII characters. -/
theorem toNat_of_isBlank {c : Char} (h : isBlank c = true) : c.toNat ≤ 32 ∨ 128 ≤ c.toNat := by
  simp only [isBlank, Bool.or_eq_true, Bool.and_eq_true, decide_eq_true_eq, beq_iff_eq] at h
  omega

theorem dropWhile_isBlank_eq_nil {cs : List Char} (h : ∀ c ∈ cs, isBlank c = true) :
    cs.dropWhile isBlank = [] := by
  rw [← List.append_nil cs, List.dropWhile_append_of_pos h]
  rfl

theorem dropWhile_isBlank_eq_self {cs : List Char} (h : ∀ c ∈ cs, isBlank c = false) :
    cs.dropWhile isBlank = cs := by
  cases cs with
  | nil => rfl
  | cons c cs => exact List.dropWhile_cons_of_neg (by simp [h c List.mem_cons_self])

/-- White space around a text without white space is taken away. -/
theorem trim_append {before cs after : List Char} (hbefore : ∀ c ∈ before, isBlank c = true)
    (hcs : ∀ c ∈ cs, isBlank c = false) (hafter : ∀ c ∈ after, isBlank c = true) :
    trim (before ++ cs ++ after) = cs := by
  rw [trim, List.append_assoc, List.dropWhile_append_of_pos hbefore]
  cases cs with
  | nil =>
    rw [List.nil_append, dropWhile_isBlank_eq_nil hafter]
    rfl
  | cons c cs =>
    have hkept : (c :: cs ++ after).dropWhile isBlank = c :: cs ++ after :=
      List.dropWhile_cons_of_neg (by simp [hcs c List.mem_cons_self])
    rw [hkept, List.reverse_append,
      List.dropWhile_append_of_pos (fun d hd => hafter d (List.mem_reverse.1 hd)),
      dropWhile_isBlank_eq_self (fun d hd => hcs d (List.mem_reverse.1 hd)), List.reverse_reverse]

/-- What is taken away is white space. -/
theorem exists_eq_append_trim (cs : List Char) : ∃ before after, cs = before ++ trim cs ++ after ∧
    (∀ c ∈ before, isBlank c = true) ∧ ∀ c ∈ after, isBlank c = true := by
  refine ⟨cs.takeWhile isBlank, ((cs.dropWhile isBlank).reverse.takeWhile isBlank).reverse,
    ?_, ?_, ?_⟩
  · rw [trim, List.append_assoc, ← List.reverse_append, List.takeWhile_append_dropWhile,
      List.reverse_reverse, List.takeWhile_append_dropWhile]
  · exact List.all_eq_true.1 List.all_takeWhile
  · intro c hc
    exact List.all_eq_true.1 List.all_takeWhile c (List.mem_reverse.1 hc)

end Text

namespace TypeCode

/-! ### Numbers -/

/-- The number that some decimal digits stand for, at least one. -/
def Digits (cs : List Char) (n : Nat) : Prop :=
  cs ≠ [] ∧ (∀ c ∈ cs, c.isDigit = true) ∧
    n = Nat.ofDigits 10 (cs.reverse.map (fun c => c.toNat - '0'.toNat))

/-- A number as it is written: digits, with one sign in front or without. -/
inductive Numeral : List Char → Int → Prop
  | plain {cs : List Char} {n : Nat} (h : Digits cs n) : Numeral cs n
  | plus {cs : List Char} {n : Nat} (h : Digits cs n) : Numeral ('+' :: cs) n
  | minus {cs : List Char} {n : Nat} (h : Digits cs n) : Numeral ('-' :: cs) (-n)

/-- A text that is a number of thirty-two bits, with white space around it or without. -/
def WritesNumber (s : String) (n : Int32) : Prop :=
  ∃ before cs after, s.toList = before ++ cs ++ after ∧ (∀ c ∈ before, Text.isBlank c = true) ∧
    (∀ c ∈ after, Text.isBlank c = true) ∧
    ∃ v : Int, Numeral cs v ∧ -2 ^ 31 ≤ v ∧ v ≤ 2 ^ 31 - 1 ∧ n.toInt = v

/-- The names of types, with their numbers. -/
inductive IsName : String → Int32 → Prop
  | double : IsName "DOUBLE" 1
  | string : IsName "STRING" 2
  | object : IsName "OBJECT" 3
  | array : IsName "ARRAY" 4
  | binary : IsName "BINARY" 5
  | id : IsName "ID" 8
  | bool : IsName "BOOL" 8
  | boolean : IsName "BOOLEAN" 8
  | date : IsName "DATE" 9
  | null : IsName "NULL" 10
  | regex : IsName "REGEX" 11
  | javascript : IsName "JAVASCRIPT" 13
  | code : IsName "CODE" 13
  | symbol : IsName "SYMBOL" 14
  | javascriptScope : IsName "JAVASCRIPT_SCOPE" 15
  | codeScope : IsName "CODE_SCOPE" 15
  | int32 : IsName "INT32" 16
  | ts : IsName "TS" 17
  | timestamp : IsName "TIMESTAMP" 17
  | int64 : IsName "INT64" 18
  | min : IsName "MIN" (-1)
  | max : IsName "MAX" 127

/-- A text that is a name of a type in any case of its letters. -/
def WritesName (s : String) (n : Int32) : Prop :=
  ∃ name, IsName name n ∧ Text.SameButCase s name

theorem digits?_eq_some_iff {cs : List Char} {n : Nat} : digits? cs = some n ↔ Digits cs n := by
  have hvalue : cs.foldl (fun n c => 10 * n + (c.toNat - 48)) 0
      = Nat.ofDigits 10 (cs.reverse.map (fun c => c.toNat - '0'.toNat)) := by
    rw [Nat.ofDigits_eq_foldr, List.foldl_eq_foldr_reverse, List.foldr_map]
    refine congrArg (fun f => List.foldr f 0 cs.reverse) ?_
    funext c n
    exact Nat.add_comm _ _
  rw [digits?, Option.ite_none_left_eq_some, Option.some.injEq, hvalue, Digits, Bool.or_eq_true,
    not_or, List.isEmpty_iff, Bool.not_eq_true', Bool.not_eq_false, List.all_eq_true, and_assoc]
  simp only [eq_comm]

theorem integer?_eq_some_iff {cs : List Char} {v : Int} : integer? cs = some v ↔ Numeral cs v := by
  constructor
  · intro h
    rw [integer?.eq_def] at h
    split at h
    · next ds =>
      obtain ⟨n, hn, rfl⟩ := Option.map_eq_some_iff.1 h
      exact .plus (digits?_eq_some_iff.1 hn)
    · next ds =>
      obtain ⟨m, hm, rfl⟩ := Option.map_eq_some_iff.1 h
      obtain ⟨n, hn, heq⟩ := Option.bind_eq_some_iff.1 hm
      cases heq
      exact .minus (digits?_eq_some_iff.1 hn)
    · obtain ⟨n, hn, rfl⟩ := Option.map_eq_some_iff.1 h
      exact .plain (digits?_eq_some_iff.1 hn)
  · rintro (h | h | h)
    · next n =>
      have hdigits := digits?_eq_some_iff.2 h
      rw [integer?.eq_def]
      -- digits do not begin with a sign
      split
      · exact absurd (h.2.1 '+' List.mem_cons_self) (by decide)
      · exact absurd (h.2.1 '-' List.mem_cons_self) (by decide)
      · rw [hdigits]; rfl
    · rw [integer?, digits?_eq_some_iff.2 h]; rfl
    · rw [integer?, digits?_eq_some_iff.2 h]; rfl

/-- A number is written with digits and signs only. -/
theorem Numeral.isDigit_or_sign {cs : List Char} {v : Int} (h : Numeral cs v) :
    ∀ c ∈ cs, c.isDigit = true ∨ c = '+' ∨ c = '-' := by
  cases h with
  | plain h => exact fun c hc => .inl (h.2.1 c hc)
  | plus h => exact List.forall_mem_cons.2 ⟨.inr (.inl rfl), fun c hc => .inl (h.2.1 c hc)⟩
  | minus h => exact List.forall_mem_cons.2 ⟨.inr (.inr rfl), fun c hc => .inl (h.2.1 c hc)⟩

theorem Numeral.toNat_mem {cs : List Char} {v : Int} (h : Numeral cs v) :
    ∀ c ∈ cs, 43 ≤ c.toNat ∧ c.toNat ≤ 57 := by
  intro c hc
  rcases h.isDigit_or_sign c hc with hdigit | rfl | rfl
  · have hrange : 48 ≤ c.toNat ∧ c.toNat ≤ 57 := by
      simpa [Char.isDigit, UInt32.le_iff_toNat_le, ← Char.toNat_val] using hdigit
    omega
  · decide
  · decide

theorem Numeral.isBlank_eq_false {cs : List Char} {v : Int} (h : Numeral cs v) :
    ∀ c ∈ cs, Text.isBlank c = false := by
  intro c hc
  have hrange := h.toNat_mem c hc
  rw [Bool.eq_false_iff]
  intro hblank
  have houtside := Text.toNat_of_isBlank hblank
  omega

/-- A number has to be one of thirty-two bits. -/
theorem number?_eq_some_iff {cs : List Char} {n : Int32} : number? cs = some n ↔
    ∃ v : Int, Numeral cs v ∧ -2 ^ 31 ≤ v ∧ v ≤ 2 ^ 31 - 1 ∧ n.toInt = v := by
  have hmin : Int32.minValue.toInt = -2 ^ 31 := rfl
  have hmax : Int32.maxValue.toInt = 2 ^ 31 - 1 := rfl
  rw [number?, hmin, hmax]
  constructor
  · intro h
    split at h
    · next v hv =>
      rw [Option.ite_none_right_eq_some, Option.some.injEq] at h
      obtain ⟨⟨hlow, hhigh⟩, rfl⟩ := h
      exact ⟨v, integer?_eq_some_iff.1 hv, hlow, hhigh, Int32.toInt_ofInt_of_le hlow (by omega)⟩
    · cases h
  · rintro ⟨v, hv, hlow, hhigh, rfl⟩
    rw [integer?_eq_some_iff.2 hv]
    exact (if_pos ⟨hlow, hhigh⟩).trans (congrArg some (Int32.ofInt_toInt n))

/-- A text is read as a number if it is one, but for white space around it. -/
theorem number?_trim_eq_some_iff {s : String} {n : Int32} :
    number? (Text.trim s.toList) = some n ↔ WritesNumber s n := by
  rw [number?_eq_some_iff]
  constructor
  · rintro ⟨v, hv⟩
    obtain ⟨before, after, hs, hbefore, hafter⟩ := Text.exists_eq_append_trim s.toList
    exact ⟨before, _, after, hs, hbefore, hafter, v, hv⟩
  · rintro ⟨before, cs, after, hs, hbefore, hafter, v, hv, hrange⟩
    rw [hs, Text.trim_append hbefore hv.isBlank_eq_false hafter]
    exact ⟨v, hv, hrange⟩

/-- Numbers are written without letters. -/
theorem WritesNumber.isBeyondLetters {s : String} {n : Int32} (h : WritesNumber s n) :
    ∀ c ∈ s.toList, Text.IsBeyondLetters c := by
  obtain ⟨before, cs, after, hs, hbefore, hafter, v, hv, -⟩ := h
  have hblank : ∀ c, Text.isBlank c = true → Text.IsBeyondLetters c := by
    intro c hc
    have houtside := Text.toNat_of_isBlank hc
    rw [Text.IsBeyondLetters]
    omega
  intro c hc
  rw [hs, List.mem_append, List.mem_append] at hc
  rcases hc with (hc | hc) | hc
  · exact hblank c (hbefore c hc)
  · have hrange := hv.toNat_mem c hc
    rw [Text.IsBeyondLetters]
    omega
  · exact hblank c (hafter c hc)

/-! ### Names -/

/-- The table holds the names. -/
theorem mem_table_iff {name : String} {n : Int32} : (name, n) ∈ table ↔ IsName name n := by
  constructor
  · have hall : ∀ e ∈ table, IsName e.1 e.2 := by
      simp only [table, List.forall_mem_cons]
      exact ⟨.double, .string, .object, .array, .binary, .id, .bool, .boolean, .date, .null,
        .regex, .javascript, .code, .symbol, .javascriptScope, .codeScope, .int32, .ts,
        .timestamp, .int64, .min, .max,
        by simp⟩
    exact hall (name, n)
  · intro h
    cases h <;> decide

/-- The names of the table are in upper case. -/
theorem upperCase_of_mem_table {e : String × Int32} (h : e ∈ table) :
    Text.upperCase e.1 = e.1 := by
  revert e
  decide

/-- A text in upper case is found in the table if it is one of the names. -/
theorem get?_table_eq_some_iff {s : String} {n : Int32} :
    OrderedMap.get? table (Text.upperCase s) = some n ↔ WritesName s n := by
  have hnodup : (OrderedMap.keys table).Nodup := by decide
  rw [OrderedMap.get?_eq_some_iff hnodup]
  constructor
  · intro h
    refine ⟨_, mem_table_iff.1 h, Text.upperCase_eq_upperCase_iff.1 ?_⟩
    exact (upperCase_of_mem_table h).symm
  · rintro ⟨name, hname, hsame⟩
    have hmem := mem_table_iff.2 hname
    rwa [Text.upperCase_eq_upperCase_iff.2 hsame, upperCase_of_mem_table hmem]

/-! ### Reading -/

/-- A text that is a number is read as it. -/
theorem resolve_of_writesNumber {s : String} {n : Int32} (h : WritesNumber s n) :
    resolve s = .ok n := by
  rw [resolve, number?_trim_eq_some_iff.2 h]

theorem number?_trim_eq_none {s : String} (h : ∀ n, ¬ WritesNumber s n) :
    number? (Text.trim s.toList) = none := by
  rw [Option.eq_none_iff_forall_ne_some]
  exact fun n hn => h n (number?_trim_eq_some_iff.1 hn)

/-- A text that is no number is read as the name that it is. -/
theorem resolve_of_writesName {s : String} {n : Int32} (h : ∀ m, ¬ WritesNumber s m)
    (hn : WritesName s n) : resolve s = .ok n := by
  rw [resolve, number?_trim_eq_none h, get?_table_eq_some_iff.2 hn]

/-- A text that is neither is refused. -/
theorem resolve_of_unknown {s : String} (h : ∀ n, ¬ WritesNumber s n)
    (hname : ∀ n, ¬ WritesName s n) : resolve s = .error (.unknownType (Text.upperCase s)) := by
  have hnone : OrderedMap.get? table (Text.upperCase s) = none := by
    rw [Option.eq_none_iff_forall_ne_some]
    exact fun n hn => hname n (get?_table_eq_some_iff.1 hn)
  rw [resolve, number?_trim_eq_none h, hnone]

theorem resolve_eq_ok_iff {s : String} {n : Int32} : resolve s = .ok n ↔
    WritesNumber s n ∨ (∀ m, ¬ WritesNumber s m) ∧ WritesName s n := by
  constructor
  · intro h
    by_cases hnumber : ∃ m, WritesNumber s m
    · obtain ⟨m, hm⟩ := hnumber
      rw [resolve_of_writesNumber hm, Except.ok.injEq] at h
      exact .inl (h ▸ hm)
    · rw [not_exists] at hnumber
      by_cases hname : ∃ m, WritesName s m
      · obtain ⟨m, hm⟩ := hname
        rw [resolve_of_writesName hnumber hm, Except.ok.injEq] at h
        exact .inr ⟨hnumber, h ▸ hm⟩
      · rw [resolve_of_unknown hnumber (not_exists.1 hname)] at h
        cases h
  · rintro (hn | ⟨hnumber, hn⟩)
    · exact resolve_of_writesNumber hn
    · exact resolve_of_writesName hnumber hn

theorem resolve_eq_error_iff {s : String} {e : Error} : resolve s = .error e ↔
    (∀ n, ¬ WritesNumber s n ∧ ¬ WritesName s n) ∧ e = .unknownType (Text.upperCase s) := by
  constructor
  · intro h
    have hnumber : ∀ n, ¬ WritesNumber s n := by
      intro n hn
      rw [resolve_of_writesNumber hn] at h
      cases h
    have hname : ∀ n, ¬ WritesName s n := by
      intro n hn
      rw [resolve_of_writesName hnumber hn] at h
      cases h
    rw [resolve_of_unknown hnumber hname, Except.error.injEq] at h
    exact ⟨fun n => ⟨hnumber n, hname n⟩, h.symm⟩
  · rintro ⟨h, rfl⟩
    exact resolve_of_unknown (fun n => (h n).1) (fun n => (h n).2)

/-- Texts that differ in the case of letters only are the same name. -/
theorem writesName_iff_of_sameButCase {s t : String} (h : Text.SameButCase s t) (n : Int32) :
    WritesName s n ↔ WritesName t n := by
  rw [← get?_table_eq_some_iff, ← get?_table_eq_some_iff, Text.upperCase_eq_upperCase_iff.2 h]

/-- They are the same number too, being the same text if one of them is a number. -/
theorem writesNumber_iff_of_sameButCase {s t : String} (h : Text.SameButCase s t) (n : Int32) :
    WritesNumber s n ↔ WritesNumber t n := by
  constructor
  · intro hn
    exact h.eq hn.isBeyondLetters ▸ hn
  · intro hn
    exact h.symm.eq hn.isBeyondLetters ▸ hn

/-- The case of letters does not matter. -/
theorem resolve_of_sameButCase {s t : String} (h : Text.SameButCase s t) :
    resolve s = resolve t := by
  cases ht : resolve t with
  | ok n =>
    rw [resolve_eq_ok_iff] at ht ⊢
    simpa only [writesNumber_iff_of_sameButCase h, writesName_iff_of_sameButCase h] using ht
  | error e =>
    rw [resolve_eq_error_iff] at ht ⊢
    simpa only [writesNumber_iff_of_sameButCase h, writesName_iff_of_sameButCase h,
      Text.upperCase_eq_upperCase_iff.2 h] using ht

/-- **Types are read from numbers and names.** A text is read as a number if it is one of thirty-two
bits with white space around it or without, and otherwise as the number of the name that it is, the
case of its letters aside. Every other text is the caller's error, which tells the text in upper
case: the same text but for the case of letters, without letters in lower case. Texts that differ in
the case of letters only are read alike. -/
theorem resolve_reads_numbers_and_names (s : String) :
    (∀ n, resolve s = .ok n ↔
      WritesNumber s n ∨ (∀ m, ¬ WritesNumber s m) ∧ WritesName s n) ∧
    (∀ e, resolve s = .error e ↔
      (∀ n, ¬ WritesNumber s n ∧ ¬ WritesName s n) ∧ e = .unknownType (Text.upperCase s)) ∧
    (Error.unknownType (Text.upperCase s)).isArgumentError = true ∧
    (Error.unknownType (Text.upperCase s)).message
      = "Invalid argument: type \"" ++ Text.upperCase s ++ "\" could not be resolved" ∧
    Text.SameButCase s (Text.upperCase s) ∧
    (∀ c ∈ (Text.upperCase s).toList, c.isLower = false) ∧
    ∀ t, Text.SameButCase s t → resolve s = resolve t :=
  ⟨fun _ => resolve_eq_ok_iff, fun _ => resolve_eq_error_iff, rfl, rfl,
    Text.sameButCase_upperCase s, fun _ => Text.isLower_of_mem_upperCase,
    fun _ => resolve_of_sameButCase⟩

/-- White space may stand around a number but not around a name. -/
example : resolve " +007\n" = .ok 7 ∧ resolve "String" = .ok 2 ∧
    resolve " String" = .error (.unknownType " STRING") := by decide

/-- Numbers of more than thirty-two bits are refused. -/
example : resolve "-2147483648" = .ok (-2147483648) ∧
    resolve "2147483648" = .error (.unknownType "2147483648") := by decide

end TypeCode

end DocQuery
