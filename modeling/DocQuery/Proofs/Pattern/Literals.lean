import DocQuery.Pattern.Regex
import Mathlib.Data.List.Sort

/-!
# Literals of regular expressions

A literal is a pattern between slashes with ASCII letters behind it. Since no letter is a slash, the
slash that ends the pattern is the last one, whatever the pattern holds, and a text is a literal in
one way at most. An expression keeps its flags in order, so it does not know in which order they
were written.

* `sorted_eq_sorted_iff`: flags are kept alike if they are written with the same letters;
* `splitLastSlash_eq_some_iff`, `splitLiteral_eq_some_iff`: how a text is taken apart;
* `make_eq_ok_iff`, `make_eq_make_iff`: which parts make an expression, and which make the same one;
* `parse_of_writes`, `parse_of_not_writes`: what is read from a text;
* `parse_reads_literals`: the texts that are read, and what is read from them.
-/

namespace DocQuery.Regex

/-! ### Flags in order -/

theorem perm_sorted (cs : List Char) : (sorted cs).Perm cs :=
  List.mergeSort_perm cs _

theorem pairwise_sorted (cs : List Char) : (sorted cs).Pairwise (· ≤ ·) := by
  have htrans : ∀ a b c : Char, decide (a.val ≤ b.val) = true → decide (b.val ≤ c.val) = true →
      decide (a.val ≤ c.val) = true := by
    intro a b c hab hbc
    rw [decide_eq_true_iff] at hab hbc ⊢
    exact UInt32.le_trans hab hbc
  have htotal : ∀ a b : Char, (decide (a.val ≤ b.val) || decide (b.val ≤ a.val)) = true := by
    intro a b
    rw [Bool.or_eq_true, decide_eq_true_iff, decide_eq_true_iff]
    exact UInt32.le_total a.val b.val
  exact (List.pairwise_mergeSort htrans htotal cs).imp (fun hab => of_decide_eq_true hab)

/-- There is one way to write characters in order. -/
theorem eq_of_perm_of_pairwise {cs ds : List Char} (h : cs.Perm ds) (hcs : cs.Pairwise (· ≤ ·))
    (hds : ds.Pairwise (· ≤ ·)) : cs = ds :=
  List.Perm.eq_of_pairwise (fun _ _ _ _ => Char.le_antisymm) hcs hds h

theorem sorted_eq_sorted_iff {cs ds : List Char} : sorted cs = sorted ds ↔ cs.Perm ds := by
  constructor
  · intro h
    exact (perm_sorted cs).symm.trans (h ▸ perm_sorted ds)
  · intro h
    exact eq_of_perm_of_pairwise ((perm_sorted cs).trans (h.trans (perm_sorted ds).symm))
      (pairwise_sorted cs) (pairwise_sorted ds)

theorem mem_sorted {c : Char} {cs : List Char} : c ∈ sorted cs ↔ c ∈ cs := (perm_sorted cs).mem_iff

/-! ### Taking a text apart -/

theorem splitLastSlash_of_notMem {cs : List Char} (h : '/' ∉ cs) : splitLastSlash cs = none := by
  induction cs with
  | nil => rfl
  | cons c cs ih =>
    rw [List.mem_cons, not_or] at h
    rw [splitLastSlash, ih h.2]
    exact if_neg (Ne.symm h.1)

theorem splitLastSlash_append {after : List Char} (h : '/' ∉ after) (before : List Char) :
    splitLastSlash (before ++ '/' :: after) = some (before, after) := by
  induction before with
  | nil => rw [List.nil_append, splitLastSlash, splitLastSlash_of_notMem h, if_pos rfl]
  | cons c before ih => rw [List.cons_append, splitLastSlash, ih]

/-- A text with slashes has a last one. -/
theorem exists_last_slash {cs : List Char} (h : '/' ∈ cs) :
    ∃ before after, cs = before ++ '/' :: after ∧ '/' ∉ after := by
  obtain ⟨after, before, hsplit, hafter⟩ := List.eq_append_cons_of_mem (List.mem_reverse.2 h)
  refine ⟨before.reverse, after.reverse, ?_, by simpa using hafter⟩
  rw [← List.reverse_reverse cs, hsplit]
  simp

/-- The last slash stands between what is before it and what is behind it, where there is none. -/
theorem splitLastSlash_eq_some_iff {cs before after : List Char} :
    splitLastSlash cs = some (before, after) ↔ cs = before ++ '/' :: after ∧ '/' ∉ after := by
  constructor
  · intro h
    by_cases hslash : '/' ∈ cs
    · obtain ⟨b, a, rfl, ha⟩ := exists_last_slash hslash
      rw [splitLastSlash_append ha] at h
      cases h
      exact ⟨rfl, ha⟩
    · rw [splitLastSlash_of_notMem hslash] at h
      cases h
  · rintro ⟨rfl, hafter⟩
    exact splitLastSlash_append hafter before

theorem slash_notMem_of_letters {cs : List Char} (h : ∀ c ∈ cs, c.isAlpha = true) : '/' ∉ cs :=
  fun hslash => absurd (h '/' hslash) (by decide)

theorem nul_notMem_of_letters {cs : List Char} (h : ∀ c ∈ cs, c.isAlpha = true) : '\x00' ∉ cs :=
  fun hnul => absurd (h '\x00' hnul) (by decide)

/-- A text is taken apart if it is a pattern between slashes with letters behind it. -/
theorem splitLiteral_eq_some_iff {l p f : List Char} :
    splitLiteral l = some (p, f) ↔ l = '/' :: (p ++ '/' :: f) ∧ ∀ c ∈ f, c.isAlpha = true := by
  constructor
  · intro h
    rw [splitLiteral.eq_def] at h
    split at h
    · next body =>
      split at h
      · next before after hsplit =>
        rw [Option.ite_none_right_eq_some, List.all_eq_true] at h
        obtain ⟨hletters, heq⟩ := h
        cases heq
        rw [(splitLastSlash_eq_some_iff.1 hsplit).1]
        exact ⟨rfl, hletters⟩
      · cases h
    · cases h
  · rintro ⟨rfl, hletters⟩
    rw [splitLiteral, splitLastSlash_append (slash_notMem_of_letters hletters)]
    exact if_pos (List.all_eq_true.2 hletters)

/-! ### Making expressions -/

/-- Parts without NUL characters make an expression with the pattern as it is and the flags in
order, and no others do. -/
theorem make_eq_ok_iff {pattern flags : String} {r : Regex} :
    make pattern flags = .ok r ↔
      ('\x00' ∉ pattern.toList ∧ '\x00' ∉ flags.toList) ∧
        r.pattern = pattern ∧ r.flags.toList.Perm flags.toList ∧
          r.flags.toList.Pairwise (· ≤ ·) := by
  have hflags : r.flags = String.ofList (sorted flags.toList) ↔
      r.flags.toList.Perm flags.toList ∧ r.flags.toList.Pairwise (· ≤ ·) := by
    rw [← String.toList_inj, String.toList_ofList]
    constructor
    · intro h
      rw [h]
      exact ⟨perm_sorted _, pairwise_sorted _⟩
    · rintro ⟨hperm, hordered⟩
      exact eq_of_perm_of_pairwise (hperm.trans (perm_sorted _).symm) hordered (pairwise_sorted _)
  rw [← hflags]
  obtain ⟨p, f⟩ := r
  by_cases hpattern : '\x00' ∈ pattern.toList <;> by_cases hnul : '\x00' ∈ flags.toList <;>
    simp [make, mem_sorted, hpattern, hnul, eq_comm]

/-- With one pattern the same is made from flags that have the same letters. -/
theorem make_eq_make_iff {pattern : String} (hpattern : '\x00' ∉ pattern.toList)
    (flags flags' : String) :
    make pattern flags = make pattern flags' ↔ flags.toList.Perm flags'.toList := by
  rw [← sorted_eq_sorted_iff, ← String.ofList_inj]
  constructor
  · intro h
    by_cases hnul : '\x00' ∈ flags.toList <;> by_cases hnul' : '\x00' ∈ flags'.toList <;>
      simp [make, mem_sorted, hpattern, hnul, hnul'] at h <;> exact h
  · intro h
    rw [make, make, h]

/-! ### Reading literals -/

/-- How a literal is written: a pattern between slashes, with ASCII letters behind it. -/
structure Writes (literal pattern flags : String) : Prop where
  literal_eq : literal = "/" ++ pattern ++ "/" ++ flags
  letters : ∀ c ∈ flags.toList, c.isAlpha = true

theorem splitLiteral_of_writes {l p f : String} (h : Writes l p f) :
    splitLiteral l.toList = some (p.toList, f.toList) := by
  rw [splitLiteral_eq_some_iff]
  refine ⟨?_, h.letters⟩
  rw [h.literal_eq]
  simp

theorem writes_of_splitLiteral {l : String} {p f : List Char}
    (h : splitLiteral l.toList = some (p, f)) : Writes l (String.ofList p) (String.ofList f) := by
  obtain ⟨hl, hletters⟩ := splitLiteral_eq_some_iff.1 h
  refine ⟨?_, by simpa using hletters⟩
  rw [← String.toList_inj, hl]
  simp

/-- A text is a literal in one way. -/
theorem Writes.unique {l p f p' f' : String} (h : Writes l p f) (h' : Writes l p' f') :
    p = p' ∧ f = f' := by
  have heq := (splitLiteral_of_writes h).symm.trans (splitLiteral_of_writes h')
  rwa [Option.some.injEq, Prod.mk.injEq, String.toList_inj, String.toList_inj] at heq

/-- A literal is read as its parts are made an expression. -/
theorem parse_of_writes {l p f : String} (h : Writes l p f) : parse l = make p f := by
  rw [parse, splitLiteral_of_writes h]
  simp

/-- Any other text is refused. -/
theorem parse_of_not_writes {l : String} (h : ¬ ∃ p f, Writes l p f) :
    parse l = .error (.malformedRegex l) := by
  rw [parse]
  cases hsplit : splitLiteral l.toList with
  | some parts => exact absurd ⟨_, _, writes_of_splitLiteral hsplit⟩ h
  | none => rfl

/-- What is read from a text is made from the parts of a literal. -/
theorem parse_eq_ok_iff {l : String} {r : Regex} :
    parse l = .ok r ↔ ∃ p f, Writes l p f ∧ make p f = .ok r := by
  constructor
  · intro h
    by_cases hl : ∃ p f, Writes l p f
    · obtain ⟨p, f, hl⟩ := hl
      exact ⟨p, f, hl, parse_of_writes hl ▸ h⟩
    · rw [parse_of_not_writes hl] at h
      cases h
  · rintro ⟨p, f, hl, h⟩
    rw [parse_of_writes hl, h]

/-- The literal of an expression that was read is read as that expression. -/
theorem parse_literal {l : String} {r : Regex} (h : parse l = .ok r) : parse r.literal = .ok r := by
  obtain ⟨p, f, hl, hmake⟩ := parse_eq_ok_iff.1 h
  obtain ⟨⟨hp, hf⟩, rfl, hperm, hordered⟩ := make_eq_ok_iff.1 hmake
  have hr : Writes r.literal r.pattern r.flags :=
    ⟨rfl, fun c hc => hl.letters c (hperm.mem_iff.1 hc)⟩
  have hflags : '\x00' ∉ r.flags.toList := fun hnul => hf (hperm.mem_iff.1 hnul)
  rw [parse_of_writes hr]
  exact make_eq_ok_iff.2 ⟨⟨hp, hflags⟩, rfl, List.Perm.refl _, hordered⟩

/-- **A literal is a pattern between slashes with letters behind it.** The texts that are read are
those that a pattern without NUL characters is written in, in one way only, and what is read is that
pattern with the letters in order, as it is made from these parts. It is read again from the literal
of the expression. With one pattern the same is made from flags exactly if they have the same
letters, each as often. All other texts are the caller's error, told by the text or by its
pattern. -/
theorem parse_reads_literals :
    (∀ (l : String) (r : Regex), parse l = .ok r ↔
      ∃ p f, Writes l p f ∧ '\x00' ∉ p.toList ∧
        r.pattern = p ∧ r.flags.toList.Perm f.toList ∧ r.flags.toList.Pairwise (· ≤ ·)) ∧
      (∀ l p f p' f', Writes l p f → Writes l p' f' → p = p' ∧ f = f') ∧
      (∀ l p f, Writes l p f → parse l = make p f) ∧
      (∀ l r, parse l = .ok r → parse r.literal = .ok r) ∧
      (∀ p f f' : String, '\x00' ∉ p.toList →
        (make p f = make p f' ↔ f.toList.Perm f'.toList)) ∧
      (∀ l : String, (¬ ∃ p f, Writes l p f ∧ '\x00' ∉ p.toList) →
        ∃ e, parse l = .error e ∧ e.isArgumentError = true ∧
          (e = .malformedRegex l ∨ ∃ p f, Writes l p f ∧ e = .nulInPattern p)) := by
  refine ⟨fun l r => ?_, fun _ _ _ _ _ h h' => h.unique h', fun _ _ _ h => parse_of_writes h,
    fun _ _ h => parse_literal h, fun _ f f' hp => make_eq_make_iff hp f f', fun l hl => ?_⟩
  · rw [parse_eq_ok_iff]
    refine exists₂_congr fun p f => and_congr_right fun hpf => ?_
    have hf := nul_notMem_of_letters hpf.letters
    rw [make_eq_ok_iff, and_iff_left hf]
  · by_cases hwrites : ∃ p f, Writes l p f
    · obtain ⟨p, f, hpf⟩ := hwrites
      have hnul : '\x00' ∈ p.toList := by
        by_contra hnot
        exact hl ⟨p, f, hpf, hnot⟩
      refine ⟨.nulInPattern p, ?_, rfl, .inr ⟨p, f, hpf, rfl⟩⟩
      rw [parse_of_writes hpf, make]
      simp [hnul]
    · exact ⟨_, parse_of_not_writes hwrites, rfl, .inl rfl⟩

/-- A pattern that holds slashes and ends in one, and flags out of order. -/
theorem parse_reads_literals_slashes :
    Writes "/a/b//mi" "a/b/" "mi" ∧ '\x00' ∉ "a/b/".toList ∧
      parse "/a/b//mi" = .ok ⟨"a/b/", "im"⟩ ∧ parse "/a/b//im" = .ok ⟨"a/b/", "im"⟩ ∧
      make "a/b/" "im" = make "a/b/" "mi" := by
  obtain ⟨hread, -, -, hagain, hflags, -⟩ := parse_reads_literals
  have hletters : "mi".toList.all Char.isAlpha = true := by decide
  have hwrites : Writes "/a/b//mi" "a/b/" "mi" := ⟨by decide, List.all_eq_true.1 hletters⟩
  have hnul : '\x00' ∉ "a/b/".toList := by decide
  have hparse : parse "/a/b//mi" = .ok ⟨"a/b/", "im"⟩ :=
    (hread _ _).2 ⟨_, _, hwrites, hnul, rfl, by decide, by decide⟩
  exact ⟨hwrites, hnul, hparse, hagain _ _ hparse, (hflags _ "im" "mi" hnul).2 (by decide)⟩

end DocQuery.Regex
