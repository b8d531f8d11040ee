import DocQuery.Proofs.Pattern.Matching
import DocQuery.Proofs.Query.Effect
import Mathlib.Data.List.Infix

/-!
# What LIKE patterns match

A LIKE pattern is a body with a percent sign, or none, at either end: a subject fits it that is the
body, begins or ends with it, or contains it. `Like.regex` escapes the body and anchors the
expression, and `Like.finds?_regex` compares what the expression finds with what fits the pattern.
The special characters hold the number sign but no white space, so an expression that may be laid
out passes over the white space of the body: `like_passes_over_layout` says what that does to the
conditions that a query states with the default flags.

* `Like.parts`: a pattern taken apart;
* `Like.Parts.Fits`: the subjects that fit a pattern;
* `Like.regexChars_eq`, `Like.Parts.read_regexChars`: how the expression is written, and how it is
  read.
-/

namespace DocQuery

namespace Like

/-- A LIKE pattern taken apart: whether there may be more text in front of its body and behind it,
and the body. -/
structure Parts where
  openStart : Bool
  openEnd : Bool
  body : List Char
  deriving DecidableEq

/-- The parts of a pattern whose start has been looked at. -/
def partsFrom (openStart : Bool) (cs : List Char) : Parts :=
  if cs.getLast? = some '%' then ⟨openStart, true, cs.dropLast⟩ else ⟨openStart, false, cs⟩

/-- The parts of a pattern. -/
def parts : List Char → Parts
  | '%' :: cs => partsFrom true cs
  | cs => partsFrom false cs

namespace Parts

/-- The pattern that has the parts. -/
def pattern (l : Parts) : List Char :=
  (if l.openStart then ['%'] else []) ++ l.body ++ if l.openEnd then ['%'] else []

/-- The expression of a pattern with the parts. -/
def regexChars (l : Parts) : List Char :=
  (if l.openStart then [] else ['^']) ++ (escape l.body ++ if l.openEnd then [] else ['$'])

/-- What has to be found in a subject: the body, at the ends that are not open. -/
def pieces (l : Parts) : List Regex.Piece :=
  (if l.openStart then [] else [.start]) ++ (l.body.map .char ++ if l.openEnd then [] else [.stop])

/-- What is left of the parts if white space is passed over. -/
def shown (extended : Bool) (l : Parts) : Parts :=
  { l with body := l.body.filter (fun c => !(extended && Regex.isLayout c)) }

/-- A subject fits if it is the body, begins with it, ends with it or contains it, depending on the
ends that are open. Characters are compared by what `fold` makes of them. -/
def Fits (fold : Char → Char) (l : Parts) (s : List Char) : Prop :=
  match l.openStart, l.openEnd with
  | false, false => s.map fold = l.body.map fold
  | false, true => l.body.map fold <+: s.map fold
  | true, false => l.body.map fold <:+ s.map fold
  | true, true => l.body.map fold <:+: s.map fold

instance (fold : Char → Char) (l : Parts) (s : List Char) : Decidable (l.Fits fold s) :=
  match l with
  | ⟨false, false, b⟩ => inferInstanceAs (Decidable (s.map fold = b.map fold))
  | ⟨false, true, b⟩ => inferInstanceAs (Decidable (b.map fold <+: s.map fold))
  | ⟨true, false, b⟩ => inferInstanceAs (Decidable (b.map fold <:+ s.map fold))
  | ⟨true, true, b⟩ => inferInstanceAs (Decidable (b.map fold <:+: s.map fold))

end Parts

/-! ### Taking a pattern apart -/

@[simp] theorem partsFrom_percent (openStart : Bool) (cs : List Char) :
    partsFrom openStart (cs ++ ['%']) = ⟨openStart, true, cs⟩ := by
  simp [partsFrom]

theorem partsFrom_of_getLast? {cs : List Char} (h : cs.getLast? ≠ some '%') (openStart : Bool) :
    partsFrom openStart cs = ⟨openStart, false, cs⟩ := by
  rw [partsFrom, if_neg h]

/-- The last percent sign stands behind the rest. -/
theorem percent_cases (cs : List Char) :
    (∃ init, cs = init ++ ['%']) ∨ cs.getLast? ≠ some '%' := by
  by_cases h : cs.getLast? = some '%'
  · exact .inl (List.getLast?_eq_some_iff.1 h)
  · exact .inr h

theorem pattern_partsFrom (openStart : Bool) (cs : List Char) :
    (partsFrom openStart cs).pattern = (if openStart then ['%'] else []) ++ cs := by
  rcases percent_cases cs with ⟨init, rfl⟩ | h
  · rw [partsFrom_percent]
    simp [Parts.pattern]
  · rw [partsFrom_of_getLast? h]
    simp [Parts.pattern]

/-- No part of a pattern gets lost. -/
theorem pattern_parts (p : List Char) : (parts p).pattern = p := by
  rw [parts.eq_def]
  split
  · exact pattern_partsFrom true _
  · exact pattern_partsFrom false _

/-! ### Writing the expression -/

theorem escape_append (b c : List Char) : escape (b ++ c) = escape b ++ escape c := by
  induction b with
  | nil => rfl
  | cons d b ih =>
    rw [List.cons_append, escape, escape, ih]
    split <;> rfl

theorem mem_escape {c : Char} {b : List Char} (h : c ∈ escape b) : c = '\\' ∨ c ∈ b := by
  induction b with
  | nil => exact .inr h
  | cons d b ih =>
    rw [escape] at h
    split at h <;> simp only [List.mem_cons] at h ⊢ <;> tauto

/-- The last character stays the last one when a text is escaped. -/
theorem getLast?_escape (b : List Char) : (escape b).getLast? = b.getLast? := by
  rcases List.eq_nil_or_concat b with rfl | ⟨init, c, rfl⟩
  · rfl
  · rw [List.concat_eq_append, escape_append, escape, escape]
    split <;> simp

/-- A text that does not begin with a percent sign does not when it is escaped. -/
theorem anchorStart_escape {cs : List Char} (h : ∀ rest, cs ≠ '%' :: rest) :
    anchorStart (escape cs) = '^' :: escape cs := by
  rw [anchorStart]
  intro rest hrest
  cases cs with
  | nil => cases hrest
  | cons c cs =>
    rw [escape] at hrest
    split at hrest
    · cases hrest
    · obtain ⟨rfl, -⟩ := List.cons.inj hrest
      exact h cs rfl

@[simp] theorem anchorEnd_percent (cs : List Char) : anchorEnd (cs ++ ['%']) = cs := by
  induction cs with
  | nil => rfl
  | cons c cs ih =>
    rw [List.cons_append, anchorEnd, ih]
    intro _ hnil
    simp at hnil

theorem anchorEnd_of_getLast? {cs : List Char} (h : cs.getLast? ≠ some '%') :
    anchorEnd cs = cs ++ ['$'] := by
  induction cs with
  | nil => rfl
  | cons c cs ih =>
    rw [List.cons_append, anchorEnd]
    · rw [ih]
      intro hcs
      rw [List.getLast?_cons, hcs] at h
      exact h rfl
    · rintro rfl rfl
      exact h rfl

/-- The end is anchored by what the pattern has there. -/
theorem anchorEnd_append_escape (openStart : Bool) (cs : List Char) :
    anchorEnd ((if openStart then [] else ['^']) ++ escape cs)
      = (partsFrom openStart cs).regexChars := by
  rcases percent_cases cs with ⟨init, rfl⟩ | hlast
  · have hpercent : escape ['%'] = ['%'] := by decide
    rw [escape_append, hpercent, ← List.append_assoc, anchorEnd_percent, partsFrom_percent]
    simp [Parts.regexChars]
  · rw [anchorEnd_of_getLast?, partsFrom_of_getLast? hlast]
    · simp [Parts.regexChars]
    · rw [List.getLast?_append, getLast?_escape]
      cases hcs : cs.getLast? with
      | none => cases openStart <;> decide
      | some c => simpa [hcs] using hlast

/-- The expression of a pattern is its escaped body, anchored at the ends that are not open. -/
theorem regexChars_eq (p : List Char) : regexChars p = (parts p).regexChars := by
  rw [regexChars, parts.eq_def]
  split
  · exact anchorEnd_append_escape true _
  · next h =>
    rw [anchorStart_escape h]
    exact anchorEnd_append_escape false p

theorem toList_regex (p : String) : (regex p).toList = (parts p.toList).regexChars := by
  rw [regex, String.toList_ofList, regexChars_eq]

/-- The expression of a pattern has a NUL character only if the pattern has one. -/
theorem notMem_regex {p : String} (h : '\x00' ∉ p.toList) : '\x00' ∉ (regex p).toList := by
  intro hmem
  rw [toList_regex, Parts.regexChars] at hmem
  rw [← pattern_parts p.toList, Parts.pattern] at h
  simp only [List.mem_append, not_or] at h hmem
  rcases hmem with hmem | hmem | hmem
  · split at hmem <;> simp at hmem
  · rcases mem_escape hmem with hback | hbody
    · cases hback
    · exact h.1.2 hbody
  · split at hmem <;> simp at hmem

/-! ### Reading the expression -/

/-- A special character is neither a letter nor a digit, and no white space. -/
theorem special_spec {c : Char} (hc : c ∈ special) :
    c.isAlphanum = false ∧ Regex.isLayout c = false := by
  have hall : special.all (fun c => !c.isAlphanum && !Regex.isLayout c) = true := by decide
  simpa using List.all_eq_true.1 hall c hc

/-- What means something in an expression is special. -/
theorem mem_special {c : Char} (hc : c ∈ '\\' :: '^' :: '$' :: '#' :: Regex.operators) :
    c ∈ special := by
  have hall : ('\\' :: '^' :: '$' :: '#' :: Regex.operators).all special.contains = true := by
    decide
  exact List.contains_iff_mem.1 (List.all_eq_true.1 hall c hc)

/-- An escaped text is read as its characters, without the white space that is passed over. -/
theorem read_escape (extended : Bool) (b rest : List Char) :
    Regex.read extended false (escape b ++ rest) =
      (Regex.read extended false rest).map
        ((b.filter (fun c => !(extended && Regex.isLayout c))).map .char ++ ·) := by
  induction b with
  | nil => simp [escape]
  | cons c b ih =>
    by_cases hc : c ∈ special
    · obtain ⟨hletter, hlayout⟩ := special_spec hc
      rw [escape, if_pos (List.contains_iff_mem.2 hc), List.cons_append, List.cons_append,
        Regex.read_escaped extended hletter, ih]
      simp [hlayout, Function.comp_def]
    · have hne : ∀ d ∈ '\\' :: '^' :: '$' :: '#' :: Regex.operators, c ≠ d :=
        fun d hd h => hc (h ▸ mem_special hd)
      simp only [List.forall_mem_cons] at hne
      obtain ⟨hback, hcaret, hdollar, hnumber, hoperator⟩ := hne
      have hoperator : c ∉ Regex.operators := fun h => hoperator c h rfl
      rw [escape, if_neg (by simpa using hc), List.cons_append,
        Regex.read_unescaped extended hback, ih]
      cases hskip : extended && Regex.isLayout c with
      | true => rw [if_pos rfl, List.filter_cons_of_neg (by rw [hskip]; decide)]
      | false =>
        rw [List.filter_cons_of_pos (by rw [hskip]; decide)]
        simp [hnumber, hcaret, hdollar, hoperator, Function.comp_def]

/-- The expression of a pattern is read as the body at the ends that are not open. -/
theorem Parts.read_regexChars (extended : Bool) (l : Parts) :
    Regex.read extended false l.regexChars = some (l.shown extended).pieces := by
  obtain ⟨openStart, openEnd, b⟩ := l
  have hstop : Regex.read extended false (if openEnd then [] else ['$']) =
      some (if openEnd then [] else [.stop]) := by
    cases openEnd <;> cases extended <;> decide
  cases openStart with
  | false =>
    show Regex.read extended false ('^' :: (escape b ++ _)) = _
    have hlayout : Regex.isLayout '^' = false := by decide
    rw [Regex.read_unescaped extended (by decide), read_escape, hstop]
    simp [hlayout, pieces, shown]
  | true =>
    show Regex.read extended false (escape b ++ _) = _
    rw [read_escape, hstop]
    simp [pieces, shown]

/-! ### What fits -/

/-- What is left of a subject begins with the body, and goes on only if the end is open. -/
def Parts.FitsAt (fold : Char → Char) (l : Parts) (cs : List Char) : Prop :=
  ∃ m post, cs = m ++ post ∧ m.map fold = l.body.map fold ∧ (l.openEnd = false → post = [])

/-- A subject fits if it does from some place on, which is its start unless the start is open. -/
theorem Parts.fits_iff (fold : Char → Char) (l : Parts) (s : List Char) :
    l.Fits fold s ↔
      ∃ pre rest, s = pre ++ rest ∧ (l.openStart = false → pre = []) ∧ l.FitsAt fold rest := by
  obtain ⟨openStart, openEnd, b⟩ := l
  cases openStart <;> cases openEnd
  case false.false =>
    constructor
    · intro h
      exact ⟨[], s, rfl, fun _ => rfl, s, [], (List.append_nil s).symm, h, fun _ => rfl⟩
    · rintro ⟨pre, _, rfl, hpre, m, post, rfl, hm, hpost⟩
      rw [hpre rfl, hpost rfl, List.nil_append, List.append_nil]
      exact hm
  case false.true =>
    refine List.prefix_map_iff.trans ⟨?_, ?_⟩
    · rintro ⟨m, ⟨post, rfl⟩, hm⟩
      exact ⟨[], _, rfl, fun _ => rfl, m, post, rfl, hm.symm, nofun⟩
    · rintro ⟨pre, _, rfl, hpre, m, post, rfl, hm, -⟩
      rw [hpre rfl]
      exact ⟨m, ⟨post, rfl⟩, hm.symm⟩
  case true.false =>
    refine List.suffix_map_iff.trans ⟨?_, ?_⟩
    · rintro ⟨m, ⟨pre, rfl⟩, hm⟩
      exact ⟨pre, m, rfl, nofun, m, [], (List.append_nil m).symm, hm.symm, fun _ => rfl⟩
    · rintro ⟨pre, _, rfl, -, m, post, rfl, hm, hpost⟩
      rw [hpost rfl, List.append_nil]
      exact ⟨m, ⟨pre, rfl⟩, hm.symm⟩
  case true.true =>
    refine List.infix_map_iff.trans ⟨?_, ?_⟩
    · rintro ⟨m, ⟨pre, post, rfl⟩, hm⟩
      exact ⟨pre, m ++ post, List.append_assoc _ _ _, nofun, m, post, rfl, hm.symm, nofun⟩
    · rintro ⟨pre, _, rfl, -, m, post, rfl, hm, -⟩
      exact ⟨m, ⟨pre, post, List.append_assoc _ _ _⟩, hm.symm⟩

/-- The pieces of a pattern match where the subject fits from there, and at its start only if the
start is not open. -/
theorem Parts.matchesAt_pieces_iff (fold : Char → Char) (lines : Bool) (l : Parts)
    {before : Option Char} (hbefore : before ≠ some '\n') {cs : List Char} (hcs : '\n' ∉ cs) :
    Regex.matchesAt fold lines l.pieces before cs = true ↔
      (l.openStart = false → before = none) ∧ l.FitsAt fold cs := by
  have hbody : Regex.matchesAt fold lines
      (l.body.map .char ++ if l.openEnd then [] else [.stop]) before cs = true ↔
        l.FitsAt fold cs := by
    rw [Regex.matchesAt_chars_iff]
    refine exists₂_congr fun m post => and_congr_right ?_
    rintro rfl
    have hpost : '\n' ∉ post := fun h => hcs (List.mem_append_right m h)
    refine and_congr_right fun _ => ?_
    cases l.openEnd <;> simp [Regex.matchesAt, Regex.atStop_eq_isEmpty lines hpost]
  rw [pieces]
  cases l.openStart with
  | false =>
    show Regex.matchesAt fold lines (.start :: (l.body.map .char ++ _)) before cs = true ↔ _
    rw [Regex.matchesAt, Bool.and_eq_true, hbody, Regex.atStart_eq_isNone hbefore]
    simp
  | true =>
    show Regex.matchesAt fold lines (l.body.map .char ++ _) before cs = true ↔ _
    rw [hbody]
    simp

/-- In a subject without line breaks the pieces of a pattern are found exactly if it fits. -/
theorem Parts.findsFrom_pieces_iff (fold : Char → Char) (lines : Bool) (l : Parts) {s : List Char}
    (hs : '\n' ∉ s) :
    Regex.findsFrom fold lines l.pieces none s = true ↔ l.Fits fold s := by
  rw [Regex.findsFrom_iff, fits_iff]
  refine exists₂_congr fun pre rest => and_congr_right ?_
  rintro rfl
  rw [List.mem_append, not_or] at hs
  have hlast : pre.getLast? ≠ some '\n' := fun h => hs.1 (List.mem_of_getLast? h)
  rw [Option.or_none, l.matchesAt_pieces_iff fold lines hlast hs.2, List.getLast?_eq_none_iff]

/-- What the expression of a pattern finds in subjects without line breaks. White space is passed
over with the flag `x`, and letters are taken for others with the flag `i`. -/
theorem finds?_regex (fold : Char → Char) {r : Regex} {p : String} (hr : r.pattern = regex p)
    {s : String} (hs : '\n' ∉ s.toList) :
    r.finds? fold s = some (decide (((parts p.toList).shown (r.hasFlag 'x')).Fits
      (if r.hasFlag 'i' then fold else id) s.toList)) := by
  rw [Regex.finds?, hr, toList_regex, Parts.read_regexChars, Option.map_some, Option.some_inj,
    ← Bool.coe_iff_coe, decide_eq_true_iff]
  exact Parts.findsFrom_pieces_iff _ _ _ hs

/-- A pattern fits what is left of its body. -/
theorem Parts.fits_body (fold : Char → Char) (l : Parts) : l.Fits fold l.body :=
  (l.fits_iff fold l.body).2
    ⟨[], l.body, rfl, fun _ => rfl, l.body, [], (List.append_nil _).symm, rfl, fun _ => rfl⟩

/-- A subject that fits is as long as the body at least. -/
theorem Parts.Fits.length_le {fold : Char → Char} {l : Parts} {s : List Char} (h : l.Fits fold s) :
    l.body.length ≤ s.length := by
  obtain ⟨pre, _, rfl, -, m, post, rfl, hm, -⟩ := (l.fits_iff fold s).1 h
  have hlength := congrArg List.length hm
  simp only [List.length_map] at hlength
  simp only [List.length_append]
  omega

/-- White space is passed over in an expression exactly if nothing of it fits the pattern. -/
theorem Parts.fits_shown_iff (fold : Char → Char) (l : Parts) :
    (∀ s : String, '\n' ∉ s.toList →
      ((l.shown true).Fits fold s.toList ↔ l.Fits fold s.toList)) ↔
        ∀ c ∈ l.body, Regex.isLayout c = false := by
  constructor
  · intro h
    -- what is left of the body is a subject of its own
    have hbreak : '\n' ∉ (String.ofList (l.shown true).body).toList := by
      rw [String.toList_ofList]
      intro hmem
      exact absurd (List.mem_filter.1 hmem).2 (by decide)
    have hfits := (h _ hbreak).1 (by rw [String.toList_ofList]; exact fits_body fold _)
    rw [String.toList_ofList] at hfits
    have hlength := Nat.le_antisymm (List.length_filter_le _ l.body) hfits.length_le
    simpa using List.length_filter_eq_length_iff.1 hlength
  · intro h s _
    have hbody : l.body.filter (fun c => !(true && Regex.isLayout c)) = l.body := by
      rw [List.filter_eq_self]
      intro c hc
      rw [h c hc]
      decide
    rw [shown, hbody]

/-- The white space of a pattern is that of its body. -/
theorem Parts.isLayout_pattern_iff (l : Parts) :
    (∀ c ∈ l.pattern, Regex.isLayout c = false) ↔ ∀ c ∈ l.body, Regex.isLayout c = false := by
  have hpercent : Regex.isLayout '%' = false := by decide
  obtain ⟨openStart, openEnd, b⟩ := l
  cases openStart <;> cases openEnd <;> simp [pattern, hpercent, or_imp, forall_and]

end Like

/-- A LIKE pattern without NUL characters states its expression. -/
theorem Condition.statement_like {pattern : String} (h : '\x00' ∉ pattern.toList) :
    (Condition.like pattern Like.defaultFlags).statement =
      .ok (Regex.value ⟨Like.regex pattern, "imsux"⟩) := by
  have hflags : String.ofList (Regex.sorted Like.defaultFlags.toList) = "imsux" := by
    simp [Regex.sorted, Like.defaultFlags, List.mergeSort, List.MergeSort.Internal.splitInTwo]
  have hpattern : (Like.regex pattern).toList.contains '\x00' = false := by
    simpa using Like.notMem_regex h
  have hnul : "imsux".toList.contains '\x00' = false := by decide
  simp only [statement, Regex.make, hflags, hpattern, hnul, Bool.false_eq_true, if_false]
  rfl

/-- **A LIKE condition finds its pattern literally, but for white space.** On a query of any kind,
and whatever joins it to the filter, the condition with a pattern without NUL characters is kept as
an expression that finds in a subject without line breaks what the pattern fits, letter case
ignored, once its body has lost its white space. So it finds exactly the subjects that fit the
pattern itself if there is no white space in the pattern, and only then. -/
theorem like_passes_over_layout {κ : Type} [Directives κ] (q : Query κ) (t : Settings)
    (chain : Chain) (field pattern : String) (hpattern : '\x00' ∉ pattern.toList) :
    let after := (QueryStep.filter
      (.condition chain field (.like pattern Like.defaultFlags))).runOn q t
    let r : Regex := ⟨Like.regex pattern, "imsux"⟩
    let l := Like.parts pattern.toList
    (after.state.filter = q.filter.constrain chain field r.value ∧
      after.report.outcome = .ok (.filter after.state.filter)) ∧
      ∀ fold : Char → Char,
        (∀ s : String, '\n' ∉ s.toList →
          r.finds? fold s = some (decide ((l.shown true).Fits fold s.toList))) ∧
        ((∀ s : String, '\n' ∉ s.toList →
          r.finds? fold s = some (decide (l.Fits fold s.toList))) ↔
            ∀ c ∈ pattern.toList, Regex.isLayout c = false) := by
  intro after r l
  have hr : (Condition.like pattern Like.defaultFlags).statement = .ok r.value :=
    Condition.statement_like hpattern
  have hrun : after = ⟨{ q with filter := q.filter.constrain chain field r.value }, t,
      .ok (.filter (q.filter.constrain chain field r.value)),
      q.filter.constrainEvents chain field r.value, []⟩ := by
    simp only [after, QueryStep.runOn, FilterStep.run, hr, Filter.answer]
  refine ⟨by simp only [hrun, and_self], fun fold => ?_⟩
  have hfinds : ∀ s : String, '\n' ∉ s.toList →
      r.finds? fold s = some (decide ((l.shown true).Fits fold s.toList)) := by
    intro s hs
    have hextended : r.hasFlag 'x' = true := by
      show "imsux".toList.contains 'x' = true
      decide
    have hcase : r.hasFlag 'i' = true := by
      show "imsux".toList.contains 'i' = true
      decide
    rw [Like.finds?_regex fold rfl hs, hextended, hcase, if_pos rfl]
  refine ⟨hfinds, ?_⟩
  rw [← Like.pattern_parts pattern.toList, Like.Parts.isLayout_pattern_iff,
    ← Like.Parts.fits_shown_iff fold]
  refine forall_congr' fun s => imp_congr_right fun hs => ?_
  rw [hfinds s hs, Option.some_inj, decide_eq_decide]

/-- A pattern that is open at its start, with special characters and without white space. -/
theorem like_passes_over_layout_special :
    let q : Where := ⟨{}, {}, ()⟩
    let after := (QueryStep.filter
      (.condition .or "name" (.like "%c++#[1]" Like.defaultFlags))).runOn q {}
    let r : Regex := ⟨Like.regex "%c++#[1]", "imsux"⟩
    '\x00' ∉ "%c++#[1]".toList ∧ after.state.filter.render = [("name", r.value)] ∧
      r.finds? Char.toLower "in C++#[1]" = some true ∧
      r.finds? Char.toLower "in C++" = some false := by
  intro q after r
  have hpattern : '\x00' ∉ "%c++#[1]".toList := by decide
  obtain ⟨⟨hstate, -⟩, hfinds⟩ := like_passes_over_layout q {} .or "name" "%c++#[1]" hpattern
  have hall : "%c++#[1]".toList.all (fun c => !Regex.isLayout c) = true := by decide
  have hliteral := (hfinds Char.toLower).2.2
    (fun c hc => by simpa using List.all_eq_true.1 hall c hc)
  refine ⟨hpattern, ?_, ?_, ?_⟩
  · show after.state.filter.render = _
    rw [hstate]
    rfl
  · rw [hliteral "in C++#[1]" (by decide)]
    decide
  · rw [hliteral "in C++" (by decide)]
    decide

/-- The condition that a field is like a text of two words finds the words written as one, which do
not fit the pattern, and does not find the text itself, which does. -/
theorem like_misses_blank :
    let q : Where := ⟨{}, {}, ()⟩
    let after := (QueryStep.filter
      (.condition .and "name" (.like "a b" Like.defaultFlags))).runOn q {}
    let r : Regex := ⟨Like.regex "a b", "imsux"⟩
    let l := Like.parts "a b".toList
    after.state.filter.render = [("name", r.value)] ∧
      (r.finds? Char.toLower "ab" = some true ∧ ¬ l.Fits Char.toLower "ab".toList) ∧
      r.finds? Char.toLower "a b" = some false ∧ l.Fits Char.toLower "a b".toList := by
  intro q after r l
  refine ⟨?_, by decide +kernel, by decide +kernel⟩
  have hr : (Condition.like "a b" Like.defaultFlags).statement = .ok r.value :=
    Condition.statement_like (by decide)
  simp only [after, QueryStep.runOn, FilterStep.run, hr]
  rfl

end DocQuery
