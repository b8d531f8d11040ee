import DocQuery.Proofs.Filter.Loading
import DocQuery.Proofs.Filter.RoundTrip

/-!
# Loading a document over and over

A filter has three layers: its branches, their clauses, and the documents of a clause. Loading a
document strips the connectives over a single document from each of these layers, and leaves out
empty branches. What it strips makes room: a list further inside takes the place of the one around
it, and is a layer of the filter from then on. So the document of a filter may change when it is
loaded again.

* `Document.reread_eq_self_iff`: which documents do not change, by their three layers;
* `Document.shrinks_reread`: all others get smaller;
* `reloads_settle`: how often a document has to be loaded until it does not change any more, and
  documents that have to be loaded only once;
* `reload_strips_again`: documents that change when they are loaded a second time.
-/

namespace DocQuery

namespace Document

/-! ### The size of a document -/

mutual

/-- How many lists there are under `$and` and `$or`, and how many documents in them, down to the
last one. -/
def bulk : List (String × Value) → Nat
  | [] => 0
  | (k, v) :: d => (if Connective.isKey k then bulkList v else 0) + bulk d

/-- The size of such a list. -/
def bulkList : Value → Nat
  | .array vs => 1 + bulkItems vs
  | _ => 0

/-- The size of the elements of a list. -/
def bulkItems : List Value → Nat
  | [] => 0
  | v :: vs => bulkItem v + bulkItems vs

/-- The size of an element of a list. -/
def bulkItem : Value → Nat
  | .document d => 1 + bulk d
  | _ => 0

end

/-- The second document is the first one, or smaller. -/
def Shrinks (d e : Document) : Prop := e = d ∨ bulk e < bulk d

@[simp] theorem bulk_nil : bulk [] = 0 := by
  rw [bulk]

/-- The size of a list of documents. -/
def bulkAll (ds : List Document) : Nat := bulkItems (ds.map .document)

@[simp] theorem bulkAll_cons (d : Document) (ds : List Document) :
    bulkAll (d :: ds) = 1 + bulk d + bulkAll ds := by
  rw [bulkAll, List.map_cons, bulkItems, bulkItem, bulkAll]

theorem bulk_join (c : Connective) (ds : List Document) : bulk (join c ds) = 1 + bulkAll ds := by
  have hk : Connective.isKey c.key = true := Connective.isKey_iff.2 ⟨c, rfl⟩
  rw [join, bulk, if_pos hk, Value.documents, bulkList, bulk_nil, Nat.add_zero, bulkAll]

/-- A document is smaller than what joins it with others. -/
theorem bulk_lt_bulk_join (c : Connective) {ds : List Document} {d : Document} (hd : d ∈ ds) :
    bulk d < bulk (join c ds) := by
  rw [bulk_join]
  induction ds with
  | nil => cases hd
  | cons e ds ih =>
    rw [bulkAll_cons]
    rcases List.mem_cons.1 hd with rfl | hd
    · omega
    · have := ih hd
      omega

theorem Shrinks.refl (d : Document) : Shrinks d d := .inl rfl

theorem Shrinks.le {d e : Document} (h : Shrinks d e) : bulk e ≤ bulk d := by
  rcases h with rfl | h
  · exact Nat.le_refl _
  · exact Nat.le_of_lt h

theorem Shrinks.trans {d e f : Document} (h : Shrinks d e) (h' : Shrinks e f) : Shrinks d f := by
  rcases h with rfl | h
  · exact h'
  · exact .inr (Nat.lt_of_le_of_lt h'.le h)

/-- A list in which some documents shrink and others are left out shrinks. -/
theorem shrinks_join (c : Connective) {ds : List Document} {f : Document → Option Document}
    (h : ∀ d ∈ ds, ∀ e, f d = some e → Shrinks d e) :
    Shrinks (join c ds) (join c (ds.filterMap f)) := by
  have hbulk : ds.filterMap f = ds ∨ bulkAll (ds.filterMap f) < bulkAll ds := by
    induction ds with
    | nil => exact .inl rfl
    | cons d ds ih =>
      rw [List.forall_mem_cons] at h
      have ih := ih h.2
      cases hf : f d with
      | none =>
        -- a document less, and the others are no larger than they were
        rw [List.filterMap_cons_none hf, bulkAll_cons]
        rcases ih with hds | hlt
        · rw [hds]
          exact .inr (by omega)
        · exact .inr (by omega)
      | some e =>
        rw [List.filterMap_cons_some hf, bulkAll_cons, bulkAll_cons]
        rcases h.1 e hf, ih with ⟨rfl | he, hds | hlt⟩
        · exact .inl (by rw [hds])
        · exact .inr (by omega)
        · rw [hds]
          exact .inr (by omega)
        · exact .inr (by omega)
  rcases hbulk with hds | hlt
  · rw [hds]
    exact Shrinks.refl _
  · right
    rw [bulk_join, bulk_join]
    omega

theorem shrinks_join_map (c : Connective) {ds : List Document} {f : Document → Document}
    (h : ∀ d ∈ ds, Shrinks d (f d)) : Shrinks (join c ds) (join c (ds.map f)) := by
  rw [← List.filterMap_eq_map]
  refine shrinks_join c (fun d hd e he => ?_)
  rw [Function.comp_apply, Option.some.injEq] at he
  rw [← he]
  exact h d hd

theorem shrinks_join_filter (c : Connective) (ds : List Document) (p : Document → Bool) :
    Shrinks (join c ds) (join c (ds.filter p)) := by
  rw [← List.filterMap_eq_filter]
  refine shrinks_join c (fun d _ e he => ?_)
  rw [(Option.guard_eq_some_iff.1 he).1]
  exact Shrinks.refl e

/-! ### Stripping -/

/-- Whether a document is no connective over a single document. -/
def isBare (d : Document) : Bool := (wrapped? d).isNone

theorem join_inj {c c' : Connective} {ds es : List Document} :
    join c ds = join c' es ↔ c = c' ∧ ds = es := by
  constructor
  · intro h
    have hc : c = c' := by
      cases c <;> cases c' <;> simp [join, Connective.key] at h ⊢
    have ho := operands?_join c ds
    rw [h, hc, operands?_join, Option.some.injEq] at ho
    exact ⟨hc, ho.symm⟩
  · rintro ⟨rfl, rfl⟩
    rfl

/-- A list of documents is bare unless it is one of a single document. -/
theorem isBare_join_iff (c : Connective) (ds : List Document) :
    isBare (join c ds) = true ↔ ds.length ≠ 1 := by
  rw [isBare, Option.isNone_iff_eq_none]
  constructor
  · intro h hl
    obtain ⟨e, rfl⟩ := List.length_eq_one_iff.1 hl
    rw [wrapped?_eq_some_iff.2 ⟨c, rfl⟩] at h
    cases h
  · intro hl
    cases hw : wrapped? (join c ds) with
    | none => rfl
    | some e =>
      obtain ⟨c', hc⟩ := wrapped?_eq_some_iff.1 hw
      rw [(join_inj.1 hc).2] at hl
      exact absurd rfl hl

/-- There is nothing to strip from a bare document. -/
theorem unwrap_of_isBare {d : Document} (h : isBare d = true) : unwrap d = d := by
  rw [isBare, Option.isNone_iff_eq_none] at h
  rw [unwrap_eq, h]

/-- Stripping a document that is not bare looks at the document inside. -/
theorem isBare_cases (d : Document) :
    isBare d = true ∨ ∃ (c : Connective) (e : Document), d = join c [e] ∧ unwrap d = unwrap e := by
  cases hw : wrapped? d with
  | none => exact .inl (by rw [isBare, hw]; rfl)
  | some e =>
    obtain ⟨c, hc⟩ := wrapped?_eq_some_iff.1 hw
    exact .inr ⟨c, e, hc, by rw [unwrap_eq, hw]⟩

/-- A document that is stripped is bare, and smaller if it was not bare before. -/
theorem unwrap_spec (d : Document) : isBare (unwrap d) = true ∧ Shrinks d (unwrap d) := by
  induction hn : bulk d using Nat.strongRecOn generalizing d with
  | ind n ih =>
    rcases isBare_cases d with hd | ⟨c, e, rfl, hu⟩
    · rw [unwrap_of_isBare hd]
      exact ⟨hd, Shrinks.refl d⟩
    · have hlt : bulk e < bulk (join c [e]) := bulk_lt_bulk_join c List.mem_cons_self
      obtain ⟨hbare, hle⟩ := ih _ (hn ▸ hlt) e rfl
      rw [hu]
      exact ⟨hbare, .inr (Nat.lt_of_le_of_lt hle.le hlt)⟩

/-- A function keeps a list exactly when it keeps all entries of the list. -/
theorem map_eq_self_iff {α : Type} {f : α → α} {as : List α} :
    as.map f = as ↔ ∀ a ∈ as, f a = a := by
  have h := List.map_inj_left (l := as) (f := f) (g := fun a => a)
  rwa [List.map_id'] at h

/-- Whether a document is bare, and those that it joins by `$and` pass a test. -/
def isBareWith (test : Document → Bool) (d : Document) : Bool :=
  isBare d && ((operands? .all d).getD []).all test

theorem isBareWith_join_iff (test : Document → Bool) (ds : List Document) :
    isBareWith test (join .all ds) = true ↔ ds.length ≠ 1 ∧ ∀ d ∈ ds, test d = true := by
  rw [isBareWith, Bool.and_eq_true, isBare_join_iff, operands?_join, Option.getD_some,
    List.all_eq_true]

theorem isBareWith_of_operands? (test : Document → Bool) {d : Document}
    (h : operands? .all d = none) : isBareWith test d = isBare d := by
  rw [isBareWith, h, Option.getD_none, List.all_nil, Bool.and_true]

theorem isBare_of_isBareWith {test : Document → Bool} {d : Document}
    (h : isBareWith test d = true) : isBare d = true := by
  rw [isBareWith, Bool.and_eq_true] at h
  exact h.1

/-! ### Clauses -/

/-- A document once it has been read as a clause and written again. -/
def asClause (d : Document) : Document := (Clause.ofDocument d).render

/-- Whether a document and those that it joins by `$and` are bare. -/
def isBareClause (d : Document) : Bool := isBareWith isBare d

/-- Every document is one that joins others by `$and`, or none of that kind. -/
theorem operands?_cases (c : Connective) (d : Document) :
    (∃ ds, d = join c ds) ∨ operands? c d = none := by
  cases h : operands? c d with
  | some ds => exact .inl ⟨ds, operands?_eq_some_iff.1 h⟩
  | none => exact .inr rfl

theorem asClause_of_join {d : Document} {ds : List Document} (h : unwrap d = join .all ds) :
    asClause d = join .all (ds.map unwrap) ∧ ds.length ≠ 1 := by
  have hl : ds.length ≠ 1 := by
    rw [← isBare_join_iff .all, ← h]
    exact (unwrap_spec d).1
  refine ⟨?_, hl⟩
  rw [asClause, Clause.ofDocument, h, operands?_join]
  rcases ds with _ | ⟨e, _ | ⟨e', ds⟩⟩
  · rfl
  · exact absurd rfl hl
  · rfl

theorem asClause_of_operands? {d : Document} (h : operands? .all (unwrap d) = none) :
    asClause d = unwrap d := by
  rw [asClause, Clause.ofDocument, h]
  rfl

/-- What is written for a clause is bare, and smaller than what was read if it is not the same. -/
theorem asClause_spec (d : Document) :
    isBareClause (asClause d) = true ∧ Shrinks d (asClause d) := by
  obtain ⟨hbare, hshrinks⟩ := unwrap_spec d
  rcases operands?_cases .all (unwrap d) with ⟨ds, hds⟩ | hnone
  · obtain ⟨hclause, hl⟩ := asClause_of_join hds
    rw [hclause]
    constructor
    · rw [isBareClause, isBareWith_join_iff, List.length_map, List.forall_mem_map]
      exact ⟨hl, fun e _ => (unwrap_spec e).1⟩
    · rw [hds] at hshrinks
      exact hshrinks.trans (shrinks_join_map .all (fun e _ => (unwrap_spec e).2))
  · rw [asClause_of_operands? hnone]
    exact ⟨by rw [isBareClause, isBareWith_of_operands? isBare hnone, hbare], hshrinks⟩

theorem asClause_eq_self_iff {d : Document} : asClause d = d ↔ isBareClause d = true := by
  constructor
  · intro h
    rw [← h]
    exact (asClause_spec d).1
  · intro h
    have hu : unwrap d = d := unwrap_of_isBare (isBare_of_isBareWith h)
    rcases operands?_cases .all d with ⟨ds, rfl⟩ | hnone
    · rw [(asClause_of_join hu).1]
      have hds := ((isBareWith_join_iff isBare ds).1 h).2
      rw [map_eq_self (fun e he => unwrap_of_isBare (hds e he))]
    · rw [asClause_of_operands? (by rw [hu, hnone]), hu]

/-! ### Branches -/

/-- A document once it has been read as a branch and written again. -/
def asBranch (d : Document) : Document := (Branch.ofDocument d).render

/-- Whether a document is bare, and the documents that it joins by `$and` are bare clauses. -/
def isBareBranch (d : Document) : Bool := isBareWith isBareClause d

theorem asBranch_join {ds : List Document} (hl : ds.length ≠ 1) :
    asBranch (join .all ds) = join .all (ds.map asClause) := by
  rw [asBranch, Branch.ofDocument, operands?_join]
  rcases ds with _ | ⟨d, _ | ⟨e, ds⟩⟩
  · rfl
  · exact absurd rfl hl
  · dsimp only
    rw [List.map_cons, List.map_cons, Branch.render_cons_cons, List.map_cons, List.map_cons,
      List.map_map]
    rfl

/-- A branch of one clause is written as the clause. -/
theorem render_ofDocument_eq_asClause (d : Document) :
    Branch.render [Clause.ofDocument d] = asClause d := by
  rw [Branch.render_singleton]
  exact unwrap_of_isBare (isBare_of_isBareWith (asClause_spec d).1)

theorem asBranch_join_singleton (d : Document) : asBranch (join .all [d]) = asClause d := by
  rw [asBranch, Branch.ofDocument, operands?_join]
  exact render_ofDocument_eq_asClause d

theorem asBranch_of_operands? {d : Document} (h : operands? .all d = none) :
    asBranch d = asClause d := by
  rw [asBranch, Branch.ofDocument, h]
  exact render_ofDocument_eq_asClause d

/-- What is written for a branch is smaller than what was read if it is not the same. -/
theorem shrinks_asBranch (d : Document) : Shrinks d (asBranch d) := by
  rcases operands?_cases .all d with ⟨ds, rfl⟩ | hnone
  · by_cases hl : ds.length = 1
    · obtain ⟨e, rfl⟩ := List.length_eq_one_iff.1 hl
      rw [asBranch_join_singleton]
      have hlt : bulk e < bulk (join .all [e]) := bulk_lt_bulk_join .all List.mem_cons_self
      exact .inr (Nat.lt_of_le_of_lt (asClause_spec e).2.le hlt)
    · rw [asBranch_join hl]
      exact shrinks_join_map .all (fun e _ => (asClause_spec e).2)
  · rw [asBranch_of_operands? hnone]
    exact (asClause_spec d).2

theorem asBranch_eq_self_iff {d : Document} : asBranch d = d ↔ isBareBranch d = true := by
  rcases operands?_cases .all d with ⟨ds, rfl⟩ | hnone
  · by_cases hl : ds.length = 1
    · -- the clause inside cannot be as large as the list around it
      obtain ⟨e, rfl⟩ := List.length_eq_one_iff.1 hl
      have hlt : bulk e < bulk (join .all [e]) := bulk_lt_bulk_join .all List.mem_cons_self
      have hle := (asClause_spec e).2.le
      rw [asBranch_join_singleton, isBareBranch, isBareWith_join_iff]
      constructor
      · intro h
        rw [h] at hle
        omega
      · rintro ⟨hne, -⟩
        exact absurd hl hne
    · rw [asBranch_join hl, join_inj, isBareBranch, isBareWith_join_iff]
      have hmap : ds.map asClause = ds ↔ ∀ e ∈ ds, isBareClause e = true := by
        rw [map_eq_self_iff]
        exact forall₂_congr (fun e _ => asClause_eq_self_iff)
      rw [hmap]
      simp [hl]
  · rw [asBranch_of_operands? hnone, asClause_eq_self_iff, isBareBranch, isBareClause,
      isBareWith_of_operands? isBareClause hnone, isBareWith_of_operands? isBare hnone]

/-- A bare document keeps its place as a branch. -/
theorem asBranch_of_isBare {d : Document} (h : isBare d = true) :
    isBareBranch (asBranch d) = true ∧ (d ≠ [] → asBranch d ≠ []) ∧
      (operands? .any d = none → operands? .any (asBranch d) = none) := by
  rcases operands?_cases .all d with ⟨ds, rfl⟩ | hnone
  · have hl : ds.length ≠ 1 := (isBare_join_iff .all ds).1 h
    rw [asBranch_join hl]
    refine ⟨?_, fun _ => List.cons_ne_nil _ _, fun _ => rfl⟩
    rw [isBareBranch, isBareWith_join_iff, List.length_map, List.forall_mem_map]
    exact ⟨hl, fun e _ => (asClause_spec e).1⟩
  · have hd : asBranch d = d := by
      rw [asBranch_eq_self_iff, isBareBranch, isBareWith_of_operands? isBareClause hnone, h]
    rw [hd]
    exact ⟨asBranch_eq_self_iff.1 hd, fun hne => hne, fun ho => ho⟩

/-! ### Filters -/

/-- A document once it has been loaded as a filter and written again. -/
def reread (d : Document) : Document := (Filter.load d).render

/-- The alternatives of a document that get a branch. -/
def openAlternatives (d : Document) : List Document :=
  (alternatives d).filter (fun e => !e.isEmpty)

/-- Whether nothing is left to strip or to leave out in the layers of a filter: the alternatives, if
the document lists any, are two or more and not empty, and each of them is a bare branch. -/
def isSettled (d : Document) : Bool :=
  match operands? .any d with
  | some ds => decide (2 ≤ ds.length) && ds.all (fun e => !e.isEmpty && isBareBranch e)
  | none => isBareBranch d

/-- Whether nothing is to be stripped from the alternatives of a document. If there is a single one,
it lists no alternatives itself. -/
def isShallow (d : Document) : Bool :=
  (openAlternatives d).all isBare &&
    match openAlternatives d with
    | [e] => (operands? .any e).isNone
    | _ => true

theorem reread_eq (d : Document) :
    reread d = match (openAlternatives d).map asBranch with
      | [] => []
      | [e] => e
      | es => join .any es := by
  have h : (Filter.load d).branches.map Branch.render = (openAlternatives d).map asBranch :=
    List.map_map
  rw [← h]
  rfl

theorem reread_of_two_le {d : Document} (h : 2 ≤ (openAlternatives d).length) :
    reread d = join .any ((openAlternatives d).map asBranch) := by
  rw [reread_eq]
  match openAlternatives d, h with
  | _ :: _ :: _, _ => rfl

theorem isSettled_join_iff (ds : List Document) :
    isSettled (join .any ds) = true ↔
      2 ≤ ds.length ∧ ∀ d ∈ ds, d ≠ [] ∧ isBareBranch d = true := by
  rw [isSettled, operands?_join, Bool.and_eq_true, decide_eq_true_eq, List.all_eq_true]
  simp

theorem openAlternatives_join (ds : List Document) :
    openAlternatives (join .any ds) = ds.filter (fun e => !e.isEmpty) := by
  rw [openAlternatives, alternatives, operands?_join, Option.getD_some]

/-- Only empty alternatives get no branch. -/
theorem openAlternatives_join_of_ne_nil {ds : List Document} (h : ∀ d ∈ ds, d ≠ []) :
    openAlternatives (join .any ds) = ds := by
  rw [openAlternatives_join, List.filter_eq_self]
  intro d hd
  simpa using h d hd

/-- A document that lists no alternatives is its own alternative, unless it is empty. -/
theorem openAlternatives_of_operands? {d : Document} (h : operands? .any d = none) :
    d = [] ∨ openAlternatives d = [d] := by
  rw [openAlternatives, alternatives, h, Option.getD_none]
  cases d with
  | nil => exact .inl rfl
  | cons e d => exact .inr rfl

/-- The number of alternatives that get a branch. -/
theorem openAlternatives_cases (d : Document) :
    openAlternatives d = [] ∨ (∃ e, openAlternatives d = [e]) ∨
      2 ≤ (openAlternatives d).length := by
  match openAlternatives d with
  | [] => exact .inl rfl
  | [e] => exact .inr (.inl ⟨e, rfl⟩)
  | _ :: _ :: _ => exact .inr (.inr (by simp))

/-- A document that lists alternatives and is written as one branch or none is smaller then. -/
theorem bulk_reread_lt {ds : List Document}
    (h : (openAlternatives (join .any ds)).length < 2) :
    bulk (reread (join .any ds)) < bulk (join .any ds) := by
  rw [reread_eq]
  rcases openAlternatives_cases (join .any ds) with hnil | ⟨e, hone⟩ | hmany
  · rw [hnil, bulk_join]
    show bulk [] < _
    rw [bulk_nil]
    omega
  · have he : e ∈ ds := by
      have hmem : e ∈ openAlternatives (join .any ds) := by
        rw [hone]
        exact List.mem_cons_self
      rw [openAlternatives_join] at hmem
      exact (List.mem_filter.1 hmem).1
    rw [hone]
    exact Nat.lt_of_le_of_lt (shrinks_asBranch e).le (bulk_lt_bulk_join .any he)
  · omega

/-- A document gets smaller when it is read and written, if it changes at all. -/
theorem shrinks_reread (d : Document) : Shrinks d (reread d) := by
  rcases operands?_cases .any d with ⟨ds, rfl⟩ | hnone
  · by_cases hl : (openAlternatives (join .any ds)).length < 2
    · exact .inr (bulk_reread_lt hl)
    · rw [reread_of_two_le (Nat.le_of_not_lt hl), openAlternatives_join]
      exact (shrinks_join_filter .any ds _).trans
        (shrinks_join_map .any (fun e _ => shrinks_asBranch e))
  · rcases openAlternatives_of_operands? hnone with rfl | hself
    · exact Shrinks.refl _
    · rw [reread_eq, hself]
      exact shrinks_asBranch d

/-- Exactly the documents that are settled are read and written without a change. -/
theorem reread_eq_self_iff {d : Document} : reread d = d ↔ isSettled d = true := by
  rcases operands?_cases .any d with ⟨ds, rfl⟩ | hnone
  · rw [isSettled_join_iff]
    constructor
    · intro h
      have htwo : 2 ≤ (openAlternatives (join .any ds)).length := by
        apply Nat.le_of_not_lt
        intro hlt
        have hsmaller := bulk_reread_lt hlt
        rw [h] at hsmaller
        omega
      rw [reread_of_two_le htwo, join_inj] at h
      have hbranches : (openAlternatives (join .any ds)).map asBranch = ds := h.2
      -- as many branches are written as alternatives are read
      have hlength := congrArg List.length hbranches
      rw [List.length_map, openAlternatives_join, List.length_filter_eq_length_iff] at hlength
      have hne : ∀ e ∈ ds, e ≠ [] := fun e he => by simpa using hlength e he
      rw [openAlternatives_join_of_ne_nil hne] at htwo hbranches
      exact ⟨htwo, fun e he =>
        ⟨hne e he, asBranch_eq_self_iff.1 (map_eq_self_iff.1 hbranches e he)⟩⟩
    · rintro ⟨htwo, hds⟩
      have hopen := openAlternatives_join_of_ne_nil (fun e he => (hds e he).1)
      have hbranches : ds.map asBranch = ds :=
        map_eq_self (fun e he => asBranch_eq_self_iff.2 (hds e he).2)
      rw [reread_of_two_le (by rwa [hopen]), hopen, hbranches]
  · have hsettled : isSettled d = isBareBranch d := by rw [isSettled, hnone]
    rw [hsettled]
    rcases openAlternatives_of_operands? hnone with rfl | hself
    · exact ⟨fun _ => rfl, fun _ => rfl⟩
    · rw [reread_eq, hself]
      exact asBranch_eq_self_iff

/-- A shallow document is settled once it has been read and written. -/
theorem isSettled_reread {d : Document} (h : isShallow d = true) :
    isSettled (reread d) = true := by
  rw [isShallow, Bool.and_eq_true, List.all_eq_true] at h
  obtain ⟨hbare, hone⟩ := h
  rcases openAlternatives_cases d with hnil | ⟨e, he⟩ | hmany
  · rw [reread_eq, hnil]
    rfl
  · rw [he] at hbare hone
    obtain ⟨hbranch, -, hany⟩ := asBranch_of_isBare (hbare e List.mem_cons_self)
    have hnone : operands? .any (asBranch e) = none := hany (by simpa using hone)
    rw [reread_eq, he]
    rw [List.map_cons, List.map_nil, isSettled, hnone, hbranch]
  · rw [reread_of_two_le hmany, isSettled_join_iff, List.length_map, List.forall_mem_map]
    refine ⟨hmany, fun e he => ?_⟩
    obtain ⟨hbranch, hne, -⟩ := asBranch_of_isBare (hbare e he)
    have hopen : e ≠ [] := by
      rw [openAlternatives] at he
      simpa using (List.mem_filter.1 he).2
    exact ⟨hne hopen, hbranch⟩

end Document

/-! ### Loading again -/

/-- The document of a filter that is loaded from a document, and then from its own document some
more times. -/
theorem render_reload {κ : Type} [Directives κ] (q : Query κ) (d : Document) (t : Settings)
    (n : Nat) :
    let after (n : Nat) : Document :=
      (runList QueryStep.runOn (.filter (.load d) :: List.replicate n (.filter .reload)) q
        t).state.filter.render
    after 0 = d.reread ∧ after (n + 1) = (after n).reread := by
  intro after
  refine ⟨rfl, ?_⟩
  simp only [after, filter_runList]
  rw [List.replicate_succ', ← List.cons_append, QueryStep.effects_append, QueryStep.effects_cons,
    QueryStep.effects_nil, QueryStep.effect, FilterStep.effect, Document.reread]

/-- **A document that is loaded over and over settles**, on queries of every kind. Loading it once
is enough if it is shallow. In general the document of the filter stays the same from one time to
the next exactly when it is settled, gets smaller every time that it does not, and is settled after
as many times as the size of the first document. -/
theorem reloads_settle {κ : Type} [Directives κ] (q : Query κ) (d : Document) (t : Settings) :
    let after (n : Nat) : Document :=
      (runList QueryStep.runOn (.filter (.load d) :: List.replicate n (.filter .reload)) q
        t).state.filter.render
    (d.isShallow = true → after 1 = after 0) ∧
      (∀ n, after (n + 1) = after n ↔ (after n).isSettled = true) ∧
      (∀ n, after (n + 1) ≠ after n → Document.bulk (after (n + 1)) < Document.bulk (after n)) ∧
      ∀ n, Document.bulk d ≤ n → after (n + 1) = after n := by
  intro after
  have hzero : after 0 = d.reread := (render_reload q d t 0).1
  have hsucc : ∀ n, after (n + 1) = (after n).reread := fun n => (render_reload q d t n).2
  have hiff : ∀ n, after (n + 1) = after n ↔ (after n).isSettled = true := by
    intro n
    rw [hsucc]
    exact Document.reread_eq_self_iff
  have hlt : ∀ n, after (n + 1) ≠ after n →
      Document.bulk (after (n + 1)) < Document.bulk (after n) := by
    intro n hn
    rw [hsucc] at hn ⊢
    exact (Document.shrinks_reread (after n)).resolve_left hn
  -- every time but the last ones costs the document a part of its size
  have hcost : ∀ n, after (n + 1) = after n ∨ Document.bulk (after n) + n ≤ Document.bulk d := by
    intro n
    induction n with
    | zero =>
      right
      rw [hzero]
      exact (Document.shrinks_reread d).le
    | succ n ih =>
      by_cases hn : after (n + 1) = after n
      · left
        rw [hsucc (n + 1), hn, ← hsucc n, hn]
      · right
        have := hlt n hn
        have := ih.resolve_left hn
        omega
  refine ⟨fun hd => ?_, hiff, hlt, fun n hn => ?_⟩
  · rw [hiff, hzero]
    exact Document.isSettled_reread hd
  · rcases hcost n with hsame | hle
    · exact hsame
    · apply Classical.byContradiction
      intro hne
      have := hlt n hne
      omega

/-- A shallow document with lists of a single document further inside and an empty alternative, and
one that is not shallow, of size eight. -/
theorem reloads_settle_groups :
    let a : Document := [("a", .null)]
    let b : Document := [("b", .null)]
    let sole : Document := [("$or", .array [.document a])]
    let shallow : Document := [("$or", .array [
      .document [("$and", .array [.document sole, .document b])], .document [], .document b])]
    let deep : Document := [("$or", .array [
      .document [], .document [("$or", .array [.document sole, .document b])]])]
    let after (d : Document) (n : Nat) : Document :=
      (runList QueryStep.runOn (.filter (.load d) :: List.replicate n (.filter .reload))
        (⟨{}, {}, ()⟩ : Where) {}).state.filter.render
    (shallow.isShallow = true ∧ after shallow 1 = after shallow 0) ∧
      deep.isShallow = false ∧ Document.bulk deep ≤ 8 ∧ after deep 9 = after deep 8 := by
  intro a b sole shallow deep after
  have hshallow : shallow.isShallow = true := by decide
  have hdeep : Document.bulk deep ≤ 8 := by decide
  exact ⟨⟨hshallow, (reloads_settle (⟨{}, {}, ()⟩ : Where) shallow {}).1 hshallow⟩, by decide,
    hdeep, (reloads_settle (⟨{}, {}, ()⟩ : Where) deep {}).2.2.2 8 hdeep⟩

/-- Under a list of a single alternative a list is stripped the second time only, and an empty
document that hides in a list of its own is left out the second time only, with which a filter that
matched everything no longer does. -/
theorem reload_strips_again :
    let q : Where := ⟨{}, {}, ()⟩
    let after (d : Document) (n : Nat) : Document :=
      (runList QueryStep.runOn (.filter (.load d) :: List.replicate n (.filter .reload)) q
        {}).state.filter.render
    let either (d e : Document) : Document := [("$or", .array [.document d, .document e])]
    let a : Document := [("a", .null)]
    let b : Document := [("b", .null)]
    let nested : Document :=
      [("$or", .array [.document (either [("$or", .array [.document a])] b)])]
    let hidden : Document := either [("$and", .array [.document []])] a
    (after nested 0 = either [("$or", .array [.document a])] b ∧ after nested 1 = either a b) ∧
      after hidden 0 = either [] a ∧ after hidden 1 = a := by
  decide

end DocQuery
