import DocQuery.Proofs.Filter.Meaning

/-!
# Collapsed filters

A document is collapsed when every list under `$and` or `$or`, down to the last one, has two
documents or more and none of them is empty. A filter is compact when it is made of documents that
are collapsed and not empty, and a branch or a list in it is never without need.

* `Document.isCollapsed_join`: when a document that joins others is collapsed;
* `Filter.Compact.isCollapsed_render`, `Filter.Compact.render_eq_nil_iff`: a compact filter has a
  collapsed document, which is empty only without branches;
* `Filter.Compact.constrain`, `Filter.Compact.embed`, `Filter.compact_load`: adding to a compact
  filter and loading a collapsed document give compact filters;
* `isCollapsed_render_runList`: so do steps that name no field like a connective;
* `Input.hasContent_steps_iff`: a sub-filter of such steps has content when they add something.
-/

namespace DocQuery

namespace Document

mutual

/-- Whether all lists under `$and` and `$or` have two documents or more, none of them empty. -/
def isCollapsed : List (String × Value) → Bool
  | [] => true
  | (k, v) :: d => (if k = "$and" ∨ k = "$or" then isCollapsedList v else true) && isCollapsed d

/-- Whether a value is such a list. -/
def isCollapsedList : Value → Bool
  | .array vs => decide (2 ≤ vs.length) && areCollapsed vs
  | _ => false

/-- Whether values are collapsed documents that are not empty. -/
def areCollapsed : List Value → Bool
  | [] => true
  | v :: vs => isCollapsedItem v && areCollapsed vs

/-- Whether a value is a collapsed document that is not empty. -/
def isCollapsedItem : Value → Bool
  | .document d => !d.isEmpty && isCollapsed d
  | _ => false

end

/-- A document that has a condition and is collapsed. -/
structure Compact (d : Document) : Prop where
  ne_nil : d ≠ []
  isCollapsed : Document.isCollapsed d = true

@[simp] theorem isCollapsed_nil : isCollapsed [] = true := by
  rw [isCollapsed]

theorem isCollapsed_cons (k : String) (v : Value) (d : Document) :
    isCollapsed ((k, v) :: d) = true ↔
      (Connective.isKey k = true → isCollapsedList v = true) ∧ isCollapsed d = true := by
  have hk : (k = "$and" ∨ k = "$or") ↔ Connective.isKey k = true := by simp [Connective.isKey]
  rw [isCollapsed, Bool.and_eq_true]
  by_cases h : Connective.isKey k = true
  · simp [hk, h]
  · simp [hk, h]

theorem areCollapsed_documents (ds : List Document) :
    areCollapsed (ds.map .document) = true ↔ ∀ d ∈ ds, Compact d := by
  induction ds with
  | nil => simp [areCollapsed]
  | cons d ds ih =>
    rw [List.map_cons, areCollapsed, isCollapsedItem, Bool.and_eq_true, ih, List.forall_mem_cons]
    refine and_congr_left fun _ => ?_
    rw [Bool.and_eq_true, Bool.not_eq_true', List.isEmpty_eq_false_iff]
    exact ⟨fun h => ⟨h.1, h.2⟩, fun h => ⟨h.1, h.2⟩⟩

/-- When a document that joins others is collapsed. -/
theorem isCollapsed_join (c : Connective) (ds : List Document) :
    isCollapsed (join c ds) = true ↔ 2 ≤ ds.length ∧ ∀ d ∈ ds, Compact d := by
  have hk : Connective.isKey c.key = true := Connective.isKey_iff.2 ⟨c, rfl⟩
  rw [join, isCollapsed_cons, Value.documents, isCollapsedList, Bool.and_eq_true,
    areCollapsed_documents]
  simp [hk]

theorem compact_join (c : Connective) {ds : List Document} (hl : 2 ≤ ds.length)
    (h : ∀ d ∈ ds, Compact d) : Compact (join c ds) :=
  ⟨List.cons_ne_nil _ _, (isCollapsed_join c ds).2 ⟨hl, h⟩⟩

/-- The documents that a collapsed document joins. -/
theorem compact_operands {c : Connective} {d : Document} (h : isCollapsed d = true)
    {ds : List Document} (ho : operands? c d = some ds) :
    2 ≤ ds.length ∧ ∀ e ∈ ds, Compact e := by
  rw [operands?_eq_some_iff.1 ho] at h
  exact (isCollapsed_join c ds).1 h

/-- There is nothing to strip from a collapsed document. -/
theorem unwrap_of_isCollapsed {d : Document} (h : isCollapsed d = true) : unwrap d = d := by
  rw [unwrap_eq]
  have hw : wrapped? d = none := by
    unfold wrapped?
    split
    · rename_i k e
      rw [ite_eq_right_iff]
      intro hk
      -- under a connective there would be two documents or more
      have hl := ((isCollapsed_cons _ _ _).1 h).1 hk
      simp [isCollapsedList] at hl
    · rfl
  rw [hw]

/-- A function that keeps all entries of a list keeps the list. -/
theorem map_eq_self {α : Type} {f : α → α} {as : List α} (h : ∀ a ∈ as, f a = a) :
    as.map f = as := by
  rw [List.map_congr_left h]
  exact List.map_id' as

/-- There is nothing to strip from collapsed documents in a list. -/
theorem map_unwrap_of_compact {ds : List Document} (h : ∀ d ∈ ds, Compact d) :
    ds.map unwrap = ds :=
  map_eq_self (fun d hd => unwrap_of_isCollapsed (h d hd).isCollapsed)

/-- A document with a single field that is not named like a connective. -/
theorem compact_singleton {k : String} (hk : Connective.isKey k = false) (v : Value) :
    Compact [(k, v)] where
  ne_nil := List.cons_ne_nil _ _
  isCollapsed := by
    rw [isCollapsed_cons]
    simp [hk]

/-- Inserting under a key that is none of a connective keeps a document collapsed. -/
theorem isCollapsed_insert {k : String} (hk : Connective.isKey k = false) (v : Value) {d : Document}
    (h : isCollapsed d = true) : isCollapsed (OrderedMap.insert d k v) = true := by
  induction d with
  | nil => exact (compact_singleton hk v).isCollapsed
  | cons e d ih =>
    obtain ⟨j, a⟩ := e
    rw [isCollapsed_cons] at h
    rw [OrderedMap.insert]
    split
    · rename_i hj
      rw [isCollapsed_cons, hj]
      exact ⟨fun hc => absurd hc (by simp [hk]), h.2⟩
    · rw [isCollapsed_cons]
      exact ⟨h.1, ih h.2⟩

theorem insert_ne_nil (d : Document) (k : String) (v : Value) : OrderedMap.insert d k v ≠ [] := by
  cases d with
  | nil => exact List.cons_ne_nil _ _
  | cons e d =>
    rw [OrderedMap.insert]
    split <;> exact List.cons_ne_nil _ _

/-- A condition on a field that is not named like a connective keeps a document collapsed. -/
theorem compact_constrain? {k : String} (hk : Connective.isKey k = false) {v : Value}
    {d e : Document} (h : isCollapsed d = true) (he : constrain? d k v = some e) : Compact e := by
  unfold constrain? at he
  split at he
  · rw [Option.some.injEq] at he
    rw [← he]
    exact ⟨insert_ne_nil _ _ _, isCollapsed_insert hk _ h⟩
  · split at he
    · rw [Option.some.injEq] at he
      rw [← he]
      exact ⟨insert_ne_nil _ _ _, isCollapsed_insert hk _ h⟩
    · simp at he

/-- A condition keeps the documents of a list collapsed, and takes none away. -/
theorem compact_constrainLast {k : String} (hk : Connective.isKey k = false) (v : Value)
    {ds : List Document} (h : ∀ d ∈ ds, Compact d) :
    (∀ d ∈ constrainLast ds k v, Compact d) ∧ ds.length ≤ (constrainLast ds k v).length := by
  fun_induction constrainLast ds k v with
  | case1 k v => simp [compact_singleton hk v]
  | case2 d k v hc =>
    have hd := h d List.mem_cons_self
    simp [hd, compact_singleton hk v]
  | case3 d k v hc e he =>
    have hd := h d List.mem_cons_self
    simp [compact_constrain? hk hd.isCollapsed he]
  | case4 d k v hc hn =>
    have hd := h d List.mem_cons_self
    simp [hd, compact_singleton hk v]
  | case5 d e ds k v ih =>
    rw [List.forall_mem_cons] at h
    obtain ⟨ih, hl⟩ := ih hk h.2
    refine ⟨List.forall_mem_cons.2 ⟨h.1, ih⟩, ?_⟩
    simpa using hl

end Document

/-! ### Clauses -/

/-- A clause of collapsed documents, none of them empty, and of two or more if it is a list. -/
def Clause.Compact : Clause → Prop
  | .fields d => Document.Compact d
  | .all ds => 2 ≤ ds.length ∧ ∀ d ∈ ds, Document.Compact d

namespace Clause

theorem compact_ofDocument {d : Document} (h : Document.Compact d) : (ofDocument d).Compact := by
  rw [ofDocument, Document.unwrap_of_isCollapsed h.isCollapsed]
  split
  · rename_i ds ho
    obtain ⟨hl, hds⟩ := Document.compact_operands h.isCollapsed ho
    rw [Document.map_unwrap_of_compact hds]
    exact ⟨hl, hds⟩
  · exact h

theorem Compact.render {c : Clause} (h : c.Compact) : Document.Compact c.render := by
  cases c with
  | fields d => exact h
  | all ds =>
    obtain ⟨hl, hds⟩ := h
    rw [Clause.render.eq_def]
    split
    · rename_i heq
      cases heq
    · rename_i d heq
      cases heq
      exact hds d List.mem_cons_self
    · rename_i es _ heq
      cases heq
      exact Document.compact_join .all hl hds

theorem Compact.constrain {c : Clause} (h : c.Compact) {k : String}
    (hk : Connective.isKey k = false) (v : Value) : (c.constrain k v).Compact := by
  cases c with
  | fields d =>
    rw [Clause.constrain]
    cases he : Document.constrain? d k v with
    | none =>
      refine ⟨by simp, ?_⟩
      simpa using ⟨h, Document.compact_singleton hk v⟩
    | some e => exact Document.compact_constrain? hk h.isCollapsed he
  | all ds =>
    obtain ⟨hl, hds⟩ := h
    obtain ⟨hc, hle⟩ := Document.compact_constrainLast hk v hds
    exact ⟨Nat.le_trans hl hle, hc⟩

/-- A flat clause takes its first condition, too. -/
theorem compact_constrain_nil {k : String} (hk : Connective.isKey k = false) (v : Value) :
    ((Clause.fields []).constrain k v).Compact :=
  Document.compact_singleton hk v

end Clause

/-! ### Branches -/

/-- A branch with a clause, all of whose clauses are compact. -/
structure Branch.Compact (b : Branch) : Prop where
  ne_nil : b ≠ []
  clauses : ∀ c ∈ b, c.Compact

namespace Branch

theorem compact_singleton {c : Clause} (h : c.Compact) : Compact [c] :=
  ⟨List.cons_ne_nil _ _, by simpa using h⟩

theorem compact_ofDocument {d : Document} (h : Document.Compact d) : Compact (ofDocument d) := by
  rw [ofDocument]
  split
  · rename_i ds ho
    obtain ⟨hl, hds⟩ := Document.compact_operands h.isCollapsed ho
    refine ⟨fun hn => ?_, fun c hc => ?_⟩
    · rw [List.map_eq_nil_iff] at hn
      simp [hn] at hl
    · obtain ⟨e, he, rfl⟩ := List.mem_map.1 hc
      exact Clause.compact_ofDocument (hds e he)
  · exact compact_singleton (Clause.compact_ofDocument h)

theorem Compact.render {b : Branch} (h : Compact b) : Document.Compact (Branch.render b) := by
  have hd : ∀ d ∈ b.map Clause.render, Document.Compact d := by
    intro d hd
    obtain ⟨c, hc, rfl⟩ := List.mem_map.1 hd
    exact (h.clauses c hc).render
  rcases b with _ | ⟨c, _ | ⟨e, b⟩⟩
  · exact absurd rfl h.ne_nil
  · have hc := hd c.render (by simp)
    rwa [render_singleton, Document.unwrap_of_isCollapsed hc.isCollapsed]
  · rw [render_cons_cons]
    exact Document.compact_join .all (by simp) hd

/-- A branch stays compact with another last clause. -/
theorem Compact.amend {b : Branch} (h : ∀ c ∈ b, c.Compact) {c : Clause} (hc : c.Compact) :
    Compact (b.dropLast ++ [c]) := by
  refine ⟨by simp, fun e he => ?_⟩
  rcases List.mem_append.1 he with he | he
  · exact h e ((List.dropLast_sublist b).subset he)
  · rwa [List.mem_singleton.1 he]

/-- A condition makes a branch compact, also one without clauses. -/
theorem compact_constrain {b : Branch} (h : ∀ c ∈ b, c.Compact) {k : String}
    (hk : Connective.isKey k = false) (v : Value) : Compact (Branch.constrain b k v) := by
  rw [Branch.constrain, amendLast_eq]
  apply Compact.amend h
  rcases List.eq_nil_or_concat b with rfl | ⟨b, c, rfl⟩
  · exact Clause.compact_constrain_nil hk v
  · rw [List.concat_eq_append, List.getLastD_concat]
    exact (h c (by simp)).constrain hk v

end Branch

/-! ### Filters -/

/-- A filter all of whose branches are compact. -/
def Filter.Compact (f : Filter) : Prop := ∀ b ∈ f.branches, Branch.Compact b

namespace Filter

variable {f : Filter}

theorem compact_empty : Compact {} := fun _ hb => absurd hb List.not_mem_nil

theorem Compact.render_branches (h : f.Compact) :
    ∀ d ∈ f.branches.map Branch.render, Document.Compact d := by
  intro d hd
  obtain ⟨b, hb, rfl⟩ := List.mem_map.1 hd
  exact (h b hb).render

/-- The document of a compact filter is collapsed. -/
theorem Compact.isCollapsed_render (h : f.Compact) : Document.isCollapsed f.render = true := by
  have hd := h.render_branches
  obtain ⟨_ | ⟨b, _ | ⟨c, bs⟩⟩⟩ := f
  · exact Document.isCollapsed_nil
  · exact (hd b.render (by simp)).isCollapsed
  · exact (Document.compact_join .any (by simp) hd).isCollapsed

/-- The document of a compact filter is empty only when the filter is. -/
theorem Compact.render_eq_nil_iff (h : f.Compact) : f.render = [] ↔ f.branches = [] := by
  have hd := h.render_branches
  obtain ⟨_ | ⟨b, _ | ⟨c, bs⟩⟩⟩ := f
  · simp
  · simp [(hd b.render (by simp)).ne_nil]
  · simp [Document.join]

/-- A filter stays compact with another branch in the place of the last one, or after it. -/
theorem Compact.amend (h : f.Compact) {b : Branch} (hb : Branch.Compact b) :
    Compact ⟨f.branches.dropLast ++ [b]⟩ ∧ Compact ⟨f.branches ++ [b]⟩ := by
  constructor <;> intro c hc <;> rcases List.mem_append.1 hc with hc | hc
  · exact h c ((List.dropLast_sublist _).subset hc)
  · rwa [List.mem_singleton.1 hc]
  · exact h c hc
  · rwa [List.mem_singleton.1 hc]

/-- The clauses of the last branch. -/
theorem Compact.getLastD (h : f.Compact) : ∀ c ∈ f.branches.getLastD [], c.Compact := by
  intro c hc
  rcases List.eq_nil_or_concat f.branches with hb | ⟨bs, b, hb⟩
  · simp [hb] at hc
  · rw [hb, List.concat_eq_append, List.getLastD_concat] at hc
    exact (h b (by simp [hb])).clauses c hc

/-- A condition on a field that is not named like a connective keeps a filter compact. -/
theorem Compact.constrain (h : f.Compact) (chain : Chain) {k : String}
    (hk : Connective.isKey k = false) (v : Value) : (f.constrain chain k v).Compact := by
  cases chain with
  | and =>
    rw [Filter.constrain, amendLast_eq]
    exact (h.amend (Branch.compact_constrain h.getLastD hk v)).1
  | or =>
    have hc : Clause.Compact (.fields [(k, v)]) := Document.compact_singleton hk v
    exact (h.amend (Branch.compact_singleton hc)).2

theorem Compact.constrainAll (h : f.Compact) (chain : Chain) {d : List (String × Value)}
    (hd : ∀ e ∈ d, Connective.isKey e.1 = false) : (f.constrainAll chain d).1.Compact := by
  induction d generalizing f with
  | nil => exact h
  | cons e d ih =>
    rw [List.forall_mem_cons] at hd
    exact ih (h.constrain chain hd.1 e.2) hd.2

/-- A collapsed sub-filter keeps a filter compact. -/
theorem Compact.embed (h : f.Compact) (chain : Chain) {d : Document}
    (hd : Document.isCollapsed d = true) : (f.embed chain d).Compact := by
  unfold Filter.embed
  rw [Document.unwrap_of_isCollapsed hd]
  dsimp only
  split
  · exact h
  · rename_i hne
    have hc : (Clause.ofDocument d).Compact :=
      Clause.compact_ofDocument ⟨fun hn => hne (List.isEmpty_iff.2 hn), hd⟩
    cases chain with
    | and =>
      dsimp only
      rw [amendLast_eq]
      refine (h.amend ⟨by simp, fun e he => ?_⟩).1
      rcases List.mem_append.1 he with he | he
      · exact h.getLastD e he
      · rwa [List.mem_singleton.1 he]
    | or => exact (h.amend (Branch.compact_singleton hc)).2

/-- A sub-filter that must not match keeps a filter compact, whatever it is. -/
theorem Compact.exclude (h : f.Compact) (chain : Chain) (x : Exclusion) (d : Document) :
    (f.exclude chain x d).1.Compact := by
  rw [Filter.exclude]
  split
  · exact h
  · exact h.constrain chain (by cases x <;> decide) _

/-- A filter that is loaded from a collapsed document is compact. -/
theorem compact_load {d : Document} (hd : Document.isCollapsed d = true) : (load d).Compact := by
  intro b hb
  rw [load] at hb
  obtain ⟨e, he, rfl⟩ := List.mem_map.1 hb
  obtain ⟨he, hne⟩ := List.mem_filter.1 he
  have hne : e ≠ [] := by simpa using hne
  apply Branch.compact_ofDocument
  cases ho : Document.operands? .any d with
  | some ds =>
    rw [ho] at he
    exact (Document.compact_operands hd ho).2 e he
  | none =>
    rw [ho] at he
    rw [List.mem_singleton.1 he] at hne ⊢
    exact ⟨hne, hd⟩

end Filter

/-! ### Steps -/

mutual

/-- Whether a filter step names no field like a connective and gives collapsed documents, if it
gives any, like all the steps that it holds. What must not match may be anything. -/
def FilterStep.isTidy (s : FilterStep) : Bool :=
  match s with
  | .condition _ field _ => !Connective.isKey field
  | .fields _ d => d.all (fun e => !Connective.isKey e.1)
  | .clause _ input => FilterStep.isTidyInput input
  | .exclusion _ _ _ => true
  | .load d => Document.isCollapsed d
  | .reload => true
  | .clear => true

/-- Whether a sub-filter is a collapsed document or given by tidy steps. -/
def FilterStep.isTidyInput (input : Input QueryStep) : Bool :=
  match input with
  | .document d => Document.isCollapsed d
  | .value v =>
    match v with
    | .document d => Document.isCollapsed d
    | _ => true
  | .steps ss => QueryStep.areTidy ss

/-- Whether a step is tidy, if it touches the filter at all. -/
def QueryStep.isTidy (s : QueryStep) : Bool :=
  match s with
  | .filter s => FilterStep.isTidy s
  | .option _ => true

/-- Whether steps are tidy. -/
def QueryStep.areTidy (ss : List QueryStep) : Bool :=
  match ss with
  | [] => true
  | s :: ss => QueryStep.isTidy s && QueryStep.areTidy ss

end

mutual

/-- A tidy step keeps a filter compact. -/
theorem FilterStep.compact_effect (s : FilterStep) (hs : s.isTidy = true) {f : Filter}
    (h : f.Compact) : (s.effect f).Compact := by
  cases s with
  | condition chain field c =>
    rw [FilterStep.isTidy, Bool.not_eq_true'] at hs
    rw [FilterStep.effect]
    cases c.statement with
    | ok v => exact h.constrain chain hs v
    | error e => exact h
  | fields chain d =>
    rw [FilterStep.isTidy, List.all_eq_true] at hs
    rw [FilterStep.effect]
    exact h.constrainAll chain (fun e he => by simpa using hs e he)
  | clause chain i =>
    rw [FilterStep.isTidy] at hs
    rw [FilterStep.effect]
    cases hc : FilterStep.compile i with
    | ok d => exact h.embed chain (FilterStep.isCollapsed_compile i hs hc)
    | error e => exact h
  | exclusion chain x i =>
    rw [FilterStep.effect]
    cases FilterStep.compile i with
    | ok d => exact h.exclude chain x d
    | error e => exact h
  | load d =>
    rw [FilterStep.isTidy] at hs
    rw [FilterStep.effect]
    exact Filter.compact_load hs
  | reload =>
    -- what is loaded is the document of the filter itself
    rw [FilterStep.effect]
    exact Filter.compact_load h.isCollapsed_render
  | clear =>
    rw [FilterStep.effect]
    exact Filter.compact_empty

/-- The document of a tidy sub-filter is collapsed. -/
theorem FilterStep.isCollapsed_compile (i : Input QueryStep)
    (hi : FilterStep.isTidyInput i = true) {d : Document} (h : FilterStep.compile i = .ok d) :
    Document.isCollapsed d = true := by
  cases i with
  | document e =>
    rw [FilterStep.isTidyInput] at hi
    rw [FilterStep.compile, Except.ok.injEq] at h
    rwa [← h]
  | value v =>
    rw [FilterStep.isTidyInput.eq_def] at hi
    rw [FilterStep.compile] at h
    cases v <;> simp [Value.asDocument] at h
    rwa [← h]
  | steps ss =>
    rw [FilterStep.isTidyInput] at hi
    rw [FilterStep.compile, Except.ok.injEq] at h
    rw [← h]
    exact (QueryStep.compact_effects ss hi Filter.compact_empty).isCollapsed_render

theorem QueryStep.compact_effect (s : QueryStep) (hs : s.isTidy = true) {f : Filter}
    (h : f.Compact) : (s.effect f).Compact := by
  cases s with
  | filter s =>
    rw [QueryStep.isTidy] at hs
    rw [QueryStep.effect]
    exact FilterStep.compact_effect s hs h
  | option s => rwa [QueryStep.effect]

/-- Tidy steps keep a filter compact. -/
theorem QueryStep.compact_effects (ss : List QueryStep) (hss : QueryStep.areTidy ss = true)
    {f : Filter} (h : f.Compact) : (QueryStep.effects ss f).Compact := by
  cases ss with
  | nil => rwa [QueryStep.effects]
  | cons s ss =>
    rw [QueryStep.areTidy, Bool.and_eq_true] at hss
    rw [QueryStep.effects]
    exact QueryStep.compact_effects ss hss.2 (QueryStep.compact_effect s hss.1 h)

end

/-- A sub-filter of tidy steps has content exactly when its steps add something. -/
theorem Input.hasContent_steps_iff (ρ : Valuation) {ss : List QueryStep}
    (ht : QueryStep.areTidy ss = true) (ha : QueryStep.areAdditive ss = true) :
    Input.HasContent Document.IsHollow (.steps ss) ↔ ρ.querySteps ss ≠ [] := by
  have hc := QueryStep.compact_effects ss ht Filter.compact_empty
  have hb : (QueryStep.effects ss {}).branches = [] ↔ ρ.querySteps ss = [] := by
    have h := ρ.branches_querySteps ss ha {}
    rw [← List.map_eq_nil_iff, ← Valuation.branches, h, Alternatives.joinAll_eq_nil_iff]
    simp [Valuation.branches]
  have hcompile : FilterStep.compile (.steps ss) = .ok (QueryStep.effects ss {}).render := by
    rw [FilterStep.compile]
  rw [Input.hasContent_of_ok hcompile, Document.isHollow_iff,
    Document.unwrap_of_isCollapsed hc.isCollapsed_render, hc.render_eq_nil_iff, hb]

/-- The first of some tidy steps. -/
theorem QueryStep.areTidy_take {ss : List QueryStep} (h : QueryStep.areTidy ss = true) (n : Nat) :
    QueryStep.areTidy (ss.take n) = true := by
  induction ss generalizing n with
  | nil => simpa using h
  | cons s ss ih =>
    cases n with
    | zero => rw [List.take_zero, QueryStep.areTidy]
    | succ n =>
      rw [QueryStep.areTidy, Bool.and_eq_true] at h
      rw [List.take_succ_cons, QueryStep.areTidy, h.1, ih h.2]
      rfl

/-- **The document of a filter is collapsed after every one of its steps**, and empty only when the
filter has no branches, on queries of every kind. -/
theorem isCollapsed_render_runList {κ : Type} [Directives κ] (ss : List QueryStep)
    (hss : QueryStep.areTidy ss = true) (n : Nat) (o : Options) (k : κ) (t : Settings) :
    let f := (runList QueryStep.runOn (ss.take n) ⟨{}, o, k⟩ t).state.filter
    Document.isCollapsed f.render = true ∧ (f.render = [] ↔ f.branches = []) := by
  intro f
  have h : f.Compact := by
    rw [show f = _ from filter_runList (ss.take n) ⟨{}, o, k⟩ t]
    exact QueryStep.compact_effects _ (QueryStep.areTidy_take hss n) Filter.compact_empty
  exact ⟨h.isCollapsed_render, h.render_eq_nil_iff⟩

/-- A loaded list of alternatives, a repeated field, a group, the filter loaded again, and something
that must not match although its document is not collapsed. -/
theorem isCollapsed_render_runList_loaded :
    let ss : List QueryStep := [
      .filter (.load [("$or", .array [.document [("a", .null)], .document [("b", .null)]])]),
      .filter (.condition .and "b" .present),
      .filter (.clause .and (.steps [
        .filter (.fields .or [("a", .null), ("b", .null)])])),
      .filter .reload,
      .filter (.exclusion .and .not (.document [("$or", .array [])]))]
    let f := (runList QueryStep.runOn (ss.take 5) (⟨{}, {}, ()⟩ : Where) {}).state.filter
    QueryStep.areTidy ss = true ∧
      Document.isCollapsed f.render = true ∧ (f.render = [] ↔ f.branches = []) :=
  ⟨by decide, isCollapsed_render_runList _ (by decide) 5 {} () {}⟩

end DocQuery
