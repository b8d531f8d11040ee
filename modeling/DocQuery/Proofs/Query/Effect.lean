import DocQuery.Query.Sequence

/-!
# What steps do to the filter

Running a step hands on settings, options and answers. The filter depends on none of them:
`FilterStep.effect` is the change of the filter alone, and `FilterStep.compile` the document of a
sub-filter alone.

* `FilterStep.run_state`, `FilterStep.resolve_state`: running a step changes the filter by its
  effect, whatever the settings are;
* `filter_runList`: steps on a query of any kind change its filter by their effects;
* `Input.HasContent`: whether a sub-filter has something to say, told by the document that it stands
  for; `Input.standsFor_iff`, `Document.isHollow_iff`: which one that is, and when it is empty.
-/

namespace DocQuery

mutual

/-- The filter after a filter step. -/
def FilterStep.effect (s : FilterStep) (f : Filter) : Filter :=
  match s with
  | .condition chain field c =>
    match c.statement with
    | .ok v => f.constrain chain field v
    | .error _ => f
  | .fields chain d => (f.constrainAll chain d).1
  | .clause chain input =>
    match FilterStep.compile input with
    | .ok d => f.embed chain d
    | .error _ => f
  | .exclusion chain e input =>
    match FilterStep.compile input with
    | .ok d => (f.exclude chain e d).1
    | .error _ => f
  | .load d => Filter.load d
  | .reload => Filter.load f.render
  | .clear => {}

/-- The document of a sub-filter. -/
def FilterStep.compile (input : Input QueryStep) : Except Error Document :=
  match input with
  | .document d => .ok d
  | .value v => v.asDocument
  | .steps ss => .ok (QueryStep.effects ss {}).render

/-- The filter after a step that every query takes. -/
def QueryStep.effect (s : QueryStep) (f : Filter) : Filter :=
  match s with
  | .filter s => FilterStep.effect s f
  | .option _ => f

/-- The filter after several steps. -/
def QueryStep.effects (ss : List QueryStep) (f : Filter) : Filter :=
  match ss with
  | [] => f
  | s :: ss => QueryStep.effects ss (QueryStep.effect s f)

end

@[simp] theorem QueryStep.effects_nil (f : Filter) : QueryStep.effects [] f = f := by
  rw [QueryStep.effects]

@[simp] theorem QueryStep.effects_cons (s : QueryStep) (ss : List QueryStep) (f : Filter) :
    QueryStep.effects (s :: ss) f = QueryStep.effects ss (s.effect f) := by
  rw [QueryStep.effects]

theorem QueryStep.effects_append (ss us : List QueryStep) (f : Filter) :
    QueryStep.effects (ss ++ us) f = QueryStep.effects us (QueryStep.effects ss f) := by
  induction ss generalizing f with
  | nil => simp
  | cons s ss ih => simp [ih]

/-- An option step leaves the filter of a query as it is. -/
theorem filter_optionStep_run {κ : Type} [Directives κ] (s : OptionStep) (q : Query κ)
    (t : Settings) : (s.run q t).state.filter = q.filter := by
  cases s with
  | patch d =>
    simp only [OptionStep.run]
    split <;> rfl
  | _ => rfl

mutual

/-- Running a filter step changes the filter by its effect. -/
theorem FilterStep.run_state (s : FilterStep) (f : Filter) (t : Settings) :
    (s.run f t).state = s.effect f := by
  cases s with
  | condition chain field c =>
    rw [FilterStep.run, FilterStep.effect]
    cases c.statement <;> rfl
  | fields chain d => rw [FilterStep.run, FilterStep.effect]; rfl
  | clause chain input =>
    rw [FilterStep.run, FilterStep.effect, ← FilterStep.resolve_state input t]
    cases (FilterStep.resolve input t).state <;> rfl
  | exclusion chain e input =>
    rw [FilterStep.run, FilterStep.effect, ← FilterStep.resolve_state input t]
    cases (FilterStep.resolve input t).state <;> rfl
  | load d => rw [FilterStep.run, FilterStep.effect]; rfl
  | reload => rw [FilterStep.run, FilterStep.effect]; rfl
  | clear => rw [FilterStep.run, FilterStep.effect]; rfl

/-- Resolving a sub-filter gives its document. -/
theorem FilterStep.resolve_state (input : Input QueryStep) (t : Settings) :
    (FilterStep.resolve input t).state = FilterStep.compile input := by
  cases input with
  | document d => rw [FilterStep.resolve, FilterStep.compile]
  | value v => rw [FilterStep.resolve, FilterStep.compile]
  | steps ss =>
    -- the steps run on a query of their own, of which only the filter is kept
    rw [FilterStep.resolve, FilterStep.compile, ← QueryStep.filter_runAll ss { directives := () } t]

/-- Running a step on a plain query changes its filter by the effect of the step. -/
theorem QueryStep.filter_run (s : QueryStep) (q : Where) (t : Settings) :
    (s.run q t).state.filter = s.effect q.filter := by
  cases s with
  | filter s =>
    rw [QueryStep.run, QueryStep.effect, ← FilterStep.run_state s q.filter t]
  | option s => rw [QueryStep.run, QueryStep.effect, filter_optionStep_run]

/-- Running steps on a plain query changes its filter by their effects. -/
theorem QueryStep.filter_runAll (ss : List QueryStep) (q : Where) (t : Settings) :
    (QueryStep.runAll ss q t).state.filter = QueryStep.effects ss q.filter := by
  cases ss with
  | nil => rw [QueryStep.runAll, QueryStep.effects]
  | cons s ss =>
    rw [QueryStep.runAll, QueryStep.effects, ← QueryStep.filter_run s q t]
    exact QueryStep.filter_runAll ss _ _

end

/-- A step on a query of any kind changes its filter by its effect. -/
theorem filter_runOn {κ : Type} [Directives κ] (s : QueryStep) (q : Query κ) (t : Settings) :
    (s.runOn q t).state.filter = s.effect q.filter := by
  cases s with
  | filter s =>
    rw [QueryStep.effect, ← FilterStep.run_state s q.filter t]
    rfl
  | option s =>
    rw [QueryStep.effect]
    exact filter_optionStep_run s q t

/-- Steps on a query of any kind change its filter by their effects. -/
theorem filter_runList {κ : Type} [Directives κ] (ss : List QueryStep) (q : Query κ)
    (t : Settings) :
    (runList QueryStep.runOn ss q t).state.filter = QueryStep.effects ss q.filter := by
  induction ss generalizing q t with
  | nil => rw [QueryStep.effects]; rfl
  | cons s ss ih => rw [QueryStep.effects_cons, ← filter_runOn s q t, ← ih]; rfl

/-! ### Sub-filters -/

/-- The document that an input stands for: a document itself, and what its calls build. -/
inductive Input.StandsFor {σ : Type} (Builds : List σ → Document → Prop) : Input σ → Document → Prop
  | document (d : Document) : StandsFor Builds (.document d) d
  | value (d : Document) : StandsFor Builds (.value (.document d)) d
  | steps {ss : List σ} {d : Document} (h : Builds ss d) : StandsFor Builds (.steps ss) d

/-- The document of the filter that steps build on a fresh query, whatever the settings are. -/
def QueryStep.Builds (ss : List QueryStep) (d : Document) : Prop :=
  ∀ t : Settings, (QueryStep.runAll ss { directives := () } t).state.filter.render = d

/-- Documents in which nothing is left but connectives over a single document. -/
inductive Document.IsHollow : Document → Prop
  | empty : IsHollow []
  | all {d : Document} (h : IsHollow d) : IsHollow [("$and", .array [.document d])]
  | any {d : Document} (h : IsHollow d) : IsHollow [("$or", .array [.document d])]

/-- A sub-filter that has something to say: it stands for a document that is not among those that
count as empty. One that is refused has not. -/
def Input.HasContent (IsEmpty : Document → Prop) (input : Input QueryStep) : Prop :=
  ∃ d, input.StandsFor QueryStep.Builds d ∧ ¬ IsEmpty d

theorem QueryStep.builds_iff {ss : List QueryStep} {d : Document} :
    Builds ss d ↔ (QueryStep.effects ss {}).render = d := by
  simp only [Builds, QueryStep.filter_runAll]
  exact ⟨fun h => h {}, fun h _ => h⟩

/-- An input stands for its document. -/
theorem Input.standsFor_iff {input : Input QueryStep} {d : Document} :
    input.StandsFor QueryStep.Builds d ↔ FilterStep.compile input = .ok d := by
  constructor
  · rintro (_ | _ | h)
    · rw [FilterStep.compile]
    · rw [FilterStep.compile]; rfl
    · rw [FilterStep.compile, QueryStep.builds_iff.1 h]
  · intro h
    cases input with
    | document e =>
      rw [FilterStep.compile] at h
      cases h
      exact .document d
    | value v =>
      rw [FilterStep.compile] at h
      cases v <;> cases h
      exact .value d
    | steps ss =>
      rw [FilterStep.compile] at h
      cases h
      exact .steps (QueryStep.builds_iff.2 rfl)

theorem Document.isHollow_join {d : Document} (h : d.IsHollow) (c : Connective) :
    (Document.join c [d]).IsHollow := by
  cases c with
  | all => exact .all h
  | any => exact .any h

/-- Nothing is left of a hollow document when it is stripped. -/
theorem Document.unwrap_of_isHollow {d : Document} (h : d.IsHollow) : unwrap d = [] := by
  induction h with
  | empty => rfl
  | all _ ih => exact ih
  | any _ ih => exact ih

theorem Document.sizeOf_lt_join (c : Connective) (d : Document) : sizeOf d < sizeOf (join c [d]) := by
  simp only [join, Value.documents, List.map_cons, List.map_nil, List.cons.sizeOf_spec,
    Prod.mk.sizeOf_spec, Value.array.sizeOf_spec, Value.document.sizeOf_spec]
  omega

theorem Document.isHollow_of_unwrap {d : Document} (h : unwrap d = []) : d.IsHollow := by
  rw [unwrap_eq] at h
  cases hw : wrapped? d with
  | none =>
    rw [hw] at h
    have hd : d = [] := h
    exact hd ▸ .empty
  | some e =>
    rw [hw] at h
    obtain ⟨c, hd⟩ := wrapped?_eq_some_iff.1 hw
    have hlt : sizeOf e < sizeOf d := hd ▸ sizeOf_lt_join c e
    exact hd ▸ isHollow_join (isHollow_of_unwrap h) c
termination_by sizeOf d

theorem Document.isHollow_iff {d : Document} : d.IsHollow ↔ unwrap d = [] :=
  ⟨unwrap_of_isHollow, isHollow_of_unwrap⟩

variable {IsEmpty : Document → Prop} {input : Input QueryStep}

theorem Input.hasContent_of_ok {d : Document} (h : FilterStep.compile input = .ok d) :
    input.HasContent IsEmpty ↔ ¬ IsEmpty d := by
  simp only [HasContent, standsFor_iff, h, Except.ok.injEq, exists_eq_left']

theorem Input.not_hasContent_of_error {e : Error} (h : FilterStep.compile input = .error e) :
    ¬ input.HasContent IsEmpty := by
  simp [HasContent, standsFor_iff, h]

instance (d : Document) : Decidable d.IsHollow := decidable_of_iff _ Document.isHollow_iff.symm

instance [DecidablePred IsEmpty] (input : Input QueryStep) :
    Decidable (input.HasContent IsEmpty) :=
  match h : FilterStep.compile input with
  | .ok _ => decidable_of_iff _ (Input.hasContent_of_ok h).symm
  | .error _ => isFalse (Input.not_hasContent_of_error h)

end DocQuery
