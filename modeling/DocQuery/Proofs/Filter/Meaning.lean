import DocQuery.Proofs.Query.Effect
import DocQuery.Proofs.Filter.Truth

/-!
# The meaning of steps

The steps that add to a filter mean a disjunction of conjunctions, which can be read off them
without building a filter: an *and* step asks for one more thing in the last alternative, an *or*
step opens an alternative. `Valuation.querySteps` lists what the steps add, with its value; a
sub-filter is worth what its own steps mean, and one without content is passed over.

`document_render_runList` says that the document of the filter built by the steps has the value of
that disjunction.
-/

namespace DocQuery

mutual

/-- Whether a step only adds to the filter, like all the steps that it holds. -/
def FilterStep.isAdditive (s : FilterStep) : Bool :=
  match s with
  | .condition _ _ _ => true
  | .fields _ _ => true
  | .clause _ input => FilterStep.isAdditiveInput input
  | .exclusion _ _ input => FilterStep.isAdditiveInput input
  | .load _ => false
  | .reload => false
  | .clear => false

/-- Whether the steps of a sub-filter, if it is given by steps, only add to it. -/
def FilterStep.isAdditiveInput (input : Input QueryStep) : Bool :=
  match input with
  | .document _ => true
  | .value _ => true
  | .steps ss => QueryStep.areAdditive ss

/-- Whether a step only adds to the filter, if it touches the filter at all. -/
def QueryStep.isAdditive (s : QueryStep) : Bool :=
  match s with
  | .filter s => FilterStep.isAdditive s
  | .option _ => true

/-- Whether steps only add to the filter. -/
def QueryStep.areAdditive (ss : List QueryStep) : Bool :=
  match ss with
  | [] => true
  | s :: ss => QueryStep.isAdditive s && QueryStep.areAdditive ss

end

namespace Valuation

mutual

/-- What a filter step adds, and how it joins. Steps that replace the filter are not read. -/
def filterStep (ρ : Valuation) (s : FilterStep) : List (Chain × Bool) :=
  match s with
  | .condition chain field c =>
    match c.statement with
    | .ok v => [(chain, ρ.field field v)]
    | .error _ => []
  | .fields chain d => d.map (fun e => (chain, ρ.field e.1 e.2))
  | .clause chain input =>
    if input.HasContent Document.IsHollow then [(chain, ρ.input input)] else []
  | .exclusion chain _ input =>
    if input.HasContent (· = []) then [(chain, !ρ.input input)] else []
  | .load _ => []
  | .reload => []
  | .clear => []

/-- The value of a sub-filter. -/
def input (ρ : Valuation) (i : Input QueryStep) : Bool :=
  match i with
  | .document d => ρ.document d
  | .value v => ρ.item v
  | .steps ss => (Alternatives.joinAll [] (ρ.querySteps ss)).hold

/-- What a step that every query takes adds. -/
def queryStep (ρ : Valuation) (s : QueryStep) : List (Chain × Bool) :=
  match s with
  | .filter s => ρ.filterStep s
  | .option _ => []

/-- What several steps add, one after the other. -/
def querySteps (ρ : Valuation) (ss : List QueryStep) : List (Chain × Bool) :=
  match ss with
  | [] => []
  | s :: ss => ρ.queryStep s ++ ρ.querySteps ss

end

variable (ρ : Valuation)

mutual

/-- A step that adds to a filter joins to the values of its branches what it means. -/
theorem branches_filterStep (s : FilterStep) (hs : s.isAdditive = true) (f : Filter) :
    ρ.branches (s.effect f) = (ρ.branches f).joinAll (ρ.filterStep s) := by
  cases s with
  | condition chain field c =>
    rw [FilterStep.effect, filterStep]
    cases c.statement with
    | ok v => exact branches_constrain ρ f chain field v
    | error e => rfl
  | fields chain d =>
    rw [FilterStep.effect, filterStep]
    exact branches_constrainAll ρ f chain d
  | clause chain i =>
    rw [FilterStep.isAdditive] at hs
    rw [FilterStep.effect, filterStep]
    cases h : FilterStep.compile i with
    | ok d =>
      -- the sub-filter is worth its document, and left out when that is empty
      rw [← document_compile i hs h]
      simp only [Input.hasContent_of_ok h, Document.isHollow_iff]
      by_cases he : Document.unwrap d = [] <;> simp [branches_embed, he]
    | error e => simp [Input.not_hasContent_of_error h]
  | exclusion chain x i =>
    rw [FilterStep.isAdditive] at hs
    rw [FilterStep.effect, filterStep]
    cases h : FilterStep.compile i with
    | ok d =>
      rw [← document_compile i hs h]
      simp only [Input.hasContent_of_ok h]
      by_cases he : d = [] <;> simp [branches_exclude, he]
    | error e => simp [Input.not_hasContent_of_error h]
  | load d => simp [FilterStep.isAdditive] at hs
  | reload => simp [FilterStep.isAdditive] at hs
  | clear => simp [FilterStep.isAdditive] at hs

/-- The document of a sub-filter has the value of the sub-filter. -/
theorem document_compile (i : Input QueryStep) (hi : FilterStep.isAdditiveInput i = true)
    {d : Document} (h : FilterStep.compile i = .ok d) : ρ.document d = ρ.input i := by
  cases i with
  | document e =>
    rw [FilterStep.compile, Except.ok.injEq] at h
    rw [input, h]
  | value v =>
    rw [FilterStep.compile] at h
    cases v <;> simp [Value.asDocument] at h
    rw [input, item, h]
  | steps ss =>
    rw [FilterStep.isAdditiveInput] at hi
    rw [FilterStep.compile, Except.ok.injEq] at h
    rw [input, ← h, document_render, branches_querySteps ss hi]
    rfl

theorem branches_queryStep (s : QueryStep) (hs : s.isAdditive = true) (f : Filter) :
    ρ.branches (s.effect f) = (ρ.branches f).joinAll (ρ.queryStep s) := by
  cases s with
  | filter s =>
    rw [QueryStep.isAdditive] at hs
    rw [QueryStep.effect, queryStep]
    exact branches_filterStep s hs f
  | option s =>
    rw [QueryStep.effect, queryStep]
    rfl

/-- Steps that add to a filter join to the values of its branches what they mean. -/
theorem branches_querySteps (ss : List QueryStep) (hss : QueryStep.areAdditive ss = true)
    (f : Filter) :
    ρ.branches (QueryStep.effects ss f) = (ρ.branches f).joinAll (ρ.querySteps ss) := by
  cases ss with
  | nil =>
    rw [QueryStep.effects, querySteps]
    rfl
  | cons s ss =>
    rw [QueryStep.areAdditive, Bool.and_eq_true] at hss
    rw [QueryStep.effects, querySteps, Alternatives.joinAll_append,
      ← branches_queryStep s hss.1 f]
    exact branches_querySteps ss hss.2 _

end

end Valuation

end DocQuery
