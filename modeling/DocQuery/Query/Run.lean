import DocQuery.Query.Step

/-!
# Running steps

A query is a filter with execution options and the directives of its kind. A step changes it and
answers with a view of what it changed, or is refused: then the query stays as it was. The steps of
a sub-filter run on a query of their own; what they answer is part of the answer of the step that
holds them.

The settings are shared by all queries, so running hands them on from step to step, through
sub-filters too.
-/

namespace DocQuery

/-- A query with the directives of its kind. -/
structure Query (κ : Type) where
  filter : Filter := {}
  options : Options := {}
  directives : κ

/-- What the directives of a kind of query have to do with options. -/
class Directives (κ : Type) where
  /-- The directives with those options of a patch that they know. -/
  patch : κ → OptionsPatch → κ
  /-- The options among the directives, as a document. -/
  document : κ → Document

/-- A query that has only a filter. -/
abbrev Where := Query Unit

instance : Directives Unit where
  patch _ _ := ()
  document _ := []

/-- What a step answers. -/
inductive View
  | filter (f : Filter)
  | options (d : Document) (defaultTimeout : UInt64)
  | writeConcern (w : Option WriteConcern)

/-- The answer of a step: a view or why the step was refused, what it told, and the answers of the
steps that it held. -/
structure Report where
  outcome : Except Error View
  log : List Event
  sub : List Report

/-- The answer of a refused step. -/
def Report.refused (e : Error) : Report := ⟨.error e, [], []⟩

/-- What running leaves behind. -/
structure Outcome (σ ρ : Type) where
  state : σ
  settings : Settings
  report : ρ

namespace Query

variable {κ : Type} [Directives κ]

/-- The execution options of a query as a document, those among its directives at the end. -/
def optionsDocument (q : Query κ) (t : Settings) : Document :=
  OrderedMap.insertAll (q.options.document t) (Directives.document q.directives)

/-- The answer of a query after a change of options. -/
def answerOptions (q : Query κ) (t : Settings) : Outcome (Query κ) Report :=
  ⟨q, t, .ok (.options (q.optionsDocument t) t.defaultTimeout), [], []⟩

/-- The query with other options. -/
def withOptions (q : Query κ) (o : Options) : Query κ := { q with options := o }

/-- The query with the options of a patch. -/
def patch (q : Query κ) (p : OptionsPatch) : Query κ where
  filter := q.filter
  options := q.options.patch p
  directives := Directives.patch q.directives p

end Query

/-- Runs an option step. -/
def OptionStep.run {κ : Type} [Directives κ] (s : OptionStep) (q : Query κ) (t : Settings) :
    Outcome (Query κ) Report :=
  match s with
  | .safe on => (q.withOptions { q.options with safe := on }).answerOptions t
  | .fsync on => (q.withOptions { q.options with fsync := on }).answerOptions t
  | .timeout d => (q.withOptions { q.options with timeout := some d.millis }).answerOptions t
  | .defaultTimeout d => q.answerOptions ⟨d.millis⟩
  | .patch d =>
    match OptionsPatch.read d with
    | .ok p => (q.patch p).answerOptions t
    | .error e => ⟨q, t, .refused e⟩
  | .writeConcern => ⟨q, t, .ok (.writeConcern (q.options.writeConcern t)), [], []⟩

/-- The document that a value is. -/
def Value.asDocument : Value → Except Error Document
  | .document d => .ok d
  | v => .error (.notADocument v.kindName)

/-- The answer of a filter step that leaves a filter behind. -/
def Filter.answer (f : Filter) (t : Settings) (log : List Event) (sub : List Report) :
    Outcome Filter Report :=
  ⟨f, t, .ok (.filter f), log, sub⟩

/-- The filter with a sub-filter that must not match. An empty one is left out. -/
def Filter.exclude (f : Filter) (chain : Chain) (e : Exclusion) (d : Document) :
    Filter × List Event :=
  if d.isEmpty then (f, [])
  else
    let v := Value.documents [d]
    (f.constrain chain e.key v, f.constrainEvents chain e.key v)

mutual

/-- Runs a filter step. -/
def FilterStep.run (s : FilterStep) (f : Filter) (t : Settings) : Outcome Filter Report :=
  match s with
  | .condition chain field c =>
    match c.statement with
    | .ok v => (f.constrain chain field v).answer t (f.constrainEvents chain field v) []
    | .error e => ⟨f, t, .refused e⟩
  | .fields chain d =>
    let r := f.constrainAll chain d
    r.1.answer t r.2 []
  | .clause chain input =>
    let r := FilterStep.resolve input t
    match r.state with
    | .ok d => (f.embed chain d).answer r.settings [] r.report
    | .error e => ⟨f, r.settings, .refused e⟩
  | .exclusion chain e input =>
    let r := FilterStep.resolve input t
    match r.state with
    | .ok d =>
      let g := f.exclude chain e d
      g.1.answer r.settings g.2 r.report
    | .error e => ⟨f, r.settings, .refused e⟩
  | .load d => (Filter.load d).answer t [] []
  | .reload => (Filter.load f.render).answer t [] []
  | .clear => Filter.answer {} t [] []

/-- The document of a sub-filter, with the answers of the steps that built it. -/
def FilterStep.resolve (input : Input QueryStep) (t : Settings) :
    Outcome (Except Error Document) (List Report) :=
  match input with
  | .document d => ⟨.ok d, t, []⟩
  | .value v => ⟨v.asDocument, t, []⟩
  | .steps ss =>
    let r := QueryStep.runAll ss { directives := () } t
    ⟨.ok r.state.filter.render, r.settings, r.report⟩

/-- Runs a step on a plain query. -/
def QueryStep.run (s : QueryStep) (q : Where) (t : Settings) : Outcome Where Report :=
  match s with
  | .filter s =>
    let r := FilterStep.run s q.filter t
    ⟨{ q with filter := r.state }, r.settings, r.report⟩
  | .option s => s.run q t

/-- Runs steps on a plain query, one after the other. -/
def QueryStep.runAll (ss : List QueryStep) (q : Where) (t : Settings) :
    Outcome Where (List Report) :=
  match ss with
  | [] => ⟨q, t, []⟩
  | s :: ss =>
    let r := QueryStep.run s q t
    let rest := QueryStep.runAll ss r.state r.settings
    ⟨rest.state, rest.settings, r.report :: rest.report⟩

end

/-- Runs a step that every query takes on a query of any kind. -/
def QueryStep.runOn {κ : Type} [Directives κ] (s : QueryStep) (q : Query κ) (t : Settings) :
    Outcome (Query κ) Report :=
  match s with
  | .filter s =>
    let r := s.run q.filter t
    ⟨{ q with filter := r.state }, r.settings, r.report⟩
  | .option s => s.run q t

/-- On a plain query both ways to run a step agree. -/
theorem QueryStep.runOn_eq_run (s : QueryStep) (q : Where) (t : Settings) :
    s.runOn q t = s.run q t := by
  cases s <;> simp [QueryStep.runOn, QueryStep.run]

end DocQuery
