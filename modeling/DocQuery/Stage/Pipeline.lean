import DocQuery.Stage.Body

/-!
# Pipelines

An aggregation is a list of stages. Every step puts one stage at the end, or replaces the whole
list.
-/

namespace DocQuery

/-- A step of an aggregation. -/
inductive PipelineStep
  | project (input : Input ProjectionStep)
  | group (input : Input GroupStep)
  | filter (input : Input QueryStep)
  /-- One document for each element of a list field. -/
  | unwind (field : String)
  | skip (n : Int64)
  | limit (n : Int64)
  /-- A stage as it is. -/
  | pipe (stage : Document)
  /-- Replaces all stages. -/
  | replace (stages : List Document)

/-- The answers of the steps that a stage was built by. -/
inductive StageReports
  | bodies (ds : List Document)
  | filters (rs : List Report)

/-- The answer of a step of an aggregation: the stages, or why the step was refused. -/
structure PipelineReport where
  outcome : Except Error (List Document)
  sub : StageReports

/-- A stage made of its name and body. -/
def stage (name : String) (body : Value) : Document := [(name, body)]

namespace PipelineStep

/-- Puts a stage whose body was resolved, or refuses. -/
def append (name : String) (body : Except Error Document) (sub : StageReports)
    (stages : List Document) (t : Settings) : Outcome (List Document) PipelineReport :=
  match body with
  | .ok d =>
    let all := stages ++ [stage name (.document d)]
    ⟨all, t, .ok all, sub⟩
  | .error e => ⟨stages, t, .error e, .bodies []⟩

/-- Leaves these stages behind. -/
def leave (stages : List Document) (t : Settings) : Outcome (List Document) PipelineReport :=
  ⟨stages, t, .ok stages, .bodies []⟩

/-- Runs a step of an aggregation. -/
def run (s : PipelineStep) (stages : List Document) (t : Settings) :
    Outcome (List Document) PipelineReport :=
  match s with
  | .project input =>
    let r := input.stageBody
    append "$project" r.1 (.bodies r.2) stages t
  | .group input =>
    let r := input.stageBody
    append "$group" r.1 (.bodies r.2) stages t
  | .filter input =>
    let r := FilterStep.resolve input t
    append "$match" r.state (.filters r.report) stages r.settings
  | .unwind field => leave (stages ++ [stage "$unwind" (.string (fieldReference field))]) t
  | .skip n => leave (stages ++ [stage "$skip" (.int64 n)]) t
  | .limit n => leave (stages ++ [stage "$limit" (.int64 n)]) t
  | .pipe d => leave (stages ++ [d]) t
  | .replace all => leave all t

end PipelineStep

end DocQuery
