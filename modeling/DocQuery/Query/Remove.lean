import DocQuery.Query.Sequence

/-!
# Remove queries

A remove query deletes documents: all that match, or a single one.
-/

namespace DocQuery

/-- The directives of a remove query. -/
structure RemoveDirectives where
  /-- A single document is deleted. -/
  justOne : Bool := false

/-- A query that deletes documents. -/
abbrev Remove := Query RemoveDirectives

instance : Directives RemoveDirectives where
  patch d p := ⟨p.justOne.getD d.justOne⟩
  document d := [("justOne", .bool d.justOne)]

/-- A step of a remove query. -/
inductive RemoveStep
  | shared (s : QueryStep)
  | single (on : Bool)
  | multiple (on : Bool)

/-- The answer of a step of a remove query. -/
inductive RemoveAnswer
  | shared (r : Report)
  | directives (d : RemoveDirectives)

namespace RemoveStep

/-- Runs a step of a remove query. -/
def run (s : RemoveStep) (q : Remove) (t : Settings) : Outcome Remove RemoveAnswer :=
  match s with
  | .shared s =>
    let r := s.runOn q t
    ⟨r.state, r.settings, .shared r.report⟩
  | .single on => ⟨{ q with directives := ⟨on⟩ }, t, .directives ⟨on⟩⟩
  | .multiple on => ⟨{ q with directives := ⟨!on⟩ }, t, .directives ⟨!on⟩⟩

end RemoveStep

/-- A fresh remove query. -/
def Remove.empty : Remove := { directives := {} }

end DocQuery
