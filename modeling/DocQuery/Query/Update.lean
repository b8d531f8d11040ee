import DocQuery.Query.Sequence

/-!
# Update queries

An update query changes documents. Every field has one modifier at a time, with its value; a later
one replaces it and keeps the place of the field. `UpdateDirectives.update` collects the fields
under their modifiers, both in order of first mention.
-/

namespace DocQuery

/-- How an update changes a field. -/
inductive Modifier
  | set
  | unset
  | rename
  | push
  | pushAll
  | pull
  | pullAll
  | addToSet
  | pop
  | increment
  deriving DecidableEq

namespace Modifier

/-- All modifiers. -/
def all : List Modifier :=
  [.set, .unset, .rename, .push, .pushAll, .pull, .pullAll, .addToSet, .pop, .increment]

/-- The key of a modifier in an update document. -/
def key : Modifier → String
  | .set => "$set"
  | .unset => "$unset"
  | .rename => "$rename"
  | .push => "$push"
  | .pushAll => "$pushAll"
  | .pull => "$pull"
  | .pullAll => "$pullAll"
  | .addToSet => "$addToSet"
  | .pop => "$pop"
  | .increment => "$inc"

end Modifier

/-- A modifier with its value, for a field. -/
abbrev Change := String × (Modifier × Value)

/-- The directives of an update query. -/
structure UpdateDirectives where
  changes : OrderedMap (Modifier × Value) := []
  /-- A document is inserted when none matches. -/
  upsert : Bool := false
  /-- All documents that match are changed. -/
  multiple : Bool := true
  /-- The update is marked as one that others do not interrupt. -/
  atomic : Bool := false

/-- A query that changes documents. -/
abbrev Update := Query UpdateDirectives

instance : Directives UpdateDirectives where
  patch d p :=
    { d with
      upsert := p.upsert.getD d.upsert
      multiple := p.multiple.getD d.multiple
      atomic := p.atomic.getD d.atomic }
  document d := [("upsert", .bool d.upsert), ("multiple", .bool d.multiple)]

namespace UpdateDirectives

/-- The modifiers in use, in order of first mention. -/
def modifiers (d : UpdateDirectives) : List Modifier := (d.changes.map (fun e => e.2.1)).eraseDups

/-- The fields under a modifier, with their values. -/
def fieldsUnder (d : UpdateDirectives) (m : Modifier) : Document :=
  d.changes.filterMap (fun e => if e.2.1 = m then some (e.1, e.2.2) else none)

/-- The update document. -/
def update (d : UpdateDirectives) : Document :=
  d.modifiers.map (fun m => (m.key, .document (d.fieldsUnder m)))
    ++ (if d.atomic then [("$atomic", .int32 1)] else [])

end UpdateDirectives

/-- A step of an update query. -/
inductive UpdateStep
  | shared (s : QueryStep)
  | set (field : String) (v : Value)
  | setMany (d : Document)
  | remove (field : String)
  | removeMany (fields : List String)
  | rename (field newName : String)
  | push (field : String) (v : Value)
  | pushAll (field : String) (vs : List Value)
  | pull (field : String) (v : Value)
  /-- Pulls what an operator says of a value. -/
  | pullWith (field operator : String) (v : Value)
  | pullAll (field : String) (vs : List Value)
  | addToSet (field : String) (v : Value)
  /-- Removes the last element of a list. -/
  | pop (field : String)
  /-- Removes the first element of a list. -/
  | unshift (field : String)
  | increment (field : String) (v : Value)
  | single (on : Bool)
  | multiple (on : Bool)
  | upsert (on : Bool)
  | atomic (on : Bool)
  /-- Reads the options of the update. -/
  | updateOptions

/-- The answer of a step of an update query. -/
inductive UpdateAnswer
  | shared (r : Report)
  | directives (d : UpdateDirectives)
  | updateOptions (upsert : Bool) (w : Option WriteConcern)

namespace UpdateStep

/-- The operand that adds a value to a set: a value that is no list and no document is put into a
list. -/
def setOperand : Value → Value
  | .array items => .array items
  | .document fields => .document fields
  | v => .array [v]

/-- The changes that a step asks for. -/
def changes : UpdateStep → List Change
  | .set field v => [(field, .set, v)]
  | .setMany d => d.map (fun e => (e.1, .set, e.2))
  | .remove field => [(field, .unset, .int32 1)]
  | .removeMany fields => fields.map (fun field => (field, .unset, .int32 1))
  | .rename field newName => [(field, .rename, .string newName)]
  | .push field v => [(field, .push, v)]
  | .pushAll field vs => [(field, .pushAll, .array vs)]
  | .pull field v => [(field, .pull, v)]
  | .pullWith field operator v => [(field, .pull, .document [(operator, v)])]
  | .pullAll field vs => [(field, .pullAll, .array vs)]
  | .addToSet field v => [(field, .addToSet, setOperand v)]
  | .pop field => [(field, .pop, .int32 1)]
  | .unshift field => [(field, .pop, .int32 (-1))]
  | .increment field v => [(field, .increment, v)]
  | _ => []

/-- The directives after a step that only changes them. -/
def direct (s : UpdateStep) (d : UpdateDirectives) : UpdateDirectives :=
  match s with
  | .single on => { d with multiple := !on }
  | .multiple on => { d with multiple := on }
  | .upsert on => { d with upsert := on }
  | .atomic on => { d with atomic := on }
  | s => { d with changes := OrderedMap.insertAll d.changes s.changes }

/-- Runs a step of an update query. -/
def run (s : UpdateStep) (q : Update) (t : Settings) : Outcome Update UpdateAnswer :=
  match s with
  | .shared s =>
    let r := s.runOn q t
    ⟨r.state, r.settings, .shared r.report⟩
  | .updateOptions => ⟨q, t, .updateOptions q.directives.upsert (q.options.writeConcern t)⟩
  | s =>
    let d := s.direct q.directives
    ⟨{ q with directives := d }, t, .directives d⟩

end UpdateStep

/-- A fresh update query. -/
def Update.empty : Update := { directives := {} }

end DocQuery
