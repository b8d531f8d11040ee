import DocQuery.Query.Sequence

/-!
# Bodies of stages

The bodies of the group and project stages of a pipeline are documents from result names to what is
computed. Every step of their builders puts one entry, so a later step for the same name replaces
what an earlier one put, in its place. Texts among the operands name fields; they are
written with exactly one `$` in front, `fieldReference`.
-/

namespace DocQuery

/-- A field name as a reference: one `$` in place of all those in front of it. -/
def fieldReference (name : String) : String :=
  String.ofList ('$' :: name.toList.dropWhile (· == '$'))

/-- An operand: a text becomes a field reference, every other value stays. -/
def operand : Value → Value
  | .string name => .string (fieldReference name)
  | v => v

/-- The accumulators that have a step of their own. -/
inductive Accumulator
  | sum
  | addToSet
  | first
  | last
  | max
  | min
  | push
  deriving DecidableEq

/-- The operator of an accumulator. -/
def Accumulator.key : Accumulator → String
  | .sum => "$sum"
  | .addToSet => "$addToSet"
  | .first => "$first"
  | .last => "$last"
  | .max => "$max"
  | .min => "$min"
  | .push => "$push"

/-- An entry of a stage body. -/
abbrev StageEntry := String × Value

/-- A computation of a stage. -/
inductive Computation
  /-- An operator on an operand, under a result name. -/
  | compute (operator result : String) (v : Value)
  /-- An operator on a field, under the name of the field. -/
  | computeField (operator field : String)
  /-- The number of documents. -/
  | count (result : String)
  | accumulate (a : Accumulator) (result : String) (v : Value)
  | accumulateOf (a : Accumulator) (field : String)

/-- The entry that a computation puts. -/
def Computation.entry : Computation → StageEntry
  | .compute operator result v => (result, .document [(operator, operand v)])
  | .computeField operator field => (field, .document [(operator, operand (.string field))])
  | .count result => (result, .document [(Accumulator.sum.key, .int32 1)])
  | .accumulate a result v => (result, .document [(a.key, operand v)])
  | .accumulateOf a field => (field, .document [(a.key, operand (.string field))])

/-- A step of the body of a group stage. -/
inductive GroupStep
  | compute (c : Computation)
  /-- What the documents are grouped by. -/
  | groupBy (v : Value)

/-- The entry that a step of a group stage puts. -/
def GroupStep.entry : GroupStep → StageEntry
  | .compute c => c.entry
  | .groupBy v => ("_id", operand v)

/-- A step of the body of a project stage. -/
inductive ProjectionStep
  | compute (c : Computation)
  | select (field : String)
  | exclude (field : String)
  /-- A field under another name. -/
  | rename (field newName : String)

/-- The entry that a step of a project stage puts. -/
def ProjectionStep.entry : ProjectionStep → StageEntry
  | .compute c => c.entry
  | .select field => (field, .int32 1)
  | .exclude field => (field, .int32 (-1))
  | .rename field newName => (newName, operand (.string field))

/-- The body that some entries build. -/
def stageBody (entries : List StageEntry) : Document := OrderedMap.insertAll [] entries

/-- The bodies after each of some entries, on top of what was built before. -/
def stageBodies (d : Document) : List StageEntry → List Document
  | [] => []
  | (name, v) :: rest =>
    let e := OrderedMap.insert d name v
    e :: stageBodies e rest

/-- A step of a stage body puts an entry. -/
class StageStep (σ : Type) where
  entry : σ → StageEntry

instance : StageStep GroupStep := ⟨GroupStep.entry⟩
instance : StageStep ProjectionStep := ⟨ProjectionStep.entry⟩

/-- The body that an input stands for, with the bodies after each of its steps. -/
def Input.stageBody {σ : Type} [StageStep σ] : Input σ → Except Error Document × List Document
  | .document d => (.ok d, [])
  | .value v => (v.asDocument, [])
  | .steps ss =>
    let entries := ss.map StageStep.entry
    (.ok (DocQuery.stageBody entries), stageBodies [] entries)

end DocQuery
