import DocQuery.Error

/-!
# Indexes

The keys of an index are a document from fields to directions. The words `asc`, `desc` and `geo` are
short for the directions 1, -1 and `2d`; `IndexKeys.normalize` replaces them, and
`normalize_normalize` says that nothing is left to replace then. Indexes are created and dropped on
a target, which may refuse any call: several are dropped one after the other, up to the first
refusal.
-/

namespace DocQuery

namespace IndexKeys

/-- The direction that a word stands for. -/
def ofWord (word : String) : Value :=
  if word = "asc" then .int32 1
  else if word = "desc" then .int32 (-1)
  else if word = "geo" then .string "2d"
  else .string word

/-- A direction without short words. -/
def direction : Value → Value
  | .string word => ofWord word
  | v => v

/-- Keys without short words. -/
def normalize (keys : Document) : Document := keys.map (fun e => (e.1, direction e.2))

/-- A direction in the name of an index. A double is shown by its integer part. -/
def directionText : Value → String
  | .string word => word
  | .int32 n => toString n.toInt
  | .int64 n => toString n.toInt
  | .double x => toString x.truncate
  | v => v.text

/-- The name of an index that is given none: fields and directions, joined by underscores. -/
def name (keys : Document) : String :=
  String.intercalate "_" (keys.map (fun e => e.1 ++ "_" ++ directionText e.2))

theorem direction_ofWord (word : String) : direction (ofWord word) = ofWord word := by
  by_cases ha : word = "asc"
  · simp [ofWord, ha, direction]
  · by_cases hd : word = "desc"
    · simp [ofWord, hd, direction]
    · by_cases hg : word = "geo" <;> simp [ofWord, ha, hd, hg, direction]

theorem direction_direction (v : Value) : direction (direction v) = direction v := by
  cases v with
  | string word => exact direction_ofWord word
  | _ => rfl

/-- Keys without short words stay as they are. -/
theorem normalize_normalize (keys : Document) : normalize (normalize keys) = normalize keys := by
  simp [normalize, direction_direction]

end IndexKeys

/-- The index that is to be dropped. -/
inductive IndexSpec
  | name (s : String)
  | keys (d : Document)
  deriving DecidableEq

/-- The same index, without short words in its keys. -/
def IndexSpec.normalize : IndexSpec → IndexSpec
  | .name s => .name s
  | .keys d => .keys (IndexKeys.normalize d)

/-- Something that holds indexes. Every call may be refused, and changes the state. -/
structure IndexTarget (σ : Type) where
  create : Document → Document → σ → Except Error Unit × σ
  drop : IndexSpec → σ → Except Error Unit × σ
  dropAll : σ → Except Error Unit × σ

namespace IndexTarget

variable {σ : Type} (target : IndexTarget σ)

/-- Drops indexes one after the other, up to the first refusal. -/
def dropEach : List IndexSpec → σ → Except Error Unit × σ
  | [], x => (.ok (), x)
  | spec :: specs, x =>
    match target.drop spec.normalize x with
    | (.ok (), y) => dropEach specs y
    | (.error e, y) => (.error e, y)

theorem dropEach_singleton (spec : IndexSpec) (x : σ) :
    target.dropEach [spec] x = target.drop spec.normalize x := by
  rw [dropEach]
  rcases target.drop spec.normalize x with ⟨_ | ⟨⟩, y⟩ <;> rfl

end IndexTarget

/-- A step on the indexes of a target. -/
inductive IndexStep
  | create (keys options : Document)
  /-- An index of places on a field. -/
  | geo (field : String) (options : Document)
  | drop (specs : List IndexSpec)
  | dropAll

/-- Runs a step on the indexes of a target. -/
def IndexStep.run {σ : Type} (s : IndexStep) (target : IndexTarget σ) (x : σ) :
    Except Error Unit × σ :=
  match s with
  | .create keys options => target.create (IndexKeys.normalize keys) options x
  | .geo field options =>
    target.create (IndexKeys.normalize [(field, .string "2d")]) options x
  | .drop specs => target.dropEach specs x
  | .dropAll => target.dropAll x

/-- A call of a target. -/
inductive IndexCall
  | create (keys options : Document)
  | drop (spec : IndexSpec)
  | dropAll
  deriving DecidableEq

/-- A target that records its calls and refuses those it is told to, by their number. -/
structure IndexRecorder where
  calls : List IndexCall := []
  refuse : Nat → Option Error

namespace IndexRecorder

/-- Records a call and answers it. -/
def call (c : IndexCall) (r : IndexRecorder) : Except Error Unit × IndexRecorder :=
  let after := { r with calls := r.calls ++ [c] }
  match r.refuse r.calls.length with
  | some e => (.error e, after)
  | none => (.ok (), after)

/-- The recorder as a target. -/
def target : IndexTarget IndexRecorder where
  create keys options := call (.create keys options)
  drop spec := call (.drop spec)
  dropAll := call .dropAll

end IndexRecorder

end DocQuery
