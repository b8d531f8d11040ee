import DocQuery.Query.Sequence

/-!
# Find queries

A find query reads documents. Its directives say how they are sorted, how many are passed over and
returned, which fields they show, and whether a single one is asked for. Sorting keys and fields
keep the place of their first mention and the direction or visibility of their last one.

`Find.readOptions` are the directives in the form a server takes, where an excluded field is marked
by 0.
-/

namespace DocQuery

/-- A direction of sorting. -/
inductive Direction
  | ascending
  | descending
  deriving DecidableEq

namespace Direction

/-- The number of a direction. -/
def value : Direction → Int32
  | .ascending => 1
  | .descending => -1

/-- The direction of a number: descending below zero. -/
def ofNumber (n : Int32) : Direction := if n < 0 then .descending else .ascending

/-- The direction of a word: ascending for `asc`, descending for all others. -/
def ofWord (s : String) : Direction := if s = "asc" then .ascending else .descending

end Direction

/-- Whether a field is shown. -/
inductive Visibility
  | shown
  | hidden
  deriving DecidableEq

/-- The number that marks a field in a query. -/
def Visibility.marker : Visibility → Int32
  | .shown => 1
  | .hidden => -1

/-- Whether a value counts as true. -/
def Value.isTruthy : Value → Bool
  | .null => false
  | .undefined => false
  | .bool b => b
  | .int32 n => n != 0
  | .int64 n => n != 0
  | .double x => !x.isZero
  | .string s => s != "" && s != "0"
  | .array items => !items.isEmpty
  | .document fields => !fields.isEmpty
  | _ => true

/-- Something a cursor is told before it returns documents. -/
inductive CursorAction
  | sort (d : Document)
  | skip (n : UInt64)
  | limit (n : Int64)

namespace CursorAction

/-- The name of an action. -/
def name : CursorAction → String
  | .sort _ => "sort"
  | .skip _ => "skip"
  | .limit _ => "limit"

/-- The argument of an action. A skip past the largest number of sixty-four bits with a sign is that
number. -/
def argument : CursorAction → Value
  | .sort d => .document d
  | .skip n => .int64 (Int64.ofInt (min (n.toNat : Int) Int64.maxValue.toInt))
  | .limit n => .int64 n

end CursorAction

/-- A projection as a server takes it; none when there are no fields. -/
def serverProjection (fields : Document) : Option Document :=
  if fields.isEmpty then none
  else
    some (fields.map (fun e =>
      match e with
      | (field, .int32 n) => (field, .int32 (if n = -1 then 0 else n))
      | e => e))

/-- The directives of a find query. -/
structure FindDirectives where
  sort : OrderedMap Direction := []
  skip : Option UInt64 := none
  limit : Option Int64 := none
  fields : OrderedMap Visibility := []
  /-- A single document is asked for. -/
  one : Bool := false

/-- A query that reads documents. -/
abbrev Find := Query FindDirectives

instance : Directives FindDirectives where
  patch d _ := d
  document _ := []

namespace FindDirectives

/-- The fields with their markers. -/
def fieldsDocument (d : FindDirectives) : Document :=
  d.fields.map (fun e => (e.1, .int32 e.2.marker))

/-- The sorting keys with their numbers. -/
def sortDocument (d : FindDirectives) : Document :=
  d.sort.map (fun e => (e.1, .int32 e.2.value))

/-- What the cursor is told: sort, skip and limit, those that were set. -/
def actions (d : FindDirectives) : List CursorAction :=
  (if d.sort.isEmpty then [] else [.sort d.sortDocument])
    ++ (d.skip.map CursorAction.skip).toList
    ++ (d.limit.map CursorAction.limit).toList

/-- The directives with the same visibility for some fields. -/
def mention (d : FindDirectives) (v : Visibility) (fields : List String) : FindDirectives :=
  { d with fields := OrderedMap.insertAll d.fields (fields.map (fun f => (f, v))) }

end FindDirectives

/-- The options of a read as a server takes them. -/
structure ReadOptions where
  projection : Option Document
  sort : Option Document
  skip : Option UInt64
  limit : Option Int64
  /-- The longest time that the read may take, in milliseconds. -/
  maxTime : UInt64

namespace Find

/-- The options of a read of several documents: a single one is a limit of one. -/
def readOptions (q : Find) (t : Settings) : ReadOptions where
  projection := serverProjection q.directives.fieldsDocument
  sort := if q.directives.sort.isEmpty then none else some q.directives.sortDocument
  skip := q.directives.skip
  limit := if q.directives.one then some 1 else q.directives.limit
  maxTime := q.options.effectiveTimeout t

/-- The options of a read of a single document, which has no limit of its own. -/
def readOneOptions (q : Find) (t : Settings) : ReadOptions where
  projection := serverProjection q.directives.fieldsDocument
  sort := if q.directives.sort.isEmpty then none else some q.directives.sortDocument
  skip := q.directives.skip
  limit := none
  maxTime := q.options.effectiveTimeout t

end Find

/-- A step of a find query. -/
inductive FindStep
  | shared (s : QueryStep)
  | orderBy (field : String) (d : Direction)
  | skip (n : UInt64)
  | limit (n : Int64)
  | select (fields : List String)
  | exclude (fields : List String)
  /-- Shows the fields whose values count as true and hides the others. -/
  | fields (d : Document)
  | one (on : Bool)
  | multiple (on : Bool)
  /-- Reads the options of a read of several documents. -/
  | readOptions
  /-- Reads the options of a read of a single document. -/
  | readOneOptions

/-- The answer of a step of a find query. -/
inductive FindAnswer
  | shared (r : Report)
  | directives (d : FindDirectives)
  | readOptions (o : ReadOptions)
  | readOneOptions (o : ReadOptions)

namespace FindStep

/-- The directives after a step that only changes them. -/
def direct (s : FindStep) (d : FindDirectives) : FindDirectives :=
  match s with
  | .orderBy field direction => { d with sort := OrderedMap.insert d.sort field direction }
  | .skip n => { d with skip := some n }
  | .limit n => { d with limit := some n }
  | .select names => d.mention .shown names
  | .exclude names => d.mention .hidden names
  | .fields entries =>
    { d with
      fields := OrderedMap.insertAll d.fields
        (entries.map (fun e => (e.1, if e.2.isTruthy then .shown else .hidden))) }
  | .one on => { d with one := on }
  | .multiple on => { d with one := !on }
  | .shared _ | .readOptions | .readOneOptions => d

/-- Runs a step of a find query. -/
def run (s : FindStep) (q : Find) (t : Settings) : Outcome Find FindAnswer :=
  match s with
  | .shared s =>
    let r := s.runOn q t
    ⟨r.state, r.settings, .shared r.report⟩
  | .readOptions => ⟨q, t, .readOptions (q.readOptions t)⟩
  | .readOneOptions => ⟨q, t, .readOneOptions (q.readOneOptions t)⟩
  | s =>
    let d := s.direct q.directives
    ⟨{ q with directives := d }, t, .directives d⟩

end FindStep

/-- A fresh find query. -/
def Find.empty : Find := { directives := {} }

end DocQuery
