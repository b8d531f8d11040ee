import DocQuery.TypeCode
import DocQuery.Pattern.Regex
import DocQuery.Pattern.Like

/-!
# Conditions

What a field can be asked to match, and the value that states it in a filter document. Stating a
condition fails when it names an unknown type, or holds a text that is no regular expression or no
identifier.
-/

namespace DocQuery

/-- An object identifier, or a text that should be one. -/
inductive Identifier
  | text (s : String)
  | objectId (id : ObjectId)
  deriving DecidableEq

/-- The identifier that is meant. -/
def Identifier.resolve : Identifier → Except Error ObjectId
  | .objectId id => .ok id
  | .text s =>
    match ObjectId.parse s with
    | .ok id => .ok id
    | .error fault => .error (.badIdentifier s fault)

/-- What a field has to match. -/
inductive Condition
  | equal (v : Value)
  | notEqual (v : Value)
  | oneOf (vs : List Value)
  | noneOf (vs : List Value)
  | containsAll (vs : List Value)
  | present
  | absent
  | less (v : Value)
  | atMost (v : Value)
  | greater (v : Value)
  | atLeast (v : Value)
  /-- Strictly between two values. -/
  | between (low high : Value)
  | size (n : Int32)
  | typeCode (code : Int32)
  | typeNamed (name : String)
  /-- Near a point; the options stand beside it. -/
  | near (longitude latitude : Double) (options : Document)
  /-- Within a shape; the options stand beside it. -/
  | within (shape : Value) (options : Document)
  | regexLiteral (literal : String)
  | regex (pattern flags : String)
  | like (pattern flags : String)
  | identifier (id : Identifier)

namespace Condition

/-- A value under an operator. -/
def operator (name : String) (v : Value) : Value := .document [(name, v)]

/-- A document with those of the options whose keys it does not have. -/
def withOptions (d options : Document) : Document :=
  options.foldl (fun d e => if OrderedMap.hasKey d e.1 then d else OrderedMap.insert d e.1 e.2) d

/-- The value that states a condition. -/
def statement : Condition → Except Error Value
  | .equal v => .ok v
  | .notEqual v => .ok (operator "$ne" v)
  | .oneOf vs => .ok (operator "$in" (.array vs))
  | .noneOf vs => .ok (operator "$nin" (.array vs))
  | .containsAll vs => .ok (operator "$all" (.array vs))
  | .present => .ok (operator "$exists" (.bool true))
  | .absent => .ok (operator "$exists" (.bool false))
  | .less v => .ok (operator "$lt" v)
  | .atMost v => .ok (operator "$lte" v)
  | .greater v => .ok (operator "$gt" v)
  | .atLeast v => .ok (operator "$gte" v)
  | .between low high => .ok (.document [("$gt", low), ("$lt", high)])
  | .size n => .ok (operator "$size" (.int32 n))
  | .typeCode code => .ok (operator "$type" (.int32 code))
  | .typeNamed name => (TypeCode.resolve name).map (fun code => operator "$type" (.int32 code))
  | .near longitude latitude options =>
    .ok (.document
      (withOptions [("$near", .array [.double longitude, .double latitude])] options))
  | .within shape options => .ok (.document (withOptions [("$within", shape)] options))
  | .regexLiteral literal => (Regex.parse literal).map Regex.value
  | .regex pattern flags => (Regex.make pattern flags).map Regex.value
  | .like pattern flags => (Regex.make (Like.regex pattern) flags).map Regex.value
  | .identifier id => id.resolve.map Value.objectId

end Condition

end DocQuery
