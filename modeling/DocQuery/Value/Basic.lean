import DocQuery.OrderedMap
import DocQuery.ObjectId
import DocQuery.Double.Basic

/-!
# Values and documents

The values a document store holds, and documents: ordered maps from field names to values.
Whole numbers are words of the store's widths, and a date counts milliseconds. The pointers of old
stores to documents of other collections, which nothing here makes or looks into, are left out.

* `Value.beq_iff`: equality of values is decidable;
* `Value.documents?_eq_some_iff`: a list holds only documents exactly when it is made from some.
-/

namespace DocQuery

/-- A decimal number of thirty-four digits, by its sixteen bytes, lowest first. -/
structure Decimal128 where
  bytes : List UInt8
  deriving DecidableEq

/-- A value of the store. -/
inductive Value where
  | null
  | bool (b : Bool)
  | string (s : String)
  | int32 (n : Int32)
  | int64 (n : Int64)
  | double (x : Double)
  | array (items : List Value)
  | document (fields : List (String × Value))
  | objectId (id : ObjectId)
  | date (millis : Int64)
  | binary (subtype : UInt8) (bytes : List UInt8)
  | regex (pattern options : String)
  | code (source : String)
  | scopedCode (source : String) (scope : List (String × Value))
  | timestamp (time increment : UInt32)
  | symbol (name : String)
  | decimal128 (d : Decimal128)
  | undefined
  | minKey
  | maxKey

instance : Inhabited Value := ⟨.null⟩

/-- A document: field names with their values, in order. -/
abbrev Document := OrderedMap Value

namespace Value

mutual

/-- Equality of values. -/
def beq : Value → Value → Bool
  | .null, .null => true
  | .bool a, .bool b => a == b
  | .string a, .string b => a == b
  | .int32 a, .int32 b => a == b
  | .int64 a, .int64 b => a == b
  | .double a, .double b => a == b
  | .array a, .array b => beqItems a b
  | .document a, .document b => beqFields a b
  | .objectId a, .objectId b => a == b
  | .date a, .date b => a == b
  | .binary s a, .binary t b => s == t && a == b
  | .regex p a, .regex q b => p == q && a == b
  | .code a, .code b => a == b
  | .scopedCode s a, .scopedCode t b => s == t && beqFields a b
  | .timestamp s a, .timestamp t b => s == t && a == b
  | .symbol a, .symbol b => a == b
  | .decimal128 a, .decimal128 b => a == b
  | .undefined, .undefined => true
  | .minKey, .minKey => true
  | .maxKey, .maxKey => true
  | _, _ => false

/-- Equality of lists of values. -/
def beqItems : List Value → List Value → Bool
  | [], [] => true
  | a :: as, b :: bs => beq a b && beqItems as bs
  | _, _ => false

/-- Equality of lists of entries. -/
def beqFields : List (String × Value) → List (String × Value) → Bool
  | [], [] => true
  | (j, a) :: as, (k, b) :: bs => j == k && beq a b && beqFields as bs
  | _, _ => false

end

mutual

/-- `beq` decides equality. -/
theorem beq_iff (a b : Value) : beq a b = true ↔ a = b := by
  cases a <;> cases b <;> simp [beq, beqItems_iff, beqFields_iff]

theorem beqItems_iff (a b : List Value) : beqItems a b = true ↔ a = b := by
  cases a <;> cases b <;> simp [beqItems, beq_iff, beqItems_iff]

theorem beqFields_iff (a b : List (String × Value)) : beqFields a b = true ↔ a = b := by
  cases a with
  | nil => cases b <;> simp [beqFields]
  | cons e a =>
    cases b with
    | nil => simp [beqFields]
    | cons f b =>
      obtain ⟨j, x⟩ := e
      obtain ⟨k, y⟩ := f
      simp [beqFields, beq_iff, beqFields_iff, and_assoc]

end

instance : DecidableEq Value := fun a b => decidable_of_iff _ (beq_iff a b)

/-- The name of the kind of a value. -/
def kindName : Value → String
  | .null => "Null"
  | .bool _ => "Boolean"
  | .string _ => "String"
  | .int32 _ => "Int32"
  | .int64 _ => "Int64"
  | .double _ => "Double"
  | .array _ => "Array"
  | .document _ => "EmbeddedDocument"
  | .objectId _ => "ObjectId"
  | .date _ => "DateTime"
  | .binary _ _ => "Binary"
  | .regex _ _ => "RegularExpression"
  | .code _ => "JavaScriptCode"
  | .scopedCode _ _ => "JavaScriptCodeWithScope"
  | .timestamp _ _ => "Timestamp"
  | .symbol _ => "Symbol"
  | .decimal128 _ => "Decimal128"
  | .undefined => "Undefined"
  | .minKey => "MinKey"
  | .maxKey => "MaxKey"

/-- A list of documents as a value. -/
def documents (ds : List Document) : Value := .array (ds.map .document)

/-- The documents of a list that holds nothing else. -/
def documents? : List Value → Option (List Document)
  | [] => some []
  | .document d :: vs => (documents? vs).map (d :: ·)
  | _ :: _ => none

theorem documents?_map (ds : List Document) : documents? (ds.map .document) = some ds := by
  induction ds with
  | nil => rfl
  | cons d ds ih => simp [documents?, ih]

/-- A list of values that are documents, and only such a list, has documents. -/
theorem documents?_eq_some_iff {vs : List Value} {ds : List Document} :
    documents? vs = some ds ↔ vs = ds.map .document := by
  constructor
  · intro h
    induction vs generalizing ds with
    | nil => simp only [documents?, Option.some.injEq] at h; subst h; rfl
    | cons v vs ih =>
      unfold documents? at h
      split at h
      · simp_all
      · rename_i d ws heq
        obtain ⟨hd, rfl⟩ := List.cons.inj heq
        obtain ⟨es, he, rfl⟩ := Option.map_eq_some_iff.1 h
        rw [hd, ih he]
        rfl
      · simp at h
  · rintro rfl
    exact documents?_map ds

end Value

end DocQuery
