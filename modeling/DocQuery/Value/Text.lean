import DocQuery.Value.Decimal
import DocQuery.Double.Text
import DocQuery.Text.Base64
import DocQuery.Calendar

/-!
# Values as text

How a value is shown in log records and in names of indexes. Texts stand between plain quotes,
nothing in them is escaped; lists stand in brackets and documents in braces.
-/

namespace DocQuery.Value

/-- The text of a date: its day and time of day, or its milliseconds when its year is out of
range. -/
def dateText (millis : Int64) : String :=
  (Calendar.instantText? millis.toInt).getD (toString millis.toInt)

mutual

/-- The text of a value. -/
def text : Value → String
  | .null => "null"
  | .bool b => if b then "true" else "false"
  | .string s => "\"" ++ s ++ "\""
  | .int32 n => toString n.toInt
  | .int64 n => toString n.toInt
  | .double x => x.text
  | .array items => "[" ++ itemsText items ++ "]"
  | .document fields => fieldsText fields
  | .objectId id => "ObjectId(\"" ++ id.encode ++ "\")"
  | .date millis => "DateTime(\"" ++ dateText millis ++ "\")"
  | .binary subtype bytes =>
    "Binary(0x" ++ Hex.ofNat subtype.toNat ++ ", " ++ Base64.encode bytes ++ ")"
  | .regex pattern options => "/" ++ pattern ++ "/" ++ options
  | .code source => source
  | .scopedCode source _ => source
  | .timestamp time increment =>
    "Timestamp(" ++ toString time.toNat ++ ", " ++ toString increment.toNat ++ ")"
  | .symbol name => "Symbol(\"" ++ name ++ "\")"
  | .decimal128 d => d.text
  | .undefined => "undefined"
  | .minKey => "MinKey"
  | .maxKey => "MaxKey"

/-- The texts of some values, with commas between them. -/
def itemsText : List Value → String
  | [] => ""
  | [v] => v.text
  | v :: vs => v.text ++ ", " ++ itemsText vs

/-- The text of a document. -/
def fieldsText : List (String × Value) → String
  | [] => "\x7b\x7d"
  | (k, v) :: rest => "\x7b \"" ++ k ++ "\": " ++ v.text ++ moreFieldsText rest

/-- The rest of a document after its first entry, with the closing brace. -/
def moreFieldsText : List (String × Value) → String
  | [] => " \x7d"
  | (k, v) :: rest => ", \"" ++ k ++ "\": " ++ v.text ++ moreFieldsText rest

end

end DocQuery.Value

namespace DocQuery

/-- The text of a document. -/
def Document.text (d : Document) : String := Value.fieldsText d

end DocQuery
