import DocQuery.Filter.Connective

/-!
# Clauses

A clause of a filter is a flat document of fields with what they have to match, or a list of
documents that all have to match. `Clause.constrain` adds a condition on one more field: a flat
clause that already has the field becomes a list, and a list takes the field into its last document
if it can. Only the fields `$nor` and `$not` may be given twice in one document: their lists are
put together.
-/

namespace DocQuery

/-- A clause of a filter. -/
inductive Clause
  /-- Fields with what they have to match. -/
  | fields (d : Document)
  /-- Documents that all have to match. -/
  | all (ds : List Document)
  deriving DecidableEq

/-- Whether a field is one whose lists are put together. -/
def isExclusionField (field : String) : Bool := field == "$nor" || field == "$not"

namespace Document

/-- The document with a condition on one more field, if it can take it. -/
def constrain? (d : Document) (field : String) (v : Value) : Option Document :=
  match OrderedMap.get? d field with
  | none => some (OrderedMap.insert d field v)
  | some present =>
    match isExclusionField field, present, v with
    | true, .array xs, .array ys => some (OrderedMap.insert d field (.array (xs ++ ys)))
    | _, _, _ => none

/-- Whether a document holds a connective. -/
def hasConnective (d : Document) : Bool :=
  OrderedMap.hasKey d "$and" || OrderedMap.hasKey d "$or"

/-- The document at the end of a list takes a condition, or a new document does. -/
def constrainLast : List Document → String → Value → List Document
  | [], field, v => [[(field, v)]]
  | [d], field, v =>
    if hasConnective d then [d, [(field, v)]]
    else
      match constrain? d field v with
      | some e => [e]
      | none => [d, [(field, v)]]
  | d :: e :: ds, field, v => d :: constrainLast (e :: ds) field v

end Document

namespace Clause

/-- A document as a clause: a list when it joins documents that all have to match. -/
def ofDocument (d : Document) : Clause :=
  match Document.operands? .all (Document.unwrap d) with
  | some ds => .all (ds.map Document.unwrap)
  | none => .fields (Document.unwrap d)

/-- A clause as a document. A list of one document is that document. -/
def render : Clause → Document
  | .fields d => d
  | .all [d] => d
  | .all ds => Document.join .all ds

/-- The clause with a condition on one more field. -/
def constrain (c : Clause) (field : String) (v : Value) : Clause :=
  match c with
  | .fields d =>
    match Document.constrain? d field v with
    | some e => .fields e
    | none => .all [d, [(field, v)]]
  | .all ds => .all (Document.constrainLast ds field v)

/-- Whether a condition turns a flat clause into a list. -/
def promotes (c : Clause) (field : String) (v : Value) : Bool :=
  match c with
  | .fields d => (Document.constrain? d field v).isNone
  | .all _ => false

end Clause

end DocQuery
