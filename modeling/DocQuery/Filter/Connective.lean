import DocQuery.Value.Basic

/-!
# Connectives

A document with the single key `$and` or `$or` over a list of documents joins those documents. This
module builds such documents (`Document.join`), takes them apart (`Document.operands?`) and strips
the ones that join a single document (`Document.unwrap`).

* `operands?_join`: what was joined is found again;
* `operands?_eq_some_iff`: only joined documents come apart;
* `unwrap_eq`: stripping looks at one connective at a time.
-/

namespace DocQuery

/-- How documents are joined. -/
inductive Connective
  /-- All of them have to match. -/
  | all
  /-- One of them has to match. -/
  | any
  deriving DecidableEq

/-- The key of a connective in a document. -/
def Connective.key : Connective → String
  | .all => "$and"
  | .any => "$or"

/-- Whether a key is the one of a connective. -/
def Connective.isKey (key : String) : Bool := key == "$and" || key == "$or"

/-- The keys of connectives are those of the two ways to join. -/
theorem Connective.isKey_iff {key : String} :
    Connective.isKey key = true ↔ ∃ c : Connective, c.key = key := by
  rw [Connective.isKey, Bool.or_eq_true, beq_iff_eq, beq_iff_eq]
  constructor
  · rintro (rfl | rfl)
    · exact ⟨.all, rfl⟩
    · exact ⟨.any, rfl⟩
  · rintro ⟨_ | _, rfl⟩
    · exact .inl rfl
    · exact .inr rfl

namespace Document

/-- The document that joins some documents. -/
def join (c : Connective) (ds : List Document) : Document := [(c.key, Value.documents ds)]

/-- The documents that a document joins; none when it holds anything else. -/
def operands? (c : Connective) (d : Document) : Option (List Document) :=
  match d with
  | [(k, .array items)] => if k = c.key then Value.documents? items else none
  | _ => none

mutual

/-- Strips connectives over a single document, as long as there are any. -/
def unwrap : List (String × Value) → Document
  | [(k, v)] => if Connective.isKey k then (sole v).getD [(k, v)] else [(k, v)]
  | d => d

/-- The stripped document of a list with a single one. -/
def sole : Value → Option Document
  | .array [v] => embedded v
  | _ => none

/-- A document as a value, stripped. -/
def embedded : Value → Option Document
  | .document d => some (unwrap d)
  | _ => none

end

/-- The document inside a connective over a single one. -/
def wrapped? : Document → Option Document
  | [(k, .array [.document d])] => if Connective.isKey k then some d else none
  | _ => none

/-- What was joined is found again. -/
theorem operands?_join (c : Connective) (ds : List Document) :
    operands? c (join c ds) = some ds := by
  simp [operands?, join, Value.documents, Value.documents?_map]

/-- Only joined documents come apart. -/
theorem operands?_eq_some_iff {c : Connective} {d : Document} {ds : List Document} :
    operands? c d = some ds ↔ d = join c ds := by
  constructor
  · intro h
    unfold operands? at h
    split at h
    · rename_i k items
      split at h
      · rename_i hk
        rw [join, hk, Value.documents, Value.documents?_eq_some_iff.1 h]
      · simp at h
    · simp at h
  · rintro rfl
    exact operands?_join c ds

/-- There is a connective over a single document only where one was joined. -/
theorem wrapped?_eq_some_iff {d e : Document} :
    wrapped? d = some e ↔ ∃ c : Connective, d = join c [e] := by
  constructor
  · intro h
    unfold wrapped? at h
    split at h
    · rename_i k e'
      split at h
      · rename_i hk
        obtain ⟨c, rfl⟩ := Connective.isKey_iff.1 hk
        rw [Option.some.injEq] at h
        exact ⟨c, by rw [h]; rfl⟩
      · cases h
    · cases h
  · rintro ⟨c, rfl⟩
    cases c <;> rfl

/-- Stripping looks at one connective at a time. -/
theorem unwrap_eq (d : Document) :
    unwrap d = match wrapped? d with
      | some e => unwrap e
      | none => d := by
  rcases d with _ | ⟨⟨k, v⟩, _ | ⟨e, d⟩⟩
  · rfl
  · cases v with
    | array items =>
      rcases items with _ | ⟨w, _ | ⟨x, items⟩⟩
      · simp [unwrap, sole, wrapped?]
      · by_cases h : Connective.isKey k = true <;> cases w <;>
          simp [unwrap, sole, embedded, wrapped?, h]
      · simp [unwrap, sole, wrapped?]
    | _ => simp [unwrap, sole, wrapped?]
  · simp [unwrap, wrapped?]

@[simp] theorem unwrap_nil : unwrap [] = [] := rfl

end Document

end DocQuery
