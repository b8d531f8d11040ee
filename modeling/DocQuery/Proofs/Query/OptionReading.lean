import DocQuery.Options

/-!
# Reading options

An options document is read entry by entry. An entry under a name that is read has to hold null or a
value of the type that the name asks for, and the first one that does not is the error, whatever
query the document is for. Of several entries under one name the last one counts, and null gives
nothing.

* `OptionsPatch.readEntry_eq`, `OptionsPatch.read_eq`: what is read from an entry and from a
  document;
* `OptionsPatch.flag?`, `OptionsPatch.number?`: what a document gives for a name;
* `OptionsPatch.mismatch?_eq_none_iff`: the documents that are accepted;
* `OptionsPatch.mismatch?_of_foreign`: entries that are accepted change no error.
-/

namespace DocQuery

/-- A truth value. -/
def Value.truth? : Value → Option Bool
  | .bool b => some b
  | _ => none

/-- A whole number from zero on. -/
def Value.count? : Value → Option UInt64
  | .int32 n => if n < 0 then none else some n.toInt64.toUInt64
  | .int64 n => if n < 0 then none else some n.toUInt64
  | _ => none

/-- Why a value is not accepted where another one is expected, if it is not. Null always is. -/
def Value.mismatch? (v : Value) (expected : Expected) : Option Mismatch :=
  match expected, v with
  | _, .null | .boolean, .bool _ | .text, .string _ => none
  | .unsigned, .int32 n => if n < 0 then some (.negative n.toInt) else none
  | .unsigned, .int64 n => if n < 0 then some (.negative n.toInt) else none
  | _, v => some (.wrongType v expected)

namespace OptionsPatch

/-- The names that are read from options documents. -/
def names : List String := ["safe", "fsync", "timeout", "justOne", "upsert", "multiple", "atomic"]

/-- What an entry under a name has to hold, if the name is read. -/
def expected? (name : String) : Option Expected :=
  if name ∈ names then some (if name = "timeout" then .unsigned else .boolean) else none

/-- Why an entry is not accepted, if it is not. -/
def entryMismatch? (e : String × Value) : Option Mismatch :=
  (expected? e.1).bind e.2.mismatch?

/-- Why a document is not accepted, if it is not: the first of its entries that are not tells it. -/
def mismatch? (d : Document) : Option Mismatch := d.findSome? entryMismatch?

/-- The options after one more entry. -/
def put (p : OptionsPatch) (name : String) (v : Value) : OptionsPatch where
  safe := if name = "safe" then v.truth? else p.safe
  fsync := if name = "fsync" then v.truth? else p.fsync
  timeout := if name = "timeout" then v.count? else p.timeout
  justOne := if name = "justOne" then v.truth? else p.justOne
  upsert := if name = "upsert" then v.truth? else p.upsert
  multiple := if name = "multiple" then v.truth? else p.multiple
  atomic := if name = "atomic" then v.truth? else p.atomic

/-- The truth value that a document gives for a name. -/
def flag? (d : Document) (name : String) : Option Bool := (OrderedMap.last? d name).bind Value.truth?

/-- The number that a document gives for a name. -/
def number? (d : Document) (name : String) : Option UInt64 :=
  (OrderedMap.last? d name).bind Value.count?

/-- All that a document gives. -/
def given (d : Document) : OptionsPatch where
  safe := flag? d "safe"
  fsync := flag? d "fsync"
  timeout := number? d "timeout"
  justOne := flag? d "justOne"
  upsert := flag? d "upsert"
  multiple := flag? d "multiple"
  atomic := flag? d "atomic"

/-! ### Entries -/

theorem map_boolean {β : Type} (f : Option Bool → β) (v : Value) :
    (boolean v).map f = match v.mismatch? .boolean with
      | none => .ok (f v.truth?)
      | some m => .error m := by
  cases v <;> rfl

theorem map_unsigned {β : Type} (f : Option UInt64 → β) (v : Value) :
    (unsigned v).map f = match v.mismatch? .unsigned with
      | none => .ok (f v.count?)
      | some m => .error m := by
  cases v with
  | int32 n =>
    by_cases hn : n < 0 <;> simp [unsigned, Value.mismatch?, Value.count?, hn, Except.map]
  | int64 n =>
    by_cases hn : n < 0 <;> simp [unsigned, Value.mismatch?, Value.count?, hn, Except.map]
  | _ => rfl

theorem put_of_notMem {name : String} (h : name ∉ names) (p : OptionsPatch) (v : Value) :
    p.put name v = p := by
  simp only [names, List.mem_cons, List.not_mem_nil, or_false, not_or] at h
  obtain ⟨hsafe, hfsync, htimeout, hone, hupsert, hmultiple, hatomic⟩ := h
  simp [put, hsafe, hfsync, htimeout, hone, hupsert, hmultiple, hatomic]

theorem entryMismatch?_of_notMem {name : String} (h : name ∉ names) (v : Value) :
    entryMismatch? (name, v) = none := by
  rw [entryMismatch?, expected?, if_neg h]
  rfl

/-- What is read from an entry. -/
theorem readEntry_eq (p : OptionsPatch) (name : String) (v : Value) :
    readEntry p name v = match entryMismatch? (name, v) with
      | none => .ok (p.put name v)
      | some m => .error m := by
  unfold readEntry
  split
  case h_3 => exact map_unsigned _ v
  case h_8 hsafe hfsync htimeout hone hupsert hmultiple hatomic =>
    have hname : name ∉ names := by
      simp only [names, List.mem_cons, List.not_mem_nil, or_false, not_or]
      exact ⟨hsafe, hfsync, htimeout, hone, hupsert, hmultiple, hatomic⟩
    rw [entryMismatch?_of_notMem hname, put_of_notMem hname]
  all_goals exact map_boolean _ v

/-! ### Documents -/

/-- The options after all entries of a document: what the last one under a name says, or else what
there was. -/
def putAll (p : OptionsPatch) (d : Document) : OptionsPatch where
  safe := (OrderedMap.last? d "safe").elim p.safe Value.truth?
  fsync := (OrderedMap.last? d "fsync").elim p.fsync Value.truth?
  timeout := (OrderedMap.last? d "timeout").elim p.timeout Value.count?
  justOne := (OrderedMap.last? d "justOne").elim p.justOne Value.truth?
  upsert := (OrderedMap.last? d "upsert").elim p.upsert Value.truth?
  multiple := (OrderedMap.last? d "multiple").elim p.multiple Value.truth?
  atomic := (OrderedMap.last? d "atomic").elim p.atomic Value.truth?

theorem elim_last?_cons {β : Type} (name key : String) (v : Value) (d : Document) (b : β)
    (value : Value → β) :
    (OrderedMap.last? ((name, v) :: d) key).elim b value
      = (OrderedMap.last? d key).elim (if name = key then value v else b) value := by
  rw [OrderedMap.last?_cons]
  cases OrderedMap.last? d key with
  | some w => rfl
  | none => by_cases hn : name = key <;> simp [hn]

theorem putAll_cons (p : OptionsPatch) (name : String) (v : Value) (d : Document) :
    p.putAll ((name, v) :: d) = (p.put name v).putAll d := by
  simp only [putAll, put, elim_last?_cons]

theorem putAll_empty (d : Document) : putAll {} d = given d := by
  have hbind : ∀ {β : Type} (v? : Option Value) (f : Value → Option β),
      v?.elim none f = v?.bind f := by
    intro β v? f
    cases v? <;> rfl
  simp only [putAll, given, flag?, number?, hbind]

theorem readEntries_eq (p : OptionsPatch) (d : Document) :
    readEntries p d = match mismatch? d with
      | none => .ok (p.putAll d)
      | some m => .error m := by
  induction d generalizing p with
  | nil => rfl
  | cons e d ih =>
    obtain ⟨name, v⟩ := e
    rw [readEntries, readEntry_eq, mismatch?, List.findSome?_cons]
    cases entryMismatch? (name, v) with
    | none =>
      rw [putAll_cons]
      exact ih (p.put name v)
    | some m => rfl

/-- What is read from a document. -/
theorem read_eq (d : Document) :
    read d = match mismatch? d with
      | none => .ok (given d)
      | some m => .error (.badQueryOption m) := by
  rw [read, readEntries_eq, putAll_empty]
  cases mismatch? d <;> rfl

/-! ### Accepted documents -/

theorem mismatch?_boolean_eq_none_iff {v : Value} :
    v.mismatch? .boolean = none ↔ v = .null ∨ v.truth?.isSome = true := by
  cases v <;> simp [Value.mismatch?, Value.truth?]

theorem mismatch?_unsigned_eq_none_iff {v : Value} :
    v.mismatch? .unsigned = none ↔ v = .null ∨ v.count?.isSome = true := by
  cases v with
  | int32 n => by_cases hn : n < 0 <;> simp [Value.mismatch?, Value.count?, hn]
  | int64 n => by_cases hn : n < 0 <;> simp [Value.mismatch?, Value.count?, hn]
  | _ => simp [Value.mismatch?, Value.count?]

/-- A document is accepted if each of its entries is null, or a number under the name of the timeout
and a truth value under the other names that are read. -/
theorem mismatch?_eq_none_iff {d : Document} :
    mismatch? d = none ↔ ∀ e ∈ d, e.1 ∈ names →
      e.2 = .null ∨
        if e.1 = "timeout" then e.2.count?.isSome = true else e.2.truth?.isSome = true := by
  rw [mismatch?, List.findSome?_eq_none_iff]
  refine forall₂_congr fun e _ => ?_
  rw [entryMismatch?, expected?]
  by_cases hname : e.1 ∈ names
  · rw [if_pos hname, Option.bind_some, imp_iff_right hname]
    by_cases htimeout : e.1 = "timeout"
    · rw [if_pos htimeout, if_pos htimeout]
      exact mismatch?_unsigned_eq_none_iff
    · rw [if_neg htimeout, if_neg htimeout]
      exact mismatch?_boolean_eq_none_iff
  · rw [if_neg hname]
    simp [hname]

/-! ### Some names and the others -/

/-- The entries of a document under some names. -/
def own (ns : List String) (d : Document) : Document := d.filter (fun e => ns.contains e.1)

/-- The other entries. -/
def foreign (ns : List String) (d : Document) : Document := d.filter (fun e => !ns.contains e.1)

variable {ns : List String} {d : Document}

theorem last?_own {name : String} (h : name ∈ ns) :
    OrderedMap.last? (own ns d) name = OrderedMap.last? d name := by
  induction d with
  | nil => rfl
  | cons e d ih =>
    obtain ⟨n, v⟩ := e
    rw [OrderedMap.last?_cons, ← ih, own, List.filter_cons]
    by_cases hn : n ∈ ns
    · rw [if_pos (List.contains_iff_mem.2 hn), OrderedMap.last?_cons]
      rfl
    · have hne : n ≠ name := fun he => hn (he ▸ h)
      rw [if_neg (by simpa using hn), if_neg hne, Option.or_none]
      rfl

theorem flag?_own {name : String} (h : name ∈ ns) : flag? (own ns d) name = flag? d name := by
  rw [flag?, last?_own h, flag?]

theorem number?_own {name : String} (h : name ∈ ns) : number? (own ns d) name = number? d name := by
  rw [number?, last?_own h, number?]

theorem mismatch?_eq_none_iff_own_foreign :
    mismatch? d = none ↔ mismatch? (own ns d) = none ∧ mismatch? (foreign ns d) = none := by
  simp only [mismatch?, own, foreign, List.findSome?_eq_none_iff, List.mem_filter]
  constructor
  · intro h
    exact ⟨fun e he => h e he.1, fun e he => h e he.1⟩
  · rintro ⟨hown, hforeign⟩ e he
    by_cases hn : ns.contains e.1 = true
    · exact hown e ⟨he, hn⟩
    · exact hforeign e ⟨he, by simpa using hn⟩

/-- Entries that are accepted do not change why a document is not. -/
theorem mismatch?_of_foreign (h : mismatch? (foreign ns d) = none) :
    mismatch? d = mismatch? (own ns d) := by
  induction d with
  | nil => rfl
  | cons e d ih =>
    rw [own, List.filter_cons]
    rw [foreign, List.filter_cons] at h
    by_cases hn : ns.contains e.1 = true
    · rw [if_neg (by simpa using hn)] at h
      rw [if_pos hn, mismatch?, mismatch?, List.findSome?_cons, List.findSome?_cons]
      cases entryMismatch? e with
      | none => exact ih h
      | some m => rfl
    · rw [if_pos (by simpa using hn), mismatch?, List.findSome?_cons] at h
      rw [if_neg hn, mismatch?, List.findSome?_cons]
      cases he : entryMismatch? e with
      | none =>
        rw [he] at h
        exact ih h
      | some m =>
        rw [he] at h
        cases h

/-- A document is refused or not as its entries under some names are, if the others are accepted or
it is refused anyway. -/
theorem isSome_mismatch?_own_iff :
    (mismatch? d).isSome = (mismatch? (own ns d)).isSome ↔
      mismatch? (foreign ns d) = none ∨ mismatch? (own ns d) ≠ none := by
  have h : mismatch? d = none ↔ mismatch? (own ns d) = none ∧ mismatch? (foreign ns d) = none :=
    mismatch?_eq_none_iff_own_foreign
  cases hown : mismatch? (own ns d) with
  | some m =>
    have hd : mismatch? d ≠ none := by
      intro hd
      rw [hown] at h
      cases (h.1 hd).1
    simpa [Option.isSome_iff_ne_none] using hd
  | none => simpa [hown] using h

/-- Whatever stands under names that are not read is accepted. -/
theorem mismatch?_foreign_names (d : Document) : mismatch? (foreign names d) = none := by
  rw [mismatch?_eq_none_iff]
  intro e he hname
  have hnot := (List.mem_filter.1 he).2
  rw [List.contains_iff_mem.2 hname] at hnot
  cases hnot

end OptionsPatch

end DocQuery
