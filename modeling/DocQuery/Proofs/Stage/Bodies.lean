import DocQuery.Stage.Body
import Mathlib.Data.List.Forall2

/-!
# Bodies of stages and the calls that build them

Every call on the body of a group or project stage puts a value under a name. `Puts` says which,
call by call, and `IsBody` what a body is made of: one entry for every name, at the place of its
first mention, with the value that the last call for the name puts. Calls of all sorts share the
names, so a computation may replace a field that was shown, or what the documents are grouped by.

* `isReference_iff`, `stores_iff`: texts among the operands are written with exactly one `$`;
* `Accumulator.isWritten_iff`, `GroupStep.puts_iff`, `ProjectionStep.puts_iff`: what a call puts;
* `keepsLast_stageBody`: a body keeps the last call for every name;
* `isBody_group`, `isBody_project`: the bodies that are built are made in this way.
-/

namespace DocQuery

/-! ### References -/

/-- A reference to a field: the name without the `$` in front of it, however many there are, and
exactly one `$` in their place. -/
def IsReference (name ref : String) : Prop :=
  ∃ (n : Nat) (rest : List Char), name.toList = List.replicate n '$' ++ rest ∧
    rest.head? ≠ some '$' ∧ ref.toList = '$' :: rest

/-- What is stored for an operand: a reference for a text, and every other value itself. -/
inductive Stores : Value → Value → Prop
  | reference {name ref : String} (h : IsReference name ref) : Stores (.string name) (.string ref)
  | other {v : Value} (h : ∀ name, v ≠ .string name) : Stores v v

/-- Behind some `$` there is what is left when all `$` in front are dropped. -/
theorem dropWhile_replicate_append (n : Nat) {rest : List Char} (h : rest.head? ≠ some '$') :
    (List.replicate n '$' ++ rest).dropWhile (· == '$') = rest := by
  rw [List.dropWhile_append_of_pos (by simp +contextual)]
  cases rest with
  | nil => rfl
  | cons c rest =>
    have hc : ¬ (c == '$') = true := by simpa using h
    exact List.dropWhile_cons_of_neg hc

/-- Names are written as references in one way. -/
theorem isReference_iff {name ref : String} : IsReference name ref ↔ ref = fieldReference name := by
  constructor
  · rintro ⟨n, rest, hname, hrest, href⟩
    rw [fieldReference, hname, dropWhile_replicate_append n hrest, ← href, String.ofList_toList]
  · rintro rfl
    have hsigils : name.toList.takeWhile (· == '$')
        = List.replicate (name.toList.takeWhile (· == '$')).length '$' := by
      refine List.eq_replicate_of_mem (fun c hc => ?_)
      simpa using List.all_eq_true.1 List.all_takeWhile c hc
    refine ⟨(name.toList.takeWhile (· == '$')).length, name.toList.dropWhile (· == '$'), ?_, ?_, ?_⟩
    · rw [← hsigils, List.takeWhile_append_dropWhile]
    · intro h
      have hnot := List.head?_dropWhile_not (· == '$') name.toList
      rw [h] at hnot
      cases hnot
    · rw [fieldReference, String.toList_ofList]

theorem stores_iff {v w : Value} : Stores v w ↔ operand v = w := by
  constructor
  · rintro (h | h)
    · rw [isReference_iff.1 h, operand]
    · cases v with
      | string name => exact absurd rfl (h name)
      | _ => rfl
  · rintro rfl
    cases v with
    | string name => exact .reference (isReference_iff.2 rfl)
    | _ => exact .other (by simp)

/-! ### Calls -/

/-- The operator that an accumulator is written as. -/
inductive Accumulator.IsWritten : Accumulator → String → Prop
  | sum : IsWritten .sum "$sum"
  | addToSet : IsWritten .addToSet "$addToSet"
  | first : IsWritten .first "$first"
  | last : IsWritten .last "$last"
  | max : IsWritten .max "$max"
  | min : IsWritten .min "$min"
  | push : IsWritten .push "$push"

theorem Accumulator.isWritten_iff {a : Accumulator} {operator : String} :
    a.IsWritten operator ↔ a.key = operator := by
  constructor
  · intro h
    cases h <;> rfl
  · rintro rfl
    cases a <;> constructor

/-- The value that a computation puts, and the name that it puts it under. -/
inductive Computation.Puts : Computation → String → Value → Prop
  | compute {operator result : String} {v w : Value} (h : Stores v w) :
    Puts (.compute operator result v) result (.document [(operator, w)])
  | computeField {operator field : String} {w : Value} (h : Stores (.string field) w) :
    Puts (.computeField operator field) field (.document [(operator, w)])
  | count {result : String} : Puts (.count result) result (.document [("$sum", .int32 1)])
  | accumulate {a : Accumulator} {operator result : String} {v w : Value}
    (ha : a.IsWritten operator) (h : Stores v w) :
    Puts (.accumulate a result v) result (.document [(operator, w)])
  | accumulateOf {a : Accumulator} {operator field : String} {w : Value}
    (ha : a.IsWritten operator) (h : Stores (.string field) w) :
    Puts (.accumulateOf a field) field (.document [(operator, w)])

/-- The value that a call on the body of a group stage puts, and the name that it puts it under. -/
inductive GroupStep.Puts : GroupStep → String → Value → Prop
  | compute {c : Computation} {name : String} {v : Value} (h : c.Puts name v) :
    Puts (.compute c) name v
  | groupBy {v w : Value} (h : Stores v w) : Puts (.groupBy v) "_id" w

/-- The value that a call on the body of a project stage puts, and the name that it puts it
under. -/
inductive ProjectionStep.Puts : ProjectionStep → String → Value → Prop
  | compute {c : Computation} {name : String} {v : Value} (h : c.Puts name v) :
    Puts (.compute c) name v
  | select {field : String} : Puts (.select field) field (.int32 1)
  | exclude {field : String} : Puts (.exclude field) field (.int32 (-1))
  | rename {field newName : String} {w : Value} (h : Stores (.string field) w) :
    Puts (.rename field newName) newName w

theorem Computation.puts_iff {c : Computation} {name : String} {v : Value} :
    c.Puts name v ↔ c.entry = (name, v) := by
  constructor
  · rintro (h | h | _ | ⟨ha, h⟩ | ⟨ha, h⟩)
    case count => rfl
    case compute | computeField => rw [entry, stores_iff.1 h]
    case accumulate | accumulateOf => rw [entry, stores_iff.1 h, Accumulator.isWritten_iff.1 ha]
  · intro h
    cases c with
    | compute operator result v => cases h; exact .compute (stores_iff.2 rfl)
    | computeField operator field => cases h; exact .computeField (stores_iff.2 rfl)
    | count result => cases h; exact .count
    | accumulate a result v =>
      cases h
      exact .accumulate (Accumulator.isWritten_iff.2 rfl) (stores_iff.2 rfl)
    | accumulateOf a field =>
      cases h
      exact .accumulateOf (Accumulator.isWritten_iff.2 rfl) (stores_iff.2 rfl)

theorem GroupStep.puts_iff {s : GroupStep} {name : String} {v : Value} :
    s.Puts name v ↔ s.entry = (name, v) := by
  constructor
  · rintro (h | h)
    · exact Computation.puts_iff.1 h
    · rw [entry, stores_iff.1 h]
  · intro h
    cases s with
    | compute c => exact .compute (Computation.puts_iff.2 h)
    | groupBy v =>
      cases h
      exact .groupBy (stores_iff.2 rfl)

theorem ProjectionStep.puts_iff {s : ProjectionStep} {name : String} {v : Value} :
    s.Puts name v ↔ s.entry = (name, v) := by
  constructor
  · rintro (h | _ | _ | h)
    · exact Computation.puts_iff.1 h
    · rfl
    · rfl
    · rw [entry, stores_iff.1 h]
  · intro h
    cases s with
    | compute c => exact .compute (Computation.puts_iff.2 h)
    | select field => cases h; exact .select
    | exclude field => cases h; exact .exclude
    | rename field newName => cases h; exact .rename (stores_iff.2 rfl)

/-! ### Bodies -/

section

variable {σ : Type}

/-- What a body is made of that calls have built: one entry for every name that they mention, in the
order of first mention, with the value that the last call for the name puts. -/
structure IsBody (Puts : σ → String → Value → Prop) (ss : List σ) (body : Document) : Prop where
  keys_eq : ∃ names, List.Forall₂ (fun s name => ∃ v, Puts s name v) ss names ∧
    OrderedMap.keys body = names.eraseDups
  get?_eq : ∀ name v, OrderedMap.get? body name = some v ↔
    ∃ before s after, ss = before ++ s :: after ∧ Puts s name v ∧ ∀ u ∈ after, ∀ w, ¬ Puts u name w

variable (entry : σ → StageEntry)

/-- Calls, each with the name that it puts something under. -/
def namedCalls (ss : List σ) : List (String × σ) := ss.map (fun s => ((entry s).1, s))

theorem keys_namedCalls (ss : List σ) :
    OrderedMap.keys (namedCalls entry ss) = ss.map (fun s => (entry s).1) := by
  rw [OrderedMap.keys, namedCalls, List.map_map]
  rfl

/-- A body keeps the last call for every name. -/
theorem keepsLast_stageBody (ss : List σ) :
    OrderedMap.KeepsLast (fun s => (entry s).2) (namedCalls entry ss)
      (stageBody (ss.map entry)) := by
  have hentries : ss.map entry
      = OrderedMap.mapValues (fun s => (entry s).2) (namedCalls entry ss) := by
    rw [OrderedMap.mapValues, namedCalls, List.map_map]
    rfl
  rw [hentries]
  exact (OrderedMap.keepsLast_insertAll _).of_mapValues

/-- The last call for a name is one behind which no call is for it. -/
theorem last?_namedCalls_eq_some_iff {ss : List σ} {name : String} {s : σ} :
    OrderedMap.last? (namedCalls entry ss) name = some s ↔ ∃ before after,
      ss = before ++ s :: after ∧ (entry s).1 = name ∧ ∀ u ∈ after, (entry u).1 ≠ name := by
  rw [OrderedMap.last?_eq_some_iff]
  constructor
  · rintro ⟨before, after, hsplit, hafter⟩
    obtain ⟨b, rest, rfl, -, hrest⟩ := List.map_eq_append_iff.1 hsplit
    obtain ⟨s', a, rfl, hs, rfl⟩ := List.map_eq_cons_iff.1 hrest
    obtain ⟨hname, rfl⟩ := Prod.mk.inj hs
    refine ⟨b, a, rfl, hname, fun u hu hname' => hafter ?_⟩
    exact List.mem_map.2 ⟨(name, u), List.mem_map.2 ⟨u, hu, by rw [hname']⟩, rfl⟩
  · rintro ⟨before, after, rfl, hname, hafter⟩
    refine ⟨namedCalls entry before, namedCalls entry after, ?_, ?_⟩
    · rw [namedCalls, List.map_append, List.map_cons, hname]
      rfl
    · rw [keys_namedCalls, List.mem_map]
      rintro ⟨u, hu, hname'⟩
      exact hafter u hu hname'

/-- The body that calls build is made of what they put. -/
theorem isBody_stageBody {Puts : σ → String → Value → Prop}
    (hputs : ∀ s name v, Puts s name v ↔ entry s = (name, v)) (ss : List σ) :
    IsBody Puts ss (stageBody (ss.map entry)) where
  keys_eq := by
    refine ⟨ss.map (fun s => (entry s).1), ?_, ?_⟩
    · rw [List.forall₂_map_right_iff, List.forall₂_same]
      exact fun s _ => ⟨(entry s).2, (hputs _ _ _).2 rfl⟩
    · rw [(keepsLast_stageBody entry ss).keys_eq, keys_namedCalls]
  get?_eq name v := by
    -- a call puts nothing under the names that are not its own
    have hnot : ∀ u, (∀ w, ¬ Puts u name w) ↔ (entry u).1 ≠ name := by
      intro u
      simp only [hputs, Prod.ext_iff, not_and]
      exact ⟨fun h hname => h _ hname rfl, fun h _ hname => absurd hname h⟩
    rw [(keepsLast_stageBody entry ss).get?_eq, Option.map_eq_some_iff]
    simp only [last?_namedCalls_eq_some_iff, hnot]
    simp only [hputs, Prod.ext_iff]
    constructor
    · rintro ⟨s, ⟨before, after, hss, hname, hafter⟩, hv⟩
      exact ⟨before, s, after, hss, ⟨hname, hv⟩, hafter⟩
    · rintro ⟨before, s, after, hss, ⟨hname, hv⟩, hafter⟩
      exact ⟨s, ⟨before, after, hss, hname, hafter⟩, hv⟩

end

theorem isBody_group (ss : List GroupStep) :
    IsBody GroupStep.Puts ss (stageBody (ss.map GroupStep.entry)) :=
  isBody_stageBody GroupStep.entry (fun _ _ _ => GroupStep.puts_iff) ss

/-- A computation may replace what the documents are grouped by, in its place. -/
example : stageBody ([.groupBy (.string "$$a"), .compute (.accumulateOf .max "b"),
      .compute (.count "_id")].map GroupStep.entry)
    = [("_id", .document [("$sum", .int32 1)]), ("b", .document [("$max", .string "$b")])] := by
  decide

theorem isBody_project (ss : List ProjectionStep) :
    IsBody ProjectionStep.Puts ss (stageBody (ss.map ProjectionStep.entry)) :=
  isBody_stageBody ProjectionStep.entry (fun _ _ _ => ProjectionStep.puts_iff) ss

end DocQuery
