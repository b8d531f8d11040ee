import Mathlib.Data.List.Forall2
import Mathlib.Data.List.Nodup
import DocQuery.Query.Update
import DocQuery.Proofs.Query.OptionReading

/-!
# Update documents

The steps of an update query ask for changes, one after the other: fields under operators, with
values. The update document says what they come to: every field that was ever changed stands once,
under the operator and with the value of its last change, and fields and operators are in the order
in which they were first mentioned. `Settles` says this of groups of fields without building any.

* `UpdateStep.Modifies`: the operator and the value that each sort of step gives which fields;
* `nodup_eraseDups`, `firsts_sublist`: the classes of a list, each at its first member;
* `settles_groups`: the groups of an update query settle the changes that were put into it;
* `changes_runList`, `atomic_runList`: what a run of steps puts into it;
* `update_runList`: the update document after a run of steps.
-/

namespace DocQuery

/-! ### Classes of a list -/

theorem nodup_eraseDups {α : Type} [DecidableEq α] (l : List α) : l.eraseDups.Nodup := by
  cases l with
  | nil => exact List.nodup_nil
  | cons a l =>
    rw [List.eraseDups_cons, List.nodup_cons]
    refine ⟨?_, nodup_eraseDups (l.filter (fun b => !b == a))⟩
    simp
termination_by l.length
decreasing_by exact Nat.lt_succ_of_le (List.length_filter_le _ _)

/-- The first members of the classes of a list, in the order of first mention of the classes, are in
the order of the list. -/
theorem firsts_sublist {α β : Type} [DecidableEq β] (f : α → β) (l : List α) :
    ((l.map f).eraseDups.filterMap (fun b => l.find? (fun a => f a = b))).Sublist l := by
  cases l with
  | nil => exact List.Sublist.refl _
  | cons a l =>
    -- the class of `a` begins with `a`, and the others are the classes of the list without it
    have hmap : (l.map f).filter (fun b => !b == f a)
        = (l.filter (fun x => !f x == f a)).map f := by
      rw [List.filter_map]
      rfl
    have hfind : ∀ b ∈ ((l.filter (fun x => !f x == f a)).map f).eraseDups,
        (a :: l).find? (fun x => f x = b)
          = (l.filter (fun x => !f x == f a)).find? (fun x => f x = b) := by
      intro b hb
      rw [List.mem_eraseDups, List.mem_map] at hb
      obtain ⟨x, hx, rfl⟩ := hb
      have hne : f x ≠ f a := by simpa using (List.mem_filter.1 hx).2
      rw [List.find?_cons_of_neg (by simpa using hne.symm), List.find?_filter]
      congr 1
      funext y
      by_cases hy : f y = f x <;> simp [hy, hne]
    rw [List.map_cons, List.eraseDups_cons, hmap, List.filterMap_cons,
      List.find?_cons_of_pos (by simp), List.filterMap_congr hfind]
    exact ((firsts_sublist f (l.filter (fun x => !f x == f a))).trans
      List.filter_sublist).cons_cons a
termination_by l.length
decreasing_by exact Nat.lt_succ_of_le (List.length_filter_le _ _)

/-! ### What steps ask for -/

/-- An operator with its value, for a field. -/
abbrev Modification := String × (String × Value)

/-- What a step asks for. Operators that take no value of their own have 1, but -1 where the first
element of a list is removed and not the last one. Whatever is added to a set is a list, unless it
is a document. -/
inductive UpdateStep.Modifies : UpdateStep → List Modification → Prop
  | set (field : String) (v : Value) : Modifies (.set field v) [(field, "$set", v)]
  | setMany (d : Document) : Modifies (.setMany d) (d.map (fun e => (e.1, "$set", e.2)))
  | remove (field : String) : Modifies (.remove field) [(field, "$unset", .int32 1)]
  | removeMany (fields : List String) :
    Modifies (.removeMany fields) (fields.map (fun field => (field, "$unset", .int32 1)))
  | rename (field newName : String) :
    Modifies (.rename field newName) [(field, "$rename", .string newName)]
  | push (field : String) (v : Value) : Modifies (.push field v) [(field, "$push", v)]
  | pushAll (field : String) (vs : List Value) :
    Modifies (.pushAll field vs) [(field, "$pushAll", .array vs)]
  | pull (field : String) (v : Value) : Modifies (.pull field v) [(field, "$pull", v)]
  | pullWith (field operator : String) (v : Value) :
    Modifies (.pullWith field operator v) [(field, "$pull", .document [(operator, v)])]
  | pullAll (field : String) (vs : List Value) :
    Modifies (.pullAll field vs) [(field, "$pullAll", .array vs)]
  | addList (field : String) (vs : List Value) :
    Modifies (.addToSet field (.array vs)) [(field, "$addToSet", .array vs)]
  | addDocument (field : String) (d : Document) :
    Modifies (.addToSet field (.document d)) [(field, "$addToSet", .document d)]
  | addSingle (field : String) {v : Value} (hlist : ∀ vs, v ≠ .array vs)
    (hdocument : ∀ d, v ≠ .document d) :
    Modifies (.addToSet field v) [(field, "$addToSet", .array [v])]
  | pop (field : String) : Modifies (.pop field) [(field, "$pop", .int32 1)]
  | unshift (field : String) : Modifies (.unshift field) [(field, "$pop", .int32 (-1))]
  | increment (field : String) (v : Value) : Modifies (.increment field v) [(field, "$inc", v)]
  | shared (s : QueryStep) : Modifies (.shared s) []
  | single (on : Bool) : Modifies (.single on) []
  | multiple (on : Bool) : Modifies (.multiple on) []
  | upsert (on : Bool) : Modifies (.upsert on) []
  | atomic (on : Bool) : Modifies (.atomic on) []
  | updateOptions : Modifies .updateOptions []

/-- The changes of a step with the keys of their modifiers. -/
def UpdateStep.modifications (s : UpdateStep) : List Modification :=
  s.changes.map (fun e => (e.1, e.2.1.key, e.2.2))

theorem UpdateStep.modifications_setMany (d : Document) :
    (UpdateStep.setMany d).modifications = d.map (fun e => (e.1, "$set", e.2)) :=
  List.map_map

theorem UpdateStep.modifications_removeMany (fields : List String) :
    (UpdateStep.removeMany fields).modifications
      = fields.map (fun field => (field, "$unset", .int32 1)) :=
  List.map_map

theorem UpdateStep.modifications_addToSet {field : String} {v : Value}
    (hlist : ∀ vs, v ≠ .array vs) (hdocument : ∀ d, v ≠ .document d) :
    (UpdateStep.addToSet field v).modifications = [(field, "$addToSet", .array [v])] := by
  cases v with
  | array vs => exact absurd rfl (hlist vs)
  | document d => exact absurd rfl (hdocument d)
  | _ => rfl

/-- What a step asks for is what it changes. -/
theorem UpdateStep.modifies_iff {s : UpdateStep} {ms : List Modification} :
    s.Modifies ms ↔ s.modifications = ms := by
  constructor
  · intro h
    cases h with
    | setMany d => exact modifications_setMany d
    | removeMany fields => exact modifications_removeMany fields
    | addSingle field hlist hdocument => exact modifications_addToSet hlist hdocument
    | _ => rfl
  · rintro rfl
    cases s with
    | setMany d => rw [modifications_setMany]; exact .setMany d
    | removeMany fields => rw [modifications_removeMany]; exact .removeMany fields
    | addToSet field v =>
      cases v with
      | array vs => exact .addList field vs
      | document d => exact .addDocument field d
      | _ => exact .addSingle field (by simp) (by simp)
    | _ => constructor

/-! ### Groups of fields -/

/-- What groups of fields under operators have to be to say what changes, one after the other, come
to. -/
structure Settles {β : Type} (groups : List (β × Document)) (changes : List (String × (β × Value))) :
    Prop where
  /-- No operator has two groups. -/
  nodup_operators : (groups.map Prod.fst).Nodup
  /-- No group is empty. -/
  ne_nil : ∀ g ∈ groups, g.2 ≠ []
  /-- No field stands twice, be it in one group or in two. -/
  nodup_fields : (groups.flatMap (fun g => OrderedMap.keys g.2)).Nodup
  /-- A field that was changed stands under the operator of its last change, with the value of that,
  and no other field stands anywhere. -/
  mem_iff : ∀ m field v, (∃ fields, (m, fields) ∈ groups ∧ (field, v) ∈ fields) ↔
    OrderedMap.last? changes field = some (m, v)
  /-- The fields of a group are in the order of their first changes. -/
  fields_sublist : ∀ g ∈ groups,
    (OrderedMap.keys g.2).Sublist (OrderedMap.keys changes).eraseDups
  /-- The groups are in the order of the first changes of their first fields. -/
  firsts_sublist : (groups.filterMap (fun g => (OrderedMap.keys g.2).head?)).Sublist
    (OrderedMap.keys changes).eraseDups

/-- Groups settle changes under whatever names, if no two operators share one. -/
theorem Settles.rename {β γ : Type} {f : β → γ} (hf : Function.Injective f)
    {groups : List (β × Document)} {changes : List (String × (β × Value))}
    (h : Settles groups changes) :
    Settles (groups.map (fun g => (f g.1, g.2)))
      (OrderedMap.mapValues (fun c => (f c.1, c.2)) changes) where
  nodup_operators := by
    rw [List.map_map]
    have hmap := h.nodup_operators.map hf
    rwa [List.map_map] at hmap
  ne_nil := by
    simp only [List.forall_mem_map]
    exact h.ne_nil
  nodup_fields := by
    rw [List.flatMap_map]
    exact h.nodup_fields
  mem_iff m field v := by
    rw [OrderedMap.last?_mapValues, Option.map_eq_some_iff]
    constructor
    · rintro ⟨fields, hg, hv⟩
      obtain ⟨⟨j, fields'⟩, hj, heq⟩ := List.mem_map.1 hg
      cases heq
      exact ⟨(j, v), (h.mem_iff j field v).1 ⟨fields', hj, hv⟩, rfl⟩
    · rintro ⟨⟨j, w⟩, hlast, heq⟩
      cases heq
      obtain ⟨fields, hg, hv⟩ := (h.mem_iff j field w).2 hlast
      exact ⟨fields, List.mem_map.2 ⟨(j, fields), hg, rfl⟩, hv⟩
  fields_sublist := by
    rw [OrderedMap.keys_mapValues]
    simp only [List.forall_mem_map]
    exact h.fields_sublist
  firsts_sublist := by
    rw [OrderedMap.keys_mapValues, List.filterMap_map]
    exact h.firsts_sublist

namespace UpdateDirectives

variable (d : UpdateDirectives)

/-- The modifiers in use with their fields. -/
def groups : List (Modifier × Document) := d.modifiers.map (fun m => (m, d.fieldsUnder m))

theorem update_eq_groups :
    d.update = d.groups.map (fun g => (g.1.key, .document g.2))
      ++ (if d.atomic then [("$atomic", .int32 1)] else []) := by
  rw [update, groups, List.map_map]
  rfl

theorem mem_modifiers {m : Modifier} : m ∈ d.modifiers ↔ ∃ e ∈ d.changes, e.2.1 = m := by
  rw [modifiers, List.mem_eraseDups, List.mem_map]

theorem mem_fieldsUnder {m : Modifier} {field : String} {v : Value} :
    (field, v) ∈ d.fieldsUnder m ↔ (field, (m, v)) ∈ d.changes := by
  rw [fieldsUnder, List.mem_filterMap]
  constructor
  · rintro ⟨⟨k, j, w⟩, he, h⟩
    rw [Option.ite_none_right_eq_some, Option.some.injEq, Prod.mk.injEq] at h
    obtain ⟨rfl, rfl, rfl⟩ := h
    exact he
  · intro he
    exact ⟨_, he, by simp⟩

theorem mem_groups {m : Modifier} {fields : Document} :
    (m, fields) ∈ d.groups ↔ m ∈ d.modifiers ∧ fields = d.fieldsUnder m := by
  rw [groups, List.mem_map]
  constructor
  · rintro ⟨j, hj, h⟩
    rw [Prod.mk.injEq] at h
    obtain ⟨rfl, rfl⟩ := h
    exact ⟨hj, rfl⟩
  · rintro ⟨hm, rfl⟩
    exact ⟨m, hm, rfl⟩

/-- The fields under a modifier are those of the changes with that modifier. -/
theorem keys_fieldsUnder (m : Modifier) :
    OrderedMap.keys (d.fieldsUnder m)
      = OrderedMap.keys (d.changes.filter (fun e => e.2.1 = m)) := by
  rw [fieldsUnder, OrderedMap.keys, OrderedMap.keys, List.map_filterMap, ← List.filterMap_eq_map,
    List.filterMap_filter]
  congr 1
  funext e
  by_cases h : e.2.1 = m <;> simp [h]

theorem keys_fieldsUnder_sublist (m : Modifier) :
    (OrderedMap.keys (d.fieldsUnder m)).Sublist (OrderedMap.keys d.changes) := by
  rw [keys_fieldsUnder]
  exact List.filter_sublist.map _

/-- The first field under a modifier is that of the first change with it. -/
theorem head?_keys_fieldsUnder (m : Modifier) :
    (OrderedMap.keys (d.fieldsUnder m)).head?
      = (d.changes.find? (fun e => e.2.1 = m)).map Prod.fst := by
  rw [keys_fieldsUnder, OrderedMap.keys, List.head?_map, List.head?_filter]

theorem fieldsUnder_ne_nil {m : Modifier} (h : m ∈ d.modifiers) : d.fieldsUnder m ≠ [] := by
  obtain ⟨⟨field, j, v⟩, he, rfl⟩ := d.mem_modifiers.1 h
  exact List.ne_nil_of_mem (d.mem_fieldsUnder.2 he)

/-- With one change for each field, no field stands under two modifiers or twice under one. -/
theorem nodup_fields_groups (h : (OrderedMap.keys d.changes).Nodup) :
    (d.groups.flatMap (fun g => OrderedMap.keys g.2)).Nodup := by
  rw [groups, List.flatMap_map, List.nodup_flatMap]
  refine ⟨fun m _ => (d.keys_fieldsUnder_sublist m).nodup h, ?_⟩
  refine (nodup_eraseDups _).imp (fun {m j} hne field hm hj => hne ?_)
  obtain ⟨⟨_, v⟩, hv, rfl⟩ := List.mem_map.1 hm
  obtain ⟨⟨_, w⟩, hw, hf⟩ := List.mem_map.1 hj
  dsimp only at hf
  subst hf
  -- the two are what is found under the field
  have hv := (OrderedMap.get?_eq_some_iff h).2 (d.mem_fieldsUnder.1 hv)
  have hw := (OrderedMap.get?_eq_some_iff h).2 (d.mem_fieldsUnder.1 hw)
  rw [hv, Option.some.injEq, Prod.mk.injEq] at hw
  exact hw.1

/-- The groups of an update query settle the changes that were put into it. -/
theorem settles_groups {changes : List Change}
    (h : d.changes = OrderedMap.insertAll [] changes) : Settles d.groups changes := by
  have hkeys : OrderedMap.keys d.changes = (OrderedMap.keys changes).eraseDups := by
    rw [h, OrderedMap.keys_insertAll_nil]
  have hnodup : (OrderedMap.keys d.changes).Nodup := by
    rw [hkeys]
    exact nodup_eraseDups _
  constructor
  case nodup_operators =>
    have hfst : d.groups.map Prod.fst = d.modifiers := by
      rw [groups, List.map_map]
      exact List.map_id' d.modifiers
    rw [hfst]
    exact nodup_eraseDups _
  case ne_nil =>
    rintro ⟨m, fields⟩ hg
    obtain ⟨hm, rfl⟩ := d.mem_groups.1 hg
    exact d.fieldsUnder_ne_nil hm
  case nodup_fields => exact d.nodup_fields_groups hnodup
  case mem_iff =>
    intro m field v
    have hlast : OrderedMap.get? d.changes field = OrderedMap.last? changes field := by
      rw [h, OrderedMap.get?_insertAll, OrderedMap.get?_nil, Option.or_none]
    rw [← hlast, OrderedMap.get?_eq_some_iff hnodup, ← d.mem_fieldsUnder]
    constructor
    · rintro ⟨fields, hg, hv⟩
      rwa [(d.mem_groups.1 hg).2] at hv
    · intro hv
      have hm : m ∈ d.modifiers := d.mem_modifiers.2 ⟨_, d.mem_fieldsUnder.1 hv, rfl⟩
      exact ⟨_, d.mem_groups.2 ⟨hm, rfl⟩, hv⟩
  case fields_sublist =>
    rintro ⟨m, fields⟩ hg
    rw [(d.mem_groups.1 hg).2, ← hkeys]
    exact d.keys_fieldsUnder_sublist m
  case firsts_sublist =>
    rw [← hkeys, groups, List.filterMap_map]
    have hhead : ((fun g => (OrderedMap.keys g.2).head?) ∘ fun m => (m, d.fieldsUnder m))
        = fun m => (d.changes.find? (fun e => e.2.1 = m)).map Prod.fst := by
      funext m
      exact d.head?_keys_fieldsUnder m
    rw [hhead, ← List.map_filterMap]
    exact (DocQuery.firsts_sublist (fun e => e.2.1) d.changes).map _

end UpdateDirectives

/-! ### Runs -/

/-- What a step sets the marker to, if it sets it: the value itself, or that under `atomic` in an
options document that is accepted. -/
def UpdateStep.atomicSetting : UpdateStep → Option Bool
  | .atomic on => some on
  | .shared (.option (.patch d)) =>
    if OptionsPatch.mismatch? d = none then OptionsPatch.flag? d "atomic" else none
  | _ => none

/-- An options document changes the directives if it is accepted. -/
theorem UpdateStep.directives_run_patch (d : Document) (q : Update) (t : Settings) :
    ((UpdateStep.shared (.option (.patch d))).run q t).state.directives
      = match OptionsPatch.read d with
        | .ok p => Directives.patch q.directives p
        | .error _ => q.directives := by
  rw [UpdateStep.run, QueryStep.runOn, OptionStep.run]
  cases OptionsPatch.read d <;> rfl

/-- A step sets the marker as it says, or leaves it. -/
theorem UpdateStep.atomic_run (s : UpdateStep) (q : Update) (t : Settings) :
    (s.run q t).state.directives.atomic = s.atomicSetting.getD q.directives.atomic := by
  cases s with
  | shared s =>
    cases s with
    | filter s => rfl
    | option s =>
      cases s with
      | patch d =>
        rw [UpdateStep.directives_run_patch, UpdateStep.atomicSetting, OptionsPatch.read_eq]
        cases OptionsPatch.mismatch? d <;> rfl
      | _ => rfl
  | _ => rfl

/-- A step puts the changes that it asks for into the query. -/
theorem UpdateStep.changes_run (s : UpdateStep) (q : Update) (t : Settings) :
    (s.run q t).state.directives.changes
      = OrderedMap.insertAll q.directives.changes s.changes := by
  cases s with
  | shared s =>
    cases s with
    | filter s => rfl
    | option s =>
      cases s with
      | patch d =>
        rw [UpdateStep.directives_run_patch]
        cases OptionsPatch.read d <;> rfl
      | _ => rfl
  | _ => rfl

/-- A run puts the changes that its steps ask for into the query, one after the other. -/
theorem changes_runList (ss : List UpdateStep) (q : Update) (t : Settings) :
    (runList UpdateStep.run ss q t).state.directives.changes
      = OrderedMap.insertAll q.directives.changes (ss.flatMap UpdateStep.changes) := by
  induction ss generalizing q t with
  | nil => rfl
  | cons s ss ih =>
    rw [List.flatMap_cons, OrderedMap.insertAll_append, ← UpdateStep.changes_run s q t, ← ih]
    rfl

/-- After a run the marker is as it was set last. -/
theorem atomic_runList (ss : List UpdateStep) (q : Update) (t : Settings) :
    (runList UpdateStep.run ss q t).state.directives.atomic
      = (ss.filterMap UpdateStep.atomicSetting).getLastD q.directives.atomic := by
  induction ss generalizing q t with
  | nil => rfl
  | cons s ss ih =>
    have h := UpdateStep.atomic_run s q t
    rw [runList]
    dsimp only
    rw [ih, h, List.filterMap_cons]
    cases s.atomicSetting with
    | none => rfl
    | some on => exact List.getLastD_cons.symm

theorem Modifier.mem_all (m : Modifier) : m ∈ Modifier.all := by
  cases m <;> decide

/-- Different modifiers have different keys, none of which is that of the marker. -/
theorem Modifier.nodup_keys : ("$atomic" :: Modifier.all.map Modifier.key).Nodup := by
  decide

theorem Modifier.key_injective : Function.Injective Modifier.key := by
  intro m j h
  have hall := (List.nodup_cons.1 Modifier.nodup_keys).2
  exact List.inj_on_of_nodup_map hall m.mem_all j.mem_all h

theorem Modifier.key_ne_atomic (m : Modifier) : m.key ≠ "$atomic" := by
  intro h
  have hnot := (List.nodup_cons.1 Modifier.nodup_keys).1
  exact hnot (h ▸ List.mem_map_of_mem m.mem_all)

/-- No key stands twice in an update document. -/
theorem UpdateDirectives.nodup_keys_update (d : UpdateDirectives) :
    (OrderedMap.keys d.update).Nodup := by
  have hkeys : OrderedMap.keys d.update
      = d.modifiers.map Modifier.key ++ (if d.atomic then ["$atomic"] else []) := by
    rw [UpdateDirectives.update, OrderedMap.keys, List.map_append, List.map_map]
    cases d.atomic <;> rfl
  rw [hkeys, List.nodup_append]
  refine ⟨(nodup_eraseDups _).map Modifier.key_injective, ?_, ?_⟩
  · cases d.atomic <;> decide
  · intro x hx y hy hxy
    obtain ⟨m, -, rfl⟩ := List.mem_map.1 hx
    have ha : y = "$atomic" := by
      cases h : d.atomic <;> simp [h] at hy
      exact hy
    exact m.key_ne_atomic (hxy.trans ha)

/-- What some steps ask for, one after the other, is what they change. -/
theorem UpdateStep.flatten_modifications (ss : List UpdateStep) :
    (ss.map modifications).flatten
      = OrderedMap.mapValues (fun c => (c.1.key, c.2)) (ss.flatMap changes) := by
  rw [← List.flatMap_def, OrderedMap.mapValues, List.map_flatMap]
  rfl

/-- **The update document says what the changes come to.** After any run of steps on a fresh update
query it consists of groups that settle what the steps asked for, and then of the marker if that was
last set to true. No operator stands in it twice. -/
theorem update_runList (ss : List UpdateStep) (t : Settings) :
    let u := (runList UpdateStep.run ss Update.empty t).state.directives.update
    let atomic := (ss.filterMap UpdateStep.atomicSetting).getLastD false
    ∃ (asked : List (List Modification)) (groups : List (String × Document)),
      List.Forall₂ UpdateStep.Modifies ss asked ∧
      u = groups.map (fun g => (g.1, .document g.2))
          ++ (if atomic then [("$atomic", .int32 1)] else []) ∧
        (OrderedMap.keys u).Nodup ∧ Settles groups asked.flatten := by
  intro u atomic
  let d := (runList UpdateStep.run ss Update.empty t).state.directives
  have hasked : List.Forall₂ UpdateStep.Modifies ss (ss.map UpdateStep.modifications) := by
    rw [List.forall₂_map_right_iff, List.forall₂_same]
    exact fun s _ => UpdateStep.modifies_iff.2 rfl
  have hs : Settles d.groups (ss.flatMap UpdateStep.changes) :=
    d.settles_groups (changes_runList ss Update.empty t)
  have hu : u = d.groups.map (fun g => (g.1.key, .document g.2))
      ++ (if atomic then [("$atomic", .int32 1)] else []) := by
    have ha : d.atomic = atomic := atomic_runList ss Update.empty t
    rw [← ha]
    exact d.update_eq_groups
  refine ⟨_, d.groups.map (fun g => (g.1.key, g.2)), hasked, ?_, d.nodup_keys_update, ?_⟩
  · rw [hu, List.map_map]
    rfl
  · rw [UpdateStep.flatten_modifications]
    exact hs.rename Modifier.key_injective

/-- A field that is changed in another way keeps its place and brings its new modifier along. -/
example :
    (runList UpdateStep.run [
      .set "x" .null, .increment "y" (.int32 1), .atomic true, .pop "x", .setMany [("z", .null)],
      .shared (.option (.patch [("atomic", .bool false), ("safe", .null)])),
      .increment "x" (.int32 2)] Update.empty {}).state.directives.update
      = [("$inc", .document [("x", .int32 2), ("y", .int32 1)]),
        ("$set", .document [("z", .null)])] := by
  decide

end DocQuery
