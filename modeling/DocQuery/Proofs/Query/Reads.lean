import DocQuery.Query.Find
import DocQuery.Proofs.Query.OptionReading

/-!
# Options of reads

What a server is told of a find query depends on the last thing that the steps said of every matter:
of each field, of each sorting key, of the numbers of documents to pass over and to return, of
whether a single one is asked for, and of the time. Fields and sorting keys stand in the order in
which they are first mentioned.

* `Value.isFalsy_iff`: the values by which a field is hidden;
* `FindStep.directives_run`, `directives_runList`: what a step and a run put into the directives;
* `timeout_runList`: the timeout after a run is the one that was set last;
* `serverProjection_eq`, `get?_serverProjection`: what a server takes for a projection;
* `FindDirectives.serverProjection_fieldsDocument`: it is told 1 or 0 for every field;
* `readOneOptions_filter`: the options of a read of one document do without the steps that set how
  many documents are returned;
* `readOptions_runList`: the options of both reads, and what the cursor is told.
-/

namespace DocQuery

/-! ### Values that count as false -/

/-- The values that count as false. -/
inductive Value.IsFalsy : Value → Prop
  | null : IsFalsy .null
  | undefined : IsFalsy .undefined
  | bool : IsFalsy (.bool false)
  | int32 : IsFalsy (.int32 0)
  | int64 : IsFalsy (.int64 0)
  | zero : IsFalsy (.double ⟨0⟩)
  | negativeZero : IsFalsy (.double ⟨0x8000000000000000⟩)
  | empty : IsFalsy (.string "")
  | zeroText : IsFalsy (.string "0")
  | noItems : IsFalsy (.array [])
  | noFields : IsFalsy (.document [])

/-- A double is a zero if all its bits but that of the sign are. -/
theorem Double.isZero_iff {x : Double} :
    x.isZero = true ↔ x.bits = 0 ∨ x.bits = 0x8000000000000000 := by
  have hlt := x.bits.toNat_lt
  have hfields : x.isZero = true ↔
      Bits.field x.bits.toNat 52 11 = 0 ∧ Bits.field x.bits.toNat 0 52 = 0 := by
    rw [isZero, classify]
    by_cases hmax : Bits.field x.bits.toNat 52 11 = 2047
    · by_cases hfraction : Bits.field x.bits.toNat 0 52 = 0 <;> simp [hmax, hfraction]
    · by_cases hexponent : Bits.field x.bits.toNat 52 11 = 0 <;> simp [hmax, hexponent]
  rw [hfields, ← UInt64.toNat_inj, ← UInt64.toNat_inj]
  simp only [Bits.field, UInt64.reduceToNat, Nat.reducePow, Nat.pow_eq]
  omega

theorem Value.isFalsy_iff {v : Value} : v.IsFalsy ↔ v.isTruthy = false := by
  constructor
  · intro h
    cases h <;> decide
  · intro h
    cases v with
    | null => exact .null
    | undefined => exact .undefined
    | bool b => cases b with
      | false => exact .bool
      | true => cases h
    | int32 n =>
      have hn : n = 0 := by simpa [isTruthy] using h
      exact hn ▸ .int32
    | int64 n =>
      have hn : n = 0 := by simpa [isTruthy] using h
      exact hn ▸ .int64
    | double x =>
      obtain ⟨bits⟩ := x
      have hx : Double.isZero ⟨bits⟩ = true := by simpa [isTruthy] using h
      rcases Double.isZero_iff.1 hx with rfl | rfl
      · exact .zero
      · exact .negativeZero
    | string s =>
      rcases Decidable.em (s = "") with rfl | hs
      · exact .empty
      · have hs : s = "0" := by simpa [isTruthy, hs] using h
        exact hs ▸ .zeroText
    | array items =>
      have hitems : items = [] := by simpa [isTruthy] using h
      exact hitems ▸ .noItems
    | document fields =>
      have hfields : fields = [] := by simpa [isTruthy] using h
      exact hfields ▸ .noFields
    | _ => cases h

instance (v : Value) : Decidable v.IsFalsy := decidable_of_iff _ Value.isFalsy_iff.symm

/-! ### What steps say -/

/-- The number that a server takes for a field. -/
def Visibility.flag : Visibility → Int32
  | .shown => 1
  | .hidden => 0

/-- The number that a server takes for a direction. -/
def Direction.flag : Direction → Int32
  | .ascending => 1
  | .descending => -1

/-- The timeout that an option step sets: a span in whole milliseconds, or the number under
`timeout` in an options document that is accepted. -/
def OptionStep.timeout? : OptionStep → Option UInt64
  | .timeout d => some (UInt64.ofNat (d.seconds.toNat * 1000 + d.nanos.toNat / 1000000))
  | .patch d =>
    if OptionsPatch.mismatch? d = none then OptionsPatch.number? d "timeout" else none
  | _ => none

namespace FindStep

/-- The fields that a step mentions. -/
def mentions : FindStep → List (String × Visibility)
  | .select names => names.map (fun name => (name, .shown))
  | .exclude names => names.map (fun name => (name, .hidden))
  | .fields d => d.map (fun e => (e.1, if e.2.IsFalsy then .hidden else .shown))
  | _ => []

/-- The timeout that a step sets. -/
def timeout? : FindStep → Option UInt64
  | .shared (.option s) => s.timeout?
  | _ => none

/-- The sorting keys that a step gives. -/
def sortKeys : FindStep → List (String × Direction)
  | .orderBy field d => [(field, d)]
  | _ => []

/-- The number of documents that a step says to pass over. -/
def skipped? : FindStep → Option UInt64
  | .skip n => some n
  | _ => none

/-- The number of documents that a step says to return. -/
def returned? : FindStep → Option Int64
  | .limit n => some n
  | _ => none

/-- Whether a step says to return a single document. -/
def single? : FindStep → Option Bool
  | .one on => some on
  | .multiple on => some !on
  | _ => none

/-- Whether a step says how many documents are returned. -/
def setsSize : FindStep → Bool
  | .limit _ | .one _ | .multiple _ => true
  | _ => false

end FindStep

/-- Options belong to all kinds of queries, so they leave the directives of a find query alone. -/
theorem Find.directives_runOn (s : QueryStep) (q : Find) (t : Settings) :
    (s.runOn q t).state.directives = q.directives := by
  cases s with
  | filter s => rfl
  | option s =>
    cases s with
    | patch d =>
      rw [QueryStep.runOn, OptionStep.run]
      cases OptionsPatch.read d <;> rfl
    | _ => rfl

/-- The visibility that a value gives a field. -/
theorem Value.visibility_eq (v : Value) :
    (if v.isTruthy then Visibility.shown else .hidden) = if v.IsFalsy then .hidden else .shown := by
  simp only [Value.isFalsy_iff]
  cases v.isTruthy <;> rfl

/-- What a step puts into the directives. -/
theorem FindStep.directives_run (s : FindStep) (q : Find) (t : Settings) :
    (s.run q t).state.directives = {
      sort := OrderedMap.insertAll q.directives.sort s.sortKeys
      skip := s.skipped?.or q.directives.skip
      limit := s.returned?.or q.directives.limit
      fields := OrderedMap.insertAll q.directives.fields s.mentions
      one := s.single?.getD q.directives.one } := by
  cases s with
  | shared s => exact Find.directives_runOn s q t
  | fields d =>
    rw [mentions]
    simp only [← Value.visibility_eq]
    rfl
  | _ => rfl

/-- What was said last is what the later steps said last, or else the first one. -/
theorem getLast?_filterMap_cons {α β : Type} (f : α → Option β) (a : α) (l : List α) :
    ((a :: l).filterMap f).getLast? = (l.filterMap f).getLast?.or (f a) := by
  cases h : f a with
  | none => rw [List.filterMap_cons_none h, Option.or_none]
  | some b =>
    rw [List.filterMap_cons_some h, List.getLast?_cons]
    cases (l.filterMap f).getLast? <;> rfl

/-- What a run puts into the directives: sorting keys and fields one after the other, and of the
rest what was said last. -/
theorem directives_runList (ss : List FindStep) (q : Find) (t : Settings) :
    (runList FindStep.run ss q t).state.directives = {
      sort := OrderedMap.insertAll q.directives.sort (ss.flatMap FindStep.sortKeys)
      skip := (ss.filterMap FindStep.skipped?).getLast?.or q.directives.skip
      limit := (ss.filterMap FindStep.returned?).getLast?.or q.directives.limit
      fields := OrderedMap.insertAll q.directives.fields (ss.flatMap FindStep.mentions)
      one := (ss.filterMap FindStep.single?).getLast?.getD q.directives.one } := by
  induction ss generalizing q t with
  | nil => rfl
  | cons s ss ih =>
    have hrun : (runList FindStep.run (s :: ss) q t).state
        = (runList FindStep.run ss (s.run q t).state (s.run q t).settings).state := rfl
    simp only [hrun, ih, s.directives_run q t, List.flatMap_cons, OrderedMap.insertAll_append,
      getLast?_filterMap_cons, Option.or_assoc, Option.getD_or]

/-! ### Timeouts -/

/-- An option step sets the timeout, or leaves it. -/
theorem OptionStep.timeout_run {κ : Type} [Directives κ] (s : OptionStep) (q : Query κ)
    (t : Settings) :
    (s.run q t).state.options.timeout = s.timeout?.or q.options.timeout := by
  cases s with
  | patch d =>
    rw [run, OptionsPatch.read_eq, timeout?]
    cases OptionsPatch.mismatch? d with
    | some m => rfl
    | none =>
      have hpatch : (q.options.patch (OptionsPatch.given d)).timeout
          = (OptionsPatch.number? d "timeout").or q.options.timeout := by
        rw [Options.patch, Option.orElse_eq_orElse, Option.orElse_eq_or]
        rfl
      exact hpatch
  | _ => rfl

theorem FindStep.timeout_run (s : FindStep) (q : Find) (t : Settings) :
    (s.run q t).state.options.timeout = s.timeout?.or q.options.timeout := by
  cases s with
  | shared s =>
    cases s with
    | filter s => rfl
    | option s => exact s.timeout_run q t
  | _ => rfl

/-- After a run the timeout is the one that was set last. -/
theorem timeout_runList (ss : List FindStep) (q : Find) (t : Settings) :
    (runList FindStep.run ss q t).state.options.timeout
      = (ss.filterMap FindStep.timeout?).getLast?.or q.options.timeout := by
  induction ss generalizing q t with
  | nil => rfl
  | cons s ss ih =>
    have hrun : (runList FindStep.run (s :: ss) q t).state
        = (runList FindStep.run ss (s.run q t).state (s.run q t).settings).state := rfl
    rw [hrun, ih, s.timeout_run, getLast?_filterMap_cons, Option.or_assoc]

/-! ### Projections -/

/-- A value of a projection as a server takes it. -/
def serverValue : Value → Value
  | .int32 n => .int32 (if n = -1 then 0 else n)
  | v => v

theorem serverProjection_eq (d : Document) :
    serverProjection d = if d = [] then none else some (OrderedMap.mapValues serverValue d) := by
  have hmap : serverProjection d
      = if d.isEmpty then none else some (OrderedMap.mapValues serverValue d) := by
    rw [serverProjection, OrderedMap.mapValues]
    refine congrArg (fun e => if d.isEmpty then none else some e) (List.map_congr_left ?_)
    rintro ⟨field, v⟩ -
    cases v <;> rfl
  rw [hmap]
  simp only [List.isEmpty_iff]

/-- What a server takes for a field is what it takes for the value of the field. -/
theorem get?_serverProjection (d : Document) (field : String) :
    (serverProjection d).bind (fun p => OrderedMap.get? p field)
      = (OrderedMap.get? d field).map serverValue := by
  rw [serverProjection_eq]
  by_cases hd : d = []
  · rw [if_pos hd, hd]
    rfl
  · rw [if_neg hd, Option.bind_some, OrderedMap.get?_mapValues]

/-- A server takes two numbers for that of a hidden field. -/
theorem serverValue_eq_hidden_iff (v : Value) :
    serverValue v = .int32 0 ↔ v = .int32 (-1) ∨ v = .int32 0 := by
  cases v with
  | int32 n =>
    rw [serverValue, Value.int32.injEq, Value.int32.injEq, Value.int32.injEq]
    by_cases hn : n = -1 <;> simp [hn]
  | _ => simp [serverValue]

theorem serverValue_marker (v : Visibility) :
    serverValue (.int32 v.marker) = .int32 v.flag := by
  cases v <;> rfl

/-- A server takes the fields with their numbers, if there are any. -/
theorem FindDirectives.serverProjection_fieldsDocument (d : FindDirectives) :
    serverProjection d.fieldsDocument
      = if d.fields = [] then none
        else some (OrderedMap.mapValues (fun v => Value.int32 v.flag) d.fields) := by
  have hvalues : OrderedMap.mapValues serverValue d.fieldsDocument
      = OrderedMap.mapValues (fun v => Value.int32 v.flag) d.fields := by
    simp only [OrderedMap.mapValues, fieldsDocument, List.map_map]
    refine List.map_congr_left (fun e _ => ?_)
    exact congrArg (Prod.mk e.1) (serverValue_marker e.2)
  have hnil : d.fieldsDocument = [] ↔ d.fields = [] := by rw [fieldsDocument, List.map_eq_nil_iff]
  rw [serverProjection_eq, hvalues]
  simp only [hnil]

/-- A server takes the sorting keys with their numbers. -/
theorem FindDirectives.sortDocument_eq (d : FindDirectives) :
    d.sortDocument = OrderedMap.mapValues (fun d => Value.int32 d.flag) d.sort := by
  rw [sortDocument, OrderedMap.mapValues]
  refine List.map_congr_left ?_
  rintro ⟨field, direction⟩ -
  cases direction <;> rfl

/-! ### Reads of one document -/

/-- A find query without what its steps said of how many documents are returned. -/
def Find.withoutSize (q : Find) : Find :=
  { q with directives := { q.directives with limit := none, one := false } }

theorem Find.readOneOptions_withoutSize (q : Find) (t : Settings) :
    q.withoutSize.readOneOptions t = q.readOneOptions t := rfl

/-- A step does not look at how many documents are returned. -/
theorem FindStep.withoutSize_run (s : FindStep) (q : Find) (t : Settings) :
    (s.run q t).state.withoutSize = (s.run q.withoutSize t).state.withoutSize ∧
      (s.run q t).settings = (s.run q.withoutSize t).settings := by
  cases s with
  | shared s =>
    cases s with
    | filter s => exact ⟨rfl, rfl⟩
    | option s =>
      cases s with
      | patch d =>
        simp only [run, QueryStep.runOn, OptionStep.run]
        cases OptionsPatch.read d <;> exact ⟨rfl, rfl⟩
      | _ => exact ⟨rfl, rfl⟩
  | _ => exact ⟨rfl, rfl⟩

/-- A step that says how many documents are returned does nothing else. -/
theorem FindStep.withoutSize_run_of_setsSize {s : FindStep} (h : s.setsSize = true) (q : Find)
    (t : Settings) :
    (s.run q t).state.withoutSize = q.withoutSize ∧ (s.run q t).settings = t := by
  cases s <;> first | exact ⟨rfl, rfl⟩ | cases h

/-- Runs from queries that differ in how many documents are returned differ in nothing else, also if
one of them leaves out the steps that say it. -/
theorem withoutSize_runList_filter (ss : List FindStep) {q u : Find}
    (h : q.withoutSize = u.withoutSize) (t : Settings) :
    let r := runList FindStep.run ss q t
    let r' := runList FindStep.run (ss.filter (fun s => !s.setsSize)) u t
    r.state.withoutSize = r'.state.withoutSize ∧ r.settings = r'.settings := by
  induction ss generalizing q u t with
  | nil => exact ⟨h, rfl⟩
  | cons s ss ih =>
    cases hs : s.setsSize with
    | true =>
      obtain ⟨hstate, hsettings⟩ := s.withoutSize_run_of_setsSize hs q t
      rw [List.filter_cons_of_neg (by simp [hs])]
      have ih := ih (q := (s.run q t).state) (hstate.trans h) (s.run q t).settings
      rw [hsettings] at ih
      simpa only [runList, hsettings] using ih
    | false =>
      obtain ⟨hq, hqt⟩ := s.withoutSize_run q t
      obtain ⟨hu, hut⟩ := s.withoutSize_run u t
      rw [List.filter_cons_of_pos (by simp [hs])]
      have hstate : (s.run q t).state.withoutSize = (s.run u t).state.withoutSize := by
        rw [hq, hu, h]
      have hsettings : (s.run q t).settings = (s.run u t).settings := by
        rw [hqt, hut, h]
      have ih := ih hstate (s.run q t).settings
      simpa only [runList, hsettings] using ih

/-- The options of a read of one document do without the steps that say how many documents are
returned. -/
theorem readOneOptions_filter (ss : List FindStep) (q : Find) (t : Settings) :
    let r := runList FindStep.run ss q t
    let r' := runList FindStep.run (ss.filter (fun s => !s.setsSize)) q t
    r.state.readOneOptions r.settings = r'.state.readOneOptions r'.settings := by
  intro r r'
  obtain ⟨hstate, hsettings⟩ := withoutSize_runList_filter ss (q := q) rfl t
  rw [← Find.readOneOptions_withoutSize r.state, hstate, hsettings]
  rfl

/-! ### Reads -/

/-- **What a server is told of a find query.** After steps on a fresh query the projection is absent
if no field was mentioned, and has 1 or 0 for every field otherwise, as its last mention said; the
sort is absent if no key was given, and has 1 or -1 for every key otherwise, as its last direction
was; the number of documents to pass over is the last one said; the number to return is 1 if a
single document was asked for last, and otherwise the last one said; and the time is the timeout
that was set last, or else the default one. The cursor is told those of them that were said, sort,
skip and limit in this order. A read of one document has the same projection, sort, skip and time,
and no step that says how many documents are returned changes it. -/
theorem readOptions_runList (ss : List FindStep) (t : Settings) :
    let r := runList FindStep.run ss Find.empty t
    let mentions := ss.flatMap FindStep.mentions
    let sortKeys := ss.flatMap FindStep.sortKeys
    let skip := (ss.filterMap FindStep.skipped?).getLast?
    let limit := (ss.filterMap FindStep.returned?).getLast?
    let single := (ss.filterMap FindStep.single?).getLast?.getD false
    let timeout := (ss.filterMap FindStep.timeout?).getLast?
    let r' := runList FindStep.run (ss.filter (fun s => !s.setsSize)) Find.empty t
    (∃ projection sort : Document,
      OrderedMap.KeepsLast (fun v : Visibility => Value.int32 v.flag) mentions projection ∧
      OrderedMap.KeepsLast (fun d : Direction => Value.int32 d.flag) sortKeys sort ∧
      r.state.readOptions r.settings = {
        projection := if mentions = [] then none else some projection
        sort := if sortKeys = [] then none else some sort
        skip
        limit := if single then some 1 else limit
        maxTime := timeout.getD r.settings.defaultTimeout } ∧
      r.state.directives.actions =
        (if sortKeys = [] then [] else [.sort sort]) ++ (skip.map CursorAction.skip).toList
          ++ (limit.map CursorAction.limit).toList) ∧
    r.state.readOneOptions r.settings = { r.state.readOptions r.settings with limit := none } ∧
    r.state.readOneOptions r.settings = r'.state.readOneOptions r'.settings := by
  intro r mentions sortKeys skip limit single timeout r'
  refine ⟨?_, rfl, readOneOptions_filter ss Find.empty t⟩
  have hdir : r.state.directives = ⟨OrderedMap.insertAll [] sortKeys, skip, limit,
      OrderedMap.insertAll [] mentions, single⟩ := by
    rw [directives_runList]
    simp only [Find.empty, Option.or_none]
    rfl
  have htime : r.state.options.effectiveTimeout r.settings
      = timeout.getD r.settings.defaultTimeout := by
    rw [Options.effectiveTimeout, timeout_runList]
    simp only [Find.empty, Option.or_none]
    rfl
  have hprojection := (OrderedMap.keepsLast_insertAll mentions).mapValues
    (fun v => Value.int32 v.flag)
  have hsort := (OrderedMap.keepsLast_insertAll sortKeys).mapValues (fun d => Value.int32 d.flag)
  refine ⟨_, _, hprojection, hsort, ?_, ?_⟩
  · rw [Find.readOptions, FindDirectives.serverProjection_fieldsDocument,
      FindDirectives.sortDocument_eq, htime, hdir]
    simp only [List.isEmpty_iff, OrderedMap.insertAll_nil_eq_nil_iff]
  · rw [FindDirectives.actions, FindDirectives.sortDocument_eq, hdir]
    simp only [List.isEmpty_iff, OrderedMap.insertAll_nil_eq_nil_iff]

/-- A field that is hidden after it was shown keeps its place, and a single document is asked for
behind a limit that the cursor is told all the same. -/
example :
    let q := (runList FindStep.run [.select ["a", "b"], .exclude ["a"], .one true, .limit 5]
      Find.empty {}).state
    (q.readOptions {}).projection = some [("a", .int32 0), ("b", .int32 1)] ∧
      (q.readOptions {}).limit = some 1 ∧ q.directives.actions = [.limit 5] :=
  ⟨rfl, rfl, rfl⟩

end DocQuery
