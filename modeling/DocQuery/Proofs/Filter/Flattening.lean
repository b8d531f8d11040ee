import Mathlib.Data.List.Basic
import DocQuery.Proofs.Query.Effect

/-!
# The entries of a filter

`Document.flatten` lists the entries of a document in order, with the entries of the documents under
a connective in the place of the connective. It is the view of a filter in which nothing but its
entries is left: `Clause.flatten`, `Branch.flatten` and `Filter.flatten` list them for the parts of
a filter without looking at a document of theirs, and each operation has one equation.

* `Document.flatten_unwrap`, `Filter.flatten_render`, `Filter.flatten_load`: stripping, rendering
  and loading keep the entries;
* `Filter.flatten_constrain`, `Filter.flatten_embed`: what is added comes last;
* `flatten_render_runList`: the document of a filter holds the entries that the steps asked for, in
  that order.
-/

namespace DocQuery

/-! ### Documents -/

namespace Document

mutual

/-- The entries of a document in order, those under connectives one by one. -/
def flatten : List (String × Value) → List (String × Value)
  | [] => []
  | (k, v) :: d => flattenEntry k v ++ flatten d

/-- An entry as a list of entries: a connective over documents is the entries of those. -/
def flattenEntry (k : String) : Value → List (String × Value)
  | .array vs =>
    if Connective.isKey k then (flattenItems vs).getD [(k, .array vs)] else [(k, .array vs)]
  | v => [(k, v)]

/-- The entries of the documents of a list that holds nothing else. -/
def flattenItems : List Value → Option (List (String × Value))
  | [] => some []
  | .document d :: vs => (flattenItems vs).map (flatten d ++ ·)
  | _ :: _ => none

end

@[simp] theorem flatten_nil : flatten [] = [] := by
  rw [flatten]

@[simp] theorem flatten_cons (e : String × Value) (d : Document) :
    flatten (e :: d) = flattenEntry e.1 e.2 ++ flatten d := by
  rw [flatten]

@[simp] theorem flatten_append (d e : Document) : flatten (d ++ e) = flatten d ++ flatten e := by
  induction d with
  | nil => simp
  | cons x d ih => simp [ih]

/-- Lists of documents, and only those, are flattened. -/
theorem flattenItems_eq (vs : List Value) :
    flattenItems vs = (Value.documents? vs).map (fun ds => ds.flatMap flatten) := by
  induction vs with
  | nil => rw [flattenItems, Value.documents?]; rfl
  | cons v vs ih =>
    cases v with
    | document d =>
      rw [flattenItems, Value.documents?, ih, Option.map_map, Option.map_map]
      rfl
    | _ => rw [flattenItems, Value.documents?] <;> simp

@[simp] theorem flatten_join (c : Connective) (ds : List Document) :
    flatten (join c ds) = ds.flatMap flatten := by
  have hk : Connective.isKey c.key = true := Connective.isKey_iff.2 ⟨c, rfl⟩
  simp [join, Value.documents, flattenEntry, hk, flattenItems_eq, Value.documents?_map]

/-- A document that joins documents has their entries. -/
theorem flatten_of_operands? {c : Connective} {d : Document} {ds : List Document}
    (h : operands? c d = some ds) : flatten d = ds.flatMap flatten := by
  rw [operands?_eq_some_iff.1 h, flatten_join]

mutual

/-- Stripping keeps the entries of a document. -/
theorem flatten_unwrap (d : List (String × Value)) : flatten (unwrap d) = flatten d := by
  match d with
  | [] => rfl
  | [(k, v)] =>
    rw [unwrap]
    by_cases hk : Connective.isKey k = true
    · cases hs : sole v with
      | none => simp [hk]
      | some e => simp [hk, flattenEntry_of_sole hk v hs]
    · simp [hk]
  | _ :: _ :: _ => rw [unwrap]; simp

theorem flattenEntry_of_sole {k : String} (hk : Connective.isKey k = true) (v : Value)
    {e : Document} (h : sole v = some e) : flattenEntry k v = flatten e := by
  match v with
  | .array [v] =>
    rw [sole] at h
    rw [flattenEntry, if_pos hk, flattenItems_of_embedded v h, Option.getD_some]

theorem flattenItems_of_embedded (v : Value) {e : Document} (h : embedded v = some e) :
    flattenItems [v] = some (flatten e) := by
  match v with
  | .document d =>
    rw [embedded, Option.some.injEq] at h
    rw [← h, flatten_unwrap d]
    simp [flattenItems]

end

end Document

/-! ### Clauses, branches and filters -/

/-- The entries of a clause. -/
def Clause.flatten : Clause → List (String × Value)
  | .fields d => Document.flatten d
  | .all ds => ds.flatMap Document.flatten

/-- The entries of a branch, clause by clause. -/
def Branch.flatten (b : Branch) : List (String × Value) := b.flatMap Clause.flatten

/-- The entries of a filter, branch by branch. -/
def Filter.flatten (f : Filter) : List (String × Value) := f.branches.flatMap Branch.flatten

/-! ### Rendering and loading -/

theorem Clause.flatten_render (c : Clause) : Document.flatten c.render = c.flatten := by
  rw [Clause.render.eq_def]
  split
  · rfl
  · simp [Clause.flatten]
  · rw [Document.flatten_join]
    rfl

theorem Branch.flatten_render (b : Branch) : Document.flatten b.render = b.flatten := by
  have h : (b.map Clause.render).flatMap Document.flatten = b.flatten := by
    rw [List.flatMap_map]
    exact List.flatMap_congr (fun c _ => Clause.flatten_render c)
  rw [← h]
  rcases b with _ | ⟨c, _ | ⟨e, b⟩⟩
  · exact Document.flatten_join .all []
  · rw [render_singleton, Document.flatten_unwrap]
    simp
  · rw [render_cons_cons, Document.flatten_join]

/-- A filter and its document have the same entries. -/
theorem Filter.flatten_render (f : Filter) : Document.flatten f.render = f.flatten := by
  have h : (f.branches.map Branch.render).flatMap Document.flatten = f.flatten := by
    rw [List.flatMap_map]
    exact List.flatMap_congr (fun b _ => Branch.flatten_render b)
  rw [← h]
  obtain ⟨_ | ⟨b, _ | ⟨c, bs⟩⟩⟩ := f
  · exact Document.flatten_nil
  · rw [render_singleton]
    simp
  · rw [render_cons_cons, Document.flatten_join]

theorem Clause.flatten_ofDocument (d : Document) :
    (Clause.ofDocument d).flatten = Document.flatten d := by
  rw [Clause.ofDocument, ← Document.flatten_unwrap d]
  split
  · rename_i ds h
    rw [Document.flatten_of_operands? h, flatten, List.flatMap_map]
    exact List.flatMap_congr (fun e _ => Document.flatten_unwrap e)
  · rfl

theorem Branch.flatten_ofDocument (d : Document) :
    (Branch.ofDocument d).flatten = Document.flatten d := by
  rw [Branch.ofDocument]
  split
  · rename_i ds h
    rw [Document.flatten_of_operands? h, flatten, List.flatMap_map]
    exact List.flatMap_congr (fun e _ => Clause.flatten_ofDocument e)
  · simp [flatten, Clause.flatten_ofDocument]

/-- Empty documents have no entries to lose. -/
theorem Document.flatMap_flatten_filter (ds : List Document) :
    (ds.filter (fun e => !e.isEmpty)).flatMap flatten = ds.flatMap flatten := by
  induction ds with
  | nil => rfl
  | cons d ds ih => cases d <;> simp [ih]

/-- Loading a document keeps its entries. -/
theorem Filter.flatten_load (d : Document) : (load d).flatten = Document.flatten d := by
  have h : ((Document.operands? .any d).getD [d]).flatMap Document.flatten
      = Document.flatten d := by
    cases ho : Document.operands? .any d with
    | some ds => exact (Document.flatten_of_operands? ho).symm
    | none => simp
  rw [← h, ← Document.flatMap_flatten_filter, load, flatten, List.flatMap_map]
  exact List.flatMap_congr (fun e _ => Branch.flatten_ofDocument e)

/-! ### Adding -/

section Constrain

variable {k : String} (hk : isExclusionField k = false) (v : Value)
include hk

/-- A document that takes a condition gets it as its last entry. -/
theorem Document.flatten_constrain? {d e : Document} (h : constrain? d k v = some e) :
    flatten e = flatten d ++ flattenEntry k v := by
  unfold constrain? at h
  split at h
  · rename_i hn
    rw [Option.some.injEq] at h
    rw [← h, OrderedMap.insert_of_notMem v (OrderedMap.get?_eq_none_iff.1 hn), flatten_append]
    simp
  · simp [hk] at h

theorem Document.flatMap_flatten_constrainLast (ds : List Document) :
    (constrainLast ds k v).flatMap flatten = ds.flatMap flatten ++ flattenEntry k v := by
  fun_induction constrainLast ds k v with
  -- no document, one that joins others, one that takes the condition, one that does not
  | case1 k v => simp
  | case2 d k v hc => simp
  | case3 d k v hc e he => simp [flatten_constrain? hk v he]
  | case4 d k v hc hn => simp
  | case5 d e ds k v ih =>
    simp only [List.flatMap_cons, List.append_assoc] at ih ⊢
    rw [ih hk]

theorem Clause.flatten_constrain (c : Clause) :
    (c.constrain k v).flatten = c.flatten ++ Document.flattenEntry k v := by
  cases c with
  | fields d =>
    rw [Clause.constrain]
    cases h : Document.constrain? d k v with
    | none => simp [flatten]
    | some e => exact Document.flatten_constrain? hk v h
  | all ds => exact Document.flatMap_flatten_constrainLast hk v ds

end Constrain

/-- Changing the last of some parts adds behind what all of them have. -/
theorem flatMap_amendLast {α β : Type} {g : α → List β} {f : α → α} {first : α} {x : List β}
    (hfirst : g first = []) (hf : ∀ a, g (f a) = g a ++ x) (as : List α) :
    (amendLast first f as).flatMap g = as.flatMap g ++ x := by
  fun_induction amendLast first f as with
  | case1 => simp [hf, hfirst]
  | case2 a => simp [hf]
  | case3 a b as ih =>
    simp only [List.flatMap_cons, List.append_assoc] at ih ⊢
    rw [ih]

theorem Branch.flatten_constrain {k : String} (hk : isExclusionField k = false) (v : Value)
    (b : Branch) : (b.constrain k v).flatten = b.flatten ++ Document.flattenEntry k v := by
  have hempty : (Clause.fields []).flatten = [] := Document.flatten_nil
  exact flatMap_amendLast hempty (Clause.flatten_constrain hk v) b

namespace Filter

/-- A condition is the last entry of the filter, however it joins. -/
theorem flatten_constrain (f : Filter) (chain : Chain) {k : String}
    (hk : isExclusionField k = false) (v : Value) :
    (f.constrain chain k v).flatten = f.flatten ++ Document.flattenEntry k v := by
  cases chain with
  | and => exact flatMap_amendLast rfl (Branch.flatten_constrain hk v) f.branches
  | or => simp [Filter.constrain, flatten, Branch.flatten, Clause.flatten]

theorem flatten_constrainAll (f : Filter) (chain : Chain) {d : List (String × Value)}
    (hd : ∀ e ∈ d, isExclusionField e.1 = false) :
    (f.constrainAll chain d).1.flatten = f.flatten ++ Document.flatten d := by
  induction d generalizing f with
  | nil => simp [constrainAll]
  | cons e d ih =>
    rw [List.forall_mem_cons] at hd
    rw [constrainAll, Document.flatten_cons, ← List.append_assoc, ← flatten_constrain f chain hd.1]
    exact ih _ hd.2

/-- The entries of a sub-filter are the last ones of the filter, however it joins. -/
theorem flatten_embed (f : Filter) (chain : Chain) (d : Document) :
    (f.embed chain d).flatten = f.flatten ++ Document.flatten d := by
  unfold embed
  rw [← Document.flatten_unwrap d]
  dsimp only
  split
  · rename_i he
    simp [List.isEmpty_iff.1 he]
  · cases chain with
    | and =>
      refine flatMap_amendLast rfl (fun b => ?_) f.branches
      simp [Branch.flatten, Clause.flatten_ofDocument, Document.flatten_unwrap]
    | or =>
      simp [flatten, Branch.flatten, Clause.flatten_ofDocument, Document.flatten_unwrap]

end Filter

/-! ### Steps -/

mutual

/-- Whether a filter step turns no sub-filter round and names no field whose lists are put together,
like all the steps that it holds. The documents that it gives may be anything. -/
def FilterStep.isPositive (s : FilterStep) : Bool :=
  match s with
  | .condition _ field _ => !isExclusionField field
  | .fields _ d => d.all (fun e => !isExclusionField e.1)
  | .clause _ input => FilterStep.isPositiveInput input
  | .exclusion _ _ _ => false
  | .load _ => true
  | .reload => true
  | .clear => true

/-- Whether the steps of a sub-filter, if it is given by steps, are positive. -/
def FilterStep.isPositiveInput (input : Input QueryStep) : Bool :=
  match input with
  | .document _ => true
  | .value _ => true
  | .steps ss => QueryStep.arePositive ss

/-- Whether a step is positive, if it touches the filter at all. -/
def QueryStep.isPositive (s : QueryStep) : Bool :=
  match s with
  | .filter s => FilterStep.isPositive s
  | .option _ => true

/-- Whether steps are positive. -/
def QueryStep.arePositive (ss : List QueryStep) : Bool :=
  match ss with
  | [] => true
  | s :: ss => QueryStep.isPositive s && QueryStep.arePositive ss

end

mutual

/-- The entries asked for after a filter step, when some were asked for before it. What is loaded
replaces them, and all else comes behind them. Steps that turn sub-filters round are not read. -/
def FilterStep.entries (s : FilterStep) (before : List (String × Value)) :
    List (String × Value) :=
  match s with
  | .condition _ field c =>
    match c.statement with
    | .ok v => before ++ Document.flattenEntry field v
    | .error _ => before
  | .fields _ d => before ++ Document.flatten d
  | .clause _ input => before ++ FilterStep.inputEntries input
  | .exclusion _ _ _ => before
  | .load d => Document.flatten d
  | .reload => before
  | .clear => []

/-- The entries of a sub-filter. One that is refused has none. -/
def FilterStep.inputEntries (input : Input QueryStep) : List (String × Value) :=
  match input with
  | .document d => Document.flatten d
  | .value v =>
    match v with
    | .document d => Document.flatten d
    | _ => []
  | .steps ss => QueryStep.allEntries ss []

/-- The entries asked for after a step that every query takes. -/
def QueryStep.entries (s : QueryStep) (before : List (String × Value)) : List (String × Value) :=
  match s with
  | .filter s => FilterStep.entries s before
  | .option _ => before

/-- The entries asked for after several steps. -/
def QueryStep.allEntries (ss : List QueryStep) (before : List (String × Value)) :
    List (String × Value) :=
  match ss with
  | [] => before
  | s :: ss => QueryStep.allEntries ss (QueryStep.entries s before)

end

mutual

/-- A positive step changes the entries of a filter as it asks for. -/
theorem FilterStep.flatten_effect (s : FilterStep) (hs : s.isPositive = true) (f : Filter) :
    (s.effect f).flatten = s.entries f.flatten := by
  cases s with
  | condition chain field c =>
    rw [FilterStep.isPositive, Bool.not_eq_true'] at hs
    rw [FilterStep.effect, FilterStep.entries]
    cases c.statement with
    | ok v => exact f.flatten_constrain chain hs v
    | error e => rfl
  | fields chain d =>
    rw [FilterStep.isPositive, List.all_eq_true] at hs
    rw [FilterStep.effect, FilterStep.entries]
    exact f.flatten_constrainAll chain (fun e he => by simpa using hs e he)
  | clause chain i =>
    rw [FilterStep.isPositive] at hs
    rw [FilterStep.effect, FilterStep.entries, ← FilterStep.flatten_compile i hs]
    cases FilterStep.compile i with
    | ok d => exact f.flatten_embed chain d
    | error e => exact (List.append_nil _).symm
  | exclusion chain x i => simp [FilterStep.isPositive] at hs
  | load d =>
    rw [FilterStep.effect, FilterStep.entries]
    exact Filter.flatten_load d
  | reload =>
    -- the filter is read from a document with its own entries
    rw [FilterStep.effect, FilterStep.entries, Filter.flatten_load, Filter.flatten_render]
  | clear =>
    rw [FilterStep.effect, FilterStep.entries]
    rfl

/-- The document of a sub-filter has the entries that are asked for, and one that is refused has
none. -/
theorem FilterStep.flatten_compile (i : Input QueryStep)
    (hi : FilterStep.isPositiveInput i = true) :
    (match FilterStep.compile i with
      | .ok d => Document.flatten d
      | .error _ => []) = FilterStep.inputEntries i := by
  cases i with
  | document d => rw [FilterStep.compile, FilterStep.inputEntries]
  | value v =>
    rw [FilterStep.compile, FilterStep.inputEntries.eq_def]
    cases v <;> rfl
  | steps ss =>
    rw [FilterStep.isPositiveInput] at hi
    rw [FilterStep.compile, FilterStep.inputEntries]
    dsimp only
    rw [Filter.flatten_render, QueryStep.flatten_effects ss hi {}]
    rfl

theorem QueryStep.flatten_effect (s : QueryStep) (hs : s.isPositive = true) (f : Filter) :
    (s.effect f).flatten = s.entries f.flatten := by
  cases s with
  | filter s =>
    rw [QueryStep.isPositive] at hs
    rw [QueryStep.effect, QueryStep.entries]
    exact FilterStep.flatten_effect s hs f
  | option s => rw [QueryStep.effect, QueryStep.entries]

/-- Positive steps change the entries of a filter as they ask for. -/
theorem QueryStep.flatten_effects (ss : List QueryStep) (hss : QueryStep.arePositive ss = true)
    (f : Filter) : (QueryStep.effects ss f).flatten = QueryStep.allEntries ss f.flatten := by
  cases ss with
  | nil => rw [QueryStep.effects, QueryStep.allEntries]
  | cons s ss =>
    rw [QueryStep.arePositive, Bool.and_eq_true] at hss
    rw [QueryStep.effects, QueryStep.allEntries, ← QueryStep.flatten_effect s hss.1 f]
    exact QueryStep.flatten_effects ss hss.2 _

end

end DocQuery
