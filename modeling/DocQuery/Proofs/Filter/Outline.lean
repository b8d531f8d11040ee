import DocQuery.Proofs.Filter.Collapsed

/-!
# Outlines

Conditions that are added one after the other can be written down without the clauses of a filter.
An outline is a list of branches, and a branch is a list of segments, which are documents. By *or* a
condition opens a branch. By *and* it goes into the last segment of the last branch; a segment that
has the field already is closed, and the condition opens a segment of its own. The fields `$nor` and
`$not` may be given again: lists under them are put together.

No field of an outline is named like a connective.

* `Outline.constrain_filter`: a condition changes a filter as it changes its outline;
* `Outline.render_filter`: a filter and its outline have the same document;
* `render_runList_outline`: so the document of a filter is that of the outline of its conditions.
-/

namespace DocQuery

/-- Branches of segments. -/
abbrev Outline := List (List Document)

/-- A condition on a field, and how it joins. -/
structure Addition where
  chain : Chain
  field : String
  value : Value

/-- A filter with several conditions, one after the other. -/
def Filter.constrainEach (f : Filter) (as : List Addition) : Filter :=
  as.foldl (fun f a => f.constrain a.chain a.field a.value) f

theorem Filter.constrainEach_cons (f : Filter) (a : Addition) (as : List Addition) :
    f.constrainEach (a :: as) = (f.constrain a.chain a.field a.value).constrainEach as := rfl

theorem Filter.constrainEach_append (f : Filter) (as bs : List Addition) :
    f.constrainEach (as ++ bs) = (f.constrainEach as).constrainEach bs :=
  List.foldl_append

namespace Outline

/-- What a condition makes of the last segment: that segment with the condition at its end, with a
longer list, or followed by a segment of its own. -/
def extendSegment (s : Document) (field : String) (v : Value) : List Document :=
  match OrderedMap.get? s field with
  | none => [s ++ [(field, v)]]
  | some present =>
    match present, v with
    | .array xs, .array ys =>
      if field = "$nor" ∨ field = "$not" then
        [OrderedMap.insert s field (.array (xs ++ ys))]
      else [s, [(field, v)]]
    | _, _ => [s, [(field, v)]]

/-- What a condition makes of the last branch. -/
def extendBranch (b : List Document) (field : String) (v : Value) : List Document :=
  b.dropLast ++ extendSegment (b.getLastD []) field v

/-- The outline with one more condition. -/
def add (o : Outline) (a : Addition) : Outline :=
  match a.chain with
  | .or => o ++ [[[(a.field, a.value)]]]
  | .and => o.dropLast ++ [extendBranch (o.getLastD []) a.field a.value]

/-- The outline of several conditions, one after the other. -/
def ofList (as : List Addition) : Outline := as.foldl add []

/-- The document of a branch. -/
def renderBranch : List Document → Document
  | [s] => s
  | ss => [("$and", .array (ss.map .document))]

/-- The document of an outline. -/
def render : Outline → Document
  | [] => []
  | [b] => renderBranch b
  | bs => [("$or", .array ((bs.map renderBranch).map .document))]

/-! ### Outlines of filters -/

/-- The segments of a branch as a clause. -/
def clause : List Document → Clause
  | [s] => .fields s
  | ss => .all ss

/-- The filter with an outline. -/
def filter (o : Outline) : Filter := ⟨o.map (fun b => [clause b])⟩

/-- A document without fields that are named like a connective. -/
def IsPlain (d : Document) : Prop := ∀ e ∈ d, Connective.isKey e.1 = false

/-- Every branch has a segment, and all segments are plain. -/
structure WellFormed (o : Outline) : Prop where
  ne_nil : ∀ b ∈ o, b ≠ []
  plain : ∀ b ∈ o, ∀ s ∈ b, IsPlain s

theorem wellFormed_nil : WellFormed [] := ⟨by simp, by simp⟩

theorem clause_cons_cons (s s' : Document) (ss : List Document) :
    clause (s :: s' :: ss) = .all (s :: s' :: ss) := rfl

theorem hasConnective_of_isPlain {s : Document} (h : IsPlain s) :
    Document.hasConnective s = false := by
  have hkey : ∀ c : Connective, OrderedMap.hasKey s c.key = false := by
    intro c
    rw [Bool.eq_false_iff, ne_eq, OrderedMap.hasKey_iff]
    intro hc
    obtain ⟨e, he, hk⟩ := List.mem_map.1 hc
    have hplain := h e he
    rw [hk, Connective.isKey_iff.2 ⟨c, rfl⟩] at hplain
    cases hplain
  rw [Document.hasConnective, Bool.or_eq_false_iff]
  exact ⟨hkey .all, hkey .any⟩

theorem wrapped?_of_isPlain {s : Document} (h : IsPlain s) : Document.wrapped? s = none := by
  unfold Document.wrapped?
  split
  · rename_i k d
    have hk := h _ List.mem_cons_self
    rw [hk]
    rfl
  · rfl

/-! ### Adding -/

/-- A segment is extended as a document takes a condition. -/
theorem extendSegment_eq (s : Document) (field : String) (v : Value) :
    extendSegment s field v
      = match Document.constrain? s field v with
        | some e => [e]
        | none => [s, [(field, v)]] := by
  have hfield : (field = "$nor" ∨ field = "$not") ↔ isExclusionField field = true := by
    simp [isExclusionField]
  unfold extendSegment Document.constrain?
  cases hget : OrderedMap.get? s field with
  | none =>
    dsimp only
    rw [OrderedMap.insert_of_notMem v (OrderedMap.get?_eq_none_iff.1 hget)]
  | some present =>
    dsimp only
    by_cases hx : isExclusionField field = true
    · cases present <;> cases v <;> simp [hfield, hx]
    · cases present <;> cases v <;> simp [hfield, hx]

theorem extendSegment_ne_nil (s : Document) (field : String) (v : Value) :
    extendSegment s field v ≠ [] := by
  rw [extendSegment_eq]
  split <;> exact List.cons_ne_nil _ _

theorem extendBranch_ne_nil (b : List Document) (field : String) (v : Value) :
    extendBranch b field v ≠ [] := by
  rw [extendBranch]
  exact List.append_ne_nil_of_right_ne_nil _ (extendSegment_ne_nil _ _ _)

theorem extendBranch_cons_cons (s s' : Document) (ss : List Document) (field : String)
    (v : Value) :
    extendBranch (s :: s' :: ss) field v = s :: extendBranch (s' :: ss) field v := by
  rw [extendBranch, extendBranch, List.dropLast_cons_cons, List.cons_append]
  rfl

/-- The last of plain documents takes a condition as a branch of an outline does. -/
theorem constrainLast_eq {b : List Document} (h : ∀ s ∈ b, IsPlain s) (field : String)
    (v : Value) : Document.constrainLast b field v = extendBranch b field v := by
  fun_induction Document.constrainLast b field v with
  | case1 field v => rfl
  | case2 s field v hc =>
    rw [hasConnective_of_isPlain (h s List.mem_cons_self)] at hc
    cases hc
  | case3 s field v hc e he =>
    rw [extendBranch, List.getLastD_cons, List.getLastD_nil, extendSegment_eq, he]
    rfl
  | case4 s field v hc hn =>
    rw [extendBranch, List.getLastD_cons, List.getLastD_nil, extendSegment_eq, hn]
    rfl
  | case5 s s' ss field v ih =>
    rw [List.forall_mem_cons] at h
    rw [extendBranch_cons_cons, ih h.2]

theorem clause_constrain {b : List Document} (hb : b ≠ []) (h : ∀ s ∈ b, IsPlain s)
    (field : String) (v : Value) :
    (clause b).constrain field v = clause (extendBranch b field v) := by
  rcases b with _ | ⟨s, _ | ⟨s', ss⟩⟩
  · exact absurd rfl hb
  · rw [extendBranch, List.getLastD_cons, List.getLastD_nil, extendSegment_eq, clause,
      Clause.constrain]
    cases Document.constrain? s field v <;> rfl
  · have hall : Clause.constrain (.all (s :: s' :: ss)) field v
        = .all (extendBranch (s :: s' :: ss) field v) := by
      rw [Clause.constrain, constrainLast_eq h]
    -- there are two segments or more before, and there are no fewer after
    rw [clause_cons_cons, hall, extendBranch_cons_cons]
    obtain ⟨e, es, he⟩ := List.exists_cons_of_ne_nil (extendBranch_ne_nil (s' :: ss) field v)
    rw [he, clause_cons_cons]

/-- A condition changes a filter as it changes the outline of the filter. -/
theorem constrain_filter {o : Outline} (h : o.WellFormed) (a : Addition) :
    o.filter.constrain a.chain a.field a.value = (o.add a).filter := by
  obtain ⟨chain, field, v⟩ := a
  cases chain with
  | or => simp [Filter.constrain, filter, add, clause]
  | and =>
    rw [Filter.constrain, add, amendLast_eq]
    rcases List.eq_nil_or_concat o with rfl | ⟨o, b, rfl⟩
    · rfl
    · rw [List.concat_eq_append] at h ⊢
      have hne := h.ne_nil b (by simp)
      have hplain := h.plain b (by simp)
      simp [filter, Branch.constrain, amendLast, clause_constrain hne hplain]

theorem isPlain_insert {d : Document} (h : IsPlain d) {field : String}
    (hf : Connective.isKey field = false) (v : Value) : IsPlain (OrderedMap.insert d field v) := by
  intro e he
  have hkey : e.1 ∈ OrderedMap.keys (OrderedMap.insert d field v) := List.mem_map_of_mem he
  rw [OrderedMap.keys_insert] at hkey
  have hold : e.1 ∈ OrderedMap.keys d ∨ e.1 = field := by
    split at hkey
    · exact .inl hkey
    · simpa using hkey
  rcases hold with hold | hnew
  · obtain ⟨e', he', hk⟩ := List.mem_map.1 hold
    rw [← hk]
    exact h e' he'
  · rw [hnew]
    exact hf

theorem isPlain_singleton {field : String} (hf : Connective.isKey field = false) (v : Value) :
    IsPlain [(field, v)] := by
  intro e he
  rw [List.mem_singleton.1 he]
  exact hf

theorem isPlain_extendSegment {s : Document} (h : IsPlain s) {field : String}
    (hf : Connective.isKey field = false) (v : Value) :
    ∀ s' ∈ extendSegment s field v, IsPlain s' := by
  have hnew : IsPlain [(field, v)] := isPlain_singleton hf v
  have hboth : ∀ s' ∈ [s, [(field, v)]], IsPlain s' := by
    simpa using ⟨h, hnew⟩
  unfold extendSegment
  split
  · have happend : IsPlain (s ++ [(field, v)]) := by
      intro e he
      rcases List.mem_append.1 he with he | he
      · exact h e he
      · exact hnew e he
    simpa using happend
  · split
    · split
      · simpa using isPlain_insert h hf _
      · exact hboth
    · exact hboth

theorem isPlain_extendBranch {b : List Document} (h : ∀ s ∈ b, IsPlain s) {field : String}
    (hf : Connective.isKey field = false) (v : Value) :
    ∀ s ∈ extendBranch b field v, IsPlain s := by
  have hlast : IsPlain (b.getLastD []) := by
    have hmem : b.getLastD [] ∈ [] :: b := List.getLastD_mem_cons
    rcases List.mem_cons.1 hmem with hnil | hmem
    · rw [hnil]
      exact fun e he => absurd he List.not_mem_nil
    · exact h _ hmem
  intro s hs
  rw [extendBranch] at hs
  rcases List.mem_append.1 hs with hs | hs
  · exact h s ((List.dropLast_sublist b).subset hs)
  · exact isPlain_extendSegment hlast hf v s hs

/-- A condition on a field that is not named like a connective keeps an outline well formed. -/
theorem WellFormed.add {o : Outline} (h : o.WellFormed) {a : Addition}
    (ha : Connective.isKey a.field = false) : (o.add a).WellFormed := by
  obtain ⟨chain, field, v⟩ := a
  -- the outline gets a branch, behind branches that it had
  have hwith : ∀ (bs : Outline) (b : List Document), (∀ c ∈ bs, c ∈ o) → b ≠ [] →
      (∀ s ∈ b, IsPlain s) → WellFormed (bs ++ [b]) := by
    intro bs b hbs hne hplain
    constructor
    · intro c hc
      rcases List.mem_append.1 hc with hc | hc
      · exact h.ne_nil c (hbs c hc)
      · rwa [List.mem_singleton.1 hc]
    · intro c hc
      rcases List.mem_append.1 hc with hc | hc
      · exact h.plain c (hbs c hc)
      · rwa [List.mem_singleton.1 hc]
  have hlast : ∀ s ∈ o.getLastD [], IsPlain s := by
    have hmem : o.getLastD [] ∈ [] :: o := List.getLastD_mem_cons
    rcases List.mem_cons.1 hmem with hnil | hmem
    · rw [hnil]
      exact fun s hs => absurd hs List.not_mem_nil
    · exact h.plain _ hmem
  cases chain with
  | and =>
    exact hwith _ _ (fun c hc => (List.dropLast_sublist o).subset hc) (extendBranch_ne_nil _ _ _)
      (isPlain_extendBranch hlast ha v)
  | or =>
    exact hwith _ _ (fun c hc => hc) (List.cons_ne_nil _ _)
      (by simpa using isPlain_singleton ha v)

/-! ### Rendering -/

theorem render_clause {b : List Document} (hb : b ≠ []) (h : ∀ s ∈ b, IsPlain s) :
    Branch.render [clause b] = renderBranch b := by
  rw [Branch.render_singleton, Document.unwrap_eq]
  rcases b with _ | ⟨s, _ | ⟨s', ss⟩⟩
  · exact absurd rfl hb
  · have hw : Document.wrapped? s = none := wrapped?_of_isPlain (h s List.mem_cons_self)
    rw [clause, Clause.render, hw, renderBranch]
  · rfl

/-- A filter and its outline have the same document. -/
theorem render_filter {o : Outline} (h : o.WellFormed) : o.filter.render = o.render := by
  have hbranches : o.filter.branches.map Branch.render = o.map renderBranch := by
    rw [filter, List.map_map]
    exact List.map_congr_left (fun b hb => render_clause (h.ne_nil b hb) (h.plain b hb))
  rw [Filter.render, hbranches]
  rcases o with _ | ⟨b, _ | ⟨c, bs⟩⟩ <;> rfl

/-- Conditions, one after the other, change a filter as they change its outline. -/
theorem constrainEach_filter {as : List Addition}
    (has : ∀ a ∈ as, Connective.isKey a.field = false) {o : Outline} (h : o.WellFormed) :
    (as.foldl add o).WellFormed ∧
      o.filter.constrainEach as = (as.foldl add o).filter := by
  induction as generalizing o with
  | nil => exact ⟨h, rfl⟩
  | cons a as ih =>
    rw [List.forall_mem_cons] at has
    rw [List.foldl_cons, Filter.constrainEach_cons, constrain_filter h]
    exact ih has.2 (h.add has.1)

end Outline

/-! ### Steps -/

/-- The conditions that a filter step adds. A sub-filter that must not match is a condition on the
field that holds it, unless it is empty. Steps of other sorts are not read. -/
def FilterStep.conditions : FilterStep → List Addition
  | .condition chain field c =>
    match c.statement with
    | .ok v => [⟨chain, field, v⟩]
    | .error _ => []
  | .fields chain d => d.map (fun e => ⟨chain, e.1, e.2⟩)
  | .exclusion chain x input =>
    match FilterStep.compile input with
    | .ok d => if d.isEmpty then [] else [⟨chain, x.key, .array [.document d]⟩]
    | .error _ => []
  | _ => []

/-- Whether a filter step adds conditions only, none of them on a field that is named like a
connective. What must not match may be anything. -/
def FilterStep.addsConditions : FilterStep → Bool
  | .condition _ field _ => !Connective.isKey field
  | .fields _ d => d.all (fun e => !Connective.isKey e.1)
  | .exclusion _ _ _ => true
  | _ => false

/-- The conditions that a step adds. -/
def QueryStep.conditions : QueryStep → List Addition
  | .filter s => s.conditions
  | .option _ => []

/-- Whether a step adds conditions only, if it touches the filter at all. -/
def QueryStep.addsConditions : QueryStep → Bool
  | .filter s => s.addsConditions
  | .option _ => true

theorem FilterStep.isKey_conditions {s : FilterStep} (hs : s.addsConditions = true) :
    ∀ a ∈ s.conditions, Connective.isKey a.field = false := by
  cases s with
  | condition chain field c =>
    rw [addsConditions, Bool.not_eq_true'] at hs
    rw [conditions]
    cases c.statement with
    | ok v => simpa using hs
    | error e => simp
  | fields chain d =>
    rw [addsConditions, List.all_eq_true] at hs
    intro a ha
    obtain ⟨e, he, rfl⟩ := List.mem_map.1 ha
    simpa using hs e he
  | exclusion chain x input =>
    have hx : Connective.isKey x.key = false := by cases x <;> decide
    rw [conditions]
    cases FilterStep.compile input with
    | ok d => by_cases hd : d.isEmpty = true <;> simp [hd, hx]
    | error e => simp
  | _ => simp [addsConditions] at hs

theorem Filter.constrainAll_eq (f : Filter) (chain : Chain) (d : List (String × Value)) :
    (f.constrainAll chain d).1 = f.constrainEach (d.map (fun e => ⟨chain, e.1, e.2⟩)) := by
  induction d generalizing f with
  | nil => rfl
  | cons e d ih => exact ih _

theorem FilterStep.effect_eq_constrainEach {s : FilterStep} (hs : s.addsConditions = true)
    (f : Filter) : s.effect f = f.constrainEach s.conditions := by
  cases s with
  | condition chain field c =>
    rw [FilterStep.effect, conditions]
    cases c.statement <;> rfl
  | fields chain d =>
    rw [FilterStep.effect, conditions, Filter.constrainAll_eq]
  | exclusion chain x input =>
    rw [FilterStep.effect, conditions]
    cases FilterStep.compile input with
    | ok d =>
      by_cases hd : d.isEmpty = true <;>
        simp [Filter.exclude, Filter.constrainEach, Value.documents, hd]
    | error e => rfl
  | _ => simp [addsConditions] at hs

theorem QueryStep.effects_eq_constrainEach {ss : List QueryStep}
    (hss : ∀ s ∈ ss, s.addsConditions = true) (f : Filter) :
    QueryStep.effects ss f = f.constrainEach (ss.flatMap QueryStep.conditions) := by
  induction ss generalizing f with
  | nil => rw [QueryStep.effects_nil]; rfl
  | cons s ss ih =>
    rw [List.forall_mem_cons] at hss
    have hs : s.effect f = f.constrainEach s.conditions := by
      cases s with
      | filter s => rw [QueryStep.effect, FilterStep.effect_eq_constrainEach hss.1]; rfl
      | option s => rw [QueryStep.effect]; rfl
    rw [QueryStep.effects_cons, List.flatMap_cons, Filter.constrainEach_append, ← hs, ih hss.2]

/-- **The document of a chain of conditions is that of its outline**, on queries of every kind. -/
theorem render_runList_outline {κ : Type} [Directives κ] (ss : List QueryStep)
    (hss : ∀ s ∈ ss, s.addsConditions = true) (o : Options) (k : κ) (t : Settings) :
    (runList QueryStep.runOn ss ⟨{}, o, k⟩ t).state.filter.render
      = (Outline.ofList (ss.flatMap QueryStep.conditions)).render := by
  have hfields : ∀ a ∈ ss.flatMap QueryStep.conditions, Connective.isKey a.field = false := by
    intro a ha
    obtain ⟨s, hs, ha⟩ := List.mem_flatMap.1 ha
    cases s with
    | filter s => exact FilterStep.isKey_conditions (hss _ hs) a ha
    | option s => exact absurd ha List.not_mem_nil
  obtain ⟨hwf, hfilter⟩ := Outline.constrainEach_filter hfields Outline.wellFormed_nil
  rw [filter_runList, QueryStep.effects_eq_constrainEach hss, Outline.ofList,
    ← Outline.render_filter hwf, ← hfilter]
  rfl

/-- A field given three times, lists put together in the middle of a segment, one that cannot be, a
refused condition, and a second branch. -/
theorem render_runList_outline_segments :
    let ss : List QueryStep := [
      .filter (.condition .and "a" .present),
      .filter (.exclusion .and .nor (.document [("x", .null)])),
      .filter (.condition .and "b" (.equal .null)),
      .filter (.exclusion .and .nor (.steps [.filter (.condition .and "y" (.equal .null))])),
      .filter (.condition .and "c" (.typeNamed "text")),
      .filter (.fields .and [("a", .minKey), ("$nor", .null)]),
      .filter (.condition .and "a" (.equal .maxKey)),
      .filter (.exclusion .and .nor (.document [("z", .null)])),
      .filter (.condition .or "$not" (.equal .null)),
      .filter (.exclusion .and .not (.document [("z", .null)]))]
    (∀ s ∈ ss, s.addsConditions = true) ∧
      (runList QueryStep.runOn ss (⟨{}, {}, ()⟩ : Where) {}).state.filter.render
        = (Outline.ofList (ss.flatMap QueryStep.conditions)).render ∧
      Outline.ofList (ss.flatMap QueryStep.conditions) = [
        [[("a", .document [("$exists", .bool true)]),
            ("$nor", .array [.document [("x", .null)], .document [("y", .null)]]),
            ("b", .null)],
          [("a", .minKey), ("$nor", .null)],
          [("a", .maxKey), ("$nor", .array [.document [("z", .null)]])]],
        [[("$not", .null)], [("$not", .array [.document [("z", .null)]])]]] := by
  intro ss
  have hss : ∀ s ∈ ss, s.addsConditions = true := by decide
  exact ⟨hss, render_runList_outline ss hss {} () {}, by decide⟩

end DocQuery
