import DocQuery.Query.Run

/-!
# Truth of filter documents

A `Valuation` says which fields and which list elements hold. A document holds when all its entries
do, where a list under `$and` asks for all of its elements, a list under `$or` for one of them, and
a list under `$nor` or `$not` for none of them. Clauses, branches and filters are valued by what
they are made of, without looking at a document of theirs.

* `Valuation.document_unwrap`: stripping keeps the value;
* `Valuation.document_render`: a filter and its document have the same value;
* `Valuation.clause_ofDocument`, `Valuation.branch_ofDocument`: so have a document and the clause or
  the branch read from it;
* `Valuation.branches_constrain`, `Valuation.branches_embed`, `Valuation.branches_exclude`: a
  condition and a sub-filter join the values of the branches, by `Alternatives.join`.
-/

namespace DocQuery

/-- The values of alternatives. -/
abbrev Alternatives := List Bool

namespace Alternatives

/-- One of the alternatives holds. Without alternatives nothing is asked for. -/
def hold (a : Alternatives) : Bool := a.isEmpty || a.any id

/-- The alternatives with one more thing that has to hold, in the last of them or as one of its
own. -/
def join (a : Alternatives) (chain : Chain) (p : Bool) : Alternatives :=
  match chain with
  | .and => a.dropLast ++ [a.getLastD true && p]
  | .or => a ++ [p]

/-- The alternatives with several more things, one after the other. -/
def joinAll (a : Alternatives) (js : List (Chain × Bool)) : Alternatives :=
  js.foldl (fun a j => a.join j.1 j.2) a

@[simp] theorem joinAll_nil (a : Alternatives) : a.joinAll [] = a := rfl

@[simp] theorem joinAll_cons (a : Alternatives) (chain : Chain) (p : Bool)
    (js : List (Chain × Bool)) : a.joinAll ((chain, p) :: js) = (a.join chain p).joinAll js := rfl

theorem joinAll_append (a : Alternatives) (js ks : List (Chain × Bool)) :
    a.joinAll (js ++ ks) = (a.joinAll js).joinAll ks := List.foldl_append

theorem join_ne_nil (a : Alternatives) (chain : Chain) (p : Bool) : a.join chain p ≠ [] := by
  cases chain <;> simp [join]

/-- There are no alternatives only when there were none and nothing joins them. -/
theorem joinAll_eq_nil_iff {a : Alternatives} {js : List (Chain × Bool)} :
    a.joinAll js = [] ↔ a = [] ∧ js = [] := by
  induction js generalizing a with
  | nil => simp
  | cons j js ih =>
    obtain ⟨chain, p⟩ := j
    simp [ih, join_ne_nil]

end Alternatives

/-- What is true: the fields that are not read as connectives, and the list elements that are no
documents. -/
structure Valuation where
  entry : String → Value → Bool
  element : Value → Bool

namespace Valuation

mutual

/-- A document holds when all its entries do. -/
def document (ρ : Valuation) : List (String × Value) → Bool
  | [] => true
  | (k, v) :: d => ρ.field k v && ρ.document d

/-- A field with what it has to match. -/
def field (ρ : Valuation) (k : String) : Value → Bool
  | .array vs =>
    if k = "$and" then (ρ.elements vs).all id
    else if k = "$or" then (ρ.elements vs).any id
    else if k = "$nor" ∨ k = "$not" then (ρ.elements vs).all (!·)
    else ρ.entry k (.array vs)
  | v => ρ.entry k v

/-- The elements of a list, one by one. -/
def elements (ρ : Valuation) : List Value → List Bool
  | [] => []
  | v :: vs => ρ.item v :: ρ.elements vs

/-- An element of a list. -/
def item (ρ : Valuation) : Value → Bool
  | .document d => ρ.document d
  | v => ρ.element v

end

/-- A clause holds when its document does, or all of its documents do. -/
def clause (ρ : Valuation) : Clause → Bool
  | .fields d => ρ.document d
  | .all ds => ds.all ρ.document

/-- A branch holds when all its clauses do. -/
def branch (ρ : Valuation) (b : Branch) : Bool := b.all ρ.clause

/-- The values of the branches of a filter. -/
def branches (ρ : Valuation) (f : Filter) : Alternatives := f.branches.map ρ.branch

variable (ρ : Valuation)

/-! ### Documents -/

@[simp] theorem document_nil : ρ.document [] = true := by
  rw [document]

@[simp] theorem document_cons (k : String) (v : Value) (d : Document) :
    ρ.document ((k, v) :: d) = (ρ.field k v && ρ.document d) := by
  rw [document]

theorem document_append (d e : Document) :
    ρ.document (d ++ e) = (ρ.document d && ρ.document e) := by
  induction d with
  | nil => simp
  | cons x d ih =>
    obtain ⟨k, v⟩ := x
    simp [ih, Bool.and_assoc]

theorem elements_eq_map (vs : List Value) : ρ.elements vs = vs.map ρ.item := by
  induction vs with
  | nil => rw [elements]; rfl
  | cons v vs ih => rw [elements, ih]; rfl

theorem elements_documents (ds : List Document) :
    ρ.elements (ds.map .document) = ds.map ρ.document := by
  rw [elements_eq_map, List.map_map]
  exact List.map_congr_left (fun d _ => by rw [Function.comp_apply, item])

theorem field_all (vs : List Value) :
    ρ.field (Connective.key .all) (.array vs) = (ρ.elements vs).all id := by
  rw [field, Connective.key, if_pos rfl]

theorem field_any (vs : List Value) :
    ρ.field (Connective.key .any) (.array vs) = (ρ.elements vs).any id := by
  rw [field, Connective.key, if_neg (by decide), if_pos rfl]

theorem field_exclusion {k : String} (hk : isExclusionField k = true) (vs : List Value) :
    ρ.field k (.array vs) = (ρ.elements vs).all (!·) := by
  have h : k = "$nor" ∨ k = "$not" := by simpa [isExclusionField] using hk
  have hall : k ≠ "$and" := by rcases h with rfl | rfl <;> decide
  have hany : k ≠ "$or" := by rcases h with rfl | rfl <;> decide
  rw [field, if_neg hall, if_neg hany, if_pos h]

theorem document_join_all (ds : List Document) :
    ρ.document (Document.join .all ds) = ds.all ρ.document := by
  simp [Document.join, Value.documents, field_all, elements_documents, List.all_map]

theorem document_join_any (ds : List Document) :
    ρ.document (Document.join .any ds) = ds.any ρ.document := by
  simp [Document.join, Value.documents, field_any, elements_documents, List.any_map]

/-- Under a connective a single element stands for the list. -/
theorem field_singleton {k : String} (hk : Connective.isKey k = true) (v : Value) :
    ρ.field k (.array [v]) = ρ.item v := by
  obtain ⟨c, rfl⟩ := Connective.isKey_iff.1 hk
  cases c
  · simp [field_all, elements_eq_map]
  · simp [field_any, elements_eq_map]

mutual

/-- Stripping keeps the value of a document. -/
theorem document_unwrap (d : List (String × Value)) :
    ρ.document (Document.unwrap d) = ρ.document d := by
  match d with
  | [] => rfl
  | [(k, v)] =>
    rw [Document.unwrap]
    by_cases hk : Connective.isKey k = true
    · cases hs : Document.sole v with
      | none => simp [hk]
      | some e => simp [hk, field_of_sole hk v hs]
    · simp [hk]
  | _ :: _ :: _ => rw [Document.unwrap]; simp

theorem field_of_sole {k : String} (hk : Connective.isKey k = true) (v : Value) {e : Document}
    (h : Document.sole v = some e) : ρ.field k v = ρ.document e := by
  match v with
  | .array [v] =>
    rw [Document.sole] at h
    rw [field_singleton ρ hk, item_of_embedded v h]

theorem item_of_embedded (v : Value) {e : Document} (h : Document.embedded v = some e) :
    ρ.item v = ρ.document e := by
  match v with
  | .document d =>
    rw [Document.embedded, Option.some.injEq] at h
    rw [item, ← h, document_unwrap d]

end

/-! ### Clauses, branches and filters -/

@[simp] theorem clause_fields (d : Document) : ρ.clause (.fields d) = ρ.document d := rfl

@[simp] theorem clause_all (ds : List Document) : ρ.clause (.all ds) = ds.all ρ.document := rfl

@[simp] theorem branch_nil : ρ.branch [] = true := rfl

@[simp] theorem branch_append (b c : Branch) :
    ρ.branch (b ++ c) = (ρ.branch b && ρ.branch c) := List.all_append

@[simp] theorem branch_singleton (c : Clause) : ρ.branch [c] = ρ.clause c := Bool.and_true _

/-! ### Reading documents -/

theorem clause_ofDocument (d : Document) : ρ.clause (Clause.ofDocument d) = ρ.document d := by
  rw [Clause.ofDocument]
  split
  · rename_i ds h
    rw [← document_unwrap ρ d, Document.operands?_eq_some_iff.1 h, document_join_all, clause,
      List.all_map]
    exact List.all_congr rfl (fun e => document_unwrap ρ e)
  · exact document_unwrap ρ d

theorem branch_ofDocument (d : Document) : ρ.branch (Branch.ofDocument d) = ρ.document d := by
  rw [Branch.ofDocument, branch]
  split
  · rename_i ds h
    rw [Document.operands?_eq_some_iff.1 h, document_join_all, List.all_map]
    exact List.all_congr rfl (fun e => clause_ofDocument ρ e)
  · simp [clause_ofDocument]

/-! ### Rendering -/

theorem document_render_clause (c : Clause) : ρ.document c.render = ρ.clause c := by
  rw [Clause.render.eq_def]
  split
  · rfl
  · simp [clause]
  · rw [document_join_all]; rfl

theorem document_render_branch (b : Branch) : ρ.document b.render = ρ.branch b := by
  have h : (b.map Clause.render).all ρ.document = ρ.branch b := by
    rw [List.all_map]
    exact List.all_congr rfl (fun c => document_render_clause ρ c)
  rw [← h]
  rcases b with _ | ⟨c, _ | ⟨e, b⟩⟩
  · exact document_join_all ρ []
  · rw [Branch.render_singleton, document_unwrap]
    simp
  · rw [Branch.render_cons_cons, document_join_all]

theorem map_document_render (bs : List Branch) :
    (bs.map Branch.render).map ρ.document = bs.map ρ.branch := by
  rw [List.map_map]
  exact List.map_congr_left (fun b _ => document_render_branch ρ b)

/-- A filter and its document have the same value. -/
theorem document_render (f : Filter) : ρ.document f.render = (ρ.branches f).hold := by
  obtain ⟨_ | ⟨b, _ | ⟨c, bs⟩⟩⟩ := f
  · rw [Filter.render_nil, document_nil]
    rfl
  · rw [Filter.render_singleton, document_render_branch]
    simp [branches, Alternatives.hold]
  · have hany (ds : List Document) : ds.any ρ.document = (ds.map ρ.document).any id := by
      rw [List.any_map, Function.id_comp]
    rw [Filter.render_cons_cons, document_join_any, hany, map_document_render]
    rfl

/-! ### Adding -/

/-- A list under `$nor` or `$not` may be extended in place. -/
theorem document_insert_array {k : String} (hk : isExclusionField k = true) {d : Document}
    {xs : List Value} (ys : List Value) (h : OrderedMap.get? d k = some (.array xs)) :
    ρ.document (OrderedMap.insert d k (.array (xs ++ ys)))
      = (ρ.document d && ρ.field k (.array ys)) := by
  induction d with
  | nil => simp at h
  | cons e d ih =>
    obtain ⟨j, a⟩ := e
    rw [OrderedMap.get?_cons] at h
    rw [OrderedMap.insert]
    by_cases hj : j = k
    -- the list of the field is extended: none of its elements and none of the new ones may hold
    · rw [if_pos hj, Option.some.injEq] at h
      rw [if_pos hj, h, document_cons, document_cons, hj, field_exclusion ρ hk,
        field_exclusion ρ hk, field_exclusion ρ hk, elements_eq_map, elements_eq_map,
        elements_eq_map, List.map_append, List.all_append]
      grind
    · rw [if_neg hj] at h
      rw [if_neg hj, document_cons, document_cons, ih h, Bool.and_assoc]

/-- A document that takes a condition asks for it as well. -/
theorem document_constrain? {d e : Document} {k : String} {v : Value}
    (h : Document.constrain? d k v = some e) :
    ρ.document e = (ρ.document d && ρ.field k v) := by
  unfold Document.constrain? at h
  split at h
  · rename_i hk
    rw [Option.some.injEq] at h
    rw [← h, OrderedMap.insert_of_notMem v (OrderedMap.get?_eq_none_iff.1 hk), document_append]
    simp
  · rename_i present hp
    split at h
    · rename_i hx
      rw [Option.some.injEq] at h
      rw [← h, document_insert_array ρ hx _ hp]
    · simp at h

theorem all_constrainLast (ds : List Document) (k : String) (v : Value) :
    (Document.constrainLast ds k v).all ρ.document = (ds.all ρ.document && ρ.field k v) := by
  fun_induction Document.constrainLast ds k v with
  -- no document, one that joins others, one that takes the condition, one that does not
  | case1 k v => simp
  | case2 d k v hc => simp
  | case3 d k v hc e he => simp [document_constrain? ρ he]
  | case4 d k v hc hn => simp
  | case5 d e ds k v ih =>
    simp only [List.all_cons] at ih ⊢
    rw [ih, Bool.and_assoc (ρ.document d)]

theorem clause_constrain (c : Clause) (k : String) (v : Value) :
    ρ.clause (c.constrain k v) = (ρ.clause c && ρ.field k v) := by
  cases c with
  | fields d =>
    rw [Clause.constrain]
    cases h : Document.constrain? d k v with
    | none => simp
    | some e => exact document_constrain? ρ h
  | all ds => exact all_constrainLast ρ ds k v

theorem branch_constrain (b : Branch) (k : String) (v : Value) :
    ρ.branch (b.constrain k v) = (ρ.branch b && ρ.field k v) := by
  rw [Branch.constrain, amendLast_eq]
  rcases List.eq_nil_or_concat b with rfl | ⟨b, c, rfl⟩
  · simp [clause_constrain]
  · simp [clause_constrain, Bool.and_assoc]

/-- A condition joins the values of the branches. -/
theorem branches_constrain (f : Filter) (chain : Chain) (k : String) (v : Value) :
    ρ.branches (f.constrain chain k v) = (ρ.branches f).join chain (ρ.field k v) := by
  cases chain with
  | and =>
    rw [Filter.constrain, amendLast_eq, Alternatives.join, branches, branches]
    rcases List.eq_nil_or_concat f.branches with h | ⟨bs, b, h⟩
    · simp [h, branch_constrain]
    · simp [h, branch_constrain]
  | or => simp [Filter.constrain, Alternatives.join, branches]

/-- Conditions join the values of the branches one after the other. -/
theorem branches_constrainAll (f : Filter) (chain : Chain) (d : List (String × Value)) :
    ρ.branches (f.constrainAll chain d).1
      = (ρ.branches f).joinAll (d.map (fun e => (chain, ρ.field e.1 e.2))) := by
  induction d generalizing f with
  | nil => rfl
  | cons e d ih =>
    obtain ⟨k, v⟩ := e
    rw [List.map_cons, Alternatives.joinAll_cons, ← branches_constrain, ← ih]
    rfl

/-- A sub-filter joins the values of the branches, unless it is empty. -/
theorem branches_embed (f : Filter) (chain : Chain) (d : Document) :
    ρ.branches (f.embed chain d)
      = if (Document.unwrap d).isEmpty then ρ.branches f
        else (ρ.branches f).join chain (ρ.document d) := by
  have hd : ρ.clause (Clause.ofDocument (Document.unwrap d)) = ρ.document d := by
    rw [clause_ofDocument, document_unwrap]
  unfold Filter.embed
  by_cases he : (Document.unwrap d).isEmpty = true
  · rw [if_pos he, if_pos he]
  · rw [if_neg he, if_neg he]
    cases chain with
    | and =>
      rcases List.eq_nil_or_concat f.branches with h | ⟨bs, b, h⟩
      · simp [amendLast_eq, Alternatives.join, branches, h, hd]
      · simp [amendLast_eq, Alternatives.join, branches, h, hd]
    | or => simp [Alternatives.join, branches, hd]

/-- A sub-filter that must not match joins the values of the branches, unless it is empty. -/
theorem branches_exclude (f : Filter) (chain : Chain) (x : Exclusion) (d : Document) :
    ρ.branches (f.exclude chain x d).1
      = if d.isEmpty then ρ.branches f else (ρ.branches f).join chain (!ρ.document d) := by
  have hx : ρ.field x.key (Value.documents [d]) = !ρ.document d := by
    rw [Value.documents, field_exclusion ρ (by cases x <;> decide), elements_documents]
    simp
  rw [Filter.exclude]
  by_cases he : d.isEmpty = true
  · rw [if_pos he, if_pos he]
  · rw [if_neg he, if_neg he, branches_constrain, hx]

end Valuation

end DocQuery
