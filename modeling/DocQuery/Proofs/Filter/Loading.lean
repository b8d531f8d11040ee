import DocQuery.Proofs.Filter.Truth

/-!
# Loading documents

A filter that is loaded from a document has a branch for each document under a root `$or`, or a
single branch for any other document. Empty documents get no branch. `document_render_load` says
what this does to the meaning: the loaded filter means what the document means without the empty
ones among its alternatives, so nothing changes unless some of the alternatives are empty and
others are not.
-/

namespace DocQuery

namespace Document

/-- The documents of which a document asks for one: those under a root `$or`, or itself. -/
def alternatives (d : Document) : List Document := (operands? .any d).getD [d]

/-- A document without the empty ones among its alternatives, unless all of them are empty. -/
def dropEmptyAlternatives (d : Document) : Document :=
  match operands? .any d with
  | some ds => if ds.all List.isEmpty then d else join .any (ds.filter (fun e => !e.isEmpty))
  | none => d

/-- Every document is one that joins its alternatives or is its only alternative. -/
theorem alternatives_cases (d : Document) :
    (∃ ds, d = join .any ds ∧ operands? .any d = some ds ∧ alternatives d = ds) ∨
      (operands? .any d = none ∧ alternatives d = [d]) := by
  cases h : operands? .any d with
  | some ds => exact .inl ⟨ds, operands?_eq_some_iff.1 h, rfl, by rw [alternatives, h]; rfl⟩
  | none => exact .inr ⟨rfl, by rw [alternatives, h]; rfl⟩

/-- Without empty alternatives there is nothing to drop. -/
theorem dropEmptyAlternatives_of_notMem {d : Document} (h : [] ∉ alternatives d) :
    dropEmptyAlternatives d = d := by
  rw [dropEmptyAlternatives]
  rcases alternatives_cases d with ⟨ds, hd, ho, ha⟩ | ⟨ho, -⟩
  · rw [ha] at h
    have hf : ds.filter (fun e => !e.isEmpty) = ds := by
      rw [List.filter_eq_self]
      rintro (_ | _) he
      · exact absurd he h
      · rfl
    rw [ho]
    dsimp only
    rw [hf, ← hd, ite_self]
  · rw [ho]

end Document

namespace Valuation

variable (ρ : Valuation)

/-- The values of the branches are those of the alternatives that are not empty. -/
theorem branches_load (d : Document) :
    ρ.branches (Filter.load d)
      = ((Document.alternatives d).filter (fun e => !e.isEmpty)).map ρ.document := by
  rw [branches, Filter.load, List.map_map]
  exact List.map_congr_left (fun e _ => branch_ofDocument ρ e)

/-- Empty documents hold, so what is left after dropping them holds only if all of it does. -/
theorem document_of_dropEmptyAlternatives {d : Document}
    (h : ρ.document (Document.dropEmptyAlternatives d) = true) : ρ.document d = true := by
  rw [Document.dropEmptyAlternatives] at h
  rcases Document.alternatives_cases d with ⟨ds, hd, ho, -⟩ | ⟨ho, -⟩
  · rw [ho] at h
    dsimp only at h
    split at h
    · exact h
    · rw [document_join_any, List.any_eq_true] at h
      obtain ⟨e, he, hv⟩ := h
      rw [hd, document_join_any, List.any_eq_true]
      exact ⟨e, (List.mem_filter.1 he).1, hv⟩
  · rwa [ho] at h

/-- A loaded document means what it means without its empty alternatives. A list without any
alternative matches nothing, and no filter does. -/
theorem hold_branches_load {d : Document} (hd : d ≠ Document.join .any []) :
    (ρ.branches (Filter.load d)).hold = ρ.document (Document.dropEmptyAlternatives d) := by
  rw [branches_load, Document.dropEmptyAlternatives]
  rcases Document.alternatives_cases d with ⟨ds, hj, ho, ha⟩ | ⟨ho, ha⟩
  · rw [ho, ha]
    dsimp only
    split
    · rename_i hall
      -- all alternatives are empty, and there is one
      have hf : ds.filter (fun e => !e.isEmpty) = [] := by
        rw [List.filter_eq_nil_iff]
        intro e he
        simpa using List.all_eq_true.1 hall e he
      obtain ⟨e, es, rfl⟩ : ∃ e es, ds = e :: es := by
        cases ds with
        | nil => exact absurd hj hd
        | cons e es => exact ⟨e, es, rfl⟩
      have he : e = [] := by simpa using List.all_eq_true.1 hall e List.mem_cons_self
      rw [hf, hj, document_join_any, he]
      simp [Alternatives.hold]
    · rename_i hall
      rw [document_join_any, Alternatives.hold]
      cases hf : ds.filter (fun e => !e.isEmpty) with
      | nil =>
        rw [List.filter_eq_nil_iff] at hf
        exact absurd (List.all_eq_true.2 (fun e he => by simpa using hf e he)) hall
      | cons e es => simp [List.any_map]
  · rw [ho, ha]
    cases d with
    | nil => rfl
    | cons e d => simp [Alternatives.hold]

end Valuation

/-- **Loading a document keeps its meaning**, but for the empty documents in a root list of
alternatives: those are left out where there are others. The filter matches nothing that the
document does not match, and only a document that matches everything becomes the empty filter. -/
theorem document_render_load (ρ : Valuation) {κ : Type} [Directives κ] {d : Document}
    (hd : d ≠ Document.join .any []) (q : Query κ) (t : Settings) :
    let e := ((QueryStep.filter (.load d)).runOn q t).state.filter.render
    ρ.document e = ρ.document (Document.dropEmptyAlternatives d) ∧
      ([] ∉ Document.alternatives d → ρ.document e = ρ.document d) ∧
      (ρ.document e = true → ρ.document d = true) ∧ (e = [] → ρ.document d = true) := by
  intro e
  have he : ρ.document e = ρ.document (Document.dropEmptyAlternatives d) := by
    rw [← Valuation.hold_branches_load ρ hd, ← Valuation.document_render]
    rfl
  have hw : ρ.document e = true → ρ.document d = true := by
    rw [he]
    exact Valuation.document_of_dropEmptyAlternatives ρ
  refine ⟨he, fun h => ?_, hw, fun h => hw ?_⟩
  · rw [he, Document.dropEmptyAlternatives_of_notMem h]
  · rw [h, Valuation.document_nil]

/-- Of three alternatives the empty one is left out. -/
theorem document_render_load_alternatives :
    let d : Document := [("$or", .array [
      .document [("a", .null)],
      .document [],
      .document [("$and", .array [.document [("b", .null)]])]])]
    let ρ : Valuation := ⟨fun k _ => k == "b", fun _ => false⟩
    let e := ((QueryStep.filter (.load d)).runOn (⟨{}, {}, ()⟩ : Where) {}).state.filter.render
    d ≠ Document.join .any [] ∧
      ρ.document e = ρ.document (Document.dropEmptyAlternatives d) ∧
      ([] ∉ Document.alternatives d → ρ.document e = ρ.document d) ∧
      (ρ.document e = true → ρ.document d = true) ∧ (e = [] → ρ.document d = true) :=
  ⟨by decide, document_render_load _ (by decide) _ _⟩

/-- A document with an empty alternative matches everything, and loaded it does not. A document
without any alternative matches nothing, and loaded it is the empty filter. -/
theorem load_loses_empty_alternative :
    let d : Document := [("$or", .array [.document [], .document [("a", .null)]])]
    let ρ : Valuation := ⟨fun _ _ => false, fun _ => false⟩
    let loaded (d : Document) : Document :=
      ((QueryStep.filter (.load d)).runOn (⟨{}, {}, ()⟩ : Where) {}).state.filter.render
    (ρ.document d = true ∧ ρ.document (loaded d) = false) ∧
      ρ.document [("$or", .array [])] = false ∧ loaded [("$or", .array [])] = [] := by
  decide

end DocQuery
