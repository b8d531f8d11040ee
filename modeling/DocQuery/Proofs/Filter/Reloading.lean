import DocQuery.Proofs.Filter.Meaning
import DocQuery.Proofs.Filter.Loading
import DocQuery.Proofs.Filter.Collapsed

/-!
# Loading a filter again

A filter that is loaded from its own document has the branches it had before, with one exception: a
filter whose only branch is a group of alternatives has the same document as a filter with those
alternatives for branches, and is loaded as the latter. Steps that follow go into its last
alternative, where they would have gone beside the group.

* `Alternatives.joinAll_concat`, `Alternatives.hold_joinAll_iff`: what joins alternatives goes into
  the last one and behind it, and when this differs from joining them as one;
* `Valuation.branches_reload`, `Valuation.branches_reload_group`: the branches after loading again;
* `reload_then_run`: what loading again does to the meaning of the steps that follow.
-/

namespace DocQuery

namespace Alternatives

/-- What joins alternatives goes into the last one and behind it, whatever they are. -/
theorem joinAll_concat (js : List (Chain × Bool)) :
    ∃ (c : Bool) (r : Alternatives), ∀ (a : Alternatives) (l : Bool),
      joinAll (a ++ [l]) js = a ++ (l && c) :: r := by
  induction js with
  | nil => exact ⟨true, [], fun a l => by simp⟩
  | cons j js ih =>
    obtain ⟨c, r, h⟩ := ih
    obtain ⟨chain, p⟩ := j
    cases chain with
    | and =>
      refine ⟨p && c, r, fun a l => ?_⟩
      have hj : Alternatives.join (a ++ [l]) .and p = a ++ [l && p] := by simp [Alternatives.join]
      rw [joinAll_cons, hj, h, Bool.and_assoc]
    | or =>
      refine ⟨true, (p && c) :: r, fun a l => ?_⟩
      rw [joinAll_cons, Alternatives.join, h]
      simp

theorem hold_append_cons (a : Alternatives) (l : Bool) (r : Alternatives) :
    hold (a ++ l :: r) = (a.any id || l || r.any id) := by
  simp [hold, Bool.or_assoc]

/-- What joins several alternatives means what it means when it joins them as one, unless one of
those before the last holds and what joins does not hold by itself. -/
theorem hold_joinAll_iff (a : Alternatives) (l : Bool) (js : List (Chain × Bool)) :
    (joinAll (a ++ [l]) js).hold = (joinAll [a.any id || l] js).hold ↔
      (a.any id = true → (joinAll [true] js).hold = true) := by
  -- `c` goes into the last alternative and `r` behind it
  obtain ⟨c, r, h⟩ := joinAll_concat js
  have hmany : (joinAll (a ++ [l]) js).hold = (a.any id || l && c || r.any id) := by
    rw [h, hold_append_cons]
  have hone : ∀ p, (joinAll [p] js).hold = (p && c || r.any id) := by
    intro p
    have hp : joinAll [p] js = [] ++ (p && c) :: r := h [] p
    rw [hp, hold_append_cons]
    rfl
  rw [hmany, hone, hone]
  cases a.any id <;> cases l <;> cases c <;> cases r.any id <;> decide

end Alternatives

/-- The alternatives of a filter that consists of a group of them. -/
def Filter.soleGroup? (f : Filter) : Option (List Document) :=
  match f.branches with
  | [b] => Document.operands? .any b.render
  | _ => none

namespace Valuation

variable (ρ : Valuation)

/-- A document that is compact has no empty alternatives, so it is loaded with all of them. -/
theorem branches_load_compact {d : Document} (h : Document.Compact d) :
    ρ.branches (Filter.load d) = (Document.alternatives d).map ρ.document := by
  have hne : ∀ e ∈ Document.alternatives d, e ≠ [] := by
    rcases Document.alternatives_cases d with ⟨ds, -, ho, ha⟩ | ⟨-, ha⟩
    · rw [ha]
      exact fun e he => ((Document.compact_operands h.isCollapsed ho).2 e he).ne_nil
    · rw [ha]
      simpa using h.ne_nil
  have hf : (Document.alternatives d).filter (fun e => !e.isEmpty) = Document.alternatives d :=
    List.filter_eq_self.2 (fun e he => by simpa using hne e he)
  rw [branches_load, hf]

/-- Loading a compact filter again keeps its branches, unless it consists of a group. -/
theorem branches_reload {f : Filter} (hf : f.Compact) (hg : f.soleGroup? = none) :
    ρ.branches (Filter.load f.render) = ρ.branches f := by
  obtain ⟨_ | ⟨b, _ | ⟨c, bs⟩⟩⟩ := f
  · rfl
  · have hc : Document.Compact b.render := (hf b (by simp)).render
    have ho : Document.operands? .any b.render = none := hg
    rw [Filter.render_singleton, branches_load_compact ρ hc, Document.alternatives, ho, branches]
    simp [document_render_branch]
  · -- the document lists the branches, and is read back one by one
    have hc := Document.compact_join .any (by simp) hf.render_branches
    rw [Filter.render_cons_cons, branches_load_compact ρ hc, Document.alternatives,
      Document.operands?_join, Option.getD_some, map_document_render, branches]

/-- A compact filter that consists of a group has one branch, and after loading again one for each
of the alternatives. -/
theorem branches_reload_group {f : Filter} (hf : f.Compact) {ds : List Document}
    (hg : f.soleGroup? = some ds) :
    ρ.branches f = [ds.any ρ.document] ∧
      ρ.branches (Filter.load f.render) = ds.map ρ.document ∧ ds ≠ [] := by
  obtain ⟨_ | ⟨b, _ | ⟨c, bs⟩⟩⟩ := f
  · simp [Filter.soleGroup?] at hg
  · have hc : Document.Compact b.render := (hf b (by simp)).render
    have ho : Document.operands? .any b.render = some ds := hg
    have hl := (Document.compact_operands hc.isCollapsed ho).1
    refine ⟨?_, ?_, fun hn => by simp [hn] at hl⟩
    · rw [branches, List.map_singleton, ← document_render_branch,
        Document.operands?_eq_some_iff.1 ho, document_join_any]
    · rw [Filter.render_singleton, branches_load_compact ρ hc, Document.alternatives, ho]
      rfl
  · simp [Filter.soleGroup?] at hg

end Valuation

/-- **Loading a filter again keeps the meaning of all that follows**, unless the filter consists of
a group of alternatives. In that case the steps that follow go into the last alternative of the
group, which makes a difference exactly when one of the others holds and what follows does not hold
by itself. -/
theorem reload_then_run (ρ : Valuation) {κ : Type} [Directives κ] (ss us : List QueryStep)
    (hss : QueryStep.areTidy ss = true) (hus : QueryStep.areAdditive us = true) (o : Options)
    (k : κ) (t : Settings) :
    let f := (runList QueryStep.runOn ss ⟨{}, o, k⟩ t).state.filter
    let direct := (runList QueryStep.runOn (ss ++ us) ⟨{}, o, k⟩ t).state.filter.render
    let reloaded :=
      (runList QueryStep.runOn (ss ++ .filter .reload :: us) ⟨{}, o, k⟩ t).state.filter.render
    (f.soleGroup? = none → ρ.document reloaded = ρ.document direct) ∧
      ∀ ds, f.soleGroup? = some ds →
        (ρ.document reloaded = ρ.document direct ↔
          (ds.dropLast.any ρ.document = true →
            (Alternatives.joinAll [true] (ρ.querySteps us)).hold = true)) := by
  intro f direct reloaded
  have hf : f.Compact := by
    rw [show f = _ from filter_runList ss ⟨{}, o, k⟩ t]
    exact QueryStep.compact_effects ss hss Filter.compact_empty
  have hd : ρ.document direct
      = (Alternatives.joinAll (ρ.branches f) (ρ.querySteps us)).hold := by
    rw [← Valuation.branches_querySteps ρ us hus, ← Valuation.document_render]
    simp only [direct, f, filter_runList, QueryStep.effects_append]
  have hr : ρ.document reloaded
      = (Alternatives.joinAll (ρ.branches (Filter.load f.render)) (ρ.querySteps us)).hold := by
    rw [← Valuation.branches_querySteps ρ us hus, ← Valuation.document_render]
    simp only [reloaded, f, filter_runList, QueryStep.effects_append, QueryStep.effects_cons,
      QueryStep.effect, FilterStep.effect]
  refine ⟨fun hg => ?_, fun ds hg => ?_⟩
  · rw [hd, hr, Valuation.branches_reload ρ hf hg]
  · obtain ⟨hone, hmany, hne⟩ := Valuation.branches_reload_group ρ hf hg
    obtain ⟨es, e, rfl⟩ := (List.eq_nil_or_concat ds).resolve_left hne
    have h := Alternatives.hold_joinAll_iff (es.map ρ.document) (ρ.document e) (ρ.querySteps us)
    rw [List.any_map, Function.id_comp] at h
    have hany : (es ++ [e]).any ρ.document = (es.any ρ.document || ρ.document e) := by simp
    rw [hd, hr, hone, hmany, List.concat_eq_append, List.map_append, hany, List.dropLast_concat]
    exact h

/-- A group of which an alternative other than the last may hold, and a condition on it. -/
theorem reload_then_run_group :
    let ss : List QueryStep := [.filter (.clause .and (.steps [
      .filter (.condition .and "a" .present),
      .filter (.condition .or "b" (.equal .null))]))]
    let us : List QueryStep := [.filter (.condition .and "c" .present)]
    let ρ : Valuation := ⟨fun k _ => k == "b", fun _ => false⟩
    let f := (runList QueryStep.runOn ss (⟨{}, {}, ()⟩ : Where) {}).state.filter
    let direct := (runList QueryStep.runOn (ss ++ us) (⟨{}, {}, ()⟩ : Where) {}).state.filter.render
    let reloaded :=
      (runList QueryStep.runOn (ss ++ .filter .reload :: us)
        (⟨{}, {}, ()⟩ : Where) {}).state.filter.render
    QueryStep.areTidy ss = true ∧ QueryStep.areAdditive us = true ∧
      (f.soleGroup? = none → ρ.document reloaded = ρ.document direct) ∧
      ∀ ds, f.soleGroup? = some ds →
        (ρ.document reloaded = ρ.document direct ↔
          (ds.dropLast.any ρ.document = true →
            (Alternatives.joinAll [true] (ρ.querySteps us)).hold = true)) :=
  ⟨by decide, by decide, reload_then_run _ _ _ (by decide) (by decide) {} () {}⟩

/-- A condition on a group restricts all of it, but after loading again only its last
alternative. -/
theorem reload_splits_group :
    let ss : List QueryStep := [.filter (.clause .and (.steps [
      .filter (.condition .and "a" .present),
      .filter (.condition .or "b" .present)]))]
    let us : List QueryStep := [.filter (.condition .and "c" .present)]
    let ρ : Valuation := ⟨fun k _ => k == "a", fun _ => false⟩
    let q : Where := ⟨{}, {}, ()⟩
    ρ.document (runList QueryStep.runOn (ss ++ us) q {}).state.filter.render = false ∧
      ρ.document (runList QueryStep.runOn (ss ++ .filter .reload :: us) q {}).state.filter.render
        = true := by
  decide

end DocQuery
