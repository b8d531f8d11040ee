import DocQuery.Proofs.Filter.Collapsed

/-!
# Loading and rendering

Documents that are collapsed and not empty are read and written without a change, in each of the
ways in which a filter reads a document: as a filter of its own, as a branch, and as a clause. The
filters need not agree, since a document that is embedded is a single clause even if it lists
alternatives, but their documents do.

* `Clause.render_ofDocument`, `Branch.render_ofDocument`, `Filter.render_load`: what is read from
  a document is written as that document;
* `Filter.render_embed_empty`: so is a document that is embedded in an empty filter;
* `render_runOn_of_compact`: the same for steps on queries of every kind.
-/

namespace DocQuery

/-! ### Lists are written as lists -/

theorem Clause.render_all {ds : List Document} (hl : 2 ≤ ds.length) :
    (Clause.all ds).render = Document.join .all ds := by
  match ds, hl with
  | _ :: _ :: _, _ => rfl

theorem Branch.render_eq_join {b : Branch} (hl : 2 ≤ b.length) :
    b.render = Document.join .all (b.map Clause.render) := by
  match b, hl with
  | c :: e :: b, _ => exact render_cons_cons c e b

theorem Filter.render_eq_join {bs : List Branch} (hl : 2 ≤ bs.length) :
    Filter.render ⟨bs⟩ = Document.join .any (bs.map Branch.render) := by
  match bs, hl with
  | b :: c :: bs, _ => exact render_cons_cons b c bs

/-! ### What is read is written again -/

/-- A clause that is read from a compact document is written as that document. -/
theorem Clause.render_ofDocument {d : Document} (h : Document.Compact d) :
    (Clause.ofDocument d).render = d := by
  rw [Clause.ofDocument, Document.unwrap_of_isCollapsed h.isCollapsed]
  split
  · rename_i ds ho
    obtain ⟨hl, hds⟩ := Document.compact_operands h.isCollapsed ho
    rw [Document.map_unwrap_of_compact hds, render_all hl]
    exact (Document.operands?_eq_some_iff.1 ho).symm
  · rfl

/-- A branch that is read from a compact document is written as that document. -/
theorem Branch.render_ofDocument {d : Document} (h : Document.Compact d) :
    Branch.render (Branch.ofDocument d) = d := by
  rw [Branch.ofDocument]
  split
  · rename_i ds ho
    obtain ⟨hl, hds⟩ := Document.compact_operands h.isCollapsed ho
    have hr : (ds.map Clause.ofDocument).map Clause.render = ds := by
      rw [List.map_map]
      exact Document.map_eq_self (fun e he => Clause.render_ofDocument (hds e he))
    rw [render_eq_join (by simpa using hl), hr]
    exact (Document.operands?_eq_some_iff.1 ho).symm
  · rw [render_singleton, Clause.render_ofDocument h,
      Document.unwrap_of_isCollapsed h.isCollapsed]

namespace Filter

/-- A filter that is loaded from a compact document is written as that document. -/
theorem render_load {d : Document} (h : Document.Compact d) : (load d).render = d := by
  cases ho : Document.operands? .any d with
  | some ds =>
    obtain ⟨hl, hds⟩ := Document.compact_operands h.isCollapsed ho
    -- none of the alternatives is empty, so each of them gets its branch
    have hf : ds.filter (fun e => !e.isEmpty) = ds :=
      List.filter_eq_self.2 (fun e he => by simpa using (hds e he).ne_nil)
    have hr : (ds.map Branch.ofDocument).map Branch.render = ds := by
      rw [List.map_map]
      exact Document.map_eq_self (fun e he => Branch.render_ofDocument (hds e he))
    rw [load, ho, Option.getD_some, hf, render_eq_join (by simpa using hl), hr]
    exact (Document.operands?_eq_some_iff.1 ho).symm
  | none =>
    have hf : [d].filter (fun e => !e.isEmpty) = [d] := by
      simpa using h.ne_nil
    rw [load, ho, Option.getD_none, hf]
    exact Branch.render_ofDocument h

/-- A compact document that is embedded in an empty filter is written as that document. -/
theorem render_embed_empty (chain : Chain) {d : Document} (h : Document.Compact d) :
    (embed {} chain d).render = d := by
  have hb : (embed {} chain d).branches = [[Clause.ofDocument d]] := by
    unfold embed
    rw [Document.unwrap_of_isCollapsed h.isCollapsed]
    cases chain <;> simp [h.ne_nil, amendLast]
  have hf : embed {} chain d = ⟨[[Clause.ofDocument d]]⟩ := by
    rw [← hb]
  rw [hf, render_singleton, Branch.render_singleton, Clause.render_ofDocument h,
    Document.unwrap_of_isCollapsed h.isCollapsed]

end Filter

/-- **Compact documents are read and written without a change**, on queries of every kind: a filter
that is loaded from one, and an empty filter in which one is embedded, in whatever form it is given,
have it for their document. Loading such a filter again keeps its document, and a loaded filter does
not change at all. -/
theorem render_runOn_of_compact {κ : Type} [Directives κ] {d : Document}
    (hd : Document.Compact d) :
    (∀ (q : Query κ) (t : Settings),
      let r := (QueryStep.filter (.load d)).runOn q t
      r.state.filter.render = d ∧
        ((QueryStep.filter .reload).runOn r.state r.settings).state = r.state) ∧
      (∀ (chain : Chain) (input : Input QueryStep) (o : Options) (k : κ) (t : Settings),
        (FilterStep.resolve input t).state = .ok d →
          ((QueryStep.filter (.clause chain input)).runOn ⟨{}, o, k⟩ t).state.filter.render = d) ∧
      ∀ (q : Query κ) (t : Settings), q.filter.render = d →
        ((QueryStep.filter .reload).runOn q t).state.filter.render = d := by
  have hload : ∀ (q : Query κ) (t : Settings),
      ((QueryStep.filter (.load d)).runOn q t).state = { q with filter := Filter.load d } :=
    fun q t => rfl
  have hreload : ∀ (q : Query κ) (t : Settings), q.filter.render = d →
      ((QueryStep.filter .reload).runOn q t).state = { q with filter := Filter.load d } := by
    rintro q t rfl
    rfl
  refine ⟨fun q t => ?_, fun chain input o k t hi => ?_, fun q t hq => ?_⟩
  · intro r
    have hr : r.state = { q with filter := Filter.load d } := hload q t
    have hd' : r.state.filter.render = d := by
      rw [hr]
      exact Filter.render_load hd
    refine ⟨hd', ?_⟩
    rw [hreload _ _ hd', hr]
  · rw [filter_runOn, QueryStep.effect, FilterStep.effect, ← FilterStep.resolve_state input t, hi]
    exact Filter.render_embed_empty chain hd
  · rw [hreload q t hq]
    exact Filter.render_load hd

/-- Alternatives among which there are alternatives, a list, and fields beside alternatives, given
by steps that build them. -/
theorem render_runOn_of_compact_alternatives :
    let both (x y : Document) : Value := .array [.document x, .document y]
    let d : Document := [("$or", .array [
      .document [("$or", both [("a", .null)] [("b", .null)])],
      .document [("$and", both [("a", .null)] [("$or", both [("a", .null)] [("b", .null)])])],
      .document [("a", .null), ("$or", both [("b", .null)] [("c", .null)])]])]
    let input : Input QueryStep := .steps [.filter (.load d), .filter (.clause .and (.steps []))]
    let q : Where := ⟨Filter.embed {} .and d, {}, ()⟩
    let r := (QueryStep.filter (.load d)).runOn q {}
    Document.Compact d ∧ (FilterStep.resolve input {}).state = .ok d ∧ q.filter.render = d ∧
      (r.state.filter.render = d ∧
        ((QueryStep.filter .reload).runOn r.state r.settings).state = r.state) ∧
      ((QueryStep.filter (.clause .or input)).runOn
        (⟨{}, {}, ()⟩ : Where) {}).state.filter.render = d ∧
      ((QueryStep.filter .reload).runOn q {}).state.filter.render = d := by
  intro both d input q r
  have hd : Document.Compact d := ⟨by decide, by decide⟩
  have hi : (FilterStep.resolve input {}).state = .ok d := rfl
  have hq : q.filter.render = d := by decide
  obtain ⟨hload, hembed, hreload⟩ := render_runOn_of_compact (κ := Unit) hd
  exact ⟨hd, hi, hq, hload q {}, hembed .or input {} () {} hi, hreload q {} hq⟩

end DocQuery
