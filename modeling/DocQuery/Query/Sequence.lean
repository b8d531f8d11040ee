import DocQuery.Query.Run

/-!
# Runs of steps

Steps of any sort run one after the other, each on what the one before left behind.
`runList_append` splits a run in two, and `runAll_eq_runList` says that the steps of a sub-filter
run in the same way.
-/

namespace DocQuery

/-- Runs steps one after the other and collects what they answer. -/
def runList {τ σ ρ : Type} (run : τ → σ → Settings → Outcome σ ρ) :
    List τ → σ → Settings → Outcome σ (List ρ)
  | [], x, t => ⟨x, t, []⟩
  | s :: ss, x, t =>
    let r := run s x t
    let rest := runList run ss r.state r.settings
    ⟨rest.state, rest.settings, r.report :: rest.report⟩

variable {τ σ ρ : Type} (run : τ → σ → Settings → Outcome σ ρ)

@[simp] theorem runList_nil (x : σ) (t : Settings) : runList run [] x t = ⟨x, t, []⟩ := rfl

/-- A run of two lists of steps is a run of the first and then one of the second. -/
theorem runList_append (ss us : List τ) (x : σ) (t : Settings) :
    runList run (ss ++ us) x t =
      let r := runList run ss x t
      let rest := runList run us r.state r.settings
      ⟨rest.state, rest.settings, r.report ++ rest.report⟩ := by
  induction ss generalizing x t with
  | nil => rfl
  | cons s ss ih => simp [runList, ih]

/-- The steps of a sub-filter run one after the other. -/
theorem QueryStep.runAll_eq_runList (ss : List QueryStep) (q : Where) (t : Settings) :
    QueryStep.runAll ss q t = runList QueryStep.run ss q t := by
  induction ss generalizing q t with
  | nil => rw [QueryStep.runAll]; rfl
  | cons s ss ih => rw [QueryStep.runAll, runList]; simp [ih]

end DocQuery
