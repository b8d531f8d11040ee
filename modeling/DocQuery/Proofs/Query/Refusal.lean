import DocQuery.Query.Find
import DocQuery.Query.Update
import DocQuery.Query.Remove

/-!
# Refused steps

A step that is refused leaves everything as it was. So a run can be repeated without the steps that
were refused in it, also without those in sub-filters, and nothing changes but that their answers
are missing. Which steps these are is told by the answers of the run: a `Pruning` says for one sort
of steps which answers are refusals, and what is left of a step and of its answer without the
refused steps that they hold.

* `Pruning.runList_steps`: if no step leaves a trace when it is refused, a run of the accepted steps
  ends as the whole run does;
* `FilterStep.leavesNoTrace`, `QueryStep.leavesNoTrace`: the steps that every query takes leave no
  trace;
* `refused_steps_leave_no_trace`: runs of the steps of each kind of query.
-/

namespace DocQuery

/-- How refused steps are found by their answers, and what is left without them. -/
structure Pruning (τ ρ : Type) where
  /-- Whether an answer is a refusal. -/
  isRefused : ρ → Bool
  /-- A step without those that were refused in it, by its answer. -/
  step : τ → ρ → τ
  /-- An answer without the refusals in it. -/
  answer : ρ → ρ

namespace Pruning

variable {τ σ ρ : Type} (p : Pruning τ ρ)

/-- The steps that were not refused, by the answers of all. -/
def steps : List τ → List ρ → List τ
  | s :: ss, r :: rs => if p.isRefused r then steps ss rs else p.step s r :: steps ss rs
  | _, _ => []

/-- The answers that are no refusals. -/
def answers : List ρ → List ρ
  | [] => []
  | r :: rs => if p.isRefused r then answers rs else p.answer r :: answers rs

/-- Whatever the state is, a step leaves it as it was when it is refused, and does without the
steps that were refused in it otherwise. -/
structure LeavesNoTrace (run : τ → σ → Settings → Outcome σ ρ) (s : τ) : Prop where
  refused : ∀ x t, p.isRefused (run s x t).report = true →
    (run s x t).state = x ∧ (run s x t).settings = t
  accepted : ∀ x t, p.isRefused (run s x t).report = false →
    run (p.step s (run s x t).report) x t
      = ⟨(run s x t).state, (run s x t).settings, p.answer (run s x t).report⟩

/-- Runs end as they do without the steps that were refused in them, and the accepted steps are
answered as they were. -/
def IgnoresRefused (run : τ → σ → Settings → Outcome σ ρ) : Prop :=
  ∀ (ss : List τ) (x : σ) (t : Settings),
    let r := runList run ss x t
    runList run (p.steps ss r.report) x t = ⟨r.state, r.settings, p.answers r.report⟩

variable {p} {run : τ → σ → Settings → Outcome σ ρ}

/-- A step that is never refused and holds no steps. -/
theorem LeavesNoTrace.of_plain {s : τ}
    (h : ∀ x t, p.isRefused (run s x t).report = false ∧
      p.step s (run s x t).report = s ∧ p.answer (run s x t).report = (run s x t).report) :
    p.LeavesNoTrace run s where
  refused x t hr := by
    rw [(h x t).1] at hr
    cases hr
  accepted x t _ := by
    rw [(h x t).2.1, (h x t).2.2]

/-- A step that is always refused, and leaves everything as it was. -/
theorem LeavesNoTrace.of_refused {s : τ}
    (h : ∀ x t, p.isRefused (run s x t).report = true ∧ (run s x t).state = x ∧
      (run s x t).settings = t) :
    p.LeavesNoTrace run s where
  refused x t _ := (h x t).2
  accepted x t hr := by
    rw [(h x t).1] at hr
    cases hr

/-- If no step leaves a trace when it is refused, a run of the accepted steps ends as the whole
run does. -/
theorem runList_steps {ss : List τ} (h : ∀ s ∈ ss, p.LeavesNoTrace run s) (x : σ) (t : Settings) :
    runList run (p.steps ss (runList run ss x t).report) x t
      = ⟨(runList run ss x t).state, (runList run ss x t).settings,
        p.answers (runList run ss x t).report⟩ := by
  induction ss generalizing x t with
  | nil => rfl
  | cons s ss ih =>
    rw [List.forall_mem_cons] at h
    obtain ⟨hs, hss⟩ := h
    have ih := ih hss
    rw [runList]
    dsimp only
    rw [steps, answers]
    cases hr : p.isRefused (run s x t).report with
    | true =>
      obtain ⟨hx, ht⟩ := hs.refused x t hr
      rw [if_pos rfl, if_pos rfl, hx, ht]
      exact ih x t
    | false =>
      rw [if_neg Bool.false_ne_true, if_neg Bool.false_ne_true, runList, hs.accepted x t hr]
      dsimp only
      rw [ih]

end Pruning

/-! ### Steps that every query takes -/

/-- Whether an answer is a refusal. -/
def Report.isRefused (r : Report) : Bool :=
  match r.outcome with
  | .ok _ => false
  | .error _ => true

mutual

/-- An answer without the refusals in it. -/
def Report.prune : Report → Report
  | ⟨outcome, log, sub⟩ => ⟨outcome, log, Report.pruneAll sub⟩

/-- The answers that are no refusals. -/
def Report.pruneAll : List Report → List Report
  | [] => []
  | r :: rs => if r.isRefused then Report.pruneAll rs else r.prune :: Report.pruneAll rs

end

mutual

/-- A filter step without the steps that were refused in it, by its answer. -/
def FilterStep.prune (s : FilterStep) (r : Report) : FilterStep :=
  match s with
  | .clause chain input => .clause chain (FilterStep.pruneInput input r.sub)
  | .exclusion chain e input => .exclusion chain e (FilterStep.pruneInput input r.sub)
  | s => s

/-- A sub-filter without the steps that were refused in it. -/
def FilterStep.pruneInput (input : Input QueryStep) (rs : List Report) : Input QueryStep :=
  match input with
  | .document d => .document d
  | .value v => .value v
  | .steps ss => .steps (QueryStep.pruneAll ss rs)

/-- A step without the steps that were refused in it, by its answer. -/
def QueryStep.prune (s : QueryStep) (r : Report) : QueryStep :=
  match s with
  | .filter s => .filter (FilterStep.prune s r)
  | .option s => .option s

/-- The steps that were not refused, by the answers of all. -/
def QueryStep.pruneAll (ss : List QueryStep) (rs : List Report) : List QueryStep :=
  match ss, rs with
  | s :: ss, r :: rs =>
    if r.isRefused then QueryStep.pruneAll ss rs
    else QueryStep.prune s r :: QueryStep.pruneAll ss rs
  | _, _ => []

end

/-- How filter steps are pruned. -/
def FilterStep.pruning : Pruning FilterStep Report where
  isRefused := Report.isRefused
  step := FilterStep.prune
  answer := Report.prune

/-- How the steps that every query takes are pruned. -/
def QueryStep.pruning : Pruning QueryStep Report where
  isRefused := Report.isRefused
  step := QueryStep.prune
  answer := Report.prune

/-- There is nothing to leave out of an answer that holds no answers. -/
@[simp] theorem Report.prune_leaf (outcome : Except Error View) (log : List Event) :
    Report.prune ⟨outcome, log, []⟩ = ⟨outcome, log, []⟩ := by
  rw [Report.prune, Report.pruneAll]

theorem Report.pruneAll_eq_answers (rs : List Report) :
    Report.pruneAll rs = QueryStep.pruning.answers rs := by
  induction rs with
  | nil => rw [Report.pruneAll]; rfl
  | cons r rs ih => rw [Report.pruneAll, Pruning.answers, ih]; rfl

theorem QueryStep.pruneAll_eq_steps (ss : List QueryStep) (rs : List Report) :
    QueryStep.pruneAll ss rs = QueryStep.pruning.steps ss rs := by
  induction ss generalizing rs with
  | nil => cases rs <;> simp [QueryStep.pruneAll, Pruning.steps]
  | cons s ss ih =>
    cases rs with
    | nil => simp [QueryStep.pruneAll, Pruning.steps]
    | cons r rs => rw [QueryStep.pruneAll, Pruning.steps, ih]; rfl

/-- The steps of a sub-filter run as they do at the top of a plain query. -/
theorem QueryStep.runAll_eq_runList_runOn (ss : List QueryStep) (q : Where) (t : Settings) :
    QueryStep.runAll ss q t = runList QueryStep.runOn ss q t := by
  rw [QueryStep.runAll_eq_runList]
  congr 1
  funext s q t
  exact (QueryStep.runOn_eq_run s q t).symm

/-- A refused sub-filter leaves the settings as they were. -/
theorem FilterStep.settings_resolve_of_error {i : Input QueryStep} {t : Settings} {e : Error}
    (h : (FilterStep.resolve i t).state = .error e) : (FilterStep.resolve i t).settings = t := by
  cases i with
  | document d => rw [FilterStep.resolve]
  | value v => rw [FilterStep.resolve]
  | steps ss =>
    rw [FilterStep.resolve] at h
    cases h

/-- A step that joins a sub-filter leaves no trace if the sub-filter has the same document without
the steps that were refused in it. -/
theorem FilterStep.leavesNoTrace_of_resolve (mk : Input QueryStep → FilterStep)
    (join : Filter → Document → Filter × List Event)
    (hrun : ∀ i f t, (mk i).run f t =
      match (FilterStep.resolve i t).state with
      | .ok d => (join f d).1.answer (FilterStep.resolve i t).settings (join f d).2
          (FilterStep.resolve i t).report
      | .error e => ⟨f, (FilterStep.resolve i t).settings, .refused e⟩)
    (hprune : ∀ i r, (mk i).prune r = mk (FilterStep.pruneInput i r.sub)) {i : Input QueryStep}
    (hi : ∀ t, FilterStep.resolve (FilterStep.pruneInput i (FilterStep.resolve i t).report) t
      = ⟨(FilterStep.resolve i t).state, (FilterStep.resolve i t).settings,
        Report.pruneAll (FilterStep.resolve i t).report⟩) :
    FilterStep.pruning.LeavesNoTrace FilterStep.run (mk i) where
  refused f t hr := by
    rw [hrun] at hr ⊢
    cases h : (FilterStep.resolve i t).state with
    | ok d =>
      rw [h] at hr
      cases hr
    | error e => exact ⟨rfl, FilterStep.settings_resolve_of_error h⟩
  accepted f t hr := by
    rw [hrun] at hr ⊢
    cases h : (FilterStep.resolve i t).state with
    | ok d =>
      change ((mk i).prune _).run f t = _
      rw [hprune, hrun]
      dsimp only [Filter.answer]
      rw [hi, h]
      simp [FilterStep.pruning, Report.prune]
    | error e =>
      rw [h] at hr
      cases hr

/-- An option step holds no steps, and is refused before it changes anything. -/
theorem OptionStep.leavesNoTrace {κ : Type} [Directives κ] (s : OptionStep) :
    QueryStep.pruning.LeavesNoTrace (QueryStep.runOn (κ := κ)) (.option s) := by
  cases s with
  | patch d =>
    cases h : OptionsPatch.read d with
    | ok p =>
      apply Pruning.LeavesNoTrace.of_plain
      simp [QueryStep.runOn, OptionStep.run, h, QueryStep.pruning, QueryStep.prune,
        Query.answerOptions, Report.isRefused]
    | error e =>
      apply Pruning.LeavesNoTrace.of_refused
      simp [QueryStep.runOn, OptionStep.run, h, QueryStep.pruning, Report.refused,
        Report.isRefused]
  | _ =>
    apply Pruning.LeavesNoTrace.of_plain
    simp [QueryStep.runOn, OptionStep.run, QueryStep.pruning, QueryStep.prune,
      Query.answerOptions, Report.isRefused]

mutual

/-- A filter step leaves no trace. -/
theorem FilterStep.leavesNoTrace (s : FilterStep) :
    FilterStep.pruning.LeavesNoTrace FilterStep.run s := by
  cases s with
  | condition chain field c =>
    cases h : c.statement with
    | ok v =>
      apply Pruning.LeavesNoTrace.of_plain
      simp [FilterStep.run, h, FilterStep.pruning, FilterStep.prune, Filter.answer,
        Report.isRefused]
    | error e =>
      apply Pruning.LeavesNoTrace.of_refused
      simp [FilterStep.run, h, FilterStep.pruning, Report.refused, Report.isRefused]
  | clause chain i =>
    refine FilterStep.leavesNoTrace_of_resolve (.clause chain)
      (fun f d => (f.embed chain d, [])) (fun i f t => ?_) (fun i r => ?_)
      (FilterStep.resolve_pruneInput i)
    · cases h : (FilterStep.resolve i t).state <;> simp only [FilterStep.run, h]
    · rw [FilterStep.prune]
  | exclusion chain e i =>
    refine FilterStep.leavesNoTrace_of_resolve (.exclusion chain e)
      (fun f d => f.exclude chain e d) (fun i f t => ?_) (fun i r => ?_)
      (FilterStep.resolve_pruneInput i)
    · cases h : (FilterStep.resolve i t).state <;> simp only [FilterStep.run, h]
    · rw [FilterStep.prune]
  | _ =>
    apply Pruning.LeavesNoTrace.of_plain
    simp [FilterStep.run, FilterStep.pruning, FilterStep.prune, Filter.answer, Report.isRefused]

/-- A sub-filter has the same document without the steps that were refused in it. -/
theorem FilterStep.resolve_pruneInput (i : Input QueryStep) (t : Settings) :
    FilterStep.resolve (FilterStep.pruneInput i (FilterStep.resolve i t).report) t
      = ⟨(FilterStep.resolve i t).state, (FilterStep.resolve i t).settings,
        Report.pruneAll (FilterStep.resolve i t).report⟩ := by
  cases i with
  | document d => simp [FilterStep.pruneInput, FilterStep.resolve, Report.pruneAll]
  | value v => simp [FilterStep.pruneInput, FilterStep.resolve, Report.pruneAll]
  | steps ss =>
    simp only [FilterStep.pruneInput, FilterStep.resolve, QueryStep.runAll_eq_runList_runOn,
      QueryStep.pruneAll_eq_steps, Report.pruneAll_eq_answers]
    rw [Pruning.runList_steps (QueryStep.leavesNoTrace_all ss)]

/-- A step that every query takes leaves no trace. -/
theorem QueryStep.leavesNoTrace {κ : Type} [Directives κ] (s : QueryStep) :
    QueryStep.pruning.LeavesNoTrace (QueryStep.runOn (κ := κ)) s := by
  cases s with
  | filter s =>
    have h := FilterStep.leavesNoTrace s
    refine ⟨fun q t hr => ?_, fun q t hr => ?_⟩
    · obtain ⟨hf, ht⟩ := h.refused q.filter t hr
      refine ⟨?_, ht⟩
      rw [QueryStep.runOn, hf]
    · have ha := h.accepted q.filter t hr
      simp only [FilterStep.pruning] at ha
      simp only [QueryStep.runOn, QueryStep.pruning, QueryStep.prune, ha]
  | option s => exact OptionStep.leavesNoTrace s

/-- Steps that every query takes leave no trace. -/
theorem QueryStep.leavesNoTrace_all {κ : Type} [Directives κ] (ss : List QueryStep) :
    ∀ s ∈ ss, QueryStep.pruning.LeavesNoTrace (QueryStep.runOn (κ := κ)) s := by
  cases ss with
  | nil => exact fun s hs => absurd hs List.not_mem_nil
  | cons s ss =>
    exact List.forall_mem_cons.2 ⟨QueryStep.leavesNoTrace s, QueryStep.leavesNoTrace_all ss⟩

end

/-! ### Steps of one kind of query -/

section Shared

variable {τ ρ κ : Type} [Directives κ] {p : Pruning τ ρ}
  {run : τ → Query κ → Settings → Outcome (Query κ) ρ}

/-- A kind of query takes the steps that every query takes. They leave no trace there if they run
and are pruned as everywhere. -/
theorem Pruning.leavesNoTrace_shared {wrap : QueryStep → τ} {wrapAnswer : Report → ρ}
    (hrun : ∀ s q t, run (wrap s) q t
      = ⟨(s.runOn q t).state, (s.runOn q t).settings, wrapAnswer (s.runOn q t).report⟩)
    (hrefused : ∀ r, p.isRefused (wrapAnswer r) = r.isRefused)
    (hstep : ∀ s r, p.step (wrap s) (wrapAnswer r) = wrap (s.prune r))
    (hanswer : ∀ r, p.answer (wrapAnswer r) = wrapAnswer r.prune) (s : QueryStep) :
    p.LeavesNoTrace run (wrap s) where
  refused q t hr := by
    rw [hrun, hrefused] at hr
    rw [hrun]
    exact (QueryStep.leavesNoTrace s).refused q t hr
  accepted q t hr := by
    rw [hrun, hrefused] at hr
    have ha := (QueryStep.leavesNoTrace s).accepted q t hr
    simp only [QueryStep.pruning] at ha
    rw [hrun s, hstep, hrun, ha, hanswer]

end Shared

/-- How the steps of a find query are pruned. -/
def FindStep.pruning : Pruning FindStep FindAnswer where
  isRefused
    | .shared r => r.isRefused
    | _ => false
  step
    | .shared s, .shared r => .shared (s.prune r)
    | s, _ => s
  answer
    | .shared r => .shared r.prune
    | a => a

/-- How the steps of an update query are pruned. -/
def UpdateStep.pruning : Pruning UpdateStep UpdateAnswer where
  isRefused
    | .shared r => r.isRefused
    | _ => false
  step
    | .shared s, .shared r => .shared (s.prune r)
    | s, _ => s
  answer
    | .shared r => .shared r.prune
    | a => a

/-- How the steps of a remove query are pruned. -/
def RemoveStep.pruning : Pruning RemoveStep RemoveAnswer where
  isRefused
    | .shared r => r.isRefused
    | _ => false
  step
    | .shared s, .shared r => .shared (s.prune r)
    | s, _ => s
  answer
    | .shared r => .shared r.prune
    | a => a

theorem FindStep.leavesNoTrace (s : FindStep) : FindStep.pruning.LeavesNoTrace FindStep.run s := by
  cases s with
  | shared s =>
    exact Pruning.leavesNoTrace_shared (fun _ _ _ => rfl) (fun _ => rfl) (fun _ _ => rfl)
      (fun _ => rfl) s
  | _ => exact Pruning.LeavesNoTrace.of_plain (fun _ _ => ⟨rfl, rfl, rfl⟩)

theorem UpdateStep.leavesNoTrace (s : UpdateStep) :
    UpdateStep.pruning.LeavesNoTrace UpdateStep.run s := by
  cases s with
  | shared s =>
    exact Pruning.leavesNoTrace_shared (fun _ _ _ => rfl) (fun _ => rfl) (fun _ _ => rfl)
      (fun _ => rfl) s
  | _ => exact Pruning.LeavesNoTrace.of_plain (fun _ _ => ⟨rfl, rfl, rfl⟩)

theorem RemoveStep.leavesNoTrace (s : RemoveStep) :
    RemoveStep.pruning.LeavesNoTrace RemoveStep.run s := by
  cases s with
  | shared s =>
    exact Pruning.leavesNoTrace_shared (fun _ _ _ => rfl) (fun _ => rfl) (fun _ _ => rfl)
      (fun _ => rfl) s
  | _ => exact Pruning.LeavesNoTrace.of_plain (fun _ _ => ⟨rfl, rfl, rfl⟩)

/-- **Refused steps leave no trace.** A run of steps on a query of any kind ends as it does without
the steps that were refused in it, at the top and in sub-filters: with the same filter, options and
directives, the same settings, and the same answers of the other steps. -/
theorem refused_steps_leave_no_trace :
    QueryStep.pruning.IgnoresRefused (QueryStep.runOn (κ := Unit)) ∧
      FindStep.pruning.IgnoresRefused FindStep.run ∧
      UpdateStep.pruning.IgnoresRefused UpdateStep.run ∧
      RemoveStep.pruning.IgnoresRefused RemoveStep.run :=
  ⟨fun _ => Pruning.runList_steps (fun s _ => s.leavesNoTrace),
    fun _ => Pruning.runList_steps (fun s _ => s.leavesNoTrace),
    fun _ => Pruning.runList_steps (fun s _ => s.leavesNoTrace),
    fun _ => Pruning.runList_steps (fun s _ => s.leavesNoTrace)⟩

/-- An unknown type, and a value that is no document in a sub-filter. -/
example :
    let b : QueryStep := .filter (.condition .and "b" .present)
    let ss : List QueryStep := [
      .filter (.condition .and "a" (.typeNamed "text")),
      .filter (.clause .or (.steps [b, .filter (.clause .and (.value .null))]))]
    QueryStep.pruning.steps ss (runList QueryStep.runOn ss (⟨{}, {}, ()⟩ : Where) {}).report
      = [.filter (.clause .or (.steps [b]))] := rfl

end DocQuery
