import DocQuery.Proofs.Query.Effect
import DocQuery.Proofs.Stage.HiddenFields

/-!
# Pipelines and the calls that build them

A pipeline is made of the stages that the last replacement gave and one stage for every call behind
it, in the order of the calls. `PipelineStep.Puts` says which stage a call puts; it depends on
nothing but the call. A call whose body is given as a value that is no document is refused and puts
no stage.

* `Input.document?`: the body that an input is resolved to, for stages of all sorts;
* `PipelineStep.stage?`, `PipelineStep.state_run`: the stage of a call, and what becomes of others;
* `PipelineStep.SinceReplacement`: the stages of the last replacement, and the calls behind it;
* `pipeline_follows_calls`: pipelines, and the bodies of their group and project stages.
-/

namespace DocQuery

/-! ### Inputs -/

namespace Input

variable {σ : Type}

/-- Whether an input is a value that is no document. -/
def isRefused : Input σ → Bool
  | .value (.document _) => false
  | .value _ => true
  | _ => false

/-- The body that an input is resolved to, if it is not refused. -/
def document? (build : List σ → Document) : Input σ → Option Document
  | .document d => some d
  | .value v => v.asDocument.toOption
  | .steps ss => some (build ss)

theorem document?_of_isRefused (build : List σ → Document) {input : Input σ}
    (h : input.isRefused = true) : input.document? build = none := by
  cases input with
  | document d => cases h
  | value v =>
    cases v with
    | document d => cases h
    | _ => rfl
  | steps ss => cases h

/-- An input that is not refused is resolved to the body that it stands for. -/
theorem exists_document? {Builds : List σ → Document → Prop} {build : List σ → Document}
    (hbuild : ∀ ss, Builds ss (build ss)) {input : Input σ} (h : input.isRefused = false) :
    ∃ d, input.document? build = some d ∧ input.StandsFor Builds d := by
  cases input with
  | document d => exact ⟨d, rfl, .document d⟩
  | value v =>
    cases v with
    | document d => exact ⟨d, rfl, .value d⟩
    | _ => cases h
  | steps ss => exact ⟨_, rfl, .steps (hbuild ss)⟩

theorem toOption_stageBody [StageStep σ] (input : Input σ) :
    input.stageBody.1.toOption
      = input.document? (fun ss => DocQuery.stageBody (ss.map StageStep.entry)) := by
  cases input <;> rfl

end Input

/-- The document of the filter that steps build on a fresh query. -/
def QueryStep.filterDocument (ss : List QueryStep) : Document := (QueryStep.effects ss {}).render

theorem QueryStep.builds_filterDocument (ss : List QueryStep) : Builds ss (filterDocument ss) :=
  QueryStep.builds_iff.2 rfl

theorem Input.toOption_resolve (input : Input QueryStep) (t : Settings) :
    (FilterStep.resolve input t).state.toOption = input.document? QueryStep.filterDocument := by
  rw [FilterStep.resolve_state]
  cases input <;> rw [FilterStep.compile] <;> rfl

/-! ### Stages -/

namespace PipelineStep

/-- The stage that a call puts. -/
inductive Puts : PipelineStep → Document → Prop
  | project {input : Input ProjectionStep} {d : Document}
    (h : input.StandsFor (IsBody ProjectionStep.Puts) d) :
    Puts (.project input) [("$project", .document d)]
  | group {input : Input GroupStep} {d : Document} (h : input.StandsFor (IsBody GroupStep.Puts) d) :
    Puts (.group input) [("$group", .document d)]
  | filter {input : Input QueryStep} {d : Document} (h : input.StandsFor QueryStep.Builds d) :
    Puts (.filter input) [("$match", .document d)]
  | unwind {field ref : String} (h : IsReference field ref) :
    Puts (.unwind field) [("$unwind", .string ref)]
  | skip {n : Int64} : Puts (.skip n) [("$skip", .int64 n)]
  | limit {n : Int64} : Puts (.limit n) [("$limit", .int64 n)]
  | pipe {d : Document} : Puts (.pipe d) d

/-- Whether a call is refused. -/
def isRefused : PipelineStep → Bool
  | .project input => input.isRefused
  | .group input => input.isRefused
  | .filter input => input.isRefused
  | _ => false

/-- A stage with the body that an input is resolved to. -/
def bodyStage? {σ : Type} (name : String) (build : List σ → Document) (input : Input σ) :
    Option Document :=
  (input.document? build).map (fun d => stage name (.document d))

/-- The stage of a call, if it puts one. -/
def stage? : PipelineStep → Option Document
  | .project input =>
    bodyStage? "$project" (fun ss => stageBody (ss.map ProjectionStep.entry)) input
  | .group input => bodyStage? "$group" (fun ss => stageBody (ss.map GroupStep.entry)) input
  | .filter input => bodyStage? "$match" QueryStep.filterDocument input
  | .unwind field => some (stage "$unwind" (.string (fieldReference field)))
  | .skip n => some (stage "$skip" (.int64 n))
  | .limit n => some (stage "$limit" (.int64 n))
  | .pipe d => some d
  | .replace _ => none

theorem state_append {σ : Type} {build : List σ → Document} {input : Input σ}
    {body : Except Error Document} (h : body.toOption = input.document? build) (name : String)
    (sub : StageReports) (stages : List Document) (t : Settings) :
    (append name body sub stages t).state = stages ++ (bodyStage? name build input).toList := by
  rw [bodyStage?, ← h]
  cases body with
  | ok d => rfl
  | error e => exact (List.append_nil stages).symm

/-- A call that does not replace all stages puts its own one behind them. -/
theorem state_run {s : PipelineStep} (h : s.replacesAll = false) (stages : List Document)
    (t : Settings) : (s.run stages t).state = stages ++ s.stage?.toList := by
  cases s with
  | project input => exact state_append input.toOption_stageBody _ _ _ _
  | group input => exact state_append input.toOption_stageBody _ _ _ _
  | filter input => exact state_append (input.toOption_resolve t) _ _ _ _
  | replace all => cases h
  | _ => rfl

/-- Calls that do not replace all stages put their own ones behind them, in order. -/
theorem state_runList {ss : List PipelineStep} (h : ∀ s ∈ ss, s.replacesAll = false)
    (stages : List Document) (t : Settings) :
    (runList run ss stages t).state = stages ++ ss.filterMap stage? := by
  induction ss generalizing stages t with
  | nil => rw [List.filterMap_nil, List.append_nil]; rfl
  | cons s ss ih =>
    rw [List.forall_mem_cons] at h
    have hrun : (runList run (s :: ss) stages t).state
        = (runList run ss (s.run stages t).state (s.run stages t).settings).state := rfl
    rw [hrun, ih h.2, state_run h.1, List.append_assoc]
    cases hs : s.stage? with
    | none => rw [List.filterMap_cons_none hs]; rfl
    | some d => rw [List.filterMap_cons_some hs]; rfl

/-- A call that is not refused and does not replace all stages puts one. -/
theorem exists_stage? {s : PipelineStep} (hreplace : s.replacesAll = false)
    (hrefused : s.isRefused = false) : ∃ d, s.stage? = some d ∧ s.Puts d := by
  cases s with
  | project input =>
    obtain ⟨d, hd, hstands⟩ := Input.exists_document? isBody_project hrefused
    exact ⟨_, congrArg (Option.map _) hd, .project hstands⟩
  | group input =>
    obtain ⟨d, hd, hstands⟩ := Input.exists_document? isBody_group hrefused
    exact ⟨_, congrArg (Option.map _) hd, .group hstands⟩
  | filter input =>
    obtain ⟨d, hd, hstands⟩ := Input.exists_document? QueryStep.builds_filterDocument hrefused
    exact ⟨_, congrArg (Option.map _) hd, .filter hstands⟩
  | unwind field => exact ⟨_, rfl, .unwind (isReference_iff.2 rfl)⟩
  | skip n => exact ⟨_, rfl, .skip⟩
  | limit n => exact ⟨_, rfl, .limit⟩
  | pipe d => exact ⟨d, rfl, .pipe⟩
  | replace all => cases hreplace

theorem stage?_of_isRefused {s : PipelineStep} (h : s.isRefused = true) : s.stage? = none := by
  cases s with
  | project input => exact congrArg (Option.map _) (Input.document?_of_isRefused _ h)
  | group input => exact congrArg (Option.map _) (Input.document?_of_isRefused _ h)
  | filter input => exact congrArg (Option.map _) (Input.document?_of_isRefused _ h)
  | _ => cases h

/-- Calls that do not replace all stages put one each, if they are not refused. -/
theorem forall₂_puts {ss : List PipelineStep} (h : ∀ s ∈ ss, s.replacesAll = false) :
    let calls := ss.filter (fun s => !s.isRefused)
    calls.map stage? = (ss.filterMap stage?).map some ∧
      List.Forall₂ Puts calls (ss.filterMap stage?) := by
  intro calls
  induction ss with
  | nil => exact ⟨rfl, .nil⟩
  | cons s ss ih =>
    rw [List.forall_mem_cons] at h
    obtain ⟨hmap, hputs⟩ := ih h.2
    cases hrefused : s.isRefused with
    | true =>
      have hcalls : calls = ss.filter (fun s => !s.isRefused) :=
        List.filter_cons_of_neg (by simp [hrefused])
      rw [hcalls, List.filterMap_cons_none (stage?_of_isRefused hrefused)]
      exact ⟨hmap, hputs⟩
    | false =>
      have hcalls : calls = s :: ss.filter (fun s => !s.isRefused) :=
        List.filter_cons_of_pos (by simp [hrefused])
      obtain ⟨d, hd, hput⟩ := exists_stage? h.1 hrefused
      rw [hcalls, List.filterMap_cons_some hd, List.map_cons, List.map_cons, hd, hmap]
      exact ⟨rfl, .cons hput hputs⟩

/-! ### Replacements -/

/-- The stages that the last replacement among some calls gives, and the calls behind it; no stages
and all calls, if there is no replacement. -/
inductive SinceReplacement : List PipelineStep → List Document → List PipelineStep → Prop
  | never {ss : List PipelineStep} (h : ∀ s ∈ ss, s.replacesAll = false) : SinceReplacement ss [] ss
  | last {before later : List PipelineStep} {base : List Document}
    (h : ∀ s ∈ later, s.replacesAll = false) :
    SinceReplacement (before ++ .replace base :: later) base later

theorem exists_sinceReplacement (ss : List PipelineStep) :
    ∃ base later, SinceReplacement ss base later := by
  -- a call in front is the last replacement only if there is none behind it
  induction ss with
  | nil => exact ⟨[], [], .never (by simp)⟩
  | cons s ss ih =>
    obtain ⟨base, later, h⟩ := ih
    cases h with
    | @last before _ _ h => exact ⟨base, later, @SinceReplacement.last (s :: before) _ _ h⟩
    | never h =>
      cases s with
      | replace all => exact ⟨all, ss, @SinceReplacement.last [] _ _ h⟩
      | _ => exact ⟨[], _, .never (List.forall_mem_cons.2 ⟨rfl, h⟩)⟩

theorem SinceReplacement.replacesAll_eq_false {ss later : List PipelineStep} {base : List Document}
    (h : SinceReplacement ss base later) : ∀ s ∈ later, s.replacesAll = false := by
  cases h with
  | never h => exact h
  | last h => exact h

/-- The stages that a run leaves behind are those of the last replacement and those of the calls
behind it. -/
theorem SinceReplacement.state_runList {ss later : List PipelineStep} {base : List Document}
    (h : SinceReplacement ss base later) (t : Settings) :
    (runList run ss [] t).state = base ++ later.filterMap stage? := by
  cases h with
  | never h => exact PipelineStep.state_runList h [] t
  | last h =>
    rw [runList_append]
    exact PipelineStep.state_runList h _ _

end PipelineStep

/-- **Pipelines follow the calls.** A fresh pipeline on which some calls were made is made of the
stages that the last replacement gave and one stage for every call behind it that is not refused, in
the order of the calls. The stage is a function of the call, and is what the call puts. The bodies
that calls build for group and project stages have an entry for every name that is mentioned, in the
order of first mention, each with the value of the last call for its name. -/
theorem pipeline_follows_calls :
    (∀ (ss : List PipelineStep) (t : Settings), ∃ base later stages,
      PipelineStep.SinceReplacement ss base later ∧
      (runList PipelineStep.run ss [] t).state = base ++ stages ∧
      let calls := later.filter (fun s => !s.isRefused)
      calls.map PipelineStep.stage? = stages.map some ∧
        List.Forall₂ PipelineStep.Puts calls stages) ∧
    (∀ ss : List GroupStep, IsBody GroupStep.Puts ss (stageBody (ss.map GroupStep.entry))) ∧
    ∀ ss : List ProjectionStep,
      IsBody ProjectionStep.Puts ss (stageBody (ss.map ProjectionStep.entry)) := by
  refine ⟨?_, isBody_group, isBody_project⟩
  intro ss t
  obtain ⟨base, later, h⟩ := PipelineStep.exists_sinceReplacement ss
  exact ⟨base, later, later.filterMap PipelineStep.stage?, h, h.state_runList t,
    PipelineStep.forall₂_puts h.replacesAll_eq_false⟩

end DocQuery
