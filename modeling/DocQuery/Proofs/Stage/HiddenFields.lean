import DocQuery.Proofs.Query.Reads
import DocQuery.Proofs.Server.Clients
import DocQuery.Proofs.Stage.Bodies
import DocQuery.Server.Collection

/-!
# Hidden fields

Fields are hidden by the steps of a find query and by those of the body of a project stage. Both
mark a hidden field by -1. A server takes 0 for it, and reads every other number as a field to show.
A find query is sent with its markers replaced, a pipeline is sent as it is.

* `ProjectionStep.keepsLast_named`: the body of a project stage keeps the last call for every name;
* `PipelineStep.isPrefix_runList`: stages stay where they are until the whole list is replaced;
* `hidden_fields_sent`: the markers that are sent with a pipeline and with a find query;
* `pipeline_shows_hidden_field`: the same call hides a field in a read and shows it in a pipeline.
-/

namespace DocQuery

/-! ### Bodies of project stages -/

/-- Calls on the body of a project stage, each with the name that it is about. -/
def ProjectionStep.named (ss : List ProjectionStep) : List (String × ProjectionStep) :=
  ss.map (fun s => (s.entry.1, s))

/-- The body of a project stage keeps the last call for every name. -/
theorem ProjectionStep.keepsLast_named (ss : List ProjectionStep) :
    OrderedMap.KeepsLast (fun s : ProjectionStep => s.entry.2) (ProjectionStep.named ss)
      (stageBody (ss.map ProjectionStep.entry)) :=
  keepsLast_stageBody ProjectionStep.entry ss

/-- Only a call that hides a field puts the marker of a hidden field. -/
theorem ProjectionStep.entry_eq_hidden_iff (s : ProjectionStep) :
    s.entry.2 = .int32 (-1) ↔ s = .exclude s.entry.1 := by
  cases s with
  | compute c => cases c <;> simp [entry, Computation.entry]
  | select field => simp [entry]
  | exclude field => simp [entry]
  | rename field newName => simp [entry, operand]

/-- No call puts the marker that a server takes for a hidden field. -/
theorem ProjectionStep.entry_ne_zero (s : ProjectionStep) : s.entry.2 ≠ .int32 0 := by
  cases s with
  | compute c => cases c <;> simp [entry, Computation.entry]
  | select field => simp [entry]
  | exclude field => simp [entry]
  | rename field newName => simp [entry, operand]

/-- A name has the marker of a hidden field if the last call for it hides it. -/
theorem get?_stageBody_eq_hidden_iff (ss : List ProjectionStep) (field : String) :
    OrderedMap.get? (stageBody (ss.map ProjectionStep.entry)) field = some (.int32 (-1))
      ↔ OrderedMap.last? (ProjectionStep.named ss) field = some (.exclude field) := by
  rw [(ProjectionStep.keepsLast_named ss).get?_eq, Option.map_eq_some_iff]
  constructor
  · rintro ⟨s, hs, hentry⟩
    obtain ⟨s', -, hname⟩ := List.mem_map.1 (OrderedMap.mem_of_last?_eq_some hs)
    rw [Prod.mk.injEq] at hname
    obtain ⟨hfield, rfl⟩ := hname
    rw [hs, s'.entry_eq_hidden_iff.1 hentry, ← hfield]
  · intro hs
    exact ⟨_, hs, rfl⟩

theorem get?_stageBody_ne_zero (ss : List ProjectionStep) (field : String) :
    OrderedMap.get? (stageBody (ss.map ProjectionStep.entry)) field ≠ some (.int32 0) := by
  rw [(ProjectionStep.keepsLast_named ss).get?_eq, ne_eq, Option.map_eq_some_iff]
  rintro ⟨s, -, hentry⟩
  exact s.entry_ne_zero hentry

/-! ### Pipelines -/

/-- Whether a step replaces all stages. -/
def PipelineStep.replacesAll : PipelineStep → Bool
  | .replace _ => true
  | _ => false

theorem PipelineStep.isPrefix_append (name : String) (body : Except Error Document)
    (sub : StageReports) (stages : List Document) (t : Settings) :
    stages <+: (append name body sub stages t).state := by
  cases body with
  | ok d => exact List.prefix_append _ _
  | error e => exact List.prefix_refl _

/-- A step leaves the stages where they are, if it does not replace them. -/
theorem PipelineStep.isPrefix_run {s : PipelineStep} (h : s.replacesAll = false)
    (stages : List Document) (t : Settings) : stages <+: (s.run stages t).state := by
  cases s with
  | project input => exact isPrefix_append _ _ _ _ _
  | group input => exact isPrefix_append _ _ _ _ _
  | filter input => exact isPrefix_append _ _ _ _ _
  | unwind field => exact List.prefix_append _ _
  | skip n => exact List.prefix_append _ _
  | limit n => exact List.prefix_append _ _
  | pipe d => exact List.prefix_append _ _
  | replace all => cases h

/-- A run leaves the stages where they are, if none of its steps replaces them. -/
theorem PipelineStep.isPrefix_runList {ss : List PipelineStep}
    (h : ∀ s ∈ ss, s.replacesAll = false) (stages : List Document) (t : Settings) :
    stages <+: (runList run ss stages t).state := by
  induction ss generalizing stages t with
  | nil => exact List.prefix_refl _
  | cons s ss ih =>
    rw [List.forall_mem_cons] at h
    exact (isPrefix_run h.1 stages t).trans (ih h.2 _ _)

/-- A project stage stands behind the stages that were there before it, until all are replaced. -/
theorem PipelineStep.isPrefix_project (before after : List PipelineStep) (ss : List ProjectionStep)
    (t : Settings) (h : ∀ s ∈ after, s.replacesAll = false) :
    (runList run before [] t).state
        ++ [stage "$project" (.document (stageBody (ss.map ProjectionStep.entry)))]
      <+: (runList run (before ++ .project (.steps ss) :: after) [] t).state := by
  rw [runList_append]
  exact isPrefix_runList h _ _

/-! ### Find queries -/

/-- The step of a find query that gives a field a visibility. -/
def Visibility.findStep (field : String) : Visibility → FindStep
  | .shown => .select [field]
  | .hidden => .exclude [field]

/-- The call on the body of a project stage that gives a field a visibility. -/
def Visibility.projectionStep (field : String) : Visibility → ProjectionStep
  | .shown => .select field
  | .hidden => .exclude field

/-- The fields of a find query are marked as in the body of a project stage that was built by the
same calls. -/
theorem fieldsDocument_runList (vs : List (String × Visibility)) (t : Settings) :
    let q := (runList FindStep.run (vs.map (fun e => e.2.findStep e.1)) Find.empty t).state
    let ss := vs.map (fun e => e.2.projectionStep e.1)
    q.directives.fieldsDocument = stageBody (ss.map ProjectionStep.entry) := by
  intro q ss
  have hmentions : (vs.map (fun e => e.2.findStep e.1)).flatMap FindStep.mentions = vs := by
    clear q ss
    induction vs with
    | nil => rfl
    | cons e vs ih =>
      obtain ⟨field, v⟩ := e
      rw [List.map_cons, List.flatMap_cons, ih]
      cases v <;> rfl
  have hfields : q.directives.fields = OrderedMap.insertAll [] vs := by
    rw [directives_runList, hmentions]
    rfl
  have hentries : ss.map ProjectionStep.entry
      = OrderedMap.mapValues (fun v : Visibility => Value.int32 v.marker) vs := by
    rw [List.map_map, OrderedMap.mapValues]
    refine List.map_congr_left ?_
    rintro ⟨field, v⟩ -
    cases v <;> rfl
  -- both keep the last marker of every field
  have hfind : OrderedMap.KeepsLast (fun v : Visibility => Value.int32 v.marker) vs
      q.directives.fieldsDocument := by
    have h := (OrderedMap.keepsLast_insertAll vs).mapValues (fun v => Value.int32 v.marker)
    rwa [← hfields] at h
  have hbody : OrderedMap.KeepsLast (fun v : Visibility => Value.int32 v.marker) vs
      (stageBody (ss.map ProjectionStep.entry)) := by
    rw [hentries]
    exact (OrderedMap.keepsLast_insertAll _).of_mapValues
  exact hfind.unique hbody

/-! ### What is sent -/

/-- **Hidden fields are sent in two ways.** Let a client send reads and pipelines as they are handed
over. Then a project stage is sent with -1 for exactly the fields whose last call hides them, at its
place among the stages, and with 0 for none. A find query with the same calls is sent with 0 for
exactly these fields: its projection is the body of the stage with every marker as a server takes
it. -/
theorem hidden_fields_sent {σ : Type} [Client σ] (server : σ → Server)
    (hclient : Client.SendsReads σ server) (c : Collection) (before after : List PipelineStep)
    (ss : List ProjectionStep) (t : Settings) (x : σ) (hx : (server x).reachable = true)
    (hafter : ∀ p ∈ after, p.replacesAll = false) :
    let stages := (runList PipelineStep.run before [] t).state
    let pipeline :=
      (runList PipelineStep.run (before ++ .project (.steps ss) :: after) [] t).state
    let calls := ProjectionStep.named ss
    ∃ body : Document,
      (server (c.aggregate pipeline x).server).sent
        = (server x).sent ++ [.aggregate pipeline] ∧
      stages ++ [stage "$project" (.document body)] <+: pipeline ∧
      (∀ field, OrderedMap.get? body field = some (.int32 (-1)) ↔
        OrderedMap.last? calls field = some (.exclude field)) ∧
      (∀ field, OrderedMap.get? body field ≠ some (.int32 0)) ∧
      ∀ vs : List (String × Visibility), ss = vs.map (fun e => e.2.projectionStep e.1) →
        let q := (runList FindStep.run (vs.map (fun e => e.2.findStep e.1)) Find.empty t).state
        ∃ r : ReadCommand,
          (server (c.find q t x).server).sent = (server x).sent ++ [.find r] ∧
          r.projection = serverProjection body ∧
          ∀ field, r.projection.bind (fun d => OrderedMap.get? d field) = some (.int32 0) ↔
            OrderedMap.last? calls field = some (.exclude field) := by
  intro stages pipeline calls
  refine ⟨stageBody (ss.map ProjectionStep.entry), ?_, ?_, ?_, ?_, ?_⟩
  · have hsent : server (c.aggregate pipeline x).server = (server x).after [.aggregate pipeline] :=
      hclient.aggregate pipeline x hx
    rw [hsent, Server.sent_after]
  · exact PipelineStep.isPrefix_project before after ss t hafter
  · exact get?_stageBody_eq_hidden_iff ss
  · exact get?_stageBody_ne_zero ss
  · intro vs hss q
    have hprojection : (q.readOptions t).projection
        = serverProjection (stageBody (ss.map ProjectionStep.entry)) := by
      rw [hss, ← fieldsDocument_runList vs t]
      rfl
    obtain ⟨r, -, hr, hsends⟩ := hclient.find q.filter.render (q.readOptions t)
    have hsent : server (c.find q t x).server = (server x).after [.find r] := hsends x hx
    refine ⟨r, ?_, hr.trans hprojection, ?_⟩
    · rw [hsent, Server.sent_after]
    · intro field
      rw [hr, hprojection, get?_serverProjection, ← get?_stageBody_eq_hidden_iff,
        Option.map_eq_some_iff]
      constructor
      · rintro ⟨v, hv, hzero⟩
        rcases (serverValue_eq_hidden_iff v).1 hzero with rfl | rfl
        · exact hv
        · exact absurd hv (get?_stageBody_ne_zero ss field)
      · intro hv
        exact ⟨_, hv, rfl⟩

/-- A field is hidden among others, behind a filter and before a limit. -/
theorem hidden_fields_sent_secret :
    let users : Collection := { database := "db", name := "users" }
    let s : Server := { reachable := true }
    let ss : List ProjectionStep := [.select "name", .exclude "secret"]
    let after : List PipelineStep := [.limit 3]
    let pipeline :=
      (runList PipelineStep.run (.filter (.document []) :: .project (.steps ss) :: after)
        [] {}).state
    (Client.SendsReads Server id ∧ s.reachable = true ∧ ∀ p ∈ after, p.replacesAll = false) ∧
      ∃ body : Document,
        (users.aggregate pipeline s).server.sent = [.aggregate pipeline] ∧
        [stage "$match" (.document []), stage "$project" (.document body)] <+: pipeline ∧
        OrderedMap.get? body "secret" = some (.int32 (-1)) := by
  intro users s ss after pipeline
  have hserver : Client.SendsReads Server id := Server.sendsReads
  have hafter : ∀ p ∈ after, p.replacesAll = false := by decide
  obtain ⟨body, hsent, hstage, hhidden, -, -⟩ :=
    hidden_fields_sent id hserver users [.filter (.document [])] after ss {} s rfl hafter
  exact ⟨⟨hserver, rfl, hafter⟩, body, hsent, hstage, (hhidden "secret").2 rfl⟩

/-- The same call hides a field in a read and shows it in a pipeline: a server reads -1 in a project
stage as a field to show. -/
theorem pipeline_shows_hidden_field :
    let users : Collection := { database := "db", name := "users" }
    let s : Server := { reachable := true }
    let pipeline :=
      (runList PipelineStep.run [.project (.steps [.exclude "secret"])] [] {}).state
    let q := (runList FindStep.run [.exclude ["secret"]] Find.empty {}).state
    (users.aggregate pipeline s).server.sent
        = [.aggregate [[("$project", .document [("secret", .int32 (-1))])]]] ∧
      ∃ r : ReadCommand, (users.find q {} s).server.sent = [.find r] ∧
        r.projection = some [("secret", .int32 0)] :=
  ⟨rfl, _, rfl, rfl⟩

end DocQuery
