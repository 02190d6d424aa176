import CloudWard.Reliability.Preconditions
import CloudWard.Remediation.Rollback

/-!
# Temporary scaling and its rollback

`process` asks for one replica more than it read, up to the configured maximum, and the
execution records both counts. `rollback_scale` later asks for the recorded previous count
under the same bounds. So the scale adds capacity and can be undone exactly if the previous
count is itself one that a scale may ask for.
-/

namespace CloudWard.Reliability

open CloudWard.Db CloudWard.Incidents CloudWard.Kubernetes CloudWard.Logic CloudWard.Policies
  CloudWard.Remediation CloudWard.Risk CloudWard.Runbooks Service

/-- A scale as `process` performs it: of a deployment that was read, to one replica more than
were read, up to the maximum. -/
structure Scales (env : Env) (settings : Settings) (r : DeploymentScaleResult) : Prop where
  ns : r.ns = "cloudward-staging"
  name : validName r.deployment
  allowed : "cloudward-staging" ∈ settings.allowedNamespaces
  read : ∃ w deployment, env.readDeployment w r.ns r.deployment = .ok deployment ∧
    deployment.replicas.getD 0 = r.previousReplicas
  requested : r.requestedReplicas = min (r.previousReplicas + 1) settings.maxTemporaryReplicas

/-- The execution `x` of an incident records a scale, and may be rolled back there. -/
structure Records (w : World) (incidentId x : Nat) (r : DeploymentScaleResult) : Prop where
  row : ∃ row, w.db.executions[x]? = some row ∧ row.incidentId = incidentId ∧
    row.attempt = 1 ∧ row.status = .succeeded ∧ row.result = r.toDict ∧
    row.proposalId < w.db.proposals.length
  environment : ∃ environment, w.db.incidents[incidentId]?.map (·.environment) =
    some environment ∧
    environment ∈ (getActionMetadata .scaleStagingDeployment).allowedEnvironments

/-- Every scale in the trace is recorded by the execution `x`. -/
def ScalesRecorded (env : Env) (settings : Settings) (incidentId x : Nat) (w : World) : Prop :=
  ∀ ns name replicas, .mutated (.patchScale ns name replicas) ∈ w.trace →
    ∃ previous, Scales env settings ⟨ns, name, previous, replicas, true⟩ ∧
      Records w incidentId x ⟨ns, name, previous, replicas, true⟩

/-- Nothing has been scaled. -/
def Unscaled (trace : List Event) : Prop :=
  ∀ ns name replicas, .mutated (.patchScale ns name replicas) ∉ trace

/-! ### What the stages of a run leave -/

/-- The executions, the trace, the environments of the incidents and the number of
proposals. -/
private def outline (w : World) :
    Table ActionExecution × List Event × List Environment × Nat :=
  (w.db.executions, w.trace, w.db.incidents.map (·.environment), w.db.proposals.length)

section Outlines

variable {env : Env} {settings : Settings} {id : Nat}

private theorem frames_outline_updateIncident (incidentId : Nat) {f : Incident → Incident}
    (hf : ∀ incident, (f incident).environment = incident.environment) :
    Exec.Frames outline (updateIncident incidentId f) := by
  apply Exec.frames_update
  intro w
  simp only [outline, Table.map_update _ _ hf]

private theorem frames_outline_updateProposal (proposalId : Nat)
    (f : ActionProposal → ActionProposal) :
    Exec.Frames outline (updateProposal proposalId f) := by
  apply Exec.frames_update
  intro w
  simp only [outline, Table.length_update]

private theorem frames_outline_change (target : IncidentState) (details : Details) :
    Exec.Frames outline (changeIncidentState env settings id target worker details) := by
  apply frames_changeIncidentState_of_update (fun _ _ ↦ rfl)
  · intro w now
    have henvironment (incident : Incident) :
        (withState target worker now incident).environment = incident.environment := rfl
    simp only [outline, Table.map_update _ _ henvironment]
  · exact fun _ _ _ ↦ rfl
  · exact fun _ _ _ _ ↦ rfl

private theorem frames_outline_flush : Exec.Frames outline (flush env) :=
  frames_flush env fun _ _ ↦ rfl

private theorem frames_outline_result (action : Option ActionType) (detail : String) :
    Exec.Frames outline (result id action detail) :=
  Exec.frames_bind (frames_loadIncident _) fun _ ↦ Exec.frames_pure _

private theorem frames_outline_gather (alert : NormalizedAlert) :
    Exec.Frames outline (gather env settings id alert) := by
  apply frames_gather_of_update (fun _ _ ↦ rfl)
  intro w target now
  have henvironment (incident : Incident) :
      (withState target worker now incident).environment = incident.environment := rfl
  simp only [outline, Table.map_update _ _ henvironment]

/-- What is known of a world before the execution of a run. -/
private def Before (E : Table ActionExecution) (N : List Environment) (n : Nat) (w : World) :
    Prop :=
  w.db.executions = E ∧ Unscaled w.trace ∧ w.db.incidents.map (·.environment) = N ∧
    w.db.proposals.length = n

variable {α : Type} {E : Table ActionExecution} {N : List Environment} {n x : Nat}

private theorem before_of_frames {x : Service α} (hx : Exec.Frames outline x) :
    Exec.Triple (Before E N n) x (fun _ ↦ Before E N n) fun _ _ ↦ True :=
  hx.returns fun v ↦ v.1 = E ∧ Unscaled v.2.1 ∧ v.2.2.1 = N ∧ v.2.2.2 = n

/-- A run that does not scale records all its scales. -/
private theorem scalesRecorded_of_before {w : World} (h : Before E N n w) :
    ScalesRecorded env settings id x w :=
  fun ns name replicas hmem ↦ absurd hmem (h.2.1 ns name replicas)

private theorem scalesRecorded_of_frames {y : Service α} (hy : Exec.Frames outline y) :
    Exec.Triple (ScalesRecorded env settings id x) y
      (fun _ ↦ ScalesRecorded env settings id x) fun _ _ ↦ True := by
  intro w hw
  have hframe := hy w
  simp only [outline, Prod.mk.injEq] at hframe
  rcases hrun : y.run w with ⟨e | a, w'⟩
  · trivial
  · rw [hrun] at hframe
    obtain ⟨hexecutions, htrace, hincidents, hproposals⟩ := hframe
    intro ns name replicas hmem
    rw [htrace] at hmem
    obtain ⟨previous, hscales, hrow, henvironment⟩ := hw ns name replicas hmem
    refine ⟨previous, hscales, ?_, ?_⟩
    · rw [hexecutions, hproposals]
      exact hrow
    · rw [← List.getElem?_map, hincidents, List.getElem?_map]
      exact henvironment

end Outlines

/-! ### The stages before the execution -/

section Stages

variable {env : Env} {settings : Settings} {id x : Nat}
variable {E : Table ActionExecution} {N : List Environment} {n : Nat}

/-- A proposal is about the snapshot and the runbook it was made from, and its row exists. -/
private theorem before_propose (snapshot : Snapshot) (runbook : RunbookDocument) :
    Exec.Triple (Before E N n) (propose env settings id snapshot runbook)
      (fun p w ↦ Before E N (n + 1) w ∧
        (p.snapshot = snapshot ∧ p.runbook = runbook ∧ p.proposalId = n)) fun _ _ ↦ True := by
  apply Exec.Triple.bind (Q := fun _ ↦ Before E N n)
  · exact before_of_frames (frames_outline_updateIncident id fun _ ↦ rfl)
  intro _
  apply Exec.Triple.bind (Q := fun _ ↦ Before E N n)
  · exact before_of_frames (Exec.frames_bind (Exec.frames_read _) fun _ ↦
      Exec.frames_bind (Exec.frames_update fun _ ↦ rfl) fun _ ↦ Exec.frames_pure _)
  intro _
  apply Exec.Triple.bind (before_of_frames frames_outline_flush)
  intro _
  apply Exec.Triple.bind (before_of_frames (frames_outline_change .actionProposed {}))
  intro _
  apply Exec.Triple.bind (before_of_frames (frames_loadIncident id))
  intro incident
  apply Exec.Triple.bind (Q := fun _ ↦ Before E N n)
  · exact before_of_frames (frames_outline_updateIncident id fun _ ↦ rfl)
  intro _
  apply Exec.Triple.bind (Q := fun proposalId w ↦ Before E N (n + 1) w ∧ proposalId = n)
  · rintro w ⟨hE, hT, hN, hn⟩
    refine ⟨⟨hE, hT, hN, ?_⟩, hn⟩
    simp only [Table.length_insert, hn]
  intro proposalId
  apply Exec.Triple.assume
  rintro rfl
  apply Exec.Triple.bind (before_of_frames frames_outline_flush)
  intro _
  apply Exec.Triple.bind (before_of_frames (frames_outline_change .policyEvaluation {}))
  intro _
  exact Exec.Triple.pure fun _ hw ↦ ⟨hw, rfl, rfl, rfl⟩

/-- An authorisation adds no scale. -/
private theorem before_authorise (p : Proposal) :
    Exec.Triple (Before E N n) (authorise env id p) (fun _ ↦ Before E N n) fun _ _ ↦ True := by
  apply Exec.Triple.bind (before_of_frames (frames_loadIncident id))
  intro incident
  apply Exec.Triple.bind (before_of_frames (Exec.frames_ofExcept _))
  intro input
  apply Exec.Triple.bind (Q := fun _ ↦ Before E N n)
  · rintro w ⟨hE, hT, hN, hn⟩
    refine ⟨hE, ?_, hN, hn⟩
    intro ns name replicas hmem
    rcases List.mem_cons.mp hmem with h | h
    · cases h
    · exact hT ns name replicas h
  intro policy
  apply Exec.Triple.bind (Q := fun _ ↦ Before E N n)
  · exact before_of_frames (Exec.frames_update fun _ ↦ rfl)
  intro _
  apply Exec.Triple.bind (before_of_frames frames_outline_flush)
  intro _
  exact Exec.Triple.pure fun _ hw ↦ hw

private theorem frames_outline_hold (p : Proposal) (policy : PolicyResult) :
    Exec.Frames outline (hold env settings id p policy) :=
  Exec.frames_bind (frames_outline_change _ _) fun _ ↦
    Exec.frames_bind (frames_outline_updateProposal _ _) fun _ ↦ frames_outline_result _ _

private theorem frames_outline_holdForWriter (p : Proposal) :
    Exec.Frames outline (holdForWriter env settings id p) :=
  Exec.frames_bind (frames_outline_updateProposal _ _) fun _ ↦
    Exec.frames_bind (frames_outline_change _ _) fun _ ↦ frames_outline_result _ _

/-! ### The execution -/

/-- A claimed execution is the row just inserted. -/
private def Claimed (E : Table ActionExecution) (N : List Environment) (n id proposalId : Nat)
    (claim : ExecutionClaim) (w : World) : Prop :=
  claim.execution = E.fresh ∧ ∃ row : ActionExecution, row.incidentId = id ∧ row.attempt = 1 ∧
    row.proposalId = proposalId ∧ Before (E.insert row) N n w

private theorem before_insertClaim (row : ActionExecution) (approval : Option Nat)
    (hid : row.incidentId = id) (hattempt : row.attempt = 1) :
    Exec.Triple (Before E N n) (insertClaim env id row approval)
      (fun claim w ↦ Claimed E N n id row.proposalId claim w) fun _ _ ↦ True := by
  apply Exec.Triple.bind (Q := fun executionId w ↦
    Before (E.insert row) N n w ∧ executionId = E.fresh)
  · apply Exec.Triple.bind (Q := fun executions w ↦ Before E N n w ∧ executions = E)
    · exact Exec.Triple.read fun w hw ↦ ⟨hw, hw.1⟩
    intro executions
    apply Exec.Triple.assume
    rintro rfl
    apply Exec.Triple.bind (before_of_frames (Exec.frames_require _ _))
    intro _
    apply Exec.Triple.bind (Q := fun _ ↦ Before (executions.insert row) N n)
    · rintro w ⟨hE, hT, hN, hn⟩
      exact ⟨congrArg (Table.insert · row) hE, hT, hN, hn⟩
    intro _
    apply Exec.Triple.bind (before_of_frames frames_outline_flush)
    intro _
    exact Exec.Triple.pure fun _ hw ↦ ⟨hw, rfl⟩
  intro executionId
  apply Exec.Triple.assume
  rintro rfl
  apply Exec.Triple.bind (Q := fun _ ↦ Before (E.insert row) N n)
  · exact before_of_frames (frames_outline_updateIncident id fun _ ↦ rfl)
  intro _
  apply Exec.Triple.bind (before_of_frames (frames_ask _ fun _ _ ↦ rfl))
  intro now
  apply Exec.Triple.bind
  · apply before_of_frames
    cases approval with
    | none => exact Exec.frames_pure _
    | some approvalId => exact Exec.frames_update fun _ ↦ rfl
  intro _
  apply Exec.Triple.bind (before_of_frames frames_outline_flush)
  intro _
  apply Exec.Triple.bind (before_of_frames frames_outline_flush)
  intro _
  exact Exec.Triple.pure fun _ hw ↦ ⟨rfl, row, hid, hattempt, rfl, hw⟩

/-- A first claim inserts its execution, or finds another one. -/
private theorem before_claimActionExecution (proposalId : Nat) (runbookId : String)
    (target : Parameters) :
    Exec.Triple (Before E N n) (claimActionExecution env id proposalId runbookId target 1)
      (fun claim w ↦ (claim.claimed = false ∧ Before E N n w) ∨
        Claimed E N n id proposalId claim w) fun _ _ ↦ True := by
  have hinsert {row : ActionExecution} {approval : Option Nat} (hid : row.incidentId = id)
      (hattempt : row.attempt = 1) (hproposal : row.proposalId = proposalId) :
      Exec.Triple (Before E N n) (insertClaim env id row approval)
        (fun claim w ↦ (claim.claimed = false ∧ Before E N n w) ∨
          Claimed E N n id proposalId claim w) fun _ _ ↦ True := by
    apply (before_insertClaim row approval hid hattempt).mono
    · exact fun _ hw ↦ hw
    · intro _ w hw
      rw [hproposal] at hw
      exact .inr hw
    · exact fun _ _ _ ↦ trivial
  unfold claimActionExecution
  rw [dif_pos (by decide)]
  apply Exec.Triple.bind (before_of_frames (frames_loadProposal _))
  intro proposal
  apply Exec.Triple.bind (before_of_frames (frames_query env _ fun _ _ ↦ rfl))
  intro existing
  cases existing with
  | some entry => exact Exec.Triple.pure fun _ hw ↦ .inl ⟨rfl, hw⟩
  | none =>
    apply Exec.Triple.bind (before_of_frames (frames_query env _ fun _ _ ↦ rfl))
    intro approval
    cases approval with
    | none => exact hinsert rfl rfl rfl
    | some entry =>
      apply Exec.Triple.bind
      · exact before_of_frames (Exec.frames_bind (Exec.frames_require _ _) fun _ ↦
          Exec.frames_require _ _)
      · exact fun _ ↦ hinsert rfl rfl rfl

/-- What is known of a world right after a scale. -/
private def After (E : Table ActionExecution) (N : List Environment) (n : Nat)
    (r : DeploymentScaleResult) (w : World) : Prop :=
  w.db.executions = E ∧ w.db.incidents.map (·.environment) = N ∧ w.db.proposals.length = n ∧
    ∀ ns name replicas, .mutated (.patchScale ns name replicas) ∈ w.trace →
      ns = r.ns ∧ name = r.deployment ∧ replicas = r.requestedReplicas

/-- A scale that returns was one of a deployment with the expected count. -/
private theorem after_scaleStagingDeployment (ns name : String)
    (replicas maximum expected : Nat) :
    Exec.Triple (Before E N n)
      (scaleStagingDeployment env settings ns name replicas maximum (some expected))
      (fun r w ↦ After E N n r w ∧ (r = ⟨ns, name, expected, replicas, true⟩ ∧
        ns = "cloudward-staging" ∧ validName name ∧
        "cloudward-staging" ∈ settings.allowedNamespaces ∧
        ∃ w deployment, env.readDeployment w ns name = .ok deployment ∧
          deployment.replicas.getD 0 = expected)) fun _ _ ↦ True := by
  unfold scaleStagingDeployment
  apply Exec.Triple.bind (Q := fun _ w ↦ Before E N n w ∧ ns ∈ settings.allowedNamespaces)
  · unfold requireNamespace
    apply Exec.Triple.bind (before_of_frames (frames_validateName _ _))
    intro _
    exact Exec.Triple.require (fun h _ hw ↦ ⟨hw, h⟩) fun _ _ _ ↦ trivial
  intro _
  apply Exec.Triple.assume
  intro hallowed
  apply Exec.Triple.bind (Q := fun _ w ↦ Before E N n w ∧ validName name)
  · exact Exec.Triple.require (fun h _ hw ↦ ⟨hw, h⟩) fun _ _ _ ↦ trivial
  intro _
  apply Exec.Triple.assume
  intro hname
  apply Exec.Triple.bind (Q := fun _ w ↦ Before E N n w ∧ ns = "cloudward-staging")
  · exact Exec.Triple.require (fun h _ hw ↦ ⟨hw, h⟩) fun _ _ _ ↦ trivial
  intro _
  apply Exec.Triple.assume
  rintro rfl
  apply Exec.Triple.bind (before_of_frames (Exec.frames_require _ _))
  intro _
  apply Exec.Triple.bind (Q := fun deployment w ↦ Before E N n w ∧
    ∃ w, env.readDeployment w "cloudward-staging" name = .ok deployment)
  · intro w hw
    unfold wrapping
    rw [Exec.run_tryCatch, run_call]
    cases hread : env.readDeployment w "cloudward-staging" name with
    | error e => trivial
    | ok deployment => exact ⟨hw, w, hread⟩
  intro deployment
  apply Exec.Triple.assume
  rintro ⟨w₀, hread⟩
  apply Exec.Triple.bind (before_of_frames (Exec.frames_require _ _))
  intro _
  apply Exec.Triple.bind (Q := fun _ w ↦ Before E N n w ∧
    deployment.replicas.getD 0 = expected)
  · exact Exec.Triple.require (fun h _ hw ↦ ⟨hw, h expected rfl⟩) fun _ _ _ ↦ trivial
  intro _
  apply Exec.Triple.assume
  intro hcurrent
  apply Exec.Triple.bind
    (Q := fun _ ↦ After E N n ⟨"cloudward-staging", name, expected, replicas, true⟩)
  · have hafter {w : World} (hw : Before E N n w) : After E N n
        ⟨"cloudward-staging", name, expected, replicas, true⟩
        { w with
          cluster := w.cluster.apply (.patchScale "cloudward-staging" name replicas)
          trace := .mutated (.patchScale "cloudward-staging" name replicas) :: w.trace } := by
      obtain ⟨hE, hT, hN, hn⟩ := hw
      refine ⟨hE, hN, hn, ?_⟩
      intro ns' name' replicas' hmem
      rcases List.mem_cons.mp hmem with h | h
      · cases h
        exact ⟨rfl, rfl, rfl⟩
      · exact absurd h (hT ns' name' replicas')
    unfold wrapping
    apply Exec.Triple.tryCatch (E := fun _ _ ↦ True)
    · intro w hw
      unfold send
      rw [Exec.run_bind, run_ask]
      cases env.request w (.patchScale "cloudward-staging" name replicas) with
      | done => exact hafter hw
      | refused e => trivial
      | lost e => trivial
    · exact fun _ ↦ Exec.Triple.throw fun _ _ ↦ trivial
  intro _
  apply Exec.Triple.pure
  intro w hw
  rw [hcurrent]
  exact ⟨hw, rfl, rfl, hname, hallowed, w₀, deployment, hread, hcurrent⟩

/-- The action of a claimed execution records its scale on the claim's row. -/
private theorem recorded_perform {p : Proposal} {row : ActionExecution}
    (hid : row.incidentId = id) (hattempt : row.attempt = 1) (hproposal : row.proposalId < n)
    (henvironment : p.runbook.action = .scaleStagingDeployment → ∃ environment,
      N[id]? = some environment ∧
        environment ∈ (getActionMetadata .scaleStagingDeployment).allowedEnvironments) :
    Exec.Triple (Before (E.insert row) N n) (perform env settings p E.fresh)
      (fun _ ↦ ScalesRecorded env settings id E.fresh) fun _ _ ↦ True := by
  by_cases haction : p.runbook.action = .scaleStagingDeployment
  · unfold perform
    rw [if_pos haction]
    apply Exec.Triple.bind (after_scaleStagingDeployment p.snapshot.ns p.snapshot.deploymentName
      (min (p.snapshot.deployment.desiredReplicas + 1) settings.maxTemporaryReplicas)
      settings.maxTemporaryReplicas p.snapshot.deployment.desiredReplicas)
    intro r
    apply Exec.Triple.assume
    rintro ⟨rfl, hns, hname, hallowed, hread⟩
    have hfinished {w : World} (hw : After (E.insert row) N n
        ⟨p.snapshot.ns, p.snapshot.deploymentName, p.snapshot.deployment.desiredReplicas,
          min (p.snapshot.deployment.desiredReplicas + 1) settings.maxTemporaryReplicas, true⟩ w) :
        ScalesRecorded env settings id E.fresh { w with db := { w.db with
          executions := w.db.executions.update E.fresh fun execution ↦
            { execution with
              status := if true then .succeeded else .failed
              errorCode := none
              result := DeploymentScaleResult.toDict ⟨p.snapshot.ns, p.snapshot.deploymentName,
                p.snapshot.deployment.desiredReplicas,
                min (p.snapshot.deployment.desiredReplicas + 1) settings.maxTemporaryReplicas,
                true⟩ } } } := by
      obtain ⟨hE, hN, hn, hscaled⟩ := hw
      intro ns name replicas hmem
      obtain ⟨rfl, rfl, rfl⟩ := hscaled ns name replicas hmem
      refine ⟨p.snapshot.deployment.desiredReplicas, ⟨hns, hname, hallowed, hread, rfl⟩, ?_, ?_⟩
      · refine ⟨{ row with
            status := .succeeded
            errorCode := none
            result := DeploymentScaleResult.toDict ⟨p.snapshot.ns, p.snapshot.deploymentName,
              p.snapshot.deployment.desiredReplicas,
              min (p.snapshot.deployment.desiredReplicas + 1) settings.maxTemporaryReplicas,
              true⟩ }, ?_, hid, hattempt, rfl, rfl, ?_⟩
        · rw [Table.getElem?_update_self, hE, Table.getElem?_insert_fresh]
          rfl
        · rw [hn]
          exact hproposal
      · rw [← List.getElem?_map, hN]
        exact henvironment haction
    have hflush : Exec.Triple (ScalesRecorded env settings id E.fresh) (flush env)
        (fun _ ↦ ScalesRecorded env settings id E.fresh) fun _ _ ↦ True :=
      scalesRecorded_of_frames frames_outline_flush
    apply Exec.Triple.bind (Q := fun _ ↦ ScalesRecorded env settings id E.fresh)
    · exact Exec.Triple.update fun _ hw ↦ hfinished hw
    intro _
    exact Exec.Triple.bind hflush fun _ ↦ Exec.Triple.bind hflush fun _ ↦ hflush
  · intro w hw
    obtain ⟨added, htrace, hperformed⟩ := emits_perform env settings p E.fresh w
    rcases hrun : (perform env settings p E.fresh).run w with ⟨e | _, w'⟩
    · trivial
    · rw [hrun] at htrace
      intro ns name replicas hmem
      rw [htrace] at hmem
      rcases List.mem_append.mp hmem with h | h
      · exact absurd (hperformed _ h).1 haction
      · exact absurd h (hw.2.1 ns name replicas)

/-- The execution of a proposal records its scale. -/
private theorem recorded_execute {p : Proposal} (hproposal : p.proposalId < n)
    (henvironment : p.runbook.action = .scaleStagingDeployment → ∃ environment,
      N[id]? = some environment ∧
        environment ∈ (getActionMetadata .scaleStagingDeployment).allowedEnvironments) :
    Exec.Triple (Before E N n) (execute env settings id p)
      (fun _ ↦ ScalesRecorded env settings id E.fresh) fun _ _ ↦ True := by
  apply Exec.Triple.bind (before_of_frames (frames_outline_updateProposal _ _))
  intro _
  apply Exec.Triple.bind (before_of_frames (frames_outline_change _ _))
  intro _
  apply Exec.Triple.ite
  · intro _
    apply (before_of_frames (frames_outline_updateProposal _ _)).mono
    · exact fun _ hw ↦ hw
    · exact fun _ _ hw ↦ scalesRecorded_of_before hw
    · exact fun _ _ _ ↦ trivial
  intro _
  apply Exec.Triple.bind (before_claimActionExecution _ _ _)
  intro claim
  apply Exec.Triple.bind (Q := fun _ ↦ ScalesRecorded env settings id E.fresh)
  · apply Exec.Triple.when
    · intro hclaimed w hw
      rcases hw with ⟨hnot, -⟩ | ⟨hfresh, row, hid, hattempt, hof, hbefore⟩
      · rw [hnot] at hclaimed
        cases hclaimed
      · rw [hfresh]
        exact recorded_perform hid hattempt (by rw [hof]; exact hproposal) henvironment w hbefore
    · rintro _ w (⟨-, hbefore⟩ | ⟨-, row, -, -, -, hbefore⟩)
      · exact scalesRecorded_of_before hbefore
      · exact scalesRecorded_of_before hbefore
  intro _
  apply Exec.Triple.bind (scalesRecorded_of_frames (Exec.frames_read _))
  intro status
  exact scalesRecorded_of_frames (frames_outline_updateProposal _ _)

/-! ### A whole run -/

private theorem recorded_remediate (snapshot : Snapshot) (runbook : RunbookDocument)
    (henvironment : ∃ environment, N[id]? = some environment ∧
      environment ∈ (getActionMetadata runbook.action).allowedEnvironments) :
    Exec.Triple (Before E N n) (remediate env settings id snapshot runbook)
      (fun _ ↦ ScalesRecorded env settings id E.fresh) fun _ _ ↦ True := by
  have hunscaled {α : Type} {y : Service α} (hy : Exec.Frames outline y) :
      Exec.Triple (Before E N (n + 1)) y (fun _ ↦ ScalesRecorded env settings id E.fresh)
        fun _ _ ↦ True := by
    apply (before_of_frames hy).mono
    · exact fun _ hw ↦ hw
    · exact fun _ _ hw ↦ scalesRecorded_of_before hw
    · exact fun _ _ _ ↦ trivial
  apply Exec.Triple.bind (before_propose snapshot runbook)
  intro p
  apply Exec.Triple.assume
  rintro ⟨-, rfl, hproposal⟩
  apply Exec.Triple.bind (before_authorise p)
  intro policy
  apply Exec.Triple.ite
  · exact fun _ ↦ hunscaled (frames_outline_hold p policy)
  intro _
  apply Exec.Triple.ite
  · exact fun _ ↦ hunscaled (frames_outline_holdForWriter p)
  intro _
  apply Exec.Triple.bind
  · apply recorded_execute (by omega)
    intro haction
    rw [← haction]
    exact henvironment
  intro _
  apply Exec.Triple.bind (scalesRecorded_of_frames (frames_outline_change _ _))
  intro _
  exact scalesRecorded_of_frames (frames_outline_result _ _)

/-- A run that returns has recorded its scale on the execution it claimed. -/
private theorem recorded_process (runbooks : RunbookLoader) (alert : NormalizedAlert) :
    Exec.Triple (Before E N n) (process env settings runbooks id alert)
      (fun _ ↦ ScalesRecorded env settings id E.fresh) fun _ _ ↦ True := by
  have hunscaled {α : Type} {y : Service α} (hy : Exec.Frames outline y) :
      Exec.Triple (Before E N n) y (fun _ ↦ ScalesRecorded env settings id E.fresh)
        fun _ _ ↦ True := by
    apply (before_of_frames hy).mono
    · exact fun _ hw ↦ hw
    · exact fun _ _ hw ↦ scalesRecorded_of_before hw
    · exact fun _ _ _ ↦ trivial
  apply Exec.Triple.bind (before_of_frames (frames_query env _ fun _ _ ↦ rfl))
  intro existing
  cases existing with
  | some entry => exact hunscaled (frames_outline_result _ _)
  | none =>
    apply Exec.Triple.bind (before_of_frames (frames_outline_gather alert))
    intro snapshot
    apply Exec.Triple.bind
      (Q := fun incident w ↦ Before E N n w ∧ N[id]? = some incident.environment)
    · intro w hw
      unfold loadIncident
      rw [Exec.run_bind_of_ok (Exec.run_read _ w)]
      cases hrow : w.db.incidents[id]? with
      | none => trivial
      | some incident =>
        refine ⟨hw, ?_⟩
        rw [← hw.2.2.1, List.getElem?_map, hrow]
        rfl
    intro incident
    apply Exec.Triple.assume
    intro hincident
    cases hmatch : runbooks.matching incident.incidentType (alertConditions alert.alertName)
        incident.environment with
    | error e =>
      apply hunscaled
      apply Exec.frames_ite
      · exact Exec.frames_bind frames_outline_flush fun _ ↦
          Exec.frames_bind frames_outline_flush fun _ ↦
          Exec.frames_bind (frames_loadIncident _) fun _ ↦ Exec.frames_pure _
      · exact Exec.frames_throw _
    | ok runbook =>
      exact recorded_remediate snapshot runbook
        ⟨incident.environment, hincident, RunbookLoader.environment_mem_of_matching hmatch⟩

end Stages

/-! ### The rollback of a recorded scale -/

/-- Kubernetes is healthy: it reads a deployment as it is, a demo target, and does what it is
asked, and no statement fails. -/
structure Healthy (env : Env) (ns name : String) : Prop where
  quiet : Quiet env
  reads : ∃ answer : Nat → V1Deployment, ∀ w replicas,
    w.cluster.replicas? ns name = some replicas →
      env.readDeployment w ns name = .ok (answer replicas) ∧
        isDemoTarget (answer replicas).templateLabels ∧
        (answer replicas).replicas = some replicas
  done : ∀ w m, env.request w m = .done

/-- Since the scale, neither its deployment nor what its rollback reads has changed: its
execution is the only one of the incident, and no rollback of it exists. -/
structure Unchanged (incidentId x : Nat) (r : DeploymentScaleResult) (scaled w : World) :
    Prop where
  execution : w.db.executions[x]? = scaled.db.executions[x]?
  environment : w.db.incidents[incidentId]?.map (·.environment) =
    scaled.db.incidents[incidentId]?.map (·.environment)
  proposals : scaled.db.proposals.length ≤ w.db.proposals.length
  only : ∀ i row, w.db.executions[i]? = some row → row.incidentId = incidentId → i = x
  notUndone : ∀ row ∈ w.db.executions, ∀ previous,
    row.idempotencyKey ≠ some (.rollback x previous)
  replicas : w.cluster.replicas? r.ns r.deployment = some r.requestedReplicas

/-- A recorded scale from a count within the bound is undone. -/
private theorem restores {env env' : Env} {settings : Settings} {id x : Nat}
    {r : DeploymentScaleResult} {scaled w : World} (hscales : Scales env settings r)
    (hrecords : Records scaled id x r) (hhealthy : Healthy env' r.ns r.deployment)
    (hunchanged : Unchanged id x r scaled w)
    (hprevious : 1 ≤ r.previousReplicas ∧
      r.previousReplicas ≤ settings.maxTemporaryReplicas) :
    Returns (rollbackScale env' settings id x settings.maxTemporaryReplicas) w
      fun _ w' ↦ w'.cluster.replicas? r.ns r.deployment = some r.previousReplicas := by
  obtain ⟨row, hrow, hid, hattempt, -, hresult, hproposal⟩ := hrecords.row
  obtain ⟨environment, henvironment, hexecutable⟩ := hrecords.environment
  rw [← hunchanged.environment] at henvironment
  obtain ⟨incident, hincident, rfl⟩ := Option.map_eq_some_iff.mp henvironment
  rw [← hunchanged.execution] at hrow
  obtain ⟨answer, hreads⟩ := hhealthy.reads
  obtain ⟨-, hdemo, hreplicas⟩ := hreads w _ hunchanged.replicas
  have hlt : row.attempt < 3 := by omega
  have hrequested : 1 ≤ r.requestedReplicas := by
    rw [hscales.requested]
    have := settings.maxTemporaryReplicas_mem
    omega
  have hexists : (w.db.proposals[row.proposalId]?).isSome := by
    rw [List.getElem?_eq_getElem (lt_of_lt_of_le hproposal hunchanged.proposals)]
    rfl
  have hunique : executionIsUnique w.db.executions
      (rollbackRow id x row r.previousReplicas hlt) := by
    intro e he
    constructor
    · intro heq
      obtain ⟨hof, hnext⟩ := Prod.mk.inj heq
      obtain ⟨i, hi⟩ := List.mem_iff_getElem?.mp he
      have hix := hunchanged.only i e hi hof
      rw [hix, hrow, Option.some.injEq] at hi
      rw [← hi] at hnext
      exact Nat.succ_ne_self _ hnext.symm
    · exact fun _ ↦ hunchanged.notUndone e he _
  have hread (w' : World) (hcluster : w'.cluster = w.cluster) :
      env'.readDeployment w' "cloudward-staging" r.deployment =
        .ok (answer r.requestedReplicas) := by
    rw [← hscales.ns]
    apply (hreads w' _ _).1
    rw [hcluster]
    exact hunchanged.replicas
  have hcurrent : (answer r.requestedReplicas).replicas.getD 0 = r.requestedReplicas := by
    rw [hreplicas]
    rfl
  apply (returns_rollbackScale hhealthy.quiet hincident hexecutable hrow hresult hrequested
    hprevious hlt hexists hunique hscales.ns hscales.name hscales.allowed hread hdemo hcurrent
    hhealthy.done).mono
  intro _ w' hcluster
  rw [hcluster, Cluster.replicas?_apply_patchScale, hunchanged.replicas, hscales.ns]
  simp

/-- **Temporary scaling.** A run of the processor that scales a deployment asks for at least as
many replicas as there were, and the rollback of its execution restores exactly these, if and
only if there was at least one replica and there were no more than the configured maximum. -/
theorem scale_reversible_iff {env : Env} {settings : Settings} {runbooks : RunbookLoader}
    {id : Nat} {alert : NormalizedAlert} {w scaled : World} {res : ProcessingResult}
    {ns name : String} {replicas : Nat} (hstart : Unscaled w.trace)
    (hrun : (process env settings runbooks id alert).run w = (.ok res, scaled))
    (hscaled : .mutated (.patchScale ns name replicas) ∈ scaled.trace) :
    ∃ previous, Scales env settings ⟨ns, name, previous, replicas, true⟩ ∧
      Records scaled id w.db.executions.fresh ⟨ns, name, previous, replicas, true⟩ ∧
      ∀ env' w', Healthy env' ns name →
        Unchanged id w.db.executions.fresh ⟨ns, name, previous, replicas, true⟩ scaled w' →
        ((previous ≤ replicas ∧
          Returns (rollbackScale env' settings id w.db.executions.fresh
            settings.maxTemporaryReplicas) w'
            fun _ w'' ↦ w''.cluster.replicas? ns name = some previous) ↔
          1 ≤ previous ∧ previous ≤ settings.maxTemporaryReplicas) := by
  obtain ⟨previous, hscales, hrecords⟩ :=
    (recorded_process runbooks alert).of_ok ⟨rfl, hstart, rfl, rfl⟩ hrun ns name replicas hscaled
  refine ⟨previous, hscales, hrecords, ?_⟩
  intro env' w' hhealthy hunchanged
  have hrequested : replicas = min (previous + 1) settings.maxTemporaryReplicas :=
    hscales.requested
  constructor
  · rintro ⟨hmore, hreturns⟩
    constructor
    · by_contra hzero
      obtain ⟨row, hrow, -, -, -, hresult, -⟩ := hrecords.row
      rw [← hunchanged.execution] at hrow
      exact rollbackScale_of_zero env' settings _ hrow hresult
        (show previous = 0 by omega) hreturns
    · omega
  · intro hprevious
    constructor
    · omega
    · exact restores hscales hrecords hhealthy hunchanged hprevious

/-! ### The two ways it fails -/

/-- Everything is granted, and a demo deployment has so many replicas. -/
private def counting (replicas : Nat) : Env :=
  listing
    { willing with
      readDeployment := fun _ _ _ ↦
        .ok ⟨some replicas, some replicas, (makePod "demo" true).labels, []⟩ }
    [makePod "demo-a" true]

/-- A saturated demo service. -/
private def saturated : World :=
  start { incidents := [{ memoryIncident with incidentType := "reliability.cpu-saturation" }] }

/-- The run of its alert, with so many replicas. -/
private def scalingRun (replicas : Nat) : Except Exc ProcessingResult × World :=
  (process (counting replicas) .standard cpuSaturationLibrary 0 ⟨"HighCPUSaturation", none, ∅⟩).run
    saturated

theorem scale_reversible_iff_two :
    ∃ scaled previous, Records scaled 0 0 ⟨"cloudward-staging", "cloudward-demo", previous, 3, true⟩ ∧
      ∀ env' w', Healthy env' "cloudward-staging" "cloudward-demo" →
        Unchanged 0 0 ⟨"cloudward-staging", "cloudward-demo", previous, 3, true⟩ scaled w' →
        ((previous ≤ 3 ∧
          Returns (rollbackScale env' .standard 0 0 Settings.standard.maxTemporaryReplicas) w'
            fun _ w'' ↦
              w''.cluster.replicas? "cloudward-staging" "cloudward-demo" = some previous) ↔
          1 ≤ previous ∧ previous ≤ Settings.standard.maxTemporaryReplicas) := by
  have hok : (scalingRun 2).1.isOk = true := by decide +kernel
  have hmem : .mutated (.patchScale "cloudward-staging" "cloudward-demo" 3) ∈
      (scalingRun 2).2.trace := by decide +kernel
  rcases hrun : scalingRun 2 with ⟨e | res, scaled⟩
  · rw [hrun] at hok
    cases hok
  · rw [hrun] at hmem
    have hstart : Unscaled saturated.trace := fun _ _ _ h ↦ absurd h List.not_mem_nil
    obtain ⟨previous, -, hrecords, hiff⟩ := scale_reversible_iff hstart hrun hmem
    exact ⟨scaled, previous, hrecords, hiff⟩

/-- Nine replicas are scaled down to five; and a scale from none cannot be rolled back, though
nothing has changed since and nothing fails. -/
theorem scale_not_reversible :
    .mutated (.patchScale "cloudward-staging" "cloudward-demo" 5) ∈ (scalingRun 9).2.trace ∧
      .mutated (.patchScale "cloudward-staging" "cloudward-demo" 1) ∈ (scalingRun 0).2.trace ∧
      ((rollbackScale (counting 1) .standard 0 0 Settings.standard.maxTemporaryReplicas).run
        (scalingRun 0).2).1.isOk = false := by
  refine ⟨?_, ?_, ?_⟩ <;> decide +kernel

end CloudWard.Reliability
