import CloudWard.Lab.Scenarios
import CloudWard.Remediation.Gitops
import CloudWard.Remediation.Rollback
import CloudWard.Verification.Multisignal
import Mathlib.Data.List.MinMax

/-!
# Reconciling a reliability scenario

`reconcile_execution`, `api/internal_reliability.py:317`: the worker's pass over one execution
of a reliability scenario; a security scenario's is in `Security/Reconcile.lean`. It finds the alert the scenario provoked and the incident of the alert, verifies an incident that
is being verified, and ends the execution with the incident or at its deadline, after its
clean-up. A pass returns the row of the execution as it leaves it; lists and nested objects among
the details are left out.
-/

namespace CloudWard.Lab

open CloudWard.Approvals CloudWard.Db CloudWard.Incidents CloudWard.Kubernetes CloudWard.Logic
  CloudWard.Remediation CloudWard.Security CloudWard.Verification Service

/-- What a pass answers, and the row it leaves. -/
structure Passed where
  result : ReconcileResult
  row : ChaosExecution

/-- The row with further details. -/
def ChaosExecution.noting (x : ChaosExecution) (entries : Parameters) : ChaosExecution :=
  { x with details := merged x.details entries }

/-! ### Cleaning up -/

/-- The plural of a kind that `ChaosMeshScenarioExecutor.cleanup` deletes,
`demo/executor.py:118`. -/
def pluralOf (kind : String) : Option String :=
  [("StressChaos", "stresschaos"), ("PodChaos", "podchaos")].lookup kind

/-- `ChaosMeshScenarioExecutor.cleanup`, `demo/executor.py:117`. -/
def chaosCleanup (env : Env) (settings : Settings) (ns kind name : String) : Service Unit :=
  match pluralOf kind with
  | none => pure ()
  | some plural => deleteTypedCustomObject env settings ns name plural

/-- The resource of an execution whose kind and name are set and not empty. -/
def ChaosExecution.resource (x : ChaosExecution) : Option (String × String) :=
  match x.resourceKind, x.resourceName with
  | some kind, some name => if kind ≠ "" ∧ name ≠ "" then some (kind, name) else none
  | _, _ => none

/-- The clean-up of the resource, `api/internal_reliability.py:551`; `ensure_known_good` is
`revert_to_known_good` but for its commit message. -/
def cleanupResource (env : Env) (settings : Settings) (x : ChaosExecution) : Service Unit :=
  match x.resource with
  | none => pure ()
  | some (kind, name) =>
    if kind = "GitOpsRevision" then do
      revertToKnownGood env settings
      -- the audit row's flush
      flush env
    else chaosCleanup env settings x.targetNamespace kind name

/-- The incident that the details name; identities are positions. -/
def recordedIncident (details : Parameters) : Option Nat :=
  match param details "incident_id" with
  | some (.int id) => some id
  | _ => none

/-- The scale of an incident with the highest attempt, `api/internal_reliability.py:594`. -/
def latestScale (db : Database) (incidentId : Nat) : Option (ActionExecution × Nat) :=
  (db.executions.zipIdx.filter fun e ↦
    e.1.incidentId = incidentId ∧ e.1.actionType = .scaleStagingDeployment ∧
      e.1.rollbackOfExecutionId = none).argmax (·.1.attempt)

/-- The rollback that `RollbackCoordinator.decide` is asked for, `api/internal_reliability.py:620`
and `api/internal_reliability.py:501`. -/
def scaleDisposition (settings : Settings) (incident : Incident) (action : ActionType)
    (policy : Option (Nat × PolicyDecision)) : RollbackDisposition :=
  decideRollback settings.automaticRollbackMaxRisk action (incident.riskScore.getD 100) true
    (policy.any (·.2.allowed))

/-- The scale is undone, and the deployment asked for it; `nsOf` names the namespace it is looked
up in, of the rollback's result. -/
def undoRecordedScale (env : Env) (settings : Settings) (incidentId scaleId : Nat)
    (incident : Incident) (scale : ActionExecution) (nsOf : Parameters → String) :
    Service Unit := do
  let policy ← query env (·.policyDecisions.latest (·.incidentId = incidentId))
  require (scaleDisposition settings incident scale.actionType policy = .automatic)
    ⟨"SCENARIO_SCALE_CLEANUP_DENIED", "Temporary scale cleanup was not authorized", 409⟩
  let rollbackId ← rollbackScale env settings incidentId scaleId settings.maxTemporaryReplicas
  let rollback ← loadExecution rollbackId
  let restored ← Exec.ofExcept (countOf rollback.result "requested_replicas")
  let deployment ← getDeployment env (nsOf rollback.result)
    (textOf rollback.result "deployment")
  require (deployment.desiredReplicas = restored)
    ⟨"SCENARIO_SCALE_CLEANUP_FAILED", "Temporary replica count was not restored", 502⟩

/-- The scale of an incident that is still in force, undone; `api/internal_reliability.py:584`
and, with another namespace, `_restore_temporary_scale`, `api/incident_lab.py:441`. -/
def undoScale (env : Env) (settings : Settings) (details : Parameters)
    (nsOf : Parameters → String) : Service Unit :=
  match recordedIncident details with
  | none => pure ()
  | some incidentId => do
    let incident ← query env (·.incidents[incidentId]?)
    let found ← query env (latestScale · incidentId)
    match incident, found with
    | some incident, some (scale, scaleId) =>
      Exec.when (scale.status = .succeeded ∧ scale.rolledBackAt = none)
        (undoRecordedScale env settings incidentId scaleId incident scale nsOf)
    | _, _ => pure ()

/-- `_cleanup`, `api/internal_reliability.py:545`. -/
def cleanup (env : Env) (settings : Settings) (x : ChaosExecution) : Service Unit := do
  cleanupResource env settings x
  Exec.when (x.scenarioId = "reliability.cpu-saturation")
    (undoScale env settings x.details fun _ ↦ x.targetNamespace)

/-! ### Ends of a pass -/

/-- A pass that returns before it commits. -/
def waiting (x : ChaosExecution) (detail : String) (retryAfterSeconds : Nat := 5) : Passed where
  result := { terminal := false, status := x.status, detail, retryAfterSeconds }
  row := x

/-- A pass that commits the row and goes on later. -/
def active (env : Env) (x : ChaosExecution) (detail : String) (retryAfterSeconds : Nat := 5) :
    Service Passed := do
  flush env
  commit env
  return {
    result := { terminal := false, status := x.status, detail, retryAfterSeconds }
    row := x }

/-- The row of an execution that ended. -/
def ended (x : ChaosExecution) (status : ExperimentStatus) (now : Nat)
    (failureReason : Option String) (currentStep : String) : ChaosExecution :=
  { x.noting [("current_step", .str currentStep)] with
    status := status
    completedAt := some now
    cleanupCompletedAt := some now
    failureReason := failureReason.or x.failureReason }

/-- A pass that cleans up and ends the execution. -/
def conclude (env : Env) (settings : Settings) (x : ChaosExecution) (status : ExperimentStatus)
    (now : Nat) (failureReason : Option String) (currentStep detail : String) :
    Service Passed := do
  cleanup env settings x
  flush env
  commit env
  return {
    result := { terminal := true, status, detail }
    row := ended x status now failureReason currentStep }

/-! ### Verifying the incident -/

/-- The verifications of an incident. -/
def recordsOf (db : Database) (incidentId : Nat) : List VerificationRecord :=
  db.verificationRecords.filter (·.incidentId = incidentId)

/-- The execution of an incident with the highest attempt, `api/internal_reliability.py:460`. -/
def latestAction (db : Database) (incidentId : Nat) : Option (ActionExecution × Nat) :=
  (db.executions.zipIdx.filter (·.1.incidentId = incidentId)).argmax (·.1.attempt)

/-- `source`, `api/internal_reliability.py:469`. -/
def resolutionSource (x : ChaosExecution) (action : Option ActionExecution) : ResolutionSource :=
  if x.scenarioId = "reliability.platform-self-healing" ∨
      action.all (·.status ≠ .succeeded) then .platformSelfHealing
  else .cloudwardRemediation

/-- The scale of a verification that failed is rolled back where that is automatic,
`api/internal_reliability.py:485`. -/
def rollBackScale (env : Env) (settings : Settings) (incidentId : Nat) :
    Option (ActionExecution × Nat) → Service Unit
  | none => pure ()
  | some (action, actionId) =>
    Exec.when (action.actionType = .scaleStagingDeployment ∧
        action.rollbackOfExecutionId = none ∧ action.rolledBackAt = none) do
      let policy ← query env (·.policyDecisions.latest (·.incidentId = incidentId))
      let incident ← loadIncident incidentId
      Exec.when (scaleDisposition settings incident action.actionType policy = .automatic) do
        let _ ← rollbackScale env settings incidentId actionId settings.maxTemporaryReplicas

section Passes

variable {F : Type} [LE F] [DecidableLE F]

/-- The plan of a pass, `api/internal_reliability.py:445`. -/
def planOf (x : ChaosExecution) (alert : AlertRecord) (name : String) (desired : Nat)
    (h : 1 ≤ desired ∧ desired ≤ 20) : VerificationPlan where
  ns := x.targetNamespace
  deployment := name
  labelSelector := "cloudward.io/demo-target=true"
  serviceName := alert.service
  expectedReplicas := desired
  expectedReplicas_mem := h

/-- One verification and what follows from it, `api/internal_reliability.py:437`. -/
def verifyOnce (env : Env) (settings : Settings) (m : Metrics F) (x : ChaosExecution)
    (alert : AlertRecord) (incidentId : Nat) (name : String) (desired count : Nat) :
    Service Unit :=
  if h : 1 ≤ desired ∧ desired ≤ 20 then do
    let result ← verify env m (planOf x alert name desired h)
    let action ← query env (latestAction · incidentId)
    persistVerification env settings incidentId result (count + 1) (action.map (·.2))
      (resolutionSource x (action.map (·.1)))
    Exec.when (¬ result.success) (rollBackScale env settings incidentId action)
  else throw .validation

/-- The bounded metric window of a bad deployment is open, `api/internal_reliability.py:424`. -/
def windowOpen (records : List VerificationRecord) (now : Nat) : Bool :=
  (records.map (·.completedAt)).max?.any (now < · + 60)

/-- The deployment of an alert. -/
def deploymentOf (alert : AlertRecord) : String :=
  (alert.labels.lookup "deployment").getD "cloudward-demo"

/-- A pass over an incident that is being verified, up to its verification: how it ends where it
does not get so far, `api/internal_reliability.py:396`. `loaded` is the row before the pass set
its details. -/
def verifyIncident (env : Env) (settings : Settings) (m : Metrics F)
    (loaded x : ChaosExecution) (now : Nat) (alert : AlertRecord) (incidentId : Nat) :
    Service (Option Passed) := do
  let name := deploymentOf alert
  let deployment ← getDeployment env x.targetNamespace name
  let badDeployment := x.scenarioId = "reliability.bad-deployment"
  if badDeployment ∧ ¬ deployment.containerImages.any (·.endsWith ":local") then do
    let passed ← active env
      (x.noting [("current_step", .str "WAITING_FOR_ARGO_KNOWN_GOOD_REVISION")])
      "waiting for Argo CD to roll out the known-good image" 10
    return some passed
  else do
    let records ← query env (recordsOf · incidentId)
    if badDeployment ∧ windowOpen records now then
      return some (waiting loaded "waiting for the bounded post-remediation metric window" 10)
    else do
      Exec.when (records.length < 3)
        (verifyOnce env settings m x alert incidentId name deployment.desiredReplicas
          records.length)
      return none

/-- The end of a pass, `api/internal_reliability.py:516`. -/
def concludeReliability (env : Env) (settings : Settings) (x : ChaosExecution)
    (now incidentId : Nat) : Service Passed := do
  let incident ← loadIncident incidentId
  if incident.state = .resolved then
    conclude env settings x .succeeded now none "COMPLETED" "incident verified"
  else if incident.state ∈ [.blocked, .escalated] then
    conclude env settings x .failed now (some ("incident ended in " ++ incident.state.value))
      "FAILED" ("incident ended in " ++ incident.state.value)
  else active env x "incident workflow is still active"

/-- The details that a pass sets once it has found its incident. -/
def located (x : ChaosExecution) (incidentId : Nat) (incident : Incident) : ChaosExecution :=
  x.noting [("incident_id", .int incidentId),
    ("current_step", .str ("INCIDENT_" ++ incident.state.value))]

/-- The verification of a pass, where its incident is being verified. -/
def verifyWhere (env : Env) (settings : Settings) (m : Metrics F) (loaded x : ChaosExecution)
    (now : Nat) (alert : AlertRecord) (incidentId : Nat) (incident : Incident) :
    Service (Option Passed) :=
  if incident.state = .verifying then
    verifyIncident env settings m loaded x now alert incidentId
  else return none

/-- A pass over the incident of the scenario, `api/internal_reliability.py:391`. -/
def passIncident (env : Env) (settings : Settings) (m : Metrics F) (x : ChaosExecution)
    (now : Nat) (alert : AlertRecord) (incidentId : Nat) (incident : Incident) :
    Service Passed := do
  let located := located x incidentId incident
  let early ← verifyWhere env settings m x located now alert incidentId incident
  match early with
  | some passed => return passed
  | none => concludeReliability env settings located now incidentId

/-- The alert of a scenario, `api/internal_reliability.py:370`. -/
def scenarioAlert (db : Database) (x : ChaosExecution) : Option AlertRecord :=
  (db.alerts.filter fun r ↦
    r.alertName = x.expectedAlert ∧ x.createdAt ≤ r.lastReceivedAt).argmax (·.lastReceivedAt)

/-- A pass before the deadline, `api/internal_reliability.py:369`. -/
def passAlert (env : Env) (settings : Settings) (m : Metrics F) (x : ChaosExecution)
    (now : Nat) : Service Passed := do
  let alert ← query env (scenarioAlert · x)
  match alert with
  | none => return waiting x "waiting for the expected authenticated alert"
  | some alert =>
    match alert.incidentId with
    | none => return waiting x "waiting for the expected authenticated alert"
    | some incidentId => do
      let incident ← query env (·.incidents[incidentId]?)
      match incident with
      | none => return waiting x "waiting for correlated incident"
      | some incident => passIncident env settings m x now alert incidentId incident

/-- The reason of a reliability scenario that times out. -/
def timedOutReason : String :=
  "expected verified incident lifecycle did not finish before deadline"

/-- `reconcile_execution` for an active reliability scenario, `api/internal_reliability.py:355`. -/
def reconcileReliability (env : Env) (settings : Settings) (m : Metrics F)
    (x : ChaosExecution) : Service Passed := do
  let now ← ask env.now
  if x.cleanupDeadline ≤ now then
    conclude env settings x .timedOut now (some timedOutReason) "TIMED_OUT" timedOutReason
  else passAlert env settings m x now

/-- The call of `reconcile_execution` for a reliability scenario,
`api/internal_reliability.py:317`. -/
def reconcileExecution (env : Env) (settings : Settings) (m : Metrics F) (x : ChaosExecution) :
    Service Passed := do
  -- `session.get(ChaosExecution, execution_id, with_for_update=True)`
  flush env
  if x.active then reconcileReliability env settings m x
  else return {
    result := { terminal := true, status := x.status, detail := "execution is already terminal" }
    row := x }

end Passes

/-! ### What a clean-up leaves unchanged -/

section Frames

variable {ω : Type} {f : World → ω} (htick : ∀ w n, f { w with tick := n } = f w)
variable (htrace : ∀ w t, f { w with trace := t } = f w)
variable (hcluster : ∀ w c, f { w with cluster := c } = f w)
include htick htrace hcluster

theorem frames_revertToKnownGood (env : Env) (settings : Settings) :
    Exec.Frames f (revertToKnownGood env settings) := by
  apply Exec.frames_bind
  · exact Exec.frames_bind (Exec.frames_require _ _) fun _ ↦
      Exec.frames_bind (Exec.frames_require _ _) fun _ ↦ Exec.frames_require _ _
  intro _
  apply Exec.frames_bind (frames_call _ htick)
  intro tag
  apply Exec.frames_bind (Exec.frames_require _ _)
  intro _
  exact Exec.frames_when fun _ ↦ frames_send htick htrace hcluster env _

theorem frames_cleanupResource (env : Env) (settings : Settings) (x : ChaosExecution) :
    Exec.Frames f (cleanupResource env settings x) := by
  unfold cleanupResource
  split
  · exact Exec.frames_pure _
  · apply Exec.frames_ite
    · exact Exec.frames_bind (frames_revertToKnownGood htick htrace hcluster env settings)
        fun _ ↦ frames_flush env htick
    · unfold chaosCleanup
      split
      · exact Exec.frames_pure _
      · apply Exec.frames_bind (frames_requireNamespace _ _)
        intro _
        apply Exec.frames_bind (frames_validateName _ _)
        intro _
        apply Exec.frames_tryCatch (frames_call _ htick)
        exact fun _ ↦ Exec.frames_ite (Exec.frames_pure _) (Exec.frames_throw _)

variable (hexecutions : ∀ w t, f { w with db := { w.db with executions := t } } = f w)
include hexecutions

theorem frames_undoRecordedScale (env : Env) (settings : Settings) (incidentId scaleId : Nat)
    (incident : Incident) (scale : ActionExecution) (nsOf : Parameters → String) :
    Exec.Frames f (undoRecordedScale env settings incidentId scaleId incident scale nsOf) := by
  apply Exec.frames_bind (frames_query env _ htick)
  intro policy
  apply Exec.frames_bind (Exec.frames_require _ _)
  intro _
  apply Exec.frames_bind
    (frames_rollbackScale htick htrace hcluster hexecutions env settings _ _ _)
  intro rollbackId
  apply Exec.frames_bind (frames_loadExecution _)
  intro rollback
  apply Exec.frames_bind (Exec.frames_ofExcept _)
  intro restored
  apply Exec.frames_bind (frames_getDeployment htick env _ _)
  intro deployment
  exact Exec.frames_require _ _

theorem frames_undoScale (env : Env) (settings : Settings) (details : Parameters)
    (nsOf : Parameters → String) : Exec.Frames f (undoScale env settings details nsOf) := by
  unfold undoScale
  split
  · exact Exec.frames_pure _
  · apply Exec.frames_bind (frames_query env _ htick)
    intro incident
    apply Exec.frames_bind (frames_query env _ htick)
    intro found
    split
    · exact Exec.frames_when fun _ ↦
        frames_undoRecordedScale htick htrace hcluster hexecutions env settings _ _ _ _ _
    · exact Exec.frames_pure _

/-- A clean-up changes executions, the cluster and the trace. -/
theorem frames_cleanup (env : Env) (settings : Settings) (x : ChaosExecution) :
    Exec.Frames f (cleanup env settings x) :=
  Exec.frames_bind (frames_cleanupResource htick htrace hcluster env settings x) fun _ ↦
    Exec.frames_when fun _ ↦
      frames_undoScale htick htrace hcluster hexecutions env settings _ _

/-- So does the rollback of a verification that failed. -/
theorem frames_rollBackScale (env : Env) (settings : Settings) (incidentId : Nat)
    (action : Option (ActionExecution × Nat)) :
    Exec.Frames f (rollBackScale env settings incidentId action) := by
  unfold rollBackScale
  split
  · exact Exec.frames_pure _
  · apply Exec.frames_when
    intro _
    apply Exec.frames_bind (frames_query env _ htick)
    intro policy
    apply Exec.frames_bind (frames_loadIncident _)
    intro incident
    apply Exec.frames_when
    intro _
    exact Exec.frames_bind
      (frames_rollbackScale htick htrace hcluster hexecutions env settings _ _ _)
      fun _ ↦ Exec.frames_pure _

end Frames

end CloudWard.Lab
