import CloudWard.Kubernetes.Executor
import CloudWard.Remediation.Execution

/-!
# Undoing a temporary scale

`RollbackCoordinator`, `remediation/execution.py:194`: whether a rollback runs by itself, and
the one rollback there is. It re-reads the counts that the scale recorded in its result and
scales back, under the same bounds as any scale.
-/

namespace CloudWard.Remediation

open CloudWard.Approvals CloudWard.Db CloudWard.Incidents CloudWard.Kubernetes CloudWard.Logic
  CloudWard.Risk Service

/-- `RollbackDisposition`, `remediation/execution.py:187`. -/
inductive RollbackDisposition
  | automatic
  | awaitingApproval
  | escalate
  | notAvailable
deriving DecidableEq, Repr

/-- `RollbackCoordinator.decide`, `remediation/execution.py:198`. -/
def decideRollback (automaticMaxRisk : Nat) (action : ActionType) (riskScore : Nat)
    (rollbackEnabled policyAllowsRollback : Bool) : RollbackDisposition :=
  let metadata := getActionMetadata action
  if ¬ rollbackEnabled ∨ ¬ metadata.reversible ∨ ¬ metadata.rollbackCapable then .notAvailable
  else if ¬ policyAllowsRollback then .escalate
  else if metadata.persistent then
    if riskScore < 70 then .awaitingApproval else .escalate
  else if riskScore ≤ automaticMaxRisk then .automatic
  else if riskScore < 70 then .awaitingApproval
  else .escalate

/-- `int(result.get(key, 0))` of a stored result; Python raises a `ValueError` or a
`TypeError` for what is no number. -/
def countOf (result : Parameters) (key : String) : Except Exc Nat :=
  match param result key with
  | none => .ok 0
  | some (.int n) => .ok n
  | some (.bool b) => .ok b.toNat
  | some (.str s) => s.toNat?.elim (.error .validation) .ok
  | some _ => .error .validation

/-- `str(result.get(key, ""))` of a stored result. -/
def textOf (result : Parameters) (key : String) : String :=
  (param result key).elim "" fun value ↦ text (some value)

/-- The execution row of a rollback, `remediation/execution.py:259`. -/
def rollbackRow (incidentId failedId : Nat) (failed : ActionExecution) (previous : Nat)
    (h : failed.attempt < 3) : ActionExecution where
  incidentId := incidentId
  proposalId := failed.proposalId
  actionType := .scaleStagingDeployment
  attempt := failed.attempt + 1
  status := .running
  idempotencyKey := some (.rollback failedId previous)
  rollbackOfExecutionId := some failedId
  attempt_mem := ⟨Nat.le_add_left 1 _, h⟩

/-- The error of a rollback after the third attempt. -/
def noRollbackAttempt : CloudWardError :=
  ⟨"REMEDIATION_ATTEMPT_LIMIT",
    "No rollback attempt remains after the third automatic action", 409⟩

/-- The scale of a rollback and its records, `remediation/execution.py:272`. -/
def restore (env : Env) (settings : Settings) (failedId rollbackId : Nat)
    (ns deployment : String) (previous requested maximumReplicas : Nat) : Service Nat := do
  let scaled ← scaleStagingDeployment env settings ns deployment previous maximumReplicas
    (some requested)
  updateExecution rollbackId fun execution ↦
    { execution with status := .succeeded, result := scaled.toDict }
  let now ← ask env.now
  updateExecution failedId fun execution ↦ { execution with rolledBackAt := some now }
  -- the audit row's flush, the stream row's and the last one
  flush env
  flush env
  flush env
  return rollbackId

/-- `RollbackCoordinator.rollback_scale`, `remediation/execution.py:223`. -/
def rollbackScale (env : Env) (settings : Settings) (incidentId failedId : Nat)
    (maximumReplicas : Nat) : Service Nat := do
  let incident ← loadIncident incidentId
  let _ ← Exec.ofExcept (requireExecutableAction .scaleStagingDeployment incident.environment)
  let failed ← loadExecution failedId
  let previous ← Exec.ofExcept (countOf failed.result "previous_replicas")
  let requested ← Exec.ofExcept (countOf failed.result "requested_replicas")
  require (1 ≤ previous ∧ 1 ≤ requested)
    ⟨"ROLLBACK_STATE_UNAVAILABLE",
      "Recorded scale execution is missing a valid previous state", 409⟩
  let proposal ← query env (·.proposals[failed.proposalId]?)
  match proposal with
  | none => raise ⟨"ACTION_PROPOSAL_NOT_FOUND", "Rollback proposal was not found", 404⟩
  | some _ =>
    if h : failed.attempt < 3 then do
      let rollbackId ← insertExecution env
        (rollbackRow incidentId failedId failed previous h)
      restore env settings failedId rollbackId (textOf failed.result "namespace")
        (textOf failed.result "deployment") previous requested maximumReplicas
    else raise noRollbackAttempt

/-! ### What a rollback leaves unchanged -/

/-- A rollback changes executions, the cluster and the trace. -/
theorem frames_rollbackScale {ω : Type} {f : World → ω}
    (htick : ∀ w n, f { w with tick := n } = f w)
    (htrace : ∀ w t, f { w with trace := t } = f w)
    (hcluster : ∀ w c, f { w with cluster := c } = f w)
    (hexecutions : ∀ w t, f { w with db := { w.db with executions := t } } = f w)
    (env : Env) (settings : Settings) (incidentId failedId maximumReplicas : Nat) :
    Exec.Frames f (rollbackScale env settings incidentId failedId maximumReplicas) := by
  have hflush : Exec.Frames f (flush env) := frames_flush env htick
  have hupdate (id : Nat) (g : ActionExecution → ActionExecution) :
      Exec.Frames f (updateExecution id g) := Exec.frames_update fun w ↦ hexecutions w _
  apply Exec.frames_bind (frames_loadIncident _)
  intro incident
  apply Exec.frames_bind (Exec.frames_ofExcept _)
  intro _
  apply Exec.frames_bind (frames_loadExecution _)
  intro failed
  apply Exec.frames_bind (Exec.frames_ofExcept _)
  intro previous
  apply Exec.frames_bind (Exec.frames_ofExcept _)
  intro requested
  apply Exec.frames_bind (Exec.frames_require _ _)
  intro _
  apply Exec.frames_bind (frames_query env _ htick)
  intro proposal
  cases proposal with
  | none => exact Exec.frames_throw _
  | some proposal =>
    simp only
    split
    · apply Exec.frames_bind (frames_insertExecution_of_table htick hexecutions env _)
      intro rollbackId
      apply Exec.frames_bind
        (frames_scaleStagingDeployment htick htrace hcluster env settings _ _ _ _ _)
      intro scaled
      apply Exec.frames_bind (hupdate _ _)
      intro _
      apply Exec.frames_bind (frames_ask _ htick)
      intro now
      apply Exec.frames_bind (hupdate _ _)
      intro _
      exact Exec.frames_bind hflush fun _ ↦ Exec.frames_bind hflush fun _ ↦
        Exec.frames_bind hflush fun _ ↦ Exec.frames_pure _
    · exact Exec.frames_throw _

/-! ### Reading a recorded scale -/

section Recorded

variable (r : DeploymentScaleResult)

@[simp] theorem textOf_namespace : textOf r.toDict "namespace" = r.ns := rfl

@[simp] theorem textOf_deployment : textOf r.toDict "deployment" = r.deployment := rfl

@[simp] theorem countOf_previous :
    countOf r.toDict "previous_replicas" = .ok r.previousReplicas := rfl

@[simp] theorem countOf_requested :
    countOf r.toDict "requested_replicas" = .ok r.requestedReplicas := rfl

end Recorded

/-! ### Rollbacks that succeed, and one that cannot -/

section Outcome

variable {w : World} {env : Env} {settings : Settings} {id x : Nat} {row : ActionExecution}
variable {r : DeploymentScaleResult} {maximum : Nat}

/-- A recorded scale of a deployment that nothing else changed is undone, if its previous count
is one that a scale may ask for. -/
theorem returns_rollbackScale (hq : Quiet env) {incident : Incident}
    (hincident : w.db.incidents[id]? = some incident)
    (hexecutable : incident.environment ∈
      (getActionMetadata .scaleStagingDeployment).allowedEnvironments)
    (hrow : w.db.executions[x]? = some row) (hresult : row.result = r.toDict)
    (hrequested : 1 ≤ r.requestedReplicas)
    (hprevious : 1 ≤ r.previousReplicas ∧ r.previousReplicas ≤ maximum)
    (hattempt : row.attempt < 3) (hproposal : (w.db.proposals[row.proposalId]?).isSome)
    (hunique : executionIsUnique w.db.executions
      (rollbackRow id x row r.previousReplicas hattempt))
    (hns : r.ns = "cloudward-staging") (hname : validName r.deployment)
    (hallowed : "cloudward-staging" ∈ settings.allowedNamespaces) {deployment : V1Deployment}
    (hread : ∀ w', w'.cluster = w.cluster →
      env.readDeployment w' "cloudward-staging" r.deployment = .ok deployment)
    (hdemo : isDemoTarget deployment.templateLabels)
    (hcurrent : deployment.replicas.getD 0 = r.requestedReplicas)
    (hdone : ∀ w m, env.request w m = .done) :
    Returns (rollbackScale env settings id x maximum) w fun _ w' ↦
      w'.cluster = w.cluster.apply
        (.patchScale "cloudward-staging" r.deployment r.previousReplicas) := by
  have hmetadata := requireExecutableAction_eq_ok.mpr ⟨hexecutable, rfl, rfl⟩
  obtain ⟨proposal, hproposal⟩ := Option.isSome_iff_exists.mp hproposal
  apply returns_bind (reaches_loadIncident hincident)
  intro _
  apply returns_bind (reaches_ofExcept hmetadata)
  intro _
  apply returns_bind
  · apply reaches_bind (reaches_read _ _)
    intro _
    simp only [hrow]
    exact reaches_pure row _
  intro _
  apply returns_bind (reaches_ofExcept (by rw [hresult]; exact countOf_previous r))
  intro _
  apply returns_bind (reaches_ofExcept (by rw [hresult]; exact countOf_requested r))
  intro _
  apply returns_bind (reaches_require ⟨hprevious.1, hrequested⟩)
  intro _
  apply returns_bind (reaches_query hq _ _)
  intro _
  simp only [hproposal]
  rw [dif_pos hattempt]
  apply returns_bind (reaches_insertExecution hq (by exact hunique))
  intro n
  rw [hresult, textOf_namespace, textOf_deployment, hns]
  apply returns_bind
  · exact reaches_scaleStagingDeployment hname hallowed
      ⟨hprevious.1, by omega, hprevious.2⟩ hread hdemo hcurrent fun w ↦ hdone w _
  intro _
  apply returns_bind (reaches_write _ _)
  intro _
  apply returns_bind (reaches_ask _ _)
  intro _
  apply returns_bind (reaches_write _ _)
  intro _
  apply returns_bind (reaches_flush hq _)
  intro _
  apply returns_bind (reaches_flush hq _)
  intro _
  apply returns_bind (reaches_flush hq _)
  intro _
  exact (reaches_pure _ _).returns fun _ ↦ rfl

/-- A scale from zero replicas is never undone. -/
theorem rollbackScale_of_zero (env : Env) (settings : Settings) (maximum : Nat)
    (hrow : w.db.executions[x]? = some row) (hresult : row.result = r.toDict)
    (hprevious : r.previousReplicas = 0) {Q : Nat → World → Prop} :
    ¬ Returns (rollbackScale env settings id x maximum) w Q := by
  have hraises : Exec.Triple (fun w ↦ w.db.executions[x]? = some row)
      (rollbackScale env settings id x maximum) (fun _ _ ↦ False) fun _ _ ↦ True := by
    apply Exec.Triple.bind
    · exact (frames_loadIncident (f := World.db) id).returns fun db ↦
        db.executions[x]? = some row
    intro incident
    apply Exec.Triple.bind
      (Q := fun _ w ↦ w.db.executions[x]? = some row)
    · exact Exec.Triple.ofExcept (fun _ _ _ hw ↦ hw) fun _ _ _ _ ↦ trivial
    intro _
    apply Exec.Triple.bind (Q := fun failed _ ↦ failed = row)
    · intro w hw
      unfold loadExecution
      rw [Exec.run_bind_of_ok (Exec.run_read _ w), hw]
      rfl
    intro failed
    apply Exec.Triple.bind (Q := fun previous _ ↦ True ∧ previous = 0)
    · rintro w rfl
      rw [hresult, countOf_previous, hprevious]
      exact ⟨trivial, rfl⟩
    intro previous
    apply Exec.Triple.assume
    rintro rfl
    apply Exec.Triple.bind (Q := fun _ _ ↦ True)
    · exact Exec.Triple.ofExcept (fun _ _ _ _ ↦ trivial) fun _ _ _ _ ↦ trivial
    intro requested
    apply Exec.Triple.bind (Q := fun _ _ ↦ False)
    · exact Exec.Triple.require (fun h ↦ absurd h.1 (Nat.not_succ_le_zero 0))
        fun _ _ _ ↦ trivial
    · exact fun _ _ hw ↦ absurd hw not_false
  rintro ⟨a, w', hrun, -⟩
  exact hraises.of_ok hrow hrun

end Outcome

end CloudWard.Remediation
