import CloudWard.Lab.Attributed
import CloudWard.Remediation.Restores
import CloudWard.Security.Raising
import CloudWard.Security.Reconcile

/-!
# Executions at their deadline

A pass at or after the clean-up deadline, `api/internal_reliability.py:355`, cleans up before it
writes that the execution timed out, so what the clean-up raises keeps the execution active. Only
a pass over a security scenario catches it (`api/internal_reliability.py:861`).
-/

namespace CloudWard.Lab

open CloudWard.Db CloudWard.Incidents CloudWard.Kubernetes CloudWard.Logic CloudWard.Remediation
  CloudWard.Security CloudWard.Verification Service

variable {env : Env} {settings : Settings} {x : ChaosExecution} {w : World}

/-! ### The resource -/

/-- The resource of an execution can be cleaned up. -/
def Releasable (env : Env) (settings : Settings) (x : ChaosExecution) (w : World) : Prop :=
  ∀ resource ∈ x.resource,
    if resource.1 = "GitOpsRevision" then Revertible env settings w
    else ∀ plural ∈ pluralOf resource.1,
      Deletable env settings w x.targetNamespace plural resource.2

/-- The world that the clean-up of the resource leaves. -/
def released (env : Env) (x : ChaosExecution) (w : World) : World :=
  match x.resource with
  | none => w
  | some (kind, _) =>
    if kind = "GitOpsRevision" then (reverted env w).later 1
    else if (pluralOf kind).isSome then w.later 1
    else w

theorem returns_cleanupResource_iff (hq : Quiet env) {Q : Unit → World → Prop} :
    Returns (cleanupResource env settings x) w Q ↔
      Releasable env settings x w ∧ Q () (released env x w) := by
  unfold cleanupResource Releasable released
  cases hresource : x.resource with
  | none => simp [returns_pure_iff]
  | some resource =>
    obtain ⟨kind, name⟩ := resource
    simp only [Option.mem_some_iff, forall_eq']
    by_cases hkind : kind = "GitOpsRevision"
    · simp only [if_pos hkind, returns_bind_iff, returns_revertToKnownGood_iff,
        returns_flush_iff hq]
    · simp only [if_neg hkind, chaosCleanup]
      cases hplural : pluralOf kind with
      | none => simp [returns_pure_iff]
      | some plural => simp [returns_deleteTypedCustomObject_iff]

theorem db_released : (released env x w).db = w.db := by
  unfold released reverted
  split
  · rfl
  · split
    · split
      · split <;> rfl
      · rfl
    · split <;> rfl

/-! ### The scale -/

/-- The latest scale of an incident is a row of it. -/
theorem latestScale_eq_some {db : Database} {incidentId scaleId : Nat} {scale : ActionExecution}
    (h : latestScale db incidentId = some (scale, scaleId)) :
    db.executions[scaleId]? = some scale ∧ scale.actionType = .scaleStagingDeployment := by
  obtain ⟨hmem, hmatches⟩ := List.mem_filter.mp (List.argmax_mem h)
  exact ⟨List.mem_zipIdx_iff_getElem?.mp hmem, (of_decide_eq_true hmatches).2.1⟩

/-- A temporary scale can be undone and is found undone: its rollback runs by itself and goes
through, and the deployment asks for the former count afterwards. -/
def Undoable (env : Env) (settings : Settings) (w : World) (incidentId scaleId : Nat)
    (incident : Incident) (scale : ActionExecution) (nsOf : Parameters → String) : Prop :=
  scaleDisposition settings incident scale.actionType
      (w.db.policyDecisions.latest (·.incidentId = incidentId)) = .automatic ∧
    incident.environment ∈ (getActionMetadata .scaleStagingDeployment).allowedEnvironments ∧
    ∃ previous requested,
      ∃ h : Restorable env settings (w.later 1) incidentId scaleId settings.maxTemporaryReplicas
        scale previous requested,
      let ns := nsOf (scaleBack scale previous requested).toDict
      let name := textOf scale.result "deployment"
      validName ns ∧ validName name ∧
        ∃ d, env.readDeployment
            (rolledBack env (w.later 1) incidentId scaleId scale previous requested h.attempt)
            ns name = .ok d ∧
          d.replicas.getD 0 = previous

/-- The row of a rollback holds the scale that it made. -/
theorem result_rolledBack (env : Env) {incidentId failedId : Nat} {failed : ActionExecution}
    (previous requested : Nat) (h : failed.attempt < 3)
    (hfailed : w.db.executions[failedId]? = some failed) :
    ∃ row, (rolledBack env w incidentId failedId failed previous requested h).db.executions[
        w.db.executions.fresh]? = some row ∧
      row.result = (scaleBack failed previous requested).toDict := by
  have hne : failedId ≠ w.db.executions.fresh :=
    Nat.ne_of_lt (List.getElem?_eq_some_iff.mp hfailed).1
  refine ⟨{ rollbackRow incidentId failedId failed previous h with
    status := .succeeded, result := (scaleBack failed previous requested).toDict }, ?_, rfl⟩
  change ((((w.db.executions.insert _).update w.db.executions.fresh _).update failedId _ :
    Table ActionExecution)[w.db.executions.fresh]?) = _
  rw [Table.getElem?_update_of_ne _ _ hne, Table.update_insert_fresh, Table.getElem?_insert_fresh]

theorem returns_undoRecordedScale_iff (hq : Quiet env) {incidentId scaleId : Nat}
    {incident : Incident} {scale : ActionExecution} {nsOf : Parameters → String}
    (hincident : w.db.incidents[incidentId]? = some incident)
    (hscale : w.db.executions[scaleId]? = some scale) :
    Returns (undoRecordedScale env settings incidentId scaleId incident scale nsOf) w
        (fun _ _ ↦ True) ↔
      Undoable env settings w incidentId scaleId incident scale nsOf := by
  have hincident' : (w.later 1).db.incidents[incidentId]? = some incident := hincident
  have hscale' : (w.later 1).db.executions[scaleId]? = some scale := hscale
  unfold undoRecordedScale Undoable
  rw [returns_bind_iff, returns_query_iff hq, returns_bind_iff, returns_require_iff,
    returns_bind_iff, returns_rollbackScale_iff hq hincident' hscale']
  apply and_congr_right
  intro _
  apply and_congr_right
  intro _
  apply exists_congr
  intro previous
  apply exists_congr
  intro requested
  apply exists_congr
  intro h
  obtain ⟨row, hrow, hresult⟩ := result_rolledBack env previous requested h.attempt hscale'
  rw [returns_bind_iff, returns_loadExecution_iff hrow, hresult, returns_bind_iff,
    returns_ofExcept_iff, countOf_requested]
  simp only [returns_bind_iff, returns_getDeployment_iff, returns_require_iff, Except.ok.injEq,
    exists_eq_left', textOf_deployment, and_true]
  rfl

/-- The scale of the recorded incident, where one is in force, can be undone. -/
def ScaleUndoable (env : Env) (settings : Settings) (details : Parameters)
    (nsOf : Parameters → String) (w : World) : Prop :=
  ∀ incidentId ∈ recordedIncident details, ∀ incident ∈ w.db.incidents[incidentId]?,
    ∀ scale ∈ latestScale w.db incidentId,
      scale.1.status = .succeeded → scale.1.rolledBackAt = none →
        Undoable env settings (w.later 2) incidentId scale.2 incident scale.1 nsOf

theorem returns_undoScale_iff (hq : Quiet env) {details : Parameters}
    {nsOf : Parameters → String} :
    Returns (undoScale env settings details nsOf) w (fun _ _ ↦ True) ↔
      ScaleUndoable env settings details nsOf w := by
  unfold undoScale ScaleUndoable
  cases recordedIncident details with
  | none => simp [returns_pure_iff]
  | some incidentId =>
    simp only [Option.mem_some_iff, forall_eq']
    rw [returns_bind_iff, returns_query_iff hq, returns_bind_iff, returns_query_iff hq,
      World.later_later, World.db_later]
    cases hincident : w.db.incidents[incidentId]? with
    | none => simp [returns_pure_iff]
    | some incident =>
      cases hfound : latestScale w.db incidentId with
      | none => simp [returns_pure_iff]
      | some scale =>
        obtain ⟨scale, scaleId⟩ := scale
        have hscale : (w.later 2).db.executions[scaleId]? = some scale :=
          (latestScale_eq_some hfound).1
        have hincident' : (w.later 2).db.incidents[incidentId]? = some incident := hincident
        simp only [Option.mem_some_iff, forall_eq', returns_when_iff, and_imp]
        rw [returns_undoRecordedScale_iff hq hincident' hscale]
        simp only [implies_true, and_true]

/-! ### Reliability -/

/-- Everything that a reliability scenario leaves behind can be cleaned up. -/
def Cleanable (env : Env) (settings : Settings) (x : ChaosExecution) (w : World) : Prop :=
  Releasable env settings x w ∧
    (x.scenarioId = "reliability.cpu-saturation" →
      ScaleUndoable env settings x.details (fun _ ↦ x.targetNamespace) (released env x w))

theorem returns_cleanup_iff (hq : Quiet env) :
    Returns (cleanup env settings x) w (fun _ _ ↦ True) ↔ Cleanable env settings x w := by
  rw [cleanup, returns_bind_iff, returns_cleanupResource_iff hq, returns_when_iff,
    returns_undoScale_iff hq]
  simp only [implies_true, and_true]
  rfl

variable {F : Type} [LE F] [DecidableLE F]

/-- A pass at the deadline returns exactly when everything can be cleaned up, and then it has
ended the execution. -/
theorem reconcileExecution_ends_iff (hq : Quiet env) (m : Metrics F) (hactive : x.active)
    (hdeadline : x.cleanupDeadline ≤ env.now (w.later 1)) :
    Returns (reconcileExecution env settings m x) w
        (fun passed _ ↦ passed.result.terminal ∧ passed.row.active = false) ↔
      Cleanable env settings x (w.later 2) := by
  rw [reconcileExecution, returns_bind_iff, returns_flush_iff hq, if_pos hactive,
    reconcileReliability, returns_bind_iff, returns_ask_iff, if_pos hdeadline, conclude,
    returns_bind_iff, World.later_later, ← returns_cleanup_iff hq]
  constructor
  · exact fun h ↦ h.mono fun _ _ _ ↦ trivial
  · intro h
    apply h.mono
    intro _ w' _
    rw [returns_bind_iff, returns_flush_iff hq, returns_bind_iff]
    apply returns_commit_of hq
    intro w''
    exact returns_pure_iff.mpr ⟨rfl, rfl⟩

/-! ### Security -/

/-- The event of a scenario is stored. -/
theorem scenarioEvent_eq_some {db : Database} {y : Security.ChaosExecution} {eventId : Nat}
    (h : scenarioEvent db y = some eventId) : (db.securityEvents[eventId]?).isSome := by
  obtain ⟨position, hposition, rfl⟩ := Option.map_eq_some_iff.mp h
  obtain ⟨⟨id, event⟩, hlatest, rfl⟩ := Option.map_eq_some_iff.mp hposition
  have hrow := (Table.latest_eq_some hlatest).1
  rw [List.getElem?_drop] at hrow
  rw [hrow]
  rfl

/-- What a pass at the deadline comes to before it cleans up. -/
private def Timely (db : Database) (y : Security.ChaosExecution) (w : World) : Pass → Prop
  | .done result => result.terminal ∧ result.status = .timedOut
  | .cleanUp eventId status _ =>
    w.db = db ∧ eventId ∈ scenarioEvent db y ∧ status = .timedOut

section Security

variable (hq : Quiet env) {E : Exc → World → Prop} {db : Database}
include hq

omit hq in
private theorem triple_loadSecurityEvent_of_isSome {eventId : Nat}
    (h : (db.securityEvents[eventId]?).isSome) :
    Exec.Triple (fun w ↦ w.db = db) (loadSecurityEvent eventId)
      (fun event w ↦ w.db = db ∧ db.securityEvents[eventId]? = some event) E := by
  rintro w rfl
  obtain ⟨event, hrow⟩ := Option.isSome_iff_exists.mp h
  unfold loadSecurityEvent
  rw [Exec.run_bind_of_ok (Exec.run_read _ w), hrow]
  exact ⟨rfl, rfl⟩

private theorem triple_beforeCleanup {y : Security.ChaosExecution} :
    Exec.Triple (fun w ↦ w.db = db ∧ y.cleanupDeadline ≤ env.now w)
      (beforeCleanup env settings y) (fun pass w ↦ Timely db y w pass) E := by
  apply Exec.Triple.bind (Q := fun now w ↦ w.db = db ∧ y.cleanupDeadline ≤ now)
  · exact triple_ask fun _ h ↦ h
  intro now
  apply Exec.Triple.assume
  intro hdeadline
  apply Exec.Triple.bind (triple_query_quiet hq db _)
  intro found
  apply Exec.Triple.assume
  intro hfound
  cases found with
  | none =>
    simp only [passWithoutEvent, if_pos hdeadline]
    apply Exec.Triple.bind (Q := fun _ _ ↦ True)
    · exact (triple_flush_quiet hq fun _ _ h ↦ h).mono (fun _ _ ↦ trivial) (fun _ _ h ↦ h)
        fun _ _ h ↦ h
    intro _
    exact Exec.Triple.bind (triple_commit_quiet hq) fun _ ↦ Exec.Triple.pure fun _ _ ↦ ⟨rfl, rfl⟩
  | some eventId =>
    simp only [passEvent, if_pos hdeadline]
    apply Exec.Triple.bind
    · apply (triple_loadSecurityEvent_of_isSome (scenarioEvent_eq_some hfound.symm)).mono
      · exact fun _ h ↦ h
      · exact fun _ _ h ↦ h.1
      · exact fun _ _ h ↦ h
    intro event
    apply Exec.Triple.bind (triple_flush_quiet hq fun _ _ h ↦ h)
    exact fun _ ↦ Exec.Triple.pure fun _ h ↦ ⟨h, hfound.symm, rfl⟩

/-- A pass over a security scenario at its deadline ends it, but for what a removal raises that is
none of the program's own errors. -/
theorem triple_security_deadline {y : Security.ChaosExecution} {p : Exc → Prop}
    (hactive : y.status ∈ [.pending, .running, .stopping])
    (hremoval : ∀ eventId ∈ scenarioEvent db y, ∀ event ∈ db.securityEvents[eventId]?,
      needsNoRemoval event.containmentStatus = false →
        Exec.Triple (fun w ↦ w.db = db) (removeQuarantine env settings eventId labWorker)
          (fun _ _ ↦ True) fun e _ ↦ p e) :
    Exec.Triple (fun w ↦ w.db = db ∧ y.cleanupDeadline ≤ env.now (w.later 1))
      (Security.reconcileExecution env settings y)
      (fun result _ ↦ result.terminal ∧ result.status = .timedOut)
      fun e _ ↦ e.isCloudWard = false ∧ p e := by
  apply Exec.Triple.bind (Q := fun _ w ↦ w.db = db ∧ y.cleanupDeadline ≤ env.now w)
  · intro w hw
    rw [run_flush, hq.database]
    exact hw
  intro _
  rw [if_pos hactive]
  apply Exec.Triple.bind (triple_beforeCleanup hq)
  intro pass
  cases pass with
  | done result => exact Exec.Triple.pure fun _ h ↦ h
  | cleanUp eventId status detail =>
    apply Exec.Triple.bind (Q := fun _ _ ↦ status = .timedOut)
    · rintro w ⟨hw, hfound, hstatus⟩
      revert w
      change ∀ w : World, w.db = db → _
      have hremoves : Exec.Triple (fun w ↦ w.db = db)
          (removeSecurityContainment env settings eventId) (fun _ _ ↦ status = .timedOut)
          fun e _ ↦ e.isCloudWard = false ∧ p e := by
        apply Exec.Triple.bind
          (triple_loadSecurityEvent_of_isSome (scenarioEvent_eq_some hfound))
        intro event
        apply Exec.Triple.assume
        intro hevent
        apply Exec.Triple.ite
        · exact fun _ ↦ Exec.Triple.pure fun _ _ ↦ hstatus
        intro hneeds
        have hremove := hremoval eventId hfound event hevent (by simpa using hneeds)
        apply Exec.Triple.tryCatch
        · exact Exec.Triple.bind hremove fun _ ↦ Exec.Triple.read fun _ _ ↦ hstatus
        intro e
        apply Exec.Triple.ite
        · exact fun _ ↦ Exec.Triple.pure fun _ _ ↦ hstatus
        · exact fun hcloud ↦ Exec.Triple.throw fun _ hp ↦ ⟨by simpa using hcloud, hp⟩
      exact hremoves
    intro cleanup
    apply Exec.Triple.bind (triple_flush_quiet hq fun _ _ h ↦ h)
    intro _
    exact Exec.Triple.bind (triple_commit_quiet hq) fun _ ↦ Exec.Triple.pure fun _ h ↦ ⟨rfl, h⟩

end Security

/-! ### Every execution -/

/-- A pass ended its execution. -/
def Passed.Ended (passed : Passed) : Prop :=
  passed.result.terminal ∧ passed.row.active = false

/-- The quarantine of a security scenario needs no removal, or what fails in it is caught. -/
def Containable (env : Env) (db : Database) (y : Security.ChaosExecution) : Prop :=
  ∀ eventId ∈ scenarioEvent db y, ∀ event ∈ db.securityEvents[eventId]?,
    needsNoRemoval event.containmentStatus = false → Removable env db eventId

/-- A memory-pressure scenario that started at 0. -/
def pressured : ChaosExecution := started .standard memoryPressure "operator" "cloudward-1" 0

/-- The code of the error that a call raises. -/
def raisedCode {α : Type} : Except Exc α → Option String
  | .error (.cloudWard error) => some error.code
  | _ => none

/-- The API server refuses the deletion of the scenario's resource. -/
def refusing : Env :=
  { calmAt 240 with deleteCustomObject := fun _ _ _ _ ↦ .error (.api 500) }

end CloudWard.Lab
