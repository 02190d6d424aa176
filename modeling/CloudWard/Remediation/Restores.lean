import CloudWard.Base.Returns
import CloudWard.Remediation.Gitops
import CloudWard.Remediation.Rollback

/-!
# When a clean-up step goes through

What the deletion of a custom object, the revert of the demo repository and the rollback of a
scale need in order to return, each as a condition on the rows and on the answers at the moment
of the call, and the world that each of them leaves.
-/

namespace CloudWard.Kubernetes

open CloudWard.Logic Service

variable {env : Env} {settings : Settings} {w : World} {ns name : String}

theorem returns_validateName_iff {label : String} {Q : Unit → World → Prop} :
    Returns (validateName name label) w Q ↔ validName name ∧ Q () w :=
  returns_require_iff

theorem returns_requireNamespace_iff {Q : Unit → World → Prop} :
    Returns (requireNamespace settings ns) w Q ↔
      validName ns ∧ ns ∈ settings.allowedNamespaces ∧ Q () w := by
  rw [requireNamespace, returns_bind_iff, returns_validateName_iff, returns_require_iff]

theorem returns_getDeployment_iff {Q : DeploymentState → World → Prop} :
    Returns (getDeployment env ns name) w Q ↔ validName ns ∧ validName name ∧
      ∃ d, env.readDeployment w ns name = .ok d ∧
        Q ⟨ns, name, d.replicas.getD 0, d.readyReplicas.getD 0, d.images⟩ (w.later 1) := by
  rw [getDeployment, returns_bind_iff, returns_validateName_iff, returns_bind_iff,
    returns_validateName_iff, returns_bind_iff, returns_wrapping_iff, returns_call_iff]
  simp only [returns_pure_iff]

/-- A custom object can be deleted: the API server deletes it, or has none. -/
structure Deletable (env : Env) (settings : Settings) (w : World) (ns plural name : String) :
    Prop where
  validNs : validName ns
  allowed : ns ∈ settings.allowedNamespaces
  valid : validName name
  answer : env.deleteCustomObject w ns plural name = .ok () ∨
    env.deleteCustomObject w ns plural name = .error (.api 404)

theorem returns_deleteTypedCustomObject_iff {plural : String} {Q : Unit → World → Prop} :
    Returns (deleteTypedCustomObject env settings ns name plural) w Q ↔
      Deletable env settings w ns plural name ∧ Q () (w.later 1) := by
  rw [deleteTypedCustomObject, returns_bind_iff, returns_requireNamespace_iff, returns_bind_iff,
    returns_validateName_iff]
  have hcall : Returns (tryCatch (call (env.deleteCustomObject · ns plural name)) fun e ↦
      if e = .api 404 then pure ()
      else throw (e.wrapApi (actionFailed "Kubernetes rejected custom resource cleanup"))) w Q ↔
      (env.deleteCustomObject w ns plural name = .ok () ∨
        env.deleteCustomObject w ns plural name = .error (.api 404)) ∧ Q () (w.later 1) := by
    have hrun := Exec.run_tryCatch (call (env.deleteCustomObject · ns plural name)) (fun e ↦
      if e = .api 404 then pure ()
      else throw (e.wrapApi (actionFailed "Kubernetes rejected custom resource cleanup"))) w
    rw [run_call] at hrun
    rcases hanswer : env.deleteCustomObject w ns plural name with e | u
    · rw [hanswer] at hrun
      by_cases h : e = .api 404
      · simp only [if_pos h] at hrun
        rw [returns_iff_of_run hrun]
        simp [h, World.later]
      · simp only [if_neg h] at hrun
        exact iff_of_false (not_returns_of_run hrun) fun hdeletes ↦ by simp [h] at hdeletes
    · rw [hanswer] at hrun
      rw [returns_iff_of_run hrun]
      simp [World.later]
  rw [hcall]
  constructor
  · rintro ⟨hns, hallowed, hname, hanswer, hQ⟩
    exact ⟨⟨hns, hallowed, hname, hanswer⟩, hQ⟩
  · rintro ⟨⟨hns, hallowed, hname, hanswer⟩, hQ⟩
    exact ⟨hns, hallowed, hname, hanswer, hQ⟩

/-- A deployment that has its expected count can be scaled. -/
structure Scalable (env : Env) (settings : Settings) (w : World) (ns name : String)
    (replicas maximum expected : Nat) : Prop where
  validNs : validName ns
  allowed : ns ∈ settings.allowedNamespaces
  valid : validName name
  staging : ns = "cloudward-staging"
  bound : 1 ≤ replicas ∧ 1 ≤ maximum ∧ replicas ≤ maximum
  target : ∃ d, env.readDeployment w ns name = .ok d ∧ isDemoTarget d.templateLabels ∧
    d.replicas.getD 0 = expected
  request : env.request (w.later 1) (.patchScale ns name replicas) = .done

/-- The world that a scale leaves. -/
def scaled (w : World) (ns name : String) (replicas : Nat) : World :=
  (w.later 2).mutated (.patchScale ns name replicas)

theorem returns_scaleStagingDeployment_iff {replicas maximum expected : Nat}
    {Q : DeploymentScaleResult → World → Prop} :
    Returns (scaleStagingDeployment env settings ns name replicas maximum (some expected)) w Q ↔
      Scalable env settings w ns name replicas maximum expected ∧
        Q ⟨ns, name, expected, replicas, true⟩ (scaled w ns name replicas) := by
  rw [scaleStagingDeployment, returns_bind_iff, returns_requireNamespace_iff, returns_bind_iff,
    returns_validateName_iff, returns_bind_iff, returns_require_iff, returns_bind_iff,
    returns_require_iff, returns_bind_iff, returns_wrapping_iff, returns_call_iff]
  simp only [returns_bind_iff, returns_require_iff, returns_wrapping_iff, returns_send_iff,
    returns_pure_iff, Option.mem_some_iff, forall_eq', World.later_later]
  constructor
  · rintro ⟨hns, hallowed, hname, hstaging, hbound, d, hread, hdemo, rfl, hrequest, hQ⟩
    exact ⟨⟨hns, hallowed, hname, hstaging, hbound, ⟨d, hread, hdemo, rfl⟩, hrequest⟩, hQ⟩
  · rintro ⟨⟨hns, hallowed, hname, hstaging, hbound, ⟨d, hread, hdemo, rfl⟩, hrequest⟩, hQ⟩
    exact ⟨hns, hallowed, hname, hstaging, hbound, d, hread, hdemo, rfl, hrequest, hQ⟩

end CloudWard.Kubernetes

namespace CloudWard.Remediation

open CloudWard.Approvals CloudWard.Db CloudWard.Incidents CloudWard.Kubernetes CloudWard.Logic
  CloudWard.Risk Service

variable {env : Env} {settings : Settings} {w : World}

/-! ### The demo repository -/

/-- The repository can be brought to the known good tag. -/
structure Revertible (env : Env) (settings : Settings) (w : World) : Prop where
  enabled : settings.localGitopsWriteEnabled
  environment : settings.appEnv ∈ ["development", "test"]
  repository : settings.localGitopsRepoUrl = localRepositoryUrl
  tag : env.readImageTag w = .ok knownGoodTag ∨
    env.readImageTag w = .ok controlledBadTag ∧
      env.request (w.later 1) (.pushImageTag knownGoodTag) = .done

/-- The world that a revert leaves: a repository with the known good tag is not pushed to. -/
def reverted (env : Env) (w : World) : World :=
  match env.readImageTag w with
  | .ok tag =>
    if tag = knownGoodTag then w.later 1
    else (w.later 2).mutated (.pushImageTag knownGoodTag)
  | .error _ => w.later 1

theorem returns_revertToKnownGood_iff {Q : Unit → World → Prop} :
    Returns (revertToKnownGood env settings) w Q ↔
      Revertible env settings w ∧ Q () (reverted env w) := by
  simp only [revertToKnownGood, requireAvailable, returns_bind_iff, returns_require_iff,
    returns_call_iff, returns_when_iff, returns_send_iff, World.later_later]
  constructor
  · rintro ⟨henabled, henv, hrepo, tag, hread, htag, hbad, hgood⟩
    by_cases h : tag = knownGoodTag
    · subst h
      have hworld : reverted env w = w.later 1 := by simp [reverted, hread]
      rw [hworld]
      exact ⟨⟨henabled, henv, hrepo, .inl hread⟩, hgood fun hne ↦ hne rfl⟩
    · have hworld : reverted env w = (w.later 2).mutated (.pushImageTag knownGoodTag) := by
        simp [reverted, hread, h]
      have htag : tag = controlledBadTag := by simpa [h] using htag
      subst htag
      rw [hworld]
      exact ⟨⟨henabled, henv, hrepo, .inr ⟨hread, (hbad h).1⟩⟩, (hbad h).2⟩
  · rintro ⟨⟨henabled, henv, hrepo, hread | ⟨hread, hdone⟩⟩, hQ⟩
    · have hworld : reverted env w = w.later 1 := by simp [reverted, hread]
      rw [hworld] at hQ
      exact ⟨henabled, henv, hrepo, _, hread, by simp, fun h ↦ absurd rfl h, fun _ ↦ hQ⟩
    · have hne : controlledBadTag ≠ knownGoodTag := by decide
      have hworld : reverted env w = (w.later 2).mutated (.pushImageTag knownGoodTag) := by
        simp [reverted, hread, hne]
      rw [hworld] at hQ
      exact ⟨henabled, henv, hrepo, _, hread, by simp, fun _ ↦ ⟨hdone, hQ⟩,
        fun h ↦ absurd hne h⟩

/-! ### The rollback of a scale -/

theorem returns_loadIncident_iff {id : Nat} {incident : Incident} {Q : Incident → World → Prop}
    (hrow : w.db.incidents[id]? = some incident) :
    Returns (loadIncident id) w Q ↔ Q incident w := by
  rw [loadIncident, returns_bind_iff, returns_read_iff, hrow]
  exact returns_pure_iff

theorem returns_loadExecution_iff {id : Nat} {execution : ActionExecution}
    {Q : ActionExecution → World → Prop} (hrow : w.db.executions[id]? = some execution) :
    Returns (loadExecution id) w Q ↔ Q execution w := by
  rw [loadExecution, returns_bind_iff, returns_read_iff, hrow]
  exact returns_pure_iff

/-- The world in which an execution is stored. -/
def inserted (w : World) (row : ActionExecution) : World :=
  (w.withRows { w.db with executions := w.db.executions.insert row }).later 1

theorem returns_insertExecution_iff (hq : Quiet env) {row : ActionExecution}
    {Q : Nat → World → Prop} :
    Returns (insertExecution env row) w Q ↔
      executionIsUnique w.db.executions row ∧ Q w.db.executions.fresh (inserted w row) := by
  rw [insertExecution, returns_bind_iff, returns_read_iff, returns_bind_iff,
    returns_exec_require_iff, returns_bind_iff, returns_write_iff, returns_bind_iff,
    returns_flush_iff hq, returns_pure_iff]
  rfl

/-- The world that a rollback leaves when it has stored its row and scaled back. -/
def restored (env : Env) (w : World) (failedId rollbackId : Nat) (r : DeploymentScaleResult) :
    World :=
  let scaled := scaled w r.ns r.deployment r.requestedReplicas
  let ended := scaled.withRows { scaled.db with
    executions := scaled.db.executions.update rollbackId fun execution ↦
      { execution with status := .succeeded, result := r.toDict } }
  let marked := (ended.later 1).withRows { ended.db with
    executions := ended.db.executions.update failedId fun execution ↦
      { execution with rolledBackAt := some (env.now ended) } }
  marked.later 3

theorem returns_restore_iff (hq : Quiet env) {failedId rollbackId previous requested : Nat}
    {ns deployment : String} {maximum : Nat} {Q : Nat → World → Prop} :
    Returns (restore env settings failedId rollbackId ns deployment previous requested maximum)
        w Q ↔
      Scalable env settings w ns deployment previous maximum requested ∧
        Q rollbackId (restored env w failedId rollbackId
          ⟨ns, deployment, requested, previous, true⟩) := by
  simp only [restore, updateExecution, returns_bind_iff, returns_scaleStagingDeployment_iff,
    returns_write_iff, returns_ask_iff, returns_flush_iff hq, returns_pure_iff,
    World.later_later]
  rfl

/-- A recorded scale can be undone: it holds both counts, an attempt is left, and the deployment
still has the count that was asked for. -/
structure Restorable (env : Env) (settings : Settings) (w : World)
    (incidentId failedId maximum : Nat) (failed : ActionExecution) (previous requested : Nat) :
    Prop where
  previous_eq : countOf failed.result "previous_replicas" = .ok previous
  requested_eq : countOf failed.result "requested_replicas" = .ok requested
  positive : 1 ≤ previous ∧ 1 ≤ requested
  proposal : (w.db.proposals[failed.proposalId]?).isSome
  attempt : failed.attempt < 3
  unique : executionIsUnique w.db.executions
    (rollbackRow incidentId failedId failed previous attempt)
  scale : Scalable env settings
    (inserted (w.later 1) (rollbackRow incidentId failedId failed previous attempt))
    (textOf failed.result "namespace") (textOf failed.result "deployment") previous maximum
    requested

/-- The scale that a rollback makes. -/
def scaleBack (failed : ActionExecution) (previous requested : Nat) : DeploymentScaleResult where
  ns := textOf failed.result "namespace"
  deployment := textOf failed.result "deployment"
  previousReplicas := requested
  requestedReplicas := previous
  accepted := true

/-- The world that a rollback leaves. -/
def rolledBack (env : Env) (w : World) (incidentId failedId : Nat) (failed : ActionExecution)
    (previous requested : Nat) (h : failed.attempt < 3) : World :=
  restored env (inserted (w.later 1) (rollbackRow incidentId failedId failed previous h)) failedId
    w.db.executions.fresh (scaleBack failed previous requested)

theorem returns_rollbackScale_iff (hq : Quiet env) {incidentId failedId maximum : Nat}
    {incident : Incident} {failed : ActionExecution} {Q : Nat → World → Prop}
    (hincident : w.db.incidents[incidentId]? = some incident)
    (hfailed : w.db.executions[failedId]? = some failed) :
    Returns (rollbackScale env settings incidentId failedId maximum) w Q ↔
      incident.environment ∈ (getActionMetadata .scaleStagingDeployment).allowedEnvironments ∧
        ∃ previous requested,
          ∃ h : Restorable env settings w incidentId failedId maximum failed previous requested,
            Q w.db.executions.fresh
              (rolledBack env w incidentId failedId failed previous requested h.attempt) := by
  rw [rollbackScale, returns_bind_iff, returns_loadIncident_iff hincident, returns_bind_iff,
    returns_ofExcept_iff]
  simp only [requireExecutableAction_eq_ok, returns_bind_iff, returns_loadExecution_iff hfailed,
    returns_ofExcept_iff, returns_require_iff, returns_query_iff hq]
  constructor
  · rintro ⟨_, ⟨henvironment, -, -⟩, previous, hprevious, requested, hrequested, hpositive, hrest⟩
    refine ⟨henvironment, previous, requested, ?_⟩
    cases hproposal : w.db.proposals[failed.proposalId]? with
    | none =>
      rw [hproposal] at hrest
      exact absurd hrest (by simp [raise, returns_throw_iff])
    | some proposal =>
      simp only [hproposal] at hrest
      split at hrest
      · next hattempt =>
        rw [returns_bind_iff, returns_insertExecution_iff hq, returns_restore_iff hq] at hrest
        obtain ⟨hunique, hscale, hQ⟩ := hrest
        exact ⟨⟨hprevious, hrequested, hpositive, by simp [hproposal], hattempt, hunique, hscale⟩,
          hQ⟩
      · exact absurd hrest (by simp [raise, returns_throw_iff])
  · rintro ⟨henvironment, previous, requested, h, hQ⟩
    refine ⟨_, ⟨henvironment, rfl, rfl⟩, previous, h.previous_eq, requested, h.requested_eq,
      h.positive, ?_⟩
    obtain ⟨proposal, hproposal⟩ := Option.isSome_iff_exists.mp h.proposal
    simp only [hproposal]
    rw [dif_pos h.attempt, returns_bind_iff, returns_insertExecution_iff hq,
      returns_restore_iff hq]
    exact ⟨h.unique, h.scale, hQ⟩

end CloudWard.Remediation
