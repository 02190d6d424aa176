import CloudWard.Reliability.Trace

/-!
# A processor run that everything grants

The run of `process` on one staging incident where nothing fails, the policy allows and the
cluster lists `pods`: it evaluates the first listed pod and then performs the action of the
runbook its library matches.
-/

namespace CloudWard.Reliability

open CloudWard.Db CloudWard.Incidents CloudWard.Kubernetes CloudWard.Logic CloudWard.Policies
  CloudWard.Remediation CloudWard.Risk CloudWard.Runbooks Service

/-- The environment `env` with one answer to every pod listing. -/
def listing (env : Env) (pods : List PodState) : Env :=
  { env with listPods := fun _ _ _ ↦ .ok pods }

/-- The alert that the runbook answers. -/
def containerOOMKilled : NormalizedAlert := { alertName := "ContainerOOMKilled" }

/-- A staging incident of that alert, just detected. -/
def memoryIncident : Incident where
  correlationId := "alert"
  incidentType := "reliability.memory-pressure"
  title := "ContainerOOMKilled"
  environment := .staging

/-- The committed rows before its alert is processed. -/
def memoryRows : Database := { incidents := [memoryIncident] }

/-- The snapshot of a listing. -/
def snapshotOf (pods : List PodState) (hne : pods ≠ []) : Snapshot where
  ns := "cloudward-staging"
  deploymentName := "cloudward-demo"
  pods := pods
  deployment := ⟨"cloudward-staging", "cloudward-demo", 2, 1, []⟩
  pods_ne := hne

/-- An environment that grants everything, and lists these pods. -/
structure Grants (env : Env) (pods : List PodState) : Prop where
  quiet : Quiet env
  opa : env.opa = calm.opa
  listPods : ∀ w ns selector, env.listPods w ns selector = .ok pods
  deployment : ∃ labels, ∀ w ns name,
    env.readDeployment w ns name = .ok ⟨some 2, some 1, labels, []⟩
  events : ∀ w ns name, env.listEvents w ns name = .ok ()
  telemetry : ∀ w, env.telemetry w = .ok ()

/-- The world of a session that began with those rows and holds `db`. -/
def holding (db : Database) : World := { start memoryRows with db := db }

/-- The incident after it entered these states. -/
private def visiting (path : List IncidentState) : Incident :=
  path.foldl (fun incident state ↦ entered state worker incident) memoryIncident

/-- The rows of a run that only moved its incident. -/
private def movedRows (path : List IncidentState) : Database := { incidents := [visiting path] }

private theorem reaches_movedRows {env : Env} (hq : Quiet env) (path : List IncidentState)
    {s : IncidentState} (n : Nat) (hallowed : s ∈ allowedTransitions (visiting path).state)
    (hne : (visiting path).state ≠ s) (hwait : s ≠ .awaitingApproval)
    (hend : s.isTerminal = false) :
    Reaches (changeIncidentState env {} 0 s worker) { holding (movedRows path) with tick := n } ()
      (holding (movedRows (path ++ [s]))) := by
  have hrows : movedRows (path ++ [s]) = { incidents := [entered s worker (visiting path)] } := by
    simp [movedRows, visiting, List.foldl_append]
  rw [hrows]
  exact reaches_changeIncidentState hq {} worker {} rfl hallowed hne hwait hend

/-- The states of a run that gathered its evidence. -/
private def classified : List IncidentState := [.collectingEvidence, .classifying]

/-- The states of a run that made its proposal. -/
private def proposed : List IncidentState :=
  [.collectingEvidence, .classifying, .actionProposed, .policyEvaluation]

section Granted

variable {env : Env} {pods : List PodState} {r : RunbookDocument} {snapshot : Snapshot}
variable {input : PolicyInput}

/-- Where everything is granted, the run's snapshot is that of the listing. -/
private theorem Grants.reaches_gather (h : Grants env pods) (hne : pods ≠ []) (n : Nat) :
    Reaches (gather env {} 0 containerOOMKilled) { start memoryRows with tick := n }
      (snapshotOf pods hne) (holding (movedRows classified)) := by
  obtain ⟨labels, hdeployment⟩ := h.deployment
  have hcollecting (n : Nat) : Reaches
      (Exec.when (memoryIncident.state = .detected)
        (changeIncidentState env {} 0 .collectingEvidence worker))
      { start memoryRows with tick := n } () (holding (movedRows [.collectingEvidence])) :=
    reaches_when rfl
      (reaches_movedRows h.quiet [] n (by decide) (by decide) (by decide) rfl)
  apply reaches_bind (reaches_loadIncident (r := memoryIncident) rfl)
  intro _
  apply reaches_bind (hcollecting _)
  intro _
  apply reaches_bind (reaches_require (by decide))
  intro _
  apply reaches_bind (reaches_getPods (by decide) (by decide) fun w ↦ h.listPods w _ _)
  intro _
  rw [dif_pos hne]
  apply reaches_bind (reaches_getDeployment (by decide) (by decide) fun w ↦ hdeployment w _ _)
  intro _
  apply reaches_bind (reaches_getEvents (by decide) (by decide) fun w ↦ h.events w _ _)
  intro _
  apply reaches_bind (reaches_call (h.telemetry _))
  intro _
  apply reaches_bind (reaches_flush h.quiet _)
  intro _
  apply reaches_bind
    (reaches_movedRows h.quiet [.collectingEvidence] _ (by decide) (by decide) (by decide) rfl)
  intro _
  exact reaches_pure _ _

/-- The proposal that the run makes of a snapshot. -/
def proposalOf (r : RunbookDocument) (snapshot : Snapshot) : Proposal where
  snapshot := snapshot
  runbook := r
  risk := riskOf .staging r.action snapshot
  proposalId := 0

/-- The rows of a run that has made its proposal. -/
private def proposedRows (r : RunbookDocument) (snapshot : Snapshot)
    (path : List IncidentState) (status : RecordStatus := .pending) : Database where
  incidents := [{ visiting path with
    runbookId := some r.id
    runbookVersion := some r.version
    riskScore := some (proposalOf r snapshot).risk.score }]
  proposals := [{
    incidentId := 0
    actionType := r.action
    parameters := proposalParameters snapshot r.action
    status := status
    riskScore := (proposalOf r snapshot).risk.score
    riskCalculation := riskDump (proposalOf r snapshot).risk
    riskScore_le := (proposalOf r snapshot).risk.score_le }]
  runbookExecutions := [⟨0, r.id, r.version, .running⟩]

private theorem reaches_propose (hq : Quiet env) (r : RunbookDocument) (snapshot : Snapshot)
    (n : Nat) :
    Reaches (propose env {} 0 snapshot r) { holding (movedRows classified) with tick := n }
      (proposalOf r snapshot) (holding (proposedRows r snapshot proposed)) := by
  apply reaches_bind (reaches_write _ _)
  intro _
  apply reaches_bind (reaches_insertRunbookExecution _ _)
  intro _
  apply reaches_bind (reaches_flush hq _)
  intro _
  apply reaches_bind
  · exact reaches_changeIncidentState hq {} worker {} (s := .classifying) rfl (by decide)
      (by decide) (by decide) rfl
  intro _
  apply reaches_bind (reaches_loadIncident (r := {
      visiting (classified ++ [.actionProposed]) with
      runbookId := some r.id
      runbookVersion := some r.version }) rfl)
  intro _
  apply reaches_bind (reaches_write _ _)
  intro _
  apply reaches_bind (reaches_insertProposal _ _)
  intro _
  apply reaches_bind (reaches_flush hq _)
  intro _
  apply reaches_bind
  · exact reaches_changeIncidentState hq {} worker {} (s := .actionProposed) rfl (by decide)
      (by decide) (by decide) rfl
  intro _
  exact reaches_pure (proposalOf r snapshot) _

/-- The rows of a run whose input was evaluated. -/
private def evaluatedRows (r : RunbookDocument) (snapshot : Snapshot) (input : PolicyInput)
    (path : List IncidentState) (status : RecordStatus) : Database :=
  { proposedRows r snapshot path status with
    policyDecisions := [{
      incidentId := 0
      proposalId := 0
      allowed := true
      requiresApproval := false
      reason := "allowed"
      input := input }] }

private theorem Grants.reaches_authorise (h : Grants env pods)
    (hinput : policyInput .staging (proposalOf r snapshot) = .ok input) (n : Nat) :
    Reaches (authorise env 0 (proposalOf r snapshot))
      { holding (proposedRows r snapshot proposed) with tick := n }
      (calm.opa (start memoryRows) input)
      { holding (evaluatedRows r snapshot input proposed .pending) with
        trace := [.evaluated input (calm.opa (start memoryRows) input)] } := by
  apply reaches_bind (reaches_loadIncident
    (r := (proposedRows r snapshot proposed).incidents.head (by simp [proposedRows])) rfl)
  intro _
  apply reaches_bind (reaches_ofExcept hinput)
  intro _
  apply reaches_bind (reaches_evaluate _ _ _)
  intro _
  rw [h.opa]
  apply reaches_bind (reaches_write _ _)
  intro _
  apply reaches_bind (reaches_flush h.quiet _)
  intro _
  exact reaches_pure _ _

/-- The rows of a run that claimed its execution. -/
private def claimedRows (r : RunbookDocument) (snapshot : Snapshot) (input : PolicyInput) :
    Database :=
  { evaluatedRows r snapshot input (proposed ++ [.executing]) .running with
    incidents := (proposedRows r snapshot (proposed ++ [.executing])).incidents.map
      fun incident ↦ { incident with retryCount := 1 }
    executions := [claimedRow 0 0
      { incidentId := 0
        actionType := r.action
        parameters := proposalParameters snapshot r.action
        status := .running
        riskScore := (proposalOf r snapshot).risk.score
        riskCalculation := riskDump (proposalOf r snapshot).risk
        riskScore_le := (proposalOf r snapshot).risk.score_le }
      (.action 0 r.id r.action (proposalParameters snapshot r.action) 1) 1 (by decide)] }

private theorem reaches_claim (hq : Quiet env) (r : RunbookDocument) (snapshot : Snapshot)
    (input : PolicyInput) (t : List Event) (n : Nat) :
    Reaches (claimActionExecution env 0 0 r.id (proposalParameters snapshot r.action) 1)
      { holding (evaluatedRows r snapshot input (proposed ++ [.executing]) .running) with trace := t, tick := n }
      { execution := 0, claimed := true }
      { holding (claimedRows r snapshot input) with trace := t } :=
  reaches_claimActionExecution hq _ _ (by decide) rfl rfl rfl

/-- An execution that succeeded. -/
def succeededWith (result : Parameters) (execution : ActionExecution) : ActionExecution :=
  { execution with
    status := .succeeded
    errorCode := none
    result := result }

/-- The rows of a run whose execution is finished. -/
private def finishedRows (r : RunbookDocument) (snapshot : Snapshot) (input : PolicyInput)
    (result : Parameters) (status : RecordStatus) : Database :=
  { claimedRows r snapshot input with
    executions := (claimedRows r snapshot input).executions.map (succeededWith result)
    proposals := (proposedRows r snapshot proposed status).proposals }

/-- An action that adds `done` to the trace and then finishes its execution. -/
def Performs (env : Env) (settings : Settings) (p : Proposal) (done : List Event)
    (result : Parameters) : Prop :=
  ∀ w, w.cluster = {} → Reaches (perform env settings p 0) w ()
    { w with
      db := { w.db with executions := w.db.executions.update 0 (succeededWith result) }
      trace := done ++ w.trace }

private theorem reaches_execute (hq : Quiet env) {done : List Event}
    {result : Parameters} (haction : r.action ≠ .noAction)
    (hperforms : Performs env {} (proposalOf r snapshot) done result)
    (input : PolicyInput) (t : List Event) (n : Nat) :
    Reaches (execute env {} 0 (proposalOf r snapshot))
      { holding (evaluatedRows r snapshot input proposed .pending) with
        trace := t, tick := n } ()
      { holding (finishedRows r snapshot input result .succeeded) with trace := done ++ t } := by
  have hdone (n : Nat) : Reaches (perform env {} (proposalOf r snapshot) 0)
      { holding (claimedRows r snapshot input) with trace := t, tick := n } ()
      { holding (finishedRows r snapshot input result .running) with trace := done ++ t } :=
    hperforms _ rfl
  apply reaches_bind (reaches_write _ _)
  intro _
  apply reaches_bind
  · exact reaches_changeIncidentState hq {} worker {} (s := .policyEvaluation) rfl (by decide)
      (by decide) (by decide) rfl
  intro _
  apply reaches_ite_not haction
  apply reaches_bind (reaches_claim hq r snapshot input _ _)
  intro _
  apply reaches_bind (reaches_when rfl (hdone _))
  intro _
  apply reaches_bind (reaches_read _ _)
  intro _
  exact reaches_write _ _

/-- Where everything is granted, a run evaluates the first listed pod and then performs the
action of the runbook it matched. -/
theorem Grants.returns_process (h : Grants env pods) (hne : pods ≠ []) (hle : pods.length ≤ 1000)
    {runbooks : RunbookLoader}
    (hmatch : runbooks.matching memoryIncident.incidentType
      (alertConditions containerOOMKilled.alertName) memoryIncident.environment = .ok r)
    (haction : r.action ∉ [.noAction, .revertImage]) {done : List Event} {result : Parameters}
    (hperforms : Performs env {} (proposalOf r (snapshotOf pods hne)) done result) :
    Returns (process env {} runbooks 0 containerOOMKilled) (start memoryRows) fun _ w ↦
      ∃ input policy, w.trace = done ++ [.evaluated input policy] ∧
        input.target.podName = (pods.head hne).name := by
  simp only [List.mem_cons, List.not_mem_nil, or_false, not_or] at haction
  have htarget : targetInput "cloudward-staging" (pods.head hne).name (pods.head hne).labels
      (pods.head hne).controllerManaged pods.length =
      .ok ⟨"cloudward-staging", (pods.head hne).name, (pods.head hne).labels,
        (pods.head hne).controllerManaged, pods.length, hle⟩ := dif_pos hle
  obtain ⟨input, hinput⟩ :
      ∃ input, policyInput .staging (proposalOf r (snapshotOf pods hne)) = .ok input := by
    unfold policyInput
    simp only [proposalOf, snapshotOf, Snapshot.targetPod, htarget]
    exact ⟨_, rfl⟩
  have hname : input.target.podName = (pods.head hne).name := (target_policyInput hinput).2.2.2.1
  apply returns_bind (reaches_query h.quiet _ _)
  intro _
  apply returns_bind (h.reaches_gather hne _)
  intro _
  apply returns_bind (reaches_loadIncident (r := visiting classified) rfl)
  intro _
  have hmatch : runbooks.matching (visiting classified).incidentType
      (alertConditions containerOOMKilled.alertName) (visiting classified).environment = .ok r :=
    hmatch
  simp only [hmatch]
  apply returns_bind (reaches_propose h.quiet _ _ _)
  intro _
  apply returns_bind (h.reaches_authorise hinput _)
  intro _
  have hallowed : ¬ ¬ (calm.opa (start memoryRows) input).allowed := fun h ↦ h rfl
  have hwriter : ¬ (r.action = .revertImage ∧ ¬ ({} : Settings).localGitopsWriteEnabled) :=
    fun hrevert ↦ haction.2 hrevert.1
  rw [if_neg hallowed, if_neg hwriter]
  apply returns_bind (reaches_execute h.quiet haction.1 hperforms input _ _)
  intro _
  apply returns_bind
  · exact reaches_changeIncidentState h.quiet {} worker {} (s := .executing) rfl (by decide)
      (by decide) (by decide) rfl
  intro _
  apply returns_bind (reaches_loadIncident rfl)
  intro _
  apply (reaches_pure _ _).returns
  intro _
  exact ⟨input, _, rfl, hname⟩

/-- A deletion where the unready pod that is read is a demo pod. -/
theorem performs_deletion (hq : Quiet env)
    (hread : ∀ w name, env.readPod w "cloudward-staging" name = .ok (makePod name false))
    (hdone : ∀ w m, env.request w m = .done) (haction : r.action = .deleteUnhealthyPod)
    (hns : snapshot.ns = "cloudward-staging") {pod : PodState}
    (hpod : snapshot.unhealthy = some pod) (hvalid : validName pod.name) :
    Performs env {} (proposalOf r snapshot)
      [.mutated (.deletePod "cloudward-staging" pod.name),
        .deletePodCalled "cloudward-staging" pod.name]
      (deletionResult "cloudward-staging" pod.name) := by
  have hunhealthy : (proposalOf r snapshot).snapshot.unhealthy = some pod := hpod
  have hstaging : (proposalOf r snapshot).snapshot.ns = "cloudward-staging" := hns
  have hdelete : (proposalOf r snapshot).runbook.action = .deleteUnhealthyPod := haction
  intro w _
  unfold perform
  rw [if_neg (by rw [hdelete]; decide), if_pos hdelete, hunhealthy, hstaging]
  apply reaches_bind
  · exact reaches_deletePod (by decide) hvalid (by decide) (fun w ↦ hread w _) rfl ⟨rfl, rfl⟩
      Bool.false_ne_true fun w ↦ hdone w _
  intro _
  exact reaches_finishActionExecution hq 0 true none _

end Granted

end CloudWard.Reliability
