import CloudWard.Incidents.Service
import CloudWard.Kubernetes.Executor
import CloudWard.Remediation.Execution
import CloudWard.Remediation.Gitops
import CloudWard.Runbooks.Schema

/-!
# The alert-driven reliability workflow

`reliability/workflow.py`, in the stages of `ReliabilityAlertProcessor.process`: gather
evidence, choose a runbook, propose its action, have it evaluated, execute it and hand it
to verification. The pod that is evaluated and the pod that is deleted are chosen in two
different stages from the same list.
-/

namespace CloudWard.Reliability

open CloudWard.Db CloudWard.Incidents CloudWard.Kubernetes CloudWard.Logic CloudWard.Policies
  CloudWard.Remediation CloudWard.Risk CloudWard.Runbooks Service

/-- The fields of `NormalizedAlert`, `alerts/schemas.py:66`, that the workflow reads. -/
structure NormalizedAlert where
  alertName : String
  ns : Option String := none
  labels : Labels := ∅
deriving DecidableEq

/-- `ReliabilityProcessingResult`, `reliability/workflow.py:51`. -/
structure ProcessingResult where
  incidentId : Nat
  state : IncidentState
  runbookId : Option String
  action : Option ActionType
  riskScore : Option Nat
  detail : String
deriving DecidableEq

/-- `ALERT_CONDITIONS`, `reliability/workflow.py:43`, with the default of its lookup. -/
def alertConditions (alertName : String) : List String :=
  ([("HighHTTPErrorRate", ["high_http_error_rate", "recent_deployment"]),
    ("HighCPUSaturation", ["cpu_saturated", "latency_degraded"]),
    ("ContainerOOMKilled", ["container_oomkilled", "restart_count_increased"]),
    ("WorkloadUnavailable", ["workload_disrupted", "controller_reconciled"])].lookup
    alertName).getD ["prometheus_alert"]

/-- `label_selector` of `process`. -/
def demoSelector : String := "cloudward.io/demo-target=true"

/-- What `process` knows of the cluster: the listed demo pods, at least one. -/
structure Snapshot where
  ns : String
  deploymentName : String
  pods : List PodState
  deployment : DeploymentState
  pods_ne : pods ≠ []

/-- The pod whose name, labels and controller are evaluated: `pods[0]`. -/
def Snapshot.targetPod (s : Snapshot) : PodState := s.pods.head s.pods_ne

/-- The pod that is deleted: `next((pod for pod in pods if not pod.ready), None)`. -/
def Snapshot.unhealthy (s : Snapshot) : Option PodState := s.pods.find? fun p ↦ ! p.ready

/-- The proposal of a run. -/
structure Proposal where
  snapshot : Snapshot
  runbook : RunbookDocument
  risk : RiskResult
  proposalId : Nat

/-- The actor of every state change. -/
def worker : String := "reliability-worker"

/-- `_result`, `reliability/workflow.py:434`. -/
def result (incidentId : Nat) (action : Option ActionType) (detail : String) :
    Service ProcessingResult := do
  let incident ← loadIncident incidentId
  return {
    incidentId
    state := incident.state
    runbookId := incident.runbookId
    action
    riskScore := incident.riskScore
    detail }

/-- `parameters` of a proposal, `reliability/workflow.py:246`. -/
def proposalParameters (snapshot : Snapshot) (action : ActionType) : Parameters :=
  [("namespace", .str snapshot.ns), ("deployment", .str snapshot.deploymentName),
    ("label_selector", .str demoSelector), ("target_count", .int snapshot.pods.length),
    ("observed_replicas", .int snapshot.deployment.desiredReplicas)]
  ++ if action = .revertImage then
      [("expected_current_tag", .str controlledBadTag), ("target_tag", .str knownGoodTag),
        ("values_path", .str "cloudward-gitops/environments/local/values.yaml"),
        ("branch", .str "main")]
    else []

/-- Evidence, `reliability/workflow.py:94` to `164`. -/
def gather (env : Env) (settings : Settings) (incidentId : Nat) (alert : NormalizedAlert) :
    Service Snapshot := do
  let incident ← loadIncident incidentId
  Exec.when (incident.state = .detected)
    (changeIncidentState env settings incidentId .collectingEvidence worker)
  let ns := (alert.ns.filter (· ≠ "")).getD "cloudward-staging"
  require (ns = "cloudward-staging")
    ⟨"RELIABILITY_TARGET_DENIED", "Part 2 remediation is staging-only", 403⟩
  let deploymentName := (alert.labels.lookup "deployment").getD "cloudward-demo"
  let pods ← getPods env ns demoSelector
  if h : pods ≠ [] then do
    let deployment ← getDeployment env ns deploymentName
    getEvents env ns deploymentName
    call env.telemetry
    flush env
    changeIncidentState env settings incidentId .classifying worker
    return { ns, deploymentName, pods, deployment, pods_ne := h }
  else raise ⟨"RELIABILITY_TARGET_UNAVAILABLE", "No demo target pods were found", 409⟩

/-- The risk of a run, `reliability/workflow.py:236`. -/
def riskOf (environment : Environment) (action : ActionType) (snapshot : Snapshot) :
    RiskResult :=
  calculate
    { environment := environment.value
      action
      targetCount := snapshot.pods.length
      reversible := some (getActionMetadata action).reversible
      confidence := deterministicConfidence
      targetCount_pos := List.length_pos_of_ne_nil snapshot.pods_ne }

/-- The proposal, `reliability/workflow.py:207` to `278`. -/
def propose (env : Env) (settings : Settings) (incidentId : Nat) (snapshot : Snapshot)
    (runbook : RunbookDocument) : Service Proposal := do
  updateIncident incidentId fun incident ↦
    { incident with runbookId := some runbook.id, runbookVersion := some runbook.version }
  let _ ← insertRunbookExecution
    { incidentId
      runbookId := runbook.id
      runbookVersion := runbook.version
      status := .running }
  flush env
  changeIncidentState env settings incidentId .actionProposed worker
  let incident ← loadIncident incidentId
  let risk := riskOf incident.environment runbook.action snapshot
  updateIncident incidentId fun incident ↦ { incident with riskScore := some risk.score }
  let proposalId ← insertProposal
    { incidentId
      actionType := runbook.action
      parameters := proposalParameters snapshot runbook.action
      riskScore := risk.score
      riskCalculation := riskDump risk
      riskScore_le := risk.score_le }
  flush env
  changeIncidentState env settings incidentId .policyEvaluation worker
  return { snapshot, runbook, risk, proposalId }

/-- The policy input of a run, `reliability/workflow.py:280`. -/
def policyInput (environment : Environment) (p : Proposal) : Except Exc PolicyInput := do
  let target ← targetInput p.snapshot.ns p.snapshot.targetPod.name p.snapshot.targetPod.labels
    p.snapshot.targetPod.controllerManaged p.snapshot.pods.length
  return {
    environment := environment.value
    action := p.runbook.action
    riskScore := p.risk.score
    riskFactors := p.risk.factors
    confidence := deterministicConfidence
    blastRadius := p.snapshot.pods.length
    reversible := (getActionMetadata p.runbook.action).reversible
    serviceCriticality := "low"
    target
    riskScore_le := p.risk.score_le }

/-- The evaluation, `reliability/workflow.py:279` to `321`. -/
def authorise (env : Env) (incidentId : Nat) (p : Proposal) : Service PolicyResult := do
  let incident ← loadIncident incidentId
  let input ← Exec.ofExcept (policyInput incident.environment p)
  let policy ← evaluate env input
  insertPolicyDecision
    { incidentId
      proposalId := p.proposalId
      allowed := policy.allowed
      requiresApproval := policy.requiresApproval
      reason := policy.reason
      input }
  flush env
  return policy

/-- The end of a run that may not execute, `reliability/workflow.py:322`. -/
def hold (env : Env) (settings : Settings) (incidentId : Nat) (p : Proposal)
    (policy : PolicyResult) : Service ProcessingResult := do
  changeIncidentState env settings incidentId
    (if policy.requiresApproval then .awaitingApproval else .blocked) worker
    { policyReason := some policy.reason }
  updateProposal p.proposalId fun proposal ↦
    { proposal with status := if policy.requiresApproval then .pending else .rejected }
  result incidentId (some p.runbook.action) policy.reason

/-- The end of an image revert while the writer is disabled, `reliability/workflow.py:341`. -/
def holdForWriter (env : Env) (settings : Settings) (incidentId : Nat) (p : Proposal) :
    Service ProcessingResult := do
  updateProposal p.proposalId fun proposal ↦ { proposal with status := .pending }
  changeIncidentState env settings incidentId .awaitingApproval worker
    { reason := some "typed local GitOps image writer is disabled" }
  result incidentId (some p.runbook.action) "GitOps revert awaits the enabled local writer"

/-- The typed action of a claimed execution, `reliability/workflow.py:372`. -/
def perform (env : Env) (settings : Settings) (p : Proposal) (executionId : Nat) :
    Service Unit :=
  if p.runbook.action = .scaleStagingDeployment then do
    let desired := min (p.snapshot.deployment.desiredReplicas + 1) settings.maxTemporaryReplicas
    let scaled ← scaleStagingDeployment env settings p.snapshot.ns p.snapshot.deploymentName
      desired settings.maxTemporaryReplicas (some p.snapshot.deployment.desiredReplicas)
    finishActionExecution env executionId true none scaled.toDict
  else if p.runbook.action = .deleteUnhealthyPod then
    match p.snapshot.unhealthy with
    | none => finishActionExecution env executionId false (some "NO_UNHEALTHY_POD_REMAINED")
        [("recommendation", .str "review container memory limit and request")]
    | some pod => do
      deletePod env settings p.snapshot.ns pod.name
      finishActionExecution env executionId true none (deletionResult p.snapshot.ns pod.name)
  else if p.runbook.action = .revertImage then do
    revertToKnownGood env settings
    finishActionExecution env executionId true
  else pure ()

/-- The execution, `reliability/workflow.py:353` to `422`. -/
def execute (env : Env) (settings : Settings) (incidentId : Nat) (p : Proposal) :
    Service Unit := do
  updateProposal p.proposalId fun proposal ↦ { proposal with status := .running }
  changeIncidentState env settings incidentId .executing worker
  if p.runbook.action = .noAction then
    updateProposal p.proposalId fun proposal ↦ { proposal with status := .succeeded }
  else do
    let claim ← claimActionExecution env incidentId p.proposalId p.runbook.id
      (proposalParameters p.snapshot p.runbook.action) 1
    Exec.when claim.claimed (perform env settings p claim.execution)
    let status ← Exec.read fun w ↦ w.db.executions[claim.execution]?.map (·.status)
    updateProposal p.proposalId fun proposal ↦
      { proposal with status := status.getD proposal.status }

/-- A run from its runbook on, `reliability/workflow.py:207` to the end. -/
def remediate (env : Env) (settings : Settings) (incidentId : Nat) (snapshot : Snapshot)
    (runbook : RunbookDocument) : Service ProcessingResult := do
  let p ← propose env settings incidentId snapshot runbook
  let policy ← authorise env incidentId p
  if ¬ policy.allowed then hold env settings incidentId p policy
  else if runbook.action = .revertImage ∧ ¬ settings.localGitopsWriteEnabled then
    holdForWriter env settings incidentId p
  else do
    execute env settings incidentId p
    changeIncidentState env settings incidentId .verifying worker
    result incidentId (some runbook.action)
      "action processed; multi-signal verification queued"

/-- The end of a run without a runbook, `reliability/workflow.py:172`. -/
def unmatched (env : Env) (incidentId : Nat) : Service ProcessingResult := do
  -- the audit row's flush and the stream row's
  flush env
  flush env
  let incident ← loadIncident incidentId
  return {
    incidentId
    state := incident.state
    runbookId := none
    action := none
    riskScore := none
    detail := "no deterministic runbook matched; no action was proposed" }

/-- `ReliabilityAlertProcessor.process`, `reliability/workflow.py:81`. -/
def process (env : Env) (settings : Settings) (runbooks : RunbookLoader) (incidentId : Nat)
    (alert : NormalizedAlert) : Service ProcessingResult := do
  let existing ← query env fun db ↦ db.proposals.latest (·.incidentId = incidentId)
  match existing with
  | some (_, proposal) =>
    result incidentId (some proposal.actionType) "alert was already processed"
  | none =>
    let snapshot ← gather env settings incidentId alert
    let incident ← loadIncident incidentId
    match runbooks.matching incident.incidentType (alertConditions alert.alertName)
      incident.environment with
    | .error e => if e = runbookNotFound then unmatched env incidentId else throw e
    | .ok runbook => remediate env settings incidentId snapshot runbook

end CloudWard.Reliability
