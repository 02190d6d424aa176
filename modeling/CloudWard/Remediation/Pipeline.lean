import CloudWard.Incidents.Service
import CloudWard.Remediation.Execution
import CloudWard.Runbooks.Schema
import CloudWard.Verification.Engine

/-!
# The unhealthy-pod pipeline

`remediation/pipeline.py`, in the stages of `UnhealthyPodPipeline._process`: collect
evidence, select the pod and its runbook, propose, evaluate, then attempt and verify until
a verification succeeds or the attempts are used up. A retry collects evidence again and
has its pod evaluated again. `run` commits a new incident first and escalates it when a
stage raises a `CloudWardError`.
-/

namespace CloudWard.Remediation.Pipeline

open CloudWard.Db CloudWard.Incidents CloudWard.Kubernetes CloudWard.Logic CloudWard.Policies
  CloudWard.Risk CloudWard.Runbooks CloudWard.Verification Service

/-- `UnhealthyPodTarget`, `remediation/pipeline.py:37`, with the bound the model reads. -/
structure UnhealthyPodTarget where
  ns : String := "cloudward-staging"
  deployment : String := "cloudward-demo"
  serviceName : String := "cloudward-demo"
  labelSelector : String := "app.kubernetes.io/name=cloudward-demo"
  podName : Option String := none
  expectedReplicas : Nat := 2
  environment : Environment := .staging
  healthPath : String := "health/ready"
  expectedReplicas_mem : 1 ≤ expectedReplicas ∧ expectedReplicas ≤ 20 := by decide

/-- `PipelineOutcome`, `remediation/pipeline.py:52`. -/
structure PipelineOutcome where
  incidentId : Nat
  state : IncidentState
  riskScore : Option Nat := none
  policy : Option PolicyResult := none
  verification : Option VerificationResult := none
  attempts : Nat
deriving DecidableEq

/-- `KubernetesEvidence`, `evidence/collector.py:18`. -/
structure KubernetesEvidence where
  deployment : DeploymentState
  pods : List PodState

/-- `KubernetesEvidence.unhealthy_pods`. -/
def KubernetesEvidence.unhealthyPods (e : KubernetesEvidence) : List PodState :=
  e.pods.filter fun p ↦ ! p.ready

/-- What the stages after the proposal know. -/
structure Proposal where
  incidentId : Nat
  target : UnhealthyPodTarget
  pod : PodState
  runbook : RunbookDocument
  runbookExecutionId : Nat
  risk : RiskResult
  proposalId : Nat

/-- `EvidenceCollector.collect_kubernetes_state`, `evidence/collector.py:38`. -/
def collectKubernetesState (env : Env) (target : UnhealthyPodTarget) :
    Service KubernetesEvidence := do
  let deployment ← getDeployment env target.ns target.deployment
  let pods ← getPods env target.ns target.labelSelector
  record .evidenceCollected
  return { deployment, pods }

/-- `_select_unhealthy_pod`, `remediation/pipeline.py:556`. -/
def selectUnhealthyPod (evidence : KubernetesEvidence) (requestedName : Option String) :
    Except Exc PodState :=
  let candidates := evidence.unhealthyPods.filter fun p ↦ requestedName.all (· = p.name)
  match candidates with
  | [pod] => .ok pod
  | _ => .error <| .cloudWard
      { code := "UNSAFE_TARGET_COUNT"
        message := "Expected exactly one unhealthy target pod, found "
          ++ toString candidates.length
        statusCode := 409 }

/-- `_validate_preconditions`, `remediation/pipeline.py:570`. -/
def validatePreconditions (runbook : RunbookDocument) (evidence : KubernetesEvidence)
    (pod : PodState) : Service Unit := do
  require (evidence.unhealthyPods.length ≤ runbook.preconditions.maxTargetPods)
    { code := "RUNBOOK_PRECONDITION_FAILED", message := "Too many target pods" }
  require (runbook.preconditions.controllerManaged → pod.controllerManaged)
    { code := "RUNBOOK_PRECONDITION_FAILED", message := "Target is not controller managed" }

/-- `_proposal_parameters`, `remediation/pipeline.py:578`. -/
def proposalParameters (target : UnhealthyPodTarget) (pod : PodState) : Parameters :=
  [("namespace", .str target.ns), ("deployment", .str target.deployment),
    ("service_name", .str target.serviceName), ("label_selector", .str target.labelSelector),
    ("pod_name", .str pod.name), ("expected_replicas", .int target.expectedReplicas),
    ("labels", .labels pod.labels), ("controller_managed", .bool pod.controllerManaged)]

/-- `_policy_input`, `remediation/pipeline.py:591`. -/
def policyInput (target : UnhealthyPodTarget) (pod : PodState) (action : ActionType)
    (risk : RiskResult) : PolicyInput where
  environment := target.environment.value
  action := action
  riskScore := risk.score
  riskFactors := risk.factors
  confidence := deterministicConfidence
  blastRadius := 1
  reversible := true
  serviceCriticality := "low"
  target := ⟨target.ns, pod.name, pod.labels, pod.controllerManaged, 1, by decide⟩
  riskScore_le := risk.score_le

/-- The evidence stage, `remediation/pipeline.py:146` to `193`. -/
def gather (env : Env) (settings : Settings) (incidentId : Nat) (target : UnhealthyPodTarget)
    (actor : String) : Service KubernetesEvidence := do
  changeIncidentState env settings incidentId .collectingEvidence actor
  let evidence ← collectKubernetesState env target
  let _ ← getServiceHealth env target.ns target.serviceName target.healthPath
  flush env
  commit env
  return evidence

/-- The risk of a run, `remediation/pipeline.py:244`. -/
def riskOf (environment : Environment) (action : ActionType) (metadata : ActionMetadata) :
    RiskResult :=
  calculate
    { environment := environment.value
      action
      targetCount := 1
      reversible := some metadata.reversible
      confidence := deterministicConfidence
      targetCount_pos := Nat.one_pos }

/-- The choice of pod and runbook, `remediation/pipeline.py:195` to `240`. -/
def choose (env : Env) (settings : Settings) (runbooks : RunbookLoader) (incidentId : Nat)
    (target : UnhealthyPodTarget) (actor : String) (evidence : KubernetesEvidence) :
    Service (PodState × RunbookDocument × Nat) := do
  let pod ← Exec.ofExcept (selectUnhealthyPod evidence target.podName)
  changeIncidentState env settings incidentId .classifying actor
  let runbook ← Exec.ofExcept
    (runbooks.matching "reliability" ["pod_unhealthy"] target.environment)
  validatePreconditions runbook evidence pod
  updateIncident incidentId fun incident ↦
    { incident with runbookId := some runbook.id, runbookVersion := some runbook.version }
  let runbookExecutionId ← insertRunbookExecution
    { incidentId
      runbookId := runbook.id
      runbookVersion := runbook.version
      status := .running }
  flush env
  changeIncidentState env settings incidentId .actionProposed actor
  return (pod, runbook, runbookExecutionId)

/-- The proposal, `remediation/pipeline.py:242` to `299`. -/
def propose (env : Env) (settings : Settings) (incidentId : Nat) (target : UnhealthyPodTarget)
    (actor : String) (pod : PodState) (runbook : RunbookDocument) (runbookExecutionId : Nat) :
    Service Proposal := do
  let metadata ← Exec.ofExcept (requireExecutableAction runbook.action target.environment)
  let risk := riskOf target.environment runbook.action metadata
  updateIncident incidentId fun incident ↦ { incident with riskScore := some risk.score }
  let proposalId ← insertProposal
    { incidentId
      actionType := runbook.action
      parameters := proposalParameters target pod
      riskScore := risk.score
      riskCalculation := riskDump risk
      riskScore_le := risk.score_le }
  flush env
  -- the two audit rows' flushes
  flush env
  flush env
  changeIncidentState env settings incidentId .policyEvaluation actor
  return { incidentId, target, pod, runbook, runbookExecutionId, risk, proposalId }

/-- An evaluation for one pod, `remediation/pipeline.py:300` and `501`. -/
def authorise (env : Env) (p : Proposal) (pod : PodState) : Service PolicyResult := do
  let input := policyInput p.target pod p.runbook.action p.risk
  let policy ← evaluate env input
  insertPolicyDecision
    { incidentId := p.incidentId
      proposalId := p.proposalId
      allowed := policy.allowed
      requiresApproval := policy.requiresApproval
      reason := policy.reason
      input }
  return policy

/-- Set the status of the proposal and of its runbook execution. -/
def settle (p : Proposal) (status : RecordStatus) : Service Unit := do
  updateProposal p.proposalId fun proposal ↦ { proposal with status := status }
  updateRunbookExecution p.runbookExecutionId fun execution ↦ { execution with status := status }

/-- The end of a run that may not execute, `remediation/pipeline.py:327`. -/
def hold (env : Env) (settings : Settings) (actor : String) (p : Proposal)
    (policy : PolicyResult) : Service PipelineOutcome := do
  let state : IncidentState := if policy.requiresApproval then .awaitingApproval else .blocked
  changeIncidentState env settings p.incidentId state actor
    { policyReason := some policy.reason }
  settle p (if policy.requiresApproval then .pending else .rejected)
  Exec.when policy.requiresApproval (flush env)
  commit env
  return {
    incidentId := p.incidentId
    state
    riskScore := some p.risk.score
    policy := some policy
    attempts := 0 }

/-- An execution that succeeded. -/
def succeededWith (result : Parameters) (execution : ActionExecution) : ActionExecution :=
  { execution with status := .succeeded, result := result }

/-- The deletion of an attempt, or its record that no pod is left,
`remediation/pipeline.py:393`. -/
def act (env : Env) (settings : Settings) (p : Proposal) (executionId : Nat) :
    Option PodState → Service Unit
  | some pod => do
      deletePod env settings p.target.ns pod.name
      updateExecution executionId (succeededWith (deletionResult p.target.ns pod.name))
      flush env
  | none =>
      updateExecution executionId fun execution ↦
        { execution with
          status := .failed
          errorCode := some "NO_UNHEALTHY_TARGET"
          result := [("detail", .str "No unhealthy pod remained for action retry")] }

/-- The execution row of an attempt: its action is written out,
`remediation/pipeline.py:382`. -/
def attemptRow (p : Proposal) (attempt : Nat) (h : 1 ≤ attempt ∧ attempt ≤ 3) :
    ActionExecution where
  incidentId := p.incidentId
  proposalId := p.proposalId
  actionType := .deleteUnhealthyPod
  attempt := attempt
  status := .running
  attempt_mem := h

/-- What a run verifies. -/
def subject (target : UnhealthyPodTarget) : Subject where
  ns := target.ns
  deployment := target.deployment
  labelSelector := target.labelSelector
  expectedReplicas := target.expectedReplicas
  serviceName := target.serviceName
  healthPath := target.healthPath

/-- One attempt and its verification, `remediation/pipeline.py:380` to `459`. -/
def attemptOnce (env : Env) (settings : Settings) (actor : String) (p : Proposal)
    (attempt : Nat) (h : 1 ≤ attempt ∧ attempt ≤ 3) (current : Option PodState) :
    Service VerificationResult := do
  updateIncident p.incidentId fun incident ↦ { incident with retryCount := attempt }
  let executionId ← insertExecution env (attemptRow p attempt h)
  act env settings p executionId current
  changeIncidentState env settings p.incidentId .verifying actor
  commit env
  let verification ← verifyUntil env (subject p.target)
  record (.verified verification.success)
  flush env
  return verification

/-- The end of a run whose verification succeeded, `remediation/pipeline.py:460`. -/
def resolve (env : Env) (settings : Settings) (actor : String) (p : Proposal)
    (policy : PolicyResult) (verification : VerificationResult) (attempt : Nat) :
    Service PipelineOutcome := do
  settle p .succeeded
  changeIncidentState env settings p.incidentId .resolved actor
  flush env
  commit env
  return {
    incidentId := p.incidentId
    state := .resolved
    riskScore := some p.risk.score
    policy := some policy
    verification := some verification
    attempts := attempt }

/-- The evaluation of a retry's pod; a policy that does not allow it ends the run,
`remediation/pipeline.py:500`. -/
def reauthorise (env : Env) (p : Proposal) : Option PodState → Service Unit
  | some pod => do
      let policy ← authorise env p pod
      require policy.allowed
        ⟨"RETRY_POLICY_DENIED", "Policy denied the newly discovered retry target", 403⟩
  | none => pure ()

/-- The pod of a retry: the only one that is not ready, if there is only one. -/
def retryPod (evidence : KubernetesEvidence) : Option PodState :=
  match evidence.unhealthyPods with
  | [pod] => some pod
  | _ => none

/-- The preparation of a retry, `remediation/pipeline.py:485` to `523`. -/
def reconsider (env : Env) (settings : Settings) (actor : String) (p : Proposal) :
    Service (Option PodState) := do
  changeIncidentState env settings p.incidentId .executing actor
  let evidence ← collectKubernetesState env p.target
  reauthorise env p (retryPod evidence)
  commit env
  return retryPod evidence

/-- The end of a run without attempts left, `remediation/pipeline.py:524`. -/
def exhaust (env : Env) (settings : Settings) (actor : String) (p : Proposal)
    (policy : PolicyResult) (verification : VerificationResult) : Service PipelineOutcome := do
  settle p .failed
  changeIncidentState env settings p.incidentId .escalated actor
  flush env
  commit env
  return {
    incidentId := p.incidentId
    state := .escalated
    riskScore := some p.risk.score
    policy := some policy
    verification := some verification
    attempts := settings.maxRemediationAttempts }

/-- The number of an attempt that leaves `left` more. -/
def attemptNumber (settings : Settings) (left : Nat) : Nat :=
  settings.maxRemediationAttempts - left

theorem attemptNumber_mem {settings : Settings} {left : Nat}
    (h : left < settings.maxRemediationAttempts) :
    1 ≤ attemptNumber settings left ∧ attemptNumber settings left ≤ 3 := by
  have := settings.maxRemediationAttempts_mem
  unfold attemptNumber
  omega

/-- The attempts of a run, `remediation/pipeline.py:380`, with those left after the next. -/
def attempts (env : Env) (settings : Settings) (actor : String) (p : Proposal)
    (policy : PolicyResult) : (left : Nat) → left < settings.maxRemediationAttempts →
    Option PodState → Service PipelineOutcome
  | 0, h, current => do
      let verification ← attemptOnce env settings actor p _ (attemptNumber_mem h) current
      if verification.success then
        resolve env settings actor p policy verification (attemptNumber settings 0)
      else exhaust env settings actor p policy verification
  | left + 1, h, current => do
      let verification ← attemptOnce env settings actor p _ (attemptNumber_mem h) current
      if verification.success then
        resolve env settings actor p policy verification (attemptNumber settings (left + 1))
      else do
        let current ← reconsider env settings actor p
        attempts env settings actor p policy left (Nat.lt_of_succ_lt h) current

/-- The attempts that may follow the first. -/
def retries (settings : Settings) : Nat := settings.maxRemediationAttempts - 1

theorem retries_lt (settings : Settings) : retries settings < settings.maxRemediationAttempts := by
  have := settings.maxRemediationAttempts_mem
  unfold retries
  omega

/-- The start of an execution, `remediation/pipeline.py:369`. -/
def execute (env : Env) (settings : Settings) (actor : String) (p : Proposal)
    (policy : PolicyResult) : Service PipelineOutcome := do
  updateProposal p.proposalId fun proposal ↦ { proposal with status := .running }
  changeIncidentState env settings p.incidentId .executing actor
  commit env
  attempts env settings actor p policy (retries settings) (retries_lt settings) (some p.pod)

/-- `UnhealthyPodPipeline._process`, `remediation/pipeline.py:138`. -/
def process (env : Env) (settings : Settings) (runbooks : RunbookLoader) (incidentId : Nat)
    (target : UnhealthyPodTarget) (actor : String) : Service PipelineOutcome := do
  let evidence ← gather env settings incidentId target actor
  let (pod, runbook, runbookExecutionId) ←
    choose env settings runbooks incidentId target actor evidence
  let p ← propose env settings incidentId target actor pod runbook runbookExecutionId
  let policy ← authorise env p pod
  -- the audit row's flush
  flush env
  if ¬ policy.allowed then hold env settings actor p policy
  else execute env settings actor p policy

/-- The handler of `run`, `remediation/pipeline.py:108`. -/
def escalate (env : Env) (settings : Settings) (incidentId : Nat) (actor : String) (e : Exc) :
    Service PipelineOutcome :=
  if e.isCloudWard then do
    rollback
    flush env
    let incident ← loadIncident incidentId
    Exec.when (¬ incident.state.isTerminal) do
      changeIncidentState env settings incidentId .escalated actor
      flush env
      commit env
    let incident ← loadIncident incidentId
    return {
      incidentId
      state := incident.state
      riskScore := incident.riskScore
      attempts := incident.retryCount }
  else throw e

/-- The incident of a run, `remediation/pipeline.py:93`. -/
def incidentRow (target : UnhealthyPodTarget) (correlationId : String) : Incident where
  correlationId := correlationId
  incidentType := "reliability"
  title := "Unhealthy Demo Pod"
  summary := some "A controlled CloudWard demo pod failed readiness"
  environment := target.environment

/-- `UnhealthyPodPipeline.run`, `remediation/pipeline.py:83`. -/
def run (env : Env) (settings : Settings) (runbooks : RunbookLoader)
    (target : UnhealthyPodTarget) (correlationId : String) (actor : String := "cloudward") :
    Service PipelineOutcome := do
  let incidentId ← createIncident env (incidentRow target correlationId) actor
  commit env
  tryCatch (process env settings runbooks incidentId target actor)
    (escalate env settings incidentId actor)

end CloudWard.Remediation.Pipeline
