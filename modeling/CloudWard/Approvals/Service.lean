import CloudWard.Incidents.Service
import CloudWard.Kubernetes.Executor

/-!
# Deciding an approval

The second half of `approvals/service.py`. `decide` locks and loads the approval, its
incident and its proposal; what it does with the loaded rows is `settle`, so that the two
routes that load rows differently share it. `staleReason` is the guard: it lists every
reason why the bound request is no longer the one to approve, the last one being a fresh
policy evaluation that carries the approval.
-/

namespace CloudWard.Approvals

open CloudWard.Db CloudWard.Incidents CloudWard.Kubernetes CloudWard.Logic CloudWard.Policies
  CloudWard.Rbac CloudWard.Remediation CloudWard.Risk Service

/-- `Principal`, `auth/schemas.py`; `userId` is set for a persisted principal. -/
structure Principal where
  login : String
  role : Role
  userId : Option String := none
deriving DecidableEq

/-- `isinstance(value, str)`. -/
def asStr : Option JsonValue → Option String
  | some (.str s) => some s
  | _ => none

/-- `isinstance(value, int)`; a Python boolean is an integer. -/
def asInt : Option JsonValue → Option Nat
  | some (.int n) => some n
  | some (.bool b) => some b.toNat
  | _ => none

/-- `parameters.get("pod_name") or parameters.get("pod")`, `approvals/service.py:370`. -/
def podParameter (parameters : Parameters) : Option JsonValue :=
  if truthy (param parameters "pod_name") then param parameters "pod_name"
  else param parameters "pod"

/-- The dictionary `_live_target` returns. -/
structure LiveTarget where
  ns : String
  name : String
  labels : Labels := ∅
  controllerManaged : Bool := false
  staleReason : Option String := none
deriving DecidableEq

/-- The deployment branch of `_live_target`, `approvals/service.py:330`. -/
def deploymentTarget (env : Env) (parameters : Parameters) (ns deploymentName : String) :
    Service LiveTarget := do
  let stale (reason : String) : LiveTarget :=
    { ns, name := deploymentName, controllerManaged := true, staleReason := some reason }
  let deployment ← getDeployment env ns deploymentName
  if (asInt (param parameters "observed_replicas")).any (deployment.desiredReplicas ≠ ·) then
    return stale "Deployment replica state changed after proposal"
  else if (asStr (param parameters "expected_current_tag")).any fun tag ↦
      ¬ deployment.containerImages.any fun image ↦ (":" ++ tag).toList.isSuffixOf image.toList
  then
    return stale "Deployment image revision changed after proposal"
  else do
    let pods ← getPods env ns "cloudward.io/demo-target=true"
    match pods with
    | [] => return stale "Deployment has no live demo target pods"
    | pod :: _ =>
      return {
        ns
        name := pod.name
        labels := pod.labels
        controllerManaged := pod.controllerManaged }

/-- `ApprovalService._live_target`, `approvals/service.py:318`. -/
def liveTarget (env : Env) (proposal : ActionProposal) : Service LiveTarget :=
  match asStr (param proposal.parameters "namespace") with
  | none => pure
      { ns := "unknown", name := "unknown"
        staleReason := some "Proposal has no bound namespace" }
  | some ns =>
    match asStr (param proposal.parameters "deployment") with
    | some deploymentName => deploymentTarget env proposal.parameters ns deploymentName
    | none =>
      match asStr (podParameter proposal.parameters) with
      | some podName => do
        let pod ← getPodHealth env ns podName
        return {
          ns
          name := pod.name
          labels := pod.labels
          controllerManaged := pod.controllerManaged }
      | none => pure
          { ns, name := "unknown"
            staleReason := some "Proposal target is not bound to a typed workload" }

/-- The policy input of a decision, `approvals/service.py:287`. -/
def reviewInput (approvalId : Nat) (approval : Approval) (incident : Incident)
    (proposal : ActionProposal) (factors : RiskFactors) (target : LiveTarget)
    (principal : Principal) : Except Exc PolicyInput := do
  let target ← targetInput target.ns target.name target.labels target.controllerManaged
    (max 1 approval.blastRadius)
  return {
    environment := incident.environment.value
    action := proposal.actionType
    riskScore := proposal.riskScore
    riskFactors := factors
    confidence := proposal.riskCalculation.confidence.getD fullConfidence
    blastRadius := max 1 approval.blastRadius
    reversible := approval.reversible
    serviceCriticality := "low"
    target
    approval :=
      { approved := true
        approvalId := some (toString approvalId)
        approvedBy := some principal.login }
    riskScore_le := proposal.riskScore_le }

/-- The checks of `_stale_reason` on the three locked rows, `approvals/service.py:251`. -/
def rowReason (now : Nat) (approval : Approval) (incident : Incident)
    (proposal : ActionProposal) : Option String :=
  if approval.expiresAt ≤ now then some "Approval expired before decision"
  else if incident.state ≠ .awaitingApproval then
    some ("Incident state changed to " ++ incident.state.value)
  else if proposal.status ≠ .pending then
    some ("Proposal status changed to " ++ proposal.status.value)
  else none

/-- The evaluation that ends `_stale_reason`, `approvals/service.py:286`. -/
def policyReason (env : Env) (input : PolicyInput) : Service (Option String) := do
  let policy ← evaluate env input
  return if policy.allowed then none
    else some ("Policy no longer allows execution: " ++ policy.reason)

/-- `ApprovalService._stale_reason`, `approvals/service.py:244`. -/
def staleReason (env : Env) (approvalId : Nat) (approval : Approval) (incident : Incident)
    (proposal : ActionProposal) (principal : Principal) : Service (Option String) := do
  let now ← ask env.now
  match rowReason now approval incident proposal with
  | some reason => return some reason
  | none =>
    let executed ← query env fun db ↦ db.executions.any (·.proposalId = approval.proposalId)
    if executed then return some "Proposal already has an action execution"
    else if env.digest (contextOf approval.incidentId approval.proposalId proposal
        approval.proposalVersion) ≠ approval.contextDigest then
      return some "Proposal version, target, expected state, or risk context changed"
    else do
      let target ← liveTarget env proposal
      match target.staleReason with
      | some reason => return some reason
      | none =>
        let latestPolicy ← query env fun db ↦
          db.policyDecisions.latest (·.proposalId = approval.proposalId)
        if ¬ latestPolicy.any (·.2.requiresApproval) then
          return some "Policy context no longer requires this approval"
        else
          match proposal.riskCalculation.factors with
          | none => return some "Stored risk factors are invalid"
          | some factors => do
            let input ← Exec.ofExcept
              (reviewInput approvalId approval incident proposal factors target principal)
            policyReason env input

/-- `ApprovalService._invalidate`, `approvals/service.py:389`. -/
def invalidate (env : Env) (approvalId : Nat) (reason : String) : Service Unit := do
  let now ← ask env.now
  updateApproval approvalId fun approval ↦
    { approval with
      decision := if approval.expiresAt ≤ now then .expired else .invalidated
      decidedAt := some now
      decidedBy := some "cloudward-approval-guard"
      invalidatedReason := some reason }

/-- The columns `decide` sets when it rejects or approves. -/
def decided (decision : ApprovalDecision) (principal : Principal) (comment : Option String)
    (now : Nat) (approval : Approval) : Approval :=
  { approval with
    decision
    actorId := principal.userId
    decidedBy := some principal.login
    decidedAt := some now
    decisionComment := comment }

/-- The rejecting half of `decide`, `approvals/service.py:184`. -/
def reject (env : Env) (settings : Settings) (approvalId : Nat) (approval : Approval)
    (principal : Principal) (comment : Option String) : Service Unit := do
  updateProposal approval.proposalId fun proposal ↦ { proposal with status := .rejected }
  let now ← ask env.now
  updateApproval approvalId (decided .rejected principal comment now)
  changeIncidentState env settings approval.incidentId .blocked principal.login
  -- the audit row's flush and the stream row's
  flush env
  flush env

/-- The stale end of `decide`, `approvals/service.py:217`. -/
def refuseStale (env : Env) (settings : Settings) (approvalId : Nat) (approval : Approval)
    (incident : Incident) (reason : String) : Service Unit := do
  updateProposal approval.proposalId fun proposal ↦ { proposal with status := .rejected }
  invalidate env approvalId reason
  Exec.when (incident.state = .awaitingApproval)
    (changeIncidentState env settings approval.incidentId .blocked "cloudward-approval-guard")
  flush env
  flush env

/-- The approving end of `decide`, `approvals/service.py:230`. -/
def approve (env : Env) (settings : Settings) (approvalId : Nat) (approval : Approval)
    (principal : Principal) (comment : Option String) : Service Unit := do
  let now ← ask env.now
  updateApproval approvalId (decided .approved principal comment now)
  updateProposal approval.proposalId fun proposal ↦ { proposal with status := .pending }
  changeIncidentState env settings approval.incidentId .policyEvaluation principal.login
  flush env
  flush env

/-- `decide` once its three rows are loaded, `approvals/service.py:184`. -/
def settle (env : Env) (settings : Settings) (approvalId : Nat) (approval : Approval)
    (incident : Incident) (proposal : ActionProposal) (decision : ApprovalDecision)
    (principal : Principal) (comment : Option String) : Service Unit :=
  if decision = .rejected then reject env settings approvalId approval principal comment
  else do
    require
      (hasPermission principal.role (getActionMetadata proposal.actionType).requiredPermission)
      ⟨"APPROVAL_ROLE_INSUFFICIENT",
        "This action requires an administrator-level approval", 403⟩
    require (proposal.riskScore < 70)
      ⟨"HIGH_RISK_ACTION_BLOCKED", "Actions scoring 70 or higher cannot be approved", 403⟩
    let reason ← staleReason env approvalId approval incident proposal principal
    match reason with
    | some reason => refuseStale env settings approvalId approval incident reason
    | none => approve env settings approvalId approval principal comment

/-- The check of `decide` on the approval it locked, `approvals/service.py:170`. -/
def requirePending (approval : Approval) : Service Unit :=
  require (approval.decision = .pending)
    ⟨"APPROVAL_ALREADY_DECIDED",
      "Approval has already been decided and cannot execute twice", 409⟩

/-- `ApprovalService.decide`, `approvals/service.py:150`. -/
def decide (env : Env) (settings : Settings) (approvalId : Nat) (decision : ApprovalDecision)
    (principal : Principal) (comment : Option String) : Service Unit := do
  require (decision = .approved ∨ decision = .rejected)
    ⟨"INVALID_APPROVAL_DECISION", "Decision must approve or reject", 400⟩
  let row ← query env (·.approvals[approvalId]?)
  match row with
  | none => raise ⟨"APPROVAL_NOT_FOUND", "Approval was not found", 404⟩
  | some approval => do
    requirePending approval
    let incident ← query env (·.incidents[approval.incidentId]?)
    let proposal ← query env (·.proposals[approval.proposalId]?)
    match incident, proposal with
    | some incident, some proposal =>
      settle env settings approvalId approval incident proposal decision principal comment
    | _, _ => do
      invalidate env approvalId "Bound incident or proposal no longer exists"
      raise ⟨"APPROVAL_CONTEXT_MISSING", "Approval context no longer exists", 409⟩

end CloudWard.Approvals
