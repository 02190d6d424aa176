import CloudWard.Incidents.Service
import CloudWard.Kubernetes.Executor

/-!
# The quarantine lifecycle

`security/quarantine.py`: applying and removing the Cilium quarantine of a security event.
Either way a fresh policy decision is asked for, an execution is counted against the
incident, the cluster is changed and the change is verified; a `CloudWardError` of the last
two steps is committed as a failed verification before it is raised again.
-/

namespace CloudWard.Db

open CloudWard.Logic

/-- Set columns of a security event. -/
def updateSecurityEvent (id : Nat) (f : SecurityEvent → SecurityEvent) : Service Unit :=
  Service.write fun db ↦ { db with securityEvents := db.securityEvents.update id f }

/-- Set columns of a quarantine record. -/
def updateQuarantineRecord (id : Nat) (f : QuarantineRecord → QuarantineRecord) :
    Service Unit :=
  Service.write fun db ↦ { db with quarantineRecords := db.quarantineRecords.update id f }

/-- The unique constraint of `quarantine_records`. -/
def policyNameIsFree (records : Table QuarantineRecord) (name : String) : Prop :=
  ∀ r ∈ records, r.policyName ≠ name

instance (records : Table QuarantineRecord) (name : String) :
    Decidable (policyNameIsFree records name) := by
  unfold policyNameIsFree
  infer_instance

/-- `session.add` of a quarantine record; the result is its identity. -/
def insertQuarantineRecord (row : QuarantineRecord) : Service Nat := do
  let records ← Exec.read fun w ↦ w.db.quarantineRecords
  Exec.require (policyNameIsFree records row.policyName) .database
  Service.write fun db ↦ { db with quarantineRecords := db.quarantineRecords.insert row }
  return records.fresh

end CloudWard.Db

namespace CloudWard.Security

open CloudWard.Db CloudWard.Incidents CloudWard.Kubernetes CloudWard.Logic CloudWard.Policies
  CloudWard.Remediation CloudWard.Risk Service

/-- `event.id.hex[:12]`. -/
def quarantineIdOf (event : SecurityEvent) : String := String.ofList (event.uuid.toList.take 12)

/-- The name of the event's policy, `security/quarantine.py:113`. -/
def policyNameOf (event : SecurityEvent) : String := quarantinePolicyName (quarantineIdOf event)

/-- A security event with the incident it is linked to. -/
structure Subject where
  eventId : Nat
  event : SecurityEvent
  incidentId : Nat
  incident : Incident

/-- The error of an event that is not there. -/
def eventNotFound : CloudWardError :=
  ⟨"SECURITY_EVENT_NOT_FOUND", "Security event was not found", 404⟩

/-- The error of an event without an incident. -/
def eventNotActionable : CloudWardError :=
  ⟨"SECURITY_EVENT_NOT_ACTIONABLE", "Security event has no linked incident", 409⟩

/-- `_event_and_incident`, `security/quarantine.py:402`. -/
def eventAndIncident (env : Env) (eventId : Nat) : Service Subject := do
  let row ← query env fun db ↦ db.securityEvents[eventId]?
  match row with
  | none => raise eventNotFound
  | some event =>
    match event.incidentId with
    | none => raise eventNotActionable
    | some incidentId => do
      let row ← query env fun db ↦ db.incidents[incidentId]?
      match row with
      | none => throw .database
      | some incident => return { eventId, event, incidentId, incident }

/-- The error of an application that nothing proposed. -/
def proposalNotFound : CloudWardError :=
  ⟨"QUARANTINE_PROPOSAL_NOT_FOUND", "No policy-evaluated quarantine proposal exists", 409⟩

/-- `_proposal_for_apply`, `security/quarantine.py:424`. -/
def proposalForApply (env : Env) (s : Subject) : Service Nat := do
  let proposal ← query env fun db ↦ db.proposals.latest fun p ↦
    p.incidentId = s.incidentId ∧ p.actionType = .applyQuarantine
  match proposal with
  | none => raise proposalNotFound
  | some (proposalId, _) => return proposalId

/-- The confidence of `_authorize`. -/
def quarantineConfidence : Confidence := ⟨95 / 100, by norm_num⟩

/-- The sensitivity of an event's category, `security/quarantine.py:457`. -/
def sensitivityOf : SecurityCategory → Sensitivity
  | .suspiciousProcess => .low
  | .unexpectedEgress => .moderate
  | .privilegeBehavior => .high

/-- The risk of `_authorize`, `security/quarantine.py:462`. -/
def quarantineRisk (event : SecurityEvent) (action : ActionType) : RiskResult :=
  calculate
    { environment := event.environment.value
      action
      targetCount := 1
      reversible := some true
      confidence := quarantineConfidence
      sensitivity := sensitivityOf event.eventType
      targetCount_pos := Nat.one_pos }

/-- The key of the criticality label. -/
def criticalityLabel : String := "cloudward.io/criticality"

/-- One pod is within the bound of a target. -/
theorem oneTarget_le : 1 ≤ 1000 := Nat.succ_le_of_lt (by decide)

/-- The policy input of `_authorize`, `security/quarantine.py:472`. -/
def authorizeInput (s : Subject) (actor : String) (action : ActionType) (pod : PodState) :
    PolicyInput where
  environment := s.event.environment.value
  action := action
  riskScore := (quarantineRisk s.event action).score
  riskFactors := (quarantineRisk s.event action).factors
  confidence := quarantineConfidence
  blastRadius := 1
  reversible := true
  serviceCriticality := (pod.labels.lookup criticalityLabel).getD "low"
  target := ⟨s.event.ns, s.event.pod, pod.labels, pod.controllerManaged, 1, oneTarget_le⟩
  approval :=
    { approved := true
      approvalId := some ("manual-" ++ toString s.eventId)
      approvedBy := some actor }
  riskScore_le := (quarantineRisk s.event action).score_le

/-- `_persist_decision`, `security/quarantine.py:493`. -/
def persistDecision (env : Env) (s : Subject) (proposalId : Nat) (input : PolicyInput)
    (decision : PolicyResult) : Service Unit := do
  insertPolicyDecision
    { incidentId := s.incidentId
      proposalId
      allowed := decision.allowed
      requiresApproval := decision.requiresApproval
      reason := decision.reason
      input }
  updateSecurityEvent s.eventId fun event ↦
    { event with
      riskScore := some input.riskScore
      policyDecision := some (if decision.allowed then "ALLOW" else "DENY") }
  flush env

/-- The highest attempt of an incident's executions. -/
def highestAttempt (db : Database) (incidentId : Nat) : Nat :=
  ((db.executions.filter (·.incidentId = incidentId)).map (·.attempt)).foldl max 0

/-- The error of an incident whose attempts are used up. -/
def attemptLimit : CloudWardError :=
  ⟨"ACTION_ATTEMPT_LIMIT_REACHED", "The incident action attempt limit has been reached", 409⟩

/-- The execution row of an attempt, `security/quarantine.py:542`. -/
def executionRow (s : Subject) (proposalId : Nat) (action : ActionType) (attempt : Nat)
    (h : 1 ≤ attempt ∧ attempt ≤ 3) : ActionExecution where
  incidentId := s.incidentId
  proposalId := proposalId
  actionType := action
  attempt := attempt
  status := .running
  idempotencyKey := some (.quarantine s.incidentId action s.event.ns s.event.pod attempt)
  attempt_mem := h

/-- `_new_execution`, `security/quarantine.py:520`. -/
def newExecution (env : Env) (s : Subject) (proposalId : Nat) (action : ActionType) :
    Service Nat := do
  let highest ← query env (highestAttempt · s.incidentId)
  if h : highest + 1 ≤ 3 then
    insertExecution env (executionRow s proposalId action (highest + 1) ⟨Nat.le_add_left 1 _, h⟩)
  else raise attemptLimit

/-! ### Verifying -/

/-- Poll a check until it succeeds or the polls before the deadline are used up. -/
def pollUntil (check : Service ContainmentVerification) : (left : Nat) →
    Service ContainmentVerification
  | 0 => check
  | left + 1 => do
    let latest ← check
    if latest.success = some true then return latest else pollUntil check left

/-- The result of a list of checks. -/
def verificationOf (checks : List (String × Bool)) : ContainmentVerification where
  success := some (checks.all (·.2))
  checks := checks

/-- One round of `_wait_for_containment`, `security/quarantine.py:563`. -/
def checkContainment (env : Env) (settings : Settings) (event : SecurityEvent)
    (policyName : String) : Service ContainmentVerification := do
  let state ← getQuarantinePolicyState env settings event.ns event.pod policyName
    (quarantineIdOf event)
  let reachable ← probeControlledSecurityEgress env settings event.ns event.pod
  let pod ← getPodHealth env event.ns event.pod
  return verificationOf
    [("cilium_policy_enforced", state.enforced),
      ("target_label_matches", state.targetLabelMatches),
      ("forbidden_egress_blocked", !reachable), ("pod_health_preserved", pod.ready)]

/-- `_wait_for_containment`, `security/quarantine.py:555`. -/
def waitForContainment (env : Env) (settings : Settings) (event : SecurityEvent)
    (policyName : String) : Service ContainmentVerification := do
  let left ← ask env.polls
  pollUntil (checkContainment env settings event policyName) left

/-- One round of `_wait_for_release`, `security/quarantine.py:598`. -/
def checkRelease (env : Env) (settings : Settings) (event : SecurityEvent)
    (policyName : String) : Service ContainmentVerification := do
  let state ← getQuarantinePolicyState env settings event.ns event.pod policyName
    (quarantineIdOf event)
  let reachable ← probeControlledSecurityEgress env settings event.ns event.pod
  return verificationOf
    [("cilium_policy_removed", !state.policyExists),
      ("target_label_removed", !state.targetLabelMatches),
      ("controlled_egress_restored", reachable)]

/-- `_wait_for_release`, `security/quarantine.py:589`. -/
def waitForRelease (env : Env) (settings : Settings) (event : SecurityEvent)
    (policyName : String) : Service ContainmentVerification := do
  let left ← ask env.polls
  pollUntil (checkRelease env settings event policyName) left

/-! ### Applying -/

/-- Set the status of a quarantine record and of its event. -/
def setContainment (s : Subject) (recordId : Nat) (status : ContainmentStatus) :
    Service Unit := do
  updateQuarantineRecord recordId fun record ↦ { record with status }
  updateSecurityEvent s.eventId fun event ↦ { event with containmentStatus := status }

/-- Store a verification on a quarantine record. -/
def setVerification (recordId : Nat) (verification : ContainmentVerification) : Service Unit :=
  updateQuarantineRecord recordId fun record ↦ { record with verification }

/-- The end of an execution, as set on its row. -/
def endExecution (executionId : Nat) (status : RecordStatus) (errorCode : Option String) :
    Service Unit :=
  updateExecution executionId fun execution ↦ { execution with status, errorCode }

/-- What applying and removing work with once they are authorised. -/
structure Containment where
  subject : Subject
  recordId : Nat
  proposalId : Nat
  policyName : String

/-- The record of a new quarantine, `security/quarantine.py:106`. -/
def recordRow (s : Subject) (risk : RiskResult) : QuarantineRecord where
  incidentId := s.incidentId
  securityEventId := s.eventId
  ns := s.event.ns
  pod := s.event.pod
  workload := s.event.workload
  policyName := policyNameOf s.event
  selector := quarantineSelector (quarantineIdOf s.event)
  reason := "Contain " ++ s.event.eventType.value ++ " detected by " ++ s.event.policy
  riskScore := risk.score
  status := .applying

/-- The row of a containment that was verified, `security/quarantine.py:178`. -/
def recordContainment (env : Env) (c : Containment) (executionId : Nat)
    (verification : ContainmentVerification) : Service Unit := do
  let execution ← loadExecution executionId
  let now ← ask env.now
  insertVerificationRecord env {
    incidentId := c.subject.incidentId
    actionExecutionId := some executionId
    attempt := execution.attempt
    success := true
    checks := verification.checks.map fun check ↦ { name := check.1, passed := check.2 }
    completedAt := now
    attempt_mem := execution.attempt_mem }

/-- The `try` block of `apply_quarantine`, `security/quarantine.py:139`. -/
def contain (env : Env) (settings : Settings) (c : Containment) (executionId : Nat)
    (actor : String) : Service Nat := do
  let event := c.subject.event
  let reachable ← probeControlledSecurityEgress env settings event.ns event.pod
  require reachable
    ⟨"QUARANTINE_BASELINE_FAILED",
      "Controlled internal egress was not reachable before quarantine", 409⟩
  applyQuarantinePolicy env settings event.ns event.pod (quarantineIdOf event)
    (toString c.subject.incidentId)
  changeIncidentState env settings c.subject.incidentId .verifying actor
  let verification ← waitForContainment env settings event c.policyName
  require (verification.success = some true)
    ⟨"QUARANTINE_VERIFICATION_FAILED", "Cilium quarantine could not be verified", 502⟩
  setContainment c.subject c.recordId .contained
  setVerification c.recordId verification
  endExecution executionId .succeeded none
  updateProposal c.proposalId fun proposal ↦ { proposal with status := .succeeded }
  -- the audit row's flush
  recordContainment env c executionId verification
  Exec.when ("security_containment_executed" ∈ settings.enabledNotificationEvents) do
    Exec.faultOf (← ask env.validation)
    flush env
  -- the second audit row's flush
  flush env
  commit env
  -- `session.refresh(record)`
  flush env
  return c.recordId

/-- The states in which a failed containment escalates, `security/quarantine.py:242`. -/
def escalatesFrom (state : IncidentState) : Bool := state ∈ [.executing, .verifying]

/-- The handler of `apply_quarantine`, `security/quarantine.py:234`. -/
def onContainFailure (env : Env) (settings : Settings) (c : Containment) (executionId : Nat) :
    Exc → Service Nat
  | .cloudWard error => do
    setContainment c.subject c.recordId .verificationFailed
    setVerification c.recordId { success := some false, errorCode := some error.code }
    endExecution executionId .failed (some error.code)
    let incident ← loadIncident c.subject.incidentId
    Exec.when (escalatesFrom incident.state)
      (changeIncidentState env settings c.subject.incidentId .escalated "cloudward"
        { reason := some "containment verification failed" })
    -- the audit row's flush
    flush env
    commit env
    throw (.cloudWard error)
  | e => throw e

/-- Authorise an application: the checks of `apply_quarantine` from the live target to the
recorded decision, `security/quarantine.py:75`. -/
def authoriseApply (env : Env) (s : Subject) (actor : String) : Service Nat := do
  let pod ← getPodHealth env s.event.ns s.event.pod
  require (isDemoTarget pod.labels)
    (targetDenied "Live quarantine target is outside the demo safety boundary")
  let input := authorizeInput s actor .applyQuarantine pod
  let decision ← evaluate env input
  let proposalId ← proposalForApply env s
  persistDecision env s proposalId input decision
  if decision.allowed then return proposalId
  else do
    -- the audit row's flush
    flush env
    commit env
    raise ⟨"QUARANTINE_DENIED", decision.reason, 403⟩

/-- `record = existing or QuarantineRecord(...)` and its `session.add`. -/
def openRecord (s : Subject) : Option (Nat × QuarantineRecord) → Service Nat
  | some (recordId, _) => do
    updateQuarantineRecord recordId fun record ↦ { record with status := .applying }
    return recordId
  | none => insertQuarantineRecord (recordRow s (quarantineRisk s.event .applyQuarantine))

/-- Apply an authorised quarantine, `security/quarantine.py:105`. -/
def execute (env : Env) (settings : Settings) (s : Subject)
    (existing : Option (Nat × QuarantineRecord)) (proposalId : Nat) (actor : String) :
    Service Nat := do
  let recordId ← openRecord s existing
  updateSecurityEvent s.eventId fun event ↦ { event with containmentStatus := .applying }
  Exec.when (s.incident.state ∈ [.policyEvaluation, .awaitingApproval])
    (changeIncidentState env settings s.incidentId .executing actor)
  let executionId ← newExecution env s proposalId .applyQuarantine
  flush env
  let c : Containment :=
    { subject := s
      recordId
      proposalId
      policyName := (existing.map (·.2.policyName)).getD (policyNameOf s.event) }
  tryCatch (contain env settings c executionId actor)
    (onContainFailure env settings c executionId)

/-- The newest record of an event that is not removed. -/
def activeRecord (db : Database) (eventId : Nat) : Option (Nat × QuarantineRecord) :=
  db.quarantineRecords.latest fun r ↦ r.securityEventId = eventId ∧ r.status ≠ .removed

/-- `apply_quarantine`, `security/quarantine.py:42`. -/
def applyQuarantine (env : Env) (settings : Settings) (eventId : Nat) (actor : String) :
    Service Nat := do
  let s ← eventAndIncident env eventId
  let existing ← query env (activeRecord · s.eventId)
  match existing.filter fun e ↦ e.2.status ∈ [.contained, .applying] with
  | some (recordId, _) => return recordId
  | none => do
    require (¬ s.incident.state.isTerminal)
      ⟨"INCIDENT_NOT_ACTIONABLE", "The security incident is in a terminal state", 409⟩
    let proposalId ← authoriseApply env s actor
    execute env settings s existing proposalId actor

/-! ### Removing -/

/-- The newest record of an event. -/
def latestRecord (db : Database) (eventId : Nat) : Option (Nat × QuarantineRecord) :=
  db.quarantineRecords.latest (·.securityEventId = eventId)

/-- The proposal row of a removal, `security/quarantine.py:298`. -/
def removalRow (s : Subject) (record : QuarantineRecord) (actor : String) : ActionProposal :=
  let risk := quarantineRisk s.event .removeQuarantine
  { incidentId := s.incidentId
    actionType := .removeQuarantine
    parameters :=
      [("security_event_id", .str (toString s.eventId)), ("namespace", .str s.event.ns),
        ("pod", .str s.event.pod), ("policy_name", .str record.policyName)]
    riskScore := risk.score
    riskCalculation := riskDump risk
    proposedBy := actor
    riskScore_le := risk.score_le }

/-- Authorise a removal, `security/quarantine.py:288`; a denial is committed and raised. -/
def authoriseRemoval (env : Env) (s : Subject) (recordId : Nat) (record : QuarantineRecord)
    (actor : String) : Service Containment := do
  let pod ← getPodHealth env s.event.ns s.event.pod
  let input := authorizeInput s actor .removeQuarantine pod
  let decision ← evaluate env input
  let proposalId ← insertProposal (removalRow s record actor)
  flush env
  persistDecision env s proposalId input decision
  if decision.allowed then
    return { subject := s, recordId, proposalId, policyName := record.policyName }
  else do
    updateProposal proposalId fun proposal ↦ { proposal with status := .rejected }
    commit env
    raise ⟨"QUARANTINE_REMOVAL_DENIED", decision.reason, 403⟩

/-- Begin an authorised removal, `security/quarantine.py:320`. -/
def beginRemoval (env : Env) (c : Containment) : Service Nat := do
  setContainment c.subject c.recordId .removing
  newExecution env c.subject c.proposalId .removeQuarantine

/-- The `try` block of `remove_quarantine`, `security/quarantine.py:328`. -/
def release (env : Env) (settings : Settings) (c : Containment) (executionId : Nat)
    (actor : String) : Service Nat := do
  let event := c.subject.event
  let _ ← removeQuarantinePolicy env settings event.ns event.pod c.policyName
    (quarantineIdOf event)
  let verification ← waitForRelease env settings event c.policyName
  require (verification.success = some true)
    ⟨"QUARANTINE_REMOVAL_VERIFICATION_FAILED", "Quarantine removal could not be verified", 502⟩
  setContainment c.subject c.recordId .removed
  setVerification c.recordId verification
  endExecution executionId .succeeded none
  updateProposal c.proposalId fun proposal ↦ { proposal with status := .succeeded }
  let incident ← loadIncident c.subject.incidentId
  Exec.when (incident.state = .verifying) do
    updateIncident c.subject.incidentId fun incident ↦
      { incident with resolutionSource := some .cloudwardRemediation }
    changeIncidentState env settings c.subject.incidentId .resolved actor
  -- the audit row's flush
  flush env
  commit env
  -- `session.refresh(record)`
  flush env
  return c.recordId

/-- The handler of `remove_quarantine`, `security/quarantine.py:377`. -/
def onReleaseFailure (env : Env) (c : Containment) (executionId : Nat) : Exc → Service Nat
  | .cloudWard error => do
    setContainment c.subject c.recordId .verificationFailed
    endExecution executionId .failed (some error.code)
    -- the audit row's flush
    flush env
    commit env
    throw (.cloudWard error)
  | e => throw e

/-- Remove a quarantine whose removal is authorised. -/
def finishRemoval (env : Env) (settings : Settings) (c : Containment) (actor : String) :
    Service Nat := do
  let executionId ← beginRemoval env c
  tryCatch (release env settings c executionId actor) (onReleaseFailure env c executionId)

/-- The error of an event that was never quarantined. -/
def quarantineNotFound : CloudWardError :=
  ⟨"QUARANTINE_NOT_FOUND", "No quarantine exists for this security event", 404⟩

/-- `remove_quarantine` up to its authorisation; a record that is removed already is the
result. -/
def openRemoval (env : Env) (eventId : Nat) (actor : String) :
    Service (Nat ⊕ Containment) := do
  let s ← eventAndIncident env eventId
  let found ← query env (latestRecord · s.eventId)
  match found with
  | none => raise quarantineNotFound
  | some (recordId, record) =>
    if record.status = .removed then return .inl recordId
    else do
      let c ← authoriseRemoval env s recordId record actor
      return .inr c

/-- `remove_quarantine`, `security/quarantine.py:262`. -/
def removeQuarantine (env : Env) (settings : Settings) (eventId : Nat) (actor : String) :
    Service Nat := do
  match ← openRemoval env eventId actor with
  | .inl recordId => return recordId
  | .inr c => finishRemoval env settings c actor

end CloudWard.Security
