import CloudWard.Security.Quarantine

/-!
# Ingesting a security event

`security/service.py`: a normalized Tetragon event opens an incident, is proposed for
quarantine and evaluated once; a delivery that was seen before only counts.
-/

namespace CloudWard.Security

open CloudWard.Db CloudWard.Incidents CloudWard.Kubernetes CloudWard.Logic CloudWard.Policies
  CloudWard.Remediation CloudWard.Risk Service

/-- `TetragonSecurityEvent`, `security/schemas.py:33`, with what its validators ask of the
fields the ingestion uses; the namespace and the environment it accepts are constants. -/
structure TetragonSecurityEvent where
  eventType : SecurityCategory
  severity : String
  pod : String
  workload : Option String
  policy : String
  workloadLabels : Labels
  secretsOrDataExposure : Bool
  pod_valid : validName pod
  demo_target : isDemoTarget workloadLabels

/-- The namespace of every accepted event. -/
def stagingNamespace : String := "cloudward-staging"

/-- `_diagnostic_confidence`, `security/service.py:353`. -/
def diagnosticConfidence : SecurityCategory → Confidence
  | .suspiciousProcess => ⟨96 / 100, by norm_num⟩
  | .unexpectedEgress => ⟨94 / 100, by norm_num⟩
  | .privilegeBehavior => quarantineConfidence

/-- The criticality a label set names. -/
def criticalityOf (labels : Labels) : String := (labels.lookup criticalityLabel).getD "low"

/-- `_sensitivity`, `security/service.py:361`. -/
def eventSensitivity (event : TetragonSecurityEvent) : Sensitivity :=
  if event.eventType = .privilegeBehavior ∨ event.secretsOrDataExposure ∨
      criticalityOf event.workloadLabels ∈ ["high", "critical"] then .high
  else if event.eventType = .unexpectedEgress ∨
      criticalityOf event.workloadLabels = "medium" then .moderate
  else .low

/-- The risk of an ingestion, `security/service.py:202`. -/
def ingestionRisk (event : TetragonSecurityEvent) : RiskResult :=
  calculate
    { environment := Environment.staging.value
      action := .applyQuarantine
      targetCount := 1
      reversible := some true
      confidence := diagnosticConfidence event.eventType
      sensitivity := eventSensitivity event
      targetCount_pos := Nat.one_pos }

/-- The policy input of an ingestion, `security/service.py:254`; `labels` are the workload
labels of the normalized payload. -/
def ingestionInput (event : TetragonSecurityEvent) (labels : Labels) : PolicyInput where
  environment := Environment.staging.value
  action := .applyQuarantine
  riskScore := (ingestionRisk event).score
  riskFactors := (ingestionRisk event).factors
  confidence := diagnosticConfidence event.eventType
  blastRadius := 1
  reversible := true
  serviceCriticality := criticalityOf labels
  target := ⟨stagingNamespace, event.pod, labels, true, 1, oneTarget_le⟩
  riskScore_le := (ingestionRisk event).score_le

/-- The digits of a `uuid.UUID.hex`. -/
def isHexDigit (c : Char) : Bool := ('0' ≤ c ∧ c ≤ '9') ∨ ('a' ≤ c ∧ c ≤ 'f')

/-- A delivery: the event, its fingerprint, the identity a new row gets and the labels that
redaction leaves of its payload. -/
structure Delivery where
  event : TetragonSecurityEvent
  fingerprint : String
  uuid : String
  labels : Labels
  uuid_hex : uuid.toList.length = 32 ∧ uuid.toList.all isHexDigit

/-- `_incident_title`, `security/service.py:336`. -/
def incidentTitle (event : TetragonSecurityEvent) : String :=
  (match event.eventType with
    | .suspiciousProcess => "Unexpected shell process detected"
    | .unexpectedEgress => "Unexpected internal egress detected"
    | .privilegeBehavior => "Privilege-related behavior detected") ++ " · " ++ event.pod

/-- `_runbook_id`, `security/service.py:345`. -/
def runbookIdOf : SecurityCategory → String
  | .suspiciousProcess => "security.suspicious-shell-pattern"
  | .unexpectedEgress => "security.unexpected-egress"
  | .privilegeBehavior => "security.privilege-related-behavior"

/-- The incident row of an event, `security/service.py:104`. -/
def incidentRow (d : Delivery) : Incident where
  correlationId := "security-" ++ String.ofList (d.fingerprint.toList.take 24)
  incidentType := "security." ++ d.event.eventType.value.map Char.toLower
  title := incidentTitle d.event
  summary := some ("Tetragon policy " ++ d.event.policy ++
    " detected controlled runtime behavior in " ++ stagingNamespace ++ "/" ++ d.event.pod ++ ".")
  environment := .staging

/-- The event row, `security/service.py:134`. -/
def eventRow (d : Delivery) (incidentId : Nat) : SecurityEvent where
  uuid := d.uuid
  incidentId := some incidentId
  source := "tetragon"
  fingerprint := d.fingerprint
  eventType := d.event.eventType
  severity := d.event.severity
  environment := .staging
  ns := stagingNamespace
  pod := d.event.pod
  workload := d.event.workload
  policy := d.event.policy

/-- The proposal row, `security/service.py:224`. -/
def proposalRow (d : Delivery) (incidentId eventId : Nat) : ActionProposal where
  incidentId := incidentId
  actionType := .applyQuarantine
  parameters :=
    [("security_event_id", .str (toString eventId)), ("namespace", .str stagingNamespace),
      ("pod", .str d.event.pod), ("target_count", .int 1),
      ("policy", .str "targeted-cilium-egress-deny")]
  riskScore := (ingestionRisk d.event).score
  riskCalculation := riskDump (ingestionRisk d.event)
  proposedBy := "cloudward-security"
  riskScore_le := (ingestionRisk d.event).score_le

/-- `session.add` of an event and the flush that sends it; the result is its identity. -/
def insertSecurityEvent (env : Env) (row : SecurityEvent) : Service Nat := do
  let events ← Exec.read fun w ↦ w.db.securityEvents
  Exec.require (∀ e ∈ events, e.uuid ≠ row.uuid) .database
  write fun db ↦ { db with securityEvents := db.securityEvents.insert row }
  flush env
  return events.fresh

/-- The steps up to the classification, `security/service.py:103` to `200`. -/
def openEvent (env : Env) (settings : Settings) (d : Delivery) : Service (Nat × Nat) := do
  let incidentId ← createIncident env (incidentRow d) "tetragon-forwarder"
  updateIncident incidentId fun incident ↦ { incident with severity := d.event.severity }
  Exec.when (d.event.severity = "critical" ∧
      "critical_incident_detected" ∈ settings.enabledNotificationEvents) do
    Exec.faultOf (← ask env.validation)
    flush env
  updateIncident incidentId fun incident ↦
    { incident with runbookId := some (runbookIdOf d.event.eventType), runbookVersion := some 1 }
  let eventId ← insertSecurityEvent env (eventRow d incidentId)
  -- the two audit rows' flushes
  flush env
  flush env
  changeIncidentState env settings incidentId .collectingEvidence
  changeIncidentState env settings incidentId .classifying
  return (incidentId, eventId)

/-- The proposal and its evaluation, `security/service.py:202` to `300`. -/
def proposeQuarantine (env : Env) (settings : Settings) (d : Delivery) (incidentId eventId : Nat) :
    Service (Nat × PolicyResult) := do
  updateIncident incidentId fun incident ↦
    { incident with riskScore := some (ingestionRisk d.event).score }
  -- the audit row's flush
  flush env
  changeIncidentState env settings incidentId .actionProposed
  let proposalId ← insertProposal (proposalRow d incidentId eventId)
  flush env
  -- the audit row's flush
  flush env
  changeIncidentState env settings incidentId .policyEvaluation
  let input := ingestionInput d.event d.labels
  let decision ← evaluate env input
  updateSecurityEvent eventId fun event ↦
    { event with
      riskScore := some input.riskScore
      policyDecision := some (if decision.allowed then "ALLOW" else "DENY") }
  insertPolicyDecision
    { incidentId
      proposalId
      allowed := decision.allowed
      requiresApproval := decision.requiresApproval
      reason := decision.reason
      input }
  -- the audit row's flush
  flush env
  return (proposalId, decision)

/-- What an ingestion does with the decision, `security/service.py:301`. -/
def settleEvent (env : Env) (settings : Settings) (incidentId eventId proposalId : Nat)
    (decision : PolicyResult) : Service Unit :=
  if decision.allowed then
    updateSecurityEvent eventId fun event ↦ { event with containmentStatus := .proposed }
  else if decision.requiresApproval then do
    updateSecurityEvent eventId fun event ↦ { event with containmentStatus := .awaitingApproval }
    changeIncidentState env settings incidentId .awaitingApproval
  else do
    updateProposal proposalId fun proposal ↦ { proposal with status := .rejected }
    changeIncidentState env settings incidentId .blocked "cloudward"
      { policyReason := some decision.reason }

/-- `ingest_security_event`, `security/service.py:73`, and the commit of its caller. -/
def ingestSecurityEvent (env : Env) (settings : Settings) (d : Delivery) : Service Unit := do
  let existing ← query env fun db ↦
    db.securityEvents.latest fun e ↦ e.source = "tetragon" ∧ e.fingerprint = d.fingerprint
  match existing with
  | some (eventId, _) => do
    updateSecurityEvent eventId fun event ↦ { event with dedupCount := event.dedupCount + 1 }
    -- the audit row's flush and the last one
    flush env
    flush env
    commit env
  | none => do
    let (incidentId, eventId) ← openEvent env settings d
    let (proposalId, decision) ← proposeQuarantine env settings d incidentId eventId
    settleEvent env settings incidentId eventId proposalId decision
    flush env
    commit env

end CloudWard.Security
