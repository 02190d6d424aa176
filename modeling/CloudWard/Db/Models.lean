import CloudWard.Incidents.StateMachine
import CloudWard.Logic.Table
import CloudWard.Policies.Opa

/-!
# Database rows

The columns of `db/models.py` that the modelled services read or decide on, one table a
model. Identities are positions, `created_at` order is insertion order, and the check
constraints on scores and attempts are fields of the rows. Audit, stream and notification
rows are written by the services but read by none of them, so only the points at which
writing them can fail are kept (`Base/World.lean`).
-/

namespace CloudWard.Db

open CloudWard.Incidents CloudWard.Logic CloudWard.Policies CloudWard.Remediation
  CloudWard.Risk

/-- `RecordStatus`, `db/models.py:55`. -/
inductive RecordStatus
  | pending
  | running
  | succeeded
  | failed
  | rejected
  | cancelled
deriving DecidableEq, Repr

/-- The enum's string value. -/
def RecordStatus.value : RecordStatus → String
  | .pending => "PENDING"
  | .running => "RUNNING"
  | .succeeded => "SUCCEEDED"
  | .failed => "FAILED"
  | .rejected => "REJECTED"
  | .cancelled => "CANCELLED"

/-- `SecurityCategory`, `db/models.py:64`. -/
inductive SecurityCategory
  | suspiciousProcess
  | unexpectedEgress
  | privilegeBehavior
deriving DecidableEq, Repr

/-- The enum's string value. -/
def SecurityCategory.value : SecurityCategory → String
  | .suspiciousProcess => "SUSPICIOUS_PROCESS"
  | .unexpectedEgress => "UNEXPECTED_EGRESS"
  | .privilegeBehavior => "PRIVILEGE_BEHAVIOR"

/-- `ContainmentStatus`, `db/models.py:70`. -/
inductive ContainmentStatus
  | notProposed
  | proposed
  | awaitingApproval
  | applying
  | contained
  | verificationFailed
  | removing
  | removed
deriving DecidableEq, Repr

/-- `ResolutionSource`, `db/models.py:81`. -/
inductive ResolutionSource
  | cloudwardRemediation
  | platformSelfHealing
  | humanAction
  | externalSystem
  | unknown
deriving DecidableEq, Repr

/-- `AlertStatus`, `db/models.py:89`. -/
inductive AlertStatus
  | firing
  | resolved
deriving DecidableEq, Repr

/-- `ApprovalDecision`, `db/models.py:122`. -/
inductive ApprovalDecision
  | pending
  | approved
  | rejected
  | expired
  | invalidated
deriving DecidableEq, Repr

/-- The JSON values of proposal parameters. -/
inductive JsonValue
  | null
  | bool (b : Bool)
  | int (n : Nat)
  | str (s : String)
  | labels (l : Labels)
deriving DecidableEq

/-- A `parameters` or `result` column: a JSON object. -/
abbrev Parameters : Type := List (String × JsonValue)

/-- `IncidentEvent`, `db/models.py:246`. -/
structure IncidentEvent where
  eventType : String
  fromState : Option IncidentState := none
  toState : Option IncidentState := none
  actor : String
deriving DecidableEq

/-- `Incident`, `db/models.py:203`, with its events in order of insertion. -/
structure Incident where
  correlationId : String
  incidentType : String
  title : String
  summary : Option String := none
  environment : Environment
  state : IncidentState := .detected
  severity : String := "warning"
  riskScore : Option Nat := none
  retryCount : Nat := 0
  runbookId : Option String := none
  runbookVersion : Option Nat := none
  resolvedAt : Option Nat := none
  resolutionSource : Option ResolutionSource := none
  events : List IncidentEvent := []
deriving DecidableEq

/-- The `risk_calculation` column: a `RiskResult` dump has factors and no confidence. -/
structure RiskCalculation where
  factors : Option RiskFactors
  confidence : Option Confidence := none
deriving DecidableEq

/-- `risk.model_dump(mode="json")`. -/
def riskDump (risk : RiskResult) : RiskCalculation := { factors := some risk.factors }

/-- `ActionProposal`, `db/models.py:313`. -/
structure ActionProposal where
  incidentId : Nat
  actionType : ActionType
  parameters : Parameters
  status : RecordStatus := .pending
  riskScore : Nat
  riskCalculation : RiskCalculation
  proposedBy : String := "cloudward"
  riskScore_le : riskScore ≤ 100

/-- The material `action_idempotency_key`, `_new_execution` and `rollback_scale` hash; distinct materials are
taken to have distinct digests. -/
inductive IdempotencyKey
  | action (incidentId : Nat) (runbookId : String) (action : ActionType)
      (target : Parameters) (attempt : Nat)
  | quarantine (incidentId : Nat) (action : ActionType) (ns pod : String) (attempt : Nat)
  | rollback (executionId previous : Nat)
deriving DecidableEq

/-- `ActionExecution`, `db/models.py:335`, with its check on attempts. -/
structure ActionExecution where
  incidentId : Nat
  proposalId : Nat
  actionType : ActionType
  attempt : Nat
  status : RecordStatus
  errorCode : Option String := none
  result : Parameters := []
  idempotencyKey : Option IdempotencyKey := none
  rollbackOfExecutionId : Option Nat := none
  rolledBackAt : Option Nat := none
  attempt_mem : 1 ≤ attempt ∧ attempt ≤ 3
deriving DecidableEq

/-- `AlertRecord`, `db/models.py:370`. -/
structure AlertRecord where
  incidentId : Option Nat
  source : String := "prometheus"
  fingerprint : String
  payloadDigest : String
  alertName : String
  status : AlertStatus
  severity : String
  service : String
  environment : Environment
  ns : Option String
  labels : Labels
  annotations : Labels
  startsAt : Nat
  endsAt : Option Nat
  lastReceivedAt : Nat
  repeatCount : Nat := 1
deriving DecidableEq

/-- The value of `_context` in `approvals/service.py:38`, less its constant state. -/
structure ApprovalContext where
  incidentId : Nat
  proposalId : Nat
  proposalVersion : Nat
  action : ActionType
  riskScore : Nat
  parameters : Parameters
deriving DecidableEq

/-- `Approval`, `db/models.py:469`. -/
structure Approval where
  incidentId : Nat
  proposalId : Nat
  actorId : Option String := none
  decision : ApprovalDecision := .pending
  reason : Option String := none
  action : ActionType
  environment : Environment
  riskScore : Nat
  blastRadius : Nat
  reversible : Bool
  requestedBy : String
  runbook : Option String := none
  proposalVersion : Nat := 1
  targetReference : String
  expectedState : ApprovalContext
  contextDigest : String
  expiresAt : Nat
  decidedAt : Option Nat := none
  decidedBy : Option String := none
  decisionComment : Option String := none
  invalidatedReason : Option String := none
  executionClaimedAt : Option Nat := none
  executionReference : Option String := none
deriving DecidableEq

/-- `PolicyDecision`, `db/models.py:513`; the input stands for its digest. -/
structure PolicyDecision where
  incidentId : Nat
  proposalId : Nat
  allowed : Bool
  requiresApproval : Bool
  reason : String
  input : PolicyInput
deriving DecidableEq

/-- `RunbookExecution`, `db/models.py:545`. -/
structure RunbookExecution where
  incidentId : Nat
  runbookId : String
  runbookVersion : Nat
  status : RecordStatus
deriving DecidableEq

/-- `SecurityEvent`, `db/models.py:559`; `uuid` is the 32 hexadecimal digits of its id. -/
structure SecurityEvent where
  uuid : String
  incidentId : Option Nat
  source : String
  fingerprint : String
  eventType : SecurityCategory
  severity : String
  environment : Environment
  ns : String
  pod : String
  workload : Option String := none
  policy : String
  dedupCount : Nat := 1
  riskScore : Option Nat := none
  policyDecision : Option String := none
  containmentStatus : ContainmentStatus := .notProposed
deriving DecidableEq

/-- A `verification` column of a quarantine: what a verification found, or the code of the
error that ended it; empty before the first. -/
structure ContainmentVerification where
  success : Option Bool := none
  checks : List (String × Bool) := []
  errorCode : Option String := none
deriving DecidableEq

/-- `QuarantineRecord`, `db/models.py:599`. -/
structure QuarantineRecord where
  incidentId : Nat
  securityEventId : Nat
  ns : String
  pod : String
  workload : Option String := none
  policyName : String
  selector : Labels
  reason : String
  riskScore : Nat
  status : ContainmentStatus
  verification : ContainmentVerification := {}
deriving DecidableEq

/-- A check in the `checks` column of a verification, less its readings. -/
structure VerificationCheck where
  name : String
  required : Bool := true
  passed : Bool
deriving DecidableEq

/-- `VerificationRecord`, `db/models.py:403`, with its check on attempts. -/
structure VerificationRecord where
  incidentId : Nat
  actionExecutionId : Option Nat
  attempt : Nat
  success : Bool
  checks : List VerificationCheck
  completedAt : Nat
  attempt_mem : 1 ≤ attempt ∧ attempt ≤ 3
deriving DecidableEq

/-- The modelled tables. -/
structure Database where
  incidents : Table Incident := []
  proposals : Table ActionProposal := []
  executions : Table ActionExecution := []
  approvals : Table Approval := []
  policyDecisions : Table PolicyDecision := []
  runbookExecutions : Table RunbookExecution := []
  securityEvents : Table SecurityEvent := []
  quarantineRecords : Table QuarantineRecord := []
  alerts : Table AlertRecord := []
  verificationRecords : Table VerificationRecord := []

end CloudWard.Db
