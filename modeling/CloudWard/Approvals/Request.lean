import CloudWard.Base.World

/-!
# Requesting an approval

The first half of `approvals/service.py`: the context an approval is bound to, its digest,
and `ensure_runtime_approval`, which `change_incident_state` calls when an incident starts
to wait. The second half, deciding, is in `Approvals/Service.lean`.
-/

namespace CloudWard.Db

open CloudWard.Logic

/-- The row behind an incident instance; one whose row is gone raises. -/
def loadIncident (id : Nat) : Service Incident := do
  match ← Exec.read fun w ↦ w.db.incidents[id]? with
  | some incident => return incident
  | none => throw .database

/-- The row behind a proposal instance; one whose row is gone raises. -/
def loadProposal (id : Nat) : Service ActionProposal := do
  match ← Exec.read fun w ↦ w.db.proposals[id]? with
  | some proposal => return proposal
  | none => throw .database

/-- The row behind an execution instance; one whose row is gone raises. -/
def loadExecution (id : Nat) : Service ActionExecution := do
  match ← Exec.read fun w ↦ w.db.executions[id]? with
  | some execution => return execution
  | none => throw .database

/-- The row behind a security event instance; one whose row is gone raises. -/
def loadSecurityEvent (id : Nat) : Service SecurityEvent := do
  match ← Exec.read fun w ↦ w.db.securityEvents[id]? with
  | some event => return event
  | none => throw .database

/-- Set columns of an incident. -/
def updateIncident (id : Nat) (f : Incident → Incident) : Service Unit :=
  Service.write fun db ↦ { db with incidents := db.incidents.update id f }

/-- Set columns of a proposal. -/
def updateProposal (id : Nat) (f : ActionProposal → ActionProposal) : Service Unit :=
  Service.write fun db ↦ { db with proposals := db.proposals.update id f }

/-- Set columns of an execution. -/
def updateExecution (id : Nat) (f : ActionExecution → ActionExecution) : Service Unit :=
  Service.write fun db ↦ { db with executions := db.executions.update id f }

/-- Set columns of an approval. -/
def updateApproval (id : Nat) (f : Approval → Approval) : Service Unit :=
  Service.write fun db ↦ { db with approvals := db.approvals.update id f }

/-- `session.add` of a proposal; the result is its identity. -/
def insertProposal (row : ActionProposal) : Service Nat := do
  let id ← Exec.read fun w ↦ w.db.proposals.fresh
  Service.write fun db ↦ { db with proposals := db.proposals.insert row }
  return id

/-- The unique constraints of `action_executions`. -/
def executionIsUnique (executions : Table ActionExecution) (row : ActionExecution) : Prop :=
  ∀ e ∈ executions, (e.incidentId, e.attempt) ≠ (row.incidentId, row.attempt) ∧
    (row.idempotencyKey.isSome → e.idempotencyKey ≠ row.idempotencyKey)

instance (executions : Table ActionExecution) (row : ActionExecution) :
    Decidable (executionIsUnique executions row) := by
  unfold executionIsUnique
  infer_instance

/-- `session.add` of an execution and the flush that sends it; the result is its identity. -/
def insertExecution (env : Env) (row : ActionExecution) : Service Nat := do
  let executions ← Exec.read fun w ↦ w.db.executions
  Exec.require (executionIsUnique executions row) .database
  Service.write fun db ↦ { db with executions := db.executions.insert row }
  Service.flush env
  return executions.fresh

/-- The unique constraint of `verification_records`. -/
def verificationIsUnique (records : Table VerificationRecord) (row : VerificationRecord) :
    Prop :=
  ∀ r ∈ records, (r.incidentId, r.attempt) ≠ (row.incidentId, row.attempt)

instance (records : Table VerificationRecord) (row : VerificationRecord) :
    Decidable (verificationIsUnique records row) := by
  unfold verificationIsUnique
  infer_instance

/-- `session.add` of a verification and the flush that sends it. -/
def insertVerificationRecord (env : Env) (row : VerificationRecord) : Service Unit := do
  let records ← Exec.read fun w ↦ w.db.verificationRecords
  Exec.require (verificationIsUnique records row) .database
  Service.write fun db ↦ { db with verificationRecords := db.verificationRecords.insert row }
  Service.flush env

/-- `session.add` of a policy decision. -/
def insertPolicyDecision (row : PolicyDecision) : Service Unit :=
  Service.write fun db ↦ { db with policyDecisions := db.policyDecisions.insert row }

/-- `session.add` of a runbook execution; the result is its identity. -/
def insertRunbookExecution (row : RunbookExecution) : Service Nat := do
  let id ← Exec.read fun w ↦ w.db.runbookExecutions.fresh
  Service.write fun db ↦ { db with runbookExecutions := db.runbookExecutions.insert row }
  return id

/-- Set columns of a runbook execution. -/
def updateRunbookExecution (id : Nat) (f : RunbookExecution → RunbookExecution) :
    Service Unit :=
  Service.write fun db ↦ { db with runbookExecutions := db.runbookExecutions.update id f }

end CloudWard.Db

namespace CloudWard.Approvals

open CloudWard.Db CloudWard.Logic CloudWard.Remediation Service

/-- `dict.get` on a parameters column. -/
def param (parameters : Parameters) (key : String) : Option JsonValue := parameters.lookup key

/-- Python's truth value of `parameters.get(key)`. -/
def truthy : Option JsonValue → Bool
  | some (.str s) => s ≠ ""
  | some (.int n) => n ≠ 0
  | some (.bool b) => b
  | some (.labels l) => l.entries ≠ []
  | some .null => false
  | none => false

/-- `str(value)` of a parameter that names a workload. -/
def text : Option JsonValue → String
  | some (.str s) => s
  | some (.int n) => toString n
  | some (.bool b) => if b then "True" else "False"
  | some (.labels _) => "{}"
  | some .null => "None"
  | none => "None"

/-- `_context`, `approvals/service.py:38`. -/
def contextOf (incidentId proposalId : Nat) (proposal : ActionProposal)
    (proposalVersion : Nat) : ApprovalContext where
  incidentId := incidentId
  proposalId := proposalId
  proposalVersion := proposalVersion
  action := proposal.actionType
  riskScore := proposal.riskScore
  parameters := proposal.parameters

/-- `_target_reference`, `approvals/service.py:59`. -/
def targetReference (parameters : Parameters) : String :=
  let ns := match param parameters "namespace" with
    | none => "unknown"
    | ns => text ns
  let name := ["deployment", "pod_name", "pod"].find? fun key ↦ truthy (param parameters key)
  ns ++ "/" ++ (name.map fun key ↦ text (param parameters key)).getD "unknown"

/-- `max(1, int(parameters.get("target_count", 1)))`, `approvals/service.py:101`. -/
def blastRadius (parameters : Parameters) : Nat :=
  match param parameters "target_count" with
  | some (.int n) => max 1 n
  | _ => 1

/-- The row `ensure_runtime_approval` adds, `approvals/service.py:92`. -/
def approvalRow (env : Env) (settings : Settings) (incidentId proposalId : Nat)
    (incident : Incident) (proposal : ActionProposal) (requestedBy : String)
    (reason : Option String) (now : Nat) : Approval where
  incidentId := incidentId
  proposalId := proposalId
  reason := reason
  action := proposal.actionType
  environment := incident.environment
  riskScore := proposal.riskScore
  blastRadius := blastRadius proposal.parameters
  reversible := (getActionMetadata proposal.actionType).reversible
  requestedBy := requestedBy
  runbook := incident.runbookId
  targetReference := targetReference proposal.parameters
  expectedState := contextOf incidentId proposalId proposal 1
  contextDigest := env.digest (contextOf incidentId proposalId proposal 1)
  expiresAt := now + settings.approvalTtlSeconds

/-- `session.add` of an approval. -/
def insertApproval (row : Approval) : Service Unit := Exec.update fun w ↦
  { w with
    db := { w.db with approvals := w.db.approvals.insert row }
    approvalRequests := ⟨row, w.db, w.trace⟩ :: w.approvalRequests }

/-- `ensure_runtime_approval`, `approvals/service.py:70`: the existing approval of the
proposal's first version, or a new one. -/
def ensureRuntimeApproval (env : Env) (settings : Settings) (incidentId proposalId : Nat)
    (requestedBy : String) (reason : Option String) : Service Nat := do
  let existing ← query env fun db ↦ db.approvals.latest fun a ↦
    a.proposalId = proposalId ∧ a.proposalVersion = 1
  match existing with
  | some (id, _) => return id
  | none =>
    let incident ← loadIncident incidentId
    let proposal ← loadProposal proposalId
    let now ← ask env.now
    let id ← Exec.read fun w ↦ w.db.approvals.fresh
    let row := approvalRow env settings incidentId proposalId incident proposal requestedBy
      reason now
    insertApproval row
    -- the session's flush, the audit row's and the stream row's
    flush env
    flush env
    flush env
    return id

/-- A requested approval is pending and carries the digest of its own context. -/
theorem approvalRow_bound (env : Env) (settings : Settings) (incidentId proposalId : Nat)
    (incident : Incident) (proposal : ActionProposal) (requestedBy : String)
    (reason : Option String) (now : Nat) :
    let row := approvalRow env settings incidentId proposalId incident proposal requestedBy
      reason now
    row.decision = .pending ∧ row.contextDigest = env.digest row.expectedState ∧
      now < row.expiresAt := by
  refine ⟨rfl, rfl, ?_⟩
  have := settings.approvalTtlSeconds_mem.1
  simp only [approvalRow]
  omega

end CloudWard.Approvals
