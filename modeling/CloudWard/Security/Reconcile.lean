import CloudWard.Security.Quarantine

/-!
# Reconciling a security scenario

`api/internal_reliability.py:657`: the incident-lab worker's pass over one running scenario.
It finds the event the scenario provoked, applies its quarantine, removes it when it is
verified, and cleans up when the deadline has passed or the incident cannot go on. The
scenario's own row is read by no other modelled service, so a pass only returns what it
sets there.
-/

namespace CloudWard.Security

open CloudWard.Db CloudWard.Incidents CloudWard.Kubernetes CloudWard.Logic Service

/-- `ExperimentStatus`, the members a pass reads or sets. -/
inductive ExperimentStatus
  | pending
  | running
  | stopping
  | succeeded
  | failed
  | timedOut
  | cancelled
deriving DecidableEq, Repr

/-- `ChaosExecution`, what a pass reads of it; `eventsBefore` counts the security events that
are older than the execution. -/
structure ChaosExecution where
  category : SecurityCategory
  targetNamespace : String
  resourceName : Option String
  eventsBefore : Nat
  cleanupDeadline : Nat
  status : ExperimentStatus

/-- `ReconcileResult`, with the `cleanup_verified` entry of the execution's details. -/
structure ReconcileResult where
  terminal : Bool
  status : ExperimentStatus
  detail : String
  cleanup : Option Bool := none
  retryAfterSeconds : Nat := 5
deriving DecidableEq

/-- `actor="incident-lab-worker"`. -/
def labWorker : String := "incident-lab-worker"

/-- The statuses of `_remove_security_containment` that need no removal. -/
def needsNoRemoval (status : ContainmentStatus) : Bool :=
  status ∈ [.notProposed, .proposed, .awaitingApproval, .removed]

/-- The event of a pass, `api/internal_reliability.py:666`. -/
def scenarioEvent (db : Database) (x : ChaosExecution) : Option Nat :=
  ((Table.latest (db.securityEvents.drop x.eventsBefore) fun e ↦
    e.eventType = x.category ∧ e.ns = x.targetNamespace ∧
      ∀ name ∈ x.resourceName, name ≠ "" → e.pod = name).map Prod.fst).map (x.eventsBefore + ·)

/-- `_remove_security_containment`, `api/internal_reliability.py:831`. -/
def removeSecurityContainment (env : Env) (settings : Settings) (eventId : Nat) :
    Service Bool := do
  let event ← loadSecurityEvent eventId
  if needsNoRemoval event.containmentStatus then return true
  else
    tryCatch
      (do
        let recordId ← removeQuarantine env settings eventId labWorker
        Exec.read fun w ↦ (w.db.quarantineRecords[recordId]?).any fun record ↦
          record.status = .removed ∧ record.verification.success = some true)
      fun e ↦ if e.isCloudWard then pure false else throw e

/-- What a pass comes to before it cleans up. -/
inductive Pass
  | done (result : ReconcileResult)
  | cleanUp (eventId : Nat) (status : ExperimentStatus) (detail : String)

/-- `incident.state.value in {"BLOCKED", "ESCALATED"}`. -/
def cannotGoOn (incident : Option Incident) : Bool :=
  incident.any fun incident ↦ incident.state ∈ [.blocked, .escalated]

/-- The end of a pass that goes on later. -/
def stillActive (env : Env) (x : ChaosExecution) (detail : String) : Service Pass := do
  flush env
  commit env
  return .done { terminal := false, status := x.status, detail }

/-- The incident of an event row. -/
def incidentOf (db : Database) (eventId : Nat) : Option Incident :=
  (db.securityEvents[eventId]?.bind (·.incidentId)).bind (db.incidents[·]?)

/-- A pass after any removal, `api/internal_reliability.py:773`. -/
def concludePass (env : Env) (x : ChaosExecution) (eventId : Nat) : Service Pass := do
  let event ← loadSecurityEvent eventId
  let incident ← Exec.read fun w ↦ incidentOf w.db eventId
  if event.containmentStatus = .removed ∧ incident.any (·.state = .resolved) then do
    flush env
    commit env
    return .done {
      terminal := true
      status := .succeeded
      detail := "security incident contained, verified, and cleaned up" }
  else if event.containmentStatus = .verificationFailed ∨ cannotGoOn incident then
    return .cleanUp eventId .failed
      "security incident containment or policy verification failed"
  else stillActive env x "security incident workflow is still active"

/-- A pass over the event of the scenario, `api/internal_reliability.py:696`. -/
def passEvent (env : Env) (settings : Settings) (x : ChaosExecution) (now eventId : Nat) :
    Service Pass := do
  let event ← loadSecurityEvent eventId
  -- `session.get(Incident, event.incident_id)`
  flush env
  if x.cleanupDeadline ≤ now then
    return .cleanUp eventId .timedOut
      "security scenario did not complete before its bounded deadline"
  else if event.containmentStatus ∈ [.proposed, .awaitingApproval] then do
    let _ ← applyQuarantine env settings eventId labWorker
    stillActive env x "targeted containment verified; cleanup scheduled"
  else if event.containmentStatus = .contained then do
    let _ ← removeQuarantine env settings eventId labWorker
    -- the two `session.refresh`
    flush env
    flush env
    concludePass env x eventId
  else concludePass env x eventId

/-- A pass that found no event, `api/internal_reliability.py:676`. -/
def passWithoutEvent (env : Env) (x : ChaosExecution) (now : Nat) : Service Pass :=
  if x.cleanupDeadline ≤ now then do
    flush env
    commit env
    return .done {
      terminal := true
      status := .timedOut
      detail := "expected normalized Tetragon event did not arrive before deadline" }
  else
    return .done {
      terminal := false
      status := x.status
      detail := "waiting for the expected normalized Tetragon event" }

/-- Everything a pass does before it cleans up. -/
def beforeCleanup (env : Env) (settings : Settings) (x : ChaosExecution) : Service Pass := do
  let now ← ask env.now
  let found ← query env (scenarioEvent · x)
  match found with
  | none => passWithoutEvent env x now
  | some eventId => passEvent env settings x now eventId

/-- The end of a pass that cleans up. -/
def cleanUp (env : Env) (settings : Settings) (eventId : Nat) (status : ExperimentStatus)
    (detail : String) : Service ReconcileResult := do
  let cleanup ← removeSecurityContainment env settings eventId
  flush env
  commit env
  return { terminal := true, status, detail, cleanup := some cleanup }

/-- `_reconcile_security_execution`, `api/internal_reliability.py:657`. -/
def reconcileSecurityExecution (env : Env) (settings : Settings) (x : ChaosExecution) :
    Service ReconcileResult := do
  let pass ← beforeCleanup env settings x
  match pass with
  | .done result => return result
  | .cleanUp eventId status detail => cleanUp env settings eventId status detail

/-- The call of `reconcile_execution` for a security scenario,
`api/internal_reliability.py:319`. -/
def reconcileExecution (env : Env) (settings : Settings) (x : ChaosExecution) :
    Service ReconcileResult := do
  -- `session.get(ChaosExecution, execution_id, with_for_update=True)`
  flush env
  if x.status ∈ [.pending, .running, .stopping] then reconcileSecurityExecution env settings x
  else return { terminal := true, status := x.status, detail := "execution is already terminal" }

end CloudWard.Security
