import CloudWard.Base.Errors

/-!
# Incident state machine

`incidents/state_machine.py`: thirteen states and the explicit transition table. Three
states are terminal; every other state can be escalated.
-/

namespace CloudWard.Incidents

/-- `IncidentState`, `incidents/state_machine.py:10`. -/
inductive IncidentState
  | detected
  | collectingEvidence
  | classifying
  | diagnosing
  | actionProposed
  | policyEvaluation
  | awaitingApproval
  | executing
  | verifying
  | rollback
  | resolved
  | blocked
  | escalated
deriving DecidableEq, Repr

namespace IncidentState

/-- The enum's string value. -/
def value : IncidentState → String
  | detected => "DETECTED"
  | collectingEvidence => "COLLECTING_EVIDENCE"
  | classifying => "CLASSIFYING"
  | diagnosing => "DIAGNOSING"
  | actionProposed => "ACTION_PROPOSED"
  | policyEvaluation => "POLICY_EVALUATION"
  | awaitingApproval => "AWAITING_APPROVAL"
  | executing => "EXECUTING"
  | verifying => "VERIFYING"
  | rollback => "ROLLBACK"
  | resolved => "RESOLVED"
  | blocked => "BLOCKED"
  | escalated => "ESCALATED"

/-- The states `{RESOLVED, BLOCKED, ESCALATED}` that the services treat as final. -/
def isTerminal (s : IncidentState) : Bool := s ∈ [resolved, blocked, escalated]

end IncidentState

open IncidentState

/-- `ALLOWED_TRANSITIONS`, `incidents/state_machine.py:26`. -/
def allowedTransitions : IncidentState → List IncidentState
  | detected => [collectingEvidence, blocked, escalated]
  | collectingEvidence => [classifying, blocked, escalated]
  | classifying => [diagnosing, actionProposed, blocked, escalated]
  | diagnosing => [actionProposed, blocked, escalated]
  | actionProposed => [policyEvaluation, blocked, escalated]
  | policyEvaluation => [awaitingApproval, executing, blocked, escalated]
  | awaitingApproval => [policyEvaluation, executing, blocked, escalated]
  | executing => [verifying, rollback, escalated]
  | verifying => [executing, rollback, resolved, escalated]
  | rollback => [verifying, resolved, escalated]
  | resolved => []
  | blocked => []
  | escalated => []

/-- `transition_incident`, `incidents/state_machine.py:86`. -/
def transitionIncident (current target : IncidentState) : Except Exc IncidentState :=
  if target ∈ allowedTransitions current then .ok target
  else .error <| .cloudWard
    { code := "INVALID_INCIDENT_TRANSITION"
      message := "Cannot transition from " ++ current.value ++ " to " ++ target.value
      statusCode := 409 }

/-- A transition succeeds exactly along the table. -/
theorem transitionIncident_eq_ok {current target s : IncidentState} :
    transitionIncident current target = .ok s ↔
      target ∈ allowedTransitions current ∧ s = target := by
  unfold transitionIncident
  split
  · next h => simp [h, eq_comm]
  · next h => simp [h]

/-- A refused transition is a `CloudWardError`. -/
theorem isCloudWard_of_transitionIncident {current target : IncidentState} {e : Exc}
    (h : transitionIncident current target = .error e) : e.isCloudWard := by
  unfold transitionIncident at h
  split at h
  · cases h
  · cases h
    rfl

/-- Terminal states have no successor. -/
theorem allowedTransitions_of_isTerminal (s : IncidentState) (h : s.isTerminal) :
    allowedTransitions s = [] := by
  cases s <;> simp_all [isTerminal, allowedTransitions]

/-- Every state that is not terminal can be escalated. -/
theorem escalated_mem_of_not_isTerminal (s : IncidentState) (h : s.isTerminal = false) :
    escalated ∈ allowedTransitions s := by
  cases s <;> simp_all [isTerminal, allowedTransitions]

/-- Only a verification or a rollback leads to RESOLVED. -/
theorem resolved_mem_allowedTransitions (s : IncidentState) :
    resolved ∈ allowedTransitions s ↔ s = verifying ∨ s = rollback := by
  cases s <;> simp [allowedTransitions]

/-- Only gathered evidence leads to CLASSIFYING. -/
theorem classifying_mem_allowedTransitions (s : IncidentState) :
    classifying ∈ allowedTransitions s ↔ s = collectingEvidence := by
  cases s <;> simp [allowedTransitions]

end CloudWard.Incidents
