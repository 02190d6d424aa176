import CloudWard.Risk.Engine
import Mathlib.Data.List.AList

/-!
# Policy inputs and decisions

`policies/opa.py`. What the workflows send to OPA and what they read from its answer.
`OPAClient.evaluate` never raises: every transport or format failure is an answer that
denies, so an OPA server is a function from inputs to decisions.
-/

namespace CloudWard

/-- Kubernetes labels and annotations. -/
abbrev Labels : Type := AList fun _ : String ↦ String

/-- Labels are equal if their entries are; this form of the test is one that evaluates. -/
instance decidableEqLabels : DecidableEq Labels := fun a b ↦
  decidable_of_iff (a.entries = b.entries) AList.ext_iff.symm

end CloudWard

namespace CloudWard.Policies

open CloudWard.Remediation CloudWard.Risk

/-- `ApprovalInput`, `policies/opa.py:20`. -/
structure ApprovalInput where
  approved : Bool := false
  approvalId : Option String := none
  approvedBy : Option String := none
deriving DecidableEq

/-- `TargetInput`, `policies/opa.py:27`. -/
structure TargetInput where
  ns : String
  podName : String
  labels : Labels
  controllerManaged : Bool
  targetPods : Nat
  targetPods_le : targetPods ≤ 1000
deriving DecidableEq

/-- `PolicyInput`, `policies/opa.py:36`. -/
structure PolicyInput where
  environment : String
  action : ActionType
  riskScore : Nat
  riskFactors : RiskFactors
  confidence : Confidence
  blastRadius : Nat
  reversible : Bool
  serviceCriticality : String
  target : TargetInput
  approval : ApprovalInput := {}
  riskScore_le : riskScore ≤ 100
deriving DecidableEq

/-- `PolicyResult`, `policies/opa.py:55`; the last field is the schema of its reason. -/
structure PolicyResult where
  allowed : Bool
  requiresApproval : Bool
  reason : String
  reason_length : 1 ≤ reason.length ∧ reason.length ≤ 2000
deriving DecidableEq

/-- `PolicyResult.denied`, `policies/opa.py:64`, for the three failures of `evaluate`. -/
def PolicyResult.denied (reason : String)
    (h : 1 ≤ reason.length ∧ reason.length ≤ 2000) : PolicyResult :=
  { allowed := false, requiresApproval := false, reason, reason_length := h }

/-- An OPA server behind `OPAClient.evaluate`, `policies/opa.py:88`. -/
abbrev OPAClient : Type := PolicyInput → PolicyResult

/-- Build the target of an input; pydantic rejects more than a thousand pods. -/
def targetInput (ns podName : String) (labels : Labels) (controllerManaged : Bool)
    (targetPods : Nat) : Except Exc TargetInput :=
  if h : targetPods ≤ 1000 then .ok ⟨ns, podName, labels, controllerManaged, targetPods, h⟩
  else .error .validation

/-- What a built target says. -/
theorem targetInput_eq_ok {ns podName : String} {labels : Labels} {controllerManaged : Bool}
    {targetPods : Nat} {t : TargetInput} :
    targetInput ns podName labels controllerManaged targetPods = .ok t ↔
      targetPods ≤ 1000 ∧ t.ns = ns ∧ t.podName = podName ∧ t.labels = labels ∧
        t.controllerManaged = controllerManaged ∧ t.targetPods = targetPods := by
  unfold targetInput
  split
  · next h =>
    constructor
    · intro ht
      cases ht
      exact ⟨h, rfl, rfl, rfl, rfl, rfl⟩
    · rintro ⟨-, rfl, rfl, rfl, rfl, rfl⟩
      rfl
  · next h => simp [h]

end CloudWard.Policies
