import CloudWard.Kubernetes.Executor

/-!
# The gate of AI action candidates

`ai/action_boundary.py`. A candidate of the latest diagnosis passes the registry and the
deterministic risk before OPA sees it; nothing here executes. The diagnosis and the service
are the rows the gate reads, and the input is built only when no earlier result is filed.
-/

namespace CloudWard.Ai

open CloudWard.Db CloudWard.Kubernetes CloudWard.Policies CloudWard.Remediation CloudWard.Risk

/-- `AIDiagnosisRecord`, `ai/models.py:14`, with its check on confidences. -/
structure AIDiagnosisRecord where
  status : String
  confidence : Option Confidence
  actionCandidates : List String

/-- The columns of `Service` in `db/models.py:188` that describe a target. -/
structure InventoryService where
  ns : String
  deploymentName : String
  criticality : String
  labels : Labels

/-- `AIActionEvaluationRequest`, `ai/schemas.py:143`, with the bounds of its fields. -/
structure AIActionEvaluationRequest where
  action : ActionType
  targetCount : Nat
  ns : Option String
  resourceName : Option String
  labels : Labels
  controllerManaged : Bool
  sensitivity : Sensitivity
  targetCount_mem : 1 ≤ targetCount ∧ targetCount ≤ 1000
  ns_valid : ∀ name ∈ ns, validName name
  resourceName_length : ∀ name ∈ resourceName, 1 ≤ name.length ∧ name.length ≤ 253
  labels_size : labels.entries.length ≤ 30
  labels_length : ∀ e ∈ labels.entries, 1 ≤ e.1.length ∧ e.1.length ≤ 253 ∧
    1 ≤ e.2.length ∧ e.2.length ≤ 253

/-- `text[:253]`. -/
def bounded (text : String) : String := String.ofList (text.toList.take 253)

/-- `_bounded_labels`, `ai/action_boundary.py:226`, on a mapping of strings. -/
def boundedLabels (labels : Labels) : Labels :=
  labels.entries.foldl (fun kept e ↦
    if 30 ≤ kept.entries.length ∨ e.1 = "" then kept
    else kept.insert (bounded e.1) (bounded e.2)) ∅

/-- The risk of a candidate, `ai/action_boundary.py:95`. -/
def candidateRisk (environment : Environment) (request : AIActionEvaluationRequest)
    (confidence : Confidence) : RiskResult :=
  calculate
    { environment := environment.value
      action := request.action
      targetCount := request.targetCount
      reversible := some (getActionMetadata request.action).reversible
      confidence
      sensitivity := request.sensitivity
      targetCount_pos := request.targetCount_mem.1 }

/-- The target of a candidate, `ai/action_boundary.py:90` and `105`. -/
def candidateTarget (request : AIActionEvaluationRequest) (service : Option InventoryService) :
    TargetInput where
  ns := request.ns.getD ((service.map (·.ns)).getD "default")
  podName := request.resourceName.getD ((service.map (·.deploymentName)).getD "unspecified")
  labels := boundedLabels
    (if request.labels = ∅ then (service.map (·.labels)).getD ∅ else request.labels)
  controllerManaged := request.controllerManaged
  targetPods := request.targetCount
  targetPods_le := request.targetCount_mem.2

/-- `evaluate_ai_action_candidate` up to its evaluation, `ai/action_boundary.py:53`. -/
def candidateInput (diagnosis : Option AIDiagnosisRecord) (environment : Environment)
    (service : Option InventoryService) (request : AIActionEvaluationRequest) :
    Except Exc PolicyInput :=
  match diagnosis.filter (·.status = "AVAILABLE") with
  | none =>
    .error <| .cloudWard ⟨"AI_DIAGNOSIS_UNAVAILABLE",
      "An available AI diagnosis is required before evaluating a candidate", 409⟩
  | some diagnosis =>
    if request.action.value ∉ diagnosis.actionCandidates then
      .error <| .cloudWard ⟨"AI_ACTION_NOT_SUGGESTED",
        "The selected action is not present in the latest AI diagnosis", 422⟩
    else if environment ∉ (getActionMetadata request.action).allowedEnvironments then
      .error <| .cloudWard ⟨"ACTION_ENVIRONMENT_DENIED",
        request.action.value ++ " is not allowed in " ++ environment.value, 403⟩
    else
      let confidence := diagnosis.confidence.getD ⟨0, by decide⟩
      let risk := candidateRisk environment request confidence
      .ok
        { environment := environment.value
          action := request.action
          riskScore := risk.score
          riskFactors := risk.factors
          confidence
          blastRadius := request.targetCount
          reversible := (getActionMetadata request.action).reversible
          serviceCriticality := (service.map (·.criticality)).getD "unknown"
          target := candidateTarget request service
          riskScore_le := risk.score_le }

/-- What a candidate that reaches OPA is evaluated with. -/
theorem candidateInput_eq_ok {diagnosis : Option AIDiagnosisRecord} {environment : Environment}
    {service : Option InventoryService} {request : AIActionEvaluationRequest}
    {input : PolicyInput} (h : candidateInput diagnosis environment service request = .ok input) :
    ∃ confidence, input.environment = environment.value ∧
      input.blastRadius = request.targetCount ∧
      input.serviceCriticality = (service.map (·.criticality)).getD "unknown" ∧
      input.riskScore = (candidateRisk environment request confidence).score ∧
      input.riskFactors = (candidateRisk environment request confidence).factors := by
  unfold candidateInput at h
  split at h
  · cases h
  · split at h
    · cases h
    · split at h
      · cases h
      · cases h
        exact ⟨_, rfl, rfl, rfl, rfl, rfl⟩

end CloudWard.Ai
