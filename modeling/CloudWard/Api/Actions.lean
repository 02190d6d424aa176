import CloudWard.Db.Models
import CloudWard.Logic.Rego

/-!
# The action API

`evaluate_action` of `api/actions.py:70`. Its parameters are any JSON values: what Python's
conversions make of one, or raise on it, is left open.
-/

namespace CloudWard.Api

open CloudWard.Incidents CloudWard.Logic.Rego CloudWard.Policies CloudWard.Remediation
  CloudWard.Risk

/-- Python's conversions of a JSON value. -/
structure Conversions where
  int : Value → Except Exc Int
  float : Value → Except Exc ℚ
  str : Value → String
  bool : Value → Bool
  /-- `dict(...)`, and then the schema `dict[str, str]`. -/
  labels : Value → Except Exc Labels

/-- `ActionEvaluationRequest`, `api/schemas.py:233`. -/
structure ActionEvaluationRequest where
  actionType : ActionType
  environment : Environment
  parameters : List (String × Value)

/-- `Field(ge=0, le=1)`. -/
def confidence (q : ℚ) : Except Exc Confidence :=
  if h : 0 ≤ q ∧ q ≤ 1 then .ok ⟨q, h⟩ else .error .validation

/-- The risk of an evaluation, `api/actions.py:79`; a context has a target. -/
def evaluationRisk (environment : Environment) (action : ActionType) (targetCount : Int) :
    Except Exc RiskResult :=
  if h : 1 ≤ targetCount.toNat then
    .ok (calculate
      { environment := environment.value
        action
        targetCount := targetCount.toNat
        targetCount_pos := h })
  else .error .validation

/-- The input of `evaluate_action`, `api/actions.py:77` to `96`. -/
def evaluationInput (python : Conversions) (payload : ActionEvaluationRequest) :
    Except Exc PolicyInput := do
  let parameter (name : String) : Option Value := payload.parameters.lookup name
  let targetCount ← (parameter "target_count").elim (.ok 1) python.int
  let risk ← evaluationRisk payload.environment payload.actionType targetCount
  let labels ← (parameter "labels").elim (.ok ∅) python.labels
  let target ← targetInput ((parameter "namespace").elim "default" python.str)
    ((parameter "pod_name").elim "workload" python.str) labels
    ((parameter "controller_managed").elim true python.bool) targetCount.toNat
  let q ← (parameter "confidence").elim (.ok 1) python.float
  let confidence ← confidence q
  return {
    environment := payload.environment.value
    action := payload.actionType
    riskScore := risk.score
    riskFactors := risk.factors
    confidence
    blastRadius := risk.factors.blastRadius
    reversible := (getActionMetadata payload.actionType).reversible
    serviceCriticality := (parameter "service_criticality").elim "standard" python.str
    target
    riskScore_le := risk.score_le }

end CloudWard.Api
