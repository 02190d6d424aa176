import CloudWard.Base.Json
import CloudWard.Policies.Opa

/-!
# The answer of OPA

`OPAClient.evaluate`, `policies/opa.py:88`: what it makes of the outcome of its HTTP request. The
result is validated in pydantic's default mode, which reads some numbers and texts as booleans.
`json.loads` is a parameter.
-/

namespace CloudWard.Policies.OPAClient

/-- How a body is no JSON: a `ValueError`, or the `RecursionError` of deep nesting. -/
inductive LoadError
  | value
  | recursion
deriving DecidableEq

/-- `json.loads`. -/
abbrev Loads : Type := List UInt8 → Except LoadError Json

/-- The outcome of `client.post`: an `httpx.HTTPError`, another exception, or a response. -/
inductive HttpOutcome
  | httpError
  | otherError
  | response (status : Nat) (body : List UInt8)

/-- The exceptions that `evaluate` does not catch. -/
inductive Uncaught
  | client
  | recursion
deriving DecidableEq

/-- A text that pydantic reads as a boolean, whatever the case of its ASCII letters. -/
def textBool (text : String) : Option Bool :=
  let lower := text.map Char.toLower
  if lower ∈ ["0", "off", "f", "false", "n", "no"] then some false
  else if lower ∈ ["1", "on", "t", "true", "y", "yes"] then some true
  else none

/-- A value that pydantic reads as a boolean in its default mode. -/
def laxBool : Json → Option Bool
  | .bool b => some b
  | .int n => if n = 0 then some false else if n = 1 then some true else none
  | .float text =>
    if text ∈ ["0.0", "-0.0"] then some false else if text = "1.0" then some true else none
  | .str text => textBool text
  | _ => none

/-- A text or `None`, with the default `None`. -/
def optionalText : Option Json → Option (Option String)
  | none => some none
  | some .null => some none
  | some (.str text) => some (some text)
  | _ => none

/-- `PolicyResult` with all its fields, `policies/opa.py:55`. -/
structure Decision extends PolicyResult where
  decisionId : Option String := none
  errorCode : Option String := none
deriving DecidableEq

/-- `PolicyResult.denied`, `policies/opa.py:64`. -/
def Decision.denied (reason errorCode : String)
    (h : 1 ≤ reason.length ∧ reason.length ≤ 2000) : Decision :=
  { PolicyResult.denied reason h with errorCode := some errorCode }

/-- `PolicyResult.model_validate(result)`. -/
def Decision.modelValidate (result : Json) : Option Decision := do
  let .dict fields := result | none
  let allowed ← laxBool (← fields.lookup "allowed")
  let requiresApproval ← laxBool (← fields.lookup "requires_approval")
  let .str reason ← fields.lookup "reason" | none
  let decisionId ← optionalText (fields.lookup "decision_id")
  let errorCode ← optionalText (fields.lookup "error_code")
  if h : 1 ≤ reason.length ∧ reason.length ≤ 2000 then
    some { allowed, requiresApproval, reason, reason_length := h, decisionId, errorCode }
  else none

private theorem length_noDecision : 1 ≤ "OPA returned no decision".length ∧
    "OPA returned no decision".length ≤ 2000 := by decide

private theorem length_invalid : 1 ≤ "OPA returned an invalid decision".length ∧
    "OPA returned an invalid decision".length ≤ 2000 := by decide

private theorem length_unavailable : 1 ≤ "Policy engine unavailable; action denied".length ∧
    "Policy engine unavailable; action denied".length ≤ 2000 := by decide

/-- `OPA_UNDEFINED_DECISION`. -/
def Decision.noDecision : Decision :=
  .denied "OPA returned no decision" "OPA_UNDEFINED_DECISION" length_noDecision

/-- `OPA_INVALID_RESPONSE`. -/
def Decision.invalid : Decision :=
  .denied "OPA returned an invalid decision" "OPA_INVALID_RESPONSE" length_invalid

/-- `OPA_UNAVAILABLE`. -/
def Decision.unavailable : Decision :=
  .denied "Policy engine unavailable; action denied" "OPA_UNAVAILABLE" length_unavailable

/-- What a payload decides. -/
def decide? : Json → Decision
  | .dict entries =>
    match entries.lookup "result" with
    | none => .noDecision
    | some result => (Decision.modelValidate result).getD .invalid
  | _ => .noDecision

/-- `OPAClient.evaluate`, `policies/opa.py:88`. -/
def evaluate (loads : Loads) : HttpOutcome → Except Uncaught Decision
  | .httpError => .ok .unavailable
  | .otherError => .error .client
  | .response status body =>
    -- `raise_for_status` lets 2xx pass
    if 200 ≤ status ∧ status < 300 then
      match loads body with
      | .ok payload => .ok (decide? payload)
      | .error .value => .ok .unavailable
      | .error .recursion => .error .recursion
    else .ok .unavailable

variable {loads : Loads} {outcome : HttpOutcome} {decision : Decision}

/-- What a valid decision was read from. -/
structure Decision.ReadFrom (decision : Decision) (fields : List (String × Json)) : Prop where
  allowed : ∃ value, fields.lookup "allowed" = some value ∧ laxBool value = some decision.allowed
  requiresApproval : ∃ value, fields.lookup "requires_approval" = some value ∧
    laxBool value = some decision.requiresApproval
  reason : fields.lookup "reason" = some (.str decision.reason)
  decisionId : optionalText (fields.lookup "decision_id") = some decision.decisionId
  errorCode : optionalText (fields.lookup "error_code") = some decision.errorCode

theorem readFrom_of_modelValidate {result : Json}
    (h : Decision.modelValidate result = some decision) :
    ∃ fields, result = .dict fields ∧ decision.ReadFrom fields := by
  unfold Decision.modelValidate at h
  cases result with
  | dict fields =>
    refine ⟨fields, rfl, ?_⟩
    simp only [Option.bind_eq_bind, Option.bind_eq_some_iff] at h
    obtain ⟨a, ha, allowed, hallowed, r, hr, requires, hrequires, value, hreason, h⟩ := h
    cases value with
    | str reason =>
      simp only [Option.bind_eq_some_iff] at h
      obtain ⟨decisionId, hid, errorCode, hcode, h⟩ := h
      split at h
      · cases h
        exact ⟨⟨a, ha, hallowed⟩, ⟨r, hr, hrequires⟩, hreason, hid, hcode⟩
      · cases h
    | _ => cases h
  | _ => cases h

/-- OPA answered with a decision of these fields. -/
inductive Answered (loads : Loads) (fields : List (String × Json)) : HttpOutcome → Prop
  | response {status : Nat} {body : List UInt8} {entries : List (String × Json)}
      (success : 200 ≤ status ∧ status < 300) (loaded : loads body = .ok (.dict entries))
      (result : entries.lookup "result" = some (.dict fields)) :
      Answered loads fields (.response status body)

/-- A decision is read from an answer, or denies. -/
theorem answered_or_denied (h : evaluate loads outcome = .ok decision) :
    (∃ fields, Answered loads fields outcome ∧ decision.ReadFrom fields) ∨
      (decision.allowed = false ∧ decision.requiresApproval = false) := by
  cases outcome with
  | httpError =>
    cases h
    exact .inr ⟨rfl, rfl⟩
  | otherError => cases h
  | response status body =>
    simp only [evaluate] at h
    split at h
    · next hsuccess =>
      split at h
      · next payload hload =>
        cases h
        unfold decide?
        split
        · next entries =>
          cases hresult : entries.lookup "result" with
          | none => exact .inr ⟨rfl, rfl⟩
          | some result =>
            dsimp only
            cases hvalid : Decision.modelValidate result with
            | none => exact .inr ⟨rfl, rfl⟩
            | some decision =>
              obtain ⟨fields, rfl, hfrom⟩ := readFrom_of_modelValidate hvalid
              exact .inl ⟨fields, .response hsuccess hload hresult, hfrom⟩
        · exact .inr ⟨rfl, rfl⟩
      · cases h
        exact .inr ⟨rfl, rfl⟩
      · cases h
    · cases h
      exact .inr ⟨rfl, rfl⟩

/-- The JSON boolean `b`, or a number or a text. -/
def IsFlag (b : Bool) : Json → Prop
  | .bool b' => b' = b
  | .int _ | .float _ | .str _ => True
  | _ => False

theorem isFlag_of_laxBool {value : Json} {b : Bool} (h : laxBool value = some b) :
    IsFlag b value := by
  cases value with
  | bool b' => exact Option.some.inj h
  | int n => trivial
  | float text => trivial
  | str text => trivial
  | _ => cases h

/-- A body, and what `json.loads` makes of it. -/
def loadsOnly (text : String) (value : Json) : Loads := fun body ↦
  if body = Python.encode text then .ok value else .error .value

/-- `test_valid_opa_decision_is_parsed_and_input_contract_sent`, with both flags to choose. -/
def safeAction (allowed requiresApproval : Bool) : Json :=
  .dict [("result", .dict [("allowed", .bool allowed),
    ("requires_approval", .bool requiresApproval), ("reason", .str "safe staging action")])]

/-- The bodies of two such answers. -/
def allowedText : String :=
  "\x7b\"result\":\x7b\"allowed\":true,\"requires_approval\":false,\"reason\":\"safe staging action\"\x7d\x7d"

@[inherit_doc allowedText]
def contradictoryText : String :=
  "\x7b\"result\":\x7b\"allowed\":true,\"requires_approval\":true,\"reason\":\"safe staging action\"\x7d\x7d"

private theorem evaluate_loadsOnly (text : String) (value : Json) :
    evaluate (loadsOnly text value) (.response 200 (Python.encode text)) =
      .ok (decide? value) := by
  have hload : loadsOnly text value (Python.encode text) = .ok value := if_pos rfl
  simp only [evaluate]
  rw [if_pos ⟨by decide, by decide⟩, hload]

end CloudWard.Policies.OPAClient
