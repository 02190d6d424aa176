import CloudWard.Logic.Rego

/-!
# The remediation policy

`policies/opa/remediation.rego`: the decision over one input document, rule by rule. The
bodies before the last three refuse; what they let pass is allowed, unless it needs an
approval and has none.
-/

namespace CloudWard.Policies.Remediation

open CloudWard.Logic.Rego

/-- `known_actions`, `remediation.rego:10`. -/
def knownActions : List String :=
  ["DELETE_UNHEALTHY_POD", "SCALE_STAGING_DEPLOYMENT", "REVERT_IMAGE", "APPLY_QUARANTINE",
    "REMOVE_QUARANTINE", "CREATE_GITOPS_PR", "CREATE_TERRAFORM_PR", "CREATE_GITHUB_ISSUE",
    "REQUEST_APPROVAL", "NO_ACTION"]

/-- `hard_denied_actions`, `remediation.rego:26`. -/
def hardDeniedActions : List String :=
  ["terraform_destroy", "terraform destroy", "delete_eks", "delete_eks_cluster",
    "change_iam_policy", "change_iam_policies", "delete_iam_role", "delete_iam_roles",
    "create_arbitrary_credentials", "change_vpc_topology", "delete_subnet", "delete_subnets",
    "broaden_security_group", "broaden_security_groups", "delete_production_database",
    "delete_production_databases", "modify_production_data", "delete_persistent_volume",
    "delete_persistent_volumes", "extract_secrets", "display_secrets",
    "rotate_production_secrets", "disable_kyverno", "disable_tetragon",
    "disable_audit_logging", "remove_global_security_policy",
    "remove_global_security_policies", "create_cluster_admin_credentials", "run_shell",
    "run_arbitrary_shell_command", "run_kubectl", "run_arbitrary_kubectl",
    "run_kubectl_exec", "arbitrary_external_http"]

/-- `factor_keys`, `remediation.rego:63`. -/
def factorKeys : List String :=
  ["environment", "blast_radius", "destructiveness", "reversibility", "uncertainty",
    "sensitivity"]

/-- The actions with an executor, `remediation.rego:153`. -/
def executorActions : List String :=
  ["DELETE_UNHEALTHY_POD", "SCALE_STAGING_DEPLOYMENT", "REVERT_IMAGE", "NO_ACTION",
    "APPLY_QUARANTINE", "REMOVE_QUARANTINE"]

/-- A decision document. -/
structure Decision where
  allowed : Bool
  requiresApproval : Bool
  decision : String
  reason : String
  policyId : String := "cloudward.remediation.v1"
deriving DecidableEq

/-- A decision that neither allows nor asks for an approval. -/
def deny (decision reason : String) : Decision where
  allowed := false
  requiresApproval := false
  decision := decision
  reason := reason

/-- `lower` of a character: the letters with a lower case in ASCII. The names that are
denied are ASCII, so what the others become never makes a match. -/
def lowerChar (c : Char) : Char :=
  if c = '\u0130' then 'i' else if c = '\u212A' then 'k' else c.toLower

/-- `lower`. -/
def lower (s : String) : String := s.map lowerChar

/-! ### The rules -/

/-- `input.key`. -/
def field (input : Value) (key : String) : Term := get (some input) key

/-- `hard_denied_action`, `remediation.rego:181`. -/
def hardDeniedAction (input : Value) : Bool :=
  match field input "action" with
  | some (.str action) => lower action ∈ hardDeniedActions
  | _ => false

/-- `factor_in_range`, `remediation.rego:220`. -/
def factorInRange (value : Term) (maximum : ℚ) : Bool :=
  isNumber value && ge value 0 && le value maximum && isIntegral value

/-- The sum of the factors, `remediation.rego:214`. -/
def factorSum (factors : Term) : ℚ := (factorKeys.map fun key ↦ number (get factors key)).sum

/-- `valid_risk_factors`, `remediation.rego:205`. -/
def validRiskFactors (input : Value) : Bool :=
  let factors := field input "risk_factors"
  isObject factors && keysAre factors factorKeys &&
    factorInRange (get factors "environment") 15 &&
    factorInRange (get factors "blast_radius") 25 &&
    factorInRange (get factors "destructiveness") 20 &&
    factorInRange (get factors "reversibility") 15 &&
    factorInRange (get factors "uncertainty") 15 &&
    factorInRange (get factors "sensitivity") 10 &&
    eqNumber (field input "risk_score") (factorSum factors)

/-- `valid_common_input`, `remediation.rego:186`. -/
def validCommonInput (input : Value) : Bool :=
  isString (field input "action") && neString (field input "action") "" &&
    inStrings (field input "environment") ["local", "staging", "production"] &&
    isNumber (field input "risk_score") && ge (field input "risk_score") 0 &&
    le (field input "risk_score") 100 && isIntegral (field input "risk_score") &&
    isNumber (field input "confidence") && ge (field input "confidence") 0 &&
    le (field input "confidence") 1 && isNumber (field input "blast_radius") &&
    ge (field input "blast_radius") 1 && isIntegral (field input "blast_radius") &&
    isBoolean (field input "reversible") &&
    inStrings (field input "service_criticality") ["low", "medium", "high", "critical"] &&
    validRiskFactors input

/-- `valid_demo_pod_target`, `remediation.rego:227`. -/
def validDemoPodTarget (input : Value) : Bool :=
  let target := field input "target"
  isObject target && isObject (get target "labels") &&
    eqString (get target "namespace") "cloudward-staging" &&
    isString (get target "pod_name") && neString (get target "pod_name") "" &&
    eqBool (get target "controller_managed") true && ge (get target "target_pods") 1 &&
    le (get target "target_pods") 10 &&
    eqString (some ((get (get target "labels") "cloudward.io/demo-target").getD (.str "")))
      "true"

/-- `approval_required`, `remediation.rego:239`. -/
def approvalRequired (input : Value) : Bool :=
  ge (field input "risk_score") 31 || lt (field input "confidence") (9 / 10)

/-- `valid_approval`, `remediation.rego:243`, of the approval itself. -/
def isValidApproval (approval : Term) : Bool :=
  isObject approval && eqBool (get approval "approved") true &&
    isString (get approval "approval_id") && neString (get approval "approval_id") "" &&
    isString (get approval "approved_by") && neString (get approval "approved_by") ""

/-- `valid_approval`, `remediation.rego:243`. -/
def validApproval (input : Value) : Bool := isValidApproval (field input "approval")

/-- The bodies that refuse, with their decisions, `remediation.rego:82`. -/
def refusals (input : Value) : List (Bool × Decision) :=
  [(hardDeniedAction input,
      deny "HARD_DENY" "Action violates a non-overridable CloudWard safety boundary"),
    (! validCommonInput input,
      deny "DENY" "Policy input is invalid or risk score does not match risk factors"),
    (! inStrings (field input "action") knownActions,
      deny "DENY" "Unknown action is not in the CloudWard action registry"),
    (eqString (field input "action") "DELETE_UNHEALTHY_POD" &&
        eqString (field input "environment") "production",
      deny "DENY" "Production pod deletion is outside the Part 1 automation boundary"),
    (inStrings (field input "action") ["APPLY_QUARANTINE", "REMOVE_QUARANTINE"] &&
        eqString (field input "environment") "production",
      deny "DENY" "Part 2 automated quarantine is restricted to local staging workloads"),
    (eqBool (field input "reversible") false,
      deny "DENY" "Irreversible actions are blocked from automated execution"),
    (ge (field input "risk_score") 70,
      deny "DENY" "High-risk actions are blocked and must be escalated"),
    (! inStrings (field input "action") executorActions,
      deny "DENY" "Action is registered but has no Part 1 executor policy"),
    (! validDemoPodTarget input,
      deny "DENY" "Pod target is outside the controlled demo safety boundary")]

/-- The bodies after those, `remediation.rego:157`. -/
def grants (input : Value) : List (Bool × Decision) :=
  [(approvalRequired input && validApproval input,
      { allowed := true
        requiresApproval := false
        decision := "ALLOW"
        reason := "Approved medium-risk staging remediation" }),
    (approvalRequired input,
      { allowed := false
        requiresApproval := true
        decision := "APPROVAL_REQUIRED"
        reason := "Medium-risk or lower-confidence remediation requires human approval" }),
    (true,
      { allowed := true
        requiresApproval := false
        decision := "ALLOW"
        reason := "Low-risk reversible staging remediation" })]

/-- The default of `decision`, `remediation.rego:72`. -/
def failedClosed : Decision := deny "DENY" "Policy evaluation failed closed"

/-- `decision`, `remediation.rego:72`. -/
def decision (input : Value) : Decision := rule failedClosed (refusals input ++ grants input)

/-! ### The three outcomes -/

/-- Nothing refuses the input. -/
def Eligible (input : Value) : Prop := ∀ c ∈ refusals input, c.1 = false

/-- The decision of an input that is not eligible is that of the body that refuses it. -/
theorem decision_eq_refusal {input : Value} (h : ¬ Eligible input) :
    decision input = rule failedClosed (refusals input) := by
  unfold Eligible at h
  push Not at h
  obtain ⟨c, hc, hbody⟩ := h
  apply rule_append_of_any
  exact ⟨c, hc, by simpa using hbody⟩

/-- The input is refused. -/
theorem decision_of_not_eligible {input : Value} (h : ¬ Eligible input) :
    (decision input).allowed = false ∧ (decision input).requiresApproval = false := by
  rw [decision_eq_refusal h]
  apply rule_mem (p := fun d : Decision ↦ d.allowed = false ∧ d.requiresApproval = false)
  · exact ⟨rfl, rfl⟩
  · intro c hc
    simp only [refusals, List.mem_cons, List.not_mem_nil, or_false] at hc
    rcases hc with rfl | rfl | rfl | rfl | rfl | rfl | rfl | rfl | rfl <;> exact ⟨rfl, rfl⟩

/-- An eligible input is allowed unless it lacks a required approval. -/
theorem decision_of_eligible {input : Value} (h : Eligible input) :
    (decision input).allowed = (! approvalRequired input || validApproval input) ∧
      (decision input).requiresApproval = (approvalRequired input && ! validApproval input) := by
  unfold decision
  rw [rule_append h]
  cases hrequired : approvalRequired input <;> cases hvalid : validApproval input <;>
    simp [grants, rule, hrequired, hvalid]

/-- What the bodies that refuse check. -/
theorem eligible_iff {input : Value} :
    Eligible input ↔ hardDeniedAction input = false ∧ validCommonInput input ∧
      inStrings (field input "action") knownActions ∧
      ¬ (eqString (field input "action") "DELETE_UNHEALTHY_POD" ∧
        eqString (field input "environment") "production") ∧
      ¬ (inStrings (field input "action") ["APPLY_QUARANTINE", "REMOVE_QUARANTINE"] ∧
        eqString (field input "environment") "production") ∧
      eqBool (field input "reversible") false = false ∧
      ge (field input "risk_score") 70 = false ∧
      inStrings (field input "action") executorActions ∧ validDemoPodTarget input := by
  simp only [Eligible, refusals, List.forall_mem_cons, List.not_mem_nil, IsEmpty.forall_iff,
    implies_true, and_true, Bool.not_eq_false', Bool.and_eq_false_iff, Bool.not_eq_true,
    not_and_or]

end CloudWard.Policies.Remediation
