import CloudWard.Policies.Remediation

/-!
# The remediation policy fails closed

`remediation.rego` yields one decision for every document, allows only inside the
boundary its header states, denies the forbidden names in any letter case, and lets an
approval turn nothing but a request for one into permission.
-/

namespace CloudWard.Policies.Remediation

open CloudWard.Logic.Rego

/-- The greatest value of each factor, `remediation.rego:208`. -/
def factorLimits : List (String × ℚ) :=
  [("environment", 15), ("blast_radius", 25), ("destructiveness", 20), ("reversibility", 15),
    ("uncertainty", 15), ("sensitivity", 10)]

/-- An approval that names its approver. -/
structure Approved (approval : Term) : Prop where
  approved : get approval "approved" = some (.bool true)
  approvalId : ∃ id, get approval "approval_id" = some (.str id) ∧ id ≠ ""
  approvedBy : ∃ name, get approval "approved_by" = some (.str name) ∧ name ≠ ""

/-- The boundary of what may be allowed. -/
structure Allowable (input : Value) : Prop where
  action : ∃ a ∈ executorActions, field input "action" = some (.str a)
  environment : ∃ e ∈ ["local", "staging", "production"],
    field input "environment" = some (.str e)
  ns : get (field input "target") "namespace" = some (.str "cloudward-staging")
  label : get (get (field input "target") "labels") "cloudward.io/demo-target" =
    some (.str "true")
  managed : get (field input "target") "controller_managed" = some (.bool true)
  pods : ∃ n, get (field input "target") "target_pods" = some (.num n) ∧ 1 ≤ n ∧ n ≤ 10
  reversible : field input "reversible" = some (.bool true)
  factors : ∀ limit ∈ factorLimits, ∃ q, get (field input "risk_factors") limit.1 =
    some (.num q) ∧ 0 ≤ q ∧ q ≤ limit.2 ∧ q.den = 1
  score : ∃ q, field input "risk_score" = some (.num q) ∧
    q = factorSum (field input "risk_factors") ∧ q < 70 ∧
    ∃ c, field input "confidence" = some (.num c) ∧
      (31 ≤ q ∨ c < 9 / 10 → Approved (field input "approval"))

theorem factorInRange_iff {value : Term} {maximum : ℚ} :
    factorInRange value maximum ↔
      ∃ q, value = some (.num q) ∧ 0 ≤ q ∧ q ≤ maximum ∧ q.den = 1 := by
  constructor
  · intro h
    simp only [factorInRange, Bool.and_eq_true] at h
    obtain ⟨⟨⟨hnumber, hge⟩, hle⟩, hint⟩ := h
    obtain ⟨q, rfl⟩ := isNumber_iff.mp hnumber
    rw [ge_num, decide_eq_true_eq] at hge
    rw [le_num, decide_eq_true_eq] at hle
    simp only [isIntegral, decide_eq_true_eq] at hint
    exact ⟨q, rfl, hge, hle, hint⟩
  · rintro ⟨q, rfl, hge, hle, hint⟩
    simp [factorInRange, isNumber, isIntegral, hge, hle, hint]

/-- A valid approval was given by someone. -/
theorem approved_of_isValidApproval {approval : Term} (h : isValidApproval approval) :
    Approved approval := by
  simp only [isValidApproval, Bool.and_eq_true, eqBool_iff] at h
  obtain ⟨⟨⟨⟨⟨-, happroved⟩, hid⟩, hid'⟩, hby⟩, hby'⟩ := h
  obtain ⟨id, hid⟩ := isString_iff.mp hid
  obtain ⟨name, hby⟩ := isString_iff.mp hby
  constructor
  · exact happroved
  · refine ⟨id, hid, ?_⟩
    simpa [hid, neString, eqString] using hid'
  · refine ⟨name, hby, ?_⟩
    simpa [hby, neString, eqString] using hby'

/-- What the validity of the factors says. -/
theorem validRiskFactors_iff {input : Value} :
    validRiskFactors input ↔
      isObject (field input "risk_factors") ∧
      keysAre (field input "risk_factors") factorKeys ∧
      (∀ limit ∈ factorLimits, ∃ q, get (field input "risk_factors") limit.1 = some (.num q) ∧
        0 ≤ q ∧ q ≤ limit.2 ∧ q.den = 1) ∧
      eqNumber (field input "risk_score") (factorSum (field input "risk_factors")) := by
  simp only [validRiskFactors, Bool.and_eq_true, factorInRange_iff, factorLimits,
    List.forall_mem_cons, List.not_mem_nil, IsEmpty.forall_iff, implies_true, and_true, and_assoc]

/-- An allowed input is inside the boundary. -/
theorem allowable_of_allowed {input : Value} (h : (decision input).allowed) :
    Allowable input := by
  have heligible : Eligible input := by
    by_contra hne
    rw [(decision_of_not_eligible hne).1] at h
    cases h
  rw [(decision_of_eligible heligible).1] at h
  obtain ⟨-, hcommon, -, -, -, hreversible, hscore, hexecutor, htarget⟩ :=
    eligible_iff.mp heligible
  simp only [validCommonInput, Bool.and_eq_true] at hcommon
  obtain ⟨⟨⟨⟨⟨⟨⟨⟨⟨⟨⟨⟨⟨⟨⟨-, -⟩, henvironment⟩, hnumber⟩, -⟩, -⟩, -⟩, hconfidence⟩, -⟩, -⟩, -⟩, -⟩,
    -⟩, hboolean⟩, -⟩, hfactors⟩ := hcommon
  obtain ⟨-, -, hlimits, hsum⟩ := validRiskFactors_iff.mp hfactors
  simp only [validDemoPodTarget, Bool.and_eq_true, eqString_iff, eqBool_iff] at htarget
  obtain ⟨⟨⟨⟨⟨⟨⟨⟨-, -⟩, hns⟩, -⟩, -⟩, hmanaged⟩, hge⟩, hle⟩, hlabel⟩ := htarget
  obtain ⟨q, hq⟩ := isNumber_iff.mp hnumber
  obtain ⟨c, hc⟩ := isNumber_iff.mp hconfidence
  constructor
  · exact inStrings_iff.mp hexecutor
  · exact inStrings_iff.mp henvironment
  · exact hns
  · -- the default of the look-up is not the value asked for
    cases hget : get (get (field input "target") "labels") "cloudward.io/demo-target" with
    | none =>
      rw [hget] at hlabel
      simp at hlabel
    | some v =>
      rw [hget] at hlabel
      exact hlabel
  · exact hmanaged
  · obtain ⟨n, hn⟩ := isNumber_iff.mp (isNumber_of_between hge hle)
    rw [hn, ge_num, decide_eq_true_eq] at hge
    rw [hn, le_num, decide_eq_true_eq] at hle
    exact ⟨n, hn, hge, hle⟩
  · obtain ⟨b, hb⟩ := isBoolean_iff.mp hboolean
    cases b with
    | true => exact hb
    | false => simp [hb, eqBool] at hreversible
  · exact hlimits
  · refine ⟨q, hq, ?_, ?_, c, hc, ?_⟩
    · simpa [hq, eqNumber] using hsum
    · rw [hq, ge_num, decide_eq_false_iff_not] at hscore
      exact not_le.mp hscore
    · intro hneeds
      apply approved_of_isValidApproval
      have hrequired : approvalRequired input = true := by
        simpa [approvalRequired, hq, hc] using hneeds
      simpa [hrequired, validApproval] using h

/-! ### Forbidden names -/

/-- Whether all characters are ASCII. -/
private def ascii (l : List Char) : Bool := l.all fun c ↦ c.val < 0x80

private theorem ascii_of_mem_hardDeniedActions {name : String} (h : name ∈ hardDeniedActions) :
    ascii name.toList := by
  have hall : hardDeniedActions.all fun n ↦ ascii n.toList := by
    simp only [hardDeniedActions, List.all_cons, String.reduceToList]
    rfl
  exact List.all_eq_true.mp hall name h

/-- A name in any letter case is lowered to the name. -/
theorem lower_of_map_toLower {s name : String} (hname : name ∈ hardDeniedActions)
    (h : s.map Char.toLower = name) : lower s = name := by
  have hascii : ∀ c ∈ name.toList, c.val < 0x80 := by
    simpa [ascii] using ascii_of_mem_hardDeniedActions hname
  have hsame : ∀ c ∈ s.toList, lowerChar c = c.toLower := by
    intro c hc
    have hmem : c.toLower ∈ name.toList := by
      rw [← h, String.toList_map]
      exact List.mem_map_of_mem hc
    have hlower := hascii _ hmem
    have hne : c ≠ '\u0130' := by
      rintro rfl
      exact absurd hlower (by decide)
    have hne' : c ≠ '\u212A' := by
      rintro rfl
      exact absurd hlower (by decide)
    unfold lowerChar
    rw [if_neg hne, if_neg hne']
  apply String.toList_inj.mp
  rw [← h, lower, String.toList_map, String.toList_map]
  exact List.map_congr_left hsame

/-- A forbidden name is denied whatever the rest of the input says. -/
theorem decision_of_hardDenied {input : Value} {s : String}
    (haction : field input "action" = some (.str s)) (h : lower s ∈ hardDeniedActions) :
    decision input =
      deny "HARD_DENY" "Action violates a non-overridable CloudWard safety boundary" := by
  have hbody : hardDeniedAction input = true := by
    simp [hardDeniedAction, haction, h]
  unfold decision refusals
  rw [List.cons_append, rule_cons_true hbody]

/-! ### Approvals -/

/-- Only the last bodies read the approval. -/
theorem refusals_set (input approval : Value) :
    refusals (input.set "approval" approval) = refusals input := by
  have hfield (key : String) (h : key ≠ "approval") :
      field (input.set "approval" approval) key = field input key := get_set_of_ne _ _ h
  simp only [refusals, hardDeniedAction, validCommonInput, validRiskFactors, validDemoPodTarget,
    hfield "action" (by decide), hfield "environment" (by decide),
    hfield "risk_score" (by decide), hfield "confidence" (by decide),
    hfield "blast_radius" (by decide), hfield "reversible" (by decide),
    hfield "service_criticality" (by decide), hfield "risk_factors" (by decide),
    hfield "target" (by decide)]

theorem approvalRequired_set (input approval : Value) :
    approvalRequired (input.set "approval" approval) = approvalRequired input := by
  have hfield (key : String) (h : key ≠ "approval") :
      field (input.set "approval" approval) key = field input key := get_set_of_ne _ _ h
  simp only [approvalRequired, hfield "risk_score" (by decide), hfield "confidence" (by decide)]

/-- A valid approval keeps the decision, or turns a request for one into permission. -/
theorem decision_set_approval (fields : List (String × Value)) {approval : Value}
    (h : isValidApproval (some approval)) :
    decision ((Value.obj fields).set "approval" approval) = decision (.obj fields) ∨
      ((decision (.obj fields)).requiresApproval = true ∧
        (decision ((Value.obj fields).set "approval" approval)).allowed = true) := by
  have hrefusals := refusals_set (.obj fields) approval
  have hrequired := approvalRequired_set (.obj fields) approval
  have hvalid : validApproval ((Value.obj fields).set "approval" approval) = true := by
    unfold validApproval field
    rw [get_set_self]
    exact h
  by_cases heligible : Eligible (.obj fields)
  · have heligible' : Eligible ((Value.obj fields).set "approval" approval) := by
      unfold Eligible
      rw [hrefusals]
      exact heligible
    cases hneeds : approvalRequired (.obj fields) with
    | false =>
      left
      rw [hneeds] at hrequired
      unfold decision
      rw [rule_append heligible, rule_append heligible']
      simp [grants, rule, hneeds, hrequired]
    | true =>
      cases hold : validApproval (.obj fields) with
      | true =>
        left
        rw [hneeds] at hrequired
        unfold decision
        rw [rule_append heligible, rule_append heligible']
        simp [grants, rule, hneeds, hrequired, hold, hvalid]
      | false =>
        right
        rw [(decision_of_eligible heligible).2, (decision_of_eligible heligible').1]
        simp [hneeds, hold, hvalid]
  · left
    have heligible' : ¬ Eligible ((Value.obj fields).set "approval" approval) := by
      unfold Eligible
      rw [hrefusals]
      exact heligible
    rw [decision_eq_refusal heligible, decision_eq_refusal heligible', hrefusals]

/-- The policy is fail-closed and consistent. -/
theorem decision_failClosed :
    (∀ input, ∃! d, Yields failedClosed (refusals input ++ grants input) d) ∧
      (∀ input, ¬ ((decision input).allowed ∧ (decision input).requiresApproval)) ∧
      (∀ input, (decision input).allowed → Allowable input) ∧
      (∀ input s name, name ∈ hardDeniedActions → s.map Char.toLower = name →
        field input "action" = some (.str s) →
        decision input =
          deny "HARD_DENY" "Action violates a non-overridable CloudWard safety boundary") ∧
      ∀ fields approval, isValidApproval (some approval) →
        decision ((Value.obj fields).set "approval" approval) = decision (.obj fields) ∨
          ((decision (.obj fields)).requiresApproval = true ∧
            (decision ((Value.obj fields).set "approval" approval)).allowed = true) := by
  refine ⟨fun input ↦ existsUnique_yields _ _, ?_, fun input ↦ allowable_of_allowed, ?_, ?_⟩
  · rintro input ⟨hallowed, hrequires⟩
    by_cases heligible : Eligible input
    · rw [(decision_of_eligible heligible).1] at hallowed
      rw [(decision_of_eligible heligible).2] at hrequires
      simp only [Bool.or_eq_true, Bool.not_eq_true', Bool.and_eq_true] at hallowed hrequires
      rcases hallowed with h | h
      · rw [h] at hrequires
        cases hrequires.1
      · rw [h] at hrequires
        cases hrequires.2
    · rw [(decision_of_not_eligible heligible).1] at hallowed
      cases hallowed
  · intro input s name hname hs haction
    apply decision_of_hardDenied haction
    rw [lower_of_map_toLower hname hs]
    exact hname
  · exact fun fields approval h ↦ decision_set_approval fields h

end CloudWard.Policies.Remediation
