import CloudWard.Policies.FailClosed
import CloudWard.Policies.Opa

/-!
# Policy inputs as documents

What `OPAClient.evaluate` posts (`policies/opa.py:107`): the input dumped as JSON. An input
is valid for the policy up to four of its fields, and the policy agrees with the engine of
`risk/engine.py` about what a risk score permits.
-/

namespace CloudWard.Policies

open CloudWard.Logic.Rego CloudWard.Policies.Remediation CloudWard.Remediation CloudWard.Risk

/-- An optional string of a dump. -/
def optional : Option String → Value
  | some s => .str s
  | none => .null

/-- `RiskFactors.model_dump(mode="json")`. -/
def factorsDocument (f : RiskFactors) : Value :=
  .obj [("environment", .num f.environment), ("blast_radius", .num f.blastRadius),
    ("destructiveness", .num f.destructiveness), ("reversibility", .num f.reversibility),
    ("uncertainty", .num f.uncertainty), ("sensitivity", .num f.sensitivity)]

/-- `TargetInput.model_dump(mode="json")`. -/
def targetDocument (t : TargetInput) : Value :=
  .obj [("namespace", .str t.ns), ("pod_name", .str t.podName),
    ("labels", .obj (t.labels.entries.map fun e ↦ (e.1, .str e.2))),
    ("controller_managed", .bool t.controllerManaged), ("target_pods", .num t.targetPods)]

/-- `ApprovalInput.model_dump(mode="json")`. -/
def approvalDocument (a : ApprovalInput) : Value :=
  .obj [("approved", .bool a.approved), ("approval_id", optional a.approvalId),
    ("approved_by", optional a.approvedBy)]

/-- `PolicyInput.model_dump(mode="json")`. -/
def document (input : PolicyInput) : Value :=
  .obj [("environment", .str input.environment), ("action", .str input.action.value),
    ("risk_score", .num input.riskScore), ("risk_factors", factorsDocument input.riskFactors),
    ("confidence", .num input.confidence.val), ("blast_radius", .num input.blastRadius),
    ("reversible", .bool input.reversible),
    ("service_criticality", .str input.serviceCriticality),
    ("target", targetDocument input.target), ("approval", approvalDocument input.approval)]

section Fields

variable (input : PolicyInput)

@[simp] theorem environment_document :
    field (document input) "environment" = some (.str input.environment) := rfl

@[simp] theorem action_document :
    field (document input) "action" = some (.str input.action.value) := rfl

@[simp] theorem riskScore_document :
    field (document input) "risk_score" = some (.num input.riskScore) := rfl

@[simp] theorem riskFactors_document :
    field (document input) "risk_factors" = some (factorsDocument input.riskFactors) := rfl

@[simp] theorem confidence_document :
    field (document input) "confidence" = some (.num input.confidence.val) := rfl

@[simp] theorem blastRadius_document :
    field (document input) "blast_radius" = some (.num input.blastRadius) := rfl

@[simp] theorem reversible_document :
    field (document input) "reversible" = some (.bool input.reversible) := rfl

@[simp] theorem serviceCriticality_document :
    field (document input) "service_criticality" = some (.str input.serviceCriticality) := rfl

end Fields

/-- An action's name is not empty. -/
theorem value_ne_empty (action : ActionType) : action.value ≠ "" := by
  cases action <;> decide

/-- Any natural number is integral. -/
theorem isIntegral_natCast (n : Nat) : isIntegral (some (.num n)) = true := by
  simp [isIntegral]

private theorem factorInRange_natCast {n maximum : Nat} (h : n ≤ maximum) :
    factorInRange (some (.num n)) maximum = true := by
  apply factorInRange_iff.mpr
  refine ⟨n, rfl, ?_, ?_, Rat.den_natCast n⟩
  · exact_mod_cast Nat.zero_le n
  · exact_mod_cast h

/-- The factors of a document are summed like those of the result. -/
theorem factorSum_document (f : RiskFactors) :
    factorSum (some (factorsDocument f)) = f.total := by
  have hsum : factorSum (some (factorsDocument f)) =
      f.environment + (f.blastRadius + (f.destructiveness + (f.reversibility +
        (f.uncertainty + (f.sensitivity + 0))))) := rfl
  rw [hsum, RiskFactors.total]
  push_cast
  ring

/-- The policy accepts the factors of every input whose score is their sum. -/
theorem validRiskFactors_document (input : PolicyInput) :
    validRiskFactors (document input) ↔ input.riskScore = input.riskFactors.total := by
  have hobject : isObject (some (factorsDocument input.riskFactors)) = true := rfl
  have hkeys : keysAre (some (factorsDocument input.riskFactors)) factorKeys = true := by
    simp [keysAre, factorsDocument, factorKeys]
  have h1 := factorInRange_natCast input.riskFactors.environment_le
  have h2 := factorInRange_natCast input.riskFactors.blastRadius_le
  have h3 := factorInRange_natCast input.riskFactors.destructiveness_le
  have h4 := factorInRange_natCast input.riskFactors.reversibility_le
  have h5 := factorInRange_natCast input.riskFactors.uncertainty_le
  have h6 := factorInRange_natCast input.riskFactors.sensitivity_le
  have hsum : eqNumber (some (.num input.riskScore)) (factorSum
      (some (factorsDocument input.riskFactors))) ↔
      input.riskScore = input.riskFactors.total := by
    rw [factorSum_document]
    simp [eqNumber]
  rw [← hsum]
  unfold validRiskFactors
  simp only [riskFactors_document, riskScore_document, hobject, hkeys, Bool.true_and,
    Bool.and_eq_true]
  constructor
  · exact fun h ↦ h.2
  · exact fun h ↦ ⟨⟨⟨⟨⟨⟨h1, h2⟩, h3⟩, h4⟩, h5⟩, h6⟩, h⟩

/-- An input is valid for the policy up to the fields its type leaves open. -/
theorem validCommonInput_document (input : PolicyInput) :
    validCommonInput (document input) ↔
      input.environment ∈ ["local", "staging", "production"] ∧ 1 ≤ input.blastRadius ∧
        input.serviceCriticality ∈ ["low", "medium", "high", "critical"] ∧
        input.riskScore = input.riskFactors.total := by
  have hscore : ((input.riskScore : ℚ) ≤ 100) := by exact_mod_cast input.riskScore_le
  have hconfidence := input.confidence.property
  simp only [validCommonInput, environment_document, action_document, riskScore_document,
    confidence_document, blastRadius_document, reversible_document,
    serviceCriticality_document, isString, isNumber, isBoolean, neString, eqString, ge_num,
    le_num, isIntegral_natCast, inStrings_str, validRiskFactors_document, Bool.and_eq_true,
    decide_eq_true_eq, Option.isSome_some, Bool.not_eq_true', decide_eq_false_iff_not]
  constructor
  · rintro ⟨⟨⟨⟨⟨⟨⟨⟨⟨⟨⟨⟨⟨⟨⟨-, -⟩, henvironment⟩, -⟩, -⟩, -⟩, -⟩, -⟩, -⟩, -⟩, -⟩, hblast⟩, -⟩, -⟩,
      hcriticality⟩, hsum⟩
    exact ⟨henvironment, by exact_mod_cast hblast, hcriticality, hsum⟩
  · rintro ⟨henvironment, hblast, hcriticality, hsum⟩
    refine ⟨⟨⟨⟨⟨⟨⟨⟨⟨⟨⟨⟨⟨⟨⟨trivial, trivial, ?_⟩, henvironment⟩, trivial⟩, ?_⟩, hscore⟩, trivial⟩,
      trivial⟩, hconfidence.1⟩, hconfidence.2⟩, trivial⟩, ?_⟩, trivial⟩, trivial⟩, hcriticality⟩,
      hsum⟩
    · exact value_ne_empty input.action
    · exact_mod_cast Nat.zero_le input.riskScore
    · exact_mod_cast hblast

/-! ### Eligible inputs -/

private theorem lookup_labels (entries : List ((_ : String) × String)) (key : String) :
    (entries.map fun e ↦ (e.1, Value.str e.2)).lookup key =
      (entries.dlookup key).map Value.str := by
  induction entries with
  | nil => rfl
  | cons e rest ih =>
    obtain ⟨k, v⟩ := e
    by_cases h : key = k
    · subst h
      rw [List.dlookup_cons_eq, List.map_cons, List.lookup_cons, beq_self_eq_true]
      rfl
    · have hbeq : (key == k) = false := by simpa using h
      rw [List.map_cons, List.lookup_cons, hbeq, ih, List.dlookup_cons_ne _ _ h]

/-- The target of an input is one the policy acts on. -/
theorem validDemoPodTarget_document (input : PolicyInput) :
    validDemoPodTarget (document input) ↔
      input.target.ns = "cloudward-staging" ∧ input.target.podName ≠ "" ∧
        input.target.controllerManaged ∧
        (1 ≤ input.target.targetPods ∧ input.target.targetPods ≤ 10) ∧
        input.target.labels.lookup "cloudward.io/demo-target" = some "true" := by
  have htarget : field (document input) "target" = some (targetDocument input.target) := rfl
  have hns : get (some (targetDocument input.target)) "namespace" =
    some (.str input.target.ns) := rfl
  have hname : get (some (targetDocument input.target)) "pod_name" =
    some (.str input.target.podName) := rfl
  have hmanaged : get (some (targetDocument input.target)) "controller_managed" =
    some (.bool input.target.controllerManaged) := rfl
  have hpods : get (some (targetDocument input.target)) "target_pods" =
    some (.num input.target.targetPods) := rfl
  have hlabels : get (get (some (targetDocument input.target)) "labels")
      "cloudward.io/demo-target" =
        (input.target.labels.lookup "cloudward.io/demo-target").map Value.str :=
    lookup_labels input.target.labels.entries _
  have hobject : isObject (some (targetDocument input.target)) = true := rfl
  have hmap : isObject (get (some (targetDocument input.target)) "labels") = true := rfl
  unfold validDemoPodTarget
  simp only [htarget, hobject, hmap, hns, hname, hmanaged, hpods, hlabels, Bool.and_eq_true,
    eqString_iff, eqBool_iff, ge_num, le_num, isString, neString, decide_eq_true_eq,
    Option.some.injEq, Value.str.injEq, Value.bool.injEq]
  have hname : (Option.isSome (some (Value.str input.target.podName)) = true ∧
      (!eqString (some (Value.str input.target.podName)) "") = true) ↔
      input.target.podName ≠ "" := by
    simp [eqString]
  have hlabel : (Option.map Value.str
      (input.target.labels.lookup "cloudward.io/demo-target")).getD (.str "") = .str "true" ↔
        input.target.labels.lookup "cloudward.io/demo-target" = some "true" := by
    cases input.target.labels.lookup "cloudward.io/demo-target" <;> simp
  have hcount : ((1 : ℚ) ≤ input.target.targetPods ∧ (input.target.targetPods : ℚ) ≤ 10) ↔
      1 ≤ input.target.targetPods ∧ input.target.targetPods ≤ 10 := by
    constructor
    · rintro ⟨h1, h2⟩
      exact ⟨by exact_mod_cast h1, by exact_mod_cast h2⟩
    · rintro ⟨h1, h2⟩
      exact ⟨by exact_mod_cast h1, by exact_mod_cast h2⟩
  rw [hlabel, hname]
  tauto

/-- What the policy lets an executor do in an environment: the deletion of a pod and the
quarantines are not for production. -/
def executable (environment : Environment) : ActionType → Bool
  | .scaleStagingDeployment | .revertImage | .noAction => true
  | .deleteUnhealthyPod | .applyQuarantine | .removeQuarantine => environment ≠ .production
  | _ => false

private theorem lower_value (action : ActionType) : lower action.value ∉ hardDeniedActions := by
  cases action <;> decide +kernel

/-- The bodies about the action and its environment. -/
private theorem executable_iff (environment : Environment) (action : ActionType) :
    executable environment action ↔ action.value ∈ knownActions ∧
      ¬ (action.value = "DELETE_UNHEALTHY_POD" ∧ environment.value = "production") ∧
      ¬ (action.value ∈ ["APPLY_QUARANTINE", "REMOVE_QUARANTINE"] ∧
        environment.value = "production") ∧ action.value ∈ executorActions := by
  cases action <;> cases environment <;> decide +kernel

/-- A reversible input of a low risk and criticality is eligible if its action may be executed
in its environment and its target is one the policy acts on. -/
theorem eligible_document {input : PolicyInput} {environment : Environment}
    (henvironment : input.environment = environment.value) (hradius : 1 ≤ input.blastRadius)
    (hcriticality : input.serviceCriticality = "low") (hreversible : input.reversible = true)
    (hscore : input.riskScore = input.riskFactors.total) (hlow : input.riskScore < 70) :
    Eligible (document input) ↔
      executable environment input.action ∧ validDemoPodTarget (document input) := by
  have hdenied : hardDeniedAction (document input) = false := by
    simp [hardDeniedAction, lower_value]
  have hcommon : validCommonInput (document input) := by
    rw [validCommonInput_document, henvironment, hcriticality]
    refine ⟨?_, hradius, List.mem_cons_self, hscore⟩
    cases environment <;> decide +kernel
  have hbelow : ge (some (.num input.riskScore)) 70 = false := by
    rw [ge_num, decide_eq_false_iff_not]
    exact_mod_cast Nat.not_le.mpr hlow
  rw [eligible_iff, executable_iff, hdenied]
  simp only [environment_document, action_document, riskScore_document, reversible_document,
    hcommon, hbelow, hreversible, henvironment, inStrings_str, eqString_iff, Option.some.injEq,
    Value.str.injEq, eqBool, true_and]
  tauto

/-- An approval that names its approver is valid. -/
theorem validApproval_document {input : PolicyInput} {id name : String}
    (h : input.approval = ⟨true, some id, some name⟩) (hid : id ≠ "") (hname : name ≠ "") :
    validApproval (document input) := by
  have happroval : field (document input) "approval" = some (approvalDocument input.approval) := rfl
  have hne {s : String} (hs : s ≠ "") : neString (some (.str s)) "" = true := by
    simp [neString, eqString, hs]
  have happroved : get (some (approvalDocument ⟨true, some id, some name⟩)) "approved" =
    some (.bool true) := rfl
  have happrovalId : get (some (approvalDocument ⟨true, some id, some name⟩)) "approval_id" =
    some (.str id) := rfl
  have happrovedBy : get (some (approvalDocument ⟨true, some id, some name⟩)) "approved_by" =
    some (.str name) := rfl
  have hobject : isObject (some (approvalDocument ⟨true, some id, some name⟩)) = true := rfl
  unfold validApproval
  rw [happroval, h]
  simp only [isValidApproval, hobject, happroved, happrovalId, happrovedBy, hne hid, hne hname,
    isString, Bool.and_eq_true, eqBool_iff, and_self]

/-! ### The engine and the policy -/

/-- The three modes, by score. -/
theorem recommendedMode_cases (context : RiskContext) :
    ((calculate context).score ≤ 30 ∧ (calculate context).recommendedMode = .autoExecute) ∨
      (31 ≤ (calculate context).score ∧ (calculate context).score ≤ 69 ∧
        (calculate context).recommendedMode = .approvalRequired) ∨
      (70 ≤ (calculate context).score ∧
        (calculate context).recommendedMode = .blockAndEscalate) := by
  simp only [calculate]
  split
  · next h => exact .inl ⟨h, rfl⟩
  · next h =>
    split
    · next h' => exact .inr (.inl ⟨Nat.lt_of_not_le h, h', rfl⟩)
    · next h' => exact .inr (.inr ⟨Nat.lt_of_not_le h', rfl⟩)

/-- The rounded uncertainty is never negative, so nothing is cut off. -/
theorem uncertainty_riskFactors (context : RiskContext) :
    ((riskFactors context).uncertainty : Int) =
      pyRound ((1 - context.confidence.val) * 15) := by
  have hfloor : 0 ≤ ⌊(1 - context.confidence.val) * 15⌋ := by
    apply Int.floor_nonneg.mpr
    have := context.confidence.property.2
    linarith
  apply Int.toNat_of_nonneg
  unfold pyRound
  split
  · exact hfloor
  · split
    · omega
    · split <;> omega

/-- The risk engine and the policy agree. -/
theorem engine_agrees (context : RiskContext) :
    (((riskFactors context).uncertainty : Int) =
        pyRound ((1 - context.confidence.val) * 15) ∧
      (riskFactors context).environment ≤ 15 ∧ (riskFactors context).blastRadius ≤ 25 ∧
      (riskFactors context).destructiveness ≤ 20 ∧ (riskFactors context).reversibility ≤ 15 ∧
      (riskFactors context).uncertainty ≤ 15 ∧ (riskFactors context).sensitivity ≤ 10 ∧
      (calculate context).score = (riskFactors context).total ∧
      (calculate context).score ≤ 100) ∧
    ∀ input : PolicyInput, input.riskScore = (calculate context).score →
      input.riskFactors = (calculate context).factors →
      validRiskFactors (document input) ∧
        ((decision (document input)).allowed → ¬ validApproval (document input) →
          (calculate context).recommendedMode = .autoExecute) ∧
        ((calculate context).recommendedMode = .blockAndEscalate →
          ¬ (decision (document input)).allowed) := by
  have hfactors := factors_calculate context
  have htotal : (calculate context).score = (riskFactors context).total := by
    rw [← hfactors]
    exact (calculate context).score_matches_factors
  constructor
  · exact ⟨uncertainty_riskFactors context, (riskFactors context).environment_le,
      (riskFactors context).blastRadius_le, (riskFactors context).destructiveness_le,
      (riskFactors context).reversibility_le, (riskFactors context).uncertainty_le,
      (riskFactors context).sensitivity_le, htotal, (calculate context).score_le⟩
  intro input hscore hinput
  have hbelow (hallowed : (decision (document input)).allowed) :
      (calculate context).score < 70 := by
    obtain ⟨q, hq, -, hlt, -⟩ := (allowable_of_allowed hallowed).score
    rw [riskScore_document] at hq
    cases hq
    rw [← hscore]
    exact_mod_cast hlt
  refine ⟨?_, ?_, ?_⟩
  · apply (validRiskFactors_document input).mpr
    rw [hscore, hinput]
    exact (calculate context).score_matches_factors
  · intro hallowed hnone
    have hrequired : approvalRequired (document input) = false := by
      by_contra hneeds
      have heligible : Eligible (document input) := by
        by_contra hne
        rw [(decision_of_not_eligible hne).1] at hallowed
        cases hallowed
      rw [(decision_of_eligible heligible).1] at hallowed
      simp only [Bool.or_eq_true, Bool.not_eq_true'] at hallowed
      rcases hallowed with h | h
      · exact hneeds h
      · exact hnone h
    have hlow : (calculate context).score < 31 := by
      simp only [approvalRequired, riskScore_document, ge_num, Bool.or_eq_false_iff,
        decide_eq_false_iff_not, not_le] at hrequired
      rw [← hscore]
      exact_mod_cast hrequired.1
    rcases recommendedMode_cases context with h | h | h
    · exact h.2
    · omega
    · omega
  · intro hblock hallowed
    have := (recommendedMode_calculate context).mp hblock
    have := hbelow hallowed
    omega

end CloudWard.Policies
