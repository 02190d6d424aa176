import CloudWard.Ai.ActionBoundary
import CloudWard.Api.Actions
import CloudWard.Approvals.Service
import CloudWard.Policies.Document
import CloudWard.Reliability.Workflow
import CloudWard.Remediation.Pipeline
import CloudWard.Security.Service

/-!
# The callers of the policy

Seven callers build an input for OPA. Every value they take over lies in the policy's
enumerations but one: the criticality of a service, which the manual API, the AI gate and
the two security callers take from their input, two of them with a default of their own
that the policy does not know.
-/

namespace CloudWard.Policies

open CloudWard.Ai CloudWard.Api CloudWard.Approvals CloudWard.Db
  CloudWard.Incidents CloudWard.Kubernetes CloudWard.Policies.Remediation CloudWard.Remediation
  CloudWard.Remediation.Pipeline CloudWard.Risk CloudWard.Security

/-- The criticalities of the policy, `remediation.rego:201`. -/
def criticalities : List String := ["low", "medium", "high", "critical"]

/-- A proposal as the workflows file it: its score and its factors are of one result. -/
def Assessed (proposal : ActionProposal) : Prop :=
  ∃ risk : RiskResult, proposal.riskScore = risk.score ∧
    proposal.riskCalculation = riskDump risk

/-- A caller with what it builds its input from. -/
inductive Caller
  /-- `POST /actions/evaluate`. -/
  | manual (python : Api.Conversions) (payload : ActionEvaluationRequest)
  /-- The gate of AI candidates. -/
  | candidate (diagnosis : Option AIDiagnosisRecord) (environment : Environment)
      (service : Option InventoryService) (request : AIActionEvaluationRequest)
  /-- The ingestion of a security event. -/
  | ingestion (event : TetragonSecurityEvent) (labels : Labels)
  /-- The application or the removal of a quarantine. -/
  | quarantine (s : Subject) (actor : String) (action : ActionType) (pod : PodState)
  /-- The reliability processor. -/
  | processor (environment : Environment) (snapshot : Reliability.Snapshot)
      (runbook : Runbooks.RunbookDocument) (proposalId : Nat)
  /-- The pipeline for unhealthy pods. -/
  | pipeline (target : UnhealthyPodTarget) (pod : PodState) (action : ActionType)
  /-- The evaluation again of an approved proposal. -/
  | approval (approvalId : Nat) (row : Approval) (incident : Incident)
      (proposal : ActionProposal) (factors : RiskFactors) (target : LiveTarget)
      (principal : Principal) (assessed : Assessed proposal)
      (stored : proposal.riskCalculation.factors = some factors)

/-- The input a caller sends. -/
def Caller.input : Caller → Except Exc PolicyInput
  | .manual python payload => evaluationInput python payload
  | .candidate diagnosis environment service request =>
    candidateInput diagnosis environment service request
  | .ingestion event labels => .ok (ingestionInput event labels)
  | .quarantine s actor action pod => .ok (authorizeInput s actor action pod)
  | .processor environment snapshot runbook proposalId =>
    Reliability.policyInput environment
      ⟨snapshot, runbook, Reliability.riskOf environment runbook.action snapshot, proposalId⟩
  | .pipeline target pod action =>
    .ok (Pipeline.policyInput target pod action
      (Pipeline.riskOf target.environment action (getActionMetadata action)))
  | .approval approvalId row incident proposal factors target principal _ _ =>
    reviewInput approvalId row incident proposal factors target principal

/-- Whether the criticality a caller takes over is one of the policy's. The manual API has
to be given one and the AI gate a service; a label may be missing. -/
def Caller.NamesCriticality : Caller → Prop
  | .manual python payload =>
    ∃ v, payload.parameters.lookup "service_criticality" = some v ∧ python.str v ∈ criticalities
  | .candidate _ _ service _ => ∃ row, service = some row ∧ row.criticality ∈ criticalities
  | .ingestion _ labels => ∀ v ∈ labels.lookup criticalityLabel, v ∈ criticalities
  | .quarantine _ _ _ pod => ∀ v ∈ pod.labels.lookup criticalityLabel, v ∈ criticalities
  | .processor _ _ _ _ => True
  | .pipeline _ _ _ => True
  | .approval _ _ _ _ _ _ _ _ _ => True

/-- Every environment of the program is one of the policy's. -/
theorem value_mem_environments (environment : Environment) :
    environment.value ∈ ["local", "staging", "production"] := by
  cases environment <;> simp [Environment.value]

/-- An input whose environment, blast radius and score are the program's own is valid up to
its criticality. -/
theorem validCommonInput_iff_criticality {input : PolicyInput} {environment : Environment}
    {risk : RiskResult} (henvironment : input.environment = environment.value)
    (hblast : 1 ≤ input.blastRadius) (hscore : input.riskScore = risk.score)
    (hfactors : input.riskFactors = risk.factors) :
    validCommonInput (document input) ↔ input.serviceCriticality ∈ criticalities := by
  have hmem := value_mem_environments environment
  have hsum : input.riskScore = input.riskFactors.total := by
    rw [hscore, hfactors]
    exact risk.score_matches_factors
  rw [validCommonInput_document, henvironment]
  constructor
  · exact fun h ↦ h.2.2.1
  · exact fun h ↦ ⟨hmem, hblast, h, hsum⟩

private theorem getD_mem_criticalities (label : Option String) :
    label.getD "low" ∈ criticalities ↔ ∀ v ∈ label, v ∈ criticalities := by
  cases label with
  | none => simp [criticalities]
  | some v => simp

/-- What a built evaluation says. -/
private theorem evaluationInput_eq_ok {python : Api.Conversions} {payload : ActionEvaluationRequest}
    {input : PolicyInput} (h : evaluationInput python payload = .ok input) :
    ∃ context, input.environment = payload.environment.value ∧
      input.riskScore = (calculate context).score ∧
      input.riskFactors = (calculate context).factors ∧
      input.blastRadius = (calculate context).factors.blastRadius ∧
      input.serviceCriticality =
        (payload.parameters.lookup "service_criticality").elim "standard" python.str := by
  simp only [evaluationInput] at h
  obtain ⟨targetCount, -, h⟩ := Logic.bind_eq_ok h
  obtain ⟨risk, hrisk, h⟩ := Logic.bind_eq_ok h
  obtain ⟨labels, -, h⟩ := Logic.bind_eq_ok h
  obtain ⟨target, -, h⟩ := Logic.bind_eq_ok h
  obtain ⟨q, -, h⟩ := Logic.bind_eq_ok h
  obtain ⟨c, -, h⟩ := Logic.bind_eq_ok h
  unfold evaluationRisk at hrisk
  split at hrisk
  · cases hrisk
    cases h
    exact ⟨_, rfl, rfl, rfl, rfl, rfl⟩
  · cases hrisk

/-- **Which inputs are well formed**: an input is valid for the policy exactly when its caller
names one of the policy's criticalities. -/
theorem validCommonInput_iff_namesCriticality {c : Caller} {input : PolicyInput}
    (h : c.input = .ok input) :
    validCommonInput (document input) ↔ c.NamesCriticality := by
  cases c with
  | manual python payload =>
    obtain ⟨context, henvironment, hscore, hfactors, hblast, hcriticality⟩ :=
      evaluationInput_eq_ok h
    have hpos : 1 ≤ input.blastRadius := by
      rw [hblast]
      exact blastRadius_pos context
    rw [validCommonInput_iff_criticality henvironment hpos hscore hfactors, hcriticality]
    cases hlookup : payload.parameters.lookup "service_criticality" with
    | none => simp [Caller.NamesCriticality, hlookup, criticalities]
    | some v => simp [Caller.NamesCriticality, hlookup]
  | candidate diagnosis environment service request =>
    obtain ⟨confidence, henvironment, hblast, hcriticality, hscore, hfactors⟩ :=
      candidateInput_eq_ok h
    have hpos : 1 ≤ input.blastRadius := by
      rw [hblast]
      exact request.targetCount_mem.1
    rw [validCommonInput_iff_criticality henvironment hpos hscore hfactors, hcriticality]
    cases service with
    | none => simp [Caller.NamesCriticality, criticalities]
    | some row => simp [Caller.NamesCriticality]
  | ingestion event labels =>
    cases h
    have henvironment : (ingestionInput event labels).environment = Environment.staging.value :=
      rfl
    rw [validCommonInput_iff_criticality henvironment le_rfl rfl rfl]
    exact getD_mem_criticalities _
  | quarantine s actor action pod =>
    cases h
    rw [validCommonInput_iff_criticality rfl le_rfl rfl rfl]
    exact getD_mem_criticalities _
  | processor environment snapshot runbook proposalId =>
    obtain ⟨target, -, h⟩ := Logic.bind_eq_ok h
    cases h
    have hpos : 1 ≤ snapshot.pods.length := List.length_pos_of_ne_nil snapshot.pods_ne
    rw [validCommonInput_iff_criticality rfl hpos rfl rfl]
    simp [Caller.NamesCriticality, criticalities]
  | pipeline target pod action =>
    cases h
    rw [validCommonInput_iff_criticality rfl le_rfl rfl rfl]
    simp [Caller.NamesCriticality, Pipeline.policyInput, criticalities]
  | approval approvalId row incident proposal factors target principal assessed stored =>
    obtain ⟨risk, hscore, hcalculation⟩ := assessed
    rw [hcalculation] at stored
    cases stored
    obtain ⟨target, -, h⟩ := Logic.bind_eq_ok h
    cases h
    rw [validCommonInput_iff_criticality rfl (Nat.le_max_left 1 _) hscore rfl]
    simp [Caller.NamesCriticality, criticalities]

/-- The conversions of the values a client sends: numbers, booleans and plain strings. -/
def plain : Api.Conversions where
  int
    | .num q => .ok (q.num.tdiv q.den)
    | .bool b => .ok b.toNat
    | _ => .error .validation
  float
    | .num q => .ok q
    | .bool b => .ok b.toNat
    | _ => .error .validation
  str
    | .str s => s
    | .bool b => if b then "True" else "False"
    | _ => "None"
  bool
    | .null => false
    | .bool b => b
    | .num q => q ≠ 0
    | .str s => s ≠ ""
    | .arr items => ! items.isEmpty
    | .obj fields => ! fields.isEmpty
  labels
    | .obj [] => .ok ∅
    | _ => .error .validation

/-- A restart in staging, evaluated over the API with these parameters. -/
def restart (parameters : List (String × Logic.Rego.Value)) : Caller :=
  .manual plain ⟨.restartPod, .staging, parameters⟩

theorem validCommonInput_iff_namesCriticality_restart :
    ∃ input, (restart [("service_criticality", .str "low")]).input = .ok input ∧
      (validCommonInput (document input) ↔
        (restart [("service_criticality", .str "low")]).NamesCriticality) :=
  ⟨_, rfl, validCommonInput_iff_namesCriticality rfl⟩

/-- An evaluation over the API that names no criticality is malformed for the policy. -/
theorem unnamed_criticality_malformed :
    ¬ ∀ (c : Caller) (input : PolicyInput), c.input = .ok input →
      validCommonInput (document input) := by
  intro h
  have hvalid := h (restart []) _ rfl
  rw [validCommonInput_document] at hvalid
  have hstandard := hvalid.2.2.1
  revert hstandard
  decide

end CloudWard.Policies
