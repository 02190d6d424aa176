import CloudWard.Ai.Candidates
import CloudWard.Alerts.Jobs

/-!
# Advice and deterministic remediation

`docs/ai/openrouter.md` calls the diagnosis advisory. The first query of `process` reads the
proposals of every origin, so a filed candidate is taken for a run that already happened:
the deterministic remediation of its incident never starts. The AI_DIAGNOSIS event of a
diagnosis, which no modelled service reads, is left out.
-/

namespace CloudWard.Ai

open CloudWard.Alerts CloudWard.Approvals CloudWard.Db CloudWard.Incidents CloudWard.Kubernetes
  CloudWard.Logic CloudWard.Policies CloudWard.Remediation CloudWard.Risk CloudWard.Runbooks
  Service

/-- What AI does on an incident: a diagnosis is stored, whatever the model answered, or a
candidate is evaluated. -/
inductive Call
  | diagnose (diagnosis : AIDiagnosisRecord) (uuid : String)
  | evaluate (service : Option InventoryService) (request : AIActionEvaluationRequest)

/-- A call with the redaction and the environment it meets. -/
structure Advice where
  call : Call
  redact : String → String
  env : Env

/-- The committed rows and the stored diagnoses. -/
structure State where
  rows : Database
  diagnoses : Table StoredDiagnosis

/-- The committed rows after the transaction that evaluates a candidate. -/
def evaluated (incidentId : Nat) (cluster : Cluster) (s : State) (op : Advice)
    (service : Option InventoryService) (request : AIActionEvaluationRequest) : Database :=
  ((transaction op.env (evaluateAiActionCandidate op.env op.redact s.diagnoses service incidentId
    request)).run (start s.rows cluster)).2.committed

/-- One call on an incident. -/
def step (incidentId : Nat) (cluster : Cluster) (s : State) (op : Advice) : State :=
  match op.call with
  | .diagnose diagnosis uuid => { s with
      diagnoses := s.diagnoses.insert { toAIDiagnosisRecord := diagnosis, incidentId, uuid } }
  | .evaluate service request =>
    { s with rows := evaluated incidentId cluster s op service request }

/-! ### What advice leaves -/

/-- One call leaves the rows advised. -/
theorem advised_step (incidentId : Nat) (cluster : Cluster) (s : State) (op : Advice) :
    Advised incidentId s.rows (step incidentId cluster s op).rows := by
  unfold step
  cases op.call with
  | diagnose diagnosis uuid => exact Advised.refl _ _
  | evaluate service request =>
    have hframes : Exec.Frames World.committed (evaluateAiActionCandidate op.env op.redact
        s.diagnoses service incidentId request) :=
      frames_evaluateAiActionCandidate (fun _ _ ↦ rfl) (fun _ _ ↦ rfl) (fun _ _ ↦ rfl) op.env
        op.redact s.diagnoses service incidentId request
    rcases committed_transaction op.env hframes (start s.rows cluster) with hsame | hdone
    · simp only [evaluated, hsame]
      exact Advised.refl _ _
    · obtain ⟨w, hrun, hcommitted, -⟩ := hdone
      simp only [evaluated, hcommitted]
      exact (triple_evaluateAiActionCandidate op.env op.redact s.diagnoses service incidentId
        request s.rows).of_ok rfl hrun

/-- What AI does on an incident leaves the rows advised. -/
theorem advised_run (incidentId : Nat) (cluster : Cluster) (s : State) (ops : List Advice) :
    Advised incidentId s.rows (Runs.run (step incidentId cluster) s ops).rows := by
  apply Runs.invariant (I := fun t : State ↦ Advised incidentId s.rows t.rows)
  · intro t op h
    exact h.trans (advised_step incidentId cluster t op)
  · exact Advised.refl _ _

/-- A candidate that passes the gate for the first time is filed, whatever OPA answers. -/
theorem filed_of_passes {incidentId : Nat} (cluster : Cluster) {s : State} {op : Advice}
    (hq : Quiet op.env) {service : Option InventoryService} {request : AIActionEvaluationRequest}
    (hcall : op.call = .evaluate service request) {incident : Incident}
    (hincident : s.rows.incidents[incidentId]? = some incident) {entry : Nat × StoredDiagnosis}
    (hlatest : s.diagnoses.latest (·.incidentId = incidentId) = some entry)
    {input : PolicyInput}
    (hinput : candidateInput (some entry.2.toAIDiagnosisRecord) incident.environment service
      request = .ok input)
    (hnew : existingGateResult s.rows incidentId entry.2 request.action = none) :
    ∃ p ∈ (step incidentId cluster s op).rows.proposals,
      p.incidentId = incidentId ∧ p.proposedBy = aiAdvisory := by
  have hreturns : Returns (transaction op.env (evaluateAiActionCandidate op.env op.redact
      s.diagnoses service incidentId request)) (start s.rows cluster) fun _ w ↦
        ∃ p ∈ w.committed.proposals, p.incidentId = incidentId ∧ p.proposedBy = aiAdvisory := by
    apply Returns.bind (Q := fun _ w ↦
      ∃ p ∈ w.db.proposals, p.incidentId = incidentId ∧ p.proposedBy = aiAdvisory)
    · apply returns_bind (reaches_loadIncident hincident)
      intro _
      apply returns_bind (reaches_query hq _ _)
      intro _
      rw [hlatest]
      apply returns_bind (reaches_ofExcept hinput)
      intro _
      apply returns_bind (reaches_query hq _ _)
      intro _
      simp only [start, hnew]
      apply returns_bind (reaches_flush hq _)
      intro _
      apply returns_bind (reaches_evaluate _ _ _)
      intro _
      apply returns_bind (reaches_insertProposal _ _)
      intro _
      apply returns_bind (reaches_flush hq _)
      intro _
      apply returns_bind (reaches_write _ _)
      intro _
      apply returns_bind (reaches_flush hq _)
      intro _
      apply returns_bind (reaches_flush hq _)
      intro _
      apply (reaches_flush hq _).returns
      intro _
      exact ⟨_, List.mem_append_right _ List.mem_cons_self, rfl, rfl⟩
    · intro _ w hfiled
      exact (reaches_commit hq w).returns fun _ ↦ hfiled
  unfold step
  rw [hcall]
  exact hreturns.state

/-! ### What a processed alert comes to -/

/-- What a run is compared by: its mutations, the proposals that are not the gate's, and the
state of the incident. -/
structure Outcome where
  mutations : List Mutation
  proposals : List ActionProposal
  state : Option IncidentState

/-- The mutations of a trace. -/
def mutationsOf (trace : List Event) : List Mutation :=
  trace.filterMap fun
    | .mutated m => some m
    | _ => none

/-- What processing a job on these rows and this cluster comes to. -/
def outcome (env : Env) (settings : Settings) (runbooks : RunbookLoader) (job : AlertJob)
    (cluster : Cluster) (rows : Database) : Outcome :=
  let w := (⟨rows, [job], cluster⟩ : Alerts.State).worked env settings runbooks job
  { mutations := mutationsOf w.trace
    proposals := w.committed.proposals.filter (·.proposedBy ≠ aiAdvisory)
    state := w.committed.incidents[job.incidentId]?.map (·.state) }

private theorem mutationsOf_eq_nil {trace : List Event} (h : ∀ m, .mutated m ∉ trace) :
    mutationsOf trace = [] := by
  unfold mutationsOf
  rw [List.filterMap_eq_nil_iff]
  intro e he
  cases e with
  | mutated m => exact absurd he (h m)
  | _ => rfl

/-- A settled incident's alert comes to nothing. -/
theorem outcome_settled (env : Env) (settings : Settings) (runbooks : RunbookLoader)
    {job : AlertJob} (cluster : Cluster) {rows : Database}
    (hsettled : Settled rows job.incidentId) :
    outcome env settings runbooks job cluster rows =
      { mutations := []
        proposals := rows.proposals.filter (·.proposedBy ≠ aiAdvisory)
        state := rows.incidents[job.incidentId]?.map (·.state) } := by
  have hidle := worked_settled (s := ⟨rows, [job], cluster⟩) env settings runbooks hsettled
  unfold outcome
  simp only [hidle.rows, mutationsOf_eq_nil hidle.trace]

/-- Where advice filed nothing, or the incident is settled anyway, both runs agree. -/
private theorem outcome_advised (env : Env) (settings : Settings) (runbooks : RunbookLoader)
    {job : AlertJob} (cluster : Cluster) {before after : Database}
    (hadvised : Advised job.incidentId before after)
    (h : Settled before job.incidentId ∨ ∀ p ∈ after.proposals, p.incidentId ≠ job.incidentId) :
    outcome env settings runbooks job cluster after =
      outcome env settings runbooks job cluster before := by
  obtain ⟨filed, hfiled, hall, hnone⟩ := hadvised.proposals
  rcases h with hsettled | hunfiled
  · have hafter : Settled after job.incidentId := by
      rcases hsettled with ⟨proposal, hmem, hof⟩ | hstate
      · left
        use proposal
        rw [hfiled]
        exact ⟨List.mem_append_left _ hmem, hof⟩
      · right
        rw [hadvised.incidents]
        exact hstate
    rw [outcome_settled env settings runbooks cluster hafter,
      outcome_settled env settings runbooks cluster hsettled, hadvised.others,
      hadvised.incidents]
  · have hempty : filed = [] := by
      rw [List.eq_nil_iff_forall_not_mem]
      intro p hp
      have hmem : p ∈ after.proposals := by
        rw [hfiled]
        exact List.mem_append_right _ hp
      exact hunfiled p hmem (hall p hp).1
    rw [hnone hempty]

/-! ### A run that acts on any incident that is not settled -/

/-- The demo pod is healthy, and the policy cannot be asked. -/
def refusing : Env :=
  { Reliability.listing Reliability.willing [makePod "demo-a" true] with
    opa := fun _ _ ↦ .denied "OPA is unavailable" (by decide) }

/-- A runbook for any incident whose alert has no conditions of its own. -/
def idling (incident : Incident) : RunbookDocument :=
  { memoryPressure with
    id := "reliability.idle"
    environments := [incident.environment]
    incidentType := incident.incidentType
    conditions := ["prometheus_alert"]
    action := .noAction
    conditions_ne := List.cons_ne_nil _ _
    supported := by
      intro e _
      cases e <;> decide
    rollback_capable := fun h ↦ Bool.noConfusion h }

/-- An alert that no condition is known for. -/
def unknownAlert : Alerts.NormalizedAlert :=
  { oomKilled .firing "unknown" with alertName := "Unknown" }

/-- The session's row of the incident, in a state of the run. -/
private def Stands (incident : Incident) (id : Nat) (s : IncidentState) (w : World) : Prop :=
  ∃ row, w.db.incidents[id]? = some row ∧ row.state = s ∧
    row.incidentType = incident.incidentType ∧ row.environment = incident.environment

section Acting

variable {incident : Incident} {id : Nat} {s : IncidentState} {w : World}

private theorem quiet_refusing : Quiet refusing := ⟨fun _ ↦ rfl, fun _ ↦ rfl⟩

/-- An allowed change moves the row on. -/
private theorem returns_move (settings : Settings) {target : IncidentState}
    (h : Stands incident id s w) (hallowed : target ∈ allowedTransitions s) (hne : s ≠ target)
    (details : Details) :
    Returns (changeIncidentState refusing settings id target Reliability.worker details) w
      fun _ w' ↦ Stands incident id target w' := by
  obtain ⟨row, hrow, hstate, htype, henvironment⟩ := h
  have hrow' : w.db.incidents[id]?.map (·.state) = some s := by
    rw [hrow, ← hstate]
    rfl
  apply (returns_changeIncidentState quiet_refusing settings Reliability.worker details hrow'
    hallowed hne).mono
  rintro _ _ ⟨now, t, g, r, n, rfl⟩
  refine ⟨withState target Reliability.worker now row, ?_, rfl, htype, henvironment⟩
  simp only [Table.getElem?_update_self, hrow, Option.map_some]

private theorem returns_loadIncident (h : Stands incident id s w) :
    Returns (loadIncident id) w fun row w' ↦ row.state = s ∧
      row.incidentType = incident.incidentType ∧ row.environment = incident.environment ∧
      Stands incident id s w' := by
  obtain ⟨row, hrow, hstate, htype, henvironment⟩ := h
  exact (reaches_loadIncident hrow).returns fun n ↦
    ⟨hstate, htype, henvironment, row, hrow, hstate, htype, henvironment⟩

/-- Columns of the row other than these may be set. -/
private theorem returns_updateIncident {f : Incident → Incident} (h : Stands incident id s w)
    (hf : ∀ row, (f row).state = row.state ∧ (f row).incidentType = row.incidentType ∧
      (f row).environment = row.environment) :
    Returns (updateIncident id f) w fun _ w' ↦ Stands incident id s w' := by
  obtain ⟨row, hrow, hstate, htype, henvironment⟩ := h
  apply (reaches_write _ _).returns
  intro n
  obtain ⟨hs, ht, he⟩ := hf row
  refine ⟨f row, ?_, hs.trans hstate, ht.trans htype, he.trans henvironment⟩
  simp only [Table.getElem?_update_self, hrow, Option.map_some]

/-- The first state change of the evidence. -/
private theorem returns_collect (settings : Settings) (h : Stands incident id s w)
    (haccepted : s ∈ acceptedStates) :
    Returns (Exec.when (s = .detected) (changeIncidentState refusing settings id
      .collectingEvidence Reliability.worker)) w fun _ w' ↦
        Stands incident id .collectingEvidence w' ∨ Stands incident id .classifying w' := by
  apply returns_when
  · rintro rfl
    exact (returns_move settings h (by decide) (by decide) {}).mono fun _ _ h ↦ .inl h
  · intro hne
    simp only [acceptedStates, List.mem_cons, List.not_mem_nil, or_false] at haccepted
    rcases haccepted with rfl | rfl | rfl
    · exact absurd rfl hne
    · exact .inl h
    · exact .inr h

/-- The last state change of the evidence. -/
private theorem returns_classify (settings : Settings)
    (h : Stands incident id .collectingEvidence w ∨ Stands incident id .classifying w) :
    Returns (changeIncidentState refusing settings id .classifying Reliability.worker) w
      fun _ w' ↦ Stands incident id .classifying w' := by
  rcases h with h | h
  · exact returns_move settings h (by decide) (by decide) {}
  · apply (returns_loadIncident h).bind
    rintro row w' ⟨hstate, -, -, hstands⟩
    exact (reaches_when_not (not_not.mpr hstate)).returns fun _ ↦ hstands

/-- Evidence of an incident that is not past it is gathered. -/
private theorem returns_gather (settings : Settings) (h : Stands incident id s w)
    (haccepted : s ∈ acceptedStates) :
    Returns (Reliability.gather refusing settings id unknownAlert.toNormalizedAlert) w
      fun snapshot w' ↦ snapshot.pods.length ≤ 1000 ∧ Stands incident id .classifying w' := by
  apply (returns_loadIncident h).bind
  rintro row w' ⟨rfl, -, -, hstands⟩
  apply (returns_collect settings hstands haccepted).bind
  intro _ w' hcollected
  apply returns_bind (reaches_require rfl)
  intro _
  apply returns_bind (reaches_getPods (by decide) (by decide) fun _ ↦ rfl)
  intro _
  rw [dif_pos (List.cons_ne_nil _ _)]
  apply returns_bind (reaches_getDeployment (by decide) (by decide) fun _ ↦ rfl)
  intro _
  apply returns_bind (reaches_getEvents (by decide) (by decide) fun _ ↦ rfl)
  intro _
  apply returns_bind (reaches_call (a := ()) rfl)
  intro _
  apply returns_bind (reaches_flush quiet_refusing _)
  intro _
  apply (returns_classify settings (by exact hcollected)).bind
  intro _ w' hclassified
  exact (reaches_pure _ _).returns fun _ ↦ ⟨by simp, hclassified⟩

private theorem returns_propose (settings : Settings) (h : Stands incident id .classifying w)
    (snapshot : Reliability.Snapshot) (runbook : RunbookDocument) :
    Returns (Reliability.propose refusing settings id snapshot runbook) w fun p w' ↦
      p.snapshot = snapshot ∧ Stands incident id .policyEvaluation w' := by
  apply Returns.bind
  · exact returns_updateIncident h fun _ ↦ ⟨rfl, rfl, rfl⟩
  intro _ w' hclassified
  apply returns_bind (reaches_insertRunbookExecution _ _)
  intro _
  apply returns_bind (reaches_flush quiet_refusing _)
  intro _
  apply (returns_move settings (by exact hclassified) (by decide) (by decide) {}).bind
  intro _ w' hproposed
  apply (returns_loadIncident hproposed).bind
  rintro row w' ⟨-, -, -, hproposed⟩
  apply Returns.bind
  · exact returns_updateIncident hproposed fun _ ↦ ⟨rfl, rfl, rfl⟩
  intro _ w' hproposed
  apply returns_bind (reaches_insertProposal _ _)
  intro _
  apply returns_bind (reaches_flush quiet_refusing _)
  intro _
  apply (returns_move settings (by exact hproposed) (by decide) (by decide) {}).bind
  intro _ w' hevaluation
  exact (reaches_pure _ _).returns fun _ ↦ ⟨rfl, hevaluation⟩

private theorem returns_authorise (h : Stands incident id .policyEvaluation w)
    (p : Reliability.Proposal) (hle : p.snapshot.pods.length ≤ 1000) :
    Returns (Reliability.authorise refusing id p) w fun policy w' ↦
      policy.allowed = false ∧ policy.requiresApproval = false ∧
        Stands incident id .policyEvaluation w' := by
  apply (returns_loadIncident h).bind
  rintro row w' ⟨-, -, -, hevaluation⟩
  obtain ⟨input, hinput⟩ : ∃ input, Reliability.policyInput row.environment p = .ok input := by
    unfold Reliability.policyInput
    have htarget : targetInput p.snapshot.ns p.snapshot.targetPod.name
        p.snapshot.targetPod.labels p.snapshot.targetPod.controllerManaged
        p.snapshot.pods.length = .ok ⟨_, _, _, _, _, hle⟩ := dif_pos hle
    simp only [htarget]
    exact ⟨_, rfl⟩
  apply returns_bind (reaches_ofExcept hinput)
  intro _
  apply returns_bind (reaches_evaluate _ _ _)
  intro _
  apply returns_bind (reaches_write _ _)
  intro _
  apply returns_bind (reaches_flush quiet_refusing _)
  intro _
  exact (reaches_pure _ _).returns fun _ ↦ ⟨rfl, rfl, hevaluation⟩

private theorem returns_hold (settings : Settings) (h : Stands incident id .policyEvaluation w)
    (p : Reliability.Proposal) {policy : PolicyResult} (hrequires : policy.requiresApproval = false) :
    Returns (Reliability.hold refusing settings id p policy) w fun _ w' ↦
      Stands incident id .blocked w' := by
  have hblocked : (if policy.requiresApproval then .awaitingApproval else .blocked) =
      IncidentState.blocked := by
    rw [hrequires]
    rfl
  unfold Reliability.hold
  rw [hblocked]
  apply (returns_move settings h (by decide) (by decide) _).bind
  intro _ w' hblocked
  apply returns_bind (reaches_write _ _)
  intro _
  apply (returns_loadIncident (by exact hblocked)).bind
  rintro row w' ⟨-, -, -, hblocked⟩
  exact (reaches_pure _ _).returns fun _ ↦ hblocked

/-- The alert of an incident that is not settled ends it as BLOCKED. -/
private theorem returns_process (settings : Settings) (h : Stands incident id s w)
    (haccepted : s ∈ acceptedStates) (hnone : ∀ p ∈ w.db.proposals, p.incidentId ≠ id) :
    Returns (Reliability.process refusing settings (.only (idling incident)) id
      unknownAlert.toNormalizedAlert) w fun _ w' ↦ Stands incident id .blocked w' := by
  have hlatest : w.db.proposals.latest (·.incidentId = id) = none := by
    rw [Table.latest_eq_none]
    intro p hp
    exact decide_eq_false (hnone p hp)
  apply returns_bind (reaches_query quiet_refusing _ _)
  intro _
  rw [hlatest]
  apply (returns_gather settings (by exact h) haccepted).bind
  rintro snapshot w' ⟨hle, hclassified⟩
  apply (returns_loadIncident hclassified).bind
  rintro row w' ⟨-, htype, henvironment, hclassified⟩
  have happlies : (idling incident).applies row.incidentType
      (Reliability.alertConditions unknownAlert.alertName) row.environment = true := by
    have hconditions : Reliability.alertConditions unknownAlert.alertName =
        ["prometheus_alert"] := by decide
    rw [hconditions, htype, henvironment]
    simp [RunbookDocument.applies, idling]
  simp only [RunbookLoader.matching_only happlies]
  apply (returns_propose settings hclassified snapshot (idling incident)).bind
  rintro p w' ⟨rfl, hevaluation⟩
  apply (returns_authorise hevaluation p hle).bind
  rintro policy w' ⟨hdenied, hrequires, hevaluation⟩
  rw [if_pos (by simp [hdenied])]
  exact returns_hold settings hevaluation p hrequires

end Acting

/-- The deterministic run that advice keeps from happening. -/
private theorem outcome_refusing {rows : Database} {job : AlertJob} {incident : Incident}
    (hincident : rows.incidents[job.incidentId]? = some incident)
    (haccepted : incident.state ∈ acceptedStates)
    (hnone : ∀ p ∈ rows.proposals, p.incidentId ≠ job.incidentId) (settings : Settings)
    (cluster : Cluster) (halert : job.alert = unknownAlert) :
    (outcome refusing settings (.only (idling incident)) job cluster rows).state =
      some .blocked := by
  have hreturns : Returns (processAlertJob refusing settings (.only (idling incident)) job)
      (start rows cluster) fun _ w ↦
        w.committed.incidents[job.incidentId]?.map (·.state) = some .blocked := by
    apply returns_bind (reaches_query quiet_refusing _ _)
    intro _
    simp only [start, hincident, halert]
    apply (returns_process settings ⟨incident, hincident, rfl, rfl, rfl⟩ haccepted hnone).bind
    rintro result w ⟨row, hrow, hstate, -, -⟩
    apply returns_bind (reaches_commit quiet_refusing w)
    intro _
    apply (reaches_pure _ _).returns
    intro _
    simp only [hrow, Option.map_some, hstate]
  exact hreturns.state

/-- **Advice and deterministic remediation.** Whatever AI did on an incident, its alerts then
come to what they would have come to without it in every environment, exactly if the incident
was settled before, or no candidate was filed for it. -/
theorem advice_unheard_iff (s : State) (incidentId : Nat) (cluster : Cluster)
    (ops : List Advice) :
    (∀ (env : Env) (settings : Settings) (runbooks : RunbookLoader) (job : AlertJob),
      job.incidentId = incidentId →
      outcome env settings runbooks job cluster (Runs.run (step incidentId cluster) s ops).rows =
        outcome env settings runbooks job cluster s.rows) ↔
      Settled s.rows incidentId ∨
        ∀ p ∈ (Runs.run (step incidentId cluster) s ops).rows.proposals,
          p.incidentId ≠ incidentId := by
  have hadvised := advised_run incidentId cluster s ops
  constructor
  · intro h
    by_contra hnot
    obtain ⟨hunsettled, hfiled⟩ := not_or.mp hnot
    obtain ⟨hnone, incident, hincident, haccepted⟩ :
        (∀ p ∈ s.rows.proposals, p.incidentId ≠ incidentId) ∧
          ∃ incident, s.rows.incidents[incidentId]? = some incident ∧
            incident.state ∈ acceptedStates := by
      unfold Settled at hunsettled
      push Not at hunsettled
      exact hunsettled
    have hsettled : Settled (Runs.run (step incidentId cluster) s ops).rows incidentId := by
      left
      push Not at hfiled
      exact hfiled
    have hsame := congrArg Outcome.state
      (h refusing .standard (.only (idling incident)) ⟨incidentId, unknownAlert, "job"⟩ rfl)
    rw [outcome_settled refusing .standard (.only (idling incident)) cluster hsettled,
      outcome_refusing hincident haccepted hnone .standard cluster rfl, hadvised.incidents,
      hincident] at hsame
    have hblocked : incident.state = .blocked := Option.some.inj hsame
    rw [hblocked] at haccepted
    exact absurd haccepted (by decide)
  · rintro h env settings runbooks job rfl
    exact outcome_advised env settings runbooks cluster hadvised h

/-! ### A filed candidate -/

/-- A diagnosis that suggests deleting the unhealthy pod. -/
private def suggestion : AIDiagnosisRecord := ⟨"AVAILABLE", none, ["DELETE_UNHEALTHY_POD"]⟩

/-- The incident is diagnosed and the suggestion is evaluated before its alert is processed. -/
private def advice : List Advice :=
  [⟨.diagnose suggestion "d1", id, oneUnready⟩,
    ⟨.evaluate none ⟨.deleteUnhealthyPod, 1, none, none, ∅, false, .none, by omega,
      by simp, by simp, by simp, by simp⟩, id, oneUnready⟩]

/-- The rows after the advice. -/
private def advisedRows : Database :=
  (Runs.run (step 0 {}) ⟨Reliability.memoryRows, []⟩ advice).rows

/-- The alert that deletes an unready pod does nothing once the suggestion is filed. -/
theorem advice_silences_remediation :
    (outcome oneUnready .standard memoryPressureLibrary resolvedJob {}
        Reliability.memoryRows).mutations = [.deletePod "cloudward-staging" "demo-a"] ∧
      (outcome oneUnready .standard memoryPressureLibrary resolvedJob {} advisedRows).mutations =
        [] := by
  decide +kernel

end CloudWard.Ai
