import CloudWard.Ai.ActionBoundary
import CloudWard.Incidents.Service
import CloudWard.Logic.Runs

/-!
# Results of AI action candidates

The half of `ai/action_boundary.py` that files results, and the diagnoses it reads. A
candidate that reaches OPA leaves a proposal and its decision, under the gate's own name;
one that was filed before is not filed again. A diagnosis is whatever the model made of the
incident. The proposal's parameters are modelled less the evidence references and the
target, which no modelled service reads, and `redact` is `redact_untrusted` on a text.
-/

namespace CloudWard.Ai

open CloudWard.Approvals CloudWard.Db CloudWard.Incidents CloudWard.Kubernetes
  CloudWard.Logic CloudWard.Policies CloudWard.Remediation Service

/-- A row of `ai_diagnoses`, `ai/models.py:14`; `uuid` is its id as a text. -/
structure StoredDiagnosis extends AIDiagnosisRecord where
  incidentId : Nat
  uuid : String

/-- The `proposed_by` of the gate, `ai/action_boundary.py:152`. -/
def aiAdvisory : String := "cloudward-ai-advisory"

/-- `parameters`, `ai/action_boundary.py:124`. -/
def candidateParameters (redact : String → String) (diagnosis : StoredDiagnosis) : Parameters :=
  [("source", .str (redact "ai_advisory")), ("diagnosis_id", .str (redact diagnosis.uuid))]

/-- `_existing_gate_result`, `ai/action_boundary.py:194`: the newest of the last 20 proposals
of this diagnosis and action that has a decision. -/
def existingGateResult (db : Database) (incidentId : Nat) (diagnosis : StoredDiagnosis)
    (action : ActionType) : Option Nat :=
  let proposals := (db.proposals.zipIdx.reverse.filter fun (p, _) ↦
    p.incidentId = incidentId ∧ p.actionType = action ∧ p.proposedBy = aiAdvisory).take 20
  (proposals.find? fun (p, id) ↦
    param p.parameters "diagnosis_id" = some (.str diagnosis.uuid) ∧
      db.policyDecisions.any (·.proposalId = id)).map (·.2)

/-- The proposal of a candidate, `ai/action_boundary.py:139`. -/
def candidateProposal (redact : String → String) (incidentId : Nat) (diagnosis : StoredDiagnosis)
    (input : PolicyInput) (policy : PolicyResult) : ActionProposal where
  incidentId := incidentId
  actionType := input.action
  parameters := candidateParameters redact diagnosis
  status := if policy.allowed ∨ policy.requiresApproval then .pending else .rejected
  riskScore := input.riskScore
  riskCalculation := { factors := some input.riskFactors }
  proposedBy := aiAdvisory
  riskScore_le := input.riskScore_le

/-- The half of `evaluate_ai_action_candidate` that calls OPA and files the result,
`ai/action_boundary.py:123`. -/
def fileCandidate (env : Env) (redact : String → String) (incidentId : Nat)
    (diagnosis : StoredDiagnosis) (input : PolicyInput) : Service Unit := do
  let policy ← evaluate env input
  let proposalId ← insertProposal (candidateProposal redact incidentId diagnosis input policy)
  flush env
  insertPolicyDecision
    { incidentId
      proposalId
      allowed := policy.allowed
      requiresApproval := policy.requiresApproval
      reason := policy.reason
      input }
  -- the audit row's flush, the stream row's and the last one
  flush env
  flush env
  flush env

/-- `evaluate_ai_action_candidate`, `ai/action_boundary.py:41`, on the diagnoses of its
session and the inventory row of the incident's service. -/
def evaluateAiActionCandidate (env : Env) (redact : String → String)
    (diagnoses : Table StoredDiagnosis) (service : Option InventoryService) (incidentId : Nat)
    (request : AIActionEvaluationRequest) : Service Unit := do
  let incident ← loadIncident incidentId
  let latest ← query env fun _ ↦ (diagnoses.latest (·.incidentId = incidentId)).map (·.2)
  let input ← Exec.ofExcept <| candidateInput (latest.map (·.toAIDiagnosisRecord))
    incident.environment service request
  match latest with
  | none => pure ()
  | some diagnosis =>
    let existing ← query env (existingGateResult · incidentId diagnosis request.action)
    match existing with
    | some _ => pure ()
    | none => do
      flush env
      fileCandidate env redact incidentId diagnosis input

/-! ### What a candidate changes -/

/-- Rows after advice on an incident: proposals and decisions were added, the proposals
under the gate's name and for that incident; without a proposal nothing was. -/
structure Advised (incidentId : Nat) (before after : Database) : Prop where
  incidents : after.incidents = before.incidents
  proposals : ∃ filed, after.proposals = before.proposals ++ filed ∧
    (∀ p ∈ filed, p.incidentId = incidentId ∧ p.proposedBy = aiAdvisory) ∧
    (filed = [] → after = before)

theorem Advised.refl (incidentId : Nat) (db : Database) : Advised incidentId db db :=
  ⟨rfl, [], (List.append_nil _).symm, fun _ h ↦ absurd h List.not_mem_nil, fun _ ↦ rfl⟩

theorem Advised.trans {incidentId : Nat} {before during after : Database}
    (h : Advised incidentId before during) (h' : Advised incidentId during after) :
    Advised incidentId before after := by
  obtain ⟨filed, hfiled, hall, hnone⟩ := h.proposals
  obtain ⟨filed', hfiled', hall', hnone'⟩ := h'.proposals
  refine ⟨h'.incidents.trans h.incidents, filed ++ filed', ?_, ?_, ?_⟩
  · rw [hfiled', hfiled, List.append_assoc]
  · intro p hp
    rcases List.mem_append.mp hp with hp | hp
    · exact hall p hp
    · exact hall' p hp
  · intro hempty
    obtain ⟨hleft, hright⟩ := List.append_eq_nil_iff.mp hempty
    rw [hnone' hright, hnone hleft]

/-- Advice leaves the proposals of everyone else alone. -/
theorem Advised.others {incidentId : Nat} {before after : Database}
    (h : Advised incidentId before after) :
    after.proposals.filter (·.proposedBy ≠ aiAdvisory) =
      before.proposals.filter (·.proposedBy ≠ aiAdvisory) := by
  obtain ⟨filed, hfiled, hall, -⟩ := h.proposals
  have hnone : filed.filter (·.proposedBy ≠ aiAdvisory) = [] := by
    rw [List.filter_eq_nil_iff]
    intro p hp
    simp [(hall p hp).2]
  rw [hfiled, List.filter_append, hnone, List.append_nil]

private theorem triple_fileCandidate (env : Env) (redact : String → String) (incidentId : Nat)
    (diagnosis : StoredDiagnosis) (input : PolicyInput) (db : Database) :
    Exec.Triple (fun w ↦ w.db = db) (fileCandidate env redact incidentId diagnosis input)
      (fun _ w ↦ Advised incidentId db w.db) fun _ _ ↦ True := by
  unfold fileCandidate
  apply Exec.Triple.bind (Q := fun _ w ↦ w.db = db)
  · exact (frames_evaluate (f := World.db) env input (fun _ _ ↦ rfl) fun _ _ ↦ rfl).returns
      (· = db)
  intro policy
  have hflush {db : Database} :
      Exec.Triple (fun w ↦ w.db = db) (flush env) (fun _ w ↦ w.db = db) fun _ _ ↦ True :=
    (frames_flush (f := World.db) env fun _ _ ↦ rfl).returns (· = db)
  apply Exec.Triple.bind (Q := fun _ w ↦ w.db = { db with
    proposals :=
      db.proposals.insert (candidateProposal redact incidentId diagnosis input policy) })
  · rintro w rfl
    rfl
  intro proposalId
  apply Exec.Triple.bind hflush
  intro _
  apply Exec.Triple.bind (Q := fun _ w ↦ ∃ decisions, w.db = { db with
    proposals :=
      db.proposals.insert (candidateProposal redact incidentId diagnosis input policy)
    policyDecisions := decisions })
  · apply triple_write
    intro w hw
    rw [hw]
    exact ⟨_, rfl⟩
  rintro _ w ⟨decisions, hw⟩
  revert w
  change Exec.Triple _ _ _ _
  apply Exec.Triple.bind hflush
  intro _
  apply Exec.Triple.bind hflush
  intro _
  apply hflush.mono (fun _ h ↦ h) ?_ fun _ _ h ↦ h
  rintro _ w hw
  rw [hw]
  refine ⟨rfl, [candidateProposal redact incidentId diagnosis input policy], rfl, ?_, ?_⟩
  · intro p hp
    rw [List.mem_singleton.mp hp]
    exact ⟨rfl, rfl⟩
  · exact fun h ↦ absurd h (List.cons_ne_nil _ _)

/-- A candidate that returns has at most filed its own result. -/
theorem triple_evaluateAiActionCandidate (env : Env) (redact : String → String)
    (diagnoses : Table StoredDiagnosis) (service : Option InventoryService) (incidentId : Nat)
    (request : AIActionEvaluationRequest) (db : Database) :
    Exec.Triple (fun w ↦ w.db = db)
      (evaluateAiActionCandidate env redact diagnoses service incidentId request)
      (fun _ w ↦ Advised incidentId db w.db) fun _ _ ↦ True := by
  have hsame : ∀ w : World, w.db = db → Advised incidentId db w.db := by
    rintro w rfl
    exact Advised.refl _ _
  unfold evaluateAiActionCandidate
  apply Exec.Triple.bind (Q := fun _ w ↦ w.db = db)
  · exact (frames_loadIncident (f := World.db) incidentId).returns (· = db)
  intro incident
  apply Exec.Triple.bind (Q := fun _ w ↦ w.db = db)
  · exact (frames_query (f := World.db) env _ fun _ _ ↦ rfl).returns (· = db)
  intro latest
  apply Exec.Triple.bind (Q := fun _ w ↦ w.db = db)
  · exact (Exec.frames_ofExcept (f := World.db) _).returns (· = db)
  intro input
  cases latest with
  | none => exact Exec.Triple.pure hsame
  | some diagnosis =>
    apply Exec.Triple.bind (Q := fun _ w ↦ w.db = db)
    · exact (frames_query (f := World.db) env _ fun _ _ ↦ rfl).returns (· = db)
    intro existing
    cases existing with
    | some id => exact Exec.Triple.pure hsame
    | none =>
      apply Exec.Triple.bind (Q := fun _ w ↦ w.db = db)
      · exact (frames_flush (f := World.db) env fun _ _ ↦ rfl).returns (· = db)
      · exact fun _ ↦ triple_fileCandidate env redact incidentId diagnosis input db

section Frames

variable {ω : Type} {f : World → ω} (htick : ∀ w n, f { w with tick := n } = f w)
variable (hdb : ∀ w d, f { w with db := d } = f w)
variable (htrace : ∀ w t, f { w with trace := t } = f w)
include htick hdb htrace

private theorem frames_fileCandidate (env : Env) (redact : String → String) (incidentId : Nat)
    (diagnosis : StoredDiagnosis) (input : PolicyInput) :
    Exec.Frames f (fileCandidate env redact incidentId diagnosis input) := by
  have hflush : Exec.Frames f (flush env) := frames_flush env htick
  apply Exec.frames_bind (frames_evaluate env _ htick htrace)
  intro policy
  apply Exec.frames_bind
  · exact Exec.frames_bind (Exec.frames_read _) fun _ ↦
      Exec.frames_bind (frames_write _ hdb) fun _ ↦ Exec.frames_pure _
  intro proposalId
  apply Exec.frames_bind hflush
  intro _
  apply Exec.frames_bind (frames_write _ hdb)
  intro _
  exact Exec.frames_bind hflush fun _ ↦ Exec.frames_bind hflush fun _ ↦ hflush

/-- A candidate touches the session's rows alone. -/
theorem frames_evaluateAiActionCandidate (env : Env) (redact : String → String)
    (diagnoses : Table StoredDiagnosis) (service : Option InventoryService) (incidentId : Nat)
    (request : AIActionEvaluationRequest) :
    Exec.Frames f
      (evaluateAiActionCandidate env redact diagnoses service incidentId request) := by
  apply Exec.frames_bind (frames_loadIncident _)
  intro incident
  apply Exec.frames_bind (frames_query env _ htick)
  intro latest
  apply Exec.frames_bind (Exec.frames_ofExcept _)
  intro input
  cases latest with
  | none => exact Exec.frames_pure _
  | some diagnosis =>
    apply Exec.frames_bind (frames_query env _ htick)
    intro existing
    cases existing with
    | some id => exact Exec.frames_pure _
    | none =>
      apply Exec.frames_bind (frames_flush env htick)
      intro _
      exact frames_fileCandidate htick hdb htrace env redact incidentId diagnosis input

end Frames

end CloudWard.Ai
