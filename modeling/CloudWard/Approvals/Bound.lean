import CloudWard.Ai.Candidates
import CloudWard.Alerts.Jobs
import CloudWard.Approvals.Decisions
import CloudWard.Incidents.Operations
import CloudWard.Reliability.Approval
import CloudWard.Remediation.Approval
import CloudWard.Security.Approval
import CloudWard.Security.Machine

/-!
# Approvals bound to the right proposal

Three flows let an incident wait, operators may set it to wait, and the incident routes
request the approval they decide. Only the flows know a proposal: the transition takes the
newest of the incident and the route the one of its URL. So every approval is for a pending
proposal whose newest decision requires it, and one of a transition for the proposal evaluated
last, in every run where the other two requesters find an approval or a due proposal and no
job asks for the image writer.
-/

namespace CloudWard.Approvals

open CloudWard.Db CloudWard.Incidents CloudWard.Kubernetes CloudWard.Logic CloudWard.Policies
  CloudWard.Remediation CloudWard.Runbooks Service

/-! ### The incident approve and reject routes -/

/-- The approval of a proposal's first version, or a new one, `api/incidents.py:415`. -/
def routeApproval (env : Env) (settings : Settings) (incidentId proposalId : Nat) :
    Service Nat := do
  let approval ← query env fun db ↦ db.approvals.latest fun a ↦
    a.proposalId = proposalId ∧ a.proposalVersion = 1
  match approval with
  | some (id, _) => return id
  | none => do
    ensureRuntimeApproval env settings incidentId proposalId "cloudward"
      (some "Legacy incident approval route")

/-- `_decision`, `api/incidents.py:389`, up to its commit. -/
def routeDecision (env : Env) (settings : Settings) (incidentId proposalId : Nat)
    (decision : ApprovalDecision) (principal : Principal) (comment : Option String) :
    Service Unit := do
  let incident ← query env (·.incidents[incidentId]?)
  match incident with
  | none => raise ⟨"INCIDENT_NOT_FOUND", "Incident was not found", 404⟩
  | some incident => do
    let proposal ← query env fun db ↦ db.proposals[proposalId]?.filter (·.incidentId = incidentId)
    match proposal with
    | none => raise ⟨"ACTION_PROPOSAL_NOT_FOUND", "Action proposal was not found", 404⟩
    | some _ => do
      require (incident.state = .awaitingApproval)
        ⟨"INCIDENT_NOT_AWAITING_APPROVAL", "Incident is not awaiting approval", 409⟩
      let approvalId ← routeApproval env settings incidentId proposalId
      decide env settings approvalId decision principal comment

/-! ### Everything that creates proposals, moves incidents or decides -/

/-- What happens next. -/
inductive Call
  | pipeline (runbooks : RunbookLoader) (target : Pipeline.UnhealthyPodTarget)
      (correlationId actor : String)
  | job (runbooks : RunbookLoader) (job : Alerts.AlertJob)
  | ingest (delivery : Security.Delivery)
  | candidate (redact : String → String) (diagnoses : Table Ai.StoredDiagnosis)
      (service : Option Ai.InventoryService) (incidentId : Nat)
      (request : Ai.AIActionEvaluationRequest)
  | incident (call : Incidents.Call)
  | route (incidentId proposalId : Nat) (decision : ApprovalDecision) (principal : Principal)
      (comment : Option String)

/-- A call with the settings and the environment it meets. -/
structure Operation where
  call : Call
  settings : Settings
  env : Env

/-- The program of a call. -/
def Operation.program (op : Operation) : Service Unit :=
  match op.call with
  | .pipeline runbooks target correlationId actor => do
    let _ ← Pipeline.run op.env op.settings runbooks target correlationId actor
  | .job runbooks job => do
    let _ ← Alerts.processAlertJob op.env op.settings runbooks job
  | .ingest delivery => Security.ingestSecurityEvent op.env op.settings delivery
  | .candidate redact diagnoses service incidentId request =>
    transaction op.env
      (Ai.evaluateAiActionCandidate op.env redact diagnoses service incidentId request)
  | .incident call => transaction op.env (Incidents.Operation.program ⟨call, op.settings, op.env⟩)
  | .route incidentId proposalId decision principal comment =>
    transaction op.env
      (routeDecision op.env op.settings incidentId proposalId decision principal comment)

/-- Who requests an approval. -/
inductive Requester
  | transition
  | route
deriving DecidableEq

/-- The requester of the approvals of a call. -/
def Call.requester : Call → Requester
  | .route .. => .route
  | _ => .transition

/-- The committed rows, the cluster and every request made so far, also those whose session was
not committed. -/
structure State where
  rows : Database := {}
  cluster : Cluster := {}
  requests : List (Requester × ApprovalRequest) := []

/-- The world in which an operation ends. -/
def State.after (s : State) (op : Operation) : World :=
  (op.program.run (start s.rows s.cluster)).2

/-- One operation. -/
def step (s : State) (op : Operation) : State :=
  let w := s.after op
  ⟨w.committed, w.cluster, w.approvalRequests.map (op.call.requester, ·) ++ s.requests⟩

/-- The request is for a pending proposal whose newest decision requires an approval; one of a
transition is for the proposal that was evaluated last. -/
structure Bound (requester : Requester) (r : ApprovalRequest) : Prop where
  due : Due r
  evaluated : requester = .transition → ∃ decision, OfEvaluated r decision

/-! ### When an operation requests rightly -/

/-- The incident's newest proposal has its first approval, if a transition of the incident to
AWAITING_APPROVAL gets to it. -/
def Requested (rows : Database) (incidentId : Nat) (force : Bool) : Prop :=
  ∀ incident proposalId proposal, rows.incidents[incidentId]? = some incident →
    incident.state ≠ .awaitingApproval →
    (force ∨ .awaitingApproval ∈ allowedTransitions incident.state) →
    rows.proposals.latest (·.incidentId = incidentId) = some (proposalId, proposal) →
    rows.approvals.latest (fun a ↦ a.proposalId = proposalId ∧ a.proposalVersion = 1) ≠ none

/-- Editing other columns of incidents changes nothing of that. -/
theorem Requested.edited {rows : Database} {incidentId : Nat} {force : Bool}
    (h : Requested rows incidentId force) (update : Operators.IncidentUpdate) :
    Requested { rows with
      incidents := rows.incidents.update incidentId (Operators.edited update) }
      incidentId force := by
  intro incident proposalId proposal hincident hstate hallowed hnewest
  simp only [Table.getElem?_update_self, Option.map_eq_some_iff] at hincident
  obtain ⟨before, hbefore, rfl⟩ := hincident
  exact h before proposalId proposal hbefore hstate hallowed hnewest

/-- The route finds the first approval of its proposal, or the proposal is pending and its
newest decision requires one, or it gets to neither. -/
def RouteDue (rows : Database) (incidentId proposalId : Nat) : Prop :=
  ∀ incident proposal, rows.incidents[incidentId]? = some incident →
    incident.state = .awaitingApproval →
    rows.proposals[proposalId]? = some proposal → proposal.incidentId = incidentId →
    rows.approvals.latest (fun a ↦ a.proposalId = proposalId ∧ a.proposalVersion = 1) = none →
    proposal.status = .pending ∧ ∃ entry,
      rows.policyDecisions.latest (·.proposalId = proposalId) = some entry ∧
        entry.2.requiresApproval

/-- No job asks for an approval because the image writer is disabled: it is enabled, no runbook
for the alert reverts an image, or OPA allows no revert outright. -/
def NeedsNoWriter (env : Env) (settings : Settings) (runbooks : RunbookLoader)
    (job : Alerts.AlertJob) : Prop :=
  settings.localGitopsWriteEnabled ∨
    ¬ Reliability.MayRevert runbooks job.alert.toNormalizedAlert ∨
    ∀ w input, input.action = .revertImage → (env.opa w input).allowed →
      (env.opa w input).requiresApproval

/-- The operation requests no approval that nobody evaluated. -/
def Proper (s : State) (op : Operation) : Prop :=
  match op.call with
  | .job runbooks job => NeedsNoWriter op.env op.settings runbooks job
  | .incident (.change incidentId .awaitingApproval _ _ force) => Requested s.rows incidentId force
  | .incident (.update incidentId update _) =>
    update.state = some .awaitingApproval → Requested s.rows incidentId true
  | .route incidentId proposalId .. => RouteDue s.rows incidentId proposalId
  | _ => True

/-! ### The requests of each operation -/

section Requests

variable (env : Env) (settings : Settings)

/-- A session on these rows that has evaluated and requested nothing. -/
private def Session (db : Database) (w : World) : Prop :=
  w.db = db ∧ w.trace = [] ∧ w.approvalRequests = []

private theorem session_of_frames {α : Type} {x : Service α} {db : Database}
    (hx : Exec.Frames (fun w ↦ (w.db, w.trace, w.approvalRequests)) x) :
    Exec.Triple (Session db) x (fun _ ↦ Session db) fun _ w ↦ w.approvalRequests = [] :=
  (hx.keeps fun v ↦ v.1 = db ∧ v.2.1 = [] ∧ v.2.2 = []).mono (fun _ h ↦ h) (fun _ _ h ↦ h)
    fun _ _ h ↦ h.2.2

/-- A session that requests nothing. -/
private theorem nothing_of_frames {α : Type} {x : Service α} {db : Database}
    (hx : Exec.Frames World.approvalRequests x) :
    Exec.Triple (Session db) x (fun _ w ↦ w.approvalRequests = [])
      fun _ w ↦ w.approvalRequests = [] :=
  (hx.keeps (· = [])).mono (fun _ h ↦ h.2.2) (fun _ _ h ↦ h) fun _ _ h ↦ h

private theorem frames_requests_change (incidentId : Nat) {target : IncidentState}
    (actor : String) (details : Details) (force : Bool) (h : target ≠ .awaitingApproval) :
    Exec.Frames World.approvalRequests
      (changeIncidentState env settings incidentId target actor details force) :=
  frames_changeIncidentState (fun _ _ ↦ rfl) env settings incidentId target actor details force
    (fun _ _ ↦ rfl) (fun _ _ _ ↦ rfl) fun ht ↦ absurd ht h

/-- A transition that finds its approval requests nothing. -/
private theorem nothing_change {db : Database} (incidentId : Nat) (target : IncidentState)
    (actor : String) (details : Details) (force : Bool)
    (h : target = .awaitingApproval → Requested db incidentId force) :
    Exec.Triple (Session db)
      (changeIncidentState env settings incidentId target actor details force)
      (fun _ w ↦ w.approvalRequests = []) fun _ w ↦ w.approvalRequests = [] := by
  by_cases htarget : target = .awaitingApproval
  · subst htarget
    have hnone : ∀ w, Awaited env settings incidentId actor force db [] [] w →
        w.approvalRequests = [] := by
      intro w hw
      rcases hw.cases with ⟨-, hrs⟩ | ⟨proposalId, proposal, incident, now, reason, now', row,
        hnewest, hmissing, hincident, hstate, hallowed, -⟩
      · exact hrs
      · exact absurd hmissing
          (h rfl incident proposalId proposal hincident hstate hallowed hnewest)
    exact (triple_awaitApproval env settings incidentId actor details force).mono
      (fun _ h ↦ h) (fun _ w hw ↦ hnone w hw) fun _ w hw ↦ hnone w hw
  · exact nothing_of_frames
      (frames_requests_change env settings incidentId actor details force htarget)

/-- An operator's transaction that finds its approval requests nothing. -/
private theorem nothing_incident {db : Database} {cluster : Cluster} (call : Incidents.Call)
    {requests : List (Requester × ApprovalRequest)}
    (h : Proper ⟨db, cluster, requests⟩ ⟨.incident call, settings, env⟩) :
    Exec.Triple (Session db)
      (Incidents.Operation.program ⟨call, settings, env⟩)
      (fun _ w ↦ w.approvalRequests = []) fun _ w ↦ w.approvalRequests = [] := by
  cases call with
  | create row actor =>
    apply nothing_of_frames
    apply Exec.frames_bind
    · exact frames_createIncident (fun _ _ ↦ rfl) env row actor (fun _ ↦ rfl) fun _ _ ↦ rfl
    exact fun _ ↦ Exec.frames_pure _
  | change incidentId target actor details force =>
    apply nothing_change
    rintro rfl
    exact h
  | resolve incidentId actor reason source =>
    apply nothing_of_frames
    apply Exec.frames_bind (frames_loadIncident _)
    intro incident
    apply Exec.frames_when
    intro _
    apply Exec.frames_bind (frames_ask _ fun _ _ ↦ rfl)
    intro now
    apply Exec.frames_bind
    · exact Exec.frames_update fun _ ↦ rfl
    intro _
    exact frames_requests_change env settings _ _ _ _ (by decide)
  | update incidentId update actor =>
    apply Exec.Triple.bind (Q := fun _ ↦ Session db)
    · exact (session_of_frames (frames_loadIncident incidentId)).mono (fun _ h ↦ h)
        (fun _ _ h ↦ h) fun _ _ h ↦ h
    intro incident
    apply Exec.Triple.bind (Q := fun _ ↦ Session { db with
      incidents := db.incidents.update incidentId (Operators.edited update) })
    · apply triple_write
      rintro w ⟨rfl, htrace, hrequests⟩
      exact ⟨rfl, htrace, hrequests⟩
    intro _
    have hkeeps {x : Service Unit} (hx : Exec.Frames World.approvalRequests x) :
        Exec.Keeps (fun w ↦ w.approvalRequests = []) x := hx.keeps (· = [])
    apply Exec.Triple.bind (Q := fun _ w ↦ w.approvalRequests = [])
    · cases hstate : update.state with
      | none => exact Exec.Triple.pure fun _ h ↦ h.2.2
      | some target =>
        apply Exec.Triple.when
        · intro _
          apply nothing_change
          rintro rfl
          exact (h hstate).edited update
        · exact fun _ _ h ↦ h.2.2
    intro _
    apply Exec.Triple.bind (Q := fun _ w ↦ w.approvalRequests = [])
    · apply Exec.keeps_when
      intro _
      apply hkeeps
      exact Exec.frames_bind (Exec.frames_update fun _ ↦ rfl) fun _ ↦
        frames_flush env fun _ _ ↦ rfl
    · exact fun _ ↦ hkeeps (frames_flush env fun _ _ ↦ rfl)

/-- The route requests an approval only of a due proposal. -/
private theorem due_route {db : Database} {incidentId proposalId : Nat}
    (h : RouteDue db incidentId proposalId) (decision : ApprovalDecision) (principal : Principal)
    (comment : Option String) :
    Exec.Triple (Session db)
      (routeDecision env settings incidentId proposalId decision principal comment)
      (fun _ w ↦ ∀ r ∈ w.approvalRequests, Due r) fun _ w ↦ ∀ r ∈ w.approvalRequests, Due r := by
  have hnone : ∀ w : World, w.approvalRequests = [] → ∀ r ∈ w.approvalRequests, Due r := by
    intro w hw r hr
    rw [hw] at hr
    exact absurd hr List.not_mem_nil
  have hquery {α : Type} (f : Database → α) :
      Exec.Triple (Session db) (query env f) (fun a w ↦ Session db w ∧ a = f db)
        fun _ w ↦ ∀ r ∈ w.approvalRequests, Due r := by
    apply Exec.Triple.bind ((session_of_frames (frames_flush env fun _ _ ↦ rfl)).mono
      (fun _ h ↦ h) (fun _ _ h ↦ h) fun _ w hw ↦ hnone w hw)
    intro _
    apply Exec.Triple.read
    rintro w ⟨rfl, hrest⟩
    exact ⟨⟨rfl, hrest⟩, rfl⟩
  apply Exec.Triple.bind (hquery _)
  intro row
  apply Exec.Triple.assume
  intro hrow
  cases row with
  | none => exact Exec.Triple.throw fun w hw ↦ hnone w hw.2.2
  | some incident =>
    apply Exec.Triple.bind (hquery _)
    intro found
    apply Exec.Triple.assume
    intro hfound
    cases found with
    | none => exact Exec.Triple.throw fun w hw ↦ hnone w hw.2.2
    | some proposal =>
      apply Exec.Triple.bind (Q := fun _ w ↦ Session db w ∧ incident.state = .awaitingApproval)
      · exact Exec.Triple.require (fun h _ hw ↦ ⟨hw, h⟩) fun _ w hw ↦ hnone w hw.2.2
      intro _
      apply Exec.Triple.assume
      intro hstate
      have hproposal : db.proposals[proposalId]? = some proposal ∧
          proposal.incidentId = incidentId := by
        have hfilter := hfound.symm
        rw [Option.filter_eq_some_iff] at hfilter
        exact ⟨hfilter.1, by simpa using hfilter.2⟩
      apply Exec.Triple.bind (Q := fun _ w ↦ ∀ r ∈ w.approvalRequests, Due r)
      · apply Exec.Triple.bind (hquery _)
        intro existing
        apply Exec.Triple.assume
        intro hexisting
        cases existing with
        | some entry => exact Exec.Triple.pure fun w hw ↦ hnone w hw.2.2
        | none =>
          have hdue : ∀ w, Ensured env settings incidentId proposalId "cloudward"
              (some "Legacy incident approval route") db [] [] w →
              ∀ r ∈ w.approvalRequests, Due r := by
            rintro w (⟨-, hrs⟩ | ⟨_, _, now, row, -, -, -, rfl, -, hrs⟩)
            · exact hnone w hrs
            · intro r hr
              rw [hrs, List.mem_singleton] at hr
              subst hr
              obtain ⟨hpending, entry, hnewest, hrequires⟩ := h incident proposal hrow.symm hstate
                hproposal.1 hproposal.2 hexisting.symm
              exact ⟨proposal, entry, hproposal.1, hpending, hnewest, hrequires⟩
          exact (triple_ensureRuntimeApproval env settings incidentId "cloudward" proposalId
            _).mono (fun _ h ↦ h) (fun _ ↦ hdue) fun _ ↦ hdue
      intro approvalId
      have hframes : Exec.Frames World.approvalRequests
          (decide env settings approvalId decision principal comment) :=
        frames_decide (fun _ _ ↦ rfl) (fun _ _ ↦ rfl) (fun _ _ ↦ rfl) (fun _ _ ↦ rfl) env settings
          approvalId decision principal comment
      exact hframes.keeps fun rs ↦ ∀ r ∈ rs, Due r

end Requests

/-- What a job leaves: requests made after its evaluation, and no new approval or one that
waits among the committed rows. -/
theorem triple_processAlertJob (env : Env) (settings : Settings) (runbooks : RunbookLoader)
    (job : Alerts.AlertJob) {v : Papers} :
    Exec.Triple (fun w ↦ papers w = v) (Alerts.processAlertJob env settings runbooks job)
      (fun _ w ↦ RequestsFrom env (Reliability.Asking settings
          (Reliability.MayRevert runbooks job.alert.toNormalizedAlert)) v.requests w ∧
        (w.committed.approvals.length = v.approvals.length ∨ ∃ p : Reliability.Proposal,
          Reliability.SnapshotOf env p.snapshot ∧
            Reliability.LeavesWaiting env job.incidentId v p w.committed))
      fun _ ↦ RequestsFrom env (Reliability.Asking settings
        (Reliability.MayRevert runbooks job.alert.toNormalizedAlert)) v.requests := by
  have hquery : Exec.Triple (fun w ↦ papers w = v) (query env (·.incidents[job.incidentId]?))
      (fun _ w ↦ papers w = v) fun _ ↦ RequestsFrom env (Reliability.Asking settings
        (Reliability.MayRevert runbooks job.alert.toNormalizedAlert)) v.requests :=
    (keeps_papers (frames_query env _ fun _ _ ↦ rfl)).mono (fun _ h ↦ h) (fun _ _ h ↦ h)
      fun _ _ h ↦ .of_eq h
  apply Exec.Triple.bind hquery
  intro incident
  cases incident with
  | none => exact Exec.Triple.throw fun _ hw ↦ .of_eq (congrArg Papers.requests hw)
  | some incident =>
    apply Exec.Triple.bind (Reliability.triple_process env settings runbooks job.incidentId
      job.alert.toNormalizedAlert)
    intro result
    have hframes : Exec.Frames (fun w ↦ (w.db, w.approvalRequests)) (flush env) :=
      frames_flush env fun _ _ ↦ rfl
    apply Exec.Triple.bind
    · apply Exec.Triple.bind
      · apply (hframes.keeps fun o ↦ RequestsFrom env (Reliability.Asking settings
          (Reliability.MayRevert runbooks job.alert.toNormalizedAlert)) v.requests
            { start {} with approvalRequests := o.2 } ∧
          (o.1.approvals.length = v.approvals.length ∨ ∃ p : Reliability.Proposal,
            Reliability.SnapshotOf env p.snapshot ∧
              Reliability.LeavesWaiting env job.incidentId v p o.1)).mono
        · exact fun _ h ↦ h
        · exact fun _ _ h ↦ h
        · exact fun _ _ h ↦ h.1
      intro _
      exact Exec.Triple.update (Q := fun _ w ↦ RequestsFrom env (Reliability.Asking settings
          (Reliability.MayRevert runbooks job.alert.toNormalizedAlert)) v.requests w ∧
        (w.committed.approvals.length = v.approvals.length ∨ ∃ p : Reliability.Proposal,
          Reliability.SnapshotOf env p.snapshot ∧
            Reliability.LeavesWaiting env job.incidentId v p w.committed)) fun _ h ↦ h
    · exact fun _ ↦ Exec.Triple.pure fun _ h ↦ h

/-! ### Every run -/

/-- Requests after evaluations that required an approval are bound. -/
private theorem bound_of_requests {env : Env} {C : PolicyDecision → Prop} {w : World}
    (h : RequestsFrom env C [] w)
    (hC : ∀ decision, Answered env decision → C decision → decision.requiresApproval) :
    ∀ r ∈ w.approvalRequests, Bound .transition r := by
  intro r hr
  rcases h r hr with hold | ⟨decision, hof, hanswered, hdecision⟩
  · exact absurd hold List.not_mem_nil
  · exact ⟨hof.due (hC decision hanswered hdecision), fun _ ↦ ⟨decision, hof⟩⟩

/-- A job that needs no writer asks only where its evaluation required an approval. -/
private theorem requires_of_asking {env : Env} {settings : Settings} {runbooks : RunbookLoader}
    {job : Alerts.AlertJob} (h : NeedsNoWriter env settings runbooks job)
    {decision : PolicyDecision} (hanswered : Answered env decision)
    (hasking : Reliability.Asking settings
      (Reliability.MayRevert runbooks job.alert.toNormalizedAlert) decision) :
    decision.requiresApproval := by
  rcases hasking with hrequires | ⟨hmay, hwriter, haction, hallowed⟩
  · exact hrequires
  obtain ⟨w, hsame, hrequires⟩ := hanswered
  rcases h with henabled | hnone | hpolicy
  · exact absurd henabled hwriter
  · exact absurd hmay hnone
  · rw [← hrequires]
    exact hpolicy w decision.input haction (by rw [hsame]; exact hallowed)

/-- A commit requests nothing. -/
private theorem frames_requests_commit (env : Env) :
    Exec.Frames World.approvalRequests (commit env) :=
  Exec.frames_bind (frames_flush env fun _ _ ↦ rfl) fun _ _ ↦ rfl

/-- A transaction requests what its program requests. -/
private theorem triple_transaction {env : Env} {x : Service Unit} {db : Database}
    {p : List ApprovalRequest → Prop}
    (hx : Exec.Triple (Session db) x (fun _ w ↦ p w.approvalRequests)
      fun _ w ↦ p w.approvalRequests) :
    Exec.Triple (Session db) (transaction env x) (fun _ w ↦ p w.approvalRequests)
      fun _ w ↦ p w.approvalRequests :=
  Exec.Triple.bind hx fun _ ↦ (frames_requests_commit env).keeps p

/-- One proper operation requests rightly. -/
private theorem bound_after {s : State} {op : Operation} (h : Proper s op) :
    ∀ r ∈ (s.after op).approvalRequests, Bound op.call.requester r := by
  obtain ⟨call, settings, env⟩ := op
  have hsession : Session s.rows (start s.rows s.cluster) := ⟨rfl, rfl, rfl⟩
  -- a program that requests nothing
  have hnothing {x : Service Unit} {requester : Requester}
      (hx : Exec.Triple (Session s.rows) x (fun _ w ↦ w.approvalRequests = [])
        fun _ w ↦ w.approvalRequests = []) :
      ∀ r ∈ (x.run (start s.rows s.cluster)).2.approvalRequests, Bound requester r := by
    have hnil := hx.state hsession
    intro r hr
    rw [hnil] at hr
    exact absurd hr List.not_mem_nil
  -- a program whose result is dropped
  have hdrop {α : Type} {x : Service α} {P I : World → Prop}
      (hx : Exec.Triple P x (fun _ ↦ I) fun _ ↦ I) :
      Exec.Triple P (do let _ ← x) (fun _ ↦ I) fun _ ↦ I :=
    Exec.Triple.bind hx fun _ ↦ Exec.Triple.pure fun _ h ↦ h
  cases call with
  | pipeline runbooks target correlationId actor =>
    have hsteady : Pipeline.Steady (papers (start s.rows s.cluster)) (start s.rows s.cluster) :=
      ⟨rfl, rfl⟩
    have hrun : Exec.Triple (Pipeline.Steady (papers (start s.rows s.cluster)))
        (Pipeline.run env settings runbooks target correlationId actor)
        (fun _ ↦ RequestsFrom env Pipeline.Asking []) fun _ ↦
          RequestsFrom env Pipeline.Asking [] :=
      (Pipeline.triple_run env settings runbooks target correlationId actor).mono (fun _ h ↦ h)
        (fun _ _ h ↦ h.requests) fun _ _ h ↦ h.requests
    exact bound_of_requests ((hdrop hrun).state hsteady) fun _ _ hasking ↦ hasking
  | job runbooks job =>
    have hrun := (triple_processAlertJob env settings runbooks job (v := papers
      (start s.rows s.cluster))).mono (fun _ h ↦ h) (fun _ _ h ↦ h.1) fun _ _ h ↦ h
    exact bound_of_requests ((hdrop hrun).state rfl) fun _ ↦ requires_of_asking h
  | ingest delivery =>
    have hrun := (Security.leaves_ingestSecurityEvent env settings delivery (v := papers
      (start s.rows s.cluster))).mono (fun _ h ↦ h) (fun _ _ h ↦ h.1) fun _ _ h ↦ h
    exact bound_of_requests (hrun.state rfl) fun _ _ hasking ↦ hasking
  | candidate redact diagnoses service incidentId request =>
    apply hnothing
    apply triple_transaction (p := (· = []))
    apply nothing_of_frames
    exact Ai.frames_evaluateAiActionCandidate (fun _ _ ↦ rfl) (fun _ _ ↦ rfl) (fun _ _ ↦ rfl) env
      redact diagnoses service incidentId request
  | incident call =>
    exact hnothing (triple_transaction (p := (· = [])) (nothing_incident env settings call h))
  | route incidentId proposalId decision principal comment =>
    have hdue : ∀ r ∈ (s.after ⟨.route incidentId proposalId decision principal comment, settings,
        env⟩).approvalRequests, Due r :=
      (triple_transaction (p := fun rs ↦ ∀ r ∈ rs, Due r)
        (due_route env settings h decision principal comment)).state hsession
    exact fun r hr ↦ ⟨hdue r hr, fun hroute ↦ nomatch hroute⟩

/-- **Approvals bound to the right proposal.** From any rows on, in every run whose operations
are proper, every approval ever requested was for a pending proposal whose newest decision
required an approval, and one requested by a transition for the proposal that the same
session had evaluated last. -/
theorem requests_bound (rows : Database) (cluster : Cluster) (ops : List Operation)
    (h : Runs.Along step Proper ⟨rows, cluster, []⟩ ops) :
    ∀ request ∈ (Runs.run step ⟨rows, cluster, []⟩ ops).requests, Bound request.1 request.2 := by
  apply Runs.invariant_along (I := fun s : State ↦
    ∀ request ∈ s.requests, Bound request.1 request.2) _ _ h
  · intro s op hs hproper request hmem
    rcases List.mem_append.mp hmem with hnew | hold
    · obtain ⟨r, hr, rfl⟩ := List.mem_map.mp hnew
      exact bound_after hproper r hr
    · exact hs request hold
  · exact fun request hmem ↦ absurd hmem List.not_mem_nil

/-- An environment whose policy asks for an approval of everything. -/
private def demanding : Env :=
  { calm with
    opa := fun _ _ ↦
      { allowed := false
        requiresApproval := true
        reason := "a person has to look at this"
        reason_length := by decide } }

/-- An operator's PATCH that sets the incident to wait. -/
private def patched (env : Env) : Operation :=
  ⟨.incident (.update 0 { state := some .awaitingApproval } "operator"), .standard, env⟩

/-- An event is ingested and waits, a PATCH finds it waiting, and the route rejects it. -/
private def waitingRun : List Operation :=
  [⟨.ingest Security.delivery, .standard, demanding⟩, patched demanding,
    ⟨.route 0 0 .rejected ⟨"operator", .operator, none⟩ none, .standard, demanding⟩]

theorem requests_bound_ingested :
    (Runs.run step ⟨{}, {}, []⟩ waitingRun).requests.length = 1 ∧
      ∀ request ∈ (Runs.run step ⟨{}, {}, []⟩ waitingRun).requests,
        Bound request.1 request.2 := by
  refine ⟨by decide +kernel, requests_bound {} {} waitingRun ⟨trivial, ?_, ?_, trivial⟩⟩
  · intro update incident proposalId proposal hincident hstate
    have hwaits : (step ⟨{}, {}, []⟩
        ⟨.ingest Security.delivery, .standard, demanding⟩).rows.incidents[0]?.map (·.state) =
          some .awaitingApproval := by
      decide +kernel
    rw [hincident] at hwaits
    exact absurd (Option.some.inj hwaits) hstate
  · intro incident proposal _ _ _ _ hmissing
    have hfound : ((Runs.run step ⟨{}, {}, []⟩ (waitingRun.take 2)).rows.approvals.latest fun a ↦
        a.proposalId = 0 ∧ a.proposalVersion = 1).isSome := by
      decide +kernel
    have hnone : ((Runs.run step ⟨{}, {}, []⟩ (waitingRun.take 2)).rows.approvals.latest fun a ↦
        a.proposalId = 0 ∧ a.proposalVersion = 1) = none := hmissing
    rw [hnone] at hfound
    cases hfound

/-- An operator sets an incident to wait whose quarantine was allowed outright: the PATCH
requests an approval that no policy decision requires. -/
theorem requests_unbound :
    ¬ ∀ (rows : Database) (cluster : Cluster) (ops : List Operation),
      ∀ request ∈ (Runs.run step ⟨rows, cluster, []⟩ ops).requests,
        Bound request.1 request.2 := by
  intro h
  have hdecisions : (Runs.run step ⟨{}, {}, []⟩
      [⟨.ingest Security.delivery, .standard, calm⟩, patched calm]).requests.map (fun request ↦
        (request.2.rows.policyDecisions.latest
          (·.proposalId = request.2.approval.proposalId)).map (·.2.requiresApproval)) =
            [some false] := by
    decide +kernel
  obtain ⟨request, hrequests, hdecision⟩ := List.map_eq_singleton_iff.mp hdecisions
  have hbound := h {} {} [⟨.ingest Security.delivery, .standard, calm⟩, patched calm] request
    (by rw [hrequests]; exact List.mem_singleton_self _)
  obtain ⟨proposal, entry, -, -, hnewest, hrequires⟩ := hbound.due
  rw [hnewest, Option.map_some, Option.some.injEq] at hdecision
  rw [hdecision] at hrequires
  cases hrequires

end CloudWard.Approvals
