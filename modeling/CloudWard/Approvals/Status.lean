import CloudWard.Alerts.Jobs
import CloudWard.Approvals.Decisions
import CloudWard.Incidents.Operations

/-!
# What a decision does to a proposal that has moved on

`decide` locks the proposal of an approval and checks that it is still PENDING, as the last
part of `_stale_reason`. The guard protects the incident, which is moved only while it waits,
but the stale and the rejecting branch label the proposal REJECTED whatever it was. So a
proposal that has started or finished keeps its status exactly if the decision raises before
the commit, or it was REJECTED already.
-/

namespace CloudWard.Approvals

open CloudWard.Db CloudWard.Incidents CloudWard.Kubernetes CloudWard.Logic CloudWard.Policies
  CloudWard.Rbac CloudWard.Remediation Service

/-- The status of a proposal, where it exists. -/
def statusOf (db : Database) (proposalId : Nat) : Option RecordStatus :=
  db.proposals[proposalId]?.map (·.status)

/-- A call of `decide`, `approvals/service.py:150`. -/
structure Request where
  settings : Settings
  approvalId : Nat
  decision : ApprovalDecision
  principal : Principal
  comment : Option String

/-- The decision's program. -/
def Request.program (r : Request) (env : Env) : Service Unit :=
  decide env r.settings r.approvalId r.decision r.principal r.comment

/-- The committed rows after the transaction of a decision. -/
def Request.committed (r : Request) (env : Env) (db : Database) : Database :=
  ((transaction env (r.program env)).run (start db)).2.committed

/-- The transition table, the role or the risk score makes the decision raise. -/
def Request.Barred (r : Request) (incident : Incident) (proposal : ActionProposal) : Prop :=
  (r.decision ≠ .approved ∧ r.decision ≠ .rejected) ∨
    (r.decision = .rejected ∧ incident.state ≠ .blocked ∧
      .blocked ∉ allowedTransitions incident.state) ∨
    (r.decision = .approved ∧ ¬ (hasPermission r.principal.role
      (getActionMetadata proposal.actionType).requiredPermission ∧ proposal.riskScore < 70))

/-- The decision raises, or the proposal is REJECTED already. -/
def Request.Spares (r : Request) (approval : Approval) (incident : Incident)
    (proposal : ActionProposal) : Prop :=
  proposal.status = .rejected ∨ approval.decision ≠ .pending ∨ r.Barred incident proposal

/-- A proposal that was refused. -/
private def refused (proposal : ActionProposal) : ActionProposal :=
  { proposal with status := .rejected }

variable {env : Env} {settings : Settings} {approvalId : Nat} {approval : Approval}
variable {incident : Incident} {proposal : ActionProposal} {principal : Principal}

private theorem statusOf_refused {db : Database} {proposals : Table ActionProposal} {id : Nat}
    (hrow : proposals[id]? = some proposal) (hdb : db.proposals = proposals.update id refused) :
    statusOf db id = some .rejected := by
  unfold statusOf
  rw [hdb, Table.getElem?_update_self, hrow]
  rfl

/-! ### What the endings of a decision do to the proposals -/

section Refusals

variable {t : Table ActionProposal} {α : Type}

/-- What leaves the proposals alone. -/
private theorem keeps_proposals {x : Service α}
    (hx : Exec.Frames (fun w : World ↦ w.db.proposals) x) :
    Exec.Triple (fun w ↦ w.db.proposals = t) x (fun _ w ↦ w.db.proposals = t)
      fun _ _ ↦ True :=
  hx.returns (· = t)

private theorem frames_proposals_change (id : Nat) (target : IncidentState) (actor : String) :
    Exec.Frames (fun w : World ↦ w.db.proposals)
      (changeIncidentState env settings id target actor) :=
  frames_changeIncidentState (fun _ _ ↦ rfl) env settings id target actor {} false
    (fun _ _ ↦ rfl) (fun _ _ _ ↦ rfl) fun _ _ _ _ ↦ rfl

private theorem triple_refusal {α : Type} {k : Service α} {id : Nat}
    (hk : Exec.Frames (fun w : World ↦ w.db.proposals) k) :
    Exec.Triple (fun w ↦ w.db.proposals = t) (updateProposal id refused >>= fun _ ↦ k)
      (fun _ w ↦ w.db.proposals = t.update id refused) fun _ _ ↦ True := by
  apply Exec.Triple.bind (Q := fun _ w ↦ w.db.proposals = t.update id refused)
  · exact triple_write fun w hw ↦ congrArg (Table.update · id refused) hw
  · exact fun _ ↦ keeps_proposals hk

private theorem triple_reject (comment : Option String) :
    Exec.Triple (fun w ↦ w.db.proposals = t)
      (reject env settings approvalId approval principal comment)
      (fun _ w ↦ w.db.proposals = t.update approval.proposalId refused) fun _ _ ↦ True := by
  apply triple_refusal
  apply Exec.frames_bind (frames_ask _ fun _ _ ↦ rfl)
  intro now
  apply Exec.frames_bind
  · exact Exec.frames_update fun _ ↦ rfl
  intro _
  apply Exec.frames_bind (frames_proposals_change _ _ _)
  intro _
  exact Exec.frames_bind (frames_flush env fun _ _ ↦ rfl) fun _ ↦ frames_flush env fun _ _ ↦ rfl

private theorem triple_refuseStale (reason : String) :
    Exec.Triple (fun w ↦ w.db.proposals = t)
      (refuseStale env settings approvalId approval incident reason)
      (fun _ w ↦ w.db.proposals = t.update approval.proposalId refused) fun _ _ ↦ True := by
  apply triple_refusal
  apply Exec.frames_bind
  · apply Exec.frames_bind (frames_ask _ fun _ _ ↦ rfl)
    exact fun now ↦ Exec.frames_update fun _ ↦ rfl
  intro _
  apply Exec.frames_bind (Exec.frames_when fun _ ↦ frames_proposals_change _ _ _)
  intro _
  exact Exec.frames_bind (frames_flush env fun _ _ ↦ rfl) fun _ ↦ frames_flush env fun _ _ ↦ rfl

/-- A request for a proposal that has moved on is stale. -/
private theorem rowReason_of_started (hstarted : proposal.status ≠ .pending) (now : Nat) :
    ∃ reason, rowReason now approval incident proposal = some reason := by
  unfold rowReason
  split
  · exact ⟨_, rfl⟩
  · split
    · exact ⟨_, rfl⟩
    · simp [hstarted]

private theorem yields_staleReason (hstarted : proposal.status ≠ .pending) :
    Exec.Yields (·.isSome) (staleReason env approvalId approval incident proposal principal) := by
  unfold staleReason
  apply Exec.yields_bind
  intro now
  have hreason : ∃ reason, rowReason now approval incident proposal = some reason :=
    rowReason_of_started hstarted now
  obtain ⟨reason, hreason⟩ := hreason
  simp only [hreason]
  exact Exec.yields_pure rfl

/-- A decision on a proposal that has moved on refuses it, if it returns. -/
private theorem triple_settle (hstarted : proposal.status ≠ .pending)
    (decision : ApprovalDecision) (comment : Option String) :
    Exec.Triple (fun w ↦ w.db.proposals = t)
      (settle env settings approvalId approval incident proposal decision principal comment)
      (fun _ w ↦ w.db.proposals = t.update approval.proposalId refused) fun _ _ ↦ True := by
  unfold settle
  apply Exec.Triple.ite
  · exact fun _ ↦ triple_reject comment
  intro _
  apply Exec.Triple.bind (keeps_proposals (Exec.frames_require _ _))
  intro _
  apply Exec.Triple.bind (keeps_proposals (Exec.frames_require _ _))
  intro _
  have hkeeps : Exec.Triple (fun w ↦ w.db.proposals = t)
      (staleReason env approvalId approval incident proposal principal)
      (fun _ w ↦ w.db.proposals = t) fun _ _ ↦ True :=
    keeps_proposals (frames_staleReason (fun _ _ ↦ rfl) (fun _ _ ↦ rfl) env approvalId
      approval incident proposal principal)
  apply Exec.Triple.bind (hkeeps.yields (yields_staleReason hstarted))
  intro reason
  cases reason with
  | none =>
    rintro w ⟨-, h⟩
    cases h
  | some reason =>
    apply (triple_refuseStale reason).mono
    · exact fun _ hw ↦ hw.1
    · exact fun _ _ hw ↦ hw
    · exact fun _ _ hw ↦ hw

end Refusals

/-! ### Decisions that raise -/

/-- What is barred does not return. -/
private theorem triple_settle_barred {r : Request}
    (hvalid : r.decision = .approved ∨ r.decision = .rejected) (h : r.Barred incident proposal) :
    Exec.Triple (fun w ↦ w.db.incidents[approval.incidentId]? = some incident)
      (settle env r.settings r.approvalId approval incident proposal r.decision r.principal
        r.comment)
      (fun _ _ ↦ False) fun _ _ ↦ True := by
  unfold settle
  rcases h with ⟨happroved, hrejected⟩ | ⟨hdecision, hne, hnot⟩ | ⟨hdecision, hdenied⟩
  · exact absurd hvalid (not_or.mpr ⟨happroved, hrejected⟩)
  · rw [if_pos hdecision]
    unfold reject
    apply Exec.Triple.bind
      (Q := fun _ w ↦ w.db.incidents[approval.incidentId]? = some incident)
    · exact triple_write fun _ hw ↦ hw
    intro _
    apply Exec.Triple.bind
      (Q := fun _ w ↦ w.db.incidents[approval.incidentId]? = some incident)
    · exact triple_ask fun _ hw ↦ hw
    intro now
    apply Exec.Triple.bind
      (Q := fun _ w ↦ w.db.incidents[approval.incidentId]? = some incident)
    · exact triple_write fun _ hw ↦ hw
    intro _
    apply Exec.Triple.bind (Q := fun _ _ ↦ False)
    · intro w hw
      obtain ⟨e, -, hrun⟩ := changeIncidentState_refused env r.settings r.principal.login {} hw
        hne hnot
      rw [hrun]
      trivial
    · exact fun _ _ hw ↦ absurd hw id
  · have hne : r.decision ≠ .rejected := by
      rw [hdecision]
      decide
    rw [if_neg hne]
    by_cases hpermitted : hasPermission r.principal.role
        (getActionMetadata proposal.actionType).requiredPermission
    · have hrisk : ¬ proposal.riskScore < 70 := fun h ↦ hdenied ⟨hpermitted, h⟩
      apply Exec.Triple.bind (Q := fun _ _ ↦ True)
      · exact Exec.Triple.require (fun _ _ _ ↦ trivial) fun _ _ _ ↦ trivial
      intro _
      apply Exec.Triple.bind (Q := fun _ _ ↦ False)
      · exact Exec.Triple.require (fun h ↦ absurd h hrisk) fun _ _ _ ↦ trivial
      · exact fun _ _ hw ↦ absurd hw id
    · apply Exec.Triple.bind (Q := fun _ _ ↦ False)
      · exact Exec.Triple.require (fun h ↦ absurd h hpermitted) fun _ _ _ ↦ trivial
      · exact fun _ _ hw ↦ absurd hw id

/-! ### Decisions that return -/

section Returning

variable {w : World}

/-- An incident that is blocked or may be, can be moved to BLOCKED. -/
private theorem returns_block (hq : Quiet env) {id : Nat} (actor : String)
    (hrow : w.db.incidents[id]? = some incident)
    (hmay : incident.state = .blocked ∨ .blocked ∈ allowedTransitions incident.state) :
    Returns (changeIncidentState env settings id .blocked actor) w fun _ _ ↦ True := by
  by_cases hstate : incident.state = .blocked
  · apply returns_bind (reaches_loadIncident hrow)
    intro n
    exact (reaches_when_not (not_not.mpr hstate)).returns fun _ ↦ trivial
  · have hsome : w.db.incidents[id]?.map (·.state) = some incident.state := by
      rw [hrow]
      rfl
    exact (returns_changeIncidentState hq settings actor {} hsome (hmay.resolve_left hstate)
      hstate).mono fun _ _ _ ↦ trivial

private theorem returns_flushes (hq : Quiet env) :
    Returns (flush env >>= fun _ ↦ flush env) w fun _ _ ↦ True := by
  apply returns_bind (reaches_flush hq _)
  intro n
  exact (reaches_flush hq _).returns fun _ ↦ trivial

private theorem returns_reject (hq : Quiet env) (comment : Option String)
    (hrow : w.db.incidents[approval.incidentId]? = some incident)
    (hmay : incident.state = .blocked ∨ .blocked ∈ allowedTransitions incident.state) :
    Returns (reject env settings approvalId approval principal comment) w fun _ _ ↦ True := by
  apply returns_bind (reaches_write _ _)
  intro _
  apply returns_bind (reaches_ask _ _)
  intro _
  apply returns_bind (reaches_write _ _)
  intro _
  apply (returns_block hq principal.login (by exact hrow) hmay).bind
  exact fun _ _ _ ↦ returns_flushes hq

private theorem returns_refuseStale (hq : Quiet env) (reason : String)
    (hrow : w.db.incidents[approval.incidentId]? = some incident) :
    Returns (refuseStale env settings approvalId approval incident reason) w
      fun _ _ ↦ True := by
  apply returns_bind (reaches_write _ _)
  intro _
  apply Returns.bind (Q := fun _ w' ↦ w'.db.incidents[approval.incidentId]? = some incident)
  · apply returns_bind (reaches_ask _ _)
    intro _
    exact ⟨(), _, rfl, hrow⟩
  intro _ w' hrow'
  apply Returns.bind (Q := fun _ _ ↦ True)
  · apply returns_when
    · intro hwaiting
      apply returns_block hq "cloudward-approval-guard" hrow'
      rw [hwaiting]
      decide
    · exact fun _ ↦ trivial
  · exact fun _ _ _ ↦ returns_flushes hq

/-- Where nothing fails, what is not barred returns, if the proposal has moved on. -/
private theorem returns_settle (hq : Quiet env) {r : Request}
    (hstarted : proposal.status ≠ .pending) (hnot : ¬ r.Barred incident proposal)
    (hrow : w.db.incidents[approval.incidentId]? = some incident) :
    Returns (settle env r.settings r.approvalId approval incident proposal r.decision r.principal
      r.comment) w fun _ _ ↦ True := by
  obtain ⟨hvalid, hreject, happrove⟩ :
      (r.decision = .approved ∨ r.decision = .rejected) ∧
      (r.decision = .rejected →
        incident.state = .blocked ∨ .blocked ∈ allowedTransitions incident.state) ∧
      (r.decision = .approved → hasPermission r.principal.role
        (getActionMetadata proposal.actionType).requiredPermission ∧
          proposal.riskScore < 70) := by
    unfold Request.Barred at hnot
    push Not at hnot
    refine ⟨?_, ?_, hnot.2.2⟩
    · by_cases h : r.decision = .approved
      · exact .inl h
      · exact .inr (hnot.1 h)
    · intro h
      by_cases hstate : incident.state = .blocked
      · exact .inl hstate
      · exact .inr (hnot.2.1 h hstate)
  unfold settle
  rcases hvalid with hdecision | hdecision
  · have hne : r.decision ≠ .rejected := by
      rw [hdecision]
      decide
    obtain ⟨hpermitted, hrisk⟩ := happrove hdecision
    rw [if_neg hne]
    apply returns_bind (reaches_require hpermitted)
    intro _
    apply returns_bind (reaches_require hrisk)
    intro n
    have hreason : ∃ reason, rowReason (env.now { w with tick := n }) approval incident proposal =
        some reason := rowReason_of_started hstarted _
    obtain ⟨reason, hreason⟩ := hreason
    have hstale : Reaches (staleReason env r.approvalId approval incident proposal r.principal)
        { w with tick := n } (some reason) w := by
      apply reaches_bind (reaches_ask _ _)
      intro m
      rw [hreason]
      exact reaches_pure _ _
    apply returns_bind hstale
    intro _
    exact returns_refuseStale hq reason hrow
  · rw [if_pos hdecision]
    exact returns_reject hq r.comment hrow (hreject hdecision)

end Returning

/-! ### A decision on given rows -/

section Rows

variable {db : Database} {r : Request}

/-- A query of rows that are known. -/
theorem triple_query {α β : Type} {f : Database → α} {k : α → Service β}
    {t : List Event} {Q : β → World → Prop}
    (hk : Exec.Triple (fun w ↦ w.db = db ∧ w.trace = t) (k (f db)) Q fun _ _ ↦ True) :
    Exec.Triple (fun w ↦ w.db = db ∧ w.trace = t) (query env f >>= k) Q fun _ _ ↦ True := by
  have hframes : Exec.Frames (fun w ↦ (w.db, w.trace)) (query env f) :=
    frames_query env f fun _ _ ↦ rfl
  have hquery : Exec.Triple (fun w ↦ w.db = db ∧ w.trace = t) (query env f)
      (fun a w ↦ (w.db = db ∧ w.trace = t) ∧ a = f db) fun _ _ ↦ True := by
    apply ((hframes.returns fun v ↦ v.1 = db ∧ v.2 = t).and (query_spec env f db)).mono
    · exact fun _ h ↦ ⟨h, h.1⟩
    · exact fun _ _ h ↦ ⟨h.1, h.2.1⟩
    · exact fun _ _ _ ↦ trivial
  apply Exec.Triple.bind hquery
  intro a
  apply Exec.Triple.assume
  rintro rfl
  exact hk

/-- A decision that returns has settled the rows it found. -/
theorem triple_program_of_rows {Q : World → Prop} {t : List Event}
    (hsettle : ∀ (approval : Approval) (incident : Incident) (proposal : ActionProposal),
      db.approvals[r.approvalId]? = some approval →
      db.incidents[approval.incidentId]? = some incident →
      db.proposals[approval.proposalId]? = some proposal →
      (r.decision = .approved ∨ r.decision = .rejected) → approval.decision = .pending →
      Exec.Triple (fun w ↦ w.db = db ∧ w.trace = t)
        (settle env r.settings r.approvalId approval incident proposal r.decision r.principal
          r.comment) (fun _ ↦ Q) fun _ _ ↦ True) :
    Exec.Triple (fun w ↦ w.db = db ∧ w.trace = t) (r.program env) (fun _ ↦ Q)
      fun _ _ ↦ True := by
  unfold Request.program decide
  apply Exec.Triple.bind (Q := fun _ w ↦ (w.db = db ∧ w.trace = t) ∧
    (r.decision = .approved ∨ r.decision = .rejected))
  · exact Exec.Triple.require (fun h _ hw ↦ ⟨hw, h⟩) fun _ _ _ ↦ trivial
  intro _
  apply Exec.Triple.assume
  intro hvalid
  apply triple_query
  cases happroval : db.approvals[r.approvalId]? with
  | none => exact Exec.Triple.throw fun _ _ ↦ trivial
  | some approval =>
    apply Exec.Triple.bind (Q := fun _ w ↦ (w.db = db ∧ w.trace = t) ∧
      approval.decision = .pending)
    · exact Exec.Triple.require (fun h _ hw ↦ ⟨hw, h⟩) fun _ _ _ ↦ trivial
    intro _
    apply Exec.Triple.assume
    intro hpending
    apply triple_query
    apply triple_query
    cases hincident : db.incidents[approval.incidentId]? with
    | none =>
      apply Exec.Triple.bind (Q := fun _ _ ↦ True)
      · exact fun _ _ ↦ trivial
      · exact fun _ ↦ Exec.Triple.throw fun _ _ ↦ trivial
    | some incident =>
      cases hproposal : db.proposals[approval.proposalId]? with
      | none =>
        apply Exec.Triple.bind (Q := fun _ _ ↦ True)
        · exact fun _ _ ↦ trivial
        · exact fun _ ↦ Exec.Triple.throw fun _ _ ↦ trivial
      | some proposal =>
        exact hsettle approval incident proposal happroval hincident hproposal hvalid hpending

/-- A decision on rows that are known. -/
theorem triple_program {Q : World → Prop}
    (happroval : db.approvals[r.approvalId]? = some approval)
    (hincident : db.incidents[approval.incidentId]? = some incident)
    (hproposal : db.proposals[approval.proposalId]? = some proposal)
    (hsettle : (r.decision = .approved ∨ r.decision = .rejected) → approval.decision = .pending →
      Exec.Triple (fun w ↦ w.db = db)
        (settle env r.settings r.approvalId approval incident proposal r.decision r.principal
          r.comment) (fun _ ↦ Q) fun _ _ ↦ True) :
    Exec.Triple (fun w ↦ w.db = db) (r.program env) (fun _ ↦ Q) fun _ _ ↦ True := by
  intro w hw
  refine (triple_program_of_rows (t := w.trace) ?_) w ⟨hw, rfl⟩
  intro approval' incident' proposal' happroval' hincident' hproposal' hvalid hpending
  rw [happroval, Option.some.injEq] at happroval'
  subst happroval'
  rw [hincident, Option.some.injEq] at hincident'
  subst hincident'
  rw [hproposal, Option.some.injEq] at hproposal'
  subst hproposal'
  apply (hsettle hvalid hpending).mono
  · exact fun _ h ↦ h.1
  · exact fun _ _ h ↦ h
  · exact fun _ _ h ↦ h

theorem frames_committed_program (r : Request) :
    Exec.Frames World.committed (r.program env) :=
  frames_decide (fun _ _ ↦ rfl) (fun _ _ ↦ rfl) (fun _ _ ↦ rfl) (fun _ _ ↦ rfl) env r.settings
    r.approvalId r.decision r.principal r.comment

/-- A transaction whose decision does not return, commits nothing. -/
private theorem committed_of_triple {Q : World → Prop} {R : Database → Prop} (hdb : R db)
    (hQ : ∀ w, Q w → R w.db)
    (h : Exec.Triple (fun w ↦ w.db = db) (r.program env) (fun _ ↦ Q) fun _ _ ↦ True) :
    R (r.committed env db) := by
  rcases committed_transaction env (frames_committed_program r) (start db) with hsame | hdone
  · unfold Request.committed
    rw [hsame]
    exact hdb
  · obtain ⟨w, hrun, hcommitted, -⟩ := hdone
    unfold Request.committed
    rw [hcommitted]
    exact hQ w (h.of_ok rfl hrun)

variable (happroval : db.approvals[r.approvalId]? = some approval)
variable (hincident : db.incidents[approval.incidentId]? = some incident)
variable (hproposal : db.proposals[approval.proposalId]? = some proposal)
variable (hstarted : proposal.status ≠ .pending)
include happroval hincident hproposal hstarted

/-- What is spared keeps its status in every environment. -/
private theorem statusOf_of_spares (h : r.Spares approval incident proposal) (env : Env) :
    statusOf (r.committed env db) approval.proposalId = some proposal.status := by
  have hbefore : statusOf db approval.proposalId = some proposal.status := by
    unfold statusOf
    rw [hproposal]
    rfl
  apply committed_of_triple (R := fun rows ↦
    statusOf rows approval.proposalId = some proposal.status) hbefore fun _ hw ↦ hw
  apply triple_program happroval hincident hproposal
  intro hvalid hpending
  rcases h with hrejected | hdecided | hbarred
  · apply (triple_settle hstarted r.decision r.comment).mono
    · exact fun w hw ↦ congrArg Database.proposals hw
    · intro _ w hw
      rw [hrejected]
      exact statusOf_refused hproposal hw
    · exact fun _ _ _ ↦ trivial
  · exact absurd hpending hdecided
  · apply (triple_settle_barred hvalid hbarred).mono
    · rintro w rfl
      exact hincident
    · exact fun _ _ hw ↦ absurd hw id
    · exact fun _ _ _ ↦ trivial

/-- What is not spared ends REJECTED where nothing fails. -/
private theorem statusOf_of_not_spares (hq : Quiet env)
    (h : ¬ r.Spares approval incident proposal) :
    statusOf (r.committed env db) approval.proposalId = some .rejected := by
  obtain ⟨-, hpending, hnot⟩ : proposal.status ≠ .rejected ∧ approval.decision = .pending ∧
      ¬ r.Barred incident proposal := by
    unfold Request.Spares at h
    push Not at h
    exact h
  have hvalid : r.decision = .approved ∨ r.decision = .rejected := by
    by_contra hinvalid
    exact hnot (.inl (not_or.mp hinvalid))
  have hreturns : Returns (transaction env (r.program env)) (start db) fun _ _ ↦ True := by
    apply Returns.bind (Q := fun _ _ ↦ True)
    · apply returns_bind (reaches_require hvalid)
      intro _
      apply returns_bind (reaches_query hq _ _)
      intro _
      simp only [start, happroval]
      apply returns_bind (reaches_require hpending)
      intro _
      apply returns_bind (reaches_query hq _ _)
      intro _
      apply returns_bind (reaches_query hq _ _)
      intro _
      simp only [hincident, hproposal]
      exact returns_settle hq hstarted hnot hincident
    · exact fun _ w _ ↦ (reaches_commit hq w).returns fun _ ↦ trivial
  have hcommits : Exec.Triple (fun w ↦ w.db = db) (transaction env (r.program env))
      (fun _ w ↦ statusOf w.committed approval.proposalId = some .rejected) fun _ _ ↦ True := by
    apply Exec.Triple.bind
      (Q := fun _ w ↦ statusOf w.db approval.proposalId = some .rejected)
    · apply triple_program happroval hincident hproposal
      intro _ _
      apply (triple_settle hstarted r.decision r.comment).mono
      · exact fun w hw ↦ congrArg Database.proposals hw
      · exact fun _ w hw ↦ statusOf_refused hproposal hw
      · exact fun _ _ _ ↦ trivial
    intro _
    apply Exec.Triple.bind
      (Q := fun _ w ↦ statusOf w.db approval.proposalId = some .rejected)
    · exact (frames_flush (f := World.db) env fun _ _ ↦ rfl).returns fun rows ↦
        statusOf rows approval.proposalId = some .rejected
    · exact fun _ ↦ Exec.Triple.update fun _ hw ↦ hw
  obtain ⟨_, w, hrun, -⟩ := hreturns
  unfold Request.committed
  rw [hrun]
  exact hcommits.of_ok rfl hrun

/-- **A decision and a proposal that has moved on.** The committed status of a proposal that is
not PENDING stays what it was in every environment exactly if the decision is spared: it
raises on the rows it finds, or the proposal is REJECTED already. Where nothing outside
fails this is so in the single environment. -/
theorem decide_keeps_status_iff :
    ((∀ env, statusOf (r.committed env db) approval.proposalId = some proposal.status) ↔
        r.Spares approval incident proposal) ∧
      ∀ env, Quiet env →
        (statusOf (r.committed env db) approval.proposalId = some proposal.status ↔
          r.Spares approval incident proposal) := by
  have hspared := statusOf_of_spares happroval hincident hproposal hstarted
  have hquiet : ∀ env, Quiet env →
      statusOf (r.committed env db) approval.proposalId = some proposal.status →
      r.Spares approval incident proposal := by
    intro env hq hkept
    by_contra hnot
    rw [statusOf_of_not_spares happroval hincident hproposal hstarted hq hnot] at hkept
    exact hnot (.inl (Option.some.inj hkept).symm)
  constructor
  · constructor
    · exact fun h ↦ hquiet calm quiet_calm (h calm)
    · exact hspared
  · exact fun env hq ↦ ⟨hquiet env hq, fun h ↦ hspared h env⟩

end Rows

/-- A restarted pod's incident that an operator resolves while its approval still waits. -/
private def resolvedRows : Database where
  incidents := [⟨"2f6b", "UNHEALTHY_POD", "API pod restarting", none, .staging, .resolved,
    "warning", none, 0, none, none, some 1, some .humanAction, []⟩]
  proposals := [⟨0, .restartPod, [], .succeeded, 10, ⟨none, none⟩, "cloudward", by decide⟩]
  approvals := [⟨0, 0, none, .pending, none, .restartPod, .staging, 10, 1, true, "cloudward",
    none, 1, "", ⟨0, 0, 1, .restartPod, 10, []⟩, "digest", 1800, none, none, none, none, none,
    none⟩]

/-- A person rejects the approval. -/
private def rejection : Request :=
  ⟨.standard, 0, .rejected, ⟨"operator", .operator, none⟩, none⟩

theorem decide_keeps_status_iff_resolved :
    ∃ approval incident proposal, proposal.status = .succeeded ∧
      ((∀ env, statusOf (rejection.committed env resolvedRows) approval.proposalId =
          some proposal.status) ↔ rejection.Spares approval incident proposal) ∧
      ∀ env, Quiet env → (statusOf (rejection.committed env resolvedRows) approval.proposalId =
          some proposal.status ↔ rejection.Spares approval incident proposal) :=
  ⟨_, _, _, rfl, decide_keeps_status_iff rfl rfl rfl (by decide)⟩

/-- An alert's job deletes the unready pod, and then an operator sets the incident to
AWAITING_APPROVAL, which requests an approval of the proposal that has executed. -/
private def reopenedRows : Database :=
  (Incidents.step
    ⟨(Runs.run Alerts.step {}
      [⟨.deliver "first" [Alerts.oomKilled .firing "a"] 1, .standard, Alerts.oneUnready⟩,
        ⟨.work 0 Runbooks.memoryPressureLibrary, .standard, Alerts.oneUnready⟩]).rows,
      fun _ ↦ 0⟩
    ⟨.update 0 { state := some .awaitingApproval } "operator", .standard, calm⟩).rows

/-- Then a person approves the approval. -/
private def late : Request := ⟨.standard, 0, .approved, ⟨"admin", .admin, none⟩, none⟩

/-- The action that has executed is relabelled REJECTED. -/
theorem executed_proposal_relabelled :
    reopenedRows.approvals.map (·.decision) = [.pending] ∧
      reopenedRows.proposals.map (·.status) = [.succeeded] ∧
      (late.committed calm reopenedRows).proposals.map (·.status) = [.rejected] := by
  decide +kernel

end CloudWard.Approvals
