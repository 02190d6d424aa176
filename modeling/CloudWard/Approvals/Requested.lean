import CloudWard.Incidents.Service

/-!
# What an approval is requested for

`change_incident_state` looks for the proposal of an approval itself: it takes the newest of
the incident. The rows of the moment, and what was evaluated last, tell whether that was the
proposal it was meant for.
-/

namespace CloudWard.Approvals

open CloudWard.Db CloudWard.Incidents CloudWard.Logic CloudWard.Policies Service

/-- The newest evaluation of a trace. -/
def lastEvaluation (trace : List Event) : Option (PolicyInput × PolicyResult) :=
  trace.findSome? Event.evaluation?

/-- The proposal is the incident's newest, it is pending, and what was evaluated last was its
input, with this decision. -/
structure Evaluated (incidentId proposalId : Nat) (proposal : ActionProposal)
    (decision : PolicyDecision) (db : Database) (trace : List Event) : Prop where
  newest : db.proposals.latest (·.incidentId = incidentId) = some (proposalId, proposal)
  pending : proposal.status = .pending
  decided : ∃ id, db.policyDecisions.latest (fun _ ↦ true) = some (id, decision)
  bound : decision.proposalId = proposalId
  asked : ∃ policy, lastEvaluation trace = some (decision.input, policy) ∧
    policy.allowed = decision.allowed ∧ policy.requiresApproval = decision.requiresApproval

/-- The request is for a pending proposal whose newest decision requires an approval. -/
def Due (r : ApprovalRequest) : Prop :=
  ∃ proposal entry, r.rows.proposals[r.approval.proposalId]? = some proposal ∧
    proposal.status = .pending ∧
    r.rows.policyDecisions.latest (·.proposalId = r.approval.proposalId) = some entry ∧
    entry.2.requiresApproval

/-- The request is for the proposal that was evaluated last, with this decision. -/
def OfEvaluated (r : ApprovalRequest) (decision : PolicyDecision) : Prop :=
  ∃ proposal, Evaluated r.approval.incidentId r.approval.proposalId proposal decision r.rows
    r.trace

/-- A request for the proposal evaluated last is due if the evaluation required it. -/
theorem OfEvaluated.due {r : ApprovalRequest} {decision : PolicyDecision}
    (h : OfEvaluated r decision) (hrequires : decision.requiresApproval) : Due r := by
  obtain ⟨proposal, hnewest, hpending, ⟨id, hdecided⟩, hbound, -⟩ := h
  refine ⟨proposal, (id, decision), (Table.latest_eq_some hnewest).1, hpending, ?_, hrequires⟩
  exact Table.latest_of_newest hdecided (by simpa using hbound)

/-- The decision is an answer of this environment. -/
def Answered (env : Env) (decision : PolicyDecision) : Prop :=
  ∃ w, (env.opa w decision.input).allowed = decision.allowed ∧
    (env.opa w decision.input).requiresApproval = decision.requiresApproval

/-- Every request is one of the old ones, or was made after an evaluation by this environment
whose decision meets a condition. -/
def RequestsFrom (env : Env) (C : PolicyDecision → Prop) (rs : List ApprovalRequest)
    (w : World) : Prop :=
  ∀ r ∈ w.approvalRequests, r ∈ rs ∨
    ∃ decision, OfEvaluated r decision ∧ Answered env decision ∧ C decision

theorem RequestsFrom.of_eq {env : Env} {C : PolicyDecision → Prop} {rs : List ApprovalRequest}
    {w : World} (h : w.approvalRequests = rs) : RequestsFrom env C rs w :=
  fun _ hr ↦ .inl (h ▸ hr)

theorem RequestsFrom.trans {env : Env} {C : PolicyDecision → Prop} {rs : List ApprovalRequest}
    {w w' : World} (h : RequestsFrom env C rs w) (h' : RequestsFrom env C w.approvalRequests w') :
    RequestsFrom env C rs w' := by
  intro r hr
  rcases h' r hr with hold | hnew
  · exact h r hold
  · exact .inr hnew

/-! ### The request of a state change -/

/-- The rows after a state change's update of the incident. -/
def moved (db : Database) (incidentId : Nat) (target : IncidentState) (actor : String)
    (now : Nat) : Database :=
  { db with incidents := db.incidents.update incidentId (withState target actor now) }

/-- What `ensure_runtime_approval` leaves: the rows and requests it found, or the proposal's
first approval. -/
def Ensured (env : Env) (settings : Settings) (incidentId proposalId : Nat)
    (requestedBy : String) (reason : Option String) (db : Database) (t : List Event)
    (rs : List ApprovalRequest) (w : World) : Prop :=
  (w.db = db ∧ w.approvalRequests = rs) ∨
    ∃ incident proposal now row,
      db.approvals.latest (fun a ↦ a.proposalId = proposalId ∧ a.proposalVersion = 1) = none ∧
      db.incidents[incidentId]? = some incident ∧ db.proposals[proposalId]? = some proposal ∧
      row = approvalRow env settings incidentId proposalId incident proposal requestedBy reason
        now ∧
      w.db = { db with approvals := db.approvals.insert row } ∧
      w.approvalRequests = ⟨row, db, t⟩ :: rs

/-- What the request of a state change leaves: it is for the incident's newest proposal. -/
def Asked (env : Env) (settings : Settings) (incidentId : Nat) (actor : String) (db : Database)
    (t : List Event) (rs : List ApprovalRequest) (w : World) : Prop :=
  (w.db = db ∧ w.approvalRequests = rs) ∨
    ∃ proposalId proposal reason,
      db.proposals.latest (·.incidentId = incidentId) = some (proposalId, proposal) ∧
      Ensured env settings incidentId proposalId actor reason db t rs w

section Requests

variable (env : Env) (settings : Settings) (incidentId : Nat) (actor : String)

/-- What a request reads and writes of a world. -/
private def paper (w : World) : Database × List Event × List ApprovalRequest :=
  (w.db, w.trace, w.approvalRequests)

private theorem keeps_paper {α : Type} {x : Service α} (hx : Exec.Frames paper x)
    (v : Database × List Event × List ApprovalRequest) : Exec.Keeps (fun w ↦ paper w = v) x :=
  hx.keeps (· = v)

variable {db : Database} {t : List Event} {rs : List ApprovalRequest}

private theorem triple_paper_query {α : Type} (f : Database → α) {E : Exc → World → Prop}
    (hE : ∀ e w, paper w = (db, t, rs) → E e w) :
    Exec.Triple (fun w ↦ paper w = (db, t, rs)) (query env f)
      (fun a w ↦ paper w = (db, t, rs) ∧ a = f db) E := by
  have hflush : Exec.Frames paper (flush env) := frames_flush env fun _ _ ↦ rfl
  apply Exec.Triple.bind ((keeps_paper hflush (db, t, rs)).mono (fun _ h ↦ h) (fun _ _ h ↦ h) hE)
  intro _
  apply Exec.Triple.read
  intro w hw
  exact ⟨hw, congrArg (fun v ↦ f v.1) hw⟩

private theorem ensured_of_paper {w : World} {proposalId : Nat} {reason : Option String}
    (h : paper w = (db, t, rs)) :
    Ensured env settings incidentId proposalId actor reason db t rs w := by
  simp only [paper, Prod.mk.injEq] at h
  exact .inl ⟨h.1, h.2.2⟩

/-- An approval is ensured by the one there is, or by a new one of the rows of the moment. -/
theorem triple_ensureRuntimeApproval (proposalId : Nat) (reason : Option String) :
    Exec.Triple (fun w ↦ w.db = db ∧ w.trace = t ∧ w.approvalRequests = rs)
      (ensureRuntimeApproval env settings incidentId proposalId actor reason)
      (fun _ ↦ Ensured env settings incidentId proposalId actor reason db t rs)
      fun _ ↦ Ensured env settings incidentId proposalId actor reason db t rs := by
  have hstill : ∀ w, paper w = (db, t, rs) →
      Ensured env settings incidentId proposalId actor reason db t rs w :=
    fun w ↦ ensured_of_paper env settings incidentId actor
  suffices h : Exec.Triple (fun w ↦ paper w = (db, t, rs))
      (ensureRuntimeApproval env settings incidentId proposalId actor reason)
      (fun _ ↦ Ensured env settings incidentId proposalId actor reason db t rs)
      fun _ ↦ Ensured env settings incidentId proposalId actor reason db t rs by
    apply h.mono
    · rintro w ⟨rfl, rfl, rfl⟩
      rfl
    · exact fun _ _ h ↦ h
    · exact fun _ _ h ↦ h
  apply Exec.Triple.bind (triple_paper_query env _ fun _ ↦ hstill)
  intro existing
  apply Exec.Triple.assume
  rintro rfl
  cases hexisting : db.approvals.latest fun a ↦ a.proposalId = proposalId ∧ a.proposalVersion = 1
    with
  | some entry => exact Exec.Triple.pure hstill
  | none =>
    apply Exec.Triple.bind ((triple_loadIncident incidentId).mono (fun _ h ↦ h)
      (fun _ _ h ↦ h) fun _ ↦ hstill)
    intro incident
    apply Exec.Triple.bind ((triple_loadProposal proposalId).mono (fun _ h ↦ h)
      (fun _ _ h ↦ h) fun _ w h ↦ hstill w h.1)
    intro proposal
    apply Exec.Triple.bind (Q := fun _ w ↦ (paper w = (db, t, rs) ∧
      db.proposals[proposalId]? = some proposal) ∧ db.incidents[incidentId]? = some incident)
    · rintro w ⟨⟨hw, hincident⟩, hproposal⟩
      have hdb : w.db = db := congrArg (·.1) hw
      rw [hdb] at hincident hproposal
      exact ⟨⟨hw, hproposal⟩, hincident⟩
    intro now
    apply Exec.Triple.assume
    intro hincident
    apply Exec.Triple.assume
    intro hproposal
    apply Exec.Triple.bind ((keeps_paper (Exec.frames_read _) (db, t, rs)).mono (fun _ h ↦ h)
      (fun _ _ h ↦ h) fun _ ↦ hstill)
    intro id
    apply Exec.Triple.bind
      (Q := fun _ ↦ Ensured env settings incidentId proposalId actor reason db t rs)
    · apply Exec.Triple.update
      intro w hw
      simp only [paper, Prod.mk.injEq] at hw
      obtain ⟨rfl, rfl, rfl⟩ := hw
      exact .inr ⟨incident, proposal, now, _, hexisting, hincident, hproposal, rfl, rfl, rfl⟩
    intro _
    have hframes : Exec.Frames (fun w ↦ (w.db, w.approvalRequests)) (flush env) :=
      frames_flush env fun _ _ ↦ rfl
    have hflush : Exec.Keeps (Ensured env settings incidentId proposalId actor reason db t rs)
        (flush env) :=
      hframes.keeps fun v ↦ Ensured env settings incidentId proposalId actor reason db t rs
        { start db with db := v.1, approvalRequests := v.2 }
    apply Exec.Triple.bind hflush
    intro _
    apply Exec.Triple.bind hflush
    intro _
    apply Exec.Triple.bind hflush
    intro _
    exact Exec.keeps_pure _

private theorem asked_of_paper {w : World} (h : paper w = (db, t, rs)) :
    Asked env settings incidentId actor db t rs w := by
  simp only [paper, Prod.mk.injEq] at h
  exact .inl ⟨h.1, h.2.2⟩

/-- A request is for the incident's newest proposal. -/
theorem triple_requestApproval (details : Details) :
    Exec.Triple (fun w ↦ paper w = (db, t, rs))
      (requestApproval env settings incidentId actor details)
      (fun _ ↦ Asked env settings incidentId actor db t rs)
      fun _ ↦ Asked env settings incidentId actor db t rs := by
  have hstill : ∀ w, paper w = (db, t, rs) → Asked env settings incidentId actor db t rs w :=
    fun w ↦ asked_of_paper env settings incidentId actor
  apply Exec.Triple.bind (triple_paper_query env _ fun _ ↦ hstill)
  intro newest
  apply Exec.Triple.assume
  rintro rfl
  cases hnewest : db.proposals.latest (·.incidentId = incidentId) with
  | none => exact Exec.Triple.pure hstill
  | some entry =>
    obtain ⟨proposalId, proposal⟩ := entry
    have hensured : ∀ w, Ensured env settings incidentId proposalId actor
        (details.policyReason.or details.reason) db t rs w →
        Asked env settings incidentId actor db t rs w :=
      fun w h ↦ .inr ⟨proposalId, proposal, _, hnewest, h⟩
    apply Exec.Triple.bind (Q := fun _ ↦ Asked env settings incidentId actor db t rs)
    · apply (triple_ensureRuntimeApproval env settings incidentId actor proposalId _).mono
      · intro w hw
        simp only [paper, Prod.mk.injEq] at hw
        exact hw
      · exact fun _ ↦ hensured
      · exact fun _ ↦ hensured
    · exact fun _ ↦ Exec.Triple.pure fun _ h ↦ h

/-- What a change to AWAITING_APPROVAL leaves: the rows and requests it found, or what its
request leaves of the rows with the incident moved. -/
def Awaited (env : Env) (settings : Settings) (incidentId : Nat) (actor : String) (force : Bool)
    (db : Database) (t : List Event) (rs : List ApprovalRequest) (w : World) : Prop :=
  (w.db = db ∧ w.approvalRequests = rs) ∨ ∃ now incident,
    db.incidents[incidentId]? = some incident ∧ incident.state ≠ .awaitingApproval ∧
    (force ∨ .awaitingApproval ∈ allowedTransitions incident.state) ∧
    Asked env settings incidentId actor (moved db incidentId .awaitingApproval actor now) t rs w

/-- What a change to AWAITING_APPROVAL leaves, however it ends. -/
theorem triple_awaitApproval (details : Details) (force : Bool) :
    Exec.Triple (fun w ↦ w.db = db ∧ w.trace = t ∧ w.approvalRequests = rs)
      (changeIncidentState env settings incidentId .awaitingApproval actor details force)
      (fun _ ↦ Awaited env settings incidentId actor force db t rs)
      fun _ ↦ Awaited env settings incidentId actor force db t rs := by
  have hstill : ∀ w, paper w = (db, t, rs) →
      Awaited env settings incidentId actor force db t rs w := by
    intro w hw
    simp only [paper, Prod.mk.injEq] at hw
    exact .inl ⟨hw.1, hw.2.2⟩
  have hpaper {db' : Database} {α : Type} {x : Service α} (hx : Exec.Frames paper x)
      (hE : ∀ w, paper w = (db', t, rs) →
        Awaited env settings incidentId actor force db t rs w) :
      Exec.Triple (fun w ↦ paper w = (db', t, rs)) x (fun _ w ↦ paper w = (db', t, rs))
        fun _ ↦ Awaited env settings incidentId actor force db t rs :=
    (keeps_paper hx _).mono (fun _ h ↦ h) (fun _ _ h ↦ h) fun _ w h ↦ hE w h
  suffices h : Exec.Triple (fun w ↦ paper w = (db, t, rs))
      (changeIncidentState env settings incidentId .awaitingApproval actor details force)
      (fun _ ↦ Awaited env settings incidentId actor force db t rs)
      fun _ ↦ Awaited env settings incidentId actor force db t rs by
    apply h.mono
    · rintro w ⟨rfl, rfl, rfl⟩
      rfl
    · exact fun _ _ h ↦ h
    · exact fun _ _ h ↦ h
  apply Exec.Triple.bind (Q := fun incident w ↦
    paper w = (db, t, rs) ∧ db.incidents[incidentId]? = some incident)
  · apply (triple_loadIncident incidentId).mono (fun _ h ↦ h)
    · rintro incident w ⟨hw, hrow⟩
      have hdb : w.db = db := congrArg (·.1) hw
      rw [hdb] at hrow
      exact ⟨hw, hrow⟩
    · exact fun _ ↦ hstill
  intro incident
  apply Exec.Triple.assume
  intro hincident
  apply Exec.Triple.when
  · intro hmoves
    apply Exec.Triple.bind (Q := fun _ w ↦ paper w = (db, t, rs) ∧
      (force ∨ .awaitingApproval ∈ allowedTransitions incident.state))
    · apply Exec.Triple.when
      · intro _
        apply Exec.Triple.bind (Q := fun _ w ↦ paper w = (db, t, rs) ∧
          .awaitingApproval ∈ allowedTransitions incident.state)
        · apply Exec.Triple.ofExcept
          · exact fun state hstate _ hw ↦ ⟨hw, (transitionIncident_eq_ok.mp hstate).1⟩
          · exact fun _ _ ↦ hstill
        · exact fun _ ↦ Exec.Triple.pure fun _ h ↦ ⟨h.1, .inr h.2⟩
      · exact fun hforce _ hw ↦ ⟨hw, .inl (by simpa using hforce)⟩
    intro _
    apply Exec.Triple.assume
    intro hallowed
    apply Exec.Triple.bind (hpaper (frames_ask _ fun _ _ ↦ rfl) hstill)
    intro now
    have hmoved : ∀ w, Asked env settings incidentId actor
        (moved db incidentId .awaitingApproval actor now) t rs w →
        Awaited env settings incidentId actor force db t rs w :=
      fun w hw ↦ .inr ⟨now, incident, hincident, hmoves, hallowed, hw⟩
    have hkeeps {α : Type} {x : Service α} (hx : Exec.Frames paper x) :
        Exec.Triple
          (fun w ↦ paper w = (moved db incidentId .awaitingApproval actor now, t, rs)) x
          (fun _ w ↦ paper w = (moved db incidentId .awaitingApproval actor now, t, rs))
          fun _ ↦ Awaited env settings incidentId actor force db t rs :=
      hpaper hx fun w hw ↦ hmoved w (asked_of_paper env settings incidentId actor hw)
    apply Exec.Triple.bind
      (Q := fun _ w ↦ paper w = (moved db incidentId .awaitingApproval actor now, t, rs))
    · apply triple_write
      intro w hw
      simp only [paper, Prod.mk.injEq] at hw
      obtain ⟨rfl, rfl, rfl⟩ := hw
      rfl
    intro _
    apply Exec.Triple.bind (hkeeps (Exec.frames_when fun h ↦ absurd h (by decide)))
    intro _
    apply Exec.Triple.bind (hkeeps (frames_flush env fun _ _ ↦ rfl))
    intro _
    apply Exec.Triple.bind (hkeeps (frames_flush env fun _ _ ↦ rfl))
    intro _
    apply Exec.Triple.bind (Q := fun _ ↦ Awaited env settings incidentId actor force db t rs)
    · apply Exec.Triple.when
      · intro _
        exact (triple_requestApproval env settings incidentId actor details).mono (fun _ h ↦ h)
          (fun _ ↦ hmoved) fun _ ↦ hmoved
      · exact fun h ↦ absurd rfl h
    intro _
    apply Exec.Triple.bind (Q := fun _ ↦ Awaited env settings incidentId actor force db t rs)
    · exact Exec.Triple.when (fun h ↦ absurd h (by decide)) fun _ _ h ↦ h
    intro _
    have hlast : Exec.Frames (fun w ↦ (w.db, w.approvalRequests)) (flush env) :=
      frames_flush env fun _ _ ↦ rfl
    exact hlast.keeps fun v ↦ Awaited env settings incidentId actor force db t rs
      { start db with db := v.1, approvalRequests := v.2 }
  · exact fun _ ↦ hstill

end Requests

/-- A change to AWAITING_APPROVAL requests nothing, or the first approval of the incident's
newest proposal. -/
theorem Awaited.cases {env : Env} {settings : Settings} {incidentId : Nat} {actor : String}
    {force : Bool} {db : Database} {t : List Event} {rs : List ApprovalRequest} {w : World}
    (h : Awaited env settings incidentId actor force db t rs w) :
    (w.db.approvals = db.approvals ∧ w.approvalRequests = rs) ∨
      ∃ proposalId proposal incident now reason now' row,
        db.proposals.latest (·.incidentId = incidentId) = some (proposalId, proposal) ∧
        db.approvals.latest (fun a ↦ a.proposalId = proposalId ∧ a.proposalVersion = 1) = none ∧
        db.incidents[incidentId]? = some incident ∧ incident.state ≠ .awaitingApproval ∧
        (force ∨ .awaitingApproval ∈ allowedTransitions incident.state) ∧
        row = approvalRow env settings incidentId proposalId
          (withState .awaitingApproval actor now incident) proposal actor reason now' ∧
        w.db = { moved db incidentId .awaitingApproval actor now with
          approvals := db.approvals.insert row } ∧
        w.approvalRequests = ⟨row, moved db incidentId .awaitingApproval actor now, t⟩ :: rs := by
  rcases h with ⟨hdb, hrs⟩ | ⟨now, incident, hincident, hstate, hallowed, hasked⟩
  · exact .inl ⟨by rw [hdb], hrs⟩
  have hmoved : (moved db incidentId .awaitingApproval actor now).incidents[incidentId]? =
      some (withState .awaitingApproval actor now incident) := by
    simp only [moved, Table.getElem?_update_self, hincident, Option.map_some]
  rcases hasked with ⟨hdb, hrs⟩ | ⟨proposalId, proposal, reason, hnewest, hensured⟩
  · exact .inl ⟨by rw [hdb]; rfl, hrs⟩
  rcases hensured with ⟨hdb, hrs⟩ | ⟨incident', proposal', now', row, hnone, hincident', hproposal,
    hrow, hdb, hrs⟩
  · exact .inl ⟨by rw [hdb]; rfl, hrs⟩
  rw [hmoved, Option.some.injEq] at hincident'
  rw [(Table.latest_eq_some hnewest).1, Option.some.injEq] at hproposal
  subst hincident' hproposal
  exact .inr ⟨proposalId, proposal, incident, now, reason, now', row, hnewest, hnone, hincident,
    hstate, hallowed, hrow, hdb, hrs⟩

/-! ### What a run has filed -/

/-- What an approval is requested and decided by, of a world. -/
structure Papers where
  proposals : Table ActionProposal
  policyDecisions : Table PolicyDecision
  executions : Table ActionExecution
  approvals : Table Approval
  requests : List ApprovalRequest
  evaluation : Option (PolicyInput × PolicyResult)
  environments : List Environment

/-- The papers of a session. -/
def papers (w : World) : Papers where
  proposals := w.db.proposals
  policyDecisions := w.db.policyDecisions
  executions := w.db.executions
  approvals := w.db.approvals
  requests := w.approvalRequests
  evaluation := lastEvaluation w.trace
  environments := w.db.incidents.map (·.environment)

/-- Papers with a proposal and the decision of its evaluation. -/
def Papers.file (v : Papers) (proposal : ActionProposal) (decision : PolicyDecision)
    (policy : PolicyResult) : Papers :=
  { v with
    proposals := v.proposals.insert proposal
    policyDecisions := v.policyDecisions.insert decision
    evaluation := some (decision.input, policy) }

/-- Papers with one more incident. -/
def Papers.opened (v : Papers) (environment : Environment) : Papers :=
  { v with environments := v.environments ++ [environment] }

/-! ### Approvals that wait -/

/-- An approval whose rows are as they were when it was requested: what the guards of a
decision read. -/
structure Waiting (env : Env) (db : Database) (approval : Approval) (incident : Incident)
    (proposal : ActionProposal) (decision : PolicyDecision) : Prop where
  incident_row : db.incidents[approval.incidentId]? = some incident
  proposal_row : db.proposals[approval.proposalId]? = some proposal
  decision_row : ∃ id,
    db.policyDecisions.latest (·.proposalId = approval.proposalId) = some (id, decision)
  undecided : approval.decision = .pending
  awaiting : incident.state = .awaitingApproval
  pending : proposal.status = .pending
  digest_current : env.digest (contextOf approval.incidentId approval.proposalId proposal
    approval.proposalVersion) = approval.contextDigest
  radius : approval.blastRadius = blastRadius proposal.parameters
  reversible : approval.reversible = (Remediation.getActionMetadata proposal.actionType).reversible

/-- The approvals are those of the papers, or one more that waits, for this proposal of this
incident; no execution was added. -/
def AtMostWaits (env : Env) (incidentId proposalId : Nat) (v : Papers)
    (proposal : ActionProposal) (decision : PolicyDecision) (db : Database) : Prop :=
  db.approvals = v.approvals ∨ ∃ approval incident,
    db.approvals = v.approvals.insert approval ∧ db.executions = v.executions ∧
      approval.incidentId = incidentId ∧ approval.proposalId = proposalId ∧
      v.environments[incidentId]? = some incident.environment ∧
      Waiting env db approval incident proposal decision

section Leaves

variable {env : Env} {settings : Settings} {incidentId proposalId : Nat} {actor : String}
variable {force : Bool} {db : Database} {t : List Event} {rs : List ApprovalRequest} {w : World}
variable {proposal : ActionProposal} {decision : PolicyDecision} {v : Papers}

/-- A request made after the evaluation of a proposal is for that proposal. -/
theorem Awaited.requests (h : Awaited env settings incidentId actor force db t rs w)
    (he : Evaluated incidentId proposalId proposal decision db t) :
    ∀ r ∈ w.approvalRequests, r ∈ rs ∨ OfEvaluated r decision := by
  rcases h.cases with ⟨-, hrs⟩ | ⟨pid, row, incident, now, reason, now', approval, hnewest, -, -,
    -, -, rfl, -, hrs⟩
  · exact fun r hr ↦ .inl (hrs ▸ hr)
  · rw [he.newest, Option.some.injEq, Prod.mk.injEq] at hnewest
    obtain ⟨rfl, rfl⟩ := hnewest
    intro r hr
    rw [hrs, List.mem_cons] at hr
    rcases hr with rfl | hr
    · exact .inr ⟨proposal, he.newest, he.pending, he.decided, he.bound, he.asked⟩
    · exact .inl hr

/-- What a request leaves after the evaluation of a proposal waits. -/
theorem Awaited.waits (h : Awaited env settings incidentId actor force db t rs w)
    (he : Evaluated incidentId proposalId proposal decision db t)
    (happrovals : db.approvals = v.approvals) (hexecutions : db.executions = v.executions)
    (henvironments : db.incidents.map (·.environment) = v.environments) :
    AtMostWaits env incidentId proposalId v proposal decision w.db := by
  rcases h.cases with ⟨hsame, -⟩ | ⟨pid, row, incident, now, reason, now', approval, hnewest, -,
    hincident, -, -, rfl, hdb, -⟩
  · exact .inl (hsame.trans happrovals)
  rw [he.newest, Option.some.injEq, Prod.mk.injEq] at hnewest
  obtain ⟨rfl, rfl⟩ := hnewest
  obtain ⟨id, hdecided⟩ := he.decided
  have hinsert := congrArg Database.approvals hdb
  rw [happrovals] at hinsert
  refine .inr ⟨_, withState .awaitingApproval actor now incident, hinsert, ?_, rfl, rfl, ?_, ?_⟩
  · rw [hdb, ← hexecutions]
    rfl
  · rw [← henvironments, List.getElem?_map, hincident]
    rfl
  rw [hdb]
  exact {
    incident_row := by
      simp only [moved, approvalRow, Table.getElem?_update_self, hincident, Option.map_some]
    proposal_row := (Table.latest_eq_some he.newest).1
    decision_row := ⟨id, Table.latest_of_newest hdecided (decide_eq_true he.bound)⟩
    undecided := rfl
    awaiting := rfl
    pending := he.pending
    digest_current := rfl
    radius := rfl
    reversible := rfl }

/-- Setting a proposal to PENDING once more changes nothing that waits. -/
theorem AtMostWaits.refile
    (h : AtMostWaits env incidentId proposalId v proposal decision db) (id : Nat) :
    AtMostWaits env incidentId proposalId v proposal decision { db with
      proposals := db.proposals.update id fun p ↦ { p with status := .pending } } := by
  rcases h with hsame | ⟨approval, incident, hinsert, hexecutions, hof, hid, henvironment, hw⟩
  · exact .inl hsame
  · refine .inr ⟨approval, incident, hinsert, hexecutions, hof, hid, henvironment,
      { hw with proposal_row := ?_ }⟩
    rw [Table.getElem?_update]
    split
    · rw [hw.proposal_row, Option.map_some]
      congr 1
      rw [← hw.pending]
    · exact hw.proposal_row

/-- The runbook executions say nothing about what waits. -/
theorem AtMostWaits.run (h : AtMostWaits env incidentId proposalId v proposal decision db)
    (rows : Table RunbookExecution) :
    AtMostWaits env incidentId proposalId v proposal decision
      { db with runbookExecutions := rows } := by
  rcases h with hsame | ⟨approval, incident, hinsert, hexecutions, hof, hid, henvironment, hw⟩
  · exact .inl hsame
  · exact .inr ⟨approval, incident, hinsert, hexecutions, hof, hid, henvironment, { hw with }⟩

end Leaves

section Filing

variable {env : Env} {settings : Settings} {incidentId : Nat} {actor : String} {v : Papers}
variable {proposal : ActionProposal} {decision : PolicyDecision} {policy : PolicyResult}

/-- Papers do not show what else is set of an incident. -/
theorem papers_update (w : World) (id : Nat) {f : Incident → Incident}
    (hf : ∀ row, (f row).environment = row.environment) :
    papers { w with db := { w.db with incidents := w.db.incidents.update id f } } = papers w := by
  simp only [papers, Table.map_update _ _ hf]

theorem frames_papers_change (env : Env) (settings : Settings) (incidentId : Nat)
    {target : IncidentState} (actor : String) (details : Details)
    (h : target ≠ .awaitingApproval) :
    Exec.Frames papers (changeIncidentState env settings incidentId target actor details) :=
  frames_changeIncidentState_of_update (fun _ _ ↦ rfl) env settings incidentId target actor
    details false (fun w _ ↦ papers_update w _ fun _ ↦ rfl) (fun _ _ _ ↦ rfl)
    fun ht ↦ absurd ht h

/-- A stage that leaves the papers alone requests nothing. -/
theorem keeps_papers {α : Type} {x : Service α} (hx : Exec.Frames papers x) :
    Exec.Triple (fun w ↦ papers w = v) x (fun _ w ↦ papers w = v)
      fun _ w ↦ w.approvalRequests = v.requests :=
  (hx.keeps (· = v)).mono (fun _ h ↦ h) (fun _ _ h ↦ h) fun _ _ h ↦ congrArg Papers.requests h

/-- A new incident, of the environment of its row. -/
theorem papers_createIncident (env : Env) (row : Incident) (actor : String) :
    Exec.Triple (fun w ↦ papers w = v) (createIncident env row actor)
      (fun id w ↦ papers w = v.opened row.environment ∧ id = v.environments.length)
      fun _ w ↦ w.approvalRequests = v.requests := by
  apply Exec.Triple.bind (Q := fun id w ↦ papers w = v ∧ id = v.environments.length)
  · rintro w rfl
    refine ⟨rfl, ?_⟩
    simp only [papers, List.length_map]
    rfl
  intro id
  apply Exec.Triple.assume
  rintro rfl
  apply Exec.Triple.bind (Q := fun _ w ↦ papers w = v.opened row.environment)
  · apply triple_write
    rintro w rfl
    simp only [papers, Papers.opened, Table.insert, List.map_append, List.map_cons, List.map_nil]
    rfl
  intro _
  apply Exec.Triple.bind
  · exact keeps_papers (v := v.opened row.environment) (Exec.frames_update fun _ ↦ rfl)
  intro _
  have hflush : Exec.Triple (fun w ↦ papers w = v.opened row.environment) (flush env)
      (fun _ w ↦ papers w = v.opened row.environment)
      fun _ w ↦ w.approvalRequests = v.requests :=
    keeps_papers (v := v.opened row.environment) (frames_flush env fun _ _ ↦ rfl)
  apply Exec.Triple.bind hflush
  intro _
  apply Exec.Triple.bind hflush
  intro _
  apply Exec.Triple.bind hflush
  intro _
  apply Exec.Triple.bind hflush
  intro _
  exact Exec.Triple.pure fun _ h ↦ ⟨h, rfl⟩

/-- A filed proposal with its decision was evaluated last. -/
theorem evaluated_of_papers {w : World} (hw : papers w = v.file proposal decision policy)
    (hof : proposal.incidentId = incidentId) (hpending : proposal.status = .pending)
    (hbound : decision.proposalId = v.proposals.fresh)
    (hallowed : policy.allowed = decision.allowed)
    (hrequires : policy.requiresApproval = decision.requiresApproval) :
    Evaluated incidentId v.proposals.fresh proposal decision w.db w.trace where
  newest := by
    have hproposals : w.db.proposals = v.proposals.insert proposal :=
      congrArg Papers.proposals hw
    rw [hproposals]
    exact Table.latest_insert_of_pos (decide_eq_true hof)
  pending := hpending
  decided := by
    have hdecisions : w.db.policyDecisions = v.policyDecisions.insert decision :=
      congrArg Papers.policyDecisions hw
    rw [hdecisions]
    exact ⟨_, Table.latest_insert_of_pos rfl⟩
  bound := hbound
  asked := ⟨policy, congrArg Papers.evaluation hw, hallowed, hrequires⟩

/-- The state change that starts to wait, after the evaluation of a proposal. -/
theorem triple_await {C : PolicyDecision → Prop} {proposalId : Nat} (details : Details)
    (hanswered : Answered env decision) (hC : C decision)
    (hevaluated : ∀ w, papers w = v →
      Evaluated incidentId proposalId proposal decision w.db w.trace) :
    Exec.Triple (fun w ↦ papers w = v)
      (changeIncidentState env settings incidentId .awaitingApproval actor details)
      (fun _ w ↦ RequestsFrom env C v.requests w ∧
        AtMostWaits env incidentId proposalId v proposal decision w.db)
      fun _ ↦ RequestsFrom env C v.requests := by
  intro w₀ hw₀
  have hspec : Exec.Triple
      (fun w ↦ w.db = w₀.db ∧ w.trace = w₀.trace ∧ w.approvalRequests = w₀.approvalRequests)
      (changeIncidentState env settings incidentId .awaitingApproval actor details)
      (fun _ ↦ Awaited env settings incidentId actor false w₀.db w₀.trace w₀.approvalRequests)
      fun _ ↦ Awaited env settings incidentId actor false w₀.db w₀.trace w₀.approvalRequests :=
    triple_awaitApproval env settings incidentId actor details false
  replace hspec := hspec w₀ ⟨rfl, rfl, rfl⟩
  have he := hevaluated w₀ hw₀
  have hexecutions : w₀.db.executions = v.executions := congrArg Papers.executions hw₀
  have happrovals : w₀.db.approvals = v.approvals := congrArg Papers.approvals hw₀
  have hrequests : w₀.approvalRequests = v.requests := congrArg Papers.requests hw₀
  have henvironments : w₀.db.incidents.map (·.environment) = v.environments :=
    congrArg Papers.environments hw₀
  have hfrom : ∀ w,
      Awaited env settings incidentId actor false w₀.db w₀.trace w₀.approvalRequests w →
        RequestsFrom env C v.requests w := by
    intro w hw r hr
    rcases hw.requests he r hr with hold | hof
    · exact .inl (hrequests ▸ hold)
    · exact .inr ⟨decision, hof, hanswered, hC⟩
  rcases hr : (changeIncidentState env settings incidentId .awaitingApproval actor details).run w₀
    with ⟨e | a, w⟩
  · rw [hr] at hspec
    exact hfrom w hspec
  · rw [hr] at hspec
    exact ⟨hfrom w hspec, hspec.waits he happrovals hexecutions henvironments⟩

end Filing

end CloudWard.Approvals
