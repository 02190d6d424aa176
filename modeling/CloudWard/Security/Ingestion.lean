import CloudWard.Logic.Runs
import CloudWard.Security.Approval
import CloudWard.Security.Machine

/-!
# What an ingestion leaves

An ingestion that returns leaves one event more, with an incident, a proposal and a decision of
its own, all in step with the answer of the policy; or it was delivered before, and counts. One
that raises leaves the committed rows alone.
-/

namespace CloudWard.Security

open CloudWard.Approvals CloudWard.Db CloudWard.Incidents CloudWard.Kubernetes CloudWard.Logic
  CloudWard.Policies CloudWard.Remediation Service

/-! ### Answers -/

/-- What an answer of OPA asks of an ingestion. -/
inductive PolicyAnswer
  | allow
  | requiresApproval
  | deny
deriving DecidableEq

namespace PolicyAnswer

/-- The answer of a result; a result that denies is also that of an OPA that fails. -/
def of (allowed requiresApproval : Bool) : PolicyAnswer :=
  if allowed then .allow else if requiresApproval then .requiresApproval else .deny

/-- The containment status of an event. -/
def containment : PolicyAnswer → ContainmentStatus
  | allow => .proposed
  | requiresApproval => .awaitingApproval
  | deny => .notProposed

/-- The state of its incident. -/
def state : PolicyAnswer → IncidentState
  | allow => .policyEvaluation
  | requiresApproval => .awaitingApproval
  | deny => .blocked

/-- The status of its proposal. -/
def proposal : PolicyAnswer → RecordStatus
  | deny => .rejected
  | _ => .pending

/-- Its approvals. -/
def approvals : PolicyAnswer → List ApprovalDecision
  | requiresApproval => [.pending]
  | _ => []

/-- A policy that could not be evaluated denies. -/
theorem of_denied (reason : String) (h : 1 ≤ reason.length ∧ reason.length ≤ 2000) :
    of (PolicyResult.denied reason h).allowed (PolicyResult.denied reason h).requiresApproval =
      .deny := rfl

theorem containment_injective : Function.Injective containment := by
  intro a b h
  cases a <;> cases b <;> first | rfl | cases h

end PolicyAnswer

/-- The event, its incident and all that belongs to the incident are in step with the answer. -/
def Settled (db : Database) (eventId : Nat) (answer : PolicyAnswer) : Prop :=
  ∃ event incidentId, db.securityEvents[eventId]? = some event ∧
    event.incidentId = some incidentId ∧
    event.containmentStatus = answer.containment ∧
    db.incidents[incidentId]?.map (·.state) = some answer.state ∧
    (db.proposals.filter (·.incidentId = incidentId)).map (·.status) = [answer.proposal] ∧
    (db.policyDecisions.filter (·.incidentId = incidentId)).map
      (fun row ↦ PolicyAnswer.of row.allowed row.requiresApproval) = [answer] ∧
    (db.approvals.filter (·.incidentId = incidentId)).map (·.decision) = answer.approvals

/-- An event is settled by one answer. -/
theorem Settled.unique {db : Database} {eventId : Nat} {answer answer' : PolicyAnswer}
    (h : Settled db eventId answer) (h' : Settled db eventId answer') : answer = answer' := by
  obtain ⟨event, _, hevent, -, hstatus, -⟩ := h
  obtain ⟨event', _, hevent', -, hstatus', -⟩ := h'
  rw [hevent, Option.some.injEq] at hevent'
  subst hevent'
  exact PolicyAnswer.containment_injective (hstatus.symm.trans hstatus')

/-! ### Exact rows -/

/-- The rows of the session and the committed ones. -/
def At (db rows : Database) (w : World) : Prop := w.db = db ∧ w.committed = rows

section Exact

variable {env : Env} {settings : Settings} {db rows : Database} {α : Type} {x : Service α}

/-- A stage that changes no row. -/
theorem triple_at (hx : Exec.Frames (seen id) x) :
    Exec.Triple (At db rows) x (fun _ ↦ At db rows) fun _ w ↦ w.committed = rows := by
  apply (hx.keeps fun v ↦ v.1 = db ∧ v.2 = rows).mono
  · exact fun _ h ↦ h
  · exact fun _ _ h ↦ h
  · exact fun _ _ h ↦ h.2

theorem at_flush : Exec.Triple (At db rows) (flush env) (fun _ ↦ At db rows)
    fun _ w ↦ w.committed = rows := triple_at (frames_seen_flush env)

/-- A query of these rows. -/
theorem at_query {β : Type} (f : Database → β) :
    Exec.Triple (At db rows) (query env f) (fun b w ↦ At db rows w ∧ b = f db)
      fun _ w ↦ w.committed = rows := by
  apply Exec.Triple.bind at_flush
  intro _
  exact Exec.Triple.read fun w hw ↦ ⟨hw, congrArg f hw.1⟩

/-- A change of the rows. -/
theorem at_write (f : Database → Database) :
    Exec.Triple (At db rows) (write f) (fun _ ↦ At (f db) rows) fun _ w ↦ w.committed = rows :=
  triple_write fun _ hw ↦ ⟨congrArg f hw.1, hw.2⟩

/-- An incident that is there is loaded. -/
theorem at_loadIncident {incidentId : Nat} {incident : Incident}
    (hincident : db.incidents[incidentId]? = some incident) :
    Exec.Triple (At db rows) (loadIncident incidentId)
      (fun row w ↦ At db rows w ∧ row = incident) fun _ w ↦ w.committed = rows := by
  apply (triple_loadIncident incidentId).mono (fun _ h ↦ h)
  · rintro row w ⟨hw, hrow⟩
    rw [hw.1, hincident, Option.some.injEq] at hrow
    exact ⟨hw, hrow.symm⟩
  · exact fun _ _ h ↦ h.2

/-- The rows with a pending approval more, of a proposal of an incident. -/
def WithApproval (db rows : Database) (incidentId proposalId : Nat) (w : World) : Prop :=
  ∃ approval : Approval, approval.incidentId = incidentId ∧ approval.proposalId = proposalId ∧
    approval.decision = .pending ∧ At { db with approvals := db.approvals.insert approval } rows w

private theorem withApproval_of_frames {incidentId proposalId : Nat}
    (hx : Exec.Frames (seen id) x) :
    Exec.Triple (WithApproval db rows incidentId proposalId) x
      (fun _ ↦ WithApproval db rows incidentId proposalId) fun _ w ↦ w.committed = rows := by
  apply (hx.keeps fun v ↦ ∃ approval : Approval, approval.incidentId = incidentId ∧
    approval.proposalId = proposalId ∧ approval.decision = .pending ∧
      v.1 = { db with approvals := db.approvals.insert approval } ∧ v.2 = rows).mono
  · exact fun _ h ↦ h
  · exact fun _ _ h ↦ h
  · rintro _ _ ⟨_, -, -, -, -, hcommitted⟩
    exact hcommitted

private theorem at_ensureRuntimeApproval {incidentId proposalId : Nat} {incident : Incident}
    (actor : String) (reason : Option String)
    (hincident : db.incidents[incidentId]? = some incident)
    (hnone : db.approvals.latest
      (fun a ↦ a.proposalId = proposalId ∧ a.proposalVersion = 1) = none) :
    Exec.Triple (At db rows) (ensureRuntimeApproval env settings incidentId proposalId actor reason)
      (fun _ ↦ WithApproval db rows incidentId proposalId) fun _ w ↦ w.committed = rows := by
  have hflush : Exec.Triple (WithApproval db rows incidentId proposalId) (flush env)
      (fun _ ↦ WithApproval db rows incidentId proposalId) fun _ w ↦ w.committed = rows :=
    withApproval_of_frames (frames_seen_flush env)
  apply Exec.Triple.bind (at_query _)
  intro existing
  apply Exec.Triple.assume
  rintro rfl
  rw [hnone]
  apply Exec.Triple.bind (at_loadIncident hincident)
  intro row
  apply Exec.Triple.assume
  intro _
  apply Exec.Triple.bind (Q := fun _ ↦ At db rows)
  · apply (triple_loadProposal proposalId).mono (fun _ h ↦ h)
    · exact fun _ _ h ↦ h.1
    · exact fun _ _ h ↦ h.2
  intro proposal
  apply Exec.Triple.bind (triple_at (frames_ask _ fun _ _ ↦ rfl))
  intro now
  apply Exec.Triple.bind (triple_at (Exec.frames_read _))
  intro id
  apply Exec.Triple.bind (Q := fun _ ↦ WithApproval db rows incidentId proposalId)
  · apply Exec.Triple.update
    rintro w ⟨rfl, hcommitted⟩
    exact ⟨_, rfl, rfl, rfl, rfl, hcommitted⟩
  intro _
  apply Exec.Triple.bind hflush
  intro _
  apply Exec.Triple.bind hflush
  intro _
  apply Exec.Triple.bind hflush
  intro _
  exact Exec.Triple.pure fun _ h ↦ h

/-- The first approval of an incident's newest proposal is requested. -/
theorem at_requestApproval {incidentId proposalId : Nat} {incident : Incident}
    {proposal : ActionProposal} (actor : String) (details : Details)
    (hincident : db.incidents[incidentId]? = some incident)
    (hnewest : db.proposals.latest (·.incidentId = incidentId) = some (proposalId, proposal))
    (hnone : db.approvals.latest
      (fun a ↦ a.proposalId = proposalId ∧ a.proposalVersion = 1) = none) :
    Exec.Triple (At db rows) (requestApproval env settings incidentId actor details)
      (fun _ ↦ WithApproval db rows incidentId proposalId) fun _ w ↦ w.committed = rows := by
  apply Exec.Triple.bind (at_query _)
  intro newest
  apply Exec.Triple.assume
  rintro rfl
  rw [hnewest]
  apply Exec.Triple.bind
  · exact at_ensureRuntimeApproval actor _ hincident hnone
  · exact fun _ ↦ Exec.Triple.pure fun _ h ↦ h

/-- The part of a state change before its approval: the incident has moved. -/
private theorem at_moves {incidentId : Nat} {incident : Incident} {target : IncidentState}
    (actor : String) (hincident : db.incidents[incidentId]? = some incident)
    (hmoves : incident.state ≠ target) {rest : Service Unit} {Q : World → Prop}
    (hrest : ∀ now, Exec.Triple (At (moved db incidentId target actor now) rows) rest
      (fun _ ↦ Q) fun _ w ↦ w.committed = rows) :
    Exec.Triple (At db rows)
      (do
        let incident ← loadIncident incidentId
        Exec.when (incident.state ≠ target) do
          Exec.when (¬ false) (checkTransition incident.state target)
          let now ← ask env.now
          updateIncident incidentId (withState target actor now)
          Exec.when target.isTerminal (countActive incident.environment (-1))
          flush env
          flush env
          rest)
      (fun _ ↦ Q) fun _ w ↦ w.committed = rows := by
  apply Exec.Triple.bind (at_loadIncident hincident)
  intro row
  apply Exec.Triple.assume
  rintro rfl
  apply Exec.Triple.when
  · intro _
    apply Exec.Triple.bind
    · exact triple_at (Exec.frames_when fun _ ↦ frames_checkTransition _ _)
    intro _
    apply Exec.Triple.bind (triple_at (frames_ask _ fun _ _ ↦ rfl))
    intro now
    apply Exec.Triple.bind (Q := fun _ ↦ At (moved db incidentId target actor now) rows)
    · exact at_write _
    intro _
    apply Exec.Triple.bind
    · exact triple_at (Exec.frames_when fun _ ↦ Exec.frames_update fun _ ↦ rfl)
    intro _
    apply Exec.Triple.bind at_flush
    intro _
    apply Exec.Triple.bind at_flush
    exact fun _ ↦ hrest now
  · exact fun h ↦ absurd hmoves h

/-- A change to a state that asks for no approval moves the incident. -/
theorem at_change {incidentId : Nat} {incident : Incident} {target : IncidentState}
    (actor : String) (details : Details) (hincident : db.incidents[incidentId]? = some incident)
    (hmoves : incident.state ≠ target) (h : target ≠ .awaitingApproval) :
    Exec.Triple (At db rows) (changeIncidentState env settings incidentId target actor details)
      (fun _ w ↦ ∃ now, At (moved db incidentId target actor now) rows w)
      fun _ w ↦ w.committed = rows := by
  apply at_moves actor hincident hmoves
  intro now
  apply Exec.Triple.bind (Q := fun _ ↦ At (moved db incidentId target actor now) rows)
  · exact Exec.Triple.when (fun ht ↦ absurd ht h) fun _ _ hw ↦ hw
  intro _
  apply Exec.Triple.bind
  · exact triple_at (Exec.frames_when fun _ ↦ frames_captureTerminalIncident (fun _ _ ↦ rfl) env)
  intro _
  exact at_flush.mono (fun _ hw ↦ hw) (fun _ _ hw ↦ ⟨now, hw⟩) fun _ _ hw ↦ hw

/-- A change to AWAITING_APPROVAL moves the incident and requests an approval of its newest
proposal. -/
theorem at_await {incidentId proposalId : Nat} {incident : Incident} {proposal : ActionProposal}
    (actor : String) (details : Details) (hincident : db.incidents[incidentId]? = some incident)
    (hmoves : incident.state ≠ .awaitingApproval)
    (hnewest : db.proposals.latest (·.incidentId = incidentId) = some (proposalId, proposal))
    (hnone : db.approvals.latest
      (fun a ↦ a.proposalId = proposalId ∧ a.proposalVersion = 1) = none) :
    Exec.Triple (At db rows)
      (changeIncidentState env settings incidentId .awaitingApproval actor details)
      (fun _ w ↦ ∃ now, WithApproval (moved db incidentId .awaitingApproval actor now) rows
        incidentId proposalId w) fun _ w ↦ w.committed = rows := by
  apply at_moves actor hincident hmoves
  intro now
  have hmoved : (moved db incidentId .awaitingApproval actor now).incidents[incidentId]? =
      some (withState .awaitingApproval actor now incident) := by
    unfold moved
    rw [Table.getElem?_update_self, hincident, Option.map_some]
  apply Exec.Triple.bind (Q := fun _ ↦ WithApproval
    (moved db incidentId .awaitingApproval actor now) rows incidentId proposalId)
  · apply Exec.Triple.when
    · exact fun _ ↦ at_requestApproval actor details hmoved hnewest hnone
    · exact fun hne ↦ absurd rfl hne
  intro _
  apply Exec.Triple.bind
  · exact withApproval_of_frames
      (Exec.frames_when fun _ ↦ frames_captureTerminalIncident (fun _ _ ↦ rfl) env)
  intro _
  apply (withApproval_of_frames (frames_seen_flush env)).mono
  · exact fun _ hw ↦ hw
  · exact fun _ _ hw ↦ ⟨now, hw⟩
  · exact fun _ _ hw ↦ hw

end Exact

/-! ### What a new event brings -/

/-- The rows a new event brings. -/
structure Entry where
  incident : Incident
  event : SecurityEvent
  proposal : ActionProposal
  decision : PolicyDecision
  approvals : List Approval

/-- The rows with those of the event. -/
def Entry.file (e : Entry) (rows : Database) : Database :=
  { rows with
    incidents := rows.incidents.insert e.incident
    securityEvents := rows.securityEvents.insert e.event
    proposals := rows.proposals.insert e.proposal
    policyDecisions := rows.policyDecisions.insert e.decision
    approvals := rows.approvals ++ e.approvals }

/-- The columns that say which event was delivered. -/
def eventKey (event : SecurityEvent) : String × String := (event.source, event.fingerprint)

/-- The rows are of the delivery, of one incident, and in step with the answer. -/
structure Entry.Fits (e : Entry) (rows : Database) (d : Delivery) (answer : PolicyAnswer) :
    Prop where
  key : eventKey e.event = ("tetragon", d.fingerprint)
  event : e.event.incidentId = some rows.incidents.fresh
  containment : e.event.containmentStatus = answer.containment
  state : e.incident.state = answer.state
  proposal : e.proposal.incidentId = rows.incidents.fresh
  status : e.proposal.status = answer.proposal
  decision : e.decision.incidentId = rows.incidents.fresh
  answered : PolicyAnswer.of e.decision.allowed e.decision.requiresApproval = answer
  approvals : ∀ a ∈ e.approvals,
    a.incidentId = rows.incidents.fresh ∧ a.proposalId = rows.proposals.fresh
  pending : e.approvals.map (·.decision) = answer.approvals

/-! ### The stages of an ingestion -/

/-- The rows of an ingestion: a new incident in a state, and all else as in `base`. -/
def Drafted (rows base : Database) (state : IncidentState) (w : World) : Prop :=
  ∃ incident : Incident, incident.state = state ∧
    At { base with incidents := rows.incidents.insert incident } rows w

section Stages

variable {env : Env} {settings : Settings} {rows base : Database} {state : IncidentState}
variable {α : Type} {x : Service α}

private theorem drafted_of_frames (hx : Exec.Frames (seen id) x) :
    Exec.Triple (Drafted rows base state) x (fun _ ↦ Drafted rows base state)
      fun _ w ↦ w.committed = rows := by
  apply (hx.keeps fun v ↦ ∃ incident : Incident, incident.state = state ∧
    v.1 = { base with incidents := rows.incidents.insert incident } ∧ v.2 = rows).mono
  · exact fun _ h ↦ h
  · exact fun _ _ h ↦ h
  · rintro _ _ ⟨_, -, -, hcommitted⟩
    exact hcommitted

private theorem drafted_flush : Exec.Triple (Drafted rows base state) (flush env)
    (fun _ ↦ Drafted rows base state) fun _ w ↦ w.committed = rows :=
  drafted_of_frames (frames_seen_flush env)

/-- A change of other rows than incidents. -/
private theorem drafted_write {f : Database → Database}
    (hf : ∀ incidents, f { base with incidents } = { f base with incidents }) :
    Exec.Triple (Drafted rows base state) (write f) (fun _ ↦ Drafted rows (f base) state)
      fun _ w ↦ w.committed = rows := by
  apply triple_write
  rintro w ⟨incident, hstate, hw⟩
  refine ⟨incident, hstate, ?_, hw.2⟩
  show f w.db = _
  rw [hw.1, hf]

/-- A change of the incident that keeps its state. -/
private theorem drafted_updateIncident {f : Incident → Incident}
    (hf : ∀ row, (f row).state = row.state) :
    Exec.Triple (Drafted rows base state) (updateIncident rows.incidents.fresh f)
      (fun _ ↦ Drafted rows base state) fun _ w ↦ w.committed = rows := by
  apply triple_write
  rintro w ⟨incident, hstate, hw⟩
  refine ⟨f incident, (hf incident).trans hstate, ?_, hw.2⟩
  dsimp only
  rw [hw.1]
  dsimp only
  rw [Table.update_insert_fresh]

/-- The incident moves. -/
private theorem drafted_change {target : IncidentState} (hmoves : state ≠ target)
    (h : target ≠ .awaitingApproval) (actor : String) (details : Details) :
    Exec.Triple (Drafted rows base state)
      (changeIncidentState env settings rows.incidents.fresh target actor details)
      (fun _ ↦ Drafted rows base target) fun _ w ↦ w.committed = rows := by
  rintro w ⟨incident, rfl, hw⟩
  have hchange : Exec.Triple (At { base with incidents := rows.incidents.insert incident } rows)
      (changeIncidentState env settings rows.incidents.fresh target actor details)
      (fun _ w ↦ ∃ now, At (moved { base with incidents := rows.incidents.insert incident }
        rows.incidents.fresh target actor now) rows w) fun _ w ↦ w.committed = rows :=
    at_change actor details (Table.getElem?_insert_fresh rows.incidents incident) hmoves h
  refine (hchange.mono (fun _ hp ↦ hp) ?_ fun _ _ he ↦ he) w hw
  rintro _ w ⟨now, hw⟩
  refine ⟨withState target actor now incident, rfl, ?_⟩
  unfold moved at hw
  rwa [Table.update_insert_fresh] at hw

/-- The incident waits for the approval of its newest proposal. -/
private theorem drafted_await {proposalId : Nat} {proposal : ActionProposal}
    (hmoves : state ≠ .awaitingApproval) (actor : String) (details : Details)
    (hnewest : base.proposals.latest (·.incidentId = rows.incidents.fresh) =
      some (proposalId, proposal))
    (hnone : base.approvals.latest
      (fun a ↦ a.proposalId = proposalId ∧ a.proposalVersion = 1) = none) :
    Exec.Triple (Drafted rows base state)
      (changeIncidentState env settings rows.incidents.fresh .awaitingApproval actor details)
      (fun _ w ↦ ∃ approval : Approval, approval.incidentId = rows.incidents.fresh ∧
        approval.proposalId = proposalId ∧ approval.decision = .pending ∧
        Drafted rows { base with approvals := base.approvals.insert approval }
          .awaitingApproval w) fun _ w ↦ w.committed = rows := by
  rintro w ⟨incident, rfl, hw⟩
  have hawait : Exec.Triple (At { base with incidents := rows.incidents.insert incident } rows)
      (changeIncidentState env settings rows.incidents.fresh .awaitingApproval actor details)
      (fun _ w ↦ ∃ now, WithApproval (moved { base with
        incidents := rows.incidents.insert incident } rows.incidents.fresh .awaitingApproval actor
          now) rows rows.incidents.fresh proposalId w) fun _ w ↦ w.committed = rows :=
    at_await actor details (Table.getElem?_insert_fresh rows.incidents incident) hmoves hnewest
      hnone
  refine (hawait.mono (fun _ hp ↦ hp) ?_ fun _ _ he ↦ he) w hw
  rintro _ w ⟨now, approval, hincident, hproposal, hpending, hw⟩
  refine ⟨approval, hincident, hproposal, hpending,
    withState .awaitingApproval actor now incident, rfl, ?_⟩
  unfold moved at hw
  rwa [Table.update_insert_fresh] at hw

/-- The rows once the event is in. -/
private def eventRows (rows : Database) (d : Delivery) : Database :=
  { rows with
    securityEvents := rows.securityEvents.insert (eventRow d rows.incidents.fresh) }

private theorem triple_openEvent_at (d : Delivery) :
    Exec.Triple (At rows rows) (openEvent env settings d)
      (fun ids w ↦ Drafted rows (eventRows rows d) .classifying w ∧
        ids = (rows.incidents.fresh, rows.securityEvents.fresh))
      fun _ w ↦ w.committed = rows := by
  apply Exec.Triple.bind (Q := fun incidentId w ↦ Drafted rows rows .detected w ∧
    incidentId = rows.incidents.fresh)
  · -- the incident is created
    apply Exec.Triple.bind (Q := fun incidentId w ↦ At rows rows w ∧
      incidentId = rows.incidents.fresh)
    · exact Exec.Triple.read fun w hw ↦ ⟨hw, congrArg (fun db : Database ↦ db.incidents.fresh) hw.1⟩
    intro incidentId
    apply Exec.Triple.assume
    rintro rfl
    apply Exec.Triple.bind (Q := fun _ ↦ Drafted rows rows .detected)
    · apply triple_write
      rintro w ⟨hdb, hcommitted⟩
      refine ⟨asCreated "tetragon-forwarder" (incidentRow d), rfl, ?_, hcommitted⟩
      dsimp only
      rw [hdb]
    intro _
    apply Exec.Triple.bind
    · exact drafted_of_frames (Exec.frames_update fun _ ↦ rfl)
    intro _
    apply Exec.Triple.bind drafted_flush
    intro _
    apply Exec.Triple.bind drafted_flush
    intro _
    apply Exec.Triple.bind drafted_flush
    intro _
    apply Exec.Triple.bind drafted_flush
    intro _
    exact Exec.Triple.pure fun _ h ↦ ⟨h, rfl⟩
  intro incidentId
  apply Exec.Triple.assume
  rintro rfl
  apply Exec.Triple.bind
  · exact drafted_updateIncident fun _ ↦ rfl
  intro _
  apply Exec.Triple.bind (drafted_of_frames (frames_seen_notification env _))
  intro _
  apply Exec.Triple.bind
  · exact drafted_updateIncident fun _ ↦ rfl
  intro _
  apply Exec.Triple.bind (Q := fun eventId w ↦ Drafted rows (eventRows rows d) .detected w ∧
    eventId = rows.securityEvents.fresh)
  · -- the event is inserted
    apply Exec.Triple.bind (Q := fun events w ↦ Drafted rows rows .detected w ∧
      events = rows.securityEvents)
    · apply Exec.Triple.read
      rintro w ⟨incident, hstate, hw⟩
      exact ⟨⟨incident, hstate, hw⟩, (congrArg Database.securityEvents hw.1 :)⟩
    intro events
    apply Exec.Triple.assume
    rintro rfl
    apply Exec.Triple.bind (drafted_of_frames (Exec.frames_require _ _))
    intro _
    apply Exec.Triple.bind
    · exact drafted_write fun _ ↦ rfl
    intro _
    apply Exec.Triple.bind drafted_flush
    intro _
    exact Exec.Triple.pure fun _ h ↦ ⟨h, rfl⟩
  intro eventId
  apply Exec.Triple.assume
  rintro rfl
  apply Exec.Triple.bind drafted_flush
  intro _
  apply Exec.Triple.bind drafted_flush
  intro _
  apply Exec.Triple.bind (drafted_change (by decide) (by decide) _ _)
  intro _
  apply Exec.Triple.bind (drafted_change (by decide) (by decide) _ _)
  intro _
  exact Exec.Triple.pure fun _ h ↦ ⟨h, rfl⟩

/-- The event once it is evaluated. -/
private def evaluatedEvent (rows : Database) (d : Delivery) (policy : PolicyResult) :
    SecurityEvent :=
  { eventRow d rows.incidents.fresh with
    riskScore := some (ingestionInput d.event d.labels).riskScore
    policyDecision := some (if policy.allowed then "ALLOW" else "DENY") }

/-- The rows once the proposal is evaluated. -/
private def evaluatedRows (rows : Database) (d : Delivery) (policy : PolicyResult) : Database :=
  { rows with
    securityEvents := rows.securityEvents.insert (evaluatedEvent rows d policy)
    proposals := rows.proposals.insert
      (proposalRow d rows.incidents.fresh rows.securityEvents.fresh)
    policyDecisions := rows.policyDecisions.insert
      (filedDecision d rows.incidents.fresh rows.proposals.fresh policy) }

private theorem triple_proposeQuarantine_at (d : Delivery) :
    Exec.Triple (Drafted rows (eventRows rows d) .classifying)
      (proposeQuarantine env settings d rows.incidents.fresh rows.securityEvents.fresh)
      (fun filed w ↦ ∃ w', filed = (rows.proposals.fresh,
          env.opa w' (ingestionInput d.event d.labels)) ∧
        Drafted rows (evaluatedRows rows d (env.opa w' (ingestionInput d.event d.labels)))
          .policyEvaluation w)
      fun _ w ↦ w.committed = rows := by
  apply Exec.Triple.bind
  · exact drafted_updateIncident fun _ ↦ rfl
  intro _
  apply Exec.Triple.bind drafted_flush
  intro _
  apply Exec.Triple.bind (drafted_change (by decide) (by decide) _ _)
  intro _
  let proposed : Database := { eventRows rows d with
    proposals := rows.proposals.insert
      (proposalRow d rows.incidents.fresh rows.securityEvents.fresh) }
  apply Exec.Triple.bind (Q := fun proposalId w ↦ Drafted rows proposed .actionProposed w ∧
    proposalId = rows.proposals.fresh)
  · rintro w ⟨incident, hstate, hw⟩
    have hproposals : w.db.proposals = rows.proposals := (congrArg Database.proposals hw.1 :)
    refine ⟨⟨incident, hstate, ?_, hw.2⟩, congrArg Table.fresh hproposals⟩
    dsimp only
    rw [hw.1]
    rfl
  intro proposalId
  apply Exec.Triple.assume
  rintro rfl
  apply Exec.Triple.bind drafted_flush
  intro _
  apply Exec.Triple.bind drafted_flush
  intro _
  apply Exec.Triple.bind (drafted_change (by decide) (by decide) _ _)
  intro _
  apply Exec.Triple.bind (Q := fun policy w ↦ ∃ w',
    policy = env.opa w' (ingestionInput d.event d.labels) ∧
      Drafted rows proposed .policyEvaluation w)
  · exact fun w hw ↦ ⟨w, rfl, hw⟩
  rintro policy w ⟨w', rfl, hw⟩
  revert w
  change Exec.Triple _ _ _ _
  apply Exec.Triple.bind
  · exact drafted_write fun _ ↦ rfl
  intro _
  apply Exec.Triple.bind
  · exact drafted_write fun _ ↦ rfl
  intro _
  apply Exec.Triple.bind drafted_flush
  intro _
  apply Exec.Triple.pure
  intro w hw
  refine ⟨w', rfl, ?_⟩
  unfold proposed eventRows at hw
  dsimp only at hw
  rw [Table.update_insert_fresh] at hw
  exact hw

/-- The evaluated rows, with a containment status of the event. -/
private def heldRows (rows : Database) (d : Delivery) (policy : PolicyResult)
    (status : ContainmentStatus) : Database :=
  { evaluatedRows rows d policy with
    securityEvents := rows.securityEvents.insert
      { evaluatedEvent rows d policy with containmentStatus := status } }

/-- The entry of an evaluated event, as its answer leaves it. -/
private def settledEntry (rows : Database) (d : Delivery) (policy : PolicyResult)
    (incident : Incident) (approvals : List Approval) : Entry :=
  let answer := PolicyAnswer.of policy.allowed policy.requiresApproval
  { incident
    event := { evaluatedEvent rows d policy with containmentStatus := answer.containment }
    proposal := { proposalRow d rows.incidents.fresh rows.securityEvents.fresh with
      status := answer.proposal }
    decision := filedDecision d rows.incidents.fresh rows.proposals.fresh policy
    approvals }

private theorem triple_settleEvent_at (d : Delivery) (policy : PolicyResult)
    (happrovals : ∀ a ∈ rows.approvals, a.proposalId < rows.proposals.length) :
    Exec.Triple (Drafted rows (evaluatedRows rows d policy) .policyEvaluation)
      (settleEvent env settings rows.incidents.fresh rows.securityEvents.fresh
        rows.proposals.fresh policy)
      (fun _ w ↦ ∃ e : Entry,
        e.Fits rows d (.of policy.allowed policy.requiresApproval) ∧ At (e.file rows) rows w)
      fun _ w ↦ w.committed = rows := by
  have hfits {incident : Incident} {approvals : List Approval}
      (hstate : incident.state = (PolicyAnswer.of policy.allowed policy.requiresApproval).state)
      (hof : ∀ a ∈ approvals,
        a.incidentId = rows.incidents.fresh ∧ a.proposalId = rows.proposals.fresh)
      (hpending : approvals.map (·.decision) =
        (PolicyAnswer.of policy.allowed policy.requiresApproval).approvals) :
      (settledEntry rows d policy incident approvals).Fits rows d
        (.of policy.allowed policy.requiresApproval) :=
    ⟨rfl, rfl, rfl, hstate, rfl, rfl, rfl, rfl, hof, hpending⟩
  -- setting the containment status of the event that was just inserted
  have hcontain (status : ContainmentStatus) :
      Exec.Triple (Drafted rows (evaluatedRows rows d policy) .policyEvaluation)
        (updateSecurityEvent rows.securityEvents.fresh fun event ↦
          { event with containmentStatus := status })
        (fun _ ↦ Drafted rows (heldRows rows d policy status) .policyEvaluation)
        fun _ w ↦ w.committed = rows := by
    apply triple_write
    rintro w ⟨incident, hstate, hw⟩
    refine ⟨incident, hstate, ?_, hw.2⟩
    dsimp only
    rw [hw.1]
    dsimp only [evaluatedRows]
    rw [Table.update_insert_fresh]
    rfl
  unfold settleEvent
  apply Exec.Triple.ite
  · intro hallowed
    have hanswer : PolicyAnswer.of policy.allowed policy.requiresApproval = .allow :=
      if_pos hallowed
    apply (hcontain .proposed).mono (fun _ h ↦ h)
    · rintro _ w ⟨incident, hstate, hw⟩
      refine ⟨settledEntry rows d policy incident [], hfits (hanswer ▸ hstate)
        (fun _ ha ↦ absurd ha List.not_mem_nil) (by rw [hanswer]; rfl), ?_, hw.2⟩
      rw [hw.1, Entry.file, settledEntry, hanswer, List.append_nil]
      rfl
    · exact fun _ _ h ↦ h
  intro hallowed
  apply Exec.Triple.ite
  · intro hrequires
    have hanswer : PolicyAnswer.of policy.allowed policy.requiresApproval = .requiresApproval :=
      (if_neg hallowed).trans (if_pos hrequires)
    apply Exec.Triple.bind (hcontain .awaitingApproval)
    intro _
    have hnewest : (heldRows rows d policy .awaitingApproval).proposals.latest
        (·.incidentId = rows.incidents.fresh) = some (rows.proposals.fresh, _) :=
      Table.latest_insert_of_pos (decide_eq_true rfl)
    have hnone : (heldRows rows d policy .awaitingApproval).approvals.latest
        (fun a ↦ a.proposalId = rows.proposals.fresh ∧ a.proposalVersion = 1) = none := by
      rw [Table.latest_eq_none]
      intro a ha
      have := happrovals a ha
      apply decide_eq_false
      rintro ⟨hproposal, -⟩
      rw [hproposal] at this
      exact Nat.lt_irrefl _ this
    apply (drafted_await (by decide) _ _ hnewest hnone).mono (fun _ h ↦ h)
    · rintro _ w ⟨approval, hincident, hproposal, hpending, incident, hstate, hw⟩
      refine ⟨settledEntry rows d policy incident [approval], hfits (hanswer ▸ hstate) ?_ ?_, ?_,
        hw.2⟩
      · intro a ha
        rw [List.mem_singleton.mp ha]
        exact ⟨hincident, hproposal⟩
      · rw [hanswer, List.map_singleton, hpending]
        rfl
      · rw [hw.1, Entry.file, settledEntry, hanswer]
        rfl
    · exact fun _ _ h ↦ h
  · intro hrequires
    have hanswer : PolicyAnswer.of policy.allowed policy.requiresApproval = .deny :=
      (if_neg hallowed).trans (if_neg hrequires)
    apply Exec.Triple.bind
    · exact drafted_write fun _ ↦ rfl
    intro _
    apply (drafted_change (by decide) (by decide) _ _).mono (fun _ h ↦ h)
    · rintro _ w ⟨incident, hstate, hw⟩
      refine ⟨settledEntry rows d policy incident [], hfits (hanswer ▸ hstate)
        (fun _ ha ↦ absurd ha List.not_mem_nil) (by rw [hanswer]; rfl), ?_, hw.2⟩
      rw [hw.1]
      dsimp only [evaluatedRows]
      rw [Table.update_insert_fresh, Entry.file, settledEntry, hanswer, List.append_nil]
      rfl
    · exact fun _ _ h ↦ h

/-- A delivery that was seen before. -/
def again (event : SecurityEvent) : SecurityEvent :=
  { event with dedupCount := event.dedupCount + 1 }

/-- The row of a delivery. -/
def Delivery.existing (d : Delivery) (rows : Database) : Option (Nat × SecurityEvent) :=
  rows.securityEvents.latest fun e ↦ e.source = "tetragon" ∧ e.fingerprint = d.fingerprint

/-- The answer of a policy to a delivery. -/
def Delivery.answer (d : Delivery) (env : Env) (w : World) : PolicyAnswer :=
  .of (env.opa w (ingestionInput d.event d.labels)).allowed
    (env.opa w (ingestionInput d.event d.labels)).requiresApproval

/-- What an ingestion that returns has committed: one more of a delivery, or a new event. -/
def Delivered (env : Env) (rows : Database) (d : Delivery) (db : Database) : Prop :=
  (∃ eventId event, d.existing rows = some (eventId, event) ∧
    db = { rows with securityEvents := rows.securityEvents.update eventId again }) ∨
  d.existing rows = none ∧ ∃ w e, Entry.Fits e rows d (d.answer env w) ∧ db = e.file rows

private theorem at_commit {db : Database} :
    Exec.Triple (At db rows) (commit env) (fun _ w ↦ w.committed = db)
      fun _ w ↦ w.committed = rows := by
  apply Exec.Triple.bind at_flush
  intro _
  exact Exec.Triple.update fun _ hw ↦ hw.1

/-- What an ingestion leaves committed. -/
theorem triple_ingest_at (d : Delivery)
    (happrovals : ∀ a ∈ rows.approvals, a.proposalId < rows.proposals.length) :
    Exec.Triple (At rows rows) (ingestSecurityEvent env settings d)
      (fun _ w ↦ Delivered env rows d w.committed) fun _ w ↦ w.committed = rows := by
  apply Exec.Triple.bind (at_query _)
  intro existing
  apply Exec.Triple.assume
  intro hexisting
  have hcommit {db : Database} (hdb : Delivered env rows d db) :
      Exec.Triple (At db rows) (commit env) (fun _ w ↦ Delivered env rows d w.committed)
        fun _ w ↦ w.committed = rows :=
    at_commit.mono (fun _ h ↦ h) (fun _ _ h ↦ h ▸ hdb) fun _ _ h ↦ h
  cases existing with
  | some entry =>
    obtain ⟨eventId, event⟩ := entry
    apply Exec.Triple.bind (at_write _)
    intro _
    apply Exec.Triple.bind at_flush
    intro _
    apply Exec.Triple.bind at_flush
    intro _
    exact hcommit (.inl ⟨eventId, event, hexisting.symm, rfl⟩)
  | none =>
    apply Exec.Triple.bind (triple_openEvent_at d)
    rintro ⟨incidentId, eventId⟩
    apply Exec.Triple.assume
    rintro ⟨⟩
    apply Exec.Triple.bind (triple_proposeQuarantine_at d)
    rintro ⟨proposalId, policy⟩ w ⟨w', hfiled, hw⟩
    obtain ⟨rfl, rfl⟩ := Prod.mk.inj hfiled
    revert w
    change Exec.Triple _ _ _ _
    apply Exec.Triple.bind (triple_settleEvent_at d _ happrovals)
    rintro _ w ⟨e, hfits, hw⟩
    refine (Exec.Triple.bind at_flush fun _ ↦ hcommit ?_) w hw
    exact .inr ⟨hexisting.symm, w', e, hfits, rfl⟩

end Stages

/-! ### Runs -/

/-- A delivery, the settings it is ingested under and the environment that answers. -/
structure Ingestion where
  delivery : Delivery
  settings : Settings
  env : Env

/-- The committed rows after an ingestion, whether it returns or raises. -/
def ingest (rows : Database) (op : Ingestion) : Database :=
  ((ingestSecurityEvent op.env op.settings op.delivery).run (start rows)).2.committed

/-- The rows meet the constraints of their tables: references are to rows that are there, and a
source and a fingerprint are of one event. -/
structure Constrained (db : Database) : Prop where
  proposals : ∀ p ∈ db.proposals, p.incidentId < db.incidents.length
  decisions : ∀ d ∈ db.policyDecisions, d.incidentId < db.incidents.length
  approvals : ∀ a ∈ db.approvals,
    a.incidentId < db.incidents.length ∧ a.proposalId < db.proposals.length
  events : ∀ e ∈ db.securityEvents, ∀ i, e.incidentId = some i → i < db.incidents.length
  unique : (db.securityEvents.map eventKey).Nodup

/-- An ingestion changes nothing, or delivers. -/
theorem delivered_ingest {rows : Database} (h : Constrained rows) (op : Ingestion) :
    ingest rows op = rows ∨ Delivered op.env rows op.delivery (ingest rows op) := by
  have htriple : Exec.Triple (At rows rows) (ingestSecurityEvent op.env op.settings op.delivery)
      (fun _ w ↦ Delivered op.env rows op.delivery w.committed) fun _ w ↦ w.committed = rows :=
    triple_ingest_at op.delivery fun a ha ↦ (h.approvals a ha).2
  replace htriple := htriple (start rows) ⟨rfl, rfl⟩
  unfold ingest
  rcases hrun : (ingestSecurityEvent op.env op.settings op.delivery).run (start rows) with
    ⟨e | a, w⟩
  · rw [hrun] at htriple
    exact .inl htriple
  · rw [hrun] at htriple
    exact .inr htriple

section Filed

variable {rows : Database} {e : Entry} {d : Delivery} {answer : PolicyAnswer}

/-- The rows of a new event meet the constraints. -/
theorem Constrained.file (h : Constrained rows) (hfits : e.Fits rows d answer)
    (hnone : d.existing rows = none) : Constrained (e.file rows) := by
  have hmore : (e.file rows).incidents.length = rows.incidents.length + 1 :=
    Table.length_insert _ _
  have hfresh : rows.incidents.fresh < (e.file rows).incidents.length := by
    rw [hmore]
    exact Nat.lt_succ_self _
  have hold {i : Nat} (hi : i < rows.incidents.length) : i < (e.file rows).incidents.length := by
    omega
  constructor
  · intro p hp
    rcases List.mem_append.mp hp with hp | hp
    · exact hold (h.proposals p hp)
    · rw [List.mem_singleton.mp hp, hfits.proposal]
      exact hfresh
  · intro p hp
    rcases List.mem_append.mp hp with hp | hp
    · exact hold (h.decisions p hp)
    · rw [List.mem_singleton.mp hp, hfits.decision]
      exact hfresh
  · intro a ha
    have hproposals : (e.file rows).proposals.length = rows.proposals.length + 1 :=
      Table.length_insert _ _
    rcases List.mem_append.mp ha with ha | ha
    · obtain ⟨hincident, hproposal⟩ := h.approvals a ha
      exact ⟨hold hincident, by omega⟩
    · obtain ⟨hincident, hproposal⟩ := hfits.approvals a ha
      rw [hincident, hproposal]
      exact ⟨hfresh, by rw [hproposals]; exact Nat.lt_succ_self _⟩
  · intro event hevent i hi
    rcases List.mem_append.mp hevent with hevent | hevent
    · exact hold (h.events event hevent i hi)
    · rw [List.mem_singleton.mp hevent, hfits.event, Option.some.injEq] at hi
      exact hi ▸ hfresh
  · show ((rows.securityEvents ++ [e.event]).map eventKey).Nodup
    rw [List.map_append, List.nodup_append]
    refine ⟨h.unique, List.nodup_singleton _, ?_⟩
    rintro key hkey key' hkey' rfl
    obtain ⟨event, hevent, hof⟩ := List.mem_map.mp hkey
    rw [List.map_singleton, List.mem_singleton, hfits.key] at hkey'
    obtain ⟨hsource, hfingerprint⟩ := Prod.mk.inj (hof.trans hkey')
    have := Table.latest_eq_none.mp hnone event hevent
    exact of_decide_eq_false this ⟨hsource, hfingerprint⟩

private theorem eventKey_again (event : SecurityEvent) : eventKey (again event) = eventKey event :=
  rfl

private theorem incidentId_again (event : SecurityEvent) :
    (again event).incidentId = event.incidentId := rfl

/-- The rows after one more of a delivery meet the constraints. -/
theorem Constrained.again (h : Constrained rows) (eventId : Nat) :
    Constrained { rows with securityEvents := rows.securityEvents.update eventId again } := by
  refine ⟨h.proposals, h.decisions, h.approvals, ?_, ?_⟩
  · intro event hevent i hi
    rcases Table.mem_update hevent with hold | ⟨old, hold, rfl⟩
    · exact h.events event hold i hi
    · exact h.events old hold i hi
  · show ((rows.securityEvents.update eventId Security.again).map eventKey).Nodup
    rw [Table.map_update rows.securityEvents eventId eventKey_again]
    exact h.unique

/-- A column of rows that are not of a new incident. -/
private theorem filter_insert_of_ne {α : Type} {t : Table α} {row : α} {p : α → Bool}
    (h : p row = false) : (t.insert row).filter p = t.filter p := by
  show (t ++ [row]).filter p = t.filter p
  rw [List.filter_append, List.filter_singleton, h]
  exact List.append_nil _

/-- The row of a new incident is the only one of it. -/
private theorem filter_insert_of_none {α : Type} {t : Table α} {row : α} {p : α → Bool}
    (ht : ∀ old ∈ t, p old = false) (h : p row) : (t.insert row).filter p = [row] := by
  show (t ++ [row]).filter p = [row]
  rw [List.filter_append, List.filter_singleton, h, List.filter_eq_nil_iff.mpr]
  · rfl
  · exact fun old hold hp ↦ Bool.false_ne_true ((ht old hold).symm.trans hp)

/-- A new event is settled. -/
theorem settled_file (h : Constrained rows) (hfits : e.Fits rows d answer) :
    Settled (e.file rows) rows.securityEvents.length answer := by
  have hno {i : Nat} (hi : i < rows.incidents.length) : i ≠ rows.incidents.fresh :=
    Nat.ne_of_lt hi
  refine ⟨e.event, rows.incidents.fresh, Table.getElem?_insert_fresh _ _, hfits.event,
    hfits.containment, ?_, ?_, ?_, ?_⟩
  · show (rows.incidents.insert e.incident)[rows.incidents.fresh]?.map _ = _
    rw [Table.getElem?_insert_fresh, Option.map_some, hfits.state]
  · show ((rows.proposals.insert e.proposal).filter _).map _ = _
    rw [filter_insert_of_none (fun p hp ↦ decide_eq_false (hno (h.proposals p hp)))
      (decide_eq_true hfits.proposal), List.map_singleton, hfits.status]
  · show ((rows.policyDecisions.insert e.decision).filter _).map _ = _
    rw [filter_insert_of_none (fun p hp ↦ decide_eq_false (hno (h.decisions p hp)))
      (decide_eq_true hfits.decision), List.map_singleton, hfits.answered]
  · show ((rows.approvals ++ e.approvals).filter _).map _ = _
    rw [List.filter_append, List.filter_eq_nil_iff.mpr, List.nil_append,
      List.filter_eq_self.mpr, hfits.pending]
    · exact fun a ha ↦ decide_eq_true (hfits.approvals a ha).1
    · exact fun a ha hof ↦ hno (h.approvals a ha).1 (of_decide_eq_true hof)

/-- An event that is settled stays so when another one comes. -/
theorem Settled.file {eventId : Nat} {answer' : PolicyAnswer} (hsettled : Settled rows eventId answer')
    (hfits : e.Fits rows d answer) : Settled (e.file rows) eventId answer' := by
  obtain ⟨event, incidentId, hevent, hincident, hstatus, hstate, hproposals, hdecisions,
    happrovals⟩ := hsettled
  obtain ⟨incident, hrow, hstate⟩ := Option.map_eq_some_iff.mp hstate
  have hno : rows.incidents.fresh ≠ incidentId :=
    (Nat.ne_of_lt (List.getElem?_eq_some_iff.mp hrow).1).symm
  refine ⟨event, incidentId, Table.getElem?_insert_of_some hevent, hincident, hstatus, ?_, ?_, ?_,
    ?_⟩
  · show (rows.incidents.insert e.incident)[incidentId]?.map _ = _
    rw [Table.getElem?_insert_of_some hrow, Option.map_some, hstate]
  · show ((rows.proposals.insert e.proposal).filter _).map _ = _
    rw [filter_insert_of_ne, hproposals]
    rw [hfits.proposal]
    exact decide_eq_false hno
  · show ((rows.policyDecisions.insert e.decision).filter _).map _ = _
    rw [filter_insert_of_ne, hdecisions]
    rw [hfits.decision]
    exact decide_eq_false hno
  · show ((rows.approvals ++ e.approvals).filter _).map _ = _
    rw [List.filter_append, List.map_append, happrovals, List.filter_eq_nil_iff.mpr,
      List.map_nil, List.append_nil]
    intro a ha hof
    rw [(hfits.approvals a ha).1] at hof
    exact hno (of_decide_eq_true hof)

/-- An event that is settled stays so when it, or another one, is delivered once more. -/
theorem Settled.again {eventId : Nat} (hsettled : Settled rows eventId answer) (id : Nat) :
    Settled { rows with securityEvents := rows.securityEvents.update id again } eventId answer := by
  obtain ⟨event, incidentId, hevent, hincident, hstatus, hrest⟩ := hsettled
  have hupdated : (rows.securityEvents.update id Security.again)[eventId]? =
      some (if id = eventId then Security.again event else event) := by
    rw [Table.getElem?_update, hevent]
    split
    · rfl
    · rfl
  refine ⟨_, incidentId, hupdated, ?_, ?_, hrest⟩
  · split
    · exact hincident
    · exact hincident
  · split
    · exact hstatus
    · exact hstatus

end Filed

/-! ### Every run -/

/-- What ingestions have added to some rows. -/
structure Added (rows db : Database) : Prop where
  constrained : Constrained db
  settled : ∀ eventId, rows.securityEvents.length ≤ eventId →
    eventId < db.securityEvents.length → ∃ answer, Settled db eventId answer
  incidents : ∀ i, rows.incidents.length ≤ i → i < db.incidents.length →
    (db.securityEvents.filter (·.incidentId = some i)).length = 1
  le : rows.incidents.length ≤ db.incidents.length ∧
    rows.securityEvents.length ≤ db.securityEvents.length

private theorem added_ingest {rows db : Database} (h : Added rows db) (op : Ingestion) :
    Added rows (ingest db op) := by
  rcases delivered_ingest h.constrained op with hsame | hdelivered
  · rw [hsame]
    exact h
  rcases hdelivered with ⟨eventId, event, hexisting, hdb⟩ | ⟨hnone, w, e, hfits, hdb⟩
  · rw [hdb]
    constructor
    · exact h.constrained.again eventId
    · intro id hge hlt
      rw [Table.length_update] at hlt
      obtain ⟨answer, hsettled⟩ := h.settled id hge hlt
      exact ⟨answer, hsettled.again eventId⟩
    · intro i hge hlt
      have hmap (t : Table SecurityEvent) : (t.filter (·.incidentId = some i)).length =
          (t.map (·.incidentId)).countP (· = some i) := by
        rw [List.countP_map, List.countP_eq_length_filter]
        rfl
      rw [hmap, Table.map_update db.securityEvents eventId incidentId_again, ← hmap]
      exact h.incidents i hge hlt
    · rw [Table.length_update]
      exact h.le
  · rw [hdb]
    have hincidents : (e.file db).incidents.length = db.incidents.length + 1 :=
      Table.length_insert _ _
    have hevents : (e.file db).securityEvents.length = db.securityEvents.length + 1 :=
      Table.length_insert _ _
    constructor
    · exact h.constrained.file hfits hnone
    · intro id hge hlt
      rw [hevents] at hlt
      rcases Nat.lt_succ_iff_lt_or_eq.mp hlt with hold | rfl
      · obtain ⟨answer, hsettled⟩ := h.settled id hge hold
        exact ⟨answer, hsettled.file hfits⟩
      · exact ⟨_, settled_file h.constrained hfits⟩
    · intro i hge hlt
      rw [hincidents] at hlt
      show ((db.securityEvents.insert e.event).filter _).length = 1
      rcases Nat.lt_succ_iff_lt_or_eq.mp hlt with hold | rfl
      · rw [filter_insert_of_ne]
        · exact h.incidents i hge hold
        · rw [hfits.event]
          exact decide_eq_false fun heq ↦ Nat.ne_of_lt hold (Option.some.inj heq).symm
      · rw [filter_insert_of_none]
        · rfl
        · exact fun event hevent ↦ decide_eq_false fun heq ↦
            Nat.lt_irrefl _ (h.constrained.events event hevent _ heq)
        · exact decide_eq_true hfits.event
    · have := h.le
      omega

/-- The rows after some deliveries. -/
def afterIngestions (rows : Database) (ops : List Ingestion) : Database := Runs.run ingest rows ops

/-- However events are delivered, a source and a fingerprint have one event, and an incident that
was opened has one event; each event that came in is settled by one answer. An ingestion changes
nothing, or counts one more of a delivery, or brings an event that is settled by the policy's
answer. -/
theorem ingested_events_settled (rows : Database) (h : Constrained rows) (ops : List Ingestion) :
    ((afterIngestions rows ops).securityEvents.map eventKey).Nodup ∧
    (∀ i, rows.incidents.length ≤ i → i < (afterIngestions rows ops).incidents.length →
      ((afterIngestions rows ops).securityEvents.filter (·.incidentId = some i)).length = 1) ∧
    (∀ eventId, rows.securityEvents.length ≤ eventId →
      eventId < (afterIngestions rows ops).securityEvents.length →
      ∃! answer, Settled (afterIngestions rows ops) eventId answer) ∧
    ∀ op, ingest (afterIngestions rows ops) op = afterIngestions rows ops ∨
      (∃ eventId event,
        op.delivery.existing (afterIngestions rows ops) = some (eventId, event) ∧
        ingest (afterIngestions rows ops) op = { afterIngestions rows ops with
          securityEvents := (afterIngestions rows ops).securityEvents.update eventId again }) ∨
      op.delivery.existing (afterIngestions rows ops) = none ∧
        (ingest (afterIngestions rows ops) op).securityEvents.length =
          (afterIngestions rows ops).securityEvents.length + 1 ∧
        ∃ w, Settled (ingest (afterIngestions rows ops) op)
          (afterIngestions rows ops).securityEvents.length (op.delivery.answer op.env w) := by
  have hinitial : Added rows rows :=
    ⟨h, fun _ hge hlt ↦ absurd hlt (Nat.not_lt.mpr hge),
      fun _ hge hlt ↦ absurd hlt (Nat.not_lt.mpr hge), Nat.le_refl _, Nat.le_refl _⟩
  have hadded : Added rows (afterIngestions rows ops) :=
    Runs.invariant (I := Added rows) (fun _ op hdb ↦ added_ingest hdb op) hinitial ops
  refine ⟨hadded.constrained.unique, hadded.incidents, ?_, ?_⟩
  · intro eventId hge hlt
    obtain ⟨answer, hsettled⟩ := hadded.settled eventId hge hlt
    exact ⟨answer, hsettled, fun _ h ↦ h.unique hsettled⟩
  · intro op
    rcases delivered_ingest hadded.constrained op with hsame | hagain | ⟨hnone, w, e, hfits, hdb⟩
    · exact .inl hsame
    · exact .inr (.inl hagain)
    · refine .inr (.inr ⟨hnone, ?_, w, ?_⟩)
      · rw [hdb]
        exact Table.length_insert _ _
      · rw [hdb]
        exact settled_file hadded.constrained hfits

/-- One event, delivered twice. -/
def twice : List Ingestion := List.replicate 2 ⟨delivery, standard, calm⟩

/-- The rows of no events at all. -/
theorem constrained_empty : Constrained {} :=
  ⟨fun _ h ↦ absurd h List.not_mem_nil, fun _ h ↦ absurd h List.not_mem_nil,
    fun _ h ↦ absurd h List.not_mem_nil, fun _ h ↦ absurd h List.not_mem_nil, List.nodup_nil⟩

theorem ingested_events_settled_twice :
    ((afterIngestions {} twice).securityEvents.map eventKey).Nodup ∧
      ∃! answer, Settled (afterIngestions {} twice) 0 answer :=
  have h := ingested_events_settled {} constrained_empty twice
  ⟨h.1, h.2.2.1 0 (Nat.zero_le 0) (by decide +kernel)⟩

end CloudWard.Security
