import CloudWard.Approvals.Request
import CloudWard.Base.Progress

/-!
# Incident service

`incidents/service.py`: creating an incident and changing its state. A state change checks
the transition table, counts the incident as over when it ends, writes its event, asks for
an approval when the incident starts to wait, and captures a memory when it ends. The notification of a state change is queued
under `except Exception` and changes no modelled row, so it is left out.
-/

namespace CloudWard.Incidents

open CloudWard.Approvals CloudWard.Db CloudWard.Logic Service

/-- The entries of a state change's `details` that the service itself reads. -/
structure Details where
  policyReason : Option String := none
  reason : Option String := none
deriving DecidableEq

/-- The event of a creation, `incidents/service.py:59`. -/
def creationEvent (actor : String) : IncidentEvent where
  eventType := "INCIDENT_CREATED"
  toState := some .detected
  actor := actor

/-- An incident as it is created. -/
def asCreated (actor : String) (row : Incident) : Incident :=
  { row with state := .detected, resolvedAt := none, events := [creationEvent actor] }

/-- `create_incident`, `incidents/service.py:32`. -/
def createIncident (env : Env) (row : Incident) (actor : String := "cloudward") :
    Service Nat := do
  let id ← Exec.read fun w ↦ w.db.incidents.fresh
  write fun db ↦ { db with incidents := db.incidents.insert (asCreated actor row) }
  countActive row.environment 1
  flush env
  -- the stream row's flush, the audit row's and the last one
  flush env
  flush env
  flush env
  return id

/-- `capture_terminal_incident`, `incident_memory/capture.py:24`: its queries and its
validation can fail; the memory row is read by no modelled service. -/
def captureTerminalIncident (env : Env) : Service Unit := do
  flush env
  Exec.faultOf (← ask env.validation)
  flush env

/-- The event of a state change, `incidents/service.py:110`. -/
def stateChanged (current target : IncidentState) (actor : String) : IncidentEvent where
  eventType := "STATE_CHANGED"
  fromState := some current
  toState := some target
  actor := actor

/-- What a state change sets of an incident. -/
def withState (target : IncidentState) (actor : String) (now : Nat) (incident : Incident) :
    Incident :=
  { incident with
    state := target
    resolvedAt := if target = .resolved then some now else incident.resolvedAt
    events := incident.events ++ [stateChanged incident.state target actor] }

/-- The approval request of a change to AWAITING_APPROVAL, `incidents/service.py:147`. -/
def requestApproval (env : Env) (settings : Settings) (incidentId : Nat) (actor : String)
    (details : Details) : Service Unit := do
  let proposal ← query env fun db ↦ db.proposals.latest (·.incidentId = incidentId)
  match proposal with
  | none => pure ()
  | some (proposalId, _) =>
    let _ ← ensureRuntimeApproval env settings incidentId proposalId actor
      (details.policyReason.or details.reason)

/-- `transition_incident` as a statement. -/
def checkTransition (current target : IncidentState) : Service Unit := do
  let _ ← Exec.ofExcept (transitionIncident current target)

/-- `change_incident_state`, `incidents/service.py:93`. -/
def changeIncidentState (env : Env) (settings : Settings) (incidentId : Nat)
    (target : IncidentState) (actor : String := "cloudward") (details : Details := {})
    (force : Bool := false) : Service Unit := do
  let incident ← loadIncident incidentId
  Exec.when (incident.state ≠ target) do
    Exec.when (¬ force) (checkTransition incident.state target)
    let now ← ask env.now
    updateIncident incidentId (withState target actor now)
    Exec.when target.isTerminal (countActive incident.environment (-1))
    -- the stream row's flush and the audit row's
    flush env
    flush env
    Exec.when (target = .awaitingApproval)
      (requestApproval env settings incidentId actor details)
    Exec.when target.isTerminal (captureTerminalIncident env)
    flush env

@[simp] theorem state_withState (target : IncidentState) (actor : String) (now : Nat)
    (incident : Incident) : (withState target actor now incident).state = target := rfl

/-- A change that the transition table does not allow raises before it writes. -/
theorem changeIncidentState_refused (env : Env) (settings : Settings) {id : Nat}
    {target : IncidentState} (actor : String) (details : Details) {incident : Incident}
    {w : World} (hrow : w.db.incidents[id]? = some incident) (hne : incident.state ≠ target)
    (hnot : target ∉ allowedTransitions incident.state) :
    ∃ e, transitionIncident incident.state target = .error e ∧
      (changeIncidentState env settings id target actor details).run w = (.error e, w) := by
  have hload : (loadIncident id).run w = (.ok incident, w) := by
    unfold loadIncident
    rw [Exec.run_bind_of_ok (Exec.run_read _ w), hrow]
    rfl
  have htransition : ∃ e, transitionIncident incident.state target = .error e := by
    unfold transitionIncident
    rw [if_neg hnot]
    exact ⟨_, rfl⟩
  obtain ⟨e, he⟩ := htransition
  have hcheck : (Exec.when (¬ (false : Bool)) (checkTransition incident.state target)).run w =
      (.error e, w) := by
    rw [Exec.run_when, if_pos Bool.false_ne_true]
    unfold checkTransition
    rw [he]
    rfl
  use e, he
  unfold changeIncidentState
  rw [Exec.run_bind_of_ok hload, Exec.run_when, if_pos hne]
  exact Exec.run_bind_of_error hcheck

/-! ### Loading rows -/

section Loads

variable {P : World → Prop}

/-- A loaded incident is the session's row. -/
theorem triple_loadIncident (id : Nat) :
    Exec.Triple P (loadIncident id) (fun row w ↦ P w ∧ w.db.incidents[id]? = some row)
      fun _ ↦ P := by
  intro w hw
  unfold loadIncident
  rw [Exec.run_bind_of_ok (Exec.run_read _ w)]
  cases hrow : w.db.incidents[id]? with
  | none => exact hw
  | some row => exact ⟨hw, hrow⟩

/-- A loaded proposal is the session's row. -/
theorem triple_loadProposal (id : Nat) :
    Exec.Triple P (loadProposal id) (fun row w ↦ P w ∧ w.db.proposals[id]? = some row)
      fun _ ↦ P := by
  intro w hw
  unfold loadProposal
  rw [Exec.run_bind_of_ok (Exec.run_read _ w)]
  cases hrow : w.db.proposals[id]? with
  | none => exact hw
  | some row => exact ⟨hw, hrow⟩

end Loads

/-! ### What a state change leaves unchanged -/

section Frames

variable {ω : Type} {f : World → ω}

theorem frames_loadIncident (id : Nat) : Exec.Frames f (loadIncident id) := by
  apply Exec.frames_bind (Exec.frames_read _)
  intro row
  cases row with
  | none => exact Exec.frames_throw _
  | some row => exact Exec.frames_pure _

theorem frames_loadProposal (id : Nat) : Exec.Frames f (loadProposal id) := by
  apply Exec.frames_bind (Exec.frames_read _)
  intro row
  cases row with
  | none => exact Exec.frames_throw _
  | some row => exact Exec.frames_pure _

theorem frames_loadExecution (id : Nat) : Exec.Frames f (loadExecution id) := by
  apply Exec.frames_bind (Exec.frames_read _)
  intro row
  cases row with
  | none => exact Exec.frames_throw _
  | some row => exact Exec.frames_pure _

theorem frames_checkTransition (current target : IncidentState) :
    Exec.Frames f (checkTransition current target) :=
  Exec.frames_bind (Exec.frames_ofExcept _) fun _ ↦ Exec.frames_pure _

variable (htick : ∀ w n, f { w with tick := n } = f w)
include htick

theorem frames_insertVerificationRecord (env : Env) (row : VerificationRecord)
    (hrecords : ∀ w t, f { w with db := { w.db with verificationRecords := t } } = f w) :
    Exec.Frames f (insertVerificationRecord env row) :=
  Exec.frames_bind (Exec.frames_read _) fun _ ↦ Exec.frames_bind (Exec.frames_require _ _) fun _ ↦
    Exec.frames_bind (Exec.frames_update fun w ↦ hrecords w _) fun _ ↦ frames_flush env htick

theorem frames_ensureRuntimeApproval (env : Env) (settings : Settings)
    (incidentId proposalId : Nat) (requestedBy : String) (reason : Option String)
    (happrovals : ∀ w t r,
      f { w with db := { w.db with approvals := t }, approvalRequests := r } = f w) :
    Exec.Frames f
      (ensureRuntimeApproval env settings incidentId proposalId requestedBy reason) := by
  apply Exec.frames_bind (frames_query env _ htick)
  intro existing
  cases existing with
  | some entry => exact Exec.frames_pure _
  | none =>
    refine Exec.frames_bind (frames_loadIncident _) fun _ ↦
      Exec.frames_bind (frames_loadProposal _) fun _ ↦
      Exec.frames_bind (frames_ask _ htick) fun _ ↦
      Exec.frames_bind (Exec.frames_read _) fun _ ↦
      Exec.frames_bind (Exec.frames_update fun w ↦ happrovals w _ _) fun _ ↦
      Exec.frames_bind (frames_flush env htick) fun _ ↦
      Exec.frames_bind (frames_flush env htick) fun _ ↦
      Exec.frames_bind (frames_flush env htick) fun _ ↦ Exec.frames_pure _

theorem frames_requestApproval (env : Env) (settings : Settings) (incidentId : Nat)
    (actor : String) (details : Details)
    (happrovals : ∀ w t r,
      f { w with db := { w.db with approvals := t }, approvalRequests := r } = f w) :
    Exec.Frames f (requestApproval env settings incidentId actor details) := by
  apply Exec.frames_bind (frames_query env _ htick)
  intro proposal
  cases proposal with
  | none => exact Exec.frames_pure _
  | some entry =>
    exact Exec.frames_bind
      (frames_ensureRuntimeApproval htick env settings _ _ _ _ happrovals)
      fun _ ↦ Exec.frames_pure _

theorem frames_captureTerminalIncident (env : Env) :
    Exec.Frames f (captureTerminalIncident env) :=
  Exec.frames_bind (frames_flush env htick) fun _ ↦
    Exec.frames_bind (frames_ask _ htick) fun _ ↦
    Exec.frames_bind (Exec.frames_faultOf _) fun _ ↦ frames_flush env htick

/-- A state change touches the incident row, the count of open incidents when the incident
ends and the approvals when it starts to wait. -/
theorem frames_changeIncidentState_of_update (env : Env) (settings : Settings)
    (incidentId : Nat) (target : IncidentState) (actor : String) (details : Details)
    (force : Bool)
    (hincident : ∀ w now, f { w with db := { w.db with
      incidents := w.db.incidents.update incidentId (withState target actor now) } } = f w)
    (hactive : target.isTerminal → ∀ w g, f { w with activeIncidents := g } = f w)
    (happrovals : target = .awaitingApproval → ∀ w t r,
      f { w with db := { w.db with approvals := t }, approvalRequests := r } = f w) :
    Exec.Frames f (changeIncidentState env settings incidentId target actor details force) := by
  refine Exec.frames_bind (frames_loadIncident _) fun incident ↦ Exec.frames_when fun _ ↦ ?_
  refine Exec.frames_bind (Exec.frames_when fun _ ↦ frames_checkTransition _ _) fun _ ↦ ?_
  refine Exec.frames_bind (frames_ask _ htick) fun now ↦ ?_
  refine Exec.frames_bind (Exec.frames_update fun w ↦ hincident w now) fun _ ↦ ?_
  refine Exec.frames_bind
    (Exec.frames_when fun ht ↦ Exec.frames_update fun w ↦ hactive ht w _) fun _ ↦ ?_
  refine Exec.frames_bind (frames_flush env htick) fun _ ↦ ?_
  refine Exec.frames_bind (frames_flush env htick) fun _ ↦ ?_
  refine Exec.frames_bind (Exec.frames_when fun ht ↦ ?_) fun _ ↦ ?_
  · exact frames_requestApproval htick env settings incidentId actor details (happrovals ht)
  refine Exec.frames_bind
    (Exec.frames_when fun _ ↦ frames_captureTerminalIncident htick env) fun _ ↦ ?_
  exact frames_flush env htick

/-- What moving an incident along the transition table keeps, a state change keeps. -/
theorem keeps_changeIncidentState (env : Env) (settings : Settings) (incidentId : Nat)
    (target : IncidentState) (actor : String) (details : Details) {J : ω → Prop}
    (hincident : ∀ w now row, J (f w) → w.db.incidents[incidentId]? = some row →
      target ∈ allowedTransitions row.state → J (f { w with db := { w.db with
        incidents := w.db.incidents.update incidentId (withState target actor now) } }))
    (hactive : ∀ w g, f { w with activeIncidents := g } = f w)
    (happrovals : ∀ w t r,
      f { w with db := { w.db with approvals := t }, approvalRequests := r } = f w) :
    Exec.Keeps (fun w ↦ J (f w))
      (changeIncidentState env settings incidentId target actor details) := by
  have hkeeps {α : Type} {x : Service α} (hx : Exec.Frames f x) : Exec.Keeps (fun w ↦ J (f w)) x :=
    hx.keeps J
  apply Exec.Triple.bind (Q := fun row w ↦ J (f w) ∧ w.db.incidents[incidentId]? = some row)
  · exact triple_loadIncident incidentId
  intro row
  apply Exec.Triple.when
  · intro _
    apply Exec.Triple.bind (Q := fun _ w ↦ (J (f w) ∧ w.db.incidents[incidentId]? = some row) ∧
      target ∈ allowedTransitions row.state)
    · apply Exec.Triple.when
      · intro _
        apply Exec.Triple.bind (Q := fun _ w ↦ (J (f w) ∧
          w.db.incidents[incidentId]? = some row) ∧ target ∈ allowedTransitions row.state)
        · apply Exec.Triple.ofExcept
          · exact fun _ h _ hw ↦ ⟨hw, (transitionIncident_eq_ok.mp h).1⟩
          · exact fun _ _ _ hw ↦ hw.1
        · exact fun _ ↦ Exec.Triple.pure fun _ h ↦ h
      · exact fun h ↦ absurd Bool.false_ne_true h
    intro _
    apply Exec.Triple.assume
    intro hallowed
    apply Exec.Triple.bind (Q := fun _ w ↦ J (f w) ∧ w.db.incidents[incidentId]? = some row)
    · rintro w ⟨hw, hrow⟩
      refine ⟨?_, hrow⟩
      show J (f { w with tick := w.tick + 1 })
      rw [htick]
      exact hw
    intro now
    apply Exec.Triple.bind (Q := fun _ w ↦ J (f w))
    · exact Exec.Triple.update fun w ⟨hw, hrow⟩ ↦ hincident w now row hw hrow hallowed
    intro _
    apply Exec.keeps_bind (hkeeps (Exec.frames_when fun _ ↦ Exec.frames_update fun w ↦ hactive w _))
    intro _
    apply Exec.keeps_bind (hkeeps (frames_flush env htick))
    intro _
    apply Exec.keeps_bind (hkeeps (frames_flush env htick))
    intro _
    apply Exec.keeps_bind (hkeeps (Exec.frames_when fun _ ↦
      frames_requestApproval htick env settings incidentId actor details happrovals))
    intro _
    apply Exec.keeps_bind (hkeeps (Exec.frames_when fun _ ↦ frames_captureTerminalIncident htick env))
    intro _
    exact hkeeps (frames_flush env htick)
  · exact fun _ _ h ↦ h.1

/-- What does not depend on incidents at all is left alone by a state change. -/
theorem frames_changeIncidentState (env : Env) (settings : Settings) (incidentId : Nat)
    (target : IncidentState) (actor : String) (details : Details) (force : Bool)
    (hincidents : ∀ w t, f { w with db := { w.db with incidents := t } } = f w)
    (hactive : target.isTerminal → ∀ w g, f { w with activeIncidents := g } = f w)
    (happrovals : target = .awaitingApproval → ∀ w t r,
      f { w with db := { w.db with approvals := t }, approvalRequests := r } = f w) :
    Exec.Frames f (changeIncidentState env settings incidentId target actor details force) :=
  frames_changeIncidentState_of_update htick env settings incidentId target actor details force
    (fun w _ ↦ hincidents w _) hactive happrovals

end Frames

/-- A state change that returns leaves the incident in the target state. -/
theorem triple_changeIncidentState (env : Env) (settings : Settings) (incidentId : Nat)
    (target : IncidentState) (actor : String) (details : Details) :
    Exec.Triple (fun _ ↦ True)
      (changeIncidentState env settings incidentId target actor details)
      (fun _ w ↦ ∃ row, w.db.incidents[incidentId]? = some row ∧ row.state = target)
      fun _ _ ↦ True := by
  let p (incidents : Table Incident) : Prop :=
    ∃ row, incidents[incidentId]? = some row ∧ row.state = target
  have hreturns {α : Type} {x : Service α} (hx : Exec.Frames (fun w ↦ w.db.incidents) x) :=
    hx.returns p
  apply Exec.Triple.bind (Q := fun row w ↦ w.db.incidents[incidentId]? = some row)
  · exact (triple_loadIncident (P := fun _ ↦ True) incidentId).mono (fun _ h ↦ h)
      (fun _ _ h ↦ h.2) fun _ _ h ↦ h
  intro row
  apply Exec.Triple.when
  · intro _
    apply Exec.Triple.bind (Q := fun _ w ↦ w.db.incidents[incidentId]? = some row)
    · exact (Exec.frames_when fun _ ↦ frames_checkTransition _ _).returns
        fun incidents : Table Incident ↦ incidents[incidentId]? = some row
    intro _
    apply Exec.Triple.bind (Q := fun _ w ↦ w.db.incidents[incidentId]? = some row)
    · exact (frames_ask _ fun _ _ ↦ rfl).returns
        fun incidents : Table Incident ↦ incidents[incidentId]? = some row
    intro now
    apply Exec.Triple.bind (Q := fun _ w ↦ p w.db.incidents)
    · apply triple_write
      intro w hw
      exact ⟨_, by rw [Table.getElem?_update_self, hw]; rfl, rfl⟩
    intro _
    apply Exec.Triple.bind
    · exact hreturns (Exec.frames_when fun _ ↦ Exec.frames_update fun _ ↦ rfl)
    intro _
    apply Exec.Triple.bind (hreturns (frames_flush env fun _ _ ↦ rfl))
    intro _
    apply Exec.Triple.bind (hreturns (frames_flush env fun _ _ ↦ rfl))
    intro _
    apply Exec.Triple.bind (hreturns (Exec.frames_when fun _ ↦
      frames_requestApproval (fun _ _ ↦ rfl) env settings _ _ _ fun _ _ _ ↦ rfl))
    intro _
    apply Exec.Triple.bind (hreturns (Exec.frames_when fun _ ↦
      frames_captureTerminalIncident (fun _ _ ↦ rfl) env))
    intro _
    exact hreturns (frames_flush env fun _ _ ↦ rfl)
  · intro hstate w hw
    exact ⟨row, hw, not_not.mp hstate⟩

/-- A state change leaves the trace alone. -/
theorem frames_trace_changeIncidentState (env : Env) (settings : Settings) (incidentId : Nat)
    (target : IncidentState) (actor : String) (details : Details) :
    Exec.Frames World.trace
      (changeIncidentState env settings incidentId target actor details) :=
  frames_changeIncidentState (fun _ _ ↦ rfl) env settings incidentId target actor details false
    (fun _ _ ↦ rfl) (fun _ _ _ ↦ rfl) fun _ _ _ _ ↦ rfl

/-- A creation touches the incidents and the count of open ones. -/
theorem frames_createIncident {ω : Type} {f : World → ω}
    (htick : ∀ w n, f { w with tick := n } = f w) (env : Env) (row : Incident) (actor : String)
    (hincident : ∀ w, f { w with db := { w.db with
      incidents := w.db.incidents.insert (asCreated actor row) } } = f w)
    (hactive : ∀ w g, f { w with activeIncidents := g } = f w) :
    Exec.Frames f (createIncident env row actor) := by
  have hflush : Exec.Frames f (flush env) := frames_flush env htick
  apply Exec.frames_bind (Exec.frames_read _)
  intro id
  apply Exec.frames_bind (Exec.frames_update hincident)
  intro _
  apply Exec.frames_bind (Exec.frames_update fun w ↦ hactive w _)
  intro _
  exact Exec.frames_bind hflush fun _ ↦ Exec.frames_bind hflush fun _ ↦
    Exec.frames_bind hflush fun _ ↦ Exec.frames_bind hflush fun _ ↦ Exec.frames_pure _

theorem frames_trace_createIncident (env : Env) (row : Incident) (actor : String) :
    Exec.Frames World.trace (createIncident env row actor) :=
  frames_createIncident (fun _ _ ↦ rfl) env row actor (fun _ ↦ rfl) fun _ _ ↦ rfl

/-! ### State changes that succeed -/

section Progress

variable {w : World} {env : Env} {id : Nat} {row : Incident}

theorem reaches_loadIncident {r : Incident} (h : w.db.incidents[id]? = some r) :
    Reaches (loadIncident id) w r w := by
  apply reaches_bind (reaches_read _ w)
  intro n
  simp only [h]
  exact ⟨n, rfl⟩

theorem reaches_loadProposal {row : ActionProposal} (h : w.db.proposals[id]? = some row) :
    Reaches (loadProposal id) w row w := by
  apply reaches_bind (reaches_read _ w)
  intro n
  simp only [h]
  exact ⟨n, rfl⟩

theorem reaches_insertProposal (row : ActionProposal) (w : World) :
    Reaches (insertProposal row) w w.db.proposals.fresh
      { w with db := { w.db with proposals := w.db.proposals.insert row } } := ⟨w.tick, rfl⟩

theorem reaches_insertRunbookExecution (row : RunbookExecution) (w : World) :
    Reaches (insertRunbookExecution row) w w.db.runbookExecutions.fresh
      { w with db := { w.db with
        runbookExecutions := w.db.runbookExecutions.insert row } } := ⟨w.tick, rfl⟩

/-- The gauge after `n` more incidents of an environment are open. -/
def counted (w : World) (environment : Environment) (n : Int) : Environment → Int := fun e ↦
  if e = environment then w.activeIncidents e + n else w.activeIncidents e

theorem reaches_countActive (environment : Environment) (n : Int) (w : World) :
    Reaches (countActive environment n) w ()
      { w with activeIncidents := counted w environment n } := ⟨w.tick, rfl⟩

theorem reaches_createIncident (hq : Quiet env) (row : Incident) (actor : String) (w : World) :
    Reaches (createIncident env row actor) w w.db.incidents.fresh
      { w with
        db := { w.db with incidents := w.db.incidents.insert (asCreated actor row) }
        activeIncidents := counted w row.environment 1 } := by
  apply reaches_bind (reaches_read _ w)
  intro _
  apply reaches_bind (reaches_write _ _)
  intro _
  apply reaches_bind (reaches_countActive _ _ _)
  intro _
  apply reaches_bind (reaches_flush hq _)
  intro _
  apply reaches_bind (reaches_flush hq _)
  intro _
  apply reaches_bind (reaches_flush hq _)
  intro _
  apply reaches_bind (reaches_flush hq _)
  intro _
  exact reaches_pure _ _

/-- An incident that entered a state that does not resolve it. -/
def entered (target : IncidentState) (actor : String) (incident : Incident) : Incident :=
  { incident with
    state := target
    events := incident.events ++ [stateChanged incident.state target actor] }

/-- An allowed change to a state that neither waits nor ends sets that state. -/
theorem reaches_changeIncidentState (hq : Quiet env) (settings : Settings)
    {target : IncidentState} (actor : String) (details : Details)
    {s : IncidentState} (hstate : w.db.incidents[id]?.map (·.state) = some s)
    (hallowed : target ∈ allowedTransitions s) (hne : s ≠ target)
    (hwait : target ≠ .awaitingApproval) (hend : target.isTerminal = false) :
    Reaches (changeIncidentState env settings id target actor details) w ()
      { w with db := { w.db with
        incidents := w.db.incidents.update id (entered target actor) } } := by
  obtain ⟨row, hrow, rfl⟩ := Option.map_eq_some_iff.mp hstate
  have hresolved : target ≠ .resolved := by
    rintro rfl
    cases hend
  have hset (now : Nat) : withState target actor now = entered target actor := by
    funext incident
    simp [withState, entered, hresolved]
  have hnot : ¬ target.isTerminal := by
    rw [hend]
    exact Bool.false_ne_true
  apply reaches_bind (reaches_loadIncident hrow)
  intro _
  apply reaches_when hne
  apply reaches_bind
  · apply reaches_when Bool.false_ne_true
    apply reaches_bind (reaches_ofExcept (transitionIncident_eq_ok.mpr ⟨hallowed, rfl⟩))
    intro _
    exact reaches_pure _ _
  intro _
  apply reaches_bind (reaches_ask _ _)
  intro _
  apply reaches_bind
  · rw [hset]
    exact reaches_write _ _
  intro _
  apply reaches_bind (reaches_when_not hnot)
  intro _
  apply reaches_bind (reaches_flush hq _)
  intro _
  apply reaches_bind (reaches_flush hq _)
  intro _
  apply reaches_bind (reaches_when_not hwait)
  intro _
  apply reaches_bind (reaches_when_not hnot)
  intro _
  exact reaches_flush hq _

theorem reaches_insertApproval (row : Approval) (w : World) :
    Reaches (insertApproval row) w ()
      { w with
        db := { w.db with approvals := w.db.approvals.insert row }
        approvalRequests := ⟨row, w.db, w.trace⟩ :: w.approvalRequests } := ⟨w.tick, rfl⟩

/-- An approval request of an existing incident returns, and changes approvals only. -/
theorem returns_requestApproval (hq : Quiet env) (settings : Settings) (actor : String)
    (details : Details) (hrow : w.db.incidents[id]? = some row) :
    Returns (requestApproval env settings id actor details) w fun _ w' ↦
      ∃ t r n, w' = { w with
        db := { w.db with approvals := t }
        approvalRequests := r
        tick := n } := by
  apply returns_bind (reaches_query hq _ w)
  intro _
  cases hlatest : w.db.proposals.latest (·.incidentId = id) with
  | none => exact (reaches_pure _ _).returns fun n ↦ ⟨w.db.approvals, _, n, rfl⟩
  | some entry =>
    obtain ⟨proposalId, proposal⟩ := entry
    have hproposal := (Table.latest_eq_some hlatest).1
    have hensure (n : Nat) : Returns
        (ensureRuntimeApproval env settings id proposalId actor
          (details.policyReason.or details.reason)) { w with tick := n } fun _ w' ↦
        ∃ t r n, w' = { w with
          db := { w.db with approvals := t }
          approvalRequests := r
          tick := n } := by
      apply returns_bind (reaches_query hq _ _)
      intro _
      cases w.db.approvals.latest fun a ↦ a.proposalId = proposalId ∧ a.proposalVersion = 1 with
      | some entry => exact (reaches_pure _ _).returns fun n ↦ ⟨w.db.approvals, _, n, rfl⟩
      | none =>
        apply returns_bind (reaches_loadIncident (by exact hrow))
        intro _
        apply returns_bind (reaches_loadProposal (by exact hproposal))
        intro _
        apply returns_bind (reaches_ask _ _)
        intro _
        apply returns_bind (reaches_read _ _)
        intro _
        apply returns_bind (reaches_insertApproval _ _)
        intro _
        apply returns_bind (reaches_flush hq _)
        intro _
        apply returns_bind (reaches_flush hq _)
        intro _
        apply returns_bind (reaches_flush hq _)
        intro _
        exact (reaches_pure _ _).returns fun n ↦ ⟨_, _, n, rfl⟩
    apply (hensure _).bind
    rintro _ _ ⟨t, r, n, rfl⟩
    exact (reaches_pure _ _).returns fun n ↦ ⟨t, r, n, rfl⟩

theorem reaches_captureTerminalIncident (hq : Quiet env) (w : World) :
    Reaches (captureTerminalIncident env) w () w := by
  apply reaches_bind (reaches_flush hq w)
  intro _
  apply reaches_bind (reaches_ask _ _)
  intro _
  apply reaches_bind (reaches_faultOf (hq.validation _))
  intro _
  exact reaches_flush hq _

/-- An allowed change to another state returns, and changes the incident's state, the count of
open incidents and approvals only. -/
theorem returns_changeIncidentState (hq : Quiet env) (settings : Settings)
    {target : IncidentState} (actor : String) (details : Details) {s : IncidentState}
    (hstate : w.db.incidents[id]?.map (·.state) = some s)
    (hallowed : target ∈ allowedTransitions s) (hne : s ≠ target) :
    Returns (changeIncidentState env settings id target actor details) w fun _ w' ↦
      ∃ now t g r n, w' = { w with
        db := { w.db with
          incidents := w.db.incidents.update id (withState target actor now)
          approvals := t }
        activeIncidents := g
        approvalRequests := r
        tick := n } := by
  obtain ⟨row, hrow, rfl⟩ := Option.map_eq_some_iff.mp hstate
  apply returns_bind (reaches_loadIncident hrow)
  intro _
  apply returns_when
  · intro _
    apply returns_bind
    · apply reaches_when Bool.false_ne_true
      apply reaches_bind (reaches_ofExcept (transitionIncident_eq_ok.mpr ⟨hallowed, rfl⟩))
      intro _
      exact reaches_pure _ _
    intro _
    apply returns_bind (reaches_ask _ _)
    intro n
    generalize env.now _ = now
    apply returns_bind (reaches_write _ _)
    intro _
    apply Returns.bind (Q := fun _ w' ↦ ∃ g n, w' = { w with
        db := { w.db with
          incidents := w.db.incidents.update id (withState target actor now) }
        activeIncidents := g
        tick := n })
    · apply returns_when
      · exact fun _ ↦ (reaches_countActive _ _ _).returns fun n ↦ ⟨_, n, rfl⟩
      · exact fun _ ↦ ⟨w.activeIncidents, _, rfl⟩
    rintro _ _ ⟨g, n, rfl⟩
    apply returns_bind (reaches_flush hq _)
    intro _
    apply returns_bind (reaches_flush hq _)
    intro _
    apply Returns.bind
    · apply returns_when (Q := fun _ w' ↦ ∃ t r n, w' = { w with
        db := { w.db with
          incidents := w.db.incidents.update id (withState target actor now)
          approvals := t }
        activeIncidents := g
        approvalRequests := r
        tick := n })
      · intro _
        have hset : (w.db.incidents.update id (withState target actor now))[id]? =
            some (withState target actor now row) := by
          rw [Table.getElem?_update_self, hrow, Option.map_some]
        exact returns_requestApproval hq settings actor details hset
      · exact fun _ ↦ ⟨_, _, _, rfl⟩
    rintro _ _ ⟨t, r, n, rfl⟩
    apply returns_bind
    · by_cases hend : target.isTerminal
      · exact reaches_when hend (reaches_captureTerminalIncident hq _)
      · exact reaches_when_not hend
    intro _
    exact (reaches_flush hq _).returns fun n ↦ ⟨now, t, g, r, n, rfl⟩
  · exact fun h ↦ absurd hne h

end Progress

end CloudWard.Incidents
