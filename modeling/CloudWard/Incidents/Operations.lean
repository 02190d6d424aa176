import CloudWard.Incidents.Service
import CloudWard.Logic.Journal
import CloudWard.Logic.Runs

/-!
# The operations on incidents and their event log

The rest of `incidents/service.py`, what operators do with an incident, and the four
operations as transactions one after the other. Each state change writes the event that
says from where to where, in the transaction that makes it, so that the log of an incident
replays to its state.
-/

namespace CloudWard.Incidents

open CloudWard.Db CloudWard.Logic Service

namespace Operators

/-- `resolve_incident`, `incidents/service.py:213`. -/
def resolveIncident (env : Env) (settings : Settings) (incidentId : Nat) (actor : String)
    (reason : String) (source : ResolutionSource) : Service Unit := do
  let incident ← loadIncident incidentId
  Exec.when (incident.state ≠ .resolved) do
    let now ← ask env.now
    updateIncident incidentId fun incident ↦
      { incident with resolutionSource := some source, resolvedAt := some now }
    changeIncidentState env settings incidentId .resolved actor { reason := some reason } true

/-- `IncidentUpdate`, `api/schemas.py:38`: the fields a caller may set. -/
structure IncidentUpdate where
  title : Option String := none
  summary : Option String := none
  severity : Option String := none
  state : Option IncidentState := none

/-- Whether an update changes a column besides the state. -/
def IncidentUpdate.Edits (update : IncidentUpdate) (incident : Incident) : Prop :=
  update.title.any (· ≠ incident.title) ∨
    (update.summary.isSome ∧ update.summary ≠ incident.summary) ∨
    update.severity.any (· ≠ incident.severity)

instance (update : IncidentUpdate) (incident : Incident) : Decidable (update.Edits incident) := by
  unfold IncidentUpdate.Edits
  infer_instance

/-- An incident with the columns of an update. -/
def edited (update : IncidentUpdate) (incident : Incident) : Incident :=
  { incident with
    title := update.title.getD incident.title
    summary := update.summary.or incident.summary
    severity := update.severity.getD incident.severity }

/-- The event of an update, `incidents/service.py:270`. -/
def updateEvent (state : IncidentState) (actor : String) : IncidentEvent where
  eventType := "INCIDENT_UPDATED"
  fromState := some state
  toState := some state
  actor := actor

/-- The forced change of an update, `incidents/service.py:258`. -/
def moveTo (env : Env) (settings : Settings) (incidentId : Nat) (actor : String)
    (current : IncidentState) : Option IncidentState → Service Unit
  | none => pure ()
  | some target =>
    Exec.when (target ≠ current) (changeIncidentState env settings incidentId target actor
      { reason := some "Updated via incident update" } true)

/-- The record of an update, `incidents/service.py:268`. -/
def recordUpdate (env : Env) (incidentId : Nat) (actor : String) : Service Unit := do
  updateIncident incidentId fun incident ↦
    { incident with events := incident.events ++ [updateEvent incident.state actor] }
  -- the audit row's flush
  flush env

/-- `update_incident`, `incidents/service.py:237`. -/
def updateIncident (env : Env) (settings : Settings) (incidentId : Nat)
    (update : IncidentUpdate) (actor : String) : Service Unit := do
  let incident ← loadIncident incidentId
  Db.updateIncident incidentId (edited update)
  moveTo env settings incidentId actor incident.state update.state
  Exec.when (update.Edits incident) (recordUpdate env incidentId actor)
  flush env

end Operators

/-! ### Transactions one after the other -/

/-- A call of the incident service. -/
inductive Call
  | create (row : Incident) (actor : String)
  | change (incidentId : Nat) (target : IncidentState) (actor : String) (details : Details)
      (force : Bool)
  | resolve (incidentId : Nat) (actor reason : String) (source : ResolutionSource)
  | update (incidentId : Nat) (update : Operators.IncidentUpdate) (actor : String)

/-- A call with the settings and the environment it meets. -/
structure Operation where
  call : Call
  settings : Settings
  env : Env

/-- The service's program for a call. -/
def Operation.program (op : Operation) : Service Unit :=
  match op.call with
  | .create row actor => do
    let _ ← createIncident op.env row actor
  | .change id target actor details force =>
    changeIncidentState op.env op.settings id target actor details force
  | .resolve id actor reason source =>
    Operators.resolveIncident op.env op.settings id actor reason source
  | .update id update actor => Operators.updateIncident op.env op.settings id update actor

/-- The committed rows and the gauge of open incidents. -/
structure State where
  rows : Database := {}
  active : Environment → Int := fun _ ↦ 0

/-- A fresh session on a state. -/
def State.world (s : State) : World := { start s.rows with activeIncidents := s.active }

/-- The world in which an operation ends: an exception ends its session without a commit. -/
def State.after (s : State) (op : Operation) : World :=
  ((transaction op.env op.program).run s.world).2

/-- One operation. -/
def step (s : State) (op : Operation) : State :=
  ⟨(s.after op).committed, (s.after op).activeIncidents⟩

/-! ### The event log -/

/-- The change of an event, for the events that say of one. -/
def changeOf (event : IncidentEvent) : Option (IncidentState × IncidentState) :=
  if event.eventType = "STATE_CHANGED" then
    event.fromState.bind fun before ↦ event.toState.map fun after ↦ (before, after)
  else none

/-- The STATE_CHANGED events of an incident, in order of insertion. -/
def changes (incident : Incident) : List (IncidentState × IncidentState) :=
  incident.events.filterMap changeOf

/-- The log leads from the state of creation to the present one. -/
def Replays (incident : Incident) : Prop :=
  Journal.Follows .detected (changes incident) incident.state

/-- A new incident has an empty log. -/
theorem replays_asCreated (actor : String) (row : Incident) : Replays (asCreated actor row) :=
  rfl

/-- A state change extends the log by itself. -/
theorem Replays.withState {incident : Incident} (h : Replays incident) (target : IncidentState)
    (actor : String) (now : Nat) : Replays (withState target actor now incident) := by
  have hchanges : changes (Incidents.withState target actor now incident) =
      changes incident ++ [(incident.state, target)] := by
    simp only [changes, Incidents.withState, List.filterMap_append]
    rfl
  unfold Replays
  rw [hchanges]
  exact h.snoc

/-- An update that is no state change writes no change. -/
theorem Replays.recorded {incident : Incident} (h : Replays incident) (actor : String) :
    Replays { incident with
      events := incident.events ++ [Operators.updateEvent incident.state actor] } := by
  have hkind : "INCIDENT_UPDATED" ≠ "STATE_CHANGED" := by decide
  have hnone : changeOf (Operators.updateEvent incident.state actor) = none := if_neg hkind
  simp only [Replays, changes, List.filterMap_append, List.filterMap_cons, hnone,
    List.filterMap_nil, List.append_nil]
  exact h

/-- Every incident's log replays, in the session and among the committed rows. -/
def Logged (w : World) : Prop :=
  (∀ incident ∈ w.db.incidents, Replays incident) ∧
    ∀ incident ∈ w.committed.incidents, Replays incident

/-- The incidents that a session and other transactions see. -/
private def logs (w : World) : Table Incident × Table Incident :=
  (w.db.incidents, w.committed.incidents)

private theorem Logged.of_frames {α : Type} {x : Service α} (h : Exec.Frames logs x) :
    Exec.Keeps Logged x :=
  h.keeps fun v ↦ (∀ incident ∈ v.1, Replays incident) ∧ ∀ incident ∈ v.2, Replays incident

private theorem logged_flush (env : Env) : Exec.Keeps Logged (flush env) :=
  Logged.of_frames (frames_flush env fun _ _ ↦ rfl)

/-- Setting columns keeps the logs if it keeps each. -/
private theorem logged_updateIncident (id : Nat) {f : Incident → Incident}
    (hf : ∀ incident, Replays incident → Replays (f incident)) :
    Exec.Keeps Logged (updateIncident id f) := by
  apply Exec.Triple.update
  intro w h
  refine ⟨?_, h.2⟩
  intro incident hmem
  rcases Table.mem_update hmem with hmem | ⟨row, hrow, rfl⟩
  · exact h.1 incident hmem
  · exact hf row (h.1 row hrow)

private theorem logged_changeIncidentState (env : Env) (settings : Settings) (id : Nat)
    (target : IncidentState) (actor : String) (details : Details) (force : Bool) :
    Exec.Keeps Logged (changeIncidentState env settings id target actor details force) := by
  apply Exec.keeps_bind (Logged.of_frames (frames_loadIncident _))
  intro incident
  apply Exec.keeps_when
  intro _
  apply Exec.keeps_bind
  · exact Logged.of_frames (Exec.frames_when fun _ ↦ frames_checkTransition _ _)
  intro _
  apply Exec.keeps_bind (Logged.of_frames (frames_ask _ fun _ _ ↦ rfl))
  intro now
  apply Exec.keeps_bind
  · exact logged_updateIncident id fun _ h ↦ h.withState target actor now
  intro _
  apply Exec.keeps_bind
  · exact Logged.of_frames (Exec.frames_when fun _ ↦ Exec.frames_update fun _ ↦ rfl)
  intro _
  apply Exec.keeps_bind (logged_flush env)
  intro _
  apply Exec.keeps_bind (logged_flush env)
  intro _
  apply Exec.keeps_bind
  · apply Logged.of_frames
    exact Exec.frames_when fun _ ↦
      frames_requestApproval (fun _ _ ↦ rfl) env settings id actor details fun _ _ _ ↦ rfl
  intro _
  apply Exec.keeps_bind
  · apply Logged.of_frames
    exact Exec.frames_when fun _ ↦ frames_captureTerminalIncident (fun _ _ ↦ rfl) env
  intro _
  exact logged_flush env

private theorem logged_createIncident (env : Env) (row : Incident) (actor : String) :
    Exec.Keeps Logged (createIncident env row actor) := by
  apply Exec.keeps_bind (Exec.keeps_read _)
  intro id
  apply Exec.keeps_bind
  · apply Exec.Triple.update
    intro w h
    refine ⟨?_, h.2⟩
    intro incident hmem
    rcases List.mem_append.mp hmem with hmem | hmem
    · exact h.1 incident hmem
    · rw [List.mem_singleton.mp hmem]
      exact replays_asCreated actor row
  intro _
  apply Exec.keeps_bind
  · apply Logged.of_frames
    exact Exec.frames_update fun _ ↦ rfl
  intro _
  exact Exec.keeps_bind (logged_flush env) fun _ ↦ Exec.keeps_bind (logged_flush env) fun _ ↦
    Exec.keeps_bind (logged_flush env) fun _ ↦ Exec.keeps_bind (logged_flush env) fun _ ↦
    Exec.keeps_pure _

private theorem logged_resolveIncident (env : Env) (settings : Settings) (id : Nat)
    (actor reason : String) (source : ResolutionSource) :
    Exec.Keeps Logged (Operators.resolveIncident env settings id actor reason source) := by
  apply Exec.keeps_bind (Logged.of_frames (frames_loadIncident _))
  intro incident
  apply Exec.keeps_when
  intro _
  apply Exec.keeps_bind (Logged.of_frames (frames_ask _ fun _ _ ↦ rfl))
  intro now
  apply Exec.keeps_bind
  · exact logged_updateIncident id fun _ h ↦ h
  intro _
  exact logged_changeIncidentState env settings id .resolved actor _ true

private theorem logged_updateIncident_operator (env : Env) (settings : Settings) (id : Nat)
    (update : Operators.IncidentUpdate) (actor : String) :
    Exec.Keeps Logged (Operators.updateIncident env settings id update actor) := by
  apply Exec.keeps_bind (Logged.of_frames (frames_loadIncident _))
  intro incident
  apply Exec.keeps_bind
  · exact logged_updateIncident id fun _ h ↦ h
  intro _
  apply Exec.keeps_bind
  · cases update.state with
    | none => exact Exec.keeps_pure _
    | some target =>
      exact Exec.keeps_when fun _ ↦ logged_changeIncidentState env settings id target actor _ true
  intro _
  apply Exec.keeps_bind
  · apply Exec.keeps_when
    intro _
    apply Exec.keeps_bind
    · exact logged_updateIncident id fun _ h ↦ h.recorded actor
    intro _
    exact logged_flush env
  intro _
  exact logged_flush env

/-- Every call keeps the logs, whether it returns or raises. -/
private theorem logged_program (op : Operation) : Exec.Keeps Logged op.program := by
  unfold Operation.program
  split
  · next row actor _ =>
    apply Exec.keeps_bind (logged_createIncident op.env row actor)
    intro _
    exact Exec.keeps_pure _
  · exact logged_changeIncidentState op.env op.settings _ _ _ _ _
  · exact logged_resolveIncident op.env op.settings _ _ _ _
  · exact logged_updateIncident_operator op.env op.settings _ _ _

private theorem logged_transaction (op : Operation) :
    Exec.Keeps Logged (transaction op.env op.program) := by
  apply Exec.keeps_bind (logged_program op)
  intro _
  apply Exec.keeps_bind (logged_flush op.env)
  intro _
  apply Exec.Triple.update
  intro w h
  exact ⟨h.1, h.1⟩

/-- One operation keeps the logs. -/
private theorem logged_step {s : State} (op : Operation)
    (h : ∀ incident ∈ s.rows.incidents, Replays incident) :
    ∀ incident ∈ (step s op).rows.incidents, Replays incident :=
  ((logged_transaction op).state (s := s.world) ⟨h, h⟩).2

/-- **The event log replays to the state.** After any operations one after the other, the
changes of every incident form a chain from DETECTED to its state, which folding them
yields; and a change that the transition table rejects raises its error and leaves the whole
session as it was. -/
theorem log_replays (ops : List Operation) :
    (∀ incident ∈ (Runs.run step {} ops).rows.incidents,
      Journal.Follows .detected (changes incident) incident.state ∧
        Journal.replay .detected (changes incident) = incident.state) ∧
    ∀ (env : Env) (settings : Settings) (id : Nat) (target : IncidentState) (actor : String)
      (details : Details) (incident : Incident),
      (Runs.run step {} ops).rows.incidents[id]? = some incident → incident.state ≠ target →
      target ∉ allowedTransitions incident.state →
      ∃ e, transitionIncident incident.state target = .error e ∧
        (changeIncidentState env settings id target actor details).run
          (Runs.run step {} ops).world = (.error e, (Runs.run step {} ops).world) ∧
        step (Runs.run step {} ops) ⟨.change id target actor details false, settings, env⟩ =
          Runs.run step {} ops := by
  have hreplays : ∀ incident ∈ (Runs.run step {} ops).rows.incidents, Replays incident :=
    Runs.invariant (I := fun s : State ↦ ∀ incident ∈ s.rows.incidents, Replays incident)
      (fun _ op h ↦ logged_step op h) (fun _ h ↦ absurd h List.not_mem_nil) ops
  constructor
  · intro incident hmem
    exact ⟨hreplays incident hmem, (hreplays incident hmem).replay_eq⟩
  · intro env settings id target actor details incident hrow hne hnot
    generalize Runs.run step {} ops = s at hrow
    obtain ⟨e, he, hrun⟩ := changeIncidentState_refused env settings actor details
      (w := s.world) hrow hne hnot
    refine ⟨e, he, hrun, ?_⟩
    have hafter : (transaction env (changeIncidentState env settings id target actor
        details)).run s.world = (.error e, s.world) := Exec.run_bind_of_error hrun
    unfold step State.after
    simp only [Operation.program, hafter]
    rfl

end CloudWard.Incidents
