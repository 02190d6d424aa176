import CloudWard.Alerts.Grouping
import CloudWard.IncidentMemory.Capture
import CloudWard.Remediation.Pipeline
import CloudWard.Security.View

/-!
# Closing an incident

Incidents come from the Alertmanager webhook, the security webhook and the pipeline. Whatever is
recorded for one afterwards, its memory can be captured when it ends (`incidents/service.py:194`),
unless its alert came with an empty `alertname`.
-/

namespace CloudWard.IncidentMemory

open CloudWard.Alerts CloudWard.Approvals CloudWard.Db CloudWard.Incidents CloudWard.Logic
  CloudWard.Remediation CloudWard.Remediation.Pipeline Python Service

/-! ### What the producers leave -/

/-- Every incident has a title and a type, every alert record names a service. -/
structure Named (db : Database) : Prop where
  incidents : ∀ row ∈ db.incidents, Titled row
  alerts : ∀ row ∈ db.alerts, row.service ≠ ""

/-- The session's rows are named; the committed ones are, and fit their columns. -/
def NamedRows (w : World) : Prop := Named w.db ∧ Named w.committed ∧ w.committed.Fits

/-- What `NamedRows` reads. -/
def namedTables (w : World) : (Table Incident × Table AlertRecord) × Database :=
  ((w.db.incidents, w.db.alerts), w.committed)

section Keeps

variable {α : Type} {x : Service α} (env : Env) (settings : Settings)

private theorem NamedRows.of_frames (h : Exec.Frames namedTables x) : Exec.Keeps NamedRows x := by
  apply Exec.keeps_of_state
  intro w hw
  have htables := h w
  simp only [namedTables, Prod.mk.injEq] at htables
  obtain ⟨⟨h1, h2⟩, h3⟩ := htables
  exact ⟨⟨h1 ▸ hw.1.incidents, h2 ▸ hw.1.alerts⟩, h3 ▸ hw.2⟩

private theorem named_flush : Exec.Keeps NamedRows (flush env) :=
  NamedRows.of_frames (frames_flush env fun _ _ ↦ rfl)

private theorem named_query {β : Type} (f : Database → β) : Exec.Keeps NamedRows (query env f) :=
  NamedRows.of_frames (frames_query env f fun _ _ ↦ rfl)

/-- Only rows that fit are committed. -/
private theorem named_commit (hstores : Stores env) : Exec.Keeps NamedRows (commit env) := by
  apply Exec.Triple.bind (Q := fun _ w ↦ Named w.db ∧ w.db.Fits)
  · intro w hw
    rw [run_flush]
    cases hdatabase : env.database w with
    | none => exact ⟨hw.1, (hstores w).mp hdatabase⟩
    | some e => exact hw
  · exact fun _ ↦ Exec.Triple.update fun _ h ↦ ⟨h.1, h⟩

/-- A write that touches neither table. -/
private theorem named_write {f : Database → Database}
    (h : ∀ db, (f db).incidents = db.incidents ∧ (f db).alerts = db.alerts) :
    Exec.Keeps NamedRows (write f) := by
  apply Exec.Triple.update
  intro w hw
  refine ⟨⟨?_, ?_⟩, hw.2⟩
  · intro row hrow
    exact hw.1.incidents row ((h w.db).1 ▸ hrow)
  · intro row hrow
    exact hw.1.alerts row ((h w.db).2 ▸ hrow)

/-- Setting columns keeps what an incident is called, if it does. -/
private theorem named_updateIncident (id : Nat) {f : Incident → Incident}
    (hf : ∀ row, Titled row → Titled (f row)) : Exec.Keeps NamedRows (updateIncident id f) := by
  apply Exec.Triple.update
  intro w hw
  refine ⟨⟨?_, hw.1.alerts⟩, hw.2⟩
  intro row hrow
  rcases Table.mem_update hrow with hold | ⟨old, hold, rfl⟩
  · exact hw.1.incidents row hold
  · exact hf old (hw.1.incidents old hold)

private theorem named_changeIncidentState (id : Nat) (target : IncidentState) (actor : String)
    (details : Details) (force : Bool) :
    Exec.Keeps NamedRows (changeIncidentState env settings id target actor details force) := by
  have htick : ∀ (w : World) n, namedTables { w with tick := n } = namedTables w := fun _ _ ↦ rfl
  apply Exec.keeps_bind (NamedRows.of_frames (frames_loadIncident _))
  intro incident
  apply Exec.keeps_when
  intro _
  apply Exec.keeps_bind
  · exact NamedRows.of_frames (Exec.frames_when fun _ ↦ frames_checkTransition _ _)
  intro _
  apply Exec.keeps_bind (NamedRows.of_frames (frames_ask _ htick))
  intro now
  apply Exec.keeps_bind
  · exact named_updateIncident id fun _ h ↦ ⟨h.title, h.incidentType⟩
  intro _
  apply Exec.keeps_bind
  · exact NamedRows.of_frames (Exec.frames_when fun _ ↦ Exec.frames_update fun _ ↦ rfl)
  intro _
  apply Exec.keeps_bind (named_flush env)
  intro _
  apply Exec.keeps_bind (named_flush env)
  intro _
  apply Exec.keeps_bind
  · exact NamedRows.of_frames (Exec.frames_when fun _ ↦
      frames_requestApproval htick env settings id actor details fun _ _ _ ↦ rfl)
  intro _
  apply Exec.keeps_bind
  · exact NamedRows.of_frames (Exec.frames_when fun _ ↦ frames_captureTerminalIncident htick env)
  intro _
  exact named_flush env

private theorem named_createIncident {row : Incident} (h : Titled row) (actor : String) :
    Exec.Keeps NamedRows (createIncident env row actor) := by
  apply Exec.keeps_bind (Exec.keeps_read _)
  intro id
  apply Exec.keeps_bind
  · apply Exec.Triple.update
    intro w hw
    refine ⟨⟨?_, hw.1.alerts⟩, hw.2⟩
    intro found hfound
    rcases List.mem_append.mp hfound with hold | hnew
    · exact hw.1.incidents found hold
    · rw [List.mem_singleton.mp hnew]
      exact ⟨h.title, h.incidentType⟩
  intro _
  apply Exec.keeps_bind
  · exact NamedRows.of_frames (Exec.frames_update fun _ ↦ rfl)
  intro _
  exact Exec.keeps_bind (named_flush env) fun _ ↦ Exec.keeps_bind (named_flush env) fun _ ↦
    Exec.keeps_bind (named_flush env) fun _ ↦ Exec.keeps_bind (named_flush env) fun _ ↦
    Exec.keeps_pure _

/-! #### The Alertmanager webhook -/

private theorem named_updateAlert (id : Nat) {f : AlertRecord → AlertRecord}
    (hf : ∀ row, (f row).service = row.service) : Exec.Keeps NamedRows (updateAlert id f) := by
  apply Exec.Triple.update
  intro w hw
  refine ⟨⟨hw.1.incidents, ?_⟩, hw.2⟩
  intro row hrow
  rcases Table.mem_update hrow with hold | ⟨old, hold, rfl⟩
  · exact hw.1.alerts row hold
  · rw [hf old]
    exact hw.1.alerts old hold

private theorem named_queueIncidentNotification (eventType : String) (id : Nat)
    (details : Notifications.Details) : Exec.Keeps NamedRows
      (Notifications.queueIncidentNotification env settings eventType id details) := by
  apply Exec.keeps_when
  intro _
  apply Exec.keeps_bind (NamedRows.of_frames (frames_loadIncident _))
  intro _
  exact Exec.keeps_bind (Exec.keeps_require _ _) fun _ ↦ named_flush env

private theorem titled_incidentRow (alert : Alerts.NormalizedAlert) (correlationId : String) :
    Titled (Alerts.incidentRow alert correlationId) where
  title := by
    intro h
    have hlength : (alert.alertName ++ " on " ++ alert.service).length = 0 :=
      String.length_eq_zero_iff.mpr h
    have hon : " on ".length = 4 := by decide
    rw [String.length_append, String.length_append, hon] at hlength
    omega
  incidentType := by
    unfold Alerts.incidentRow incidentTypeOf
    simp only [List.lookup_cons, List.lookup_nil]
    repeat' split
    all_goals decide

private theorem named_correlate (correlationId : String) (alert : Alerts.NormalizedAlert)
    (linked : Option Nat) :
    Exec.Keeps NamedRows (correlate env settings correlationId alert linked) := by
  rw [correlate_eq]
  apply Exec.keeps_bind
  · cases linked with
    | none => exact Exec.keeps_pure _
    | some id => exact named_query env fun db ↦ db.incidents[id]?.map fun incident ↦ (id, incident)
  intro incident
  apply Exec.keeps_ite
  · intro _
    apply Exec.keeps_bind (named_createIncident env (titled_incidentRow alert correlationId) _)
    intro incidentId
    apply Exec.keeps_bind
    · exact named_updateIncident _ fun _ h ↦ ⟨h.title, h.incidentType⟩
    intro _
    apply Exec.keeps_bind
    · exact Exec.keeps_when fun _ ↦ named_queueIncidentNotification env settings _ _ _
    intro _
    exact Exec.keeps_pure _
  · exact fun _ ↦ Exec.keeps_pure _

private theorem named_fileAlert {alert : Alerts.NormalizedAlert} (h : alert.service ≠ "")
    (existing incidentId : Option Nat) :
    Exec.Keeps NamedRows (fileAlert env alert existing incidentId) := by
  apply Exec.keeps_bind (NamedRows.of_frames (frames_ask _ fun _ _ ↦ rfl))
  intro now
  cases existing with
  | none =>
    apply Exec.keeps_bind (Exec.keeps_read _)
    intro alertId
    apply Exec.keeps_bind
    · apply Exec.Triple.update
      intro w hw
      refine ⟨⟨hw.1.incidents, ?_⟩, hw.2⟩
      intro row hrow
      rcases List.mem_append.mp hrow with hold | hnew
      · exact hw.1.alerts row hold
      · rw [List.mem_singleton.mp hnew]
        exact h
    intro _
    exact Exec.keeps_bind (named_flush env) fun _ ↦ Exec.keeps_pure _
  | some alertId =>
    apply Exec.keeps_bind
    · exact named_updateAlert alertId fun _ ↦ rfl
    intro _
    exact Exec.keeps_pure _

private theorem named_ingestOne (correlationId : String) {alert : Alerts.NormalizedAlert}
    (h : alert.service ≠ "") :
    Exec.Keeps NamedRows (ingestOne env settings correlationId alert) := by
  apply Exec.keeps_bind (named_query env _)
  intro existing
  cases existing.filter (·.2.payloadDigest = alert.payloadDigest) with
  | some found =>
    apply Exec.keeps_bind (NamedRows.of_frames (frames_ask _ fun _ _ ↦ rfl))
    intro now
    apply Exec.keeps_bind
    · exact named_updateAlert _ fun _ ↦ rfl
    intro _
    exact Exec.keeps_bind (named_flush env) fun _ ↦ Exec.keeps_pure _
  | none =>
    apply Exec.keeps_bind (named_correlate env settings correlationId alert _)
    intro result
    apply Exec.keeps_bind (named_fileAlert env h _ _)
    intro alertId
    apply Exec.keeps_bind
    · cases result.1 with
      | none => exact Exec.keeps_pure _
      | some incidentId =>
        apply Exec.keeps_bind
        · exact named_updateIncident _ fun _ h ↦ ⟨h.title, h.incidentType⟩
        intro _
        exact named_flush env
    intro _
    exact Exec.keeps_pure _

private theorem named_ingestAlerts (correlationId : String) (alerts : List Alerts.NormalizedAlert)
    (h : ∀ alert ∈ alerts, alert.service ≠ "") :
    Exec.Keeps NamedRows (ingestAlerts env settings correlationId alerts) := by
  induction alerts with
  | nil => exact Exec.keeps_bind (named_flush env) fun _ ↦ Exec.keeps_pure _
  | cons alert alerts ih =>
    apply Exec.keeps_bind (named_ingestOne env settings correlationId (h alert List.mem_cons_self))
    intro _
    apply Exec.keeps_bind (ih fun alert hmem ↦ h alert (List.mem_cons_of_mem _ hmem))
    intro _
    exact Exec.keeps_pure _

private theorem titled_pipeline {target : UnhealthyPodTarget} {correlationId : String} :
    Titled (Pipeline.incidentRow target correlationId) where
  title := by
    change "Unhealthy Demo Pod" ≠ ""
    decide
  incidentType := by
    change "reliability" ≠ ""
    decide

/-! #### The security webhook -/

private theorem titled_security (d : Security.Delivery) : Titled (Security.incidentRow d) where
  title := by
    intro h
    have hlength : (Security.incidentTitle d.event).length = 0 := String.length_eq_zero_iff.mpr h
    have hdot : " · ".length = 3 := by decide
    unfold Security.incidentTitle at hlength
    rw [String.length_append, String.length_append, hdot] at hlength
    omega
  incidentType := by
    change "security." ++ _ ≠ ""
    intro h
    have hlength := String.length_eq_zero_iff.mpr h
    have hsecurity : "security.".length = 9 := by decide
    rw [String.length_append, hsecurity] at hlength
    omega

private theorem named_openEvent (d : Security.Delivery) :
    Exec.Keeps NamedRows (Security.openEvent env settings d) := by
  apply Exec.keeps_bind (named_createIncident env (titled_security d) _)
  intro incidentId
  apply Exec.keeps_bind
  · exact named_updateIncident _ fun _ h ↦ ⟨h.title, h.incidentType⟩
  intro _
  apply Exec.keeps_bind
  · exact NamedRows.of_frames (Exec.frames_when fun _ ↦
      Exec.frames_bind (frames_ask _ fun _ _ ↦ rfl) fun _ ↦
      Exec.frames_bind (Exec.frames_faultOf _) fun _ ↦ frames_flush env fun _ _ ↦ rfl)
  intro _
  apply Exec.keeps_bind
  · exact named_updateIncident _ fun _ h ↦ ⟨h.title, h.incidentType⟩
  intro _
  apply Exec.keeps_bind
  · exact Exec.keeps_bind (Exec.keeps_read _) fun _ ↦ Exec.keeps_bind (Exec.keeps_require _ _)
      fun _ ↦ Exec.keeps_bind (named_write fun _ ↦ ⟨rfl, rfl⟩) fun _ ↦
      Exec.keeps_bind (named_flush env) fun _ ↦ Exec.keeps_pure _
  intro eventId
  exact Exec.keeps_bind (named_flush env) fun _ ↦ Exec.keeps_bind (named_flush env) fun _ ↦
    Exec.keeps_bind (named_changeIncidentState env settings _ _ _ _ _) fun _ ↦
    Exec.keeps_bind (named_changeIncidentState env settings _ _ _ _ _) fun _ ↦ Exec.keeps_pure _

private theorem named_proposeQuarantine (d : Security.Delivery) (incidentId eventId : Nat) :
    Exec.Keeps NamedRows (Security.proposeQuarantine env settings d incidentId eventId) := by
  apply Exec.keeps_bind
  · exact named_updateIncident _ fun _ h ↦ ⟨h.title, h.incidentType⟩
  intro _
  apply Exec.keeps_bind (named_flush env)
  intro _
  apply Exec.keeps_bind (named_changeIncidentState env settings _ _ _ _ _)
  intro _
  apply Exec.keeps_bind
  · exact Exec.keeps_bind (Exec.keeps_read _) fun _ ↦
      Exec.keeps_bind (named_write fun _ ↦ ⟨rfl, rfl⟩) fun _ ↦ Exec.keeps_pure _
  intro proposalId
  apply Exec.keeps_bind (named_flush env)
  intro _
  apply Exec.keeps_bind (named_flush env)
  intro _
  apply Exec.keeps_bind (named_changeIncidentState env settings _ _ _ _ _)
  intro _
  apply Exec.keeps_bind
  · exact NamedRows.of_frames (frames_evaluate env _ (fun _ _ ↦ rfl) fun _ _ ↦ rfl)
  intro decision
  exact Exec.keeps_bind (named_write fun _ ↦ ⟨rfl, rfl⟩) fun _ ↦
    Exec.keeps_bind (named_write fun _ ↦ ⟨rfl, rfl⟩) fun _ ↦
    Exec.keeps_bind (named_flush env) fun _ ↦ Exec.keeps_pure _

private theorem named_ingestSecurityEvent (hstores : Stores env) (d : Security.Delivery) :
    Exec.Keeps NamedRows (Security.ingestSecurityEvent env settings d) := by
  apply Exec.keeps_bind (named_query env _)
  intro existing
  cases existing with
  | some found =>
    exact Exec.keeps_bind (named_write fun _ ↦ ⟨rfl, rfl⟩) fun _ ↦
      Exec.keeps_bind (named_flush env) fun _ ↦ Exec.keeps_bind (named_flush env) fun _ ↦
      named_commit env hstores
  | none =>
    apply Exec.keeps_bind (named_openEvent env settings d)
    intro opened
    apply Exec.keeps_bind (named_proposeQuarantine env settings d _ _)
    intro proposed
    apply Exec.keeps_bind
    · apply Exec.keeps_ite
      · exact fun _ ↦ named_write fun _ ↦ ⟨rfl, rfl⟩
      intro _
      apply Exec.keeps_ite
      · exact fun _ ↦ Exec.keeps_bind (named_write fun _ ↦ ⟨rfl, rfl⟩) fun _ ↦
          named_changeIncidentState env settings _ _ _ _ _
      · exact fun _ ↦ Exec.keeps_bind (named_write fun _ ↦ ⟨rfl, rfl⟩) fun _ ↦
          named_changeIncidentState env settings _ _ _ _ _
    intro _
    exact Exec.keeps_bind (named_flush env) fun _ ↦ named_commit env hstores

end Keeps

/-! ### Arrivals -/

/-- What the rows call their incidents and alerts. -/
def names (db : Database) : List (String × String) × List String :=
  (db.incidents.map fun row ↦ (row.title, row.incidentType), db.alerts.map (·.service))

/-- A program that neither adds nor renames an incident or an alert record, whatever else it
records and however often it commits rows that fit. -/
structure LeavesNames (x : Service Unit) : Prop where
  names : ∀ n, Exec.Keeps (fun w ↦ Security.seen names w = (n, n)) x
  fits : Exec.Keeps (fun w ↦ w.committed.Fits) x

/-- What arrives: a payload of alerts, a security event, a run of the pipeline, or anything that
is done with the incidents there are. -/
inductive Arrival
  | alerts (correlationId : String) (payload : List AlertmanagerAlert)
  | securityEvent (d : Security.Delivery)
  | unhealthyPod (target : UnhealthyPodTarget) (correlationId actor : String)
  | processed (x : Service Unit) (leaves : LeavesNames x)

/-- An arrival with what it meets: a database that fails only for rows that do not fit. -/
structure Moment where
  arrival : Arrival
  settings : Settings
  env : Env
  unicode : Unicode
  hashes : Hashes
  stores : Stores env

/-- The program of an arrival, with its commits. The rest of the pipeline's run is `processed`. -/
def Moment.program (m : Moment) : Service Unit :=
  match m.arrival with
  | .alerts correlationId payload => do
    let _ ← alertmanagerWebhook m.env m.settings correlationId
      (payload.map (fromAlertmanager m.unicode m.hashes))
  | .securityEvent d => Security.ingestSecurityEvent m.env m.settings d
  | .unhealthyPod target correlationId actor => do
    let _ ← createIncident m.env (Pipeline.incidentRow target correlationId) actor
    commit m.env
  | .processed x _ => x

/-- The committed rows after an arrival. -/
def arrive (rows : Database) (m : Moment) : Database := (m.program.run (start rows)).2.committed

/-- Names are what `Named` asks about. -/
theorem named_of_names {db db' : Database} (h : names db' = names db) (hdb : Named db) :
    Named db' := by
  simp only [names, Prod.mk.injEq] at h
  constructor
  · intro row hrow
    have hmem : (row.title, row.incidentType) ∈
        db.incidents.map fun row ↦ (row.title, row.incidentType) :=
      h.1 ▸ List.mem_map_of_mem hrow
    obtain ⟨old, hold, heq⟩ := List.mem_map.mp hmem
    simp only [Prod.mk.injEq] at heq
    exact ⟨heq.1 ▸ (hdb.incidents old hold).title, heq.2 ▸ (hdb.incidents old hold).incidentType⟩
  · intro row hrow
    have hmem : row.service ∈ db.alerts.map (·.service) := h.2 ▸ List.mem_map_of_mem hrow
    obtain ⟨old, hold, heq⟩ := List.mem_map.mp hmem
    exact heq ▸ hdb.alerts old hold

/-- A state change leaves the names. -/
theorem leavesNames_changeIncidentState (env : Env) (settings : Settings) (id : Nat)
    (target : IncidentState) (actor : String) (details : Details) :
    LeavesNames (changeIncidentState env settings id target actor details) where
  names := by
    intro n
    apply Exec.Frames.keeps (f := Security.seen names) (p := (· = (n, n)))
    apply frames_changeIncidentState_of_update (fun _ _ ↦ rfl)
    · intro w now
      simp only [Security.seen, IncidentMemory.names, Prod.mk.injEq, and_true]
      exact Table.map_update _ _ fun _ ↦ rfl
    · exact fun _ _ _ ↦ rfl
    · exact fun _ _ _ _ ↦ rfl
  fits := by
    apply Exec.Frames.keeps (f := World.committed) (p := Database.Fits)
    exact frames_changeIncidentState_of_update (fun _ _ ↦ rfl) env settings id target actor
      details false (fun _ _ ↦ rfl) (fun _ _ _ ↦ rfl) fun _ _ _ _ ↦ rfl

/-- Every arrival keeps the rows named. -/
private theorem named_program (m : Moment) {rows : Database}
    (h : Named rows) (hfits : rows.Fits) : NamedRows (m.program.run (start rows)).2 := by
  have hstart : NamedRows (start rows) := ⟨h, h, hfits⟩
  unfold Moment.program
  cases m.arrival with
  | alerts correlationId payload =>
    refine Exec.Keeps.state ?_ hstart
    apply Exec.keeps_bind
    · apply Exec.keeps_bind
      · apply named_ingestAlerts
        intro alert hmem
        obtain ⟨received, -, rfl⟩ := List.mem_map.mp hmem
        exact service_fromAlertmanager_ne_empty _ _ received
      intro ingested
      exact Exec.keeps_bind (named_commit m.env m.stores) fun _ ↦ Exec.keeps_pure _
    intro _
    exact Exec.keeps_pure _
  | securityEvent d => exact (named_ingestSecurityEvent m.env m.settings m.stores d).state hstart
  | unhealthyPod target correlationId actor =>
    refine Exec.Keeps.state ?_ hstart
    apply Exec.keeps_bind
    · exact named_createIncident m.env titled_pipeline actor
    intro _
    exact named_commit m.env m.stores
  | processed x leaves =>
    have hnames := (leaves.names (names rows)).state (s := start rows) rfl
    simp only [Security.seen, Prod.mk.injEq] at hnames
    exact ⟨named_of_names hnames.1 h, named_of_names hnames.2 h,
      leaves.fits.state (s := start rows) hfits⟩

/-- After any arrivals the rows are named and fit their columns. -/
theorem named_run (arrivals : List Moment) :
    Named (Runs.run arrive {} arrivals) ∧ (Runs.run arrive {} arrivals).Fits := by
  apply Runs.invariant (I := fun rows : Database ↦ Named rows ∧ rows.Fits)
  · exact fun _ m h ↦ (named_program m h.1 h.2).2
  · refine ⟨⟨?_, ?_⟩, fits_empty⟩
    · exact fun _ h ↦ absurd h List.not_mem_nil
    · exact fun _ h ↦ absurd h List.not_mem_nil

/-! ### Closing -/

/-- An environment whose capture is `capture_terminal_incident`, with what it finds. -/
def capturing (env : Env) (background : World → Background) (id : Nat) : Env :=
  { env with
    validation := fun w ↦
      match w.db.incidents[id]?.map fun row ↦ capture w.db (background w) id row with
      | some (.error e) => some e
      | _ => none }

section Closing

variable {env : Env} {db : Database} {id : Nat} {incident : Incident} {target : IncidentState}
  {actor : String} {now : Nat}

/-- The rows in which an incident has just ended. -/
def closed (db : Database) (id : Nat) (target : IncidentState) (actor : String) (now : Nat) :
    Database :=
  { db with incidents := db.incidents.update id (withState target actor now) }

private theorem fits_closed (hfits : db.Fits) : (closed db id target actor now).Fits := by
  refine ⟨?_, hfits.alerts, hfits.securityEvents⟩
  intro row hrow
  rcases Table.mem_update hrow with hold | ⟨old, hold, rfl⟩
  · exact hfits.incidents row hold
  · have h := hfits.incidents old hold
    exact ⟨h.correlationId, h.incidentType, h.title, h.summary, h.severity, h.runbookId⟩

/-- Rows that fit are stored. -/
private theorem triple_flush_of_fits (hstores : Stores env) (hfits : db.Fits) {E : Exc → World → Prop} :
    Exec.Triple (fun w ↦ w.db = db) (flush env) (fun _ w ↦ w.db = db) E := by
  intro w hw
  rw [run_flush, (hstores w).mpr (hw ▸ hfits)]
  exact hw

/-- The last steps of a change to an end fail if the capture does. -/
private theorem triple_capture (hstores : Stores env) (hfits : db.Fits) :
    Exec.Triple (fun w ↦ w.db = db) (captureTerminalIncident env >>= fun _ ↦ flush env)
      (fun _ _ ↦ ∃ w, w.db = db ∧ env.validation w = none)
      (fun e _ ↦ ∃ w, w.db = db ∧ env.validation w = some e) := by
  apply Exec.Triple.bind (Q := fun _ w ↦ w.db = db ∧ ∃ w, w.db = db ∧ env.validation w = none)
  · apply Exec.Triple.bind (triple_flush_of_fits hstores hfits)
    intro _
    apply Exec.Triple.bind (Q := fun fault w ↦ w.db = db ∧ ∃ w, w.db = db ∧ env.validation w = fault)
    · exact triple_ask fun w hw ↦ ⟨hw, w, hw, rfl⟩
    intro fault
    apply Exec.Triple.bind
      (Q := fun _ w ↦ w.db = db ∧ ∃ w, w.db = db ∧ env.validation w = none)
    · cases fault with
      | none => exact fun w hw ↦ hw
      | some e => exact fun w hw ↦ hw.2
    intro _ w hw
    rw [run_flush, (hstores w).mpr (hw.1 ▸ hfits)]
    exact hw
  · intro _ w hw
    rw [run_flush, (hstores w).mpr (hw.1 ▸ hfits)]
    exact hw.2

/-- A change to an end that the transition table allows fails if the capture does. -/
theorem triple_closing (hstores : Stores env) (hfits : db.Fits) (settings : Settings)
    (hrow : db.incidents[id]? = some incident) (hend : target.isTerminal)
    (hallowed : target ∈ allowedTransitions incident.state) (details : Details) :
    Exec.Triple (fun w ↦ w.db = db) (changeIncidentState env settings id target actor details)
      (fun _ _ ↦ ∃ now w, w.db = closed db id target actor now ∧ env.validation w = none)
      (fun e _ ↦ ∃ now w, w.db = closed db id target actor now ∧ env.validation w = some e) := by
  have hne : incident.state ≠ target := by
    intro h
    rw [allowedTransitions_of_isTerminal _ (h ▸ hend)] at hallowed
    exact absurd hallowed List.not_mem_nil
  have hwaits : target ≠ .awaitingApproval := by
    rintro rfl
    exact absurd hend (by decide)
  apply Exec.Triple.bind (Q := fun row w ↦ w.db = db ∧ row = incident)
  · intro w hw
    obtain ⟨n, hload⟩ := reaches_loadIncident (hw ▸ hrow)
    rw [hload]
    exact ⟨hw, rfl⟩
  intro row
  apply Exec.Triple.assume
  rintro rfl
  apply Exec.Triple.when
  · intro _
    apply Exec.Triple.bind (Q := fun _ w ↦ w.db = db)
    · intro w hw
      rw [Exec.run_when, if_pos Bool.false_ne_true]
      unfold checkTransition
      rw [transitionIncident_eq_ok.mpr ⟨hallowed, rfl⟩]
      exact hw
    intro _
    apply Exec.Triple.bind (Q := fun _ w ↦ w.db = db)
    · exact triple_ask fun w hw ↦ hw
    intro now
    have hclosed : (closed db id target actor now).Fits := fits_closed hfits
    have hflush := triple_flush_of_fits hstores hclosed (E := fun e _ ↦
      ∃ now w, w.db = closed db id target actor now ∧ env.validation w = some e)
    apply Exec.Triple.bind (Q := fun _ w ↦ w.db = closed db id target actor now)
    · apply Exec.Triple.update
      rintro w rfl
      rfl
    intro _
    apply Exec.Triple.bind (Q := fun _ w ↦ w.db = closed db id target actor now)
    · apply Exec.Triple.when
      · exact fun _ ↦ Exec.Triple.update fun _ hw ↦ hw
      · exact fun h ↦ absurd hend h
    intro _
    apply Exec.Triple.bind hflush
    intro _
    apply Exec.Triple.bind hflush
    intro _
    apply Exec.Triple.bind (Q := fun _ w ↦ w.db = closed db id target actor now)
    · apply Exec.Triple.when
      · exact fun h ↦ absurd h hwaits
      · exact fun _ _ hw ↦ hw
    intro _ w hw
    rw [Exec.run_bind, Exec.run_when, if_pos hend, ← Exec.run_bind]
    have hcapture := triple_capture hstores hclosed w hw
    revert hcapture
    split
    · exact fun ⟨v, hv, hvalid⟩ ↦ ⟨now, v, hv, hvalid⟩
    · exact fun ⟨v, hv, hvalid⟩ ↦ ⟨now, v, hv, hvalid⟩
  · exact fun h ↦ absurd hne h

/-- On named rows that fit, a change to an end returns unless the newest alert of the incident has
no name. -/
private theorem closing_returns_iff (hstores : Stores env) (hfits : db.Fits) (hnamed : Named db)
    (settings : Settings) (hrow : db.incidents[id]? = some incident) (hend : target.isTerminal)
    (hallowed : target ∈ allowedTransitions incident.state) (details : Details)
    (background : World → Background) :
    ((changeIncidentState (capturing env background id) settings id target actor details).run
      (start db)).1 = .ok () ↔
    ∀ entry ∈ db.alerts.latest (·.incidentId = some id), entry.2.alertName ≠ "" := by
  have hmem : incident ∈ db.incidents := List.mem_of_getElem? hrow
  have hvalidation {now : Nat} {w : World} (hw : w.db = closed db id target actor now) :
      (capturing env background id).validation w = none ↔
        ∀ entry ∈ db.alerts.latest (·.incidentId = some id), entry.2.alertName ≠ "" := by
    have hset : w.db.incidents[id]? = some (withState target actor now incident) := by
      rw [hw, closed, Table.getElem?_update_self, hrow, Option.map_some]
    have halerts : w.db.alerts = db.alerts := by
      rw [hw]
      rfl
    have hclosed : (closed db id target actor now).Fits := fits_closed hfits
    have hset_fits : (withState target actor now incident).Fits :=
      hclosed.incidents _ (hw ▸ List.mem_of_getElem? hset)
    have hset_titled : Titled (withState target actor now incident) :=
      ⟨(hnamed.incidents incident hmem).title, (hnamed.incidents incident hmem).incidentType⟩
    have halert : ∀ entry ∈ w.db.alerts.latest (·.incidentId = some id),
        entry.2.Fits ∧ entry.2.service ≠ "" := by
      intro entry hentry
      rw [halerts] at hentry
      have hrow := List.mem_of_getElem? (Table.latest_eq_some hentry).1
      exact ⟨hfits.alerts _ hrow, hnamed.alerts _ hrow⟩
    have hcapture : capture w.db (background w) id (withState target actor now incident) =
        .ok (memoryOf w.db (background w) id (withState target actor now incident)) ↔ _ :=
      capture_eq_ok_iff hset_fits hset_titled halert
    rw [halerts] at hcapture
    rw [← hcapture]
    simp only [capturing, hset, Option.map_some]
    rcases capture_cases w.db (background w) id (withState target actor now incident) with h | h
    · rw [h]
      simp
    · rw [h]
      simp
  have hclosing := @triple_closing (capturing env background id) db id incident target actor
    hstores hfits settings hrow hend hallowed details (start db) rfl
  revert hclosing
  rcases (changeIncidentState (capturing env background id) settings id target actor details).run
    (start db) with ⟨e | ⟨⟩, w'⟩
  · rintro ⟨now, w, hw, hvalid⟩
    rw [← hvalidation hw, hvalid]
    simp
  · rintro ⟨now, w, hw, hvalid⟩
    rw [← hvalidation hw, hvalid]
    simp

end Closing

/-- **Closing an incident.** After any arrivals, an incident that is moved to an end along the
transition table is closed, whatever was recorded for it, if and only if the newest alert linked
to it, if there is one, has a name. -/
theorem closing_unblocked_iff (arrivals : List Moment) {id : Nat} {incident : Incident}
    (hrow : (Runs.run arrive {} arrivals).incidents[id]? = some incident) {target : IncidentState}
    (hend : target.isTerminal) (hallowed : target ∈ allowedTransitions incident.state) {env : Env}
    (hstores : Stores env) (settings : Settings) (actor : String) (details : Details)
    (background : World → Background) :
    ((changeIncidentState (capturing env background id) settings id target actor details).run
      (start (Runs.run arrive {} arrivals))).1 = .ok () ↔
    ∀ entry ∈ (Runs.run arrive {} arrivals).alerts.latest (·.incidentId = some id),
      entry.2.alertName ≠ "" :=
  closing_returns_iff hstores (named_run arrivals).2 (named_run arrivals).1 settings hrow hend
    hallowed details background

private theorem unzoned_lt : ∀ offset ∈ (none : Option Int), |offset| < 86400000000 :=
  fun _ h ↦ absurd h (Option.not_mem_none _)

private theorem single_card (name : String) :
    1 ≤ (AList.singleton "alertname" name : Labels).entries.length ∧
      (AList.singleton "alertname" name : Labels).entries.length ≤ 64 :=
  ⟨Nat.le_refl 1, Nat.le_add_left 1 63⟩

private theorem single_bounded (name : String) (h : name.length ≤ 2048) :
    ∀ entry ∈ (AList.singleton "alertname" name : Labels).entries,
      entry.1.length ≤ 128 ∧ entry.2.length ≤ 2048 := by
  intro entry hentry
  obtain rfl := List.mem_singleton.mp hentry
  have hkey : "alertname".length ≤ 128 := by decide
  exact ⟨hkey, h⟩

private theorem unannotated_card : (∅ : Labels).entries.length ≤ 32 := Nat.zero_le _

private theorem unannotated_bounded :
    ∀ entry ∈ (∅ : Labels).entries, entry.1.length ≤ 128 ∧ entry.2.length ≤ 2048 :=
  fun _ h ↦ absurd h List.not_mem_nil

/-- A firing alert with one label, `alertname`. -/
def namedAlert (name : String) (h : name.length ≤ 2048) : AlertmanagerAlert where
  status := .firing
  labels := AList.singleton "alertname" name
  startsAt := ⟨0, none, unzoned_lt⟩
  labels_card := single_card name
  labels_bounded := single_bounded name h
  annotations_card := unannotated_card
  annotations_bounded := unannotated_bounded

/-- A hash of fixed digits. -/
def constantHashes : Hashes where
  fingerprint _ := "a"
  payloadDigest _ := "b"
  fingerprint_fits _ := by decide
  payloadDigest_fits _ := by decide

/-- The delivery of such an alert. -/
def delivered (name : String) (h : name.length ≤ 2048) : Moment where
  arrival := .alerts "first" [namedAlert name h]
  settings := .standard
  env := storing calm
  unicode := ⟨fun _ ↦ false, fun _ ↦ none⟩
  hashes := constantHashes
  stores := stores_storing calm

/-- The rows it leaves: an incident in DETECTED with its alert. -/
private def Delivered (name : String) (db : Database) : Prop :=
  db.incidents.map (·.state) = [.detected] ∧
    db.alerts.map (fun row ↦ (row.alertName, row.incidentId)) = [(name, some 0)]

private theorem delivered_unnamed :
    Delivered "" (Runs.run arrive {} [delivered "" (by decide)]) := by
  unfold Delivered
  decide +kernel

private theorem delivered_named :
    Delivered "NodeDown" (Runs.run arrive {} [delivered "NodeDown" (by decide)]) := by
  unfold Delivered
  decide +kernel

private theorem Delivered.incident {name : String} {db : Database} (h : Delivered name db) :
    ∃ incident, db.incidents[0]? = some incident ∧ incident.state = .detected := by
  have hstate : (db.incidents.map (·.state))[0]? = some .detected := by
    rw [h.1]
    rfl
  rw [List.getElem?_map, Option.map_eq_some_iff] at hstate
  exact hstate

private theorem Delivered.latest {name : String} {db : Database} (h : Delivered name db) :
    ∃ row, db.alerts.latest (·.incidentId = some 0) = some (0, row) ∧ row.alertName = name := by
  obtain ⟨row, hrow, hfields⟩ := List.map_eq_singleton_iff.mp h.2
  simp only [Prod.mk.injEq] at hfields
  use row
  refine ⟨?_, hfields.1⟩
  rw [hrow]
  exact Table.latest_insert_of_pos (t := []) (decide_eq_true hfields.2)

/-- An alert with a name can be closed. -/
theorem closing_unblocked_named :
    ∃ incident, (Runs.run arrive {} [delivered "NodeDown" (by decide)]).incidents[0]? =
        some incident ∧
      ((changeIncidentState (capturing (storing calm) (fun _ ↦ {}) 0) .standard 0 .escalated "operator"
        {}).run (start (Runs.run arrive {} [delivered "NodeDown" (by decide)]))).1 = .ok () := by
  obtain ⟨incident, hrow, hstate⟩ := delivered_named.incident
  obtain ⟨row, hlatest, hname⟩ := delivered_named.latest
  use incident, hrow
  rw [closing_unblocked_iff _ hrow rfl (by rw [hstate]; decide) (stores_storing calm)]
  intro entry hentry
  rw [hlatest] at hentry
  cases hentry
  rw [hname]
  decide

/-- An alert whose `alertname` is empty opens an incident that cannot be closed. -/
theorem unnamed_alert_not_closed :
    ¬ ∀ (arrivals : List Moment) (id : Nat) (incident : Incident) (target : IncidentState)
      (env : Env) (settings : Settings) (actor : String) (details : Details)
      (background : World → Background),
      (Runs.run arrive {} arrivals).incidents[id]? = some incident → target.isTerminal →
      target ∈ allowedTransitions incident.state → Stores env →
      ((changeIncidentState (capturing env background id) settings id target actor details).run
        (start (Runs.run arrive {} arrivals))).1 = .ok () := by
  intro h
  obtain ⟨incident, hrow, hstate⟩ := delivered_unnamed.incident
  obtain ⟨row, hlatest, hname⟩ := delivered_unnamed.latest
  have hescalates : IncidentState.escalated ∈ allowedTransitions incident.state := by
    rw [hstate]
    decide
  have hclosed := h _ 0 incident .escalated (storing calm) .standard "operator" {} (fun _ ↦ {})
    hrow rfl hescalates (stores_storing calm)
  rw [closing_returns_iff (stores_storing calm) (named_run _).2 (named_run _).1 _ hrow rfl
    hescalates] at hclosed
  exact hclosed _ hlatest hname

end CloudWard.IncidentMemory
