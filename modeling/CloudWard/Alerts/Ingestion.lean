import CloudWard.Alerts.Service

/-!
# What an ingestion leaves

The three ways `_ingest_one` (`alerts/service.py:53`) returns, as a relation between the rows
before and after: a delivery with the payload of its record is counted, a firing one without an
open incident opens one, and any other follows the incident its record is linked to.
-/

namespace CloudWard.Alerts

open CloudWard.Approvals CloudWard.Db CloudWard.Incidents CloudWard.Logic Service

/-- What deliveries are grouped by. -/
def NormalizedAlert.key (alert : NormalizedAlert) : String × String :=
  (alert.source, alert.fingerprint)

/-- What a record groups. -/
def keyOf (record : AlertRecord) : String × String := (record.source, record.fingerprint)

/-- The record that a delivery finds. -/
def recordOf (db : Database) (alert : NormalizedAlert) : Option (Nat × AlertRecord) :=
  db.alerts.latest fun record ↦
    record.source = alert.source ∧ record.fingerprint = alert.fingerprint

/-- The incident that a delivery finds. -/
def linkedTo (db : Database) (alert : NormalizedAlert) : Option (Nat × Incident) :=
  ((recordOf db alert).bind (·.2.incidentId)).bind fun id ↦
    db.incidents[id]?.map fun incident ↦ (id, incident)

/-- The identity of the record after a delivery. -/
def alertIdOf (db : Database) (alert : NormalizedAlert) : Nat :=
  ((recordOf db alert).map (·.1)).getD db.alerts.fresh

/-- A record after a repeated delivery. -/
def repeated (now : Nat) (record : AlertRecord) : AlertRecord :=
  { record with lastReceivedAt := now, repeatCount := record.repeatCount + 1 }

/-- The records after any other delivery. -/
def filed (db : Database) (alert : NormalizedAlert) (incidentId : Option Nat) (now : Nat) :
    Table AlertRecord :=
  match recordOf db alert with
  | none => db.alerts.insert (alertRow alert incidentId now)
  | some (id, _) => db.alerts.update id (withDelivery alert incidentId now)

/-- The incident that a delivery opens. -/
def openedRow (alert : NormalizedAlert) (correlationId : String) : Incident :=
  withAlert alert { asCreated "alertmanager" (incidentRow alert correlationId) with
    severity := alert.severity }

/-- The incidents after a delivery to a linked one. -/
def followed (db : Database) (alert : NormalizedAlert) : Table Incident :=
  match linkedTo db alert with
  | none => db.incidents
  | some (id, _) => db.incidents.update id (withAlert alert)

/-- The delivery has another payload than its record. -/
def Differs (db : Database) (alert : NormalizedAlert) : Prop :=
  ∀ entry ∈ recordOf db alert, entry.2.payloadDigest ≠ alert.payloadDigest

/-- The delivery opens an incident: it fires, and the incident it finds is over. -/
def Opens (db : Database) (alert : NormalizedAlert) : Prop :=
  alert.status = .firing ∧ ∀ entry ∈ linkedTo db alert, entry.2.state.isTerminal

/-- How a delivery is ingested. -/
inductive Ingests (correlationId : String) (alert : NormalizedAlert) (db : Database) :
    AlertIngestionResult → Database → Prop
  | repeated {id now : Nat} {record : AlertRecord} (found : recordOf db alert = some (id, record))
      (same : record.payloadDigest = alert.payloadDigest) :
      Ingests correlationId alert db ⟨id, record.incidentId, true, false, record.status⟩
        { db with alerts := db.alerts.update id (repeated now) }
  | opened {now : Nat} (differs : Differs db alert) (opens : Opens db alert) :
      Ingests correlationId alert db
        ⟨alertIdOf db alert, some db.incidents.fresh, false, true, alert.status⟩
        { db with
          incidents := db.incidents.insert (openedRow alert correlationId)
          alerts := filed db alert (some db.incidents.fresh) now }
  | followed {now : Nat} (differs : Differs db alert) (follows : ¬ Opens db alert) :
      Ingests correlationId alert db
        ⟨alertIdOf db alert, (linkedTo db alert).map (·.1), false, false, alert.status⟩
        { db with
          incidents := followed db alert
          alerts := filed db alert ((linkedTo db alert).map (·.1)) now }

section Stages

variable (env : Env) (settings : Settings) (correlationId : String) (alert : NormalizedAlert)
variable {db : Database}

/-- A program that leaves the rows alone. -/
private theorem triple_rows {α : Type} {x : Service α} (hx : Exec.Frames World.db x) :
    Exec.Triple (fun w ↦ w.db = db) x (fun _ w ↦ w.db = db) fun _ _ ↦ True :=
  (hx.keeps (· = db)).mono (fun _ h ↦ h) (fun _ _ h ↦ h) fun _ _ _ ↦ trivial

private theorem triple_countDuplicate (id : Nat) (record : AlertRecord) :
    Exec.Triple (fun w ↦ w.db = db) (countDuplicate env id record)
      (fun r w ↦ r = ⟨id, record.incidentId, true, false, record.status⟩ ∧
        ∃ now, w.db = { db with alerts := db.alerts.update id (repeated now) })
      fun _ _ ↦ True := by
  apply Exec.Triple.bind (triple_rows (frames_ask _ fun _ _ ↦ rfl))
  intro now
  apply Exec.Triple.bind
    (Q := fun _ w ↦ w.db = { db with alerts := db.alerts.update id (repeated now) })
  · apply triple_write
    rintro w rfl
    rfl
  intro _
  apply Exec.Triple.bind (triple_rows (frames_flush env fun _ _ ↦ rfl))
  intro _
  exact Exec.Triple.pure fun _ h ↦ ⟨rfl, now, h⟩

/-- A creation adds its row. -/
private theorem triple_createIncident (row : Incident) (actor : String) :
    Exec.Triple (fun w ↦ w.db = db) (createIncident env row actor)
      (fun id w ↦ id = db.incidents.fresh ∧
        w.db = { db with incidents := db.incidents.insert (asCreated actor row) })
      fun _ _ ↦ True := by
  apply Exec.Triple.bind (Q := fun id w ↦ w.db = db ∧ id = db.incidents.fresh)
  · rintro w rfl
    exact ⟨rfl, rfl⟩
  intro id
  apply Exec.Triple.assume
  rintro rfl
  apply Exec.Triple.bind (Q := fun _ w ↦
    w.db = { db with incidents := db.incidents.insert (asCreated actor row) })
  · apply triple_write
    rintro w rfl
    rfl
  intro _
  apply Exec.Triple.bind (triple_rows fun _ ↦ rfl)
  intro _
  have hflush {d : Database} : Exec.Triple (fun w ↦ w.db = d) (flush env) (fun _ w ↦ w.db = d)
      fun _ _ ↦ True := triple_rows (frames_flush env fun _ _ ↦ rfl)
  apply Exec.Triple.bind hflush
  intro _
  apply Exec.Triple.bind hflush
  intro _
  apply Exec.Triple.bind hflush
  intro _
  apply Exec.Triple.bind hflush
  intro _
  exact Exec.Triple.pure fun _ h ↦ ⟨rfl, h⟩

private theorem frames_notifyCritical {ω : Type} {f : World → ω}
    (htick : ∀ w n, f { w with tick := n } = f w) (incidentId : Nat) :
    Exec.Frames f (notifyCritical env settings alert incidentId) := by
  apply Exec.frames_when
  intro _
  apply Exec.frames_when
  intro _
  apply Exec.frames_bind (frames_loadIncident _)
  intro incident
  exact Exec.frames_bind (Exec.frames_require _ _) fun _ ↦ frames_flush env htick

/-- The rows in which an incident was opened. -/
private def openedRows (correlationId : String) (alert : NormalizedAlert) (db : Database) :
    Database :=
  { db with
    incidents := db.incidents.insert ({
      asCreated "alertmanager" (incidentRow alert correlationId) with
      severity := alert.severity }) }

/-- The incident of a delivery's record. -/
def findLinked (env : Env) : Option Nat → Service (Option (Nat × Incident))
  | none => pure none
  | some id => query env fun db ↦ db.incidents[id]?.map fun incident ↦ (id, incident)

/-- What is done with it. -/
def openOrFollow (incident : Option (Nat × Incident)) : Service (Option Nat × Bool) :=
  if alert.status = .firing ∧ incident.all (·.2.state.isTerminal) then do
    let incidentId ← createIncident env (incidentRow alert correlationId) "alertmanager"
    updateIncident incidentId fun incident ↦ { incident with severity := alert.severity }
    notifyCritical env settings alert incidentId
    return (some incidentId, true)
  else return (incident.map (·.1), false)

/-- The incident is found first. -/
theorem correlate_eq (linked : Option Nat) :
    correlate env settings correlationId alert linked =
      findLinked env linked >>= openOrFollow env settings correlationId alert := by
  cases linked <;> rfl

private theorem triple_correlate :
    Exec.Triple (fun w ↦ w.db = db)
      (correlate env settings correlationId alert ((recordOf db alert).bind (·.2.incidentId)))
      (fun r w ↦
        (Opens db alert ∧ r = (some db.incidents.fresh, true) ∧
          w.db = openedRows correlationId alert db) ∨
        ¬ Opens db alert ∧ r = ((linkedTo db alert).map (·.1), false) ∧ w.db = db)
      fun _ _ ↦ True := by
  rw [correlate_eq]
  apply Exec.Triple.bind (Q := fun found w ↦ w.db = db ∧ found = linkedTo db alert)
  · unfold linkedTo
    cases (recordOf db alert).bind (·.2.incidentId) with
    | none => exact Exec.Triple.pure fun _ h ↦ ⟨h, rfl⟩
    | some id =>
      have hquery := query_spec env
        (fun db ↦ db.incidents[id]?.map fun incident ↦ (id, incident)) db
      exact hquery.mono (fun _ h ↦ h) (fun _ _ h ↦ ⟨h.2, h.1⟩) fun _ _ h ↦ h
  intro found
  apply Exec.Triple.assume
  rintro rfl
  have hopens : Opens db alert ↔
      alert.status = .firing ∧ (linkedTo db alert).all (·.2.state.isTerminal) := by
    unfold Opens
    rw [Option.all_eq_true]
    rfl
  apply Exec.Triple.ite
  · intro h
    apply Exec.Triple.bind (triple_createIncident env _ _)
    rintro id w ⟨rfl, hw⟩
    revert w
    change Exec.Triple _ _ _ _
    apply Exec.Triple.bind (Q := fun _ w ↦ w.db = openedRows correlationId alert db)
    · apply triple_write
      intro w hw
      rw [hw, openedRows, Table.update_insert_fresh]
    intro _
    apply Exec.Triple.bind (triple_rows (frames_notifyCritical env settings alert (fun _ _ ↦ rfl) _))
    intro _
    exact Exec.Triple.pure fun _ hw ↦ .inl ⟨hopens.mpr h, rfl, hw⟩
  · intro h
    exact Exec.Triple.pure fun _ hw ↦ .inr ⟨fun ho ↦ h (hopens.mp ho), rfl, hw⟩

/-- A filing changes the records alone, by those it was given. -/
private theorem triple_fileAlert (incidentId : Option Nat) {d : Database}
    (halerts : d.alerts = db.alerts) :
    Exec.Triple (fun w ↦ w.db = d) (fileAlert env alert ((recordOf db alert).map (·.1)) incidentId)
      (fun id w ↦ id = alertIdOf db alert ∧
        ∃ now, w.db = { d with alerts := filed db alert incidentId now })
      fun _ _ ↦ True := by
  apply Exec.Triple.bind (triple_rows (frames_ask _ fun _ _ ↦ rfl))
  intro now
  unfold alertIdOf filed
  cases recordOf db alert with
  | none =>
    apply Exec.Triple.bind (Q := fun id w ↦ w.db = d ∧ id = db.alerts.fresh)
    · rintro w rfl
      exact ⟨rfl, congrArg Table.fresh halerts⟩
    intro id
    apply Exec.Triple.assume
    rintro rfl
    apply Exec.Triple.bind (Q := fun _ w ↦
      w.db = { d with alerts := db.alerts.insert (alertRow alert incidentId now) })
    · apply triple_write
      rintro w rfl
      rw [halerts]
    intro _
    apply Exec.Triple.bind (triple_rows (frames_flush env fun _ _ ↦ rfl))
    intro _
    exact Exec.Triple.pure fun _ h ↦ ⟨rfl, now, h⟩
  | some entry =>
    apply Exec.Triple.bind (Q := fun _ w ↦
      w.db = { d with alerts := db.alerts.update entry.1 (withDelivery alert incidentId now) })
    · apply triple_write
      rintro w rfl
      rw [halerts]
    intro _
    exact Exec.Triple.pure fun _ h ↦ ⟨rfl, now, h⟩

/-- The rows after a delivery is noted on its incident. -/
private def withEvent (alert : NormalizedAlert) : Option Nat → Database → Database
  | none, db => db
  | some id, db => { db with incidents := db.incidents.update id (withAlert alert) }

private theorem triple_logAlert (incidentId : Option Nat) {d : Database} :
    Exec.Triple (fun w ↦ w.db = d) (logAlert env alert incidentId)
      (fun _ w ↦ w.db = withEvent alert incidentId d) fun _ _ ↦ True := by
  cases incidentId with
  | none => exact Exec.Triple.pure fun _ h ↦ h
  | some id =>
    apply Exec.Triple.bind (Q := fun _ w ↦ w.db = withEvent alert (some id) d)
    · apply triple_write
      rintro w rfl
      rfl
    intro _
    exact triple_rows (frames_flush env fun _ _ ↦ rfl)

/-- **What an ingestion leaves.** -/
theorem triple_ingestOne :
    Exec.Triple (fun w ↦ w.db = db) (ingestOne env settings correlationId alert)
      (fun r w ↦ Ingests correlationId alert db r w.db) fun _ _ ↦ True := by
  apply Exec.Triple.bind (Q := fun existing w ↦ w.db = db ∧ existing = recordOf db alert)
  · exact (query_spec env _ db).mono (fun _ h ↦ h) (fun _ _ h ↦ ⟨h.2, h.1⟩) fun _ _ h ↦ h
  intro existing
  apply Exec.Triple.assume
  rintro rfl
  cases hsame : (recordOf db alert).filter (·.2.payloadDigest = alert.payloadDigest) with
  | some entry =>
    obtain ⟨hfound, hdigest⟩ := Option.filter_eq_some_iff.mp hsame
    apply (triple_countDuplicate env entry.1 entry.2).mono
    · exact fun _ h ↦ h
    · rintro r w ⟨rfl, now, hw⟩
      rw [hw]
      exact .repeated hfound (of_decide_eq_true hdigest)
    · exact fun _ _ h ↦ h
  | none =>
    have hdiffers : Differs db alert := by
      intro entry hentry hdigest
      have hnone := Option.filter_eq_none_iff.mp hsame entry hentry
      exact hnone (decide_eq_true hdigest)
    apply Exec.Triple.bind (triple_correlate env settings correlationId alert)
    rintro ⟨incidentId, created⟩ w (⟨hopens, hr, hw⟩ | ⟨hfollows, hr, hw⟩)
    · cases hr
      revert w
      change Exec.Triple _ _ _ _
      have hfile := triple_fileAlert env alert (some db.incidents.fresh)
        (show (openedRows correlationId alert db).alerts = db.alerts from rfl)
      apply Exec.Triple.bind hfile
      rintro id w ⟨rfl, now, hw⟩
      revert w
      change Exec.Triple _ _ _ _
      apply Exec.Triple.bind (triple_logAlert env alert _)
      intro _
      apply Exec.Triple.pure
      intro w hw
      rw [hw]
      simp only [withEvent, openedRows, Table.update_insert_fresh]
      exact .opened hdiffers hopens
    · cases hr
      revert w
      change Exec.Triple _ _ _ _
      have hfile := triple_fileAlert env alert ((linkedTo db alert).map (·.1)) (rfl : db.alerts = _)
      apply Exec.Triple.bind hfile
      rintro id w ⟨rfl, now, hw⟩
      revert w
      change Exec.Triple _ _ _ _
      have hrows : ({ db with
            incidents := followed db alert
            alerts := filed db alert ((linkedTo db alert).map (·.1)) now } : Database) =
          withEvent alert ((linkedTo db alert).map (·.1)) { db with
            alerts := filed db alert ((linkedTo db alert).map (·.1)) now } := by
        unfold followed withEvent
        cases linkedTo db alert <;> rfl
      apply Exec.Triple.bind (triple_logAlert env alert _)
      intro _
      apply Exec.Triple.pure
      intro w hw
      rw [hw, ← hrows]
      exact .followed hdiffers hfollows

/-- An ingestion commits nothing. -/
private theorem frames_committed_ingestOne :
    Exec.Frames World.committed (ingestOne env settings correlationId alert) := by
  have hflush : Exec.Frames World.committed (flush env) := frames_flush env fun _ _ ↦ rfl
  have hask {α : Type} (answer : World → α) : Exec.Frames World.committed (ask answer) :=
    frames_ask answer fun _ _ ↦ rfl
  have hwrite (f : Database → Database) : Exec.Frames World.committed (write f) :=
    frames_write f fun _ _ ↦ rfl
  apply Exec.frames_bind (frames_query env _ fun _ _ ↦ rfl)
  intro existing
  cases existing.filter (·.2.payloadDigest = alert.payloadDigest) with
  | some entry =>
    exact Exec.frames_bind (hask _) fun _ ↦ Exec.frames_bind (hwrite _) fun _ ↦
      Exec.frames_bind hflush fun _ ↦ Exec.frames_pure _
  | none =>
    apply Exec.frames_bind
    · rw [correlate_eq]
      apply Exec.frames_bind
      · cases existing.bind (·.2.incidentId) with
        | none => exact Exec.frames_pure _
        | some id => exact frames_query env _ fun _ _ ↦ rfl
      intro incident
      apply Exec.frames_ite
      · apply Exec.frames_bind
        · exact frames_createIncident (fun _ _ ↦ rfl) env _ _ (fun _ ↦ rfl) fun _ _ ↦ rfl
        intro id
        exact Exec.frames_bind (hwrite _) fun _ ↦
          Exec.frames_bind (frames_notifyCritical env settings alert (fun _ _ ↦ rfl) id) fun _ ↦
            Exec.frames_pure _
      · exact Exec.frames_pure _
    rintro ⟨incidentId, created⟩
    apply Exec.frames_bind
    · apply Exec.frames_bind (hask _)
      intro now
      cases existing.map (·.1) with
      | none =>
        exact Exec.frames_bind (Exec.frames_read _) fun _ ↦ Exec.frames_bind (hwrite _) fun _ ↦
          Exec.frames_bind hflush fun _ ↦ Exec.frames_pure _
      | some id => exact Exec.frames_bind (hwrite _) fun _ ↦ Exec.frames_pure _
    intro alertId
    apply Exec.frames_bind
    · cases incidentId with
      | none => exact Exec.frames_pure _
      | some id => exact Exec.frames_bind (hwrite _) fun _ ↦ hflush
    intro _
    exact Exec.frames_pure _

/-- A payload is committed by the webhook alone. -/
theorem frames_committed_ingestAlerts (alerts : List NormalizedAlert) :
    Exec.Frames World.committed (ingestAlerts env settings correlationId alerts) := by
  induction alerts with
  | nil => exact Exec.frames_bind (frames_flush env fun _ _ ↦ rfl) fun _ ↦ Exec.frames_pure _
  | cons alert alerts ih =>
    exact Exec.frames_bind (frames_committed_ingestOne env settings correlationId alert) fun _ ↦
      Exec.frames_bind ih fun _ ↦ Exec.frames_pure _

end Stages

end CloudWard.Alerts
