import CloudWard.Alerts.Grouping
import CloudWard.Alerts.Identity
import CloudWard.Alerts.Jobs

/-!
# What a record says of its last delivery

`_ingest_one`, `alerts/service.py:123`, lists the fields of a record twice: where it creates the
record and where it updates it. The second list lacks the name, the service, the environment, the
namespace and the start of the alert, so a record keeps those of its first delivery.
-/

namespace CloudWard.Alerts

open CloudWard.Approvals CloudWard.Db CloudWard.Incidents CloudWard.Logic CloudWard.Security Service

/-- The descriptive fields of a record. -/
structure Description where
  alertName : String
  status : AlertStatus
  severity : String
  service : String
  environment : Environment
  ns : Option String
  labels : Labels
  annotations : Labels
  startsAt : Nat
  endsAt : Option Nat
deriving DecidableEq

/-- What a record says. -/
def describe (record : AlertRecord) : Description where
  alertName := record.alertName
  status := record.status
  severity := record.severity
  service := record.service
  environment := record.environment
  ns := record.ns
  labels := record.labels
  annotations := record.annotations
  startsAt := record.startsAt
  endsAt := record.endsAt

/-- The record of a delivery says what a fresh record of the delivery would. -/
def Reflects (db : Database) (alert : NormalizedAlert) : Prop :=
  ∃ id record, recordOf db alert = some (id, record) ∧
    describe record = describe (alertRow alert record.incidentId record.lastReceivedAt)

/-- A record has the fields of a delivery that an update does not set. -/
structure Retains (record : AlertRecord) (alert : NormalizedAlert) : Prop where
  alertName : record.alertName = alert.alertName
  service : record.service = alert.service
  environment : record.environment = alert.environment
  ns : record.ns = alert.ns
  startsAt : record.startsAt = alert.startsAt

/-! ### One delivery -/

section Delivery

variable {alert : NormalizedAlert} {db db' : Database} {link : Option Nat} {now : Nat}

/-- An updated record says what a fresh one does where it retains the rest. -/
theorem describe_withDelivery {record : AlertRecord} {link' : Option Nat} {now' : Nat} :
    describe (withDelivery alert link now record) = describe (alertRow alert link' now') ↔
      Retains record alert := by
  simp only [describe, withDelivery, alertRow, Description.mk.injEq, true_and, and_true]
  constructor
  · rintro ⟨hname, hservice, henvironment, hns, hstarts⟩
    exact ⟨hname, hservice, henvironment, hns, hstarts⟩
  · intro h
    exact ⟨h.alertName, h.service, h.environment, h.ns, h.startsAt⟩

private theorem reflects_filed (halerts : db'.alerts = filed db alert link now) :
    Reflects db' alert ↔ ∀ entry ∈ recordOf db alert, Retains entry.2 alert := by
  cases hfound : recordOf db alert with
  | none =>
    have hinserted : db'.alerts = db.alerts.insert (alertRow alert link now) := by
      rw [halerts]
      simp only [filed, hfound]
    have hnew : recordOf db' alert = some (db.alerts.fresh, alertRow alert link now) := by
      unfold recordOf
      rw [hinserted]
      exact Table.latest_insert_of_pos (by simp [alertRow])
    constructor
    · intro _ entry hentry
      cases hentry
    · intro _
      exact ⟨_, _, hnew, rfl⟩
  | some entry =>
    obtain ⟨id, record⟩ := entry
    have hchanged : db'.alerts = db.alerts.update id (withDelivery alert link now) := by
      rw [halerts]
      simp only [filed, hfound]
    have hupdated : recordOf db' alert = some (id, withDelivery alert link now record) := by
      have hkept := Table.latest_update (t := db.alerts)
        (p := fun row ↦ row.source = alert.source ∧ row.fingerprint = alert.fingerprint) id
        (f := withDelivery alert link now) fun _ ↦ rfl
      unfold recordOf at hfound ⊢
      rw [hchanged, hkept, hfound]
      simp
    constructor
    · rintro ⟨id', record', hfound', hdescribe⟩ entry hentry
      cases hentry
      rw [hupdated] at hfound'
      cases hfound'
      exact describe_withDelivery.mp hdescribe
    · intro hretains
      exact ⟨id, _, hupdated, describe_withDelivery.mpr (hretains _ rfl)⟩

/-- After a delivery that is no duplicate, its record says what a fresh one would if and only if
the record that was found retains the rest. -/
theorem reflects_iff_of_ingests {correlationId : String} {result : AlertIngestionResult}
    (h : Ingests correlationId alert db result db') (hnew : result.duplicate = false) :
    Reflects db' alert ↔ ∀ entry ∈ recordOf db alert, Retains entry.2 alert := by
  cases h with
  | repeated found same => cases hnew
  | opened differs opens => exact reflects_filed rfl
  | followed differs follows => exact reflects_filed rfl

end Delivery

/-! ### Histories -/

/-- A delivered alert with the environment it meets. -/
structure Receipt where
  env : Env
  settings : Settings
  correlationId : String
  alert : NormalizedAlert

/-- What happens to the alerts of a session: one is delivered, the session is committed or rolled
back, or other rows are written. -/
inductive Occasion
  | delivered (receipt : Receipt)
  | committed
  | rolledBack
  | written (change : Database → Database) (keeps : ∀ db, (change db).alerts = db.alerts)

/-- The ingestion of a delivered alert. -/
def Receipt.ingestion (receipt : Receipt) : Service AlertIngestionResult :=
  ingestOne receipt.env receipt.settings receipt.correlationId receipt.alert

/-- One step; a delivery that raises ends its session. -/
def receive (w : World) : Occasion → World
  | .delivered receipt =>
    match receipt.ingestion.run w with
    | (.ok _, w') => w'
    | (.error _, w') => { w' with db := w'.committed }
  | .committed => { w with committed := w.db }
  | .rolledBack => { w with db := w.committed }
  | .written change _ => { w with db := change w.db }

/-- The delivery is ingested, and is no duplicate. -/
def Files (w : World) (receipt : Receipt) : Prop :=
  ∃ result w', receipt.ingestion.run w = (.ok result, w') ∧ result.duplicate = false

/-- After a delivery that is no duplicate, its record says what a fresh one would. -/
def Reflected (w : World) : Occasion → Prop
  | .delivered receipt =>
    Files w receipt → Reflects (receive w (.delivered receipt)).db receipt.alert
  | _ => True

/-- The record that a delivery finds has the fields of the delivery that an update does not set. -/
def Retained (w : World) : Occasion → Prop
  | .delivered receipt =>
    Files w receipt → ∀ entry ∈ recordOf w.db receipt.alert, Retains entry.2 receipt.alert
  | _ => True

private theorem reflected_iff_retained (w : World) (occasion : Occasion) :
    Reflected w occasion ↔ Retained w occasion := by
  cases occasion with
  | delivered receipt =>
    refine forall_congr' fun hfiles ↦ ?_
    obtain ⟨result, w', hrun, hnew⟩ := hfiles
    have hingests := (triple_ingestOne receipt.env receipt.settings receipt.correlationId
      receipt.alert).of_ok rfl hrun
    have hreceive : receive w (.delivered receipt) = w' := by
      simp only [receive, hrun]
    rw [hreceive]
    exact reflects_iff_of_ingests hingests hnew
  | committed => exact Iff.rfl
  | rolledBack => exact Iff.rfl
  | written change keeps => exact Iff.rfl

/-- **When records follow their deliveries.** In a history, every delivery that is no duplicate
leaves a record that says what a fresh one would if and only if every such delivery agrees with
the record it finds in the fields that an update does not set. -/
theorem records_reflect_iff (w : World) (occasions : List Occasion) :
    Runs.Along receive Reflected w occasions ↔ Runs.Along receive Retained w occasions := by
  induction occasions generalizing w with
  | nil => exact Iff.rfl
  | cons occasion rest ih => exact and_congr (reflected_iff_retained w occasion) (ih _)

/-- The alert of an earlier delivery, firing again from a later start. -/
def refired : NormalizedAlert :=
  { oomKilled .firing "b" with startsAt := 60 }

/-- The delivery of the alert that fires again. -/
def refiring : Receipt := ⟨calm, .standard, "second", refired⟩

/-- The first firing. -/
def fired : Occasion := .delivered ⟨calm, .standard, "first", oomKilled .firing "a"⟩

/-- The world in which the alert fires again. -/
def afterFiring : World := Runs.run receive (Service.start {}) [fired, .committed]

private theorem refiring_files : Files afterFiring refiring := by
  have hanswers : (refiring.ingestion.run afterFiring).1.toOption.any (!·.duplicate) := by
    decide +kernel
  cases hrun : refiring.ingestion.run afterFiring with
  | mk answer w' =>
    rw [hrun] at hanswers
    cases answer with
    | error e => cases hanswers
    | ok result => exact ⟨result, w', hrun, by simpa [Except.toOption] using hanswers⟩

private theorem startsAt_refiring :
    (recordOf (receive afterFiring (.delivered refiring)).db refired).map (·.2.startsAt) =
      some 0 := by
  decide +kernel

/-- A record whose alert fires again keeps the start of the first firing. -/
theorem records_not_reflect :
    ¬ ∀ occasions : List Occasion,
      Runs.Along receive Reflected (Service.start {}) occasions := by
  intro h
  have hreflected : Reflected afterFiring (.delivered refiring) :=
    (h [fired, .committed, .delivered refiring]).2.2.1
  obtain ⟨id, record, hfound, hdescribe⟩ := hreflected refiring_files
  have hkept : record.startsAt = 0 := by
    have hstarts := startsAt_refiring
    rw [show recordOf _ refired = some (id, record) from hfound] at hstarts
    exact Option.some.inj hstarts
  have hnew : record.startsAt = 60 := congrArg Description.startsAt hdescribe
  omega

end CloudWard.Alerts
