import CloudWard.Alerts.Grouping
import CloudWard.Alerts.Jobs

/-!
# Alerts delivered again

`_ingest_one` (`alerts/service.py:67`) recognises a payload by the digest of its record, which is
the digest of the last delivery alone. Any earlier payload is ingested as if it were new: it
adds an event to the incident or opens one, and it sets the status of the record back.
-/

namespace CloudWard.Alerts

open CloudWard.Approvals CloudWard.Db CloudWard.Incidents CloudWard.Logic Service

/-- What a delivery may do that happened before: count. -/
structure Recounts (before after : Database) : Prop where
  incidents : after.incidents = before.incidents
  resolved : ∀ {id : Nat} {record record' : AlertRecord}, before.alerts[id]? = some record →
    after.alerts[id]? = some record' → record.status = .resolved → record'.status = .resolved

/-- The record of the alert has its payload, or the alert is resolved and has no incident. -/
def Recognised (rows : Database) (alert : NormalizedAlert) : Prop :=
  ∃ entry ∈ recordOf rows alert, entry.2.payloadDigest = alert.payloadDigest ∨
    alert.status = .resolved ∧ entry.2.incidentId = none

section Redelivery

variable {correlationId : String} {alert : NormalizedAlert} {db db' : Database}
variable {result : AlertIngestionResult}

/-- A recognised payload is counted. -/
private theorem Ingests.recounts (h : Ingests correlationId alert db result db')
    (hrecognised : Recognised db alert) : Recounts db db' := by
  obtain ⟨⟨id, record⟩, hmem, hsame⟩ := hrecognised
  have hfound : recordOf db alert = some (id, record) := hmem
  have hupdate (f : AlertRecord → AlertRecord)
      (hf : ∀ row, row.status = .resolved → (f row).status = .resolved) {i : Nat}
      {row row' : AlertRecord} (hi : db.alerts[i]? = some row)
      (hi' : (db.alerts.update id f)[i]? = some row') (hresolved : row.status = .resolved) :
      row'.status = .resolved := by
    rw [Table.getElem?_update] at hi'
    split at hi'
    · rw [hi] at hi'
      cases hi'
      exact hf row hresolved
    · rw [hi] at hi'
      cases hi'
      exact hresolved
  cases h with
  | repeated found _ =>
    rw [hfound] at found
    cases found
    exact ⟨rfl, hupdate (Alerts.repeated _) fun _ h ↦ h⟩
  | opened differs opens =>
    rcases hsame with hdigest | ⟨hresolved, -⟩
    · exact absurd hdigest (differs _ hfound)
    · exact nomatch hresolved.symm.trans opens.1
  | followed differs follows =>
    rcases hsame with hdigest | ⟨hresolved, hunlinked⟩
    · exact absurd hdigest (differs _ hfound)
    · have hlinked : linkedTo db alert = none := by
        unfold linkedTo
        rw [hfound, Option.bind_some, hunlinked]
        rfl
      constructor
      · simp only [Alerts.followed, hlinked]
      · simp only [Alerts.filed, hfound]
        exact hupdate (withDelivery alert _ _) fun _ _ ↦ hresolved

/-- A payload that is not recognised changes an incident or opens one. -/
private theorem Ingests.recognised (h : Ingests correlationId alert db result db')
    (hrecord : recordOf db alert ≠ none)
    (hstored : ∀ entry ∈ recordOf db alert, ∀ id ∈ entry.2.incidentId, id < db.incidents.length)
    (hrecounts : Recounts db db') : Recognised db alert := by
  cases h with
  | repeated found same => exact ⟨_, found, .inl same⟩
  | opened differs opens =>
    have hlength := congrArg List.length hrecounts.incidents
    simp at hlength
  | followed differs follows =>
    obtain ⟨entry, hentry⟩ := Option.ne_none_iff_exists'.mp hrecord
    refine ⟨entry, hentry, .inr ?_⟩
    cases hlinked : linkedTo db alert with
    | none =>
      have hunlinked : entry.2.incidentId = none := by
        by_contra hsome
        obtain ⟨id, hid⟩ := Option.ne_none_iff_exists'.mp hsome
        have hlt : id < db.incidents.length := hstored entry hentry id hid
        have hrow : db.incidents[id]? = some db.incidents[id] := List.getElem?_eq_getElem hlt
        simp [linkedTo, hentry, hid, hrow] at hlinked
      refine ⟨?_, hunlinked⟩
      cases hstatus : alert.status with
      | firing => exact absurd ⟨hstatus, by simp [hlinked]⟩ follows
      | resolved => rfl
    | some found =>
      -- the event of the delivery is on the incident
      obtain ⟨hrow, -⟩ := linkedTo_eq_some hlinked
      have hsame := congrArg (·[found.1]?) hrecounts.incidents
      simp only [Alerts.followed, hlinked, Table.getElem?_update_self, hrow, Option.map_some,
        Option.some.injEq] at hsame
      have hlength := congrArg (·.events.length) hsame
      simp [withAlert] at hlength

end Redelivery

/-- The history after an alert is delivered on its own. -/
def redeliver (h : History) (env : Env) (settings : Settings) (correlationId : String)
    (alert : NormalizedAlert) : History :=
  advance h ⟨.delivered correlationId [alert], settings, env⟩

/-- The webhook answers. -/
def Answers (h : History) (env : Env) (settings : Settings) (correlationId : String)
    (alert : NormalizedAlert) : Prop :=
  ∃ results w, (ingestPayload env settings correlationId [alert]).run (start h.rows) =
    (.ok results, w)

/-- A payload of one alert that is answered was ingested. -/
private theorem ingests_redeliver {h : History} {env : Env} {settings : Settings}
    {correlationId : String} {alert : NormalizedAlert}
    (hanswers : Answers h env settings correlationId alert) :
    ∃ result, Ingests correlationId alert h.rows result
      (redeliver h env settings correlationId alert).rows := by
  obtain ⟨results, w, hrun⟩ := hanswers
  have hspec := ingestPayload_spec env settings correlationId [alert] h.rows (start h.rows) rfl
  rw [hrun] at hspec
  obtain ⟨w', hingest, hcommitted⟩ := hspec
  obtain ⟨result, w₁, hone, hrest⟩ := Exec.run_bind_eq_ok.mp hingest
  have hingests := (triple_ingestOne env settings correlationId alert).of_ok rfl hone
  have hframes : Exec.Frames World.db (do
      let results ← ingestAlerts env settings correlationId []
      return result :: results) :=
    Exec.frames_bind
      (Exec.frames_bind (frames_flush env fun _ _ ↦ rfl) fun _ ↦ Exec.frames_pure _)
      fun _ ↦ Exec.frames_pure _
  have hdb : w'.db = w₁.db := by
    have hsame := hframes w₁
    rwa [hrest] at hsame
  use result
  simp only [redeliver, advance, hrun, hcommitted, hdb]
  exact hingests

/-- **When a redelivery is idempotent.** After any history, an alert that was delivered before
leaves everything as it was if the webhook raises, and otherwise only counts exactly when it is
recognised: its record has its payload, or it is resolved and was never linked to an incident. -/
theorem redelivery_recounts_iff (moments : List Moment) (alert : NormalizedAlert)
    (hbefore : ∃ result, (alert, result) ∈ (Runs.run advance {} moments).deliveries)
    (env : Env) (settings : Settings) (correlationId : String) :
    let h := Runs.run advance {} moments
    (¬ Answers h env settings correlationId alert →
      (redeliver h env settings correlationId alert).rows = h.rows) ∧
    (Answers h env settings correlationId alert →
      (Recounts h.rows (redeliver h env settings correlationId alert).rows ↔
        Recognised h.rows alert)) := by
  intro h
  constructor
  · intro hraises
    have hspec := ingestPayload_spec env settings correlationId [alert] h.rows (start h.rows) rfl
    rcases hrun : (ingestPayload env settings correlationId [alert]).run (start h.rows) with
      ⟨_ | results, w⟩
    · rw [hrun] at hspec
      simp only [redeliver, advance, hrun, hspec]
    · exact absurd ⟨results, w, hrun⟩ hraises
  · intro hanswers
    obtain ⟨result, hingests⟩ := ingests_redeliver hanswers
    have hgroups : Grouped alert.key h.deliveries (h.rows.incidents, h.rows.alerts) :=
      grouped_run moments alert.key
    constructor
    · intro hrecounts
      apply hingests.recognised _ _ hrecounts
      · -- the earlier delivery left a record
        intro hnone
        have hzero := hgroups.records.eq_zero_iff.mpr (recordOf_eq_none hnone)
        obtain ⟨result', hmem⟩ := hbefore
        exact List.countP_eq_zero.mp hzero _ hmem (decide_eq_true rfl)
      · intro entry hentry id hid
        obtain ⟨hrow, hkey⟩ := recordOf_eq_some hentry
        have hlink := (hgroups.records.counts hrow hkey).2.1
        exact hgroups.opened.stored id (List.mem_of_mem_head? (hlink.symm.trans hid))
    · exact hingests.recounts

/-- What a payload adds are deliveries of its alerts. -/
theorem mem_of_mem_stored {alerts : List NormalizedAlert}
    {answer : Except Exc (List AlertIngestionResult)} {delivery : Delivery}
    (h : delivery ∈ stored alerts answer) : delivery.1 ∈ alerts := by
  cases answer with
  | ok results => exact (List.of_mem_zip (List.mem_reverse.mp h)).1
  | error e => cases h

/-- The firing delivery, late. -/
def lateFiring : NormalizedAlert := oomKilled .firing "a"

/-- The delivery when it is on time. -/
def firing : Moment := ⟨.delivered "first" [lateFiring], .standard, calm⟩

/-- An alert that fires and is resolved. -/
def fireAndResolve : List Moment :=
  [firing, ⟨.delivered "second" [oomKilled .resolved "b"], .standard, calm⟩]

private theorem lateFiring_delivered :
    ∃ result, (lateFiring, result) ∈ (Runs.run advance {} fireAndResolve).deliveries := by
  have hlength : 0 < (advance {} firing).deliveries.length := by decide +kernel
  obtain ⟨⟨alert, result⟩, hmem⟩ := List.exists_mem_of_length_pos hlength
  rcases List.mem_append.mp hmem with hstored | hempty
  · have halert := List.mem_singleton.mp (mem_of_mem_stored hstored)
    subst halert
    exact ⟨result, List.mem_append_right _ hmem⟩
  · cases hempty

private theorem redeliver_late :
    (Runs.run advance {} fireAndResolve).rows.incidents.map (·.events.length) = [3] ∧
    (redeliver (Runs.run advance {} fireAndResolve) calm .standard "late"
      lateFiring).rows.incidents.map (·.events.length) = [4] := by
  constructor <;> decide +kernel

/-- The late delivery is answered, and its payload is not the one of its record. -/
theorem redelivery_recounts_iff_late :
    (redeliver (Runs.run advance {} fireAndResolve) calm .standard "late" lateFiring).rows =
        (Runs.run advance {} fireAndResolve).rows ∨
      ¬ Recognised (Runs.run advance {} fireAndResolve).rows lateFiring := by
  obtain ⟨hraises, hanswers⟩ := redelivery_recounts_iff fireAndResolve lateFiring
    lateFiring_delivered calm .standard "late"
  by_cases h : Answers (Runs.run advance {} fireAndResolve) calm .standard "late" lateFiring
  · right
    intro hrecognised
    have hsame := ((hanswers h).mpr hrecognised).incidents
    obtain ⟨hbefore, hafter⟩ := redeliver_late
    rw [hsame, hbefore] at hafter
    exact absurd hafter (by decide)
  · exact .inl (hraises h)

/-- A payload that was delivered before adds an event when it is delivered again. -/
theorem redelivery_not_recounts :
    ¬ ∀ (moments : List Moment) (alert : NormalizedAlert),
      (∃ result, (alert, result) ∈ (Runs.run advance {} moments).deliveries) →
      ∀ (env : Env) (settings : Settings) (correlationId : String),
        Recounts (Runs.run advance {} moments).rows
          (redeliver (Runs.run advance {} moments) env settings correlationId alert).rows := by
  intro h
  have hrecounts := h fireAndResolve lateFiring lateFiring_delivered calm .standard "late"
  obtain ⟨hbefore, hafter⟩ := redeliver_late
  rw [hrecounts.incidents, hbefore] at hafter
  exact absurd hafter (by decide)

end CloudWard.Alerts
