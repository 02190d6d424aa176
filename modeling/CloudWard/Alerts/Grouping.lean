import CloudWard.Alerts.Ingestion
import CloudWard.Logic.Runs

/-!
# Alerts in groups

Deliveries (`alerts/service.py:42`) and unforced incident changes (`incidents/service.py:93`) in
any order. Every source and fingerprint keeps one record, which counts its deliveries and links
the last incident they opened; the incidents opened before that one are over.
-/

namespace CloudWard.Alerts

open CloudWard.Approvals CloudWard.Db CloudWard.Incidents CloudWard.Logic Service

/-- A delivered alert with its result. -/
abbrev Delivery : Type := NormalizedAlert × AlertIngestionResult

/-- How often a group was delivered. -/
def countOf (key : String × String) (deliveries : List Delivery) : Nat :=
  deliveries.countP fun delivery ↦ delivery.1.key = key

/-- The incident that a delivery opened for a group. -/
def openedFor (key : String × String) (delivery : Delivery) : Option Nat :=
  if delivery.1.key = key ∧ delivery.2.createdIncident then delivery.2.incidentId else none

/-- The incidents opened for a group, newest first. -/
def incidentsOf (key : String × String) (deliveries : List Delivery) : List Nat :=
  deliveries.filterMap (openedFor key)

/-! ### The records of a group -/

/-- No record of a group without a delivery, else one that counts `n` and links `link`. -/
structure Records (key : String × String) (n : Nat) (link : Option Nat)
    (alerts : Table AlertRecord) : Prop where
  counts : ∀ {id : Nat} {record : AlertRecord}, alerts[id]? = some record → keyOf record = key →
    record.repeatCount = n ∧ record.incidentId = link ∧ 0 < n
  unique : ∀ {id id' : Nat} {record record' : AlertRecord}, alerts[id]? = some record →
    alerts[id']? = some record' → keyOf record = key → keyOf record' = key → id = id'
  present : 0 < n → ∃ (id : Nat) (record : AlertRecord), alerts[id]? = some record ∧ keyOf record = key

namespace Records

variable {key : String × String} {n : Nat} {link : Option Nat} {alerts : Table AlertRecord}

theorem empty : Records key 0 none [] where
  counts h := by simp at h
  unique h := by simp at h
  present h := absurd h (Nat.lt_irrefl 0)

/-- A new record of the group is its first one. -/
theorem insert (h : Records key 0 link alerts) {row : AlertRecord} (hkey : keyOf row = key)
    (hcount : row.repeatCount = 1) : Records key 1 row.incidentId (alerts.insert row) := by
  have hnew {id : Nat} {record : AlertRecord} (hrow : (alerts.insert row)[id]? = some record)
      (hrecord : keyOf record = key) : id = alerts.fresh ∧ record = row := by
    rcases Table.getElem?_insert_eq_some.mp hrow with hold | hnew
    · exact absurd (h.counts hold hrecord).2.2 (Nat.lt_irrefl 0)
    · exact hnew
  constructor
  · intro id record hrow hrecord
    obtain ⟨-, rfl⟩ := hnew hrow hrecord
    exact ⟨hcount, rfl, Nat.one_pos⟩
  · intro id id' record record' hrow hrow' hrecord hrecord'
    rw [(hnew hrow hrecord).1, (hnew hrow' hrecord').1]
  · exact fun _ ↦ ⟨_, row, Table.getElem?_insert_fresh alerts row, hkey⟩

/-- A new record of another group changes nothing. -/
theorem insert_of_ne (h : Records key n link alerts) {row : AlertRecord} (hkey : keyOf row ≠ key) :
    Records key n link (alerts.insert row) := by
  have hold {id : Nat} {record : AlertRecord} (hrow : (alerts.insert row)[id]? = some record)
      (hrecord : keyOf record = key) : alerts[id]? = some record := by
    rcases Table.getElem?_insert_eq_some.mp hrow with hold | ⟨-, rfl⟩
    · exact hold
    · exact absurd hrecord hkey
  constructor
  · exact fun hrow hrecord ↦ h.counts (hold hrow hrecord) hrecord
  · exact fun hrow hrow' hrecord hrecord' ↦
      h.unique (hold hrow hrecord) (hold hrow' hrecord') hrecord hrecord'
  · intro hn
    obtain ⟨id, record, hrow, hrecord⟩ := h.present hn
    exact ⟨id, record, Table.getElem?_insert_of_some hrow, hrecord⟩

/-- A change of the group's record that keeps its group. -/
theorem update (h : Records key n link alerts) {id : Nat} {row : AlertRecord}
    {f : AlertRecord → AlertRecord} (hrow : alerts[id]? = some row) (hkey : keyOf row = key)
    (hf : ∀ record, keyOf (f record) = keyOf record)
    (hcount : (f row).repeatCount = row.repeatCount + 1) :
    Records key (n + 1) (f row).incidentId (alerts.update id f) := by
  have hself : (alerts.update id f)[id]? = some (f row) := by
    rw [Table.getElem?_update_self, hrow, Option.map_some]
  have honly {i : Nat} {record : AlertRecord} (hi : (alerts.update id f)[i]? = some record)
      (hrecord : keyOf record = key) : i = id := by
    by_cases hid : id = i
    · exact hid.symm
    · rw [Table.getElem?_update_of_ne alerts f hid] at hi
      exact h.unique hi hrow hrecord hkey
  constructor
  · intro i record hi hrecord
    obtain rfl := honly hi hrecord
    rw [hself] at hi
    cases hi
    rw [hcount, (h.counts hrow hkey).1]
    exact ⟨rfl, rfl, Nat.succ_pos n⟩
  · intro i i' record record' hi hi' hrecord hrecord'
    rw [honly hi hrecord, honly hi' hrecord']
  · exact fun _ ↦ ⟨id, f row, hself, (hf row).trans hkey⟩

/-- A change of another group's record. -/
theorem update_of_ne (h : Records key n link alerts) {id : Nat} {row : AlertRecord}
    {f : AlertRecord → AlertRecord} (hrow : alerts[id]? = some row) (hkey : keyOf row ≠ key)
    (hf : ∀ record, keyOf (f record) = keyOf record) :
    Records key n link (alerts.update id f) := by
  have hold {i : Nat} {record : AlertRecord} (hi : (alerts.update id f)[i]? = some record)
      (hrecord : keyOf record = key) : alerts[i]? = some record := by
    by_cases hid : id = i
    · subst hid
      rw [Table.getElem?_update_self, hrow] at hi
      cases hi
      exact absurd ((hf row).symm.trans hrecord) hkey
    · rwa [Table.getElem?_update_of_ne alerts f hid] at hi
  constructor
  · exact fun hi hrecord ↦ h.counts (hold hi hrecord) hrecord
  · exact fun hi hi' hrecord hrecord' ↦
      h.unique (hold hi hrecord) (hold hi' hrecord') hrecord hrecord'
  · intro hn
    obtain ⟨i, record, hi, hrecord⟩ := h.present hn
    have hid : id ≠ i := by
      rintro rfl
      rw [hrow] at hi
      cases hi
      exact hkey hrecord
    exact ⟨i, record, by rwa [Table.getElem?_update_of_ne alerts f hid], hrecord⟩

/-- Without a delivery there is no record. -/
theorem eq_zero_iff (h : Records key n link alerts) :
    n = 0 ↔ ∀ record ∈ alerts, keyOf record ≠ key := by
  constructor
  · rintro rfl record hmem hkey
    obtain ⟨id, hid⟩ := List.mem_iff_getElem?.mp hmem
    exact absurd (h.counts hid hkey).2.2 (Nat.lt_irrefl 0)
  · intro hnone
    by_contra hn
    obtain ⟨id, record, hid, hkey⟩ := h.present (Nat.pos_of_ne_zero hn)
    exact hnone record (List.mem_of_getElem? hid) hkey

end Records

/-! ### The incidents of a group -/

/-- An incident is stored and over. -/
def Over (incidents : Table Incident) (id : Nat) : Prop :=
  ∃ incident, incidents[id]? = some incident ∧ incident.state.isTerminal

/-- The incidents opened for a group, newest first: all are stored, and those before the newest
are over. -/
structure OpenedIn (incidents : Table Incident) (ids : List Nat) : Prop where
  sorted : ids.Pairwise (· > ·)
  stored : ∀ id ∈ ids, id < incidents.length
  ended : ∀ id ∈ ids.tail, Over incidents id

/-- No incident is lost, and none that is over starts again. -/
structure Onward (before after : Table Incident) : Prop where
  length : before.length ≤ after.length
  ended : ∀ {id}, Over before id → Over after id

theorem Onward.openedIn {before after : Table Incident} (h : Onward before after) {ids : List Nat}
    (hids : OpenedIn before ids) : OpenedIn after ids where
  sorted := hids.sorted
  stored id hid := (hids.stored id hid).trans_le h.length
  ended id hid := h.ended (hids.ended id hid)

theorem onward_insert (incidents : Table Incident) (row : Incident) :
    Onward incidents (incidents.insert row) where
  length := by simp
  ended := fun ⟨incident, hrow, hover⟩ ↦
    ⟨incident, Table.getElem?_insert_of_some hrow, hover⟩

theorem onward_update {incidents : Table Incident} {id : Nat} {f : Incident → Incident}
    (hf : ∀ row, incidents[id]? = some row → row.state.isTerminal → (f row).state.isTerminal) :
    Onward incidents (incidents.update id f) where
  length := by simp
  ended := by
    rintro i ⟨incident, hrow, hover⟩
    by_cases hid : id = i
    · subst hid
      exact ⟨f incident, by simp [hrow], hf incident hrow hover⟩
    · exact ⟨incident, by rwa [Table.getElem?_update_of_ne incidents f hid], hover⟩

/-- A new incident is the newest one; the one before it must be over. -/
theorem OpenedIn.cons {incidents : Table Incident} {ids : List Nat} (h : OpenedIn incidents ids)
    (hlast : ∀ id ∈ ids.head?, Over incidents id) (row : Incident) :
    OpenedIn (incidents.insert row) (incidents.fresh :: ids) := by
  have honward := onward_insert incidents row
  constructor
  · exact List.pairwise_cons.mpr ⟨h.stored, h.sorted⟩
  · intro id hid
    rcases List.mem_cons.mp hid with rfl | hid
    · simp [Table.fresh]
    · exact (h.stored id hid).trans_le honward.length
  · intro id hid
    apply honward.ended
    cases ids with
    | nil => simp at hid
    | cons last rest =>
      rcases List.mem_cons.mp hid with rfl | hid
      · exact hlast _ rfl
      · exact h.ended id hid

/-! ### One delivery -/

section Delivery

variable {key : String × String} {n : Nat} {link : Option Nat} {db db' : Database}
variable {alert : NormalizedAlert} {correlationId : String} {result : AlertIngestionResult}

/-- A record that a delivery finds is of its group. -/
theorem recordOf_eq_some {id : Nat} {record : AlertRecord}
    (h : recordOf db alert = some (id, record)) :
    db.alerts[id]? = some record ∧ keyOf record = alert.key := by
  obtain ⟨hrow, hmatch⟩ := Table.latest_eq_some h
  have hmatch := of_decide_eq_true hmatch
  exact ⟨hrow, Prod.ext hmatch.1 hmatch.2⟩

/-- A delivery that finds no record is the first of its group. -/
theorem recordOf_eq_none (h : recordOf db alert = none) :
    ∀ record ∈ db.alerts, keyOf record ≠ alert.key := by
  intro record hmem hkey
  have hmatch := Table.latest_eq_none.mp h record hmem
  have hkey := Prod.ext_iff.mp hkey
  exact of_decide_eq_false hmatch hkey

/-- The incident that a delivery finds is the one its record links. -/
theorem linkedTo_eq_some {id : Nat} {incident : Incident}
    (h : linkedTo db alert = some (id, incident)) :
    db.incidents[id]? = some incident ∧
      ∃ entry, recordOf db alert = some entry ∧ entry.2.incidentId = some id := by
  obtain ⟨id', hlink, hfound⟩ := Option.bind_eq_some_iff.mp h
  obtain ⟨entry, hentry, hid⟩ := Option.bind_eq_some_iff.mp hlink
  obtain ⟨row, hrow, heq⟩ := Option.map_eq_some_iff.mp hfound
  cases heq
  exact ⟨hrow, entry, hentry, hid⟩

/-- Filing counts the delivery in its own group. -/
private theorem Records.filed (h : Records alert.key n link db.alerts)
    (hfirst : n = 0 → link = none) (incidentId : Option Nat) (now : Nat) :
    Records alert.key (n + 1) (incidentId.or link) (filed db alert incidentId now) := by
  unfold Alerts.filed
  cases hfound : recordOf db alert with
  | none =>
    obtain rfl := h.eq_zero_iff.mpr (recordOf_eq_none hfound)
    rw [hfirst rfl, Option.or_none]
    have hinsert : Records alert.key 1 (alertRow alert incidentId now).incidentId
        (db.alerts.insert (alertRow alert incidentId now)) := h.insert rfl rfl
    exact hinsert
  | some entry =>
    obtain ⟨hrow, hkey⟩ := recordOf_eq_some hfound
    have hupdate := h.update hrow hkey (f := withDelivery alert incidentId now) (fun _ ↦ rfl) rfl
    rwa [withDelivery, (h.counts hrow hkey).2.1] at hupdate

/-- Filing leaves the other groups alone. -/
private theorem Records.filed_of_ne (h : Records key n link db.alerts) (hne : alert.key ≠ key)
    (incidentId : Option Nat) (now : Nat) :
    Records key n link (Alerts.filed db alert incidentId now) := by
  unfold Alerts.filed
  cases hfound : recordOf db alert with
  | none => exact h.insert_of_ne hne
  | some entry =>
    obtain ⟨hrow, hkey⟩ := recordOf_eq_some hfound
    exact h.update_of_ne hrow (by rwa [hkey]) fun _ ↦ rfl

/-- A linked incident keeps its state. -/
private theorem onward_followed : Onward db.incidents (followed db alert) := by
  unfold followed
  cases linkedTo db alert with
  | none => exact ⟨Nat.le_refl _, fun h ↦ h⟩
  | some entry => exact onward_update fun _ _ h ↦ h

/-- A group: its record, and the incidents opened for it. -/
structure Grouped (key : String × String) (deliveries : List Delivery)
    (rows : Table Incident × Table AlertRecord) : Prop where
  records : Records key (countOf key deliveries) (incidentsOf key deliveries).head? rows.2
  opened : OpenedIn rows.1 (incidentsOf key deliveries)

/-- A group that was never delivered has no incident. -/
theorem incidentsOf_eq_nil {deliveries : List Delivery} (h : countOf key deliveries = 0) :
    incidentsOf key deliveries = [] := by
  apply List.filterMap_eq_nil_iff.mpr
  intro delivery hmem
  have hother := List.countP_eq_zero.mp h delivery hmem
  unfold openedFor
  rw [if_neg]
  rintro ⟨hkey, -⟩
  exact hother (decide_eq_true hkey)

/-- A delivery of a group counts there and may open an incident for it. -/
private theorem Grouped.cons {deliveries : List Delivery} {delivery : Delivery}
    {rows : Table Incident × Table AlertRecord} (hkey : delivery.1.key = key)
    (hrecords : Records key (countOf key deliveries + 1)
      ((openedFor key delivery).or (incidentsOf key deliveries).head?) rows.2)
    (hopened : OpenedIn rows.1
      ((openedFor key delivery).toList ++ incidentsOf key deliveries)) :
    Grouped key (delivery :: deliveries) rows := by
  have hcount : countOf key (delivery :: deliveries) = countOf key deliveries + 1 :=
    List.countP_cons_of_pos (decide_eq_true hkey)
  have hids : incidentsOf key (delivery :: deliveries) =
      (openedFor key delivery).toList ++ incidentsOf key deliveries := by
    unfold incidentsOf
    cases hopen : openedFor key delivery <;> simp [hopen]
  constructor
  · rw [hcount, hids]
    cases hopen : openedFor key delivery <;> simpa [hopen] using hrecords
  · rw [hids]
    exact hopened

/-- A delivery of another group is nothing to this one. -/
private theorem Grouped.cons_of_ne {deliveries : List Delivery} {delivery : Delivery}
    {rows : Table Incident × Table AlertRecord} (hkey : delivery.1.key ≠ key)
    (h : Grouped key deliveries rows) : Grouped key (delivery :: deliveries) rows := by
  have hcount : countOf key (delivery :: deliveries) = countOf key deliveries :=
    List.countP_cons_of_neg (by simpa using hkey)
  have hids : incidentsOf key (delivery :: deliveries) = incidentsOf key deliveries :=
    List.filterMap_cons_none (if_neg fun h ↦ hkey h.1)
  constructor
  · rw [hcount, hids]
    exact h.records
  · rw [hids]
    exact h.opened

/-- The newest incident of a group is the one that a delivery finds. -/
private theorem Grouped.linkedTo {deliveries : List Delivery}
    (h : Grouped alert.key deliveries (db.incidents, db.alerts)) {id : Nat}
    (hid : id ∈ (incidentsOf alert.key deliveries).head?) :
    ∃ incident, db.incidents[id]? = some incident ∧
      Alerts.linkedTo db alert = some (id, incident) := by
  have hmem : id ∈ incidentsOf alert.key deliveries := List.mem_of_mem_head? hid
  have hlt : id < db.incidents.length := h.opened.stored id hmem
  have hrow : db.incidents[id]? = some db.incidents[id] := List.getElem?_eq_getElem hlt
  cases hfound : recordOf db alert with
  | none =>
    have hzero := h.records.eq_zero_iff.mpr (recordOf_eq_none hfound)
    rw [incidentsOf_eq_nil hzero] at hmem
    simp at hmem
  | some entry =>
    obtain ⟨hentry, hkey⟩ := recordOf_eq_some hfound
    have hlink : entry.2.incidentId = some id := ((h.records.counts hentry hkey).2.1).trans hid
    refine ⟨_, hrow, ?_⟩
    unfold Alerts.linkedTo
    rw [hfound, Option.bind_some, hlink, Option.bind_some, hrow]
    rfl

/-- The incident that a delivery finds is the newest one of its group. -/
private theorem Grouped.linkedTo_or {deliveries : List Delivery}
    (h : Grouped alert.key deliveries (db.incidents, db.alerts)) :
    ((Alerts.linkedTo db alert).map (·.1)).or (incidentsOf alert.key deliveries).head? =
      (incidentsOf alert.key deliveries).head? := by
  cases hlinked : Alerts.linkedTo db alert with
  | none => rfl
  | some found =>
    obtain ⟨-, entry, hentry, hlink⟩ := linkedTo_eq_some hlinked
    obtain ⟨hrow, hkey⟩ := recordOf_eq_some hentry
    rw [← (h.records.counts hrow hkey).2.1, hlink]
    rfl

/-- **One delivery keeps the groups.** -/
theorem Grouped.ingests {deliveries : List Delivery}
    (h : Grouped key deliveries (db.incidents, db.alerts))
    (hstep : Ingests correlationId alert db result db') :
    Grouped key ((alert, result) :: deliveries) (db'.incidents, db'.alerts) := by
  by_cases hkey : alert.key = key
  · subst hkey
    have hfirst : countOf alert.key deliveries = 0 →
        (incidentsOf alert.key deliveries).head? = none := by
      intro hzero
      rw [incidentsOf_eq_nil hzero]
      rfl
    refine Grouped.cons (rfl : (alert, result).1.key = alert.key) ?_ ?_
    · cases hstep with
      | @repeated id now record found same =>
        obtain ⟨hrow, hrecord⟩ := recordOf_eq_some found
        have hlink := (h.records.counts hrow hrecord).2.1
        simp only [openedFor, Bool.false_eq_true, and_false, if_false, Option.none_or, ← hlink]
        have hupdate : Records alert.key (countOf alert.key deliveries + 1)
            (repeated now record).incidentId (db.alerts.update id (repeated now)) :=
          h.records.update hrow hrecord (fun _ ↦ rfl) rfl
        exact hupdate
      | opened differs opens =>
        simp only [openedFor, and_self, if_true]
        exact h.records.filed hfirst (some db.incidents.fresh) _
      | followed differs follows =>
        simp only [openedFor, Bool.false_eq_true, and_false, if_false, Option.none_or]
        rw [← h.linkedTo_or]
        exact h.records.filed hfirst _ _
    · cases hstep with
      | repeated found same => simpa [openedFor] using h.opened
      | opened differs opens =>
        simp only [openedFor, and_self, if_true]
        apply h.opened.cons
        intro id hid
        -- the record links the newest incident, and the delivery found it over
        obtain ⟨incident, hrow, hlinked⟩ := h.linkedTo hid
        exact ⟨incident, hrow, opens.2 _ hlinked⟩
      | followed differs follows =>
        simpa [openedFor] using onward_followed.openedIn h.opened
  · apply Grouped.cons_of_ne hkey
    cases hstep with
    | repeated found same =>
      obtain ⟨hrow, hrecord⟩ := recordOf_eq_some found
      exact ⟨h.records.update_of_ne hrow (by rwa [hrecord]) fun _ ↦ rfl, h.opened⟩
    | opened differs opens =>
      exact ⟨h.records.filed_of_ne hkey _ _, (onward_insert _ _).openedIn h.opened⟩
    | followed differs follows =>
      exact ⟨h.records.filed_of_ne hkey _ _, onward_followed.openedIn h.opened⟩

end Delivery

/-! ### Histories -/

/-- The webhook up to its commit, with the results it makes its jobs of. -/
def ingestPayload (env : Env) (settings : Settings) (correlationId : String)
    (alerts : List NormalizedAlert) : Service (List AlertIngestionResult) := do
  let ingested ← ingestAlerts env settings correlationId alerts
  commit env
  return ingested

/-- The webhook answers with the jobs of what it ingested. -/
theorem alertmanagerWebhook_eq (env : Env) (settings : Settings) (correlationId : String)
    (alerts : List NormalizedAlert) :
    alertmanagerWebhook env settings correlationId alerts = do
      let ingested ← ingestPayload env settings correlationId alerts
      return jobsOf correlationId alerts ingested := by
  funext w
  change (_ >>= _ : Service _).run w = (_ >>= _ : Service _).run w
  unfold ingestPayload
  rw [Exec.run_bind, Exec.run_bind, Exec.run_bind]
  rcases (ingestAlerts env settings correlationId alerts).run w with ⟨_ | ingested, w'⟩
  · rfl
  · simp only [Exec.run_bind]
    rcases (commit env).run w' with ⟨_ | _, w''⟩ <;> rfl

/-- What happens next: a payload is delivered, or an incident is moved without force. -/
inductive Occurrence
  | delivered (correlationId : String) (alerts : List NormalizedAlert)
  | moved (incidentId : Nat) (target : IncidentState) (actor : String) (details : Details)

/-- An occurrence with the settings and the environment it meets. -/
structure Moment where
  occurrence : Occurrence
  settings : Settings
  env : Env

/-- The committed rows, and what was delivered, newest first. -/
structure History where
  rows : Database := {}
  deliveries : List Delivery := []

/-- What a payload adds to the deliveries. -/
def stored (alerts : List NormalizedAlert) :
    Except Exc (List AlertIngestionResult) → List Delivery
  | .ok results => (alerts.zip results).reverse
  | .error _ => []

/-- One step. -/
def advance (h : History) (m : Moment) : History :=
  match m.occurrence with
  | .delivered correlationId alerts =>
    let r := (ingestPayload m.env m.settings correlationId alerts).run (start h.rows)
    ⟨r.2.committed, stored alerts r.1 ++ h.deliveries⟩
  | .moved incidentId target actor details =>
    let r := (transaction m.env
      (changeIncidentState m.env m.settings incidentId target actor details)).run (start h.rows)
    ⟨r.2.committed, h.deliveries⟩

section Steps

variable {key : String × String}

/-- The rows that groups are about. -/
def grouping (w : World) : Table Incident × Table AlertRecord := (w.db.incidents, w.db.alerts)

/-- A payload keeps the groups, one alert after the other. -/
theorem triple_ingestAlerts (env : Env) (settings : Settings) (correlationId : String)
    (alerts : List NormalizedAlert) (deliveries : List Delivery) :
    Exec.Triple (fun w ↦ Grouped key deliveries (grouping w))
      (ingestAlerts env settings correlationId alerts)
      (fun results w ↦ Grouped key ((alerts.zip results).reverse ++ deliveries) (grouping w))
      fun _ _ ↦ True := by
  induction alerts generalizing deliveries with
  | nil =>
    apply Exec.Triple.bind
      ((frames_flush env fun _ _ ↦ rfl : Exec.Frames grouping _).returns (Grouped key deliveries))
    intro _
    exact Exec.Triple.pure fun _ h ↦ h
  | cons alert alerts ih =>
    apply Exec.Triple.bind (Q := fun result w ↦
      Grouped key ((alert, result) :: deliveries) (grouping w))
    · intro w hw
      have hone := triple_ingestOne env settings correlationId alert w rfl
      rcases hrun : (ingestOne env settings correlationId alert).run w with ⟨_ | result, w'⟩
      · trivial
      · rw [hrun] at hone
        exact hw.ingests hone
    intro result
    apply Exec.Triple.bind (ih ((alert, result) :: deliveries))
    intro results
    apply Exec.Triple.pure
    intro w hw
    rw [List.zip_cons_cons, List.reverse_cons, List.append_assoc]
    exact hw

/-- A payload that is not answered leaves the committed rows; one that is, commits what it
ingested. -/
theorem ingestPayload_spec (env : Env) (settings : Settings) (correlationId : String)
    (alerts : List NormalizedAlert) (db : Database) :
    Exec.Triple (fun w ↦ w = start db) (ingestPayload env settings correlationId alerts)
      (fun results w ↦ ∃ w', (ingestAlerts env settings correlationId alerts).run (start db) =
        (.ok results, w') ∧ w.committed = w'.db) fun _ w ↦ w.committed = db := by
  have hframes := frames_committed_ingestAlerts env settings correlationId alerts (start db)
  rintro w rfl
  unfold ingestPayload
  rw [Exec.run_bind]
  rcases hrun : (ingestAlerts env settings correlationId alerts).run (start db) with ⟨_ | results, w'⟩
  · rw [hrun] at hframes
    exact hframes
  · rw [hrun] at hframes
    simp only [commit, Exec.run_bind, run_flush]
    cases env.database w' with
    | none => exact ⟨w', rfl, rfl⟩
    | some e => exact hframes

/-- A move along the transition table keeps the groups. -/
private theorem keeps_moved (env : Env) (settings : Settings) (incidentId : Nat)
    (target : IncidentState) (actor : String) (details : Details) (deliveries : List Delivery) :
    Exec.Keeps (fun w ↦ Grouped key deliveries (grouping w))
      (changeIncidentState env settings incidentId target actor details) := by
  apply keeps_changeIncidentState (fun _ _ ↦ rfl) env settings incidentId target actor details
  · intro w now row h hrow hallowed
    refine ⟨h.records, (onward_update ?_).openedIn h.opened⟩
    -- nothing is allowed from an incident that is over
    intro row' hrow' hover
    rw [hrow] at hrow'
    cases hrow'
    rw [allowedTransitions_of_isTerminal _ hover] at hallowed
    cases hallowed
  · exact fun _ _ ↦ rfl
  · exact fun _ _ _ ↦ rfl

/-- One step keeps the groups. -/
theorem grouped_advance (h : History) (m : Moment)
    (hgroups : Grouped key h.deliveries (h.rows.incidents, h.rows.alerts)) :
    Grouped key (advance h m).deliveries
      ((advance h m).rows.incidents, (advance h m).rows.alerts) := by
  obtain ⟨occurrence, settings, env⟩ := m
  cases occurrence with
  | delivered correlationId alerts =>
    have hspec := ingestPayload_spec env settings correlationId alerts h.rows (start h.rows) rfl
    unfold advance
    rcases hrun : (ingestPayload env settings correlationId alerts).run (start h.rows) with
      ⟨_ | results, w⟩
    · rw [hrun] at hspec
      simp only [hrun, hspec, stored, List.nil_append]
      exact hgroups
    · rw [hrun] at hspec
      obtain ⟨w', hingest, hcommitted⟩ := hspec
      simp only [hrun, hcommitted, stored]
      have hstart : Grouped key h.deliveries (grouping (start h.rows)) := hgroups
      exact (triple_ingestAlerts env settings correlationId alerts h.deliveries).of_ok hstart
        hingest
  | moved incidentId target actor details =>
    have hkeeps := (keeps_moved env settings incidentId target actor details h.deliveries).state
      (s := start h.rows) hgroups
    have hframes : Exec.Frames World.committed
        (changeIncidentState env settings incidentId target actor details) :=
      frames_changeIncidentState (fun _ _ ↦ rfl) env settings incidentId target actor details false
        (fun _ _ ↦ rfl) (fun _ _ _ ↦ rfl) fun _ _ _ _ ↦ rfl
    unfold advance
    rcases committed_transaction env hframes (start h.rows) with hsame | ⟨w', hrun, hdone, -⟩
    · simp only [hsame]
      exact hgroups
    · rw [hrun] at hkeeps
      simp only [hdone]
      exact hkeeps

end Steps

/-- What a group promises of a history. -/
structure Group (h : History) (key : String × String) : Prop where
  /-- At most one of its incidents is still open. -/
  open_unique : ∀ id ∈ incidentsOf key h.deliveries, ∀ id' ∈ incidentsOf key h.deliveries,
    ¬ Over h.rows.incidents id → ¬ Over h.rows.incidents id' → id = id'
  /-- Its incidents are stored, and come newest first. -/
  stored : ∀ id ∈ incidentsOf key h.deliveries, ∃ incident, h.rows.incidents[id]? = some incident
  newest_first : (incidentsOf key h.deliveries).Pairwise (· > ·)
  /-- It has exactly one record, which counts its deliveries and links its newest incident. -/
  record : 0 < countOf key h.deliveries → ∃ (id : Nat) (record : AlertRecord),
    h.rows.alerts[id]? = some record ∧ keyOf record = key ∧
    (∀ (id' : Nat) (record' : AlertRecord),
      h.rows.alerts[id']? = some record' → keyOf record' = key → id' = id) ∧
    record.repeatCount = countOf key h.deliveries ∧
    record.incidentId = (incidentsOf key h.deliveries).head?

/-- Every history keeps its groups. -/
theorem grouped_run (moments : List Moment) (key : String × String) :
    Grouped key (Runs.run advance {} moments).deliveries
      ((Runs.run advance {} moments).rows.incidents,
        (Runs.run advance {} moments).rows.alerts) :=
  Runs.invariant (I := fun h : History ↦ Grouped key h.deliveries (h.rows.incidents, h.rows.alerts))
    grouped_advance ⟨.empty, ⟨.nil, by simp [incidentsOf], by simp [incidentsOf]⟩⟩ moments

/-- **Alerts are grouped.** After any sequence of payloads and unforced incident changes, every
source and fingerprint has at most one open incident, and one record, with the number of its
deliveries and the incident opened last. -/
theorem alerts_grouped (moments : List Moment) (key : String × String) :
    Group (Runs.run advance {} moments) key := by
  have hgroups := grouped_run moments key
  generalize Runs.run advance {} moments = h at hgroups
  constructor
  · intro id hid id' hid' hopen hopen'
    -- an open incident is not in the tail, so it is the head
    have hhead {i : Nat} (hi : i ∈ incidentsOf key h.deliveries)
        (hnot : ¬ Over h.rows.incidents i) : (incidentsOf key h.deliveries).head? = some i := by
      have hover := hgroups.opened.ended
      cases hids : incidentsOf key h.deliveries with
      | nil => simp [hids] at hi
      | cons last rest =>
        rw [hids] at hi hover
        rcases List.mem_cons.mp hi with rfl | hi
        · rfl
        · exact absurd (hover i hi) hnot
    exact Option.some.inj ((hhead hid hopen).symm.trans (hhead hid' hopen'))
  · intro id hid
    exact ⟨_, List.getElem?_eq_getElem (hgroups.opened.stored id hid)⟩
  · exact hgroups.opened.sorted
  · intro hcount
    obtain ⟨id, record, hrow, hkey⟩ := hgroups.records.present hcount
    obtain ⟨hrepeat, hlink, -⟩ := hgroups.records.counts hrow hkey
    exact ⟨id, record, hrow, hkey,
      fun _ _ hrow' hkey' ↦ hgroups.records.unique hrow' hrow hkey' hkey, hrepeat, hlink⟩

end CloudWard.Alerts
