import CloudWard.Security.Quarantine

/-!
# What the quarantine rows say together

A quarantine is written in two rows, its record and the security event. The ledger is what
the two tables say of it; it is coherent when they agree and every record but one that a
service holds open is closed. The services change it in three ways: they open a record, turn
a record and its event to a status, and note a verification.
-/

namespace CloudWard.Db

/-- The statuses a service sets on its way to another one. -/
def ContainmentStatus.inBetween (status : ContainmentStatus) : Bool :=
  status ∈ [.applying, .removing]

/-- A record that can be left as it is. -/
structure QuarantineRecord.Closed (record : QuarantineRecord) : Prop where
  settled : record.status.inBetween = false
  verified : record.status = .contained → record.verification.success = some true

end CloudWard.Db

namespace CloudWard.Security

open CloudWard.Db CloudWard.Logic

/-- The records, and of every event the name its policy has and its status. -/
structure Ledger where
  records : Table QuarantineRecord
  events : Table (String × ContainmentStatus)

/-- The ledger of a database. -/
def ledger (db : Database) : Ledger where
  records := db.quarantineRecords
  events := db.securityEvents.map fun event ↦ (policyNameOf event, event.containmentStatus)

/-- Setting an event's status sets it in the ledger. -/
theorem ledger_setStatus (db : Database) (id : Nat) (status : ContainmentStatus) :
    ledger { db with securityEvents := db.securityEvents.update id fun event ↦
        { event with containmentStatus := status } } =
      { records := (ledger db).records
        events := (ledger db).events.update id fun event ↦ (event.1, status) } := by
  unfold ledger
  congr 1
  exact Table.map_update_comm db.securityEvents id fun _ ↦ rfl

namespace Ledger

/-- Turn a record and its event to a status. -/
def turn (l : Ledger) (eventId recordId : Nat) (status : ContainmentStatus) : Ledger where
  records := l.records.update recordId fun record ↦ { record with status }
  events := l.events.update eventId fun event ↦ (event.1, status)

/-- Note a verification on a record. -/
def note (l : Ledger) (recordId : Nat) (verification : ContainmentVerification) : Ledger where
  records := l.records.update recordId fun record ↦ { record with verification }
  events := l.events

/-- Open a record of an event. -/
def enter (l : Ledger) (record : QuarantineRecord) : Ledger where
  records := l.records.insert record
  events := l.events.update record.securityEventId fun event ↦ (event.1, record.status)

/-- The tables agree, and every record is closed but the one held open. -/
structure Coherent (held : Option Nat) (l : Ledger) : Prop where
  agrees : ∀ r ∈ l.records, l.events[r.securityEventId]? = some (r.policyName, r.status)
  distinct : ∀ {id id' : Nat} {r r' : QuarantineRecord}, l.records[id]? = some r →
    l.records[id']? = some r' → r.policyName = r'.policyName → id = id'
  closed : ∀ {id : Nat} {r : QuarantineRecord}, l.records[id]? = some r → held ≠ some id → r.Closed

/-- No record is held open. -/
abbrev Consistent : Ledger → Prop := Coherent none

/-- The removed records of `k` are unchanged in `l`. -/
def Extends (k l : Ledger) : Prop :=
  ∀ (id : Nat) (r : QuarantineRecord), k.records[id]? = some r → r.status = .removed →
    l.records[id]? = some r

/-- A record of the event is under the identity. -/
def Holds (l : Ledger) (eventId recordId : Nat) : Prop :=
  ∃ r, l.records[recordId]? = some r ∧ r.securityEventId = eventId

variable {k l : Ledger} {held : Option Nat} {eventId recordId : Nat}

theorem Extends.refl (l : Ledger) : Extends l l := fun _ _ h _ ↦ h

theorem Extends.trans {l' : Ledger} (h : Extends k l) (h' : Extends l l') : Extends k l' :=
  fun id r hr hremoved ↦ h' id r (h id r hr hremoved) hremoved

/-! ### Changes keep the ledger coherent -/

/-- Holding a record open asks for less. -/
theorem Coherent.hold (h : Consistent l) (recordId : Nat) : Coherent (some recordId) l where
  agrees := h.agrees
  distinct := h.distinct
  closed hr _ := h.closed hr (by simp)

/-- A record held open that is closed need not be held. -/
theorem Coherent.close (h : Coherent (some recordId) l)
    (hclosed : ∀ r, l.records[recordId]? = some r → r.Closed) : Consistent l where
  agrees := h.agrees
  distinct := h.distinct
  closed {id r} hr _ := by
    by_cases hid : recordId = id
    · subst hid
      exact hclosed r hr
    · exact h.closed hr (by simpa using hid)

/-- An event has one record at most. -/
theorem Coherent.record_unique (h : Coherent held l) {id id' : Nat} {r r' : QuarantineRecord}
    (hr : l.records[id]? = some r) (hr' : l.records[id']? = some r')
    (hevent : r.securityEventId = r'.securityEventId) : id = id' := by
  apply h.distinct hr hr'
  have hagree := h.agrees r (List.mem_of_getElem? hr)
  have hagree' := h.agrees r' (List.mem_of_getElem? hr')
  rw [hevent, hagree', Option.some.injEq, Prod.mk.injEq] at hagree
  exact hagree.1.symm

/-- A record after its rows were changed is its old value or the changed one. -/
private theorem record_update {f : QuarantineRecord → QuarantineRecord} {id : Nat}
    {r : QuarantineRecord} (h : (l.records.update recordId f)[id]? = some r) :
    ∃ r₀, l.records[id]? = some r₀ ∧ r = if recordId = id then f r₀ else r₀ := by
  rw [Table.getElem?_update] at h
  split at h
  · next hid =>
    obtain ⟨r₀, hr₀, rfl⟩ := Option.map_eq_some_iff.mp h
    use r₀, hr₀
    rw [if_pos hid]
  · next hid =>
    use r, h
    rw [if_neg hid]

theorem Coherent.turn (h : Coherent (some recordId) l) (hholds : l.Holds eventId recordId)
    (status : ContainmentStatus) : Coherent (some recordId) (l.turn eventId recordId status) := by
  obtain ⟨row, hrow, hevent⟩ := hholds
  constructor
  · intro r hr
    obtain ⟨id, hid⟩ := List.mem_iff_getElem?.mp hr
    obtain ⟨r₀, hr₀, rfl⟩ := record_update hid
    have hagree := h.agrees r₀ (List.mem_of_getElem? hr₀)
    by_cases hheld : recordId = id
    · subst hheld
      obtain rfl : row = r₀ := Option.some.inj (hrow.symm.trans hr₀)
      simp only [↓reduceIte, Ledger.turn, hevent, Table.getElem?_update_self]
      rw [← hevent, hagree]
      rfl
    · -- the event has no second record
      have hother : eventId ≠ r₀.securityEventId := by
        intro heq
        exact hheld (h.record_unique hrow hr₀ (hevent.trans heq))
      simp only [if_neg hheld, Ledger.turn]
      rw [Table.getElem?_update_of_ne _ _ hother, hagree]
  · intro id id' r r' hr hr' hname
    obtain ⟨r₀, hr₀, rfl⟩ := record_update hr
    obtain ⟨r₀', hr₀', rfl⟩ := record_update hr'
    apply h.distinct hr₀ hr₀'
    simpa only [apply_ite QuarantineRecord.policyName, ite_self] using hname
  · intro id r hr hne
    obtain ⟨r₀, hr₀, rfl⟩ := record_update hr
    have hid : recordId ≠ id := by simpa using hne
    rw [if_neg hid]
    exact h.closed hr₀ hne

theorem Coherent.note (h : Coherent (some recordId) l) (verification : ContainmentVerification) :
    Coherent (some recordId) (l.note recordId verification) := by
  constructor
  · intro r hr
    obtain ⟨id, hid⟩ := List.mem_iff_getElem?.mp hr
    obtain ⟨r₀, hr₀, rfl⟩ := record_update hid
    have hagree := h.agrees r₀ (List.mem_of_getElem? hr₀)
    split <;> exact hagree
  · intro id id' r r' hr hr' hname
    obtain ⟨r₀, hr₀, rfl⟩ := record_update hr
    obtain ⟨r₀', hr₀', rfl⟩ := record_update hr'
    apply h.distinct hr₀ hr₀'
    simpa only [apply_ite QuarantineRecord.policyName, ite_self] using hname
  · intro id r hr hne
    obtain ⟨r₀, hr₀, rfl⟩ := record_update hr
    have hid : recordId ≠ id := by simpa using hne
    rw [if_neg hid]
    exact h.closed hr₀ hne

/-- A new record under a free name of its event's is held open. -/
theorem Coherent.enter (h : Consistent l) {row : QuarantineRecord}
    {status : ContainmentStatus}
    (hevent : l.events[row.securityEventId]? = some (row.policyName, status))
    (hfree : policyNameIsFree l.records row.policyName) :
    Coherent (some l.records.fresh) (l.enter row) := by
  constructor
  · intro r hr
    rcases List.mem_append.mp hr with hr | hr
    · -- a record of the same event would bear its name
      have hagree := h.agrees r hr
      have hother : row.securityEventId ≠ r.securityEventId := by
        intro heq
        rw [← heq, hevent, Option.some.injEq, Prod.mk.injEq] at hagree
        exact hfree r hr hagree.1.symm
      simp only [Ledger.enter]
      rw [Table.getElem?_update_of_ne _ _ hother, hagree]
    · obtain rfl := List.mem_singleton.mp hr
      simp only [Ledger.enter, Table.getElem?_update_self, hevent, Option.map_some]
  · intro id id' r r' hr hr' hname
    rcases Table.getElem?_insert_eq_some.mp hr with hold | ⟨rfl, rfl⟩
    · rcases Table.getElem?_insert_eq_some.mp hr' with hold' | ⟨rfl, rfl⟩
      · exact h.distinct hold hold' hname
      · exact absurd hname (hfree r (List.mem_of_getElem? hold))
    · rcases Table.getElem?_insert_eq_some.mp hr' with hold' | ⟨rfl, rfl⟩
      · exact absurd hname.symm (hfree r' (List.mem_of_getElem? hold'))
      · rfl
  · intro id r hr hne
    rcases Table.getElem?_insert_eq_some.mp hr with hr | ⟨rfl, rfl⟩
    · exact h.closed hr (by simp)
    · exact absurd rfl hne

/-- Events that no record is of can be added and changed. -/
theorem Coherent.of_events (h : Coherent held l) {events : Table (String × ContainmentStatus)}
    (hevents : ∀ r ∈ l.records, events[r.securityEventId]? = l.events[r.securityEventId]?) :
    Coherent held { l with events } where
  agrees r hr := by
    rw [hevents r hr]
    exact h.agrees r hr
  distinct := h.distinct
  closed := h.closed

/-! ### Changes keep the removed records -/

/-- A change of one record keeps the removed ones where that was none of them. -/
theorem Extends.update (h : Extends k l) {f : QuarantineRecord → QuarantineRecord}
    (hkept : ∀ r, k.records[recordId]? = some r → r.status ≠ .removed)
    (events : Table (String × ContainmentStatus)) :
    Extends k { records := l.records.update recordId f, events } := by
  intro id r hr hremoved
  have hne : recordId ≠ id := by
    rintro rfl
    exact hkept r hr hremoved
  simp only [Table.getElem?_update_of_ne _ _ hne]
  exact h id r hr hremoved

theorem Extends.insert (h : Extends k l) (row : QuarantineRecord)
    (events : Table (String × ContainmentStatus)) :
    Extends k { records := l.records.insert row, events } :=
  fun id r hr hremoved ↦ Table.getElem?_insert_of_some (h id r hr hremoved)

end Ledger

end CloudWard.Security
