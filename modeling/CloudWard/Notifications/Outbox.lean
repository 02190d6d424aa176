import CloudWard.Logic.Runs
import CloudWard.Notifications.Message

/-!
# The notification outbox

`NotificationService` of `notifications/service.py:29` over the committed records: `queue` adds a
record for each channel that has none yet, `deliver` sends a record and notes how that ended. A
`CloudWardError` of a delivery is committed, `api/notifications.py:172`; any other exception rolls
its transaction back.
-/

namespace CloudWard.Notifications

open CloudWard.Db CloudWard.Logic CloudWard.Security Python Redaction

/-- The settings of the outbox, `config.py:242`; the webhook of Teams by the digest of its URL. -/
structure OutboxSettings where
  teamsWebhookDigest : Option String := none
  maxAttempts : Nat := 5
  maxAttempts_mem : 1 ≤ maxAttempts ∧ maxAttempts ≤ 10 := by decide

/-- The text whose digest is the key of a record, `notifications/service.py:45`. -/
def dedupeSource (eventType : String) (message : RawMessage) (channel : String) : String :=
  eventType ++ ":" ++ (message.incidentId.map (·.text)).getD "None" ++ ":" ++
    message.currentState ++ ":" ++ channel

/-- A row of `Notification`, `db/models.py:669`, and the message it was queued for. -/
structure Notification where
  incidentId : Option Uuid
  channel : String
  status : RecordStatus := .pending
  destinationReference : Option String
  eventType : String
  dedupeKey : String
  attempts : Nat := 0
  maxAttempts : Nat
  lastError : Option String := none
  deliveredAt : Option Nat := none
  nextAttemptAt : Option Nat := none
  payload : Json
  message : Message

/-- The committed records, and the records that were sent, last first. -/
structure Outbox where
  records : List Notification := []
  sends : List Nat := []

/-- How a notifier ends: it delivers to a destination, it raises a `CloudWardError`, or another
exception. -/
inductive Outcome
  | delivered (destination : String)
  | failed (code : String)
  | raised

/-- An operation on the outbox. -/
inductive Operation
  | queue (eventType : String) (message : Message) (channels : List String)
  | deliver (n now : Nat) (outcome : Outcome)

/-- `_destination_reference`, `notifications/service.py:245`. -/
def destinationReference (settings : OutboxSettings) (channel : String) : String :=
  match channel, settings.teamsWebhookDigest with
  | "teams", some digest => "configured:" ++ String.ofList (digest.toList.take 12)
  | "github_issue", _ => "configured"
  | _, _ => "authenticated-sse"

/-- The channels that have a notifier, `notifications/service.py:187`. -/
def registered : List String := ["dashboard", "teams", "github_issue"]

section Operations

variable (u : Unicode) (settings : OutboxSettings)

/-- A new record, `notifications/service.py:58`. -/
def notification (eventType : String) (message : Message) (channel : String) : Notification where
  incidentId := message.incidentId
  channel
  destinationReference := some (destinationReference settings channel)
  eventType
  dedupeKey := dedupeSource eventType message.toRawMessage channel
  maxAttempts := settings.maxAttempts
  payload := payload u message.toRawMessage
  message

/-- A record has the channel and the key. -/
def Notification.matches (channel key : String) (record : Notification) : Bool :=
  record.channel = channel ∧ record.dedupeKey = key

/-- `queue`, `notifications/service.py:36`, for one channel. -/
def queueChannel (eventType : String) (message : Message) (s : Outbox) (channel : String) :
    Outbox :=
  if s.records.any
      (Notification.matches channel (dedupeSource eventType message.toRawMessage channel)) then s
  else { s with records := s.records ++ [notification u settings eventType message channel] }

/-- `queue`, `notifications/service.py:36`. -/
def queue (s : Outbox) (eventType : String) (message : Message) (channels : List String) :
    Outbox :=
  channels.foldl (queueChannel u settings eventType message) s

/-- What a failed delivery leaves, `notifications/service.py:133`. -/
def Notification.failed (record : Notification) (now : Nat) (code : String) : Notification :=
  { record with
    status := if record.maxAttempts ≤ record.attempts then .failed else .pending
    lastError := some code
    nextAttemptAt := some (now + min (2 ^ record.attempts) 300) }

/-- What a delivery leaves, `notifications/service.py:162`. -/
def Notification.succeeded (record : Notification) (now : Nat) (destination : String) :
    Notification :=
  { record with
    status := .succeeded
    destinationReference := some destination
    lastError := none
    nextAttemptAt := none
    deliveredAt := some now }

/-- The record is sent: its attempt has begun, and its payload was read. -/
def send (s : Outbox) (n now : Nat) (record : Notification) : Outcome → Outbox
  | .delivered destination =>
    { records := s.records.set n (record.succeeded now destination), sends := n :: s.sends }
  | .failed code => { records := s.records.set n (record.failed now code), sends := n :: s.sends }
  | .raised => { s with sends := n :: s.sends }

/-- `deliver` of a record, `notifications/service.py:117`. -/
def deliverRecord (s : Outbox) (n now : Nat) (record : Notification) (outcome : Outcome) :
    Outbox :=
  if record.status = .succeeded then s
  else if record.maxAttempts ≤ record.attempts then s
  else
    let record := { record with status := .running, attempts := record.attempts + 1 }
    match modelValidate record.payload with
    | none => s
    | some _ =>
      if record.channel ∈ registered then send s n now record outcome
      else { s with records := s.records.set n record }

/-- `deliver`, `notifications/service.py:108`. -/
def deliver (s : Outbox) (n now : Nat) (outcome : Outcome) : Outbox :=
  match s.records[n]? with
  | none => s
  | some record => deliverRecord s n now record outcome

/-- One operation. -/
def operate (s : Outbox) : Operation → Outbox
  | .queue eventType message channels => queue u settings s eventType message channels
  | .deliver n now outcome => deliver s n now outcome

end Operations

variable {u : Unicode} {settings : OutboxSettings} {s : Outbox}

/-! ### What holds of the records -/

/-- The channel and the key of a record. -/
def Notification.place (record : Notification) : String × String :=
  (record.channel, record.dedupeKey)

/-- What holds of each record. -/
structure Notification.Sound (u : Unicode) (settings : OutboxSettings) (record : Notification) :
    Prop where
  key : record.dedupeKey =
    dedupeSource record.eventType record.message.toRawMessage record.channel
  payload : record.payload = Notifications.payload u record.message.toRawMessage
  attempts : record.attempts ≤ record.maxAttempts
  maxAttempts : record.maxAttempts = settings.maxAttempts

/-- What holds of the outbox. -/
structure Outbox.Sound (u : Unicode) (settings : OutboxSettings) (s : Outbox) : Prop where
  records : ∀ record ∈ s.records, record.Sound u settings
  unique : (s.records.map Notification.place).Nodup

private theorem sound_queueChannel (h : s.Sound u settings) (eventType : String)
    (message : Message) (channel : String) :
    (queueChannel u settings eventType message s channel).Sound u settings := by
  unfold queueChannel
  split
  · exact h
  · next hnone =>
    constructor
    · intro record hrecord
      rcases List.mem_append.mp hrecord with hold | hnew
      · exact h.records record hold
      · rw [List.mem_singleton.mp hnew]
        exact ⟨rfl, rfl, Nat.zero_le _, rfl⟩
    · rw [List.map_append, List.nodup_append]
      refine ⟨h.unique, List.nodup_singleton _, ?_⟩
      rintro place hplace place' hplace' rfl
      obtain ⟨record, hrecord, hold⟩ := List.mem_map.mp hplace
      rw [List.map_singleton, List.mem_singleton] at hplace'
      apply hnone
      refine List.any_eq_true.mpr ⟨record, hrecord, ?_⟩
      obtain ⟨hchannel, hkey⟩ := Prod.mk.inj (hold.trans hplace')
      exact decide_eq_true ⟨hchannel, hkey⟩

/-- A record changes, but not where it belongs. -/
private theorem Outbox.Sound.set (h : s.Sound u settings) {n : Nat} {record record' : Notification}
    (hn : s.records[n]? = some record) (hsound : record'.Sound u settings)
    (hplace : record'.place = record.place) (sends : List Nat) :
    Outbox.Sound u settings { records := s.records.set n record', sends } := by
  constructor
  · intro other hother
    rcases List.mem_or_eq_of_mem_set hother with hold | rfl
    · exact h.records other hold
    · exact hsound
  · have hmap : (s.records.set n record').map Notification.place =
        s.records.map Notification.place := by
      rw [List.map_set, hplace]
      apply List.ext_getElem?
      intro m
      rw [List.getElem?_set]
      split
      · next hm =>
        subst hm
        rw [List.getElem?_map, hn]
        split
        · rfl
        · next hlength =>
          rw [List.length_map] at hlength
          exact absurd (List.getElem?_eq_some_iff.mp hn).1 hlength
      · rfl
    show (List.map Notification.place (s.records.set n record')).Nodup
    rw [hmap]
    exact h.unique

private theorem sound_deliver (h : s.Sound u settings) (n now : Nat) (outcome : Outcome) :
    (deliver s n now outcome).Sound u settings := by
  unfold deliver
  split
  · exact h
  · next record hn =>
    have hrecord := h.records record (List.mem_of_getElem? hn)
    unfold deliverRecord
    split
    · exact h
    split
    · exact h
    · next hattempts =>
      have hnext : record.attempts + 1 ≤ record.maxAttempts := by omega
      dsimp only
      split
      · exact h
      split
      · unfold send
        split
        · apply h.set hn
          · exact ⟨hrecord.key, hrecord.payload, hnext, hrecord.maxAttempts⟩
          · rfl
        · apply h.set hn
          · exact ⟨hrecord.key, hrecord.payload, hnext, hrecord.maxAttempts⟩
          · rfl
        · exact ⟨h.records, h.unique⟩
      · apply h.set hn
        · exact ⟨hrecord.key, hrecord.payload, hnext, hrecord.maxAttempts⟩
        · rfl

/-- An operation. -/
theorem sound_operate (h : s.Sound u settings) (op : Operation) :
    (operate u settings s op).Sound u settings := by
  cases op with
  | queue eventType message channels =>
    show (Runs.run (queueChannel u settings eventType message) s channels).Sound u settings
    apply Runs.invariant _ h channels
    exact fun s channel hs ↦ sound_queueChannel hs eventType message channel
  | deliver n now outcome => exact sound_deliver h n now outcome

/-! ### Records that succeeded -/

/-- The record stays as it is, and is not sent. -/
structure Kept (n : Nat) (record : Notification) (count : Nat) (s : Outbox) : Prop where
  record : s.records[n]? = some record
  sends : s.sends.count n = count

private theorem kept_operate {n count : Nat} {record : Notification}
    (hsucceeded : record.status = .succeeded) (h : Kept n record count s) (op : Operation) :
    Kept n record count (operate u settings s op) := by
  cases op with
  | queue eventType message channels =>
    show Kept n record count (Runs.run (queueChannel u settings eventType message) s channels)
    apply Runs.invariant _ h channels
    intro s channel hs
    unfold queueChannel
    split
    · exact hs
    · refine ⟨?_, hs.sends⟩
      have hlt := (List.getElem?_eq_some_iff.mp hs.record).1
      exact (List.getElem?_append_left hlt).trans hs.record
  | deliver m now outcome =>
    unfold operate deliver
    dsimp only
    split
    · exact h
    · next other hm =>
      by_cases hne : m = n
      · subst hne
        rw [h.record] at hm
        cases hm
        unfold deliverRecord
        rw [if_pos hsucceeded]
        exact h
      · have hset (record' : Notification) : (s.records.set m record')[n]? = some record := by
          rw [List.getElem?_set_ne hne]
          exact h.record
        have hcount : (m :: s.sends).count n = count := by
          rw [List.count_cons_of_ne hne]
          exact h.sends
        unfold deliverRecord
        split
        · exact h
        split
        · exact h
        · dsimp only
          split
          · exact h
          split
          · unfold send
            split
            · exact ⟨hset _, hcount⟩
            · exact ⟨hset _, hcount⟩
            · exact ⟨h.record, hcount⟩
          · exact ⟨hset _, h.sends⟩

/-! ### Every run -/

/-- The records of an event, an incident, a state and a channel. -/
def Outbox.recordsOf (s : Outbox) (eventType : String) (incident : Option Uuid)
    (state channel : String) : List Notification :=
  s.records.filter fun record ↦ record.eventType = eventType ∧
    record.message.incidentId = incident ∧ record.message.currentState = state ∧
    record.channel = channel

/-- The payload of a record is read back as the message it was queued for. -/
def Notification.Readable (record : Notification) : Prop :=
  ∃ m, modelValidate record.payload = some m ∧ m.eventType = record.message.eventType ∧
    m.incidentId = record.message.incidentId ∧ m.severity = record.message.severity ∧
    m.currentState = record.message.currentState

private theorem length_recordsOf (h : s.Sound u settings) (eventType : String)
    (incident : Option Uuid) (state channel : String) :
    (s.recordsOf eventType incident state channel).length ≤ 1 := by
  have hfields : ∀ record ∈ s.recordsOf eventType incident state channel,
      record.place = (channel, eventType ++ ":" ++ (incident.map (·.text)).getD "None" ++ ":" ++
        state ++ ":" ++ channel) := by
    intro record hrecord
    obtain ⟨hmem, hfields⟩ := List.mem_filter.mp hrecord
    obtain ⟨heventType, hincident, hstate, hchannel⟩ := of_decide_eq_true hfields
    rw [Notification.place, (h.records record hmem).key, dedupeSource, heventType, hincident,
      hstate, hchannel]
  have hnodup : ((s.recordsOf eventType incident state channel).map Notification.place).Nodup :=
    h.unique.sublist (List.filter_sublist.map _)
  rcases hrecords : s.recordsOf eventType incident state channel with
    _ | ⟨record, _ | ⟨record', rest⟩⟩
  · exact Nat.zero_le 1
  · exact Nat.le_refl 1
  · rw [hrecords] at hfields hnodup
    have hplace := (hfields record List.mem_cons_self).trans
      (hfields record' (List.mem_cons_of_mem _ List.mem_cons_self)).symm
    rw [List.map_cons, List.map_cons, List.nodup_cons, hplace] at hnodup
    exact absurd List.mem_cons_self hnodup.1

private def noUnicode : Unicode := ⟨fun _ ↦ false, fun _ ↦ none⟩

/-- A title of 200 characters whose last word is a secret of seven. -/
private def longTitle : String := String.ofList (List.replicate (191 + 1) 'x' ++ " token=a".toList)

private theorem length_longTitle : longTitle.length = 200 := by
  have htoken : " token=a".toList.length = 8 := rfl
  unfold longTitle
  rw [String.length_ofList, List.length_append, List.length_replicate, htoken]

private theorem not_room_longTitle : ¬ Room 200 (stringRules noUnicode) longTitle := by
  have hrest : (Logic.maskAll mask (some 'x') (stringRules noUnicode) " token=a".toList).length =
      11 := by decide +kernel
  rw [← length_masked_le_iff]
  intro hlength
  rw [masked] at hlength
  unfold longTitle at hlength
  rw [String.length_ofList, String.toList_ofList,
    Logic.maskAll_replicate (by decide) (started_stringRules noUnicode), List.length_append,
    List.length_replicate, hrest] at hlength
  omega

private def longMessage : Message where
  eventType := "incident_created"
  title := longTitle
  correlationId := "correlation"
  severity := "high"
  service := "api"
  environment := "staging"
  cause := "Not yet established"
  riskScore := none
  policy := "See policy audit"
  currentState := "DETECTED"
  dashboardUrl := none
  incidentId := none
  details := []
  valid := by
    constructor
    · decide
    · dsimp only
      rw [length_longTitle]
      decide
    · decide
    · decide
    · decide
    · decide
    · decide
    · exact fun _ h ↦ absurd h (Option.not_mem_none _)
    · decide
    · decide
    · exact fun _ h ↦ absurd h (Option.not_mem_none _)

end CloudWard.Notifications
