import CloudWard.Base.Uuid
import CloudWard.Notifications.Service
import CloudWard.Security.Redaction

/-!
# Queued messages

`NotificationMessage` of `notifications/notifiers.py:29` with all its fields, its dump, and its
validation from a dump. The outbox stores the redacted dump, and redaction changes texts and makes
them longer.
-/

namespace CloudWard.Notifications

open CloudWard.Security Python Redaction

/-- `NotificationMessage` before its bounds are checked. -/
structure RawMessage extends NotificationMessage where
  incidentId : Option Uuid
  details : List (String × Json)

/-- A message within its bounds. -/
structure Message extends RawMessage where
  valid : toNotificationMessage.Valid

/-- `null`, or a number. -/
def ofNumber : Option Nat → Json
  | none => .null
  | some n => .int n

/-- `message.model_dump(mode="json")`. -/
def RawMessage.dump (m : RawMessage) : Json :=
  .dict [("event_type", .str m.eventType), ("title", .str m.title),
    ("incident_id", Json.ofOption (m.incidentId.map (·.text))),
    ("correlation_id", .str m.correlationId), ("severity", .str m.severity),
    ("service", .str m.service), ("environment", .str m.environment), ("cause", .str m.cause),
    ("risk_score", ofNumber m.riskScore), ("policy", .str m.policy),
    ("current_state", .str m.currentState), ("dashboard_url", Json.ofOption m.dashboardUrl),
    ("details", .dict m.details)]

/-- The fields of a message. -/
def fieldNames : List String :=
  ["event_type", "title", "incident_id", "correlation_id", "severity", "service", "environment",
    "cause", "risk_score", "policy", "current_state", "dashboard_url", "details"]

/-- A required text. -/
def readText (value : Option Json) : Option String :=
  match value with
  | some (.str s) => some s
  | _ => none

/-- A text with a default. -/
def readTextOr (default : String) (value : Option Json) : Option String :=
  match value with
  | none => some default
  | some (.str s) => some s
  | _ => none

/-- A text or `None`. -/
def readOptional (value : Option Json) : Option (Option String) :=
  match value with
  | none => some none
  | some .null => some none
  | some (.str s) => some (some s)
  | _ => none

/-- A UUID or `None`. -/
def readUuid (value : Option Json) : Option (Option Uuid) :=
  match value with
  | none => some none
  | some .null => some none
  | some (.str s) => (Uuid.ofText s).map some
  | _ => none

/-- A number from 0 on, or `None`. -/
def readNumber (value : Option Json) : Option (Option Nat) :=
  match value with
  | none => some none
  | some .null => some none
  | some (.int (.ofNat n)) => some (some n)
  | _ => none

/-- A dictionary. -/
def readDict (value : Option Json) : Option (List (String × Json)) :=
  match value with
  | none => some []
  | some (.dict entries) => some entries
  | _ => none

/-- The fields of a message, with their defaults; `extra="forbid"`. -/
def RawMessage.ofJson (value : Json) : Option RawMessage := do
  let .dict entries := value | none
  if ¬ entries.all fun entry ↦ entry.1 ∈ fieldNames then none
  let eventType ← readText (value.get? "event_type")
  let title ← readText (value.get? "title")
  let incidentId ← readUuid (value.get? "incident_id")
  let correlationId ← readText (value.get? "correlation_id")
  let severity ← readTextOr "info" (value.get? "severity")
  let service ← readTextOr "unknown" (value.get? "service")
  let environment ← readTextOr "unknown" (value.get? "environment")
  let cause ← readTextOr "Not yet established" (value.get? "cause")
  let riskScore ← readNumber (value.get? "risk_score")
  let policy ← readTextOr "See CloudWard policy record" (value.get? "policy")
  let currentState ← readTextOr "UNKNOWN" (value.get? "current_state")
  let dashboardUrl ← readOptional (value.get? "dashboard_url")
  let details ← readDict (value.get? "details")
  return { eventType, title, correlationId, severity, service, environment, cause, riskScore,
           policy, currentState, dashboardUrl, incidentId, details }

/-- `NotificationMessage.model_validate(payload)`. -/
def modelValidate (value : Json) : Option Message := do
  let raw ← RawMessage.ofJson value
  if h : raw.toNotificationMessage.Valid then some ⟨raw, h⟩ else none

/-- A message whose texts are redacted. -/
def RawMessage.redacted (u : Unicode) (m : RawMessage) : RawMessage where
  eventType := redactText u m.eventType
  title := redactText u m.title
  correlationId := redactText u m.correlationId
  severity := redactText u m.severity
  service := redactText u m.service
  environment := redactText u m.environment
  cause := redactText u m.cause
  riskScore := m.riskScore
  policy := redactText u m.policy
  currentState := redactText u m.currentState
  dashboardUrl := m.dashboardUrl.map (redactText u)
  incidentId := m.incidentId
  details := m.details.map fun entry ↦
    (entry.1, if sensitiveKey entry.1 then .str "[REDACTED]" else redactUntrusted u 14 entry.2)

/-- The queued payload, `notifications/service.py:68`. -/
def payload (u : Unicode) (m : RawMessage) : Json := redact u m.dump

variable {u : Unicode}

private theorem readUuid_text (id : Option Uuid) :
    readUuid (some (Json.ofOption (id.map (·.text)))) = some id := by
  cases id with
  | none => rfl
  | some id =>
    show (Uuid.ofText id.text).map some = some (some id)
    rw [Uuid.ofText_text]
    rfl

private theorem readNumber_ofNumber (n : Option Nat) :
    readNumber (some (ofNumber n)) = some n := by
  cases n with
  | none => rfl
  | some n => rfl

private theorem readOptional_ofOption (text : Option String) :
    readOptional (some (Json.ofOption text)) = some text := by
  cases text with
  | none => rfl
  | some text => rfl

/-- A dump is read back. -/
theorem ofJson_dump (m : RawMessage) : RawMessage.ofJson m.dump = some m := by
  have hread : RawMessage.ofJson m.dump = (do
      let incidentId ← readUuid (some (Json.ofOption (m.incidentId.map (·.text))))
      let riskScore ← readNumber (some (ofNumber m.riskScore))
      let dashboardUrl ← readOptional (some (Json.ofOption m.dashboardUrl))
      return { m with incidentId, riskScore, dashboardUrl }) := rfl
  rw [hread, readUuid_text, readNumber_ofNumber, readOptional_ofOption]
  rfl

private theorem plain_uuid (id : Uuid) : ∀ c ∈ id.text.toList, plain c := by
  intro c hc
  unfold plain
  rcases id.mem_text hc with rfl | hdigit | ⟨hlow, hhigh⟩
  · decide
  · simp [hdigit]
  · simp [hlow, hhigh]

/-- No field is redacted for its name. -/
private theorem redact_fields {entries : List (String × Json)}
    (h : ∀ entry ∈ entries, entry.1 ∈ fieldNames) :
    redact u (.dict entries) =
      .dict (entries.map fun entry ↦ (entry.1, redactUntrusted u 15 entry.2)) := by
  have hkeys : ∀ name ∈ fieldNames, sensitiveKey name = false := by decide +kernel
  exact redactUntrusted_dict (fun entry hentry ↦ hkeys entry.1 (h entry hentry)) 15

/-- The queued payload is the dump of the redacted message. -/
theorem payload_eq (m : RawMessage) : payload u m = (m.redacted u).dump := by
  have huuid : redactUntrusted u 15 (Json.ofOption (m.incidentId.map (·.text))) =
      Json.ofOption (m.incidentId.map (·.text)) := by
    cases m.incidentId with
    | none => rfl
    | some id =>
      show Json.str (redactText u id.text) = .str id.text
      rw [redactText, masked_of_plain (marked_stringRules u) (plain_uuid id)]
  have htext (text : String) : redactUntrusted u 15 (.str text) = .str (redactText u text) := rfl
  have hdetails : redactUntrusted u 15 (.dict m.details) = .dict (m.redacted u).details := rfl
  have hnumber : redactUntrusted u 15 (ofNumber m.riskScore) = ofNumber m.riskScore := by
    cases m.riskScore with
    | none => rfl
    | some n => rfl
  have hurl : redactUntrusted u 15 (Json.ofOption m.dashboardUrl) =
      Json.ofOption (m.dashboardUrl.map (redactText u)) := by
    cases m.dashboardUrl with
    | none => rfl
    | some url => exact htext url
  have hentries : ∃ entries, m.dump = .dict entries ∧ entries.map (·.1) = fieldNames :=
    ⟨_, rfl, rfl⟩
  obtain ⟨entries, hdump, hnames⟩ := hentries
  have hmem : ∀ entry ∈ entries, entry.1 ∈ fieldNames := by
    intro entry hentry
    rw [← hnames]
    exact List.mem_map_of_mem hentry
  unfold payload
  rw [hdump, redact_fields hmem]
  cases hdump
  simp only [List.map_cons, List.map_nil, huuid, hnumber, hurl, htext, hdetails]
  unfold RawMessage.dump RawMessage.redacted
  dsimp only

/-- The fields that identify a message are left as they are, and the others have room for the masks
of their secrets. -/
structure RawMessage.Redactable (u : Unicode) (m : RawMessage) : Prop where
  eventType : redactText u m.eventType = m.eventType
  severity : redactText u m.severity = m.severity
  currentState : redactText u m.currentState = m.currentState
  title : Room 200 (stringRules u) m.title
  correlationId : Room 128 (stringRules u) m.correlationId
  service : Room 255 (stringRules u) m.service
  environment : Room 32 (stringRules u) m.environment
  cause : Room 1000 (stringRules u) m.cause
  policy : Room 1000 (stringRules u) m.policy
  dashboardUrl : ∀ url ∈ m.dashboardUrl, Room 2048 (stringRules u) url

/-- The queued payload is read back as a message of the same event, incident, severity and
state. -/
def Message.RoundTrips (u : Unicode) (m : Message) : Prop :=
  ∃ m', modelValidate (payload u m.toRawMessage) = some m' ∧ m'.eventType = m.eventType ∧
    m'.incidentId = m.incidentId ∧ m'.severity = m.severity ∧ m'.currentState = m.currentState

private theorem length_redactText_le_iff {limit : Nat} {text : String} :
    (redactText u text).length ≤ limit ↔ Room limit (stringRules u) text :=
  length_masked_le_iff

private theorem one_le_length_redactText {text : String} (h : 1 ≤ text.length) :
    1 ≤ (redactText u text).length :=
  one_le_length_masked h

private theorem valid_redacted_iff (m : Message) (heventType : redactText u m.eventType = m.eventType)
    (hseverity : redactText u m.severity = m.severity)
    (hstate : redactText u m.currentState = m.currentState) :
    (m.redacted u).toNotificationMessage.Valid ↔ m.toRawMessage.Redactable u := by
  have hvalid := m.valid
  unfold RawMessage.redacted
  constructor
  · intro h
    constructor
    · exact heventType
    · exact hseverity
    · exact hstate
    · exact length_redactText_le_iff.mp h.title.2
    · exact length_redactText_le_iff.mp h.correlationId.2
    · exact length_redactText_le_iff.mp h.service
    · exact length_redactText_le_iff.mp h.environment
    · exact length_redactText_le_iff.mp h.cause
    · exact length_redactText_le_iff.mp h.policy
    · intro url hurl
      exact length_redactText_le_iff.mp (h.dashboardUrl _ (Option.mem_map_of_mem _ hurl))
  · intro h
    constructor
    · dsimp only
      rw [heventType]
      exact hvalid.eventType
    · exact ⟨one_le_length_redactText hvalid.title.1, length_redactText_le_iff.mpr h.title⟩
    · exact ⟨one_le_length_redactText hvalid.correlationId.1,
        length_redactText_le_iff.mpr h.correlationId⟩
    · dsimp only
      rw [hseverity]
      exact hvalid.severity
    · exact length_redactText_le_iff.mpr h.service
    · exact length_redactText_le_iff.mpr h.environment
    · exact length_redactText_le_iff.mpr h.cause
    · exact hvalid.riskScore
    · exact length_redactText_le_iff.mpr h.policy
    · dsimp only
      rw [hstate]
      exact hvalid.currentState
    · intro url hurl
      obtain ⟨original, horiginal, rfl⟩ := Option.mem_map.mp hurl
      exact length_redactText_le_iff.mpr (h.dashboardUrl original horiginal)

theorem modelValidate_dump (m : RawMessage) :
    modelValidate m.dump =
      if h : m.toNotificationMessage.Valid then some ⟨m, h⟩ else none := by
  unfold modelValidate
  rw [ofJson_dump]
  rfl

private theorem redacted_fields (m : RawMessage) :
    (m.redacted u).eventType = redactText u m.eventType ∧
      (m.redacted u).severity = redactText u m.severity ∧
      (m.redacted u).currentState = redactText u m.currentState ∧
      (m.redacted u).incidentId = m.incidentId := by
  unfold RawMessage.redacted
  exact ⟨rfl, rfl, rfl, rfl⟩

/-- A valid message round-trips if and only if it is redactable. -/
theorem roundTrips_iff (m : Message) : m.RoundTrips u ↔ m.toRawMessage.Redactable u := by
  obtain ⟨heventType, hseverity, hstate, hincident⟩ := redacted_fields (u := u) m.toRawMessage
  have hvalid := @valid_redacted_iff u m
  unfold Message.RoundTrips
  rw [payload_eq, modelValidate_dump]
  generalize m.toRawMessage.redacted u = raw at heventType hseverity hstate hincident hvalid ⊢
  constructor
  · rintro ⟨m', hm', h1, -, h3, h4⟩
    split at hm'
    · next h =>
      cases hm'
      exact (hvalid (heventType.symm.trans h1) (hseverity.symm.trans h3)
        (hstate.symm.trans h4)).mp h
    · cases hm'
  · intro h
    have hraw := (hvalid h.eventType h.severity h.currentState).mpr h
    rw [dif_pos hraw]
    exact ⟨_, rfl, heventType.trans h.eventType, hincident, hseverity.trans h.severity,
      hstate.trans h.currentState⟩

end CloudWard.Notifications
