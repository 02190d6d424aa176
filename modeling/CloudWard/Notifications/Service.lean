import CloudWard.Incidents.Service

/-!
# Incident notifications

`queue_incident_notification` of `notifications/service.py:199` up to the rows it queues. The
message is a strict model: text that is longer than its field raises, and the caller decides
whether that ends the operation.
-/

namespace CloudWard.Notifications

open CloudWard.Db CloudWard.Incidents CloudWard.Logic Service

/-- `NotificationMessage`, `notifications/notifiers.py:29`. -/
structure NotificationMessage where
  eventType : String
  title : String
  correlationId : String
  severity : String
  service : String
  environment : String
  cause : String
  riskScore : Option Nat
  policy : String
  currentState : String
  dashboardUrl : Option String

/-- The bounds of its fields. -/
structure NotificationMessage.Valid (m : NotificationMessage) : Prop where
  eventType : 1 ≤ m.eventType.length ∧ m.eventType.length ≤ 128
  title : 1 ≤ m.title.length ∧ m.title.length ≤ 200
  correlationId : 1 ≤ m.correlationId.length ∧ m.correlationId.length ≤ 128
  severity : m.severity.length ≤ 16
  service : m.service.length ≤ 255
  environment : m.environment.length ≤ 32
  cause : m.cause.length ≤ 1000
  riskScore : ∀ n ∈ m.riskScore, n ≤ 100
  policy : m.policy.length ≤ 1000
  currentState : m.currentState.length ≤ 64
  dashboardUrl : ∀ url ∈ m.dashboardUrl, url.length ≤ 2048


instance (m : NotificationMessage) : Decidable m.Valid :=
  decidable_of_iff
    ((1 ≤ m.eventType.length ∧ m.eventType.length ≤ 128) ∧
      (1 ≤ m.title.length ∧ m.title.length ≤ 200) ∧
      (1 ≤ m.correlationId.length ∧ m.correlationId.length ≤ 128) ∧ m.severity.length ≤ 16 ∧
      m.service.length ≤ 255 ∧ m.environment.length ≤ 32 ∧ m.cause.length ≤ 1000 ∧
      (∀ n ∈ m.riskScore, n ≤ 100) ∧ m.policy.length ≤ 1000 ∧ m.currentState.length ≤ 64 ∧
      ∀ url ∈ m.dashboardUrl, url.length ≤ 2048)
    ⟨fun ⟨h1, h2, h3, h4, h5, h6, h7, h8, h9, h10, h11⟩ ↦ ⟨h1, h2, h3, h4, h5, h6, h7, h8, h9, h10,
      h11⟩, fun ⟨h1, h2, h3, h4, h5, h6, h7, h8, h9, h10, h11⟩ ↦ ⟨h1, h2, h3, h4, h5, h6, h7, h8, h9,
      h10, h11⟩⟩

/-- The dictionary of details, with the entries a message reads. -/
structure Details where
  service : Option String := none
  cause : Option String := none
  policyReason : Option String := none
  reason : Option String := none

/-- `a or b` of an optional text. -/
def orElse (text : Option String) (other : String) : String := (text.filter (· ≠ "")).getD other

/-- The last digits of a number to base 16, most significant first. -/
def hexDigits : Nat → Nat → List Char
  | 0, _ => []
  | width + 1, n => hexDigits width (n / 16) ++ [Nat.digitChar (n % 16)]

/-- `str(incident.id)`: 32 digits in five groups. -/
def uuidText (id : Nat) : String :=
  String.ofList (hexDigits 8 (id / 16 ^ 24) ++ '-' :: hexDigits 4 (id / 16 ^ 20) ++
    '-' :: hexDigits 4 (id / 16 ^ 16) ++ '-' :: hexDigits 4 (id / 16 ^ 12) ++
    '-' :: hexDigits 12 id)

/-- `f"{str(url).rstrip('/')}/incidents/{incident.id}"`. -/
def incidentUrl (url : String) (id : Nat) : String :=
  String.ofList (url.toList.reverse.dropWhile (· = '/')).reverse ++ "/incidents/" ++ uuidText id

/-- The message of an incident, `notifications/service.py:215`. -/
def messageOf (settings : Settings) (eventType : String) (id : Nat) (incident : Incident)
    (details : Details) : NotificationMessage where
  eventType := eventType
  title := incident.title
  correlationId := incident.correlationId
  severity := incident.severity
  service := orElse details.service incident.title
  environment := incident.environment.value
  cause := orElse details.cause (orElse incident.summary "Not yet established")
  riskScore := incident.riskScore
  policy := orElse details.policyReason (orElse details.reason "See policy audit")
  currentState := incident.state.value
  dashboardUrl := settings.teamsDashboardUrl.map (incidentUrl · id)

/-- `queue_incident_notification`, `notifications/service.py:199`; the rows it queues are read by
no modelled service. -/
def queueIncidentNotification (env : Env) (settings : Settings) (eventType : String)
    (incidentId : Nat) (details : Details) : Service Unit :=
  Exec.when (eventType ∈ settings.enabledNotificationEvents) do
    let incident ← loadIncident incidentId
    Exec.require (messageOf settings eventType incidentId incident details).Valid .validation
    flush env

end CloudWard.Notifications
