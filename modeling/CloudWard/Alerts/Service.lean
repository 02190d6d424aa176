import CloudWard.Notifications.Service
import CloudWard.Reliability.Workflow

/-!
# Alert ingestion

`alerts/service.py` and the Alertmanager webhook of `api/webhooks.py:46`. A delivery is
grouped under the alert record of its source and fingerprint; one with the payload of the
record only counts, a firing one without an open incident creates one. After the commit the
webhook enqueues a job for every delivered alert that is linked to an incident, whatever its
status.
-/

namespace CloudWard.Alerts

open CloudWard.Approvals CloudWard.Db CloudWard.Incidents CloudWard.Logic CloudWard.Remediation
  Service

/-- `NormalizedAlert`, `alerts/schemas.py:66`. -/
structure NormalizedAlert extends Reliability.NormalizedAlert where
  source : String := "prometheus"
  status : AlertStatus
  severity : String
  service : String
  environment : Environment
  startsAt : Nat
  endsAt : Option Nat := none
  annotations : Labels
  fingerprint : String
  payloadDigest : String
deriving DecidableEq

/-- `AlertIngestionResult`, `alerts/service.py:33`. -/
structure AlertIngestionResult where
  alertId : Nat
  incidentId : Option Nat
  duplicate : Bool
  createdIncident : Bool
  status : AlertStatus
deriving DecidableEq

/-- `ALERT_INCIDENT_TYPES`, `alerts/service.py:18`, with the default of its lookup. -/
def incidentTypeOf (alertName : String) : String :=
  ([("HighHTTPErrorRate", "reliability.bad-deployment"),
    ("HighCPUSaturation", "reliability.cpu-saturation"),
    ("ContainerOOMKilled", "reliability.memory-pressure"),
    ("WorkloadUnavailable", "reliability.platform-self-healing")].lookup alertName).getD
    "reliability.prometheus-alert"

/-- `annotations.get("summary") or annotations.get("description")`. -/
def summaryOf (annotations : Labels) : Option String :=
  ((annotations.lookup "summary").filter (· ≠ "")).or (annotations.lookup "description")

/-- The incident row of an alert, `alerts/service.py:94`. -/
def incidentRow (alert : NormalizedAlert) (correlationId : String) : Incident where
  correlationId := correlationId
  incidentType := incidentTypeOf alert.alertName
  title := alert.alertName ++ " on " ++ alert.service
  summary := summaryOf alert.annotations
  environment := alert.environment

/-- Set columns of an alert record. -/
def updateAlert (id : Nat) (f : AlertRecord → AlertRecord) : Service Unit :=
  write fun db ↦ { db with alerts := db.alerts.update id f }

/-- The details of the notification of a critical incident. -/
def criticalDetails (alert : NormalizedAlert) : Notifications.Details where
  service := some alert.service
  cause := alert.annotations.lookup "summary"

/-- The notification of a critical incident, `alerts/service.py:107`. -/
def notifyCritical (env : Env) (settings : Settings) (alert : NormalizedAlert)
    (incidentId : Nat) : Service Unit :=
  Exec.when (alert.severity.toLower = "critical")
    (Notifications.queueIncidentNotification env settings "critical_incident_detected" incidentId
      (criticalDetails alert))

/-- The incident of a delivery that is no duplicate, `alerts/service.py:86`, and whether it
was created. -/
def correlate (env : Env) (settings : Settings) (correlationId : String)
    (alert : NormalizedAlert) (linked : Option Nat) : Service (Option Nat × Bool) := do
  let incident ← match linked with
    | none => pure none
    | some id => query env fun db ↦ db.incidents[id]?.map fun incident ↦ (id, incident)
  if alert.status = .firing ∧ incident.all (·.2.state.isTerminal) then do
    let incidentId ← createIncident env (incidentRow alert correlationId) "alertmanager"
    updateIncident incidentId fun incident ↦ { incident with severity := alert.severity }
    notifyCritical env settings alert incidentId
    return (some incidentId, true)
  else return (incident.map (·.1), false)

/-- The row of a first delivery, `alerts/service.py:124`. -/
def alertRow (alert : NormalizedAlert) (incidentId : Option Nat) (now : Nat) : AlertRecord where
  incidentId := incidentId
  source := alert.source
  fingerprint := alert.fingerprint
  payloadDigest := alert.payloadDigest
  alertName := alert.alertName
  status := alert.status
  severity := alert.severity
  service := alert.service
  environment := alert.environment
  ns := alert.ns
  labels := alert.labels
  annotations := alert.annotations
  startsAt := alert.startsAt
  endsAt := alert.endsAt
  lastReceivedAt := now

/-- The columns a later delivery sets, `alerts/service.py:146`. -/
def withDelivery (alert : NormalizedAlert) (incidentId : Option Nat) (now : Nat)
    (record : AlertRecord) : AlertRecord :=
  { record with
    incidentId := incidentId.or record.incidentId
    payloadDigest := alert.payloadDigest
    status := alert.status
    severity := alert.severity
    labels := alert.labels
    annotations := alert.annotations
    endsAt := alert.endsAt
    lastReceivedAt := now
    repeatCount := record.repeatCount + 1 }

/-- The record of a delivery that is no duplicate, `alerts/service.py:123`. -/
def fileAlert (env : Env) (alert : NormalizedAlert) (existing : Option Nat)
    (incidentId : Option Nat) : Service Nat := do
  let now ← ask env.now
  match existing with
  | none => do
    let alertId ← Exec.read fun w ↦ w.db.alerts.fresh
    write fun db ↦ { db with alerts := db.alerts.insert (alertRow alert incidentId now) }
    flush env
    return alertId
  | some alertId => do
    updateAlert alertId (withDelivery alert incidentId now)
    return alertId

/-- A delivery with the payload of its record, `alerts/service.py:64`. -/
def countDuplicate (env : Env) (alertId : Nat) (record : AlertRecord) :
    Service AlertIngestionResult := do
  let now ← ask env.now
  updateAlert alertId fun record ↦
    { record with lastReceivedAt := now, repeatCount := record.repeatCount + 1 }
  -- the audit row's flush
  flush env
  return {
    alertId
    incidentId := record.incidentId
    duplicate := true
    createdIncident := false
    status := record.status }

/-- The event of a delivery that is no duplicate, `alerts/service.py:156`. -/
def alertEvent (alert : NormalizedAlert) (state : IncidentState) : IncidentEvent where
  eventType := if alert.status = .firing then "ALERT_RECEIVED" else "ALERT_RESOLVED"
  fromState := some state
  toState := some state
  actor := "alertmanager"

/-- An incident with the event of a delivery. -/
def withAlert (alert : NormalizedAlert) (incident : Incident) : Incident :=
  { incident with events := incident.events ++ [alertEvent alert incident.state] }

/-- The event and the audit row of a delivery, `alerts/service.py:155`. -/
def logAlert (env : Env) (alert : NormalizedAlert) : Option Nat → Service Unit
  | none => pure ()
  | some incidentId => do
    updateIncident incidentId (withAlert alert)
    -- the audit row's flush
    flush env

/-- `_ingest_one`, `alerts/service.py:53`. -/
def ingestOne (env : Env) (settings : Settings) (correlationId : String)
    (alert : NormalizedAlert) : Service AlertIngestionResult := do
  let existing ← query env fun db ↦ db.alerts.latest fun record ↦
    record.source = alert.source ∧ record.fingerprint = alert.fingerprint
  match existing.filter (·.2.payloadDigest = alert.payloadDigest) with
  | some (alertId, record) => countDuplicate env alertId record
  | none => do
    let (incidentId, created) ←
      correlate env settings correlationId alert (existing.bind (·.2.incidentId))
    let alertId ← fileAlert env alert (existing.map (·.1)) incidentId
    logAlert env alert incidentId
    return {
      alertId
      incidentId
      duplicate := false
      createdIncident := created
      status := alert.status }

/-- `ingest_alerts`, `alerts/service.py:42`. -/
def ingestAlerts (env : Env) (settings : Settings) (correlationId : String) :
    List NormalizedAlert → Service (List AlertIngestionResult)
  | [] => do
    flush env
    return []
  | alert :: alerts => do
    let result ← ingestOne env settings correlationId alert
    let results ← ingestAlerts env settings correlationId alerts
    return result :: results

/-- The arguments of `ALERT_TASK`, `AlertJobRequest` of `api/internal_reliability.py:65`. -/
structure AlertJob where
  incidentId : Nat
  alert : NormalizedAlert
  correlationId : String

/-- The jobs of a delivery, `api/webhooks.py:77`. -/
def jobsOf (correlationId : String) (alerts : List NormalizedAlert)
    (ingested : List AlertIngestionResult) : List AlertJob :=
  (ingested.zip alerts).filterMap fun (item, alert) ↦
    item.incidentId.map fun incidentId ↦ ⟨incidentId, alert, correlationId⟩

/-- `alertmanager_webhook` on an accepted payload, `api/webhooks.py:71`. -/
def alertmanagerWebhook (env : Env) (settings : Settings) (correlationId : String)
    (alerts : List NormalizedAlert) : Service (List AlertJob) := do
  let ingested ← ingestAlerts env settings correlationId alerts
  commit env
  return jobsOf correlationId alerts ingested

/-- `process_alert_job` up to its commit, `api/internal_reliability.py:104`. -/
def processAlertJob (env : Env) (settings : Settings) (runbooks : Runbooks.RunbookLoader)
    (job : AlertJob) : Service Reliability.ProcessingResult := do
  let incident ← query env (·.incidents[job.incidentId]?)
  match incident with
  | none => raise ⟨"INCIDENT_NOT_FOUND", "Incident was not found", 404⟩
  | some _ => do
    let result ← Reliability.process env settings runbooks job.incidentId
      job.alert.toNormalizedAlert
    commit env
    return result

end CloudWard.Alerts
