import CloudWard.ClusterAgent.Schemas
import CloudWard.Db.Models
import CloudWard.Logic.Table
import CloudWard.Notifications.Service
import CloudWard.Security.Redaction

/-!
# The intake of agent reports

`ingest_report` of `cluster_agent/service.py:40` in the steps of its transaction: the checks before
the lock of the cluster's row, the checks under it, the evidence for the incidents of one workload
after the other, and the rows the commit adds.
-/

namespace CloudWard.ClusterAgent

open CloudWard.Db CloudWard.Logic CloudWard.Security Python Redaction

/-- How a report travels: the texts of its times, its body, and the digest of a body. -/
structure Wire where
  times : Times
  body : AgentReport → List UInt8
  sha256 : List UInt8 → String

/-- The settings of the intake, `config.py:77`. -/
structure AgentSettings where
  clusterAgentClusterId : Option Uuid
  freshnessSeconds : Nat := 180
  freshnessSeconds_mem : 60 ≤ freshnessSeconds ∧ freshnessSeconds ≤ 600 := by decide

/-! ### Rows -/

/-- `Service`, `db/models.py:186`. -/
structure Service where
  id : Uuid
  clusterId : Uuid
  ns : String
  name : String
  deploymentName : String

/-- An incident with the columns that place it, `db/models.py:203`. -/
structure PlacedIncident extends Incident where
  clusterId : Option Uuid
  serviceId : Option Uuid
  createdAt : Nat

/-- `ClusterAgentState`, `cluster_agent/models.py:13`. -/
structure ClusterAgentState where
  clusterId : Uuid
  reportId : Uuid
  reportDigest : String
  observedAt : Nat
  receivedAt : Nat
  status : ReportStatus
  payload : Json

/-- `EvidenceType`, `evidence/types.py:4`. -/
inductive EvidenceType
  | kubernetesState
  | kubernetesEvent
  | healthCheck
  | metric
  | metricSummary
  | log
  | logSummary
  | trace
  | traceSummary
  | deployment
  | deploymentState
  | gitChange
  | securityEvent
  | finops

/-- `EvidenceSnapshot`, `db/models.py:273`. -/
structure EvidenceSnapshot where
  incidentId : Nat
  correlationId : String
  collectedBy : String
  createdAt : Nat
  evidenceType : EvidenceType
  summary : String
  query : Option String := none
  windowStart : Option Nat := none
  windowEnd : Option Nat := none
  payload : Json

/-- What a report's evidence for an incident is made from, `cluster_agent/service.py:200`. -/
structure Batch where
  report : AgentReport
  workload : WorkloadReport
  incidentId : Nat
  correlationId : String
  createdAt : Nat

/-- A row of `StreamEvent`. -/
structure StreamRow where
  eventType : String
  incidentId : Option Nat
  payload : Json

/-- A row of `AuditEvent`. -/
structure AuditRow where
  eventType : String
  correlationId : String
  result : String
  metadata : Json

/-- The tables that the intake only reads, or does not read at all. -/
structure Inventory where
  clusters : List Uuid
  services : List Service
  incidents : Table PlacedIncident
  proposals : Table ActionProposal
  executions : Table ActionExecution

/-- The committed rows. The evidence is what others collected and the batches of reports. -/
structure Rows where
  inventory : Inventory
  agentStates : List ClusterAgentState := []
  collected : List EvidenceSnapshot
  batches : List Batch := []
  stream : List StreamRow := []
  audits : List AuditRow := []

/-! ### Errors -/

/-- `cluster_agent/service.py:45`. -/
def clusterDenied : CloudWardError :=
  ⟨"AGENT_CLUSTER_DENIED", "Agent identity is not authorized for this cluster", 403⟩

/-- `cluster_agent/service.py:52`. -/
def reportStale : CloudWardError :=
  ⟨"AGENT_REPORT_STALE", "Report is stale or its clock is ahead", 422⟩

/-- `cluster_agent/service.py:60`. -/
def clusterNotFound : CloudWardError :=
  ⟨"CLUSTER_NOT_FOUND", "Register the cluster before enabling its agent", 404⟩

/-- `cluster_agent/service.py:67`. -/
def reportConflict : CloudWardError :=
  ⟨"AGENT_REPORT_CONFLICT", "Report ID was reused with different content", 409⟩

/-- `cluster_agent/service.py:80`. -/
def reportOutOfOrder : CloudWardError :=
  ⟨"AGENT_REPORT_OUT_OF_ORDER", "An older observation cannot replace current evidence", 409⟩

/-- `cluster_agent/service.py:86`. -/
def reportRateLimited : CloudWardError :=
  ⟨"AGENT_REPORT_RATE_LIMITED", "At most one report per ten seconds is accepted", 429⟩

/-- `cluster_agent/service.py:100`. -/
def targetDenied : CloudWardError :=
  ⟨"AGENT_TARGET_DENIED", "Agent may report only registered workload targets", 403⟩

/-- `cluster_agent/service.py:115`. -/
def reportTooLarge : CloudWardError :=
  ⟨"AGENT_REPORT_TOO_LARGE", "Normalized report exceeded its byte bound", 413⟩

/-! ### Before the lock -/

section Intake

variable (u : Unicode) (wire : Wire) (settings : AgentSettings)

/-- The checks before the cluster's row is locked, `cluster_agent/service.py:44`. -/
def checkArrival (report : AgentReport) (current : Nat) : Except CloudWardError Unit :=
  if some report.clusterId ≠ settings.clusterAgentClusterId then .error clusterDenied
  else if current + 30 * second < report.observedAt.instant then .error reportStale
  else if report.observedAt.instant + settings.freshnessSeconds * second < current then
    .error reportStale
  else .ok ()

/-! ### Under the lock -/

/-- The row of a cluster. -/
def Rows.stateOf (rows : Rows) (cluster : Uuid) : Option ClusterAgentState :=
  rows.agentStates.find? (·.clusterId = cluster)

/-- `digest`, `cluster_agent/service.py:64`. -/
def digest (report : AgentReport) : String := wire.sha256 (wire.body report)

/-- The checks against the last report, `cluster_agent/service.py:65`. A repeated report is
answered, and nothing else is done. -/
def checkState (report : AgentReport) (current : Nat) :
    Option ClusterAgentState → Except CloudWardError (Option AgentReceipt)
  | none => .ok none
  | some state =>
    if state.reportId = report.reportId then
      if state.reportDigest ≠ digest wire report then .error reportConflict
      else .ok (some ⟨report.reportId, true, 0, state.status⟩)
    else if report.observedAt.instant ≤ state.observedAt then .error reportOutOfOrder
    else if current < state.receivedAt + 10 * second then .error reportRateLimited
    else .ok none

/-- The service of a target among the registered ones, `cluster_agent/service.py:93`. -/
def serviceOf (registered : List Service) (target : AgentTarget) : Option Service :=
  registered.reverse.find? fun service ↦ service.ns = target.ns.text ∧
    service.name = target.service.text ∧ service.deploymentName = target.deployment.text

/-- `status`, `cluster_agent/service.py:104`. -/
def reportStatus (report : AgentReport) : ReportStatus :=
  if report.workloads.any fun workload ↦ workload.errors ≠ [] then .degraded else .connected

/-- `connection_status`, `cluster_agent/service.py:32`. -/
def connectionStatus (state : ClusterAgentState) (current : Nat) : String :=
  if state.observedAt ≤ current + 30 * second ∧
      current ≤ state.observedAt + settings.freshnessSeconds * second then state.status.text
  else "STALE"

/-- The transaction of a report that passed its checks. -/
structure Running where
  report : AgentReport
  current : Nat
  /-- The row of the cluster as the commit leaves it. -/
  state : ClusterAgentState
  previousStatus : Option String
  registered : List Service
  /-- The workloads whose incidents were not looked at yet. -/
  remaining : List WorkloadReport
  /-- The evidence that is added. -/
  batches : List Batch := []

/-- The row of the cluster, `cluster_agent/service.py:122`. -/
def newState (report : AgentReport) (current : Nat) : ClusterAgentState where
  clusterId := report.clusterId
  reportId := report.reportId
  reportDigest := digest wire report
  observedAt := report.observedAt.instant
  receivedAt := current
  status := reportStatus report
  payload := redact u (report.dump wire.times)

/-- The checks under the lock and the first change, `cluster_agent/service.py:55`. -/
def openReport (rows : Rows) (report : AgentReport) (current : Nat) :
    Except CloudWardError (AgentReceipt ⊕ Running) :=
  if report.clusterId ∉ rows.inventory.clusters then .error clusterNotFound
  else
    match checkState wire report current (rows.stateOf report.clusterId) with
    | .error e => .error e
    | .ok (some receipt) => .ok (.inl receipt)
    | .ok none =>
      let registered := rows.inventory.services.filter (·.clusterId = report.clusterId)
      if report.workloads.any fun workload ↦ (serviceOf registered workload.target).isNone then
        .error targetDenied
      else if 524288 < (redact u (report.dump wire.times)).dumps.length then .error reportTooLarge
      else
        .ok (.inr {
          report, current
          state := newState u wire report current
          previousStatus :=
            (rows.stateOf report.clusterId).map fun state ↦ connectionStatus settings state current
          registered
          remaining := report.workloads })

/-! ### Evidence -/

/-- `COLLECTOR`, `cluster_agent/service.py:24`. -/
def collector : String := "cloudward-cluster-agent"

/-- `provenance`, `cluster_agent/service.py:213`. -/
def provenance (batch : Batch) : List (String × Json) :=
  [("report_id", .str batch.report.reportId.text),
    ("observed_at", .str (wire.times.isoformat batch.report.observedAt)),
    ("target", batch.workload.target.dump), ("source", .str collector)]

/-- `kinds`, `cluster_agent/service.py:235`. -/
def Provider.kind : Provider → EvidenceType
  | .prometheus => .metricSummary
  | .loki => .logSummary
  | .tempo => .traceSummary

/-- The deployment state, `cluster_agent/service.py:219`. -/
def stateEvidence (batch : Batch) : EvidenceSnapshot where
  incidentId := batch.incidentId
  correlationId := batch.correlationId
  collectedBy := collector
  createdAt := batch.createdAt
  evidenceType := .kubernetesState
  summary := "Agent-observed deployment state; not an authorization or verification result"
  windowEnd := some batch.report.observedAt.instant
  payload := redact u (.dict (provenance wire batch ++
    [("deployment", orNull (batch.workload.deployment.map DeploymentObservation.dump)),
      ("collection_errors", .list (batch.workload.errors.map .str))]))

/-- A telemetry result, `cluster_agent/service.py:241`. -/
def telemetryEvidence (batch : Batch) (item : TelemetryResult) : EvidenceSnapshot where
  incidentId := batch.incidentId
  correlationId := batch.correlationId
  collectedBy := collector
  createdAt := batch.createdAt
  evidenceType := item.provider.kind
  summary := "Bounded agent " ++ item.provider.text ++ " observation"
  query := some (redactText u item.query)
  windowStart := some item.window.start.instant
  windowEnd := some item.window.end.instant
  payload := redact u (.dict (provenance wire batch ++
    [("samples", item.samplesDump), ("truncated", .bool item.truncated)]))

/-- The cost of a workload, `cluster_agent/service.py:254`. -/
def costEvidence (batch : Batch) (cost : Json) : EvidenceSnapshot where
  incidentId := batch.incidentId
  correlationId := batch.correlationId
  collectedBy := collector
  createdAt := batch.createdAt
  evidenceType := .finops
  summary := "Agent-observed OpenCost allocation; not an estimated saving"
  windowEnd := some batch.report.observedAt.instant
  payload := .dict (provenance wire batch ++ [("allocation", cost)])

/-- `add_incident_evidence`, `cluster_agent/service.py:200`. -/
def incidentEvidence (batch : Batch) : List EvidenceSnapshot :=
  stateEvidence u wire batch :: batch.workload.telemetry.map (telemetryEvidence u wire batch) ++
    (batch.workload.cost.map (costEvidence wire batch)).toList

/-- The evidence a transaction sees: the committed rows and those it added. -/
def evidenceSeen (rows : Rows) (added : List Batch) : List EvidenceSnapshot :=
  rows.collected ++ (rows.batches ++ added).flatMap (incidentEvidence u wire)

/-- The incidents of a service that are not resolved, the newest 20, `cluster_agent/service.py:132`. -/
def activeIncidents (incidents : Table PlacedIncident) (cluster service : Uuid) :
    List (PlacedIncident × Nat) :=
  ((incidents.zipIdx.filter fun row ↦ row.1.clusterId = some cluster ∧
    row.1.serviceId = some service ∧ row.1.state ≠ .resolved).mergeSort
      fun row row' ↦ row'.1.createdAt ≤ row.1.createdAt).take 20

/-- `latest`, `cluster_agent/service.py:147`. -/
def latest (evidence : List EvidenceSnapshot) (incident : Nat) : Option Nat :=
  ((evidence.filter fun row ↦ row.incidentId = incident ∧ row.collectedBy = collector).map
    (·.createdAt)).max?

/-- The last evidence for an incident is a minute old, `cluster_agent/service.py:162`. -/
def due (evidence : List EvidenceSnapshot) (current : Nat) (row : PlacedIncident × Nat) : Bool :=
  match latest evidence row.2 with
  | none => true
  | some previous => previous + 60 * second ≤ current

/-- The evidence a workload adds, `cluster_agent/service.py:129`. -/
def workloadBatches (rows : Rows) (running : Running) (workload : WorkloadReport) : List Batch :=
  match serviceOf running.registered workload.target with
  | none => []
  | some service =>
    let evidence := evidenceSeen u wire rows running.batches
    let incidents :=
      activeIncidents rows.inventory.incidents running.report.clusterId service.id
    (incidents.filter (due evidence running.current)).map fun row ↦
      { report := running.report, workload, incidentId := row.2
        correlationId := row.1.correlationId, createdAt := running.current }

/-- The next workload. -/
def attach (rows : Rows) (running : Running) : Running :=
  match running.remaining with
  | [] => running
  | workload :: rest =>
    { running with
      remaining := rest
      batches := running.batches ++ workloadBatches u wire rows running workload }

/-! ### The commit -/

/-- `append_stream_event`, `events/service.py:17`. -/
def streamRow (eventType : String) (incident : Option Nat) (payload : List (String × Json)) :
    StreamRow :=
  ⟨eventType, incident, redact u (.dict (
    [("type", .str eventType), ("event_type", .str eventType),
      ("incident_id", Json.ofOption (incident.map Notifications.uuidText))] ++ payload))⟩

/-- The stream events of a report, `cluster_agent/service.py:167`. -/
def Running.stream (running : Running) : List StreamRow :=
  (running.batches.map fun batch ↦ streamRow u "incident.evidence_added" (some batch.incidentId)
    [("source", .str collector), ("report_id", .str running.report.reportId.text)]) ++
  [streamRow u "cluster.observation" none
    [("cluster_id", .str running.report.clusterId.text),
      ("observed_at", .str (wire.times.isoformat running.report.observedAt)),
      ("status", .str running.state.status.text)]]

/-- The audit of a change of status, `cluster_agent/service.py:173`. -/
def Running.audits (running : Running) : List AuditRow :=
  let status := running.state.status.text
  if running.previousStatus = some status then []
  else
    [⟨"CLUSTER_AGENT_STATUS_CHANGED", running.report.reportId.text, status, redact u (.dict
      [("cluster_id", .str running.report.clusterId.text),
        ("previous_status", Json.ofOption running.previousStatus), ("status", .str status)])⟩]

/-- The row of a cluster is changed, or added. -/
def putState (states : List ClusterAgentState) (state : ClusterAgentState) :
    List ClusterAgentState :=
  if states.any (·.clusterId = state.clusterId) then
    states.map fun old ↦ if old.clusterId = state.clusterId then state else old
  else states ++ [state]

/-- The rows after the commit. -/
def Rows.commit (rows : Rows) (running : Running) : Rows :=
  { rows with
    agentStates := putState rows.agentStates running.state
    batches := rows.batches ++ running.batches
    stream := rows.stream ++ running.stream u wire
    audits := rows.audits ++ running.audits u }

/-- The receipt of a report. -/
def Running.receipt (running : Running) : AgentReceipt :=
  ⟨running.report.reportId, false, running.batches.length, running.state.status⟩

end Intake

/-! ### The agent -/

/-- How an attempt of `publish` ends: a receipt, another status, or no answer that can be read. -/
inductive Delivery
  | accepted (receipt : AgentReceipt)
  | status (code : Nat)
  | unavailable

/-- The attempts of `publish` that are left, and the number of bodies sent,
`cluster_agent/runtime.py:39`. -/
def publishFrom (report : AgentReport) (answers : Nat → Delivery) : Nat → Nat × Bool
  | 0 => (0, false)
  | left + 1 =>
    match answers (2 - left) with
    | .accepted receipt => (1, receipt.reportId = report.reportId)
    | .status code =>
      if code < 500 ∧ code ∉ [408, 429] then (1, false)
      else
        let rest := publishFrom report answers left
        (rest.1 + 1, rest.2)
    | .unavailable =>
      let rest := publishFrom report answers left
      (rest.1 + 1, rest.2)

/-- `ReportPublisher.publish`, `cluster_agent/runtime.py:34`. -/
def publish (wire : Wire) (report : AgentReport) (answers : Nat → Delivery) : Nat × Bool :=
  if 524288 < (wire.body report).length then (0, false) else publishFrom report answers 3

end CloudWard.ClusterAgent
