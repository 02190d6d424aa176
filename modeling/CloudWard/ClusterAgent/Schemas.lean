import CloudWard.Base.Json
import CloudWard.Base.Uuid

/-!
# Reports of a cluster agent

The bounded schemas of `cluster_agent/schemas.py` and the JSON a report is dumped to. A point in
time counts microseconds; the offset it was written with is kept, since its text shows it.
-/

namespace CloudWard.ClusterAgent

/-- A second, in microseconds. -/
def second : Nat := 1000000

/-- A `datetime` with a time zone. -/
structure Datetime where
  instant : Nat
  offset : Int
deriving DecidableEq

/-- The texts of times: `isoformat()`, and the text a model is dumped with. -/
structure Times where
  isoformat : Datetime → String
  dumped : Datetime → String

/-! ### Workloads -/

/-- `^[a-z0-9][a-z0-9.-]*$`, of 1 to 253 characters. -/
def isKubernetesName : List Char → Bool
  | [] => false
  | first :: rest =>
    (first.isLower || first.isDigit) && rest.length < 253 &&
      rest.all fun c ↦ c.isLower || c.isDigit || c == '.' || c == '-'

/-- `KubernetesName`, `cluster_agent/schemas.py:12`. -/
structure KubernetesName where
  text : String
  valid : isKubernetesName text.toList
deriving DecidableEq

/-- The namespaces an agent reports from. -/
inductive Namespace
  | staging
  | production
deriving DecidableEq

/-- The name of a namespace. -/
def Namespace.text : Namespace → String
  | .staging => "cloudward-staging"
  | .production => "cloudward-production"

/-- `AgentTarget`, `cluster_agent/schemas.py:17`. -/
structure AgentTarget where
  ns : Namespace
  service : KubernetesName
  deployment : KubernetesName
deriving DecidableEq

/-- The phases of a pod. -/
inductive PodPhase
  | pending
  | running
  | succeeded
  | failed
  | unknown

/-- The name of a phase. -/
def PodPhase.text : PodPhase → String
  | .pending => "Pending"
  | .running => "Running"
  | .succeeded => "Succeeded"
  | .failed => "Failed"
  | .unknown => "Unknown"

/-- `PodObservation`, `cluster_agent/schemas.py:24`. -/
structure PodObservation where
  name : KubernetesName
  phase : PodPhase
  ready : Bool
  restarts : Nat
  restarts_le : restarts ≤ 1000000

/-- `DeploymentObservation`, `cluster_agent/schemas.py:32`. -/
structure DeploymentObservation where
  generation : Nat
  observedGeneration : Nat
  desiredReplicas : Nat
  readyReplicas : Nat
  updatedReplicas : Nat
  pods : List PodObservation
  truncated : Bool := false
  generation_pos : 1 ≤ generation
  desiredReplicas_le : desiredReplicas ≤ 100000
  readyReplicas_le : readyReplicas ≤ 100000
  updatedReplicas_le : updatedReplicas ≤ 100000
  pods_le : pods.length ≤ 50

/-- `TelemetryWindow`, `observability/providers.py:19`. -/
structure TelemetryWindow where
  start : Datetime
  «end» : Datetime
  stepSeconds : Nat := 15
  stepSeconds_mem : 1 ≤ stepSeconds ∧ stepSeconds ≤ 300
  ordered : start.instant < «end».instant
  bounded : «end».instant ≤ start.instant + 3600 * second

/-- The providers of telemetry, `cluster_agent/schemas.py:57`. -/
inductive Provider
  | prometheus
  | loki
  | tempo

/-- The name of a provider. -/
def Provider.text : Provider → String
  | .prometheus => "prometheus"
  | .loki => "loki"
  | .tempo => "tempo"

/-- `TelemetryResult`, `observability/providers.py:37`, with the bounds of a report. -/
structure TelemetryResult where
  provider : Provider
  query : String
  window : TelemetryWindow
  samples : List (List (String × Json))
  truncated : Bool := false
  reference : Option String := none
  samples_le : samples.length ≤ 10
  query_le : query.length ≤ 2000

/-- `^[A-Z_]{1,64}$`. -/
def isErrorCode (text : List Char) : Bool :=
  1 ≤ text.length ∧ text.length ≤ 64 ∧ text.all fun c ↦ c.isUpper || c == '_'

/-- `WorkloadReport`, `cluster_agent/schemas.py:43`; `cost` is the dump of an allocation. -/
structure WorkloadReport where
  target : AgentTarget
  deployment : Option DeploymentObservation := none
  telemetry : List TelemetryResult := []
  cost : Option Json := none
  errors : List String := []
  telemetry_le : telemetry.length ≤ 5
  errors_le : errors.length ≤ 8
  errors_valid : ∀ error ∈ errors, isErrorCode error.toList
  observed : deployment = none → errors ≠ []

/-! ### Reports -/

/-- `AgentReport`, `cluster_agent/schemas.py:66`. -/
structure AgentReport where
  reportId : Uuid
  clusterId : Uuid
  observedAt : Datetime
  workloads : List WorkloadReport
  workloads_mem : 1 ≤ workloads.length ∧ workloads.length ≤ 4
  distinct : (workloads.map fun workload ↦ (workload.target.ns, workload.target.service)).Nodup
  windows : ∀ workload ∈ workloads, ∀ item ∈ workload.telemetry,
    item.window.end.instant ≤ observedAt.instant + 120 * second ∧
      observedAt.instant ≤ item.window.end.instant + 120 * second

/-- The status of an accepted report. -/
inductive ReportStatus
  | connected
  | degraded
deriving DecidableEq

/-- The text of a status. -/
def ReportStatus.text : ReportStatus → String
  | .connected => "CONNECTED"
  | .degraded => "DEGRADED"

/-- `AgentReceipt`, `cluster_agent/schemas.py:88`. -/
structure AgentReceipt where
  reportId : Uuid
  duplicate : Bool
  attachedIncidents : Nat
  status : ReportStatus
deriving DecidableEq

/-! ### Dumps -/

/-- `workload.target.model_dump()`. -/
def AgentTarget.dump (target : AgentTarget) : Json :=
  .dict [("namespace", .str target.ns.text), ("service", .str target.service.text),
    ("deployment", .str target.deployment.text)]

/-- The dump of a pod. -/
def PodObservation.dump (pod : PodObservation) : Json :=
  .dict [("name", .str pod.name.text), ("phase", .str pod.phase.text), ("ready", .bool pod.ready),
    ("restarts", .int pod.restarts)]

/-- `workload.deployment.model_dump()`. -/
def DeploymentObservation.dump (deployment : DeploymentObservation) : Json :=
  .dict [("generation", .int deployment.generation),
    ("observed_generation", .int deployment.observedGeneration),
    ("desired_replicas", .int deployment.desiredReplicas),
    ("ready_replicas", .int deployment.readyReplicas),
    ("updated_replicas", .int deployment.updatedReplicas),
    ("pods", .list (deployment.pods.map PodObservation.dump)),
    ("truncated", .bool deployment.truncated)]

/-- A dump, or `null` where there is nothing to dump. -/
def orNull : Option Json → Json
  | none => .null
  | some value => value

/-- The samples of a result. -/
def TelemetryResult.samplesDump (item : TelemetryResult) : Json := .list (item.samples.map .dict)

/-- The dump of a result. -/
def TelemetryResult.dump (times : Times) (item : TelemetryResult) : Json :=
  .dict [("provider", .str item.provider.text), ("query", .str item.query),
    ("window", .dict [("start", .str (times.dumped item.window.start)),
      ("end", .str (times.dumped item.window.end)), ("step_seconds", .int item.window.stepSeconds)]),
    ("samples", item.samplesDump), ("truncated", .bool item.truncated),
    ("reference", Json.ofOption item.reference)]

/-- The dump of a workload. -/
def WorkloadReport.dump (times : Times) (workload : WorkloadReport) : Json :=
  .dict [("target", workload.target.dump),
    ("deployment", orNull (workload.deployment.map DeploymentObservation.dump)),
    ("telemetry", .list (workload.telemetry.map (TelemetryResult.dump times))),
    ("cost", orNull workload.cost), ("errors", .list (workload.errors.map .str))]

/-- `report.model_dump(mode="json")`. -/
def AgentReport.dump (times : Times) (report : AgentReport) : Json :=
  .dict [("schema_version", .int 1), ("report_id", .str report.reportId.text),
    ("cluster_id", .str report.clusterId.text),
    ("observed_at", .str (times.dumped report.observedAt)),
    ("workloads", .list (report.workloads.map (WorkloadReport.dump times)))]

end CloudWard.ClusterAgent
