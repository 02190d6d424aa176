import CloudWard.Base.Dumps
import CloudWard.Logic.Doubles
import CloudWard.Remediation.Actions

/-!
# The schemas of the FinOps analysis

`finops/schemas.py`: the observations that `finops/engine.py` analyses, and its results. A bound of
a float is what pydantic checks: it refuses a number beyond the bound, and NaN is beyond none.
Times are in microseconds.
-/

namespace CloudWard.Finops

open CloudWard.Logic Json

/-- `Field(ge=bound)` and `Field(gt=bound)` of a float. -/
def AtLeast (bound : ℚ) (x : Double) : Prop := ¬ x < .finite bound

instance AtLeast.decidable (bound : ℚ) (x : Double) : Decidable (AtLeast bound x) :=
  inferInstanceAs (Decidable (¬ _))

/-- `Field(gt=bound)` of a float. -/
def Above (bound : ℚ) (x : Double) : Prop := ¬ x ≤ .finite bound

instance Above.decidable (bound : ℚ) (x : Double) : Decidable (Above bound x) :=
  inferInstanceAs (Decidable (¬ _))

/-- `EvidenceWindow`, `finops/schemas.py:11`. -/
structure EvidenceWindow where
  start : Nat
  stop : Nat
  requestedSeconds : Nat
  observedSeconds : Nat
  sampleCount : Nat
  demoOriented : Bool
  requestedSeconds_ge : 60 ≤ requestedSeconds
  start_lt : start < stop

/-- `UsageSeries`, `finops/schemas.py:28`; a tuple has fewer than `2 ^ 63` items. -/
structure UsageSeries where
  values : List Double
  firstTimestamp : Option Nat := none
  lastTimestamp : Option Nat := none
  values_length : values.length < 2 ^ 63

/-- `CostAllocation`, `finops/schemas.py:36`. -/
structure CostAllocation where
  totalCost : Option Double := none
  cpuCost : Option Double := none
  memoryCost : Option Double := none
  currency : String := "USD"
  totalCost_ge : ∀ x ∈ totalCost, AtLeast 0 x
  cpuCost_ge : ∀ x ∈ cpuCost, AtLeast 0 x
  memoryCost_ge : ∀ x ∈ memoryCost, AtLeast 0 x
  currency_length : 3 ≤ currency.length ∧ currency.length ≤ 8

/-- `min_length=1, max_length=253`. -/
def Named (text : String) : Prop := 1 ≤ text.length ∧ text.length ≤ 253

instance Named.decidable (text : String) : Decidable (Named text) :=
  inferInstanceAs (Decidable (_ ∧ _))

/-- `WorkloadObservation`, `finops/schemas.py:46`. -/
structure WorkloadObservation where
  service : String
  environment : Environment
  ns : String
  deployment : String
  replicas : Nat
  cpuRequestCores : Double
  cpuLimitCores : Option Double
  memoryRequestBytes : Double
  memoryLimitBytes : Option Double
  cpuUsageCores : UsageSeries
  memoryUsageBytes : UsageSeries
  allocation : CostAllocation
  window : EvidenceWindow
  sourceQueries : List (String × String)
  service_named : Named service
  ns_named : Named ns
  deployment_named : Named deployment
  replicas_ge : 1 ≤ replicas
  cpuRequestCores_gt : Above 0 cpuRequestCores
  cpuLimitCores_gt : ∀ x ∈ cpuLimitCores, Above 0 x
  memoryRequestBytes_gt : Above 0 memoryRequestBytes
  memoryLimitBytes_gt : ∀ x ∈ memoryLimitBytes, Above 0 x

/-- `NodeObservation`, `finops/schemas.py:65`. -/
structure NodeObservation where
  environment : Environment
  nodeCount : Nat
  allocatableCpuCores : Double
  allocatableMemoryBytes : Double
  requestedCpuCores : Double
  requestedMemoryBytes : Double
  cpuUsageCores : UsageSeries
  memoryUsageBytes : UsageSeries
  podCount : Nat
  allocation : CostAllocation
  window : EvidenceWindow
  sourceQueries : List (String × String)
  nodeCount_ge : 1 ≤ nodeCount
  allocatableCpuCores_gt : Above 0 allocatableCpuCores
  allocatableMemoryBytes_gt : Above 0 allocatableMemoryBytes
  requestedCpuCores_ge : AtLeast 0 requestedCpuCores
  requestedMemoryBytes_ge : AtLeast 0 requestedMemoryBytes

/-- `Percentiles`, `finops/schemas.py:83`. -/
structure Percentiles where
  p50 : Double
  p95 : Double
  p99 : Double
  p50_ge : AtLeast 0 p50
  p95_ge : AtLeast 0 p95
  p99_ge : AtLeast 0 p99

/-- The types of recommendations. -/
inductive RecommendationType
  | workloadRightsizing
  | nodeEfficiency
deriving DecidableEq

/-- `RecommendationDraft`, `finops/schemas.py:91`. -/
structure RecommendationDraft where
  recommendationType : RecommendationType
  service : String
  environment : Environment
  why : String
  currentConfig : Json
  recommendedConfig : Json
  evidence : Json
  estimatedSavings : Json
  riskScore : Int
  confidence : Double
  limitations : List String
  evidenceWindow : EvidenceWindow
  sourceFingerprint : String
  riskScore_mem : 0 ≤ riskScore ∧ riskScore ≤ 100
  confidence_ge : AtLeast 0 confidence
  confidence_le : ¬ .finite 1 < confidence
  sourceFingerprint_length : sourceFingerprint.length = 64

/-- The scenarios of an analysis. -/
inductive ScenarioId
  | overprovisionedWorkload
  | wastedNodeCapacity
deriving DecidableEq

/-- The outcomes of an analysis. -/
inductive Outcome
  | recommended
  | noRecommendation
  | insufficientData
deriving DecidableEq

/-- `AnalysisResult`, `finops/schemas.py:111`. -/
structure AnalysisResult where
  scenarioId : ScenarioId
  outcome : Outcome
  reason : String
  recommendation : Option RecommendationDraft := none
  observed : Json

/-! ### `model_dump(mode="json")` -/

/-- How floats and times are written, and SHA-256. -/
structure Formats where
  repr : Double → String
  isoformat : Nat → String
  sha256 : String → String
  sha256_length : ∀ text, (sha256 text).length = 64

section Dumps

variable (f : Formats)

/-- A float. -/
def Formats.float (x : Double) : Json := .float (f.repr x)

/-- A value, or `null`. -/
def orNull {α : Type} (dump : α → Json) : Option α → Json
  | none => .null
  | some a => dump a

/-- A count. -/
def count (n : Nat) : Json := .int n

def EvidenceWindow.dump (window : EvidenceWindow) : Json := .dict [
  ("start", .str (f.isoformat window.start)),
  ("end", .str (f.isoformat window.stop)),
  ("requested_seconds", count window.requestedSeconds),
  ("observed_seconds", count window.observedSeconds),
  ("sample_count", count window.sampleCount),
  ("demo_oriented", .bool window.demoOriented)]

def UsageSeries.dump (series : UsageSeries) : Json := .dict [
  ("values", .list (series.values.map f.float)),
  ("first_timestamp", orNull (fun time ↦ .str (f.isoformat time)) series.firstTimestamp),
  ("last_timestamp", orNull (fun time ↦ .str (f.isoformat time)) series.lastTimestamp)]

def CostAllocation.dump (allocation : CostAllocation) : Json := .dict [
  ("total_cost", orNull f.float allocation.totalCost),
  ("cpu_cost", orNull f.float allocation.cpuCost),
  ("memory_cost", orNull f.float allocation.memoryCost),
  ("currency", .str allocation.currency),
  ("model", .str "opencost-local")]

/-- The queries of an observation. -/
def queriesDump (queries : List (String × String)) : Json :=
  .dict (queries.map fun query ↦ (query.1, .str query.2))

def WorkloadObservation.dump (o : WorkloadObservation) : Json := .dict [
  ("service", .str o.service),
  ("environment", .str o.environment.value),
  ("namespace", .str o.ns),
  ("deployment", .str o.deployment),
  ("replicas", count o.replicas),
  ("cpu_request_cores", f.float o.cpuRequestCores),
  ("cpu_limit_cores", orNull f.float o.cpuLimitCores),
  ("memory_request_bytes", f.float o.memoryRequestBytes),
  ("memory_limit_bytes", orNull f.float o.memoryLimitBytes),
  ("cpu_usage_cores", o.cpuUsageCores.dump f),
  ("memory_usage_bytes", o.memoryUsageBytes.dump f),
  ("allocation", o.allocation.dump f),
  ("window", o.window.dump f),
  ("source_queries", queriesDump o.sourceQueries)]

def NodeObservation.dump (o : NodeObservation) : Json := .dict [
  ("environment", .str o.environment.value),
  ("node_count", count o.nodeCount),
  ("allocatable_cpu_cores", f.float o.allocatableCpuCores),
  ("allocatable_memory_bytes", f.float o.allocatableMemoryBytes),
  ("requested_cpu_cores", f.float o.requestedCpuCores),
  ("requested_memory_bytes", f.float o.requestedMemoryBytes),
  ("cpu_usage_cores", o.cpuUsageCores.dump f),
  ("memory_usage_bytes", o.memoryUsageBytes.dump f),
  ("pod_count", count o.podCount),
  ("allocation", o.allocation.dump f),
  ("window", o.window.dump f),
  ("source_queries", queriesDump o.sourceQueries)]

def Percentiles.dump (p : Percentiles) : Json := .dict [
  ("p50", f.float p.p50),
  ("p95", f.float p.p95),
  ("p99", f.float p.p99)]

end Dumps

end CloudWard.Finops
