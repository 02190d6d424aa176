import CloudWard.Finops.Schemas
import CloudWard.Logic.Exec
import CloudWard.Verification.Multisignal

/-!
# The FinOps providers

`finops/providers.py`: what is read of the responses of OpenCost and Prometheus, for a workload.
How floats are rounded and what `float` makes of a text are parameters. Times are in microseconds.
-/

namespace CloudWard.Finops

open CloudWard.Logic

/-- A decoded JSON value of a response. -/
abbrev Decoded := Verification.Json Double

/-- The fields of an object. -/
abbrev Fields := List (String × Decoded)

/-- What the reading of a response raises: besides what is meant to be raised the `OverflowError`
of `float`, the `ValueError` or `OverflowError` of `datetime.fromtimestamp`, and pydantic's
`ValidationError`. -/
inductive ProviderError
  | cloudWard (error : CloudWardError)
  | arithmetic (error : ArithmeticError)
  | dateRange
  | validationError
deriving DecidableEq

/-- The exceptions that are a `CloudWardError`. -/
def ProviderError.isCloudWard : ProviderError → Bool
  | .cloudWard _ => true
  | _ => false

/-- The fields of a value that is an object. -/
def object? : Decoded → Option Fields
  | .object fields => some fields
  | _ => none

/-- `value.get(key)`. -/
def field (fields : Fields) (key : String) : Decoded := (fields.lookup key).getD .null

/-! ### Numbers -/

section Numbers

variable (R : Rounding) (ofString : String → Option Double)

/-- `float(value)`; `none` where it raises a `TypeError` or a `ValueError`. -/
def float : Decoded → Except ArithmeticError (Option Double)
  | .bool b => .ok (some (.finite (if b then 1 else 0)))
  | .int n => (R.ofInt n).map some
  | .number x => .ok (some x)
  | .string s => .ok (ofString s)
  | _ => .ok none

/-- `_number`, `finops/providers.py:35`. -/
def number (value : Decoded) : Except ProviderError (Option Double) :=
  ((float R ofString value).mapError .arithmetic).map
    (·.filter fun x ↦ x.isFinite ∧ .finite 0 ≤ x)

end Numbers

/-! ### OpenCost -/

/-- `finops/providers.py:180`. -/
def dataMissing : CloudWardError where
  code := "FINOPS_OPENCOST_DATA_MISSING"
  message := "OpenCost returned no allocation data for the requested window"
  statusCode := 409

/-- `finops/providers.py:197`. -/
def targetAmbiguous : CloudWardError where
  code := "FINOPS_OPENCOST_TARGET_AMBIGUOUS"
  message := "OpenCost did not return exactly one allocation for the fixed workload target"
  statusCode := 409

/-- `_allocations`, `finops/providers.py:177`. -/
def allocations (payload : Fields) : Except ProviderError (List (String × Fields)) :=
  match field payload "data" with
  | .list items =>
    match items.getLast?.bind object? with
    | some entries =>
      .ok (entries.filterMap fun entry ↦ (object? entry.2).map (entry.1, ·))
    | none => .error (.cloudWard dataMissing)
  | _ => .error (.cloudWard dataMissing)

/-- `deployment in name and (namespace in name or name == deployment)`. -/
def Matches (ns deployment name : String) : Prop :=
  deployment.toList <:+: name.toList ∧ (ns.toList <:+: name.toList ∨ name = deployment)

instance Matches.decidable (ns deployment name : String) : Decidable (Matches ns deployment name) :=
  inferInstanceAs (Decidable (_ ∧ _))

/-- `_find_allocation`, `finops/providers.py:187`. -/
def findAllocation (ns deployment : String) (payload : Fields) : Except ProviderError Fields := do
  let entries ← allocations payload
  match entries.filter fun entry ↦ Matches ns deployment entry.1 with
  | [entry] => return entry.2
  | _ => throw (.cloudWard targetAmbiguous)

private theorem usd_length : 3 ≤ "USD".length ∧ "USD".length ≤ 8 := by decide

/-- `CostAllocation(...)`. -/
def CostAllocation.create (totalCost cpuCost memoryCost : Option Double) :
    Except ProviderError CostAllocation :=
  if h : (∀ x ∈ totalCost, AtLeast 0 x) ∧ (∀ x ∈ cpuCost, AtLeast 0 x) ∧
      ∀ x ∈ memoryCost, AtLeast 0 x then
    .ok {
      totalCost, cpuCost, memoryCost
      totalCost_ge := h.1
      cpuCost_ge := h.2.1
      memoryCost_ge := h.2.2
      currency_length := usd_length }
  else .error .validationError

/-- The costs of an allocation, `finops/providers.py:139`. -/
def costOf (R : Rounding) (ofString : String → Option Double) (allocation : Fields) :
    Except ProviderError CostAllocation := do
  let totalCost ← number R ofString (field allocation "totalCost")
  let cpuCost ← number R ofString (field allocation "cpuCost")
  let memoryCost ← number R ofString (field allocation "ramCost")
  CostAllocation.create totalCost cpuCost memoryCost

/-- `workload_allocation`, `finops/providers.py:125`. -/
def workloadAllocation (R : Rounding) (ofString : String → Option Double) (ns deployment : String)
    (payload : Fields) : Except ProviderError CostAllocation := do
  let allocation ← findAllocation ns deployment payload
  costOf R ofString allocation

/-! ### Prometheus -/

/-- `finops/providers.py:427`. -/
def unsuccessful : CloudWardError where
  code := "FINOPS_PROMETHEUS_DATA_INVALID"
  message := "Prometheus returned an unsuccessful FinOps query response"
  statusCode := 502

/-- `finops/providers.py:433`. -/
def unexpectedType : CloudWardError where
  code := "FINOPS_PROMETHEUS_DATA_INVALID"
  message := "Prometheus returned an unexpected FinOps result type"
  statusCode := 502

/-- `finops/providers.py:363`. -/
def ambiguousValue : CloudWardError where
  code := "FINOPS_PROMETHEUS_DATA_AMBIGUOUS"
  message := "Prometheus did not return exactly one value for a FinOps input"
  statusCode := 409

/-- `finops/providers.py:370`. -/
def invalidValue : CloudWardError where
  code := "FINOPS_PROMETHEUS_DATA_INVALID"
  message := "Prometheus returned an invalid FinOps value"
  statusCode := 502

/-- `finops/providers.py:391`. -/
def ambiguousSeries : CloudWardError where
  code := "FINOPS_PROMETHEUS_DATA_AMBIGUOUS"
  message := "Prometheus did not return exactly one series for a FinOps input"
  statusCode := 409

/-- `finops/providers.py:398`. -/
def oversized : CloudWardError where
  code := "FINOPS_PROMETHEUS_DATA_INVALID"
  message := "Prometheus returned a missing or oversized FinOps series"
  statusCode := 502

/-- `finops/providers.py:412`. -/
def noSamples : CloudWardError where
  code := "FINOPS_PROMETHEUS_DATA_MISSING"
  message := "Prometheus returned no usable samples for a FinOps input"
  statusCode := 409

/-- The bound of a series, `config.py:189`. -/
structure SampleBound where
  maxSamples : Nat
  maxSamples_mem : 10 ≤ maxSamples ∧ maxSamples ≤ 5000

/-- `_result`, `finops/providers.py:424`. -/
def resultOf (expected : String) (payload : Fields) : Except ProviderError (List Fields) :=
  match field payload "status", field payload "data" with
  | .string status, .object data =>
    if status = "success" then
      match field data "resultType", field data "result" with
      | .string resultType, .list items =>
        if resultType = expected then .ok (items.filterMap object?)
        else .error (.cloudWard unexpectedType)
      | _, _ => .error (.cloudWard unexpectedType)
    else .error (.cloudWard unsuccessful)
  | _, _ => .error (.cloudWard unsuccessful)

/-- The value of the one series of a response, `finops/providers.py:352`. -/
def scalarOf (required : Bool) (payload : Fields) : Except ProviderError (Option Decoded) := do
  match ← resultOf "vector" payload with
  | [series] =>
    match field series "value" with
    | .list [_, value] => return some value
    | _ => throw (.cloudWard invalidValue)
  | [] => if required then throw (.cloudWard ambiguousValue) else return none
  | _ => throw (.cloudWard ambiguousValue)

/-- The points of the one series of a response, `finops/providers.py:377`. -/
def pointsOf (bound : SampleBound) (payload : Fields) : Except ProviderError (List Decoded) := do
  match ← resultOf "matrix" payload with
  | [series] =>
    match field series "values" with
    | .list raw => if bound.maxSamples < raw.length then throw (.cloudWard oversized) else return raw
    | _ => throw (.cloudWard oversized)
  | _ => throw (.cloudWard ambiguousSeries)

section Series

variable (R : Rounding) (ofString : String → Option Double)

/-- `instant_scalar`, `finops/providers.py:352`. -/
def instantScalar (required : Bool) (payload : Fields) : Except ProviderError (Option Double) := do
  match ← scalarOf required payload with
  | none => return none
  | some value =>
    match ← number R ofString value with
    | some x => return some x
    | none => throw (.cloudWard invalidValue)

/-- The microseconds of the year 10000. -/
def endOfDates : ℤ := 253402300800 * 10 ^ 6

/-- The microseconds of a timestamp that is not negative: the whole seconds, and the rest rounded. -/
def microsecondsOf (x : Double) : Except ArithmeticError ℤ := do
  let whole ← x.floor
  let fraction ← (R.mul (R.sub x (.finite whole)) (R.round (10 ^ 6))).nearest
  return whole * 10 ^ 6 + fraction

/-- `datetime.fromtimestamp(x, tz=UTC)`. -/
def fromTimestamp (x : Double) : Except ProviderError Nat := do
  let microseconds ← (microsecondsOf R x).mapError .arithmetic
  if microseconds < endOfDates then return microseconds.toNat else throw .dateRange

/-- A sample of a point, `finops/providers.py:404`. -/
def sampleOf (item : Decoded) : Except ProviderError (Option (Nat × Double)) := do
  match item with
  | .list [timestamp, value] =>
    match ← number R ofString timestamp, ← number R ofString value with
    | some timestamp, some value =>
      let time ← fromTimestamp R timestamp
      return some (time, value)
    | _, _ => return none
  | _ => return none

/-- The samples of points. -/
def samplesOf (raw : List Decoded) : Except ProviderError (List (Nat × Double)) := do
  let samples ← raw.mapM (sampleOf R ofString)
  return samples.reduceOption

/-- `UsageSeries(...)` of some samples, `finops/providers.py:417`. -/
def UsageSeries.ofSamples (samples : List (Nat × Double)) : Except ProviderError UsageSeries :=
  match samples.head?, samples.getLast? with
  | some first, some last =>
    if h : (samples.map (·.2)).length < 2 ^ 63 then
      .ok {
        values := samples.map (·.2)
        firstTimestamp := some first.1
        lastTimestamp := some last.1
        values_length := h }
    else .error .validationError
  | _, _ => .error (.cloudWard noSamples)

/-- `range_query`, `finops/providers.py:377`. -/
def rangeQuery (bound : SampleBound) (payload : Fields) : Except ProviderError UsageSeries := do
  let raw ← pointsOf bound payload
  let samples ← samplesOf R ofString raw
  UsageSeries.ofSamples samples

/-- The overlap of two series. -/
def overlap (first second : UsageSeries) : Option ℤ :=
  match first.firstTimestamp, first.lastTimestamp, second.firstTimestamp, second.lastTimestamp with
  | some firstStart, some firstEnd, some secondStart, some secondEnd =>
    some (min (firstEnd : ℤ) secondEnd - max (firstStart : ℤ) secondStart)
  | _, _, _, _ => none

/-- `round(timedelta.total_seconds())`. -/
def wholeSeconds (microseconds : ℤ) : Except ArithmeticError ℤ := do
  let seconds ← R.divInt microseconds (10 ^ 6)
  seconds.nearest

/-- `_overlap_seconds`, `finops/providers.py:441`. -/
def overlapSeconds (first second : UsageSeries) : Except ProviderError Nat :=
  match overlap first second with
  | some microseconds => ((wholeSeconds R microseconds).mapError .arithmetic).map Int.toNat
  | none => .ok 0

end Series

/-! ### Workloads -/

/-- The arguments of `collect_workload`, with the clock; the window is what `config.py:190`
allows. -/
structure WorkloadRequest where
  ns : String
  deployment : String
  podPattern : String
  environment : Environment
  windowSeconds : Nat
  now : Nat
  windowSeconds_mem : 900 ≤ windowSeconds ∧ windowSeconds ≤ 86400
  window_le : windowSeconds * 10 ^ 6 ≤ now

/-- The responses to the queries of `collect_workload`. -/
structure WorkloadResponses where
  cpuUsage : Fields
  memoryUsage : Fields
  cpuRequests : Fields
  memoryRequests : Fields
  cpuLimits : Fields
  memoryLimits : Fields
  replicas : Fields

/-- The pods of a query. -/
def WorkloadRequest.matcher (request : WorkloadRequest) : String :=
  "namespace=\"" ++ request.ns ++ "\",pod=~\"" ++ request.podPattern ++ "\""

/-- The queries, `finops/providers.py:270`. -/
def WorkloadRequest.queries (request : WorkloadRequest) : List (String × String) := [
  ("cpu_usage", "max(sum by (pod) (rate(container_cpu_usage_seconds_total\x7b" ++ request.matcher ++
    ",container!=\"\",image!=\"\"\x7d[5m])))"),
  ("memory_usage", "max(sum by (pod) (container_memory_working_set_bytes\x7b" ++ request.matcher ++
    ",container!=\"\",image!=\"\"\x7d))"),
  ("cpu_requests", "max(sum by (pod) (kube_pod_container_resource_requests\x7b" ++ request.matcher ++
    ",resource=\"cpu\",unit=\"core\"\x7d))"),
  ("memory_requests", "max(sum by (pod) (kube_pod_container_resource_requests\x7b" ++
    request.matcher ++ ",resource=\"memory\",unit=\"byte\"\x7d))"),
  ("cpu_limits", "max(sum by (pod) (kube_pod_container_resource_limits\x7b" ++ request.matcher ++
    ",resource=\"cpu\",unit=\"core\"\x7d))"),
  ("memory_limits", "max(sum by (pod) (kube_pod_container_resource_limits\x7b" ++ request.matcher ++
    ",resource=\"memory\",unit=\"byte\"\x7d))"),
  ("replicas", "kube_deployment_spec_replicas\x7bnamespace=\"" ++ request.ns ++ "\",deployment=\"" ++
    request.deployment ++ "\"\x7d")]

private theorem requested_ge (request : WorkloadRequest) : 60 ≤ request.windowSeconds := by
  have hmem := request.windowSeconds_mem
  omega

private theorem window_start_lt (request : WorkloadRequest) :
    request.now - request.windowSeconds * 10 ^ 6 < request.now := by
  have hmem := request.windowSeconds_mem
  have hle := request.window_le
  omega

/-- The evidence window, `finops/providers.py:296`. -/
def WorkloadRequest.window (request : WorkloadRequest) (observedSeconds sampleCount : Nat) :
    EvidenceWindow where
  start := request.now - request.windowSeconds * 10 ^ 6
  stop := request.now
  requestedSeconds := request.windowSeconds
  observedSeconds := observedSeconds
  sampleCount := sampleCount
  demoOriented := request.environment ≠ .production
  requestedSeconds_ge := requested_ge request
  start_lt := window_start_lt request

/-- `WorkloadObservation(...)`. -/
def WorkloadObservation.create (request : WorkloadRequest) (replicas : Nat)
    (cpuRequestCores : Double) (cpuLimitCores : Option Double) (memoryRequestBytes : Double)
    (memoryLimitBytes : Option Double) (cpuUsageCores memoryUsageBytes : UsageSeries)
    (allocation : CostAllocation) (window : EvidenceWindow) :
    Except ProviderError WorkloadObservation :=
  if h : Named request.deployment ∧ Named request.ns ∧ 1 ≤ replicas ∧ Above 0 cpuRequestCores ∧
      (∀ x ∈ cpuLimitCores, Above 0 x) ∧ Above 0 memoryRequestBytes ∧
        ∀ x ∈ memoryLimitBytes, Above 0 x then
    .ok {
      service := request.deployment
      environment := request.environment
      ns := request.ns
      deployment := request.deployment
      replicas, cpuRequestCores, cpuLimitCores, memoryRequestBytes, memoryLimitBytes
      cpuUsageCores, memoryUsageBytes, allocation, window
      sourceQueries := request.queries
      service_named := h.1
      ns_named := h.2.1
      deployment_named := h.1
      replicas_ge := h.2.2.1
      cpuRequestCores_gt := h.2.2.2.1
      cpuLimitCores_gt := h.2.2.2.2.1
      memoryRequestBytes_gt := h.2.2.2.2.2.1
      memoryLimitBytes_gt := h.2.2.2.2.2.2 }
  else .error .validationError

/-- `x or 0`. -/
def orZero (x : Option Double) : Double := x.getD (.finite 0)

section Workload

variable (R : Rounding) (ofString : String → Option Double) (bound : SampleBound)

/-- The observation of what was read, `finops/providers.py:282`. -/
def observe (request : WorkloadRequest) (allocation : CostAllocation)
    (cpuUsage memoryUsage : UsageSeries)
    (cpuRequests memoryRequests cpuLimits memoryLimits replicas : Option Double) :
    Except ProviderError WorkloadObservation := do
  let observedSeconds ← overlapSeconds R cpuUsage memoryUsage
  let count ← (orZero replicas).nearest.mapError .arithmetic
  WorkloadObservation.create request (max 1 count).toNat (orZero cpuRequests) cpuLimits
    (orZero memoryRequests) memoryLimits cpuUsage memoryUsage allocation
    (request.window observedSeconds (min cpuUsage.values.length memoryUsage.values.length))

/-- `collect_workload`, `finops/providers.py:256`; of the responses that are not read the first is
raised. -/
def collectWorkload (request : WorkloadRequest) (allocation : CostAllocation)
    (responses : WorkloadResponses) : Except ProviderError WorkloadObservation := do
  let cpuUsage ← rangeQuery R ofString bound responses.cpuUsage
  let memoryUsage ← rangeQuery R ofString bound responses.memoryUsage
  let cpuRequests ← instantScalar R ofString true responses.cpuRequests
  let memoryRequests ← instantScalar R ofString true responses.memoryRequests
  let cpuLimits ← instantScalar R ofString false responses.cpuLimits
  let memoryLimits ← instantScalar R ofString false responses.memoryLimits
  let replicas ← instantScalar R ofString true responses.replicas
  observe R request allocation cpuUsage memoryUsage cpuRequests memoryRequests cpuLimits
    memoryLimits replicas

/-- What `analyze_scenario` reads of a workload, `finops/service.py:86`. -/
def readWorkload (request : WorkloadRequest) (costs : Fields) (responses : WorkloadResponses) :
    Except ProviderError WorkloadObservation := do
  let allocation ← workloadAllocation R ofString request.ns request.deployment costs
  collectWorkload R ofString bound request allocation responses

end Workload

end CloudWard.Finops
