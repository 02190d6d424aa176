import CloudWard.Finops.Schemas
import CloudWard.Base.Dumps

/-!
# The FinOps engine

`finops/engine.py`: what is recommended for a workload and for the nodes of a cluster. How floats
are rounded and written is a parameter, and an integer next to a float becomes one, except in a
comparison, which is exact.
-/

namespace CloudWard.Finops

open CloudWard.Logic Json

/-- `MIB`, `finops/engine.py:20`. -/
def mib : ℤ := 1024 * 1024

/-- `FinOpsPolicy`, `finops/engine.py:24`. -/
structure FinOpsPolicy where
  cpuHeadroomFactor : Double
  memoryHeadroomFactor : Double
  minimumCpuCores : Double
  minimumMemoryBytes : ℤ := 64 * mib
  minimumReductionFraction : Double
  minimumSamples : ℤ := 5
  minimumDemoWindowSeconds : ℤ := 900
  minimumProductionWindowSeconds : ℤ := 604800
  minimumCoverage : Double
  nodeRequestUtilizationThreshold : Double
  nodeActualUtilizationThreshold : Double

/-- The default values of the policy. -/
def FinOpsPolicy.default (R : Rounding) : FinOpsPolicy where
  cpuHeadroomFactor := R.round (15 / 10)
  memoryHeadroomFactor := R.round (135 / 100)
  minimumCpuCores := R.round (5 / 100)
  minimumReductionFraction := R.round (20 / 100)
  minimumCoverage := R.round (80 / 100)
  nodeRequestUtilizationThreshold := R.round (45 / 100)
  nodeActualUtilizationThreshold := R.round (35 / 100)

/-- What an analysis raises. -/
inductive AnalysisError
  | arithmetic (error : ArithmeticError)
  | indexError
  | valueError (message : String)
  | validationError
deriving DecidableEq

/-- The result of arithmetic. -/
def computed {α : Type} (result : Except ArithmeticError α) : Except AnalysisError α :=
  result.mapError .arithmetic

/-! ### Numbers -/

/-- A float or an integer. -/
inductive Number
  | float (x : Double)
  | int (n : ℤ)
deriving DecidableEq

namespace Number

/-- What comparisons compare. -/
def value : Number → Double
  | .float x => x
  | .int n => .finite n

/-- `min(x, y)`. -/
def min (x y : Number) : Number := if y.value < x.value then y else x

/-- `max(x, y)`. -/
def max (x y : Number) : Number := if x.value < y.value then y else x

/-- The float that arithmetic takes. -/
def asFloat (R : Rounding) : Number → Except ArithmeticError Double
  | .float x => .ok x
  | .int n => R.ofInt n

/-- `x / n`. -/
def divInt (R : Rounding) (x : Number) (n : ℤ) : Except ArithmeticError Double :=
  match x with
  | .float x => R.ofInt n >>= R.div x
  | .int m => R.divInt m n

/-- A number in JSON. -/
def dump (f : Formats) : Number → Json
  | .float x => f.float x
  | .int n => .int n

end Number

/-! ### Quantiles -/

/-- The finite non-negative values of a series. -/
def usable (values : List Double) : List ℚ :=
  values.filterMap fun
    | .finite q => if 0 ≤ q then some q else none
    | _ => none

/-- `xs[i]`. -/
def item (xs : List ℚ) (i : ℤ) : Except AnalysisError Double :=
  let at_ := if i < 0 then i + xs.length else i
  if at_ < 0 then .error .indexError
  else
    match xs[at_.toNat]? with
    | some q => .ok (.finite q)
    | none => .error .indexError

section Engine

variable (R : Rounding)

/-- `_quantile`, `finops/engine.py:38`. -/
def quantile (values : List Double) (q : Double) : Except AnalysisError Double :=
  let ordered := (usable values).mergeSort
  if ordered = [] then .error (.valueError "usage series has no finite non-negative values")
  else do
    let size ← computed (R.ofInt (ordered.length - 1))
    let position := R.mul size q
    let lower ← computed position.floor
    let upper ← computed position.ceil
    if lower = upper then item ordered lower
    else do
      let low ← item ordered lower
      let high ← item ordered upper
      let below ← computed (R.ofInt lower)
      return R.add low (R.mul (R.sub high low) (R.sub position below))

/-- `_percentiles`, `finops/engine.py:50`. -/
def percentiles (series : UsageSeries) : Except AnalysisError Percentiles := do
  let p50 ← quantile R series.values (R.round (50 / 100))
  let p95 ← quantile R series.values (R.round (95 / 100))
  let p99 ← quantile R series.values (R.round (99 / 100))
  if h : AtLeast 0 p50 ∧ AtLeast 0 p95 ∧ AtLeast 0 p99 then
    return { p50, p95, p99, p50_ge := h.1, p95_ge := h.2.1, p99_ge := h.2.2 }
  else
    throw .validationError

/-- `_round_cpu_up`, `finops/engine.py:58`. -/
def roundCpuUp (value : Double) : Except ArithmeticError Double := do
  let hundredths ← (R.mul value (R.round 100)).ceil
  R.divInt hundredths 100

/-- `_round_memory_up`, `finops/engine.py:62`. -/
def roundMemoryUp (value : Number) : Except ArithmeticError ℤ := do
  let quotient ← value.divInt R mib
  let mebibytes ← quotient.ceil
  return mebibytes * mib

/-! ### Fingerprints -/

/-- An integer that `str` and `json.dumps` write: it has at most 4300 digits. -/
def Printable (n : ℤ) : Prop := n.natAbs < 10 ^ 4300

instance Printable.decidable (n : ℤ) : Decidable (Printable n) :=
  inferInstanceAs (Decidable (_ < _))

/-- What `str` and `json.dumps` say of another. -/
def tooManyDigits : AnalysisError := .valueError
  "Exceeds the limit (4300 digits) for integer string conversion; use sys.set_int_max_str_digits() to increase the limit"

/-- The integers of a value. -/
def ints : Json → List ℤ
  | .int n => [n]
  | .list items => itemInts items
  | .dict entries => entryInts entries
  | _ => []
where
  /-- Of the items of a list. -/
  itemInts : List Json → List ℤ
    | [] => []
    | item :: rest => ints item ++ itemInts rest
  /-- Of the entries of an object. -/
  entryInts : List (String × Json) → List ℤ
    | [] => []
    | (_, value) :: rest => ints value ++ entryInts rest

/-- `_digest`, `finops/engine.py:66`. -/
def engineDigest (f : Formats) (payload : Json) : Except AnalysisError String :=
  if ∀ n ∈ ints payload, Printable n then .ok (f.sha256 (String.ofList (compact (sorted payload))))
  else .error tooManyDigits

/-! ### The evidence window -/

variable (policy : FinOpsPolicy)

/-- The seconds that an environment's window must have. -/
def FinOpsPolicy.required (environment : Environment) : ℤ :=
  if environment = .production then policy.minimumProductionWindowSeconds
  else policy.minimumDemoWindowSeconds

/-- `_window_problem`, `finops/engine.py:347`. -/
def windowProblem (environment : Environment) (requestedSeconds observedSeconds sampleCount : Nat) :
    Except AnalysisError (Option String) :=
  let required := policy.required environment
  if requestedSeconds < required then
    if Printable required then
      .ok (some ("The requested observation window is below the " ++ toString required ++
        "-second minimum."))
    else .error tooManyDigits
  else do
    let requested ← computed (R.ofInt requestedSeconds)
    if .finite observedSeconds < R.mul requested policy.minimumCoverage then
      return some "Observed samples do not cover enough of the requested evidence window."
    else if sampleCount < policy.minimumSamples then
      return some "Too few utilization samples were observed for a safe recommendation."
    else return none

/-- The samples that are counted. -/
def sampleCount (cpu memory : UsageSeries) : Nat := min cpu.values.length memory.values.length

/-! ### Workloads -/

/-- `1 - recommended / request`. -/
def reduction (recommended request : Double) : Except ArithmeticError Double := do
  let ratio ← R.div recommended request
  return R.sub (.finite 1) ratio

/-- The recommended amount and its reduction, or the request where the reduction is too small. -/
def unlessSmall {α : Type} (request recommended : α) (reduction : Double) : α × Double :=
  if reduction < policy.minimumReductionFraction then (request, .finite 0)
  else (recommended, reduction)

/-- The CPU that the usage needs, `finops/engine.py:100`. -/
def cpuNeeded (cpu : Percentiles) : Except ArithmeticError Double :=
  roundCpuUp R (Double.max (R.mul cpu.p95 policy.cpuHeadroomFactor) policy.minimumCpuCores)

/-- The memory that the usage needs, `finops/engine.py:106`. -/
def memoryNeeded (memory : Percentiles) : Except ArithmeticError ℤ :=
  roundMemoryUp R (Number.max (.float (R.mul memory.p95 policy.memoryHeadroomFactor))
    (.int policy.minimumMemoryBytes))

/-- The amounts that are recommended, and how much less they are. -/
structure Sizing where
  cpu : Percentiles
  memory : Percentiles
  recommendedCpu : Double
  recommendedMemory : Number
  cpuReduction : Double
  memoryReduction : Double

/-- What is recommended for a workload, `finops/engine.py:96`. -/
def sizing (o : WorkloadObservation) : Except AnalysisError Sizing := do
  let cpu ← percentiles R o.cpuUsageCores
  let memory ← percentiles R o.memoryUsageBytes
  let cpuUp ← computed (cpuNeeded R policy cpu)
  let recommendedCpu := Double.min o.cpuRequestCores cpuUp
  let memoryUp ← computed (memoryNeeded R policy memory)
  let recommendedMemory := Number.min (.float o.memoryRequestBytes) (.int memoryUp)
  let cpuReduction ← computed (reduction R recommendedCpu o.cpuRequestCores)
  let memoryAmount ← computed (recommendedMemory.asFloat R)
  let memoryReduction ← computed (reduction R memoryAmount o.memoryRequestBytes)
  let cpuKept := unlessSmall policy o.cpuRequestCores recommendedCpu cpuReduction
  let memoryKept :=
    unlessSmall policy (.float o.memoryRequestBytes) recommendedMemory memoryReduction
  return {
    cpu, memory
    recommendedCpu := cpuKept.1
    recommendedMemory := memoryKept.1
    cpuReduction := cpuKept.2
    memoryReduction := memoryKept.2 }

/-- The confidence in a recommendation for a workload, `finops/engine.py:136`. -/
def workloadConfidence (o : WorkloadObservation) : Except ArithmeticError Double := do
  let ratio ← R.divInt o.window.observedSeconds o.window.requestedSeconds
  let coverage := Double.min (.finite 1) ratio
  let completeness := if o.allocation.totalCost.isSome then .finite 1 else R.round (85 / 100)
  return R.roundTo 2 (Double.min (R.round (99 / 100)) (R.mul coverage completeness))

/-- The sum that the risk score rounds, `finops/engine.py:145`. -/
def riskSum (reduction confidence : Double) (environment : Environment) : Double :=
  R.add (R.add (R.add (R.round 10) (R.mul reduction (R.round 35)))
    (R.mul (R.sub (.finite 1) confidence) (R.round 25)))
    (R.round (if environment = .production then 20 else 0))

/-- The savings before they are rounded, where the costs are known, `finops/engine.py:158`. -/
def savings (allocation : CostAllocation) (cpuReduction memoryReduction : Double) : Option Double :=
  match allocation.cpuCost, allocation.memoryCost with
  | some cpuCost, some memoryCost =>
    some (R.add (R.mul cpuCost cpuReduction) (R.mul memoryCost memoryReduction))
  | _, _ => none

variable (f : Formats)

/-- The limitations of a recommendation for a workload, `finops/engine.py:163`. -/
def workloadLimitations (demoOriented : Bool) (savingsValue : Option Double) : List String :=
  ["The estimate uses the local OpenCost model and is not an AWS savings claim.",
    "A pull request requires human review; CloudWard will not resize a live production Deployment."]
  ++ (if demoOriented then
    ["The evidence window is shortened for the local demo and is not production-grade."] else [])
  ++ (if savingsValue.isNone then
    ["OpenCost did not provide CPU and memory cost components, so monetary savings are not estimated."]
    else [])

/-- The evidence of a recommendation for a workload, `finops/engine.py:175`. -/
def workloadEvidence (o : WorkloadObservation) (s : Sizing) : Json := .dict [
  ("cpu_usage_cores", s.cpu.dump f),
  ("memory_usage_bytes", s.memory.dump f),
  ("replicas", count o.replicas),
  ("allocation", o.allocation.dump f),
  ("queries", queriesDump o.sourceQueries),
  ("headroom", .dict [
    ("cpu_factor", f.float policy.cpuHeadroomFactor),
    ("memory_factor", f.float policy.memoryHeadroomFactor),
    ("minimum_cpu_cores", f.float policy.minimumCpuCores),
    ("minimum_memory_bytes", .int policy.minimumMemoryBytes)])]

/-- The requests and limits of a workload, `finops/engine.py:188`. -/
def workloadConfig (o : WorkloadObservation) (cpu : Double) (memory : Number) : Json := .dict [
  ("replicas", count o.replicas),
  ("requests", .dict [("cpu_cores", f.float cpu), ("memory_bytes", memory.dump f)]),
  ("limits", .dict [
    ("cpu_cores", orNull f.float o.cpuLimitCores),
    ("memory_bytes", orNull f.float o.memoryLimitBytes)])]

/-- `RecommendationDraft(...)`, which checks the score, the confidence and the fingerprint. -/
def RecommendationDraft.create (recommendationType : RecommendationType) (service : String)
    (environment : Environment) (why : String)
    (currentConfig recommendedConfig evidence estimatedSavings : Json) (riskScore : ℤ)
    (confidence : Double) (limitations : List String) (evidenceWindow : EvidenceWindow)
    (sourceFingerprint : String) : Except AnalysisError RecommendationDraft :=
  if h : (0 ≤ riskScore ∧ riskScore ≤ 100) ∧ AtLeast 0 confidence ∧ ¬ .finite 1 < confidence ∧
      sourceFingerprint.length = 64 then
    .ok {
      recommendationType, service, environment, why, currentConfig, recommendedConfig, evidence
      estimatedSavings, riskScore, confidence, limitations, evidenceWindow, sourceFingerprint
      riskScore_mem := h.1
      confidence_ge := h.2.1
      confidence_le := h.2.2.1
      sourceFingerprint_length := h.2.2.2 }
  else .error .validationError

/-- The recommendation for a workload, `finops/engine.py:135`. -/
def workloadDraft (o : WorkloadObservation) (s : Sizing) :
    Except AnalysisError RecommendationDraft := do
  let confidence ← computed (workloadConfidence R o)
  let score ← computed (riskSum R (Double.max s.cpuReduction s.memoryReduction) confidence
    o.environment).nearest
  let savingsValue :=
    (savings R o.allocation s.cpuReduction s.memoryReduction).map (R.roundTo 4)
  let evidence := workloadEvidence policy f o s
  let current := workloadConfig f o o.cpuRequestCores (.float o.memoryRequestBytes)
  let recommended := workloadConfig f o s.recommendedCpu s.recommendedMemory
  let fingerprint ← engineDigest f (.dict [
    ("service", .str o.service),
    ("environment", .str o.environment.value),
    ("window", o.window.dump f),
    ("current", current),
    ("recommended", recommended),
    ("evidence", evidence)])
  RecommendationDraft.create .workloadRightsizing o.service o.environment
    "Sustained p95 CPU and/or memory usage remains below the current request after deterministic safety headroom."
    current recommended evidence
    (.dict [
      ("value", orNull f.float savingsValue),
      ("currency", .str o.allocation.currency),
      ("window", .str "observed"),
      ("model", .str "opencost-local"),
      ("is_aws_estimate", .bool false)])
    (min 100 score) confidence (workloadLimitations o.window.demoOriented savingsValue) o.window
    fingerprint

/-- `{**value, **entries}`, where the keys are new. -/
def withEntries (entries : List (String × Json)) : Json → Json
  | .dict others => .dict (others ++ entries)
  | value => value

/-- `analyze_workload`, `finops/engine.py:77`. -/
def analyzeWorkload (o : WorkloadObservation) : Except AnalysisError AnalysisResult := do
  let insufficient ← windowProblem R policy o.environment o.window.requestedSeconds
    o.window.observedSeconds (sampleCount o.cpuUsageCores o.memoryUsageBytes)
  match insufficient with
  | some reason =>
    return {
      scenarioId := .overprovisionedWorkload
      outcome := .insufficientData
      reason
      observed := o.dump f }
  | none =>
    let s ← sizing R policy o
    if s.cpuReduction = .finite 0 ∧ s.memoryReduction = .finite 0 then
      return {
        scenarioId := .overprovisionedWorkload
        outcome := .noRecommendation
        reason := "Observed p95 usage plus configured safety headroom does not support a safe reduction."
        observed := withEntries [
          ("cpu_percentiles", s.cpu.dump f),
          ("memory_percentiles", s.memory.dump f)] (o.dump f) }
    else
      let draft ← workloadDraft R policy f o s
      return {
        scenarioId := .overprovisionedWorkload
        outcome := .recommended
        reason := draft.why
        recommendation := draft
        observed := o.dump f }

/-! ### Nodes -/

/-- How much of the nodes is taken, `finops/engine.py:261`. -/
def utilization (cpu allocatableCpu memory allocatableMemory : Double) :
    Except ArithmeticError Double := do
  let cpuShare ← R.div cpu allocatableCpu
  let memoryShare ← R.div memory allocatableMemory
  return Double.max cpuShare memoryShare

/-- The recommendation for the nodes, `finops/engine.py:284`. -/
def nodeDraft (o : NodeObservation) (cpu memory : Percentiles)
    (requestUtilization actualUtilization : Double) :
    Except AnalysisError RecommendationDraft := do
  let ratio ← computed (R.divInt o.window.observedSeconds o.window.requestedSeconds)
  let confidence := R.roundTo 2 (Double.min (R.round (95 / 100)) ratio)
  let current : Json := .dict [
    ("node_count", count o.nodeCount),
    ("allocatable_cpu_cores", f.float o.allocatableCpuCores),
    ("allocatable_memory_bytes", f.float o.allocatableMemoryBytes),
    ("requested_cpu_cores", f.float o.requestedCpuCores),
    ("requested_memory_bytes", f.float o.requestedMemoryBytes),
    ("pod_count", count o.podCount)]
  let recommended : Json := .dict [
    ("actions", .list [
      .str "Review whether the baseline node count can be reduced.",
      .str "Adjust future autoscaler/Karpenter capacity strategy after topology and disruption review."]),
    ("automatic_change", .bool false)]
  let evidence : Json := .dict [
    ("cpu_usage_cores", cpu.dump f),
    ("memory_usage_bytes", memory.dump f),
    ("request_utilization", f.float (R.roundTo 4 requestUtilization)),
    ("actual_p95_utilization", f.float (R.roundTo 4 actualUtilization)),
    ("allocation", o.allocation.dump f),
    ("queries", queriesDump o.sourceQueries)]
  let fingerprint ← engineDigest f (.dict [
    ("environment", .str o.environment.value),
    ("window", o.window.dump f),
    ("current", current),
    ("evidence", evidence)])
  RecommendationDraft.create .nodeEfficiency "cluster-capacity" o.environment
    "Both scheduled requests and observed p95 usage are below the configured node-efficiency thresholds."
    current recommended evidence
    (.dict [
      ("value", .null),
      ("currency", .str o.allocation.currency),
      ("model", .str "opencost-local"),
      ("is_aws_estimate", .bool false)])
    (min 100 (20 + if o.environment = .production then 20 else 0)) confidence
    ["No monetary savings are claimed because node topology and an avoidable-node price were not proven.",
      "The result uses a local OpenCost model and is not an AWS or EKS validation.",
      "CloudWard does not change node count or production infrastructure automatically."]
    o.window fingerprint

/-- `analyze_nodes`, `finops/engine.py:239`. -/
def analyzeNodes (o : NodeObservation) : Except AnalysisError AnalysisResult := do
  let insufficient ← windowProblem R policy o.environment o.window.requestedSeconds
    o.window.observedSeconds (sampleCount o.cpuUsageCores o.memoryUsageBytes)
  match insufficient with
  | some reason =>
    return {
      scenarioId := .wastedNodeCapacity
      outcome := .insufficientData
      reason
      observed := o.dump f }
  | none =>
    let cpu ← percentiles R o.cpuUsageCores
    let memory ← percentiles R o.memoryUsageBytes
    let requestUtilization ← computed (utilization R o.requestedCpuCores o.allocatableCpuCores
      o.requestedMemoryBytes o.allocatableMemoryBytes)
    let actualUtilization ← computed (utilization R cpu.p95 o.allocatableCpuCores memory.p95
      o.allocatableMemoryBytes)
    if policy.nodeRequestUtilizationThreshold ≤ requestUtilization ∨
        policy.nodeActualUtilizationThreshold ≤ actualUtilization then
      return {
        scenarioId := .wastedNodeCapacity
        outcome := .noRecommendation
        reason := "Observed node requests or p95 usage do not meet the configured underutilization thresholds."
        observed := withEntries [
          ("request_utilization", f.float requestUtilization),
          ("actual_p95_utilization", f.float actualUtilization)] (o.dump f) }
    else
      let draft ← nodeDraft R f o cpu memory requestUtilization actualUtilization
      return {
        scenarioId := .wastedNodeCapacity
        outcome := .recommended
        reason := draft.why
        recommendation := draft
        observed := o.dump f }

end Engine

end CloudWard.Finops
