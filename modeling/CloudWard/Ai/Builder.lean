import CloudWard.Ai.Context
import CloudWard.ClusterAgent.Service
import CloudWard.IncidentMemory.Similar
import CloudWard.Runbooks.Schema

/-!
# Building the context of a diagnosis

`build_incident_context`, `ai/incident_context.py:20`: the newest evidence of an incident and its
similar predecessors, as a raw context. What Python makes of numbers, and the text of a list or an
object, is a parameter; a number that is no integer is its text.
-/

namespace CloudWard.Ai

open CloudWard.Alerts CloudWard.ClusterAgent CloudWard.Db CloudWard.IncidentMemory CloudWard.Logic
  CloudWard.Remediation CloudWard.Runbooks CloudWard.Security Python Redaction

/-- What the builder asks of Python, of the hash, and of the database for the id of an incident. -/
structure Conversions where
  unicode : Unicode
  /-- `str` of a list or an object. -/
  repr : Json → String
  /-- `float` of an integer that is not too large. -/
  floatOfInt : Int → String
  /-- `float` of a text that is a number. -/
  floatOfText : String → Option String
  isFinite : String → Bool
  floatLe : String → String → Bool
  hexdigest : String → String
  uuidOf : Nat → Uuid

/-- The exceptions of the builder: a `ValueError`, or an `OverflowError`, which is none. -/
inductive BuildError
  | value
  | overflow
deriving DecidableEq

/-- What `float` makes of a value. -/
inductive Floated
  | float (text : String)
  | refused
  | overflow

/-- A row of `evidence_snapshots`, with its id; no `datetime` is later than the year 9999. -/
structure StoredEvidence extends EvidenceSnapshot where
  uuid : Uuid
  windowEnd_lt : ∀ t ∈ windowEnd, t < 10 ^ 18

variable (py : Conversions)

/-- `str(value)`. -/
def str : Json → String
  | .str s => s
  | .int n => toString n
  | .float text => text
  | .bool true => "True"
  | .bool false => "False"
  | .null => "None"
  | value => py.repr value

/-- An integer that rounds to no `float`. -/
def overflows (n : Int) : Bool := 2 ^ 1024 - 2 ^ 970 ≤ n.natAbs

/-- `float(value)`. -/
def float : Json → Floated
  | .float text => .float text
  | .int n => if overflows n then .overflow else .float (py.floatOfInt n)
  | .bool b => .float (py.floatOfInt (if b then 1 else 0))
  | .str s => (py.floatOfText s).elim .refused .float
  | _ => .refused

/-- `payload.get(key, default)`. -/
def getOr (payload : Json) (key : String) (default : Json) : Json := (payload.get? key).getD default

/-- The items of a list, and none of another value. -/
def itemsOf : Json → List Json
  | .list items => items
  | _ => []

/-- Whether a value is an object. -/
def isDict : Json → Bool
  | .dict _ => true
  | _ => false

/-- The points of a series, `ai/incident_context.py:202`. -/
def candidates (series : Json) : List Json :=
  let values := itemsOf (getOr series "values" (.list []))
  match series.get? "value" with
  | some (.list scalar) => values ++ [.list scalar]
  | _ => values

/-- The number of a point, if it is a pair. -/
def pointValue : Json → Option Json
  | .list [_, value] => some value
  | _ => none

/-- The values `_metric_points` reads. -/
def metricValues (samples : Option Json) : List Json :=
  (((samples.elim [] itemsOf).take 20).filter isDict).flatMap fun series ↦
    ((candidates series).take 200).filterMap pointValue

/-- One point more, `ai/incident_context.py:215`; an `OverflowError` is not caught. -/
def addPoint (points : List String) (value : Json) : Except BuildError (List String) :=
  match float py value with
  | .float text => .ok (points ++ [text])
  | .refused => .ok points
  | .overflow => .error .overflow

/-- `_metric_points`, `ai/incident_context.py:195`. -/
def metricPoints (samples : Option Json) : Except BuildError (List String) :=
  (metricValues samples).foldlM (addPoint py) []

/-- `_number`, `ai/incident_context.py:262`. -/
def number : Option Json → Reading
  | some (.int n) => .int n
  | some (.float text) => .float text
  | _ => .none

/-- `_log_lines`, `ai/incident_context.py:222`. -/
def logLines (samples : Json) : List String :=
  ((itemsOf samples).take 50).filterMap fun sample ↦
    let line := if isDict sample then getOr sample "line" (getOr sample "message" .null) else sample
    match line with
    | .null => none
    | line => some (cut 500 (str py line))

/-- `_trace_duration`, `ai/incident_context.py:247`. -/
def traceDuration (value : Json) : String :=
  if ¬ isDict value then "0.0"
  else
    match getOr value "durationMs" (getOr value "duration" (.int 0)) with
    | .bool _ => "0.0"
    | raw =>
      match float py raw with
      | .float duration =>
        if py.isFinite duration then
          -- `max(0.0, duration)`
          if py.floatLe duration "0.0" then "0.0" else duration
        else "0.0"
      | _ => "0.0"

/-- `_trace_label`, `ai/incident_context.py:234`. -/
def traceLabel (value : Json) : String :=
  if ¬ isDict value then cut 500 (str py value)
  else
    let parts : List Json :=
      [getOr value "rootServiceName" (getOr value "serviceName" (.str "unknown-service")),
        getOr value "rootTraceName" (getOr value "name" (.str "unknown-trace")),
        getOr value "traceID" (getOr value "traceId" (.str "unknown-id")),
        .str ("duration=" ++ traceDuration py value ++ "ms")]
    cut 500 (" | ".intercalate (parts.map fun part ↦ cut 160 (str py part)))

/-- `_window`, `ai/incident_context.py:266`. -/
def window (item : StoredEvidence) : String :=
  match item.windowStart, item.windowEnd with
  | some start, some «end» => toString ((«end» - start) / 1000000) ++ "s"
  | _, _ => "bounded"

/-- `_bounded_object`, `ai/incident_context.py:273`. -/
def boundedObject (value : Json) (maxChars : Nat) : Json :=
  let serialized := Json.compact value
  if serialized.length ≤ maxChars then value
  else .dict [("summary", .str (String.ofList (serialized.take maxChars))), ("truncated", .bool true)]

/-! ### Rows -/

/-- The payload of a row, if it is an object. -/
def payloadOf (item : StoredEvidence) : Json := if isDict item.payload then item.payload else .dict []

/-- The reference of a row. -/
def evidenceRef (item : StoredEvidence) : String := "evidence:" ++ item.uuid.text

/-- The kinds of evidence that a context has a place for. -/
inductive EvidenceKind
  | kubernetes
  | metric
  | log
  | trace
  | deployment
  | git
  | other
deriving DecidableEq

/-- The place of a type of evidence, `ai/incident_context.py:101`. -/
def kindOf : EvidenceType → EvidenceKind
  | .kubernetesState => .kubernetes
  | .kubernetesEvent => .kubernetes
  | .metric => .metric
  | .metricSummary => .metric
  | .log => .log
  | .logSummary => .log
  | .trace => .trace
  | .traceSummary => .trace
  | .deployment => .deployment
  | .deploymentState => .deployment
  | .gitChange => .git
  | .healthCheck => .other
  | .securityEvent => .other
  | .finops => .other

/-- The entry of a Kubernetes row, `ai/incident_context.py:105`. -/
def kubernetesEntry (item : StoredEvidence) : Json :=
  .dict [("ref", .str (evidenceRef item)), ("summary", .str item.summary)]

/-- The summary of the Kubernetes rows so far and one more, `ai/incident_context.py:102`. -/
def addKubernetes (current : List (String × Json)) (item : StoredEvidence) :
    List (String × Json) :=
  let summaries := itemsOf (getOr (.dict current) "summaries" (.list []))
  [("summaries", .list ((summaries ++ [kubernetesEntry item]).take 10)),
    ("latest", boundedObject (payloadOf item) 6000)]

/-- The summary of a metric row, `ai/incident_context.py:109`. -/
def metricSummary (item : StoredEvidence) (points : List String) : MetricSummary :=
  let payload := payloadOf item
  { ref := evidenceRef item
    name := cut 255 (str py (getOr payload "metric" (getOr payload "name" (.str "metric"))))
    before := points.head?.elim (number (payload.get? "before")) .float
    during := points.getLast?.elim (number (payload.get? "during")) .float
    window := window item
    summary := some item.summary }

/-- The summary of a log row, `ai/incident_context.py:121`. -/
def logSummary (item : StoredEvidence) : LogSummary :=
  let payload := payloadOf item
  let rawSamples := getOr payload "samples" (getOr payload "lines" (.list []))
  let lines := logLines py rawSamples
  { ref := evidenceRef item
    count := (itemsOf rawSamples).length
    representativeLines := lines.take 20
    fingerprints := (lines.take 20).map fun line ↦
      cut 16 (py.hexdigest (String.ofList (lower (String.ofList (strip line.toList))))) }

/-- The summary of a trace row, `ai/incident_context.py:135`. -/
def traceSummary (item : StoredEvidence) : TraceSummary :=
  let traces := (itemsOf (getOr (payloadOf item) "samples" (.list []))).take 20
  let slowest := traces.mergeSort fun a b ↦ py.floatLe (traceDuration py b) (traceDuration py a)
  let failed := traces.filter fun value ↦
    match value.get? "error" with
    | some (.bool b) => b
    | _ => false
  { ref := evidenceRef item
    criticalPath := (traces.take 10).map (traceLabel py)
    slowSpans := (slowest.take 5).map (traceLabel py)
    errorSpans := (failed.map (traceLabel py)).take 5
    serviceGraphSummary := some item.summary }

/-- The entry of a deployment row, `ai/incident_context.py:160`. -/
def deploymentEntry (item : StoredEvidence) : List (String × Json) :=
  [("ref", .str (evidenceRef item)), ("summary", .str item.summary),
    ("data", boundedObject (payloadOf item) 6000)]

/-- The changed files of a row, `ai/incident_context.py:166`. -/
def gitFiles (item : StoredEvidence) : List Json :=
  ((itemsOf (getOr (payloadOf item) "files" (.list []))).take 20).filter isDict

/-- The change of one file, `ai/incident_context.py:171`. -/
def sourceDiff (item : StoredEvidence) (file : Json) : SourceDiff :=
  let payload := payloadOf item
  { ref := evidenceRef item
    repository := cut 255 (str py (getOr payload "repository" (.str "unknown/unknown")))
    commitSha := cut 64 (str py (getOr payload "commit" (.str "0000000")))
    previousCommitSha := cut 64 (str py (getOr payload "previous_commit" (.str "0000000")))
    file := cut 500 (str py (getOr file "path" (.str "unknown")))
    status := cut 32 (str py (getOr file "status" (.str "unknown")))
    patch := cut 4000 (str py (getOr file "patch" (.str ""))) }

/-- One row more, `ai/incident_context.py:97`. -/
def addEvidence (result : UntrustedEvidence) (item : StoredEvidence) :
    Except BuildError UntrustedEvidence :=
  match kindOf item.evidenceType with
  | .kubernetes =>
    .ok { result with kubernetesSummary := addKubernetes result.kubernetesSummary item }
  | .metric => do
    let points ← metricPoints py ((payloadOf item).get? "samples")
    return { result with metrics := result.metrics ++ [metricSummary py item points] }
  | .log => .ok { result with logs := result.logs ++ [logSummary py item] }
  | .trace => .ok { result with traces := result.traces ++ [traceSummary py item] }
  | .deployment => .ok { result with deployment := deploymentEntry item }
  | .git =>
    .ok { result with gitChanges := result.gitChanges ++ (gitFiles item).map (sourceDiff py item) }
  | .other => .ok result

/-- The entry of a similar incident, `ai/incident_context.py:180`. -/
def historicalIncident (item : SimilarIncidentResponse) : HistoricalIncident where
  ref := "history:" ++ (py.uuidOf item.incidentId).text
  incidentId := (py.uuidOf item.incidentId).text
  matchReasons := item.matchReasons
  rootCauseCategory := item.rootCauseCategory
  action := item.action
  result := item.result
  verificationSuccess := item.verificationSuccess
  durationSeconds := item.durationSeconds
  summary := item.operatorSummary

/-- An evidence without rows. -/
def noEvidence : UntrustedEvidence where
  kubernetesSummary := []
  metrics := []
  logs := []
  traces := []
  deployment := []
  gitChanges := []
  historicalIncidents := []

/-- `_evidence_payload`, `ai/incident_context.py:86`. -/
def evidencePayload (evidence : List StoredEvidence) (historical : List SimilarIncidentResponse) :
    Except BuildError UntrustedEvidence := do
  let result ← evidence.foldlM (addEvidence py) noEvidence
  return { result with historicalIncidents := (historical.take 10).map (historicalIncident py) }

/-! ### The builder -/

/-- The columns of `Service`, `db/models.py:186`, that the builder reads; labels that are no texts
are dropped by every reader. -/
structure ServiceColumns where
  name : String
  ns : String
  labels : Labels

/-- What the builder reads for an incident; a row has an id of its own. -/
structure Sources where
  incidentId : Nat
  incident : Incident
  serviceId : Option Uuid
  service : Option ServiceColumns
  evidence : List StoredEvidence
  memories : List IncidentMemoryRecord
  runbooks : List RunbookDocument
  unique : (evidence.map (·.uuid)).Nodup

namespace Sources

variable (s : Sources)

/-- The newest 80 rows of the incident. -/
def newest : List StoredEvidence :=
  ((s.evidence.filter (·.incidentId = s.incidentId)).mergeSort fun a b ↦
    b.createdAt ≤ a.createdAt).take (min (max 80 1) 100)

/-- The service of the incident, if it names one that exists. -/
def linked : Option ServiceColumns := s.serviceId.bind fun _ ↦ s.service

/-- `service_key`, `ai/incident_context.py:43`. -/
def serviceKey : String :=
  (s.linked.map (·.name)).getD ((s.serviceId.map (·.text)).getD "unassigned")

/-- The query of the builder, `ai/incident_context.py:45`. -/
def query : FingerprintInput where
  service := s.serviceKey
  incidentType := s.incident.incidentType
  alertName := s.incident.title
  ns := s.linked.map (·.ns)
  labels := selectStableLabels ((s.linked.map (·.labels)).getD ∅)

/-- The `incident` of a raw context, `ai/incident_context.py:57`. -/
def metadata : IncidentMetadata where
  incidentId := (py.uuidOf s.incidentId).text
  service := s.serviceKey
  environment := s.incident.environment.value
  severity := s.incident.severity
  category := s.incident.incidentType
  alert := s.incident.title
  ns := s.linked.map (·.ns)

/-- The `available_runbooks` of a raw context, `ai/incident_context.py:67`. -/
def options : List RunbookOption :=
  s.runbooks.map fun item ↦ ⟨item.id, item.version, [item.action]⟩

/-- The `complexity_score` of a raw context, `ai/incident_context.py:75`. -/
def complexity : Nat :=
  min 100 (15 + s.newest.length * 4 + (if s.incident.environment = .production then 25 else 0) +
    (if "security".toList.isPrefixOf s.incident.incidentType.toList then 20 else 0))

/-- The raw context around an evidence. -/
def around (evidence : UntrustedEvidence) : RawContext where
  incident := s.metadata py
  untrustedEvidence := evidence
  availableRunbooks := s.options
  complexityScore := s.complexity

end Sources

/-- A validation error is a `ValueError`. -/
def orValueError {α : Type} : Except Exc α → Except BuildError α
  | .ok a => .ok a
  | .error _ => .error .value

/-- `build_incident_context`, `ai/incident_context.py:20`. -/
def buildIncidentContext (s : Sources) : Except BuildError IncidentContext := do
  let query ← orValueError s.query.validate
  let historical ← orValueError (findSimilar s.memories query s.incidentId (min (max 5 1) 10))
  let evidence ← evidencePayload py s.newest historical
  match IncidentContextBuilder.build py.unicode (s.around py evidence) with
  | some context => .ok context
  | none => .error .value

/-! ### What the rows come to -/

/-- The text of a number, of what `float` reads. -/
def floatText (value : Json) : Option String :=
  match float py value with
  | .float text => some text
  | _ => none

/-- The points of a metric row that `float` reads. -/
def pointTexts (item : StoredEvidence) : List String :=
  (metricValues ((payloadOf item).get? "samples")).filterMap (floatText py)

/-- The rows of a kind. -/
def ofKind (kind : EvidenceKind) (rows : List StoredEvidence) : List StoredEvidence :=
  rows.filter fun item ↦ kindOf item.evidenceType = kind

/-- What some rows add to an evidence. -/
def collect (start : UntrustedEvidence) (rows : List StoredEvidence) : UntrustedEvidence where
  kubernetesSummary := (ofKind .kubernetes rows).foldl addKubernetes start.kubernetesSummary
  metrics := start.metrics ++
    (ofKind .metric rows).map fun item ↦ metricSummary py item (pointTexts py item)
  logs := start.logs ++ (ofKind .log rows).map (logSummary py)
  traces := start.traces ++ (ofKind .trace rows).map (traceSummary py)
  deployment := (ofKind .deployment rows).foldl (fun _ item ↦ deploymentEntry item) start.deployment
  gitChanges := start.gitChanges ++
    (ofKind .git rows).flatMap fun item ↦ (gitFiles item).map (sourceDiff py item)
  historicalIncidents := start.historicalIncidents

/-- No number of a metric row is too large for a `float`. -/
def Floats (item : StoredEvidence) : Prop :=
  kindOf item.evidenceType = .metric →
    ∀ n, .int n ∈ metricValues ((payloadOf item).get? "samples") → overflows n = false

variable {py}

private theorem float_ne_overflow_iff {value : Json} :
    float py value ≠ .overflow ↔ ∀ n, value = .int n → overflows n = false := by
  cases value with
  | int n =>
    simp only [float, Json.int.injEq, forall_eq']
    cases overflows n <;> simp
  | str s =>
    simp only [float]
    cases py.floatOfText s <;> simp
  | null => simp [float]
  | bool b => simp [float]
  | float text => simp [float]
  | list items => simp [float]
  | dict entries => simp [float]

/-- The points of some values, if each of them can be read or skipped. -/
private theorem foldlM_addPoint {values : List Json} {points result : List String} :
    values.foldlM (addPoint py) points = .ok result ↔
      (∀ value ∈ values, float py value ≠ .overflow) ∧
        points ++ values.filterMap (floatText py) = result := by
  induction values generalizing points with
  | nil =>
    simp only [List.foldlM_nil, List.not_mem_nil, false_implies, implies_true, true_and,
      List.filterMap_nil, List.append_nil]
    exact ⟨fun h ↦ Except.ok.inj h, fun h ↦ congrArg Except.ok h⟩
  | cons value rest ih =>
    rw [List.foldlM_cons, List.forall_mem_cons, List.filterMap_cons]
    cases hfloat : float py value with
    | float text =>
      have hadd : addPoint py points value = .ok (points ++ [text]) := by
        rw [addPoint, hfloat]
      have htext : floatText py value = some text := by
        rw [floatText, hfloat]
      rw [hadd, htext]
      simp only [reduceCtorEq, not_false_eq_true, ne_eq, true_and]
      refine Iff.trans ih ?_
      rw [List.append_assoc]
      rfl
    | refused =>
      have hadd : addPoint py points value = .ok points := by
        rw [addPoint, hfloat]
      have htext : floatText py value = none := by
        rw [floatText, hfloat]
      rw [hadd, htext]
      simp only [reduceCtorEq, not_false_eq_true, ne_eq, true_and]
      exact ih
    | overflow =>
      have hadd : addPoint py points value = .error .overflow := by
        rw [addPoint, hfloat]
      rw [hadd]
      exact iff_of_false (fun h ↦ nomatch h) fun h ↦ h.1.1 rfl

/-- The points of a metric row. -/
private theorem metricPoints_eq_ok {item : StoredEvidence} {points : List String}
    (hkind : kindOf item.evidenceType = .metric) :
    metricPoints py ((payloadOf item).get? "samples") = .ok points ↔
      Floats item ∧ pointTexts py item = points := by
  unfold metricPoints
  rw [foldlM_addPoint, List.nil_append]
  refine and_congr_left fun _ ↦ ?_
  unfold Floats
  constructor
  · intro h _ n hn
    exact float_ne_overflow_iff.mp (h _ hn) n rfl
  · intro h value hvalue
    rw [float_ne_overflow_iff]
    rintro n rfl
    exact h hkind n hvalue

/-- What a row adds. -/
private theorem addEvidence_eq_ok {start result : UntrustedEvidence} {item : StoredEvidence} :
    addEvidence py start item = .ok result ↔ Floats item ∧ collect py start [item] = result := by
  have hother {updated : UntrustedEvidence} (hne : kindOf item.evidenceType ≠ .metric)
      (hcollect : collect py start [item] = updated) :
      (Except.ok updated : Except BuildError UntrustedEvidence) = .ok result ↔
        Floats item ∧ collect py start [item] = result := by
    rw [hcollect]
    exact ⟨fun h ↦ ⟨fun hkind ↦ absurd hkind hne, Except.ok.inj h⟩, fun h ↦ congrArg Except.ok h.2⟩
  unfold addEvidence
  cases hkind : kindOf item.evidenceType with
  | metric =>
    have hcollect (points : List String) (hpoints : pointTexts py item = points) :
        collect py start [item] =
          { start with metrics := start.metrics ++ [metricSummary py item points] } := by
      simp [collect, ofKind, hkind, hpoints]
    cases hpoints : metricPoints py ((payloadOf item).get? "samples") with
    | error e =>
      refine iff_of_false (fun h ↦ nomatch h) fun h ↦ ?_
      have hok := (@metricPoints_eq_ok py item _ hkind).mpr ⟨h.1, rfl⟩
      rw [hpoints] at hok
      cases hok
    | ok points =>
      obtain ⟨hfloats, htexts⟩ := (metricPoints_eq_ok hkind).mp hpoints
      rw [hcollect points htexts]
      exact ⟨fun h ↦ ⟨hfloats, Except.ok.inj h⟩, fun h ↦ congrArg Except.ok h.2⟩
  | kubernetes => exact hother (by simp [hkind]) (by simp [collect, ofKind, hkind])
  | log => exact hother (by simp [hkind]) (by simp [collect, ofKind, hkind])
  | trace => exact hother (by simp [hkind]) (by simp [collect, ofKind, hkind])
  | deployment => exact hother (by simp [hkind]) (by simp [collect, ofKind, hkind])
  | git => exact hother (by simp [hkind]) (by simp [collect, ofKind, hkind])
  | other => exact hother (by simp [hkind]) (by simp [collect, ofKind, hkind])

private theorem collect_cons {start : UntrustedEvidence} {item : StoredEvidence}
    {rest : List StoredEvidence} :
    collect py (collect py start [item]) rest = collect py start (item :: rest) := by
  unfold collect ofKind
  simp only [List.filter_cons, List.filter_nil]
  cases kindOf item.evidenceType <;> simp

/-- What some rows add. -/
private theorem foldlM_addEvidence {rows : List StoredEvidence} {start result : UntrustedEvidence} :
    rows.foldlM (addEvidence py) start = .ok result ↔
      (∀ item ∈ rows, Floats item) ∧ collect py start rows = result := by
  induction rows generalizing start with
  | nil =>
    simp only [List.foldlM_nil, List.not_mem_nil, false_implies, implies_true, true_and]
    have hnone : collect py start [] = start := by
      simp [collect, ofKind]
    rw [hnone]
    exact ⟨fun h ↦ Except.ok.inj h, fun h ↦ congrArg Except.ok h⟩
  | cons item rest ih =>
    rw [List.foldlM_cons, List.forall_mem_cons, ← collect_cons]
    cases hadd : addEvidence py start item with
    | error e =>
      refine iff_of_false (fun h ↦ nomatch h) fun h ↦ ?_
      rw [addEvidence_eq_ok.mpr ⟨h.1.1, rfl⟩] at hadd
      cases hadd
    | ok next =>
      obtain ⟨hfloats, rfl⟩ := addEvidence_eq_ok.mp hadd
      refine Iff.trans ih ?_
      rw [and_iff_right hfloats]

/-- The evidence of some rows and similar incidents. -/
def gathered (py : Conversions) (rows : List StoredEvidence)
    (historical : List SimilarIncidentResponse) : UntrustedEvidence :=
  { collect py noEvidence rows with
    historicalIncidents := (historical.take 10).map (historicalIncident py) }

/-- The payload of the evidence is what its rows come to, if their numbers can be read. -/
theorem evidencePayload_eq_ok {rows : List StoredEvidence}
    {historical : List SimilarIncidentResponse} {result : UntrustedEvidence} :
    evidencePayload py rows historical = .ok result ↔
      (∀ item ∈ rows, Floats item) ∧ gathered py rows historical = result := by
  unfold evidencePayload
  cases hrows : rows.foldlM (addEvidence py) noEvidence with
  | error e =>
    refine iff_of_false (fun h ↦ nomatch h) fun h ↦ ?_
    rw [foldlM_addEvidence.mpr ⟨h.1, rfl⟩] at hrows
    cases hrows
  | ok evidence =>
    obtain ⟨hfloats, rfl⟩ := foldlM_addEvidence.mp hrows
    exact ⟨fun h ↦ ⟨hfloats, Except.ok.inj h⟩, fun h ↦ congrArg Except.ok h.2⟩

/-- The context is built where the query is valid, its answers are, the numbers can be read, and
the redacted context is within its bounds. -/
theorem buildIncidentContext_eq_ok {s : Sources} {context : IncidentContext} :
    buildIncidentContext py s = .ok context ↔
      s.query.Valid ∧ ∃ historical, findSimilar s.memories s.query s.incidentId 5 = .ok historical ∧
        (∀ item ∈ s.newest, Floats item) ∧
          IncidentContextBuilder.build py.unicode (s.around py (gathered py s.newest historical)) =
            some context := by
  unfold buildIncidentContext FingerprintInput.validate
  by_cases hquery : s.query.Valid
  · rw [if_pos hquery, and_iff_right hquery]
    have hlimit : min (max 5 1) 10 = 5 := rfl
    show (do
      let historical ← orValueError (findSimilar s.memories s.query s.incidentId 5)
      let evidence ← evidencePayload py s.newest historical
      match IncidentContextBuilder.build py.unicode (s.around py evidence) with
      | some context => .ok context
      | none => .error .value) = .ok context ↔ _
    cases hsimilar : findSimilar s.memories s.query s.incidentId 5 with
    | error e => exact iff_of_false (fun h ↦ nomatch h) fun ⟨_, h, _⟩ ↦ nomatch h
    | ok historical =>
      cases hpayload : evidencePayload py s.newest historical with
      | error e =>
        refine iff_of_false ?_ ?_
        · intro h
          simp only [orValueError, bind, Except.bind, hpayload] at h
          cases h
        · rintro ⟨other, hother, hfloats, -⟩
          cases hother
          rw [evidencePayload_eq_ok.mpr ⟨hfloats, rfl⟩] at hpayload
          cases hpayload
      | ok evidence =>
        obtain ⟨hfloats, rfl⟩ := evidencePayload_eq_ok.mp hpayload
        have hbuild (built : Option IncidentContext) :
            (match built with
              | some context => (.ok context : Except BuildError IncidentContext)
              | none => .error .value) = .ok context ↔ built = some context := by
          cases built with
          | none => exact iff_of_false (fun h ↦ nomatch h) (fun h ↦ nomatch h)
          | some built => exact ⟨fun h ↦ congrArg some (Except.ok.inj h),
              fun h ↦ congrArg Except.ok (Option.some.inj h)⟩
        simp only [orValueError, bind, Except.bind, hpayload]
        rw [hbuild]
        constructor
        · exact fun h ↦ ⟨historical, rfl, hfloats, h⟩
        · rintro ⟨other, hother, -, h⟩
          cases hother
          exact h
  · rw [if_neg hquery]
    exact iff_of_false (fun h ↦ nomatch h) fun h ↦ hquery h.1

end CloudWard.Ai
