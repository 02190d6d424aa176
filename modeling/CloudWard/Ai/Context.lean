import CloudWard.Alerts.Schemas
import CloudWard.Base.Dumps
import CloudWard.Base.Uuid
import CloudWard.Security.Redaction
import Mathlib.Tactic.MkIffOfInductiveProp

/-!
# The context of a diagnosis

The schemas of `ai/context.py:36`, with their bounds, and `IncidentContextBuilder.build`: a raw
context is redacted and then checked against its schema. A raw context is the dictionary that
`build_incident_context` makes, as a record; its redaction is that of the dictionary.
-/

namespace CloudWard.Ai

open CloudWard.Alerts CloudWard.Remediation CloudWard.Security Python Redaction

/-- `IncidentMetadata`, `ai/context.py:36`. -/
structure IncidentMetadata where
  incidentId : String
  service : String
  environment : String
  severity : String
  category : String
  alert : String
  ns : Option String

/-- A number of a metric, or none. -/
inductive Reading
  | none
  | int (n : Int)
  | float (text : String)

/-- `MetricSummary`, `ai/context.py:47`. -/
structure MetricSummary where
  ref : String
  name : String
  before : Reading
  during : Reading
  window : String
  summary : Option String

/-- `LogSummary`, `ai/context.py:57`. -/
structure LogSummary where
  ref : String
  count : Nat
  representativeLines : List String
  fingerprints : List String

/-- `TraceSummary`, `ai/context.py:70`. -/
structure TraceSummary where
  ref : String
  criticalPath : List String
  slowSpans : List String
  errorSpans : List String
  serviceGraphSummary : Option String

/-- `SourceDiff`, `ai/context.py:79`. -/
structure SourceDiff where
  ref : String
  repository : String
  commitSha : String
  previousCommitSha : String
  file : String
  status : String
  patch : String

/-- `HistoricalIncident`, `ai/context.py:95`. -/
structure HistoricalIncident where
  ref : String
  incidentId : String
  matchReasons : List String
  rootCauseCategory : Option String
  action : Option ActionType
  result : String
  verificationSuccess : Option Bool
  durationSeconds : Option Nat
  summary : Option String

/-- `RunbookOption`, `ai/context.py:113`. -/
structure RunbookOption where
  id : String
  version : Nat
  actions : List ActionType

/-- `UntrustedEvidence`, `ai/context.py:120`, less its constant. -/
structure UntrustedEvidence where
  kubernetesSummary : List (String × Json)
  metrics : List MetricSummary
  logs : List LogSummary
  traces : List TraceSummary
  deployment : List (String × Json)
  gitChanges : List SourceDiff
  historicalIncidents : List HistoricalIncident

/-- `IncidentContext`, `ai/context.py:132`, before its bounds are checked. -/
structure RawContext where
  incident : IncidentMetadata
  untrustedEvidence : UntrustedEvidence
  availableRunbooks : List RunbookOption
  complexityScore : Nat

/-! ### Dumps -/

/-- `null`, or a text. -/
def Reading.dump : Reading → Json
  | .none => .null
  | .int n => .int n
  | .float text => .float text

/-- A list of texts. -/
def ofTexts (texts : List String) : Json := .list (texts.map .str)

def IncidentMetadata.dump (m : IncidentMetadata) : Json :=
  .dict [("incident_id", .str m.incidentId), ("service", .str m.service),
    ("environment", .str m.environment), ("severity", .str m.severity),
    ("category", .str m.category), ("alert", .str m.alert), ("namespace", Json.ofOption m.ns)]

def MetricSummary.dump (m : MetricSummary) : Json :=
  .dict [("ref", .str m.ref), ("name", .str m.name), ("before", m.before.dump),
    ("during", m.during.dump), ("window", .str m.window), ("summary", Json.ofOption m.summary)]

def LogSummary.dump (l : LogSummary) : Json :=
  .dict [("ref", .str l.ref), ("count", .int l.count),
    ("representative_lines", ofTexts l.representativeLines),
    ("fingerprints", ofTexts l.fingerprints)]

def TraceSummary.dump (t : TraceSummary) : Json :=
  .dict [("ref", .str t.ref), ("critical_path", ofTexts t.criticalPath),
    ("slow_spans", ofTexts t.slowSpans), ("error_spans", ofTexts t.errorSpans),
    ("service_graph_summary", Json.ofOption t.serviceGraphSummary)]

def SourceDiff.dump (d : SourceDiff) : Json :=
  .dict [("ref", .str d.ref), ("repository", .str d.repository), ("commit_sha", .str d.commitSha),
    ("previous_commit_sha", .str d.previousCommitSha), ("file", .str d.file),
    ("status", .str d.status), ("patch", .str d.patch)]

def HistoricalIncident.dump (h : HistoricalIncident) : Json :=
  .dict [("ref", .str h.ref), ("incident_id", .str h.incidentId),
    ("match_reasons", ofTexts h.matchReasons),
    ("root_cause_category", Json.ofOption h.rootCauseCategory),
    ("action", Json.ofOption (h.action.map (·.value))), ("result", .str h.result),
    ("verification_success", h.verificationSuccess.elim .null .bool),
    ("duration_seconds", h.durationSeconds.elim .null (.int ·)),
    ("summary", Json.ofOption h.summary)]

def RunbookOption.dump (r : RunbookOption) : Json :=
  .dict [("id", .str r.id), ("version", .int r.version),
    ("actions", ofTexts (r.actions.map (·.value)))]

def UntrustedEvidence.dump (e : UntrustedEvidence) : Json :=
  .dict [("handling", .str "UNTRUSTED_DATA"), ("kubernetes_summary", .dict e.kubernetesSummary),
    ("metrics", .list (e.metrics.map (·.dump))), ("logs", .list (e.logs.map (·.dump))),
    ("traces", .list (e.traces.map (·.dump))), ("deployment", .dict e.deployment),
    ("git_changes", .list (e.gitChanges.map (·.dump))),
    ("historical_incidents", .list (e.historicalIncidents.map (·.dump)))]

/-- `context.model_dump(mode="json")`. -/
def RawContext.dump (c : RawContext) : Json :=
  .dict [("incident", c.incident.dump), ("untrusted_evidence", c.untrustedEvidence.dump),
    ("available_runbooks", .list (c.availableRunbooks.map (·.dump))),
    ("complexity_score", .int c.complexityScore)]

/-! ### Redaction -/

section Redacted

variable (u : Unicode)

/-- An object whose values are redacted, with the depth that is left to them. -/
def redactEntries (depth : Nat) (entries : List (String × Json)) : List (String × Json) :=
  entries.map fun (key, item) ↦
    (key, if sensitiveKey key then .str "[REDACTED]" else redactUntrusted u depth item)

def IncidentMetadata.redacted (m : IncidentMetadata) : IncidentMetadata where
  incidentId := redactText u m.incidentId
  service := redactText u m.service
  environment := redactText u m.environment
  severity := redactText u m.severity
  category := redactText u m.category
  alert := redactText u m.alert
  ns := m.ns.map (redactText u)

def MetricSummary.redacted (m : MetricSummary) : MetricSummary where
  ref := redactText u m.ref
  name := redactText u m.name
  before := m.before
  during := m.during
  window := redactText u m.window
  summary := m.summary.map (redactText u)

def LogSummary.redacted (l : LogSummary) : LogSummary where
  ref := redactText u l.ref
  count := l.count
  representativeLines := l.representativeLines.map (redactText u)
  fingerprints := l.fingerprints.map (redactText u)

def TraceSummary.redacted (t : TraceSummary) : TraceSummary where
  ref := redactText u t.ref
  criticalPath := t.criticalPath.map (redactText u)
  slowSpans := t.slowSpans.map (redactText u)
  errorSpans := t.errorSpans.map (redactText u)
  serviceGraphSummary := t.serviceGraphSummary.map (redactText u)

def SourceDiff.redacted (d : SourceDiff) : SourceDiff where
  ref := redactText u d.ref
  repository := redactText u d.repository
  commitSha := redactText u d.commitSha
  previousCommitSha := redactText u d.previousCommitSha
  file := redactText u d.file
  status := redactText u d.status
  patch := redactText u d.patch

def HistoricalIncident.redacted (h : HistoricalIncident) : HistoricalIncident where
  ref := redactText u h.ref
  incidentId := redactText u h.incidentId
  matchReasons := h.matchReasons.map (redactText u)
  rootCauseCategory := h.rootCauseCategory.map (redactText u)
  action := h.action
  result := redactText u h.result
  verificationSuccess := h.verificationSuccess
  durationSeconds := h.durationSeconds
  summary := h.summary.map (redactText u)

def RunbookOption.redacted (r : RunbookOption) : RunbookOption where
  id := redactText u r.id
  version := r.version
  actions := r.actions

def UntrustedEvidence.redacted (e : UntrustedEvidence) : UntrustedEvidence where
  kubernetesSummary := redactEntries u 13 e.kubernetesSummary
  metrics := e.metrics.map (·.redacted u)
  logs := e.logs.map (·.redacted u)
  traces := e.traces.map (·.redacted u)
  deployment := redactEntries u 13 e.deployment
  gitChanges := e.gitChanges.map (·.redacted u)
  historicalIncidents := e.historicalIncidents.map (·.redacted u)

/-- The record of the redacted dump. -/
def RawContext.redacted (c : RawContext) : RawContext where
  incident := c.incident.redacted u
  untrustedEvidence := c.untrustedEvidence.redacted u
  availableRunbooks := c.availableRunbooks.map (·.redacted u)
  complexityScore := c.complexityScore

end Redacted

/-! ### Validation -/

/-- `_bounded_text`, `ai/context.py:32`, of a text. -/
def boundedText (u : Unicode) (limit : Nat) (text : String) : String :=
  cut limit (redactText u text)

section Validated

variable (u : Unicode)

/-- `bound_lines`, `ai/context.py:66`. -/
def LogSummary.validated (l : LogSummary) : LogSummary :=
  { l with
    representativeLines := l.representativeLines.map (boundedText u 500)
    fingerprints := l.fingerprints.map (boundedText u 500) }

/-- `redact_patch`, `ai/context.py:91`. -/
def SourceDiff.validated (d : SourceDiff) : SourceDiff :=
  { d with patch := boundedText u 4000 d.patch }

/-- `redact_summary`, `ai/context.py:109`. -/
def HistoricalIncident.validated (h : HistoricalIncident) : HistoricalIncident :=
  { h with summary := h.summary.map (boundedText u 2000) }

/-- What the validators of the fields make of a context. -/
def RawContext.validated (c : RawContext) : RawContext :=
  { c with
    untrustedEvidence := { c.untrustedEvidence with
      logs := c.untrustedEvidence.logs.map (·.validated u)
      gitChanges := c.untrustedEvidence.gitChanges.map (·.validated u)
      historicalIncidents := c.untrustedEvidence.historicalIncidents.map (·.validated u) } }

end Validated

/-- A text of at least one character and at most a number of them. -/
abbrev Within (limit : Nat) (text : String) : Prop := 1 ≤ text.length ∧ text.length ≤ limit

/-- The bounds of `IncidentMetadata`. -/
@[mk_iff]
structure IncidentMetadata.Valid (m : IncidentMetadata) : Prop where
  incidentId : Within 64 m.incidentId
  service : Within 255 m.service
  environment : Within 32 m.environment
  severity : Within 32 m.severity
  category : Within 128 m.category
  alert : Within 255 m.alert
  ns : ∀ ns ∈ m.ns, ns.length ≤ 253

/-- The bounds of `MetricSummary`. -/
@[mk_iff]
structure MetricSummary.Valid (m : MetricSummary) : Prop where
  ref : Within 255 m.ref
  name : Within 255 m.name
  window : Within 64 m.window
  summary : ∀ summary ∈ m.summary, summary.length ≤ 2000

/-- The bounds of `LogSummary`. -/
@[mk_iff]
structure LogSummary.Valid (l : LogSummary) : Prop where
  ref : Within 255 l.ref
  representativeLines : l.representativeLines.length ≤ 20
  fingerprints : l.fingerprints.length ≤ 20

/-- The bounds of `TraceSummary`. -/
@[mk_iff]
structure TraceSummary.Valid (t : TraceSummary) : Prop where
  ref : Within 255 t.ref
  criticalPath : t.criticalPath.length ≤ 20
  slowSpans : t.slowSpans.length ≤ 20
  errorSpans : t.errorSpans.length ≤ 20
  serviceGraphSummary : ∀ summary ∈ t.serviceGraphSummary, summary.length ≤ 2000

/-- The bounds of `SourceDiff`. -/
@[mk_iff]
structure SourceDiff.Valid (d : SourceDiff) : Prop where
  ref : Within 255 d.ref
  repository : Within 255 d.repository
  commitSha : 7 ≤ d.commitSha.length ∧ d.commitSha.length ≤ 64
  previousCommitSha : 7 ≤ d.previousCommitSha.length ∧ d.previousCommitSha.length ≤ 64
  file : Within 500 d.file
  status : Within 32 d.status
  patch : d.patch.length ≤ 4000

/-- The bounds of `HistoricalIncident`. -/
@[mk_iff]
structure HistoricalIncident.Valid (h : HistoricalIncident) : Prop where
  ref : Within 255 h.ref
  incidentId : Within 64 h.incidentId
  matchReasons : h.matchReasons.length ≤ 10
  rootCauseCategory : ∀ category ∈ h.rootCauseCategory, category.length ≤ 128
  result : Within 64 h.result
  summary : ∀ summary ∈ h.summary, summary.length ≤ 2000

/-- The bounds of `RunbookOption`. -/
@[mk_iff]
structure RunbookOption.Valid (r : RunbookOption) : Prop where
  id : 3 ≤ r.id.length ∧ r.id.length ≤ 255
  version : 1 ≤ r.version
  actions : 1 ≤ r.actions.length ∧ r.actions.length ≤ 5

/-- The bounds of `UntrustedEvidence`. -/
@[mk_iff]
structure UntrustedEvidence.Valid (e : UntrustedEvidence) : Prop where
  metrics : e.metrics.length ≤ 20 ∧ ∀ m ∈ e.metrics, m.Valid
  logs : e.logs.length ≤ 10 ∧ ∀ l ∈ e.logs, l.Valid
  traces : e.traces.length ≤ 10 ∧ ∀ t ∈ e.traces, t.Valid
  gitChanges : e.gitChanges.length ≤ 20 ∧ ∀ d ∈ e.gitChanges, d.Valid
  historicalIncidents : e.historicalIncidents.length ≤ 10 ∧ ∀ h ∈ e.historicalIncidents, h.Valid

/-- The bounds of `IncidentContext`, and `enforce_total_size`, `ai/context.py:140`. -/
@[mk_iff]
structure RawContext.Valid (c : RawContext) : Prop where
  incident : c.incident.Valid
  untrustedEvidence : c.untrustedEvidence.Valid
  availableRunbooks : c.availableRunbooks.length ≤ 50 ∧ ∀ r ∈ c.availableRunbooks, r.Valid
  complexityScore : c.complexityScore ≤ 100
  size : (Json.compact c.dump).length ≤ 60000

instance (m : IncidentMetadata) : Decidable m.Valid := decidable_of_iff' _ (IncidentMetadata.valid_iff m)

instance (m : MetricSummary) : Decidable m.Valid := decidable_of_iff' _ (MetricSummary.valid_iff m)

instance (l : LogSummary) : Decidable l.Valid := decidable_of_iff' _ (LogSummary.valid_iff l)

instance (t : TraceSummary) : Decidable t.Valid := decidable_of_iff' _ (TraceSummary.valid_iff t)

instance (d : SourceDiff) : Decidable d.Valid := decidable_of_iff' _ (SourceDiff.valid_iff d)

instance (h : HistoricalIncident) : Decidable h.Valid := decidable_of_iff' _ (HistoricalIncident.valid_iff h)

instance (r : RunbookOption) : Decidable r.Valid := decidable_of_iff' _ (RunbookOption.valid_iff r)

instance (e : UntrustedEvidence) : Decidable e.Valid := decidable_of_iff' _ (UntrustedEvidence.valid_iff e)

instance (c : RawContext) : Decidable c.Valid := decidable_of_iff' _ (RawContext.valid_iff c)

/-- `IncidentContext`, `ai/context.py:132`. -/
structure IncidentContext extends RawContext where
  valid : toRawContext.Valid

/-- `evidence_refs`, `ai/context.py:147`. -/
def RawContext.evidenceRefs (c : RawContext) : List String :=
  let e := c.untrustedEvidence
  "incident:metadata" :: (e.metrics.map (·.ref) ++ e.logs.map (·.ref) ++ e.traces.map (·.ref) ++
    e.gitChanges.map (·.ref) ++ e.historicalIncidents.map (·.ref) ++
    (if e.kubernetesSummary ≠ [] then ["kubernetes:summary"] else []) ++
    (if e.deployment ≠ [] then ["deployment:current"] else []))

/-- `runbook_ids`, `ai/context.py:161`. -/
def RawContext.runbookIds (c : RawContext) : List String := c.availableRunbooks.map (·.id)

/-- `IncidentContext.model_validate`, on a context whose fields have their types. -/
def modelValidate (u : Unicode) (c : RawContext) : Option IncidentContext :=
  if h : (c.validated u).Valid then some ⟨c.validated u, h⟩ else none

/-- `IncidentContextBuilder.build`, `ai/context.py:168`. -/
def IncidentContextBuilder.build (u : Unicode) (raw : RawContext) : Option IncidentContext :=
  modelValidate u (raw.redacted u)

theorem IncidentContextBuilder.build_eq_some {u : Unicode} {raw : RawContext}
    {context : IncidentContext} :
    build u raw = some context ↔ (raw.redacted u).validated u = context.toRawContext := by
  unfold build modelValidate
  generalize (raw.redacted u).validated u = validated
  constructor
  · intro h
    split at h
    · exact congrArg IncidentContext.toRawContext (Option.some.inj h)
    · cases h
  · rintro rfl
    rw [dif_pos context.valid]

end CloudWard.Ai
