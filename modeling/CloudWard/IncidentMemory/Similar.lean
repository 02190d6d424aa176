import CloudWard.IncidentMemory.Capture
import CloudWard.Logic.Ranking

/-!
# Similar incidents

`incident_memory/fingerprint.py` and `incident_memory/service.py`: the fingerprint of an incident,
the row that is remembered of it, and the rows that are found for a query. The fingerprint is the
text that the source hashes, as a record; rows that no query reads are left out, and so are the
columns that only an answer of the API shows.
-/

namespace CloudWard.IncidentMemory

open CloudWard.Alerts CloudWard.Logic CloudWard.Remediation CloudWard.Security Python Redaction

/-! ### Fingerprints -/

/-- A letter that `normalize_component` keeps. -/
def componentLetter (c : Char) : Bool :=
  ('a' ≤ c && c ≤ 'z') || c.isDigit || c ∈ ['.', '_', '/', '-']

/-- `re.sub(r"\s+", "-", text)`. -/
def dashed : List Char → List Char
  | [] => []
  | c :: rest =>
    if isSpace c then
      if rest.head?.any isSpace then dashed rest else '-' :: dashed rest
    else c :: dashed rest

/-- `normalize_component`, `incident_memory/fingerprint.py:34`. -/
def normalizeComponent (value : Option String) : String :=
  match value with
  | none => "unknown"
  | some value =>
    let lowered := lower (String.ofList (strip value.toList))
    let normalized := (dashed lowered).filter componentLetter
    if normalized = [] then "unknown" else String.ofList (normalized.take 255)

/-- `FingerprintInput`, `incident_memory/fingerprint.py:43`. -/
structure FingerprintInput where
  service : String
  incidentType : String
  alertName : String
  ns : Option String
  rootCauseCategory : Option String := none
  labels : Labels

/-- The bounds of a `FingerprintInput`. -/
@[mk_iff]
structure FingerprintInput.Valid (q : FingerprintInput) : Prop where
  service : 1 ≤ q.service.length ∧ q.service.length ≤ 255
  incidentType : 1 ≤ q.incidentType.length ∧ q.incidentType.length ≤ 128
  alertName : 1 ≤ q.alertName.length ∧ q.alertName.length ≤ 255
  ns : ∀ ns ∈ q.ns, ns.length ≤ 253
  rootCauseCategory : ∀ category ∈ q.rootCauseCategory, category.length ≤ 128
  labels : BoundLabels q.labels

instance (q : FingerprintInput) : Decidable q.Valid :=
  decidable_of_iff' _ (FingerprintInput.valid_iff q)

/-- `FingerprintInput(...)`. -/
def FingerprintInput.validate (q : FingerprintInput) : Except Exc FingerprintInput :=
  if q.Valid then .ok q else .error .validation

/-- What `canonical` returns, `incident_memory/fingerprint.py:62`. -/
structure Canonical where
  service : String
  incidentType : String
  alertName : String
  ns : String
  rootCauseCategory : String
  labels : List (String × String)
deriving DecidableEq

/-- The labels of a fingerprint, by key. -/
def canonicalLabels (labels : Labels) : List (String × String) :=
  ((labels.entries.filter fun entry ↦ entry.1 ∈ defaultStableLabels).map fun entry ↦
    (entry.1, normalizeComponent (some entry.2))).mergeSort fun a b ↦ a.1 ≤ b.1

/-- `canonical`, `incident_memory/fingerprint.py:62`; `incident_fingerprint` hashes it. -/
def FingerprintInput.canonical (q : FingerprintInput) : Canonical where
  service := normalizeComponent (some q.service)
  incidentType := normalizeComponent (some q.incidentType)
  alertName := normalizeComponent (some q.alertName)
  ns := normalizeComponent q.ns
  rootCauseCategory := normalizeComponent q.rootCauseCategory
  labels := canonicalLabels q.labels

/-! ### Rows -/

/-- `IncidentMemoryRecord`, `incident_memory/models.py:27`, as far as a query reads it. -/
structure IncidentMemoryRecord where
  incidentId : Nat
  fingerprint : Canonical
  serviceKey : String
  incidentType : String
  alertName : String
  ns : Option String
  rootCauseCategory : Option String
  action : Option String
  result : String
  verificationSuccess : Option Bool
  durationSeconds : Option Nat
  successful : Bool
  resolvedAt : Nat
  operatorSummary : Option String

/-- The fingerprint input of a memory, `incident_memory/service.py:32`. -/
def MemoryWrite.fingerprintInput (m : MemoryWrite) : FingerprintInput where
  service := m.service
  incidentType := m.incidentType
  alertName := m.alertName
  ns := m.ns
  rootCauseCategory := m.rootCauseCategory
  labels := m.labels

/-- The row of a memory, `incident_memory/service.py:48`. -/
def MemoryWrite.record (u : Unicode) (m : MemoryWrite) : IncidentMemoryRecord :=
  let canonical := m.fingerprintInput.canonical
  { incidentId := m.incidentId
    fingerprint := canonical
    serviceKey := canonical.service
    incidentType := canonical.incidentType
    alertName := canonical.alertName
    ns := m.ns
    rootCauseCategory := m.rootCauseCategory
    action := m.action.map (·.value)
    result := m.result
    verificationSuccess := m.verificationSuccess
    durationSeconds := some m.durationSeconds
    successful := m.verificationSuccess = some true ∧ m.result.toUpper ∈ ["RESOLVED", "SUCCEEDED"]
    resolvedAt := m.resolvedAt
    operatorSummary := some (redactText u m.operatorSummary) }

/-- `remember`, `incident_memory/service.py:31`: one row for each incident. -/
def remember (u : Unicode) (rows : List IncidentMemoryRecord) (m : MemoryWrite) :
    List IncidentMemoryRecord :=
  if rows.any (·.incidentId = m.incidentId) then
    rows.map fun row ↦ if row.incidentId = m.incidentId then m.record u else row
  else rows ++ [m.record u]

/-! ### Queries -/

/-- `RankedMemory`, `incident_memory/service.py:19`. -/
structure RankedMemory where
  record : IncidentMemoryRecord
  score : Nat
  reasons : List String

/-- What speaks for a row, with its points, `incident_memory/service.py:138`. -/
def signals (record : IncidentMemoryRecord) (query : FingerprintInput) : List (Bool × Nat × String) :=
  let canonical := query.canonical
  [(record.fingerprint = canonical, 65, "same fingerprint"),
    (record.serviceKey = canonical.service, 30, "same service"),
    (record.incidentType = canonical.incidentType, 20, "same incident type"),
    (record.alertName = canonical.alertName, 12, "same alert"),
    (record.ns.any (· ≠ "") ∧ record.ns = query.ns, 6, "same namespace"),
    (record.rootCauseCategory.any (· ≠ "") ∧ record.rootCauseCategory = query.rootCauseCategory, 15,
      "same root cause"),
    (record.successful, 4, "verified successful outcome")]

/-- `_rank`, `incident_memory/service.py:130`. -/
def rank (record : IncidentMemoryRecord) (query : FingerprintInput) : RankedMemory :=
  if record.serviceKey ≠ query.canonical.service then ⟨record, 0, []⟩
  else
    let held := (signals record query).filter (·.1)
    ⟨record, min (held.map (·.2.1)).sum 100, held.map (·.2.2)⟩

/-- `SimilarIncidentResponse`, `incident_memory/schemas.py:36`. -/
structure SimilarIncidentResponse where
  incidentId : Nat
  matchScore : Nat
  matchReasons : List String
  rootCauseCategory : Option String
  action : Option ActionType
  result : String
  verificationSuccess : Option Bool
  durationSeconds : Option Nat
  successful : Bool
  operatorSummary : Option String

/-- The actions, in the order of their enumeration. -/
def actionTypes : List ActionType :=
  [.deleteUnhealthyPod, .restartPod, .scaleStagingDeployment, .scaleWorkload, .revertImage,
    .rollbackDeployment, .applyQuarantine, .quarantineWorkload, .removeQuarantine,
    .createGitopsPr, .createTerraformPr, .createGithubIssue, .requestApproval, .noAction]

/-- `ActionType(record.action) if record.action else None`. -/
def actionOf (record : IncidentMemoryRecord) : Except Exc (Option ActionType) :=
  match record.action with
  | none => .ok none
  | some text =>
    if text = "" then .ok none
    else
      match actionTypes.find? (·.value = text) with
      | some action => .ok (some action)
      | none => .error .validation

/-- The answer for a row, with its action. -/
def answerWith (value : RankedMemory) (action : Option ActionType) : SimilarIncidentResponse where
  incidentId := value.record.incidentId
  matchScore := value.score
  matchReasons := value.reasons
  rootCauseCategory := value.record.rootCauseCategory
  action := action
  result := value.record.result
  verificationSuccess := value.record.verificationSuccess
  durationSeconds := value.record.durationSeconds
  successful := value.record.successful
  operatorSummary := value.record.operatorSummary

/-- `_response`, `incident_memory/service.py:161`. -/
def response (value : RankedMemory) : Except Exc SimilarIncidentResponse :=
  (answerWith value) <$> actionOf value.record

/-- The order of the rows of a table, the newest first. -/
def newerFirst (a b : IncidentMemoryRecord) : Bool := b.resolvedAt ≤ a.resolvedAt

/-- The order of a ranking: by score, success and time, all descending. -/
def rankedFirst (a b : RankedMemory) : Bool :=
  b.score < a.score ∨ a.score = b.score ∧
    ((a.record.successful ∧ ¬ b.record.successful) ∨
      a.record.successful = b.record.successful ∧ b.record.resolvedAt ≤ a.record.resolvedAt)

/-- The rows a query selects, `incident_memory/service.py:99`. -/
def selected (rows : List IncidentMemoryRecord) (query : FingerprintInput) (excluded limit : Nat) :
    List RankedMemory :=
  let records := ((rows.filter (·.incidentId ≠ excluded)).mergeSort newerFirst).take 500
  let ranked := (records.map (rank · query)).filter (40 ≤ ·.score)
  (ranked.mergeSort rankedFirst).take (min (max limit 1) 20)

/-- `find_similar`, `incident_memory/service.py:84`. -/
def findSimilar (rows : List IncidentMemoryRecord) (query : FingerprintInput)
    (excluded limit : Nat) : Except Exc (List SimilarIncidentResponse) :=
  (selected rows query excluded limit).mapM response

/-! ### Answers -/

/-- The action of a row is one of the enumeration, if it has one. -/
def KnownAction (record : IncidentMemoryRecord) : Prop :=
  ∀ text ∈ record.action, text ≠ "" → text ∈ actionTypes.map (·.value)

/-- The answer for a row whose action is known. -/
def answer (value : RankedMemory) : SimilarIncidentResponse :=
  answerWith value (value.record.action.bind fun text ↦ actionTypes.find? (·.value = text))

private theorem actionOf_eq_ok {record : IncidentMemoryRecord} {action : Option ActionType} :
    actionOf record = .ok action ↔
      KnownAction record ∧
        (record.action.bind fun text ↦ actionTypes.find? (·.value = text)) = action := by
  unfold actionOf KnownAction
  cases record.action with
  | none =>
    constructor
    · exact fun h ↦ ⟨fun _ htext ↦ absurd htext (Option.not_mem_none _), Except.ok.inj h⟩
    · exact fun h ↦ congrArg Except.ok h.2
  | some text =>
    simp only [Option.mem_def, Option.some.injEq, forall_eq', Option.bind_some]
    by_cases htext : text = ""
    · subst htext
      have hempty : actionTypes.find? (·.value = "") = none := by decide
      rw [if_pos rfl, hempty]
      exact ⟨fun h ↦ ⟨fun hne ↦ absurd rfl hne, Except.ok.inj h⟩, fun h ↦ congrArg Except.ok h.2⟩
    · rw [if_neg htext]
      cases hfind : actionTypes.find? (·.value = text) with
      | none =>
        refine iff_of_false (fun h ↦ nomatch h) fun h ↦ ?_
        obtain ⟨found, hmem, hvalue⟩ := List.mem_map.mp (h.1 htext)
        have hnot := List.find?_eq_none.mp hfind found hmem
        exact hnot (decide_eq_true hvalue)
      | some found =>
        have hvalue : found.value = text := by
          have hfound := List.find?_some hfind
          simpa using hfound
        have hmem : text ∈ actionTypes.map (·.value) :=
          List.mem_map.mpr ⟨found, List.mem_of_find?_eq_some hfind, hvalue⟩
        exact ⟨fun h ↦ ⟨fun _ ↦ hmem, Except.ok.inj h⟩, fun h ↦ congrArg Except.ok h.2⟩

private theorem response_eq_ok {value : RankedMemory} {result : SimilarIncidentResponse} :
    response value = .ok result ↔ KnownAction value.record ∧ answer value = result := by
  unfold response answer
  cases haction : actionOf value.record with
  | error e =>
    refine iff_of_false (fun h ↦ nomatch h) fun h ↦ ?_
    rw [actionOf_eq_ok.mpr ⟨h.1, rfl⟩] at haction
    cases haction
  | ok action =>
    obtain ⟨hknown, rfl⟩ := actionOf_eq_ok.mp haction
    exact ⟨fun h ↦ ⟨hknown, Except.ok.inj h⟩, fun h ↦ congrArg Except.ok h.2⟩

/-- Some rows are answered with if their actions are known. -/
theorem mapM_response_eq_ok {values : List RankedMemory} {result : List SimilarIncidentResponse} :
    values.mapM response = .ok result ↔
      (∀ value ∈ values, KnownAction value.record) ∧ values.map answer = result :=
  mapM_eq_ok fun _ _ ↦ response_eq_ok

/-- A query answers with the selected rows, if their actions are known. -/
theorem findSimilar_eq_ok {rows : List IncidentMemoryRecord} {query : FingerprintInput}
    {excluded limit : Nat} {result : List SimilarIncidentResponse} :
    findSimilar rows query excluded limit = .ok result ↔
      (∀ value ∈ selected rows query excluded limit, KnownAction value.record) ∧
        (selected rows query excluded limit).map answer = result :=
  mapM_response_eq_ok

end CloudWard.IncidentMemory
