import CloudWard.Ai.References

/-!
# When a context is built

`_evidence_payload` cuts its texts before they are redacted, and bounds neither the rows of a kind
nor the summaries. A context is built where each of them fits its schema as it is.
-/

namespace CloudWard.Ai

open CloudWard.Alerts CloudWard.ClusterAgent CloudWard.IncidentMemory CloudWard.Logic
  CloudWard.Remediation CloudWard.Runbooks CloudWard.Security Python Redaction

variable {py : Conversions} {s : Sources} {item : StoredEvidence}

/-- A text that has at least one character and at most a number of them when it is redacted. -/
abbrev Redactable (u : Unicode) (limit : Nat) (text : String) : Prop :=
  Within limit (redactText u text)

/-- The name of a metric row, `ai/incident_context.py:112`. -/
def metricName (py : Conversions) (item : StoredEvidence) : String :=
  cut 255 (str py (getOr (payloadOf item) "metric" (getOr (payloadOf item) "name" (.str "metric"))))

/-- What a changed file must be. -/
structure FileFits (py : Conversions) (item : StoredEvidence) (file : Json) : Prop where
  repository : Redactable py.unicode 255 (sourceDiff py item file).repository
  commit : 7 ≤ (redactText py.unicode (sourceDiff py item file).commitSha).length ∧
    (redactText py.unicode (sourceDiff py item file).commitSha).length ≤ 64
  previousCommit : 7 ≤ (redactText py.unicode (sourceDiff py item file).previousCommitSha).length ∧
    (redactText py.unicode (sourceDiff py item file).previousCommitSha).length ≤ 64
  path : Redactable py.unicode 500 (sourceDiff py item file).file
  status : Redactable py.unicode 32 (sourceDiff py item file).status

/-- The changed files of the newest rows, each with its row. -/
def Sources.files (s : Sources) : List (StoredEvidence × Json) :=
  (ofKind .git s.newest).flatMap fun item ↦ (gitFiles item).map fun file ↦ (item, file)

/-- The similar incidents of the builder's query. -/
def Sources.similar (s : Sources) : List RankedMemory :=
  selected s.memories s.query s.incidentId 5

/-- The context that is checked: redacted, and cut where the schema cuts. -/
def Sources.candidate (py : Conversions) (s : Sources) : RawContext :=
  ((s.around py (gathered py s.newest (s.similar.map answer))).redacted py.unicode).validated
    py.unicode

/-- What the rows of an incident must be for its context to be built. -/
structure Fits (py : Conversions) (s : Sources) : Prop where
  query : s.query.Valid
  service : (redactText py.unicode s.serviceKey).length ≤ 255
  severity : Redactable py.unicode 32 s.incident.severity
  category : (redactText py.unicode s.incident.incidentType).length ≤ 128
  alert : (redactText py.unicode s.incident.title).length ≤ 255
  ns : ∀ service ∈ s.linked, (redactText py.unicode service.ns).length ≤ 253
  metrics : (ofKind .metric s.newest).length ≤ 20 ∧ ∀ item ∈ ofKind .metric s.newest,
    Floats item ∧ Redactable py.unicode 255 (metricName py item) ∧
      (redactText py.unicode item.summary).length ≤ 2000
  logs : (ofKind .log s.newest).length ≤ 10
  traces : (ofKind .trace s.newest).length ≤ 10 ∧ ∀ item ∈ ofKind .trace s.newest,
    (redactText py.unicode item.summary).length ≤ 2000
  files : s.files.length ≤ 20 ∧ ∀ change ∈ s.files, FileFits py change.1 change.2
  memories : ∀ value ∈ s.similar, KnownAction value.record ∧
    Redactable py.unicode 64 value.record.result ∧
      ∀ category ∈ value.record.rootCauseCategory, (redactText py.unicode category).length ≤ 128
  runbooks : s.runbooks.length ≤ 50 ∧ ∀ runbook ∈ s.runbooks,
    3 ≤ (redactText py.unicode runbook.id).length ∧ (redactText py.unicode runbook.id).length ≤ 255
  size : (Json.compact (s.candidate py).dump).length ≤ 60000

/-! ### Texts that always fit -/

private theorem within_uuid (id : Uuid) : Within 64 (redactText py.unicode id.text) := by
  rw [redactText_uuid, Within, id.length_text]
  decide

private theorem within_evidenceRef (u : Unicode) (item : StoredEvidence) :
    Within 255 (redactText u (evidenceRef item)) := by
  have hword : "evidence:".length = 9 := by decide
  rw [evidenceRef, redactText_evidence, Within, String.length_append, item.uuid.length_text, hword]
  decide

private theorem within_history (u : Unicode) (id : Uuid) :
    Within 255 (redactText u ("history:" ++ id.text)) := by
  have hword : "history:".length = 8 := by decide
  rw [redactText_history, Within, String.length_append, id.length_text, hword]
  decide

private theorem within_window (u : Unicode) (item : StoredEvidence) :
    Within 64 (redactText u (window item)) := by
  unfold window
  split
  · next start «end» _ hend =>
    have hlt := item.windowEnd_lt «end» hend
    have hdigits : (toString ((«end» - start) / 1000000)).length ≤ 12 :=
      (Nat.length_repr_le_iff (by omega)).mpr (by omega)
    have hs : "s".length = 1 := by decide
    rw [redactText_seconds, Within, String.length_append, hs]
    omega
  · have hrests : restsOf (stringRules bareTable) "bounded" = [] := by decide +kernel
    rw [redactText_of_restsOf u hrests]
    decide

private theorem within_environment (u : Unicode) (environment : Environment) :
    Within 32 (redactText u environment.value) := by
  have hwords : ∀ word ∈ ["local", "staging", "production"],
      restsOf (stringRules bareTable) word = [] := by decide +kernel
  cases environment with
  | «local» =>
    rw [redactText_of_restsOf u (hwords _ (by decide))]
    decide
  | staging =>
    rw [redactText_of_restsOf u (hwords _ (by decide))]
    decide
  | production =>
    rw [redactText_of_restsOf u (hwords _ (by decide))]
    decide

private theorem length_boundedText_le (u : Unicode) (limit : Nat) (text : String) :
    (boundedText u limit text).length ≤ limit := length_cut_le _ _

private theorem one_le_length_redactText {u : Unicode} {text : String} (h : 1 ≤ text.length) :
    1 ≤ (redactText u text).length := one_le_length_masked h

/-! ### Records -/

private theorem metric_valid_iff {points : List String} :
    ((metricSummary py item points).redacted py.unicode).Valid ↔
      Redactable py.unicode 255 (metricName py item) ∧
        (redactText py.unicode item.summary).length ≤ 2000 := by
  constructor
  · exact fun h ↦ ⟨h.name, h.summary _ rfl⟩
  · rintro ⟨hname, hsummary⟩
    constructor
    · exact within_evidenceRef _ _
    · exact hname
    · exact within_window _ _
    · intro summary hmem
      have hsome : some (redactText py.unicode item.summary) = some summary := hmem
      rw [← Option.some.inj hsome]
      exact hsummary

private theorem log_valid_iff :
    (((logSummary py item).redacted py.unicode).validated py.unicode).Valid ↔ True := by
  rw [iff_true]
  constructor
  · exact within_evidenceRef _ _
  · simp [LogSummary.validated, LogSummary.redacted, logSummary]
  · simp [LogSummary.validated, LogSummary.redacted, logSummary]

private theorem trace_valid_iff :
    ((traceSummary py item).redacted py.unicode).Valid ↔
      (redactText py.unicode item.summary).length ≤ 2000 := by
  constructor
  · exact fun h ↦ h.serviceGraphSummary _ rfl
  · intro hsummary
    constructor
    · exact within_evidenceRef _ _
    · simp [TraceSummary.redacted, traceSummary]
    · simp [TraceSummary.redacted, traceSummary]
    · simp [TraceSummary.redacted, traceSummary]
    · intro summary hmem
      have hsome : some (redactText py.unicode item.summary) = some summary := hmem
      rw [← Option.some.inj hsome]
      exact hsummary

private theorem diff_valid_iff {file : Json} :
    (((sourceDiff py item file).redacted py.unicode).validated py.unicode).Valid ↔
      FileFits py item file := by
  constructor
  · exact fun h ↦ ⟨h.repository, h.commitSha, h.previousCommitSha, h.file, h.status⟩
  · intro h
    constructor
    · exact within_evidenceRef _ _
    · exact h.repository
    · exact h.commit
    · exact h.previousCommit
    · exact h.path
    · exact h.status
    · exact length_boundedText_le _ _ _

private theorem length_reasons_le (record : IncidentMemoryRecord) (query : FingerprintInput) :
    (rank record query).reasons.length ≤ 10 := by
  unfold rank
  split
  · exact Nat.zero_le _
  · rw [List.length_map]
    exact (List.length_filter_le _ _).trans (by simp [signals])

private theorem historical_valid_iff {value : RankedMemory} (hreasons : value.reasons.length ≤ 10) :
    (((historicalIncident py (answer value)).redacted py.unicode).validated py.unicode).Valid ↔
      Redactable py.unicode 64 value.record.result ∧
        ∀ category ∈ value.record.rootCauseCategory,
          (redactText py.unicode category).length ≤ 128 := by
  constructor
  · intro h
    refine ⟨h.result, fun category hcategory ↦ ?_⟩
    exact h.rootCauseCategory _ (Option.mem_map_of_mem _ hcategory)
  · rintro ⟨hresult, hcategories⟩
    constructor
    · exact within_history _ _
    · exact within_uuid _
    · show (value.reasons.map (redactText py.unicode)).length ≤ 10
      rwa [List.length_map]
    · intro category hcategory
      obtain ⟨original, horiginal, rfl⟩ := Option.mem_map.mp hcategory
      exact hcategories original horiginal
    · exact hresult
    · intro summary hsummary
      obtain ⟨original, -, rfl⟩ := Option.mem_map.mp hsummary
      exact length_boundedText_le _ _ _

private theorem runbook_valid_iff {runbook : RunbookDocument} :
    (RunbookOption.redacted py.unicode ⟨runbook.id, runbook.version, [runbook.action]⟩).Valid ↔
      3 ≤ (redactText py.unicode runbook.id).length ∧
        (redactText py.unicode runbook.id).length ≤ 255 := by
  constructor
  · exact fun h ↦ h.id
  · exact fun h ↦ ⟨h, runbook.version_pos, by simp [RunbookOption.redacted]⟩

/-! ### Contexts -/

private theorem metadata_valid_iff (hquery : s.query.Valid) :
    ((s.metadata py).redacted py.unicode).Valid ↔
      (redactText py.unicode s.serviceKey).length ≤ 255 ∧
        Redactable py.unicode 32 s.incident.severity ∧
          (redactText py.unicode s.incident.incidentType).length ≤ 128 ∧
            (redactText py.unicode s.incident.title).length ≤ 255 ∧
              ∀ service ∈ s.linked, (redactText py.unicode service.ns).length ≤ 253 := by
  constructor
  · intro h
    refine ⟨h.service.2, h.severity, h.category.2, h.alert.2, fun service hservice ↦ ?_⟩
    exact h.ns _ (Option.mem_map_of_mem _ (Option.mem_map_of_mem _ hservice))
  · rintro ⟨hservice, hseverity, hcategory, halert, hns⟩
    constructor
    · exact within_uuid _
    · exact ⟨one_le_length_redactText hquery.service.1, hservice⟩
    · exact within_environment _ _
    · exact hseverity
    · exact ⟨one_le_length_redactText hquery.incidentType.1, hcategory⟩
    · exact ⟨one_le_length_redactText hquery.alertName.1, halert⟩
    · intro ns hmem
      obtain ⟨original, horiginal, rfl⟩ := Option.mem_map.mp hmem
      obtain ⟨service, hservice, rfl⟩ := Option.mem_map.mp horiginal
      exact hns service hservice

private theorem forall_map_valid {α β γ : Type} {items : List α} {f : α → β} {g : β → γ}
    {P : γ → Prop} {Q : α → Prop} {n : Nat} (h : ∀ item ∈ items, P (g (f item)) ↔ Q item) :
    (((items.map f).map g).length ≤ n ∧ ∀ x ∈ (items.map f).map g, P x) ↔
      items.length ≤ n ∧ ∀ item ∈ items, Q item := by
  rw [List.length_map, List.length_map, List.forall_mem_map, List.forall_mem_map]
  exact and_congr_right fun _ ↦ forall₂_congr h

private theorem length_similar_le (s : Sources) : s.similar.length ≤ 5 := by
  unfold Sources.similar selected
  exact (List.length_take_le _ _).trans (by decide)

private theorem reasons_of_similar {value : RankedMemory} (h : value ∈ s.similar) :
    value.reasons.length ≤ 10 := by
  have hranked := (List.mergeSort_perm _ _).mem_iff.mp (List.mem_of_mem_take h)
  obtain ⟨record, -, rfl⟩ := List.mem_map.mp (List.mem_of_mem_filter hranked)
  exact length_reasons_le _ _

private theorem evidence_valid_iff :
    (s.candidate py).untrustedEvidence.Valid ↔
      ((ofKind .metric s.newest).length ≤ 20 ∧ ∀ item ∈ ofKind .metric s.newest,
        Redactable py.unicode 255 (metricName py item) ∧
          (redactText py.unicode item.summary).length ≤ 2000) ∧
      (ofKind .log s.newest).length ≤ 10 ∧
      ((ofKind .trace s.newest).length ≤ 10 ∧ ∀ item ∈ ofKind .trace s.newest,
        (redactText py.unicode item.summary).length ≤ 2000) ∧
      (s.files.length ≤ 20 ∧ ∀ change ∈ s.files, FileFits py change.1 change.2) ∧
      ∀ value ∈ s.similar, Redactable py.unicode 64 value.record.result ∧
        ∀ category ∈ value.record.rootCauseCategory,
          (redactText py.unicode category).length ≤ 128 := by
  let e := (s.candidate py).untrustedEvidence
  have hmetrics : e.metrics = ((ofKind .metric s.newest).map fun item ↦
      metricSummary py item (pointTexts py item)).map (·.redacted py.unicode) := rfl
  have hlogs : e.logs = ((ofKind .log s.newest).map (logSummary py)).map
      fun l ↦ (l.redacted py.unicode).validated py.unicode := by
    show List.map _ (List.map _ ([] ++ (ofKind .log s.newest).map (logSummary py))) = _
    rw [List.map_map]
    rfl
  have htraces : e.traces = ((ofKind .trace s.newest).map (traceSummary py)).map
      (·.redacted py.unicode) := rfl
  have hfiles : e.gitChanges = (s.files.map fun change ↦ sourceDiff py change.1 change.2).map
      fun d ↦ (d.redacted py.unicode).validated py.unicode := by
    have hchanges : (s.files.map fun change ↦ sourceDiff py change.1 change.2) =
        (ofKind .git s.newest).flatMap fun item ↦ (gitFiles item).map (sourceDiff py item) := by
      simp only [Sources.files, List.map_flatMap, List.map_map]
      rfl
    rw [hchanges]
    show List.map _ (List.map _ ([] ++ _)) = _
    rw [List.map_map]
    rfl
  have hhistory : e.historicalIncidents =
      (s.similar.map fun value ↦ historicalIncident py (answer value)).map
        fun h ↦ (h.redacted py.unicode).validated py.unicode := by
    have htake : ((s.similar.map answer).take 10).map (historicalIncident py) =
        s.similar.map fun value ↦ historicalIncident py (answer value) := by
      rw [List.take_of_length_le, List.map_map]
      · rfl
      · rw [List.length_map]
        exact (length_similar_le s).trans (by decide)
    rw [← htake]
    show List.map _ (List.map _ _) = _
    rw [List.map_map]
    rfl
  show e.Valid ↔ _
  rw [UntrustedEvidence.valid_iff, hmetrics, hlogs, htraces, hfiles, hhistory,
    forall_map_valid fun item _ ↦ metric_valid_iff,
    forall_map_valid (g := fun l : LogSummary ↦ (l.redacted py.unicode).validated py.unicode)
      fun item _ ↦ log_valid_iff,
    forall_map_valid fun item _ ↦ trace_valid_iff,
    forall_map_valid (g := fun d : SourceDiff ↦ (d.redacted py.unicode).validated py.unicode)
      fun change _ ↦ diff_valid_iff,
    forall_map_valid
      (g := fun h : HistoricalIncident ↦ (h.redacted py.unicode).validated py.unicode)
      fun value hvalue ↦ historical_valid_iff (reasons_of_similar hvalue)]
  have hlength : s.similar.length ≤ 10 := (length_similar_le s).trans (by decide)
  simp only [hlength, true_and, implies_true, and_true]

private theorem candidate_valid_iff :
    (s.candidate py).Valid ↔
      ((s.metadata py).redacted py.unicode).Valid ∧ (s.candidate py).untrustedEvidence.Valid ∧
        (s.runbooks.length ≤ 50 ∧ ∀ runbook ∈ s.runbooks,
          3 ≤ (redactText py.unicode runbook.id).length ∧
            (redactText py.unicode runbook.id).length ≤ 255) ∧
          (Json.compact (s.candidate py).dump).length ≤ 60000 := by
  have hrunbooks : (s.candidate py).availableRunbooks =
      (s.runbooks.map fun item ↦ RunbookOption.mk item.id item.version [item.action]).map
        (·.redacted py.unicode) := rfl
  have hcomplexity : (s.candidate py).complexityScore ≤ 100 := Nat.min_le_left _ _
  rw [RawContext.valid_iff, hrunbooks, forall_map_valid fun runbook _ ↦ runbook_valid_iff]
  exact ⟨fun ⟨h1, h2, h3, _, h4⟩ ↦ ⟨h1, h2, h3, h4⟩,
    fun ⟨h1, h2, h3, h4⟩ ↦ ⟨h1, h2, h3, hcomplexity, h4⟩⟩

/-- A context is built if and only if each part of the candidate is accepted. -/
private theorem exists_built_iff :
    (∃ context, buildIncidentContext py s = .ok context) ↔
      s.query.Valid ∧ (∀ value ∈ s.similar, KnownAction value.record) ∧
        (∀ item ∈ s.newest, Floats item) ∧ (s.candidate py).Valid := by
  constructor
  · rintro ⟨context, h⟩
    obtain ⟨hquery, historical, hsimilar, hfloats, hbuilt⟩ := buildIncidentContext_eq_ok.mp h
    obtain ⟨hknown, rfl⟩ := findSimilar_eq_ok.mp hsimilar
    refine ⟨hquery, hknown, hfloats, ?_⟩
    have hcandidate : s.candidate py = context.toRawContext :=
      IncidentContextBuilder.build_eq_some.mp hbuilt
    rw [hcandidate]
    exact context.valid
  · rintro ⟨hquery, hknown, hfloats, hvalid⟩
    refine ⟨⟨s.candidate py, hvalid⟩, buildIncidentContext_eq_ok.mpr
      ⟨hquery, _, findSimilar_eq_ok.mpr ⟨hknown, rfl⟩, hfloats, ?_⟩⟩
    exact IncidentContextBuilder.build_eq_some.mpr rfl

/-- A context is built if and only if the rows of the incident fit its schema as they are. -/
theorem exists_context_iff (py : Conversions) (s : Sources) :
    (∃ context, buildIncidentContext py s = .ok context) ↔ Fits py s := by
  rw [exists_built_iff]
  constructor
  · rintro ⟨hquery, hknown, hfloats, hvalid⟩
    obtain ⟨hmetadata, hevidence, hrunbooks, hsize⟩ := candidate_valid_iff.mp hvalid
    obtain ⟨hservice, hseverity, hcategory, halert, hns⟩ := (metadata_valid_iff hquery).mp hmetadata
    obtain ⟨hmetrics, hlogs, htraces, hfiles, hmemories⟩ := evidence_valid_iff.mp hevidence
    exact
      { query := hquery
        service := hservice
        severity := hseverity
        category := hcategory
        alert := halert
        ns := hns
        metrics := ⟨hmetrics.1, fun item hitem ↦
          ⟨hfloats item (List.mem_of_mem_filter hitem), hmetrics.2 item hitem⟩⟩
        logs := hlogs
        traces := htraces
        files := hfiles
        memories := fun value hvalue ↦ ⟨hknown value hvalue, hmemories value hvalue⟩
        runbooks := hrunbooks
        size := hsize }
  · intro h
    refine ⟨h.query, fun value hvalue ↦ (h.memories value hvalue).1, ?_, ?_⟩
    · intro item hitem hkind
      have hmem : item ∈ ofKind .metric s.newest :=
        List.mem_filter.mpr ⟨hitem, decide_eq_true hkind⟩
      exact (h.metrics.2 item hmem).1 hkind
    · rw [candidate_valid_iff, metadata_valid_iff h.query, evidence_valid_iff]
      exact ⟨⟨h.service, h.severity, h.category, h.alert, h.ns⟩,
        ⟨⟨h.metrics.1, fun item hitem ↦ (h.metrics.2 item hitem).2⟩, h.logs, h.traces, h.files,
          fun value hvalue ↦ (h.memories value hvalue).2⟩, h.runbooks, h.size⟩

/-! ### Eleven lines of log -/

/-- The rows of eleven lines of log. -/
private def elevenLogs : List StoredEvidence :=
  [⟨"0e1e7e00-1095-4000-8000-000000000001", rfl⟩, ⟨"0e1e7e00-1095-4000-8000-000000000002", rfl⟩,
    ⟨"0e1e7e00-1095-4000-8000-000000000003", rfl⟩, ⟨"0e1e7e00-1095-4000-8000-000000000004", rfl⟩,
    ⟨"0e1e7e00-1095-4000-8000-000000000005", rfl⟩, ⟨"0e1e7e00-1095-4000-8000-000000000006", rfl⟩,
    ⟨"0e1e7e00-1095-4000-8000-000000000007", rfl⟩, ⟨"0e1e7e00-1095-4000-8000-000000000008", rfl⟩,
    ⟨"0e1e7e00-1095-4000-8000-000000000009", rfl⟩, ⟨"0e1e7e00-1095-4000-8000-00000000000a", rfl⟩,
    ⟨"0e1e7e00-1095-4000-8000-00000000000b", rfl⟩].map fun uuid : Uuid ↦
      { oneRow .log with uuid }

private theorem nodup_elevenLogs : (elevenLogs.map (·.uuid)).Nodup := by decide +kernel

/-- Few rows are all among the newest. -/
private theorem newest_perm (s : Sources) (hown : ∀ item ∈ s.evidence, item.incidentId = s.incidentId)
    (hfew : s.evidence.length ≤ 80) : s.newest.Perm s.evidence := by
  have hfilter : s.evidence.filter (·.incidentId = s.incidentId) = s.evidence :=
    List.filter_eq_self.mpr fun item hitem ↦ decide_eq_true (hown item hitem)
  rw [Sources.newest, hfilter, List.take_of_length_le]
  · exact List.mergeSort_perm _ _
  · rwa [List.length_mergeSort]

/-- An incident with eleven lines of log has no context. -/
theorem not_exists_context_elevenLogs :
    ¬ ∃ context, buildIncidentContext plainPython
      { oneRowSources .log with evidence := elevenLogs, unique := nodup_elevenLogs } =
        .ok context := by
  rw [exists_built_iff]
  rintro ⟨-, -, -, hvalid⟩
  have hlogs := (evidence_valid_iff.mp (candidate_valid_iff.mp hvalid).2.1).2.1
  have hperm := newest_perm { oneRowSources .log with
    evidence := elevenLogs, unique := nodup_elevenLogs } (by decide) (by decide)
  rw [ofKind, ← List.countP_eq_length_filter, hperm.countP_eq] at hlogs
  exact absurd hlogs (by decide)

end CloudWard.Ai
