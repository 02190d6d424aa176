import CloudWard.Ai.Context
import CloudWard.Base.Uuid

/-!
# A redacted context

The dictionary that `redact_untrusted` makes of a raw context is the dump of its redacted record:
no field is masked for its name, and the words of the enumerations contain no secret.
-/

namespace CloudWard.Ai

open CloudWard.Logic CloudWard.Remediation CloudWard.Security Python Redaction

variable {u : Unicode}

/-- The keys of the records of a context. -/
def contextKeys : List String :=
  ["incident", "untrusted_evidence", "available_runbooks", "complexity_score", "incident_id",
    "service", "environment", "severity", "category", "alert", "namespace", "handling",
    "kubernetes_summary", "metrics", "logs", "traces", "deployment", "git_changes",
    "historical_incidents", "ref", "name", "before", "during", "window", "summary", "count",
    "representative_lines", "fingerprints", "critical_path", "slow_spans", "error_spans",
    "service_graph_summary", "repository", "commit_sha", "previous_commit_sha", "file", "status",
    "patch", "match_reasons", "root_cause_category", "action", "result", "verification_success",
    "duration_seconds", "id", "version", "actions"]

private theorem redact_record {entries : List (String × Json)}
    (h : entries.map (·.1) ⊆ contextKeys) (depth : Nat) :
    redactUntrusted u (depth + 1) (.dict entries) =
      .dict (entries.map fun entry ↦ (entry.1, redactUntrusted u depth entry.2)) := by
  have hkeys : ∀ key ∈ contextKeys, sensitiveKey key = false := by decide +kernel
  exact redactUntrusted_dict (fun entry hentry ↦ hkeys _ (h (List.mem_map_of_mem hentry))) depth

private theorem redact_str (depth : Nat) (text : String) :
    redactUntrusted u (depth + 1) (.str text) = .str (redactText u text) := by
  rw [redactUntrusted]

private theorem redact_int (depth : Nat) (n : Int) :
    redactUntrusted u (depth + 1) (.int n) = .int n := by
  rw [redactUntrusted]
  all_goals
    intro _ h
    cases h

private theorem redact_ofOption (depth : Nat) (text : Option String) :
    redactUntrusted u (depth + 1) (Json.ofOption text) =
      Json.ofOption (text.map (redactText u)) := by
  cases text with
  | none => rfl
  | some text => exact redact_str depth text

private theorem redact_ofTexts (depth : Nat) (texts : List String) :
    redactUntrusted u (depth + 2) (ofTexts texts) = ofTexts (texts.map (redactText u)) := by
  unfold ofTexts
  rw [redactUntrusted, List.map_map, List.map_map]
  exact congrArg Json.list (List.map_congr_left fun text _ ↦ redact_str depth text)

private theorem redact_list {α : Type} (depth : Nat) (items : List α) {dump : α → Json}
    {redacted : α → α}
    (h : ∀ item ∈ items, redactUntrusted u depth (dump item) = dump (redacted item)) :
    redactUntrusted u (depth + 1) (.list (items.map dump)) =
      .list ((items.map redacted).map dump) := by
  rw [redactUntrusted, List.map_map, List.map_map]
  exact congrArg Json.list (List.map_congr_left h)

/-! ### Words -/

/-- The words a context is made of. -/
private def contextWords : List String :=
  ["UNTRUSTED_DATA", "DELETE_UNHEALTHY_POD", "RESTART_POD", "SCALE_STAGING_DEPLOYMENT",
    "SCALE_WORKLOAD", "REVERT_IMAGE", "ROLLBACK_DEPLOYMENT", "APPLY_QUARANTINE",
    "QUARANTINE_WORKLOAD", "REMOVE_QUARANTINE", "CREATE_GITOPS_PR", "CREATE_TERRAFORM_PR",
    "CREATE_GITHUB_ISSUE", "REQUEST_APPROVAL", "NO_ACTION"]

private theorem redactText_word {word : String} (h : word ∈ contextWords) :
    redactText u word = word := by
  have hwords : ∀ word ∈ contextWords, restsOf (stringRules bareTable) word = [] := by
    decide +kernel
  exact redactText_of_restsOf u (hwords word h)

/-- The name of an action contains no secret. -/
theorem redactText_action (action : ActionType) : redactText u action.value = action.value := by
  apply redactText_word
  cases action <;> decide

/-! ### Records -/

private theorem redact_metadata (m : IncidentMetadata) (depth : Nat) :
    redactUntrusted u (depth + 2) m.dump = (m.redacted u).dump := by
  unfold IncidentMetadata.dump IncidentMetadata.redacted
  rw [redact_record (by simp [contextKeys])]
  simp only [List.map_cons, List.map_nil, redact_str, redact_ofOption]

private theorem redact_reading (depth : Nat) (reading : Reading) :
    redactUntrusted u (depth + 1) reading.dump = reading.dump := by
  cases reading <;> rfl

private theorem redact_metric (m : MetricSummary) (depth : Nat) :
    redactUntrusted u (depth + 2) m.dump = (m.redacted u).dump := by
  unfold MetricSummary.dump MetricSummary.redacted
  rw [redact_record (by simp [contextKeys])]
  simp only [List.map_cons, List.map_nil, redact_str, redact_ofOption, redact_reading]

private theorem redact_log (l : LogSummary) (depth : Nat) :
    redactUntrusted u (depth + 3) l.dump = (l.redacted u).dump := by
  unfold LogSummary.dump LogSummary.redacted
  rw [redact_record (by simp [contextKeys])]
  simp only [List.map_cons, List.map_nil, redact_str, redact_int, redact_ofTexts]

private theorem redact_trace (t : TraceSummary) (depth : Nat) :
    redactUntrusted u (depth + 3) t.dump = (t.redacted u).dump := by
  unfold TraceSummary.dump TraceSummary.redacted
  rw [redact_record (by simp [contextKeys])]
  simp only [List.map_cons, List.map_nil, redact_str, redact_ofTexts, redact_ofOption]

private theorem redact_diff (d : SourceDiff) (depth : Nat) :
    redactUntrusted u (depth + 2) d.dump = (d.redacted u).dump := by
  unfold SourceDiff.dump SourceDiff.redacted
  rw [redact_record (by simp [contextKeys])]
  simp only [List.map_cons, List.map_nil, redact_str]

private theorem redact_historical (h : HistoricalIncident) (depth : Nat) :
    redactUntrusted u (depth + 3) h.dump = (h.redacted u).dump := by
  have haction : redactUntrusted u (depth + 2) (Json.ofOption (h.action.map (·.value))) =
      Json.ofOption (h.action.map (·.value)) := by
    cases h.action with
    | none => rfl
    | some action =>
      show redactUntrusted u (depth + 2) (.str action.value) = .str action.value
      rw [redact_str, redactText_action]
  have hsuccess : redactUntrusted u (depth + 2) (h.verificationSuccess.elim .null .bool) =
      h.verificationSuccess.elim .null .bool := by
    cases h.verificationSuccess <;> rfl
  have hseconds : redactUntrusted u (depth + 2) (h.durationSeconds.elim .null (.int ·)) =
      h.durationSeconds.elim .null (.int ·) := by
    cases h.durationSeconds <;> rfl
  unfold HistoricalIncident.dump HistoricalIncident.redacted
  rw [redact_record (by simp [contextKeys])]
  simp only [List.map_cons, List.map_nil, redact_str, redact_ofTexts, redact_ofOption, haction,
    hsuccess, hseconds]

private theorem redact_runbook (r : RunbookOption) (depth : Nat) :
    redactUntrusted u (depth + 3) r.dump = (r.redacted u).dump := by
  have hactions : (r.actions.map (·.value)).map (redactText u) = r.actions.map (·.value) := by
    rw [List.map_map]
    exact List.map_congr_left fun action _ ↦ redactText_action action
  unfold RunbookOption.dump RunbookOption.redacted
  rw [redact_record (by simp [contextKeys])]
  simp only [List.map_cons, List.map_nil, redact_str, redact_int, redact_ofTexts, hactions]

private theorem redact_evidence (e : UntrustedEvidence) :
    redactUntrusted u 15 e.dump = (e.redacted u).dump := by
  have hhandling : redactText u "UNTRUSTED_DATA" = "UNTRUSTED_DATA" :=
    redactText_word (by decide)
  have hentries (entries : List (String × Json)) :
      redactUntrusted u 14 (.dict entries) = .dict (redactEntries u 13 entries) := rfl
  have hmetrics := redact_list (u := u) 13 e.metrics fun m _ ↦ redact_metric m 11
  have hlogs := redact_list (u := u) 13 e.logs fun l _ ↦ redact_log l 10
  have htraces := redact_list (u := u) 13 e.traces fun t _ ↦ redact_trace t 10
  have hdiffs := redact_list (u := u) 13 e.gitChanges fun d _ ↦ redact_diff d 11
  have hhistory := redact_list (u := u) 13 e.historicalIncidents fun h _ ↦ redact_historical h 10
  unfold UntrustedEvidence.dump UntrustedEvidence.redacted
  rw [redact_record (by simp [contextKeys])]
  simp only [List.map_cons, List.map_nil, redact_str, hhandling, hentries, hmetrics, hlogs,
    htraces, hdiffs, hhistory]

/-- The redacted dump of a context is the dump of its redacted record. -/
theorem redact_dump (c : RawContext) : redact u c.dump = (c.redacted u).dump := by
  have hrunbooks := redact_list (u := u) 14 c.availableRunbooks fun r _ ↦ redact_runbook r 11
  unfold redact RawContext.dump RawContext.redacted
  rw [redact_record (by simp [contextKeys])]
  simp only [List.map_cons, List.map_nil, redact_metadata, redact_evidence, hrunbooks, redact_int]

/-! ### References -/

/-- The letters of a reference to a row. -/
private def evidenceLetters : List Char := "evidence:0123456789abcdef-".toList

/-- The letters of a reference to another incident. -/
private def historyLetters : List Char := "history:0123456789abcdef-".toList

/-- Every secret of some rules has a character that is none of some letters. -/
private def needOthers (letters : List Char) (rules : List (Rule Char)) : Bool :=
  rules.all fun rule ↦ rule.kept.needsOther letters || rule.secret.needsOther letters

private theorem mem_digits {c : Char} (h : c.isDigit) : c ∈ "0123456789".toList := by
  simp only [Char.isDigit, Bool.and_eq_true, decide_eq_true_iff] at h
  have hge : 48 ≤ c.toNat := UInt32.le_iff_toNat_le.mp h.1
  have hle : c.toNat ≤ 57 := UInt32.le_iff_toNat_le.mp h.2
  have hdigits : ∀ k ∈ List.range' 48 10, Char.ofNat k ∈ "0123456789".toList := by decide
  have hmem := hdigits c.toNat (by rw [List.mem_range'_1]; omega)
  rwa [Char.ofNat_toNat] at hmem

private theorem mem_hexLetters {id : Uuid} {c : Char} (h : c ∈ id.text.toList) :
    c ∈ "0123456789abcdef-".toList := by
  rcases id.mem_text h with rfl | hdigit | ⟨hlow, hhigh⟩
  · decide
  · exact List.mem_append_left "abcdef-".toList (mem_digits hdigit)
  · have hge : 97 ≤ c.toNat := UInt32.le_iff_toNat_le.mp hlow
    have hle : c.toNat ≤ 102 := UInt32.le_iff_toNat_le.mp hhigh
    have hletters : ∀ k ∈ List.range' 97 6, Char.ofNat k ∈ "0123456789abcdef-".toList := by decide
    have hmem := hletters c.toNat (by rw [List.mem_range'_1]; omega)
    rwa [Char.ofNat_toNat] at hmem

/-- The id of a row contains no secret. -/
theorem redactText_uuid (id : Uuid) : redactText u id.text = id.text := by
  have hbare : needOthers "0123456789abcdef-".toList (stringRules bareTable) := by decide +kernel
  have hneeds : needOthers "0123456789abcdef-".toList (stringRules u) := hbare
  apply redactText_of_silent
  intro rule hrule
  exact Rule.silent_of_needsOther (List.all_eq_true.mp hneeds rule hrule) fun _ ↦ mem_hexLetters

/-- A number of seconds contains no secret. -/
theorem redactText_seconds (n : Nat) :
    redactText u (toString n ++ "s") = toString n ++ "s" := by
  have hbare : needOthers "0123456789s".toList (stringRules bareTable) := by decide +kernel
  have hneeds : needOthers "0123456789s".toList (stringRules u) := hbare
  apply redactText_of_silent
  intro rule hrule
  apply Rule.silent_of_needsOther (List.all_eq_true.mp hneeds rule hrule)
  intro c hc
  rw [String.toList_append, List.mem_append] at hc
  rcases hc with hdigit | hs
  · have htext : (toString n).toList = Nat.toDigits 10 n := Nat.toList_repr
    rw [htext] at hdigit
    exact List.mem_append_left "s".toList
      (mem_digits (Nat.isDigit_of_mem_toDigits (by omega) (by omega) hdigit))
  · exact List.mem_append_right "0123456789".toList hs

/-- A reference to a row contains no secret. -/
theorem redactText_evidence (id : Uuid) :
    redactText u ("evidence:" ++ id.text) = "evidence:" ++ id.text := by
  have hbare : needOthers evidenceLetters (stringRules bareTable) := by decide +kernel
  have hneeds : needOthers evidenceLetters (stringRules u) := hbare
  apply redactText_of_silent
  intro rule hrule
  apply Rule.silent_of_needsOther (List.all_eq_true.mp hneeds rule hrule)
  intro c hc
  rw [String.toList_append, List.mem_append] at hc
  rcases hc with hword | hid
  · exact List.mem_append_left _ hword
  · exact List.mem_append_right "evidence:".toList (mem_hexLetters hid)

/-- The rule of `STRING_PATTERNS` for assignments, the only one a reference to another incident
has the letters of. -/
private def assignmentRule (u : Unicode) : Rule Char :=
  whole (wordEdge u :: assignment [literal "password", literal "passwd", literal "pwd", apiKey,
    literal "secret", literal "token"])

private theorem silent_assignment (id : Uuid) :
    (assignmentRule u).Silent ("history:".toList ++ id.text.toList) := by
  have hneeds : (assignmentRule bareTable).secret.needsOther "0123456789abcdef-".toList := by
    decide +kernel
  have hid : (assignmentRule u).Silent id.text.toList :=
    Rule.silent_of_needsOther (Bool.or_eq_true_iff.mpr (.inr hneeds)) fun c hc ↦ mem_hexLetters hc
  have hword : "history:".toList ++ id.text.toList =
      'h' :: 'i' :: 's' :: 't' :: 'o' :: 'r' :: 'y' :: ':' :: id.text.toList := rfl
  -- no name of an assignment ends before the colon
  have hnone (prev : Option Char) {suffix : List Char}
      (h : (assignmentRule u).secret.rests suffix = []) :
      (assignmentRule u).find (prev, suffix) = none :=
    Rule.find_eq_none ((List.flatMap_singleton _ _).trans h) prev
  intro prev suffix hsuffix
  rw [hword] at hsuffix
  simp only [List.suffix_cons_iff] at hsuffix
  rcases hsuffix with rfl | rfl | rfl | rfl | rfl | rfl | rfl | rfl | h
  · exact hnone prev rfl
  · exact hnone prev rfl
  · exact hnone prev rfl
  · exact hnone prev rfl
  · exact hnone prev rfl
  · exact hnone prev rfl
  · exact hnone prev rfl
  · exact hnone prev rfl
  · exact hid prev suffix h

/-- A reference to another incident contains no secret. -/
theorem redactText_history (id : Uuid) :
    redactText u ("history:" ++ id.text) = "history:" ++ id.text := by
  have hsplit : stringRules u =
      (stringRules u).take 10 ++ (assignmentRule u :: (stringRules u).drop 11) := rfl
  have hbare : needOthers historyLetters
      ((stringRules bareTable).take 10 ++ (stringRules bareTable).drop 11) := by decide +kernel
  have hneeds : needOthers historyLetters
      ((stringRules u).take 10 ++ (stringRules u).drop 11) := hbare
  have hletters : ∀ c ∈ ("history:" ++ id.text).toList, c ∈ historyLetters := by
    intro c hc
    rw [String.toList_append, List.mem_append] at hc
    rcases hc with hword | hid
    · exact List.mem_append_left _ hword
    · exact List.mem_append_right "history:".toList (mem_hexLetters hid)
  apply redactText_of_silent
  intro rule hrule
  rw [hsplit, List.mem_append, List.mem_cons] at hrule
  rcases hrule with hfirst | rfl | hlast
  · exact Rule.silent_of_needsOther
      (List.all_eq_true.mp hneeds rule (List.mem_append_left _ hfirst)) hletters
  · rw [String.toList_append]
    exact silent_assignment id
  · exact Rule.silent_of_needsOther
      (List.all_eq_true.mp hneeds rule (List.mem_append_right _ hlast)) hletters

end CloudWard.Ai
