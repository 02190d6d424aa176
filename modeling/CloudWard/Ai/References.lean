import CloudWard.Ai.Builder
import CloudWard.Ai.Prompt
import CloudWard.Ai.Proposal

/-!
# References of the evidence

The references that a prompt shows under `ref`, and those that `validate_proposal` accepts. The
rows of metrics, logs, traces and changes are cited by their own reference; the Kubernetes rows and
the deployment are shown by their own and accepted by another.
-/

namespace CloudWard.Ai

open CloudWard.ClusterAgent CloudWard.IncidentMemory CloudWard.Security Python Redaction

/-- A value under a key, anywhere in a value. -/
inductive Under (key : String) (value : Json) : Json → Prop
  | here {entries : List (String × Json)} (h : (key, value) ∈ entries) :
    Under key value (.dict entries)
  | entry {entries : List (String × Json)} {name : String} {item : Json}
    (h : (name, item) ∈ entries) (hitem : Under key value item) : Under key value (.dict entries)
  | item {items : List Json} {item : Json} (h : item ∈ items) (hitem : Under key value item) :
    Under key value (.list items)

/-- Every reference that the prompt of a context shows can be cited. -/
def Citable (u : Unicode) (context : RawContext) : Prop :=
  ∀ value, Under "ref" value (promptPayload u context) →
    ∃ ref, value = .str ref ∧ Accepted context ref

/-! ### References in a dump -/

variable {u : Unicode} {key : String} {value : Json}

private theorem under_dict {entries : List (String × Json)} :
    Under key value (.dict entries) ↔
      ∃ entry ∈ entries, entry = (key, value) ∨ Under key value entry.2 := by
  constructor
  · intro h
    cases h with
    | here h => exact ⟨_, h, .inl rfl⟩
    | entry h hitem => exact ⟨_, h, .inr hitem⟩
  · rintro ⟨entry, h, rfl | hitem⟩
    · exact .here h
    · exact .entry h hitem

private theorem under_list {items : List Json} :
    Under key value (.list items) ↔ ∃ item ∈ items, Under key value item := by
  constructor
  · intro h
    cases h with
    | item h hitem => exact ⟨_, h, hitem⟩
  · rintro ⟨item, h, hitem⟩
    exact .item h hitem

private theorem not_under_str {s : String} : ¬ Under key value (.str s) := fun h ↦ nomatch h

private theorem not_under_int {n : Int} : ¬ Under key value (.int n) := fun h ↦ nomatch h

private theorem not_under_ofOption {text : Option String} :
    ¬ Under key value (Json.ofOption text) := by
  cases text <;> exact fun h ↦ nomatch h

private theorem not_under_ofTexts {texts : List String} : ¬ Under key value (ofTexts texts) := by
  intro h
  obtain ⟨item, hitem, hunder⟩ := under_list.mp h
  obtain ⟨text, -, rfl⟩ := List.mem_map.mp hitem
  exact not_under_str hunder

private theorem not_under_reading {reading : Reading} : ¬ Under key value reading.dump := by
  cases reading <;> exact fun h ↦ nomatch h

private theorem not_under_success {success : Option Bool} :
    ¬ Under key value (success.elim .null .bool) := by
  cases success <;> exact fun h ↦ nomatch h

private theorem not_under_seconds {seconds : Option Nat} :
    ¬ Under key value (seconds.elim .null (.int ·)) := by
  cases seconds <;> exact fun h ↦ nomatch h

/-- The references of the records of an evidence. -/
def recordRefs (e : UntrustedEvidence) : List String :=
  e.metrics.map (·.ref) ++ e.logs.map (·.ref) ++ e.traces.map (·.ref) ++ e.gitChanges.map (·.ref) ++
    e.historicalIncidents.map (·.ref)

private theorem under_records {α : Type} {items : List α} {dump : α → Json} {ref : α → String}
    (h : ∀ item ∈ items, Under "ref" value (dump item) ↔ value = .str (ref item)) :
    Under "ref" value (.list (items.map dump)) ↔ ∃ r ∈ items.map ref, value = .str r := by
  simp only [under_list, List.mem_map, exists_exists_and_eq_and]
  exact exists_congr fun item ↦ and_congr_right fun hitem ↦ h item hitem

private theorem under_metadata {m : IncidentMetadata} : ¬ Under "ref" value m.dump := by
  simp [IncidentMetadata.dump, under_dict, not_under_str, not_under_ofOption]

private theorem under_metric (m : MetricSummary) :
    Under "ref" value m.dump ↔ value = .str m.ref := by
  simp [MetricSummary.dump, under_dict, not_under_str, not_under_ofOption, not_under_reading,
    eq_comm]

private theorem under_log (l : LogSummary) : Under "ref" value l.dump ↔ value = .str l.ref := by
  simp [LogSummary.dump, under_dict, not_under_str, not_under_int, not_under_ofTexts, eq_comm]

private theorem under_trace (t : TraceSummary) :
    Under "ref" value t.dump ↔ value = .str t.ref := by
  simp [TraceSummary.dump, under_dict, not_under_str, not_under_ofTexts, not_under_ofOption,
    eq_comm]

private theorem under_diff (d : SourceDiff) : Under "ref" value d.dump ↔ value = .str d.ref := by
  simp [SourceDiff.dump, under_dict, not_under_str, eq_comm]

private theorem under_historical (h : HistoricalIncident) :
    Under "ref" value h.dump ↔ value = .str h.ref := by
  simp [HistoricalIncident.dump, under_dict, not_under_str, not_under_ofTexts, not_under_ofOption,
    not_under_success, not_under_seconds, eq_comm]

private theorem under_runbook {r : RunbookOption} : ¬ Under "ref" value r.dump := by
  simp [RunbookOption.dump, under_dict, not_under_str, not_under_int, not_under_ofTexts]

/-- What is under `ref` in the dump of an evidence. -/
private theorem under_evidence {e : UntrustedEvidence} :
    Under "ref" value e.dump ↔
      Under "ref" value (.dict e.kubernetesSummary) ∨ Under "ref" value (.dict e.deployment) ∨
        ∃ ref ∈ recordRefs e, value = .str ref := by
  have hmetrics := under_records fun m (_ : m ∈ e.metrics) ↦ @under_metric value m
  have hlogs := under_records fun l (_ : l ∈ e.logs) ↦ @under_log value l
  have htraces := under_records fun t (_ : t ∈ e.traces) ↦ @under_trace value t
  have hdiffs := under_records fun d (_ : d ∈ e.gitChanges) ↦ @under_diff value d
  have hhistory := under_records
    fun h (_ : h ∈ e.historicalIncidents) ↦ @under_historical value h
  unfold UntrustedEvidence.dump recordRefs
  rw [under_dict]
  simp only [List.exists_mem_cons_iff, List.not_mem_nil, false_and, exists_false, or_false,
    Prod.mk.injEq, String.reduceEq, false_or, not_under_str, hmetrics, hlogs, htraces, hdiffs,
    hhistory, List.mem_append, or_and_right, exists_or]
  constructor
  · rintro (h | h | h | h | h | h | h)
    · exact .inl h
    · exact .inr (.inr (.inl (.inl (.inl (.inl h)))))
    · exact .inr (.inr (.inl (.inl (.inl (.inr h)))))
    · exact .inr (.inr (.inl (.inl (.inr h))))
    · exact .inr (.inl h)
    · exact .inr (.inr (.inl (.inr h)))
    · exact .inr (.inr (.inr h))
  · rintro (h | h | (((h | h) | h) | h) | h)
    · exact .inl h
    · exact .inr (.inr (.inr (.inr (.inl h))))
    · exact .inr (.inl h)
    · exact .inr (.inr (.inl h))
    · exact .inr (.inr (.inr (.inl h)))
    · exact .inr (.inr (.inr (.inr (.inr (.inl h)))))
    · exact .inr (.inr (.inr (.inr (.inr (.inr h)))))

/-- What is under `ref` in the dump of a context. -/
private theorem under_dump {c : RawContext} :
    Under "ref" value c.dump ↔ Under "ref" value c.untrustedEvidence.dump := by
  have hrunbooks : ¬ Under "ref" value (.list (c.availableRunbooks.map (·.dump))) := by
    intro h
    obtain ⟨item, hitem, hunder⟩ := under_list.mp h
    obtain ⟨runbook, -, rfl⟩ := List.mem_map.mp hitem
    exact under_runbook hunder
  simp [RawContext.dump, under_dict, under_metadata, hrunbooks, not_under_int]

/-! ### References of the builder -/

variable {py : Conversions} {rows : List StoredEvidence}
  {historical : List SimilarIncidentResponse}

/-- The rows that a context shows by another reference than it accepts. -/
def renamed (item : StoredEvidence) : Bool :=
  kindOf item.evidenceType = .kubernetes ∨ kindOf item.evidenceType = .deployment

private theorem mem_ofKind {kind : EvidenceKind} {item : StoredEvidence} :
    item ∈ ofKind kind rows ↔ item ∈ rows ∧ kindOf item.evidenceType = kind := by
  rw [ofKind, List.mem_filter, decide_eq_true_iff]

/-- A record is referred to by its row or its incident. -/
private theorem mem_recordRefs {ref : String}
    (h : ref ∈ recordRefs (gathered py rows historical)) :
    (∃ item ∈ rows, renamed item = false ∧ ref = evidenceRef item) ∨
      ∃ id : Uuid, ref = "history:" ++ id.text := by
  have hrow {kind : EvidenceKind} (hkind : kind ≠ .kubernetes ∧ kind ≠ .deployment)
      {item : StoredEvidence} (hitem : item ∈ ofKind kind rows) (href : ref = evidenceRef item) :
      ∃ item ∈ rows, renamed item = false ∧ ref = evidenceRef item := by
    obtain ⟨hmem, rfl⟩ := mem_ofKind.mp hitem
    exact ⟨item, hmem, by simp [renamed, hkind.1, hkind.2], href⟩
  simp only [recordRefs, gathered, collect, noEvidence, List.nil_append, List.mem_append,
    List.mem_map, List.mem_flatMap] at h
  rcases h with (((⟨_, ⟨item, hitem, rfl⟩, rfl⟩ | ⟨_, ⟨item, hitem, rfl⟩, rfl⟩) |
    ⟨_, ⟨item, hitem, rfl⟩, rfl⟩) | ⟨_, ⟨item, hitem, _, -, rfl⟩, rfl⟩) | ⟨_, ⟨_, -, rfl⟩, rfl⟩
  · exact .inl (hrow (by decide) hitem rfl)
  · exact .inl (hrow (by decide) hitem rfl)
  · exact .inl (hrow (by decide) hitem rfl)
  · exact .inl (hrow (by decide) hitem rfl)
  · exact .inr ⟨_, rfl⟩

/-- The references of the records contain no secret. -/
private theorem redactText_recordRefs {ref : String}
    (h : ref ∈ recordRefs (gathered py rows historical)) : redactText u ref = ref := by
  rcases mem_recordRefs h with ⟨item, -, -, rfl⟩ | ⟨id, rfl⟩
  · exact redactText_evidence item.uuid
  · exact redactText_history id

private theorem recordRefs_redacted (e : UntrustedEvidence) :
    recordRefs (e.redacted u) = (recordRefs e).map (redactText u) := by
  simp only [recordRefs, UntrustedEvidence.redacted, List.map_append, List.map_map]
  rfl

private theorem recordRefs_validated (c : RawContext) :
    recordRefs (c.validated u).untrustedEvidence = recordRefs c.untrustedEvidence := by
  simp only [recordRefs, RawContext.validated, List.map_map, Function.comp_def,
    LogSummary.validated, SourceDiff.validated, HistoricalIncident.validated]

/-- A built context: what its records refer to, and its Kubernetes and deployment summaries. -/
private structure Built (u : Unicode) (e : UntrustedEvidence) (c : RawContext) : Prop where
  refs : recordRefs c.untrustedEvidence = recordRefs e
  kubernetes : c.untrustedEvidence.kubernetesSummary = redactEntries u 13 e.kubernetesSummary
  deployment : c.untrustedEvidence.deployment = redactEntries u 13 e.deployment

private theorem built_of_build {raw : RawContext} {context : IncidentContext}
    (h : IncidentContextBuilder.build u raw = some context)
    (hplain : ∀ ref ∈ recordRefs raw.untrustedEvidence, redactText u ref = ref) :
    Built u raw.untrustedEvidence context.toRawContext := by
  rw [IncidentContextBuilder.build_eq_some] at h
  rw [← h]
  constructor
  · rw [recordRefs_validated]
    show recordRefs (raw.untrustedEvidence.redacted u) = _
    rw [recordRefs_redacted]
    conv_rhs => rw [← List.map_id (recordRefs raw.untrustedEvidence)]
    exact List.map_congr_left hplain
  · rfl
  · rfl

private theorem built_of_ok {s : Sources} {context : IncidentContext}
    (h : buildIncidentContext py s = .ok context) :
    ∃ historical, Built py.unicode (gathered py s.newest historical) context.toRawContext := by
  obtain ⟨-, historical, -, -, hbuild⟩ := buildIncidentContext_eq_ok.mp h
  exact ⟨historical, built_of_build hbuild fun _ href ↦ redactText_recordRefs href⟩

/-- What a prompt shows under `ref`. -/
private theorem under_payload {c : RawContext} (hbuilt : Built u (gathered py rows historical) c) :
    Under "ref" value (promptPayload u c) ↔
      Under "ref" value (.dict (redactEntries u 13
        (redactEntries u 13 (gathered py rows historical).kubernetesSummary))) ∨
        Under "ref" value (.dict (redactEntries u 13
          (redactEntries u 13 (gathered py rows historical).deployment))) ∨
          ∃ ref ∈ recordRefs (gathered py rows historical), value = .str ref := by
  have hrefs : recordRefs (c.untrustedEvidence.redacted u) =
      recordRefs (gathered py rows historical) := by
    rw [recordRefs_redacted, hbuilt.refs]
    conv_rhs => rw [← List.map_id (recordRefs (gathered py rows historical))]
    exact List.map_congr_left fun _ href ↦ redactText_recordRefs href
  rw [promptPayload, redact_dump, under_dump]
  show Under "ref" value (c.untrustedEvidence.redacted u).dump ↔ _
  rw [under_evidence, hrefs, ← hbuilt.kubernetes, ← hbuilt.deployment]
  rfl

/-! ### Rows shown by another reference -/

/-- The Kubernetes summary starts with the entry of the first row. -/
private theorem foldl_addKubernetes (first : StoredEvidence) (rest : List StoredEvidence) :
    ∃ entries latest, (first :: rest).foldl addKubernetes [] =
      [("summaries", .list (kubernetesEntry first :: entries)), ("latest", latest)] := by
  have hkeeps (rest : List StoredEvidence) (current : List (String × Json))
      (h : ∃ entries latest, current =
        [("summaries", .list (kubernetesEntry first :: entries)), ("latest", latest)]) :
      ∃ entries latest, rest.foldl addKubernetes current =
        [("summaries", .list (kubernetesEntry first :: entries)), ("latest", latest)] := by
    induction rest generalizing current with
    | nil => exact h
    | cons item rest ih =>
      obtain ⟨entries, latest, rfl⟩ := h
      exact ih _ ⟨(entries ++ [kubernetesEntry item]).take 9, _, rfl⟩
  exact hkeeps rest _ ⟨[], _, rfl⟩

/-- The deployment is the entry of the last row. -/
private theorem foldl_deployment (rows : List StoredEvidence) (hne : rows ≠ []) :
    ∃ item ∈ rows, rows.foldl (fun _ item ↦ deploymentEntry item) [] = deploymentEntry item := by
  refine ⟨rows.getLast hne, List.getLast_mem hne, ?_⟩
  conv_lhs => rw [← List.dropLast_concat_getLast hne]
  rw [List.foldl_append]
  rfl

/-- The reference of an entry is shown twice redacted. -/
private theorem under_ref_twice {item : StoredEvidence} {more : List (String × Json)} (depth : Nat) :
    Under "ref" (.str (evidenceRef item))
      (.dict (redactEntries u (depth + 1)
        (redactEntries u (depth + 1) (("ref", .str (evidenceRef item)) :: more)))) := by
  have hkey : sensitiveKey "ref" = false := by decide +kernel
  have hentry : ("ref", redactUntrusted u (depth + 1)
      (redactUntrusted u (depth + 1) (.str (evidenceRef item)))) ∈
        redactEntries u (depth + 1)
          (redactEntries u (depth + 1) (("ref", Json.str (evidenceRef item)) :: more)) := by
    simp [redactEntries, hkey]
  have hplain : redactText u (evidenceRef item) = evidenceRef item :=
    redactText_evidence item.uuid
  simp only [redactUntrusted, hplain] at hentry
  exact .here hentry

private theorem mem_evidenceRefs {c : RawContext} {ref : String} (h : ref ∈ c.evidenceRefs) :
    ref ∈ recordRefs c.untrustedEvidence ∨
      ref ∈ ["incident:metadata", "kubernetes:summary", "deployment:current"] := by
  have hrefs : c.evidenceRefs = "incident:metadata" :: (recordRefs c.untrustedEvidence ++
      (if c.untrustedEvidence.kubernetesSummary ≠ [] then ["kubernetes:summary"] else []) ++
      (if c.untrustedEvidence.deployment ≠ [] then ["deployment:current"] else [])) := rfl
  rw [hrefs, List.mem_cons, List.mem_append, List.mem_append] at h
  rcases h with rfl | (h | h) | h
  · exact .inr List.mem_cons_self
  · exact .inl h
  · split at h
    · rw [List.mem_singleton.mp h]
      exact .inr (by decide)
    · cases h
  · split at h
    · rw [List.mem_singleton.mp h]
      exact .inr (by decide)
    · cases h

/-- The reference of a row is no other word. -/
private theorem evidenceRef_ne {item : StoredEvidence} {word : String}
    (h : word.toList.head? ≠ some 'e') : evidenceRef item ≠ word := by
  rintro rfl
  apply h
  rw [evidenceRef, String.toList_append]
  rfl

private theorem mem_newest {s : Sources} {item : StoredEvidence} (h : item ∈ s.newest) :
    item ∈ s.evidence :=
  List.mem_of_mem_filter ((List.mergeSort_perm _ _).mem_iff.mp (List.mem_of_mem_take h))

/-- A row that is shown by its own reference is not accepted by it. -/
private theorem evidenceRef_notMem {s : Sources} {context : RawContext} {item : StoredEvidence}
    (hbuilt : Built u (gathered py s.newest historical) context) (hitem : item ∈ s.newest)
    (hrenamed : renamed item) : evidenceRef item ∉ context.evidenceRefs := by
  intro h
  rcases mem_evidenceRefs h with hrecord | hword
  · rw [hbuilt.refs] at hrecord
    rcases mem_recordRefs hrecord with ⟨other, hother, hnot, href⟩ | ⟨id, hid⟩
    · have htext := congrArg String.toList href
      rw [evidenceRef, evidenceRef, String.toList_append, String.toList_append,
        List.append_cancel_left_eq] at htext
      have huuid : item.uuid = other.uuid := Uuid.text_injective (String.toList_inj.mp htext)
      have hsame : item = other :=
        List.inj_on_of_nodup_map s.unique (mem_newest hitem) (mem_newest hother) huuid
      rw [hsame, hnot] at hrenamed
      cases hrenamed
    · refine evidenceRef_ne ?_ hid
      rw [String.toList_append]
      show some 'h' ≠ some 'e'
      decide
  · have hwords : ∀ word ∈ ["incident:metadata", "kubernetes:summary", "deployment:current"],
        word.toList.head? ≠ some 'e' := by decide
    exact evidenceRef_ne (hwords _ hword) rfl

/-- A row that is shown by its own reference is shown under `ref`. -/
private theorem under_renamed {s : Sources} {context : RawContext} {item : StoredEvidence}
    (hbuilt : Built u (gathered py s.newest historical) context)
    (hitem : item ∈ s.newest) (hrenamed : renamed item) :
    ∃ shown ∈ s.newest, renamed shown ∧
      Under "ref" (.str (evidenceRef shown)) (promptPayload u context) := by
  simp only [renamed, Bool.decide_or, Bool.or_eq_true, decide_eq_true_iff] at hrenamed
  rcases hrenamed with hkind | hkind
  · cases hrows : ofKind .kubernetes s.newest with
    | nil => exact absurd (mem_ofKind.mpr ⟨hitem, hkind⟩) (by simp [hrows])
    | cons first rest =>
      have hfirst : first ∈ ofKind .kubernetes s.newest := hrows ▸ List.mem_cons_self
      obtain ⟨hmem, hkubernetes⟩ := mem_ofKind.mp hfirst
      refine ⟨first, hmem, by simp [renamed, hkubernetes], ?_⟩
      obtain ⟨entries, latest, hfold⟩ := foldl_addKubernetes first rest
      rw [under_payload hbuilt]
      left
      have hsummary : (gathered py s.newest historical).kubernetesSummary =
          [("summaries", .list (kubernetesEntry first :: entries)), ("latest", latest)] := by
        rw [← hfold, ← hrows]
        rfl
      rw [hsummary]
      have hkey : sensitiveKey "summaries" = false := by decide +kernel
      have hsummaries : redactEntries u 13 (redactEntries u 13
          [("summaries", .list (kubernetesEntry first :: entries)), ("latest", latest)]) =
            ("summaries", redactUntrusted u 13 (redactUntrusted u 13
              (.list (kubernetesEntry first :: entries)))) ::
                redactEntries u 13 (redactEntries u 13 [("latest", latest)]) := by
        simp [redactEntries, hkey]
      rw [hsummaries]
      refine .entry List.mem_cons_self ?_
      simp only [redactUntrusted, List.map_cons]
      exact .item List.mem_cons_self (under_ref_twice 10)
  · have hne : ofKind .deployment s.newest ≠ [] :=
      List.ne_nil_of_mem (mem_ofKind.mpr ⟨hitem, hkind⟩)
    obtain ⟨last, hlast, hfold⟩ := foldl_deployment _ hne
    obtain ⟨hmem, hdeployment⟩ := mem_ofKind.mp hlast
    refine ⟨last, hmem, by simp [renamed, hdeployment], ?_⟩
    rw [under_payload hbuilt]
    right
    left
    have hentry : (gathered py s.newest historical).deployment = deploymentEntry last := hfold
    rw [hentry]
    exact under_ref_twice 12

private theorem recordRefs_subset (c : RawContext) :
    recordRefs c.untrustedEvidence ⊆ c.evidenceRefs := by
  intro ref h
  exact List.mem_cons_of_mem _ (List.mem_append_left _ (List.mem_append_left _ h))

/-- A row that is shown by its own reference cannot be cited. -/
private theorem not_citable {s : Sources} {context : IncidentContext}
    (h : buildIncidentContext py s = .ok context) {item : StoredEvidence} (hitem : item ∈ s.newest)
    (hrenamed : renamed item) : ¬ Citable py.unicode context.toRawContext := by
  obtain ⟨historical, hbuilt⟩ := built_of_ok h
  obtain ⟨shown, hshown, hother, hunder⟩ := under_renamed hbuilt hitem hrenamed
  intro hcitable
  obtain ⟨ref, hvalue, haccepted⟩ := hcitable _ hunder
  cases hvalue
  exact evidenceRef_notMem hbuilt hshown hother (accepted_iff.mp haccepted)

/-- Every reference that is shown can be cited if and only if no row of a built context describes
Kubernetes or a deployment. -/
theorem citable_iff_unrenamed {s : Sources} {context : IncidentContext}
    (h : buildIncidentContext py s = .ok context) :
    Citable py.unicode context.toRawContext ↔ ∀ item ∈ s.newest, renamed item = false := by
  constructor
  · intro hcitable item hitem
    by_contra hrenamed
    exact not_citable h hitem (Bool.eq_true_of_not_eq_false hrenamed) hcitable
  · intro hnone value hvalue
    obtain ⟨historical, hbuilt⟩ := built_of_ok h
    have hempty (kind : EvidenceKind) (hkind : kind = .kubernetes ∨ kind = .deployment) :
        ofKind kind s.newest = [] := by
      rw [List.eq_nil_iff_forall_not_mem]
      intro item hitem
      obtain ⟨hmem, rfl⟩ := mem_ofKind.mp hitem
      have hnot := hnone item hmem
      simp only [renamed, decide_eq_false_iff_not] at hnot
      exact hnot hkind
    have hkubernetes : (gathered py s.newest historical).kubernetesSummary = [] :=
      congrArg (List.foldl addKubernetes []) (hempty .kubernetes (.inl rfl))
    have hdeployment : (gathered py s.newest historical).deployment = [] :=
      congrArg (List.foldl (fun _ item ↦ deploymentEntry item) []) (hempty .deployment (.inr rfl))
    have hnothing : ¬ Under "ref" value (.dict (redactEntries py.unicode 13
        (redactEntries py.unicode 13 []))) := by
      intro hunder
      obtain ⟨entry, hentry, -⟩ := under_dict.mp hunder
      cases hentry
    rw [under_payload hbuilt] at hvalue
    rw [hkubernetes, hdeployment, or_iff_right hnothing, or_iff_right hnothing] at hvalue
    obtain ⟨ref, href, rfl⟩ := hvalue
    refine ⟨ref, rfl, accepted_iff.mpr (recordRefs_subset _ ?_)⟩
    rw [hbuilt.refs]
    exact href

/-! ### One row -/

/-- A Python without floating-point numbers, and a database of one incident. -/
def plainPython : Conversions where
  unicode := bareTable
  repr := fun _ ↦ ""
  floatOfInt := toString
  floatOfText := fun _ ↦ none
  isFinite := fun _ ↦ true
  floatLe := fun _ _ ↦ true
  hexdigest := fun _ ↦ "0000000000000000"
  uuidOf := fun _ ↦ ⟨"00000000-0000-4000-8000-000000000001", rfl⟩

/-- A row without a payload. -/
def oneRow (type : EvidenceType) : StoredEvidence where
  incidentId := 0
  correlationId := "correlation"
  collectedBy := "cloudward"
  createdAt := 0
  evidenceType := type
  summary := "observed"
  payload := .dict []
  uuid := ⟨"00000000-0000-4000-8000-000000000002", rfl⟩
  windowEnd_lt := fun _ h ↦ absurd h (Option.not_mem_none _)

/-- An incident with one row of evidence. -/
def oneRowSources (type : EvidenceType) : Sources where
  incidentId := 0
  incident :=
    { correlationId := "correlation", incidentType := "reliability.bad-deployment"
      title := "HighHTTPErrorRate on checkout", environment := .staging }
  serviceId := none
  service := none
  evidence := [oneRow type]
  memories := []
  runbooks := []
  unique := List.nodup_singleton _

private theorem newest_oneRow (type : EvidenceType) :
    (oneRowSources type).newest = [oneRow type] := by
  simp [Sources.newest, oneRowSources, oneRow]

private theorem built_oneRow (type : EvidenceType) (hkind : kindOf type ≠ .metric)
    (hvalid : ∀ newest complexity, newest = [oneRow type] → complexity = 19 →
      ((RawContext.mk ((oneRowSources type).metadata plainPython) (gathered plainPython newest [])
        [] complexity).redacted bareTable |>.validated bareTable).Valid) :
    ∃ context, buildIncidentContext plainPython (oneRowSources type) = .ok context := by
  have hsimilar : findSimilar [] (oneRowSources type).query 0 5 = .ok [] := by
    simp [findSimilar, selected]
    rfl
  have hcomplexity : (oneRowSources type).complexity = 19 := by
    rw [Sources.complexity, newest_oneRow]
    simp [oneRowSources]
  have hraw := hvalid _ _ (newest_oneRow type) hcomplexity
  refine ⟨⟨_, hraw⟩, buildIncidentContext_eq_ok.mpr ⟨?_, [], hsimilar, ?_, ?_⟩⟩
  · have hquery : (oneRowSources type).query = (oneRowSources .log).query := rfl
    rw [hquery]
    decide +kernel
  · intro item hitem hmetric
    rw [newest_oneRow, List.mem_singleton] at hitem
    subst hitem
    exact absurd hmetric hkind
  · exact IncidentContextBuilder.build_eq_some.mpr rfl

private theorem built_log :
    ∃ context, buildIncidentContext plainPython (oneRowSources .log) = .ok context := by
  apply built_oneRow .log (by decide)
  rintro _ _ rfl rfl
  decide +kernel

private theorem built_kubernetes :
    ∃ context, buildIncidentContext plainPython (oneRowSources .kubernetesEvent) = .ok context := by
  apply built_oneRow .kubernetesEvent (by decide)
  rintro _ _ rfl rfl
  decide +kernel

/-- The reference of a log row can be cited. -/
theorem citable_logRow : ∃ context,
    buildIncidentContext plainPython (oneRowSources .log) = .ok context ∧
      Citable bareTable context.toRawContext := by
  obtain ⟨context, h⟩ := built_log
  refine ⟨context, h, (citable_iff_unrenamed h).mpr ?_⟩
  rw [newest_oneRow]
  decide

/-- The reference of a Kubernetes event is shown and cannot be cited. -/
theorem not_citable_kubernetesRow : ∃ context,
    buildIncidentContext plainPython (oneRowSources .kubernetesEvent) = .ok context ∧
      ¬ Citable bareTable context.toRawContext := by
  obtain ⟨context, h⟩ := built_kubernetes
  have hitem : oneRow .kubernetesEvent ∈ (oneRowSources .kubernetesEvent).newest := by
    rw [newest_oneRow]
    exact List.mem_singleton_self _
  have hrenamed : renamed (oneRow .kubernetesEvent) := rfl
  have hnot := not_citable h hitem hrenamed
  exact ⟨context, h, hnot⟩

end CloudWard.Ai
