import CloudWard.Ai.Builder
import Mathlib.Algebra.Order.BigOperators.Group.List

/-!
# When a memory is found again

A capture and two readers make fingerprints of their own: `build_incident_context` from the
incident and its service, and `_supplemental_ai_reason`, `api/internal_reliability.py:258`, from
the alert. The memory of an incident is a match by fingerprint where all three are the same.
-/

namespace CloudWard.IncidentMemory

open CloudWard.Ai CloudWard.Alerts CloudWard.Db CloudWard.Logic CloudWard.Remediation
  CloudWard.Security Python Redaction

/-- `_alert_marks_uncertainty`, `api/internal_reliability.py:299`; whether `float` of a text is
below 0.8, or refuses the text, is a parameter. -/
def alertMarksUncertainty (doubtful : String → Bool) (alert : NormalizedAlert) : Bool :=
  let value (key : String) := (alert.labels.lookup key).or (alert.annotations.lookup key)
  let explicit := lower (String.ofList
    (strip ((value "cloudward.io/diagnosis-uncertain").getD "").toList))
  if ["1".toList, "true".toList, "yes".toList].any (· = explicit) then true
  else (value "cloudward.io/deterministic-confidence").any doubtful

/-- The query of the reliability API, `api/internal_reliability.py:281`. -/
def supplementalQuery (incident : Incident) (alert : NormalizedAlert) : FingerprintInput where
  service := alert.service
  incidentType := incident.incidentType
  alertName := alert.alertName
  ns := alert.ns
  labels := ⟨alert.labels.entries.filter fun entry ↦ entry.1 ∈ defaultStableLabels,
    alert.labels.nodupKeys.sublist List.filter_sublist⟩

/-- The rows that answer a query, if it satisfies its schema. -/
def ask (rows : List IncidentMemoryRecord) (query : FingerprintInput) (excluded limit : Nat) :
    Except Exc (List SimilarIncidentResponse) := do
  let query ← query.validate
  findSimilar rows query excluded limit

/-- `_supplemental_ai_reason`, `api/internal_reliability.py:258`. -/
def supplementalAiReason (doubtful : String → Bool) (rows : List IncidentMemoryRecord)
    (diagnosed : Bool) (incidentId : Nat) (incident : Incident) (alert : NormalizedAlert)
    (runbookId : Option String) (action : Option ActionType) : Except Exc (Option String) :=
  if diagnosed then .ok none
  else if runbookId.isNone ∨ action.isNone then .ok "no_deterministic_runbook"
  else if Reliability.alertConditions alert.alertName = ["prometheus_alert"] then
    .ok "unknown_alert"
  else if alertMarksUncertainty doubtful alert then .ok "deterministic_diagnosis_uncertain"
  else do
    let similar ← ask rows (supplementalQuery incident alert) incidentId 5
    if similar.isEmpty then return "no_similar_incident_memory"
    else if ¬ similar.any (·.successful) then return "no_verified_successful_memory"
    else return none

/-- The memories of some captures. -/
def remembered (u : Unicode) (writes : List MemoryWrite) : List IncidentMemoryRecord :=
  writes.foldl (remember u) []

/-- A query answers with the memory of an incident, as a match by fingerprint. -/
def Recalls (rows : List IncidentMemoryRecord) (query : FingerprintInput)
    (excluded limit incidentId : Nat) : Prop :=
  ∃ similar, ask rows query excluded limit = .ok similar ∧
    ∃ found ∈ similar, found.incidentId = incidentId ∧ "same fingerprint" ∈ found.matchReasons

/-! ### The rows of the memories -/

variable {u : Unicode} {writes : List MemoryWrite} {rows : List IncidentMemoryRecord}
  {record : IncidentMemoryRecord} {query : FingerprintInput} {excluded limit : Nat}

/-- What each row of the memories is. -/
structure Kept (u : Unicode) (rows : List IncidentMemoryRecord) : Prop where
  written : ∀ row ∈ rows, ∃ write : MemoryWrite, row = write.record u
  nodup : (rows.map (·.incidentId)).Nodup

private theorem kept_remember (h : Kept u rows) (write : MemoryWrite) :
    Kept u (remember u rows write) := by
  unfold remember
  split
  · constructor
    · intro row hrow
      obtain ⟨old, hold, rfl⟩ := List.mem_map.mp hrow
      split
      · exact ⟨write, rfl⟩
      · exact h.written old hold
    · have hids : (rows.map fun row ↦
          if row.incidentId = write.incidentId then write.record u else row).map (·.incidentId) =
            rows.map (·.incidentId) := by
        rw [List.map_map]
        refine List.map_congr_left fun row _ ↦ ?_
        dsimp only [Function.comp_apply]
        split
        · next hsame => exact hsame.symm
        · rfl
      rw [hids]
      exact h.nodup
  · next hnone =>
    constructor
    · intro row hrow
      rcases List.mem_append.mp hrow with hrow | hrow
      · exact h.written row hrow
      · exact ⟨write, List.mem_singleton.mp hrow⟩
    · rw [List.map_append, List.map_singleton, List.nodup_append]
      refine ⟨h.nodup, List.nodup_singleton _, ?_⟩
      intro id hid other hother
      obtain ⟨row, hrow, rfl⟩ := List.mem_map.mp hid
      rw [List.mem_singleton.mp hother]
      intro hsame
      exact hnone (List.any_eq_true.mpr ⟨row, hrow, decide_eq_true hsame⟩)

theorem kept_remembered (u : Unicode) (writes : List MemoryWrite) :
    Kept u (remembered u writes) := by
  have hrun (rows : List IncidentMemoryRecord) (h : Kept u rows) :
      Kept u (writes.foldl (remember u) rows) := by
    induction writes generalizing rows with
    | nil => exact h
    | cons write rest ih => exact ih _ (kept_remember h write)
  exact hrun [] ⟨List.forall_mem_nil _, List.nodup_nil⟩

private theorem knownAction (write : MemoryWrite) : KnownAction (write.record u) := by
  have hall : ∀ action : ActionType, action.value ∈ actionTypes.map (·.value) := by
    intro action
    cases action <;> decide
  intro text htext _
  obtain ⟨action, -, rfl⟩ := Option.mem_map.mp htext
  exact hall action

/-! ### The rank of a row -/

/-- A row has the components of its fingerprint. -/
private structure Keyed (record : IncidentMemoryRecord) : Prop where
  service : record.serviceKey = record.fingerprint.service
  incidentType : record.incidentType = record.fingerprint.incidentType
  alertName : record.alertName = record.fingerprint.alertName

private theorem keyed_record (write : MemoryWrite) : Keyed (write.record u) := by
  unfold MemoryWrite.record
  generalize write.fingerprintInput.canonical = canonical
  constructor
  · dsimp only
  · dsimp only
  · dsimp only

private theorem signals_of_fingerprint (hkeyed : Keyed record)
    (h : record.fingerprint = query.canonical) :
    ∃ rest, signals record query = (true, 65, "same fingerprint") :: (true, 30, "same service") ::
      (true, 20, "same incident type") :: (true, 12, "same alert") :: rest := by
  have hservice := hkeyed.service.trans (congrArg Canonical.service h)
  have htype := hkeyed.incidentType.trans (congrArg Canonical.incidentType h)
  have halert := hkeyed.alertName.trans (congrArg Canonical.alertName h)
  unfold signals
  generalize query.canonical = canonical at *
  dsimp only
  rw [decide_eq_true h, decide_eq_true hservice, decide_eq_true htype, decide_eq_true halert]
  exact ⟨_, rfl⟩

theorem record_rank (record : IncidentMemoryRecord) (query : FingerprintInput) :
    (rank record query).record = record := by
  unfold rank
  split
  · rfl
  · rfl

/-- A row of the same fingerprint has every point it can have. -/
private theorem rank_of_fingerprint (hkeyed : Keyed record)
    (h : record.fingerprint = query.canonical) :
    (rank record query).score = 100 ∧ "same fingerprint" ∈ (rank record query).reasons := by
  obtain ⟨rest, hsignals⟩ := signals_of_fingerprint hkeyed h
  unfold rank
  rw [if_neg (not_not.mpr (hkeyed.service.trans (congrArg Canonical.service h))), hsignals]
  constructor
  · have hheld : min ((((true, 65, "same fingerprint") :: (true, 30, "same service") ::
        (true, 20, "same incident type") :: (true, 12, "same alert") :: rest).filter (·.1)).map
          (·.2.1)).sum 100 =
          min (65 + (30 + (20 + (12 + ((rest.filter (·.1)).map (·.2.1)).sum)))) 100 := rfl
    refine hheld.trans ?_
    omega
  · exact List.mem_cons_self
/-- The points and the names of what speaks for a row besides its fingerprint. -/
private theorem tail_signals (record : IncidentMemoryRecord) (query : FingerprintInput) :
    (signals record query).tail.map (·.2) =
      [(30, "same service"), (20, "same incident type"), (12, "same alert"), (6, "same namespace"),
        (15, "same root cause"), (4, "verified successful outcome")] := by
  unfold signals
  generalize query.canonical = canonical
  rfl

/-- Another row has fewer. -/
theorem rank_of_fingerprint_ne (h : record.fingerprint ≠ query.canonical) :
    (rank record query).score ≤ 87 ∧ "same fingerprint" ∉ (rank record query).reasons := by
  have hsignals : (signals record query).filter (·.1) =
      (signals record query).tail.filter (·.1) := by
    unfold signals
    generalize query.canonical = canonical at *
    dsimp only
    rw [decide_eq_false h]
    rfl
  have hsub : (((signals record query).tail.filter (·.1)).map (·.2)).Sublist
      [(30, "same service"), (20, "same incident type"), (12, "same alert"), (6, "same namespace"),
        (15, "same root cause"), (4, "verified successful outcome")] := by
    rw [← tail_signals record query]
    exact List.filter_sublist.map _
  unfold rank
  split
  · exact ⟨Nat.zero_le _, List.not_mem_nil⟩
  dsimp only
  rw [hsignals]
  constructor
  · have hle := (hsub.map (·.1)).sum_le_sum fun _ _ ↦ Nat.zero_le _
    rw [List.map_map] at hle
    exact (Nat.min_le_left _ _).trans hle
  · have hnames := (hsub.map (·.2)).subset
    rw [List.map_map] at hnames
    exact fun hmem ↦ absurd (hnames hmem) (by decide)
/-! ### What hides a memory -/

/-- The rows a query ranks, `incident_memory/service.py:94`. -/
def considered (rows : List IncidentMemoryRecord) (excluded : Nat) : List IncidentMemoryRecord :=
  ((rows.filter (·.incidentId ≠ excluded)).mergeSort newerFirst).take 500

/-- A row of the same score that may stand before another. -/
def Precedes (a b : IncidentMemoryRecord) : Prop :=
  (a.successful ∧ ¬ b.successful) ∨ a.successful = b.successful ∧ b.resolvedAt ≤ a.resolvedAt

instance (a b : IncidentMemoryRecord) : Decidable (Precedes a b) :=
  inferInstanceAs (Decidable (_ ∨ _))

/-- Fewer than 500 other memories are as new, and the limit is not filled by other matches of the
same fingerprint. -/
structure Visible (rows : List IncidentMemoryRecord) (excluded limit : Nat)
    (record : IncidentMemoryRecord) : Prop where
  newer : (rows.filter (·.incidentId ≠ excluded)).countP (fun row ↦
    row.incidentId ≠ record.incidentId ∧ record.resolvedAt ≤ row.resolvedAt) < 500
  filled : (considered rows excluded).countP (fun row ↦ row.incidentId ≠ record.incidentId ∧
    row.fingerprint = record.fingerprint ∧ Precedes row record) < min (max limit 1) 20

theorem newerFirst_total (a b : IncidentMemoryRecord) :
    newerFirst a b || newerFirst b a := by
  simp only [newerFirst, Bool.or_eq_true, decide_eq_true_iff]
  omega

theorem newerFirst_trans (a b c : IncidentMemoryRecord) :
    newerFirst a b → newerFirst b c → newerFirst a c := by
  simp only [newerFirst, decide_eq_true_iff]
  omega

private theorem rankedFirst_iff {a b : RankedMemory} :
    rankedFirst a b ↔ b.score < a.score ∨ a.score = b.score ∧ Precedes a.record b.record := by
  unfold rankedFirst Precedes
  exact decide_eq_true_iff

theorem rankedFirst_total (a b : RankedMemory) : rankedFirst a b || rankedFirst b a := by
  simp only [rankedFirst, Bool.or_eq_true, decide_eq_true_iff]
  cases a.record.successful <;> cases b.record.successful <;> simp <;> omega

theorem rankedFirst_trans (a b c : RankedMemory) :
    rankedFirst a b → rankedFirst b c → rankedFirst a c := by
  simp only [rankedFirst, decide_eq_true_iff]
  cases a.record.successful <;> cases b.record.successful <;> cases c.record.successful <;>
    simp <;> omega

private theorem countP_le_add {p q r : IncidentMemoryRecord → Bool}
    (h : ∀ row, p row → q row ∨ r row) : rows.countP p ≤ rows.countP q + rows.countP r := by
  induction rows with
  | nil => exact Nat.zero_le _
  | cons row rest ih =>
    have hrow := h row
    simp only [List.countP_cons]
    split <;> split <;> split <;> simp_all <;> omega

/-- One row of each incident counts once. -/
private theorem countP_le_succ (hnodup : (rows.map (·.incidentId)).Nodup) (id : Nat)
    (p : IncidentMemoryRecord → Bool) :
    rows.countP p ≤ rows.countP (fun row ↦ row.incidentId ≠ id ∧ p row) + 1 := by
  have hone : rows.countP (fun row ↦ row.incidentId = id) ≤ 1 := by
    have hcount := List.nodup_iff_count_le_one.mp hnodup id
    rw [List.count_eq_countP, List.countP_map] at hcount
    refine le_of_eq_of_le (List.countP_congr fun row _ ↦ ?_) hcount
    simp
  refine (countP_le_add fun row hrow ↦ ?_).trans (Nat.add_le_add_left hone _)
  by_cases hid : row.incidentId = id
  · exact .inr (decide_eq_true hid)
  · exact .inl (decide_eq_true ⟨hid, hrow⟩)

private theorem nodup_considered (h : Kept u rows) :
    ((considered rows excluded).map (·.incidentId)).Nodup := by
  have hfilter : ((rows.filter (·.incidentId ≠ excluded)).map (·.incidentId)).Nodup :=
    h.nodup.sublist (List.filter_sublist.map _)
  have hsorted := ((List.mergeSort_perm (rows.filter (·.incidentId ≠ excluded)) newerFirst).map
    (·.incidentId)).nodup_iff.mpr hfilter
  exact hsorted.sublist ((List.take_sublist _ _).map _)

private theorem mem_considered (h : Kept u rows) (hrecord : record ∈ rows)
    (hother : record.incidentId ≠ excluded) (hvisible : Visible rows excluded limit record) :
    record ∈ considered rows excluded := by
  have hmem : record ∈ rows.filter (·.incidentId ≠ excluded) :=
    List.mem_filter.mpr ⟨hrecord, decide_eq_true hother⟩
  have hnodup : ((rows.filter (·.incidentId ≠ excluded)).map (·.incidentId)).Nodup :=
    h.nodup.sublist (List.filter_sublist.map _)
  refine mem_take_mergeSort (p := fun row ↦ record.resolvedAt ≤ row.resolvedAt) newerFirst_trans
    newerFirst_total hmem (decide_eq_true (le_refl _)) ?_ ?_
  · intro row _ hbefore
    exact hbefore
  · have hcount := countP_le_succ hnodup record.incidentId
      fun row ↦ record.resolvedAt ≤ row.resolvedAt
    have hnewer := hvisible.newer
    simp only [decide_eq_true_iff] at hcount
    omega

private theorem mem_rows_of_considered (h : record ∈ considered rows excluded) : record ∈ rows :=
  List.mem_of_mem_filter ((List.mergeSort_perm _ _).mem_iff.mp (List.mem_of_mem_take h))

private theorem selected_eq (rows : List IncidentMemoryRecord) (query : FingerprintInput)
    (excluded limit : Nat) : selected rows query excluded limit =
      ((((considered rows excluded).map (rank · query)).filter (40 ≤ ·.score)).mergeSort
        rankedFirst).take (min (max limit 1) 20) := rfl

/-- A row of the fingerprint of a query is selected, if nothing hides it. -/
private theorem mem_selected (h : Kept u rows) (hrecord : record ∈ rows)
    (hother : record.incidentId ≠ excluded) (hvisible : Visible rows excluded limit record)
    (hsame : record.fingerprint = query.canonical) :
    rank record query ∈ selected rows query excluded limit := by
  have hkeyed {row : IncidentMemoryRecord} (hrow : row ∈ rows) : Keyed row := by
    obtain ⟨write, rfl⟩ := h.written row hrow
    exact keyed_record write
  have hscore := (rank_of_fingerprint (hkeyed hrecord) hsame).1
  rw [selected_eq]
  refine mem_take_mergeSort (p := fun value ↦ rankedFirst value (rank record query))
    rankedFirst_trans rankedFirst_total ?_ ?_ (fun _ _ hbefore ↦ hbefore) ?_
  · refine List.mem_filter.mpr ⟨List.mem_map_of_mem (mem_considered h hrecord hother hvisible), ?_⟩
    rw [hscore]
    rfl
  · have htotal := rankedFirst_total (rank record query) (rank record query)
    rwa [Bool.or_self] at htotal
  · refine (List.filter_sublist.countP_le).trans ?_
    rw [List.countP_map]
    refine (countP_le_succ (nodup_considered h) record.incidentId _).trans ?_
    have hfilled := hvisible.filled
    refine (Nat.add_le_add_right (List.countP_mono_left fun row hrow hbefore ↦ ?_) 1).trans hfilled
    obtain ⟨hid, hfirst⟩ := of_decide_eq_true hbefore
    refine decide_eq_true ⟨hid, ?_⟩
    rw [Function.comp_apply, rankedFirst_iff] at hfirst
    rw [hscore, record_rank, record_rank] at hfirst
    by_cases hfingerprint : row.fingerprint = query.canonical
    · rw [(rank_of_fingerprint (hkeyed (mem_rows_of_considered hrow)) hfingerprint).1] at hfirst
      exact ⟨hfingerprint.trans hsame.symm, (hfirst.resolve_left (lt_irrefl _)).2⟩
    · have hless := (rank_of_fingerprint_ne hfingerprint).1
      omega

private theorem incidentId_answer (value : RankedMemory) :
    (answer value).incidentId = value.record.incidentId := rfl

private theorem matchReasons_answer (value : RankedMemory) :
    (answer value).matchReasons = value.reasons := rfl

/-- A memory that nothing hides is a match by fingerprint if and only if it has the fingerprint of
the query, which satisfies its schema. -/
theorem recalls_iff (h : Kept u rows) (hrecord : record ∈ rows)
    (hother : record.incidentId ≠ excluded) (hvisible : Visible rows excluded limit record) :
    Recalls rows query excluded limit record.incidentId ↔
      query.Valid ∧ record.fingerprint = query.canonical := by
  have hask (hvalid : query.Valid) (similar : List SimilarIncidentResponse) :
      ask rows query excluded limit = .ok similar ↔
        (selected rows query excluded limit).map answer = similar := by
    have hstart : ask rows query excluded limit = findSimilar rows query excluded limit := by
      unfold ask FingerprintInput.validate
      rw [if_pos hvalid]
      rfl
    rw [hstart, findSimilar_eq_ok]
    refine and_iff_right fun value hvalue ↦ ?_
    rw [selected_eq] at hvalue
    have hmem := List.mem_of_mem_filter
      ((List.mergeSort_perm _ _).mem_iff.mp (List.mem_of_mem_take hvalue))
    obtain ⟨row, hrow, rfl⟩ := List.mem_map.mp hmem
    obtain ⟨write, rfl⟩ := h.written row (mem_rows_of_considered hrow)
    rw [record_rank]
    exact knownAction write
  constructor
  · rintro ⟨similar, hok, found, hfound, hid, hreason⟩
    have hvalid : query.Valid := by
      by_contra hnot
      unfold ask FingerprintInput.validate at hok
      rw [if_neg hnot] at hok
      cases hok
    refine ⟨hvalid, ?_⟩
    rw [hask hvalid] at hok
    rw [← hok] at hfound
    obtain ⟨value, hvalue, rfl⟩ := List.mem_map.mp hfound
    rw [selected_eq] at hvalue
    have hmem := List.mem_of_mem_filter
      ((List.mergeSort_perm _ _).mem_iff.mp (List.mem_of_mem_take hvalue))
    obtain ⟨row, hrow, rfl⟩ := List.mem_map.mp hmem
    have hsame : row.incidentId = record.incidentId := by
      rwa [incidentId_answer, record_rank] at hid
    have heq : row = record :=
      List.inj_on_of_nodup_map h.nodup (mem_rows_of_considered hrow) hrecord hsame
    rw [heq, matchReasons_answer] at hreason
    by_contra hne
    exact (rank_of_fingerprint_ne hne).2 hreason
  · rintro ⟨hvalid, hsame⟩
    obtain ⟨write, hwrite⟩ := h.written record hrecord
    have hkeyed : Keyed record := hwrite ▸ keyed_record write
    have hanswer := List.mem_map_of_mem (f := answer)
      (mem_selected h hrecord hother hvisible hsame)
    refine ⟨_, (hask hvalid _).mpr rfl, _, hanswer, ?_, ?_⟩
    · rw [incidentId_answer, record_rank]
    · rw [matchReasons_answer]
      exact (rank_of_fingerprint hkeyed hsame).2

/-! ### The three fingerprints -/

/-- The namespace that a capture writes. -/
def writtenNs (background : Background) (alert : AlertRecord) : Option String :=
  (background.service.map fun service ↦ some service.ns).getD alert.ns

/-- The labels that a capture writes. -/
def writtenLabels (background : Background) (alert : AlertRecord) : Labels :=
  selectStableLabels ((background.service.map (·.labels)).getD alert.labels)

/-- What the rows of a captured incident and of a later one must have in common, once the alerts
name one service and one condition. -/
structure Recurs (background : Background) (incident : Incident) (alert : AlertRecord)
    (s : Sources) (later : NormalizedAlert) : Prop where
  rootCause : normalizeComponent ((background.diagnosis.map (·.rootCauseCategory)).getD
    (some incident.incidentType)) = "unknown"
  incidentType : normalizeComponent (some incident.incidentType) =
    normalizeComponent (some s.incident.incidentType)
  service : ∀ service ∈ background.service,
    normalizeComponent (some service.name) = normalizeComponent (some alert.service)
  serviceKey : normalizeComponent (some s.serviceKey) = normalizeComponent (some alert.service)
  title : normalizeComponent (some s.incident.title) = normalizeComponent (some alert.alertName)
  ns : normalizeComponent (writtenNs background alert) = normalizeComponent later.ns
  linkedNs : normalizeComponent (s.linked.map (·.ns)) = normalizeComponent later.ns
  labels : canonicalLabels (writtenLabels background alert) =
    canonicalLabels (supplementalQuery s.incident later).labels
  linkedLabels : canonicalLabels s.query.labels =
    canonicalLabels (supplementalQuery s.incident later).labels
  valid : s.query.Valid ∧ (supplementalQuery s.incident later).Valid

private theorem canonical_eq_iff {a b : FingerprintInput} :
    a.canonical = b.canonical ↔
      normalizeComponent (some a.service) = normalizeComponent (some b.service) ∧
        normalizeComponent (some a.incidentType) = normalizeComponent (some b.incidentType) ∧
          normalizeComponent (some a.alertName) = normalizeComponent (some b.alertName) ∧
            normalizeComponent a.ns = normalizeComponent b.ns ∧
              normalizeComponent a.rootCauseCategory = normalizeComponent b.rootCauseCategory ∧
                canonicalLabels a.labels = canonicalLabels b.labels := by
  unfold FingerprintInput.canonical
  exact Canonical.mk.injEq .. ▸ Iff.rfl

/-- What a capture hashes, where the incident has an alert. -/
private theorem fingerprintInput_memoryOf {db : Database} {background : Background}
    {id alertId : Nat} {incident : Incident} {alert : AlertRecord}
    (halert : db.alerts.latest (·.incidentId = some id) = some (alertId, alert)) :
    (memoryOf db background id incident).fingerprintInput =
      { service := (background.service.map (·.name)).getD alert.service
        incidentType := incident.incidentType
        alertName := alert.alertName
        ns := writtenNs background alert
        rootCauseCategory := (background.diagnosis.map (·.rootCauseCategory)).getD
          (some incident.incidentType)
        labels := writtenLabels background alert } := by
  unfold MemoryWrite.fingerprintInput memoryOf writtenNs writtenLabels
  simp only [halert, Option.map_some, Option.bind_some, Option.getD_some]
  cases background.service with
  | none => rfl
  | some service => rfl

/-- The memory of an incident is a match by fingerprint for a query of its fingerprint. -/
private theorem recalls_memory_iff {db : Database} {background : Background} {id : Nat}
    {incident : Incident} {memory : MemoryWrite}
    (hcapture : capture db background id incident = .ok memory)
    (hkept : memory.record u ∈ remembered u writes) (hother : id ≠ excluded)
    (hvisible : Visible (remembered u writes) excluded limit (memory.record u)) :
    Recalls (remembered u writes) query excluded limit id ↔ query.Valid ∧
      (memoryOf db background id incident).fingerprintInput.canonical = query.canonical := by
  have hmemory : memory = memoryOf db background id incident := by
    rcases capture_cases db background id incident with hok | hfailed
    · rw [hok] at hcapture
      exact (Except.ok.inj hcapture).symm
    · rw [hfailed] at hcapture
      cases hcapture
  have hid : (memory.record u).incidentId = id := by
    rw [hmemory]
    rfl
  have hfingerprint : (memory.record u).fingerprint =
      (memoryOf db background id incident).fingerprintInput.canonical := by
    rw [hmemory]
    rfl
  have hiff : Recalls (remembered u writes) query excluded limit (memory.record u).incidentId ↔
      query.Valid ∧ (memory.record u).fingerprint = query.canonical :=
    recalls_iff (kept_remembered u writes) hkept (hid.symm ▸ hother) hvisible
  rwa [hid, hfingerprint] at hiff

/-- The memory of an incident is found by both readers of a later one as a match by fingerprint if
and only if the rows they read agree, and no root cause was written. -/
theorem recalls_both_iff {db : Database} {background : Background} {id alertId : Nat}
    {incident : Incident} {alert : AlertRecord} {memory : MemoryWrite} {u : Unicode}
    {writes : List MemoryWrite} {s : Sources} {later : NormalizedAlert}
    (hcapture : capture db background id incident = .ok memory)
    (halert : db.alerts.latest (·.incidentId = some id) = some (alertId, alert))
    (hservice : later.service = alert.service) (hname : later.alertName = alert.alertName)
    (hmemories : s.memories = remembered u writes) (hkept : memory.record u ∈ s.memories)
    (hlater : s.incidentId ≠ id) (hvisible : Visible s.memories s.incidentId 5 (memory.record u)) :
    (Recalls s.memories s.query s.incidentId (min (max 5 1) 10) id ∧
      Recalls s.memories (supplementalQuery s.incident later) s.incidentId 5 id) ↔
        Recurs background incident alert s later := by
  have hlimit : min (max 5 1) 10 = 5 := rfl
  rw [hmemories] at hkept hvisible
  rw [hlimit, hmemories, recalls_memory_iff hcapture hkept hlater.symm hvisible,
    recalls_memory_iff hcapture hkept hlater.symm hvisible, fingerprintInput_memoryOf halert,
    canonical_eq_iff, canonical_eq_iff]
  constructor
  · rintro ⟨⟨hvalid, hkey, htype, htitle, hlinkedNs, hroot, hlinkedLabels⟩,
      hvalid', hwritten, -, -, hns, -, hlabels⟩
    have hown : normalizeComponent (some ((background.service.map (·.name)).getD alert.service)) =
        normalizeComponent (some alert.service) := hwritten.trans (hservice ▸ rfl)
    exact
      { rootCause := hroot
        incidentType := htype
        service := by
          intro service hmem
          rw [Option.mem_def.mp hmem] at hown
          exact hown
        serviceKey := hkey.symm.trans hown
        title := htitle.symm
        ns := hns
        linkedNs := hlinkedNs.symm.trans hns
        labels := hlabels
        linkedLabels := hlinkedLabels.symm.trans hlabels
        valid := ⟨hvalid, hvalid'⟩ }
  · intro h
    have hown : normalizeComponent (some ((background.service.map (·.name)).getD alert.service)) =
        normalizeComponent (some alert.service) := by
      cases hcase : background.service with
      | none => rfl
      | some service => exact h.service service hcase
    refine ⟨⟨h.valid.1, hown.trans h.serviceKey.symm, h.incidentType, h.title.symm,
      h.ns.trans h.linkedNs.symm, h.rootCause, h.labels.trans h.linkedLabels.symm⟩,
      h.valid.2, ?_, h.incidentType, ?_, h.ns, h.rootCause, h.labels⟩
    · rw [hown, ← hservice]
      rfl
    · rw [← hname]
      rfl

/-! ### Two captured incidents -/

/-- An alert of a service. -/
private def firedRow (service : String) : AlertRecord where
  incidentId := some 0
  fingerprint := "fingerprint"
  payloadDigest := "digest"
  alertName := "HighHTTPErrorRate"
  status := .firing
  severity := "warning"
  service := service
  environment := .staging
  ns := none
  labels := ∅
  annotations := ∅
  startsAt := 0
  endsAt := none
  lastReceivedAt := 0

/-- The incident it raised, at its end. -/
private def endedIncident (service : String) : Incident where
  correlationId := "correlation"
  incidentType := "reliability.bad-deployment"
  title := "HighHTTPErrorRate on " ++ service
  environment := .staging
  state := .resolved
  resolvedAt := some 1

private def endedDatabase (service : String) : Database where
  incidents := [endedIncident service]
  alerts := [firedRow service]

/-- A diagnosis that no model answered. -/
private def unanswered : DiagnosisRow where
  rootCauseCategory := none
  model := none
  confidence := none
  rootCauseCategory_length := fun _ h ↦ absurd h (Option.not_mem_none _)
  model_length := fun _ h ↦ absurd h (Option.not_mem_none _)

/-- The alert, fired again. -/
private def firedAgain (service : String) : NormalizedAlert where
  alertName := "HighHTTPErrorRate"
  status := .firing
  severity := "warning"
  service := service
  environment := .staging
  startsAt := 2
  annotations := ∅
  fingerprint := "fingerprint"
  payloadDigest := "digest"

/-- A later incident with a title, and the memories. -/
private def laterSources (title : String) (memories : List IncidentMemoryRecord) : Sources where
  incidentId := 1
  incident :=
    { correlationId := "correlation", incidentType := "reliability.bad-deployment", title
      environment := .staging }
  serviceId := none
  service := none
  evidence := []
  memories
  runbooks := []
  unique := List.nodup_nil

private theorem visible_singleton (record : IncidentMemoryRecord) :
    Visible [record] 1 5 record := by
  constructor
  · refine (List.countP_eq_zero.mpr fun row hrow ↦ ?_).trans_lt (by decide)
    rw [List.mem_singleton.mp (List.mem_of_mem_filter hrow)]
    simp
  · refine (List.countP_eq_zero.mpr fun row hrow ↦ ?_).trans_lt (by decide)
    rw [List.mem_singleton.mp (mem_rows_of_considered hrow)]
    simp

/-- The memory of the incident of an alert. -/
private def endedMemory (background : Background) (service : String) : MemoryWrite :=
  memoryOf (endedDatabase service) background 0 (endedIncident service)

private def laterOf (background : Background) (service title : String) : Sources :=
  laterSources title (remembered bareTable [endedMemory background service])

private theorem mem_laterOf (background : Background) (service title : String) :
    (endedMemory background service).record bareTable ∈
      (laterOf background service title).memories := List.mem_singleton_self _

private theorem visible_laterOf (background : Background) (service title : String) :
    Visible (laterOf background service title).memories 1 5
      ((endedMemory background service).record bareTable) := visible_singleton _

/-- The memory of an incident whose diagnosis no model answered is found, where the alert names the
service that an incident without one has, and an operator took the service out of the title. -/
theorem recalls_both_unanswered :
    let s := laterOf { diagnosis := some unanswered } "unassigned" "HighHTTPErrorRate"
    Recalls s.memories s.query s.incidentId (min (max 5 1) 10) 0 ∧
      Recalls s.memories (supplementalQuery s.incident (firedAgain "unassigned")) s.incidentId 5
        0 := by
  have hcapture : capture (endedDatabase "unassigned") { diagnosis := some unanswered } 0
      (endedIncident "unassigned") =
        .ok (endedMemory { diagnosis := some unanswered } "unassigned") := by
    unfold capture
    exact if_pos (by decide +kernel)
  have hrecurs : Recurs { diagnosis := some unanswered } (endedIncident "unassigned")
      (firedRow "unassigned")
      (laterOf { diagnosis := some unanswered } "unassigned" "HighHTTPErrorRate")
      (firedAgain "unassigned") := by
    constructor
    · decide +kernel
    · decide +kernel
    · exact fun _ h ↦ absurd h (Option.not_mem_none _)
    · decide +kernel
    · decide +kernel
    · decide +kernel
    · decide +kernel
    · simp [writtenLabels, firedRow, supplementalQuery, firedAgain, canonicalLabels,
        selectStableLabels]
    · simp [Sources.query, Sources.linked, laterOf, laterSources, supplementalQuery, firedAgain,
        canonicalLabels, selectStableLabels]
    · decide +kernel
  exact (recalls_both_iff hcapture rfl rfl rfl rfl (mem_laterOf _ _ _) (by decide)
    (visible_laterOf _ _ _)).mpr hrecurs

/-- An incident that no model was asked about is remembered by its type as a root cause, which
neither reader asks for. -/
theorem not_recalls_undiagnosed :
    let s := laterOf {} "checkout" "HighHTTPErrorRate on checkout"
    capture (endedDatabase "checkout") {} 0 (endedIncident "checkout") =
        .ok (endedMemory {} "checkout") ∧
      (endedDatabase "checkout").alerts.latest (·.incidentId = some 0) =
        some (0, firedRow "checkout") ∧
      (firedAgain "checkout").fingerprint = (firedRow "checkout").fingerprint ∧
      (firedAgain "checkout").service = (firedRow "checkout").service ∧
      (firedAgain "checkout").alertName = (firedRow "checkout").alertName ∧
      Visible s.memories s.incidentId 5 ((endedMemory {} "checkout").record bareTable) ∧
      ¬ Recalls s.memories s.query s.incidentId (min (max 5 1) 10) 0 ∧
      ¬ Recalls s.memories (supplementalQuery s.incident (firedAgain "checkout")) s.incidentId 5
        0 := by
  have hcapture : capture (endedDatabase "checkout") {} 0 (endedIncident "checkout") =
      .ok (endedMemory {} "checkout") := by
    unfold capture
    exact if_pos (by decide +kernel)
  have hnot (query : FingerprintInput) (hroot : query.rootCauseCategory = none) :
      ¬ Recalls (remembered bareTable [endedMemory {} "checkout"]) query 1 5 0 := by
    have hiff : Recalls (remembered bareTable [endedMemory {} "checkout"]) query 1 5 0 ↔ _ :=
      recalls_memory_iff hcapture (mem_laterOf {} "checkout" "") (by decide)
        (visible_laterOf {} "checkout" "")
    rw [hiff]
    rintro ⟨-, hsame⟩
    have hwritten : normalizeComponent (some "reliability.bad-deployment") =
        normalizeComponent query.rootCauseCategory := congrArg Canonical.rootCauseCategory hsame
    rw [hroot] at hwritten
    revert hwritten
    decide +kernel
  exact ⟨hcapture, rfl, rfl, rfl, rfl, visible_laterOf _ _ _, hnot _ rfl, hnot _ rfl⟩

end CloudWard.IncidentMemory
