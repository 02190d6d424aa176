import CloudWard.Alerts.Schemas
import CloudWard.Incidents.Service

/-!
# Memory of a closed incident

`incident_memory/capture.py` and the schemas of `incident_memory/schemas.py:14` and
`incident_memory/fingerprint.py:43`: what is remembered of an incident that ends, made of the
newest rows about it. The evidence summary, which no schema bounds, is left out.
-/

namespace CloudWard.IncidentMemory

open CloudWard.Alerts CloudWard.Db CloudWard.Incidents CloudWard.Logic CloudWard.Remediation
  CloudWard.Risk

/-- The columns of `Service`, `db/models.py:186`, that a memory reads. -/
structure ServiceRow where
  name : String
  ns : String
  labels : Labels
  name_length : 1 ≤ name.length ∧ name.length ≤ 255
  ns_length : ns.length ≤ 253

/-- The columns of `AIDiagnosisRecord`, `ai/models.py:14`, that a memory reads. -/
structure DiagnosisRow where
  rootCauseCategory : Option String
  model : Option String
  confidence : Option Confidence
  rootCauseCategory_length : ∀ category ∈ rootCauseCategory, category.length ≤ 128
  model_length : ∀ name ∈ model, name.length ≤ 128

/-- What a capture finds besides the incident's tables: its service, its newest diagnosis, the end
that an earlier memory names, when it was created, and the time. -/
structure Background where
  service : Option ServiceRow := none
  diagnosis : Option DiagnosisRow := none
  rememberedAt : Option Nat := none
  createdAt : Nat := 0
  now : Nat := 0

/-- `MemoryWrite`, `incident_memory/schemas.py:14`. -/
structure MemoryWrite where
  incidentId : Nat
  service : String
  environment : String
  incidentType : String
  alertName : String
  ns : Option String
  rootCauseCategory : Option String
  labels : Labels
  runbookId : Option String
  action : Option ActionType
  result : String
  verificationSuccess : Option Bool
  durationSeconds : Nat
  model : Option String
  confidence : Option Confidence
  resolvedAt : Nat
  operatorSummary : String

/-- The bounds that `MemoryWrite` and `FingerprintInput` share. -/
structure MemoryWrite.Named (m : MemoryWrite) : Prop where
  service : 1 ≤ m.service.length ∧ m.service.length ≤ 255
  incidentType : 1 ≤ m.incidentType.length ∧ m.incidentType.length ≤ 128
  alertName : 1 ≤ m.alertName.length ∧ m.alertName.length ≤ 255
  ns : ∀ ns ∈ m.ns, ns.length ≤ 253
  rootCauseCategory : ∀ category ∈ m.rootCauseCategory, category.length ≤ 128

/-- The other bounds of `MemoryWrite`. -/
structure MemoryWrite.Bounded (m : MemoryWrite) : Prop where
  environment : 1 ≤ m.environment.length ∧ m.environment.length ≤ 32
  runbookId : ∀ id ∈ m.runbookId, id.length ≤ 255
  result : 1 ≤ m.result.length ∧ m.result.length ≤ 64
  model : ∀ model ∈ m.model, model.length ≤ 128
  operatorSummary : m.operatorSummary.length ≤ 2000

/-- `bound_labels`, `incident_memory/fingerprint.py:54`. -/
structure BoundLabels (labels : Labels) : Prop where
  card : labels.entries.length ≤ 50
  entries : ∀ entry ∈ labels.entries, entry.1.length ≤ 255 ∧ entry.2.length ≤ 255

instance (m : MemoryWrite) : Decidable m.Named :=
  decidable_of_iff
    ((1 ≤ m.service.length ∧ m.service.length ≤ 255) ∧
      (1 ≤ m.incidentType.length ∧ m.incidentType.length ≤ 128) ∧
      (1 ≤ m.alertName.length ∧ m.alertName.length ≤ 255) ∧
      (∀ ns ∈ m.ns, ns.length ≤ 253) ∧ ∀ category ∈ m.rootCauseCategory, category.length ≤ 128)
    ⟨fun ⟨h1, h2, h3, h4, h5⟩ ↦ ⟨h1, h2, h3, h4, h5⟩,
      fun ⟨h1, h2, h3, h4, h5⟩ ↦ ⟨h1, h2, h3, h4, h5⟩⟩

instance (m : MemoryWrite) : Decidable m.Bounded :=
  decidable_of_iff
    ((1 ≤ m.environment.length ∧ m.environment.length ≤ 32) ∧
      (∀ id ∈ m.runbookId, id.length ≤ 255) ∧ (1 ≤ m.result.length ∧ m.result.length ≤ 64) ∧
      (∀ model ∈ m.model, model.length ≤ 128) ∧ m.operatorSummary.length ≤ 2000)
    ⟨fun ⟨h1, h2, h3, h4, h5⟩ ↦ ⟨h1, h2, h3, h4, h5⟩,
      fun ⟨h1, h2, h3, h4, h5⟩ ↦ ⟨h1, h2, h3, h4, h5⟩⟩

instance (labels : Labels) : Decidable (BoundLabels labels) :=
  decidable_of_iff
    (labels.entries.length ≤ 50 ∧
      ∀ entry ∈ labels.entries, entry.1.length ≤ 255 ∧ entry.2.length ≤ 255)
    ⟨fun ⟨h1, h2⟩ ↦ ⟨h1, h2⟩, fun ⟨h1, h2⟩ ↦ ⟨h1, h2⟩⟩

/-- `DEFAULT_STABLE_LABELS`, `incident_memory/fingerprint.py:12`. -/
def defaultStableLabels : List String :=
  ["app", "app.kubernetes.io/name", "app.kubernetes.io/component", "cloudward.io/scenario", "team"]

/-- `select_stable_labels`, `incident_memory/fingerprint.py:23`. -/
def selectStableLabels (labels : Labels) : Labels :=
  ⟨(labels.entries.filter fun entry ↦ entry.1 ∈ defaultStableLabels).map fun entry ↦
      ⟨entry.1, cut 255 entry.2⟩, by
    have h : (labels.entries.filter fun entry ↦ entry.1 ∈ defaultStableLabels).NodupKeys :=
      labels.nodupKeys.sublist List.filter_sublist
    rwa [List.NodupKeys, List.keys, List.map_map]⟩

/-- `str(success)` of a verification, or that there is none. -/
def successText : Option Bool → String
  | some true => "True"
  | some false => "False"
  | none => "not recorded"

/-- The memory of an incident, `incident_memory/capture.py:100`. -/
def memoryOf (db : Database) (background : Background) (id : Nat) (incident : Incident) :
    MemoryWrite :=
  let service := background.service
  let alert := (db.alerts.latest (·.incidentId = some id)).map (·.2)
  let execution := (db.executions.latest (·.incidentId = id)).map (·.2)
  let proposal := (db.proposals.latest (·.incidentId = id)).map (·.2)
  let verification := (db.verificationRecords.latest (·.incidentId = id)).map (·.2)
  let terminalAt := (incident.resolvedAt.or background.rememberedAt).getD background.now
  let action := (execution.map (·.actionType)).or (proposal.map (·.actionType))
  { incidentId := id
    service := ((service.map (·.name)).or (alert.map (·.service))).getD "unassigned"
    environment := incident.environment.value
    incidentType := incident.incidentType
    alertName := (alert.map (·.alertName)).getD incident.title
    ns := (service.map fun service ↦ some service.ns).getD (alert.bind (·.ns))
    rootCauseCategory := (background.diagnosis.map (·.rootCauseCategory)).getD
      (some incident.incidentType)
    labels := selectStableLabels
      (((service.map (·.labels)).or (alert.map (·.labels))).getD ∅)
    runbookId := incident.runbookId
    action
    result := incident.state.value
    verificationSuccess := verification.map (·.success)
    durationSeconds := terminalAt - background.createdAt
    model := background.diagnosis.bind (·.model)
    confidence := background.diagnosis.bind (·.confidence)
    resolvedAt := terminalAt
    operatorSummary := incident.title ++ "; terminal state " ++ incident.state.value ++
      "; action " ++ (action.map (·.value)).getD "none" ++ "; verification " ++
      successText (verification.map (·.success)) }

/-- `capture_terminal_incident`, `incident_memory/capture.py:24`, up to the row it stores: the
memory, if it and its fingerprint satisfy their schemas. -/
def capture (db : Database) (background : Background) (id : Nat) (incident : Incident) :
    Except Exc MemoryWrite :=
  let memory := memoryOf db background id incident
  if memory.Bounded ∧ memory.Named ∧ BoundLabels memory.labels then .ok memory
  else .error .validation

/-- A capture stores the memory or fails a validation. -/
theorem capture_cases (db : Database) (background : Background) (id : Nat) (incident : Incident) :
    capture db background id incident = .ok (memoryOf db background id incident) ∨
      capture db background id incident = .error .validation :=
  ite_eq_or_eq _ _ _

/-! ### What a capture asks of the rows -/

/-- The selected labels satisfy their schema, whatever the labels are. -/
theorem boundLabels_selectStableLabels (labels : Labels) : BoundLabels (selectStableLabels labels) := by
  let selected := labels.entries.filter fun entry ↦ entry.1 ∈ defaultStableLabels
  have hmem {entry : Sigma fun _ : String ↦ String} (h : entry ∈ selected) :
      entry.1 ∈ defaultStableLabels := of_decide_eq_true (List.mem_filter.mp h).2
  constructor
  · have hnodup : (selected.map Sigma.fst).Nodup :=
      List.NodupKeys.sublist List.filter_sublist labels.nodupKeys
    have hsubset : selected.map Sigma.fst ⊆ defaultStableLabels := by
      intro key hkey
      obtain ⟨entry, hentry, rfl⟩ := List.mem_map.mp hkey
      exact hmem hentry
    have hle : selected.length ≤ 5 := by
      simpa [defaultStableLabels] using (List.subperm_of_subset hnodup hsubset).length_le
    simp only [selectStableLabels, List.length_map]
    exact hle.trans (by decide)
  · intro entry hentry
    obtain ⟨old, hold, rfl⟩ := List.mem_map.mp hentry
    have hkeys : ∀ key ∈ defaultStableLabels, key.length ≤ 255 := by decide
    exact ⟨hkeys old.1 (hmem hold), length_cut_le 255 old.2⟩

/-- What ingestion leaves of an incident, by which a capture does not fail. -/
structure Titled (incident : Incident) : Prop where
  title : incident.title ≠ ""
  incidentType : incident.incidentType ≠ ""

theorem one_le_length {text : String} : 1 ≤ text.length ↔ text ≠ "" := by
  rw [Nat.one_le_iff_ne_zero, Ne, String.length_eq_zero_iff]

private theorem length_value (state : IncidentState) :
    1 ≤ state.value.length ∧ state.value.length ≤ 19 := by
  cases state <;> decide

private theorem length_environment (environment : Environment) :
    1 ≤ environment.value.length ∧ environment.value.length ≤ 32 := by
  cases environment <;> decide

private theorem length_action (action : ActionType) : action.value.length ≤ 24 := by
  cases action <;> decide

private theorem length_successText (success : Option Bool) : (successText success).length ≤ 12 := by
  rcases success with _ | _ | _ <;> decide

variable {db : Database} {background : Background} {id : Nat} {incident : Incident}

private theorem bounded_memoryOf (hfits : incident.Fits) :
    (memoryOf db background id incident).Bounded where
  environment := length_environment incident.environment
  runbookId := fun runbook h ↦ (hfits.runbookId runbook h).1
  result := ⟨(length_value incident.state).1, (length_value incident.state).2.trans (by decide)⟩
  model := by
    intro name hname
    obtain ⟨diagnosis, -, hmodel⟩ := Option.bind_eq_some_iff.mp hname
    exact diagnosis.model_length name hmodel
  operatorSummary := by
    have htitle : incident.title.length ≤ 255 := hfits.title.1
    have hstate := (length_value incident.state).2
    have haction (action : Option ActionType) :
        ((action.map (·.value)).getD "none").length ≤ 24 := by
      cases action with
      | none => decide
      | some action => exact length_action action
    simp only [memoryOf, String.length_append]
    have h1 := haction (((db.executions.latest (·.incidentId = id)).map (·.2)).map (·.actionType)
      |>.or (((db.proposals.latest (·.incidentId = id)).map (·.2)).map (·.actionType)))
    have h2 := length_successText
      (((db.verificationRecords.latest (·.incidentId = id)).map (·.2)).map (·.success))
    have hparts : "; terminal state ".length = 17 ∧ "; action ".length = 9 ∧
        "; verification ".length = 15 := by decide
    omega

/-- What is named in a memory, where the incident's newest alert, if there is one, fits its
columns and names a service: everything, once the alert's own name is not empty. -/
private theorem named_memoryOf_iff (hfits : incident.Fits) (htitled : Titled incident)
    (halert : ∀ entry ∈ db.alerts.latest (·.incidentId = some id),
      entry.2.Fits ∧ entry.2.service ≠ "") :
    (memoryOf db background id incident).Named ↔
      ∀ entry ∈ db.alerts.latest (·.incidentId = some id), entry.2.alertName ≠ "" := by
  have htype := hfits.incidentType.1
  unfold memoryOf
  cases hlatest : db.alerts.latest (·.incidentId = some id) with
  | none =>
    refine ⟨fun _ _ h ↦ absurd h (Option.not_mem_none _), fun _ ↦ ?_⟩
    constructor
    · cases background.service with
      | none => exact (by decide : 1 ≤ "unassigned".length ∧ "unassigned".length ≤ 255)
      | some service => exact service.name_length
    · exact ⟨one_le_length.mpr htitled.incidentType, htype.trans (by decide)⟩
    · exact ⟨one_le_length.mpr htitled.title, hfits.title.1⟩
    · cases hservice : background.service with
      | none => exact fun _ h ↦ absurd h (Option.not_mem_none _)
      | some service =>
        intro ns hns
        cases hns
        exact service.ns_length
    · cases hdiagnosis : background.diagnosis with
      | none =>
        intro category hcategory
        cases hcategory
        exact htype.trans (by decide)
      | some diagnosis => exact diagnosis.rootCauseCategory_length
  | some entry =>
    obtain ⟨hrow, hservice⟩ := halert entry hlatest
    constructor
    · intro h found hfound
      cases hfound
      exact one_le_length.mp h.alertName.1
    intro hname
    constructor
    · cases background.service with
      | none => exact ⟨one_le_length.mpr hservice, hrow.service.1⟩
      | some service => exact service.name_length
    · exact ⟨one_le_length.mpr htitled.incidentType, htype.trans (by decide)⟩
    · exact ⟨one_le_length.mpr (hname entry rfl), hrow.alertName.1.trans (by decide)⟩
    · cases hbackground : background.service with
      | none => exact fun ns hns ↦ (hrow.ns ns hns).1
      | some service =>
        intro ns hns
        cases hns
        exact service.ns_length
    · cases hdiagnosis : background.diagnosis with
      | none =>
        intro category hcategory
        cases hcategory
        exact htype.trans (by decide)
      | some diagnosis => exact diagnosis.rootCauseCategory_length

/-- A capture fails exactly where the incident's newest alert has no name. -/
theorem capture_eq_ok_iff (hfits : incident.Fits) (htitled : Titled incident)
    (halert : ∀ entry ∈ db.alerts.latest (·.incidentId = some id),
      entry.2.Fits ∧ entry.2.service ≠ "") :
    capture db background id incident = .ok (memoryOf db background id incident) ↔
      ∀ entry ∈ db.alerts.latest (·.incidentId = some id), entry.2.alertName ≠ "" := by
  rw [← named_memoryOf_iff hfits htitled halert]
  unfold capture
  simp only [bounded_memoryOf hfits, true_and]
  have hlabels : BoundLabels (memoryOf db background id incident).labels :=
    boundLabels_selectStableLabels _
  constructor
  · intro h
    by_contra hnot
    rw [if_neg fun h ↦ hnot h.1] at h
    cases h
  · exact fun h ↦ if_pos ⟨h, hlabels⟩

end CloudWard.IncidentMemory
