import CloudWard.Security.Redaction
import CloudWard.Security.Schemas

/-!
# Stored security events

`normalized_payload` (`security/normalization.py:39`) redacts the details of an event before they
are stored, and `security_event_response` (`security/service.py:47`) reads them back through the
strict models. The stored text is read if the masks leave it within its field; a text near its
limit with a secret shorter than the mask is not.
-/

namespace CloudWard.Security

open CloudWard.Db CloudWard.Kubernetes CloudWard.Logic CloudWard.Policies Python Redaction

/-- `ProcessDetails.model_dump`. -/
def RawProcess.dump (p : RawProcess) : Json :=
  .dict [("binary", .str p.binary), ("parent_binary", .ofOption p.parentBinary)]

/-- `NetworkDetails.model_dump`. -/
def RawNetwork.dump (n : RawNetwork) : Json :=
  .dict [("destination_host", .str n.destinationHost), ("destination_port", .int n.destinationPort),
    ("protocol", .str n.protocol)]

/-- The fields of process details in an object that has no others. -/
def RawProcess.ofJson : Json → Option RawProcess
  | .dict entries =>
    if entries.all fun entry ↦ entry.1 ∈ ["binary", "parent_binary"] then
      match entries.lookup "binary", entries.lookup "parent_binary" with
      | some (.str binary), none | some (.str binary), some .null => some ⟨binary, none⟩
      | some (.str binary), some (.str parent) => some ⟨binary, some parent⟩
      | _, _ => none
    else none
  | _ => none

/-- The fields of network details in an object that has no others; the protocol has a default. -/
def RawNetwork.ofJson : Json → Option RawNetwork
  | .dict entries =>
    if entries.all fun entry ↦
        entry.1 ∈ ["destination_host", "destination_port", "protocol"] then
      match entries.lookup "destination_host", entries.lookup "destination_port",
        entries.lookup "protocol" with
      | some (.str host), some (.int port), none => some ⟨host, port, "tcp"⟩
      | some (.str host), some (.int port), some (.str protocol) => some ⟨host, port, protocol⟩
      | _, _, _ => none
    else none
  | _ => none

/-- `ProcessDetails.model_validate`. -/
def ProcessDetails.modelValidate (value : Json) : Except Exc ProcessDetails :=
  match RawProcess.ofJson value with
  | some p => if h : p.Valid then .ok ⟨p, h⟩ else .error .validation
  | none => .error .validation

/-- `NetworkDetails.model_validate`. -/
def NetworkDetails.modelValidate (value : Json) : Except Exc NetworkDetails :=
  match RawNetwork.ofJson value with
  | some n => if h : n.Valid then .ok ⟨n, h⟩ else .error .validation
  | none => .error .validation

/-- The details of an event before redaction, `security/normalization.py:42`. -/
def detailsOf (event : AcceptedEvent) : Json :=
  .dict [("process", (event.process.map (·.dump)).getD .null),
    ("network", (event.network.map (·.dump)).getD .null),
    ("workload_labels",
      .dict (event.workloadLabels.entries.map fun entry ↦ (entry.1, .str entry.2))),
    ("secrets_or_data_exposure", .bool event.secretsOrDataExposure)]

/-- `normalized_payload`, `security/normalization.py:39`. -/
def normalizedPayload (u : Unicode) (event : AcceptedEvent) : Json :=
  match redactSecurityValue u 16 (detailsOf event) with
  | .dict entries => .dict entries
  | _ => .dict []

/-- A row of security events with the columns only the responses read. -/
structure StoredEvent where
  id : Nat
  row : SecurityEvent
  containerName : String
  evidenceRef : String
  occurredAt : Nat
  lastSeenAt : Nat
  payload : Json

/-- The columns an ingestion writes beside the modelled row, `security/service.py:134`. -/
def stored (u : Unicode) (event : AcceptedEvent) (id lastSeenAt : Nat) (row : SecurityEvent) :
    StoredEvent where
  id := id
  row := row
  containerName := event.container
  evidenceRef := event.evidenceRef
  occurredAt := event.timestamp
  lastSeenAt := lastSeenAt
  payload := normalizedPayload u event

/-- `SecurityEventResponse`, `security/schemas.py:104`. -/
structure SecurityEventResponse where
  id : Nat
  eventType : SecurityCategory
  severity : String
  environment : Environment
  ns : String
  pod : String
  workload : Option String
  container : String
  policy : String
  evidenceRef : String
  incidentId : Option Nat
  containmentStatus : ContainmentStatus
  riskScore : Option Nat
  policyDecision : Option String
  occurredAt : Nat
  lastSeenAt : Nat
  dedupCount : Nat
  process : Option ProcessDetails
  network : Option NetworkDetails

/-- `Model.model_validate(payload) if payload else None`. -/
def readDetails {α : Type} (validate : Json → Except Exc α) (payload : Option Json) :
    Except Exc (Option α) :=
  match payload with
  | some value => if value.truthy then some <$> validate value else .ok none
  | none => .ok none

/-- `security_event_response`, `security/service.py:47`. -/
def securityEventResponse (event : StoredEvent) : Except Exc SecurityEventResponse := do
  let process ← readDetails ProcessDetails.modelValidate (event.payload.get? "process")
  let network ← readDetails NetworkDetails.modelValidate (event.payload.get? "network")
  return {
    id := event.id
    eventType := event.row.eventType
    severity := event.row.severity
    environment := event.row.environment
    ns := event.row.ns
    pod := event.row.pod
    workload := event.row.workload
    container := event.containerName
    policy := event.row.policy
    evidenceRef := event.evidenceRef
    incidentId := event.row.incidentId
    containmentStatus := event.row.containmentStatus
    riskScore := event.row.riskScore
    policyDecision := event.row.policyDecision
    occurredAt := event.occurredAt
    lastSeenAt := event.lastSeenAt
    dedupCount := event.row.dedupCount
    process
    network }

variable {u : Unicode}

/-! ### What a stored event reads back -/

/-- The rules a text of the details goes through: those of the logs at three depths, then those
of the security events. -/
def fieldRules (u : Unicode) : List (Rule Char) :=
  stringRules u ++ stringRules u ++ stringRules u ++ secretRules u

private theorem marked_fieldRules (u : Unicode) :
    ∀ rule ∈ fieldRules u, Marked rule.kept ∨ Marked rule.secret := by
  intro rule h
  simp only [fieldRules, List.mem_append] at h
  rcases h with ((h | h) | h) | h
  · exact marked_stringRules u rule h
  · exact marked_stringRules u rule h
  · exact marked_stringRules u rule h
  · exact marked_secretRules u rule h

private theorem masked_fieldRules (text : String) :
    masked (secretRules u) (redactText u (redactText u (redactText u text))) =
      masked (fieldRules u) text := by
  simp only [fieldRules, masked_append, redactText]

/-- The process details that are stored. -/
def RawProcess.redacted (u : Unicode) (p : RawProcess) : RawProcess :=
  ⟨masked (fieldRules u) p.binary, p.parentBinary.map (masked (fieldRules u))⟩

/-- The network details that are stored. -/
def RawNetwork.redacted (u : Unicode) (n : RawNetwork) : RawNetwork :=
  ⟨masked (fieldRules u) n.destinationHost, n.destinationPort, masked (fieldRules u) n.protocol⟩

private theorem redact_process (p : RawProcess) :
    redactSecurityValue u 15 (redactUntrusted u 15 p.dump) = (p.redacted u).dump := by
  have hbinary : sensitiveKey "binary" = false := by decide +kernel
  have hparent : sensitiveKey "parent_binary" = false := by decide +kernel
  cases hp : p.parentBinary with
  | none =>
    simp [RawProcess.dump, RawProcess.redacted, hp, Json.ofOption, redactUntrusted,
      redactSecurityValue, redact, hbinary, hparent, masked_fieldRules]
  | some parent =>
    simp [RawProcess.dump, RawProcess.redacted, hp, Json.ofOption, redactUntrusted,
      redactSecurityValue, redact, hbinary, hparent, masked_fieldRules]

private theorem redact_network (n : RawNetwork) :
    redactSecurityValue u 15 (redactUntrusted u 15 n.dump) = (n.redacted u).dump := by
  have hhost : sensitiveKey "destination_host" = false := by decide +kernel
  have hport : sensitiveKey "destination_port" = false := by decide +kernel
  have hprotocol : sensitiveKey "protocol" = false := by decide +kernel
  simp [RawNetwork.dump, RawNetwork.redacted, redactUntrusted, redactSecurityValue, redact,
    hhost, hport, hprotocol, masked_fieldRules]

private theorem redact_null :
    redactSecurityValue u 15 (redactUntrusted u 15 .null) = .null := by
  simp [redactUntrusted, redactSecurityValue, redact]

/-- The details of a stored event. -/
theorem normalizedPayload_details (event : AcceptedEvent) :
    (normalizedPayload u event).get? "process" =
        some ((event.process.map fun p ↦ (p.redacted u).dump).getD .null) ∧
      (normalizedPayload u event).get? "network" =
        some ((event.network.map fun n ↦ (n.redacted u).dump).getD .null) := by
  have hprocess : sensitiveKey "process" = false := by decide +kernel
  have hnetwork : sensitiveKey "network" = false := by decide +kernel
  have hpayload : ∃ rest, normalizedPayload u event = .dict
      (("process", redactSecurityValue u 15
          (redactUntrusted u 15 ((event.process.map (·.dump)).getD .null))) ::
        ("network", redactSecurityValue u 15
          (redactUntrusted u 15 ((event.network.map (·.dump)).getD .null))) :: rest) := by
    simp only [normalizedPayload, detailsOf, redactSecurityValue, redact, redactUntrusted,
      List.map_cons, hprocess, hnetwork, Bool.false_eq_true, if_false]
    exact ⟨_, rfl⟩
  obtain ⟨rest, hpayload⟩ := hpayload
  rw [hpayload]
  constructor
  · cases event.process with
    | none => simp [Json.get?, redact_null]
    | some p => simp [Json.get?, redact_process]
  · cases event.network with
    | none => simp [Json.get?, List.lookup_cons, redact_null]
    | some n => simp [Json.get?, List.lookup_cons, redact_network]

private theorem ofJson_process (p : RawProcess) : RawProcess.ofJson p.dump = some p := by
  rcases p with ⟨binary, _ | parent⟩
  · rfl
  · rfl

private theorem ofJson_network (n : RawNetwork) : RawNetwork.ofJson n.dump = some n := rfl

private theorem valid_redacted_process (p : ProcessDetails) :
    (p.redacted u).Valid ↔ Room 512 (fieldRules u) p.binary ∧
      ∀ parent ∈ p.parentBinary, Room 512 (fieldRules u) parent := by
  have hbinary : 1 ≤ (masked (fieldRules u) p.binary).length := one_le_length_masked p.valid.1.1
  unfold RawProcess.Valid RawProcess.redacted
  dsimp only
  rw [length_masked_le_iff, and_iff_right hbinary]
  constructor
  · rintro ⟨hroom, hparent⟩
    refine ⟨hroom, fun parent h ↦ length_masked_le_iff.mp (hparent _ ?_)⟩
    exact Option.mem_map_of_mem _ h
  · rintro ⟨hroom, hparent⟩
    refine ⟨hroom, fun text h ↦ ?_⟩
    obtain ⟨parent, hmem, rfl⟩ := Option.mem_map.mp h
    exact length_masked_le_iff.mpr (hparent parent hmem)

private theorem valid_redacted_network (n : NetworkDetails) :
    (n.redacted u).Valid ↔ Room 253 (fieldRules u) n.destinationHost := by
  have hhost : 1 ≤ (masked (fieldRules u) n.destinationHost).length :=
    one_le_length_masked n.valid.1.1
  have hprotocol : masked (fieldRules u) n.protocol = n.protocol := by
    apply masked_of_plain (marked_fieldRules u)
    have hmem := n.valid.2.2
    simp only [List.mem_cons, List.not_mem_nil, or_false] at hmem
    rcases hmem with h | h
    · rw [h]
      exact List.all_eq_true.mp (by decide)
    · rw [h]
      exact List.all_eq_true.mp (by decide)
  unfold RawNetwork.Valid RawNetwork.redacted
  dsimp only
  rw [length_masked_le_iff, hprotocol, and_iff_right hhost]
  exact and_iff_left n.valid.2

/-- The texts of an event have room for the masks of their secrets. -/
structure AcceptedEvent.HasRoom (u : Unicode) (event : AcceptedEvent) : Prop where
  binary : ∀ p ∈ event.process, Room 512 (fieldRules u) p.binary
  parent : ∀ p ∈ event.process, ∀ parent ∈ p.parentBinary, Room 512 (fieldRules u) parent
  host : ∀ n ∈ event.network, Room 253 (fieldRules u) n.destinationHost

private theorem readDetails_process (event : AcceptedEvent) :
    (∃ process, readDetails ProcessDetails.modelValidate
      (some ((event.process.map fun p ↦ (p.redacted u).dump).getD .null)) = .ok process) ↔
    ∀ p ∈ event.process, (p.redacted u).Valid := by
  cases event.process with
  | none => simp [readDetails, Json.truthy]
  | some p =>
    have hvalidate : readDetails ProcessDetails.modelValidate (some (p.redacted u).dump) =
        some <$> ProcessDetails.modelValidate (p.redacted u).dump := rfl
    simp only [Option.map_some, Option.getD_some, hvalidate, ProcessDetails.modelValidate,
      ofJson_process, Option.mem_some_iff, forall_eq']
    by_cases h : (p.redacted u).Valid
    · simp [h]
    · simp [h]

private theorem readDetails_network (event : AcceptedEvent) :
    (∃ network, readDetails NetworkDetails.modelValidate
      (some ((event.network.map fun n ↦ (n.redacted u).dump).getD .null)) = .ok network) ↔
    ∀ n ∈ event.network, (n.redacted u).Valid := by
  cases event.network with
  | none => simp [readDetails, Json.truthy]
  | some n =>
    have hvalidate : readDetails NetworkDetails.modelValidate (some (n.redacted u).dump) =
        some <$> NetworkDetails.modelValidate (n.redacted u).dump := rfl
    simp only [Option.map_some, Option.getD_some, hvalidate, NetworkDetails.modelValidate,
      ofJson_network, Option.mem_some_iff, forall_eq']
    by_cases h : (n.redacted u).Valid
    · simp [h]
    · simp [h]

private theorem rendered_iff_valid (event : AcceptedEvent) (id lastSeenAt : Nat)
    (row : SecurityEvent) :
    (∃ response, securityEventResponse (stored u event id lastSeenAt row) = .ok response) ↔
      (∀ p ∈ event.process, (p.redacted u).Valid) ∧ ∀ n ∈ event.network, (n.redacted u).Valid := by
  obtain ⟨hprocess, hnetwork⟩ := normalizedPayload_details (u := u) event
  rw [← readDetails_process, ← readDetails_network, ← hprocess, ← hnetwork]
  unfold securityEventResponse
  dsimp only [stored]
  cases readDetails ProcessDetails.modelValidate ((normalizedPayload u event).get? "process") with
  | error e => simp [bind, Except.bind]
  | ok process =>
    cases readDetails NetworkDetails.modelValidate
      ((normalizedPayload u event).get? "network") with
    | error e => simp [bind, Except.bind]
    | ok network => simp [bind, Except.bind, pure, Except.pure]

/-- A stored event is rendered if and only if its texts have room for the masks. -/
theorem stored_event_rendered_iff (u : Unicode) (event : AcceptedEvent) (id lastSeenAt : Nat)
    (row : SecurityEvent) :
    (∃ response, securityEventResponse (stored u event id lastSeenAt row) = .ok response) ↔
      event.HasRoom u := by
  rw [rendered_iff_valid]
  constructor
  · rintro ⟨hp, hn⟩
    exact ⟨fun p h ↦ ((valid_redacted_process p).mp (hp p h)).1,
      fun p h ↦ ((valid_redacted_process p).mp (hp p h)).2,
      fun n h ↦ (valid_redacted_network n).mp (hn n h)⟩
  · rintro ⟨hbinary, hparent, hhost⟩
    exact ⟨fun p h ↦ (valid_redacted_process p).mpr ⟨hbinary p h, hparent p h⟩,
      fun n h ↦ (valid_redacted_network n).mpr (hhost n h)⟩

/-- A path as long as its field, with a secret of seven characters. -/
private def longPath : RawProcess :=
  ⟨String.ofList (List.replicate (504 + 1) 'x' ++ "token=a".toList), none⟩

private theorem length_redacted_longPath :
    ¬ (longPath.redacted ⟨fun _ ↦ false, fun _ ↦ none⟩).Valid := by
  have hstarted : ∀ rule ∈ fieldRules ⟨fun _ ↦ false, fun _ ↦ none⟩, Started rule := by
    intro rule h
    simp only [fieldRules, List.mem_append] at h
    rcases h with ((h | h) | h) | h
    · exact started_stringRules _ rule h
    · exact started_stringRules _ rule h
    · exact started_stringRules _ rule h
    · exact started_secretRules _ rule h
  have hrest : (maskAll mask (some 'x') (fieldRules ⟨fun _ ↦ false, fun _ ↦ none⟩)
      "token=a".toList).length = 10 := by decide +kernel
  rintro ⟨⟨-, hlength⟩, -⟩
  unfold longPath RawProcess.redacted masked at hlength
  rw [String.length_ofList, String.toList_ofList, maskAll_replicate (by decide) hstarted,
    List.length_append, List.length_replicate, hrest] at hlength
  omega

private def longPathDetails : ProcessDetails where
  toRawProcess := longPath
  valid := by
    unfold longPath RawProcess.Valid
    rw [String.length_ofList, List.length_append, List.length_replicate]
    exact ⟨by decide, fun _ h ↦ absurd h (Option.not_mem_none _)⟩

private theorem longPath_named : validName "api" := by decide

private theorem longPath_target : isDemoTarget ((∅ : Labels).insert demoTargetLabel "true") := by
  decide

private theorem longPath_severity :
    "high" ∈ ["info", "warning", "high", "critical"] := by decide

private theorem longPath_reference : evidenceReference "tetragon:node:1" := by decide

private theorem longPath_labels_bounded :
    LabelsBounded ((∅ : Labels).insert demoTargetLabel "true") := by decide

private theorem longPath_workload : ∀ name ∈ (none : Option String), validName name :=
  fun _ h ↦ absurd h (Option.not_mem_none _)

private theorem longPath_policy :
    expectedCategory "cloudward-s1-unexpected-shell" = some .suspiciousProcess := rfl

private theorem longPath_details : detailed .suspiciousProcess true false := rfl

/-- The event of a long path. -/
private def longPathEvent : AcceptedEvent where
  eventType := .suspiciousProcess
  severity := "high"
  pod := "api"
  workload := none
  policy := "cloudward-s1-unexpected-shell"
  workloadLabels := (∅ : Labels).insert demoTargetLabel "true"
  secretsOrDataExposure := false
  pod_valid := longPath_named
  demo_target := longPath_target
  container := "api"
  process := some longPathDetails
  network := none
  timestamp := 0
  evidenceRef := "tetragon:node:1"
  severity_mem := longPath_severity
  workload_valid := longPath_workload
  container_valid := longPath_named
  evidenceRef_valid := longPath_reference
  labels_bounded := longPath_labels_bounded
  policy_expected := longPath_policy
  has_details := longPath_details

private def longPathRow : SecurityEvent where
  uuid := "00000000000000000000000000000000"
  incidentId := some 0
  source := "tetragon"
  fingerprint := ""
  eventType := .suspiciousProcess
  severity := "high"
  environment := .staging
  ns := stagingNamespace
  pod := "api"
  policy := "cloudward-s1-unexpected-shell"

/-- It is accepted and stored, but its response fails. -/
theorem longPath_not_rendered :
    ¬ ∃ response, securityEventResponse
      (stored ⟨fun _ ↦ false, fun _ ↦ none⟩ longPathEvent 0 0 longPathRow) = .ok response := by
  rw [rendered_iff_valid]
  rintro ⟨hprocess, -⟩
  exact length_redacted_longPath (hprocess longPathDetails (Option.mem_some_self _))

end CloudWard.Security
