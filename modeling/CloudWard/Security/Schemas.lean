import CloudWard.Base.Json
import CloudWard.Security.Service

/-!
# The schema of a Tetragon event

`security/schemas.py`: what the webhook accepts. A value of `AcceptedEvent` is an event with
everything its validators ask for; `validate` makes one from the document a forwarder sends.
Dates are numbers, read by a parser that the caller gives.
-/

namespace CloudWard.Security

open CloudWard.Db CloudWard.Kubernetes CloudWard.Policies

/-- `ProcessDetails` before its checks. -/
structure RawProcess where
  binary : String
  parentBinary : Option String

/-- The checks of `ProcessDetails`. -/
def RawProcess.Valid (p : RawProcess) : Prop :=
  (1 ≤ p.binary.length ∧ p.binary.length ≤ 512) ∧ ∀ parent ∈ p.parentBinary, parent.length ≤ 512

instance (p : RawProcess) : Decidable p.Valid :=
  inferInstanceAs (Decidable ((1 ≤ p.binary.length ∧ p.binary.length ≤ 512) ∧
    ∀ parent ∈ p.parentBinary, parent.length ≤ 512))

/-- `ProcessDetails`, `security/schemas.py:18`. -/
structure ProcessDetails extends RawProcess where
  valid : toRawProcess.Valid

/-- `NetworkDetails` before its checks. -/
structure RawNetwork where
  destinationHost : String
  destinationPort : Int
  protocol : String

/-- The checks of `NetworkDetails`. -/
def RawNetwork.Valid (n : RawNetwork) : Prop :=
  (1 ≤ n.destinationHost.length ∧ n.destinationHost.length ≤ 253) ∧
    (1 ≤ n.destinationPort ∧ n.destinationPort ≤ 65535) ∧ n.protocol ∈ ["tcp", "udp"]

instance (n : RawNetwork) : Decidable n.Valid :=
  inferInstanceAs (Decidable ((1 ≤ n.destinationHost.length ∧ n.destinationHost.length ≤ 253) ∧
    (1 ≤ n.destinationPort ∧ n.destinationPort ≤ 65535) ∧ n.protocol ∈ ["tcp", "udp"]))

/-- `NetworkDetails`, `security/schemas.py:25`. -/
structure NetworkDetails extends RawNetwork where
  valid : toRawNetwork.Valid

/-- `EVIDENCE_REFERENCE`, `security/schemas.py:15`, and the length of its field. -/
def evidenceReference (value : String) : Bool :=
  "tetragon:".toList.isPrefixOf value.toList ∧ 10 ≤ value.length ∧ value.length ≤ 509 ∧
    (value.toList.drop 9).all fun c ↦ c.isAlphanum ∨ c ∈ ['.', '_', ':', '/', '-']

/-- The labels an event may have, `security/schemas.py:73`. -/
def allowedLabels : List String :=
  ["cloudward.io/demo-target", "cloudward.io/environment", "cloudward.io/criticality",
    "app.kubernetes.io/name"]

/-- The value of a `SecurityCategory`. -/
def categoryOf (value : String) : Option SecurityCategory :=
  [.suspiciousProcess, .unexpectedEgress, .privilegeBehavior].find? (·.value = value)

/-- The category each policy stands for, `security/schemas.py:87`. -/
def expectedCategory : String → Option SecurityCategory
  | "cloudward-s1-unexpected-shell" => some .suspiciousProcess
  | "cloudward-s2-unexpected-egress" => some .unexpectedEgress
  | "cloudward-s3-privilege-attempt" => some .privilegeBehavior
  | _ => none

/-- `bound_labels`, `security/schemas.py:70`, and the number of labels. -/
def LabelsBounded (labels : Labels) : Prop :=
  labels.entries.length ≤ 12 ∧
    ∀ entry ∈ labels.entries, entry.1 ∈ allowedLabels ∧ entry.1.length ≤ 128 ∧
      entry.2.length ≤ 128

instance (labels : Labels) : Decidable (LabelsBounded labels) :=
  inferInstanceAs (Decidable (labels.entries.length ≤ 12 ∧ ∀ entry ∈ labels.entries,
    entry.1 ∈ allowedLabels ∧ entry.1.length ≤ 128 ∧ entry.2.length ≤ 128))

/-- An event of a category has the details the category needs. -/
def detailed (category : SecurityCategory) (process network : Bool) : Bool :=
  if category = .unexpectedEgress then network else process

/-- `TetragonSecurityEvent`, `security/schemas.py:33`, with all its fields. -/
structure AcceptedEvent extends TetragonSecurityEvent where
  container : String
  process : Option ProcessDetails
  network : Option NetworkDetails
  timestamp : Nat
  evidenceRef : String
  severity_mem : severity ∈ ["info", "warning", "high", "critical"]
  workload_valid : ∀ name ∈ workload, validName name
  container_valid : validName container
  evidenceRef_valid : evidenceReference evidenceRef
  labels_bounded : LabelsBounded workloadLabels
  policy_expected : expectedCategory policy = some eventType
  has_details : detailed eventType process.isSome network.isSome

/-- The document a forwarder sends. -/
structure TetragonDocument where
  source : String
  eventType : String
  severity : String
  environment : String
  ns : String
  pod : String
  workload : Option String
  container : String
  process : Option RawProcess
  network : Option RawNetwork
  policy : String
  timestamp : String
  evidenceRef : String
  workloadLabels : Labels
  secretsOrDataExposure : Bool

/-- The checks of the schema. -/
structure TetragonDocument.Valid (parse : String → Option Nat) (d : TetragonDocument) : Prop where
  source : d.source = "tetragon"
  category : expectedCategory d.policy = categoryOf d.eventType
  known : (categoryOf d.eventType).isSome
  severity : d.severity ∈ ["info", "warning", "high", "critical"]
  environment : d.environment = Environment.staging.value
  ns : d.ns = stagingNamespace
  pod : validName d.pod
  workload : ∀ name ∈ d.workload, validName name
  container : validName d.container
  process : ∀ p ∈ d.process, p.Valid
  network : ∀ n ∈ d.network, n.Valid
  timestamp : (parse d.timestamp).isSome
  evidenceRef : evidenceReference d.evidenceRef
  labels : LabelsBounded d.workloadLabels
  target : isDemoTarget d.workloadLabels
  details : ∀ category ∈ categoryOf d.eventType,
    detailed category d.process.isSome d.network.isSome

instance (parse : String → Option Nat) (d : TetragonDocument) : Decidable (d.Valid parse) :=
  decidable_of_iff
    (d.source = "tetragon" ∧ expectedCategory d.policy = categoryOf d.eventType ∧
      (categoryOf d.eventType).isSome ∧ d.severity ∈ ["info", "warning", "high", "critical"] ∧
      d.environment = Environment.staging.value ∧ d.ns = stagingNamespace ∧ validName d.pod ∧
      (∀ name ∈ d.workload, validName name) ∧ validName d.container ∧
      (∀ p ∈ d.process, p.Valid) ∧ (∀ n ∈ d.network, n.Valid) ∧ (parse d.timestamp).isSome ∧
      evidenceReference d.evidenceRef ∧ LabelsBounded d.workloadLabels ∧
      isDemoTarget d.workloadLabels ∧
      ∀ category ∈ categoryOf d.eventType, detailed category d.process.isSome d.network.isSome)
    ⟨fun ⟨h1, h2, h3, h4, h5, h6, h7, h8, h9, h10, h11, h12, h13, h14, h15, h16⟩ ↦
      ⟨h1, h2, h3, h4, h5, h6, h7, h8, h9, h10, h11, h12, h13, h14, h15, h16⟩,
    fun ⟨h1, h2, h3, h4, h5, h6, h7, h8, h9, h10, h11, h12, h13, h14, h15, h16⟩ ↦
      ⟨h1, h2, h3, h4, h5, h6, h7, h8, h9, h10, h11, h12, h13, h14, h15, h16⟩⟩

/-- The event of a document that passes the checks. -/
def TetragonDocument.Valid.event {parse : String → Option Nat} {d : TetragonDocument}
    (h : d.Valid parse) : AcceptedEvent where
  eventType := (categoryOf d.eventType).get h.known
  severity := d.severity
  pod := d.pod
  workload := d.workload
  policy := d.policy
  workloadLabels := d.workloadLabels
  secretsOrDataExposure := d.secretsOrDataExposure
  pod_valid := h.pod
  demo_target := h.target
  container := d.container
  process := d.process.pmap (fun p hp ↦ ⟨p, hp⟩) h.process
  network := d.network.pmap (fun n hn ↦ ⟨n, hn⟩) h.network
  timestamp := (parse d.timestamp).get h.timestamp
  evidenceRef := d.evidenceRef
  severity_mem := h.severity
  workload_valid := h.workload
  container_valid := h.container
  evidenceRef_valid := h.evidenceRef
  labels_bounded := h.labels
  policy_expected := by rw [Option.some_get, h.category]
  has_details := by
    rw [Option.isSome_pmap, Option.isSome_pmap]
    exact h.details _ (Option.get_mem h.known)

/-- `TetragonSecurityEvent.model_validate`. -/
def TetragonDocument.validate (parse : String → Option Nat) (d : TetragonDocument) :
    Except Exc AcceptedEvent :=
  if h : d.Valid parse then .ok h.event else .error .validation

end CloudWard.Security
