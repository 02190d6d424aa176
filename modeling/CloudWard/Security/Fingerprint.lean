import CloudWard.Security.Jobs

/-!
# What a security job says

A fingerprint says which event it is of, up to what the deduplication leaves out: the digest is
taken of sorted compact JSON, which is of one value. The document of an event is read as the event.
-/

namespace CloudWard.Security.Jobs

open CloudWard.Db CloudWard.Incidents CloudWard.Kubernetes CloudWard.Logic
  CloudWard.Logic.Interleave CloudWard.Policies CloudWard.Security.RateLimits
  CloudWard.Security.Webhook Python

/-! ### Fingerprints -/

section Fingerprints

variable {sha256 : Sha256} {window : Nat} {a b event : AcceptedEvent}

private theorem legible_of_floats {value : Json} (h : Json.floats value = []) :
    Json.Legible value := by
  intro text ht
  rw [h] at ht
  exact absurd ht List.not_mem_nil

private theorem floats_ofOption (text : Option String) : Json.floats (.ofOption text) = [] := by
  cases text with
  | none => rfl
  | some _ => rfl

private theorem floats_process (process : Option ProcessDetails) :
    Json.floats ((process.map (·.dump)).getD .null) = [] := by
  cases process with
  | none => rfl
  | some p =>
    simp [RawProcess.dump, Json.floats, Json.floatsOfEntries, floats_ofOption]

private theorem floats_network (network : Option NetworkDetails) :
    Json.floats ((network.map (·.dump)).getD .null) = [] := by
  cases network with
  | none => rfl
  | some n => simp [RawNetwork.dump, Json.floats, Json.floatsOfEntries]

private theorem legible_canonicalOf : Json.Legible (canonicalOf window event) := by
  apply legible_of_floats
  simp [canonicalOf, Json.floats, Json.floatsOfEntries, floats_process, floats_network]

private theorem nodup_canonicalKeys : ["source", "event_type", "namespace", "pod", "container",
    "policy", "process", "network", "bucket"].Nodup := by
  simp

private theorem value_injective {c c' : SecurityCategory} (h : c.value = c'.value) : c = c' := by
  revert h
  cases c <;> cases c' <;> simp [SecurityCategory.value]

private theorem process_of_sorted {p q : Option ProcessDetails}
    (h : Json.sorted ((p.map (·.dump)).getD .null) = Json.sorted ((q.map (·.dump)).getD .null)) :
    p = q := by
  cases p with
  | none =>
    cases q with
    | none => rfl
    | some q => simp [RawProcess.dump, Json.sorted] at h
  | some p =>
    cases q with
    | none => simp [RawProcess.dump, Json.sorted] at h
    | some q =>
      obtain ⟨⟨binary, parent⟩, hp⟩ := p
      obtain ⟨⟨binary', parent'⟩, hq⟩ := q
      have hkeys : ["binary", "parent_binary"].Nodup := by simp
      have hlookup := Json.lookup_of_sorted_eq h hkeys hkeys
      have hbinary := hlookup "binary"
      have hparent := hlookup "parent_binary"
      simp [Json.sorted] at hbinary
      subst hbinary
      cases parent <;> cases parent' <;> simp_all [Json.sorted, Json.ofOption, List.lookup_cons]

private theorem network_of_sorted {m n : Option NetworkDetails}
    (h : Json.sorted ((m.map (·.dump)).getD .null) = Json.sorted ((n.map (·.dump)).getD .null)) :
    m = n := by
  cases m with
  | none =>
    cases n with
    | none => rfl
    | some n => simp [RawNetwork.dump, Json.sorted] at h
  | some m =>
    cases n with
    | none => simp [RawNetwork.dump, Json.sorted] at h
    | some n =>
      obtain ⟨⟨host, port, protocol⟩, hm⟩ := m
      obtain ⟨⟨host', port', protocol'⟩, hn⟩ := n
      have hkeys : ["destination_host", "destination_port", "protocol"].Nodup := by simp
      have hlookup := Json.lookup_of_sorted_eq h hkeys hkeys
      have hhost := hlookup "destination_host"
      have hport := hlookup "destination_port"
      have hprotocol := hlookup "protocol"
      simp [Json.sorted, List.lookup_cons] at hhost hport hprotocol
      subst hhost hport hprotocol
      rfl

/-- Sorted, the canonical objects are one if the events are alike. -/
private theorem alike_iff :
    Alike window a b ↔
      Json.sorted (canonicalOf window a) = Json.sorted (canonicalOf window b) := by
  constructor
  · intro h
    unfold canonicalOf
    rw [h.eventType, h.pod, h.container, h.policy, h.process, h.network, h.bucket]
  · intro h
    have hlookup := Json.lookup_of_sorted_eq h nodup_canonicalKeys nodup_canonicalKeys
    constructor
    · exact value_injective (by simpa [Json.sorted, List.lookup_cons] using hlookup "event_type")
    · simpa [Json.sorted, List.lookup_cons] using hlookup "pod"
    · simpa [Json.sorted, List.lookup_cons] using hlookup "container"
    · simpa [Json.sorted, List.lookup_cons] using hlookup "policy"
    · exact process_of_sorted (by simpa [List.lookup_cons] using hlookup "process")
    · exact network_of_sorted (by simpa [List.lookup_cons] using hlookup "network")
    · have hbucket := hlookup "bucket"
      simp [List.lookup_cons, Json.sorted] at hbucket
      omega

private theorem digitChar_inj {m n : Nat} (hm : m < 16) (hn : n < 16)
    (h : Nat.digitChar m = Nat.digitChar n) : m = n := by
  have hall : ∀ m < 16, ∀ n < 16, Nat.digitChar m = Nat.digitChar n → m = n := by decide
  exact hall m hm n hn h

private theorem hex_injective {xs ys : List UInt8} (h : hex xs = hex ys) : xs = ys := by
  unfold hex at h
  rw [String.ofList_inj] at h
  induction xs generalizing ys with
  | nil =>
    cases ys with
    | nil => rfl
    | cons y ys => simp at h
  | cons x xs ih =>
    cases ys with
    | nil => simp at h
    | cons y ys =>
      simp only [List.flatMap_cons, List.cons_append, List.nil_append, List.cons.injEq] at h
      obtain ⟨hhigh, hlow, hrest⟩ := h
      have hx := x.toNat_lt
      have hy := y.toNat_lt
      have hdiv := digitChar_inj (by omega) (by omega) hhigh
      have hmod := digitChar_inj (by omega) (by omega) hlow
      have hbyte : x = y := UInt8.toNat_inj.mp (by omega)
      rw [hbyte, ih hrest]

/-- What the fingerprint is the digest of. -/
def encoded (window : Nat) (event : AcceptedEvent) : List UInt8 :=
  encode (Json.canonical (canonicalOf window event))

/-- SHA-256 does not tell two messages apart. -/
def Collide (sha256 : Sha256) (x y : List UInt8) : Prop := x ≠ y ∧ sha256 x = sha256 y

/-- Events of one fingerprint are alike, unless the digest collides on them. -/
theorem eventFingerprint_eq_iff :
    eventFingerprint sha256 window a = eventFingerprint sha256 window b ↔
      Alike window a b ∨ Collide sha256 (encoded window a) (encoded window b) := by
  constructor
  · intro h
    have hdigest : sha256 (encoded window a) = sha256 (encoded window b) :=
      Vector.toList_inj.mp (hex_injective h)
    by_cases heq : encoded window a = encoded window b
    · left
      have hcanonical := encode_injective heq
      rwa [Json.canonical_eq_iff legible_canonicalOf legible_canonicalOf, ← alike_iff]
        at hcanonical
    · exact .inr ⟨heq, hdigest⟩
  · have hdigest (h : sha256 (encoded window a) = sha256 (encoded window b)) :
        eventFingerprint sha256 window a = eventFingerprint sha256 window b :=
      congrArg (fun digest : Vector UInt8 32 ↦ hex digest.toList) h
    rintro (h | h)
    · apply hdigest
      unfold encoded Json.canonical
      rw [alike_iff.mp h]
    · exact hdigest h.2

end Fingerprints

/-! ### Jobs -/

private theorem categoryOf_value (category : SecurityCategory) :
    categoryOf category.value = some category := by
  cases category <;> rfl

private theorem valid_documentOf {parse : String → Option Nat} {render : Nat → String}
    (event : AcceptedEvent) (hparse : parse (render event.timestamp) = some event.timestamp) :
    (documentOf render event).Valid parse where
  source := rfl
  category := event.policy_expected.trans (categoryOf_value event.eventType).symm
  known := by
    show (categoryOf event.eventType.value).isSome
    rw [categoryOf_value]
    rfl
  severity := event.severity_mem
  environment := rfl
  ns := rfl
  pod := event.pod_valid
  workload := event.workload_valid
  container := event.container_valid
  process := by
    intro p hp
    obtain ⟨q, -, rfl⟩ := Option.mem_map.mp hp
    exact q.valid
  network := by
    intro n hn
    obtain ⟨m, -, rfl⟩ := Option.mem_map.mp hn
    exact m.valid
  timestamp := by
    show (parse (render event.timestamp)).isSome
    rw [hparse]
    rfl
  evidenceRef := event.evidenceRef_valid
  labels := event.labels_bounded
  target := event.demo_target
  details := by
    intro category hcategory
    have heq : category = event.eventType := by
      rw [show (documentOf render event).eventType = event.eventType.value from rfl,
        categoryOf_value] at hcategory
      exact (Option.some.inj hcategory).symm
    subst heq
    show detailed event.eventType (event.process.map _).isSome (event.network.map _).isSome
    rw [Option.isSome_map, Option.isSome_map]
    exact event.has_details

private theorem pmap_process (process : Option ProcessDetails)
    (h : ∀ p ∈ process.map (·.toRawProcess), p.Valid) :
    (process.map (·.toRawProcess)).pmap (fun p hp ↦ (⟨p, hp⟩ : ProcessDetails)) h = process := by
  cases process with
  | none => rfl
  | some p => rfl

private theorem pmap_network (network : Option NetworkDetails)
    (h : ∀ n ∈ network.map (·.toRawNetwork), n.Valid) :
    (network.map (·.toRawNetwork)).pmap (fun n hn ↦ (⟨n, hn⟩ : NetworkDetails)) h = network := by
  cases network with
  | none => rfl
  | some n => rfl

/-- A document is read as the event it was written from. -/
theorem validate_documentOf {parse : String → Option Nat} {render : Nat → String}
    (event : AcceptedEvent) (hparse : parse (render event.timestamp) = some event.timestamp) :
    (documentOf render event).validate parse = .ok event := by
  have hvalid := valid_documentOf event hparse
  unfold TetragonDocument.validate
  rw [dif_pos hvalid]
  have hcategory : (categoryOf (documentOf render event).eventType).get hvalid.known =
      event.eventType := Option.get_of_eq_some _ (categoryOf_value event.eventType)
  have htime : (parse (documentOf render event).timestamp).get hvalid.timestamp =
      event.timestamp := Option.get_of_eq_some _ hparse
  have hprocess : (documentOf render event).process.pmap (fun p hp ↦ (⟨p, hp⟩ : ProcessDetails))
      hvalid.process = event.process := pmap_process event.process hvalid.process
  have hnetwork : (documentOf render event).network.pmap (fun n hn ↦ (⟨n, hn⟩ : NetworkDetails))
      hvalid.network = event.network := pmap_network event.network hvalid.network
  unfold TetragonDocument.Valid.event
  simp only [hcategory, htime, hprocess, hnetwork]
  rfl

end CloudWard.Security.Jobs
