import CloudWard.Security.Redaction
import CloudWard.Security.Schemas

/-!
# What the forwarder sends

`normalize` of `security-forwarder/forwarder.py:95` turns a raw Tetragon event into the document
the backend's schema reads. `observe` is its walk through the raw event, up to line 117; the rest
is the document. It cuts a text before it redacts it, and it cuts the name of a pod at its last
two dashes, so a document may be longer than the schema allows, or name no workload.
-/

namespace CloudWard.Forwarder

open CloudWard.Db CloudWard.Kubernetes CloudWard.Logic CloudWard.Security Python Redaction

/-- `repr(value)` of a value that is no text; no representation is empty. -/
structure Repr where
  repr : Json → String
  repr_ne : ∀ value, repr value ≠ ""

/-- `str(value)`. -/
def Repr.str (r : Repr) : Json → String
  | .str s => s
  | value => r.repr value

/-- `str(value)` of a value that counts as true. -/
def Repr.text (r : Repr) (value : Json) : Option String :=
  if value.truthy then some (r.str value) else none

/-- `text[:n]`. -/
def cut (n : Nat) (text : String) : String := String.ofList (text.toList.take n)

/-- `POLICIES`, `forwarder.py:22`. -/
def policies : String → Option (SecurityCategory × String)
  | "cloudward-s1-unexpected-shell" => some (.suspiciousProcess, "high")
  | "cloudward-s2-unexpected-egress" => some (.unexpectedEgress, "high")
  | "cloudward-s3-privilege-attempt" => some (.privilegeBehavior, "critical")
  | _ => none

/-- `SECRET_PATTERNS`, `forwarder.py:33`. -/
def forwarderRules (u : Unicode) : List (Rule Char) :=
  [whole [wordEdge u, .any [literal "bearer", literal "basic"], .plus isSpace,
      .plus (ignoreCase (alnumOr "._~+/=-"))],
    whole (assignment [literal "password", literal "token", literal "secret", apiKey]),
    whole (wordEdge u :: databaseUrl [postgres, literal "mysql", literal "redis", mongodb])]

/-- `_redact`, `forwarder.py:62`. -/
def redact (u : Unicode) (value : String) : String := masked (forwarderRules u) (cut 512 value)

/-- The labels of a raw event, `forwarder.py:70`. -/
def sourceLabels (r : Repr) : Json → Labels
  | .dict entries => entries.foldl (fun labels entry ↦ labels.insert entry.1 (r.str entry.2)) ∅
  | .list items => items.foldl (fun labels item ↦
      match item with
      | .str s =>
        if '=' ∈ s.toList then
          labels.insert (String.ofList (s.toList.takeWhile (· ≠ '=')))
            (String.ofList ((s.toList.dropWhile (· ≠ '=')).drop 1))
        else labels
      | _ => labels) ∅
  | _ => ∅

/-- The allowed labels, cut and redacted, `forwarder.py:80`. -/
def redactedLabels (u : Unicode) (source : Labels) : Labels :=
  source.entries.foldr (fun entry labels ↦
    if entry.1 ∈ allowedLabels then labels.insert entry.1 (redact u (cut 128 entry.2))
    else labels) ∅

/-- `_event_body`, `forwarder.py:87`. -/
def eventBody (raw : Json) : Option Json :=
  ["process_kprobe", "process_tracepoint", "process_exec"].findSome? fun key ↦
    match raw.get? key with
    | some (.dict entries) => some (.dict entries)
    | _ => none

/-- `value.get(key)`, or nothing. -/
def field (value : Json) (key : String) : Json := (value.get? key).getD .null

/-- `a or b`. -/
def orElse (a b : Json) : Json := if a.truthy then a else b

/-- An object under a key. -/
def object? (value : Json) (key : String) : Option Json :=
  match value.get? key with
  | some (.dict entries) => some (.dict entries)
  | _ => none

/-- What `normalize` reads of a raw event. -/
structure Observation where
  policy : String
  ns : String
  podName : String
  workload : Option String
  container : Option String
  labels : Labels
  time : Option String
  binary : Option String
  parentBinary : Option String

/-- The walk through a raw event, `forwarder.py:98`. -/
def observe (r : Repr) (raw : Json) : Option Observation := do
  let body ← eventBody raw
  let process ← object? body "process"
  let pod ← object? process "pod"
  return {
    policy := (r.text (orElse (field body "policy_name") (field body "policy"))).getD ""
    ns := (r.text (field pod "namespace")).getD ""
    podName := (r.text (field pod "name")).getD ""
    workload := r.text (field pod "workload")
    container := (object? pod "container").bind fun container ↦ r.text (field container "name")
    labels := sourceLabels r (orElse (field pod "pod_labels") (field pod "labels"))
    time := r.text (field raw "time")
    binary := r.text (field process "binary")
    parentBinary := (object? body "parent").bind fun parent ↦ r.text (field parent "binary") }

/-- The text before the last dash. -/
def beforeDash (text : List Char) : Option (List Char) :=
  match text.reverse.dropWhile (· ≠ '-') with
  | [] => none
  | _ :: front => some front.reverse

/-- `text.rsplit("-", 2)[0]`. -/
def rsplitFirst (text : String) : String :=
  match beforeDash text.toList with
  | none => text
  | some front => String.ofList ((beforeDash front).getD front)

/-- The name of the workload before it is cut. -/
def Observation.workloadName (o : Observation) : String := o.workload.getD (rsplitFirst o.podName)

/-- The path of the process before it is redacted. -/
def Observation.binaryPath (o : Observation) : String := o.binary.getD "/usr/local/bin/python"

/-- The network details of a document, `forwarder.py:146`. -/
def networkOf : SecurityCategory → Option RawNetwork
  | .unexpectedEgress =>
    some ⟨"cloudward-c2-simulator.cloudward-staging.svc.cluster.local", 8080, "tcp"⟩
  | _ => none

/-- The process details of a document, `forwarder.py:152`. -/
def Observation.processOf (u : Unicode) (o : Observation) : SecurityCategory → Option RawProcess
  | .unexpectedEgress => none
  | .suspiciousProcess =>
    some ⟨"/bin/sh", some ((o.parentBinary.map (redact u)).getD (redact u o.binaryPath))⟩
  | .privilegeBehavior => some ⟨redact u o.binaryPath, o.parentBinary.map (redact u)⟩

/-- The document of an observation, `forwarder.py:117`. -/
def document (u : Unicode) (nowText nodeName : String) (sequence : Nat) (o : Observation) :
    Option TetragonDocument := do
  let (category, severity) ← policies o.policy
  let labels := redactedLabels u o.labels
  if o.ns ≠ stagingNamespace ∨ o.podName = "" ∨ ¬ isDemoTarget labels then none
  else
    return {
      source := "tetragon"
      eventType := category.value
      severity
      environment := "staging"
      ns := o.ns
      pod := cut 253 o.podName
      workload := some (cut 253 o.workloadName)
      container := cut 253 (o.container.getD "api")
      policy := o.policy
      timestamp := o.time.getD nowText
      evidenceRef := "tetragon:" ++ cut 100 nodeName ++ ":" ++ toString sequence
      workloadLabels := labels
      secretsOrDataExposure := false
      network := networkOf category
      process := o.processOf u category }

/-- `normalize`, `forwarder.py:95`. -/
def normalize (u : Unicode) (r : Repr) (nowText nodeName : String) (sequence : Nat) (raw : Json) :
    Option TetragonDocument := do
  document u nowText nodeName sequence (← observe r raw)

variable {u : Unicode}

/-! ### Cut and redacted texts -/

theorem length_cut (n : Nat) (text : String) : (cut n text).length = min n text.length := by
  rw [cut, String.length_ofList, List.length_take, String.length_toList]

theorem cut_of_le {n : Nat} {text : String} (h : text.length ≤ n) : cut n text = text := by
  rw [cut, List.take_of_length_le (by rwa [String.length_toList]), String.ofList_toList]

private theorem redact_cut (n : Nat) (text : String) (h : n ≤ 512) :
    redact u (cut n text) = masked (forwarderRules u) (cut n text) := by
  rw [redact, cut_of_le]
  rw [length_cut]
  omega

private theorem lookup_redactedLabels (source : Labels) (key : String) :
    (redactedLabels u source).lookup key =
      if key ∈ allowedLabels then (source.lookup key).map fun value ↦ redact u (cut 128 value)
      else none := by
  have hentries (entries : List (Sigma fun _ : String ↦ String)) :
      (entries.foldr (fun entry labels ↦
        if entry.1 ∈ allowedLabels then labels.insert entry.1 (redact u (cut 128 entry.2))
        else labels) (∅ : Labels)).lookup key =
      if key ∈ allowedLabels then (entries.dlookup key).map fun value ↦ redact u (cut 128 value)
      else none := by
    induction entries with
    | nil => simp
    | cons entry rest ih =>
      rw [List.foldr_cons]
      by_cases hkey : key = entry.1
      · rcases entry with ⟨name, value⟩
        obtain rfl : key = name := hkey
        by_cases hmem : key ∈ allowedLabels
        · rw [if_pos hmem, if_pos hmem, AList.lookup_insert, List.dlookup_cons_eq, Option.map_some]
        · rw [if_neg hmem, if_neg hmem, ih, if_neg hmem]
      · rw [List.dlookup_cons_ne _ _ hkey, ← ih]
        split
        · rw [AList.lookup_insert_ne hkey]
        · rfl
  exact hentries source.entries

/-- The labels of a document. -/
theorem mem_redactedLabels {source : Labels} {key value : String} :
    ⟨key, value⟩ ∈ (redactedLabels u source).entries ↔
      key ∈ allowedLabels ∧ ∃ original, ⟨key, original⟩ ∈ source.entries ∧
        value = masked (forwarderRules u) (cut 128 original) := by
  rw [← AList.mem_lookup_iff, lookup_redactedLabels]
  constructor
  · intro h
    split at h
    · next hmem =>
      obtain ⟨original, horiginal, rfl⟩ := Option.mem_map.mp h
      exact ⟨hmem, original, AList.mem_lookup_iff.mp horiginal, redact_cut 128 original (by omega)⟩
    · cases h
  · rintro ⟨hmem, original, horiginal, rfl⟩
    rw [if_pos hmem, ← redact_cut 128 original (by omega)]
    exact Option.mem_map_of_mem _ (AList.mem_lookup_iff.mpr horiginal)

private theorem length_redactedLabels (source : Labels) :
    (redactedLabels u source).entries.length ≤ 12 := by
  have hsubset : (redactedLabels u source).keys ⊆ allowedLabels := by
    intro key hkey
    obtain ⟨entry, hentry, rfl⟩ := List.mem_map.mp hkey
    exact (mem_redactedLabels.mp hentry).1
  have hle := (List.subperm_of_subset (redactedLabels u source).keys_nodup hsubset).length_le
  have hlength : (redactedLabels u source).keys.length =
      (redactedLabels u source).entries.length := List.length_map _
  have hfour : allowedLabels.length = 4 := rfl
  omega

/-- The allowed labels have room for the masks of their secrets. -/
def LabelsFit (u : Unicode) (source : Labels) : Prop :=
  ∀ entry ∈ source.entries, entry.1 ∈ allowedLabels →
    Room 128 (forwarderRules u) (cut 128 entry.2)

private theorem labelsBounded_iff {source : Labels} :
    LabelsBounded (redactedLabels u source) ↔ LabelsFit u source := by
  constructor
  · rintro ⟨-, hbounded⟩ ⟨key, original⟩ hentry hkey
    have hmem : ⟨key, masked (forwarderRules u) (cut 128 original)⟩ ∈
        (redactedLabels u source).entries :=
      mem_redactedLabels.mpr ⟨hkey, original, hentry, rfl⟩
    exact length_masked_le_iff.mp (hbounded _ hmem).2.2
  · intro hfit
    refine ⟨length_redactedLabels source, ?_⟩
    rintro ⟨key, value⟩ hentry
    obtain ⟨hkey, original, horiginal, rfl⟩ := mem_redactedLabels.mp hentry
    have hkeys : ∀ name ∈ allowedLabels, name.length ≤ 128 := by decide +kernel
    have hroom : Room 128 (forwarderRules u) (cut 128 original) :=
      hfit ⟨key, original⟩ horiginal hkey
    exact ⟨hkey, hkeys key hkey, length_masked_le_iff.mpr hroom⟩

/-! ### Names and references -/

private theorem of_validName {name : String} (h : validName name) :
    name.length ≤ 253 ∧
      ∀ c ∈ name.toList, c.isAlphanum ∨ c ∈ ['.', '_', ':', '/', '-'] := by
  simp only [validName, decide_eq_true_iff] at h
  refine ⟨h.1, fun c hc ↦ ?_⟩
  have hclass := List.all_eq_true.mp h.2.2.2 c hc
  simp only [validName.alphanumeric, decide_eq_true_iff] at hclass
  rcases hclass with (⟨hge, hle⟩ | ⟨hge, hle⟩) | rfl | rfl
  · left
    have hlower : c.isLower = true := by
      show (decide (c ≥ 'a') && decide (c ≤ 'z')) = true
      rw [decide_eq_true hge, decide_eq_true hle, Bool.and_self]
    show (c.isUpper || c.isLower || c.isDigit) = true
    rw [hlower, Bool.or_true, Bool.true_or]
  · left
    simp only [Char.isAlphanum, Char.isDigit, Bool.or_eq_true, Bool.and_eq_true,
      decide_eq_true_iff]
    exact .inr ⟨hge, hle⟩
  · exact .inr (by decide)
  · exact .inr (by decide)

private theorem evidenceReference_iff {nodeName : String} {sequence : Nat}
    (hnode : validName nodeName) :
    evidenceReference ("tetragon:" ++ cut 100 nodeName ++ ":" ++ toString sequence) ↔
      (cut 100 nodeName).length + (toString sequence).length ≤ 499 := by
  have hpre : "tetragon:".toList.isPrefixOf
      ("tetragon:" ++ cut 100 nodeName ++ ":" ++ toString sequence).toList := by
    rw [String.toList_append, String.toList_append, String.toList_append, List.append_assoc,
      List.append_assoc, List.isPrefixOf_iff_prefix]
    exact List.prefix_append _ _
  have hlength : ("tetragon:" ++ cut 100 nodeName ++ ":" ++ toString sequence).length =
      10 + (cut 100 nodeName).length + (toString sequence).length := by
    rw [String.length_append, String.length_append, String.length_append]
    have htetragon : "tetragon:".length = 9 := rfl
    have hcolon : ":".length = 1 := rfl
    omega
  have hclass : ∀ c ∈ ("tetragon:" ++ cut 100 nodeName ++ ":" ++ toString sequence).toList.drop 9,
      c.isAlphanum ∨ c ∈ ['.', '_', ':', '/', '-'] := by
    intro c hc
    rw [String.toList_append, String.toList_append, String.toList_append, List.append_assoc,
      List.append_assoc, List.drop_append_of_le_length (by decide)] at hc
    rcases List.mem_append.mp hc with hnone | hc
    · exact absurd hnone List.not_mem_nil
    rcases List.mem_append.mp hc with hname | hc
    · rw [cut, String.toList_ofList] at hname
      exact (of_validName hnode).2 c (List.mem_of_mem_take hname)
    rcases List.mem_append.mp hc with hcolon | hdigit
    · rw [List.mem_singleton.mp hcolon]
      exact .inr (by decide)
    · rw [Nat.toString_eq_ofList_toDigits, String.toList_ofList] at hdigit
      have := Nat.isDigit_of_mem_toDigits (by omega) (by omega) hdigit
      left
      simp only [Char.isAlphanum, this, Bool.or_true]
  have hone : 1 ≤ (toString sequence).length := by
    rw [Nat.toString_eq_ofList_toDigits, String.length_ofList]
    exact Nat.length_toDigits_pos
  simp only [evidenceReference, decide_eq_true_iff, List.all_eq_true]
  constructor
  · rintro ⟨-, -, hle, -⟩
    omega
  · intro hle
    exact ⟨hpre, by omega, by omega, hclass⟩

/-! ### What the backend accepts -/

/-- The texts of the process details have room for the masks of their secrets. -/
def Observation.ProcessFits (u : Unicode) (o : Observation) : SecurityCategory → Prop
  | .unexpectedEgress => True
  | .suspiciousProcess =>
    Room 512 (forwarderRules u) (cut 512 (o.parentBinary.getD o.binaryPath))
  | .privilegeBehavior =>
    Room 512 (forwarderRules u) (cut 512 o.binaryPath) ∧
      ∀ parent ∈ o.parentBinary, Room 512 (forwarderRules u) (cut 512 parent)

/-- The parts of an observation that a document can still get wrong. -/
structure Observation.Deliverable (u : Unicode) (nodeName : String) (sequence : Nat)
    (o : Observation) : Prop where
  workload : validName (cut 253 o.workloadName)
  container : validName (cut 253 (o.container.getD "api"))
  labels : LabelsFit u o.labels
  process : ∀ policy ∈ policies o.policy, o.ProcessFits u policy.1
  reference : (cut 100 nodeName).length + (toString sequence).length ≤ 499

private theorem redact_length_le_iff {text : String} :
    (redact u text).length ≤ 512 ↔ Room 512 (forwarderRules u) (cut 512 text) :=
  length_masked_le_iff

private theorem text_ne {r : Repr} {value : Json} {text : String} (h : r.text value = some text) :
    text ≠ "" := by
  unfold Repr.text at h
  split at h
  · next htruthy =>
    cases h
    cases value with
    | str s => exact of_decide_eq_true htruthy
    | _ => exact r.repr_ne _
  · cases h

private theorem binaryPath_ne {r : Repr} {raw : Json} {o : Observation}
    (h : observe r raw = some o) : o.binaryPath ≠ "" := by
  simp only [observe, Option.bind_eq_bind, Option.bind_eq_some_iff, Option.pure_def,
    Option.some.injEq] at h
  obtain ⟨body, -, process, -, pod, -, rfl⟩ := h
  unfold Observation.binaryPath
  dsimp only
  cases htext : r.text (field process "binary") with
  | none => exact by decide
  | some text => exact text_ne htext

private theorem policies_spec {policy : String} {category : SecurityCategory} {severity : String}
    (h : policies policy = some (category, severity)) :
    expectedCategory policy = some category ∧ severity ∈ ["info", "warning", "high", "critical"] := by
  unfold policies at h
  split at h
  · cases h
    exact ⟨rfl, by decide⟩
  · cases h
    exact ⟨rfl, by decide⟩
  · cases h
    exact ⟨rfl, by decide⟩
  · cases h

private theorem categoryOf_value (category : SecurityCategory) :
    categoryOf category.value = some category := by
  cases category <;> decide

private theorem valid_processOf_iff {o : Observation} (hbinary : o.binaryPath ≠ "")
    (category : SecurityCategory) :
    (∀ p ∈ o.processOf u category, p.Valid) ↔ o.ProcessFits u category := by
  have hredacted : 1 ≤ (redact u o.binaryPath).length := by
    apply one_le_length_masked
    have hpos : o.binaryPath.length ≠ 0 := fun h ↦ hbinary (String.length_eq_zero_iff.mp h)
    rw [length_cut]
    omega
  unfold Observation.processOf Observation.ProcessFits
  cases category with
  | unexpectedEgress => simp
  | suspiciousProcess =>
    simp only [Option.mem_some_iff, forall_eq', RawProcess.Valid, ← redact_length_le_iff]
    cases o.parentBinary with
    | none => exact and_iff_right (by decide)
    | some parent => exact and_iff_right (by decide)
  | privilegeBehavior =>
    simp only [Option.mem_some_iff, forall_eq', RawProcess.Valid, ← redact_length_le_iff,
      Option.mem_map, forall_exists_index, and_imp, forall_apply_eq_imp_iff₂, hredacted, true_and]

private theorem valid_networkOf (category : SecurityCategory) :
    ∀ n ∈ networkOf category, n.Valid := by
  cases category with
  | unexpectedEgress =>
    simp only [networkOf, Option.mem_some_iff, forall_eq']
    exact ⟨by decide +kernel, by decide, by decide⟩
  | suspiciousProcess => simp [networkOf]
  | privilegeBehavior => simp [networkOf]

private theorem detailed_processOf {o : Observation} (category : SecurityCategory) :
    detailed category (o.processOf u category).isSome (networkOf category).isSome := by
  cases category <;> rfl

private theorem valid_document_iff {parse : String → Option Nat} {nowText nodeName : String}
    {sequence : Nat} {o : Observation} {d : TetragonDocument}
    (h : document u nowText nodeName sequence o = some d)
    (hbinary : o.binaryPath ≠ "") (htime : (parse (o.time.getD nowText)).isSome)
    (hpod : validName o.podName) (hnode : validName nodeName) :
    d.Valid parse ↔ o.Deliverable u nodeName sequence := by
  have hpodName : validName (cut 253 o.podName) := by
    rwa [cut_of_le (of_validName hpod).1]
  unfold document at h
  cases hpolicy : policies o.policy with
  | none =>
    rw [hpolicy] at h
    cases h
  | some found =>
    rcases found with ⟨category, severity⟩
    obtain ⟨hexpected, hseverity⟩ := policies_spec hpolicy
    have hcategory := categoryOf_value category
    rw [hpolicy] at h
    dsimp only [bind, Option.bind] at h
    split at h
    · cases h
    · next hguard =>
      simp only [not_or, not_not] at hguard
      cases h
      constructor
      · intro hv
        constructor
        · exact hv.workload _ rfl
        · exact hv.container
        · exact labelsBounded_iff.mp hv.labels
        · intro policy hp
          rw [hpolicy] at hp
          cases hp
          exact (valid_processOf_iff hbinary category).mp hv.process
        · exact (evidenceReference_iff hnode).mp hv.evidenceRef
      · intro hd
        constructor
        · rfl
        · exact hexpected.trans hcategory.symm
        · exact Option.isSome_iff_exists.mpr ⟨category, hcategory⟩
        · exact hseverity
        · rfl
        · exact hguard.1
        · exact hpodName
        · rintro name hname
          cases hname
          exact hd.workload
        · exact hd.container
        · exact (valid_processOf_iff hbinary category).mpr (hd.process (category, severity) hpolicy)
        · exact valid_networkOf category
        · exact htime
        · exact (evidenceReference_iff hnode).mpr hd.reference
        · exact labelsBounded_iff.mpr hd.labels
        · exact hguard.2.2
        · intro found hfound
          rw [hcategory] at hfound
          cases hfound
          exact detailed_processOf category

/-- A document the forwarder sends is accepted if and only if its names survive the cuts and its
texts have room for the masks. -/
theorem normalized_accepted_iff (u : Unicode) (r : Repr) (nowText nodeName : String)
    (sequence : Nat) (parse : String → Option Nat) (raw : Json) (o : Observation)
    (d : TetragonDocument) (ho : observe r raw = some o)
    (hd : normalize u r nowText nodeName sequence raw = some d)
    (htime : (parse (o.time.getD nowText)).isSome) (hpod : validName o.podName)
    (hnode : validName nodeName) :
    (∃ event, d.validate parse = .ok event) ↔ o.Deliverable u nodeName sequence := by
  have hdocument : document u nowText nodeName sequence o = some d := by
    unfold normalize at hd
    rwa [ho] at hd
  rw [← valid_document_iff hdocument (binaryPath_ne ho) htime hpod hnode]
  unfold TetragonDocument.validate
  constructor
  · rintro ⟨event, hevent⟩
    by_contra hnot
    rw [dif_neg hnot] at hevent
    cases hevent
  · intro hv
    exact ⟨hv.event, dif_pos hv⟩

/-! ### Two events -/

private theorem started_forwarderRules (u : Unicode) : ∀ rule ∈ forwarderRules u, Started rule := by
  intro rule h
  simp only [forwarderRules, List.mem_cons, List.not_mem_nil, or_false] at h
  rcases h with rfl | rfl | rfl
  · refine .inr ⟨rfl, Pattern.starts_any ?_⟩
    simp only [List.forall_mem_cons, List.not_mem_nil, false_implies, implies_true, and_true]
    exact ⟨starts_bearer, starts_literal "basic" 'b' _ rfl (by decide) (by decide)⟩
  · refine .inr ⟨rfl, Pattern.starts_any ?_⟩
    simp only [List.forall_mem_cons, List.not_mem_nil, false_implies, implies_true, and_true]
    exact ⟨starts_password, starts_token, starts_secret, starts_apiKey⟩
  · refine .inr ⟨rfl, Pattern.starts_any ?_⟩
    simp only [List.forall_mem_cons, List.not_mem_nil, false_implies, implies_true, and_true]
    exact ⟨starts_postgres, starts_mysql, starts_redis, starts_mongodb⟩

/-- No character beyond ASCII. -/
def plainUnicode : Unicode := ⟨fun _ ↦ false, fun _ ↦ none⟩

/-- A representation for all. -/
def plainRepr : Repr := ⟨fun _ ↦ "?", fun _ ↦ by decide⟩

/-- A raw event of a policy, with the path of its process. -/
def rawEvent (policy binary : String) : Json :=
  .dict [("process_kprobe", .dict [("policy_name", .str policy), ("process", .dict
      [("binary", .str binary), ("pod", .dict [("namespace", .str "cloudward-staging"),
        ("name", .str "api-7d9c5b6f4-x2x4z"), ("container", .dict [("name", .str "api")]),
        ("pod_labels", .dict [("cloudward.io/demo-target", .str "true")])])])]),
    ("time", .str "2026-01-01T00:00:00Z")]

private def observation (policy binary : String) : Observation where
  policy
  ns := "cloudward-staging"
  podName := "api-7d9c5b6f4-x2x4z"
  workload := none
  container := some "api"
  labels := (∅ : Labels).insert "cloudward.io/demo-target" "true"
  time := some "2026-01-01T00:00:00Z"
  binary := some binary
  parentBinary := none

private theorem observe_rawEvent (policy binary : String) (hpolicy : policy ≠ "")
    (hbinary : binary ≠ "") :
    observe plainRepr (rawEvent policy binary) = some (observation policy binary) := by
  have htext (text : String) (h : text ≠ "") : plainRepr.text (.str text) = some text := by
    unfold Repr.text
    exact if_pos (decide_eq_true h)
  have hor (text : String) (value : Json) (h : text ≠ "") :
      orElse (.str text) value = .str text := by
    unfold orElse
    exact if_pos (decide_eq_true h)
  have hlabels : sourceLabels plainRepr (orElse
      (.dict [("cloudward.io/demo-target", .str "true")]) .null) =
        (∅ : Labels).insert "cloudward.io/demo-target" "true" := rfl
  have hobserve : observe plainRepr (rawEvent policy binary) = some {
      policy := (plainRepr.text (orElse (.str policy) .null)).getD ""
      ns := (plainRepr.text (.str "cloudward-staging")).getD ""
      podName := (plainRepr.text (.str "api-7d9c5b6f4-x2x4z")).getD ""
      workload := plainRepr.text .null
      container := plainRepr.text (.str "api")
      labels := (∅ : Labels).insert "cloudward.io/demo-target" "true"
      time := plainRepr.text (.str "2026-01-01T00:00:00Z")
      binary := plainRepr.text (.str binary)
      parentBinary := none } := rfl
  rw [hobserve, hor policy _ hpolicy, htext policy hpolicy, htext binary hbinary,
    htext _ (by decide), htext _ (by decide), htext _ (by decide), htext _ (by decide)]
  rfl

theorem normalized_accepted_egress :
    ∃ d, normalize plainUnicode plainRepr "" "node-1" 1
        (rawEvent "cloudward-s2-unexpected-egress" "/usr/bin/curl") = some d ∧
      ∃ event, d.validate (fun _ ↦ some 0) = .ok event := by
  have hobserve := observe_rawEvent "cloudward-s2-unexpected-egress" "/usr/bin/curl" (by decide)
    (by decide)
  have hsome : (normalize plainUnicode plainRepr "" "node-1" 1
      (rawEvent "cloudward-s2-unexpected-egress" "/usr/bin/curl")).isSome := by decide +kernel
  obtain ⟨d, hd⟩ := Option.isSome_iff_exists.mp hsome
  refine ⟨d, hd, (normalized_accepted_iff plainUnicode plainRepr "" "node-1" 1 (fun _ ↦ some 0) _
    (observation "cloudward-s2-unexpected-egress" "/usr/bin/curl") d hobserve hd rfl
    (by decide +kernel) (by decide +kernel)).mpr ?_⟩
  constructor
  · decide +kernel
  · decide +kernel
  · unfold LabelsFit
    decide +kernel
  · rintro policy hpolicy
    cases hpolicy
    trivial
  · decide +kernel

/-- A path of 512 characters that ends with a secret of seven. -/
private def longBinary : String := String.ofList (List.replicate (504 + 1) 'x' ++ "token=a".toList)

private theorem length_longBinary : longBinary.length = 512 := by
  have htoken : "token=a".toList.length = 7 := rfl
  unfold longBinary
  rw [String.length_ofList, List.length_append, List.length_replicate, htoken]

private theorem length_redact_longBinary : ¬ (redact plainUnicode longBinary).length ≤ 512 := by
  have hcut : cut 512 longBinary = longBinary := cut_of_le length_longBinary.le
  have hrest : (maskAll mask (some 'x') (forwarderRules plainUnicode) "token=a".toList).length =
      10 := by decide +kernel
  intro hlength
  rw [redact, hcut, masked] at hlength
  unfold longBinary at hlength
  rw [String.length_ofList, String.toList_ofList,
    maskAll_replicate (by decide) (started_forwarderRules plainUnicode), List.length_append,
    List.length_replicate, hrest] at hlength
  omega

/-- Its document is sent, but the backend refuses it. -/
theorem longBinary_not_accepted :
    ∃ d, normalize plainUnicode plainRepr "" "node-1" 1
        (rawEvent "cloudward-s3-privilege-attempt" longBinary) = some d ∧
      ¬ ∃ event, d.validate (fun _ ↦ some 0) = .ok event := by
  have hne : longBinary ≠ "" := by
    intro h
    have hlength := length_longBinary
    rw [h] at hlength
    cases hlength
  have hobserve := observe_rawEvent "cloudward-s3-privilege-attempt" longBinary (by decide) hne
  have hguard : ¬ ((observation "cloudward-s3-privilege-attempt" longBinary).ns ≠
        stagingNamespace ∨
      (observation "cloudward-s3-privilege-attempt" longBinary).podName = "" ∨
      ¬ isDemoTarget (redactedLabels plainUnicode
        (observation "cloudward-s3-privilege-attempt" longBinary).labels)) := by decide +kernel
  have hnormalize : (normalize plainUnicode plainRepr "" "node-1" 1
      (rawEvent "cloudward-s3-privilege-attempt" longBinary)).isSome := by
    unfold normalize
    rw [hobserve]
    have hpolicy : policies (observation "cloudward-s3-privilege-attempt" longBinary).policy =
        some (.privilegeBehavior, "critical") := rfl
    dsimp only [bind, Option.bind]
    unfold document
    rw [hpolicy]
    dsimp only [bind, Option.bind]
    rw [if_neg hguard]
    rfl
  obtain ⟨d, hd⟩ := Option.isSome_iff_exists.mp hnormalize
  refine ⟨d, hd, fun haccepted ↦ ?_⟩
  have hdeliverable := (normalized_accepted_iff plainUnicode plainRepr "" "node-1" 1
    (fun _ ↦ some 0) _ _ d hobserve hd rfl (by decide +kernel) (by decide +kernel)).mp haccepted
  have hfits := hdeliverable.process (.privilegeBehavior, "critical") rfl
  exact length_redact_longBinary (redact_length_le_iff.mpr hfits.1)

end CloudWard.Forwarder
