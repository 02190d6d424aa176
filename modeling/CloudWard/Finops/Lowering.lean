import CloudWard.Finops.Enough
import CloudWard.Finops.Service
import CloudWard.Security.Redaction

/-!
# Requests that a patch does not raise

`patch_gitops_values` of `finops/service.py:320` writes whole millicores and whole mebibytes, each
rounded up. When what it writes is no more than what the values file had.
-/

namespace CloudWard.Finops

open CloudWard.Logic Json Python

/-! ### Floats of texts -/

/-- The number that a text or some bytes write, where `float` reads them, and the float of a
number in JSON. -/
structure Texts where
  number : String → Option Double
  numberOfBytes : List UInt8 → Option Double
  ofRepr : String → Double
  number_toString : ∀ n : ℤ, number (toString n) = some (.finite n)

/-- The float of a number. -/
def asDouble (R : Rounding) : Double → Double
  | .finite q => R.round q
  | x => x

/-- `int(q)`. -/
def truncated (q : ℚ) : ℤ := if 0 ≤ q then ⌊q⌋ else ⌈q⌉

/-- `abs(x)`. -/
def magnitude : Double → Double
  | .finite q => .finite |q|
  | .inf _ => .inf false
  | .nan => .nan

/-- What Python computes with the floats of a rounding. -/
def doubles (R : Rounding) (t : Texts) : Floats Double where
  ofInt n := (R.ofInt n).toOption
  ofText text := (t.number text).map (asDouble R)
  ofBytes data := (t.numberOfBytes data).map (asDouble R)
  ofRepr := t.ofRepr
  milli x := (R.div x (R.round 1000)).toOption.getD .nan
  far x y := R.round (1 / 1000) < magnitude (R.sub x y)
  trunc x := (x.toInt truncated).toOption
  scale x n :=
    match (R.mul x (R.round n)).nearest with
    | .ok m => .ok m
    | .error .overflowError => .error .overflow
    | .error _ => .error .value
  ceilMilli x := (R.mul x (R.round 1000)).ceil.toOption
  ceilMebi n := (R.divInt n mib >>= Double.ceil).toOption

/-! ### Exact quantities -/

section Quantities

variable (t : Texts)

/-- A quantity in smaller units. -/
def inUnits (n : ℚ) (x : Double) : Double := exact.mul x (.finite n)

/-- The millicores that a CPU request stands for. -/
def millicores : Document.Part Scalar → Option Double
  | .scalar (.bool b) => some (.finite (if b then 1000 else 0))
  | .scalar (.int n) => some (.finite (n * 1000))
  | .scalar (.float text) => some (inUnits 1000 (t.ofRepr text))
  | .scalar (.str s) =>
    match (dropSuffix s "m").bind t.number with
    | some x => some x
    | none => (t.number s).map (inUnits 1000)
  | .scalar (.bytes data) => (t.numberOfBytes data).map (inUnits 1000)
  | _ => none

/-- The bytes that a memory request stands for. -/
def bytesOf : Document.Part Scalar → Option Double
  | .scalar (.bool b) => some (.finite (if b then 1 else 0))
  | .scalar (.int n) => some (.finite n)
  | .scalar (.float text) => some (t.ofRepr text)
  | .scalar (.str s) =>
    (units.findSome? fun unit ↦ (dropSuffix s unit.1).map (·, unit.2)).bind
      fun (found : String × Nat) ↦ (t.number found.1).map (inUnits found.2)
  | _ => none

/-- A request among others, `null` where it is missing. -/
def requestOf (requests : List (Scalar × Document.Part Scalar)) (key : String) :
    Document.Part Scalar :=
  (requests.lookup (.str key)).getD (.scalar .null)

/-- The number of a JSON value. -/
def numberOf : Json → Option Double
  | .bool b => some (.finite (if b then 1 else 0))
  | .int n => some (.finite n)
  | .float text => some (t.ofRepr text)
  | .str s => t.number s
  | _ => none

/-- The recommended value of a request is its current value. -/
def KeptRequest (row : FinOpsRecommendation) (key : String) : Prop :=
  ∃ current proposed, requestsOf row.currentConfig = some current ∧
    requestsOf row.recommendedConfig = some proposed ∧
    (current.get? key).bind (numberOf t) = (proposed.get? key).bind (numberOf t)

end Quantities

/-! ### Reading what is written -/

theorem dropSuffix_append (s ending : String) : dropSuffix (s ++ ending) ending = some s := by
  unfold dropSuffix
  rw [String.toList_append, if_pos (List.suffix_append _ _), List.length_append,
    Nat.add_sub_cancel, List.take_left, String.ofList_toList]

theorem millicores_written (t : Texts) (n : ℤ) :
    millicores t (.scalar (.str (toString n ++ "m"))) = some (.finite n) := by
  have hread : (dropSuffix (toString n ++ "m") "m").bind t.number = some (.finite n) := by
    rw [dropSuffix_append, Option.bind_some, t.number_toString]
  unfold millicores
  simp only [hread]

private theorem dropSuffix_kibi (s : String) : dropSuffix (s ++ "Mi") "Ki" = none := by
  unfold dropSuffix
  rw [if_neg]
  intro hsuffix
  rw [String.toList_append] at hsuffix
  have hkibi := List.suffix_of_suffix_length_le hsuffix (List.suffix_append s.toList "Mi".toList)
    (by decide)
  exact absurd (hkibi.eq_of_length (by decide)) (by decide)

theorem bytesOf_written (t : Texts) (n : ℤ) :
    bytesOf t (.scalar (.str (toString n ++ "Mi"))) = some (.finite (n * mib)) := by
  have hread : (units.findSome? fun unit ↦
      (dropSuffix (toString n ++ "Mi") unit.1).map (·, unit.2)) =
      some (toString n, 1024 * 1024) := by
    unfold units
    rw [List.findSome?_cons, dropSuffix_kibi, Option.map_none]
    show (units.drop 1).findSome? _ = _
    unfold units
    rw [List.drop_one, List.tail_cons, List.findSome?_cons, dropSuffix_append]
    rfl
  unfold bytesOf
  simp only [hread, Option.bind_some, t.number_toString, Option.map_some]
  unfold inUnits
  rw [Rounding.mul_finite, Rounding.round_exact]
  norm_num [mib]

/-! ### Quantities that are read -/

section Reads

variable {R : Rounding} {t : Texts} {part : Document.Part Scalar}

private theorem exists_of_map {α β : Type} {x : Option α} {g : α → β} {b : β}
    (h : x.map g = some b) : ∃ a, x = some a := by
  obtain ⟨a, ha, -⟩ := Option.map_eq_some_iff.mp h
  exact ⟨a, ha⟩

/-- A CPU request that is read stands for some millicores. -/
theorem exists_millicores {x : Double} (h : parseCpu (doubles R t) part = .ok x) :
    ∃ y, millicores t part = some y := by
  unfold parseCpu at h
  split at h
  case h_4 s =>
    unfold millicores
    simp only
    split
    · exact ⟨_, rfl⟩
    · next hnone =>
      have hdrop : (dropSuffix s "m").bind (doubles R t).ofText = none := by
        show (dropSuffix s "m").bind (Option.map (asDouble R) ∘ t.number) = none
        rw [← Option.map_bind, hnone, Option.map_none]
      rw [hdrop, Option.map_none] at h
      split at h
      · next heq => cases heq
      · next heq =>
        obtain ⟨y, hy⟩ := exists_of_map heq
        rw [hy]
        exact ⟨_, rfl⟩
      · cases h
  case h_5 data =>
    split at h
    · next heq =>
      obtain ⟨y, hy⟩ := exists_of_map heq
      unfold millicores
      simp only [hy]
      exact ⟨_, rfl⟩
    · cases h
  case h_6 => cases h
  all_goals exact ⟨_, rfl⟩

/-- A memory request that is read stands for some bytes. -/
theorem exists_bytesOf {n : ℤ} (h : parseMemory (doubles R t) part = .ok n) :
    ∃ y, bytesOf t part = some y := by
  unfold parseMemory at h
  split at h
  case h_4 s =>
    split at h
    · cases h
    · next number multiplier hfound =>
      split at h
      · cases h
      · next heq =>
        obtain ⟨y, hy⟩ := exists_of_map heq
        unfold bytesOf
        simp only [hfound, Option.bind_some, hy]
        exact ⟨_, rfl⟩
  case h_5 => cases h
  all_goals exact ⟨_, rfl⟩

end Reads

/-! ### Patches -/

/-- A request is not raised, and is the same where its recommended value is its current one. -/
def NotRaised (before after : Option Double) (kept : Prop) : Prop :=
  ∃ x y, before = some x ∧ after = some y ∧ y ≤ x ∧ (kept → y = x)

/-- Some whole number of units covers an amount and is no more than the request; the request is
the least such number where its recommended value is its current one. -/
def Lands (unit amount : ℚ) (before : Option Double) (kept : Prop) : Prop :=
  ∃ x, before = some x ∧ (∃ n : ℤ, amount ≤ n ∧ .finite (n * unit) ≤ x) ∧
    (kept → ∃ n : ℤ, x = .finite (n * unit) ∧ n - 1 < amount ∧ amount ≤ n)

/-- An amount that is rounded up to whole units. -/
theorem notRaised_iff_lands {unit amount : ℚ} {x : Double} {kept : Prop} (hunit : 0 < unit) :
    NotRaised (some x) (some (.finite (⌈amount⌉ * unit))) kept ↔
      Lands unit amount (some x) kept := by
  constructor
  · intro ⟨x', y, hx, hy, hle, hkept⟩
    cases hx
    cases hy
    refine ⟨x, rfl, ⟨⌈amount⌉, Int.le_ceil amount, hle⟩, ?_⟩
    intro h
    exact ⟨⌈amount⌉, (hkept h).symm, by linarith [Int.ceil_lt_add_one amount], Int.le_ceil amount⟩
  · intro ⟨x', hx, ⟨n, hn, hle⟩, hkept⟩
    cases hx
    refine ⟨x, _, rfl, rfl, ?_, ?_⟩
    · have hceil : (⌈amount⌉ : ℚ) ≤ n := by exact_mod_cast Int.ceil_le.mpr hn
      exact Double.le_trans
        (Double.finite_le_finite.mpr (mul_le_mul_of_nonneg_right hceil hunit.le)) hle
    · intro h
      obtain ⟨n, rfl, hlow, hhigh⟩ := hkept h
      rw [Int.ceil_eq_iff.mpr ⟨hlow, hhigh⟩]

/-- The requests of a patch, with other values. -/
def Binding.written (b : Binding) (cpu memory : String) : List (Scalar × Document.Part Scalar) :=
  assign (assign b.requests (.str "cpu") (.scalar (.str cpu))) (.str "memory")
    (.scalar (.str memory))

/-- A patch raises neither request. -/
structure Lowers (t : Texts) (row : FinOpsRecommendation)
    (before after : List (Scalar × Document.Part Scalar)) : Prop where
  cpu : NotRaised (millicores t (requestOf before "cpu")) (millicores t (requestOf after "cpu"))
    (KeptRequest t row "cpu_cores")
  memory : NotRaised (bytesOf t (requestOf before "memory")) (bytesOf t (requestOf after "memory"))
    (KeptRequest t row "memory_bytes")

/-- The recommended amounts, in millicores and in mebibytes, land on the requests. -/
structure LandsOn (R : Rounding) (t : Texts) (u : Unicode) (row : FinOpsRecommendation)
    (b : Binding) : Prop where
  cpu : ∀ cores amount, cpuCores (doubles R t) b.proposed = .ok cores →
    R.mul cores (R.round 1000) = .finite amount →
    Lands 1 amount (millicores t (requestOf b.requests "cpu")) (KeptRequest t row "cpu_cores")
  memory : ∀ bytes amount, memoryBytes (doubles R t) u b.proposed = .ok bytes →
    R.divInt bytes mib = .ok (.finite amount) →
    Lands mib amount (bytesOf t (requestOf b.requests "memory")) (KeptRequest t row "memory_bytes")

section Patches

variable {R : Rounding} {t : Texts} {lib : Library Double} {row : FinOpsRecommendation}
  {content text : String} {b : Binding} {cpu memory : String}

private theorem toOption_eq_some {α : Type} {x : Except ArithmeticError α} {a : α}
    (h : x.toOption = some a) : x = .ok a := by
  cases x with
  | error e => cases h
  | ok b => rw [Option.some.inj h]

private theorem orRaise_eq_ok {α : Type} {x : Option α} {a : α} (h : orRaise x = .ok a) :
    x = some a := by
  cases x with
  | none => cases h
  | some b => rw [Except.ok.inj h]

/-- The CPU that is written is the least number of millicores that covers the amount. -/
theorem cpuText_eq_ok {requests : Json} (h : cpuText (doubles R t) requests = .ok cpu) :
    ∃ cores amount, cpuCores (doubles R t) requests = .ok cores ∧
      R.mul cores (R.round 1000) = .finite amount ∧ cpu = toString ⌈amount⌉ ++ "m" := by
  obtain ⟨cores, hcores, h⟩ := bind_eq_ok h
  obtain ⟨millis, hmillis, h⟩ := bind_eq_ok h
  cases h
  obtain ⟨amount, hamount, rfl⟩ := toInt_eq_ok (toOption_eq_some (orRaise_eq_ok hmillis))
  exact ⟨cores, amount, hcores, hamount, rfl⟩

/-- The memory that is written is the least number of mebibytes that covers the amount. -/
theorem memoryText_eq_ok {u : Unicode} {requests : Json}
    (h : memoryText (doubles R t) u requests = .ok memory) :
    ∃ bytes amount, memoryBytes (doubles R t) u requests = .ok bytes ∧
      R.divInt bytes mib = .ok (.finite amount) ∧ memory = toString ⌈amount⌉ ++ "Mi" := by
  obtain ⟨bytes, hbytes, h⟩ := bind_eq_ok h
  obtain ⟨mebis, hmebis, h⟩ := bind_eq_ok h
  cases h
  obtain ⟨quotient, hquotient, hceil⟩ := bind_eq_ok (toOption_eq_some (orRaise_eq_ok hmebis))
  obtain ⟨amount, rfl, rfl⟩ := toInt_eq_ok hceil
  exact ⟨bytes, amount, hbytes, hquotient, rfl⟩

theorem requestOf_written_cpu : requestOf (b.written cpu memory) "cpu" = .scalar (.str cpu) := by
  unfold requestOf Binding.written
  rw [lookup_assign, if_neg (by decide), lookup_assign, if_pos rfl]
  rfl

theorem requestOf_written_memory :
    requestOf (b.written cpu memory) "memory" = .scalar (.str memory) := by
  unfold requestOf Binding.written
  rw [lookup_assign, if_pos rfl]
  rfl

/-- The requests of a values file that is read stand for amounts. -/
theorem exists_quantities (hlib : lib.floats = doubles R t) (h : binding lib row content = .ok b) :
    (∃ x, millicores t (requestOf b.requests "cpu") = some x) ∧
      ∃ x, bytesOf t (requestOf b.requests "memory") = some x := by
  unfold binding at h
  rw [hlib] at h
  obtain ⟨⟨document, address, requests⟩, -, h⟩ := bind_eq_ok h
  obtain ⟨current, -, h⟩ := bind_eq_ok h
  obtain ⟨proposed, -, h⟩ := bind_eq_ok h
  obtain ⟨currentCpu, hcpu, h⟩ := bind_eq_ok h
  obtain ⟨currentMemory, hmemory, h⟩ := bind_eq_ok h
  obtain ⟨expectedCpu, -, h⟩ := bind_eq_ok h
  obtain ⟨expectedMemory, -, h⟩ := bind_eq_ok h
  cases h
  exact ⟨exists_millicores hcpu, exists_bytesOf hmemory⟩

/-- A patch raises no request, and keeps those that its recommendation keeps, exactly where the
recommended amounts land on the requests. -/
theorem patchGitopsValues_lowers_iff (hlib : lib.floats = doubles R t) {s s' : Store}
    (h : (patchGitopsValues lib row content).run s = (.ok text, s')) :
    ∃ b cpu memory, binding lib row content = .ok b ∧
      text = lib.yaml.safeDump (b.document.put b.address (b.written cpu memory)) ∧
      (Lowers t row b.requests (b.written cpu memory) ↔ LandsOn R t lib.unicode row b) := by
  obtain ⟨b, cpu, memory, hb, hcpu, hmemory, htext⟩ := patchGitopsValues_eq_ok h
  rw [hlib] at hcpu hmemory
  obtain ⟨cores, millis, hcores, hmillis, rfl⟩ := cpuText_eq_ok hcpu
  obtain ⟨bytes, mebis, hbytes, hmebis, rfl⟩ := memoryText_eq_ok hmemory
  obtain ⟨⟨x, hx⟩, y, hy⟩ := exists_quantities hlib hb
  refine ⟨b, _, _, hb, htext, ?_⟩
  have hmib : (0 : ℚ) < mib := by norm_num [mib]
  have hcpuIff : NotRaised (some x) (some (.finite (⌈millis⌉ * 1)))
      (KeptRequest t row "cpu_cores") ↔
      Lands 1 millis (some x) (KeptRequest t row "cpu_cores") := notRaised_iff_lands one_pos
  have hmemoryIff : NotRaised (some y) (some (.finite (⌈mebis⌉ * mib)))
      (KeptRequest t row "memory_bytes") ↔
      Lands mib mebis (some y) (KeptRequest t row "memory_bytes") := notRaised_iff_lands hmib
  rw [mul_one] at hcpuIff
  constructor
  · intro hlowers
    have hcpuLowers := hlowers.cpu
    have hmemoryLowers := hlowers.memory
    rw [requestOf_written_cpu, millicores_written, hx] at hcpuLowers
    rw [requestOf_written_memory, bytesOf_written, hy] at hmemoryLowers
    constructor
    · intro cores' amount hcores' hamount
      rw [hcores] at hcores'
      cases hcores'
      rw [hmillis] at hamount
      cases hamount
      rw [hx]
      exact hcpuIff.mp hcpuLowers
    · intro bytes' amount hbytes' hamount
      rw [hbytes] at hbytes'
      cases hbytes'
      rw [hmebis] at hamount
      cases hamount
      rw [hy]
      exact hmemoryIff.mp hmemoryLowers
  · intro hlands
    have hcpuLands := hlands.cpu cores millis hcores hmillis
    have hmemoryLands := hlands.memory bytes mebis hbytes hmebis
    rw [hx] at hcpuLands
    rw [hy] at hmemoryLands
    constructor
    · rw [requestOf_written_cpu, millicores_written, hx]
      exact hcpuIff.mpr hcpuLands
    · rw [requestOf_written_memory, bytesOf_written, hy]
      exact hmemoryIff.mpr hmemoryLands

end Patches

/-! ### Requests that a patch raises -/

private theorem five_length (x : Double) : [x, x, x, x, x].length < 2 ^ 63 := by
  rw [show [x, x, x, x, x].length = 5 from rfl]
  omega

/-- A series of five equal samples. -/
def five (x : Double) : UsageSeries where
  values := [x, x, x, x, x]
  values_length := five_length x

private theorem mergeSort_five {q : ℚ} (hq : 0 ≤ q) :
    (usable (five (.finite q)).values).mergeSort = [q, q, q, q, q] := by
  have husable : usable (five (.finite q)).values = [q, q, q, q, q] := by
    simp [five, usable, hq]
  rw [husable]
  apply List.mergeSort_of_pairwise
  simp

/-- The float of 2.007. -/
def twoCores : Double := .finite (4519362226066293 / 2251799813685248)

private theorem twoCores_gt : Above 0 twoCores := by
  unfold Above twoCores
  rw [Double.finite_le_finite]
  norm_num

private theorem hundredMillion_gt : Above 0 (.finite 102400000) := by decide

private theorem oneCore_gt : Above 0 (.finite 1) := by decide

private theorem oneGibibyte_gt : Above 0 (.finite 1073741824) := by decide

/-- A workload that needs its 2.007 cores and none of its gibibyte. -/
def steadyCpu : WorkloadObservation :=
  plainWorkload twoCores_gt oneGibibyte_gt (five (.finite 2)) (five (.finite 0))

/-- A workload that needs its 100000 kibibytes and none of its core. -/
def steadyMemory : WorkloadObservation :=
  plainWorkload oneCore_gt hundredMillion_gt (five (.finite 0)) (five (.finite 80000000))

/-- How some floats are written. -/
def reprs : List (Double × String) := [
  (.finite 1, "1.0"), (twoCores, "2.007"), (.finite (3602879701896397 / 72057594037927936), "0.05"),
  (.finite 102400000, "102400000.0"), (.finite 1073741824, "1073741824.0")]

/-- The formats of these floats. -/
def reprFormats : Formats :=
  { plainFormats with repr x := ((reprs.find? (·.1 = x)).map (·.2)).getD "0.0" }

/-- An integer that a text writes. -/
def integerOf (text : String) : Option Double :=
  match text.toList with
  | '-' :: rest => (Python.int Security.Redaction.bareTable (String.ofList rest)).map
    fun n ↦ .finite (-n : ℤ)
  | _ => (Python.int Security.Redaction.bareTable text).map fun n ↦ .finite n

private theorem integerOf_toString (n : ℤ) : integerOf (toString n) = some (.finite n) := by
  cases n with
  | ofNat m =>
    have hdigits : ∀ c ∈ (toString m).toList, c ≠ '-' := by
      intro c hc hminus
      rw [Nat.toString_eq_ofList_toDigits, String.toList_ofList] at hc
      have hdigit := Nat.isDigit_of_mem_toDigits (by omega) (by omega) hc
      rw [hminus] at hdigit
      cases hdigit
    show integerOf (toString m) = _
    unfold integerOf
    split
    · next rest heq =>
      rw [heq] at hdigits
      exact absurd rfl (hdigits '-' List.mem_cons_self)
    · rw [int_toString]
      rfl
  | negSucc m =>
    have htext : (toString (Int.negSucc m)).toList = '-' :: (toString (m + 1)).toList := by
      show ("-" ++ toString (m + 1)).toList = _
      rw [String.toList_append]
      rfl
    unfold integerOf
    rw [htext]
    simp only [String.ofList_toList, int_toString]
    rfl

/-- The texts of these floats and of the integers. -/
def reprTexts : Texts where
  number := integerOf
  numberOfBytes _ := none
  ofRepr text := ((reprs.find? (·.2 = text)).map (·.1)).getD (.finite 0)
  number_toString := integerOf_toString

/-- A values file with two requests. -/
def requestsFile (cpu memory : Scalar) : Values where
  nodes := [.map [(.str "cloudward-demo", .ref 1)], .map [(.str "resources", .ref 2)],
    .map [(.str "requests", .ref 3)],
    .map [(.str "cpu", .scalar cpu), (.str "memory", .scalar memory)]]
  root := .ref 0

/-- A library that reads the values file. -/
def fileLib (cpu memory : Scalar) : Library Double where
  unicode := Security.Redaction.bareTable
  b64decode _ := none
  str _ := ""
  floats := doubles binary64 reprTexts
  yaml := {
    safeLoad _ := .ok (requestsFile cpu memory)
    safeLoadBytes _ := .ok (requestsFile cpu memory)
    safeDump _ := "" }
  sha256 text := text
  indented _ := ""
  isoformat _ := ""
  fixed2 text := text

private theorem planId_valid : isUuidText "6f1c2e1a-0000-4000-8000-000000000067".toList := by
  decide +kernel

/-- The recommendation that keeps a draft's configurations. -/
def planRow (current recommended : Json) : FinOpsRecommendation where
  id := ⟨"6f1c2e1a-0000-4000-8000-000000000067", planId_valid⟩
  service := "api"
  recommendationType := "WORKLOAD_RIGHTSIZING"
  status := .recommended
  currentConfig := current
  recommendedConfig := recommended
  evidence := .dict []
  estimatedSavings := .dict []
  riskScore := 20
  confidence := "0.85"
  limitations := []
  evidenceWindowStart := 0
  evidenceWindowEnd := 1800000000
  sourceFingerprint := ""
  proposalVersion := 1
  expectedStateDigest := ""
  expiresAt := 90000000000
  prReference := none
  prUrl := none
  details := .dict []

/-- The amounts of a sizing. -/
def sizes (cpu : Double) (memory : Number) : Except AnalysisError Sizing → Bool
  | .ok s => s.recommendedCpu = cpu ∧ s.recommendedMemory = memory
  | .error _ => false

private theorem steadyCpu_sizes :
    sizes twoCores (.int 67108864) (sizing binary64 (FinOpsPolicy.default binary64) steadyCpu) := by
  unfold sizing percentiles quantile
  simp only [steadyCpu, plainWorkload, mergeSort_five (q := 2) (by norm_num),
    mergeSort_five (q := 0) le_rfl]
  decide +kernel

private theorem steadyCpu_recommends :
    recommends (analyzeWorkload binary64 (FinOpsPolicy.default binary64) reprFormats
      steadyCpu) := by
  unfold analyzeWorkload sizing percentiles quantile
  simp only [steadyCpu, plainWorkload, mergeSort_five (q := 2) (by norm_num),
    mergeSort_five (q := 0) le_rfl]
  decide +kernel

private theorem steadyMemory_sizes :
    sizes (.finite (3602879701896397 / 72057594037927936)) (.float (.finite 102400000))
      (sizing binary64 (FinOpsPolicy.default binary64) steadyMemory) := by
  unfold sizing percentiles quantile
  simp only [steadyMemory, plainWorkload, mergeSort_five (q := 80000000) (by norm_num),
    mergeSort_five (q := 0) le_rfl]
  decide +kernel

private theorem steadyMemory_recommends :
    recommends (analyzeWorkload binary64 (FinOpsPolicy.default binary64) reprFormats
      steadyMemory) := by
  unfold analyzeWorkload sizing percentiles quantile
  simp only [steadyMemory, plainWorkload, mergeSort_five (q := 80000000) (by norm_num),
    mergeSort_five (q := 0) le_rfl]
  decide +kernel

/-- What is kept of a draft. -/
private theorem exists_draft {o : WorkloadObservation} {cpu : Double} {memory : Number}
    (hsizes : sizes cpu memory (sizing binary64 (FinOpsPolicy.default binary64) o))
    (h : recommends (analyzeWorkload binary64 (FinOpsPolicy.default binary64) reprFormats o)) :
    ∃ result draft,
      analyzeWorkload binary64 (FinOpsPolicy.default binary64) reprFormats o = .ok result ∧
      result.recommendation = some draft ∧
      draft.currentConfig =
        workloadConfig reprFormats o o.cpuRequestCores (.float o.memoryRequestBytes) ∧
      draft.recommendedConfig = workloadConfig reprFormats o cpu memory := by
  obtain ⟨result, hresult, hout⟩ := recommends_iff.mp h
  obtain ⟨s, draft, hs, -, hdraft, hrecommendation⟩ := analyzeWorkload_inv hresult hout
  obtain ⟨-, hcurrent, hrecommended, -⟩ := workloadDraft_inv hdraft
  rw [hs] at hsizes
  simp only [sizes, Bool.decide_and, Bool.and_eq_true, decide_eq_true_eq] at hsizes
  rw [hsizes.1, hsizes.2] at hrecommended
  exact ⟨result, draft, hresult, hrecommendation, hcurrent, hrecommended⟩

/-- What a patch of the values file reads and writes. -/
private theorem exists_written {cpu memory : Scalar} {current recommended requests : Json}
    {text : String} (newCpu newMemory : String) {s s' : Store}
    (hrequests : requestsOf recommended = some requests)
    (hcpu : cpuText (doubles binary64 reprTexts) requests = .ok newCpu)
    (hmemory : memoryText (doubles binary64 reprTexts) Security.Redaction.bareTable requests =
      .ok newMemory)
    (h : (patchGitopsValues (fileLib cpu memory) (planRow current recommended) "").run s =
      (.ok text, s')) :
    ∃ b, binding (fileLib cpu memory) (planRow current recommended) "" = .ok b ∧
      b.requests = [(.str "cpu", .scalar cpu), (.str "memory", .scalar memory)] ∧
      cpuText (doubles binary64 reprTexts) b.proposed = .ok newCpu ∧
      memoryText (doubles binary64 reprTexts) Security.Redaction.bareTable b.proposed =
        .ok newMemory := by
  obtain ⟨b, _, _, hb, -⟩ := patchGitopsValues_eq_ok h
  have hread := hb
  unfold binding at hread
  obtain ⟨⟨document, address, entries⟩, htarget, hread⟩ := bind_eq_ok hread
  obtain ⟨current', -, hread⟩ := bind_eq_ok hread
  obtain ⟨proposed, hproposed, hread⟩ := bind_eq_ok hread
  obtain ⟨_, -, hread⟩ := bind_eq_ok hread
  obtain ⟨_, -, hread⟩ := bind_eq_ok hread
  obtain ⟨_, -, hread⟩ := bind_eq_ok hread
  obtain ⟨_, -, hread⟩ := bind_eq_ok hread
  cases hread
  rw [show (planRow current recommended).recommendedConfig = recommended from rfl, hrequests]
    at hproposed
  cases hproposed
  have hfile : valuesTarget (fileLib cpu memory).yaml "" = .ok (requestsFile cpu memory, 3,
      [(.str "cpu", .scalar cpu), (.str "memory", .scalar memory)]) := rfl
  rw [hfile] at htarget
  cases htarget
  exact ⟨_, hb, rfl, hcpu, hmemory⟩

/-- A patch of what the engine recommends, whose row is the engine's draft. -/
def PatchesDraft (o : WorkloadObservation) (cpu memory : Scalar) (newCpu newMemory : String)
    (row : FinOpsRecommendation) (b : Binding) : Prop :=
  ∃ result draft text s',
    analyzeWorkload binary64 (FinOpsPolicy.default binary64) reprFormats o = .ok result ∧
    result.recommendation = some draft ∧ row.currentConfig = draft.currentConfig ∧
    row.recommendedConfig = draft.recommendedConfig ∧
    (patchGitopsValues (fileLib cpu memory) row "").run {} = (.ok text, s') ∧
    binding (fileLib cpu memory) row "" = .ok b ∧
    cpuText (doubles binary64 reprTexts) b.proposed = .ok newCpu ∧
    memoryText (doubles binary64 reprTexts) Security.Redaction.bareTable b.proposed = .ok newMemory

private theorem not_notRaised {x y : ℚ} {kept : Prop} (h : x < y) :
    ¬ NotRaised (some (.finite x)) (some (.finite y)) kept := by
  intro ⟨_, _, hx, hy, hle, _⟩
  cases hx
  cases hy
  exact absurd (Double.finite_le_finite.mp hle) (not_le.mpr h)

private theorem steadyCpu_patched :
    ∃ row b, PatchesDraft steadyCpu (.str "2007m") (.str "1Gi") "2008m" "64Mi" row b ∧
      ¬ Lowers reprTexts row b.requests (b.written "2008m" "64Mi") := by
  obtain ⟨result, draft, hresult, hdraft, hcurrent, hrecommended⟩ :=
    exists_draft steadyCpu_sizes steadyCpu_recommends
  have hrun : ((patchGitopsValues (fileLib (.str "2007m") (.str "1Gi"))
      (planRow (workloadConfig reprFormats steadyCpu twoCores (.float (.finite 1073741824)))
        (workloadConfig reprFormats steadyCpu twoCores (.int 67108864)))
      "").run {}).1 = .ok "" := by
    decide +kernel
  obtain ⟨b, hb, hrequests, hcpu, hmemory⟩ := exists_written "2008m" "64Mi" rfl
    (by decide +kernel) (by decide +kernel) (Prod.ext hrun rfl)
  refine ⟨_, b, ⟨result, draft, _, _, hresult, hdraft, hcurrent.symm, hrecommended.symm,
    Prod.ext hrun rfl, hb, hcpu, hmemory⟩, ?_⟩
  intro hlowers
  have hnot := hlowers.cpu
  have hbefore : millicores reprTexts (requestOf b.requests "cpu") = some (.finite 2007) := by
    rw [hrequests]
    decide +kernel
  have hafter : millicores reprTexts (.scalar (.str "2008m")) = some (.finite 2008) := by
    decide +kernel
  rw [requestOf_written_cpu, hbefore, hafter] at hnot
  exact not_notRaised (by norm_num) hnot

private theorem steadyMemory_patched :
    ∃ row b, PatchesDraft steadyMemory (.int 1) (.str "100000Ki") "50m" "98Mi" row b ∧
      ¬ Lowers reprTexts row b.requests (b.written "50m" "98Mi") := by
  obtain ⟨result, draft, hresult, hdraft, hcurrent, hrecommended⟩ :=
    exists_draft steadyMemory_sizes steadyMemory_recommends
  have hrun : ((patchGitopsValues (fileLib (.int 1) (.str "100000Ki"))
      (planRow (workloadConfig reprFormats steadyMemory (.finite 1) (.float (.finite 102400000)))
        (workloadConfig reprFormats steadyMemory
          (.finite (3602879701896397 / 72057594037927936)) (.float (.finite 102400000))))
      "").run {}).1 = .ok "" := by
    decide +kernel
  obtain ⟨b, hb, hrequests, hcpu, hmemory⟩ := exists_written "50m" "98Mi" rfl
    (by decide +kernel) (by decide +kernel) (Prod.ext hrun rfl)
  refine ⟨_, b, ⟨result, draft, _, _, hresult, hdraft, hcurrent.symm, hrecommended.symm,
    Prod.ext hrun rfl, hb, hcpu, hmemory⟩, ?_⟩
  intro hlowers
  have hnot := hlowers.memory
  have hbefore : bytesOf reprTexts (requestOf b.requests "memory") = some (.finite 102400000) := by
    rw [hrequests]
    decide +kernel
  have hafter : bytesOf reprTexts (.scalar (.str "98Mi")) = some (.finite 102760448) := by
    decide +kernel
  rw [requestOf_written_memory, hbefore, hafter] at hnot
  exact not_notRaised (by norm_num) hnot

/-- The patches of two recommendations of the engine raise a request that the engine keeps. -/
theorem patchGitopsValues_raises :
    (∃ row b, PatchesDraft steadyCpu (.str "2007m") (.str "1Gi") "2008m" "64Mi" row b ∧
      ¬ Lowers reprTexts row b.requests (b.written "2008m" "64Mi")) ∧
    ∃ row b, PatchesDraft steadyMemory (.int 1) (.str "100000Ki") "50m" "98Mi" row b ∧
      ¬ Lowers reprTexts row b.requests (b.written "50m" "98Mi") :=
  ⟨steadyCpu_patched, steadyMemory_patched⟩

theorem patchGitopsValues_lowers_iff_steady :
    ∃ row text s', (patchGitopsValues (fileLib (.str "2007m") (.str "1Gi")) row "").run {} =
      (.ok text, s') ∧
    ∃ b cpu memory, binding (fileLib (.str "2007m") (.str "1Gi")) row "" = .ok b ∧
      text = "" ∧ (Lowers reprTexts row b.requests (b.written cpu memory) ↔
        LandsOn binary64 reprTexts Security.Redaction.bareTable row b) := by
  obtain ⟨row, b, ⟨_, _, text, s', -, -, -, -, hrun, -⟩, -⟩ := steadyCpu_patched
  exact ⟨row, text, s', hrun, patchGitopsValues_lowers_iff rfl hrun⟩

end CloudWard.Finops
