import CloudWard.Finops.Bounds
import CloudWard.Logic.Binary64

/-!
# Whether an analysis has enough data

`finops/engine.py`: an analysis counts the samples of a series before it drops those that are not
usable. When an analysis returns, and rests on as many usable samples as the policy asks for.
-/

namespace CloudWard.Finops

open CloudWard.Logic Json

variable {R : Rounding} {policy : FinOpsPolicy} {f : Formats}

/-! ### The evidence window -/

/-- The window's problem can be told. -/
def WindowReads (R : Rounding) (policy : FinOpsPolicy) (environment : Environment)
    (window : EvidenceWindow) : Prop :=
  if window.requestedSeconds < policy.required environment then
    Printable (policy.required environment)
  else (R.round window.requestedSeconds).isFinite

/-- The window has no problem. -/
structure Sufficient (R : Rounding) (policy : FinOpsPolicy) (environment : Environment)
    (window : EvidenceWindow) (samples : Nat) : Prop where
  required : policy.required environment ≤ window.requestedSeconds
  readable : (R.round window.requestedSeconds).isFinite
  covered : ¬ .finite window.observedSeconds <
    R.mul (R.round window.requestedSeconds) policy.minimumCoverage
  samples : policy.minimumSamples ≤ samples

theorem computed_isOk_fitting {q : ℚ} {x : Double} (h : computed (R.fitting q) = .ok x) :
    (R.round q).isFinite := by
  obtain ⟨hround, r, rfl⟩ := R.fitting_eq_ok.mp (computed_eq_ok.mp h)
  rw [hround]
  rfl

theorem exists_windowProblem_iff {environment : Environment} {window : EvidenceWindow}
    {samples : Nat} :
    (∃ problem, windowProblem R policy environment window.requestedSeconds window.observedSeconds
      samples = .ok problem) ↔ WindowReads R policy environment window := by
  unfold windowProblem WindowReads
  simp only
  split
  · split
    · next hprintable => exact ⟨fun _ ↦ hprintable, fun _ ↦ ⟨_, rfl⟩⟩
    · next hprintable =>
      constructor
      · intro ⟨problem, h⟩
        cases h
      · exact fun h ↦ absurd h hprintable
  · constructor
    · intro ⟨problem, h⟩
      obtain ⟨x, hx, -⟩ := bind_eq_ok h
      exact computed_isOk_fitting hx
    · intro h
      have hfit : R.ofInt window.requestedSeconds = .ok (R.round window.requestedSeconds) :=
        R.fitting_of_isFinite h
      rw [hfit, computed_ok, ok_bind]
      split
      · exact ⟨_, rfl⟩
      · split <;> exact ⟨_, rfl⟩

theorem windowProblem_eq_none_iff {environment : Environment} {window : EvidenceWindow}
    {samples : Nat} :
    windowProblem R policy environment window.requestedSeconds window.observedSeconds samples =
      .ok none ↔ Sufficient R policy environment window samples := by
  unfold windowProblem
  simp only
  constructor
  · intro h
    split at h
    · split at h <;> cases h
    · next hrequired =>
      obtain ⟨x, hx, h⟩ := bind_eq_ok h
      have hread := computed_isOk_fitting hx
      obtain ⟨hround, -⟩ := R.fitting_eq_ok.mp (computed_eq_ok.mp hx)
      subst hround
      split at h
      · cases h
      · next hcovered =>
        split at h
        · cases h
        · next hsamples => exact ⟨not_lt.mp hrequired, hread, hcovered, not_lt.mp hsamples⟩
  · intro h
    have hfit : R.ofInt window.requestedSeconds = .ok (R.round window.requestedSeconds) :=
      R.fitting_of_isFinite h.readable
    rw [if_neg (not_lt.mpr h.required), hfit, computed_ok, ok_bind, if_neg h.covered,
      if_neg (not_lt.mpr h.samples)]
    rfl

/-! ### Amounts -/

/-- The CPU that is needed is finite in hundredths. -/
def CpuFits (R : Rounding) (policy : FinOpsPolicy) (cpu : Percentiles) : Prop :=
  (R.mul (Double.max (R.mul cpu.p95 policy.cpuHeadroomFactor) policy.minimumCpuCores)
    (R.round 100)).isFinite

/-- A hundredth of an integer is finite where the integer comes from a finite number. -/
private theorem exists_round_hundredth {q : ℚ} (h : R.round q = .finite q) :
    ∃ r, R.round ((⌈q⌉ : ℚ) / 100) = .finite r := by
  have hceil := Int.le_ceil q
  have hlt := Int.ceil_lt_add_one q
  by_cases hneg : q ≤ 0
  · have hnonpos : (⌈q⌉ : ℚ) ≤ 0 := by exact_mod_cast Int.ceil_le.mpr (by simpa using hneg)
    obtain ⟨r, hr, -⟩ := R.exists_round_of_mem (q := (⌈q⌉ : ℚ) / 100) h R.round_zero
      (by linarith) (by linarith)
    exact ⟨r, hr⟩
  · by_cases hone : q ≤ 1
    · obtain ⟨r, hr, -⟩ := R.round_mem_unit (q := (⌈q⌉ : ℚ) / 100) (by linarith) (by linarith)
      exact ⟨r, hr⟩
    · obtain ⟨r, hr, -⟩ := R.exists_round_of_mem (q := (⌈q⌉ : ℚ) / 100) R.round_zero h
        (by linarith) (by linarith)
      exact ⟨r, hr⟩

theorem toInt_eq_ok {g : ℚ → ℤ} {x : Double} {n : ℤ} (h : x.toInt g = .ok n) :
    ∃ q, x = .finite q ∧ g q = n := by
  cases x with
  | finite q =>
    cases h
    exact ⟨q, rfl, rfl⟩
  | nan => cases h
  | inf negative => cases h

theorem exists_cpuNeeded_iff {cpu : Percentiles} :
    (∃ up, cpuNeeded R policy cpu = .ok up) ↔ CpuFits R policy cpu := by
  unfold cpuNeeded roundCpuUp CpuFits
  generalize hx : R.mul (Double.max _ _) _ = x
  constructor
  · intro ⟨up, h⟩
    obtain ⟨n, hn, -⟩ := bind_eq_ok h
    obtain ⟨q, rfl, -⟩ := toInt_eq_ok hn
    rfl
  · intro h
    obtain ⟨q, rfl⟩ := Double.isFinite_iff.mp h
    obtain ⟨r, hr⟩ := exists_round_hundredth (R.round_of_mul_eq hx)
    exact ⟨.finite r, (R.divInt_eq_ok (n := 100) (by norm_num)).mpr ⟨hr, r, rfl⟩⟩

/-- No division by a positive number fails. -/
theorem exists_div {y : Double} (h : Above 0 y) (x : Double) : ∃ z, R.div x y = .ok z := by
  cases y with
  | finite b =>
    have hb : b ≠ 0 := by
      rintro rfl
      exact h (Double.finite_le_finite.mpr le_rfl)
    cases x <;> exact ⟨_, if_neg hb⟩
  | nan => cases x <;> exact ⟨_, rfl⟩
  | inf negative => cases x <;> exact ⟨_, rfl⟩

/-- What is left of a request can be told. -/
theorem exists_reduction {request : Double} (h : Above 0 request) (recommended : Double) :
    ∃ x, reduction R recommended request = .ok x := by
  obtain ⟨ratio, hratio⟩ := exists_div (R := R) h recommended
  exact ⟨R.sub (.finite 1) ratio, by rw [reduction, hratio]; rfl⟩

/-- The memory that is needed can be rounded up, and what is recommended of it is a float. -/
def MemoryFits (R : Rounding) (policy : FinOpsPolicy) (request : Double) (memory : Percentiles) :
    Prop :=
  ∃ up, memoryNeeded R policy memory = .ok up ∧
    ∃ amount, (Number.min (.float request) (.int up)).asFloat R = .ok amount

/-- The amounts for a workload can be told. -/
structure SizingReads (R : Rounding) (policy : FinOpsPolicy) (o : WorkloadObservation) : Prop where
  cpu : usable o.cpuUsageCores.values ≠ []
  memory : usable o.memoryUsageBytes.values ≠ []
  cpuFits : ∀ cpu, percentiles R o.cpuUsageCores = .ok cpu → CpuFits R policy cpu
  memoryFits : ∀ memory, percentiles R o.memoryUsageBytes = .ok memory →
    MemoryFits R policy o.memoryRequestBytes memory

theorem exists_sizing_iff {o : WorkloadObservation} :
    (∃ s, sizing R policy o = .ok s) ↔ SizingReads R policy o := by
  constructor
  · intro ⟨s, h⟩
    obtain ⟨hcpu, hmemory, cpuUp, memoryUp, -, memoryAmount, -, hcpuUp, hmemoryUp, -, hamount, -⟩ :=
      sizing_inv h
    refine ⟨(percentiles_eq_ok hcpu).1, (percentiles_eq_ok hmemory).1, ?_, ?_⟩
    · intro cpu h
      rw [hcpu] at h
      cases h
      exact exists_cpuNeeded_iff.mp ⟨cpuUp, hcpuUp⟩
    · intro memory h
      rw [hmemory] at h
      cases h
      exact ⟨memoryUp, hmemoryUp, memoryAmount, hamount⟩
  · intro h
    obtain ⟨cpu, hcpu, -⟩ := exists_percentiles (R := R) h.cpu
    obtain ⟨memory, hmemory, -⟩ := exists_percentiles (R := R) h.memory
    obtain ⟨cpuUp, hcpuUp⟩ := exists_cpuNeeded_iff.mpr (h.cpuFits cpu hcpu)
    obtain ⟨memoryUp, hmemoryUp, amount, hamount⟩ := h.memoryFits memory hmemory
    obtain ⟨x, hx⟩ := exists_reduction (R := R) o.cpuRequestCores_gt
      (Double.min o.cpuRequestCores cpuUp)
    obtain ⟨y, hy⟩ := exists_reduction (R := R) o.memoryRequestBytes_gt amount
    unfold sizing
    simp only [hcpu, hmemory, hcpuUp, hmemoryUp, hx, hamount, hy, computed_ok, ok_bind]
    exact ⟨_, rfl⟩

/-! ### Reductions -/

/-- A number of the format. -/
def Representable (R : Rounding) (x : Double) : Prop := ∀ q, x = .finite q → R.round q = .finite q

/-- What is left of a request is not negative. -/
theorem reduction_not_neg {amount request x : Double} (h : reduction R amount request = .ok x)
    (hrequest : Above 0 request)
    (hamount : amount = request ∨ amount.isFinite ∧ amount ≤ request) : ¬ x < .finite 0 := by
  obtain ⟨ratio, hratio, h⟩ := bind_eq_ok h
  cases h
  cases request with
  | nan =>
    rcases hamount with rfl | ⟨-, hle⟩
    · cases hratio
      exact Double.not_nan_lt _
    · exact absurd hle (Double.not_le_nan _)
  | inf negative =>
    rcases hamount with rfl | ⟨hfinite, -⟩
    · cases hratio
      exact Double.not_nan_lt _
    · obtain ⟨a, rfl⟩ := Double.isFinite_iff.mp hfinite
      cases hratio
      rw [Rounding.sub_finite]
      exact R.not_round_lt_zero (by norm_num)
  | finite b =>
    have hb : 0 < b := by
      by_contra hneg
      exact hrequest (Double.finite_le_finite.mpr (not_lt.mp hneg))
    obtain ⟨a, rfl, hab⟩ : ∃ a, amount = .finite a ∧ a ≤ b := by
      rcases hamount with rfl | ⟨hfinite, hle⟩
      · exact ⟨b, rfl, le_rfl⟩
      · obtain ⟨a, rfl⟩ := Double.isFinite_iff.mp hfinite
        exact ⟨a, rfl, hle⟩
    rw [R.div_finite hb.ne'] at hratio
    cases hratio
    have hle := R.round_le_one ((div_le_one hb).mpr hab)
    cases hround : R.round (a / b) with
    | nan => exact Double.not_nan_lt _
    | inf negative =>
      rw [hround, Double.inf_le_finite] at hle
      subst hle
      show ¬ Double.inf false < .finite 0
      rw [Double.inf_lt_finite]
      exact Bool.false_ne_true
    | finite r =>
      rw [hround, Double.finite_le_finite] at hle
      rw [Rounding.sub_finite]
      exact R.not_round_lt_zero (sub_nonneg.mpr hle)

private theorem unlessSmall_not_neg {α : Type} {request recommended : α} {reduction : Double}
    {kept : α × Double} (h : ¬ reduction < .finite 0)
    (hkept : unlessSmall policy request recommended reduction = kept) : ¬ kept.2 < .finite 0 := by
  subst hkept
  unfold unlessSmall
  split
  · rw [Double.finite_lt_finite]
    exact lt_irrefl 0
  · exact h

/-- An integer below a float of the format is no more than it as a float. -/
private theorem round_le_of_lt {n : ℤ} {x : Double} (hx : Representable R x) (h : .finite n < x) :
    R.round n ≤ x := by
  cases x with
  | nan => exact absurd h (Double.not_lt_nan _)
  | inf negative =>
    rw [Double.finite_lt_inf] at h
    subst h
    cases hround : R.round n with
    | nan => exact absurd hround (R.round_ne_nan _)
    | inf t => exact .inr rfl
    | finite r => rfl
  | finite b =>
    rw [← hx b rfl]
    exact R.mono (Double.finite_lt_finite.mp h).le

/-- The reductions that are recommended are not negative. -/
theorem sizing_not_neg {o : WorkloadObservation} {s : Sizing}
    (ho : Representable R o.memoryRequestBytes) (h : sizing R policy o = .ok s) :
    ¬ s.cpuReduction < .finite 0 ∧ ¬ s.memoryReduction < .finite 0 := by
  obtain ⟨-, -, cpuUp, memoryUp, x, amount, y, hcpuUp, -, hx, hamount, hy, hcpu, hmemory⟩ :=
    sizing_inv h
  have hfinite : cpuUp.isFinite := by
    obtain ⟨n, -, hup⟩ := bind_eq_ok hcpuUp
    obtain ⟨-, r, rfl⟩ := (R.divInt_eq_ok (n := 100) (by norm_num)).mp hup
    rfl
  constructor
  · have hnot : ¬ x < .finite 0 := by
      refine reduction_not_neg hx o.cpuRequestCores_gt ?_
      unfold Double.min
      split
      · next hlt => exact .inr ⟨hfinite, hlt.1⟩
      · exact .inl rfl
    exact unlessSmall_not_neg hnot hcpu
  · have hnot : ¬ y < .finite 0 := by
      refine reduction_not_neg hy o.memoryRequestBytes_gt ?_
      unfold Number.min at hamount
      split at hamount
      · next hlt =>
        obtain ⟨hround, r, rfl⟩ := R.fitting_eq_ok.mp hamount
        refine .inr ⟨rfl, ?_⟩
        rw [← hround]
        exact round_le_of_lt ho hlt
      · cases hamount
        exact .inl rfl
    exact unlessSmall_not_neg hnot hmemory

/-- The sum of the risk is not negative. -/
theorem riskSum_not_neg {x y : Double} {q : ℚ} (environment : Environment)
    (hx : ¬ x < .finite 0) (hy : y = .finite q) (hq : q ≤ 1) :
    ¬ riskSum R x y environment < .finite 0 := by
  unfold riskSum
  subst hy
  rw [Rounding.sub_finite]
  have hsub : ¬ R.round (1 - q) < .finite 0 := R.not_round_lt_zero (sub_nonneg.mpr hq)
  have hlast : ¬ R.round (if environment = .production then 20 else 0) < .finite 0 := by
    split <;> exact R.not_round_lt_zero (by norm_num)
  refine R.not_add_lt_zero (R.not_add_lt_zero (R.not_add_lt_zero ?_ (R.not_mul_lt_zero hx ?_))
    (R.not_mul_lt_zero hsub ?_)) hlast <;> exact R.not_round_lt_zero (by norm_num)

/-! ### Fingerprints -/

private theorem ints_float (x : Option Double) : ints (orNull f.float x) = [] := by
  cases x <;> rfl

private theorem ints_queriesDump (queries : List (String × String)) :
    ints (queriesDump queries) = [] := by
  induction queries with
  | nil => rfl
  | cons query rest ih => exact ih

private theorem ints_allocation (allocation : CostAllocation) : ints (allocation.dump f) = [] := by
  simp only [CostAllocation.dump, ints, ints.entryInts, ints_float, List.append_nil]

private theorem ints_window (window : EvidenceWindow) :
    ints (window.dump f) =
      [(window.requestedSeconds : ℤ), (window.observedSeconds : ℤ), (window.sampleCount : ℤ)] := rfl

private theorem ints_workloadConfig (o : WorkloadObservation) (cpu : Double) (memory : Number) :
    ints (workloadConfig f o cpu memory) = (o.replicas : ℤ) :: ints (memory.dump f) := by
  simp only [workloadConfig, ints, ints.entryInts, ints_float, Formats.float, count,
    List.append_nil, List.nil_append, List.cons_append]

private theorem ints_workloadEvidence (o : WorkloadObservation) (s : Sizing) :
    ints (workloadEvidence policy f o s) = [(o.replicas : ℤ), policy.minimumMemoryBytes] := by
  simp only [workloadEvidence, ints, ints.entryInts, ints_allocation, ints_queriesDump,
    Percentiles.dump, Formats.float, count, List.append_nil, List.nil_append, List.cons_append]

theorem exists_engineDigest_iff {payload : Json} :
    (∃ fingerprint, engineDigest f payload = .ok fingerprint) ↔ ∀ n ∈ ints payload, Printable n := by
  unfold engineDigest
  split
  · next h => exact ⟨fun _ ↦ h, fun _ ↦ ⟨_, rfl⟩⟩
  · next h =>
    constructor
    · intro ⟨fingerprint, hf⟩
      cases hf
    · exact fun hall ↦ absurd hall h

theorem length_engineDigest {payload : Json} {fingerprint : String}
    (h : engineDigest f payload = .ok fingerprint) : fingerprint.length = 64 := by
  unfold engineDigest at h
  split at h
  · cases h
    exact f.sha256_length _
  · cases h

/-! ### Recommendations for workloads -/

/-- The share of the window that is covered is a float. -/
def Covered (R : Rounding) (window : EvidenceWindow) : Prop :=
  (R.round ((window.observedSeconds : ℤ) / (window.requestedSeconds : ℤ))).isFinite

/-- The recommendation can be written. -/
structure DraftReads (R : Rounding) (policy : FinOpsPolicy) (o : WorkloadObservation) (s : Sizing) :
    Prop where
  covered : Covered R o.window
  risk : ∀ confidence, workloadConfidence R o = .ok confidence →
    (riskSum R (Double.max s.cpuReduction s.memoryReduction) confidence o.environment).isFinite
  counts : ∀ n ∈ [(o.window.requestedSeconds : ℤ), o.window.observedSeconds, o.window.sampleCount,
    o.replicas, policy.minimumMemoryBytes], Printable n
  bytes : ∀ n, s.recommendedMemory = .int n → Printable n

theorem exists_workloadConfidence_iff {o : WorkloadObservation} :
    (∃ x, workloadConfidence R o = .ok x) ↔ Covered R o.window := by
  have hseconds := o.window.requestedSeconds_ge
  have hne : (o.window.requestedSeconds : ℤ) ≠ 0 := by omega
  constructor
  · intro ⟨x, h⟩
    obtain ⟨ratio, hratio, -⟩ := bind_eq_ok h
    obtain ⟨hround, r, rfl⟩ := (R.divInt_eq_ok hne).mp hratio
    unfold Covered
    rw [hround]
    rfl
  · intro h
    obtain ⟨r, hr⟩ := Double.isFinite_iff.mp h
    unfold workloadConfidence
    rw [(R.divInt_eq_ok hne).mpr ⟨hr, r, rfl⟩, ok_bind]
    exact ⟨_, rfl⟩

private theorem exists_create {recommendationType : RecommendationType} {service why : String}
    {environment : Environment} {current recommended evidence estimated : Json} {score : ℤ}
    {confidence : Double} {limitations : List String} {window : EvidenceWindow}
    {fingerprint : String} (hscore : 0 ≤ score) (hfingerprint : fingerprint.length = 64)
    (hconfidence : ∃ q, confidence = .finite q ∧ 0 ≤ q ∧ q ≤ 1) :
    ∃ draft, RecommendationDraft.create recommendationType service environment why current
      recommended evidence estimated (min 100 score) confidence limitations window fingerprint =
      .ok draft := by
  obtain ⟨q, rfl, hlow, hhigh⟩ := hconfidence
  refine ⟨_, dif_pos ⟨⟨?_, min_le_left _ _⟩, atLeast_zero.mpr hlow, ?_, hfingerprint⟩⟩
  · exact le_min (by norm_num) hscore
  · rw [Double.finite_lt_finite]
    exact not_lt_of_ge hhigh

private theorem forall_mem_counts {P : ℤ → Prop} {a b c d e : ℤ} {bytes : List ℤ} :
    (∀ n ∈ [a, b, c, d, d] ++ bytes ++ [d, e], P n) ↔
      (∀ n ∈ [a, b, c, d, e], P n) ∧ ∀ n ∈ bytes, P n := by
  simp only [List.mem_append, List.mem_cons, List.not_mem_nil, or_false, or_imp, forall_and,
    forall_eq]
  tauto

theorem exists_workloadDraft_iff {o : WorkloadObservation} {s : Sizing}
    (hcpu : ¬ s.cpuReduction < .finite 0) (hmemory : ¬ s.memoryReduction < .finite 0) :
    (∃ draft, workloadDraft R policy f o s = .ok draft) ↔ DraftReads R policy o s := by
  have hints : ints (.dict [
      ("service", .str o.service),
      ("environment", .str o.environment.value),
      ("window", o.window.dump f),
      ("current", workloadConfig f o o.cpuRequestCores (.float o.memoryRequestBytes)),
      ("recommended", workloadConfig f o s.recommendedCpu s.recommendedMemory),
      ("evidence", workloadEvidence policy f o s)]) =
      [(o.window.requestedSeconds : ℤ), (o.window.observedSeconds : ℤ),
        (o.window.sampleCount : ℤ), (o.replicas : ℤ), (o.replicas : ℤ)] ++
      ints (s.recommendedMemory.dump f) ++ [(o.replicas : ℤ), policy.minimumMemoryBytes] := by
    simp only [ints, ints.entryInts, ints_window, ints_workloadConfig, ints_workloadEvidence,
      Number.dump, Formats.float, List.append_nil, List.nil_append, List.cons_append]
  have hprintable : (∀ n ∈ ints (.dict [
      ("service", .str o.service),
      ("environment", .str o.environment.value),
      ("window", o.window.dump f),
      ("current", workloadConfig f o o.cpuRequestCores (.float o.memoryRequestBytes)),
      ("recommended", workloadConfig f o s.recommendedCpu s.recommendedMemory),
      ("evidence", workloadEvidence policy f o s)]), Printable n) ↔
      (∀ n ∈ [(o.window.requestedSeconds : ℤ), o.window.observedSeconds, o.window.sampleCount,
        o.replicas, policy.minimumMemoryBytes], Printable n) ∧
      ∀ n, s.recommendedMemory = .int n → Printable n := by
    rw [hints, forall_mem_counts]
    refine and_congr_right fun _ ↦ ?_
    cases s.recommendedMemory with
    | float x => exact ⟨fun _ n h ↦ (by cases h), fun _ n h ↦ (by cases h)⟩
    | int n =>
      constructor
      · intro h m hm
        cases hm
        exact h n (List.mem_singleton_self n)
      · intro h m hm
        rw [List.mem_singleton.mp hm]
        exact h n rfl
  constructor
  · intro ⟨draft, h⟩
    obtain ⟨confidence, hconfidence, h⟩ := bind_eq_ok h
    obtain ⟨score, hscore, h⟩ := bind_eq_ok h
    obtain ⟨fingerprint, hfingerprint, -⟩ := bind_eq_ok h
    have hread := computed_eq_ok.mp hconfidence
    obtain ⟨hcounts, hbytes⟩ := hprintable.mp (exists_engineDigest_iff.mp ⟨fingerprint, hfingerprint⟩)
    refine ⟨exists_workloadConfidence_iff.mp ⟨confidence, hread⟩, ?_, hcounts, hbytes⟩
    intro confidence' h
    rw [hread] at h
    cases h
    obtain ⟨q, hq, -⟩ := toInt_eq_ok (computed_eq_ok.mp hscore)
    rw [hq]
    rfl
  · intro h
    obtain ⟨confidence, hconfidence⟩ := exists_workloadConfidence_iff.mpr h.covered
    obtain ⟨c, rfl, hc0, hc1⟩ := workloadConfidence_mem hconfidence
    obtain ⟨q, hq⟩ := Double.isFinite_iff.mp (h.risk _ hconfidence)
    have hmax : ¬ Double.max s.cpuReduction s.memoryReduction < .finite 0 := by
      unfold Double.max
      split
      · exact hmemory
      · exact hcpu
    have hrisk := riskSum_not_neg (R := R) o.environment hmax rfl hc1
    rw [hq, Double.finite_lt_finite, not_lt] at hrisk
    obtain ⟨fingerprint, hfingerprint⟩ :=
      exists_engineDigest_iff (f := f).mpr (hprintable.mpr ⟨h.counts, h.bytes⟩)
    have hscore : 0 ≤ roundHalfEven q := by
      refine le_roundHalfEven_of_le ?_
      rw [Int.cast_zero]
      exact hrisk
    unfold workloadDraft
    simp only [hconfidence, hq, Double.nearest, Double.toInt, computed_ok, ok_bind, hfingerprint]
    exact exists_create hscore (length_engineDigest hfingerprint) ⟨c, rfl, hc0, hc1⟩

/-! ### Analyses -/

/-- Both series have as many usable samples as the policy asks for. -/
def Enough (policy : FinOpsPolicy) (cpu memory : UsageSeries) : Prop :=
  policy.minimumSamples ≤ (usable cpu.values).length ∧
    policy.minimumSamples ≤ (usable memory.values).length

/-- An analysis returns, and what it recommends rests on enough usable samples. -/
def Sound (policy : FinOpsPolicy) (cpu memory : UsageSeries)
    (analysis : Except AnalysisError AnalysisResult) : Prop :=
  ∃ result, analysis = .ok result ∧ (result.outcome = .recommended → Enough policy cpu memory)

/-- A workload that is analysed without an error and on enough samples. -/
structure WorkloadAnalysable (R : Rounding) (policy : FinOpsPolicy) (o : WorkloadObservation) :
    Prop where
  window : WindowReads R policy o.environment o.window
  amounts : Sufficient R policy o.environment o.window
    (sampleCount o.cpuUsageCores o.memoryUsageBytes) → SizingReads R policy o
  recommended : Sufficient R policy o.environment o.window
      (sampleCount o.cpuUsageCores o.memoryUsageBytes) →
    ∀ s, sizing R policy o = .ok s →
      ¬ (s.cpuReduction = .finite 0 ∧ s.memoryReduction = .finite 0) →
      DraftReads R policy o s ∧ Enough policy o.cpuUsageCores o.memoryUsageBytes

theorem workload_sound_iff {o : WorkloadObservation} (ho : Representable R o.memoryRequestBytes) :
    Sound policy o.cpuUsageCores o.memoryUsageBytes (analyzeWorkload R policy f o) ↔
      WorkloadAnalysable R policy o := by
  unfold Sound analyzeWorkload
  rw [exists_bind_iff]
  constructor
  · intro ⟨problem, hproblem, result, h, hsound⟩
    have hwindow := exists_windowProblem_iff.mp ⟨problem, hproblem⟩
    refine ⟨hwindow, ?_, ?_⟩
    · intro hsufficient
      rw [windowProblem_eq_none_iff.mpr hsufficient] at hproblem
      cases hproblem
      obtain ⟨s, hs, -⟩ := bind_eq_ok h
      exact exists_sizing_iff.mp ⟨s, hs⟩
    · intro hsufficient s hs hreduced
      rw [windowProblem_eq_none_iff.mpr hsufficient] at hproblem
      cases hproblem
      obtain ⟨s', hs', h⟩ := bind_eq_ok h
      rw [hs] at hs'
      cases hs'
      rw [if_neg hreduced] at h
      obtain ⟨draft, hdraft, h⟩ := bind_eq_ok h
      cases h
      obtain ⟨hcpu, hmemory⟩ := sizing_not_neg ho hs
      exact ⟨(exists_workloadDraft_iff hcpu hmemory).mp ⟨draft, hdraft⟩, hsound rfl⟩
  · intro h
    obtain ⟨problem, hproblem⟩ := exists_windowProblem_iff.mpr h.window
    refine ⟨problem, hproblem, ?_⟩
    cases problem with
    | some reason => exact ⟨_, rfl, fun hout ↦ by cases hout⟩
    | none =>
      have hsufficient := windowProblem_eq_none_iff.mp hproblem
      obtain ⟨s, hs⟩ := exists_sizing_iff.mpr (h.amounts hsufficient)
      simp only [hs, ok_bind]
      split
      · exact ⟨_, rfl, fun hout ↦ by cases hout⟩
      · next hreduced =>
        obtain ⟨hcpu, hmemory⟩ := sizing_not_neg ho hs
        obtain ⟨hreads, henough⟩ := h.recommended hsufficient s hs hreduced
        obtain ⟨draft, hdraft⟩ := (exists_workloadDraft_iff (f := f) hcpu hmemory).mpr hreads
        rw [hdraft]
        exact ⟨_, rfl, fun _ ↦ henough⟩

/-! ### Nodes -/

/-- The nodes are used less than both thresholds. -/
def Underused (R : Rounding) (policy : FinOpsPolicy) (o : NodeObservation) : Prop :=
  ∃ cpu memory requested actual,
    percentiles R o.cpuUsageCores = .ok cpu ∧ percentiles R o.memoryUsageBytes = .ok memory ∧
    utilization R o.requestedCpuCores o.allocatableCpuCores o.requestedMemoryBytes
      o.allocatableMemoryBytes = .ok requested ∧
    utilization R cpu.p95 o.allocatableCpuCores memory.p95 o.allocatableMemoryBytes = .ok actual ∧
    ¬ (policy.nodeRequestUtilizationThreshold ≤ requested ∨
      policy.nodeActualUtilizationThreshold ≤ actual)

/-- Nodes that are analysed without an error and on enough samples. -/
structure NodesAnalysable (R : Rounding) (policy : FinOpsPolicy) (o : NodeObservation) : Prop where
  window : WindowReads R policy o.environment o.window
  usable : Sufficient R policy o.environment o.window
      (sampleCount o.cpuUsageCores o.memoryUsageBytes) →
    usable o.cpuUsageCores.values ≠ [] ∧ usable o.memoryUsageBytes.values ≠ []
  recommended : Sufficient R policy o.environment o.window
      (sampleCount o.cpuUsageCores o.memoryUsageBytes) →
    Underused R policy o →
      Covered R o.window ∧
      (∀ n ∈ [(o.window.requestedSeconds : ℤ), o.window.observedSeconds, o.window.sampleCount,
        o.nodeCount, o.podCount], Printable n) ∧
      Enough policy o.cpuUsageCores o.memoryUsageBytes

/-- The shares of nodes can be told. -/
theorem exists_utilization (cpu memory : Double) {allocatableCpu allocatableMemory : Double}
    (hcpu : Above 0 allocatableCpu) (hmemory : Above 0 allocatableMemory) :
    ∃ x, utilization R cpu allocatableCpu memory allocatableMemory = .ok x := by
  obtain ⟨x, hx⟩ := exists_div (R := R) hcpu cpu
  obtain ⟨y, hy⟩ := exists_div (R := R) hmemory memory
  unfold utilization
  rw [hx, ok_bind, hy, ok_bind]
  exact ⟨_, rfl⟩

/-- The confidence in a recommendation for the nodes lies between zero and one. -/
private theorem nodeConfidence_mem {window : EvidenceWindow} {r : ℚ}
    (h : R.round ((window.observedSeconds : ℤ) / (window.requestedSeconds : ℤ)) = .finite r) :
    ∃ q, R.roundTo 2 (Double.min (R.round (95 / 100)) (.finite r)) = .finite q ∧ 0 ≤ q ∧ q ≤ 1 := by
  have hr := R.round_nonneg (q := (window.observedSeconds : ℤ) / (window.requestedSeconds : ℤ))
    (by positivity)
  rw [h, Double.finite_le_finite] at hr
  obtain ⟨y, hy, hy0, hy1⟩ := R.round_mem_unit (q := 95 / 100) (by norm_num) (by norm_num)
  rw [hy, Double.min_finite]
  exact R.roundTo_mem_unit 2 (le_min hy0 hr) ((min_le_left y r).trans hy1)

theorem exists_nodeDraft_iff {o : NodeObservation} (cpu memory : Percentiles)
    (requested actual : Double) :
    (∃ draft, nodeDraft R f o cpu memory requested actual = .ok draft) ↔
      Covered R o.window ∧ ∀ n ∈ [(o.window.requestedSeconds : ℤ), o.window.observedSeconds,
        o.window.sampleCount, o.nodeCount, o.podCount], Printable n := by
  have hseconds := o.window.requestedSeconds_ge
  have hne : (o.window.requestedSeconds : ℤ) ≠ 0 := by omega
  have hints : ints (.dict [
      ("environment", .str o.environment.value),
      ("window", o.window.dump f),
      ("current", .dict [
        ("node_count", count o.nodeCount),
        ("allocatable_cpu_cores", f.float o.allocatableCpuCores),
        ("allocatable_memory_bytes", f.float o.allocatableMemoryBytes),
        ("requested_cpu_cores", f.float o.requestedCpuCores),
        ("requested_memory_bytes", f.float o.requestedMemoryBytes),
        ("pod_count", count o.podCount)]),
      ("evidence", .dict [
        ("cpu_usage_cores", cpu.dump f),
        ("memory_usage_bytes", memory.dump f),
        ("request_utilization", f.float (R.roundTo 4 requested)),
        ("actual_p95_utilization", f.float (R.roundTo 4 actual)),
        ("allocation", o.allocation.dump f),
        ("queries", queriesDump o.sourceQueries)])]) =
      [(o.window.requestedSeconds : ℤ), (o.window.observedSeconds : ℤ),
        (o.window.sampleCount : ℤ), (o.nodeCount : ℤ), (o.podCount : ℤ)] := by
    simp only [ints, ints.entryInts, ints_window, ints_allocation, ints_queriesDump,
      Percentiles.dump, Formats.float, count, List.append_nil, List.nil_append, List.cons_append]
  constructor
  · intro ⟨draft, h⟩
    obtain ⟨ratio, hratio, h⟩ := bind_eq_ok h
    obtain ⟨fingerprint, hfingerprint, -⟩ := bind_eq_ok h
    obtain ⟨hround, r, rfl⟩ := (R.divInt_eq_ok hne).mp (computed_eq_ok.mp hratio)
    have hprintable := exists_engineDigest_iff.mp ⟨fingerprint, hfingerprint⟩
    rw [hints] at hprintable
    refine ⟨?_, hprintable⟩
    unfold Covered
    rw [hround]
    rfl
  · intro ⟨hcovered, hprintable⟩
    obtain ⟨r, hr⟩ := Double.isFinite_iff.mp hcovered
    rw [← hints] at hprintable
    obtain ⟨fingerprint, hfingerprint⟩ := exists_engineDigest_iff (f := f).mpr hprintable
    unfold nodeDraft
    rw [(R.divInt_eq_ok hne).mpr ⟨hr, r, rfl⟩, computed_ok, ok_bind]
    simp only [hfingerprint, ok_bind]
    refine exists_create ?_ (length_engineDigest hfingerprint) (nodeConfidence_mem hr)
    split <;> norm_num

theorem nodes_sound_iff {o : NodeObservation} :
    Sound policy o.cpuUsageCores o.memoryUsageBytes (analyzeNodes R policy f o) ↔
      NodesAnalysable R policy o := by
  unfold Sound analyzeNodes
  rw [exists_bind_iff]
  constructor
  · intro ⟨problem, hproblem, result, h, hsound⟩
    refine ⟨exists_windowProblem_iff.mp ⟨problem, hproblem⟩, ?_, ?_⟩
    · intro hsufficient
      rw [windowProblem_eq_none_iff.mpr hsufficient] at hproblem
      cases hproblem
      obtain ⟨cpu, hcpu, h⟩ := bind_eq_ok h
      obtain ⟨memory, hmemory, -⟩ := bind_eq_ok h
      exact ⟨(percentiles_eq_ok hcpu).1, (percentiles_eq_ok hmemory).1⟩
    · intro hsufficient ⟨cpu, memory, requested, actual, hcpu, hmemory, hrequested, hactual, hunder⟩
      rw [windowProblem_eq_none_iff.mpr hsufficient] at hproblem
      cases hproblem
      simp only [hcpu, hmemory, hrequested, hactual, computed_ok, ok_bind, if_neg hunder] at h
      obtain ⟨draft, hdraft, h⟩ := bind_eq_ok h
      cases h
      obtain ⟨hcovered, hprintable⟩ := (exists_nodeDraft_iff cpu memory requested actual).mp ⟨draft, hdraft⟩
      exact ⟨hcovered, hprintable, hsound rfl⟩
  · intro h
    obtain ⟨problem, hproblem⟩ := exists_windowProblem_iff.mpr h.window
    refine ⟨problem, hproblem, ?_⟩
    cases problem with
    | some reason => exact ⟨_, rfl, fun hout ↦ by cases hout⟩
    | none =>
      have hsufficient := windowProblem_eq_none_iff.mp hproblem
      obtain ⟨hcpuUsable, hmemoryUsable⟩ := h.usable hsufficient
      obtain ⟨cpu, hcpu, -⟩ := exists_percentiles (R := R) hcpuUsable
      obtain ⟨memory, hmemory, -⟩ := exists_percentiles (R := R) hmemoryUsable
      obtain ⟨requested, hrequested⟩ := exists_utilization (R := R) o.requestedCpuCores
        o.requestedMemoryBytes o.allocatableCpuCores_gt o.allocatableMemoryBytes_gt
      obtain ⟨actual, hactual⟩ := exists_utilization (R := R) cpu.p95 memory.p95
        o.allocatableCpuCores_gt o.allocatableMemoryBytes_gt
      simp only [hcpu, hmemory, hrequested, hactual, computed_ok, ok_bind]
      split
      · exact ⟨_, rfl, fun hout ↦ by cases hout⟩
      · next hunder =>
        obtain ⟨hcovered, hprintable, henough⟩ := h.recommended hsufficient
          ⟨cpu, memory, requested, actual, hcpu, hmemory, hrequested, hactual, hunder⟩
        obtain ⟨draft, hdraft⟩ := (exists_nodeDraft_iff (f := f) cpu memory requested actual).mpr ⟨hcovered, hprintable⟩
        rw [hdraft]
        exact ⟨_, rfl, fun _ ↦ henough⟩

/-- An analysis returns, and rests on enough usable samples, exactly where its input is
analysable. -/
theorem analysis_sound_iff (R : Rounding) (policy : FinOpsPolicy) (f : Formats) :
    (∀ o : WorkloadObservation, Representable R o.memoryRequestBytes →
      (Sound policy o.cpuUsageCores o.memoryUsageBytes (analyzeWorkload R policy f o) ↔
        WorkloadAnalysable R policy o)) ∧
    ∀ o : NodeObservation,
      (Sound policy o.cpuUsageCores o.memoryUsageBytes (analyzeNodes R policy f o) ↔
        NodesAnalysable R policy o) :=
  ⟨fun _ ho ↦ workload_sound_iff ho, fun _ ↦ nodes_sound_iff⟩

/-! ### Samples that are not numbers -/

private theorem sparse_length (x : Double) : [x, .nan, .nan, .nan, .nan].length < 2 ^ 63 := by
  rw [show [x, .nan, .nan, .nan, .nan].length = 5 from rfl]
  omega

/-- A series of five samples, four of which are not numbers. -/
def sparse (x : Double) : UsageSeries where
  values := [x, .nan, .nan, .nan, .nan]
  values_length := sparse_length x

private theorem usable_sparse_zero : usable (sparse (.finite 0)).values = [0] := by
  simp [sparse, usable]

private theorem gibibyte_representable : Representable binary64 (.finite 1073741824) := by
  intro q h
  cases h
  decide +kernel

theorem analysis_sound_iff_sparse :
    Sound (FinOpsPolicy.default binary64) (sparse (.finite 0)) (sparse (.finite 0))
      (analyzeWorkload binary64 (FinOpsPolicy.default binary64) plainFormats
        (lightWorkload (sparse (.finite 0)) (sparse (.finite 0)))) ↔
    WorkloadAnalysable binary64 (FinOpsPolicy.default binary64)
      (lightWorkload (sparse (.finite 0)) (sparse (.finite 0))) :=
  (analysis_sound_iff binary64 (FinOpsPolicy.default binary64) plainFormats).1 _
    gibibyte_representable

private theorem sparse_recommended :
    recommends (analyzeWorkload binary64 (FinOpsPolicy.default binary64) plainFormats
      (lightWorkload (sparse (.finite 0)) (sparse (.finite 0)))) := by
  unfold analyzeWorkload sizing
  simp only [lightWorkload, plainWorkload,
    percentiles_of_usable_single (R := binary64) (atLeast_zero.mpr le_rfl) usable_sparse_zero]
  decide +kernel

private theorem sparse_raises :
    (analyzeWorkload binary64 (FinOpsPolicy.default binary64) plainFormats
      (lightWorkload (sparse .nan) (sparse .nan))).isOk = false := by
  have hempty : usable (sparse .nan).values = [] := rfl
  unfold analyzeWorkload sizing
  simp only [lightWorkload, plainWorkload, percentiles_of_unusable hempty]
  decide +kernel

/-- A recommendation that rests on one usable sample of five, and an analysis that raises. -/
theorem analysis_not_sound :
    ¬ Sound (FinOpsPolicy.default binary64) (sparse (.finite 0)) (sparse (.finite 0))
      (analyzeWorkload binary64 (FinOpsPolicy.default binary64) plainFormats
        (lightWorkload (sparse (.finite 0)) (sparse (.finite 0)))) ∧
    ¬ Sound (FinOpsPolicy.default binary64) (sparse .nan) (sparse .nan)
      (analyzeWorkload binary64 (FinOpsPolicy.default binary64) plainFormats
        (lightWorkload (sparse .nan) (sparse .nan))) := by
  constructor
  · intro ⟨result, hresult, hsound⟩
    obtain ⟨other, hother, hout⟩ := recommends_iff.mp sparse_recommended
    rw [hresult] at hother
    cases hother
    have henough := (hsound hout).1
    rw [usable_sparse_zero] at henough
    exact absurd henough (by decide)
  · intro ⟨result, hresult, _⟩
    have hraises := sparse_raises
    rw [hresult] at hraises
    cases hraises

end CloudWard.Finops
