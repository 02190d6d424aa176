import CloudWard.Finops.Quantiles

/-!
# The bounds of a recommendation

`finops/engine.py:77`, with numbers taken as exact rationals: what is recommended for a workload
lies between what its usage needs and what it requests.
-/

namespace CloudWard.Finops

open CloudWard.Logic Json

section Stages

variable {R : Rounding} {policy : FinOpsPolicy} {f : Formats} {o : WorkloadObservation} {s : Sizing}

/-- What the amounts that are recommended come from. -/
theorem sizing_inv (h : sizing R policy o = .ok s) :
    percentiles R o.cpuUsageCores = .ok s.cpu ∧ percentiles R o.memoryUsageBytes = .ok s.memory ∧
    ∃ cpuUp memoryUp cpuReduction memoryAmount memoryReduction,
      cpuNeeded R policy s.cpu = .ok cpuUp ∧ memoryNeeded R policy s.memory = .ok memoryUp ∧
      reduction R (Double.min o.cpuRequestCores cpuUp) o.cpuRequestCores = .ok cpuReduction ∧
      (Number.min (.float o.memoryRequestBytes) (.int memoryUp)).asFloat R = .ok memoryAmount ∧
      reduction R memoryAmount o.memoryRequestBytes = .ok memoryReduction ∧
      unlessSmall policy o.cpuRequestCores (Double.min o.cpuRequestCores cpuUp) cpuReduction =
        (s.recommendedCpu, s.cpuReduction) ∧
      unlessSmall policy (.float o.memoryRequestBytes)
        (Number.min (.float o.memoryRequestBytes) (.int memoryUp)) memoryReduction =
        (s.recommendedMemory, s.memoryReduction) := by
  obtain ⟨cpu, hcpu, h⟩ := bind_eq_ok h
  obtain ⟨memory, hmemory, h⟩ := bind_eq_ok h
  obtain ⟨cpuUp, hcpuUp, h⟩ := bind_eq_ok h
  obtain ⟨memoryUp, hmemoryUp, h⟩ := bind_eq_ok h
  obtain ⟨cpuReduction, hcpuReduction, h⟩ := bind_eq_ok h
  obtain ⟨memoryAmount, hmemoryAmount, h⟩ := bind_eq_ok h
  obtain ⟨memoryReduction, hmemoryReduction, h⟩ := bind_eq_ok h
  cases h
  exact ⟨hcpu, hmemory, cpuUp, memoryUp, cpuReduction, memoryAmount, memoryReduction,
    computed_eq_ok.mp hcpuUp, computed_eq_ok.mp hmemoryUp, computed_eq_ok.mp hcpuReduction,
    computed_eq_ok.mp hmemoryAmount, computed_eq_ok.mp hmemoryReduction, rfl, rfl⟩

/-- What a recommendation for a workload comes from. -/
theorem workloadDraft_inv {draft : RecommendationDraft}
    (h : workloadDraft R policy f o s = .ok draft) :
    workloadConfidence R o = .ok draft.confidence ∧
    draft.currentConfig = workloadConfig f o o.cpuRequestCores (.float o.memoryRequestBytes) ∧
    draft.recommendedConfig = workloadConfig f o s.recommendedCpu s.recommendedMemory ∧
    draft.estimatedSavings.get? "value" = some (orNull f.float
      ((savings R o.allocation s.cpuReduction s.memoryReduction).map (R.roundTo 4))) := by
  obtain ⟨confidence, hconfidence, h⟩ := bind_eq_ok h
  obtain ⟨score, hscore, h⟩ := bind_eq_ok h
  obtain ⟨fingerprint, hfingerprint, h⟩ := bind_eq_ok h
  unfold RecommendationDraft.create at h
  split at h
  · cases h
    exact ⟨computed_eq_ok.mp hconfidence, rfl, rfl, rfl⟩
  · cases h

/-- What a recommended result comes from. -/
theorem analyzeWorkload_inv {result : AnalysisResult}
    (h : analyzeWorkload R policy f o = .ok result) (hout : result.outcome = .recommended) :
    ∃ s draft, sizing R policy o = .ok s ∧
      ¬ (s.cpuReduction = .finite 0 ∧ s.memoryReduction = .finite 0) ∧
      workloadDraft R policy f o s = .ok draft ∧ result.recommendation = some draft := by
  obtain ⟨insufficient, -, h⟩ := bind_eq_ok h
  cases insufficient with
  | some reason =>
    cases h
    cases hout
  | none =>
    obtain ⟨s, hs, h⟩ := bind_eq_ok h
    split at h
    · cases h
      cases hout
    · next hreduced =>
      obtain ⟨draft, hdraft, h⟩ := bind_eq_ok h
      cases h
      exact ⟨s, draft, hs, hreduced, hdraft, rfl⟩

/-- The analysis recommends something. -/
def recommends : Except AnalysisError AnalysisResult → Bool
  | .ok result => result.outcome = .recommended
  | .error _ => false

theorem recommends_iff {result : Except AnalysisError AnalysisResult} :
    recommends result ↔ ∃ value, result = .ok value ∧ value.outcome = .recommended := by
  cases result <;> simp [recommends]

/-- The confidence lies between zero and one. -/
theorem workloadConfidence_mem {x : Double} (h : workloadConfidence R o = .ok x) :
    ∃ q, x = .finite q ∧ 0 ≤ q ∧ q ≤ 1 := by
  obtain ⟨ratio, hratio, h⟩ := bind_eq_ok h
  have hseconds := o.window.requestedSeconds_ge
  obtain ⟨hround, r, rfl⟩ := (R.divInt_eq_ok (by omega)).mp hratio
  have hr : 0 ≤ r := by
    have hle := R.round_nonneg (q := (o.window.observedSeconds : ℤ) / (o.window.requestedSeconds : ℤ))
      (by positivity)
    rw [hround] at hle
    exact hle
  obtain ⟨c, hc, hc0, hc1⟩ : ∃ c, (if o.allocation.totalCost.isSome then Double.finite 1
      else R.round (85 / 100)) = .finite c ∧ 0 ≤ c ∧ c ≤ 1 := by
    split
    · exact ⟨1, rfl, zero_le_one, le_rfl⟩
    · exact R.round_mem_unit (by norm_num) (by norm_num)
  obtain ⟨y, hy, hy0, hy1⟩ := R.round_mem_unit (q := 99 / 100) (by norm_num) (by norm_num)
  obtain ⟨z, hz, hz0, hz1⟩ := R.round_mem_unit (q := min 1 r * c)
    (mul_nonneg (le_min zero_le_one hr) hc0)
    (mul_le_one₀ (min_le_left 1 r) hc0 hc1)
  simp only [hc, Double.min_finite, Rounding.mul_finite, hy, hz] at h
  cases h
  exact R.roundTo_mem_unit 2 (le_min hy0 hz0) ((min_le_left y z).trans hy1)

end Stages

/-! ### Exact amounts -/

/-- A request and what is recommended in its place. -/
structure Resized (fraction request needed recommended : ℚ) : Prop where
  above : min request needed ≤ recommended
  below : recommended ≤ request
  kept_or_reduced : recommended = request ∨ recommended ≤ request * (1 - fraction)

/-- A policy of rationals whose minimums are not negative and that reduces by a fraction. -/
structure Sensible (policy : FinOpsPolicy) : Prop where
  cpuHeadroomFactor : policy.cpuHeadroomFactor.isFinite
  memoryHeadroomFactor : policy.memoryHeadroomFactor.isFinite
  minimumCpuCores : policy.minimumCpuCores.isFinite
  minimumCpuCores_nonneg : 0 ≤ policy.minimumCpuCores.toRat
  minimumMemoryBytes_nonneg : 0 ≤ policy.minimumMemoryBytes
  minimumReductionFraction : policy.minimumReductionFraction.isFinite
  minimumReductionFraction_pos : 0 < policy.minimumReductionFraction.toRat

/-- A workload whose requests are rationals. -/
structure RationalRequests (o : WorkloadObservation) : Prop where
  cpuRequestCores : o.cpuRequestCores.isFinite
  memoryRequestBytes : o.memoryRequestBytes.isFinite

/-- The CPU that a workload needs, before it is rounded up. -/
def cpuFloor (policy : FinOpsPolicy) (cpu : Percentiles) : ℚ :=
  max (cpu.p95.toRat * policy.cpuHeadroomFactor.toRat) policy.minimumCpuCores.toRat

/-- The memory that a workload needs, before it is rounded up. -/
def memoryFloor (policy : FinOpsPolicy) (memory : Percentiles) : ℚ :=
  max (memory.p95.toRat * policy.memoryHeadroomFactor.toRat) policy.minimumMemoryBytes

section Exact

variable {policy : FinOpsPolicy} {a up needed : ℚ}

theorem Number.value_min (x y : Number) : (Number.min x y).value = Double.min x.value y.value := by
  unfold Number.min Double.min
  split <;> rfl

theorem Number.value_max (x y : Number) : (Number.max x y).value = Double.max x.value y.value := by
  unfold Number.max Double.max
  split <;> rfl

theorem Number.asFloat_exact (x : Number) : x.asFloat exact = .ok x.value := by
  cases x <;> rfl

/-- `1 - recommended / request` -/
theorem reduction_exact {b : ℚ} (ha : 0 < a) :
    reduction exact (.finite b) (.finite a) = .ok (.finite (1 - b / a)) := by
  unfold reduction
  rw [exact.div_finite ha.ne']
  rfl

/-- What is kept is the request, or less by the fraction. -/
theorem exists_unlessSmall {α : Type} (value : α → Double) {request recommended : α}
    (ha : 0 < a) (hpolicy : Sensible policy) (hrequest : value request = .finite a)
    (hrecommended : value recommended = .finite (min a up)) (hneeded : needed ≤ up)
    {kept : α × Double}
    (h : unlessSmall policy request recommended (.finite (1 - min a up / a)) = kept) :
    ∃ c, value kept.1 = .finite c ∧ kept.2 = .finite (1 - c / a) ∧
      Resized policy.minimumReductionFraction.toRat a needed c := by
  have hfraction := Double.finite_toRat hpolicy.minimumReductionFraction
  unfold unlessSmall at h
  rw [← hfraction] at h
  split at h
  · subst h
    refine ⟨a, hrequest, ?_, min_le_left a needed, le_rfl, .inl rfl⟩
    rw [div_self ha.ne', sub_self]
  · next hlarge =>
    rw [Double.finite_lt_finite] at hlarge
    subst h
    refine ⟨min a up, hrecommended, rfl, min_le_min_left a hneeded, min_le_left a up, .inr ?_⟩
    have hshare : min a up / a ≤ 1 - policy.minimumReductionFraction.toRat := by linarith
    rw [div_le_iff₀ ha] at hshare
    linarith

theorem Resized.nonneg {fraction c : ℚ} (h : Resized fraction a needed c) (ha : 0 < a)
    (hneeded : 0 ≤ needed) : 0 ≤ c :=
  (le_min ha.le hneeded).trans h.above

/-- The share of a request that is saved. -/
theorem Resized.share_mem {fraction c : ℚ} (h : Resized fraction a needed c) (ha : 0 < a)
    (hneeded : 0 ≤ needed) : 0 ≤ 1 - c / a ∧ 1 - c / a ≤ 1 := by
  have hlow : 0 ≤ c / a := div_nonneg (h.nonneg ha hneeded) ha.le
  have hhigh : c / a ≤ 1 := (div_le_one ha).mpr h.below
  constructor <;> linarith

/-- The CPU that is needed, rounded up. -/
theorem exists_cpuNeeded {cpu : Percentiles} (hpolicy : Sensible policy)
    (hp95 : cpu.p95.isFinite) :
    ∃ up, cpuNeeded exact policy cpu = .ok (.finite up) ∧ cpuFloor policy cpu ≤ up := by
  have hneeded : cpuNeeded exact policy cpu =
      .ok (.finite ((⌈cpuFloor policy cpu * 100⌉ : ℚ) / 100)) := by
    unfold cpuNeeded cpuFloor
    rw [← Double.finite_toRat hp95, ← Double.finite_toRat hpolicy.cpuHeadroomFactor,
      ← Double.finite_toRat hpolicy.minimumCpuCores, Rounding.mul_finite, Rounding.round_exact,
      Double.max_finite]
    rfl
  refine ⟨_, hneeded, ?_⟩
  rw [le_div_iff₀ (by norm_num)]
  exact Int.le_ceil _

/-- The memory that is needed, rounded up. -/
theorem exists_memoryNeeded {memory : Percentiles} (hpolicy : Sensible policy)
    (hp95 : memory.p95.isFinite) :
    ∃ up : ℤ, memoryNeeded exact policy memory = .ok up ∧ memoryFloor policy memory ≤ up := by
  have hvalue : (Number.max (.float (exact.mul memory.p95 policy.memoryHeadroomFactor))
      (.int policy.minimumMemoryBytes)).value = .finite (memoryFloor policy memory) := by
    rw [Number.value_max, ← Double.finite_toRat hp95,
      ← Double.finite_toRat hpolicy.memoryHeadroomFactor]
    exact Double.max_finite _ _
  have hneeded : memoryNeeded exact policy memory = .ok (⌈memoryFloor policy memory / mib⌉ * mib) := by
    unfold memoryNeeded roundMemoryUp
    generalize Number.max (.float (exact.mul memory.p95 policy.memoryHeadroomFactor))
      (.int policy.minimumMemoryBytes) = x at hvalue ⊢
    generalize memoryFloor policy memory = v at hvalue ⊢
    cases x <;> cases hvalue <;> rfl
  refine ⟨_, hneeded, ?_⟩
  have hmib : (0 : ℚ) < mib := by norm_num [mib]
  push_cast
  rw [← div_le_iff₀ hmib]
  exact Int.le_ceil _

end Exact

/-! ### Recommendations -/

section Recommendations

variable {policy : FinOpsPolicy} {o : WorkloadObservation} {s : Sizing}

theorem Above.toRat_pos {x : Double} (h : Above 0 x) (hx : x.isFinite) : 0 < x.toRat := by
  rw [← Double.finite_toRat hx] at h
  exact not_le.mp h

theorem percentiles_p95 {series : UsageSeries} {p : Percentiles}
    (h : percentiles exact series = .ok p) : p.p95.isFinite :=
  (percentiles_eq_ok h).2.exact_isFinite

/-- The amounts that are recommended, and what share of the requests they save. -/
theorem sizing_exact (hpolicy : Sensible policy) (ho : RationalRequests o)
    (h : sizing exact policy o = .ok s) :
    ∃ c m, s.recommendedCpu = .finite c ∧ s.recommendedMemory.value = .finite m ∧
      s.cpuReduction = .finite (1 - c / o.cpuRequestCores.toRat) ∧
      s.memoryReduction = .finite (1 - m / o.memoryRequestBytes.toRat) ∧
      Resized policy.minimumReductionFraction.toRat o.cpuRequestCores.toRat
        (cpuFloor policy s.cpu) c ∧
      Resized policy.minimumReductionFraction.toRat o.memoryRequestBytes.toRat
        (memoryFloor policy s.memory) m := by
  have hcpuPos := o.cpuRequestCores_gt.toRat_pos ho.cpuRequestCores
  have hmemoryPos := o.memoryRequestBytes_gt.toRat_pos ho.memoryRequestBytes
  have hcpuRat := Double.finite_toRat ho.cpuRequestCores
  have hmemoryRat := Double.finite_toRat ho.memoryRequestBytes
  obtain ⟨hcpu, hmemory, cpuUp, memoryUp, cpuShare, memoryAmount, memoryShare, hcpuUp, hmemoryUp,
    hcpuShare, hmemoryAmount, hmemoryShare, hcpuKept, hmemoryKept⟩ := sizing_inv h
  obtain ⟨up, hup, hcpuLe⟩ := exists_cpuNeeded hpolicy (percentiles_p95 hcpu)
  rw [hup] at hcpuUp
  cases hcpuUp
  obtain ⟨up', hup', hmemoryLe⟩ := exists_memoryNeeded hpolicy (percentiles_p95 hmemory)
  rw [hup'] at hmemoryUp
  cases hmemoryUp
  rw [← hcpuRat, Double.min_finite, reduction_exact hcpuPos] at hcpuShare
  cases hcpuShare
  have hmin : (Number.min (.float o.memoryRequestBytes) (.int memoryUp)).value =
      .finite (min o.memoryRequestBytes.toRat memoryUp) := by
    rw [Number.value_min, ← hmemoryRat]
    exact Double.min_finite _ _
  rw [Number.asFloat_exact, hmin] at hmemoryAmount
  cases hmemoryAmount
  rw [← hmemoryRat, reduction_exact hmemoryPos] at hmemoryShare
  cases hmemoryShare
  obtain ⟨c, hc, hcshare, hcpuResized⟩ := exists_unlessSmall id hcpuPos hpolicy hcpuRat.symm
    (by rw [← hcpuRat]; exact Double.min_finite _ _) hcpuLe hcpuKept
  have hrequest : Number.value (.float o.memoryRequestBytes) =
      .finite o.memoryRequestBytes.toRat := hmemoryRat.symm
  obtain ⟨m, hm, hmshare, hmemoryResized⟩ := exists_unlessSmall Number.value hmemoryPos hpolicy
    hrequest hmin hmemoryLe hmemoryKept
  exact ⟨c, m, hc, hm, hcshare, hmshare, hcpuResized, hmemoryResized⟩

/-- A weighted sum of two shares is no more than the weights. -/
private theorem shares_mem {a b x y : ℚ} (ha : 0 ≤ a) (hb : 0 ≤ b) (hx : 0 ≤ x ∧ x ≤ 1)
    (hy : 0 ≤ y ∧ y ≤ 1) : 0 ≤ a * x + b * y ∧ a * x + b * y ≤ a + b :=
  ⟨add_nonneg (mul_nonneg ha hx.1) (mul_nonneg hb hy.1),
    add_le_add (mul_le_of_le_one_right ha hx.2) (mul_le_of_le_one_right hb hy.2)⟩

theorem atLeast_zero {q : ℚ} : AtLeast 0 (.finite q) ↔ 0 ≤ q := by
  unfold AtLeast
  rw [Double.finite_lt_finite, not_lt]

/-- Every recommendation for a workload lies between what its usage needs and what it requests,
reduces one of the requests, and estimates no more savings than the workload costs. -/
theorem analyzeWorkload_bounded (f : Formats) {result : AnalysisResult} (hpolicy : Sensible policy)
    (ho : RationalRequests o) (h : analyzeWorkload exact policy f o = .ok result)
    (hout : result.outcome = .recommended) :
    ∃ draft cpu memory c bytes m,
      result.recommendation = some draft ∧
      percentiles exact o.cpuUsageCores = .ok cpu ∧
      percentiles exact o.memoryUsageBytes = .ok memory ∧
      draft.currentConfig = workloadConfig f o o.cpuRequestCores (.float o.memoryRequestBytes) ∧
      draft.recommendedConfig = workloadConfig f o (.finite c) bytes ∧ bytes.value = .finite m ∧
      Resized policy.minimumReductionFraction.toRat o.cpuRequestCores.toRat
        (cpuFloor policy cpu) c ∧
      Resized policy.minimumReductionFraction.toRat o.memoryRequestBytes.toRat
        (memoryFloor policy memory) m ∧
      (c < o.cpuRequestCores.toRat ∨ m < o.memoryRequestBytes.toRat) ∧
      (∀ a b, o.allocation.cpuCost = some (.finite a) → o.allocation.memoryCost = some (.finite b) →
        ∃ v, v = a * (1 - c / o.cpuRequestCores.toRat) + b * (1 - m / o.memoryRequestBytes.toRat) ∧
          draft.estimatedSavings.get? "value" = some (f.float (exact.roundTo 4 (.finite v))) ∧
          0 ≤ v ∧ v ≤ a + b) ∧
      (0 ≤ draft.riskScore ∧ draft.riskScore ≤ 100) ∧
      ∃ q, draft.confidence = .finite q ∧ 0 ≤ q ∧ q ≤ 1 := by
  obtain ⟨s, draft, hs, hreduced, hdraft, hresult⟩ := analyzeWorkload_inv h hout
  obtain ⟨hconfidence, hcurrent, hrecommended, hsavings⟩ := workloadDraft_inv hdraft
  obtain ⟨hcpu, hmemory, -⟩ := sizing_inv hs
  obtain ⟨c, m, hc, hm, hcshare, hmshare, hcpuResized, hmemoryResized⟩ :=
    sizing_exact hpolicy ho hs
  have hcpuPos := o.cpuRequestCores_gt.toRat_pos ho.cpuRequestCores
  have hmemoryPos := o.memoryRequestBytes_gt.toRat_pos ho.memoryRequestBytes
  have hcpuFloor : 0 ≤ cpuFloor policy s.cpu :=
    hpolicy.minimumCpuCores_nonneg.trans (le_max_right _ _)
  have hmemoryFloor : 0 ≤ memoryFloor policy s.memory :=
    (Int.cast_nonneg hpolicy.minimumMemoryBytes_nonneg).trans (le_max_right _ _)
  have hless : c < o.cpuRequestCores.toRat ∨ m < o.memoryRequestBytes.toRat := by
    by_contra hkept
    rw [not_or, not_lt, not_lt] at hkept
    have hceq := le_antisymm hcpuResized.below hkept.1
    have hmeq := le_antisymm hmemoryResized.below hkept.2
    refine hreduced ⟨?_, ?_⟩
    · rw [hcshare, hceq, div_self hcpuPos.ne', sub_self]
    · rw [hmshare, hmeq, div_self hmemoryPos.ne', sub_self]
  rw [hc] at hrecommended
  refine ⟨draft, s.cpu, s.memory, c, s.recommendedMemory, m, hresult, hcpu, hmemory, hcurrent,
    hrecommended, hm, hcpuResized, hmemoryResized, hless, ?_, draft.riskScore_mem,
    workloadConfidence_mem hconfidence⟩
  intro a b ha hb
  have hvalue : savings exact o.allocation s.cpuReduction s.memoryReduction =
      some (.finite (a * (1 - c / o.cpuRequestCores.toRat) +
        b * (1 - m / o.memoryRequestBytes.toRat))) := by
    rw [savings, ha, hb, hcshare, hmshare]
    rfl
  rw [hvalue] at hsavings
  exact ⟨_, rfl, hsavings, shares_mem (atLeast_zero.mp (o.allocation.cpuCost_ge _ ha))
    (atLeast_zero.mp (o.allocation.memoryCost_ge _ hb)) (hcpuResized.share_mem hcpuPos hcpuFloor)
    (hmemoryResized.share_mem hmemoryPos hmemoryFloor)⟩

end Recommendations

/-! ### A light workload -/

private theorem plain_digest_length (_ : String) : (String.ofList (List.replicate 64 '0')).length = 64 := by
  rw [String.length_ofList, List.length_replicate]

/-- Formats that write nothing of what they are given. -/
def plainFormats : Formats where
  repr _ := "0.0"
  isoformat _ := ""
  sha256 _ := String.ofList (List.replicate 64 '0')
  sha256_length := plain_digest_length

private theorem halfHour_ge : 60 ≤ 1800 := by omega

private theorem halfHour_pos : 0 < 1800000000 := by omega

/-- A window of half an hour that samples cover. -/
def halfHour : EvidenceWindow where
  start := 0
  stop := 1800000000
  requestedSeconds := 1800
  observedSeconds := 1800
  sampleCount := 1
  demoOriented := true
  requestedSeconds_ge := halfHour_ge
  start_lt := halfHour_pos

private theorem absent_ge : ∀ x ∈ (none : Option Double), AtLeast 0 x := by
  intro x hx
  cases hx

private theorem absent_gt : ∀ x ∈ (none : Option Double), Above 0 x := by
  intro x hx
  cases hx

private theorem dollars_length : 3 ≤ "USD".length ∧ "USD".length ≤ 8 := by decide

private theorem one_gt : Above 0 (.finite 1) := by decide

private theorem gibibyte_gt : Above 0 (.finite 1073741824) := by decide

private theorem api_named : Named "api" := by decide

/-- A workload of half an hour. -/
def plainWorkload {cpuRequest memoryRequest : Double} (hcpu : Above 0 cpuRequest)
    (hmemory : Above 0 memoryRequest) (cpu memory : UsageSeries) : WorkloadObservation where
  service := "api"
  environment := .staging
  ns := "api"
  deployment := "api"
  replicas := 1
  cpuRequestCores := cpuRequest
  cpuLimitCores := none
  memoryRequestBytes := memoryRequest
  memoryLimitBytes := none
  cpuUsageCores := cpu
  memoryUsageBytes := memory
  allocation := {
    totalCost_ge := absent_ge
    cpuCost_ge := absent_ge
    memoryCost_ge := absent_ge
    currency_length := dollars_length }
  window := halfHour
  sourceQueries := []
  service_named := api_named
  ns_named := api_named
  deployment_named := api_named
  replicas_ge := le_rfl
  cpuRequestCores_gt := hcpu
  cpuLimitCores_gt := absent_gt
  memoryRequestBytes_gt := hmemory
  memoryLimitBytes_gt := absent_gt

/-- A workload that requests a core and a gibibyte. -/
def lightWorkload (cpu memory : UsageSeries) : WorkloadObservation :=
  plainWorkload one_gt gibibyte_gt cpu memory

private theorem single_length (x : Double) : [x].length < 2 ^ 63 := by
  rw [List.length_singleton]
  omega

/-- A series of one sample. -/
def single (x : Double) : UsageSeries := { values := [x], values_length := single_length x }

private theorem percentiles_single (q : ℚ) (hq : 0 ≤ q) :
    percentiles exact (single (.finite q)) = .ok ⟨.finite q, .finite q, .finite q,
      atLeast_zero.mpr hq, atLeast_zero.mpr hq, atLeast_zero.mpr hq⟩ := by
  refine percentiles_of_usable_single _ ?_
  simp [single, usable, hq]

/-- The default policy, which takes one sample for enough. -/
def lenientPolicy : FinOpsPolicy := { FinOpsPolicy.default exact with minimumSamples := 1 }

private theorem lenientPolicy_sensible : Sensible lenientPolicy where
  cpuHeadroomFactor := rfl
  memoryHeadroomFactor := rfl
  minimumCpuCores := rfl
  minimumCpuCores_nonneg := by norm_num [lenientPolicy, FinOpsPolicy.default]
  minimumMemoryBytes_nonneg := by norm_num [lenientPolicy, FinOpsPolicy.default, mib]
  minimumReductionFraction := rfl
  minimumReductionFraction_pos := by norm_num [lenientPolicy, FinOpsPolicy.default]

private theorem lightWorkload_recommended :
    recommends (analyzeWorkload exact lenientPolicy plainFormats
      (lightWorkload (single (.finite (1 / 10))) (single (.finite 104857600)))) := by
  unfold analyzeWorkload sizing
  simp only [lightWorkload, plainWorkload, percentiles_single (1 / 10) (by norm_num),
    percentiles_single 104857600 (by norm_num)]
  decide +kernel

theorem analyzeWorkload_bounded_light :
    ∃ o result draft c bytes, analyzeWorkload exact lenientPolicy plainFormats o = .ok result ∧
      result.recommendation = some draft ∧
      draft.recommendedConfig = workloadConfig plainFormats o (.finite c) bytes ∧ c ≤ 1 := by
  obtain ⟨result, hresult, hout⟩ := recommends_iff.mp lightWorkload_recommended
  obtain ⟨draft, cpu, memory, c, bytes, m, hdraft, -, -, -, hconfig, -, hcpu, -⟩ :=
    analyzeWorkload_bounded plainFormats lenientPolicy_sensible ⟨rfl, rfl⟩ hresult hout
  exact ⟨_, result, draft, c, bytes, hresult, hdraft, hconfig, hcpu.below⟩

end CloudWard.Finops
