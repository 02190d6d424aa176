import CloudWard.Finops.Evidence

/-!
# The observation of a workload

`collect_workload`, `finops/providers.py:256`: once every response is read, an observation is made
unless an amount is zero, and its window is the overlap of the series rounded to whole seconds.
Together with what the readings need this decides when the evidence is an observation whose window
both series span, or a `CloudWardError`.
-/

namespace CloudWard.Finops

open CloudWard.Logic

/-- The opposite of a number rounds to the opposite. -/
def Symmetric (R : Rounding) : Prop := ∀ q r, R.round q = .finite r → R.round (-q) = .finite (-r)

variable {R : Rounding} {ofString : String → Option Double} {bound : SampleBound}

theorem settles_bind {α β : Type} (x : Except ProviderError α) (f : α → Except ProviderError β)
    (P : β → Prop) : Settles P (x >>= f) ↔ Settles (fun a ↦ Settles P (f a)) x :=
  concludes_bind x f P

/-! ### Amounts -/

/-- What a scalar that is read is. -/
theorem instantScalar_eq_ok {required : Bool} {payload : Fields} {x : Option Double}
    (h : instantScalar R ofString required payload = .ok x) :
    (∀ y ∈ x, ∃ q, y = .finite q ∧ 0 ≤ q) ∧ (required → x ≠ none) := by
  unfold instantScalar at h
  obtain ⟨value, hvalue, hx⟩ := bind_eq_ok h
  cases value with
  | none =>
    cases hx
    refine ⟨by simp, fun hrequired ↦ ?_⟩
    subst hrequired
    unfold scalarOf at hvalue
    obtain ⟨result, -, hscalar⟩ := bind_eq_ok hvalue
    split at hscalar
    · split at hscalar <;> cases hscalar
    · cases hscalar
    · cases hscalar
  | some value =>
    obtain ⟨y, hy, hx⟩ := bind_eq_ok hx
    split at hx
    · next z =>
      cases hx
      refine ⟨?_, by simp⟩
      intro w hw
      obtain rfl := Option.mem_some_iff.mp hw
      exact number_eq_some hy
    · cases hx

/-- A required scalar that is read is a number. -/
theorem exists_instantScalar {payload : Fields} {x : Option Double}
    (h : instantScalar R ofString true payload = .ok x) : ∃ q, x = some (.finite q) ∧ 0 ≤ q := by
  obtain ⟨hfinite, hsome⟩ := instantScalar_eq_ok h
  obtain ⟨y, rfl⟩ := Option.ne_none_iff_exists'.mp (hsome rfl)
  obtain ⟨q, rfl, hq⟩ := hfinite y rfl
  exact ⟨q, rfl, hq⟩

theorem above_zero_iff {q : ℚ} (hq : 0 ≤ q) : Above 0 (.finite q) ↔ Double.finite q ≠ .finite 0 := by
  unfold Above
  rw [Double.finite_le_finite, not_le]
  constructor
  · intro hlt heq
    cases heq
    exact lt_irrefl 0 hlt
  · intro hne
    exact lt_of_le_of_ne hq fun heq ↦ hne (by rw [← heq])

theorem above_orZero_iff {payload : Fields} {x : Option Double}
    (h : instantScalar R ofString true payload = .ok x) :
    Above 0 (orZero x) ↔ x ≠ some (.finite 0) := by
  obtain ⟨q, rfl, hq⟩ := exists_instantScalar h
  rw [ne_eq, Option.some_inj]
  exact above_zero_iff hq

theorem above_limit_iff {payload : Fields} {x : Option Double}
    (h : instantScalar R ofString false payload = .ok x) :
    (∀ y ∈ x, Above 0 y) ↔ x ≠ some (.finite 0) := by
  obtain ⟨hfinite, -⟩ := instantScalar_eq_ok h
  cases x with
  | none => simp
  | some y =>
    obtain ⟨q, rfl, hq⟩ := hfinite y rfl
    rw [ne_eq, Option.some_inj, ← ne_eq, ← above_zero_iff hq]
    simp

/-! ### Whole seconds -/

private theorem exists_round {q : ℚ} (hq : 0 ≤ q) (hle : q ≤ 2 ^ 64) :
    ∃ r, R.round q = .finite r := by
  obtain ⟨m, hm, -⟩ := R.close (2 ^ 64) (by norm_num) le_rfl
  obtain ⟨r, hr, -⟩ := R.exists_round_of_mem R.round_zero hm hq hle
  exact ⟨r, hr⟩

/-- An overlap has whole seconds. -/
theorem exists_wholeSeconds (hsymmetric : Symmetric R) {us : ℤ} (hlow : -endOfDates ≤ us)
    (hhigh : us ≤ endOfDates) : ∃ seconds, wholeSeconds R us = .ok seconds := by
  have hround : ∃ r, R.round ((us : ℚ) / (10 ^ 6 : ℤ)) = .finite r := by
    have hend : ((endOfDates : ℤ) : ℚ) / (10 ^ 6 : ℤ) ≤ 2 ^ 64 := by
      norm_num [endOfDates]
    have hscale : (0 : ℚ) ≤ (10 ^ 6 : ℤ) := by norm_num
    rcases le_total 0 us with hpos | hneg
    · refine exists_round (div_nonneg (Int.cast_nonneg hpos) hscale) (le_trans ?_ hend)
      exact div_le_div_of_nonneg_right (Int.cast_le.mpr hhigh) hscale
    · obtain ⟨r, hr⟩ := exists_round (R := R) (q := ((-us : ℤ) : ℚ) / (10 ^ 6 : ℤ))
        (div_nonneg (Int.cast_nonneg (by omega)) hscale)
        ((div_le_div_of_nonneg_right (Int.cast_le.mpr (by omega)) hscale).trans hend)
      have hopposite := hsymmetric _ _ hr
      rw [Int.cast_neg, neg_div, neg_neg] at hopposite
      exact ⟨-r, hopposite⟩
  obtain ⟨r, hr⟩ := hround
  refine ⟨roundHalfEven r, ?_⟩
  have hdiv : R.divInt us (10 ^ 6) = .ok (.finite r) :=
    (R.divInt_eq_ok (by norm_num)).mpr ⟨hr, r, rfl⟩
  unfold wholeSeconds
  rw [hdiv]
  rfl

theorem exists_samplesIn_time {payload : Fields} {samples : List (Nat × Double)}
    (h : samplesIn R ofString bound payload = .ok samples) {sample : Nat × Double}
    (hmem : sample ∈ samples) : (sample.1 : ℤ) < endOfDates := by
  obtain ⟨raw, -, hsamples⟩ := bind_eq_ok h
  obtain ⟨item, -, hitem⟩ := exists_sampleOf hsamples hmem
  exact time_lt_of_sampleOf hitem

/-! ### Overlaps -/

section Overlap

variable {responses : WorkloadResponses} {cpuUsage memoryUsage : UsageSeries}

theorem Spans.mono {samples : List (Nat × Double)} {m n : ℤ} (h : Spans samples n) (hmn : m ≤ n) :
    Spans samples m := by
  obtain ⟨first, hfirst, last, hlast, hle⟩ := h
  exact ⟨first, hfirst, last, hlast, by omega⟩

theorem BothSpan.mono {m n : ℤ} (h : BothSpan R ofString bound responses n) (hmn : m ≤ n) :
    BothSpan R ofString bound responses m :=
  fun samples hsamples ↦ (h samples hsamples).mono hmn

variable (hcpu : rangeQuery R ofString bound responses.cpuUsage = .ok cpuUsage)
  (hmemory : rangeQuery R ofString bound responses.memoryUsage = .ok memoryUsage)

include hcpu hmemory

/-- The overlap of two series, which both span. -/
theorem exists_overlap : ∃ us, overlap cpuUsage memoryUsage = some us ∧ -endOfDates ≤ us ∧
    us ≤ endOfDates ∧ ∀ seconds : ℤ, seconds ≤ 0 ∨ seconds * 10 ^ 6 ≤ us →
      BothSpan R ofString bound responses seconds := by
  obtain ⟨samples, first, last, hin, hfirst, hlast, hstart, hstop⟩ := exists_samplesIn hcpu
  obtain ⟨samples', first', last', hin', hfirst', hlast', hstart', hstop'⟩ :=
    exists_samplesIn hmemory
  have htime := exists_samplesIn_time hin hfirst
  have htime' := exists_samplesIn_time hin' hfirst'
  have htime'' := exists_samplesIn_time hin hlast
  refine ⟨min (last.1 : ℤ) last'.1 - max (first.1 : ℤ) first'.1, ?_, by omega, by omega, ?_⟩
  · unfold overlap
    rw [hstart, hstop, hstart', hstop']
  · intro seconds hseconds found hfound
    rcases hfound with hfound | hfound
    · rw [hin] at hfound
      cases hfound
      rcases hseconds with hle | hle
      · exact ⟨first, hfirst, first, hfirst, by omega⟩
      · exact ⟨first, hfirst, last, hlast, by omega⟩
    · rw [hin'] at hfound
      cases hfound
      rcases hseconds with hle | hle
      · exact ⟨first', hfirst', first', hfirst', by omega⟩
      · exact ⟨first', hfirst', last', hlast', by omega⟩

/-- The window that is observed is spanned where the overlap is not rounded beyond the series. -/
theorem exists_overlapSeconds (hsymmetric : Symmetric R) :
    ∃ observed, overlapSeconds R cpuUsage memoryUsage = .ok observed ∧
      (BothSpan R ofString bound responses observed ↔
        RoundsWithin R ofString bound responses cpuUsage memoryUsage) := by
  obtain ⟨us, hus, hlow, hhigh, hspan⟩ := exists_overlap hcpu hmemory
  obtain ⟨seconds, hseconds⟩ := exists_wholeSeconds hsymmetric hlow hhigh
  refine ⟨seconds.toNat, ?_, ?_, ?_⟩
  · unfold overlapSeconds
    rw [hus]
    dsimp only
    rw [hseconds]
    rfl
  · intro hboth us' seconds' hus' hseconds' _
    rw [hus] at hus'
    cases hus'
    rw [hseconds] at hseconds'
    cases hseconds'
    exact hboth.mono (by omega)
  · intro hrounds
    by_cases hzero : seconds ≤ 0
    · exact hspan _ (.inl (by omega))
    · by_cases hup : us < seconds * 10 ^ 6
      · exact (hrounds us seconds hus hseconds hup).mono (by omega)
      · exact hspan _ (.inr (by omega))

end Overlap

/-! ### Observations -/

section Observation

variable {request : WorkloadRequest} {responses : WorkloadResponses}
  {cpuUsage memoryUsage : UsageSeries}
  {cpuRequests memoryRequests cpuLimits memoryLimits replicas : Option Double}

/-- What is read of the responses is an observation whose window both series span if and only if
it can be observed. -/
theorem settles_observe (hsymmetric : Symmetric R) (allocation : CostAllocation)
    (hcpu : rangeQuery R ofString bound responses.cpuUsage = .ok cpuUsage)
    (hmemory : rangeQuery R ofString bound responses.memoryUsage = .ok memoryUsage)
    (hcpuRequests : instantScalar R ofString true responses.cpuRequests = .ok cpuRequests)
    (hmemoryRequests : instantScalar R ofString true responses.memoryRequests = .ok memoryRequests)
    (hcpuLimits : instantScalar R ofString false responses.cpuLimits = .ok cpuLimits)
    (hmemoryLimits : instantScalar R ofString false responses.memoryLimits = .ok memoryLimits)
    (hreplicas : instantScalar R ofString true responses.replicas = .ok replicas) :
    Settles (fun o ↦ BothSpan R ofString bound responses o.window.observedSeconds)
      (observe R request allocation cpuUsage memoryUsage cpuRequests memoryRequests cpuLimits
        memoryLimits replicas) ↔
      Observable R ofString bound request responses cpuUsage memoryUsage cpuRequests memoryRequests
        cpuLimits memoryLimits := by
  obtain ⟨observed, hobserved, hwithin⟩ := exists_overlapSeconds hcpu hmemory hsymmetric
  obtain ⟨q, rfl, -⟩ := exists_instantScalar hreplicas
  have hcount : (orZero (some (.finite q))).nearest.mapError ProviderError.arithmetic =
      .ok (roundHalfEven q) := rfl
  have hreplicas : 1 ≤ (max 1 (roundHalfEven q)).toNat := by omega
  rw [observe, hobserved, ok_bind, hcount, ok_bind, WorkloadObservation.create]
  split
  · next hcreate =>
    obtain ⟨hdeployment, hns, -, hcpu, hcpuLimit, hmemory, hmemoryLimit⟩ := hcreate
    refine hwithin.trans ⟨fun hrounds ↦ ?_, fun h ↦ h.roundsWithin⟩
    exact {
      deployment_named := hdeployment
      ns_named := hns
      cpuRequests_ne := (above_orZero_iff hcpuRequests).mp hcpu
      memoryRequests_ne := (above_orZero_iff hmemoryRequests).mp hmemory
      cpuLimits_ne := (above_limit_iff hcpuLimits).mp hcpuLimit
      memoryLimits_ne := (above_limit_iff hmemoryLimits).mp hmemoryLimit
      roundsWithin := hrounds }
  · next hcreate =>
    refine ⟨fun h ↦ absurd h (by simp [ProviderError.isCloudWard]), fun h ↦ absurd ?_ hcreate⟩
    exact ⟨h.deployment_named, h.ns_named, hreplicas,
      (above_orZero_iff hcpuRequests).mpr h.cpuRequests_ne,
      (above_limit_iff hcpuLimits).mpr h.cpuLimits_ne,
      (above_orZero_iff hmemoryRequests).mpr h.memoryRequests_ne,
      (above_limit_iff hmemoryLimits).mpr h.memoryLimits_ne⟩

end Observation

section Reading

variable (ofString bound) (request : WorkloadRequest) (costs : Fields)
  (responses : WorkloadResponses)

/-- The evidence of a workload is an observation or a `CloudWardError` where it is readable. -/
private theorem evident_iff (hsymmetric : Symmetric R) :
    Evident R ofString bound request costs responses ↔
      Readable R ofString bound request costs responses := by
  have hsettles : Evident R ofString bound request costs responses ↔
      Settles (fun o ↦ BothSpan R ofString bound responses o.window.observedSeconds)
        (readWorkload R ofString bound request costs responses) := by
    rw [Settles, concludes_iff]
    exact ⟨fun h ↦ ⟨h.total, h.within⟩, fun h ↦ ⟨h.1, h.2⟩⟩
  rw [hsettles, readWorkload, settles_bind, settles_workloadAllocation, Readable]
  refine requires_congr fun allocation _ ↦ ?_
  rw [collectWorkload, settles_bind, settles_rangeQuery]
  refine requires_congr fun cpuUsage hcpu ↦ ?_
  rw [settles_bind, settles_rangeQuery]
  refine requires_congr fun memoryUsage hmemory ↦ ?_
  rw [settles_bind, settles_instantScalar]
  refine requires_congr fun cpuRequests hcpuRequests ↦ ?_
  rw [settles_bind, settles_instantScalar]
  refine requires_congr fun memoryRequests hmemoryRequests ↦ ?_
  rw [settles_bind, settles_instantScalar]
  refine requires_congr fun cpuLimits hcpuLimits ↦ ?_
  rw [settles_bind, settles_instantScalar]
  refine requires_congr fun memoryLimits hmemoryLimits ↦ ?_
  rw [settles_bind, settles_instantScalar]
  refine requires_congr fun replicas hreplicas ↦ ?_
  exact settles_observe hsymmetric allocation hcpu hmemory hcpuRequests hmemoryRequests hcpuLimits
    hmemoryLimits hreplicas

end Reading

/-- **Reading evidence is total, and its window is spanned**, if and only if what is read fits: no
integer is too large for a float and no time after the year 9999 unless a response before is
refused, no request or limit is zero, and the overlap of the series is not rounded up to seconds
that one of them does not span. -/
theorem readWorkload_evident_iff (ofString : String → Option Double) (bound : SampleBound)
    (request : WorkloadRequest) (costs : Fields) (responses : WorkloadResponses) :
    Evident binary64 ofString bound request costs responses ↔
      Readable binary64 ofString bound request costs responses :=
  evident_iff ofString bound request costs responses fun _ _ ↦ binary64_round_neg

/-! ### Responses that are not read -/

/-- A response with one value. -/
def vector (value : Decoded) : Fields := [
  ("status", .string "success"),
  ("data", .object [
    ("resultType", .string "vector"),
    ("result", .list [.object [("value", .list [.int 1800, value])]])])]

/-- A response with one series, of two samples of one. -/
def matrix (first last : Decoded) : Fields := [
  ("status", .string "success"),
  ("data", .object [
    ("resultType", .string "matrix"),
    ("result", .list [.object [("values",
      .list [.list [first, .int 1], .list [last, .int 1]])]])])]

/-- The responses for a workload of one replica, with a CPU request. -/
def demoResponses (first last cpuRequest : Decoded) : WorkloadResponses where
  cpuUsage := matrix first last
  memoryUsage := matrix first last
  cpuRequests := vector cpuRequest
  memoryRequests := vector (.int 1)
  cpuLimits := vector (.int 1)
  memoryLimits := vector (.int 1)
  replicas := vector (.int 1)

private theorem demo_window : 900 ≤ 1800 ∧ 1800 ≤ 86400 := by decide

private theorem demo_clock : 1800 * 10 ^ 6 ≤ 1800 * 10 ^ 6 := le_rfl

private theorem demo_bound : 10 ≤ 1000 ∧ 1000 ≤ 5000 := by decide

/-- The workload of the demo. -/
def demoRequest : WorkloadRequest where
  ns := "cloudward-staging"
  deployment := "cloudward-demo"
  podPattern := "cloudward-demo-.*"
  environment := .staging
  windowSeconds := 1800
  now := 1800 * 10 ^ 6
  windowSeconds_mem := demo_window
  window_le := demo_clock

/-- The default bound of a series. -/
def demoBound : SampleBound where
  maxSamples := 1000
  maxSamples_mem := demo_bound

/-- An allocation of the demo. -/
def demoCosts (cost : Decoded) : Fields :=
  [("data", .list [.object [("cloudward-staging/cloudward-demo", .object [("totalCost", cost)])]])]

/-- What a reading of the demo raises. -/
def demoError (cost first last cpuRequest : Decoded) : Option ProviderError :=
  match readWorkload binary64 (fun _ ↦ none) demoBound demoRequest (demoCosts cost)
    (demoResponses first last cpuRequest) with
  | .ok _ => none
  | .error e => some e

private theorem not_evident_of_error {cost first last cpuRequest : Decoded} {e : ProviderError}
    (h : demoError cost first last cpuRequest = some e) (he : ¬ e.isCloudWard) :
    ¬ Evident binary64 (fun _ ↦ none) demoBound demoRequest (demoCosts cost)
      (demoResponses first last cpuRequest) := by
  intro hevident
  unfold demoError at h
  split at h
  · cases h
  · next error herror =>
    cases h
    exact he (hevident.total _ herror)

/-- The seconds that a reading of the demo observes. -/
def demoSeconds (first last : Decoded) : Option Nat :=
  (readWorkload binary64 (fun _ ↦ none) demoBound demoRequest (demoCosts (.int 1))
    (demoResponses first last (.int 1))).toOption.map (·.window.observedSeconds)

private theorem not_evident_of_seconds {first last : Decoded} {start stop seconds : Nat}
    (h : demoSeconds first last = some seconds)
    (hin : samplesIn binary64 (fun _ ↦ none) demoBound (matrix first last) =
      .ok [(start, .finite 1), (stop, .finite 1)]) (hlt : stop < start + seconds * 10 ^ 6)
    (hle : start ≤ stop) :
    ¬ Evident binary64 (fun _ ↦ none) demoBound demoRequest (demoCosts (.int 1))
      (demoResponses first last (.int 1)) := by
  intro hevident
  obtain ⟨o, ho, hseconds⟩ := Option.map_eq_some_iff.mp h
  cases hread : readWorkload binary64 (fun _ ↦ none) demoBound demoRequest (demoCosts (.int 1))
    (demoResponses first last (.int 1)) with
  | error e =>
    rw [hread] at ho
    cases ho
  | ok found =>
    rw [hread] at ho
    cases ho
    obtain ⟨a, ha, b, hb, hspan⟩ := hevident.within o hread _ (.inl hin)
    rw [hseconds] at hspan
    simp only [List.mem_cons, List.not_mem_nil, or_false] at ha hb
    rcases ha with rfl | rfl
    · rcases hb with rfl | rfl
      · dsimp only at hspan
        omega
      · dsimp only at hspan
        omega
    · rcases hb with rfl | rfl
      · dsimp only at hspan
        omega
      · dsimp only at hspan
        omega

/-- A request of zero, a cost of four hundred digits and a time in the year 10000 raise what is no
`CloudWardError`, and an overlap of five eighths of a second is observed as a whole one. -/
theorem readWorkload_not_evident :
    ¬ Evident binary64 (fun _ ↦ none) demoBound demoRequest (demoCosts (.int 1))
        (demoResponses (.int 0) (.int 1800) (.int 0)) ∧
      ¬ Evident binary64 (fun _ ↦ none) demoBound demoRequest (demoCosts (.int (10 ^ 400)))
        (demoResponses (.int 0) (.int 1800) (.int 1)) ∧
      ¬ Evident binary64 (fun _ ↦ none) demoBound demoRequest (demoCosts (.int 1))
        (demoResponses (.int 0) (.int 253402300800) (.int 1)) ∧
      ¬ Evident binary64 (fun _ ↦ none) demoBound demoRequest (demoCosts (.int 1))
        (demoResponses (.int 0) (.number (.finite (5 / 8))) (.int 1)) := by
  refine ⟨?_, ?_, ?_, ?_⟩
  · exact not_evident_of_error (e := .validationError) (by decide +kernel) (by decide)
  · exact not_evident_of_error (e := .arithmetic .overflowError) (by decide +kernel) (by decide)
  · exact not_evident_of_error (e := .dateRange) (by decide +kernel) (by decide)
  · have hseconds : demoSeconds (.int 0) (.number (.finite (5 / 8))) = some 1 := by decide +kernel
    have hin : samplesIn binary64 (fun _ ↦ none) demoBound
        (matrix (.int 0) (.number (.finite (5 / 8)))) =
          .ok [(0, .finite 1), (625000, .finite 1)] := by
      decide +kernel
    exact not_evident_of_seconds hseconds hin (by norm_num) (by norm_num)

end CloudWard.Finops
