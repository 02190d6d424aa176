import CloudWard.Finops.Providers
import CloudWard.Logic.Binary64
import CloudWard.Logic.Interpolation

/-!
# Reading the evidence of a workload

`finops/providers.py`: when what is read of the responses is an observation or a `CloudWardError`,
and its window is one that both series span. A number that `float` cannot take, a time after the
year 9999 and an amount of zero raise something else, unless a response before is refused, and the
overlap of the series is rounded to whole seconds.
-/

namespace CloudWard.Finops

open CloudWard.Logic

/-- A result is of a kind, or a `CloudWardError`. -/
abbrev Settles {α : Type} (P : α → Prop) (x : Except ProviderError α) : Prop :=
  Concludes (fun e ↦ e.isCloudWard) P x

section Reading

variable (R : Rounding) (ofString : String → Option Double) (bound : SampleBound)

/-- A value is no integer that is too large for a float. -/
def Fits (value : Decoded) : Prop := ∀ n, value = .int n → (R.round n).isFinite

/-- The costs of an allocation are no integers that are too large. -/
def CostsFit (allocation : Fields) : Prop :=
  Fits R (field allocation "totalCost") ∧ Fits R (field allocation "cpuCost") ∧
    Fits R (field allocation "ramCost")

/-- The value of a response is no integer that is too large. -/
def ScalarFits (required : Bool) (payload : Fields) : Prop :=
  ∀ value, scalarOf required payload = .ok (some value) → Fits R value

/-- A timestamp is before the year 10000. -/
def Dated (x : Double) : Prop := ∀ us, microsecondsOf R x = .ok us → us < endOfDates

/-- The timestamp and the value of a point are no integers that are too large, and where both are
numbers the time is before the year 10000. -/
def PointFits (item : Decoded) : Prop :=
  ∀ timestamp value, item = .list [timestamp, value] → Fits R timestamp ∧ Fits R value ∧
    ∀ x y, number R ofString timestamp = .ok (some x) → number R ofString value = .ok (some y) →
      Dated R x

/-- The points of a response fit. -/
def SeriesFits (payload : Fields) : Prop :=
  ∀ raw, pointsOf bound payload = .ok raw → ∀ item ∈ raw, PointFits R ofString item

/-- The samples of a response. -/
def samplesIn (payload : Fields) : Except ProviderError (List (Nat × Double)) := do
  let raw ← pointsOf bound payload
  samplesOf R ofString raw

/-- The earliest and the latest sample are some seconds apart. -/
def Spans (samples : List (Nat × Double)) (seconds : ℤ) : Prop :=
  ∃ first ∈ samples, ∃ last ∈ samples, (first.1 : ℤ) + seconds * 10 ^ 6 ≤ last.1

/-- The samples of both series of a workload are some seconds apart. -/
def BothSpan (responses : WorkloadResponses) (seconds : ℤ) : Prop :=
  ∀ samples, samplesIn R ofString bound responses.cpuUsage = .ok samples ∨
    samplesIn R ofString bound responses.memoryUsage = .ok samples → Spans samples seconds

/-- What is read of a workload is an observation whose window both series span, or a
`CloudWardError`. -/
structure Evident (request : WorkloadRequest) (costs : Fields) (responses : WorkloadResponses) :
    Prop where
  total : ∀ e, readWorkload R ofString bound request costs responses = .error e → e.isCloudWard
  within : ∀ o, readWorkload R ofString bound request costs responses = .ok o →
    BothSpan R ofString bound responses o.window.observedSeconds

/-- The overlap of two series is not rounded up, or to seconds that both series span. -/
def RoundsWithin (responses : WorkloadResponses) (cpuUsage memoryUsage : UsageSeries) : Prop :=
  ∀ us seconds, overlap cpuUsage memoryUsage = some us → wholeSeconds R us = .ok seconds →
    us < seconds * 10 ^ 6 → BothSpan R ofString bound responses seconds

/-- What is read of the responses can be observed: no amount is zero, and the overlap is rounded
within the series. -/
structure Observable (request : WorkloadRequest) (responses : WorkloadResponses)
    (cpuUsage memoryUsage : UsageSeries)
    (cpuRequests memoryRequests cpuLimits memoryLimits : Option Double) : Prop where
  deployment_named : Named request.deployment
  ns_named : Named request.ns
  cpuRequests_ne : cpuRequests ≠ some (.finite 0)
  memoryRequests_ne : memoryRequests ≠ some (.finite 0)
  cpuLimits_ne : cpuLimits ≠ some (.finite 0)
  memoryLimits_ne : memoryLimits ≠ some (.finite 0)
  roundsWithin : RoundsWithin R ofString bound responses cpuUsage memoryUsage

/-- Every response that is read fits, in the order in which they are read, and if all are read
they can be observed. -/
def Readable (request : WorkloadRequest) (costs : Fields) (responses : WorkloadResponses) : Prop :=
  Requires (∀ allocation, findAllocation request.ns request.deployment costs = .ok allocation →
      CostsFit R allocation)
    (workloadAllocation R ofString request.ns request.deployment costs) fun _ ↦
  Requires (SeriesFits R ofString bound responses.cpuUsage)
    (rangeQuery R ofString bound responses.cpuUsage) fun cpuUsage ↦
  Requires (SeriesFits R ofString bound responses.memoryUsage)
    (rangeQuery R ofString bound responses.memoryUsage) fun memoryUsage ↦
  Requires (ScalarFits R true responses.cpuRequests)
    (instantScalar R ofString true responses.cpuRequests) fun cpuRequests ↦
  Requires (ScalarFits R true responses.memoryRequests)
    (instantScalar R ofString true responses.memoryRequests) fun memoryRequests ↦
  Requires (ScalarFits R false responses.cpuLimits)
    (instantScalar R ofString false responses.cpuLimits) fun cpuLimits ↦
  Requires (ScalarFits R false responses.memoryLimits)
    (instantScalar R ofString false responses.memoryLimits) fun memoryLimits ↦
  Requires (ScalarFits R true responses.replicas)
    (instantScalar R ofString true responses.replicas) fun _ ↦
  Observable R ofString bound request responses cpuUsage memoryUsage cpuRequests memoryRequests
    cpuLimits memoryLimits

end Reading

variable {R : Rounding} {ofString : String → Option Double} {bound : SampleBound}

/-! ### Numbers -/

/-- What `float` raises. -/
theorem number_error {value : Decoded} {e : ProviderError} (h : number R ofString value = .error e) :
    ¬ e.isCloudWard ∧ ¬ Fits R value := by
  unfold number at h
  cases hfloat : float R ofString value with
  | ok x =>
    rw [hfloat] at h
    cases h
  | error error =>
    rw [hfloat] at h
    cases h
    refine ⟨by simp [ProviderError.isCloudWard], fun hfits ↦ ?_⟩
    cases value with
    | int n =>
      have hok : float R ofString (.int n) = .ok (some (R.round n)) := by
        show (R.ofInt n).map some = _
        rw [Rounding.ofInt, R.fitting_of_isFinite (hfits n rfl)]
        rfl
      rw [hok] at hfloat
      cases hfloat
    | _ => cases hfloat

theorem fits_of_number_ok {value : Decoded} {x : Option Double}
    (h : number R ofString value = .ok x) : Fits R value := by
  rintro n rfl
  by_contra hlarge
  have herror : float R ofString (.int n) = .error .overflowError := by
    show (R.ofInt n).map some = _
    rw [Rounding.ofInt, Rounding.fitting, if_neg hlarge]
    rfl
  unfold number at h
  rw [herror] at h
  cases h

/-- A number that is read is finite and not negative. -/
theorem number_eq_some {value : Decoded} {x : Double}
    (h : number R ofString value = .ok (some x)) : ∃ q, x = .finite q ∧ 0 ≤ q := by
  unfold number at h
  cases hfloat : float R ofString value with
  | error e =>
    rw [hfloat] at h
    cases h
  | ok y =>
    rw [hfloat] at h
    have hfilter : y.filter (fun x ↦ x.isFinite ∧ .finite 0 ≤ x) = some x := Except.ok.inj h
    obtain ⟨-, hx⟩ := Option.filter_eq_some_iff.mp hfilter
    obtain ⟨hfinite, hle⟩ := of_decide_eq_true hx
    obtain ⟨q, rfl⟩ := Double.isFinite_iff.mp hfinite
    exact ⟨q, rfl, hle⟩

theorem settles_number (value : Decoded) :
    Settles (fun _ ↦ True) (number R ofString value) ↔ Fits R value := by
  cases h : number R ofString value with
  | error e => simp [(number_error h).1, (number_error h).2]
  | ok x => simp [fits_of_number_ok h]

/-- A number that is read is not below zero. -/
theorem atLeast_of_number {value : Decoded} {x : Option Double}
    (h : number R ofString value = .ok x) : ∀ y ∈ x, AtLeast 0 y := by
  rintro y rfl
  obtain ⟨q, rfl, hq⟩ := number_eq_some h
  unfold AtLeast
  rw [Double.finite_lt_finite]
  exact not_lt_of_ge hq

/-! ### Allocations -/

theorem settles_costOf (allocation : Fields) :
    Settles (fun _ ↦ True) (costOf R ofString allocation) ↔ CostsFit R allocation := by
  simp only [Settles, costOf, concludes_bind, CostsFit]
  cases htotal : number R ofString (field allocation "totalCost") with
  | error e => simp [number_error htotal]
  | ok total =>
    rw [concludes_ok]
    cases hcpu : number R ofString (field allocation "cpuCost") with
    | error e => simp [number_error hcpu]
    | ok cpu =>
      rw [concludes_ok]
      cases hmemory : number R ofString (field allocation "ramCost") with
      | error e => simp [number_error hmemory]
      | ok memory =>
        have hbounds : (∀ x ∈ total, AtLeast 0 x) ∧ (∀ x ∈ cpu, AtLeast 0 x) ∧
            ∀ x ∈ memory, AtLeast 0 x :=
          ⟨atLeast_of_number htotal, atLeast_of_number hcpu, atLeast_of_number hmemory⟩
        rw [concludes_ok, CostAllocation.create, dif_pos hbounds, concludes_ok]
        simp [fits_of_number_ok htotal, fits_of_number_ok hcpu, fits_of_number_ok hmemory]

/-- No allocation is found, or one is. -/
theorem findAllocation_error {ns deployment : String} {payload : Fields} {e : ProviderError}
    (h : findAllocation ns deployment payload = .error e) : e.isCloudWard := by
  have hsettles : Settles (fun _ ↦ True) (findAllocation ns deployment payload) := by
    unfold findAllocation allocations
    rw [Settles, concludes_bind]
    split
    · split
      · rw [concludes_ok]
        split
        · trivial
        · rfl
      · rfl
    · rfl
  rw [h] at hsettles
  exact hsettles

theorem settles_workloadAllocation (ns deployment : String) (payload : Fields)
    (P : CostAllocation → Prop) :
    Settles P (workloadAllocation R ofString ns deployment payload) ↔
      Requires (∀ allocation, findAllocation ns deployment payload = .ok allocation →
        CostsFit R allocation) (workloadAllocation R ofString ns deployment payload) P := by
  apply concludes_iff_requires
  rw [workloadAllocation, concludes_bind]
  cases h : findAllocation ns deployment payload with
  | error e => simpa using findAllocation_error h
  | ok allocation =>
    rw [concludes_ok]
    simpa using settles_costOf allocation

/-! ### Scalars -/

theorem settles_resultOf (expected : String) (payload : Fields) :
    Settles (fun _ ↦ True) (resultOf expected payload) := by
  unfold resultOf
  split
  · split
    · split
      · split
        · trivial
        · rfl
      · rfl
    · rfl
  · rfl

theorem scalarOf_error {required : Bool} {payload : Fields} {e : ProviderError}
    (h : scalarOf required payload = .error e) : e.isCloudWard := by
  have hsettles : Settles (fun _ ↦ True) (scalarOf required payload) := by
    have hresult := settles_resultOf "vector" payload
    rw [scalarOf, Settles, concludes_bind]
    cases hok : resultOf "vector" payload with
    | error e =>
      rw [hok] at hresult
      exact hresult
    | ok result =>
      rw [concludes_ok]
      split
      · split
        · trivial
        · rfl
      · split
        · rfl
        · trivial
      · rfl
  rw [h] at hsettles
  exact hsettles

theorem settles_instantScalar (required : Bool) (payload : Fields) (P : Option Double → Prop) :
    Settles P (instantScalar R ofString required payload) ↔
      Requires (ScalarFits R required payload) (instantScalar R ofString required payload) P := by
  apply concludes_iff_requires
  rw [instantScalar, concludes_bind]
  unfold ScalarFits
  cases h : scalarOf required payload with
  | error e => simpa using scalarOf_error h
  | ok value =>
    rw [concludes_ok]
    cases value with
    | none => simp [pure, Except.pure]
    | some value =>
      dsimp only
      rw [concludes_bind]
      cases hnumber : number R ofString value with
      | error e => simp [number_error hnumber]
      | ok x =>
        rw [concludes_ok]
        cases x with
        | none => simpa [throw, throwThe, MonadExceptOf.throw, ProviderError.isCloudWard] using fits_of_number_ok hnumber
        | some x => simpa [pure, Except.pure] using fits_of_number_ok hnumber

/-! ### Series -/

theorem pointsOf_error {payload : Fields} {e : ProviderError}
    (h : pointsOf bound payload = .error e) : e.isCloudWard := by
  have hsettles : Settles (fun _ ↦ True) (pointsOf bound payload) := by
    have hresult := settles_resultOf "matrix" payload
    rw [pointsOf, Settles, concludes_bind]
    cases hok : resultOf "matrix" payload with
    | error e =>
      rw [hok] at hresult
      exact hresult
    | ok result =>
      rw [concludes_ok]
      split
      · split
        · split
          · rfl
          · trivial
        · rfl
      · rfl
  rw [h] at hsettles
  exact hsettles

/-- A timestamp that is read has microseconds. -/
theorem exists_microsecondsOf (R : Rounding) {q : ℚ} (hq : 0 ≤ q) :
    ∃ us, microsecondsOf R (.finite q) = .ok us ∧ 0 ≤ us := by
  obtain ⟨hzero, hone⟩ := fract_mem q
  obtain ⟨r, hr, hr0, hr1⟩ := R.round_mem_unit hzero hone
  obtain ⟨m, hm, hmclose⟩ := R.close (10 ^ 6) (by norm_num) (by norm_num)
  have hm0 : 0 ≤ m := by
    have hlow := (abs_le.mp hmclose).1
    norm_num at hlow
    linarith
  obtain ⟨x, hx, hx0, -⟩ := R.exists_round_of_mem R.round_zero (R.round_round hm)
    (mul_nonneg hr0 hm0) (mul_le_of_le_one_left hm0 hr1)
  refine ⟨⌊q⌋ * 10 ^ 6 + roundHalfEven x, ?_, ?_⟩
  · unfold microsecondsOf
    rw [show (Double.finite q).floor = .ok ⌊q⌋ from rfl, ok_bind, Rounding.sub_finite, hr, hm,
      Rounding.mul_finite, hx]
    rfl
  · have hfloor := Int.floor_nonneg.mpr hq
    have hround : 0 ≤ roundHalfEven x := le_roundHalfEven_of_le (by simpa using hx0)
    omega

theorem fromTimestamp_error {x : Double} {e : ProviderError}
    (h : fromTimestamp R x = .error e) : ¬ e.isCloudWard := by
  unfold fromTimestamp at h
  cases hus : microsecondsOf R x with
  | error error =>
    rw [hus] at h
    cases h
    simp [ProviderError.isCloudWard]
  | ok us =>
    rw [hus] at h
    simp only [Except.mapError, ok_bind] at h
    split at h
    · cases h
    · cases h
      simp [ProviderError.isCloudWard]

theorem settles_fromTimestamp {q : ℚ} (hq : 0 ≤ q) :
    Settles (fun _ ↦ True) (fromTimestamp R (.finite q)) ↔ Dated R (.finite q) := by
  obtain ⟨us, hus, -⟩ := exists_microsecondsOf R hq
  unfold fromTimestamp Dated
  rw [hus]
  simp only [Except.mapError, ok_bind]
  split
  · next hlt =>
    simp only [pure, Except.pure, concludes_ok, true_iff]
    intro us' hus'
    cases hus'
    exact hlt
  · next hge =>
    simp only [throw, throwThe, MonadExceptOf.throw, concludes_error]
    constructor
    · intro h
      cases h
    · intro h
      exact absurd (h us rfl) hge

theorem sampleOf_error {item : Decoded} {e : ProviderError}
    (h : sampleOf R ofString item = .error e) : ¬ e.isCloudWard := by
  unfold sampleOf at h
  split at h
  · next timestamp value =>
    cases htimestamp : number R ofString timestamp with
    | error e' =>
      rw [htimestamp] at h
      cases h
      exact (number_error htimestamp).1
    | ok x =>
      cases hvalue : number R ofString value with
      | error e' =>
        rw [htimestamp, ok_bind, hvalue] at h
        cases h
        exact (number_error hvalue).1
      | ok y =>
        rw [htimestamp, ok_bind, hvalue, ok_bind] at h
        split at h
        · next a b =>
          cases hfrom : fromTimestamp R a with
          | error e' =>
            rw [hfrom] at h
            cases h
            exact fromTimestamp_error hfrom
          | ok time =>
            rw [hfrom] at h
            cases h
        · cases h
  · cases h

theorem settles_sampleOf (item : Decoded) :
    Settles (fun _ ↦ True) (sampleOf R ofString item) ↔ PointFits R ofString item := by
  unfold sampleOf PointFits
  split
  · next timestamp value =>
    have hpoint : ∀ p : Decoded → Decoded → Prop,
        (∀ t v, (Verification.Json.list [timestamp, value] : Decoded) = .list [t, v] → p t v) ↔
          p timestamp value := by
      intro p
      constructor
      · exact fun h ↦ h _ _ rfl
      · intro h t v heq
        cases heq
        exact h
    rw [hpoint, Settles, concludes_bind]
    cases htimestamp : number R ofString timestamp with
    | error e => simp [number_error htimestamp]
    | ok x =>
      rw [concludes_ok, concludes_bind]
      cases hvalue : number R ofString value with
      | error e => simp [number_error hvalue]
      | ok y =>
        rw [concludes_ok]
        have hfits := fits_of_number_ok htimestamp
        have hfits' := fits_of_number_ok hvalue
        split
        · next a b =>
          obtain ⟨q, rfl, hq⟩ := number_eq_some htimestamp
          have hdated := settles_fromTimestamp (R := R) hq
          rw [concludes_bind]
          simp only [pure, Except.pure, concludes_ok, hfits, hfits', true_and]
          exact hdated.trans (by simp)
        · next hnone =>
          simp only [pure, Except.pure, concludes_ok, hfits, hfits', true_and, true_iff]
          intro a b ha hb
          cases ha
          cases hb
          exact absurd rfl (hnone a b rfl)
  · next hother =>
    simp only [pure, Except.pure, concludes_ok, true_iff]
    intro timestamp value heq
    exact absurd heq (hother timestamp value)

theorem settles_samplesOf (raw : List Decoded) :
    Settles (fun _ ↦ True) (samplesOf R ofString raw) ↔
      ∀ item ∈ raw, PointFits R ofString item := by
  unfold samplesOf
  rw [Settles, concludes_bind]
  simp only [pure, Except.pure, concludes_ok]
  rw [concludes_mapM fun item e ↦ sampleOf_error]
  exact forall₂_congr fun item _ ↦ settles_sampleOf item

/-- The number of samples is at most that of points. -/
theorem length_samplesOf_le {raw : List Decoded} {samples : List (Nat × Double)}
    (h : samplesOf R ofString raw = .ok samples) : samples.length ≤ raw.length := by
  obtain ⟨found, hfound, hsamples⟩ := bind_eq_ok h
  cases hsamples
  calc
    found.reduceOption.length ≤ found.length := List.length_filterMap_le id found
    _ = raw.length := length_of_mapM hfound

theorem length_of_pointsOf {payload : Fields} {raw : List Decoded}
    (h : pointsOf bound payload = .ok raw) : raw.length ≤ 5000 := by
  have hmax := bound.maxSamples_mem.2
  unfold pointsOf at h
  obtain ⟨result, -, hraw⟩ := bind_eq_ok h
  split at hraw
  · split at hraw
    · split at hraw
      · cases hraw
      · cases hraw
        omega
    · cases hraw
  · cases hraw

/-- A series of samples is one of some samples, or there are none. -/
theorem ofSamples_cases {samples : List (Nat × Double)} (h : samples.length ≤ 5000) :
    UsageSeries.ofSamples samples = .error (.cloudWard noSamples) ∨
      ∃ series first last, UsageSeries.ofSamples samples = .ok series ∧ first ∈ samples ∧
        last ∈ samples ∧ series.firstTimestamp = some first.1 ∧
        series.lastTimestamp = some last.1 := by
  unfold UsageSeries.ofSamples
  split
  · next first last hfirst hlast =>
    rw [dif_pos (by rw [List.length_map]; omega)]
    exact .inr ⟨_, first, last, rfl, List.mem_of_mem_head? hfirst, List.mem_of_mem_getLast? hlast,
      rfl, rfl⟩
  · exact .inl rfl

theorem settles_rangeQuery (payload : Fields) (P : UsageSeries → Prop) :
    Settles P (rangeQuery R ofString bound payload) ↔
      Requires (SeriesFits R ofString bound payload) (rangeQuery R ofString bound payload) P := by
  apply concludes_iff_requires
  rw [rangeQuery, concludes_bind]
  unfold SeriesFits
  cases hpoints : pointsOf bound payload with
  | error e => simpa using pointsOf_error hpoints
  | ok raw =>
    have hsettles : Settles (fun _ ↦ True) (samplesOf R ofString raw) ↔
        ∀ item ∈ raw, PointFits R ofString item := settles_samplesOf raw
    rw [concludes_ok, concludes_bind]
    have hone : (∀ raw', (Except.ok raw : Except ProviderError _) = .ok raw' →
        ∀ item ∈ raw', PointFits R ofString item) ↔ ∀ item ∈ raw, PointFits R ofString item := by
      constructor
      · exact fun h ↦ h raw rfl
      · intro h raw' heq
        cases heq
        exact h
    rw [hone, ← hsettles]
    cases hsamples : samplesOf R ofString raw with
    | error e => rfl
    | ok samples =>
      refine iff_of_true ?_ trivial
      rw [concludes_ok]
      rcases ofSamples_cases ((length_samplesOf_le hsamples).trans (length_of_pointsOf hpoints)) with
        hnone | ⟨series, -, -, hseries, -⟩
      · rw [hnone]
        rfl
      · rw [hseries]
        trivial

/-- A series that is read has the times of two of its samples. -/
theorem exists_samplesIn {payload : Fields} {series : UsageSeries}
    (h : rangeQuery R ofString bound payload = .ok series) :
    ∃ samples first last, samplesIn R ofString bound payload = .ok samples ∧ first ∈ samples ∧
      last ∈ samples ∧ series.firstTimestamp = some first.1 ∧
      series.lastTimestamp = some last.1 := by
  obtain ⟨raw, hraw, hrest⟩ := bind_eq_ok h
  obtain ⟨samples, hsamples, hseries⟩ := bind_eq_ok hrest
  have hin : samplesIn R ofString bound payload = .ok samples := by
    rw [samplesIn, hraw, ok_bind, hsamples]
  rcases ofSamples_cases ((length_samplesOf_le hsamples).trans (length_of_pointsOf hraw)) with
    hnone | ⟨found, first, last, hfound, hfirst, hlast, htimes⟩
  · rw [hnone] at hseries
    cases hseries
  · rw [hfound] at hseries
    cases hseries
    exact ⟨samples, first, last, hin, hfirst, hlast, htimes⟩

/-- A sample is one of a point. -/
theorem exists_sampleOf {raw : List Decoded} {samples : List (Nat × Double)}
    (h : samplesOf R ofString raw = .ok samples) {sample : Nat × Double} (hmem : sample ∈ samples) :
    ∃ item ∈ raw, sampleOf R ofString item = .ok (some sample) := by
  obtain ⟨found, hfound, hsamples⟩ := bind_eq_ok h
  cases hsamples
  obtain ⟨result, hresult, heq⟩ := List.mem_filterMap.mp hmem
  obtain rfl : result = some sample := heq
  exact exists_of_mem_mapM hfound hresult

/-- The time of a sample is before the year 10000. -/
theorem time_lt_of_sampleOf {item : Decoded} {sample : Nat × Double}
    (h : sampleOf R ofString item = .ok (some sample)) : (sample.1 : ℤ) < endOfDates := by
  unfold sampleOf at h
  split at h
  · obtain ⟨timestamp, -, h⟩ := bind_eq_ok h
    obtain ⟨value, -, h⟩ := bind_eq_ok h
    split at h
    · obtain ⟨time, htime, h⟩ := bind_eq_ok h
      cases h
      obtain ⟨us, -, hus⟩ := bind_eq_ok htime
      split at hus
      · next hlt =>
        cases hus
        have hpos : 0 < endOfDates := by decide
        show (us.toNat : ℤ) < endOfDates
        omega
      · cases hus
    · cases h
  · cases h

end CloudWard.Finops
