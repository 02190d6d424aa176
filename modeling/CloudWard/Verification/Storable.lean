import CloudWard.Base.Returns
import CloudWard.Logic.Binary64
import CloudWard.Verification.Multisignal

/-!
# What a verification can store

A pass of `api/internal_reliability.py:445` builds a plan of the replicas a deployment asks for,
verifies and stores the result. The plan has bounds of its own, `float` reads NaN and infinities,
and a sum of readings may be negative: `_latest_scalar`, `verification/multisignal.py:74`, hands on
whatever it is. The column of the readings takes no NaN and no infinity.
-/

namespace CloudWard.Verification

open CloudWard.Approvals CloudWard.Db CloudWard.Incidents CloudWard.Kubernetes CloudWard.Logic
  Service

/-- What Python makes of texts and lists: `float(text)` and `sum(values)`. -/
structure Numerics where
  ofString : String → Option Double
  sum : List Double → Double

/-- The metrics provider with its responses, and the thresholds of `VerificationPlan`. -/
def prometheus (numerics : Numerics) (restarts : PodState → Nat)
    (responses : String → List (Series Double)) : Metrics Double where
  queryRange _ query := .ok (responses query)
  restartCount _ := restarts
  ofString := numerics.ofString
  ofInt n := (binary64.ofInt n).toOption
  sum := numerics.sum
  errorRateThreshold := binary64.round (1 / 20)
  p95LatencyThreshold := .finite (5 / 2)

/-- The JSON of a value has no NaN and no infinity. -/
def SignalValue.storable : SignalValue Double → Bool
  | .float x => x.isFinite
  | _ => true

/-- The database takes the values of a result. -/
def MultiSignalResult.storable (result : MultiSignalResult Double) : Bool :=
  result.checks.all (·.after.storable)

/-- What a pass verifies. -/
structure Target where
  ns : String
  deployment : String
  serviceName : String

/-- The plan of a pass, `api/internal_reliability.py:448`. -/
def Target.plan (target : Target) (desired : Nat) (h : 1 ≤ desired ∧ desired ≤ 20) :
    VerificationPlan where
  ns := target.ns
  deployment := target.deployment
  labelSelector := "cloudward.io/demo-target=true"
  serviceName := target.serviceName
  expectedReplicas := desired
  expectedReplicas_mem := h

/-- What a result is stored for. -/
structure Filing where
  incidentId : Nat
  attempt : Nat
  actionExecutionId : Option Nat
  resolutionSource : ResolutionSource

/-- The plan, the verification and its record, `api/internal_reliability.py:445`. -/
def verifyAndStore (env : Env) (settings : Settings) (m : Metrics Double) (target : Target)
    (filing : Filing) (desired : Nat) : Service (MultiSignalResult Double) :=
  if h : 1 ≤ desired ∧ desired ≤ 20 then do
    let result ← verify env m (target.plan desired h)
    Exec.require result.storable .database
    persistVerification env settings filing.incidentId result filing.attempt
      filing.actionExecutionId filing.resolutionSource
    return result
  else throw .validation

/-- A check of a reading passes only on a finite reading from zero to its threshold. -/
def Sound (result : MultiSignalResult Double) : Prop :=
  ∀ check ∈ result.checks, check.type = .errorRate ∨ check.type = .p95Latency → check.passed →
    ∃ q threshold, check.after = .float (.finite q) ∧ check.threshold = .float threshold ∧
      0 ≤ q ∧ .finite q ≤ threshold

/-- A pass completes, and its checks are sound. -/
def Completes (env : Env) (settings : Settings) (m : Metrics Double) (target : Target)
    (filing : Filing) (desired : Nat) (w : World) : Prop :=
  Returns (verifyAndStore env settings m target filing desired) w fun result _ ↦ Sound result

/-! ### Responses -/

section Responses

variable (m : Metrics Double)

/-- The number of a value, if it has one. -/
def Metrics.number (value : Json Double) : Option Double :=
  match m.float value with
  | .ok reading => reading
  | .error _ => none

/-- The values that are read off a series: of its last point, unless that is no number, and of its
one point. -/
def Metrics.ending (series : Series Double) : List (Json Double) :=
  match lastValue series with
  | none => (instantValue series).toList
  | some value =>
    if m.float value = .ok none then [] else value :: (instantValue series).toList

/-- The numbers of a response. -/
def Metrics.numbers (samples : List (Series Double)) : List Double :=
  (samples.flatMap m.ending).filterMap m.number

/-- Every integer of some values fits into a float. -/
def Fits (values : List (Json Double)) : Prop :=
  ∀ value ∈ values, ∀ n, value = .int n → (m.ofInt n).isSome

/-- A response of which every integer fits into a float, and whose numbers have a finite sum from
zero on. -/
structure Sensible (samples : List (Series Double)) : Prop where
  fits : ∀ series ∈ samples, Fits m (m.ending series)
  sum : m.numbers samples = [] ∨ ∃ q, m.sum (m.numbers samples) = .finite q ∧ 0 ≤ q

end Responses

/-! ### Readings -/

section Readings

variable {m : Metrics Double}

/-- Zero and one are floats. -/
def Counts (m : Metrics Double) : Prop := ∀ b : Bool, (m.ofInt (if b then 1 else 0)).isSome

private theorem float_eq_ok (hm : Counts m) {value : Json Double} {reading : Option Double} :
    m.float value = .ok reading ↔ Fits m [value] ∧ m.number value = reading := by
  have hfloat : Fits m [value] → ∃ reading, m.float value = .ok reading := by
    intro hfits
    cases value with
    | bool b =>
      obtain ⟨x, hx⟩ := Option.isSome_iff_exists.mp (hm b)
      exact ⟨some x, by simp only [Metrics.float, hx]; rfl⟩
    | int n =>
      obtain ⟨x, hx⟩ := Option.isSome_iff_exists.mp (hfits _ List.mem_cons_self n rfl)
      exact ⟨some x, by simp only [Metrics.float, hx]; rfl⟩
    | number x => exact ⟨_, rfl⟩
    | string s => exact ⟨_, rfl⟩
    | _ => exact ⟨_, rfl⟩
  constructor
  · intro h
    constructor
    · intro value' hvalue n hn
      rw [List.mem_singleton.mp hvalue] at hn
      subst hn
      cases hint : m.ofInt n with
      | some x => rfl
      | none =>
        simp only [Metrics.float, hint] at h
        cases h
    · rw [Metrics.number, h]
  · rintro ⟨hfits, rfl⟩
    obtain ⟨reading, hreading⟩ := hfloat hfits
    rw [Metrics.number, hreading]

private theorem instant_eq_ok (hm : Counts m) {series : Series Double} {xs : List Double} :
    m.instant series = .ok xs ↔
      Fits m (instantValue series).toList ∧
        (instantValue series).toList.filterMap m.number = xs := by
  unfold Metrics.instant
  cases instantValue series with
  | none =>
    constructor
    · intro h
      exact ⟨fun _ hvalue ↦ absurd hvalue List.not_mem_nil, Except.ok.inj h⟩
    · exact fun h ↦ congrArg Except.ok h.2
  | some value =>
    simp only [Option.toList_some]
    have htoList : [value].filterMap m.number = (m.number value).toList := by
      cases hnumber : m.number value with
      | none => rw [List.filterMap_cons_none hnumber]; rfl
      | some x => rw [List.filterMap_cons_some hnumber]; rfl
    rw [htoList]
    constructor
    · intro h
      obtain ⟨reading, hreading, hxs⟩ := bind_eq_ok h
      obtain ⟨hfits, rfl⟩ := (float_eq_ok hm).mp hreading
      exact ⟨hfits, Except.ok.inj hxs⟩
    · rintro ⟨hfits, rfl⟩
      rw [(float_eq_ok hm).mpr ⟨hfits, rfl⟩]
      rfl

private theorem readings_eq_ok (hm : Counts m) {series : Series Double} {xs : List Double} :
    m.readings series = .ok xs ↔
      Fits m (m.ending series) ∧ (m.ending series).filterMap m.number = xs := by
  unfold Metrics.readings Metrics.ending
  cases lastValue series with
  | none => exact instant_eq_ok hm
  | some value =>
    dsimp only
    by_cases hnone : m.float value = .ok none
    · rw [if_pos hnone, hnone]
      constructor
      · intro h
        exact ⟨fun _ hvalue ↦ absurd hvalue List.not_mem_nil, Except.ok.inj h⟩
      · exact fun h ↦ congrArg Except.ok h.2
    · rw [if_neg hnone]
      constructor
      · intro h
        obtain ⟨reading, hreading, hrest⟩ := bind_eq_ok h
        cases reading with
        | none => exact absurd hreading hnone
        | some x =>
          obtain ⟨rest, hinstant, hxs⟩ := bind_eq_ok hrest
          obtain ⟨hfits, hnumber⟩ := (float_eq_ok hm).mp hreading
          obtain ⟨hfits', rfl⟩ := (instant_eq_ok hm).mp hinstant
          constructor
          · intro value' hvalue
            rcases List.mem_cons.mp hvalue with rfl | hvalue
            · exact hfits _ List.mem_cons_self
            · exact hfits' value' hvalue
          · rw [List.filterMap_cons_some hnumber]
            exact Except.ok.inj hxs
      · rintro ⟨hfits, rfl⟩
        have hfits' : Fits m [value] := by
          intro value' hvalue
          exact hfits value' (List.mem_cons.mpr (.inl (List.mem_singleton.mp hvalue)))
        have hfloat := (float_eq_ok hm).mpr ⟨hfits', rfl⟩
        cases hnumber : m.number value with
        | none =>
          rw [hnumber] at hfloat
          exact absurd hfloat hnone
        | some x =>
          have hinstant := (instant_eq_ok hm).mpr
            ⟨fun value' hvalue ↦ hfits value' (List.mem_cons_of_mem _ hvalue), rfl⟩
          rw [hfloat, hnumber, List.filterMap_cons_some hnumber]
          show (m.instant series >>= fun rest ↦ .ok (x :: rest)) = _
          rw [hinstant]
          rfl

/-- What is read off a response. -/
def Metrics.reading (m : Metrics Double) (samples : List (Series Double)) : Option Double :=
  if m.numbers samples = [] then none else some (m.sum (m.numbers samples))

/-- A response is read if its integers fit. -/
theorem latestScalar_eq_ok (hm : Counts m) {samples : List (Series Double)}
    {reading : Option Double} :
    m.latestScalar samples = .ok reading ↔
      (∀ series ∈ samples, Fits m (m.ending series)) ∧ m.reading samples = reading := by
  have hnumbers : (samples.map fun series ↦ (m.ending series).filterMap m.number).flatten =
      m.numbers samples := by
    rw [Metrics.numbers, List.filterMap_flatMap, List.flatMap_def]
  have hempty (xs : List Double) : (if xs.isEmpty then none else some (m.sum xs)) =
      if xs = [] then none else some (m.sum xs) := by
    cases xs <;> rfl
  constructor
  · intro h
    obtain ⟨rounds, hrounds, hreading⟩ := bind_eq_ok h
    obtain ⟨hfits, rfl⟩ := (mapM_eq_ok fun _ _ ↦ readings_eq_ok hm).mp hrounds
    rw [Metrics.reading, ← hempty, ← hnumbers]
    exact ⟨hfits, Except.ok.inj hreading⟩
  · rintro ⟨hfits, rfl⟩
    unfold Metrics.latestScalar
    rw [(mapM_eq_ok fun _ _ ↦ readings_eq_ok hm).mpr ⟨hfits, rfl⟩]
    rw [Metrics.reading, ← hempty, ← hnumbers]
    rfl

end Readings

/-! ### Runs -/

section Runs

variable {env : Env} {settings : Settings} {m : Metrics Double} {target : Target}
  {filing : Filing} {w : World}

/-- A pass over a deployment that can be read, for an incident that is being verified and has no
such record yet. -/
structure Situated (env : Env) (target : Target) (filing : Filing) (w : World) : Prop where
  quiet : Quiet env
  ns : validName target.ns
  deployment : validName target.deployment
  serviceName : validName target.serviceName
  readDeployment : ∃ deployment, ∀ w,
    env.readDeployment w target.ns target.deployment = .ok deployment
  listPods : ∃ pods, ∀ w,
    env.listPods w target.ns "cloudward.io/demo-target=true" = .ok pods
  serviceHealth : ∃ payload, ∀ w,
    env.serviceHealth w target.ns target.serviceName "health/ready" = .ok payload
  state : w.db.incidents[filing.incidentId]?.map (·.state) = some .verifying
  attempt : 1 ≤ filing.attempt ∧ filing.attempt ≤ 3
  unique : ∀ r ∈ w.db.verificationRecords,
    (r.incidentId, r.attempt) ≠ (filing.incidentId, filing.attempt)

private theorem Situated.later (hs : Situated env target filing w) (n : Nat) :
    Situated env target filing { w with tick := n } :=
  { hs with state := hs.state, unique := hs.unique }

/-- A sequence whose first part returns is as its second from any tick. -/
private theorem returns_bind_iff_of_reaches {α β : Type} {x : Service α} {k : α → Service β}
    {a : α} {w w' : World} {Q : β → World → Prop} {p : Prop} (h : Reaches x w a w')
    (hk : ∀ n, Returns (k a) { w' with tick := n } Q ↔ p) : Returns (x >>= k) w Q ↔ p := by
  obtain ⟨n, hn⟩ := h
  rw [returns_bind_iff, returns_iff_of_run hn]
  exact hk n

/-- A verification of a deployment that can be read returns what its checks make of the two
responses. -/
private theorem returns_gatherReadings (restarts : PodState → Nat) (numerics : Numerics)
    (responses : String → List (Series Double)) (hs : Situated env target filing w) {desired : Nat}
    (h : 1 ≤ desired ∧ desired ≤ 20) :
    ∃ r : Option Double → Option Double → Readings Double,
      (∀ e l, (r e l).errorRate = e ∧ (r e l).latency = l) ∧
      ∀ (Q : Readings Double → World → Prop) (P : Readings Double → Prop),
        (∀ a n, Q a { w with tick := n } ↔ P a) →
        (Returns (gatherReadings env (prometheus numerics restarts responses)
          (target.plan desired h)) w Q ↔
        ∃ e, (prometheus numerics restarts responses).latestScalar
            (responses (errorQuery target.serviceName)) = .ok e ∧
          ∃ l, (prometheus numerics restarts responses).latestScalar
            (responses (latencyQuery target.serviceName)) = .ok l ∧ P (r e l)) := by
  obtain ⟨deployment, hdeployment⟩ := hs.readDeployment
  obtain ⟨pods, hpods⟩ := hs.listPods
  obtain ⟨payload, hpayload⟩ := hs.serviceHealth
  refine ⟨fun e l ↦ {
    readyReplicas := deployment.readyReplicas.getD 0
    readyPods := (pods.filter (·.ready)).length
    restarts := (pods.map restarts).sum
    errorRate := e
    latency := l
    health := { healthy := payload.healthy } }, fun _ _ ↦ ⟨rfl, rfl⟩, fun Q P hQ ↦ ?_⟩
  have hquery (query : String) (w : World) :
      Reaches (call ((prometheus numerics restarts responses).queryRange · query)) w
        (responses query) w := reaches_call rfl
  have hpath : normalizedPath (target.plan desired h).healthPath = some "health/ready" := by
    show normalizedPath "health/ready" = some "health/ready"
    decide +kernel
  unfold gatherReadings
  apply returns_bind_iff_of_reaches (reaches_getDeployment hs.ns hs.deployment hdeployment)
  intro _
  apply returns_bind_iff_of_reaches (reaches_getPods hs.ns (by decide +kernel) hpods)
  intro _
  apply returns_bind_iff_of_reaches (reaches_ask _ _)
  intro _
  apply returns_bind_iff_of_reaches (hquery _ _)
  intro _
  rw [returns_bind_iff, returns_ofExcept_iff]
  refine exists_congr fun e ↦ and_congr_right fun _ ↦ ?_
  apply returns_bind_iff_of_reaches (hquery _ _)
  intro _
  rw [returns_bind_iff, returns_ofExcept_iff]
  refine exists_congr fun l ↦ and_congr_right fun _ ↦ ?_
  apply returns_bind_iff_of_reaches
    (reaches_getServiceHealth hs.ns hs.serviceName hpath hpayload)
  intro n
  rw [returns_pure_iff]
  exact hQ _ n

/-- A result is stored where nothing fails. -/
private theorem returns_persistVerification (hs : Situated env target filing w)
    (settings : Settings) (result : MultiSignalResult Double) :
    Returns (persistVerification env settings filing.incidentId result filing.attempt
      filing.actionExecutionId filing.resolutionSource) w fun _ _ ↦ True := by
  unfold persistVerification
  apply returns_bind (reaches_ask _ _)
  intro n
  rw [dif_pos hs.attempt]
  have hinsert : Reaches (insertVerificationRecord env (verificationRow filing.incidentId
      result filing.attempt filing.actionExecutionId (env.now w) hs.attempt))
      { w with tick := n } () { w with db := { w.db with
        verificationRecords := w.db.verificationRecords.insert
          (verificationRow filing.incidentId result filing.attempt filing.actionExecutionId
            (env.now w) hs.attempt) } } := by
    unfold insertVerificationRecord
    apply reaches_bind (reaches_read _ _)
    intro _
    apply reaches_bind (reaches_exec_require hs.unique)
    intro _
    apply reaches_bind (reaches_write _ _)
    intro _
    exact reaches_flush hs.quiet _
  apply returns_bind hinsert
  intro _
  apply returns_bind (reaches_flush hs.quiet _)
  intro _
  apply returns_bind (reaches_query hs.quiet _ _)
  intro _
  apply returns_bind_iff.mpr
  rw [returns_when_iff]
  have hchange (target : IncidentState) (details : Details) (w' : World)
      (hstate : w'.db.incidents[filing.incidentId]?.map (·.state) = some .verifying)
      (hallowed : target ∈ allowedTransitions .verifying) (hne : .verifying ≠ target) :
      Returns (changeIncidentState env settings filing.incidentId target verifier details) w'
        fun _ _ ↦ True := by
    obtain ⟨a, w₂, hrun, -⟩ := returns_changeIncidentState hs.quiet settings verifier details
      hstate hallowed hne
    exact ⟨a, w₂, hrun, trivial⟩
  have hdecide (w' : World)
      (hstate : w'.db.incidents[filing.incidentId]?.map (·.state) = some .verifying) :
      Returns (decideIncident env settings filing.incidentId result.success filing.attempt
        filing.resolutionSource) w' fun _ _ ↦ True := by
    unfold decideIncident
    split
    · apply returns_bind (reaches_write _ _)
      intro _
      apply hchange _ _ _ _ (by decide) (by decide)
      dsimp only
      rw [Table.getElem?_update_self, Option.map_map]
      exact hstate
    · rw [returns_when_iff]
      exact ⟨fun _ ↦ hchange _ _ _ hstate (by decide) (by decide), fun _ ↦ trivial⟩
  constructor
  · intro _
    apply (reaches_flush hs.quiet _).returns
    intro _
    exact hdecide _ hs.state
  · intro _
    exact hdecide _ hs.state

/-! ### What completes -/

private theorem counts_prometheus (numerics : Numerics) (restarts : PodState → Nat)
    (responses : String → List (Series Double)) :
    Counts (prometheus numerics restarts responses) := by
  intro b
  cases b with
  | true =>
    have hone : binary64.round (1 : Int) = .finite 1 := by
      rw [Int.cast_one]
      exact binary64.round_one
    show ((binary64.ofInt 1).toOption).isSome
    unfold Rounding.ofInt Rounding.fitting
    rw [hone]
    rfl
  | false =>
    have hzero : binary64.round (0 : Int) = .finite 0 := by
      rw [Int.cast_zero]
      exact binary64.round_zero
    show ((binary64.ofInt 0).toOption).isSome
    unfold Rounding.ofInt Rounding.fitting
    rw [hzero]
    rfl

/-- A reading is stored, and passes only from zero on. -/
def Acceptable (reading : Option Double) : Prop := ∀ x ∈ reading, ∃ q, x = .finite q ∧ 0 ≤ q

private theorem acceptable_reading {samples : List (Series Double)} :
    Acceptable (m.reading samples) ↔
      m.numbers samples = [] ∨ ∃ q, m.sum (m.numbers samples) = .finite q ∧ 0 ≤ q := by
  unfold Acceptable Metrics.reading
  by_cases hempty : m.numbers samples = []
  · simp [hempty]
  · simp [hempty]

/-- A check of a reading that passes only on a finite reading from zero on. -/
private def SoundCheck (check : SignalCheck Double) : Prop :=
  check.passed → ∃ q threshold, check.after = .float (.finite q) ∧
    check.threshold = .float threshold ∧ 0 ≤ q ∧ .finite q ≤ threshold

private theorem scalarCheck_iff {type : SignalType} {threshold : Double} {missing : String}
    {reading : Option Double} (h : .finite 0 ≤ threshold) :
    (scalarCheck type threshold missing reading).after.storable ∧
      SoundCheck (scalarCheck type threshold missing reading) ↔ Acceptable reading := by
  cases reading with
  | none =>
    constructor
    · intro _ x hx
      cases hx
    · intro _
      exact ⟨rfl, fun hpassed ↦ by cases hpassed⟩
  | some x =>
    constructor
    · rintro ⟨hfinite, hsound⟩ y hy
      cases hy
      obtain ⟨q, rfl⟩ := Double.isFinite_iff.mp hfinite
      refine ⟨q, rfl, ?_⟩
      by_contra hneg
      have hpassed : (scalarCheck type threshold missing (some (.finite q))).passed :=
        decide_eq_true (Double.le_trans (Double.finite_le_finite.mpr (le_of_not_ge hneg)) h)
      obtain ⟨q', _, hafter, -, hq', -⟩ := hsound hpassed
      cases hafter
      exact hneg hq'
    · intro hx
      obtain ⟨q, rfl, hq⟩ := hx _ rfl
      exact ⟨rfl, fun hpassed ↦ ⟨q, threshold, rfl, rfl, hq, of_decide_eq_true hpassed⟩⟩

private theorem storable_and_sound {restarts : PodState → Nat} {numerics : Numerics}
    {responses : String → List (Series Double)} (plan : VerificationPlan) (r : Readings Double) :
    (resultOf (signalChecks (prometheus numerics restarts responses) plan r)).storable ∧
      Sound (resultOf (signalChecks (prometheus numerics restarts responses) plan r)) ↔
    Acceptable r.errorRate ∧ Acceptable r.latency := by
  have herror : .finite 0 ≤ (prometheus numerics restarts responses).errorRateThreshold :=
    binary64.round_nonneg (by norm_num)
  have hlatency : .finite 0 ≤ (prometheus numerics restarts responses).p95LatencyThreshold := by
    show (0 : ℚ) ≤ 5 / 2
    norm_num
  have herrorRate := @scalarCheck_iff .errorRate _ "Prometheus returned no error-rate sample"
    r.errorRate herror
  have hp95Latency := @scalarCheck_iff .p95Latency _ "Prometheus returned no p95 sample"
    r.latency hlatency
  have hchecks : (resultOf (signalChecks (prometheus numerics restarts responses) plan r)).checks =
      signalChecks (prometheus numerics restarts responses) plan r := rfl
  unfold MultiSignalResult.storable Sound
  rw [hchecks, List.all_eq_true]
  constructor
  · rintro ⟨hstorable, hsound⟩
    constructor
    · exact herrorRate.mp ⟨hstorable _ (by simp [signalChecks]),
        hsound _ (by simp [signalChecks]) (.inl rfl)⟩
    · exact hp95Latency.mp ⟨hstorable _ (by simp [signalChecks]),
        hsound _ (by simp [signalChecks]) (.inr rfl)⟩
  · rintro ⟨hfirst, hsecond⟩
    have herrorCheck := herrorRate.mpr hfirst
    have hlatencyCheck := hp95Latency.mpr hsecond
    constructor
    · intro check hcheck
      simp only [signalChecks, List.mem_cons, List.not_mem_nil, or_false] at hcheck
      rcases hcheck with rfl | rfl | rfl | rfl | rfl | rfl | rfl
      · rfl
      · rfl
      · rfl
      · exact herrorCheck.1
      · exact hlatencyCheck.1
      · rfl
      · rfl
    · intro check hcheck htype
      simp only [signalChecks, List.mem_cons, List.not_mem_nil, or_false] at hcheck
      rcases hcheck with rfl | rfl | rfl | rfl | rfl | rfl | rfl
      · simp [countCheck] at htype
      · simp [countCheck] at htype
      · simp [restartCheck] at htype
      · exact herrorCheck.2
      · exact hlatencyCheck.2
      · simp [healthCheckOf] at htype
      · simp [healthCheckOf] at htype

private theorem situated_completes_iff {restarts : PodState → Nat} {numerics : Numerics}
    {responses : String → List (Series Double)} (hs : Situated env target filing w) {desired : Nat} :
    Completes env settings (prometheus numerics restarts responses) target filing desired w ↔
      (1 ≤ desired ∧ desired ≤ 20) ∧
      Sensible (prometheus numerics restarts responses)
        (responses (errorQuery target.serviceName)) ∧
      Sensible (prometheus numerics restarts responses)
        (responses (latencyQuery target.serviceName)) := by
  have hcounts := counts_prometheus numerics restarts responses
  have hsensible (samples : List (Series Double)) :
      Sensible (prometheus numerics restarts responses) samples ↔
        ∃ x, (prometheus numerics restarts responses).latestScalar samples = .ok x ∧
          Acceptable x := by
    constructor
    · intro h
      exact ⟨_, (latestScalar_eq_ok hcounts).mpr ⟨h.fits, rfl⟩, acceptable_reading.mpr h.sum⟩
    · rintro ⟨x, hx, hacceptable⟩
      obtain ⟨hfits, rfl⟩ := (latestScalar_eq_ok hcounts).mp hx
      exact ⟨hfits, acceptable_reading.mp hacceptable⟩
  unfold Completes verifyAndStore
  by_cases hdesired : 1 ≤ desired ∧ desired ≤ 20
  · rw [dif_pos hdesired, and_iff_right hdesired, hsensible, hsensible]
    obtain ⟨r, hr, hgather⟩ := returns_gatherReadings restarts numerics responses hs hdesired
    have hstored (readings : Readings Double) (n : Nat) :
        Returns (pure (resultOf (signalChecks (prometheus numerics restarts responses)
            (target.plan desired hdesired) readings)) : Service (MultiSignalResult Double))
          { w with tick := n } (fun result w' ↦ Returns (do
            Exec.require result.storable .database
            persistVerification env settings filing.incidentId result filing.attempt
              filing.actionExecutionId filing.resolutionSource
            return result) w' fun result _ ↦ Sound result) ↔
        Acceptable readings.errorRate ∧ Acceptable readings.latency := by
      rw [returns_pure_iff, returns_bind_iff, returns_exec_require_iff, ← storable_and_sound]
      refine and_congr_right fun _ ↦ ?_
      rw [returns_bind_iff]
      constructor
      · rintro ⟨_, _, _, hreturn⟩
        exact returns_pure_iff.mp hreturn
      · intro hsound
        obtain ⟨a, w', hrun, -⟩ := returns_persistVerification (hs.later n) settings _
        exact ⟨a, w', hrun, returns_pure_iff.mpr hsound⟩
    rw [verify, returns_bind_iff, returns_bind_iff, hgather _ _ hstored]
    simp only [hr]
    constructor
    · rintro ⟨e, he, l, hl, hacceptable, hacceptable'⟩
      exact ⟨⟨e, he, hacceptable⟩, l, hl, hacceptable'⟩
    · rintro ⟨⟨e, he, hacceptable⟩, l, hl, hacceptable'⟩
      exact ⟨e, he, l, hl, hacceptable, hacceptable'⟩
  · rw [dif_neg hdesired, returns_throw_iff]
    exact ⟨False.elim, fun h ↦ hdesired h.1⟩

/-- **When a verification is stored.** A pass over a deployment that can be read completes, with
sound checks, if and only if the deployment asks for 1 to 20 replicas, and of both responses every
integer fits into a float and the numbers have a finite sum from zero on. -/
theorem verification_completes_iff (env : Env) (settings : Settings) (restarts : PodState → Nat)
    (numerics : Numerics) (responses : String → List (Series Double)) (target : Target)
    (filing : Filing) (desired : Nat) (w : World) (hs : Situated env target filing w) :
    Completes env settings (prometheus numerics restarts responses) target filing desired w ↔
      (1 ≤ desired ∧ desired ≤ 20) ∧
      Sensible (prometheus numerics restarts responses)
        (responses (errorQuery target.serviceName)) ∧
      Sensible (prometheus numerics restarts responses)
        (responses (latencyQuery target.serviceName)) :=
  situated_completes_iff hs

end Runs

/-! ### Two responses -/

/-- What Python makes of a few texts. -/
def fewNumerics : Numerics where
  ofString
    | "0.01" => some (binary64.round (1 / 100))
    | "NaN" => some .nan
    | _ => none
  sum := List.foldl binary64.add (.finite 0)

/-- One series with one point. -/
def onePoint (text : String) : List (Series Double) :=
  [[("values", .list [.list [.int 0, .string text]])]]

/-- The demo deployment. -/
def demoTarget : Target := ⟨"cloudward-staging", "cloudward-demo", "cloudward-demo"⟩

/-- The first verification of an incident. -/
def firstFiling : Filing := ⟨0, 1, none, .platformSelfHealing⟩

/-- An incident that is being verified. -/
def verifyingWorld : World :=
  start { incidents := [{ correlationId := "correlation", incidentType := "reliability.oom"
                          title := "OOMKilled", environment := .staging, state := .verifying }] }

private theorem situated_calm : Situated calm demoTarget firstFiling verifyingWorld where
  quiet := quiet_calm
  ns := by decide +kernel
  deployment := by decide +kernel
  serviceName := by decide +kernel
  readDeployment := ⟨_, fun _ ↦ rfl⟩
  listPods := ⟨_, fun _ ↦ rfl⟩
  serviceHealth := ⟨_, fun _ ↦ rfl⟩
  state := rfl
  attempt := by decide
  unique := fun _ hr ↦ by cases hr

private theorem sensible_onePoint :
    Sensible (prometheus fewNumerics (fun _ ↦ 0) fun _ ↦ onePoint "0.01") (onePoint "0.01") := by
  have hreading : .finite 0 ≤ fewNumerics.sum ((prometheus fewNumerics (fun _ ↦ 0) fun _ ↦
      onePoint "0.01").numbers (onePoint "0.01")) ∧
      (fewNumerics.sum ((prometheus fewNumerics (fun _ ↦ 0) fun _ ↦
        onePoint "0.01").numbers (onePoint "0.01"))).isFinite := by
    decide +kernel
  constructor
  · intro series hseries value hvalue n hn
    subst hn
    rw [List.mem_singleton.mp hseries] at hvalue
    have hending : ((prometheus fewNumerics (fun _ ↦ 0) fun _ ↦ onePoint "0.01").ending
        [("values", .list [.list [.int 0, .string "0.01"]])]) = [.string "0.01"] := by rfl
    rw [hending] at hvalue
    cases List.mem_singleton.mp hvalue
  · obtain ⟨q, hq⟩ := Double.isFinite_iff.mp hreading.2
    refine .inr ⟨q, hq, ?_⟩
    rw [hq] at hreading
    exact hreading.1

theorem verification_completes_onePoint :
    Completes calm .standard (prometheus fewNumerics (fun _ ↦ 0) fun _ ↦ onePoint "0.01")
      demoTarget firstFiling 2 verifyingWorld :=
  (verification_completes_iff calm .standard (fun _ ↦ 0) fewNumerics (fun _ ↦ onePoint "0.01")
    demoTarget firstFiling 2 verifyingWorld situated_calm).mpr
    ⟨by decide, sensible_onePoint, sensible_onePoint⟩

/-- A reading that is no number is not stored. -/
theorem verification_not_completes :
    ¬ ∀ (env : Env) (settings : Settings) (restarts : PodState → Nat) (numerics : Numerics)
      (responses : String → List (Series Double)) (target : Target) (filing : Filing)
      (desired : Nat) (w : World), Situated env target filing w →
      Completes env settings (prometheus numerics restarts responses) target filing desired w := by
  intro h
  have hcompletes := h calm .standard (fun _ ↦ 0) fewNumerics (fun _ ↦ onePoint "NaN") demoTarget
    firstFiling 2 verifyingWorld situated_calm
  have hnumbers : (prometheus fewNumerics (fun _ ↦ 0) fun _ ↦ onePoint "NaN").numbers
      (onePoint "NaN") = [.nan] := by decide +kernel
  rcases ((situated_completes_iff situated_calm).mp hcompletes).2.1.sum with hempty | ⟨q, hq, -⟩
  · rw [hnumbers] at hempty
    cases hempty
  · rw [hnumbers] at hq
    cases hq

end CloudWard.Verification
