import CloudWard.Incidents.Service
import CloudWard.Kubernetes.Executor

/-!
# Multi-signal verification

`verification/multisignal.py`: seven checks of one deployment, its pods, two Prometheus series
and its health endpoint, and what the result does to the incident. Floating-point numbers are
any type with a decidable order relation and Python's `sum`; no law is assumed of either. The
`before` values of checks and records are read by nothing and left out.
-/

namespace CloudWard.Verification

open CloudWard.Approvals CloudWard.Db CloudWard.Incidents CloudWard.Kubernetes CloudWard.Logic
  CloudWard.Remediation Service

/-- `SignalType`, `verification/multisignal.py:29`. -/
inductive SignalType
  | readyReplicas
  | podReadiness
  | errorRate
  | p95Latency
  | restartCount
  | healthEndpoint
  | syntheticHttp
deriving DecidableEq, Repr

/-- The enum's string value. -/
def SignalType.value : SignalType → String
  | .readyReplicas => "ready_replicas"
  | .podReadiness => "pod_readiness"
  | .errorRate => "error_rate"
  | .p95Latency => "p95_latency"
  | .restartCount => "restart_count"
  | .healthEndpoint => "health_endpoint"
  | .syntheticHttp => "synthetic_http"

/-- A decoded JSON value of a telemetry response. -/
inductive Json (F : Type)
  | null
  | bool (b : Bool)
  | int (n : Int)
  | number (x : F)
  | string (s : String)
  | list (items : List (Json F))
  | object (fields : List (String × Json F))

/-- `float | int | str | bool | None` of a check. -/
inductive SignalValue (F : Type)
  | none
  | int (n : Nat)
  | bool (b : Bool)
  | float (x : F)

/-- One series of a query's samples. -/
abbrev Series (F : Type) : Type := List (String × Json F)

/-- The metrics provider, what Python does with numbers, and the thresholds of a plan. -/
structure Metrics (F : Type) where
  queryRange : World → String → Except Exc (List (Series F))
  restartCount : World → PodState → Nat
  /-- `float(...)` of a string; `none` where it raises a `ValueError`. -/
  ofString : String → Option F
  /-- `float(...)` of an integer; `none` where it raises an `OverflowError`. -/
  ofInt : Int → Option F
  sum : List F → F
  /-- 0.05 -/
  errorRateThreshold : F
  /-- 2.5 -/
  p95LatencyThreshold : F

/-- `VerificationPlan`, `verification/multisignal.py:63`, less its thresholds. -/
structure VerificationPlan where
  ns : String
  deployment : String
  labelSelector : String
  serviceName : String
  expectedReplicas : Nat
  healthPath : String := "health/ready"
  expectedReplicas_mem : 1 ≤ expectedReplicas ∧ expectedReplicas ≤ 20

/-- `SignalCheck`, `verification/multisignal.py:39`. -/
structure SignalCheck (F : Type) where
  type : SignalType
  required : Bool := true
  passed : Bool
  after : SignalValue F
  threshold : SignalValue F := .none
  detail : Option String := none

/-- `MultiSignalResult`, `verification/multisignal.py:51`; its `after_values` are those of its
checks. -/
structure MultiSignalResult (F : Type) where
  success : Bool
  checks : List (SignalCheck F)

/-! ### Readings -/

section Readings

variable {F : Type} (m : Metrics F)

/-- `float(...)` of a decoded value; `none` for the exceptions that are caught. -/
def Metrics.float : Json F → Except Exc (Option F)
  | .bool b => (m.ofInt (if b then 1 else 0)).elim (.error .validation) fun x ↦ .ok (some x)
  | .int n => (m.ofInt n).elim (.error .validation) fun x ↦ .ok (some x)
  | .number x => .ok (some x)
  | .string s => .ok (m.ofString s)
  | _ => .ok none

/-- The second member of a point, `[timestamp, value]`. -/
def pointValue : Json F → Option (Json F)
  | .list [_, value] => some value
  | _ => none

/-- The value of the last of a series' points. -/
def lastValue (series : Series F) : Option (Json F) :=
  match series.lookup "values" with
  | some (.list points) => points.getLast?.bind pointValue
  | _ => none

/-- The value of a series' one point. -/
def instantValue (series : Series F) : Option (Json F) :=
  (series.lookup "value").bind pointValue

/-- The second `if` of a round, `verification/multisignal.py:84`. -/
def Metrics.instant (series : Series F) : Except Exc (List F) :=
  match instantValue series with
  | none => .ok []
  | some value => do
    let reading ← m.float value
    return reading.toList

/-- One round of `_latest_scalar`, `verification/multisignal.py:76`: a last point that is no
number ends it. -/
def Metrics.readings (series : Series F) : Except Exc (List F) :=
  match lastValue series with
  | none => m.instant series
  | some value => do
    let reading ← m.float value
    match reading with
    | none => return []
    | some x => do
      let rest ← m.instant series
      return x :: rest

/-- `_latest_scalar`, `verification/multisignal.py:74`. -/
def Metrics.latestScalar (samples : List (Series F)) : Except Exc (Option F) := do
  let rounds ← samples.mapM m.readings
  let values := rounds.flatten
  return if values.isEmpty then none else some (m.sum values)

end Readings

/-! ### Checks -/

/-- The query of the error rate. -/
def errorQuery (service : String) : String :=
  "sum(rate(cloudward_demo_http_requests_total\x7bservice=\"" ++ service ++
    "\",status_code=~\"5..\"\x7d[2m])) / clamp_min(sum(rate(cloudward_demo_http_requests_total" ++
    "\x7bservice=\"" ++ service ++ "\"\x7d[2m])), 0.001)"

/-- The query of the latency. -/
def latencyQuery (service : String) : String :=
  "histogram_quantile(0.95, sum by (le) (rate(" ++
    "cloudward_demo_http_request_duration_seconds_bucket\x7bservice=\"" ++ service ++
    "\"\x7d[2m])))"

section Checks

variable {F : Type} [LE F] [DecidableLE F]

/-- A count of replicas or pods against the expected one. -/
def countCheck (type : SignalType) (plan : VerificationPlan) (n : Nat) : SignalCheck F where
  type := type
  passed := plan.expectedReplicas ≤ n
  after := .int n
  threshold := .int plan.expectedReplicas

/-- A reading of Prometheus against its threshold. -/
def scalarCheck (type : SignalType) (threshold : F) (missing : String) (reading : Option F) :
    SignalCheck F where
  type := type
  passed := reading.any (· ≤ threshold)
  after := reading.elim .none .float
  threshold := .float threshold
  detail := if reading.isSome then none else some missing

/-- The health of the service under one of its two names. -/
def healthCheckOf (type : SignalType) (detail : Option String) (healthy : Bool) :
    SignalCheck F where
  type := type
  passed := healthy
  after := .bool healthy
  threshold := .bool true
  detail := detail

/-- The restarts, for comparison only. -/
def restartCheck (restarts : Nat) : SignalCheck F where
  type := .restartCount
  passed := true
  after := .int restarts
  required := false
  detail := some "Restart count is recorded for comparison but is not a sole recovery signal"

/-- What a verification reads. -/
structure Readings (F : Type) where
  readyReplicas : Nat
  readyPods : Nat
  restarts : Nat
  errorRate : Option F
  latency : Option F
  health : ServiceHealth

/-- The checks of a verification, in their order. -/
def signalChecks (m : Metrics F) (plan : VerificationPlan) (r : Readings F) :
    List (SignalCheck F) := [
  countCheck .readyReplicas plan r.readyReplicas,
  countCheck .podReadiness plan r.readyPods,
  restartCheck r.restarts,
  scalarCheck .errorRate m.errorRateThreshold "Prometheus returned no error-rate sample"
    r.errorRate,
  scalarCheck .p95Latency m.p95LatencyThreshold "Prometheus returned no p95 sample" r.latency,
  healthCheckOf .healthEndpoint none r.health.healthy,
  healthCheckOf .syntheticHttp
    (some "Synthetic request executed through the Kubernetes service proxy") r.health.healthy]

/-- `success` and the checks. -/
def resultOf (checks : List (SignalCheck F)) : MultiSignalResult F where
  success := checks.all fun check ↦ ¬ check.required ∨ check.passed
  checks := checks

/-- The calls of `MultiSignalVerificationEngine.verify`. -/
def gatherReadings (env : Env) (m : Metrics F) (plan : VerificationPlan) :
    Service (Readings F) := do
  let deployment ← getDeployment env plan.ns plan.deployment
  let pods ← getPods env plan.ns plan.labelSelector
  let restarts ← ask fun w ↦ (pods.map (m.restartCount w)).sum
  let errors ← call (m.queryRange · (errorQuery plan.serviceName))
  let errorRate ← Exec.ofExcept (m.latestScalar errors)
  let latencies ← call (m.queryRange · (latencyQuery plan.serviceName))
  let latency ← Exec.ofExcept (m.latestScalar latencies)
  let health ← getServiceHealth env plan.ns plan.serviceName plan.healthPath
  return {
    readyReplicas := deployment.readyReplicas
    readyPods := (pods.filter (·.ready)).length
    restarts, errorRate, latency, health }

/-- `MultiSignalVerificationEngine.verify`, `verification/multisignal.py:99`. -/
def verify (env : Env) (m : Metrics F) (plan : VerificationPlan) :
    Service (MultiSignalResult F) := do
  let readings ← gatherReadings env m plan
  return resultOf (signalChecks m plan readings)

/-- A verification changes nothing. -/
theorem frames_verify {ω : Type} {f : World → ω} (htick : ∀ w n, f { w with tick := n } = f w)
    (env : Env) (m : Metrics F) (plan : VerificationPlan) :
    Exec.Frames f (verify env m plan) := by
  apply Exec.frames_bind
  · apply Exec.frames_bind (frames_getDeployment htick env _ _)
    intro deployment
    apply Exec.frames_bind (frames_getPods htick env _ _)
    intro pods
    apply Exec.frames_bind (frames_ask _ htick)
    intro restarts
    apply Exec.frames_bind (frames_call _ htick)
    intro errors
    apply Exec.frames_bind (Exec.frames_ofExcept _)
    intro errorRate
    apply Exec.frames_bind (frames_call _ htick)
    intro latencies
    apply Exec.frames_bind (Exec.frames_ofExcept _)
    intro latency
    exact Exec.frames_bind (frames_getServiceHealth htick env _ _ _) fun _ ↦ Exec.frames_pure _
  · exact fun _ ↦ Exec.frames_pure _

/-! ### Storing a result -/

/-- `check.model_dump(mode="json")`, less its readings. -/
def SignalCheck.stored (check : SignalCheck F) : Db.VerificationCheck where
  name := check.type.value
  required := check.required
  passed := check.passed

/-- `actor="cloudward-verifier"`. -/
def verifier : String := "cloudward-verifier"

/-- The row of a verification, `verification/multisignal.py:227`. -/
def verificationRow (incidentId : Nat) (result : MultiSignalResult F) (attempt : Nat)
    (actionExecutionId : Option Nat) (now : Nat) (h : 1 ≤ attempt ∧ attempt ≤ 3) :
    VerificationRecord where
  incidentId := incidentId
  actionExecutionId := actionExecutionId
  attempt := attempt
  success := result.success
  checks := result.checks.map (·.stored)
  completedAt := now
  attempt_mem := h

/-- What a result does to the incident, `verification/multisignal.py:278`. -/
def decideIncident (env : Env) (settings : Settings) (incidentId : Nat) (success : Bool)
    (attempt : Nat) (resolutionSource : ResolutionSource) : Service Unit :=
  if success then do
    updateIncident incidentId fun incident ↦
      { incident with resolutionSource := some resolutionSource }
    changeIncidentState env settings incidentId .resolved verifier
  else
    Exec.when (3 ≤ attempt)
      (changeIncidentState env settings incidentId .escalated verifier
        { reason := some "attempt_limit_reached" })

/-- `persist_verification`, `verification/multisignal.py:217`. -/
def persistVerification (env : Env) (settings : Settings) (incidentId : Nat)
    (result : MultiSignalResult F) (attempt : Nat) (actionExecutionId : Option Nat)
    (resolutionSource : ResolutionSource) : Service Unit := do
  let now ← ask env.now
  if h : 1 ≤ attempt ∧ attempt ≤ 3 then do
    insertVerificationRecord env
      (verificationRow incidentId result attempt actionExecutionId now h)
    -- the stream row's flush
    flush env
    let execution ← query env fun db ↦ actionExecutionId.bind (db.executions[·]?)
    -- the audit row of a rollback that is withheld
    Exec.when (¬ result.success ∧ execution.any (·.actionType = .revertImage)) (flush env)
    decideIncident env settings incidentId result.success attempt resolutionSource
  else throw .database

end Checks

/-! ### What a verification rests on -/

section Evidence

variable {F : Type} {env : Env} {m : Metrics F} {plan : VerificationPlan}

/-- A number is read off some series. -/
def Reads (m : Metrics F) (samples : List (Series F)) (x : F) : Prop :=
  ∃ series ∈ samples, ∃ value,
    (lastValue series = some value ∨ instantValue series = some value) ∧
      m.float value = .ok (some x)

/-- A query is answered, at some moment, with samples of which numbers are read, and these sum
up. -/
def Sampled (m : Metrics F) (moments : Nat → World) (query : String) (x : F) : Prop :=
  ∃ n samples readings, m.queryRange (moments n) query = .ok samples ∧ readings ≠ [] ∧
    (∀ y ∈ readings, Reads m samples y) ∧ x = m.sum readings

/-- The service answers, at some moment, with a payload of a kind. -/
def Answers (env : Env) (plan : VerificationPlan) (moments : Nat → World)
    (accepts : ServicePayload → Bool) : Prop :=
  ∃ n path payload, env.serviceHealth (moments n) plan.ns plan.serviceName path = .ok payload ∧
    accepts payload

/-- What has to be read, at moments of a pass, for a required check to pass. -/
def Supported [LE F] (env : Env) (m : Metrics F) (plan : VerificationPlan)
    (moments : Nat → World) (accepts : ServicePayload → Bool) : SignalType → Prop
  | .readyReplicas => ∃ n deployment ready,
    env.readDeployment (moments n) plan.ns plan.deployment = .ok deployment ∧
      deployment.readyReplicas = some ready ∧ plan.expectedReplicas ≤ ready
  | .podReadiness => ∃ n pods, env.listPods (moments n) plan.ns plan.labelSelector = .ok pods ∧
    plan.expectedReplicas ≤ (pods.filter (·.ready)).length
  | .errorRate => ∃ x, Sampled m moments (errorQuery plan.serviceName) x ∧
    x ≤ m.errorRateThreshold
  | .p95Latency => ∃ x, Sampled m moments (latencyQuery plan.serviceName) x ∧
    x ≤ m.p95LatencyThreshold
  | .restartCount => True
  | .healthEndpoint => Answers env plan moments accepts
  | .syntheticHttp => Answers env plan moments accepts

/-- Readings that come from answers at moments of a pass. -/
structure Evidenced (env : Env) (m : Metrics F) (plan : VerificationPlan)
    (moments : Nat → World) (r : Readings F) : Prop where
  replicas : ∃ n deployment,
    env.readDeployment (moments n) plan.ns plan.deployment = .ok deployment ∧
      r.readyReplicas = deployment.readyReplicas.getD 0
  pods : ∃ n pods, env.listPods (moments n) plan.ns plan.labelSelector = .ok pods ∧
    r.readyPods = (pods.filter (·.ready)).length
  errorRate : ∀ x ∈ r.errorRate, Sampled m moments (errorQuery plan.serviceName) x
  latency : ∀ x ∈ r.latency, Sampled m moments (latencyQuery plan.serviceName) x
  health : r.health.healthy → Answers env plan moments ServicePayload.healthy

/-- A number of a round is read off its series. -/
theorem reads_of_mem_readings {series : Series F} {round : List F}
    (h : m.readings series = .ok round) {x : F} (hx : x ∈ round) {samples : List (Series F)}
    (hmem : series ∈ samples) : Reads m samples x := by
  have hinstant {rest : List F} (hrest : m.instant series = .ok rest) (hx : x ∈ rest) :
      Reads m samples x := by
    unfold Metrics.instant at hrest
    split at hrest
    · cases hrest
      simp at hx
    · next value hvalue =>
      cases hfloat : m.float value with
      | error e => simp [hfloat, bind, Except.bind] at hrest
      | ok reading =>
        simp only [hfloat, bind, Except.bind, pure, Except.pure, Except.ok.injEq] at hrest
        subst hrest
        rw [Option.mem_toList] at hx
        exact ⟨series, hmem, value, .inr hvalue, by rw [hfloat, hx]⟩
  unfold Metrics.readings at h
  split at h
  · exact hinstant h hx
  · next value hvalue =>
    cases hfloat : m.float value with
    | error e => simp [hfloat, bind, Except.bind] at h
    | ok reading =>
      cases reading with
      | none =>
        simp only [hfloat, bind, Except.bind, pure, Except.pure, Except.ok.injEq] at h
        subst h
        simp at hx
      | some y =>
        cases hrest : m.instant series with
        | error e => simp [hfloat, hrest, bind, Except.bind] at h
        | ok rest =>
          simp only [hfloat, hrest, bind, Except.bind, pure, Except.pure, Except.ok.injEq] at h
          subst h
          rcases List.mem_cons.mp hx with rfl | hx
          · exact ⟨series, hmem, value, .inl hvalue, hfloat⟩
          · exact hinstant hrest hx

/-- The rounds of a list are those of its members. -/
private theorem mem_of_mapM_readings {samples : List (Series F)} {rounds : List (List F)}
    (h : samples.mapM m.readings = .ok rounds) {round : List F} (hround : round ∈ rounds) :
    ∃ series ∈ samples, m.readings series = .ok round := by
  induction samples generalizing rounds with
  | nil =>
    cases h
    simp at hround
  | cons series rest ih =>
    rw [List.mapM_cons] at h
    cases hfirst : m.readings series with
    | error e => simp [hfirst, bind, Except.bind] at h
    | ok first =>
      cases hrest : rest.mapM m.readings with
      | error e => simp [hfirst, hrest, bind, Except.bind] at h
      | ok others =>
        simp only [hfirst, hrest, bind, Except.bind, pure, Except.pure, Except.ok.injEq] at h
        subst h
        rcases List.mem_cons.mp hround with rfl | hround
        · exact ⟨series, List.mem_cons_self, hfirst⟩
        · obtain ⟨other, hmem, hother⟩ := ih hrest hround
          exact ⟨other, List.mem_cons_of_mem series hmem, hother⟩

/-- A scalar is the sum of numbers that are read. -/
theorem readings_of_latestScalar {samples : List (Series F)} {x : F}
    (h : m.latestScalar samples = .ok (some x)) :
    ∃ readings, readings ≠ [] ∧ (∀ y ∈ readings, Reads m samples y) ∧ x = m.sum readings := by
  unfold Metrics.latestScalar at h
  cases hrounds : samples.mapM m.readings with
  | error e => simp [hrounds, bind, Except.bind] at h
  | ok rounds =>
    simp only [hrounds, bind, Except.bind, pure, Except.pure, Except.ok.injEq] at h
    split at h
    · cases h
    · next hne =>
      refine ⟨rounds.flatten, by simpa using hne, ?_, (Option.some.inj h).symm⟩
      intro y hy
      obtain ⟨round, hround, hy⟩ := List.mem_flatten.mp hy
      obtain ⟨series, hmem, hseries⟩ := mem_of_mapM_readings hrounds hround
      exact reads_of_mem_readings hseries hy hmem

/-- Every signal has its check. -/
theorem exists_check_of_type [LE F] [DecidableLE F] (r : Readings F) (type : SignalType) :
    ∃ check ∈ signalChecks m plan r, check.type = type := by
  have hmem : type ∈ (signalChecks m plan r).map (·.type) := by
    simp only [signalChecks, List.map_cons, List.map_nil, countCheck, restartCheck, scalarCheck,
      healthCheckOf]
    cases type <;> decide
  obtain ⟨check, hcheck, htype⟩ := List.mem_map.mp hmem
  exact ⟨check, hcheck, htype⟩

/-- A required check that passed rests on what was read. -/
theorem supported_of_evidenced [LE F] [DecidableLE F] {moments : Nat → World} {r : Readings F}
    (h : Evidenced env m plan moments r) {check : SignalCheck F}
    (hcheck : check ∈ signalChecks m plan r) (hrequired : check.required)
    (hpassed : check.passed) :
    Supported env m plan moments ServicePayload.healthy check.type := by
  have hscalar {threshold : F} {query : String} {reading : Option F}
      (hread : ∀ x ∈ reading, Sampled m moments query x)
      (hany : reading.any (· ≤ threshold)) : ∃ x, Sampled m moments query x ∧ x ≤ threshold := by
    cases reading with
    | none => simp at hany
    | some x => exact ⟨x, hread x rfl, by simpa using hany⟩
  simp only [signalChecks, List.mem_cons, List.not_mem_nil, or_false] at hcheck
  rcases hcheck with rfl | rfl | rfl | rfl | rfl | rfl | rfl
  · obtain ⟨n, deployment, hread, hready⟩ := h.replicas
    simp only [countCheck, decide_eq_true_eq, hready] at hpassed
    -- a missing count is no expected one
    have hpos := plan.expectedReplicas_mem.1
    cases hcount : deployment.readyReplicas with
    | none =>
      rw [hcount, Option.getD_none] at hpassed
      omega
    | some ready =>
      rw [hcount, Option.getD_some] at hpassed
      exact ⟨n, deployment, ready, hread, hcount, hpassed⟩
  · obtain ⟨n, pods, hread, hready⟩ := h.pods
    simp only [countCheck, decide_eq_true_eq, hready] at hpassed
    exact ⟨n, pods, hread, hpassed⟩
  · exact absurd hrequired Bool.false_ne_true
  · exact hscalar h.errorRate hpassed
  · exact hscalar h.latency hpassed
  · exact h.health hpassed
  · exact h.health hpassed

end Evidence

end CloudWard.Verification
