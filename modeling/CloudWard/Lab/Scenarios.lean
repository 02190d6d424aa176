import CloudWard.Security.Reconcile

/-!
# Scenarios and their executions

The closed catalog of `demo/scenarios.py`, the row of `db/models.py:429` and what
`start_scenario` (`api/incident_lab.py:104`) writes of it. Lists and nested objects among the
details (`expected_signals`, `opa_decision`, `trigger`, `gitops_trigger`) are read by nothing
here and left out.
-/

namespace CloudWard.Lab

open CloudWard.Db CloudWard.Logic CloudWard.Security

/-- `ScenarioMechanism`, `demo/scenarios.py:22`. -/
inductive ScenarioMechanism
  | gitopsRelease
  | stressChaos
  | podChaos
  | safeDemoEndpoint
  | finopsAnalysis
deriving DecidableEq, Repr

/-- The enum's string value. -/
def ScenarioMechanism.value : ScenarioMechanism → String
  | gitopsRelease => "GITOPS_RELEASE"
  | stressChaos => "STRESS_CHAOS"
  | podChaos => "POD_CHAOS"
  | safeDemoEndpoint => "SAFE_DEMO_ENDPOINT"
  | finopsAnalysis => "FINOPS_ANALYSIS"

/-- `DEMO_NAMESPACE`, `demo/scenarios.py:11`. -/
def demoNamespace : String := "cloudward-staging"

/-- `DEMO_SELECTOR`, `demo/scenarios.py:12`, by its entries. -/
def demoSelector : List (String × String) := [("cloudward.io/demo-target", "true")]

/-- `ChaosScenario`, `demo/scenarios.py:30`. -/
structure ChaosScenario where
  id : String
  mechanism : ScenarioMechanism
  targetNamespace : String := demoNamespace
  targetSelector : List (String × String) := demoSelector
  durationSeconds : Nat
  expectedAlert : String
  expectedRunbook : String
  cleanupStrategy : String
  maxRuntimeSeconds : Nat

/-- `SCENARIOS`, `demo/scenarios.py:48`. -/
def scenarios : List ChaosScenario := [
  { id := "reliability.bad-deployment"
    mechanism := .gitopsRelease
    durationSeconds := 120
    expectedAlert := "HighHTTPErrorRate"
    expectedRunbook := "reliability.bad-deployment"
    cleanupStrategy := "restore_known_good_gitops_revision"
    maxRuntimeSeconds := 300 },
  { id := "reliability.cpu-saturation"
    mechanism := .stressChaos
    durationSeconds := 90
    expectedAlert := "HighCPUSaturation"
    expectedRunbook := "reliability.cpu-saturation"
    cleanupStrategy := "delete_stresschaos"
    maxRuntimeSeconds := 240 },
  { id := "reliability.memory-pressure"
    mechanism := .stressChaos
    durationSeconds := 60
    expectedAlert := "ContainerOOMKilled"
    expectedRunbook := "reliability.memory-pressure"
    cleanupStrategy := "delete_stresschaos"
    maxRuntimeSeconds := 240 },
  { id := "reliability.platform-self-healing"
    mechanism := .podChaos
    durationSeconds := 30
    expectedAlert := "WorkloadUnavailable"
    expectedRunbook := "reliability.platform-self-healing"
    cleanupStrategy := "delete_podchaos"
    maxRuntimeSeconds := 180 },
  { id := "security.suspicious-shell-pattern"
    mechanism := .safeDemoEndpoint
    durationSeconds := 30
    expectedAlert := "TetragonUnexpectedShell"
    expectedRunbook := "security.suspicious-shell-pattern"
    cleanupStrategy := "remove_quarantine_and_demo_state"
    maxRuntimeSeconds := 180 },
  { id := "security.unexpected-egress"
    mechanism := .safeDemoEndpoint
    durationSeconds := 30
    expectedAlert := "TetragonUnexpectedEgress"
    expectedRunbook := "security.unexpected-egress"
    cleanupStrategy := "remove_quarantine_and_demo_state"
    maxRuntimeSeconds := 180 },
  { id := "security.privilege-related-behavior"
    mechanism := .safeDemoEndpoint
    durationSeconds := 30
    expectedAlert := "TetragonPrivilegeBehavior"
    expectedRunbook := "security.privilege-related-behavior"
    cleanupStrategy := "remove_quarantine_and_demo_state"
    maxRuntimeSeconds := 180 },
  { id := "finops.overprovisioned-workload"
    mechanism := .finopsAnalysis
    durationSeconds := 30
    expectedAlert := "FinOpsAnalysisComplete"
    expectedRunbook := "finops.workload-rightsizing"
    cleanupStrategy := "analysis_only_no_live_mutation"
    maxRuntimeSeconds := 180 },
  { id := "finops.wasted-node-capacity"
    mechanism := .finopsAnalysis
    durationSeconds := 30
    expectedAlert := "FinOpsAnalysisComplete"
    expectedRunbook := "finops.node-efficiency"
    cleanupStrategy := "analysis_only_no_live_mutation"
    maxRuntimeSeconds := 180 }]

/-- `FINOPS_SCENARIOS`, `finops/service.py:32`. -/
def finopsScenarios : List String :=
  ["finops.overprovisioned-workload", "finops.wasted-node-capacity"]

/-- The FinOps scenarios of the catalog are those with that mechanism. -/
theorem mem_finopsScenarios {scenario : ChaosScenario} (h : scenario ∈ scenarios) :
    scenario.id ∈ finopsScenarios ↔ scenario.mechanism = .finopsAnalysis := by
  simp only [scenarios, List.mem_cons, List.not_mem_nil, or_false] at h
  rcases h with rfl | rfl | rfl | rfl | rfl | rfl | rfl | rfl | rfl <;> simp [finopsScenarios]

/-- `get_scenario`, `demo/scenarios.py:202`. -/
def getScenario (scenarioId : String) : Except CloudWardError ChaosScenario :=
  match scenarios.find? (·.id = scenarioId) with
  | some scenario => .ok scenario
  | none => .error ⟨"SCENARIO_NOT_FOUND", "Incident Lab scenario was not found", 404⟩

/-! ### Executions -/

/-- `{**details, **entries}`: a key has the value of its first entry. -/
def merged (details entries : Parameters) : Parameters := entries ++ details

/-- `ChaosExecution`, `db/models.py:429`. -/
structure ChaosExecution where
  createdAt : Nat := 0
  scenarioId : String
  status : ExperimentStatus := .pending
  requestedBy : String
  targetNamespace : String
  targetSelector : List (String × String)
  expectedAlert : String
  expectedRunbook : String
  resourceKind : Option String := none
  resourceName : Option String := none
  maxRuntimeSeconds : Nat
  cleanupDeadline : Nat
  startedAt : Option Nat := none
  completedAt : Option Nat := none
  cleanupCompletedAt : Option Nat := none
  failureReason : Option String := none
  details : Parameters

/-- `ACTIVE_EXPERIMENT_STATES`, `api/incident_lab.py:45`. -/
def isActive (status : ExperimentStatus) : Bool := status ∈ [.pending, .running, .stopping]

/-- An execution that is not over. -/
def ChaosExecution.active (x : ChaosExecution) : Bool := isActive x.status

/-! ### Starting -/

/-- `ChaosPolicyResult`, `policies/chaos.py:25`. -/
structure ChaosPolicyResult where
  allowed : Bool
  reason : String

/-- `Settings.denied_chaos_namespaces`, `config.py:462`. -/
def deniedChaosNamespaces : List String :=
  ["cloudward-production", "kube-system", "argocd", "observability", "kyverno", "tetragon",
    "chaos-mesh"]

/-- `_enforce_scenario_target`, `api/incident_lab.py:521`. -/
def enforceScenarioTarget (scenario : ChaosScenario) (settings : Settings) :
    Except CloudWardError Unit :=
  if scenario.targetNamespace ∈ deniedChaosNamespaces then
    .error ⟨"CHAOS_TARGET_DENIED", "Protected namespace cannot be targeted", 403⟩
  else if scenario.targetNamespace ≠ settings.incidentLabNamespace then
    .error ⟨"CHAOS_TARGET_DENIED", "Only cloudward-staging may be targeted", 403⟩
  else if scenario.targetSelector ≠ demoSelector then
    .error ⟨"CHAOS_TARGET_DENIED", "Demo target label is required", 403⟩
  else .ok ()

/-- `start_scenario` up to its query, `api/incident_lab.py:115`: a request that the rest works
on, or an error. The decision is OPA's; an analysis asks for none. -/
def checkStart (settings : Settings) (policy : ChaosPolicyResult)
    (executions : Table ChaosExecution) (scenarioId : String) :
    Except CloudWardError ChaosScenario := do
  let scenario ← getScenario scenarioId
  enforceScenarioTarget scenario settings
  if scenario.mechanism ≠ .finopsAnalysis ∧ ¬ policy.allowed then
    .error ⟨"CHAOS_POLICY_DENIED", policy.reason, 403⟩
  else if executions.any (fun x ↦ x.scenarioId = scenario.id ∧ x.active) then
    .error ⟨"SCENARIO_ALREADY_RUNNING", "This scenario already has an active execution", 409⟩
  else .ok scenario

/-- The row of a start, `api/incident_lab.py:151`. -/
def newExecution (settings : Settings) (scenario : ChaosScenario) (principal : String)
    (now : Nat) : ChaosExecution where
  scenarioId := scenario.id
  createdAt := now
  requestedBy := principal
  targetNamespace := scenario.targetNamespace
  targetSelector := scenario.targetSelector
  expectedAlert := scenario.expectedAlert
  expectedRunbook := scenario.expectedRunbook
  maxRuntimeSeconds := min scenario.maxRuntimeSeconds settings.chaosMaxRuntimeSeconds
  cleanupDeadline := now + min scenario.maxRuntimeSeconds settings.chaosMaxRuntimeSeconds
  details := [
    ("current_step", .str "STARTING"),
    ("cleanup_strategy", .str scenario.cleanupStrategy),
    ("mechanism", .str scenario.mechanism.value)]

/-- The kind of the resource that a start creates. -/
def resourceKind : ScenarioMechanism → String
  | .stressChaos => "StressChaos"
  | .podChaos => "PodChaos"
  | .gitopsRelease => "GitOpsRevision"
  | .safeDemoEndpoint => "SafeDemoEndpoint"
  | .finopsAnalysis => "FinOpsAnalysis"

/-- The details that a start adds once its resource is there. -/
def startedDetails (now : Nat) : ScenarioMechanism → Parameters
  | .stressChaos => [("current_step", .str "WAITING_FOR_EXPECTED_ALERT")]
  | .podChaos => [("current_step", .str "WAITING_FOR_EXPECTED_ALERT")]
  | .gitopsRelease => [("current_step", .str "WAITING_FOR_GITOPS_ROLLOUT_AND_ALERT")]
  | .safeDemoEndpoint => [
    ("current_step", .str "WAITING_FOR_SECURITY_EVENT"),
    ("triggered_at", .int now),
    ("trigger_timeout_seconds", .int 5)]
  | .finopsAnalysis => [
    ("current_step", .str "COLLECTING_OPENCOST_AND_PROMETHEUS"),
    ("read_only", .bool true),
    ("live_mutation", .bool false)]

/-- The row a start commits, `api/incident_lab.py:179`: every mechanism of the catalog has its
branch, which names the resource it created. -/
def started (settings : Settings) (scenario : ChaosScenario) (principal resource : String)
    (now : Nat) : ChaosExecution :=
  let execution := newExecution settings scenario principal now
  { execution with
    resourceKind := some (resourceKind scenario.mechanism)
    resourceName := some resource
    status := .running
    startedAt := some now
    details := merged execution.details (startedDetails now scenario.mechanism) }

/-- A start commits an active row of its scenario. -/
@[simp] theorem active_started (settings : Settings) (scenario : ChaosScenario)
    (principal resource : String) (now : Nat) :
    (started settings scenario principal resource now).active := rfl

/-- The scenario of a request that passed the checks is in the catalog, and none of its
executions is active. -/
theorem checkStart_eq_ok {settings : Settings} {policy : ChaosPolicyResult}
    {executions : Table ChaosExecution} {scenarioId : String} {scenario : ChaosScenario}
    (h : checkStart settings policy executions scenarioId = .ok scenario) :
    scenario ∈ scenarios ∧
      ∀ x ∈ executions, x.scenarioId = scenario.id → x.active = false := by
  unfold checkStart at h
  cases hfound : scenarios.find? (·.id = scenarioId) with
  | none => simp [getScenario, hfound, bind, Except.bind] at h
  | some found =>
    simp only [getScenario, hfound, bind, Except.bind] at h
    split at h
    · cases h
    · split at h
      · cases h
      · split at h
        · cases h
        · next hnone =>
          cases h
          refine ⟨List.mem_of_find?_eq_some hfound, ?_⟩
          intro x hx hscenario
          by_contra hactive
          apply hnone
          rw [List.any_eq_true]
          exact ⟨x, hx, by simpa [hscenario] using hactive⟩

end CloudWard.Lab
