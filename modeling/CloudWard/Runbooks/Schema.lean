import CloudWard.Remediation.Actions

/-!
# Runbook documents and the loader's choice

`runbooks/schema.py` and the matching half of `runbooks/loader.py`. A document carries
what `RunbookDocument` validates about the fields the workflows read: its preconditions,
its verification timeout and its action contract. A library is what `RunbookLoader.load`
accepts: documents with distinct keys `(id, version)`.
-/

namespace CloudWard.Runbooks

open CloudWard.Remediation

/-- `PreconditionsSchema`, `runbooks/schema.py:52`. -/
structure PreconditionsSchema where
  maxTargetPods : Nat
  controllerManaged : Bool
  maxTargetPods_mem : 1 ≤ maxTargetPods ∧ maxTargetPods ≤ 10
deriving DecidableEq

/-- `RunbookDocument`, `runbooks/schema.py:87`, with the action contract as a field. -/
structure RunbookDocument where
  id : String
  version : Nat
  environments : List Environment
  incidentType : String
  conditions : List String
  preconditions : PreconditionsSchema
  action : ActionType
  timeoutSeconds : Nat
  rollbackEnabled : Bool
  version_pos : 1 ≤ version
  conditions_ne : conditions ≠ []
  timeout_mem : 1 ≤ timeoutSeconds ∧ timeoutSeconds ≤ 600
  supported : ∀ e ∈ environments, e ∈ (getActionMetadata action).allowedEnvironments
  rollback_capable : rollbackEnabled → (getActionMetadata action).rollbackCapable

/-- The documents `RunbookLoader.load` keeps, `runbooks/loader.py:68`. -/
structure RunbookLoader where
  runbooks : List RunbookDocument
  unique : runbooks.Pairwise fun r r' ↦ (r.id, r.version) ≠ (r'.id, r'.version)

/-- `RUNBOOK_NOT_FOUND`, `runbooks/loader.py:117`. -/
def runbookNotFound : Exc :=
  .cloudWard
    { code := "RUNBOOK_NOT_FOUND"
      message := "No deterministic runbook matches the incident evidence"
      statusCode := 422 }

/-- The candidate filter of `match`, `runbooks/loader.py:108`. -/
def RunbookDocument.applies (runbook : RunbookDocument) (incidentType : String)
    (conditions : List String) (environment : Environment) : Bool :=
  runbook.incidentType = incidentType ∧ (∀ c ∈ runbook.conditions, c ∈ conditions) ∧
    environment ∈ runbook.environments

/-- The order of the sort key `(version, id)`, reversed: `r` comes before `r'`. -/
def RunbookDocument.before (r r' : RunbookDocument) : Bool :=
  r'.version < r.version ∨ (r.version = r'.version ∧ r'.id ≤ r.id)

private def best : List RunbookDocument → Option RunbookDocument
  | [] => none
  | r :: rest =>
      match best rest with
      | none => some r
      | some r' => if r.before r' then some r else some r'

/-- `RunbookLoader.match`, `runbooks/loader.py:105`: the first candidate of the sorted list. -/
def RunbookLoader.matching (loader : RunbookLoader) (incidentType : String)
    (conditions : List String) (environment : Environment) : Except Exc RunbookDocument :=
  match best (loader.runbooks.filter (·.applies incidentType conditions environment)) with
  | none => .error runbookNotFound
  | some runbook => .ok runbook

private theorem mem_of_best : ∀ {rs : List RunbookDocument} {r : RunbookDocument},
    best rs = some r → r ∈ rs
  | [], _, h => by simp [best] at h
  | r :: rest, r', h => by
      simp only [best] at h
      split at h
      · cases h
        exact List.mem_cons_self
      · next r'' hr =>
        split at h
        · cases h
          exact List.mem_cons_self
        · cases h
          exact List.mem_cons_of_mem _ (mem_of_best hr)

/-- A matched runbook is in the library and applies. -/
theorem RunbookLoader.matching_eq_ok {loader : RunbookLoader} {incidentType : String}
    {conditions : List String} {environment : Environment} {r : RunbookDocument}
    (h : loader.matching incidentType conditions environment = .ok r) :
    r ∈ loader.runbooks ∧ r.applies incidentType conditions environment := by
  unfold RunbookLoader.matching at h
  split at h
  · cases h
  · next hb =>
    cases h
    simpa using mem_of_best hb

/-- A matched runbook's action may run in the environment it was matched for. -/
theorem RunbookLoader.environment_mem_of_matching {loader : RunbookLoader}
    {incidentType : String} {conditions : List String} {environment : Environment}
    {r : RunbookDocument} (h : loader.matching incidentType conditions environment = .ok r) :
    environment ∈ (getActionMetadata r.action).allowedEnvironments := by
  have happ := (loader.matching_eq_ok h).2
  simp only [RunbookDocument.applies, Bool.decide_and, Bool.and_eq_true,
    decide_eq_true_eq] at happ
  exact r.supported environment happ.2.2

/-- The only way `match` fails is `RUNBOOK_NOT_FOUND`. -/
theorem RunbookLoader.matching_eq_error {loader : RunbookLoader} {incidentType : String}
    {conditions : List String} {environment : Environment} {e : Exc}
    (h : loader.matching incidentType conditions environment = .error e) :
    e = runbookNotFound := by
  unfold RunbookLoader.matching at h
  split at h
  · cases h
    rfl
  · cases h

/-- The library of one document. -/
def RunbookLoader.only (r : RunbookDocument) : RunbookLoader := ⟨[r], List.pairwise_singleton _ _⟩

/-- The only document of a library is matched where it applies. -/
theorem RunbookLoader.matching_only {r : RunbookDocument} {incidentType : String}
    {conditions : List String} {environment : Environment}
    (h : r.applies incidentType conditions environment) :
    (RunbookLoader.only r).matching incidentType conditions environment = .ok r := by
  simp only [RunbookLoader.matching, RunbookLoader.only, List.filter_cons, h, if_true,
    List.filter_nil, best]

/-! ### Four runbooks of the repository -/

/-- `runbooks/reliability.unhealthy-pod.yaml`. -/
def unhealthyPod : RunbookDocument where
  id := "reliability.unhealthy-pod"
  version := 1
  environments := [.local, .staging]
  incidentType := "reliability"
  conditions := ["pod_unhealthy"]
  preconditions := ⟨1, true, by decide⟩
  action := .deleteUnhealthyPod
  timeoutSeconds := 120
  rollbackEnabled := false
  version_pos := by decide
  conditions_ne := by decide
  timeout_mem := by decide
  supported := by decide
  rollback_capable := by decide

/-- A library with that runbook. -/
def unhealthyPodLibrary : RunbookLoader := ⟨[unhealthyPod], List.pairwise_singleton _ _⟩

/-- `runbooks/reliability.memory-pressure.yaml`. -/
def memoryPressure : RunbookDocument where
  id := "reliability.memory-pressure"
  version := 1
  environments := [.staging]
  incidentType := "reliability.memory-pressure"
  conditions := ["container_oomkilled", "restart_count_increased"]
  preconditions := ⟨3, true, by decide⟩
  action := .deleteUnhealthyPod
  timeoutSeconds := 180
  rollbackEnabled := false
  version_pos := by decide
  conditions_ne := by decide
  timeout_mem := by decide
  supported := by decide
  rollback_capable := by decide

/-- A library with that runbook. -/
def memoryPressureLibrary : RunbookLoader := ⟨[memoryPressure], List.pairwise_singleton _ _⟩

/-- `runbooks/reliability.cpu-saturation.yaml`. -/
def cpuSaturation : RunbookDocument where
  id := "reliability.cpu-saturation"
  version := 1
  environments := [.staging]
  incidentType := "reliability.cpu-saturation"
  conditions := ["cpu_saturated", "latency_degraded"]
  preconditions := ⟨10, true, by decide⟩
  action := .scaleStagingDeployment
  timeoutSeconds := 180
  rollbackEnabled := true
  version_pos := by decide
  conditions_ne := by decide
  timeout_mem := by decide
  supported := by decide
  rollback_capable := by decide

/-- A library with that runbook. -/
def cpuSaturationLibrary : RunbookLoader := ⟨[cpuSaturation], List.pairwise_singleton _ _⟩

/-- `runbooks/reliability.bad-deployment.yaml`. -/
def badDeployment : RunbookDocument where
  id := "reliability.bad-deployment"
  version := 1
  environments := [.staging]
  incidentType := "reliability.bad-deployment"
  conditions := ["high_http_error_rate", "recent_deployment"]
  preconditions := ⟨10, true, by decide⟩
  action := .revertImage
  timeoutSeconds := 180
  rollbackEnabled := true
  version_pos := by decide
  conditions_ne := by decide
  timeout_mem := by decide
  supported := by decide
  rollback_capable := by decide

/-- A library with that runbook. -/
def badDeploymentLibrary : RunbookLoader := ⟨[badDeployment], List.pairwise_singleton _ _⟩

end CloudWard.Runbooks
