import CloudWard.Auth.Routes
import CloudWard.Base.Uuid
import CloudWard.Lab.Reconcile
import CloudWard.Lab.Sessions
import CloudWard.Logic.Rego
import CloudWard.Policies.Client

/-!
# Chaos experiments

What the Incident Lab makes in the cluster: the policy of `policies/opa/chaos.rego` and its client
(`policies/chaos.py`), the objects that `demo/executor.py` builds, and the machine of the starts,
stops and worker's passes over the rows and these objects. A start makes its object before it
commits its row (`api/incident_lab.py:180`); a stop and a pass delete it before they commit an
ending.

A step is one request to Kubernetes or one transaction. What else a request comes to is its
caller's choice of moves: it may end anywhere (`abandon`), and the commits inside
`remove_quarantine` and its like (`commitDetails`) end its row lock.
-/

namespace CloudWard.Lab.Experiments

open CloudWard.Db CloudWard.Kubernetes CloudWard.Logic CloudWard.Logic.Rego
  CloudWard.Policies.OPAClient CloudWard.Rbac CloudWard.Security

/-! ### The policy -/

/-- `ChaosPolicyInput`, `policies/chaos.py:13`. -/
structure ChaosPolicyInput where
  scenarioId : String
  actorRole : String
  ns : String
  selector : List (String × String)
  durationSeconds : Nat
  durationSeconds_mem : 1 ≤ durationSeconds ∧ durationSeconds ≤ 600

/-- The input document, `policies/chaos.py:39`. -/
def ChaosPolicyInput.document (input : ChaosPolicyInput) : Value :=
  .obj [
    ("scenario_id", .str input.scenarioId),
    ("actor_role", .str input.actorRole),
    ("namespace", .str input.ns),
    ("selector", .obj (input.selector.map fun entry ↦ (entry.1, .str entry.2))),
    ("duration_seconds", .num input.durationSeconds)]

/-- `startswith`, which asks for a string. -/
def startsWith (t : Term) (start : String) : Bool :=
  match t with
  | some (.str s) => start.toList.isPrefixOf s.toList
  | _ => false

/-- `t == {key: value}`. -/
def eqSingleton (t : Term) (key value : String) : Bool :=
  keysAre t [key] && eqString (get t key) value

/-- `protected_namespaces`, `chaos.rego:5`. -/
def protectedNamespaces : List String :=
  ["cloudward-production", "kube-system", "argocd", "observability", "kyverno", "tetragon",
    "chaos-mesh"]

/-- `allowed`, `chaos.rego:19`. -/
def allowed (input : Value) : Bool :=
  let field := get (some input)
  inStrings (field "actor_role") ["Operator", "Admin"] &&
    (startsWith (field "scenario_id") "reliability." ||
      startsWith (field "scenario_id") "security.") &&
    eqString (field "namespace") "cloudward-staging" &&
    ! inStrings (field "namespace") protectedNamespaces &&
    eqSingleton (field "selector") "cloudward.io/demo-target" "true" &&
    (field "duration_seconds").any (·.moreThan 0) &&
    le (field "duration_seconds") 300

/-- `decision`, `chaos.rego:29`. -/
def decision (input : Value) : ChaosPolicyResult :=
  rule ⟨false, "chaos target, actor, selector, or duration denied"⟩
    [(allowed input, ⟨true, "typed staging demo scenario allowed"⟩)]

/-- How `ChaosPolicyClient.evaluate` raises. -/
inductive PolicyFailure
  | cloudWard (error : CloudWardError)
  | uncaught (exception : Uncaught)

/-- `OPA_UNAVAILABLE`. -/
def unavailable : PolicyFailure :=
  .cloudWard ⟨"OPA_UNAVAILABLE", "Chaos policy evaluation is unavailable", 503⟩

/-- `ChaosPolicyResult.model_validate`; other keys are forbidden. -/
def validateResult (fields : List (String × Json)) : Option ChaosPolicyResult := do
  if fields.all fun entry ↦ entry.1 ∈ ["allowed", "reason"] then
    let allowed ← laxBool (← fields.lookup "allowed")
    let .str reason ← fields.lookup "reason" | none
    some ⟨allowed, reason⟩
  else none

/-- The part of `evaluate` after the request. -/
def readEnvelope : Json → Except PolicyFailure ChaosPolicyResult
  | .dict entries =>
    match entries.lookup "result" with
    | some (.dict fields) =>
      match validateResult fields with
      | some result => .ok result
      | none =>
        .error (.cloudWard ⟨"INVALID_OPA_RESPONSE", "OPA chaos decision was invalid", 502⟩)
    | _ => .error (.cloudWard ⟨"INVALID_OPA_RESPONSE", "OPA returned no chaos decision", 502⟩)
  | _ => .error (.cloudWard ⟨"INVALID_OPA_RESPONSE", "OPA returned no chaos decision", 502⟩)

/-- `ChaosPolicyClient.evaluate`, `policies/chaos.py:35`. -/
def evaluate (loads : Loads) : HttpOutcome → Except PolicyFailure ChaosPolicyResult
  | .httpError => .error unavailable
  | .otherError => .error (.uncaught .client)
  | .response status body =>
    -- `raise_for_status` lets 2xx pass
    if 200 ≤ status ∧ status < 300 then
      match loads body with
      | .ok envelope => readEnvelope envelope
      | .error .value => .error unavailable
      | .error .recursion => .error (.uncaught .recursion)
    else .error unavailable

/-! ### Objects -/

/-- `labelSelectors` and `namespaces` of a spec. -/
structure Selector where
  namespaces : List String
  labelSelectors : List (String × String)

/-- What an experiment does to the pod. -/
inductive Effect
  | cpu (workers load : Nat)
  | memory (workers : Nat) (size : String)
  | podKill (gracePeriod : Nat)

/-- The `spec` of an experiment. -/
structure Spec where
  mode : String
  selector : Selector
  effect : Effect
  duration : String

/-- The `metadata` of an experiment. -/
structure Metadata where
  name : String
  ns : String
  labels : List (String × String)

/-- The body that `create_typed_custom_object` sends. -/
structure Body where
  apiVersion : String
  kind : String
  metadata : Metadata
  spec : Spec

/-- `StartedScenarioResource`, `demo/executor.py:18`. -/
structure StartedScenarioResource where
  kind : String
  plural : String
  name : String

/-- The name of an execution's experiment. -/
def experimentName (executionId : Uuid) : String :=
  "cloudward-" ++ String.ofList (executionId.text.toList.take 12)

/-- `_metadata`, `demo/executor.py:24`. -/
def metadata (executionId : Uuid) (scenario : ChaosScenario) : Metadata where
  name := experimentName executionId
  ns := scenario.targetNamespace
  labels := [
    ("app.kubernetes.io/managed-by", "cloudward"),
    ("cloudward.io/scenario",
      String.ofList ((scenario.id.toList.map fun c ↦ if c = '.' then '-' else c).take 63)),
    ("cloudward.io/execution", executionId.text)]

/-- `_selector`, `demo/executor.py:36`. -/
def selector (scenario : ChaosScenario) : Except CloudWardError Selector :=
  if scenario.targetNamespace ≠ "cloudward-staging" ∨ scenario.targetSelector ≠ demoSelector then
    .error ⟨"CHAOS_TARGET_DENIED", "Chaos target violates the immutable staging policy", 403⟩
  else .ok ⟨["cloudward-staging"], demoSelector⟩

/-- The `stressors` of a scenario. -/
def stressors (scenario : ChaosScenario) : Except CloudWardError Effect :=
  if scenario.id = "reliability.cpu-saturation" then .ok (.cpu 1 80)
  else if scenario.id = "reliability.memory-pressure" then .ok (.memory 1 "96MB")
  else .error { code := "SCENARIO_NOT_EXECUTABLE", message := "Unknown stress scenario" }

/-- The body of an experiment. -/
def bodyOf (kind : String) (scenario : ChaosScenario) (executionId : Uuid) (effect : Effect)
    (selector : Selector) : Body where
  apiVersion := "chaos-mesh.org/v1alpha1"
  kind := kind
  metadata := metadata executionId scenario
  spec := {
    mode := "one"
    selector := selector
    effect := effect
    duration := toString scenario.durationSeconds ++ "s" }

/-- `ChaosMeshScenarioExecutor.start` up to its request, `demo/executor.py:55`. -/
def experiment (scenario : ChaosScenario) (executionId : Uuid) :
    Except CloudWardError (Body × StartedScenarioResource) :=
  match scenario.mechanism with
  | .stressChaos => do
    let effect ← stressors scenario
    let selector ← selector scenario
    return (bodyOf "StressChaos" scenario executionId effect selector,
      ⟨"StressChaos", "stresschaos", experimentName executionId⟩)
  | .podChaos => do
    let selector ← selector scenario
    return (bodyOf "PodChaos" scenario executionId (.podKill 0) selector,
      ⟨"PodChaos", "podchaos", experimentName executionId⟩)
  | _ => .error ⟨"SCENARIO_REQUIRES_TYPED_WORKER",
      "This scenario is executed by its fixed GitOps or security worker", 409⟩

/-! ### The machine -/

/-- What all processes share; `uuid` gives the execution of each start its identity. -/
structure Deployment where
  settings : Settings
  loads : Loads
  uuid : Nat → Uuid

/-- A request to start a scenario, with what OPA and the pod list answer to it. -/
structure StartRequest where
  scenarioId : String
  login : String
  role : Role
  opa : HttpOutcome
  pods : Except Exc (List PodState)

/-- How the Kubernetes API treats a write. -/
inductive Reply
  | accepted
  /-- It fails for another reason than a name that is taken or not there. -/
  | refused
  /-- It takes effect, but the answer does not arrive. -/
  | lost
deriving DecidableEq

/-- An object of the cluster, and the start that made it. -/
structure Object where
  body : Body
  plural : String
  start : Option Nat

/-- The place of an object: no two have the same. -/
def Object.place (o : Object) : String × String × String :=
  (o.body.metadata.ns, o.plural, o.body.metadata.name)

/-- The creation of an experiment. -/
structure Creation where
  start : Nat
  request : StartRequest
  scenario : ChaosScenario
  body : Body
  resource : StartedScenarioResource

/-- The object that a creation makes. -/
def Creation.object (c : Creation) : Object := ⟨c.body, c.resource.plural, some c.start⟩

/-- A row, and the start that committed it. -/
structure Execution where
  row : ChaosExecution
  start : Nat

/-- A stop, or a pass of the worker, over a row it loaded. -/
structure Pass where
  id : Nat
  loaded : ChaosExecution
  /-- Who stops it; the worker has no name. -/
  stopper : Option String
  locked : Bool := true
  cleaned : Bool := false

/-- A request between two of its steps. -/
inductive Session
  | admitted (request : StartRequest) (scenario : ChaosScenario)
  | prepared (scenario : ChaosScenario) (login kind name : String)
  | recording (id : Nat) (loaded : ChaosExecution)
  | passing (pass : Pass)
  | ended

/-- The committed rows, the cluster's objects and the requests; and what was created, and which
starts ended after their experiment was made and before they committed. -/
structure State where
  executions : Table Execution := []
  objects : List Object := []
  sessions : Table Session := []
  created : List Creation := []
  lost : List Nat := []

/-- How a start is refused. -/
inductive Refusal
  | cloudWard (error : CloudWardError)
  | policy (failure : PolicyFailure)
  | other (exception : Exc)

/-- What the policy is asked, `api/incident_lab.py:115`. -/
def policyInput (scenario : ChaosScenario) (role : Role)
    (h : 1 ≤ scenario.durationSeconds ∧ scenario.durationSeconds ≤ 600) : ChaosPolicyInput where
  scenarioId := scenario.id
  actorRole := Auth.roleValue role
  ns := scenario.targetNamespace
  selector := scenario.targetSelector
  durationSeconds := scenario.durationSeconds
  durationSeconds_mem := h

/-- On the catalog the policy allows who has the permission: the gates of a start agree. -/
theorem allowed_policyInput_iff {scenario : ChaosScenario} (hscenario : scenario ∈ scenarios)
    (hasks : scenario.mechanism ≠ .finopsAnalysis) (role : Role)
    (h : 1 ≤ scenario.durationSeconds ∧ scenario.durationSeconds ≤ 600) :
    (decision (policyInput scenario role h).document).allowed ↔
      hasPermission role .demoTrigger := by
  simp only [scenarios, List.mem_cons, List.not_mem_nil, or_false] at hscenario
  rcases hscenario with rfl | rfl | rfl | rfl | rfl | rfl | rfl | rfl | rfl
  all_goals first
    | exact absurd rfl hasks
    | revert h
      cases role <;> decide +kernel

/-- The decision on a start: an analysis asks for none. -/
def askPolicy (loads : Loads) (request : StartRequest) (scenario : ChaosScenario) :
    Except Refusal Unit :=
  if scenario.mechanism = .finopsAnalysis then .ok ()
  else match evaluate loads request.opa with
    | .error failure => .error (.policy failure)
    | .ok policy =>
      if policy.allowed then .ok ()
      else .error (.cloudWard ⟨"CHAOS_POLICY_DENIED", policy.reason, 403⟩)

/-- The pods of a start: an analysis looks for none. -/
def askPods (request : StartRequest) (scenario : ChaosScenario) : Except Refusal Unit :=
  if scenario.mechanism = .finopsAnalysis then .ok ()
  else match request.pods with
    | .error e => .error (.other e)
    | .ok [] => .error (.cloudWard ⟨"SCENARIO_TARGET_UNAVAILABLE",
        "No live demo-labeled staging target is available", 409⟩)
    | .ok (_ :: _) => .ok ()

/-- Raise unless a condition holds. -/
def ensure (c : Prop) [Decidable c] (error : CloudWardError) : Except Refusal Unit :=
  if c then .ok () else .error (.cloudWard error)

/-- `start_scenario` up to its flush, `api/incident_lab.py:98`. -/
def gates (d : Deployment) (request : StartRequest) (executions : Table Execution) :
    Except Refusal ChaosScenario := do
  ensure (hasPermission request.role .demoTrigger)
    ⟨"FORBIDDEN", s!"Role {Auth.roleValue request.role} lacks permission " ++
      Auth.permissionValue .demoTrigger, 403⟩
  let scenario ← (getScenario request.scenarioId).mapError .cloudWard
  let _ ← (enforceScenarioTarget scenario d.settings).mapError .cloudWard
  askPolicy d.loads request scenario
  ensure (¬ executions.any fun x ↦ x.row.scenarioId = scenario.id ∧ x.row.active)
    ⟨"SCENARIO_ALREADY_RUNNING", "This scenario already has an active execution", 409⟩
  askPods request scenario
  return scenario

/-- A request ends. -/
def State.close (s : State) (i : Nat) : State :=
  { s with sessions := s.sessions.update i fun _ ↦ .ended }

/-- A request goes on. -/
def State.goOn (s : State) (i : Nat) (session : Session) : State :=
  { s with sessions := s.sessions.update i fun _ ↦ session }

/-- A row is changed. -/
def State.write (s : State) (id : Nat) (f : ChaosExecution → ChaosExecution) : State :=
  { s with executions := s.executions.update id fun x ↦ { x with row := f x.row } }

/-- The namespace check of both operations on objects, `kubernetes/executor.py:209`. -/
def allowsNamespace (settings : Settings) (ns : String) : Bool :=
  validName ns ∧ ns ∈ settings.allowedNamespaces

/-- `create_typed_custom_object`, `kubernetes/executor.py:874`: a name that is taken is refused. -/
def State.create (s : State) (d : Deployment) (c : Creation) (reply : Reply) : State :=
  if ¬ allowsNamespace d.settings c.body.metadata.ns then s.close c.start
  else if reply = .refused ∨ s.objects.any (·.place = c.object.place) then s.close c.start
  else
    let made := { s with objects := c.object :: s.objects, created := c :: s.created }
    if reply = .accepted then
      made.goOn c.start (.prepared c.scenario c.request.login c.resource.kind c.resource.name)
    else { made.close c.start with lost := c.start :: s.lost }

/-- The scenarios that `_reconcile_security_execution` takes, `api/internal_reliability.py:340`. -/
def securityScenarios : List String :=
  ["security.suspicious-shell-pattern", "security.unexpected-egress",
    "security.privilege-related-behavior"]

/-- What the clean-up of a pass deletes, by plural and name: `_cleanup` and `stop_execution` ask
`ChaosMeshScenarioExecutor.cleanup`; a pass over a security scenario does not. -/
def Pass.target (pass : Pass) : Option (String × String) :=
  if pass.stopper = none ∧ pass.loaded.scenarioId ∈ securityScenarios then none
  else match pass.loaded.resource with
    | some (kind, name) => (pluralOf kind).map (·, name)
    | none => none

/-- `delete_typed_custom_object`, `kubernetes/executor.py:909`: an object that is not there is as
good as deleted. -/
def State.delete (s : State) (d : Deployment) (i : Nat) (pass : Pass) (reply : Reply) : State :=
  match pass.target with
  | none => s
  | some (plural, name) =>
    let ns := pass.loaded.targetNamespace
    let rest := { s with objects := s.objects.filter fun o ↦ o.place ≠ (ns, plural, name) }
    if ¬ allowsNamespace d.settings ns ∨ ¬ validName name ∨ reply = .refused then s.close i
    else if reply = .accepted then rest.goOn i (.passing { pass with cleaned := true })
    else rest.close i

/-- The end of a pass that has cleaned up, or has nothing to delete. -/
def State.finish (s : State) (i : Nat) (pass : Pass) (e : Ending) : State :=
  if pass.cleaned ∨ pass.target = none then (s.close i).write pass.id (e.write pass.loaded) else s

/-- The details of a pass, over a row; the first commit of a stop writes the status it has set. -/
def Pass.noted (pass : Pass) (entries : Parameters) (row : ChaosExecution) : ChaosExecution :=
  { note entries pass.loaded row with
    status := if pass.stopper.isSome ∧ pass.locked then .stopping else row.status }

/-- Some session holds the row. -/
def State.held (s : State) (id : Nat) : Bool :=
  s.sessions.any fun
    | .passing pass => pass.id = id ∧ pass.locked
    | _ => false

/-- What happens next. -/
inductive Move
  | start (request : StartRequest)
  | create (i : Nat) (reply : Reply)
  /-- A start of another mechanism has its resource. -/
  | prepare (i : Nat) (name : String)
  /-- The first commit of a start; the rest may fail. -/
  | launch (i now : Nat) (sent : Bool)
  | record (i : Nat) (taskId : String)
  /-- A stop or a pass locks its row. -/
  | load (id : Nat) (stopper : Option String)
  | delete (i : Nat) (reply : Reply)
  /-- A commit before the end of a request, which may go on. -/
  | commitDetails (i : Nat) (entries : Parameters) (goesOn : Bool)
  | finish (i : Nat) (e : Ending)
  | cancel (i now : Nat) (entries : Parameters)
  /-- An analysis is stored, or fails. -/
  | analyse (id : Nat) (e : Ending)
  | abandon (i : Nat)
  /-- Others create an object, or delete one. -/
  | foreignCreate (body : Body) (plural : String)
  | foreignDelete (place : String × String × String)

/-- A request raises, or its process ends. -/
def State.abandon (s : State) (i : Nat) : State :=
  match s.sessions[i]? with
  | some (.prepared scenario _ _ _) =>
    if scenario.mechanism ∈ [.stressChaos, .podChaos] then
      { s.close i with lost := i :: s.lost }
    else s.close i
  | _ => s.close i

/-- One step. -/
def step (d : Deployment) (s : State) : Move → State
  | .start request =>
    match gates d request s.executions with
    | .ok scenario => { s with sessions := s.sessions.insert (.admitted request scenario) }
    | .error _ => s
  | .create i reply =>
    match s.sessions[i]? with
    | some (.admitted request scenario) =>
      match experiment scenario (d.uuid i) with
      | .ok (body, resource) => s.create d ⟨i, request, scenario, body, resource⟩ reply
      | .error _ => s.close i
    | _ => s
  | .prepare i name =>
    match s.sessions[i]? with
    | some (.admitted request scenario) =>
      if scenario.mechanism ∈ [.stressChaos, .podChaos] then s
      else s.goOn i (.prepared scenario request.login (resourceKind scenario.mechanism) name)
    | _ => s
  | .launch i now sent =>
    match s.sessions[i]? with
    | some (.prepared scenario login kind name) =>
      let row := { started d.settings scenario login name now with resourceKind := some kind }
      let committed := { s with executions := s.executions.insert ⟨row, i⟩ }
      if sent then committed.goOn i (.recording s.executions.fresh row) else committed.close i
    | _ => s
  | .record i taskId =>
    match s.sessions[i]? with
    | some (.recording id loaded) =>
      (s.close i).write id (note [("monitor_task_id", .str taskId)] loaded)
    | _ => s
  | .load id stopper =>
    match s.executions[id]? with
    | some x =>
      if x.row.active ∧ ¬ s.held id then
        { s with sessions := s.sessions.insert (.passing { id, loaded := x.row, stopper }) }
      else s
    | none => s
  | .delete i reply =>
    match s.sessions[i]? with
    | some (.passing pass) => s.delete d i pass reply
    | _ => s
  | .commitDetails i entries goesOn =>
    match s.sessions[i]? with
    | some (.passing pass) =>
      let written := s.write pass.id (pass.noted entries)
      if goesOn then
        written.goOn i
          (.passing { pass with loaded := pass.noted entries pass.loaded, locked := false })
      else written.close i
    | _ => s
  | .finish i e =>
    match s.sessions[i]? with
    | some (.passing pass) => if pass.stopper = none then s.finish i pass e else s
    | _ => s
  | .cancel i now entries =>
    match s.sessions[i]? with
    | some (.passing pass) =>
      match pass.stopper with
      | some principal => s.finish i pass (cancelled principal now entries)
      | none => s
    | _ => s
  | .analyse id e =>
    match s.executions[id]? with
    | some x =>
      if x.row.scenarioId ∈ finopsScenarios ∧ x.row.status ∈ [.pending, .running] ∧
          ¬ s.held id then
        s.write id (e.write x.row)
      else s
    | none => s
  | .abandon i => s.abandon i
  | .foreignCreate body plural =>
    let o : Object := ⟨body, plural, none⟩
    if s.objects.any (·.place = o.place) then s else { s with objects := o :: s.objects }
  | .foreignDelete place => { s with objects := s.objects.filter (·.place ≠ place) }

end CloudWard.Lab.Experiments
