import CloudWard.Lab.Scenarios
import CloudWard.Logic.Runs

/-!
# Executions under concurrent requests

The committed executions, the requests in flight and the monitor tasks, one step per committed
transaction:

* `check` — `start_scenario` (`api/incident_lab.py:104`) up to its query of active executions;
* `launch` — the rest of it up to its first commit, and the publication of the task;
* `record` — its second commit, of the details it loaded with the id of the task;
* `reconcile` — `reconcile_execution` (`api/internal_reliability.py:317`) from the row lock to its
  commit, or to the first commit inside `apply_quarantine` or `remove_quarantine`, which ends the
  lock;
* `resume` — the rest of such a pass;
* `stop` and `cancel` — the same two parts of `stop_execution` (`api/incident_lab.py:332`);
* `runFinops` and `failFinops` — `api/finops.py:338` and `api/finops.py:405`.

What the cluster, the policies and the incident make of a request is its outcome; how the outcome
is written is the source's. A session keeps the row as it loaded it, and writes only the columns
it set.
-/

namespace CloudWard.Lab

open CloudWard.Db CloudWard.Logic CloudWard.Security

/-! ### Writes -/

/-- How an execution ends. -/
structure Ending where
  status : ExperimentStatus
  now : Nat
  /-- `cleanup_completed_at` is set. -/
  cleaned : Bool
  failureReason : Option String
  entries : Parameters
  ended : isActive status = false

/-- Commit an ending over a row, with details that continue the loaded ones. -/
def Ending.write (e : Ending) (loaded row : ChaosExecution) : ChaosExecution :=
  { row with
    status := e.status
    completedAt := some e.now
    cleanupCompletedAt := if e.cleaned then some e.now else row.cleanupCompletedAt
    failureReason := e.failureReason.or row.failureReason
    details := merged loaded.details e.entries }

/-- Commit details over a row. -/
def note (entries : Parameters) (loaded row : ChaosExecution) : ChaosExecution :=
  { row with details := merged loaded.details entries }

/-- The ending of a stop, `api/incident_lab.py:413`. -/
def cancelled (principal : String) (now : Nat) (entries : Parameters) : Ending where
  status := .cancelled
  now := now
  cleaned := true
  failureReason := none
  entries := [("current_step", .str "CANCELLED"), ("stopped_by", .str principal),
    ("cleanup_verified", .bool true)] ++ entries
  ended := rfl

/-- The ending of an analysis, `api/finops.py:377`. -/
def analysed (now : Nat) (outcome reason : String) (recommendation : JsonValue) : Ending where
  status := .succeeded
  now := now
  cleaned := true
  failureReason := none
  entries := [("current_step", .str "ANALYSIS_COMPLETE"), ("outcome", .str outcome),
    ("reason", .str reason), ("recommendation_id", recommendation),
    ("cleanup_verified", .bool true)]
  ended := rfl

/-- The ending of an analysis that failed, `api/finops.py:421`. -/
def analysisFailed (now : Nat) (errorCode : String) : Ending where
  status := .failed
  now := now
  cleaned := true
  failureReason := some "FinOps providers did not produce a valid bounded analysis"
  entries := [("current_step", .str "FAILED"), ("error_code", .str errorCode),
    ("cleanup_verified", .bool true)]
  ended := rfl

/-! ### Requests in flight -/

/-- A request between two of its transactions, with the row as it loaded it. -/
inductive Session
  /-- A start that passed its checks when there were `since` executions. -/
  | starting (settings : Settings) (scenario : ChaosScenario) (principal : String) (since : Nat)
  | recording (id : Nat) (loaded : ChaosExecution)
  | reconciling (id : Nat) (loaded : ChaosExecution)
  | stopping (id : Nat) (loaded : ChaosExecution) (principal : String)
  | ended

/-- The committed rows, the requests and the monitor tasks that are queued or due. -/
structure State where
  executions : Table ChaosExecution := []
  sessions : Table Session := []
  tasks : List Nat := []

/-- What a pass over an active execution comes to. -/
inductive Outcome
  /-- It raises, and the API answers with a status code. -/
  | raised (statusCode : Nat)
  /-- It returns before it has written anything. -/
  | waiting
  /-- It commits details of an execution that goes on. -/
  | noted (entries : Parameters)
  | ended (e : Ending)
  /-- The first commit of a quarantine service commits its details and ends its lock. -/
  | released (entries : Parameters)

/-- What a stop of an active execution comes to. -/
inductive Stop
  | raised
  | done (now : Nat) (entries : Parameters)
  /-- `remove_quarantine` commits the status STOPPING and ends the lock. -/
  | released (entries : Parameters)

/-- What the worker receives. -/
inductive Answer
  | terminal
  | goesOn
  | refused (statusCode : Nat)

/-- The worker tries again: `_post` and `monitor_scenario`, `worker/tasks/reliability.py:21`. -/
def Answer.retried : Answer → Bool
  | terminal => false
  | goesOn => true
  | refused statusCode =>
    ¬ (400 ≤ statusCode ∧ statusCode < 500 ∧ statusCode ∉ [408, 409, 429])

/-- The worker receives an answer, unless the transport fails, after which it tries again. -/
def State.answered (s : State) (id : Nat) (received : Bool) (answer : Answer) : State :=
  if received ∧ ¬ answer.retried then { s with tasks := s.tasks.filter (· ≠ id) } else s

/-- The rows with one of them changed. -/
def State.update (s : State) (id : Nat) (f : ChaosExecution → ChaosExecution) : State :=
  { s with executions := s.executions.update id f }

/-- A request ends. -/
def State.close (s : State) (i : Nat) : State :=
  { s with sessions := s.sessions.update i fun _ ↦ .ended }

/-- A request goes on. -/
def State.open (s : State) (session : Session) : State :=
  { s with sessions := s.sessions.insert session }

/-- A pass over an active execution from the row it loaded. -/
def State.pass (s : State) (id : Nat) (loaded : ChaosExecution) (received : Bool) :
    Outcome → State
  | .raised statusCode => s.answered id received (.refused statusCode)
  | .waiting => s.answered id received .goesOn
  | .noted entries => (s.update id (note entries loaded)).answered id received .goesOn
  | .ended e => (s.update id (e.write loaded)).answered id received .terminal
  | .released entries =>
    (s.update id (note entries loaded)).open (.reconciling id (note entries loaded loaded))

/-- A pass, under the row lock. -/
def State.reconcile (s : State) (id : Nat) (outcome : Outcome) (received : Bool) : State :=
  match s.executions[id]? with
  | none => s.answered id received (.refused 404)
  | some row =>
    if row.active then s.pass id row received outcome
    else s.answered id received .terminal

/-- A stop, under the row lock. -/
def State.stop (s : State) (id : Nat) (principal : String) (outcome : Stop) : State :=
  match s.executions[id]? with
  | none => s
  | some row =>
    if row.active then
      match outcome with
      | .raised => s
      | .done now entries => s.update id ((cancelled principal now entries).write row)
      | .released entries =>
        let loaded := { note entries row row with status := .stopping }
        (s.update id fun _ ↦ loaded).open (.stopping id loaded principal)
    else s

/-- An analysis of FinOps, under the row lock. -/
def State.analyse (s : State) (id : Nat) (e : Ending) : State :=
  match s.executions[id]? with
  | none => s
  | some row =>
    if row.scenarioId ∈ finopsScenarios ∧ row.status ∈ [.pending, .running] then
      s.update id (e.write row)
    else s

/-- The rest of a start, and its task. -/
def State.launch (s : State) (i : Nat) (now : Nat) (resource : String) (sent : Bool) : State :=
  match s.sessions[i]? with
  | some (.starting settings scenario principal _) =>
    let row := started settings scenario principal resource now
    let id := s.executions.fresh
    let committed := { s.close i with executions := s.executions.insert row }
    if sent then
      let queued := if scenario.mechanism = .finopsAnalysis then committed
        else { committed with tasks := id :: committed.tasks }
      queued.open (.recording id row)
    else committed
  | _ => s

/-- What happens next. -/
inductive Move
  | check (settings : Settings) (policy : ChaosPolicyResult) (scenarioId principal : String)
  /-- The start creates its resource and commits; publishing its task may fail. -/
  | launch (i now : Nat) (resource : String) (sent : Bool)
  /-- A request is abandoned: it raises, or its process ends. -/
  | abandon (i : Nat)
  | record (i : Nat) (taskId : String)
  | reconcile (id : Nat) (outcome : Outcome) (received : Bool)
  | resume (i : Nat) (outcome : Outcome) (received : Bool)
  | stop (id : Nat) (principal : String) (outcome : Stop)
  | cancel (i now : Nat) (entries : Parameters)
  | runFinops (id now : Nat) (outcome reason : String) (recommendation : JsonValue)
  | failFinops (id now : Nat) (errorCode : String)

/-- One step. -/
def step (s : State) : Move → State
  | .check settings policy scenarioId principal =>
    match checkStart settings policy s.executions scenarioId with
    | .ok scenario => s.open (.starting settings scenario principal s.executions.fresh)
    | .error _ => s
  | .launch i now resource sent => s.launch i now resource sent
  | .abandon i => s.close i
  | .record i taskId =>
    match s.sessions[i]? with
    | some (.recording id loaded) =>
      (s.close i).update id (note [("monitor_task_id", .str taskId)] loaded)
    | _ => s
  | .reconcile id outcome received => s.reconcile id outcome received
  | .resume i outcome received =>
    match s.sessions[i]? with
    | some (.reconciling id loaded) => (s.close i).pass id loaded received outcome
    | _ => s
  | .stop id principal outcome => s.stop id principal outcome
  | .cancel i now entries =>
    match s.sessions[i]? with
    | some (.stopping id loaded principal) =>
      (s.close i).update id ((cancelled principal now entries).write loaded)
    | _ => s
  | .runFinops id now outcome reason recommendation =>
    s.analyse id (analysed now outcome reason recommendation)
  | .failFinops id now errorCode => s.analyse id (analysisFailed now errorCode)

end CloudWard.Lab
