import CloudWard.Db.Models
import CloudWard.Kubernetes.Objects
import CloudWard.Logic.Exec

/-!
# The world a service runs in

A service call reads and writes one database session, talks to Kubernetes, OPA and Git,
and is answered by an environment that may depend on everything that happened before.
`db` is what the session sees, `committed` what other transactions see, and `tick` counts
the calls made, so that no two calls need get the same answer. `trace` records what the
claims are about, newest first: evidence collections, policy evaluations, requests made
and requests that took effect, verifications and commits; `approvalRequests` does the same
for the approvals that are requested.
-/

namespace CloudWard

open CloudWard.Db CloudWard.Kubernetes CloudWard.Logic CloudWard.Policies

/-- What a run leaves in its trace. -/
inductive Event
  | evidenceCollected
  | evaluated (input : PolicyInput) (result : PolicyResult)
  | deletePodCalled (ns name : String)
  | mutated (m : Mutation)
  | verified (success : Bool)
  | committed
deriving DecidableEq

/-- The decision of an evaluation. -/
def Event.policy? : Event → Option PolicyResult
  | .evaluated _ policy => some policy
  | _ => none

/-- The input and the decision of an evaluation. -/
def Event.evaluation? : Event → Option (PolicyInput × PolicyResult)
  | .evaluated input policy => some (input, policy)
  | _ => none

/-- An approval that was requested, with the session's rows and the trace of that moment. -/
structure ApprovalRequest where
  approval : Approval
  rows : Database
  trace : List Event

/-- The state of a service call. -/
structure World where
  db : Database
  committed : Database
  cluster : Cluster
  tick : Nat
  trace : List Event
  /-- `ACTIVE_INCIDENTS`, `metrics.py:16`; a rollback does not touch it. -/
  activeIncidents : Environment → Int := fun _ ↦ 0
  approvalRequests : List ApprovalRequest := []

/-- `Settings`, `config.py`, with the bounds of the fields the modelled services use. -/
structure Settings where
  appEnv : String := "development"
  allowedNamespaces : List String := ["cloudward-staging"]
  maxRemediationAttempts : Nat := 3
  maxTemporaryReplicas : Nat := 5
  localGitopsWriteEnabled : Bool := false
  localGitopsRepoUrl : String := "git://host.docker.internal:19418/cloudward-gitops.git"
  approvalTtlSeconds : Nat := 1800
  enabledNotificationEvents : List String := []
  teamsDashboardUrl : Option String := none
  incidentLabNamespace : String := "cloudward-staging"
  chaosMaxRuntimeSeconds : Nat := 300
  automaticRollbackMaxRisk : Nat := 30
  maxRemediationAttempts_mem : 1 ≤ maxRemediationAttempts ∧ maxRemediationAttempts ≤ 3
    := by decide
  maxTemporaryReplicas_mem : 2 ≤ maxTemporaryReplicas ∧ maxTemporaryReplicas ≤ 20
    := by decide
  approvalTtlSeconds_mem : 60 ≤ approvalTtlSeconds ∧ approvalTtlSeconds ≤ 86400
    := by decide
  chaosMaxRuntimeSeconds_mem : 30 ≤ chaosMaxRuntimeSeconds ∧ chaosMaxRuntimeSeconds ≤ 600
    := by decide
  automaticRollbackMaxRisk_le : automaticRollbackMaxRisk ≤ 30 := by decide

/-- The settings of a deployment that sets none. -/
def Settings.standard : Settings := {}

/-- The answers of everything outside the services. -/
structure Env where
  /-- What a database statement, flush or commit raises. -/
  database : World → Option Exc
  /-- What memory capture or a notification raises besides database errors. -/
  validation : World → Option Exc
  opa : World → OPAClient
  listPods : World → String → String → Except Exc (List PodState)
  readPod : World → String → String → Except Exc PodState
  readDeployment : World → String → String → Except Exc V1Deployment
  listEvents : World → String → String → Except Exc Unit
  serviceHealth : World → String → String → String → Except Exc ServicePayload
  readPolicy : World → String → String → Except Exc CiliumPolicy
  probeEgress : World → String → String → Except Exc Bool
  /-- The deletion of a custom object by namespace, plural and name; no modelled read sees it. -/
  deleteCustomObject : World → String → String → String → Except Exc Unit :=
    fun _ _ _ _ ↦ .ok ()
  telemetry : World → Except Exc Unit
  readImageTag : World → Except Exc String
  request : World → Mutation → Reply
  /-- How often a polling loop that starts now polls again before its deadline. -/
  polls : World → Nat
  now : World → Nat
  /-- `hashlib.sha256` of the canonical JSON of an approval context. -/
  digest : ApprovalContext → String

/-- A service program. -/
abbrev Service : Type → Type := Exec World Exc

namespace Service

variable {α : Type}

/-- Make a call that the environment answers. -/
def ask (answer : World → α) : Service α := fun w ↦
  (.ok (answer w), { w with tick := w.tick + 1 })

/-- Make a call that the environment answers or fails. -/
def call (answer : World → Except Exc α) : Service α := do
  Exec.ofExcept (← ask answer)

/-- `raise CloudWardError(...)`. -/
def raise (error : CloudWardError) : Service α := throw (.cloudWard error)

/-- `if not c: raise CloudWardError(...)`. -/
def require (c : Prop) [Decidable c] (error : CloudWardError) : Service Unit :=
  Exec.require c (.cloudWard error)

/-- Add an event to the trace. -/
def record (e : Event) : Service Unit := Exec.update fun w ↦ { w with trace := e :: w.trace }

/-- `ACTIVE_INCIDENTS.labels(...).inc()`, or `.dec()` by a negative amount. -/
def countActive (environment : Environment) (n : Int) : Service Unit :=
  Exec.update fun w ↦ { w with activeIncidents := fun e ↦
    if e = environment then w.activeIncidents e + n else w.activeIncidents e }

/-- Change the session's rows. -/
def write (f : Database → Database) : Service Unit :=
  Exec.update fun w ↦ { w with db := f w.db }

/-- A statement sent to the database: `flush`, and what audit and stream rows flush. -/
def flush (env : Env) : Service Unit := do
  Exec.faultOf (← ask env.database)

/-- A query of the session's rows. -/
def query (env : Env) (f : Database → α) : Service α := do
  flush env
  Exec.read fun w ↦ f w.db

/-- `session.commit()`. -/
def commit (env : Env) : Service Unit := do
  flush env
  Exec.update fun w ↦ { w with committed := w.db, trace := .committed :: w.trace }

/-- `session.rollback()`, and what leaving a session without a commit does. -/
def rollback : Service Unit := Exec.update fun w ↦ { w with db := w.committed }

/-- `OPAClient.evaluate`. -/
def evaluate (env : Env) (input : PolicyInput) : Service PolicyResult := do
  let result ← ask (env.opa · input)
  record (.evaluated input result)
  return result

/-- A request that took effect. -/
def effect (m : Mutation) : Service Unit := Exec.update fun w ↦
  { w with cluster := w.cluster.apply m, trace := .mutated m :: w.trace }

/-- Send a request that changes the cluster or its Git source. -/
def send (env : Env) (m : Mutation) : Service Unit := do
  match ← ask (env.request · m) with
  | .done => effect m
  | .refused e => throw e
  | .lost e =>
    effect m
    throw e

/-- `try ... except ApiException as exc: raise CloudWardError(...) from exc`. -/
def wrapping (error : CloudWardError) (x : Service α) : Service α :=
  tryCatch x fun e ↦ throw (e.wrapApi error)

/-! ### Evaluation rules -/

@[simp] theorem run_ask (answer : World → α) (w : World) :
    (ask answer).run w = (.ok (answer w), { w with tick := w.tick + 1 }) := rfl

@[simp] theorem run_record (e : Event) (w : World) :
    (record e).run w = (.ok (), { w with trace := e :: w.trace }) := rfl

@[simp] theorem run_write (f : Database → Database) (w : World) :
    (write f).run w = (.ok (), { w with db := f w.db }) := rfl

@[simp] theorem run_rollback (w : World) :
    rollback.run w = (.ok (), { w with db := w.committed }) := rfl

@[simp] theorem run_effect (m : Mutation) (w : World) :
    (effect m).run w =
      (.ok (), { w with cluster := w.cluster.apply m, trace := .mutated m :: w.trace }) := rfl

@[simp] theorem run_call (answer : World → Except Exc α) (w : World) :
    (call answer).run w = (answer w, { w with tick := w.tick + 1 }) := by
  simp [call, Exec.run_bind]

@[simp] theorem run_evaluate (env : Env) (input : PolicyInput) (w : World) :
    (evaluate env input).run w =
      (.ok (env.opa w input),
        { w with
          tick := w.tick + 1
          trace := .evaluated input (env.opa w input) :: w.trace }) := rfl

/-- A statement fails or does nothing but count. -/
theorem run_flush (env : Env) (w : World) :
    (flush env).run w =
      (match env.database w with
        | none => .ok ()
        | some e => .error e, { w with tick := w.tick + 1 }) := by
  simp only [flush, Exec.run_bind, run_ask]
  cases env.database w <;> rfl

/-! ### What the primitives leave unchanged -/

section Frames

variable {ω : Type} {f : World → ω}

theorem frames_ask (answer : World → α) (h : ∀ w n, f { w with tick := n } = f w) :
    Exec.Frames f (ask answer) := fun w ↦ h w (w.tick + 1)

theorem frames_call (answer : World → Except Exc α) (h : ∀ w n, f { w with tick := n } = f w) :
    Exec.Frames f (call answer) :=
  Exec.frames_bind (frames_ask answer h) fun _ ↦ Exec.frames_ofExcept _

theorem frames_flush (env : Env) (h : ∀ w n, f { w with tick := n } = f w) :
    Exec.Frames f (flush env) :=
  Exec.frames_bind (frames_ask _ h) fun _ ↦ Exec.frames_faultOf _

theorem frames_query (env : Env) (g : Database → α) (h : ∀ w n, f { w with tick := n } = f w) :
    Exec.Frames f (query env g) :=
  Exec.frames_bind (frames_flush env h) fun _ ↦ Exec.frames_read _

theorem frames_write (g : Database → Database) (h : ∀ w d, f { w with db := d } = f w) :
    Exec.Frames f (write g) := Exec.frames_update fun w ↦ h w (g w.db)

theorem frames_wrapping (error : CloudWardError) {x : Service α} (hx : Exec.Frames f x) :
    Exec.Frames f (wrapping error x) :=
  Exec.frames_tryCatch hx fun _ ↦ Exec.frames_throw _

theorem frames_evaluate (env : Env) (input : PolicyInput)
    (h : ∀ w n, f { w with tick := n } = f w) (htrace : ∀ w t, f { w with trace := t } = f w) :
    Exec.Frames f (evaluate env input) :=
  Exec.frames_bind (frames_ask _ h) fun _ ↦
    Exec.frames_bind (Exec.frames_update fun w ↦ htrace w _) fun _ ↦ Exec.frames_pure _

end Frames

section Triples

variable {P : World → Prop} {Q : α → World → Prop} {E : Exc → World → Prop}

theorem triple_ask {answer : World → α}
    (h : ∀ w, P w → Q (answer w) { w with tick := w.tick + 1 }) :
    Exec.Triple P (ask answer) Q E := h

theorem triple_write {f : Database → Database} {Q : Unit → World → Prop}
    (h : ∀ w, P w → Q () { w with db := f w.db }) : Exec.Triple P (write f) Q E := h

end Triples

/-- A query that returns, returns the function of the session's rows, and keeps them. -/
theorem query_spec (env : Env) (f : Database → α) (db : Database) :
    Exec.Triple (fun w ↦ w.db = db) (query env f) (fun a w ↦ a = f db ∧ w.db = db)
      (fun _ _ ↦ True) := by
  intro w hw
  simp only [query, Exec.run_bind, run_flush]
  cases env.database w with
  | none => exact ⟨congrArg f hw, hw⟩
  | some e => trivial

/-! ### Transactions -/

/-- The world a request starts in: a fresh session on committed rows. -/
def start (db : Database) (cluster : Cluster := {}) : World where
  db := db
  committed := db
  cluster := cluster
  tick := 0
  trace := []

/-- A request: run a service, then commit. -/
def transaction (env : Env) (x : Service Unit) : Service Unit := do
  x
  commit env

/-- A service that commits nothing itself leaves the committed rows as they were, or all of
its changes are committed. -/
theorem committed_transaction (env : Env) {x : Service Unit}
    (hx : Exec.Frames World.committed x) (w : World) :
    ((transaction env x).run w).2.committed = w.committed ∨
      ∃ w', x.run w = (.ok (), w') ∧ ((transaction env x).run w).2.committed = w'.db ∧
        ((transaction env x).run w).2.trace = .committed :: w'.trace := by
  have hx := hx w
  unfold transaction
  rw [Exec.run_bind]
  rcases hr : x.run w with ⟨e | a, w'⟩
  · rw [hr] at hx
    exact .inl hx
  · rw [hr] at hx
    simp only [commit, Exec.run_bind, run_flush]
    cases env.database w' with
    | none => exact .inr ⟨w', rfl, rfl, rfl⟩
    | some e => exact .inl hx

end Service
end CloudWard
