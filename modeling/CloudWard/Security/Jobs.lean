import CloudWard.Base.Sorted
import CloudWard.Logic.Interleave
import CloudWard.Security.Ingestion
import CloudWard.Security.RateLimit
import CloudWard.Security.Stored

/-!
# Security jobs

`tetragon_webhook` and `process_security_event_job` (`api/security_events.py:49` and `:107`) with
`event_fingerprint` (`security/normalization.py:49`): an event that is accepted is queued with its
fingerprint, and a worker hands the job back as often as the queue delivers it, several jobs at a
time. The steps of a job are the query for its row and the transaction that counts it or opens it;
what else writes rows steps in between. `counted` records the events whose transaction was
committed; nothing reads it.
-/

namespace CloudWard.Security.Jobs

open CloudWard.Db CloudWard.Kubernetes CloudWard.Logic CloudWard.Logic.Interleave
  CloudWard.Policies CloudWard.Security.RateLimits CloudWard.Security.Webhook Python

/-! ### Fingerprints -/

/-- `canonical`, `security/normalization.py:52`. -/
def canonicalOf (window : Nat) (event : AcceptedEvent) : Json :=
  .dict [("source", .str "tetragon"), ("event_type", .str event.eventType.value),
    ("namespace", .str stagingNamespace), ("pod", .str event.pod),
    ("container", .str event.container), ("policy", .str event.policy),
    ("process", (event.process.map (·.dump)).getD .null),
    ("network", (event.network.map (·.dump)).getD .null),
    ("bucket", .int (event.timestamp / window : Nat))]

/-- `event_fingerprint`, `security/normalization.py:49`. -/
def eventFingerprint (sha256 : Sha256) (window : Nat) (event : AcceptedEvent) : String :=
  hex (sha256 (encode (Json.canonical (canonicalOf window event)))).toList

/-- The events that are one for the deduplication. -/
structure Alike (window : Nat) (a b : AcceptedEvent) : Prop where
  eventType : a.eventType = b.eventType
  pod : a.pod = b.pod
  container : a.container = b.container
  policy : a.policy = b.policy
  process : a.process = b.process
  network : a.network = b.network
  bucket : a.timestamp / window = b.timestamp / window

/-! ### Messages -/

/-- `TetragonSecurityEvent.model_dump`, with a text for its time. -/
def documentOf (render : Nat → String) (event : AcceptedEvent) : TetragonDocument where
  source := "tetragon"
  eventType := event.eventType.value
  severity := event.severity
  environment := Environment.staging.value
  ns := stagingNamespace
  pod := event.pod
  workload := event.workload
  container := event.container
  process := event.process.map (·.toRawProcess)
  network := event.network.map (·.toRawNetwork)
  policy := event.policy
  timestamp := render event.timestamp
  evidenceRef := event.evidenceRef
  workloadLabels := event.workloadLabels
  secretsOrDataExposure := event.secretsOrDataExposure

/-- `SecurityJobRequest`, `security/schemas.py:138`. -/
structure SecurityJobRequest where
  fingerprint : String
  event : TetragonDocument

/-- What the processes of a deployment share: SHA-256, how pydantic reads and writes times,
`security_dedup_window_seconds` and the rest of the settings, and the worker's token. -/
structure Deployment where
  sha256 : Sha256
  parse : String → Option Nat
  render : Nat → String
  unicode : Unicode
  window : Nat
  settings : Settings
  token : String

/-- What a request ends with instead of an answer. -/
inductive Failure
  | invalidEvent
  | queueUnavailable
  | workerAuthentication
  | invalidJob (job : SecurityJobRequest)
  | fingerprintMismatch (job : SecurityJobRequest)
  | service (e : Exc)

/-- The committed rows, the jobs that were ever queued, and the events that were counted. -/
structure Store where
  rows : Database := {}
  jobs : List SecurityJobRequest := []
  counted : List AcceptedEvent := []

/-- What a request answers. -/
inductive Answer
  | queued (job : SecurityJobRequest)
  | processed (event : AcceptedEvent) (duplicate : Bool)
  | nothing

/-- A request of this deployment. -/
abbrev Program (α : Type) : Type := Resumption Store Failure α

/-! ### The webhook -/

/-- What `send_task` comes to: the job is queued or not, and the call returns or raises. -/
structure Sending where
  queued : Bool
  returned : Bool
  queued_of_returned : returned → queued

/-- The job of an event. -/
def Deployment.jobOf (d : Deployment) (event : AcceptedEvent) : SecurityJobRequest :=
  ⟨eventFingerprint d.sha256 d.window event, documentOf d.render event⟩

/-- Queue a job. -/
def enqueue (job : SecurityJobRequest) (s : Store) : Store := { s with jobs := s.jobs ++ [job] }

/-- `tetragon_webhook`, `api/security_events.py:49`, once its signature is checked. -/
def tetragonWebhook (d : Deployment) (document : TetragonDocument) (sending : Sending) :
    Program Answer := do
  let event ← Resumption.ofExcept ((document.validate d.parse).mapError fun _ ↦ .invalidEvent)
  let job := d.jobOf event
  Resumption.change fun s ↦ .ok ((), if sending.queued then enqueue job s else s)
  Resumption.require (sending.returned = true) .queueUnavailable
  return .queued job

/-! ### The worker's request -/

/-- A call of the worker, with the identity that a new row gets and what its statements meet. -/
structure Call where
  authorization : Option String
  job : SecurityJobRequest
  uuid : String
  env : Env
  /-- What the query for the row raises. -/
  selecting : Option Exc
  /-- What the transaction of a duplicate raises. -/
  counting : Option Exc
  /-- What `session.refresh` raises, after the commit. -/
  refreshing : Option Exc
  uuid_hex : uuid.toList.length = 32 ∧ uuid.toList.all isHexDigit

/-- The labels of a payload that are texts, `dict(payload.get("workload_labels") or {})`. -/
def labelsOf (payload : Json) : Labels :=
  match payload.get? "workload_labels" with
  | some (.dict entries) => (entries.filterMap fun
      | (key, .str value) => some ⟨key, value⟩
      | _ => none).toAList
  | _ => ∅

/-- The delivery that a job is. -/
def Deployment.deliveryOf (d : Deployment) (call : Call) (event : AcceptedEvent) : Delivery where
  event := event.toTetragonSecurityEvent
  fingerprint := eventFingerprint d.sha256 d.window event
  uuid := call.uuid
  labels := labelsOf (normalizedPayload d.unicode event)
  uuid_hex := call.uuid_hex

/-- What a statement raises, or nothing. -/
def raised (fault : Option Exc) : Except Failure Unit :=
  match fault with
  | none => .ok ()
  | some e => .error (.service e)

/-- The transaction of a row that was found: the session writes the count it has loaded, and one
more; `security/service.py:89`. -/
def countAgain (call : Call) (event : AcceptedEvent) (id : Nat) (loaded : SecurityEvent)
    (s : Store) : Except Failure (Unit × Store) := do
  raised call.counting
  return ((), { s with
    rows := { s.rows with securityEvents := s.rows.securityEvents.update id fun row ↦
      { row with dedupCount := loaded.dedupCount + 1 } }
    counted := event :: s.counted })

/-- The transaction of a row that was not found. Its insert waits for others that have inserted
the key, and `uq_security_events_source_fingerprint` fails it if one of them committed. -/
def openNew (d : Deployment) (call : Call) (event : AcceptedEvent) (s : Store) :
    Except Failure (Unit × Store) :=
  if ((d.deliveryOf call event).existing s.rows).isSome then .error (.service .database)
  else
    match (ingestSecurityEvent call.env d.settings (d.deliveryOf call event)).run
        (Service.start s.rows) with
    | (.ok _, w) => .ok ((), { s with rows := w.committed, counted := event :: s.counted })
    | (.error e, _) => .error (.service e)

/-- `process_security_event_job`, `api/security_events.py:107`. -/
def processSecurityEventJob (d : Deployment) (call : Call) : Program Answer := do
  let event ← Resumption.ofExcept
    ((call.job.event.validate d.parse).mapError fun _ ↦ .invalidJob call.job)
  Resumption.require (call.job.fingerprint.length = 64) (.invalidJob call.job)
  Resumption.require (call.authorization = some ("Bearer " ++ d.token)) .workerAuthentication
  Resumption.require (eventFingerprint d.sha256 d.window event = call.job.fingerprint)
    (.fingerprintMismatch call.job)
  let existing ← Resumption.read fun s ↦
    (raised call.selecting).map fun _ ↦ (d.deliveryOf call event).existing s.rows
  Resumption.change fun s ↦
    match existing with
    | some (id, loaded) => countAgain call event id loaded s
    | none => openNew d call event s
  Resumption.ofExcept (raised call.refreshing)
  return .processed event existing.isSome

/-! ### All of it -/

/-- What may start: a delivery of the forwarder, a job, or a transaction of other code. -/
inductive Input
  | webhook (document : TetragonDocument) (sending : Sending)
  | work (call : Call)
  | other (write : Database → Database)

/-- The program of an input. -/
def Deployment.spawn (d : Deployment) : Input → Program Answer
  | .webhook document sending => tetragonWebhook d document sending
  | .work call => processSecurityEventJob d call
  | .other write => Resumption.change fun s ↦ .ok (.nothing, { s with rows := write s.rows })

/-- The columns that only an ingestion writes. -/
def tally (event : SecurityEvent) : String × String × Nat :=
  (event.source, event.fingerprint, event.dedupCount)

/-- Who calls: only the worker has its token, and it calls with jobs of the queue; other code keeps
the constraints of the tables and the columns of ingestions. -/
def Deployment.Meets (d : Deployment) (s : Store) : Input → Prop
  | .webhook _ _ => True
  | .work call => call.authorization = some ("Bearer " ++ d.token) → call.job ∈ s.jobs
  | .other write => ∀ rows, (Constrained rows → Constrained (write rows)) ∧
      (write rows).securityEvents.map tally = rows.securityEvents.map tally

/-- The pool after some moves from committed rows. -/
def Deployment.after (d : Deployment) (rows : Database) (moves : List (Move Input)) :
    Pool Store Failure Answer := Runs.run (Pool.move d.spawn) { store := { rows } } moves

end CloudWard.Security.Jobs
