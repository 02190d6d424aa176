import CloudWard.Approvals.Decisions
import CloudWard.Logic.Sessions

/-!
# Concurrent decisions of one approval

`decide` locks the approval, its incident and its proposal before it checks them. The approvals
API reads them with the locking statements; `_decision` of the incident routes has selected
all three before, and the locking statements return the instances that its session has. A state
is the committed rows and the open sessions, a move one statement of a session or a commit of
other code, and `decided` lists the approvals that committed transactions moved out of PENDING.
What a session reads and writes under its locks is one statement here: inserting an execution
or a policy decision of the proposal needs a lock on its row too.
-/

namespace CloudWard.Approvals.Concurrent

open CloudWard.Db CloudWard.Incidents CloudWard.Logic CloudWard.Logic.Sessions Service

/-! ### Sessions -/

/-- A row that a decision reads. -/
inductive Key
  | approval (id : Nat)
  | incident (id : Nat)
  | proposal (id : Nat)
deriving DecidableEq

/-- What the row is. -/
@[reducible] def Row : Key → Type
  | .approval _ => Approval
  | .incident _ => Incident
  | .proposal _ => ActionProposal

/-- The committed row. -/
def rowOf (db : Database) : (k : Key) → Option (Row k)
  | .approval id => db.approvals[id]?
  | .incident id => db.incidents[id]?
  | .proposal id => db.proposals[id]?

/-- The endpoints that decide, `api/approvals.py:86` and `api/incidents.py:441`. -/
inductive Route
  | approvals (approvalId : Nat)
  | incidents (incidentId proposalId : Nat)

/-- A request, with the settings and the environment it meets. -/
structure Call where
  route : Route
  decision : ApprovalDecision
  principal : Principal
  comment : Option String := none
  settings : Settings
  env : Env

/-- The approval of a decision: a stored one, or one that the session has just inserted. -/
inductive Target
  | stored (id : Nat)
  | inserted (row : Approval)

/-- The statement that is next. -/
inductive Phase
  | selectIncident (incidentId proposalId : Nat)
  | selectProposal (incidentId proposalId : Nat)
  | selectApproval (incidentId proposalId : Nat)
  | lockApproval (target : Target)
  | lockIncident (target : Target)
  | lockProposal (target : Target)
  | settle (target : Target)
  | ended

/-- The approval that is decided, from the first lock on. -/
def Phase.target? : Phase → Option Target
  | .lockApproval target => some target
  | .lockIncident target => some target
  | .lockProposal target => some target
  | .settle target => some target
  | _ => none

/-- Where a session stands. -/
structure Program where
  call : Call
  phase : Phase

/-- A database session, `db/session.py:25`. -/
abbrev DbSession : Type := Client Row Program

/-- The first statement of a route. -/
def Route.first : Route → Phase
  | .approvals approvalId => .lockApproval (.stored approvalId)
  | .incidents incidentId proposalId => .selectIncident incidentId proposalId

/-- The session's instance of the approval. -/
def approvalOf (session : DbSession) : Target → Option Approval
  | .stored id => session.loaded (.approval id)
  | .inserted row => some row

/-- The identity that the approval has once it is committed. -/
def Target.id (db : Database) : Target → Nat
  | .stored id => id
  | .inserted _ => db.approvals.fresh

/-! ### What a session writes -/

/-- The approvals as the session sees them. -/
def viewApprovals (db : Database) (target : Target) (approval : Approval) : Table Approval :=
  match target with
  | .stored id => db.approvals.update id fun _ ↦ approval
  | .inserted row => db.approvals.insert row

/-- The rows as the session sees them: its own instances among the committed rows. -/
def view (db : Database) (target : Target) (approval : Approval) (incident : Incident)
    (proposal : ActionProposal) : Database :=
  { db with
    approvals := viewApprovals db target approval
    incidents := db.incidents.update approval.incidentId fun _ ↦ incident
    proposals := db.proposals.update approval.proposalId fun _ ↦ proposal }

/-- A flush writes the attributes that differ from what was loaded. -/
def written {α : Type} [DecidableEq α] (loaded new row : α) : α :=
  if new = loaded then row else new

/-- The attributes of an approval that a decision sets. -/
def flushApproval (loaded new row : Approval) : Approval :=
  { row with
    decision := written loaded.decision new.decision row.decision
    actorId := written loaded.actorId new.actorId row.actorId
    decidedBy := written loaded.decidedBy new.decidedBy row.decidedBy
    decidedAt := written loaded.decidedAt new.decidedAt row.decidedAt
    decisionComment := written loaded.decisionComment new.decisionComment row.decisionComment
    invalidatedReason :=
      written loaded.invalidatedReason new.invalidatedReason row.invalidatedReason }

/-- The attributes of an incident that a decision sets; its events are inserted. -/
def flushIncident (loaded new row : Incident) : Incident :=
  { row with
    state := written loaded.state new.state row.state
    resolvedAt := written loaded.resolvedAt new.resolvedAt row.resolvedAt
    events := row.events ++ new.events.drop loaded.events.length }

/-- The attribute of a proposal that a decision sets. -/
def flushProposal (loaded new row : ActionProposal) : ActionProposal :=
  { row with status := written loaded.status new.status row.status }

/-- The committed table after the flush of one instance. -/
def flushed {α : Type} (t new : Table α) (id : Nat) (columns : α → α → α) : Table α :=
  t.update id fun row ↦ (new[id]?.map (columns · row)).getD row

/-- The committed approvals after the commit of a session that ends with the approvals `new`. -/
def commitApprovals (db : Database) (target : Target) (approval : Approval)
    (new : Table Approval) : Table Approval :=
  match target with
  | .stored id => flushed db.approvals new id (flushApproval approval)
  | .inserted row => db.approvals.insert (new[db.approvals.fresh]?.getD row)

/-- The committed rows after the commit of a session that ends with the rows `new`. -/
def commitRows (db : Database) (target : Target) (approval : Approval) (incident : Incident)
    (proposal : ActionProposal) (new : Database) : Database :=
  { new with
    approvals := commitApprovals db target approval new.approvals
    incidents := flushed db.incidents new.incidents approval.incidentId (flushIncident incident)
    proposals :=
      flushed db.proposals new.proposals approval.proposalId (flushProposal proposal) }

/-! ### What a statement does -/

/-- The effect of a statement. -/
inductive Effect
  | abort
  | proceed (next : Phase)
  | select (k : Key) (next : Phase)
  | lock (k : Key) (next : Phase)
  | insert (row : Approval)
  | commit (approvalId : Nat) (rows : Database)

/-- `ensure_runtime_approval` as `_decision` calls it, `api/incidents.py:423`. -/
def insertEffect (call : Call) (db : Database) (incidentId proposalId : Nat) : Effect :=
  let run := (ensureRuntimeApproval call.env call.settings incidentId proposalId "cloudward"
    (some "Legacy incident approval route")).run (start db)
  match run.1 with
  | .error _ => .abort
  | .ok id => match run.2.db.approvals[id]? with
    | none => .abort
    | some row => .insert row

/-- The rest of `decide` once the three rows are locked, and the commit. -/
def settleEffect (call : Call) (db : Database) (target : Target) (approval : Approval)
    (incident : Incident) (proposal : ActionProposal) : Effect :=
  let run := (transaction call.env (settle call.env call.settings (target.id db) approval
    incident proposal call.decision call.principal call.comment)).run
      (start (view db target approval incident proposal))
  match run.1 with
  | .error _ => .abort
  | .ok () =>
    .commit (target.id db) (commitRows db target approval incident proposal run.2.committed)

/-- What the session's next statement does, after the checks that precede it. -/
def effectOf (db : Database) (session : DbSession) : Effect :=
  match session.program.phase with
  | .selectIncident incidentId proposalId =>
    .select (.incident incidentId) (.selectProposal incidentId proposalId)
  | .selectProposal incidentId proposalId =>
    if db.proposals[proposalId]?.any (·.incidentId = incidentId) then
      .select (.proposal proposalId) (.selectApproval incidentId proposalId)
    else .abort
  | .selectApproval incidentId proposalId =>
    match session.loaded (.incident incidentId), session.loaded (.proposal proposalId) with
    | some incident, some proposal =>
      if Incident.state incident ≠ .awaitingApproval then .abort
      else
        match db.approvals.latest fun a ↦ a.proposalId = proposalId ∧ a.proposalVersion = 1 with
        | some (id, _) => .select (.approval id) (.lockApproval (.stored id))
        | none =>
          insertEffect session.program.call
            { db with
              incidents := db.incidents.update incidentId fun _ ↦ incident
              proposals := db.proposals.update proposalId fun _ ↦ proposal }
            incidentId proposalId
    | _, _ => .abort
  | .lockApproval target =>
    if session.program.call.decision = .approved ∨ session.program.call.decision = .rejected then
      match target with
      | .stored id => .lock (.approval id) (.lockIncident target)
      | .inserted _ => .proceed (.lockIncident target)
    else .abort
  | .lockIncident target =>
    match approvalOf session target with
    | none => .abort
    | some approval =>
      if approval.decision = .pending then
        .lock (.incident approval.incidentId) (.lockProposal target)
      else .abort
  | .lockProposal target =>
    match approvalOf session target with
    | none => .abort
    | some approval => .lock (.proposal approval.proposalId) (.settle target)
  | .settle target =>
    match approvalOf session target with
    | none => .abort
    | some approval =>
      match session.loaded (.incident approval.incidentId),
        session.loaded (.proposal approval.proposalId) with
      | some incident, some proposal =>
        settleEffect session.program.call db target approval incident proposal
      | _, _ => .abort
  | .ended => .abort

/-! ### The store -/

/-- The committed rows, the sessions, and the approvals that committed transactions moved out
of PENDING. -/
structure State where
  rows : Database
  sessions : Table DbSession := []
  decided : List Nat := []

/-- A session's next program point. -/
def goTo (session : DbSession) (next : Phase) : DbSession :=
  { session with program := { session.program with phase := next } }

/-- A session whose transaction is over. -/
def closed (session : DbSession) : DbSession :=
  session.release { session.program with phase := .ended }

/-- Another session has inserted the approval of the same proposal version; the unique
constraint lets the second insertion wait for it. -/
def inserting (sessions : Table DbSession) (i : Nat) (row : Approval) : Bool :=
  sessions.zipIdx.any fun e ↦ e.2 ≠ i && match e.1.program.phase.target? with
    | some (.inserted other) =>
      other.proposalId = row.proposalId ∧ other.proposalVersion = row.proposalVersion
    | _ => false

/-- Change a session. -/
def State.put (s : State) (i : Nat) (session : DbSession) : State :=
  { s with sessions := s.sessions.update i fun _ ↦ session }

/-- Carry a statement out. -/
def perform (s : State) (i : Nat) (session : DbSession) : Effect → State
  | .abort => s.put i (closed session)
  | .proceed next => s.put i (goTo session next)
  | .select k next =>
    match rowOf s.rows k with
    | none => s.put i (closed session)
    | some row => s.put i (goTo (session.load k row) next)
  | .lock k next =>
    match rowOf s.rows k with
    | none => s.put i (closed session)
    | some row =>
      if heldElsewhere s.sessions i k then s else s.put i (goTo (session.lock k row) next)
  | .insert row =>
    if inserting s.sessions i row then s
    else s.put i (goTo session (.lockApproval (.inserted row)))
  | .commit approvalId rows =>
    { s.put i (closed session) with rows, decided := approvalId :: s.decided }

/-- What happens next: a request, the next statement of a session, a statement or a client that
fails, or a commit of other code, which decides no approval. -/
inductive Move
  | arrive (call : Call)
  | statement (i : Nat)
  | fail (i : Nat)
  | edit (k : Key) (f : Row k → Row k)
  | add (rows : Database)

/-- The rows after other code has changed one. -/
def editedRows (db : Database) : (k : Key) → (Row k → Row k) → Database
  | .approval id, f =>
    { db with approvals := db.approvals.update id fun row ↦
        { (f row : Approval) with decision := row.decision } }
  | .incident id, f => { db with incidents := db.incidents.update id f }
  | .proposal id, f => { db with proposals := db.proposals.update id f }

/-- The rows after other code has added some, or changed tables that no decision writes. -/
def addedRows (db rows : Database) : Database :=
  { rows with
    approvals := db.approvals ++ rows.approvals.map fun row ↦ { row with decision := .pending }
    incidents := db.incidents ++ rows.incidents
    proposals := db.proposals ++ rows.proposals }

/-- One move; a change of a locked row waits. -/
def step (s : State) : Move → State
  | .arrive call => { s with sessions := s.sessions.insert { program := ⟨call, call.route.first⟩ } }
  | .statement i =>
    match s.sessions[i]? with
    | none => s
    | some session => perform s i session (effectOf s.rows session)
  | .fail i =>
    match s.sessions[i]? with
    | none => s
    | some session => s.put i (closed session)
  | .edit k f => if held s.sessions k then s else { s with rows := editedRows s.rows k f }
  | .add rows => { s with rows := addedRows s.rows rows }

/-! ### What is claimed, and when it holds -/

/-- The session is about to decide a pending approval, with the three rows locked. -/
structure Holds (session : DbSession) (target : Target) (approval : Approval) : Prop where
  instance_eq : approvalOf session target = some approval
  pending : approval.decision = .pending
  approval_locked : ∀ id, target = .stored id → Key.approval id ∈ session.locked
  incident_locked : Key.incident approval.incidentId ∈ session.locked
  proposal_locked : Key.proposal approval.proposalId ∈ session.locked

/-- At most one committed transaction has moved an approval out of PENDING; a session that
decides holds its rows locked, and what it holds locked is as committed. -/
structure Sound (s : State) : Prop where
  once : ∀ id, s.decided.count id ≤ 1
  locked : ∀ session ∈ s.sessions, ∀ target, session.program.phase = .settle target →
    ∃ approval, Holds session target approval
  current : ∀ session ∈ s.sessions, AsCommitted (rowOf s.rows) session

/-- A session that gets the lock of a row which it has read before finds it unchanged. -/
def Fresh (s : State) : Move → Prop
  | .statement i => ∀ session, s.sessions[i]? = some session → ∀ k next,
      effectOf s.rows session = .lock k next → heldElsewhere s.sessions i k = false →
      ∀ row, rowOf s.rows k = some row → ∀ old, session.loaded k = some old → old = row
  | _ => True

end CloudWard.Approvals.Concurrent
