import CloudWard.Logic.Runs
import CloudWard.Remediation.Execution

/-!
# Racing claims

Transactions that each call `claim_action_execution`, `remediation/execution.py:51`, run
together one database statement at a time. A statement sees the committed rows (READ
COMMITTED), its own writes reach them at the commit, the approval is read under its row
lock, and an insertion waits for a conflicting one that is not decided and fails against
one that is committed. Approvals are decided and requested by other transactions meanwhile.
-/

namespace CloudWard.Remediation.Claims

open CloudWard.Db CloudWard.Incidents CloudWard.Logic Service

/-- The arguments of one call of `claim_action_execution`. -/
structure ClaimCall where
  incidentId : Nat
  proposalId : Nat
  runbookId : String
  target : Parameters
  attempt : Nat

/-- What a claim writes: its row, and the mark on the approval it read under the lock. -/
structure Claim where
  row : ActionExecution
  approval : Option (Nat × Approval)
  now : Nat

/-- How far the transaction of a call has come. -/
inductive Phase
  | called (call : ClaimCall)
  | keyFree (row : ActionExecution)
  | locked (row : ActionExecution) (approval : Option (Nat × Approval))
  | inserted (row : ActionExecution) (approval : Option (Nat × Approval))
  | claimed (claim : Claim)
  | found (executionId : Nat)
  | committed
  | discarded

/-- A transaction; one whose call raised goes no further and is to be discarded. -/
structure Transaction where
  phase : Phase
  raised : Bool := false

/-- A committed change of the rows. -/
inductive Change
  | claimed (transactionId : Nat) (claim : Claim)
  | decided (approvalId : Nat) (decision : ApprovalDecision)
  | requested (approval : Approval)

/-- The committed rows, every transaction begun, and the changes committed so far. -/
structure State where
  rows : Database
  transactions : List Transaction := []
  history : List Change := []

/-- Whether the approval checks of a claim pass, `remediation/execution.py:91`. -/
def claimable (approval : Approval) : Bool :=
  approval.decision = .approved ∧ approval.executionClaimedAt = none

/-- The columns a claim sets on its approval, `remediation/execution.py:118`. -/
def marked (now executionId : Nat) (approval : Approval) : Approval :=
  { approval with
    executionClaimedAt := some now
    executionReference := some (toString executionId) }

/-- The rows after a claim's writes. -/
def Claim.apply (claim : Claim) (db : Database) : Database :=
  { db with
    executions := db.executions.insert claim.row
    incidents := db.incidents.update claim.row.incidentId fun incident ↦
      { incident with retryCount := claim.row.attempt }
    approvals :=
      match claim.approval with
      | none => db.approvals
      | some (approvalId, _) =>
        db.approvals.update approvalId (marked claim.now db.executions.fresh) }

/-- The rows after a committed change. -/
def Change.apply (db : Database) : Change → Database
  | .claimed _ claim => claim.apply db
  | .decided approvalId decision =>
    { db with approvals := db.approvals.update approvalId fun approval ↦
        { approval with decision := decision } }
  | .requested approval => { db with approvals := db.approvals.insert approval }

/-- The rows after a list of committed changes. -/
def replay (db : Database) (history : List Change) : Database :=
  history.foldl Change.apply db

/-- The row and the approval that a transaction works with once it has read the approval. -/
def Phase.lookup : Phase → Option (ActionExecution × Option (Nat × Approval))
  | .locked row approval => some (row, approval)
  | .inserted row approval => some (row, approval)
  | .claimed claim => some (claim.row, claim.approval)
  | _ => none

/-- The approval whose row lock the transaction holds. -/
def Phase.lock (phase : Phase) : Option Nat :=
  phase.lookup.bind fun entry ↦ entry.2.map Prod.fst

/-- The row the transaction has inserted and not decided. -/
def Phase.pending : Phase → Option ActionExecution
  | .inserted row _ => some row
  | .claimed claim => some claim.row
  | _ => none

/-- Whether the call is still running. -/
def Phase.running : Phase → Bool
  | .called _ | .keyFree _ | .locked .. | .inserted .. => true
  | _ => false

/-- The approvals that are locked. -/
def locks (transactions : List Transaction) : List Nat :=
  transactions.filterMap (·.phase.lock)

/-- The rows that are inserted and not decided. -/
def pendingRows (transactions : List Transaction) : List ActionExecution :=
  transactions.filterMap (·.phase.pending)

/-- The newest approval of a proposal. -/
def approvalOf (db : Database) (proposalId : Nat) : Option (Nat × Approval) :=
  db.approvals.latest (·.proposalId = proposalId)

/-- The query under the idempotency key, `remediation/execution.py:75`. -/
def lookUpKey (db : Database) (key : IdempotencyKey) (row : ActionExecution) : Phase :=
  match db.executions.latest (·.idempotencyKey = some key) with
  | some (executionId, _) => .found executionId
  | none => .keyFree row

/-- The next statement of a call; `none` when the call raises there. -/
def State.advance (s : State) (now : Nat) : Phase → Option Phase
  | .called call =>
    if h : 1 ≤ call.attempt ∧ call.attempt ≤ 3 then
      match s.rows.proposals[call.proposalId]? with
      | none => none
      | some proposal =>
        let key := .action call.incidentId call.runbookId proposal.actionType call.target
          call.attempt
        some (lookUpKey s.rows key
          (claimedRow call.incidentId call.proposalId proposal key call.attempt h))
    else none
  | .keyFree row =>
    let approval := approvalOf s.rows row.proposalId
    -- another transaction's lock is waited for
    if approval.any fun entry ↦ entry.1 ∈ locks s.transactions then some (.keyFree row)
    else some (.locked row approval)
  | .locked row approval =>
    if approval.all fun entry ↦ claimable entry.2 then
      if executionIsUnique s.rows.executions row then
        -- so is another transaction's insertion of the same key or attempt
        if executionIsUnique (pendingRows s.transactions) row then some (.inserted row approval)
        else some (.locked row approval)
      else none
    else none
  | .inserted row approval => some (.claimed ⟨row, approval, now⟩)
  | phase => some phase

/-- What the scheduler may let happen next. -/
inductive Input
  | begin (call : ClaimCall)
  | advance (id : Nat) (fault : Bool) (now : Nat)
  | commit (id : Nat)
  | discard (id : Nat)
  | decide (approvalId : Nat) (decision : ApprovalDecision)
  | request (approval : Approval)

/-- Replace a transaction. -/
def State.set (s : State) (id : Nat) (t : Transaction) : State :=
  { s with transactions := s.transactions.set id t }

/-- Commit a change. -/
def State.push (s : State) (change : Change) : State :=
  { s with rows := change.apply s.rows, history := s.history ++ [change] }

/-- One statement of a running call: it raises by a fault or by the code's own checks. -/
def State.proceed (s : State) (id : Nat) (fault : Bool) (now : Nat) (t : Transaction) : State :=
  if t.phase.running ∧ ¬ t.raised then
    match s.advance now t.phase with
    | some phase => if fault then s.set id ⟨t.phase, true⟩ else s.set id ⟨phase, false⟩
    | none => s.set id ⟨t.phase, true⟩
  else s

/-- The commit of the caller, after a call that returned. -/
def State.commit (s : State) (id : Nat) (t : Transaction) : State :=
  if t.raised then s else
    match t.phase with
    | .claimed claim => (s.push (.claimed id claim)).set id ⟨.committed, false⟩
    | .found _ => s.set id ⟨.committed, false⟩
    | _ => s

/-- The end of a transaction without a commit, at any point before one. -/
def State.discard (s : State) (id : Nat) (t : Transaction) : State :=
  match t.phase with
  | .committed => s
  | _ => s.set id ⟨.discarded, t.raised⟩

/-- One step of the machine. -/
def step (s : State) : Input → State
  | .begin call => { s with transactions := s.transactions ++ [⟨.called call, false⟩] }
  | .advance id fault now => s.transactions[id]?.elim s (s.proceed id fault now)
  | .commit id => s.transactions[id]?.elim s (s.commit id)
  | .discard id => s.transactions[id]?.elim s (s.discard id)
  | .decide approvalId decision =>
    -- `ApprovalService.decide` takes the approval's lock
    if approvalId ∈ locks s.transactions then s else s.push (.decided approvalId decision)
  | .request approval =>
    -- `ensure_runtime_approval` returns the approval there is
    if (approvalOf s.rows approval.proposalId).isSome then s else s.push (.requested approval)

/-- No transaction begun. -/
def start (db : Database) : State where
  rows := db

/-! ### What changes keep -/

/-- Two executions that the unique constraints allow together. -/
def Distinct (e row : ActionExecution) : Prop :=
  (e.incidentId, e.attempt) ≠ (row.incidentId, row.attempt) ∧
    (row.idempotencyKey.isSome → e.idempotencyKey ≠ row.idempotencyKey)

/-- The approval of a proposal is marked as claimed. -/
def Marked (db : Database) (proposalId : Nat) : Prop :=
  ∃ entry, approvalOf db proposalId = some entry ∧ entry.2.executionClaimedAt ≠ none

theorem Distinct.symm {e row : ActionExecution} (h : Distinct e row) : Distinct row e := by
  refine ⟨h.1.symm, ?_⟩
  intro hsome heq
  rw [← heq] at hsome
  exact h.2 hsome heq.symm

@[simp] theorem replay_append (db : Database) (history : List Change) (change : Change) :
    replay db (history ++ [change]) = change.apply (replay db history) := by
  simp [replay, Change.apply]

/-- What a change of one approval does to the newest approval of a proposal. -/
private theorem approvalOf_update (db : Database) (id : Nat) {f : Approval → Approval}
    (hf : ∀ a, (f a).proposalId = a.proposalId) (proposalId : Nat) :
    approvalOf { db with approvals := db.approvals.update id f } proposalId =
      (approvalOf db proposalId).map fun e ↦ (e.1, if e.1 = id then f e.2 else e.2) := by
  apply Table.latest_update
  intro row
  simp only [hf]

theorem approvalOf_claim (claim : Claim) (db : Database) (proposalId : Nat) :
    approvalOf (claim.apply db) proposalId =
      (approvalOf db proposalId).map fun e ↦
        (e.1, if claim.approval.map Prod.fst = some e.1
          then marked claim.now db.executions.fresh e.2 else e.2) := by
  obtain ⟨row, approval, now⟩ := claim
  cases approval with
  | none => simp [Claim.apply, approvalOf]
  | some entry =>
    have h := approvalOf_update db entry.1 (f := marked now db.executions.fresh)
      (fun _ ↦ rfl) proposalId
    simp only [Option.map_some, Option.some.injEq, eq_comm (a := entry.1)]
    exact h

theorem approvalOf_decided (db : Database) (id : Nat) (decision : ApprovalDecision)
    (proposalId : Nat) :
    approvalOf ((Change.decided id decision).apply db) proposalId =
      (approvalOf db proposalId).map fun e ↦
        (e.1, if e.1 = id then { e.2 with decision := decision } else e.2) :=
  approvalOf_update db id (f := fun approval ↦ { approval with decision := decision })
    (fun _ ↦ rfl) proposalId

theorem approvalOf_requested {db : Database} {approval : Approval} {proposalId : Nat}
    (h : (approvalOf db proposalId).isSome)
    (hnone : approvalOf db approval.proposalId = none) :
    approvalOf ((Change.requested approval).apply db) proposalId = approvalOf db proposalId := by
  apply Table.latest_insert_of_neg
  rw [decide_eq_false_iff_not]
  rintro rfl
  simp [hnone] at h

/-- An approval that is marked stays marked. -/
theorem Marked.apply {db : Database} {proposalId : Nat} (h : Marked db proposalId)
    {change : Change}
    (hrequest : ∀ approval, change = .requested approval →
      approvalOf db approval.proposalId = none) : Marked (change.apply db) proposalId := by
  obtain ⟨entry, hentry, hclaimed⟩ := h
  cases change with
  | claimed id claim =>
    refine ⟨_, by rw [Change.apply, approvalOf_claim, hentry, Option.map_some], ?_⟩
    dsimp only
    split
    · simp [marked]
    · exact hclaimed
  | decided id decision =>
    refine ⟨_, by rw [approvalOf_decided, hentry, Option.map_some], ?_⟩
    dsimp only
    split
    · exact hclaimed
    · exact hclaimed
  | requested approval =>
    refine ⟨entry, ?_, hclaimed⟩
    rw [approvalOf_requested _ (hrequest approval rfl), hentry]
    rw [hentry]
    rfl

/-! ### What the transactions know together -/

/-- What holds of one transaction beside the committed rows and the others. -/
structure Joins (db : Database) (rows : Database) (history : List Change)
    (rest : List Transaction) (phase : Phase) : Prop where
  pending : ∀ row ∈ phase.pending,
    executionIsUnique (rows.executions ++ pendingRows rest) row
  lock : ∀ id ∈ phase.lock, id ∉ locks rest
  current : ∀ row entry, phase.lookup = some (row, some entry) →
    approvalOf rows row.proposalId = some entry
  granted : ∀ row entry, phase.lookup = some (row, some entry) → phase.pending.isSome →
    claimable entry.2
  looked : ∀ row approval, phase.lookup = some (row, approval) →
    ∃ pre, pre <+: history ∧ approvalOf (replay db pre) row.proposalId = approval

/-- What holds of all transactions together. -/
structure Coherent (db rows : Database) (history : List Change) (ts : List Transaction) :
    Prop where
  unique : (rows.executions ++ pendingRows ts).Pairwise Distinct
  nodup : (locks ts).Nodup
  current : ∀ t ∈ ts, ∀ row entry, t.phase.lookup = some (row, some entry) →
    approvalOf rows row.proposalId = some entry
  granted : ∀ t ∈ ts, ∀ row entry, t.phase.lookup = some (row, some entry) →
    t.phase.pending.isSome → claimable entry.2
  looked : ∀ t ∈ ts, ∀ row approval, t.phase.lookup = some (row, approval) →
    ∃ pre, pre <+: history ∧ approvalOf (replay db pre) row.proposalId = approval

section Coherence

variable {db rows : Database} {history : List Change} {ts ts' : List Transaction}
variable {t : Transaction}

theorem Coherent.perm (h : Coherent db rows history ts) (hperm : ts.Perm ts') :
    Coherent db rows history ts' where
  unique := h.unique.perm ((hperm.filterMap _).append_left _) Distinct.symm
  nodup := (hperm.filterMap _).nodup_iff.mp h.nodup
  current t ht := h.current t (hperm.mem_iff.mpr ht)
  granted t ht := h.granted t (hperm.mem_iff.mpr ht)
  looked t ht := h.looked t (hperm.mem_iff.mpr ht)

theorem pendingRows_cons (t : Transaction) (ts : List Transaction) :
    pendingRows (t :: ts) = t.phase.pending.toList ++ pendingRows ts := by
  unfold pendingRows
  rw [List.filterMap_cons]
  cases t.phase.pending <;> rfl

theorem locks_cons (t : Transaction) (ts : List Transaction) :
    locks (t :: ts) = t.phase.lock.toList ++ locks ts := by
  unfold locks
  rw [List.filterMap_cons]
  cases t.phase.lock <;> rfl

/-- The transactions agree exactly when one joins the others. -/
theorem coherent_cons :
    Coherent db rows history (t :: ts) ↔
      Joins db rows history ts t.phase ∧ Coherent db rows history ts := by
  have hunique : (rows.executions ++ pendingRows (t :: ts)).Pairwise Distinct ↔
      (∀ row ∈ t.phase.pending, executionIsUnique (rows.executions ++ pendingRows ts) row) ∧
        (rows.executions ++ pendingRows ts).Pairwise Distinct := by
    rw [pendingRows_cons]
    cases t.phase.pending with
    | none => simp
    | some row =>
      have hmove : (rows.executions ++ ([row] ++ pendingRows ts)).Perm
          (row :: (rows.executions ++ pendingRows ts)) := List.perm_middle
      rw [Option.toList_some, hmove.pairwise_iff Distinct.symm, List.pairwise_cons]
      constructor
      · rintro ⟨hrow, hrest⟩
        refine ⟨?_, hrest⟩
        rintro _ ⟨⟩ e he
        exact (hrow e he).symm
      · rintro ⟨hrow, hrest⟩
        refine ⟨?_, hrest⟩
        intro e he
        exact Distinct.symm (hrow row rfl e he)
  have hnodup : (locks (t :: ts)).Nodup ↔
      (∀ id ∈ t.phase.lock, id ∉ locks ts) ∧ (locks ts).Nodup := by
    rw [locks_cons]
    cases t.phase.lock <;> simp
  constructor
  · intro h
    obtain ⟨hpending, hrest⟩ := hunique.mp h.unique
    obtain ⟨hlock, hlocks⟩ := hnodup.mp h.nodup
    constructor
    · exact ⟨hpending, hlock, h.current t List.mem_cons_self, h.granted t List.mem_cons_self,
        h.looked t List.mem_cons_self⟩
    · exact ⟨hrest, hlocks, fun t ht ↦ h.current t (List.mem_cons_of_mem _ ht),
        fun t ht ↦ h.granted t (List.mem_cons_of_mem _ ht),
        fun t ht ↦ h.looked t (List.mem_cons_of_mem _ ht)⟩
  · rintro ⟨hjoins, h⟩
    refine ⟨hunique.mpr ⟨hjoins.pending, h.unique⟩, hnodup.mpr ⟨hjoins.lock, h.nodup⟩, ?_, ?_,
      ?_⟩
    · exact List.forall_mem_cons.mpr ⟨hjoins.current, h.current⟩
    · exact List.forall_mem_cons.mpr ⟨hjoins.granted, h.granted⟩
    · exact List.forall_mem_cons.mpr ⟨hjoins.looked, h.looked⟩

/-- A transaction that has read no approval joins any others. -/
theorem joins_of_lookup_none {phase : Phase} (h : phase.lookup = none) :
    Joins db rows history ts phase := by
  have hpending : phase.pending = none := by
    cases phase <;> simp_all [Phase.lookup, Phase.pending]
  have hlock : phase.lock = none := by
    simp [Phase.lock, h]
  constructor
  · simp [hpending]
  · simp [hlock]
  · simp [h]
  · simp [h]
  · simp [h]

/-- A committed change of other rows leaves the transactions in flight as they were. -/
theorem Coherent.push (h : Coherent db rows history ts) {rows' : Database} (change : Change)
    (hunique : (rows'.executions ++ pendingRows ts).Pairwise Distinct)
    (hcurrent : ∀ proposalId entry, entry.1 ∈ locks ts →
      approvalOf rows proposalId = some entry → approvalOf rows' proposalId = some entry) :
    Coherent db rows' (history ++ [change]) ts := by
  refine ⟨hunique, h.nodup, ?_, h.granted, ?_⟩
  · intro t ht row entry hlookup
    apply hcurrent
    · apply List.mem_filterMap.mpr
      exact ⟨t, ht, by simp [Phase.lock, hlookup]⟩
    · exact h.current t ht row entry hlookup
  · intro t ht row approval hlookup
    obtain ⟨pre, hpre, hseen⟩ := h.looked t ht row approval hlookup
    exact ⟨pre, hpre.trans (List.prefix_append _ _), hseen⟩

end Coherence

/-! ### Steps -/

/-- A claim of a proposal that had an approval. -/
def Change.approvedFor (proposalId : Nat) : Change → Bool
  | .claimed _ claim => claim.approval.isSome ∧ claim.row.proposalId = proposalId
  | _ => false

/-- What a claim committed after `pre` rests on: the approval it worked with was the newest
of its proposal when it was looked up, and if there was one it still is, approved and not
claimed by another. -/
def Approved (db : Database) (pre : List Change) (claim : Claim) : Prop :=
  (∃ pre₁, pre₁ <+: pre ∧
    approvalOf (replay db pre₁) claim.row.proposalId = claim.approval) ∧
  ∀ entry ∈ claim.approval, approvalOf (replay db pre) claim.row.proposalId = some entry ∧
    entry.2.decision = .approved ∧ entry.2.executionClaimedAt = none

/-- The invariant of the machine. -/
structure Safe (db : Database) (s : State) : Prop where
  replayed : s.rows = replay db s.history
  coherent : Coherent db s.rows s.history s.transactions
  owner : ∀ id claim, .claimed id claim ∈ s.history →
    s.transactions[id]? = some ⟨.committed, false⟩
  marked : ∀ id claim, .claimed id claim ∈ s.history → claim.approval.isSome →
    Marked s.rows claim.row.proposalId
  once : ∀ proposalId, s.history.countP (Change.approvedFor proposalId) ≤ 1
  approved : ∀ pre id claim post, s.history = pre ++ .claimed id claim :: post →
    Approved db pre claim

section Steps

variable {db : Database} {s : State} {id : Nat} {t : Transaction}

theorem safe_start (h : db.executions.Pairwise Distinct) : Safe db (start db) where
  replayed := rfl
  coherent := ⟨by simpa [start, pendingRows] using h, by simp [start, locks], by simp [start],
    by simp [start], by simp [start]⟩
  owner := by simp [start]
  marked := by simp [start]
  once := by simp [start]
  approved := by simp [start]

/-- A statement that changes no committed row keeps the invariant if its transaction still
joins the others. -/
theorem Safe.set (h : Safe db s) (ht : s.transactions[id]? = some t)
    (hopen : t.phase ≠ .committed) {phase : Phase} (raised : Bool)
    (hjoins : Joins db s.rows s.history (s.transactions.eraseIdx id) phase) :
    Safe db (s.set id ⟨phase, raised⟩) where
  replayed := h.replayed
  coherent := by
    have hrest := (coherent_cons.mp (h.coherent.perm (Table.perm_cons_eraseIdx ht))).2
    exact (coherent_cons.mpr ⟨hjoins, hrest⟩).perm (Table.set_perm_cons_eraseIdx ht).symm
  owner := by
    intro id' claim hmem
    have howner := h.owner id' claim hmem
    have hne : id ≠ id' := by
      rintro rfl
      rw [ht, Option.some.injEq] at howner
      rw [howner] at hopen
      exact hopen rfl
    rw [State.set, List.getElem?_set_ne hne]
    exact howner
  marked := h.marked
  once := h.once
  approved := h.approved

/-- A committed change keeps the invariant if the transactions still agree. -/
theorem Safe.push (h : Safe db s) {change : Change} {ts : List Transaction}
    (hcoherent : Coherent db (change.apply s.rows) (s.history ++ [change]) ts)
    (howner : ∀ id claim, .claimed id claim ∈ s.history ++ [change] →
      ts[id]? = some ⟨.committed, false⟩)
    (hrequest : ∀ approval, change = .requested approval →
      approvalOf s.rows approval.proposalId = none)
    (hclaim : ∀ id claim, change = .claimed id claim → Approved db s.history claim) :
    Safe db ⟨change.apply s.rows, ts, s.history ++ [change]⟩ where
  replayed := by rw [replay_append, ← h.replayed]
  coherent := hcoherent
  owner := howner
  marked := by
    intro id claim hmem hsome
    rcases List.mem_append.mp hmem with hmem | hmem
    · exact (h.marked id claim hmem hsome).apply hrequest
    · obtain rfl := List.mem_singleton.mp hmem
      obtain ⟨entry, hentry⟩ := Option.isSome_iff_exists.mp hsome
      have hcurrent := ((hclaim id claim rfl).2 entry hentry).1
      rw [← h.replayed] at hcurrent
      refine ⟨_, by rw [Change.apply, approvalOf_claim, hcurrent, Option.map_some], ?_⟩
      simp [hentry, Claims.marked]
  once := by
    intro proposalId
    rw [List.countP_append, List.countP_singleton]
    by_cases hnew : change.approvedFor proposalId
    · -- an earlier claim of the proposal would have marked the approval of this one
      have hnone : s.history.countP (Change.approvedFor proposalId) = 0 := by
        rw [List.countP_eq_zero]
        intro old hold happroved
        cases change with
        | claimed id claim =>
          cases old with
          | claimed id' claim' =>
            simp only [Change.approvedFor, decide_eq_true_eq] at hnew happroved
            obtain ⟨entry', hentry', hclaimed⟩ := h.marked id' claim' hold happroved.1
            obtain ⟨entry, hentry⟩ := Option.isSome_iff_exists.mp hnew.1
            obtain ⟨hcurrent, -, hfree⟩ := (hclaim id claim rfl).2 entry hentry
            rw [← h.replayed, hnew.2, ← happroved.2, hentry', Option.some.injEq] at hcurrent
            rw [hcurrent] at hclaimed
            exact hclaimed hfree
          | _ => simp [Change.approvedFor] at happroved
        | _ => simp [Change.approvedFor] at hnew
      rw [hnone, if_pos hnew]
    · rw [if_neg hnew]
      exact h.once proposalId
  approved := by
    intro pre id claim post heq
    rcases List.eq_nil_or_concat post with rfl | ⟨post, last, rfl⟩
    · obtain ⟨rfl, hlast⟩ := List.append_inj' heq rfl
      exact hclaim id claim (List.singleton_inj.mp hlast)
    · simp only [List.concat_eq_append, ← List.cons_append, ← List.append_assoc] at heq
      exact h.approved pre id claim post (List.append_inj' heq rfl).1

/-- What the next statement of a call leads to joins the other transactions. -/
theorem Safe.joins_advance (h : Safe db s) (ht : s.transactions[id]? = some t) {now : Nat}
    {phase : Phase} (hadvance : s.advance now t.phase = some phase) :
    Joins db s.rows s.history (s.transactions.eraseIdx id) phase := by
  have hperm := Table.perm_cons_eraseIdx ht
  obtain ⟨hjoins, -⟩ := coherent_cons.mp (h.coherent.perm hperm)
  have hlocks : locks (s.transactions.eraseIdx id) ⊆ locks s.transactions :=
    ((List.eraseIdx_sublist _ _).filterMap _).subset
  have hpending : pendingRows (s.transactions.eraseIdx id) ⊆ pendingRows s.transactions :=
    ((List.eraseIdx_sublist _ _).filterMap _).subset
  cases hphase : t.phase with
  | called call =>
    rw [hphase] at hadvance
    simp only [State.advance] at hadvance
    split at hadvance
    · cases hproposal : s.rows.proposals[call.proposalId]? with
      | none => simp [hproposal] at hadvance
      | some proposal =>
        simp only [hproposal, Option.some.injEq] at hadvance
        subst hadvance
        apply joins_of_lookup_none
        unfold lookUpKey
        split <;> rfl
    · cases hadvance
  | keyFree row =>
    rw [hphase] at hadvance
    simp only [State.advance] at hadvance
    split at hadvance
    · cases hadvance
      exact joins_of_lookup_none rfl
    · next hfree =>
      cases hadvance
      have hcurrent : approvalOf (replay db s.history) row.proposalId =
          approvalOf s.rows row.proposalId := by rw [h.replayed]
      constructor
      · simp [Phase.pending]
      · intro a ha hmem
        simp only [Phase.lock, Phase.lookup, Option.bind_some, Option.mem_def,
          Option.map_eq_some_iff] at ha
        obtain ⟨entry, hentry, rfl⟩ := ha
        rw [hentry] at hfree
        exact hfree (by simpa using hlocks hmem)
      · intro row' entry hlookup
        simp only [Phase.lookup, Option.some.injEq, Prod.mk.injEq] at hlookup
        rw [← hlookup.1, hlookup.2]
      · simp [Phase.pending]
      · intro row' approval hlookup
        simp only [Phase.lookup, Option.some.injEq, Prod.mk.injEq] at hlookup
        exact ⟨s.history, List.prefix_rfl, by rw [← hlookup.1, ← hlookup.2, hcurrent]⟩
  | locked row approval =>
    rw [hphase] at hadvance hjoins
    simp only [State.advance] at hadvance
    split at hadvance
    · next hclaimable =>
      split at hadvance
      · next hcommitted =>
        split at hadvance
        · next hwaiting =>
          cases hadvance
          refine ⟨?_, hjoins.lock, hjoins.current, ?_, hjoins.looked⟩
          · rintro _ ⟨⟩ e he
            rcases List.mem_append.mp he with he | he
            · exact hcommitted e he
            · exact hwaiting e (hpending he)
          · intro row' entry hlookup _
            simp only [Phase.lookup, Option.some.injEq, Prod.mk.injEq] at hlookup
            rw [hlookup.2] at hclaimable
            simpa using hclaimable
        · cases hadvance
          exact hjoins
      · cases hadvance
    · cases hadvance
  | inserted row approval =>
    rw [hphase] at hadvance hjoins
    cases hadvance
    exact ⟨hjoins.pending, hjoins.lock, hjoins.current, hjoins.granted, hjoins.looked⟩
  | _ =>
    rw [hphase] at hadvance hjoins
    cases hadvance
    exact hjoins

/-- The step lemma: one statement of a running call. -/
theorem Safe.proceed (h : Safe db s) (ht : s.transactions[id]? = some t) (fault : Bool)
    (now : Nat) : Safe db (s.proceed id fault now t) := by
  obtain ⟨hjoins, -⟩ :=
    coherent_cons.mp (h.coherent.perm (Table.perm_cons_eraseIdx ht))
  unfold State.proceed
  split
  · next hrunning =>
    have hopen : t.phase ≠ .committed := by
      intro hphase
      simp [hphase, Phase.running] at hrunning
    split
    · next phase hadvance =>
      split
      · exact h.set ht hopen true hjoins
      · exact h.set ht hopen false (h.joins_advance ht hadvance)
    · exact h.set ht hopen true hjoins
  · exact h

/-- The step lemma: a commit. -/
theorem Safe.commit (h : Safe db s) (ht : s.transactions[id]? = some t) :
    Safe db (s.commit id t) := by
  have hperm := Table.perm_cons_eraseIdx ht
  obtain ⟨hjoins, hrest⟩ := coherent_cons.mp (h.coherent.perm hperm)
  unfold State.commit
  split
  · exact h
  cases hphase : t.phase with
  | claimed claim =>
    rw [hphase] at hjoins
    have happroved : Approved db s.history claim := by
      constructor
      · exact hjoins.looked claim.row claim.approval rfl
      · intro entry hentry
        have hlookup : (Phase.claimed claim).lookup = some (claim.row, some entry) := by
          rw [← hentry]
          rfl
        have hclaimable := hjoins.granted _ _ hlookup rfl
        simp only [claimable, decide_eq_true_eq] at hclaimable
        rw [← h.replayed]
        exact ⟨hjoins.current _ _ hlookup, hclaimable⟩
    have hcoherent : Coherent db (claim.apply s.rows) (s.history ++ [.claimed id claim])
        (s.transactions.eraseIdx id) := by
      apply hrest.push
      · have hunique := (h.coherent.perm hperm).unique
        rw [pendingRows_cons, hphase, ← List.append_assoc] at hunique
        exact hunique
      · intro proposalId entry hlock hcurrent
        have hne : claim.approval.map Prod.fst ≠ some entry.1 := by
          intro heq
          exact hjoins.lock entry.1 heq hlock
        rw [approvalOf_claim, hcurrent, Option.map_some, if_neg hne]
    show Safe db ⟨(Change.claimed id claim).apply s.rows,
      s.transactions.set id ⟨.committed, false⟩, s.history ++ [.claimed id claim]⟩
    apply h.push
    · apply Coherent.perm _ (Table.set_perm_cons_eraseIdx ht).symm
      exact coherent_cons.mpr ⟨joins_of_lookup_none rfl, hcoherent⟩
    · intro id' claim' hmem
      by_cases hid : id = id'
      · subst hid
        rw [List.getElem?_set_self (List.getElem?_eq_some_iff.mp ht).1]
      · rw [List.getElem?_set_ne hid]
        rcases List.mem_append.mp hmem with hmem | hmem
        · exact h.owner id' claim' hmem
        · cases List.mem_singleton.mp hmem
          exact absurd rfl hid
    · intro approval heq
      cases heq
    · rintro _ _ ⟨⟩
      exact happroved
  | found executionId =>
    apply h.set ht _ false (joins_of_lookup_none rfl)
    simp [hphase]
  | _ => exact h

/-- The step lemma: the end of a transaction without a commit. -/
theorem Safe.discard (h : Safe db s) (ht : s.transactions[id]? = some t) :
    Safe db (s.discard id t) := by
  unfold State.discard
  split
  · exact h
  · next hopen => exact h.set ht hopen _ (joins_of_lookup_none rfl)

/-- The step lemma. -/
theorem Safe.step (h : Safe db s) (input : Input) : Safe db (step s input) := by
  cases input with
  | begin call =>
    refine ⟨h.replayed, ?_, ?_, h.marked, h.once, h.approved⟩
    · have hperm := List.perm_append_singleton (Transaction.mk (.called call) false)
        s.transactions
      exact (coherent_cons.mpr ⟨joins_of_lookup_none rfl, h.coherent⟩).perm hperm.symm
    · intro id claim hmem
      have howner := h.owner id claim hmem
      have hlt := (List.getElem?_eq_some_iff.mp howner).1
      rw [Claims.step, List.getElem?_append_left hlt]
      exact howner
  | advance id fault now =>
    show Safe db (s.transactions[id]?.elim s (s.proceed id fault now))
    cases ht : s.transactions[id]? with
    | none => exact h
    | some t => exact h.proceed ht fault now
  | commit id =>
    show Safe db (s.transactions[id]?.elim s (s.commit id))
    cases ht : s.transactions[id]? with
    | none => exact h
    | some t => exact h.commit ht
  | discard id =>
    show Safe db (s.transactions[id]?.elim s (s.discard id))
    cases ht : s.transactions[id]? with
    | none => exact h
    | some t => exact h.discard ht
  | decide approvalId decision =>
    show Safe db (if approvalId ∈ locks s.transactions then s
      else s.push (.decided approvalId decision))
    split
    · exact h
    · next hlock =>
      apply h.push
      · apply h.coherent.push
        · exact h.coherent.unique
        · intro proposalId entry hentry hcurrent
          have hne : entry.1 ≠ approvalId := by
            rintro rfl
            exact hlock hentry
          rw [approvalOf_decided, hcurrent, Option.map_some, if_neg hne]
      · intro id claim hmem
        rcases List.mem_append.mp hmem with hmem | hmem
        · exact h.owner id claim hmem
        · cases List.mem_singleton.mp hmem
      · intro approval heq
        cases heq
      · intro id claim heq
        cases heq
  | request approval =>
    show Safe db (if (approvalOf s.rows approval.proposalId).isSome then s
      else s.push (.requested approval))
    split
    · exact h
    · next hnone =>
      rw [Bool.not_eq_true, Option.isSome_eq_false_iff, Option.isNone_iff_eq_none] at hnone
      apply h.push
      · apply h.coherent.push
        · exact h.coherent.unique
        · intro proposalId entry _ hcurrent
          rw [approvalOf_requested _ hnone]
          · exact hcurrent
          · rw [hcurrent]
            rfl
      · intro id claim hmem
        rcases List.mem_append.mp hmem with hmem | hmem
        · exact h.owner id claim hmem
        · cases List.mem_singleton.mp hmem
      · rintro _ ⟨⟩
        exact hnone
      · intro id claim heq
        cases heq

end Steps

/-- The run lemma. -/
theorem safe_run {db : Database} (h : db.executions.Pairwise Distinct) (inputs : List Input) :
    Safe db (Runs.run step (start db) inputs) :=
  Runs.invariant (fun _ input hs ↦ hs.step input) (safe_start h) inputs

/-- The state that a schedule leads to. -/
def reached (db : Database) (inputs : List Input) : State := Runs.run step (start db) inputs

/-- Whatever is interleaved, committed executions respect the unique constraints and the
bound on attempts; a proposal with an approval at the claim is claimed at most once, under
its newest approval, approved and not claimed before; and the committed rows are those that
the committed changes made, none of them by a call that raised. -/
theorem claims_at_most_once {db : Database} (h : db.executions.Pairwise Distinct)
    (inputs : List Input) :
    (reached db inputs).rows.executions.Pairwise Distinct ∧
    (∀ e ∈ (reached db inputs).rows.executions, 1 ≤ e.attempt ∧ e.attempt ≤ 3) ∧
    (∀ proposalId, (reached db inputs).history.countP (Change.approvedFor proposalId) ≤ 1) ∧
    (∀ pre id claim post, (reached db inputs).history = pre ++ .claimed id claim :: post →
      Approved db pre claim) ∧
    (reached db inputs).rows = replay db (reached db inputs).history ∧
    ∀ (id : Nat) (t : Transaction), (reached db inputs).transactions[id]? = some t → t.raised →
      ∀ claim, .claimed id claim ∉ (reached db inputs).history := by
  have hsafe : Safe db (reached db inputs) := safe_run h inputs
  refine ⟨?_, ?_, hsafe.once, hsafe.approved, hsafe.replayed, ?_⟩
  · exact hsafe.coherent.unique.sublist (List.sublist_append_left _ _)
  · exact fun e _ ↦ e.attempt_mem
  · intro id t ht hraised claim hmem
    have howner := hsafe.owner id claim hmem
    rw [ht, Option.some.injEq] at howner
    simp [howner] at hraised

/-- Rows with one proposal, for two calls that claim its first attempt. -/
def contested : Database where
  incidents := [{
    correlationId := "c"
    incidentType := "UNHEALTHY_POD"
    title := "t"
    environment := .staging }]
  proposals := [⟨0, .deleteUnhealthyPod, [], .pending, 10, ⟨none, none⟩, "cloudward",
    Nat.le_of_ble_eq_true rfl⟩]

/-- Two calls of one proposal under different runbooks, interleaved. -/
def race : List Input :=
  [.begin ⟨0, 0, "a", [], 1⟩, .begin ⟨0, 0, "b", [], 1⟩, .advance 0 false 0,
    .advance 1 false 0, .advance 0 false 0, .advance 1 false 0, .advance 0 false 0,
    .advance 0 false 0, .commit 0, .advance 1 false 0, .discard 1]

/-- One of the two commits, the other raises. -/
example : (reached contested race).history.length = 1 ∧
    (reached contested race).transactions.map (·.raised) = [false, true] := by
  decide

/-- The guarantee for the race of two calls. -/
theorem claims_at_most_once_race :
    (reached contested race).rows.executions.Pairwise Distinct ∧
    (∀ e ∈ (reached contested race).rows.executions, 1 ≤ e.attempt ∧ e.attempt ≤ 3) ∧
    (∀ proposalId,
      (reached contested race).history.countP (Change.approvedFor proposalId) ≤ 1) ∧
    (∀ pre id claim post,
      (reached contested race).history = pre ++ .claimed id claim :: post →
      Approved contested pre claim) ∧
    (reached contested race).rows = replay contested (reached contested race).history ∧
    ∀ (id : Nat) (t : Transaction), (reached contested race).transactions[id]? = some t →
      t.raised → ∀ claim, .claimed id claim ∉ (reached contested race).history :=
  claims_at_most_once List.Pairwise.nil race

end CloudWard.Remediation.Claims
