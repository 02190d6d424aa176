import CloudWard.Incidents.Service

/-!
# Claiming and finishing an execution

`remediation/execution.py`: an execution is claimed under an idempotency key before its
action runs and finished after it. A proposal with an approval can be claimed only while
that approval is APPROVED and unclaimed. `db/models.py` allows one approval a proposal
version and the services only insert version 1, so the newest version is the newest row.
-/

namespace CloudWard.Remediation

open CloudWard.Db CloudWard.Incidents CloudWard.Logic Service

/-- `ExecutionClaim`, `remediation/execution.py:31`. -/
structure ExecutionClaim where
  execution : Nat
  claimed : Bool
deriving DecidableEq

/-- The execution row of a claim, `remediation/execution.py:105`. -/
def claimedRow (incidentId proposalId : Nat) (proposal : ActionProposal)
    (key : IdempotencyKey) (attempt : Nat) (h : 1 ≤ attempt ∧ attempt ≤ 3) :
    ActionExecution where
  incidentId := incidentId
  proposalId := proposalId
  actionType := proposal.actionType
  attempt := attempt
  status := .running
  idempotencyKey := some key
  attempt_mem := h

/-- The approval checks of a claim, `remediation/execution.py:91`. -/
def requireUnclaimed (approval : Approval) : Service Unit := do
  require (approval.decision = .approved)
    ⟨"ACTION_APPROVAL_REQUIRED",
      "The proposal does not have a current approved decision", 409⟩
  require (approval.executionClaimedAt = none)
    ⟨"APPROVED_ACTION_ALREADY_CLAIMED",
      "The approved proposal was already claimed for execution", 409⟩

/-- The claim mark on the approval, where the proposal has one,
`remediation/execution.py:118`. -/
def markClaimed (now executionId : Nat) : Option Nat → Service Unit
  | none => pure ()
  | some approvalId => updateApproval approvalId fun approval ↦
      { approval with
        executionClaimedAt := some now
        executionReference := some (toString executionId) }

/-- The insertion that a claim ends with, `remediation/execution.py:105`. -/
def insertClaim (env : Env) (incidentId : Nat) (row : ActionExecution)
    (approval : Option Nat) : Service ExecutionClaim := do
  let executionId ← insertExecution env row
  updateIncident incidentId fun incident ↦ { incident with retryCount := row.attempt }
  let now ← ask env.now
  markClaimed now executionId approval
  -- the audit row's flush and the stream row's
  flush env
  flush env
  return { execution := executionId, claimed := true }

/-- `claim_action_execution`, `remediation/execution.py:51`. -/
def claimActionExecution (env : Env) (incidentId proposalId : Nat) (runbookId : String)
    (target : Parameters) (attempt : Nat) : Service ExecutionClaim :=
  if h : 1 ≤ attempt ∧ attempt ≤ 3 then do
    let proposal ← loadProposal proposalId
    let key := IdempotencyKey.action incidentId runbookId proposal.actionType target attempt
    let existing ← query env fun db ↦ db.executions.latest (·.idempotencyKey = some key)
    match existing with
    | some (executionId, _) => return { execution := executionId, claimed := false }
    | none =>
      let approval ← query env fun db ↦ db.approvals.latest (·.proposalId = proposalId)
      match approval with
      | none =>
        insertClaim env incidentId (claimedRow incidentId proposalId proposal key attempt h) none
      | some (approvalId, approval) => do
        requireUnclaimed approval
        insertClaim env incidentId (claimedRow incidentId proposalId proposal key attempt h)
          (some approvalId)
  else raise
    ⟨"REMEDIATION_ATTEMPT_LIMIT",
      "Automatic remediation is limited to three attempts per incident", 409⟩

/-- `finish_action_execution`, `remediation/execution.py:141`. -/
def finishActionExecution (env : Env) (executionId : Nat) (succeeded : Bool)
    (errorCode : Option String := none) (result : Parameters := []) : Service Unit := do
  updateExecution executionId fun execution ↦
    { execution with
      status := if succeeded then .succeeded else .failed
      errorCode := errorCode
      result := result }
  -- the audit row's flush, the stream row's and the last one
  flush env
  flush env
  flush env

/-! ### What claiming and finishing leave unchanged -/

section Tables

variable {ω : Type} {f : World → ω} (htick : ∀ w n, f { w with tick := n } = f w)
variable (hexecutions : ∀ w t, f { w with db := { w.db with executions := t } } = f w)
include htick hexecutions

theorem frames_insertExecution_of_table (env : Env) (row : ActionExecution) :
    Exec.Frames f (insertExecution env row) :=
  Exec.frames_bind (Exec.frames_read _) fun _ ↦ Exec.frames_bind (Exec.frames_require _ _) fun _ ↦
    Exec.frames_bind (Exec.frames_update fun w ↦ hexecutions w _) fun _ ↦
    Exec.frames_bind (frames_flush env htick) fun _ ↦ Exec.frames_pure _

theorem frames_finishActionExecution_of_table (env : Env) (executionId : Nat) (succeeded : Bool)
    (errorCode : Option String) (result : Parameters) :
    Exec.Frames f (finishActionExecution env executionId succeeded errorCode result) := by
  have hflush : Exec.Frames f (flush env) := frames_flush env htick
  exact Exec.frames_bind (Exec.frames_update fun w ↦ hexecutions w _) fun _ ↦
    Exec.frames_bind hflush fun _ ↦ Exec.frames_bind hflush fun _ ↦ hflush

variable (hincidents : ∀ w t, f { w with db := { w.db with incidents := t } } = f w)
variable (happrovals : ∀ w id g,
  f { w with db := { w.db with approvals := w.db.approvals.update id g } } = f w)
include hincidents happrovals

private theorem frames_insertClaim (env : Env) (incidentId : Nat) (row : ActionExecution)
    (approval : Option Nat) : Exec.Frames f (insertClaim env incidentId row approval) := by
  have hflush : Exec.Frames f (flush env) := frames_flush env htick
  apply Exec.frames_bind (frames_insertExecution_of_table htick hexecutions env row)
  intro executionId
  apply Exec.frames_bind
  · exact Exec.frames_update fun w ↦ hincidents w _
  intro _
  apply Exec.frames_bind (frames_ask _ htick)
  intro now
  apply Exec.frames_bind
  · cases approval with
    | none => exact Exec.frames_pure _
    | some approvalId => exact Exec.frames_update fun w ↦ happrovals w _ _
  intro _
  exact Exec.frames_bind hflush fun _ ↦ Exec.frames_bind hflush fun _ ↦ Exec.frames_pure _

theorem frames_claimActionExecution_of_tables (env : Env) (incidentId proposalId : Nat)
    (runbookId : String) (target : Parameters) (attempt : Nat) :
    Exec.Frames f
      (claimActionExecution env incidentId proposalId runbookId target attempt) := by
  have hclaim (row : ActionExecution) (approval : Option Nat) :
      Exec.Frames f (insertClaim env incidentId row approval) :=
    frames_insertClaim htick hexecutions hincidents happrovals env incidentId row approval
  unfold claimActionExecution
  split
  · apply Exec.frames_bind
    · exact frames_loadProposal _
    intro proposal
    apply Exec.frames_bind (frames_query env _ htick)
    intro existing
    cases existing with
    | some entry => exact Exec.frames_pure _
    | none =>
      apply Exec.frames_bind (frames_query env _ htick)
      intro approval
      cases approval with
      | none => exact hclaim _ _
      | some entry =>
        apply Exec.frames_bind
        · exact Exec.frames_bind (Exec.frames_require _ _) fun _ ↦ Exec.frames_require _ _
        intro _
        exact hclaim _ _
  · exact Exec.frames_throw _

end Tables

section Frames

variable {ω : Type} {f : World → ω} (htick : ∀ w n, f { w with tick := n } = f w)
variable (hdb : ∀ w d, f { w with db := d } = f w)
include htick hdb

theorem frames_insertExecution (env : Env) (row : ActionExecution) :
    Exec.Frames f (insertExecution env row) :=
  frames_insertExecution_of_table htick (fun w _ ↦ hdb w _) env row

theorem frames_claimActionExecution (env : Env) (incidentId proposalId : Nat)
    (runbookId : String) (target : Parameters) (attempt : Nat) :
    Exec.Frames f
      (claimActionExecution env incidentId proposalId runbookId target attempt) :=
  frames_claimActionExecution_of_tables htick (fun w _ ↦ hdb w _) (fun w _ ↦ hdb w _)
    (fun w _ _ ↦ hdb w _) env incidentId proposalId runbookId target attempt

theorem frames_finishActionExecution (env : Env) (executionId : Nat) (succeeded : Bool)
    (errorCode : Option String) (result : Parameters) :
    Exec.Frames f (finishActionExecution env executionId succeeded errorCode result) :=
  frames_finishActionExecution_of_table htick (fun w _ ↦ hdb w _) env executionId succeeded
    errorCode result

end Frames

/-! ### The actions of the rows -/

/-- The actions of all executions and of all proposals. -/
def actsOf (db : Database) : List ActionType × List ActionType :=
  (db.executions.map (·.actionType), db.proposals.map (·.actionType))

/-- The actions of the session's rows. -/
def acts (w : World) : List ActionType × List ActionType := actsOf w.db

/-- What a run may add to: its trace and the actions of its rows. -/
def seen (w : World) : List Event × List ActionType × List ActionType := (w.trace, acts w)

/-- A proposal keeps its action. -/
theorem frames_seen_updateProposal {f : ActionProposal → ActionProposal}
    (hf : ∀ q, (f q).actionType = q.actionType) (id : Nat) :
    Exec.Frames seen (updateProposal id f) := by
  apply Exec.frames_update
  intro w
  simp only [seen, acts, actsOf, Table.map_update _ _ hf]

/-- An execution keeps its action. -/
theorem frames_seen_updateExecution {f : ActionExecution → ActionExecution}
    (hf : ∀ e, (f e).actionType = e.actionType) (id : Nat) :
    Exec.Frames seen (updateExecution id f) := by
  apply Exec.frames_update
  intro w
  simp only [seen, acts, actsOf, Table.map_update _ _ hf]

theorem frames_seen_finishActionExecution (env : Env) (executionId : Nat) (succeeded : Bool)
    (code : Option String) (result : Parameters) :
    Exec.Frames seen (finishActionExecution env executionId succeeded code result) := by
  have hflush : Exec.Frames seen (flush env) := frames_flush env fun _ _ ↦ rfl
  apply Exec.frames_bind
  · apply frames_seen_updateExecution
    exact fun _ ↦ rfl
  intro _
  exact Exec.frames_bind hflush fun _ ↦ Exec.frames_bind hflush fun _ ↦ hflush

/-- What a program sees unchanged includes the actions. -/
theorem frames_acts {α : Type} {x : Service α} (h : Exec.Frames seen x) :
    Exec.Frames acts x := fun w ↦ congrArg Prod.snd (h w)

private theorem acts_insertClaim (env : Env) (incidentId : Nat) (row : ActionExecution)
    (approval : Option Nat) {E P : List ActionType} :
    Exec.Triple (fun w ↦ acts w = (E, P)) (insertClaim env incidentId row approval)
      (fun _ w ↦ acts w = (E, P) ∨ acts w = (E ++ [row.actionType], P))
      (fun _ w ↦ acts w = (E, P) ∨ acts w = (E ++ [row.actionType], P)) := by
  have hflush : Exec.Frames acts (flush env) := frames_flush env fun _ _ ↦ rfl
  have hrest (executionId : Nat) : Exec.Frames acts (do
      updateIncident incidentId fun incident ↦ { incident with retryCount := row.attempt }
      let now ← ask env.now
      markClaimed now executionId approval
      flush env
      flush env
      return ({ execution := executionId, claimed := true } : ExecutionClaim)) := by
    apply Exec.frames_bind
    · exact fun _ ↦ rfl
    intro _
    apply Exec.frames_bind (frames_ask _ fun _ _ ↦ rfl)
    intro now
    apply Exec.frames_bind
    · cases approval with
      | none => exact Exec.frames_pure _
      | some approvalId => exact Exec.frames_update fun _ ↦ rfl
    intro _
    exact Exec.frames_bind hflush fun _ ↦ Exec.frames_bind hflush fun _ ↦ Exec.frames_pure _
  apply Exec.Triple.bind (Q := fun _ w ↦ acts w = (E ++ [row.actionType], P))
  · apply Exec.Triple.bind (Q := fun _ w ↦ acts w = (E, P)) (Exec.Triple.read fun _ h ↦ h)
    intro executions
    apply Exec.Triple.bind (Q := fun _ w ↦ acts w = (E, P))
    · exact Exec.Triple.require (fun _ _ h ↦ h) fun _ _ h ↦ .inl h
    intro _
    apply Exec.Triple.bind (Q := fun _ w ↦ acts w = (E ++ [row.actionType], P))
    · apply triple_write
      intro w hw
      obtain ⟨rfl, rfl⟩ := Prod.mk.inj hw
      simp [acts, actsOf, Table.insert]
    intro _
    apply Exec.Triple.bind
    · apply (hflush.keeps (· = (E ++ [row.actionType], P))).mono
      · exact fun _ h ↦ h
      · exact fun _ _ h ↦ h
      · exact fun _ _ h ↦ .inr h
    intro _
    exact Exec.Triple.pure fun _ h ↦ h
  intro executionId
  apply ((hrest executionId).keeps (· = (E ++ [row.actionType], P))).mono
  · exact fun _ h ↦ h
  · exact fun _ _ h ↦ .inr h
  · exact fun _ _ h ↦ .inr h

/-- A claim inserts at most one execution, with the action of the proposal's row. -/
theorem acts_claimActionExecution (env : Env) (incidentId proposalId : Nat) (runbookId : String)
    (target : Parameters) (attempt : Nat) {a : ActionType} {E P : List ActionType}
    (ha : P[proposalId]? = some a) :
    Exec.Triple (fun w ↦ acts w = (E, P))
      (claimActionExecution env incidentId proposalId runbookId target attempt)
      (fun _ w ↦ acts w = (E, P) ∨ acts w = (E ++ [a], P))
      (fun _ w ↦ acts w = (E, P) ∨ acts w = (E ++ [a], P)) := by
  have keep {α : Type} {x : Service α} (hx : Exec.Frames acts x) :
      Exec.Triple (fun w ↦ acts w = (E, P)) x (fun _ w ↦ acts w = (E, P))
        (fun _ w ↦ acts w = (E, P) ∨ acts w = (E ++ [a], P)) := by
    apply (hx.keeps (· = (E, P))).mono
    · exact fun _ h ↦ h
    · exact fun _ _ h ↦ h
    · exact fun _ _ h ↦ .inl h
  unfold claimActionExecution
  split
  · apply Exec.Triple.bind (Q := fun proposal w ↦ acts w = (E, P) ∧ proposal.actionType = a)
    · apply Exec.Triple.bind
        (Q := fun row w ↦ acts w = (E, P) ∧ ∀ r, row = some r → r.actionType = a)
      · apply Exec.Triple.read
        intro w hw
        constructor
        · exact hw
        · intro r hr
          obtain ⟨-, rfl⟩ := Prod.mk.inj hw
          rw [List.getElem?_map, hr] at ha
          exact Option.some.inj ha
      intro row
      cases row with
      | none => exact Exec.Triple.throw fun _ h ↦ .inl h.1
      | some row => exact Exec.Triple.pure fun _ h ↦ ⟨h.1, h.2 row rfl⟩
    intro proposal
    apply Exec.Triple.assume
    rintro rfl
    apply Exec.Triple.bind (keep (frames_query env _ fun _ _ ↦ rfl))
    intro existing
    cases existing with
    | some entry => exact Exec.Triple.pure fun _ h ↦ .inl h
    | none =>
      apply Exec.Triple.bind (keep (frames_query env _ fun _ _ ↦ rfl))
      intro approval
      cases approval with
      | none => exact acts_insertClaim env incidentId _ none
      | some entry =>
        apply Exec.Triple.bind
        · exact keep (Exec.frames_bind (Exec.frames_require _ _) fun _ ↦
            Exec.frames_require _ _)
        intro _
        exact acts_insertClaim env incidentId _ _
  · exact Exec.Triple.throw fun _ h ↦ .inl h

/-! ### Claims that succeed -/

section Progress

variable {w : World} {env : Env}

theorem reaches_insertExecution (hq : Quiet env) {row : ActionExecution}
    (h : executionIsUnique w.db.executions row) :
    Reaches (insertExecution env row) w w.db.executions.fresh
      { w with db := { w.db with executions := w.db.executions.insert row } } := by
  apply reaches_bind (reaches_read _ w)
  intro _
  apply reaches_bind (reaches_exec_require h)
  intro _
  apply reaches_bind (reaches_write _ _)
  intro _
  apply reaches_bind (reaches_flush hq _)
  intro _
  exact reaches_pure _ _

/-- A first claim without an approval inserts its execution. -/
theorem reaches_claimActionExecution (hq : Quiet env) {incidentId proposalId attempt : Nat}
    (runbookId : String) (target : Parameters) {proposal : ActionProposal}
    (hattempt : 1 ≤ attempt ∧ attempt ≤ 3)
    (hproposal : w.db.proposals[proposalId]? = some proposal)
    (hexecutions : w.db.executions = [])
    (happrovals : w.db.approvals.latest (·.proposalId = proposalId) = none) :
    Reaches (claimActionExecution env incidentId proposalId runbookId target attempt) w
      { execution := 0, claimed := true }
      { w with db := { w.db with
        incidents := w.db.incidents.update incidentId fun incident ↦
          { incident with retryCount := attempt }
        executions := [claimedRow incidentId proposalId proposal
          (.action incidentId runbookId proposal.actionType target attempt) attempt
          hattempt] } } := by
  unfold claimActionExecution
  rw [dif_pos hattempt]
  apply reaches_bind (reaches_loadProposal hproposal)
  intro _
  apply reaches_bind (reaches_query hq _ _)
  intro _
  simp only [hexecutions]
  apply reaches_bind (reaches_query hq _ _)
  intro _
  simp only [happrovals]
  apply reaches_bind
  · apply reaches_insertExecution hq
    simp [executionIsUnique, hexecutions]
  intro _
  apply reaches_bind (reaches_write _ _)
  intro _
  apply reaches_bind (reaches_ask _ _)
  intro _
  apply reaches_bind (reaches_pure _ _)
  intro _
  apply reaches_bind (reaches_flush hq _)
  intro _
  apply reaches_bind (reaches_flush hq _)
  intro n
  simp only [hexecutions]
  exact reaches_pure _ _

/-- Finishing an execution sets its status, its error and its result. -/
theorem reaches_finishActionExecution (hq : Quiet env) (executionId : Nat) (succeeded : Bool)
    (errorCode : Option String) (result : Parameters) :
    Reaches (finishActionExecution env executionId succeeded errorCode result) w ()
      { w with db := { w.db with
        executions := w.db.executions.update executionId fun execution ↦
          { execution with
            status := if succeeded then .succeeded else .failed
            errorCode := errorCode
            result := result } } } := by
  apply reaches_bind (reaches_write _ _)
  intro _
  apply reaches_bind (reaches_flush hq _)
  intro _
  apply reaches_bind (reaches_flush hq _)
  intro _
  exact reaches_flush hq _

end Progress

end CloudWard.Remediation
