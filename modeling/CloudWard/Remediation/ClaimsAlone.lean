import CloudWard.Remediation.Claims

/-!
# A claim alone

The machine of `Remediation/Claims.lean` refines `claimActionExecution`: every run of the
service, whatever the database does to it, is a run of the machine with that one call, which
ends with the same rows and raises when the service raises.
-/

namespace CloudWard.Remediation.Claims

open CloudWard.Db CloudWard.Incidents CloudWard.Logic Service

/-- The machine with one transaction and nothing committed. -/
def alone (db : Database) (phase : Phase) (raised : Bool := false) : State where
  rows := db
  transactions := [⟨phase, raised⟩]

/-- The machine is where a run of the call ends: a call that raised is raised, one that
returned is committed with the rows the run left. -/
inductive Ends (db : Database) : State → Except Exc ExecutionClaim × World → Prop
  | raised (phase : Phase) (e : Exc) (w : World) : Ends db (alone db phase true) (.error e, w)
  | committed (history : List Change) (claim : ExecutionClaim) (w : World) :
    Ends db ⟨w.db, [⟨.committed, false⟩], history⟩ (.ok claim, w)

/-- Some schedule takes the machine to where the program ends. -/
def Simulated (db : Database) (phase : Phase) (x : Service ExecutionClaim) : Prop :=
  ∀ w, w.db = db → ∃ inputs, Ends db (Runs.run step (alone db phase) inputs) (x.run w)

section Simulation

variable {db : Database} {phase phase' : Phase} {x : Service ExecutionClaim} {env : Env}

/-- One statement of the only transaction. -/
theorem step_alone (hrunning : phase.running) {now : Nat}
    (h : (alone db phase).advance now phase = some phase') :
    step (alone db phase) (.advance 0 false now) = alone db phase' := by
  simp [step, alone, State.proceed, State.set, hrunning] at h ⊢
  simp [h]

/-- A statement of the only transaction that raises. -/
theorem step_alone_raised (hrunning : phase.running) (fault : Bool) (now : Nat)
    (h : fault ∨ (alone db phase).advance now phase = none) :
    step (alone db phase) (.advance 0 fault now) = alone db phase true := by
  simp only [step, alone, List.getElem?_cons_zero, Option.elim_some, State.proceed, State.set,
    hrunning] at h ⊢
  split
  · split
    · rcases h with rfl | h
      · simp
      · simp_all
    · simp
  · simp_all

/-- The commit of the only claim. -/
theorem step_commit_alone (claim : Claim) :
    step (alone db (.claimed claim)) (.commit 0) =
      ⟨claim.apply db, [⟨.committed, false⟩], [.claimed 0 claim]⟩ := rfl

theorem Simulated.of_run {y : Service ExecutionClaim} (hy : Simulated db phase y)
    (h : ∀ w, w.db = db → x.run w = y.run w) : Simulated db phase x := by
  intro w hw
  rw [h w hw]
  exact hy w hw

/-- A program that raises where the call raises. -/
theorem simulated_raising (hrunning : phase.running)
    (h : (alone db phase).advance 0 phase = none)
    (hx : ∀ w, w.db = db → ∃ e, x.run w = (.error e, w)) : Simulated db phase x := by
  intro w hw
  obtain ⟨e, hraises⟩ := hx w hw
  use [.advance 0 false 0]
  rw [Runs.run_cons, step_alone_raised hrunning false 0 (.inr h), hraises]
  exact .raised phase e w

theorem simulated_query {α : Type} {f : Database → α} {k : α → Service ExecutionClaim}
    (hrunning : phase.running)
    (h : (alone db phase).advance 0 phase = some phase') (hx : Simulated db phase' (k (f db))) :
    Simulated db phase (query env f >>= k) := by
  intro w hw
  cases hfault : env.database w with
  | some e =>
    use [.advance 0 true 0]
    have hraises : (query env f).run w = (.error e, { w with tick := w.tick + 1 }) := by
      rw [query, Exec.run_bind, run_flush, hfault]
    rw [Runs.run_cons, step_alone_raised hrunning true 0 (.inl rfl),
      Exec.run_bind_of_error hraises]
    exact .raised phase e _
  | none =>
    obtain ⟨inputs, hends⟩ := hx { w with tick := w.tick + 1 } hw
    use .advance 0 false 0 :: inputs
    have hreturns : (query env f).run w = (.ok (f db), { w with tick := w.tick + 1 }) := by
      rw [query, Exec.run_bind, run_flush, hfault, ← hw]
      rfl
    rw [Runs.run_cons, step_alone hrunning h, Exec.run_bind_of_ok hreturns]
    exact hends

private theorem run_flush_none {w : World} (h : env.database w = none) :
    (flush env).run w = (.ok (), { w with tick := w.tick + 1 }) := by
  rw [run_flush, h]

private theorem run_flush_some {w : World} {e : Exc} (h : env.database w = some e) :
    (flush env).run w = (.error e, { w with tick := w.tick + 1 }) := by
  rw [run_flush, h]

section Insertion

variable {w : World} {row : ActionExecution}

private theorem run_insertExecution_error (hw : w.db = db)
    (hunique : executionIsUnique db.executions row) {e : Exc}
    (h : env.database { w with db := { w.db with
      executions := w.db.executions.insert row } } = some e) :
    (insertExecution env row).run w = (.error e, { w with
      db := { w.db with executions := w.db.executions.insert row }, tick := w.tick + 1 }) := by
  subst hw
  unfold insertExecution
  rw [Exec.run_bind_of_ok (Exec.run_read _ w), Exec.run_bind_require hunique,
    Exec.run_bind_of_ok (run_write _ w)]
  exact Exec.run_bind_of_error (run_flush_some h)

private theorem run_insertExecution_ok (hw : w.db = db)
    (hunique : executionIsUnique db.executions row)
    (h : env.database { w with db := { w.db with
      executions := w.db.executions.insert row } } = none) :
    (insertExecution env row).run w = (.ok db.executions.fresh, { w with
      db := { db with executions := db.executions.insert row }, tick := w.tick + 1 }) := by
  subst hw
  unfold insertExecution
  rw [Exec.run_bind_of_ok (Exec.run_read _ w), Exec.run_bind_require hunique,
    Exec.run_bind_of_ok (run_write _ w)]
  exact Exec.run_bind_of_ok (run_flush_none h)

private theorem run_updateIncident (id : Nat) (f : Incident → Incident) (w : World) :
    (updateIncident id f).run w = (.ok (), { w with
      db := { w.db with incidents := w.db.incidents.update id f } }) := rfl

/-- The marks of a claim are its writes. -/
private theorem run_markClaimed (claim : Claim) (hw : w.db = { db with
      executions := db.executions.insert claim.row
      incidents := db.incidents.update claim.row.incidentId fun incident ↦
        { incident with retryCount := claim.row.attempt } }) :
    (markClaimed claim.now db.executions.fresh (claim.approval.map Prod.fst)).run w =
      (.ok (), { w with db := claim.apply db }) := by
  obtain ⟨row, approval, now⟩ := claim
  cases approval with
  | none => simp [markClaimed, Claim.apply, ← hw]
  | some entry =>
    have hwrite := run_write (fun d ↦ { d with
      approvals := d.approvals.update entry.1 (marked now db.executions.fresh) }) w
    rw [hw] at hwrite
    exact hwrite

end Insertion

/-- The last part of a claim, from the approval checks on. -/
theorem simulated_insertClaim {row : ActionExecution} (approval : Option (Nat × Approval))
    (h : approval.all fun entry ↦ claimable entry.2) :
    Simulated db (.locked row approval)
      (insertClaim env row.incidentId row (approval.map Prod.fst)) := by
  intro w hw
  by_cases hunique : executionIsUnique db.executions row
  · have hadvance : (alone db (.locked row approval)).advance 0 (.locked row approval) =
        some (.inserted row approval) := by
      have hpending : executionIsUnique (pendingRows (alone db (.locked row approval)).transactions)
          row := by
        simp [alone, pendingRows, Phase.pending, executionIsUnique]
      simp only [State.advance, h, hpending, if_true]
      exact if_pos hunique
    cases hinsert : env.database { w with db := { w.db with
        executions := w.db.executions.insert row } } with
    | some e =>
      use [.advance 0 true 0]
      rw [Runs.run_cons, step_alone_raised rfl true 0 (.inl rfl), insertClaim,
        Exec.run_bind_of_error (run_insertExecution_error hw hunique hinsert)]
      exact .raised _ e _
    | none =>
      rw [insertClaim, Exec.run_bind_of_ok (run_insertExecution_ok hw hunique hinsert),
        Exec.run_bind_of_ok (run_updateIncident _ _ _), Exec.run_bind_of_ok (run_ask _ _)]
      generalize env.now _ = now
      rw [Exec.run_bind_of_ok (run_markClaimed ⟨row, approval, now⟩ rfl)]
      have hinserted : step (alone db (.locked row approval)) (.advance 0 false 0) =
          alone db (.inserted row approval) := step_alone rfl hadvance
      cases haudit : env.database { w with
          db := Claim.apply ⟨row, approval, now⟩ db, tick := w.tick + 1 + 1 } with
      | some e =>
        use [.advance 0 false 0, .advance 0 true now]
        rw [Runs.run_cons, hinserted, Runs.run_cons,
          step_alone_raised rfl true now (.inl rfl), Exec.run_bind_of_error (run_flush_some haudit)]
        exact .raised _ e _
      | none =>
        rw [Exec.run_bind_of_ok (run_flush_none haudit)]
        cases hstream : env.database { w with
            db := Claim.apply ⟨row, approval, now⟩ db, tick := w.tick + 1 + 1 + 1 } with
        | some e =>
          use [.advance 0 false 0, .advance 0 true now]
          rw [Runs.run_cons, hinserted, Runs.run_cons,
            step_alone_raised rfl true now (.inl rfl),
            Exec.run_bind_of_error (run_flush_some hstream)]
          exact .raised _ e _
        | none =>
          use [.advance 0 false 0, .advance 0 false now, .commit 0]
          have hclaimed : step (alone db (.inserted row approval)) (.advance 0 false now) =
              alone db (.claimed ⟨row, approval, now⟩) := step_alone rfl rfl
          rw [Runs.run_cons, hinserted, Runs.run_cons, hclaimed,
            Exec.run_bind_of_ok (run_flush_none hstream), Runs.run_cons, step_commit_alone,
            Exec.run_pure]
          exact .committed _ _ { w with
            db := Claim.apply ⟨row, approval, now⟩ db, tick := w.tick + 1 + 1 + 1 + 1 }
  · use [.advance 0 false 0]
    have hraises : ((insertClaim env row.incidentId row (approval.map Prod.fst)).run w) =
        (.error .database, w) := by
      apply Exec.run_bind_of_error
      unfold insertExecution
      rw [Exec.run_bind_of_ok (Exec.run_read _ w)]
      apply Exec.run_bind_of_error
      rw [Exec.run_require, hw, if_neg hunique]
    have hadvance : (alone db (.locked row approval)).advance 0 (.locked row approval) = none := by
      simp only [State.advance, h, if_true]
      exact if_neg hunique
    rw [Runs.run_cons, step_alone_raised rfl false 0 (.inr hadvance), hraises]
    exact .raised _ _ _

/-- A claim under an idempotency key that is taken returns the execution there is. -/
theorem simulated_found (executionId : Nat) :
    Simulated db (.found executionId)
      (pure { execution := executionId, claimed := false }) := by
  intro w hw
  subst hw
  use [.commit 0]
  exact .committed [] _ w

private theorem requireUnclaimed_returns {approval : Approval} (h : claimable approval)
    (w : World) : (requireUnclaimed approval).run w = (.ok (), w) := by
  simp only [claimable, decide_eq_true_eq] at h
  unfold requireUnclaimed
  rw [Service.require, Exec.run_bind_require h.1, Service.require, Exec.run_require, if_pos h.2]

private theorem requireUnclaimed_raises {approval : Approval} (h : ¬ claimable approval)
    (w : World) : ∃ e, (requireUnclaimed approval).run w = (.error e, w) := by
  unfold requireUnclaimed Service.require
  by_cases happroved : approval.decision = .approved
  · have hfree : ¬ approval.executionClaimedAt = none := by
      intro hnone
      simp [claimable, happroved, hnone] at h
    exact ⟨_, by rw [Exec.run_bind_require happroved, Exec.run_require, if_neg hfree]⟩
  · exact ⟨_, Exec.run_bind_of_error (by rw [Exec.run_require, if_neg happroved])⟩

/-- A claim from the look-up of the approval on. -/
private theorem simulated_lookup (row : ActionExecution) :
    Simulated db (.keyFree row)
      (do
        let approval ← query env fun db ↦ db.approvals.latest (·.proposalId = row.proposalId)
        match approval with
        | none => insertClaim env row.incidentId row none
        | some (approvalId, approval) => do
          requireUnclaimed approval
          insertClaim env row.incidentId row (some approvalId)) := by
  have hadvance : (alone db (.keyFree row)).advance 0 (.keyFree row) =
      some (.locked row (approvalOf db row.proposalId)) := by
    have hfree : locks (alone db (.keyFree row)).transactions = [] := rfl
    simp [State.advance, hfree]
    rfl
  apply simulated_query rfl hadvance
  unfold approvalOf
  cases db.approvals.latest (·.proposalId = row.proposalId) with
  | none => exact simulated_insertClaim none rfl
  | some entry =>
    by_cases hclaimable : claimable entry.2
    · apply (simulated_insertClaim (some entry) hclaimable).of_run
      intro w _
      exact Exec.run_bind_of_ok (requireUnclaimed_returns hclaimable w)
    · have hstop : (alone db (.locked row (some entry))).advance 0 (.locked row (some entry)) =
          none := by
        simp [State.advance, hclaimable]
      apply simulated_raising rfl hstop
      intro w _
      obtain ⟨e, hraises⟩ := requireUnclaimed_raises hclaimable w
      exact ⟨e, Exec.run_bind_of_error hraises⟩

end Simulation

/-- Every run of `claimActionExecution` is a run of the machine with that one call. -/
theorem simulated_claimActionExecution (env : Env) (db : Database) (call : ClaimCall) :
    Simulated db (.called call)
      (claimActionExecution env call.incidentId call.proposalId call.runbookId call.target
        call.attempt) := by
  unfold claimActionExecution
  split
  · next hattempt =>
    cases hproposal : db.proposals[call.proposalId]? with
    | none =>
      apply simulated_raising rfl
      · simp [State.advance, hattempt, alone, hproposal]
      intro w hw
      refine ⟨.database, Exec.run_bind_of_error ?_⟩
      unfold loadProposal
      rw [Exec.run_bind_of_ok (Exec.run_read _ w), hw, hproposal]
      rfl
    | some proposal =>
      let key := IdempotencyKey.action call.incidentId call.runbookId proposal.actionType
        call.target call.attempt
      let row := claimedRow call.incidentId call.proposalId proposal key call.attempt hattempt
      have hkey : (alone db (.called call)).advance 0 (.called call) =
          some (lookUpKey db key row) := by
        simp [State.advance, hattempt, alone, hproposal, key, row]
      have hload (w : World) (hw : w.db = db) :
          (loadProposal call.proposalId).run w = (.ok proposal, w) := by
        unfold loadProposal
        rw [Exec.run_bind_of_ok (Exec.run_read _ w), hw, hproposal]
        rfl
      apply Simulated.of_run _ fun w hw ↦ Exec.run_bind_of_ok (hload w hw)
      apply simulated_query rfl hkey
      unfold lookUpKey
      cases db.executions.latest (·.idempotencyKey = some key) with
      | some entry => exact simulated_found entry.1
      | none => exact simulated_lookup row
  · next hattempt =>
    apply simulated_raising rfl
    · simp [State.advance, hattempt]
    · exact fun w _ ↦ ⟨_, rfl⟩

end CloudWard.Remediation.Claims
