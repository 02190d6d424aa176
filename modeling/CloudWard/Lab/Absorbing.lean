import CloudWard.Lab.Exclusive

/-!
# Executions that are over

Every request that ends an execution checks under the row lock that it is active. A start
records its task id (`api/incident_lab.py:282`) from the details it committed before, and a pass
or a stop goes on after the first commit of `apply_quarantine` or `remove_quarantine`: these
write without the lock, and what they write over an execution that is over is lost.
-/

namespace CloudWard.Lab

open CloudWard.Db CloudWard.Logic CloudWard.Security

/-- A pass that comes to this writes the row. -/
def Outcome.writes : Outcome → Prop
  | raised _ => False
  | waiting => False
  | noted _ => True
  | ended _ => True
  | released _ => True

/-- An execution of the state is over. -/
def IsOver (s : State) (id : Nat) : Prop :=
  ∃ x, s.executions[id]? = some x ∧ x.active = false

/-- The move writes an execution that is over, for a request that has given its lock up. -/
def WritesLate (s : State) : Move → Prop
  | .record i _ => ∃ id loaded, s.sessions[i]? = some (.recording id loaded) ∧ IsOver s id
  | .resume i outcome _ => outcome.writes ∧
    ∃ id loaded, s.sessions[i]? = some (.reconciling id loaded) ∧ IsOver s id
  | .cancel i _ _ =>
    ∃ id loaded principal, s.sessions[i]? = some (.stopping id loaded principal) ∧ IsOver s id
  | _ => False

section Steps

variable {s : State} {id : Nat} {x : ChaosExecution}

/-- A pass over another execution. -/
private theorem pass_of_ne {id' : Nat} (hne : id' ≠ id) (hrow : s.executions[id]? = some x)
    (loaded : ChaosExecution) (received : Bool) (outcome : Outcome) :
    (s.pass id' loaded received outcome).executions[id]? = some x := by
  cases outcome with
  | raised statusCode => rwa [State.pass, executions_answered]
  | waiting => rwa [State.pass, executions_answered]
  | noted entries =>
    rwa [State.pass, executions_answered, executions_update, Table.getElem?_update_of_ne _ _ hne]
  | ended e =>
    rwa [State.pass, executions_answered, executions_update, Table.getElem?_update_of_ne _ _ hne]
  | released entries =>
    rwa [State.pass, executions_open, executions_update, Table.getElem?_update_of_ne _ _ hne]

/-- A pass that does not write. -/
private theorem pass_of_not_writes {id' : Nat} (hrow : s.executions[id]? = some x)
    (loaded : ChaosExecution) (received : Bool) {outcome : Outcome} (h : ¬ outcome.writes) :
    (s.pass id' loaded received outcome).executions[id]? = some x := by
  cases outcome with
  | raised statusCode => rwa [State.pass, executions_answered]
  | waiting => rwa [State.pass, executions_answered]
  | noted entries => exact absurd trivial h
  | ended e => exact absurd trivial h
  | released entries => exact absurd trivial h

private theorem ne_of_active {id' : Nat} {row : ChaosExecution}
    (hrow : s.executions[id]? = some x) (hover : x.active = false)
    (hrow' : s.executions[id']? = some row) (hactive : row.active) : id' ≠ id := by
  rintro rfl
  rw [hrow] at hrow'
  cases hrow'
  rw [hover] at hactive
  cases hactive

/-- An analysis of an execution that is over, or of another one. -/
private theorem analyse_of_over (hrow : s.executions[id]? = some x) (hover : x.active = false)
    (id' : Nat) (e : Ending) : (s.analyse id' e).executions[id]? = some x := by
  unfold State.analyse
  split
  · exact hrow
  · next row hrow' =>
    split
    · next h =>
      have hactive : row.active := by
        rcases List.mem_cons.mp h.2 with hstatus | hstatus
        · rw [ChaosExecution.active, hstatus]
          rfl
        · rw [ChaosExecution.active, List.mem_singleton.mp hstatus]
          rfl
      rw [executions_update, Table.getElem?_update_of_ne _ _
        (ne_of_active hrow hover hrow' hactive)]
      exact hrow
    · exact hrow

/-- **An execution that is over stays as it is**, unless a late request writes it. -/
theorem over_step {m : Move} (hnot : ¬ WritesLate s m) (hrow : s.executions[id]? = some x)
    (hover : x.active = false) : (step s m).executions[id]? = some x := by
  have hother {id' : Nat} {f : ChaosExecution → ChaosExecution} (hne : id' ≠ id) :
      (s.executions.update id' f)[id]? = some x := by
    rwa [Table.getElem?_update_of_ne _ _ hne]
  cases m with
  | check settings policy scenarioId principal =>
    simp only [step]
    split <;> exact hrow
  | launch i now resource sent =>
    by_cases hlaunch : Launches s (.launch i now resource sent)
    · obtain ⟨_, _, _, _, settings, scenario, principal, since, heq, hsession⟩ := hlaunch
      cases heq
      rw [step, executions_launch s hsession]
      exact Table.getElem?_insert_of_some hrow
    · change (s.launch i now resource sent).executions[id]? = some x
      unfold State.launch
      split
      · next settings scenario principal since hsession =>
        exact absurd ⟨_, _, _, _, _, _, _, _, rfl, hsession⟩ hlaunch
      · exact hrow
  | abandon i => exact hrow
  | record i taskId =>
    simp only [step]
    split
    · next id' loaded hsession =>
      apply hother
      rintro rfl
      exact hnot ⟨id', loaded, hsession, x, hrow, hover⟩
    · exact hrow
  | reconcile id' outcome received =>
    simp only [step, State.reconcile]
    split
    · rwa [executions_answered]
    · next row hrow' =>
      split
      · next hactive => exact pass_of_ne (ne_of_active hrow hover hrow' hactive) hrow _ _ _
      · rwa [executions_answered]
  | resume i outcome received =>
    simp only [step]
    split
    · next id' loaded hsession =>
      have hclosed : (s.close i).executions[id]? = some x := hrow
      by_cases hwrites : outcome.writes
      · apply pass_of_ne _ hclosed
        rintro rfl
        exact hnot ⟨hwrites, id', loaded, hsession, x, hrow, hover⟩
      · exact pass_of_not_writes hclosed loaded received hwrites
    · exact hrow
  | stop id' principal outcome =>
    simp only [step, State.stop]
    split
    · exact hrow
    · next row hrow' =>
      split
      · next hactive =>
        have hne := ne_of_active hrow hover hrow' hactive
        cases outcome with
        | raised => exact hrow
        | done now entries => exact hother hne
        | released entries => exact hother hne
      · exact hrow
  | cancel i now entries =>
    simp only [step]
    split
    · next id' loaded principal hsession =>
      apply hother
      rintro rfl
      exact hnot ⟨id', loaded, principal, hsession, x, hrow, hover⟩
    · exact hrow
  | runFinops id' now outcome reason recommendation =>
    exact analyse_of_over hrow hover id' _
  | failFinops id' now errorCode => exact analyse_of_over hrow hover id' _

end Steps

/-! ### The claim -/

/-- What a later state keeps of an execution that a step ended: its status, its completion time
and the details that the step recorded. -/
structure Absorbed (before ended later : ChaosExecution) : Prop where
  status : later.status = ended.status
  completedAt : later.completedAt = ended.completedAt
  recorded : ∀ key, ended.details.lookup key ≠ before.details.lookup key →
    later.details.lookup key = ended.details.lookup key

/-- Whatever a step of the run ends stays as that step left it. -/
def Absorbs (moves : List Move) : Prop :=
  ∀ (first : List Move) (m : Move) (rest : List Move), moves = first ++ m :: rest →
    ∀ {id : Nat} {before ended : ChaosExecution},
      (Runs.run step {} first).executions[id]? = some before → before.active →
      (Runs.run step {} (first ++ [m])).executions[id]? = some ended → ended.active = false →
      ∃ later, (Runs.run step {} moves).executions[id]? = some later ∧
        Absorbed before ended later

/-- **When executions that are over stay so.** In a run in which no request that has given up the
row lock writes an execution that is over, what ends an execution is never changed. -/
theorem absorbs_of_not_late (moves : List Move)
    (h : Runs.Along step (fun s m ↦ ¬ WritesLate s m) {} moves) : Absorbs moves := by
  rintro first m rest rfl id before ended - - hended hover
  have hrest : Runs.Along step (fun s m ↦ ¬ WritesLate s m)
      (Runs.run step {} (first ++ [m])) rest := by
    apply Runs.Along.right
    rwa [List.append_assoc, List.singleton_append]
  have hkept : (Runs.run step (Runs.run step {} (first ++ [m])) rest).executions[id]? =
      some ended :=
    Runs.invariant_along (I := fun s : State ↦ s.executions[id]? = some ended)
      (fun _ _ hrow hnot ↦ over_step hnot hrow hover) hended hrest
  refine ⟨ended, ?_, rfl, rfl, fun _ _ ↦ rfl⟩
  rwa [← Runs.run_append, List.append_assoc, List.singleton_append] at hkept

/-- The run has an execution with this status of activity and of its clean-up entry. -/
private theorem exists_execution (moves : List Move) (active verified : Bool)
    (h : ((Runs.run step {} moves).executions[0]?.map fun x ↦
      (x.active, (x.details.lookup "cleanup_verified").isSome)) = some (active, verified)) :
    ∃ x, (Runs.run step {} moves).executions[0]? = some x ∧ x.active = active ∧
      (x.details.lookup "cleanup_verified").isSome = verified := by
  obtain ⟨x, hx, heq⟩ := Option.map_eq_some_iff.mp h
  exact ⟨x, hx, congrArg Prod.fst heq, congrArg Prod.snd heq⟩

/-- A start of an analysis. -/
def analysisStarted : List Move :=
  [.check .standard ⟨true, "allowed"⟩ "finops.wasted-node-capacity" "operator",
    .launch 0 0 "finops.wasted-node-capacity" true]

/-- The analysis is done. -/
def analysisDone : Move := .runFinops 0 1 "RECOMMENDED" "capacity is unused" .null

/-- The execution whose task a request has to record. -/
private def recorded : Session → Option Nat
  | .recording id _ => some id
  | _ => none

private theorem exists_started : ∃ x,
    (Runs.run step {} analysisStarted).executions[0]? = some x ∧ x.active = true ∧
      (x.details.lookup "cleanup_verified").isSome = false :=
  exists_execution _ _ _ (by decide +kernel)

/-- An analysis that is done after its start has recorded the task, and stopped too late. -/
theorem absorbs_of_not_late_stopped : Absorbs
    (analysisStarted ++ [.record 1 "task", analysisDone, .stop 0 "operator" (.done 2 [])]) := by
  apply absorbs_of_not_late
  refine ⟨not_false, not_false, ?_, not_false, not_false, trivial⟩
  rintro ⟨id, loaded, hsession, x, hrow, hover⟩
  obtain ⟨row, hstarted, hactive, -⟩ := exists_started
  -- the start records the task of the execution it has just committed
  have hid : id = 0 := by
    have hrecords : ((Runs.run step {} analysisStarted).sessions[1]?.bind recorded) = some 0 := by
      decide +kernel
    have hsession' : (Runs.run step {} analysisStarted).sessions[1]? =
        some (.recording id loaded) := hsession
    rw [hsession'] at hrecords
    exact Option.some.inj hrecords
  subst hid
  have hsame : row = x := Option.some.inj (hstarted.symm.trans hrow)
  rw [hsame, hover] at hactive
  cases hactive

/-- The second commit of the start takes the details of a quick analysis back. -/
theorem quickAnalysis_not_absorbed : ¬ ∀ moves : List Move, Absorbs moves := by
  intro h
  obtain ⟨before, hbefore, hactive, hnone⟩ := exists_started
  obtain ⟨ended, hended, hover, hverified⟩ :=
    exists_execution (analysisStarted ++ [analysisDone]) false true (by decide +kernel)
  obtain ⟨later, hlater, -, hlost⟩ :=
    exists_execution (analysisStarted ++ analysisDone :: [.record 1 "task"]) false false
      (by decide +kernel)
  obtain ⟨kept, hkept, habsorbed⟩ := h _ analysisStarted analysisDone [.record 1 "task"] rfl
    hbefore hactive hended hover
  rw [hkept] at hlater
  cases hlater
  have hrecorded := habsorbed.recorded "cleanup_verified" (by
    intro heq
    rw [heq, hnone] at hverified
    cases hverified)
  rw [hrecorded, hverified] at hlost
  cases hlost

end CloudWard.Lab
