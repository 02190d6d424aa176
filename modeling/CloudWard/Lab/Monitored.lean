import CloudWard.Lab.Exclusive
import CloudWard.Security.Machine

/-!
# Executions that somebody watches

The monitor task of an execution (`worker/tasks/reliability.py:63`) is published after the start
has committed it, and is tried again until it receives an answer that ends it: a terminal
result, or a status code that `_post` takes for final. An execution that is still active then is
watched by nobody.
-/

namespace CloudWard.Lab

open CloudWard.Db CloudWard.Logic CloudWard.Security

/-- An execution whose end its monitor task has to bring about. -/
def Watched (s : State) (id : Nat) : Prop :=
  ∃ x, s.executions[id]? = some x ∧ x.active ∧ x.scenarioId ∉ finopsScenarios

/-- Every such execution has its task. -/
def Monitored (s : State) : Prop := ∀ id : Nat, Watched s id → id ∈ s.tasks

/-- The worker receives an error that it does not try again, for an execution to be watched. -/
def Refuses (s : State) (id statusCode : Nat) (received : Bool) : Prop :=
  received ∧ (Answer.refused statusCode).retried = false ∧ Watched s id

/-- The move leaves an execution without its task: its publication fails, or the answer of a
pass ends it. -/
def Abandons (s : State) : Move → Prop
  | .launch i _ _ sent => sent = false ∧ ∃ scenario since,
    Starting s i scenario since ∧ scenario.mechanism ≠ .finopsAnalysis
  | .reconcile id (.raised statusCode) received => Refuses s id statusCode received
  | .resume i (.raised statusCode) received =>
    ∃ id loaded, s.sessions[i]? = some (.reconciling id loaded) ∧
      Refuses s id statusCode received
  | _ => False

/-- Starts are of scenarios of the catalog, and tasks of executions that exist. -/
structure Known (s : State) : Prop where
  catalog : ∀ {i : Nat} {scenario : ChaosScenario} {since : Nat},
    Starting s i scenario since → scenario ∈ scenarios
  tasks : ∀ id ∈ s.tasks, id < s.executions.length

/-! ### Tasks -/

section Tasks

variable {s : State}

theorem mem_tasks_answered {id id' : Nat} {received : Bool} {answer : Answer} :
    id' ∈ (s.answered id received answer).tasks ↔
      id' ∈ s.tasks ∧ ¬ (received ∧ answer.retried = false ∧ id' = id) := by
  unfold State.answered
  split
  · next h =>
    simp only [List.mem_filter, decide_eq_true_eq]
    have hretried : answer.retried = false := by simpa using h.2
    constructor
    · rintro ⟨hmem, hne⟩
      exact ⟨hmem, fun hall ↦ hne hall.2.2⟩
    · rintro ⟨hmem, hnot⟩
      exact ⟨hmem, fun heq ↦ hnot ⟨h.1, hretried, heq⟩⟩
  · next h =>
    constructor
    · intro hmem
      refine ⟨hmem, fun hall ↦ h ⟨hall.1, ?_⟩⟩
      rw [hall.2.1]
      exact Bool.false_ne_true
    · exact fun hmem ↦ hmem.1

@[simp] theorem tasks_update (id : Nat) (f : ChaosExecution → ChaosExecution) :
    (s.update id f).tasks = s.tasks := rfl

@[simp] theorem tasks_close (i : Nat) : (s.close i).tasks = s.tasks := rfl

@[simp] theorem tasks_open (session : Session) : (s.open session).tasks = s.tasks := rfl

theorem tasks_answered_subset {id : Nat} {received : Bool} {answer : Answer} :
    (s.answered id received answer).tasks ⊆ s.tasks := fun _ h ↦ (mem_tasks_answered.mp h).1

theorem tasks_pass_subset {id : Nat} {loaded : ChaosExecution} {received : Bool}
    {outcome : Outcome} : (s.pass id loaded received outcome).tasks ⊆ s.tasks := by
  cases outcome with
  | raised statusCode => exact tasks_answered_subset
  | waiting => exact tasks_answered_subset
  | noted entries => exact tasks_answered_subset
  | ended e => exact tasks_answered_subset
  | released entries => exact fun _ h ↦ h

theorem tasks_stop (id : Nat) (principal : String) (outcome : Stop) :
    (s.stop id principal outcome).tasks = s.tasks := by
  unfold State.stop
  split
  · rfl
  · split
    · cases outcome <;> rfl
    · rfl

theorem tasks_analyse (id : Nat) (e : Ending) : (s.analyse id e).tasks = s.tasks := by
  unfold State.analyse
  split
  · rfl
  · split <;> rfl

/-- A launched start queues the task of a scenario that has one, if it is published. -/
theorem tasks_launch {i now : Nat} {resource : String} {sent : Bool} {settings : Settings}
    {scenario : ChaosScenario} {principal : String} {since : Nat}
    (h : s.sessions[i]? = some (.starting settings scenario principal since)) :
    (s.launch i now resource sent).tasks =
      if sent ∧ scenario.mechanism ≠ .finopsAnalysis then s.executions.length :: s.tasks
      else s.tasks := by
  simp only [State.launch, h]
  cases sent with
  | false => simp
  | true => by_cases hfinops : scenario.mechanism = .finopsAnalysis <;> simp [hfinops, Table.fresh]

/-- Every other move only takes tasks away. -/
theorem tasks_step_subset {m : Move} (h : ¬ Launches s m) : (step s m).tasks ⊆ s.tasks := by
  have hself : s.tasks ⊆ s.tasks := fun _ h ↦ h
  cases m with
  | check settings policy scenarioId principal =>
    simp only [step]
    split <;> exact hself
  | launch i now resource sent =>
    change (s.launch i now resource sent).tasks ⊆ s.tasks
    unfold State.launch
    split
    · next settings scenario principal since hsession =>
      exact absurd ⟨_, _, _, _, _, _, _, _, rfl, hsession⟩ h
    · exact hself
  | abandon i => exact hself
  | record i taskId =>
    simp only [step]
    split <;> exact hself
  | reconcile id outcome received =>
    simp only [step, State.reconcile]
    split
    · exact tasks_answered_subset
    · split
      · exact tasks_pass_subset
      · exact tasks_answered_subset
  | resume i outcome received =>
    simp only [step]
    split
    · next id loaded _ =>
      have hpass : ((s.close i).pass id loaded received outcome).tasks ⊆ (s.close i).tasks :=
        tasks_pass_subset
      exact hpass
    · exact hself
  | stop id principal outcome =>
    rw [step, tasks_stop]
    exact hself
  | cancel i now entries =>
    simp only [step]
    split <;> exact hself
  | runFinops id now outcome reason recommendation =>
    rw [step, tasks_analyse]
    exact hself
  | failFinops id now errorCode =>
    rw [step, tasks_analyse]
    exact hself

/-- The tasks of a step come from before it, or are of the execution it launched. -/
theorem mem_tasks_step {m : Move} {id : Nat} (h : id ∈ (step s m).tasks) :
    id ∈ s.tasks ∨ id = s.executions.length ∧ Launches s m := by
  by_cases hlaunch : Launches s m
  · have hmove := hlaunch
    obtain ⟨i, now, resource, sent, settings, scenario, principal, since, rfl, hsession⟩ := hmove
    rw [step, tasks_launch hsession] at h
    split at h
    · rcases List.mem_cons.mp h with rfl | hmem
      · exact .inr ⟨rfl, hlaunch⟩
      · exact .inl hmem
    · exact .inl h
  · exact .inl (tasks_step_subset hlaunch h)

end Tasks

/-- One step keeps what is known. -/
theorem known_step {s : State} (h : Known s) (m : Move) : Known (step s m) where
  catalog := by
    intro i scenario since hstarting
    rcases starting_step hstarting with hbefore | ⟨hcatalog, -⟩
    · exact h.catalog hbefore
    · exact hcatalog
  tasks := by
    intro id hid
    rcases mem_tasks_step hid with hbefore | ⟨rfl, hlaunch⟩
    · exact (h.tasks id hbefore).trans_le (length_step s m)
    · obtain ⟨i, now, resource, sent, settings, scenario, principal, since, rfl, hsession⟩ :=
        hlaunch
      rw [step, executions_launch s hsession, Table.length_insert]
      exact Nat.lt_succ_self _

/-! ### One step -/

section Steps

variable {s : State}

/-- What keeps the tasks and makes nothing active keeps every execution monitored. -/
private theorem Monitored.of_onward {s' : State} (h : Monitored s)
    (hrows : Onward s.executions s'.executions) (htasks : s'.tasks = s.tasks) : Monitored s' := by
  rintro id ⟨x', hrow', hactive', hscenario'⟩
  obtain ⟨x, hrow, hscenario, hactive⟩ := hrows.rows hrow'
  rw [htasks]
  exact h id ⟨x, hrow, hactive hactive', by rwa [← hscenario]⟩

/-- An answer abandons the execution it ends the task of. -/
private theorem monitored_answered {id : Nat} {received : Bool} {answer : Answer}
    (h : Monitored s) :
    Monitored (s.answered id received answer) ↔
      ¬ (received ∧ answer.retried = false ∧ Watched s id) := by
  have hwatched {id' : Nat} : Watched (s.answered id received answer) id' ↔ Watched s id' := by
    unfold Watched
    rw [executions_answered]
  constructor
  · rintro hmonitored ⟨hreceived, hretried, hid⟩
    have hmem := mem_tasks_answered.mp (hmonitored id (hwatched.mpr hid))
    exact hmem.2 ⟨hreceived, hretried, rfl⟩
  · intro hnot id' hid'
    have hbefore := hwatched.mp hid'
    refine mem_tasks_answered.mpr ⟨h id' hbefore, ?_⟩
    rintro ⟨hreceived, hretried, rfl⟩
    exact hnot ⟨hreceived, hretried, hbefore⟩

/-- A pass abandons its execution exactly when it raises what is not tried again. -/
private theorem monitored_pass {id : Nat} {loaded : ChaosExecution} {received : Bool}
    {outcome : Outcome} (h : Monitored s) :
    Monitored (s.pass id loaded received outcome) ↔
      ¬ ∃ statusCode, outcome = .raised statusCode ∧ Refuses s id statusCode received := by
  cases outcome with
  | raised statusCode =>
    rw [State.pass, monitored_answered h]
    simp [Refuses]
  | waiting =>
    rw [State.pass, monitored_answered h]
    simp [Answer.retried]
  | noted entries =>
    have hnoted : Monitored (s.update id (note entries loaded)) :=
      h.of_onward (onward_note s id entries loaded) rfl
    rw [State.pass, monitored_answered hnoted]
    simp [Answer.retried]
  | ended e =>
    have hended : Monitored (s.update id (e.write loaded)) :=
      h.of_onward (onward_write s id e loaded) rfl
    rw [State.pass, monitored_answered hended]
    have hover : ¬ Watched (s.update id (e.write loaded)) id := by
      rintro ⟨x, hrow, hactive, -⟩
      rw [executions_update, Table.getElem?_update_self] at hrow
      obtain ⟨row, -, rfl⟩ := Option.map_eq_some_iff.mp hrow
      rw [active_write] at hactive
      cases hactive
    simp [hover]
  | released entries =>
    have hreleased : Monitored (s.pass id loaded received (.released entries)) :=
      h.of_onward (onward_pass s id loaded received (.released entries)) rfl
    simp [hreleased]

/-- A launch abandons its execution exactly when the task it should have is not published. -/
private theorem monitored_launch (hknown : Known s) (h : Monitored s) {i now : Nat}
    {resource : String} {sent : Bool} {settings : Settings} {scenario : ChaosScenario}
    {principal : String} {since : Nat}
    (hsession : s.sessions[i]? = some (.starting settings scenario principal since)) :
    Monitored (s.launch i now resource sent) ↔
      ¬ (sent = false ∧ scenario.mechanism ≠ .finopsAnalysis) := by
  have hcatalog : scenario ∈ scenarios := hknown.catalog ⟨settings, principal, hsession⟩
  have hfinops := mem_finopsScenarios hcatalog
  have hrows : (s.launch i now resource sent).executions =
      s.executions.insert (started settings scenario principal resource now) :=
    executions_launch s hsession
  have htasks : (s.launch i now resource sent).tasks =
      if sent ∧ scenario.mechanism ≠ .finopsAnalysis then s.executions.length :: s.tasks
      else s.tasks := tasks_launch hsession
  constructor
  · rintro hmonitored ⟨rfl, hmechanism⟩
    have hwatched : Watched (s.launch i now resource false) s.executions.length := by
      refine ⟨_, ?_, active_started settings scenario principal resource now, ?_⟩
      · rw [hrows]
        exact Table.getElem?_insert_fresh _ _
      · exact fun hmem ↦ hmechanism (hfinops.mp hmem)
    have hmem := hmonitored _ hwatched
    rw [htasks, if_neg (by simp)] at hmem
    exact Nat.lt_irrefl _ (hknown.tasks _ hmem)
  · rintro hnot id ⟨x, hrow, hactive, hscenario⟩
    rw [hrows] at hrow
    rw [htasks]
    rcases Table.getElem?_insert_eq_some.mp hrow with hold | ⟨rfl, rfl⟩
    · have hmem : id ∈ s.tasks := h id ⟨x, hold, hactive, hscenario⟩
      split
      · exact List.mem_cons_of_mem _ hmem
      · exact hmem
    · have hmechanism : scenario.mechanism ≠ .finopsAnalysis := fun heq ↦ hscenario (hfinops.mpr heq)
      cases sent with
      | false => exact absurd ⟨rfl, hmechanism⟩ hnot
      | true =>
        rw [if_pos ⟨rfl, hmechanism⟩]
        exact List.mem_cons_self

/-- **A step keeps every execution monitored** exactly when it abandons none. -/
theorem monitored_step_iff (hknown : Known s) (h : Monitored s) (m : Move) :
    Monitored (step s m) ↔ ¬ Abandons s m := by
  have hkept (hlaunch : ¬ Launches s m) (htasks : (step s m).tasks = s.tasks) :
      Monitored (step s m) := h.of_onward (onward_step hlaunch) htasks
  have hidle (hnot : ¬ ∃ i now resource sent, m = .launch i now resource sent) :
      ¬ Launches s m := by
    rintro ⟨i, now, resource, sent, _, _, _, _, heq, -⟩
    exact hnot ⟨i, now, resource, sent, heq⟩
  cases m with
  | check settings policy scenarioId principal =>
    refine iff_of_true (hkept (hidle (by simp)) ?_) not_false
    simp only [step]
    split <;> rfl
  | launch i now resource sent =>
    by_cases hlaunch : Launches s (.launch i now resource sent)
    · obtain ⟨_, _, _, _, settings, scenario, principal, since, heq, hsession⟩ := hlaunch
      cases heq
      have hiff : Monitored (s.launch i now resource sent) ↔
          ¬ (sent = false ∧ scenario.mechanism ≠ .finopsAnalysis) :=
        monitored_launch hknown h hsession
      rw [step, hiff]
      constructor
      · rintro hnot ⟨hsent, scenario', since', ⟨_, _, hsession'⟩, hmechanism⟩
        rw [hsession] at hsession'
        cases hsession'
        exact hnot ⟨hsent, hmechanism⟩
      · rintro hnot ⟨hsent, hmechanism⟩
        exact hnot ⟨hsent, scenario, since, ⟨settings, principal, hsession⟩, hmechanism⟩
    · have hsame : step s (.launch i now resource sent) = s := by
        change s.launch i now resource sent = s
        unfold State.launch
        split
        · next settings scenario principal since hsession =>
          exact absurd ⟨_, _, _, _, _, _, _, _, rfl, hsession⟩ hlaunch
        · rfl
      refine iff_of_true (by rwa [hsame]) ?_
      rintro ⟨-, scenario, since, ⟨_, _, hsession⟩, -⟩
      exact hlaunch ⟨_, _, _, _, _, _, _, _, rfl, hsession⟩
  | abandon i => exact iff_of_true (hkept (hidle (by simp)) rfl) not_false
  | record i taskId =>
    refine iff_of_true (hkept (hidle (by simp)) ?_) not_false
    simp only [step]
    split <;> rfl
  | reconcile id outcome received =>
    have habandons : Abandons s (.reconcile id outcome received) ↔
        ∃ statusCode, outcome = .raised statusCode ∧ Refuses s id statusCode received := by
      cases outcome <;> simp [Abandons]
    rw [habandons]
    have hunwatched (hnot : ¬ Watched s id) (answer : Answer) :
        Monitored (s.answered id received answer) ↔
          ¬ ∃ statusCode, outcome = .raised statusCode ∧ Refuses s id statusCode received := by
      rw [monitored_answered h]
      simp [Refuses, hnot]
    simp only [step, State.reconcile]
    split
    · next hnone =>
      apply hunwatched
      rintro ⟨x, hrow, -⟩
      rw [hnone] at hrow
      cases hrow
    · next row hrow =>
      split
      · exact monitored_pass h
      · next hover =>
        apply hunwatched
        rintro ⟨x, hrow', hactive, -⟩
        rw [hrow] at hrow'
        cases hrow'
        exact hover hactive
  | resume i outcome received =>
    simp only [step]
    split
    · next id loaded hsession =>
      have hclosed : Monitored (s.close i) := h
      rw [monitored_pass hclosed]
      cases outcome with
      | raised statusCode =>
        simp only [Abandons, hsession]
        constructor
        · rintro hnot ⟨_, _, heq, hrefuses⟩
          cases heq
          exact hnot ⟨statusCode, rfl, hrefuses⟩
        · rintro hnot ⟨_, heq, hrefuses⟩
          cases heq
          exact hnot ⟨id, loaded, rfl, hrefuses⟩
      | waiting => simp [Abandons]
      | noted entries => simp [Abandons]
      | ended e => simp [Abandons]
      | released entries => simp [Abandons]
    · next hother =>
      refine iff_of_true h ?_
      cases outcome with
      | raised statusCode =>
        rintro ⟨id, loaded, hsession, -⟩
        exact hother id loaded hsession
      | waiting => exact not_false
      | noted entries => exact not_false
      | ended e => exact not_false
      | released entries => exact not_false
  | stop id principal outcome =>
    exact iff_of_true (hkept (hidle (by simp)) (tasks_stop id principal outcome)) not_false
  | cancel i now entries =>
    refine iff_of_true (hkept (hidle (by simp)) ?_) not_false
    simp only [step]
    split <;> rfl
  | runFinops id now outcome reason recommendation =>
    exact iff_of_true (hkept (hidle (by simp)) (tasks_analyse id _)) not_false
  | failFinops id now errorCode =>
    exact iff_of_true (hkept (hidle (by simp)) (tasks_analyse id _)) not_false

end Steps

/-! ### The claim -/

/-- A start whose task cannot be published. -/
def unpublished : List Move :=
  [.check .standard ⟨true, "allowed"⟩ "reliability.memory-pressure" "operator",
    .launch 0 0 "cloudward-1" false]

/-- The status code of a pass that raises. -/
def statusCodeOf : Except Exc ReconcileResult → Option Nat
  | .error (.cloudWard error) => some error.statusCode
  | _ => none

/-- OPA denies the quarantine that a scenario waits for. -/
def quarantineDenied : Env :=
  { cluster true with
    opa := fun _ _ ↦
      { allowed := false
        requiresApproval := false
        reason := "the target is not a demo workload"
        reason_length := by decide } }

/-- The pass over the running scenario raises an error that the worker takes for final. -/
theorem reconcileExecution_refused :
    ∃ statusCode, statusCodeOf ((reconcileExecution quarantineDenied standard
        { egressScenario with cleanupDeadline := 60 }).run
          (Runs.run Security.step ⟨{}, {}⟩ [against true (.ingest delivery)]).world).1 =
        some statusCode ∧ (Answer.refused statusCode).retried = false := by
  refine ⟨403, ?_, rfl⟩
  decide +kernel

end CloudWard.Lab
