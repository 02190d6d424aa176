import CloudWard.Lab.Sessions

/-!
# One active execution for each scenario

`start_scenario` (`api/incident_lab.py:133`) looks for an active execution and inserts its own in
a later statement, and no constraint of `db/models.py:429` or lock ties the two together. Nothing
makes an execution active again that is over, so two active ones come from two starts alone.
-/

namespace CloudWard.Lab

open CloudWard.Db CloudWard.Logic CloudWard.Security

/-! ### What a step does to the rows -/

/-- No row is added, none changes its scenario, and none that is over is active again. -/
structure Onward (before after : Table ChaosExecution) : Prop where
  length : after.length = before.length
  rows : ∀ {id : Nat} {x' : ChaosExecution}, after[id]? = some x' →
    ∃ x, before[id]? = some x ∧ x'.scenarioId = x.scenarioId ∧ (x'.active → x.active)

namespace Onward

variable {t t' t'' : Table ChaosExecution}

theorem refl : Onward t t := ⟨rfl, fun h ↦ ⟨_, h, rfl, id⟩⟩

theorem trans (h : Onward t t') (h' : Onward t' t'') : Onward t t'' where
  length := h'.length.trans h.length
  rows hrow'' := by
    obtain ⟨x', hrow', hscenario', hactive'⟩ := h'.rows hrow''
    obtain ⟨x, hrow, hscenario, hactive⟩ := h.rows hrow'
    exact ⟨x, hrow, hscenario'.trans hscenario, fun hx ↦ hactive (hactive' hx)⟩

theorem update {id : Nat} {f : ChaosExecution → ChaosExecution}
    (hf : ∀ x, t[id]? = some x → (f x).scenarioId = x.scenarioId ∧ ((f x).active → x.active)) :
    Onward t (t.update id f) where
  length := by simp
  rows {i x'} hrow := by
    rw [Table.getElem?_update] at hrow
    split at hrow
    · next hid =>
      subst hid
      obtain ⟨x, hx, rfl⟩ := Option.map_eq_some_iff.mp hrow
      exact ⟨x, hx, hf x hx⟩
    · exact ⟨x', hrow, rfl, fun h ↦ h⟩

end Onward

section Steps

variable (s : State)

@[simp] theorem executions_answered (id : Nat) (received : Bool) (answer : Answer) :
    (s.answered id received answer).executions = s.executions := by
  unfold State.answered
  split <;> rfl

@[simp] theorem sessions_answered (id : Nat) (received : Bool) (answer : Answer) :
    (s.answered id received answer).sessions = s.sessions := by
  unfold State.answered
  split <;> rfl

@[simp] theorem executions_close (i : Nat) : (s.close i).executions = s.executions := rfl

@[simp] theorem executions_open (session : Session) :
    (s.open session).executions = s.executions := rfl

@[simp] theorem executions_update (id : Nat) (f : ChaosExecution → ChaosExecution) :
    (s.update id f).executions = s.executions.update id f := rfl

@[simp] theorem sessions_update (id : Nat) (f : ChaosExecution → ChaosExecution) :
    (s.update id f).sessions = s.sessions := rfl

theorem active_write (e : Ending) (loaded row : ChaosExecution) :
    (e.write loaded row).active = false := e.ended

theorem onward_note (id : Nat) (entries : Parameters) (loaded : ChaosExecution) :
    Onward s.executions (s.executions.update id (note entries loaded)) :=
  .update fun _ _ ↦ ⟨rfl, fun h ↦ h⟩

theorem onward_write (id : Nat) (e : Ending) (loaded : ChaosExecution) :
    Onward s.executions (s.executions.update id (e.write loaded)) := by
  apply Onward.update
  intro x _
  refine ⟨rfl, fun h ↦ ?_⟩
  rw [active_write] at h
  cases h

theorem onward_pass (id : Nat) (loaded : ChaosExecution) (received : Bool) (outcome : Outcome) :
    Onward s.executions (s.pass id loaded received outcome).executions := by
  cases outcome with
  | raised statusCode =>
    rw [State.pass, executions_answered]
    exact .refl
  | waiting =>
    rw [State.pass, executions_answered]
    exact .refl
  | noted entries =>
    rw [State.pass, executions_answered]
    exact onward_note s id entries loaded
  | ended e =>
    rw [State.pass, executions_answered]
    exact onward_write s id e loaded
  | released entries => exact onward_note s id entries loaded

theorem onward_reconcile (id : Nat) (outcome : Outcome) (received : Bool) :
    Onward s.executions (s.reconcile id outcome received).executions := by
  unfold State.reconcile
  split
  · rw [executions_answered]
    exact .refl
  · split
    · exact onward_pass s id _ received outcome
    · rw [executions_answered]
      exact .refl

theorem onward_stop (id : Nat) (principal : String) (outcome : Stop) :
    Onward s.executions (s.stop id principal outcome).executions := by
  unfold State.stop
  split
  · exact .refl
  · next row hrow =>
    split
    · next hactive =>
      cases outcome with
      | raised => exact .refl
      | done now entries => exact onward_write s id _ row
      | released entries =>
        apply Onward.update
        intro x hx
        rw [hrow] at hx
        cases hx
        exact ⟨rfl, fun _ ↦ hactive⟩
    · exact .refl

theorem onward_analyse (id : Nat) (e : Ending) :
    Onward s.executions (s.analyse id e).executions := by
  unfold State.analyse
  split
  · exact .refl
  · split
    · exact onward_write s id e _
    · exact .refl

/-- A start that is launched adds its row. -/
theorem executions_launch {i now : Nat} {resource : String} {sent : Bool} {settings : Settings}
    {scenario : ChaosScenario} {principal : String} {since : Nat}
    (h : s.sessions[i]? = some (.starting settings scenario principal since)) :
    (s.launch i now resource sent).executions =
      s.executions.insert (started settings scenario principal resource now) := by
  simp only [State.launch, h]
  split
  · rw [executions_open]
    split <;> rfl
  · rfl

/-- The move is the launch of a start. -/
def Launches (s : State) (m : Move) : Prop :=
  ∃ i now resource sent settings scenario principal since,
    m = .launch i now resource sent ∧
      s.sessions[i]? = some (.starting settings scenario principal since)

/-- Every other move leaves the executions in place. -/
theorem onward_step {s : State} {m : Move} (h : ¬ Launches s m) :
    Onward s.executions (step s m).executions := by
  cases m with
  | check settings policy scenarioId principal =>
    simp only [step]
    split <;> exact .refl
  | launch i now resource sent =>
    change Onward _ (s.launch i now resource sent).executions
    unfold State.launch
    split
    · next settings scenario principal since hsession =>
      exact absurd ⟨_, _, _, _, _, _, _, _, rfl, hsession⟩ h
    · exact .refl
  | abandon i => exact .refl
  | record i taskId =>
    simp only [step]
    split
    · exact onward_note (s.close i) _ _ _
    · exact .refl
  | reconcile id outcome received => exact onward_reconcile s id outcome received
  | resume i outcome received =>
    simp only [step]
    split
    · exact onward_pass (s.close i) _ _ received outcome
    · exact .refl
  | stop id principal outcome => exact onward_stop s id principal outcome
  | cancel i now entries =>
    simp only [step]
    split
    · exact onward_write (s.close i) _ _ _
    · exact .refl
  | runFinops id now outcome reason recommendation => exact onward_analyse s id _
  | failFinops id now errorCode => exact onward_analyse s id _

end Steps

/-! ### What a start knows -/

section Starting

variable {s : State} {i : Nat} {settings : Settings} {scenario : ChaosScenario}
variable {principal : String} {since : Nat}

/-- The request is a start that passed its checks. -/
def Starting (s : State) (i : Nat) (scenario : ChaosScenario) (since : Nat) : Prop :=
  ∃ settings principal, s.sessions[i]? = some (.starting settings scenario principal since)

private theorem starting_close {j : Nat} (h : Starting (s.close j) i scenario since) :
    Starting s i scenario since := by
  obtain ⟨settings, principal, hsession⟩ := h
  refine ⟨settings, principal, ?_⟩
  rw [State.close, Table.getElem?_update] at hsession
  split at hsession
  · obtain ⟨_, _, hover⟩ := Option.map_eq_some_iff.mp hsession
    cases hover
  · exact hsession

private theorem starting_open {session : Session}
    (hsession : ∀ settings scenario principal since,
      session ≠ .starting settings scenario principal since)
    (h : Starting (s.open session) i scenario since) : Starting s i scenario since := by
  obtain ⟨settings, principal, hopen⟩ := h
  refine ⟨settings, principal, ?_⟩
  rcases Table.getElem?_insert_eq_some.mp hopen with hold | ⟨-, hnew⟩
  · exact hold
  · exact absurd hnew.symm (hsession _ _ _ _)

private theorem starting_answered {id : Nat} {received : Bool} {answer : Answer} :
    Starting (s.answered id received answer) i scenario since ↔ Starting s i scenario since := by
  unfold Starting
  rw [sessions_answered]

private theorem starting_pass {id : Nat} {loaded : ChaosExecution} {received : Bool}
    {outcome : Outcome} (h : Starting (s.pass id loaded received outcome) i scenario since) :
    Starting s i scenario since := by
  cases outcome with
  | raised statusCode => rwa [State.pass, starting_answered] at h
  | waiting => rwa [State.pass, starting_answered] at h
  | noted entries => rwa [State.pass, starting_answered] at h
  | ended e => rwa [State.pass, starting_answered] at h
  | released entries => exact starting_open (by simp) h

private theorem starting_launch {j now : Nat} {resource : String} {sent : Bool}
    (h : Starting (s.launch j now resource sent) i scenario since) :
    Starting s i scenario since := by
  unfold State.launch at h
  split at h
  · split at h
    · have hopened := starting_open (by simp) h
      split at hopened
      · exact starting_close hopened
      · exact starting_close hopened
    · exact starting_close h
  · exact h

/-- A start in flight was there before the step, or has just found no active execution of a
scenario of the catalog. -/
theorem starting_step {m : Move} (h : Starting (step s m) i scenario since) :
    Starting s i scenario since ∨
      scenario ∈ scenarios ∧ (step s m).executions = s.executions ∧
        since = s.executions.length ∧
        ∀ x ∈ s.executions, x.scenarioId = scenario.id → x.active = false := by
  cases m with
  | check settings policy scenarioId principal =>
    simp only [step] at h ⊢
    split at h
    · next checked hchecked =>
      obtain ⟨settings', principal', hopen⟩ := h
      rcases Table.getElem?_insert_eq_some.mp hopen with hold | ⟨-, hnew⟩
      · exact .inl ⟨settings', principal', hold⟩
      · cases hnew
        obtain ⟨hcatalog, hnone⟩ := checkStart_eq_ok hchecked
        exact .inr ⟨hcatalog, rfl, rfl, hnone⟩
    · exact .inl h
  | launch j now resource sent => exact .inl (starting_launch h)
  | abandon j => exact .inl (starting_close h)
  | record j taskId =>
    simp only [step] at h
    split at h
    · exact .inl (starting_close h)
    · exact .inl h
  | reconcile id outcome received =>
    simp only [step, State.reconcile] at h
    split at h
    · exact .inl (starting_answered.mp h)
    · split at h
      · exact .inl (starting_pass h)
      · exact .inl (starting_answered.mp h)
  | resume j outcome received =>
    simp only [step] at h
    split at h
    · exact .inl (starting_close (starting_pass h))
    · exact .inl h
  | stop id principal outcome =>
    simp only [step, State.stop] at h
    split at h
    · exact .inl h
    · split at h
      · cases outcome with
        | raised => exact .inl h
        | done now entries => exact .inl h
        | released entries => exact .inl (starting_open (by simp) h)
      · exact .inl h
  | cancel j now entries =>
    simp only [step] at h
    split at h
    · exact .inl (starting_close h)
    · exact .inl h
  | runFinops id now outcome reason recommendation =>
    simp only [step, State.analyse] at h
    split at h
    · exact .inl h
    · split at h <;> exact .inl h
  | failFinops id now errorCode =>
    simp only [step, State.analyse] at h
    split at h
    · exact .inl h
    · split at h <;> exact .inl h

end Starting

/-- No execution that a start could see when it checked is active. -/
def Checked (s : State) : Prop :=
  ∀ {i : Nat} {scenario : ChaosScenario} {since : Nat}, Starting s i scenario since →
    since ≤ s.executions.length ∧
      ∀ {id : Nat} {x : ChaosExecution}, id < since → s.executions[id]? = some x →
        x.scenarioId = scenario.id → x.active = false

/-- A row that was there before the step, after it. -/
private theorem rows_step {s : State} {m : Move} {id : Nat} {x' : ChaosExecution}
    (hid : id < s.executions.length) (hrow : (step s m).executions[id]? = some x') :
    ∃ x, s.executions[id]? = some x ∧ x'.scenarioId = x.scenarioId ∧ (x'.active → x.active) := by
  by_cases hlaunch : Launches s m
  · obtain ⟨i, now, resource, sent, settings, scenario, principal, since, rfl, hsession⟩ := hlaunch
    rw [step, executions_launch s hsession] at hrow
    rcases Table.getElem?_insert_eq_some.mp hrow with hold | ⟨rfl, -⟩
    · exact ⟨x', hold, rfl, fun h ↦ h⟩
    · exact absurd hid (Nat.lt_irrefl _)
  · exact (onward_step hlaunch).rows hrow

theorem length_step (s : State) (m : Move) :
    s.executions.length ≤ (step s m).executions.length := by
  by_cases hlaunch : Launches s m
  · obtain ⟨i, now, resource, sent, settings, scenario, principal, since, rfl, hsession⟩ := hlaunch
    rw [step, executions_launch s hsession, Table.length_insert]
    exact Nat.le_succ _
  · exact (onward_step hlaunch).length.ge

/-- One step keeps what starts know. -/
theorem checked_step {s : State} (h : Checked s) (m : Move) : Checked (step s m) := by
  intro i scenario since hstarting
  rcases starting_step hstarting with hbefore | ⟨-, hsame, rfl, hnone⟩
  · obtain ⟨hle, hover⟩ := h hbefore
    refine ⟨hle.trans (length_step s m), ?_⟩
    intro id x' hid hrow hscenario
    obtain ⟨x, hx, heq, hactive⟩ := rows_step (hid.trans_le hle) hrow
    have hinactive := hover hid hx (heq.symm.trans hscenario)
    by_contra hnot
    rw [hactive (by simpa using hnot)] at hinactive
    cases hinactive
  · rw [hsame]
    refine ⟨Nat.le_refl _, ?_⟩
    intro id x _ hrow hscenario
    exact hnone x (List.mem_of_getElem? hrow) hscenario

/-! ### The claim -/

/-- At most one execution of each scenario is active. -/
def Exclusive (s : State) : Prop :=
  ∀ {id id' : Nat} {x x' : ChaosExecution}, s.executions[id]? = some x →
    s.executions[id']? = some x' → x.active → x'.active → x.scenarioId = x'.scenarioId → id = id'

/-- The move launches a start that another one of its scenario has overtaken: an execution that
was committed after its check is active. -/
def Overtaken (s : State) (m : Move) : Prop :=
  ∃ i now resource sent scenario since, m = .launch i now resource sent ∧
    Starting s i scenario since ∧ ∃ (id : Nat) (x : ChaosExecution),
      since ≤ id ∧ s.executions[id]? = some x ∧ x.scenarioId = scenario.id ∧ x.active

/-- A step keeps the executions exclusive exactly when it launches no overtaken start. -/
theorem exclusive_step_iff {s : State} (hchecked : Checked s) (h : Exclusive s) (m : Move) :
    Exclusive (step s m) ↔ ¬ Overtaken s m := by
  by_cases hlaunch : Launches s m
  · obtain ⟨i, now, resource, sent, settings, scenario, principal, since, rfl, hsession⟩ := hlaunch
    have hold {id : Nat} {x : ChaosExecution} (hrow : s.executions[id]? = some x)
        (hscenario : x.scenarioId = scenario.id) (hactive : x.active)
        (hnot : ¬ Overtaken s (.launch i now resource sent)) : False := by
      by_cases hid : id < since
      · have hinactive := (hchecked ⟨settings, principal, hsession⟩).2 hid hrow hscenario
        rw [hactive] at hinactive
        cases hinactive
      · exact hnot ⟨i, now, resource, sent, scenario, since, rfl, ⟨settings, principal, hsession⟩,
          id, x, Nat.le_of_not_lt hid, hrow, hscenario, hactive⟩
    unfold Exclusive
    simp only [step, executions_launch s hsession]
    constructor
    · rintro hexclusive ⟨_, _, _, _, scenario', since', heq, ⟨_, _, hsession'⟩, id, x, -, hrow,
        hscenario, hactive⟩
      cases heq
      rw [hsession] at hsession'
      cases hsession'
      have hid := hexclusive (Table.getElem?_insert_of_some hrow)
        (Table.getElem?_insert_fresh _ _) hactive (active_started ..) hscenario
      subst hid
      have hnone : s.executions[s.executions.length]? = none := List.getElem?_eq_none (Nat.le_refl _)
      exact nomatch hrow.symm.trans hnone
    · intro hnot id id' x x' hrow hrow' hactive hactive' hscenario
      rcases Table.getElem?_insert_eq_some.mp hrow with hx | ⟨rfl, rfl⟩
      · rcases Table.getElem?_insert_eq_some.mp hrow' with hx' | ⟨rfl, rfl⟩
        · exact h hx hx' hactive hactive' hscenario
        · exact (hold hx hscenario hactive hnot).elim
      · rcases Table.getElem?_insert_eq_some.mp hrow' with hx' | ⟨rfl, -⟩
        · exact (hold hx' hscenario.symm hactive' hnot).elim
        · rfl
  · constructor
    · rintro - ⟨i, now, resource, sent, scenario, since, rfl, ⟨settings, principal, hsession⟩, -⟩
      exact hlaunch ⟨_, _, _, _, _, _, _, _, rfl, hsession⟩
    · intro _ id id' x x' hrow hrow' hactive hactive' hscenario
      obtain ⟨y, hy, heq, hyactive⟩ := (onward_step hlaunch).rows hrow
      obtain ⟨y', hy', heq', hyactive'⟩ := (onward_step hlaunch).rows hrow'
      exact h hy hy' (hyactive hactive) (hyactive' hactive')
        (heq.symm.trans (hscenario.trans heq'))

/-- **When a scenario has one active execution.** In every state of a run at most one execution of
each scenario is active, exactly when no start is launched after another start of its scenario
was committed since its check and is still active. -/
theorem exclusive_iff_not_overtaken (moves : List Move) :
    Runs.Along step (fun s m ↦ Exclusive (step s m)) {} moves ↔
      Runs.Along step (fun s m ↦ ¬ Overtaken s m) {} moves := by
  have hiff : ∀ (moves : List Move) (s : State), Checked s → Exclusive s →
      (Runs.Along step (fun s m ↦ Exclusive (step s m)) s moves ↔
        Runs.Along step (fun s m ↦ ¬ Overtaken s m) s moves) := by
    intro moves
    induction moves with
    | nil => exact fun _ _ _ ↦ Iff.rfl
    | cons m rest ih =>
      intro s hchecked hexclusive
      have hstep := exclusive_step_iff hchecked hexclusive m
      constructor
      · rintro ⟨hnext, hrest⟩
        exact ⟨hstep.mp hnext, (ih _ (checked_step hchecked m) hnext).mp hrest⟩
      · rintro ⟨hnot, hrest⟩
        have hnext : Exclusive (step s m) := hstep.mpr hnot
        exact ⟨hnext, (ih _ (checked_step hchecked m) hnext).mpr hrest⟩
  apply hiff
  · rintro i scenario since ⟨settings, principal, hsession⟩
    simp at hsession
  · intro id id' x x' hrow
    simp at hrow

/-- Two operators start the same scenario at once. -/
def twoStarts : List Move :=
  [.check .standard ⟨true, "allowed"⟩ "reliability.memory-pressure" "first",
    .check .standard ⟨true, "allowed"⟩ "reliability.memory-pressure" "second",
    .launch 0 0 "cloudward-1" true,
    .launch 1 0 "cloudward-2" true]

/-- Both executions are active. -/
theorem twoStarts_not_exclusive :
    ¬ ∀ moves : List Move, Runs.Along step (fun s m ↦ Exclusive (step s m)) {} moves := by
  intro h
  have hlast : Exclusive (Runs.run step {} twoStarts) := (h twoStarts).2.2.2.1
  have hfirst : ((Runs.run step {} twoStarts).executions[0]?.map fun x ↦ (x.scenarioId, x.active)) =
      some ("reliability.memory-pressure", true) := by decide +kernel
  have hsecond : ((Runs.run step {} twoStarts).executions[1]?.map fun x ↦ (x.scenarioId, x.active)) =
      some ("reliability.memory-pressure", true) := by decide +kernel
  obtain ⟨x, hx, hxactive⟩ := Option.map_eq_some_iff.mp hfirst
  obtain ⟨x', hx', hxactive'⟩ := Option.map_eq_some_iff.mp hsecond
  cases hlast hx hx' (congrArg Prod.snd hxactive) (congrArg Prod.snd hxactive')
    (congrArg Prod.fst (hxactive.trans hxactive'.symm))

end CloudWard.Lab
