import CloudWard.Remediation.Dispatch

/-!
# The rows a pipeline run files

The session of a run and the database each hold the rows the run began with and the rows
it filed since: a commit copies the first to the second, a rollback the second to the
first. In both, an execution was filed only after an evaluation that allowed, with the
action `attemptRow` writes out, and a proposal only for the matched runbook.
-/

namespace CloudWard.Remediation.Pipeline

open CloudWard.Db CloudWard.Incidents CloudWard.Kubernetes CloudWard.Logic CloudWard.Policies
  CloudWard.Risk CloudWard.Runbooks CloudWard.Verification Service

/-- Something was evaluated and allowed. -/
def Granted (t : List Event) : Prop :=
  ∃ input policy, .evaluated input policy ∈ t ∧ policy.allowed

/-- The rows of a run that began with the actions `before`, and files only proposals whose
action satisfies `M`. -/
def FiledIn (M : ActionType → Prop) (before : List ActionType × List ActionType)
    (t : List Event) (db : Database) : Prop :=
  ∃ new new', actsOf db = (before.1 ++ new, before.2 ++ new') ∧
    (∀ a ∈ new, a = .deleteUnhealthyPod ∧ Granted t) ∧ ∀ a ∈ new', M a

/-- Both sets of rows, and what was allowed so far. -/
structure Filed (M : ActionType → Prop) (before : List ActionType × List ActionType) (g : Prop)
    (w : World) : Prop where
  session : FiledIn M before w.trace w.db
  stored : FiledIn M before w.trace w.committed
  mutated : ∀ m, .mutated m ∈ w.trace → Granted w.trace
  granted : g → Granted w.trace

/-- The actions of both sets of rows. -/
def filings (w : World) : (List ActionType × List ActionType) × List ActionType × List ActionType :=
  (actsOf w.db, actsOf w.committed)

theorem Granted.mono {t t' : List Event} (h : Granted t) (ht : ∀ e ∈ t, e ∈ t') : Granted t' := by
  obtain ⟨input, policy, hmem, hallowed⟩ := h
  exact ⟨input, policy, ht _ hmem, hallowed⟩

section Rules

variable {α : Type} {x : Service α} {M : ActionType → Prop} {g : Prop}
variable {before : List ActionType × List ActionType}

theorem FiledIn.mono {t t' : List Event} {db db' : Database} (h : FiledIn M before t db)
    (ht : ∀ e ∈ t, e ∈ t') (hdb : actsOf db' = actsOf db) : FiledIn M before t' db' := by
  obtain ⟨new, new', heq, hnew, hnew'⟩ := h
  refine ⟨new, new', hdb.trans heq, ?_, hnew'⟩
  intro a ha
  exact ⟨(hnew a ha).1, (hnew a ha).2.mono ht⟩

theorem Filed.weaken {w : World} {g' : Prop} (h : Filed M before g w) (hg : g' → g) :
    Filed M before g' w :=
  ⟨h.session, h.stored, h.mutated, fun h' ↦ h.granted (hg h')⟩

/-- A program that files nothing, and mutates nothing before something was allowed, keeps
what was filed. -/
theorem filed_of_emits {p : Event → Prop} (hf : Exec.Frames filings x)
    (he : Exec.Emits World.trace p x) (hp : ∀ m, p (.mutated m) → g) :
    Exec.Keeps (Filed M before g) x := by
  apply Exec.keeps_of_state
  intro w hw
  have hgrows : ∀ e ∈ w.trace, e ∈ (x.run w).2.trace := fun e h ↦ he.mem h
  obtain ⟨hsession, hstored⟩ := Prod.mk.inj (hf w)
  constructor
  · exact hw.session.mono hgrows hsession
  · exact hw.stored.mono hgrows hstored
  · intro m hm
    rcases he.of_mem hm with hm | hm
    · exact (hw.mutated m hm).mono hgrows
    · exact (hw.granted (hp m hm)).mono hgrows
  · exact fun hg ↦ (hw.granted hg).mono hgrows

theorem filed_of_frames (hf : Exec.Frames filings x) (ht : Exec.Frames World.trace x) :
    Exec.Keeps (Filed M before g) x :=
  filed_of_emits (p := fun _ ↦ False) hf ht.emits fun _ h ↦ h.elim

theorem filed_flush (env : Env) : Exec.Keeps (Filed M before g) (flush env) :=
  filed_of_frames (frames_flush env fun _ _ ↦ rfl) (frames_flush env fun _ _ ↦ rfl)

/-- A write that keeps the actions of the rows. -/
theorem filed_write {f : Database → Database} (hf : ∀ db, actsOf (f db) = actsOf db) :
    Exec.Keeps (Filed M before g) (write f) := by
  apply filed_of_frames
  · intro w
    exact congrArg (·, actsOf w.committed) (hf w.db)
  · exact frames_write _ fun _ _ ↦ rfl

theorem filed_updateIncident (id : Nat) (f : Incident → Incident) :
    Exec.Keeps (Filed M before g) (updateIncident id f) := by
  apply filed_write
  exact fun _ ↦ rfl

theorem filed_insertPolicyDecision (row : PolicyDecision) :
    Exec.Keeps (Filed M before g) (insertPolicyDecision row) := by
  apply filed_write
  exact fun _ ↦ rfl

theorem filed_updateRunbookExecution (id : Nat) (f : RunbookExecution → RunbookExecution) :
    Exec.Keeps (Filed M before g) (updateRunbookExecution id f) := by
  apply filed_write
  exact fun _ ↦ rfl

theorem filed_insertRunbookExecution (row : RunbookExecution) :
    Exec.Keeps (Filed M before g) (insertRunbookExecution row) := by
  apply filed_of_frames
  · exact fun _ ↦ rfl
  · exact fun _ ↦ rfl

theorem filed_record {e : Event} (he : ∀ m, e ≠ .mutated m) :
    Exec.Keeps (Filed M before g) (record e) := by
  apply filed_of_emits (p := (· = e)) (fun _ ↦ rfl)
  · intro w
    exact ⟨[e], rfl, fun _ h ↦ List.mem_singleton.mp h⟩
  · exact fun m h ↦ (he m h.symm).elim

theorem filed_change (env : Env) (settings : Settings) (incidentId : Nat)
    (target : IncidentState) (actor : String) (details : Details) :
    Exec.Keeps (Filed M before g)
      (changeIncidentState env settings incidentId target actor details) :=
  filed_of_frames
    (frames_changeIncidentState (fun _ _ ↦ rfl) env settings incidentId target actor details false
      (fun _ _ ↦ rfl) (fun _ _ _ ↦ rfl) fun _ _ _ _ ↦ rfl)
    (frames_trace_changeIncidentState env settings _ _ _ _)

theorem filed_updateProposal {f : ActionProposal → ActionProposal}
    (hf : ∀ q, (f q).actionType = q.actionType) (id : Nat) :
    Exec.Keeps (Filed M before g) (updateProposal id f) := by
  apply filed_write
  intro db
  simp only [actsOf, Table.map_update _ _ hf]

theorem filed_updateExecution {f : ActionExecution → ActionExecution}
    (hf : ∀ e, (f e).actionType = e.actionType) (id : Nat) :
    Exec.Keeps (Filed M before g) (updateExecution id f) := by
  apply filed_write
  intro db
  simp only [actsOf, Table.map_update _ _ hf]

/-- A commit stores what the session filed. -/
theorem filed_commit (env : Env) : Exec.Keeps (Filed M before g) (commit env) := by
  apply Exec.Triple.bind (filed_flush env)
  intro _ w hw
  have hgrows : ∀ e ∈ w.trace, e ∈ Event.committed :: w.trace :=
    fun e h ↦ List.mem_cons_of_mem _ h
  constructor
  · exact hw.session.mono hgrows rfl
  · exact hw.session.mono hgrows rfl
  · intro m hm
    exact (hw.mutated m (by simpa using hm)).mono hgrows
  · exact fun hg ↦ (hw.granted hg).mono hgrows

/-- A rollback leaves what was stored. -/
theorem filed_rollback : Exec.Keeps (Filed M before g) rollback := by
  intro w hw
  exact ⟨hw.stored, hw.stored, hw.mutated, hw.granted⟩

theorem filed_insertProposal {row : ActionProposal} (hM : M row.actionType) :
    Exec.Keeps (Filed M before g) (insertProposal row) := by
  intro w hw
  obtain ⟨new, new', heq, hnew, hnew'⟩ := hw.session
  obtain ⟨hexecutions, hproposals⟩ := Prod.mk.inj heq
  refine ⟨⟨new, new' ++ [row.actionType], ?_, hnew, ?_⟩, hw.stored, hw.mutated, hw.granted⟩
  · simp [actsOf, Table.insert, hexecutions, hproposals]
  · intro a ha
    rcases List.mem_append.mp ha with ha | ha
    · exact hnew' a ha
    · rw [List.mem_singleton.mp ha]
      exact hM

/-- A deletion may be filed once something was allowed. -/
theorem filed_insertExecution (env : Env) {row : ActionExecution} (hg : g)
    (hrow : row.actionType = .deleteUnhealthyPod) :
    Exec.Keeps (Filed M before g) (insertExecution env row) := by
  have hinsert : Exec.Keeps (Filed M before g)
      (write fun db ↦ { db with executions := db.executions.insert row }) := by
    intro w hw
    obtain ⟨new, new', heq, hnew, hnew'⟩ := hw.session
    obtain ⟨hexecutions, hproposals⟩ := Prod.mk.inj heq
    refine ⟨⟨new ++ [row.actionType], new', ?_, ?_, hnew'⟩, hw.stored, hw.mutated, hw.granted⟩
    · simp [actsOf, Table.insert, hexecutions, hproposals]
    · intro a ha
      rcases List.mem_append.mp ha with ha | ha
      · exact hnew a ha
      · rw [List.mem_singleton.mp ha]
        exact ⟨hrow, hw.granted hg⟩
  apply Exec.keeps_bind (Exec.keeps_read _)
  intro executions
  apply Exec.keeps_bind (Exec.keeps_require _ _)
  intro _
  apply Exec.keeps_bind hinsert
  intro _
  apply Exec.keeps_bind (filed_flush env)
  intro _
  exact Exec.keeps_pure _

end Rules

/-! ### The stages -/

section Stages

variable {env : Env} {settings : Settings} {actor : String} {M : ActionType → Prop} {g : Prop}
variable {before : List ActionType × List ActionType}

theorem filed_collect (target : UnhealthyPodTarget) :
    Exec.Keeps (Filed M before g) (collectKubernetesState env target) := by
  apply Exec.keeps_bind
  · exact filed_of_frames (frames_getDeployment (fun _ _ ↦ rfl) env _ _)
      (frames_getDeployment (fun _ _ ↦ rfl) env _ _)
  intro deployment
  apply Exec.keeps_bind
  · exact filed_of_frames (frames_getPods (fun _ _ ↦ rfl) env _ _)
      (frames_getPods (fun _ _ ↦ rfl) env _ _)
  intro pods
  apply Exec.keeps_bind (filed_record (by simp))
  intro _
  exact Exec.keeps_pure _

theorem filed_gather (incidentId : Nat) (target : UnhealthyPodTarget) :
    Exec.Keeps (Filed M before g) (gather env settings incidentId target actor) := by
  apply Exec.keeps_bind (filed_change env settings _ _ _ _)
  intro _
  apply Exec.keeps_bind (filed_collect target)
  intro evidence
  apply Exec.keeps_bind
  · exact filed_of_frames (frames_getServiceHealth (fun _ _ ↦ rfl) env _ _ _)
      (frames_getServiceHealth (fun _ _ ↦ rfl) env _ _ _)
  intro _
  apply Exec.keeps_bind (filed_flush env)
  intro _
  apply Exec.keeps_bind (filed_commit env)
  intro _
  exact Exec.keeps_pure _

theorem filed_choose (runbooks : RunbookLoader) (incidentId : Nat) (target : UnhealthyPodTarget)
    (evidence : KubernetesEvidence) :
    Exec.Keeps (Filed M before g)
      (choose env settings runbooks incidentId target actor evidence) := by
  apply Exec.keeps_bind (Exec.keeps_ofExcept _)
  intro pod
  apply Exec.keeps_bind (filed_change env settings _ _ _ _)
  intro _
  apply Exec.keeps_bind (Exec.keeps_ofExcept _)
  intro runbook
  apply Exec.keeps_bind
  · apply Exec.keeps_bind (Exec.keeps_require _ _)
    intro _
    exact Exec.keeps_require _ _
  intro _
  apply Exec.keeps_bind (filed_updateIncident _ _)
  intro _
  apply Exec.keeps_bind (filed_insertRunbookExecution _)
  intro runbookExecutionId
  apply Exec.keeps_bind (filed_flush env)
  intro _
  apply Exec.keeps_bind (filed_change env settings _ _ _ _)
  intro _
  exact Exec.keeps_pure _

theorem filed_propose (incidentId : Nat) (target : UnhealthyPodTarget) (pod : PodState)
    {runbook : RunbookDocument} (runbookExecutionId : Nat) (hM : M runbook.action) :
    Exec.Keeps (Filed M before g)
      (propose env settings incidentId target actor pod runbook runbookExecutionId) := by
  apply Exec.keeps_bind (Exec.keeps_ofExcept _)
  intro metadata
  apply Exec.keeps_bind (filed_updateIncident _ _)
  intro _
  apply Exec.keeps_bind (filed_insertProposal hM)
  intro proposalId
  apply Exec.keeps_bind (filed_flush env)
  intro _
  apply Exec.keeps_bind (filed_flush env)
  intro _
  apply Exec.keeps_bind (filed_flush env)
  intro _
  apply Exec.keeps_bind (filed_change env settings _ _ _ _)
  intro _
  exact Exec.keeps_pure _

/-- An evaluation files nothing, and grants if it allows. -/
theorem filed_authorise (p : Proposal) (pod : PodState) :
    Exec.Triple (Filed M before g) (authorise env p pod)
      (fun policy ↦ Filed M before (g ∨ policy.allowed)) (fun _ ↦ Filed M before g) := by
  apply Exec.Triple.bind (Q := fun policy ↦ Filed M before (g ∨ policy.allowed))
  · intro w hw
    rw [run_evaluate]
    have hgrows : ∀ e ∈ w.trace, e ∈ Event.evaluated
        (policyInput p.target pod p.runbook.action p.risk)
        (env.opa w (policyInput p.target pod p.runbook.action p.risk)) :: w.trace :=
      fun e h ↦ List.mem_cons_of_mem _ h
    constructor
    · exact hw.session.mono hgrows rfl
    · exact hw.stored.mono hgrows rfl
    · intro m hm
      exact (hw.mutated m (by simpa using hm)).mono hgrows
    · rintro (hg | hallowed)
      · exact (hw.granted hg).mono hgrows
      · exact ⟨_, _, List.mem_cons_self, hallowed⟩
  intro policy
  apply Exec.Triple.bind (Q := fun _ ↦ Filed M before (g ∨ policy.allowed))
  · apply (filed_insertPolicyDecision _).mono
    · exact fun _ h ↦ h
    · exact fun _ _ h ↦ h
    · exact fun _ _ h ↦ h.weaken .inl
  intro _
  exact Exec.Triple.pure fun _ h ↦ h

theorem filed_settle (p : Proposal) (status : RecordStatus) :
    Exec.Keeps (Filed M before g) (settle p status) := by
  apply Exec.keeps_bind
  · apply filed_updateProposal
    exact fun _ ↦ rfl
  intro _
  exact filed_updateRunbookExecution _ _

theorem filed_hold (p : Proposal) (policy : PolicyResult) :
    Exec.Keeps (Filed M before g) (hold env settings actor p policy) := by
  apply Exec.keeps_bind (filed_change env settings _ _ _ _)
  intro _
  apply Exec.keeps_bind (filed_settle p _)
  intro _
  apply Exec.keeps_bind (Exec.keeps_when fun _ ↦ filed_flush env)
  intro _
  apply Exec.keeps_bind (filed_commit env)
  intro _
  exact Exec.keeps_pure _

/-- The ends of a run file nothing. -/
theorem filed_end {p : Proposal} {target : IncidentState} {status : RecordStatus}
    {outcome : PipelineOutcome} :
    Exec.Keeps (Filed M before g) (do
      settle p status
      changeIncidentState env settings p.incidentId target actor
      flush env
      commit env
      return outcome) := by
  apply Exec.keeps_bind (filed_settle p _)
  intro _
  apply Exec.keeps_bind (filed_change env settings _ _ _ _)
  intro _
  apply Exec.keeps_bind (filed_flush env)
  intro _
  apply Exec.keeps_bind (filed_commit env)
  intro _
  exact Exec.keeps_pure _

theorem filed_act (p : Proposal) (executionId : Nat) (current : Option PodState) (hg : g) :
    Exec.Keeps (Filed M before g) (act env settings p executionId current) := by
  cases current with
  | none =>
    apply filed_updateExecution
    exact fun _ ↦ rfl
  | some pod =>
    apply Exec.keeps_bind
    · exact filed_of_emits
        (frames_deletePod (fun _ _ ↦ rfl) (fun _ _ ↦ rfl) (fun _ _ ↦ rfl) env settings _ _)
        (emits_deletePod env settings _ _) fun _ _ ↦ hg
    intro _
    apply Exec.keeps_bind
    · apply filed_updateExecution
      exact fun _ ↦ rfl
    intro _
    exact filed_flush env

theorem filed_attemptOnce (p : Proposal) (attempt : Nat) (h : 1 ≤ attempt ∧ attempt ≤ 3)
    (current : Option PodState) (hg : g) :
    Exec.Keeps (Filed M before g)
      (attemptOnce env settings actor p attempt h current) := by
  apply Exec.keeps_bind (filed_updateIncident _ _)
  intro _
  apply Exec.keeps_bind (filed_insertExecution env hg rfl)
  intro executionId
  apply Exec.keeps_bind (filed_act p executionId current hg)
  intro _
  apply Exec.keeps_bind (filed_change env settings _ _ _ _)
  intro _
  apply Exec.keeps_bind (filed_commit env)
  intro _
  apply Exec.keeps_bind
  · exact filed_of_frames (frames_verifyUntil (fun _ _ ↦ rfl) env _)
      (frames_verifyUntil (fun _ _ ↦ rfl) env _)
  intro verification
  apply Exec.keeps_bind (filed_record (by simp))
  intro _
  apply Exec.keeps_bind (filed_flush env)
  intro _
  exact Exec.keeps_pure _

theorem filed_reconsider (p : Proposal) :
    Exec.Keeps (Filed M before g) (reconsider env settings actor p) := by
  apply Exec.keeps_bind (filed_change env settings _ _ _ _)
  intro _
  apply Exec.keeps_bind (filed_collect p.target)
  intro evidence
  apply Exec.keeps_bind
  · cases retryPod evidence with
    | none => exact Exec.keeps_pure _
    | some pod =>
      apply Exec.Triple.bind (filed_authorise p pod)
      intro policy
      apply Exec.Triple.require
      · exact fun _ _ h ↦ h.weaken .inl
      · exact fun _ _ h ↦ h.weaken .inl
  intro _
  apply Exec.keeps_bind (filed_commit env)
  intro _
  exact Exec.keeps_pure _

theorem filed_attempts (p : Proposal) (policy : PolicyResult) (left : Nat)
    (h : left < settings.maxRemediationAttempts) (current : Option PodState) (hg : g) :
    Exec.Keeps (Filed M before g)
      (attempts env settings actor p policy left h current) := by
  induction left generalizing current with
  | zero =>
    apply Exec.keeps_bind (filed_attemptOnce p _ _ current hg)
    intro verification
    exact Exec.keeps_ite (fun _ ↦ filed_end) fun _ ↦ filed_end
  | succ left ih =>
    apply Exec.keeps_bind (filed_attemptOnce p _ _ current hg)
    intro verification
    apply Exec.keeps_ite
    · exact fun _ ↦ filed_end
    · intro _
      apply Exec.keeps_bind (filed_reconsider p)
      intro next
      exact ih (Nat.lt_of_succ_lt h) next

theorem filed_execute (p : Proposal) (policy : PolicyResult) (hg : g) :
    Exec.Keeps (Filed M before g) (execute env settings actor p policy) := by
  apply Exec.keeps_bind
  · apply filed_updateProposal
    exact fun _ ↦ rfl
  intro _
  apply Exec.keeps_bind (filed_change env settings _ _ _ _)
  intro _
  apply Exec.keeps_bind (filed_commit env)
  intro _
  exact filed_attempts p policy _ _ _ hg

theorem filed_escalate (incidentId : Nat) (e : Exc) :
    Exec.Keeps (Filed M before g) (escalate env settings incidentId actor e) := by
  have hload : Exec.Keeps (Filed M before g) (loadIncident incidentId) :=
    filed_of_frames (frames_loadIncident _) (frames_loadIncident _)
  apply Exec.keeps_ite
  · intro _
    apply Exec.keeps_bind filed_rollback
    intro _
    apply Exec.keeps_bind (filed_flush env)
    intro _
    apply Exec.keeps_bind hload
    intro incident
    apply Exec.keeps_bind
    · apply Exec.keeps_when
      intro _
      apply Exec.keeps_bind (filed_change env settings _ _ _ _)
      intro _
      apply Exec.keeps_bind (filed_flush env)
      intro _
      exact filed_commit env
    intro _
    apply Exec.keeps_bind hload
    intro _
    exact Exec.keeps_pure _
  · exact fun _ ↦ Exec.keeps_throw _

end Stages

/-- The actions a matched runbook names. -/
def ofMatched (runbooks : RunbookLoader) (environment : Environment) (a : ActionType) : Prop :=
  ∃ r, runbooks.matching "reliability" ["pod_unhealthy"] environment = .ok r ∧ a = r.action

/-- Every run files proposals only for the chosen runbook, and deletions only after an
evaluation that allowed. -/
theorem filed_run (env : Env) (settings : Settings) (runbooks : RunbookLoader)
    (target : UnhealthyPodTarget) (correlationId actor : String) (db : Database) :
    Filed (ofMatched runbooks target.environment) (actsOf db) False
      ((run env settings runbooks target correlationId actor).run (start db)).2 := by
  have hcreate : Exec.Frames filings
      (createIncident env (incidentRow target correlationId) actor) :=
    frames_createIncident (fun _ _ ↦ rfl) env _ actor (fun _ ↦ rfl) fun _ _ ↦ rfl
  have hprocess (incidentId : Nat) :
      Exec.Keeps (Filed (ofMatched runbooks target.environment) (actsOf db) False)
        (process env settings runbooks incidentId target actor) := by
    apply Exec.keeps_bind (filed_gather incidentId target)
    intro evidence
    apply Exec.keeps_bind_of (filed_choose runbooks incidentId target evidence)
      (yields_choose env settings runbooks incidentId target actor evidence).of_ok
    rintro ⟨pod, runbook, runbookExecutionId⟩ hmatch
    apply Exec.keeps_bind
      (filed_propose incidentId target pod runbookExecutionId ⟨runbook, hmatch, rfl⟩)
    intro p
    apply Exec.Triple.bind (filed_authorise p pod)
    intro policy
    have hrest : Exec.Keeps
        (Filed (ofMatched runbooks target.environment) (actsOf db) (False ∨ policy.allowed))
        (flush env >>= fun _ ↦ if ¬ policy.allowed then hold env settings actor p policy
          else execute env settings actor p policy) := by
      apply Exec.keeps_bind (filed_flush env)
      intro _
      apply Exec.keeps_ite
      · exact fun _ ↦ filed_hold p policy
      · intro hallowed
        exact filed_execute p policy (.inr (by simpa using hallowed))
    apply hrest.mono
    · exact fun _ h ↦ h
    · exact fun _ _ h ↦ h.weaken .inl
    · exact fun _ _ h ↦ h.weaken .inl
  have hrun : Exec.Keeps (Filed (ofMatched runbooks target.environment) (actsOf db) False)
      (run env settings runbooks target correlationId actor) := by
    apply Exec.keeps_bind
    · exact filed_of_frames hcreate (frames_trace_createIncident env _ _)
    intro incidentId
    apply Exec.keeps_bind (filed_commit env)
    intro _
    exact Exec.keeps_tryCatch (hprocess incidentId) fun e ↦ filed_escalate incidentId e
  have hnone : FiledIn (ofMatched runbooks target.environment) (actsOf db) [] db := by
    refine ⟨[], [], ?_, by simp, by simp⟩
    rw [List.append_nil, List.append_nil]
  exact hrun.state ⟨hnone, hnone, by simp [start], False.elim⟩

end CloudWard.Remediation.Pipeline
