import CloudWard.Reliability.Trace
import CloudWard.Remediation.Safety

/-!
# The evaluated action and the executed action

Two paths execute what a runbook names. `reliability/workflow.py:372` dispatches on the
runbook's action; `remediation/pipeline.py:380` deletes a pod and files a
DELETE_UNHEALTHY_POD execution whatever the runbook it matched names. So the first never
executes anything but what was evaluated, and the second does so exactly where the matched
runbook names the deletion.
-/

namespace CloudWard.Remediation

open CloudWard.Db CloudWard.Incidents CloudWard.Kubernetes CloudWard.Logic CloudWard.Policies
  CloudWard.Risk CloudWard.Runbooks CloudWard.Verification Service

/-- The action that a mutation of these workflows executes. -/
def actionOf : Mutation → Option ActionType
  | .deletePod _ _ => some .deleteUnhealthyPod
  | .patchScale _ _ _ => some .scaleStagingDeployment
  | .pushImageTag _ => some .revertImage
  | _ => none

/-- A run that began with the rows `before` and ended in `w` executed what was evaluated. -/
structure Dispatched (before : Database) (w : World) : Prop where
  /-- Every mutation is of the kind of an action that the policy allowed. -/
  mutations : ∀ m, .mutated m ∈ w.trace → ∃ input policy,
    .evaluated input policy ∈ w.trace ∧ policy.allowed ∧ actionOf m = some input.action
  /-- No evaluated action goes with a mutation of another kind. -/
  others : ∀ input policy m, .evaluated input policy ∈ w.trace → .mutated m ∈ w.trace →
    actionOf m = some input.action
  /-- A filed execution has an action that the policy allowed. -/
  executions : ∀ e ∈ w.db.executions.drop before.executions.length, ∃ input policy,
    .evaluated input policy ∈ w.trace ∧ policy.allowed ∧ e.actionType = input.action
  /-- A filed proposal has the action that was evaluated. -/
  proposals : ∀ q ∈ w.db.proposals.drop before.proposals.length, ∀ input policy,
    .evaluated input policy ∈ w.trace → q.actionType = input.action

/-- A row after the old ones has one of the values that were added. -/
theorem mem_added {α β : Type} {t before : List α} {g : α → β} {new : List β}
    (ht : t.map g = before.map g ++ new) {row : α} (hrow : row ∈ t.drop before.length) :
    g row ∈ new := by
  have hdrop : (t.drop before.length).map g = new := by
    rw [List.map_drop, ht, ← List.length_map (f := g), List.drop_left]
  rw [← hdrop]
  exact List.mem_map_of_mem hrow

/-- Where no value was added, no row was. -/
theorem not_mem_added {α β : Type} {t before : List α} {g : α → β}
    (ht : t.map g = before.map g) {row : α} : row ∉ t.drop before.length := by
  have hlength : t.length = before.length := by
    rw [← List.length_map g, ht, List.length_map]
  rw [List.drop_of_length_le (by omega)]
  exact List.not_mem_nil

end CloudWard.Remediation

namespace CloudWard.Reliability

open CloudWard.Db CloudWard.Kubernetes CloudWard.Logic CloudWard.Policies CloudWard.Remediation
  CloudWard.Runbooks Service

/-- What an execution performs is of the kind its proposal's action names. -/
theorem actionOf_performed {settings : Settings} {p : Proposal} {m : Mutation}
    (h : Performed settings p (.mutated m)) : actionOf m = some p.runbook.action := by
  cases m with
  | deletePod ns name => exact congrArg some h.1.action.symm
  | patchScale ns name replicas => exact congrArg some h.1.symm
  | pushImageTag tag => exact congrArg some h.1.symm
  | _ => exact h.elim

/-- Every run of the processor executes what was evaluated. -/
theorem process_dispatched (env : Env) (settings : Settings) (runbooks : RunbookLoader)
    (incidentId : Nat) (alert : NormalizedAlert) (db : Database) :
    Dispatched db ((process env settings runbooks incidentId alert).run (start db)).2 := by
  have hleft := process_left env settings runbooks incidentId alert (start db)
  rcases hleft with ⟨htrace, hexecutions⟩ |
    ⟨p, input, policy, added, hproposed, htrace, hall, hproposals, hexecutions⟩
  · -- nothing was evaluated, so nothing was executed or filed
    constructor
    · intro m hm
      rw [htrace] at hm
      cases hm
    · intro input policy m he
      rw [htrace] at he
      cases he
    · intro e he
      exact (not_mem_added hexecutions he).elim
    · intro q hq input policy he
      rw [htrace] at he
      cases he
  obtain ⟨environment, hinput⟩ := hproposed.evaluated
  have haction : input.action = p.runbook.action := (target_policyInput hinput).2.1
  have hmem : .evaluated input policy ∈
      ((process env settings runbooks incidentId alert).run (start db)).2.trace := by
    rw [htrace]
    exact List.mem_append_right _ List.mem_cons_self
  have honly {input' : PolicyInput} {policy' : PolicyResult}
      (h : .evaluated input' policy' ∈
        ((process env settings runbooks incidentId alert).run (start db)).2.trace) :
      input'.action = p.runbook.action := by
    rw [htrace] at h
    rcases List.mem_append.mp h with h | h
    · exact (hall _ h).2.elim
    · simp only [start, List.mem_singleton, Event.evaluated.injEq] at h
      rw [h.1, haction]
  have hmutated {m : Mutation}
      (h : .mutated m ∈ ((process env settings runbooks incidentId alert).run
        (start db)).2.trace) : policy.allowed ∧ actionOf m = some p.runbook.action := by
    rw [htrace] at h
    rcases List.mem_append.mp h with h | h
    · exact ⟨(hall _ h).1, actionOf_performed (hall _ h).2⟩
    · simp [start] at h
  constructor
  · intro m hm
    exact ⟨input, policy, hmem, (hmutated hm).1, haction ▸ (hmutated hm).2⟩
  · intro input' policy' m he hm
    rw [honly he]
    exact (hmutated hm).2
  · intro e he
    rcases hexecutions with h | ⟨hallowed, h⟩
    · exact (not_mem_added h he).elim
    · have := mem_added (g := ActionExecution.actionType) h he
      exact ⟨input, policy, hmem, hallowed, haction ▸ List.mem_singleton.mp this⟩
  · intro q hq input' policy' he
    have := mem_added (g := ActionProposal.actionType) hproposals hq
    rw [honly he]
    exact List.mem_singleton.mp this

end CloudWard.Reliability

namespace CloudWard.Remediation.Pipeline

open CloudWard.Db CloudWard.Incidents CloudWard.Kubernetes CloudWard.Logic CloudWard.Policies
  CloudWard.Risk CloudWard.Runbooks CloudWard.Verification Service

/-! ### What a pipeline run evaluates and requests -/

/-- The runbook a run matches, where its action is executable. -/
def Chosen (runbooks : RunbookLoader) (environment : Environment) (r : RunbookDocument) : Prop :=
  runbooks.matching "reliability" ["pod_unhealthy"] environment = .ok r ∧
    ∃ metadata, requireExecutableAction r.action environment = .ok metadata

/-- An event of a run: evaluations are of the chosen runbook's action, and the only
mutations are deletions that were called for. -/
def Traced (runbooks : RunbookLoader) (environment : Environment) : Event → Prop
  | .evaluated input _ => ∃ r, Chosen runbooks environment r ∧ input.action = r.action
  | .mutated m => ∃ ns name, m = .deletePod ns name
  | _ => True

section Traces

variable {env : Env} {settings : Settings} {runbooks : RunbookLoader} {environment : Environment}
variable {actor : String}

theorem traced_commit : Exec.Emits World.trace (Traced runbooks environment) (commit env) := by
  apply Exec.emits_bind (frames_flush env fun _ _ ↦ rfl).emits
  intro _ w
  refine ⟨[.committed], rfl, ?_⟩
  simp [Traced]

theorem traced_collect (target : UnhealthyPodTarget) :
    Exec.Emits World.trace (Traced runbooks environment) (collectKubernetesState env target) := by
  apply Exec.emits_bind (frames_getDeployment (fun _ _ ↦ rfl) env _ _).emits
  intro deployment
  apply Exec.emits_bind (frames_getPods (fun _ _ ↦ rfl) env _ _).emits
  intro pods
  apply Exec.emits_bind
  · intro w
    exact ⟨[.evidenceCollected], rfl, by simp [Traced]⟩
  intro _
  exact (Exec.frames_pure _).emits

theorem traced_gather (incidentId : Nat) (target : UnhealthyPodTarget) :
    Exec.Emits World.trace (Traced runbooks environment)
      (gather env settings incidentId target actor) := by
  apply Exec.emits_bind (frames_trace_changeIncidentState env settings _ _ _ _).emits
  intro _
  apply Exec.emits_bind (traced_collect target)
  intro evidence
  apply Exec.emits_bind (frames_getServiceHealth (fun _ _ ↦ rfl) env _ _ _).emits
  intro _
  apply Exec.emits_bind (frames_flush env fun _ _ ↦ rfl).emits
  intro _
  apply Exec.emits_bind traced_commit
  intro _
  exact (Exec.frames_pure _).emits

theorem traced_authorise {p : Proposal} (hp : Chosen runbooks environment p.runbook)
    (pod : PodState) :
    Exec.Emits World.trace (Traced runbooks environment) (authorise env p pod) := by
  apply Exec.emits_bind
  · intro w
    refine ⟨[.evaluated (policyInput p.target pod p.runbook.action p.risk) _], rfl, ?_⟩
    intro e he
    rw [List.mem_singleton.mp he]
    exact ⟨p.runbook, hp, rfl⟩
  intro policy
  apply Exec.emits_bind (frames_write _ fun _ _ ↦ rfl).emits
  intro _
  exact (Exec.frames_pure _).emits

theorem traced_act (p : Proposal) (executionId : Nat) (current : Option PodState) :
    Exec.Emits World.trace (Traced runbooks environment)
      (act env settings p executionId current) := by
  cases current with
  | none => exact (frames_write _ fun _ _ ↦ rfl).emits
  | some pod =>
    apply Exec.emits_bind
    · apply (emits_deletePod env settings p.target.ns pod.name).mono
      rintro e (rfl | ⟨rfl, -⟩)
      · trivial
      · exact ⟨_, _, rfl⟩
    intro _
    apply Exec.emits_bind (frames_write _ fun _ _ ↦ rfl).emits
    intro _
    exact (frames_flush env fun _ _ ↦ rfl).emits

theorem traced_attemptOnce (p : Proposal) (attempt : Nat) (h : 1 ≤ attempt ∧ attempt ≤ 3)
    (current : Option PodState) :
    Exec.Emits World.trace (Traced runbooks environment)
      (attemptOnce env settings actor p attempt h current) := by
  apply Exec.emits_bind (frames_write _ fun _ _ ↦ rfl).emits
  intro _
  apply Exec.emits_bind (frames_insertExecution (fun _ _ ↦ rfl) (fun _ _ ↦ rfl) env _).emits
  intro executionId
  apply Exec.emits_bind (traced_act p executionId current)
  intro _
  apply Exec.emits_bind (frames_trace_changeIncidentState env settings _ _ _ _).emits
  intro _
  apply Exec.emits_bind traced_commit
  intro _
  apply Exec.emits_bind (frames_verifyUntil (fun _ _ ↦ rfl) env _).emits
  intro verification
  apply Exec.emits_bind
  · intro w
    exact ⟨[.verified verification.success], rfl, by simp [Traced]⟩
  intro _
  apply Exec.emits_bind (frames_flush env fun _ _ ↦ rfl).emits
  intro _
  exact (Exec.frames_pure _).emits

/-- The ends of a run, which commit and request nothing. -/
theorem traced_end {p : Proposal} {target : IncidentState} {status : RecordStatus}
    {outcome : PipelineOutcome} :
    Exec.Emits World.trace (Traced runbooks environment) (do
      settle p status
      changeIncidentState env settings p.incidentId target actor
      flush env
      commit env
      return outcome) := by
  apply Exec.emits_bind (frames_trace_settle p _).emits
  intro _
  apply Exec.emits_bind (frames_trace_changeIncidentState env settings _ _ _ _).emits
  intro _
  apply Exec.emits_bind (frames_flush env fun _ _ ↦ rfl).emits
  intro _
  apply Exec.emits_bind traced_commit
  intro _
  exact (Exec.frames_pure _).emits

theorem traced_reconsider {p : Proposal} (hp : Chosen runbooks environment p.runbook) :
    Exec.Emits World.trace (Traced runbooks environment) (reconsider env settings actor p) := by
  apply Exec.emits_bind (frames_trace_changeIncidentState env settings _ _ _ _).emits
  intro _
  apply Exec.emits_bind (traced_collect p.target)
  intro evidence
  apply Exec.emits_bind
  · cases retryPod evidence with
    | none => exact (Exec.frames_pure _).emits
    | some pod =>
      apply Exec.emits_bind (traced_authorise hp pod)
      intro policy
      exact (Exec.frames_require _ _).emits
  intro _
  apply Exec.emits_bind traced_commit
  intro _
  exact (Exec.frames_pure _).emits

theorem traced_attempts {p : Proposal} (hp : Chosen runbooks environment p.runbook)
    (policy : PolicyResult) (left : Nat) (h : left < settings.maxRemediationAttempts)
    (current : Option PodState) :
    Exec.Emits World.trace (Traced runbooks environment)
      (attempts env settings actor p policy left h current) := by
  induction left generalizing current with
  | zero =>
    apply Exec.emits_bind (traced_attemptOnce p _ _ current)
    intro verification
    exact Exec.emits_ite (fun _ ↦ traced_end) fun _ ↦ traced_end
  | succ left ih =>
    apply Exec.emits_bind (traced_attemptOnce p _ _ current)
    intro verification
    apply Exec.emits_ite
    · exact fun _ ↦ traced_end
    · intro _
      apply Exec.emits_bind (traced_reconsider hp)
      intro next
      exact ih (Nat.lt_of_succ_lt h) next

theorem traced_execute {p : Proposal} (hp : Chosen runbooks environment p.runbook)
    (policy : PolicyResult) :
    Exec.Emits World.trace (Traced runbooks environment)
      (execute env settings actor p policy) := by
  apply Exec.emits_bind (frames_write _ fun _ _ ↦ rfl).emits
  intro _
  apply Exec.emits_bind (frames_trace_changeIncidentState env settings _ _ _ _).emits
  intro _
  apply Exec.emits_bind traced_commit
  intro _
  exact traced_attempts hp policy _ _ _

theorem traced_hold (p : Proposal) (policy : PolicyResult) :
    Exec.Emits World.trace (Traced runbooks environment)
      (hold env settings actor p policy) := by
  apply Exec.emits_bind (frames_trace_changeIncidentState env settings _ _ _ _).emits
  intro _
  apply Exec.emits_bind (frames_trace_settle p _).emits
  intro _
  apply Exec.emits_bind (Exec.frames_when fun _ ↦ frames_flush env fun _ _ ↦ rfl).emits
  intro _
  apply Exec.emits_bind traced_commit
  intro _
  exact (Exec.frames_pure _).emits

theorem traced_escalate (incidentId : Nat) (e : Exc) :
    Exec.Emits World.trace (Traced runbooks environment)
      (escalate env settings incidentId actor e) := by
  apply Exec.emits_ite
  · intro _
    have hrollback : Exec.Frames World.trace rollback := fun _ ↦ rfl
    apply Exec.emits_bind hrollback.emits
    intro _
    apply Exec.emits_bind (frames_flush env fun _ _ ↦ rfl).emits
    intro _
    apply Exec.emits_bind (frames_loadIncident _).emits
    intro incident
    apply Exec.emits_bind
    · apply Exec.emits_when
      intro _
      apply Exec.emits_bind (frames_trace_changeIncidentState env settings _ _ _ _).emits
      intro _
      apply Exec.emits_bind (frames_flush env fun _ _ ↦ rfl).emits
      intro _
      exact traced_commit
    intro _
    apply Exec.emits_bind (frames_loadIncident _).emits
    intro _
    exact (Exec.frames_pure _).emits
  · intro _
    exact (Exec.frames_throw _).emits

end Traces

/-- The runbook of a choice is the matched one. -/
theorem yields_choose (env : Env) (settings : Settings) (runbooks : RunbookLoader)
    (incidentId : Nat) (target : UnhealthyPodTarget) (actor : String)
    (evidence : KubernetesEvidence) :
    Exec.Yields (fun chosen ↦ runbooks.matching "reliability" ["pod_unhealthy"]
        target.environment = .ok chosen.2.1)
      (choose env settings runbooks incidentId target actor evidence) := by
  apply Exec.yields_bind
  intro pod
  apply Exec.yields_bind
  intro _
  apply Exec.yields_bind_of (Exec.yields_ofExcept _)
  intro runbook hmatch
  apply Exec.yields_bind
  intro _
  apply Exec.yields_bind
  intro _
  apply Exec.yields_bind
  intro runbookExecutionId
  apply Exec.yields_bind
  intro _
  apply Exec.yields_bind
  intro _
  exact Exec.yields_pure hmatch

/-- The action of a proposal is executable. -/
theorem yields_propose_executable (env : Env) (settings : Settings) (incidentId : Nat)
    (target : UnhealthyPodTarget) (actor : String) (pod : PodState) (runbook : RunbookDocument)
    (runbookExecutionId : Nat) :
    Exec.Yields (fun p ↦ p.runbook = runbook ∧ p.pod = pod ∧ ∃ metadata,
        requireExecutableAction runbook.action target.environment = .ok metadata)
      (propose env settings incidentId target actor pod runbook runbookExecutionId) := by
  apply Exec.yields_bind_of (Exec.yields_ofExcept _)
  intro metadata hmetadata
  apply Exec.yields_bind
  intro _
  apply Exec.yields_bind
  intro proposalId
  apply Exec.yields_bind
  intro _
  apply Exec.yields_bind
  intro _
  apply Exec.yields_bind
  intro _
  apply Exec.yields_bind
  intro _
  exact Exec.yields_pure ⟨rfl, rfl, metadata, hmetadata⟩

/-- Every run evaluates only the chosen runbook's action, and mutates only by deletions. -/
theorem traced_run (env : Env) (settings : Settings) (runbooks : RunbookLoader)
    (target : UnhealthyPodTarget) (correlationId actor : String) :
    Exec.Emits World.trace (Traced runbooks target.environment)
      (run env settings runbooks target correlationId actor) := by
  apply Exec.emits_bind (frames_trace_createIncident env _ _).emits
  intro incidentId
  apply Exec.emits_bind traced_commit
  intro _
  apply Exec.emits_tryCatch _ fun e ↦ traced_escalate incidentId e
  apply Exec.emits_bind (traced_gather incidentId target)
  intro evidence
  apply Exec.emits_bind_of (frames_trace_choose env settings actor _ _ _ _).emits
    (yields_choose env settings runbooks incidentId target actor evidence)
  rintro ⟨pod, runbook, runbookExecutionId⟩ hmatch
  apply Exec.emits_bind_of (frames_trace_propose env settings actor _ _ _ _ _).emits
    (yields_propose_executable env settings incidentId target actor pod runbook
      runbookExecutionId)
  rintro p ⟨rfl, rfl, hexecutable⟩
  have hp : Chosen runbooks target.environment p.runbook := ⟨hmatch, hexecutable⟩
  apply Exec.emits_bind (traced_authorise hp p.pod)
  intro policy
  apply Exec.emits_bind (frames_flush env fun _ _ ↦ rfl).emits
  intro _
  apply Exec.emits_ite
  · exact fun _ ↦ traced_hold p policy
  · exact fun _ ↦ traced_execute hp policy

end CloudWard.Remediation.Pipeline
