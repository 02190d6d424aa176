import CloudWard.Kubernetes.Requests
import CloudWard.Logic.Monitor
import CloudWard.Remediation.Pipeline

/-!
# Safety of the unhealthy-pod pipeline

Every deletion a run of `UnhealthyPodPipeline.run` calls for was allowed for exactly that
pod since the evidence was last collected, there are at most as many as the settings
allow, and the run ends resolved only by a successful verification. The first two hold
whatever the environment does; `settings.max_remediation_attempts` bounds the loop, and
each way into an attempt passes an evaluation.
-/

namespace CloudWard.Remediation.Pipeline

open CloudWard.Db CloudWard.Incidents CloudWard.Kubernetes CloudWard.Logic CloudWard.Logic.Monitor
  CloudWard.Policies CloudWard.Runbooks CloudWard.Verification Service

/-! ### The monitor -/

/-- A call that deletes a pod. -/
def isDeletion : Event → Bool
  | .deletePodCalled _ _ => true
  | _ => false

/-- An evaluation that allowed its input, for the pod of a deletion. -/
def Allows : Event → Event → Prop
  | .deletePodCalled ns name, .evaluated input policy =>
      policy.allowed ∧ input.target.ns = ns ∧ input.target.podName = name
  | _, _ => False

/-- The pod may be deleted now. -/
def MayDelete (ns name : String) (t : List Event) : Prop :=
  Covered (· = .evidenceCollected) (Allows (.deletePodCalled ns name)) t

/-- Every deletion so far was allowed when it was called, and there were at most `n`. -/
structure Safe (n : Nat) (t : List Event) : Prop where
  guarded : Guarded (· = .evidenceCollected) (isDeletion ·) Allows t
  count : t.countP isDeletion ≤ n

/-- An event that neither deletes nor voids an evaluation. -/
def Mute (e : Event) : Prop := ¬ isDeletion e ∧ e ≠ .evidenceCollected

theorem Safe.mono {n m : Nat} {t : List Event} (h : Safe n t) (hnm : n ≤ m) : Safe m t :=
  ⟨h.guarded, h.count.trans hnm⟩

theorem safe_append {n : Nat} {added t : List Event} (h : Safe n t)
    (hadded : ∀ e ∈ added, ¬ isDeletion e) : Safe n (added ++ t) := by
  constructor
  · exact guarded_append h.guarded hadded
  · have hzero : added.countP isDeletion = 0 := by
      simpa [List.countP_eq_zero] using hadded
    rw [List.countP_append, hzero, Nat.zero_add]
    exact h.count

theorem safe_cons {n : Nat} {e : Event} {t : List Event} (h : Safe n t)
    (he : ¬ isDeletion e) : Safe n (e :: t) := by
  rw [← List.singleton_append]
  apply safe_append h
  simpa using he

/-- A deletion that may be made keeps the trace safe, and counts. -/
theorem safe_cons_deletion {n : Nat} {t : List Event} {ns name : String} (h : Safe n t)
    (hmay : MayDelete ns name t) : Safe (n + 1) (.deletePodCalled ns name :: t) := by
  constructor
  · exact ⟨fun _ ↦ hmay, h.guarded⟩
  · have hcount := h.count
    rw [List.countP_cons_of_pos rfl]
    omega

theorem mayDelete_append {ns name : String} {added t : List Event} (h : MayDelete ns name t)
    (hadded : ∀ e ∈ added, Mute e) : MayDelete ns name (added ++ t) :=
  covered_append h fun e he ↦ (hadded e he).2

/-! ### Programs under the monitor -/

/-- The pod of the next attempt, if there is one, may be deleted. -/
def Ready (p : Proposal) (current : Option PodState) (t : List Event) : Prop :=
  ∀ pod, current = some pod → MayDelete p.target.ns pod.name t

section Rules

variable {α : Type} {x : Service α} {n m : Nat} {p : Proposal} {current : Option PodState}

/-- A program that deletes nothing keeps the trace safe. -/
theorem safe_of_emits (hx : Exec.Emits World.trace (fun e ↦ ¬ isDeletion e) x) (hnm : n ≤ m) :
    Exec.Triple (fun w ↦ Safe n w.trace) x (fun _ w ↦ Safe n w.trace)
      (fun _ w ↦ Safe m w.trace) := by
  have hkeep : Exec.Keeps (fun w ↦ Safe n w.trace) x := by
    apply Exec.keeps_of_state
    intro w hw
    obtain ⟨added, heq, hall⟩ := hx w
    rw [heq]
    exact safe_append hw hall
  apply hkeep.mono
  · exact fun _ h ↦ h
  · exact fun _ _ h ↦ h
  · exact fun _ _ h ↦ h.mono hnm

/-- A mute program also keeps the next attempt ready. -/
theorem ready_of_emits (hx : Exec.Emits World.trace Mute x) (hnm : n ≤ m) :
    Exec.Triple (fun w ↦ Safe n w.trace ∧ Ready p current w.trace) x
      (fun _ w ↦ Safe n w.trace ∧ Ready p current w.trace) (fun _ w ↦ Safe m w.trace) := by
  have hkeep : Exec.Keeps (fun w ↦ Safe n w.trace ∧ Ready p current w.trace) x := by
    apply Exec.keeps_of_state
    rintro w ⟨hsafe, hready⟩
    obtain ⟨added, heq, hall⟩ := hx w
    rw [heq]
    constructor
    · exact safe_append hsafe fun e he ↦ (hall e he).1
    · exact fun pod hpod ↦ mayDelete_append (hready pod hpod) hall
  apply hkeep.mono
  · exact fun _ h ↦ h
  · exact fun _ _ h ↦ h
  · exact fun _ _ h ↦ h.1.mono hnm

theorem emits_commit (env : Env) : Exec.Emits World.trace Mute (commit env) := by
  apply Exec.emits_bind (frames_flush env fun _ _ ↦ rfl).emits
  intro _ w
  refine ⟨[.committed], rfl, ?_⟩
  simp [Mute, isDeletion]

end Rules

theorem frames_collect {ω : Type} {f : World → ω} (htick : ∀ w n, f { w with tick := n } = f w)
    (htrace : ∀ w t, f { w with trace := t } = f w) (env : Env) (target : UnhealthyPodTarget) :
    Exec.Frames f (collectKubernetesState env target) := by
  apply Exec.frames_bind (frames_getDeployment htick env _ _)
  intro deployment
  apply Exec.frames_bind (frames_getPods htick env _ _)
  intro pods
  exact Exec.frames_bind (Exec.frames_update fun w ↦ htrace w _) fun _ ↦ Exec.frames_pure _

/-! ### The stages under the monitor -/

section Stages

variable (env : Env) (settings : Settings) (actor : String)

theorem emits_collect (target : UnhealthyPodTarget) :
    Exec.Emits World.trace (fun e ↦ ¬ isDeletion e) (collectKubernetesState env target) := by
  apply Exec.emits_bind (frames_getDeployment (fun _ _ ↦ rfl) env _ _).emits
  intro deployment
  apply Exec.emits_bind (frames_getPods (fun _ _ ↦ rfl) env _ _).emits
  intro pods
  apply Exec.emits_bind
  · intro w
    exact ⟨[.evidenceCollected], rfl, by simp [isDeletion]⟩
  intro _
  exact (Exec.frames_pure _).emits

theorem emits_gather (incidentId : Nat) (target : UnhealthyPodTarget) :
    Exec.Emits World.trace (fun e ↦ ¬ isDeletion e)
      (gather env settings incidentId target actor) := by
  apply Exec.emits_bind (frames_trace_changeIncidentState env settings _ _ _ _).emits
  intro _
  apply Exec.emits_bind (emits_collect env target)
  intro evidence
  apply Exec.emits_bind (frames_getServiceHealth (fun _ _ ↦ rfl) env _ _ _).emits
  intro _
  apply Exec.emits_bind (frames_flush env fun _ _ ↦ rfl).emits
  intro _
  apply Exec.emits_bind ((emits_commit env).mono fun e he ↦ he.1)
  intro _
  exact (Exec.frames_pure _).emits

theorem frames_trace_choose (runbooks : RunbookLoader) (incidentId : Nat)
    (target : UnhealthyPodTarget) (evidence : KubernetesEvidence) :
    Exec.Frames World.trace
      (choose env settings runbooks incidentId target actor evidence) := by
  apply Exec.frames_bind (Exec.frames_ofExcept _)
  intro pod
  apply Exec.frames_bind (frames_trace_changeIncidentState env settings _ _ _ _)
  intro _
  apply Exec.frames_bind (Exec.frames_ofExcept _)
  intro runbook
  apply Exec.frames_bind
  · exact Exec.frames_bind (Exec.frames_require _ _) fun _ ↦ Exec.frames_require _ _
  intro _
  apply Exec.frames_bind (frames_write _ fun _ _ ↦ rfl)
  intro _
  apply Exec.frames_bind (fun _ ↦ rfl)
  intro runbookExecutionId
  apply Exec.frames_bind (frames_flush env fun _ _ ↦ rfl)
  intro _
  apply Exec.frames_bind (frames_trace_changeIncidentState env settings _ _ _ _)
  intro _
  exact Exec.frames_pure _

theorem frames_trace_propose (incidentId : Nat) (target : UnhealthyPodTarget) (pod : PodState)
    (runbook : RunbookDocument) (runbookExecutionId : Nat) :
    Exec.Frames World.trace
      (propose env settings incidentId target actor pod runbook runbookExecutionId) := by
  have hflush : Exec.Frames World.trace (flush env) := frames_flush env fun _ _ ↦ rfl
  apply Exec.frames_bind (Exec.frames_ofExcept _)
  intro metadata
  apply Exec.frames_bind (frames_write _ fun _ _ ↦ rfl)
  intro _
  apply Exec.frames_bind (fun _ ↦ rfl)
  intro proposalId
  apply Exec.frames_bind hflush
  intro _
  apply Exec.frames_bind hflush
  intro _
  apply Exec.frames_bind hflush
  intro _
  apply Exec.frames_bind (frames_trace_changeIncidentState env settings _ _ _ _)
  intro _
  exact Exec.frames_pure _

/-- A proposal is about the pod, the runbook and the target it was made from. -/
theorem yields_propose (incidentId : Nat) (target : UnhealthyPodTarget) (pod : PodState)
    (runbook : RunbookDocument) (runbookExecutionId : Nat) :
    Exec.Yields (fun p : Proposal ↦ p.incidentId = incidentId ∧ p.target = target ∧
        p.pod = pod ∧ p.runbook = runbook ∧ p.runbookExecutionId = runbookExecutionId)
      (propose env settings incidentId target actor pod runbook runbookExecutionId) := by
  apply Exec.yields_bind
  intro metadata
  apply Exec.yields_bind
  intro _
  apply Exec.yields_bind
  intro proposalId
  apply Exec.yields_bind
  intro _
  apply Exec.yields_bind
  intro _
  apply Exec.yields_bind
  intro _
  apply Exec.yields_bind
  intro _
  exact Exec.yields_pure ⟨rfl, rfl, rfl, rfl, rfl⟩

/-- After an evaluation that allowed, its pod may be deleted. -/
theorem safe_authorise (p : Proposal) (pod : PodState) (n m : Nat) :
    Exec.Triple (fun w ↦ Safe n w.trace) (authorise env p pod)
      (fun policy w ↦ Safe n w.trace ∧ (policy.allowed → Ready p (some pod) w.trace))
      (fun _ w ↦ Safe m w.trace) := by
  apply Exec.Triple.bind (Q := fun policy w ↦ Safe n w.trace ∧
    (policy.allowed → Ready p (some pod) w.trace))
  · intro w hw
    rw [run_evaluate]
    constructor
    · exact safe_cons hw Bool.false_ne_true
    · intro hallowed pod' hpod
      cases hpod
      exact .inl ⟨hallowed, rfl, rfl⟩
  intro policy
  apply Exec.Triple.bind (Q := fun _ w ↦ Safe n w.trace ∧
    (policy.allowed → Ready p (some pod) w.trace))
  · exact Exec.Triple.update fun _ h ↦ h
  intro _
  exact Exec.Triple.pure fun _ h ↦ h

/-- A reauthorised pod may be deleted. -/
theorem safe_reauthorise (p : Proposal) (current : Option PodState) {n m : Nat} (hnm : n ≤ m) :
    Exec.Triple (fun w ↦ Safe n w.trace) (reauthorise env p current)
      (fun _ w ↦ Safe n w.trace ∧ Ready p current w.trace) (fun _ w ↦ Safe m w.trace) := by
  cases current with
  | none =>
    apply Exec.Triple.pure
    intro w hsafe
    constructor
    · exact hsafe
    · intro pod hpod
      cases hpod
  | some pod =>
    apply Exec.Triple.bind (safe_authorise env p pod n m)
    intro policy
    apply Exec.Triple.require
    · exact fun hallowed _ h ↦ ⟨h.1, h.2 hallowed⟩
    · exact fun _ _ h ↦ h.1.mono hnm

theorem frames_trace_settle (p : Proposal) (status : RecordStatus) :
    Exec.Frames World.trace (settle p status) :=
  Exec.frames_bind (frames_write _ fun _ _ ↦ rfl) fun _ ↦ frames_write _ fun _ _ ↦ rfl

/-- The ends of a run delete nothing. -/
theorem emits_hold (p : Proposal) (policy : PolicyResult) :
    Exec.Emits World.trace (fun e ↦ ¬ isDeletion e) (hold env settings actor p policy) := by
  apply Exec.emits_bind (frames_trace_changeIncidentState env settings _ _ _ _).emits
  intro _
  apply Exec.emits_bind (frames_trace_settle p _).emits
  intro _
  apply Exec.emits_bind (Exec.frames_when fun _ ↦ frames_flush env fun _ _ ↦ rfl).emits
  intro _
  apply Exec.emits_bind ((emits_commit env).mono fun e he ↦ he.1)
  intro _
  exact (Exec.frames_pure _).emits

theorem emits_resolve (p : Proposal) (policy : PolicyResult)
    (verification : VerificationResult) (attempt : Nat) :
    Exec.Emits World.trace (fun e ↦ ¬ isDeletion e)
      (resolve env settings actor p policy verification attempt) := by
  apply Exec.emits_bind (frames_trace_settle p _).emits
  intro _
  apply Exec.emits_bind (frames_trace_changeIncidentState env settings _ _ _ _).emits
  intro _
  apply Exec.emits_bind (frames_flush env fun _ _ ↦ rfl).emits
  intro _
  apply Exec.emits_bind ((emits_commit env).mono fun e he ↦ he.1)
  intro _
  exact (Exec.frames_pure _).emits

theorem emits_exhaust (p : Proposal) (policy : PolicyResult)
    (verification : VerificationResult) :
    Exec.Emits World.trace (fun e ↦ ¬ isDeletion e)
      (exhaust env settings actor p policy verification) := by
  apply Exec.emits_bind (frames_trace_settle p _).emits
  intro _
  apply Exec.emits_bind (frames_trace_changeIncidentState env settings _ _ _ _).emits
  intro _
  apply Exec.emits_bind (frames_flush env fun _ _ ↦ rfl).emits
  intro _
  apply Exec.emits_bind ((emits_commit env).mono fun e he ↦ he.1)
  intro _
  exact (Exec.frames_pure _).emits

theorem emits_escalate (incidentId : Nat) (e : Exc) :
    Exec.Emits World.trace (fun e ↦ ¬ isDeletion e)
      (escalate env settings incidentId actor e) := by
  apply Exec.emits_ite
  · intro _
    have hrollback : Exec.Frames World.trace rollback := fun _ ↦ rfl
    apply Exec.emits_bind hrollback.emits
    intro _
    apply Exec.emits_bind (frames_flush env fun _ _ ↦ rfl).emits
    intro _
    apply Exec.emits_bind (frames_loadIncident _).emits
    intro incident
    apply Exec.emits_bind
    · apply Exec.emits_when
      intro _
      apply Exec.emits_bind (frames_trace_changeIncidentState env settings _ _ _ _).emits
      intro _
      apply Exec.emits_bind (frames_flush env fun _ _ ↦ rfl).emits
      intro _
      exact (emits_commit env).mono fun e he ↦ he.1
    intro _
    apply Exec.emits_bind (frames_loadIncident _).emits
    intro _
    exact (Exec.frames_pure _).emits
  · intro _
    exact (Exec.frames_throw _).emits

/-- A ready attempt deletes at most once. -/
theorem safe_act (p : Proposal) (executionId : Nat) (current : Option PodState) (n : Nat) :
    Exec.Triple (fun w ↦ Safe n w.trace ∧ Ready p current w.trace)
      (act env settings p executionId current) (fun _ w ↦ Safe (n + 1) w.trace)
      (fun _ w ↦ Safe (n + 1) w.trace) := by
  apply Exec.triple_of_state
  rintro w ⟨hsafe, hready⟩
  cases current with
  | none =>
    have hframes : Exec.Frames World.trace (act env settings p executionId none) :=
      frames_write _ fun _ _ ↦ rfl
    rw [hframes w]
    exact hsafe.mono (Nat.le_succ n)
  | some pod =>
    have hdelete : Safe (n + 1)
        ((deletePod env settings p.target.ns pod.name).run w).2.trace := by
      obtain ⟨added, heq, hall⟩ := deletePod_adds env settings p.target.ns pod.name w
      rw [heq]
      apply safe_append (safe_cons_deletion hsafe (hready pod rfl))
      intro e he
      rw [(hall e he).1]
      exact Bool.false_ne_true
    have hframes : Exec.Frames World.trace (do
        updateExecution executionId (succeededWith (deletionResult p.target.ns pod.name))
        flush env) :=
      Exec.frames_bind (frames_write _ fun _ _ ↦ rfl) fun _ ↦ frames_flush env fun _ _ ↦ rfl
    change Safe (n + 1) ((deletePod env settings p.target.ns pod.name >>= fun _ ↦ do
        updateExecution executionId (succeededWith (deletionResult p.target.ns pod.name))
        flush env).run w).2.trace
    rw [Exec.run_bind]
    rcases hrun : (deletePod env settings p.target.ns pod.name).run w with ⟨e | a, w'⟩
    · rw [hrun] at hdelete
      exact hdelete
    · rw [hrun] at hdelete
      rw [hframes w']
      exact hdelete

/-- One attempt from a ready pod makes at most one more deletion. -/
theorem safe_attemptOnce (p : Proposal) (attempt : Nat) (h : 1 ≤ attempt ∧ attempt ≤ 3)
    (current : Option PodState) {n m : Nat} (hnm : n + 1 ≤ m) :
    Exec.Triple (fun w ↦ Safe n w.trace ∧ Ready p current w.trace)
      (attemptOnce env settings actor p attempt h current)
      (fun _ w ↦ Safe (n + 1) w.trace) (fun _ w ↦ Safe m w.trace) := by
  have hn : n ≤ m := Nat.le_of_succ_le hnm
  apply Exec.Triple.bind (ready_of_emits (frames_write _ fun _ _ ↦ rfl).emits hn)
  intro _
  apply Exec.Triple.bind
    (ready_of_emits (frames_insertExecution (fun _ _ ↦ rfl) (fun _ _ ↦ rfl) env _).emits hn)
  intro executionId
  apply Exec.Triple.bind (Q := fun _ w ↦ Safe (n + 1) w.trace)
  · apply (safe_act env settings p executionId current n).mono
    · exact fun _ h ↦ h
    · exact fun _ _ h ↦ h
    · exact fun _ _ h ↦ h.mono hnm
  intro _
  apply safe_of_emits _ hnm
  apply Exec.emits_bind (frames_trace_changeIncidentState env settings _ _ _ _).emits
  intro _
  apply Exec.emits_bind ((emits_commit env).mono fun e he ↦ he.1)
  intro _
  apply Exec.emits_bind (frames_verifyUntil (fun _ _ ↦ rfl) env _).emits
  intro verification
  apply Exec.emits_bind
  · intro w
    exact ⟨[.verified verification.success], rfl, by simp [isDeletion]⟩
  intro _
  apply Exec.emits_bind (frames_flush env fun _ _ ↦ rfl).emits
  intro _
  exact (Exec.frames_pure _).emits

/-- A retry's pod may be deleted: it was evaluated after the evidence was collected. -/
theorem safe_reconsider (p : Proposal) {n m : Nat} (hnm : n ≤ m) :
    Exec.Triple (fun w ↦ Safe n w.trace) (reconsider env settings actor p)
      (fun current w ↦ Safe n w.trace ∧ Ready p current w.trace)
      (fun _ w ↦ Safe m w.trace) := by
  apply Exec.Triple.bind
    (safe_of_emits (frames_trace_changeIncidentState env settings _ _ _ _).emits hnm)
  intro _
  apply Exec.Triple.bind (safe_of_emits (emits_collect env p.target) hnm)
  intro evidence
  apply Exec.Triple.bind (safe_reauthorise env p (retryPod evidence) hnm)
  intro _
  apply Exec.Triple.bind (ready_of_emits (emits_commit env) hnm)
  intro _
  exact Exec.Triple.pure fun _ h ↦ h

/-- The attempts that are left make at most one deletion each. -/
theorem safe_attempts (p : Proposal) (policy : PolicyResult) (left : Nat)
    (h : left < settings.maxRemediationAttempts) (current : Option PodState) :
    Exec.Triple
      (fun w ↦ Safe (settings.maxRemediationAttempts - (left + 1)) w.trace ∧
        Ready p current w.trace)
      (attempts env settings actor p policy left h current)
      (fun _ w ↦ Safe settings.maxRemediationAttempts w.trace)
      (fun _ w ↦ Safe settings.maxRemediationAttempts w.trace) := by
  induction left generalizing current with
  | zero =>
    apply Exec.Triple.bind (safe_attemptOnce env settings actor p _ _ current (by omega))
    intro verification
    rw [Nat.sub_add_cancel (by omega)]
    apply Exec.Triple.ite
    · intro _
      exact safe_of_emits (emits_resolve env settings actor p _ _ _) le_rfl
    · intro _
      exact safe_of_emits (emits_exhaust env settings actor p _ _) le_rfl
  | succ left ih =>
    have hstep : settings.maxRemediationAttempts - (left + 1 + 1) + 1 =
        settings.maxRemediationAttempts - (left + 1) := by omega
    have hle : settings.maxRemediationAttempts - (left + 1) ≤
        settings.maxRemediationAttempts := Nat.sub_le _ _
    apply Exec.Triple.bind (safe_attemptOnce env settings actor p _ _ current (by omega))
    intro verification
    rw [hstep]
    apply Exec.Triple.ite
    · intro _
      apply (safe_of_emits (emits_resolve env settings actor p _ _ _) hle).mono
      · exact fun _ h ↦ h
      · exact fun _ _ h ↦ h.mono hle
      · exact fun _ _ h ↦ h
    · intro _
      apply Exec.Triple.bind (safe_reconsider env settings actor p hle)
      intro next
      exact ih (Nat.lt_of_succ_lt h) next

/-- An allowed execution starts with its evaluated pod. -/
theorem safe_execute (p : Proposal) (policy : PolicyResult) :
    Exec.Triple (fun w ↦ Safe 0 w.trace ∧ Ready p (some p.pod) w.trace)
      (execute env settings actor p policy)
      (fun _ w ↦ Safe settings.maxRemediationAttempts w.trace)
      (fun _ w ↦ Safe settings.maxRemediationAttempts w.trace) := by
  have hzero : settings.maxRemediationAttempts - (retries settings + 1) = 0 := by
    unfold retries
    omega
  have hattempts := safe_attempts env settings actor p policy (retries settings)
    (retries_lt settings) (some p.pod)
  rw [hzero] at hattempts
  apply Exec.Triple.bind (ready_of_emits (frames_write _ fun _ _ ↦ rfl).emits (Nat.zero_le _))
  intro _
  apply Exec.Triple.bind (ready_of_emits
    (frames_trace_changeIncidentState env settings _ _ _ _).emits (Nat.zero_le _))
  intro _
  apply Exec.Triple.bind (ready_of_emits (emits_commit env) (Nat.zero_le _))
  intro _
  exact hattempts

theorem safe_process (runbooks : RunbookLoader) (incidentId : Nat)
    (target : UnhealthyPodTarget) :
    Exec.Triple (fun w ↦ Safe 0 w.trace)
      (process env settings runbooks incidentId target actor)
      (fun _ w ↦ Safe settings.maxRemediationAttempts w.trace)
      (fun _ w ↦ Safe settings.maxRemediationAttempts w.trace) := by
  have hzero := Nat.zero_le settings.maxRemediationAttempts
  apply Exec.Triple.bind (safe_of_emits (emits_gather env settings actor _ _) hzero)
  intro evidence
  apply Exec.Triple.bind
    (safe_of_emits (frames_trace_choose env settings actor _ _ _ _).emits hzero)
  intro chosen
  obtain ⟨pod, runbook, runbookExecutionId⟩ := chosen
  apply Exec.Triple.bind ((safe_of_emits
    (frames_trace_propose env settings actor _ _ _ _ _).emits hzero).yields
    (yields_propose env settings actor incidentId target pod runbook runbookExecutionId))
  intro p
  apply Exec.Triple.assume
  rintro ⟨-, -, rfl, -, -⟩
  apply Exec.Triple.bind (safe_authorise env p p.pod 0 settings.maxRemediationAttempts)
  intro policy
  apply Exec.Triple.bind (Q := fun _ w ↦ Safe 0 w.trace ∧
    (policy.allowed → Ready p (some p.pod) w.trace))
  · apply ((frames_flush (f := World.trace) env fun _ _ ↦ rfl).keeps fun t ↦ Safe 0 t ∧
      (policy.allowed → Ready p (some p.pod) t)).mono
    · exact fun _ h ↦ h
    · exact fun _ _ h ↦ h
    · exact fun _ _ h ↦ h.1.mono hzero
  intro _
  apply Exec.Triple.ite
  · intro _
    apply (safe_of_emits (emits_hold env settings actor p policy) hzero).mono
    · exact fun _ h ↦ h.1
    · exact fun _ _ h ↦ h.mono hzero
    · exact fun _ _ h ↦ h
  · intro hallowed
    apply (safe_execute env settings actor p policy).mono
    · exact fun _ h ↦ ⟨h.1, h.2 (by simpa using hallowed)⟩
    · exact fun _ _ h ↦ h
    · exact fun _ _ h ↦ h

/-- Every run is safe, whatever its environment does. -/
theorem safe_run (runbooks : RunbookLoader) (target : UnhealthyPodTarget)
    (correlationId : String) (db : Database) :
    Safe settings.maxRemediationAttempts
      ((run env settings runbooks target correlationId actor).run (start db)).2.trace := by
  have hzero := Nat.zero_le settings.maxRemediationAttempts
  have hspec : Exec.Triple (fun w ↦ Safe 0 w.trace)
      (run env settings runbooks target correlationId actor)
      (fun _ w ↦ Safe settings.maxRemediationAttempts w.trace)
      (fun _ w ↦ Safe settings.maxRemediationAttempts w.trace) := by
    apply Exec.Triple.bind (safe_of_emits (frames_trace_createIncident env _ _).emits hzero)
    intro incidentId
    apply Exec.Triple.bind
      (safe_of_emits ((emits_commit env).mono fun e he ↦ he.1) hzero)
    intro _
    apply Exec.Triple.tryCatch (safe_process env settings actor runbooks incidentId target)
    intro e
    exact safe_of_emits (emits_escalate env settings actor incidentId e) le_rfl
  apply hspec.state
  exact ⟨trivial, le_rfl⟩

end Stages

end CloudWard.Remediation.Pipeline
