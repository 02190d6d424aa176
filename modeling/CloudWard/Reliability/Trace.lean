import CloudWard.Kubernetes.Requests
import CloudWard.Reliability.Workflow

/-!
# What a processor run leaves in the trace

Every run of `process` adds one of three things: nothing; one policy evaluation; or one
policy evaluation that allowed its input, followed by requests of the kind the evaluated
action names, on the target its stage chose. The stages before and after the execution
add nothing.
-/

namespace CloudWard.Reliability

open CloudWard.Db CloudWard.Incidents CloudWard.Kubernetes CloudWard.Logic CloudWard.Policies
  CloudWard.Remediation CloudWard.Risk CloudWard.Runbooks Service

/-- The pod a proposal's deletion is about: the action deletes and the list has it first
among the pods that are not ready. -/
structure Deletes (p : Proposal) (ns name : String) : Prop where
  action : p.runbook.action = .deleteUnhealthyPod
  ns_eq : ns = p.snapshot.ns
  pod : ∃ pod, p.snapshot.unhealthy = some pod ∧ name = pod.name

/-- What the execution of a proposal may add to the trace. -/
def Performed (settings : Settings) (p : Proposal) : Event → Prop
  | .deletePodCalled ns name => Deletes p ns name
  | .mutated (.deletePod ns name) => Deletes p ns name ∧ validName name
  | .mutated (.patchScale ns name replicas) =>
      p.runbook.action = .scaleStagingDeployment ∧ ns = p.snapshot.ns ∧
        name = p.snapshot.deploymentName ∧
        replicas = min (p.snapshot.deployment.desiredReplicas + 1) settings.maxTemporaryReplicas
  | .mutated (.pushImageTag tag) =>
      p.runbook.action = .revertImage ∧ tag = knownGoodTag ∧ settings.localGitopsWriteEnabled
  | _ => False

/-- The input of a proposal targets the first listed pod. -/
theorem target_policyInput {environment : Environment} {p : Proposal} {input : PolicyInput}
    (h : policyInput environment p = .ok input) :
    p.snapshot.pods.length ≤ 1000 ∧ input.action = p.runbook.action ∧
      input.target.ns = p.snapshot.ns ∧ input.target.podName = p.snapshot.targetPod.name ∧
      input.target.labels = p.snapshot.targetPod.labels ∧
      input.target.controllerManaged = p.snapshot.targetPod.controllerManaged := by
  unfold policyInput at h
  cases ht : targetInput p.snapshot.ns p.snapshot.targetPod.name p.snapshot.targetPod.labels
    p.snapshot.targetPod.controllerManaged p.snapshot.pods.length with
  | error e =>
    rw [ht] at h
    cases h
  | ok target =>
    rw [ht] at h
    cases h
    obtain ⟨hle, hns, hname, hlabels, hmanaged, -⟩ := targetInput_eq_ok.mp ht
    exact ⟨hle, rfl, hns, hname, hlabels, hmanaged⟩

/-! ### The executions -/

/-- An image revert adds at most its push, and only while the writer is enabled. -/
theorem emits_revertToKnownGood (env : Env) (settings : Settings) :
    Exec.Emits World.trace
      (fun e ↦ e = .mutated (.pushImageTag knownGoodTag) ∧ settings.localGitopsWriteEnabled)
      (revertToKnownGood env settings) := by
  by_cases henabled : settings.localGitopsWriteEnabled
  · apply Exec.emits_bind
    · exact (Exec.frames_bind (Exec.frames_require _ _) fun _ ↦
        Exec.frames_bind (Exec.frames_require _ _) fun _ ↦ Exec.frames_require _ _).emits
    intro _
    apply Exec.emits_bind (frames_call _ fun _ _ ↦ rfl).emits
    intro tag
    apply Exec.emits_bind (Exec.frames_require _ _).emits
    intro _
    apply Exec.emits_when
    intro _
    exact (emits_send env _).mono fun e he ↦ ⟨he, henabled⟩
  · intro w
    have hstop : ∃ e, (requireAvailable settings).run w = (.error e, w) :=
      ⟨_, by simp [requireAvailable, Service.require, Exec.require, henabled, Exec.run_bind]; rfl⟩
    obtain ⟨e, he⟩ := hstop
    exact ⟨[], by unfold revertToKnownGood; rw [Exec.run_bind_of_error he]; rfl, by simp⟩

/-! ### The stages -/

/-- The execution adds what its proposal's action performs. -/
theorem emits_perform (env : Env) (settings : Settings) (p : Proposal) (executionId : Nat) :
    Exec.Emits World.trace (Performed settings p) (perform env settings p executionId) := by
  have hfinish (succeeded : Bool) (code : Option String) (result : Parameters) :
      Exec.Emits World.trace (Performed settings p)
        (finishActionExecution env executionId succeeded code result) :=
    (frames_finishActionExecution (fun _ _ ↦ rfl) (fun _ _ ↦ rfl) env executionId succeeded
      code result).emits
  apply Exec.emits_ite
  · intro haction
    apply Exec.emits_bind
    · apply (emits_scaleStagingDeployment env settings _ _ _ _ _).mono
      rintro e rfl
      exact ⟨haction, rfl, rfl, rfl⟩
    intro _
    exact hfinish true none _
  intro _
  apply Exec.emits_ite
  · intro haction
    cases hpod : p.snapshot.unhealthy with
    | none => exact hfinish false _ _
    | some pod =>
      have hdeletes : Deletes p p.snapshot.ns pod.name := ⟨haction, rfl, pod, hpod, rfl⟩
      apply Exec.emits_bind
      · apply (emits_deletePod env settings p.snapshot.ns pod.name).mono
        rintro e (rfl | ⟨rfl, hname⟩)
        · exact hdeletes
        · exact ⟨hdeletes, hname⟩
      intro _
      exact hfinish true none _
  intro _
  apply Exec.emits_ite
  · intro haction
    apply Exec.emits_bind
    · apply (emits_revertToKnownGood env settings).mono
      rintro e ⟨rfl, henabled⟩
      exact ⟨haction, rfl, henabled⟩
    intro _
    exact hfinish true none _
  intro _
  exact (Exec.frames_pure _).emits

/-- The whole execution stage adds what its proposal's action performs. -/
theorem emits_execute (env : Env) (settings : Settings) (incidentId : Nat) (p : Proposal) :
    Exec.Emits World.trace (Performed settings p) (execute env settings incidentId p) := by
  apply Exec.emits_bind (frames_write _ fun _ _ ↦ rfl).emits
  intro _
  apply Exec.emits_bind (frames_trace_changeIncidentState env settings incidentId .executing worker {}).emits
  intro _
  apply Exec.emits_ite
  · intro _
    exact (frames_write _ fun _ _ ↦ rfl).emits
  intro _
  apply Exec.emits_bind
    (frames_claimActionExecution (fun _ _ ↦ rfl) (fun _ _ ↦ rfl) env _ _ _ _ _).emits
  intro claim
  apply Exec.emits_bind
  · apply Exec.emits_when
    intro _
    exact emits_perform env settings p claim.execution
  intro _
  apply Exec.emits_bind (Exec.frames_read _).emits
  intro status
  exact (frames_write _ fun _ _ ↦ rfl).emits

/-! ### The rows of an execution -/

private theorem frames_seen_change (env : Env) (settings : Settings) (incidentId : Nat)
    (target : IncidentState) (actor : String) (details : Details) :
    Exec.Frames seen (changeIncidentState env settings incidentId target actor details) :=
  frames_changeIncidentState (fun _ _ ↦ rfl) env settings incidentId target actor details false
    (fun _ _ ↦ rfl) (fun _ _ _ ↦ rfl) fun _ _ _ _ ↦ rfl

/-- The requests of an execution change the cluster and its execution only. -/
theorem frames_perform {ω : Type} {f : World → ω} (htick : ∀ w n, f { w with tick := n } = f w)
    (hcluster : ∀ w c, f { w with cluster := c } = f w)
    (htrace : ∀ w t, f { w with trace := t } = f w) (env : Env) (settings : Settings)
    (p : Proposal) (executionId : Nat)
    (hfinish : ∀ succeeded code result,
      Exec.Frames f (finishActionExecution env executionId succeeded code result)) :
    Exec.Frames f (perform env settings p executionId) := by
  apply Exec.frames_ite
  · apply Exec.frames_bind
    · exact frames_scaleStagingDeployment htick htrace hcluster env settings _ _ _ _ _
    exact fun _ ↦ hfinish true none _
  apply Exec.frames_ite
  · cases p.snapshot.unhealthy with
    | none => exact hfinish false _ _
    | some pod =>
      apply Exec.frames_bind
      · exact frames_deletePod htick htrace hcluster env settings _ _
      exact fun _ ↦ hfinish true none _
  apply Exec.frames_ite
  · apply Exec.frames_bind
    · apply Exec.frames_bind
      · exact Exec.frames_bind (Exec.frames_require _ _) fun _ ↦
          Exec.frames_bind (Exec.frames_require _ _) fun _ ↦ Exec.frames_require _ _
      intro _
      apply Exec.frames_bind (frames_call _ htick)
      intro tag
      apply Exec.frames_bind (Exec.frames_require _ _)
      intro _
      exact Exec.frames_when fun _ ↦ frames_send htick htrace hcluster env _
    exact fun _ ↦ hfinish true none _
  exact Exec.frames_pure _

/-- The requests of an execution change no row's action. -/
theorem frames_acts_perform (env : Env) (settings : Settings) (p : Proposal)
    (executionId : Nat) : Exec.Frames acts (perform env settings p executionId) := by
  apply frames_perform (fun _ _ ↦ rfl) (fun _ _ ↦ rfl) fun _ _ ↦ rfl
  intro succeeded code result
  exact frames_acts (frames_seen_finishActionExecution env executionId succeeded code result)

/-- The execution stage inserts at most one execution, with its proposal's action. -/
theorem acts_execute (env : Env) (settings : Settings) (incidentId : Nat) (p : Proposal)
    {a : ActionType} {E P : List ActionType} (ha : P[p.proposalId]? = some a) :
    Exec.Triple (fun w ↦ acts w = (E, P)) (execute env settings incidentId p)
      (fun _ w ↦ acts w = (E, P) ∨ acts w = (E ++ [a], P))
      (fun _ w ↦ acts w = (E, P) ∨ acts w = (E ++ [a], P)) := by
  have hset (status : RecordStatus) : Exec.Frames acts (updateProposal p.proposalId
      fun proposal ↦ { proposal with status := status }) := by
    apply frames_acts
    apply frames_seen_updateProposal
    exact fun _ ↦ rfl
  have keep {α : Type} {x : Service α} (hx : Exec.Frames acts x) :
      Exec.Triple (fun w ↦ acts w = (E, P)) x (fun _ w ↦ acts w = (E, P))
        (fun _ w ↦ acts w = (E, P) ∨ acts w = (E ++ [a], P)) := by
    apply (hx.keeps (· = (E, P))).mono
    · exact fun _ h ↦ h
    · exact fun _ _ h ↦ h
    · exact fun _ _ h ↦ .inl h
  apply Exec.Triple.bind (keep (hset _))
  intro _
  apply Exec.Triple.bind
    (keep (frames_acts (frames_seen_change env settings incidentId .executing worker {})))
  intro _
  apply Exec.Triple.ite
  · intro _
    apply (keep (hset _)).mono
    · exact fun _ h ↦ h
    · exact fun _ _ h ↦ .inl h
    · exact fun _ _ h ↦ h
  intro _
  apply Exec.Triple.bind (acts_claimActionExecution env incidentId p.proposalId _ _ _ ha)
  intro claim
  have hrest : Exec.Frames acts (do
      Exec.when claim.claimed (perform env settings p claim.execution)
      let status ← Exec.read fun w ↦ w.db.executions[claim.execution]?.map (·.status)
      updateProposal p.proposalId fun proposal ↦
        { proposal with status := status.getD proposal.status }) := by
    apply Exec.frames_bind
      (Exec.frames_when fun _ ↦ frames_acts_perform env settings p claim.execution)
    intro _
    apply Exec.frames_bind (Exec.frames_read _)
    intro status
    apply frames_acts
    apply frames_seen_updateProposal
    exact fun _ ↦ rfl
  exact hrest.keeps fun v ↦ v = (E, P) ∨ v = (E ++ [a], P)

/-! ### The other stages -/

/-- The evidence stage leaves alone what neither a tick nor its two state changes touch. -/
theorem frames_gather_of_update {ω : Type} {f : World → ω}
    (htick : ∀ w n, f { w with tick := n } = f w) (env : Env) (settings : Settings)
    (incidentId : Nat) (alert : NormalizedAlert)
    (hincident : ∀ w target now, f { w with db := { w.db with
      incidents := w.db.incidents.update incidentId (withState target worker now) } } = f w) :
    Exec.Frames f (gather env settings incidentId alert) := by
  have hchange (target : IncidentState) (ht : target ≠ .awaitingApproval)
      (hend : ¬ target.isTerminal) :
      Exec.Frames f (changeIncidentState env settings incidentId target worker) :=
    frames_changeIncidentState_of_update htick env settings incidentId target worker {} false
      (fun w now ↦ hincident w target now) (fun h ↦ absurd h hend) fun h ↦ absurd h ht
  apply Exec.frames_bind (frames_loadIncident _)
  intro incident
  apply Exec.frames_bind (Exec.frames_when fun _ ↦ hchange _ (by decide) (by decide))
  intro _
  apply Exec.frames_bind (Exec.frames_require _ _)
  intro _
  apply Exec.frames_bind (frames_getPods htick env _ _)
  intro pods
  split
  · apply Exec.frames_bind (frames_getDeployment htick env _ _)
    intro deployment
    apply Exec.frames_bind (frames_getEvents htick env _ _)
    intro _
    apply Exec.frames_bind (frames_call _ htick)
    intro _
    apply Exec.frames_bind (frames_flush env htick)
    intro _
    apply Exec.frames_bind (hchange _ (by decide) (by decide))
    intro _
    exact Exec.frames_pure _
  · exact Exec.frames_throw _

/-- The evidence stage leaves alone what neither a state change nor a tick touches. -/
theorem frames_gather {ω : Type} {f : World → ω} (htick : ∀ w n, f { w with tick := n } = f w)
    (hincidents : ∀ w t, f { w with db := { w.db with incidents := t } } = f w) (env : Env)
    (settings : Settings) (incidentId : Nat) (alert : NormalizedAlert) :
    Exec.Frames f (gather env settings incidentId alert) :=
  frames_gather_of_update htick env settings incidentId alert fun w _ _ ↦ hincidents w _

/-- The pods of a snapshot were listed, with the demo selector. -/
theorem yields_gather (env : Env) (settings : Settings) (incidentId : Nat)
    (alert : NormalizedAlert) :
    Exec.Yields (fun snapshot ↦ ∃ w, env.listPods w snapshot.ns demoSelector = .ok snapshot.pods)
      (gather env settings incidentId alert) := by
  apply Exec.yields_bind
  intro incident
  apply Exec.yields_bind
  intro _
  apply Exec.yields_bind
  intro _
  apply Exec.yields_bind_of (yields_getPods env _ _)
  rintro pods ⟨-, hpods⟩
  split
  · apply Exec.yields_bind
    intro deployment
    apply Exec.yields_bind
    intro _
    apply Exec.yields_bind
    intro _
    apply Exec.yields_bind
    intro _
    apply Exec.yields_bind
    intro _
    exact Exec.yields_pure hpods
  · exact Exec.yields_throw _

/-- A proposal is about the snapshot and the runbook it was made from, and its row is the
only one added. -/
theorem seen_propose (env : Env) (settings : Settings) (incidentId : Nat)
    (snapshot : Snapshot) (runbook : RunbookDocument) {t : List Event} {E P : List ActionType} :
    Exec.Triple (fun w ↦ seen w = (t, E, P)) (propose env settings incidentId snapshot runbook)
      (fun p w ↦ seen w = (t, E, P ++ [runbook.action]) ∧
        p.snapshot = snapshot ∧ p.runbook = runbook ∧ p.proposalId = P.length)
      (fun _ w ↦ w.trace = t ∧ (acts w).1 = E) := by
  have keep {α : Type} {x : Service α} (P : List ActionType) (hx : Exec.Frames seen x) :
      Exec.Triple (fun w ↦ seen w = (t, E, P)) x (fun _ w ↦ seen w = (t, E, P))
        (fun _ w ↦ w.trace = t ∧ (acts w).1 = E) := by
    apply (hx.keeps (· = (t, E, P))).mono
    · exact fun _ h ↦ h
    · exact fun _ _ h ↦ h
    · intro _ w h
      exact ⟨congrArg Prod.fst h, congrArg (·.2.1) h⟩
  have hflush : Exec.Frames seen (flush env) := frames_flush env fun _ _ ↦ rfl
  apply Exec.Triple.bind
  · exact keep P fun _ ↦ rfl
  intro _
  apply Exec.Triple.bind
  · exact keep P fun _ ↦ rfl
  intro _
  apply Exec.Triple.bind (keep P hflush)
  intro _
  apply Exec.Triple.bind (keep P (frames_seen_change env settings _ _ _ _))
  intro _
  apply Exec.Triple.bind (keep P (frames_loadIncident _))
  intro incident
  apply Exec.Triple.bind
  · exact keep P fun _ ↦ rfl
  intro _
  apply Exec.Triple.bind (Q := fun proposalId w ↦
    seen w = (t, E, P ++ [runbook.action]) ∧ proposalId = P.length)
  · apply Exec.Triple.bind (Q := fun proposalId w ↦ seen w = (t, E, P) ∧ proposalId = P.length)
    · apply Exec.Triple.read
      intro w hw
      constructor
      · exact hw
      · have hproposals : w.db.proposals.map (·.actionType) = P := congrArg (·.2.2) hw
        rw [← hproposals, List.length_map]
        rfl
    intro proposalId
    apply Exec.Triple.assume
    rintro rfl
    apply Exec.Triple.bind (Q := fun _ w ↦ seen w = (t, E, P ++ [runbook.action]))
    · apply triple_write
      intro w hw
      obtain ⟨rfl, hacts⟩ := Prod.mk.inj hw
      obtain ⟨rfl, rfl⟩ := Prod.mk.inj hacts
      simp [seen, acts, actsOf, Table.insert]
    intro _
    exact Exec.Triple.pure fun _ h ↦ ⟨h, rfl⟩
  intro proposalId
  apply Exec.Triple.assume
  rintro rfl
  apply Exec.Triple.bind (keep _ hflush)
  intro _
  apply Exec.Triple.bind (keep _ (frames_seen_change env settings _ _ _ _))
  intro _
  exact Exec.Triple.pure fun _ h ↦ ⟨h, rfl, rfl, rfl⟩

/-- An authorisation adds its evaluation, if it comes that far. -/
theorem authorise_evaluated (env : Env) (incidentId : Nat) (p : Proposal) (t : List Event) :
    Exec.Triple (fun w ↦ w.trace = t) (authorise env incidentId p)
      (fun policy w ↦ ∃ input, (∃ environment, policyInput environment p = .ok input) ∧
        w.trace = .evaluated input policy :: t)
      (fun _ w ↦ w.trace = t ∨ ∃ input policy,
        (∃ environment, policyInput environment p = .ok input) ∧
          w.trace = .evaluated input policy :: t) := by
  apply Exec.Triple.bind (Q := fun _ w ↦ w.trace = t)
  · apply ((frames_loadIncident (f := World.trace) incidentId).keeps (· = t)).mono
    · exact fun _ h ↦ h
    · exact fun _ _ h ↦ h
    · exact fun _ _ h ↦ .inl h
  intro incident
  apply Exec.Triple.bind (Q := fun input w ↦
    w.trace = t ∧ ∃ environment, policyInput environment p = .ok input)
  · apply Exec.Triple.ofExcept
    · exact fun input hinput w hw ↦ ⟨hw, _, hinput⟩
    · exact fun _ _ _ hw ↦ .inl hw
  intro input
  apply Exec.Triple.assume
  intro hinput
  apply Exec.Triple.bind (Q := fun policy w ↦ w.trace = .evaluated input policy :: t)
  · intro w hw
    rw [run_evaluate, ← hw]
  intro policy
  have keep {x : Service Unit} (hx : Exec.Frames World.trace x) :
      Exec.Triple (fun w ↦ w.trace = .evaluated input policy :: t) x
        (fun _ w ↦ w.trace = .evaluated input policy :: t)
        (fun _ w ↦ w.trace = t ∨ ∃ input policy,
          (∃ environment, policyInput environment p = .ok input) ∧
            w.trace = .evaluated input policy :: t) := by
    apply (hx.keeps (· = .evaluated input policy :: t)).mono
    · exact fun _ h ↦ h
    · exact fun _ _ h ↦ h
    · exact fun _ _ h ↦ .inr ⟨input, policy, hinput, h⟩
  apply Exec.Triple.bind (keep (frames_write _ fun _ _ ↦ rfl))
  intro _
  apply Exec.Triple.bind (keep (frames_flush env fun _ _ ↦ rfl))
  intro _
  exact Exec.Triple.pure fun _ h ↦ ⟨input, hinput, h⟩

/-- An authorisation adds no execution and no proposal. -/
theorem frames_acts_authorise (env : Env) (incidentId : Nat) (p : Proposal) :
    Exec.Frames acts (authorise env incidentId p) := by
  apply Exec.frames_bind (frames_loadIncident _)
  intro incident
  apply Exec.frames_bind (Exec.frames_ofExcept _)
  intro input
  apply Exec.frames_bind (frames_evaluate env input (fun _ _ ↦ rfl) fun _ _ ↦ rfl)
  intro policy
  apply Exec.frames_bind
  · exact fun _ ↦ rfl
  intro _
  exact Exec.frames_bind (frames_flush env fun _ _ ↦ rfl) fun _ ↦ Exec.frames_pure _

private theorem frames_seen_result (incidentId : Nat) (action : Option ActionType)
    (detail : String) : Exec.Frames seen (result incidentId action detail) :=
  Exec.frames_bind (frames_loadIncident _) fun _ ↦ Exec.frames_pure _

/-- The end of a run that may not execute adds nothing. -/
theorem frames_seen_hold (env : Env) (settings : Settings) (incidentId : Nat) (p : Proposal)
    (policy : PolicyResult) : Exec.Frames seen (hold env settings incidentId p policy) := by
  apply Exec.frames_bind (frames_seen_change env settings _ _ _ _)
  intro _
  apply Exec.frames_bind
  · apply frames_seen_updateProposal
    exact fun _ ↦ rfl
  intro _
  exact frames_seen_result _ _ _

/-- The end of a revert whose writer is disabled adds nothing. -/
theorem frames_seen_holdForWriter (env : Env) (settings : Settings) (incidentId : Nat)
    (p : Proposal) : Exec.Frames seen (holdForWriter env settings incidentId p) := by
  apply Exec.frames_bind
  · apply frames_seen_updateProposal
    exact fun _ ↦ rfl
  intro _
  apply Exec.frames_bind (frames_seen_change env settings _ _ _ _)
  intro _
  exact frames_seen_result _ _ _

/-! ### A whole run -/

/-- What ties a run's proposal to what the run was given: its pods were listed, its runbook
matched the alert, and its policy input is the one evaluated. -/
structure Proposed (env : Env) (runbooks : RunbookLoader) (alert : NormalizedAlert)
    (p : Proposal) (input : PolicyInput) : Prop where
  listed : ∃ w, env.listPods w p.snapshot.ns demoSelector = .ok p.snapshot.pods
  matched : ∃ incidentType environment,
    runbooks.matching incidentType (alertConditions alert.alertName) environment = .ok p.runbook
  evaluated : ∃ environment, policyInput environment p = .ok input

/-- What a run of `process` from `w` leaves in `w'`: no event and no execution; or one
evaluation, the proposal it was for, and, only if it allowed, what the proposal's action
performs and one execution of that action. -/
inductive Left (env : Env) (settings : Settings) (runbooks : RunbookLoader)
    (alert : NormalizedAlert) (t : List Event) (E P : List ActionType) (w : World) : Prop
  | unevaluated (trace : w.trace = t) (executions : (acts w).1 = E)
  | evaluated (p : Proposal) (input : PolicyInput) (policy : PolicyResult) (added : List Event)
      (proposed : Proposed env runbooks alert p input)
      (trace : w.trace = added ++ .evaluated input policy :: t)
      (performed : ∀ e ∈ added, policy.allowed ∧ Performed settings p e)
      (proposals : (acts w).2 = P ++ [p.runbook.action])
      (executions : (acts w).1 = E ∨ (policy.allowed ∧ (acts w).1 = E ++ [p.runbook.action]))

section Run

variable (env : Env) (settings : Settings) (runbooks : RunbookLoader) (incidentId : Nat)
variable (alert : NormalizedAlert) {t : List Event} {E P : List ActionType}

/-- The end of a run whose input was evaluated. -/
private theorem decided_left {p : Proposal} {input : PolicyInput}
    (hproposed : Proposed env runbooks alert p input) (hid : p.proposalId = P.length)
    (policy : PolicyResult) :
    Exec.Triple
      (fun w ↦ w.trace = .evaluated input policy :: t ∧ acts w = (E, P ++ [p.runbook.action]))
      (if ¬ policy.allowed then hold env settings incidentId p policy
       else if p.runbook.action = .revertImage ∧ ¬ settings.localGitopsWriteEnabled then
         holdForWriter env settings incidentId p
       else do
         execute env settings incidentId p
         changeIncidentState env settings incidentId .verifying worker
         result incidentId (some p.runbook.action)
           "action processed; multi-signal verification queued")
      (fun _ ↦ Left env settings runbooks alert t E P)
      (fun _ ↦ Left env settings runbooks alert t E P) := by
  have leave {α : Type} {x : Service α} (hx : Exec.Frames seen x) :
      Exec.Triple
        (fun w ↦ w.trace = .evaluated input policy :: t ∧ acts w = (E, P ++ [p.runbook.action]))
        x (fun _ ↦ Left env settings runbooks alert t E P)
        (fun _ ↦ Left env settings runbooks alert t E P) := by
    apply Exec.triple_of_state
    rintro w ⟨htrace, hacts⟩
    have hseen := hx w
    have htrace' := (congrArg Prod.fst hseen).trans htrace
    have hacts' := (congrArg Prod.snd hseen).trans hacts
    exact .evaluated p input policy [] hproposed htrace' (by simp) (congrArg Prod.snd hacts')
      (.inl (congrArg Prod.fst hacts'))
  apply Exec.Triple.ite
  · intro _
    exact leave (frames_seen_hold env settings incidentId p policy)
  intro hallowed
  rw [Bool.not_eq_true, Bool.not_eq_false] at hallowed
  apply Exec.Triple.ite
  · intro _
    exact leave (frames_seen_holdForWriter env settings incidentId p)
  intro _
  have haction : (P ++ [p.runbook.action])[p.proposalId]? = some p.runbook.action := by
    rw [hid, List.getElem?_append_right le_rfl, Nat.sub_self]
    rfl
  have hrest : Exec.Frames seen (do
      changeIncidentState env settings incidentId .verifying worker
      result incidentId (some p.runbook.action)
        "action processed; multi-signal verification queued") :=
    Exec.frames_bind (frames_seen_change env settings _ _ _ _) fun _ ↦ frames_seen_result _ _ _
  have hemits : Exec.Emits World.trace (Performed settings p) (do
      execute env settings incidentId p
      changeIncidentState env settings incidentId .verifying worker
      result incidentId (some p.runbook.action)
        "action processed; multi-signal verification queued") := by
    apply Exec.emits_bind (emits_execute env settings incidentId p)
    intro _ w
    exact ⟨[], congrArg Prod.fst (hrest w), by simp⟩
  have hacts : Exec.Triple (fun w ↦ acts w = (E, P ++ [p.runbook.action]))
      (do
        execute env settings incidentId p
        changeIncidentState env settings incidentId .verifying worker
        result incidentId (some p.runbook.action)
          "action processed; multi-signal verification queued")
      (fun _ w ↦ acts w = (E, P ++ [p.runbook.action]) ∨
        acts w = (E ++ [p.runbook.action], P ++ [p.runbook.action]))
      (fun _ w ↦ acts w = (E, P ++ [p.runbook.action]) ∨
        acts w = (E ++ [p.runbook.action], P ++ [p.runbook.action])) := by
    apply Exec.Triple.bind (acts_execute env settings incidentId p haction)
    intro _
    exact (frames_acts hrest).keeps fun v ↦ v = (E, P ++ [p.runbook.action]) ∨
      v = (E ++ [p.runbook.action], P ++ [p.runbook.action])
  apply Exec.triple_of_state
  rintro w ⟨htrace, hw⟩
  obtain ⟨added, heq, hall⟩ := hemits w
  rw [htrace] at heq
  have hafter := hacts.state hw
  apply Left.evaluated p input policy added hproposed heq
  · exact fun e he ↦ ⟨hallowed, hall e he⟩
  · rcases hafter with h | h <;> exact congrArg Prod.snd h
  · rcases hafter with h | h
    · exact .inl (congrArg Prod.fst h)
    · exact .inr ⟨hallowed, congrArg Prod.fst h⟩

/-- From its runbook on, a run leaves what `Left` says. -/
private theorem remediate_left (snapshot : Snapshot) (runbook : RunbookDocument)
    (hlisted : ∃ w, env.listPods w snapshot.ns demoSelector = .ok snapshot.pods)
    (hmatched : ∃ incidentType environment,
      runbooks.matching incidentType (alertConditions alert.alertName) environment
        = .ok runbook) :
    Exec.Triple (fun w ↦ seen w = (t, E, P))
      (remediate env settings incidentId snapshot runbook)
      (fun _ ↦ Left env settings runbooks alert t E P)
      (fun _ ↦ Left env settings runbooks alert t E P) := by
  apply Exec.Triple.bind
  · apply (seen_propose env settings incidentId snapshot runbook).mono
    · exact fun _ h ↦ h
    · exact fun _ _ h ↦ h
    · exact fun _ _ h ↦ .unevaluated h.1 h.2
  intro p
  apply Exec.Triple.assume
  rintro ⟨rfl, rfl, hid⟩
  have hproposed {input : PolicyInput}
      (hinput : ∃ environment, policyInput environment p = .ok input) :
      Proposed env runbooks alert p input := ⟨hlisted, hmatched, hinput⟩
  apply Exec.Triple.bind (Q := fun policy w ↦
    (∃ input, (∃ environment, policyInput environment p = .ok input) ∧
      w.trace = .evaluated input policy :: t) ∧ acts w = (E, P ++ [p.runbook.action]))
  · have hacts := (frames_acts_authorise env incidentId p).keeps
      (· = (E, P ++ [p.runbook.action]))
    apply ((authorise_evaluated env incidentId p t).and hacts).mono
    · exact fun _ h ↦ ⟨congrArg Prod.fst h, congrArg Prod.snd h⟩
    · exact fun _ _ h ↦ h
    · rintro _ w ⟨htrace | ⟨input, policy, hinput, htrace⟩, hw⟩
      · exact .unevaluated htrace (congrArg Prod.fst hw)
      · exact .evaluated p input policy [] (hproposed hinput) htrace (by simp)
          (congrArg Prod.snd hw) (.inl (congrArg Prod.fst hw))
  rintro policy w ⟨⟨input, hinput, htrace⟩, hw⟩
  exact decided_left env settings runbooks incidentId alert (hproposed hinput) hid policy w
    ⟨htrace, hw⟩

/-- Every run of the processor leaves its trace and its rows as `Left` says. -/
theorem process_left (w : World) :
    Left env settings runbooks alert w.trace (acts w).1 (acts w).2
      ((process env settings runbooks incidentId alert).run w).2 := by
  have keep {α : Type} {x : Service α} (hx : Exec.Frames seen x) :
      Exec.Triple (fun w' ↦ seen w' = seen w) x (fun _ w' ↦ seen w' = seen w)
        (fun _ ↦ Left env settings runbooks alert w.trace (acts w).1 (acts w).2) := by
    apply (hx.keeps (· = seen w)).mono
    · exact fun _ h ↦ h
    · exact fun _ _ h ↦ h
    · exact fun _ _ h ↦ .unevaluated (congrArg Prod.fst h) (congrArg (·.2.1) h)
  have leave {α : Type} {x : Service α} (hx : Exec.Frames seen x) :
      Exec.Triple (fun w' ↦ seen w' = seen w) x
        (fun _ ↦ Left env settings runbooks alert w.trace (acts w).1 (acts w).2)
        (fun _ ↦ Left env settings runbooks alert w.trace (acts w).1 (acts w).2) := by
    apply (keep hx).mono
    · exact fun _ h ↦ h
    · exact fun _ _ h ↦ .unevaluated (congrArg Prod.fst h) (congrArg (·.2.1) h)
    · exact fun _ _ h ↦ h
  have hflush : Exec.Frames seen (flush env) := frames_flush env fun _ _ ↦ rfl
  have hspec : Exec.Triple (fun w' ↦ seen w' = seen w)
      (process env settings runbooks incidentId alert)
      (fun _ ↦ Left env settings runbooks alert w.trace (acts w).1 (acts w).2)
      (fun _ ↦ Left env settings runbooks alert w.trace (acts w).1 (acts w).2) := by
    apply Exec.Triple.bind (keep (frames_query env _ fun _ _ ↦ rfl))
    intro existing
    cases existing with
    | some entry => exact leave (frames_seen_result _ _ _)
    | none =>
      apply Exec.Triple.bind ((keep (frames_gather (fun _ _ ↦ rfl) (fun _ _ ↦ rfl) env settings
        incidentId alert)).yields (yields_gather env settings incidentId alert))
      intro snapshot
      apply Exec.Triple.assume
      intro hlisted
      apply Exec.Triple.bind (keep (frames_loadIncident _))
      intro incident
      cases hmatch : runbooks.matching incident.incidentType (alertConditions alert.alertName)
        incident.environment with
      | error e =>
        apply Exec.Triple.ite
        · intro _
          apply leave
          exact Exec.frames_bind hflush fun _ ↦ Exec.frames_bind hflush fun _ ↦
            Exec.frames_bind (frames_loadIncident _) fun _ ↦ Exec.frames_pure _
        · intro _
          exact leave (Exec.frames_throw e)
      | ok runbook =>
        exact remediate_left env settings runbooks incidentId alert snapshot runbook hlisted
          ⟨_, _, hmatch⟩
  exact hspec.state rfl

end Run

end CloudWard.Reliability
