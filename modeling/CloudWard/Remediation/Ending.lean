import CloudWard.Remediation.Safety

/-!
# How a pipeline run ends

Where components fail only with the errors `UnhealthyPodPipeline.run` handles, every run
returns, and the incident it committed is resolved by a successful last verification, or
escalated, blocked or waiting. The invariant: between commits the committed incident is in
a state that can still be escalated.
-/

namespace CloudWard.Remediation.Pipeline

open CloudWard.Db CloudWard.Incidents CloudWard.Kubernetes CloudWard.Logic CloudWard.Policies
  CloudWard.Risk CloudWard.Runbooks CloudWard.Verification Service

/-- What `except CloudWardError` catches, once the executor has wrapped API errors. -/
def Handled (e : Exc) : Prop := e.isApi ∨ e.isCloudWard

/-- An environment that fails only with API errors and `CloudWardError`s. -/
structure Tame (env : Env) : Prop where
  database : ∀ w, env.database w = none
  validation : ∀ w, env.validation w = none
  listPods : ∀ w ns selector e, env.listPods w ns selector = .error e → Handled e
  readPod : ∀ w ns name e, env.readPod w ns name = .error e → Handled e
  readDeployment : ∀ w ns name e, env.readDeployment w ns name = .error e → Handled e
  serviceHealth : ∀ w ns name path e,
    env.serviceHealth w ns name path = .error e → Handled e
  refused : ∀ w m e, env.request w m = .refused e → Handled e
  lost : ∀ w m e, env.request w m = .lost e → Handled e

/-! ### What the calls raise -/

section Raising

variable {env : Env} {settings : Settings} {α : Type}

/-- The exceptions the handler of `run` catches. -/
abbrev Caught (e : Exc) : Prop := e.isCloudWard

theorem raises_require {c : Prop} [Decidable c] (error : CloudWardError) :
    Exec.Raises Caught (Service.require c error) := Exec.raises_require rfl

theorem raises_wrapping {x : Service α} (error : CloudWardError)
    (hx : Exec.Raises Handled x) : Exec.Raises Caught (wrapping error x) := by
  apply Exec.raises_tryCatch hx
  intro e he
  apply Exec.raises_throw
  rcases he with hapi | hcloud
  · exact Exc.isCloudWard_wrapApi error e hapi
  · cases e <;> simp_all [Caught, Exc.wrapApi, Exc.isCloudWard]

theorem raises_call {answer : World → Except Exc α} {q : Exc → Prop}
    (h : ∀ w e, answer w = .error e → q e) : Exec.Raises q (call answer) := by
  intro w _
  rw [run_call]
  cases hanswer : answer w with
  | ok a => trivial
  | error e => exact h w e hanswer

theorem raises_ask {answer : World → α} {q : Exc → Prop} : Exec.Raises q (ask answer) :=
  triple_ask fun _ _ ↦ trivial

theorem raises_flush (ht : Tame env) {q : Exc → Prop} : Exec.Raises q (flush env) := by
  intro w _
  rw [run_flush, ht.database]
  trivial

theorem raises_query (ht : Tame env) {q : Exc → Prop} (f : Database → α) :
    Exec.Raises q (query env f) :=
  Exec.raises_bind (raises_flush ht) fun _ ↦ Exec.raises_read _

theorem raises_validateName (value label : String) :
    Exec.Raises Caught (validateName value label) := raises_require _

theorem raises_requireNamespace (ns : String) :
    Exec.Raises Caught (requireNamespace settings ns) :=
  Exec.raises_bind (raises_validateName _ _) fun _ ↦ raises_require _

theorem raises_getDeployment (ht : Tame env) (ns name : String) :
    Exec.Raises Caught (getDeployment env ns name) :=
  Exec.raises_bind (raises_validateName _ _) fun _ ↦
    Exec.raises_bind (raises_validateName _ _) fun _ ↦
    Exec.raises_bind
      (raises_wrapping _ (raises_call fun w e ↦ ht.readDeployment w ns name e)) fun _ ↦
    Exec.raises_pure _

theorem raises_getPods (ht : Tame env) (ns selector : String) :
    Exec.Raises Caught (getPods env ns selector) :=
  Exec.raises_bind (raises_validateName _ _) fun _ ↦
    Exec.raises_bind (raises_require _) fun _ ↦
    raises_wrapping _ (raises_call fun w e ↦ ht.listPods w ns selector e)

theorem raises_getPodHealth (ht : Tame env) (ns name : String) :
    Exec.Raises Caught (getPodHealth env ns name) :=
  Exec.raises_bind (raises_validateName _ _) fun _ ↦
    Exec.raises_bind (raises_validateName _ _) fun _ ↦
    raises_wrapping _ (raises_call fun w e ↦ ht.readPod w ns name e)

theorem raises_getServiceHealth (ht : Tame env) (ns name path : String) :
    Exec.Raises Caught (getServiceHealth env ns name path) := by
  apply Exec.raises_bind (raises_validateName _ _)
  intro _
  apply Exec.raises_bind (raises_validateName _ _)
  intro _
  cases normalizedPath path with
  | none => exact Exec.raises_throw rfl
  | some normalized =>
    apply Exec.raises_tryCatch (r := Handled)
    · exact Exec.raises_bind (raises_call fun w e ↦ ht.serviceHealth w ns name normalized e)
        fun _ ↦ Exec.raises_pure _
    intro e he
    apply Exec.raises_ite
    · exact fun _ ↦ Exec.raises_pure _
    · intro hapi
      apply Exec.raises_throw
      exact he.resolve_left hapi

theorem raises_send (ht : Tame env) (m : Mutation) : Exec.Raises Handled (send env m) := by
  intro w _
  have hask : (ask (env.request · m)).run w =
      (.ok (env.request w m), { w with tick := w.tick + 1 }) := rfl
  unfold send
  rw [Exec.run_bind_of_ok hask]
  cases hreply : env.request w m with
  | done => trivial
  | refused e => exact ht.refused w m e hreply
  | lost e => exact ht.lost w m e hreply

theorem raises_deletePod (ht : Tame env) (ns name : String) :
    Exec.Raises Caught (deletePod env settings ns name) := by
  apply Exec.raises_bind (Exec.raises_update _)
  intro _
  apply Exec.raises_bind (raises_requireNamespace _)
  intro _
  apply Exec.raises_bind (raises_getPodHealth ht _ _)
  intro pod
  apply Exec.raises_bind (raises_require _)
  intro _
  apply Exec.raises_bind (raises_require _)
  intro _
  apply Exec.raises_bind (raises_require _)
  intro _
  exact raises_wrapping _ (raises_send ht _)

theorem raises_collect (ht : Tame env) (target : UnhealthyPodTarget) :
    Exec.Raises Caught (collectKubernetesState env target) := by
  apply Exec.raises_bind (raises_getDeployment ht _ _)
  intro deployment
  apply Exec.raises_bind (raises_getPods ht _ _)
  intro pods
  exact Exec.raises_bind (Exec.raises_update _) fun _ ↦ Exec.raises_pure _

theorem raises_authorise (p : Proposal) (pod : PodState) :
    Exec.Raises Caught (authorise env p pod) := by
  apply Exec.raises_bind
  · exact Exec.raises_bind raises_ask fun _ ↦
      Exec.raises_bind (Exec.raises_update _) fun _ ↦ Exec.raises_pure _
  intro policy
  exact Exec.raises_bind (Exec.raises_update _) fun _ ↦ Exec.raises_pure _

theorem raises_reauthorise (p : Proposal) (current : Option PodState) :
    Exec.Raises Caught (reauthorise env p current) := by
  cases current with
  | none => exact Exec.raises_pure _
  | some pod => exact Exec.raises_bind (raises_authorise p pod) fun _ ↦ raises_require _

/-- A check raises nothing: its exceptions are failed checks. -/
theorem raises_checkOnce (subject : Subject) {q : Exc → Prop} :
    Exec.Raises q (checkOnce env subject) := by
  apply Exec.raises_bind
  · apply Exec.raises_tryCatch_any
    exact fun _ ↦ Exec.raises_pure _
  intro reconciliation
  apply Exec.raises_bind
  · apply Exec.raises_tryCatch_any
    exact fun _ ↦ Exec.raises_pure _
  exact fun _ ↦ Exec.raises_pure _

theorem raises_verifyUntil (subject : Subject) {q : Exc → Prop} :
    Exec.Raises q (verifyUntil env subject) := by
  apply Exec.raises_bind raises_ask
  intro left
  suffices h : ∀ attempts, Exec.Raises q (poll env subject left attempts) from h 0
  induction left with
  | zero =>
    intro attempts
    exact Exec.raises_bind (raises_checkOnce subject) fun _ ↦ Exec.raises_pure _
  | succ left ih =>
    intro attempts
    apply Exec.raises_bind (raises_checkOnce subject)
    intro last
    exact Exec.raises_ite (fun _ ↦ Exec.raises_pure _) fun _ ↦ ih _

end Raising

/-! ### The invariant between commits -/

/-- The committed incident can still be escalated. -/
def Open (id : Nat) (db : Database) : Prop :=
  ∃ s, db.incidents[id]?.map (·.state) = some s ∧ s.isTerminal = false

/-- What the invariant is about: the incident's state, the committed rows, and of every
execution its incident and attempt. -/
def view (id : Nat) (w : World) : Option IncidentState × Database × List (Nat × Nat) :=
  (w.db.incidents[id]?.map (·.state), w.committed,
    w.db.executions.map fun e ↦ (e.incidentId, e.attempt))

/-- The incident is in state `s`, what is committed can be escalated, and the next
execution may have attempt `n`. -/
structure Live (id : Nat) (s : IncidentState) (n : Nat)
    (v : Option IncidentState × Database × List (Nat × Nat)) : Prop where
  state : v.1 = some s
  committed : Open id v.2.1
  attempts : ∀ k ∈ v.2.2, k.1 = id → k.2 < n

/-- A handled exception from a run that can still be escalated. -/
def Recoverable (id : Nat) (e : Exc) (w : World) : Prop := Caught e ∧ Open id w.committed

section Ends

variable {env : Env} {id n : Nat} {s target : IncidentState} {α : Type}

theorem Tame.quiet (ht : Tame env) : Quiet env := ⟨ht.database, ht.validation⟩

/-- A program that leaves the view alone and raises only what is caught. -/
theorem live_of_frames {x : Service α} (hf : Exec.Frames (view id) x)
    (hr : Exec.Raises Caught x) :
    Exec.Triple (fun w ↦ Live id s n (view id w)) x (fun _ w ↦ Live id s n (view id w))
      (Recoverable id) := by
  apply (hf.raises hr (Live id s n)).mono
  · exact fun _ h ↦ h
  · exact fun _ _ h ↦ h
  · exact fun _ _ h ↦ ⟨h.1, h.2.committed⟩

/-- The incident's columns other than its state are not part of the view. -/
theorem frames_view_updateIncident (f : Incident → Incident)
    (hf : ∀ incident, (f incident).state = incident.state) (id' : Nat) :
    Exec.Frames (view id) (updateIncident id' f) := by
  apply Exec.frames_update
  intro w
  simp only [view, Table.getElem?_update]
  split
  · next h =>
    subst h
    rw [Option.map_map]
    have hcomp : (fun incident : Incident ↦ incident.state) ∘ f = (·.state) := funext hf
    rw [hcomp]
  · rfl

/-- A state change reaches its target, or raises what is caught. -/
theorem live_changeIncidentState (ht : Tame env) (settings : Settings) (actor : String)
    (details : Details) :
    Exec.Triple (fun w ↦ Live id s n (view id w))
      (changeIncidentState env settings id target actor details)
      (fun _ w ↦ Live id target n (view id w)) (Recoverable id) := by
  intro w hw
  have hstate : w.db.incidents[id]?.map (·.state) = some s := hw.state
  obtain ⟨row, hrow, hs⟩ := Option.map_eq_some_iff.mp hstate
  by_cases hne : s = target
  · obtain ⟨m, hm⟩ : Reaches (changeIncidentState env settings id target actor details) w () w := by
      apply reaches_bind (reaches_loadIncident hrow)
      intro _
      exact reaches_when_not fun h ↦ h (hs.trans hne)
    rw [hm]
    rw [← hne]
    exact ⟨hw.state, hw.committed, hw.attempts⟩
  by_cases hallowed : target ∈ allowedTransitions s
  · obtain ⟨_, _, hrun, now, t, _, _, m, rfl⟩ :=
      returns_changeIncidentState ht.quiet settings actor details hstate hallowed hne
    rw [hrun]
    refine ⟨?_, hw.committed, hw.attempts⟩
    simp only [view, Table.getElem?_update_self, hrow, Option.map_some, state_withState]
  · obtain ⟨e, he⟩ : ∃ e, transitionIncident s target = .error e := by
      unfold transitionIncident
      rw [if_neg hallowed]
      exact ⟨_, rfl⟩
    obtain ⟨m, hm⟩ := reaches_loadIncident (w := w) hrow
    have hcheck (w : World) : (checkTransition row.state target).run w = (.error e, w) := by
      unfold checkTransition
      rw [hs, he]
      rfl
    have hrun : (changeIncidentState env settings id target actor details).run w =
        (.error e, { w with tick := m }) := by
      unfold changeIncidentState
      rw [Exec.run_bind_of_ok hm, Exec.run_when, if_pos (hs ▸ hne)]
      rw [Exec.run_bind_of_error]
      rw [Exec.run_when, if_pos Bool.false_ne_true, hcheck]
    rw [hrun]
    exact ⟨isCloudWard_of_transitionIncident he, hw.committed⟩

theorem frames_view_write (f : Database → Database)
    (h : ∀ db, (f db).incidents = db.incidents ∧ (f db).executions = db.executions) :
    Exec.Frames (view id) (write f) := by
  apply Exec.frames_update
  intro w
  simp only [view, (h w.db).1, (h w.db).2]

/-- An execution's incident and attempt are set once. -/
theorem frames_view_updateExecution (f : ActionExecution → ActionExecution)
    (hf : ∀ e, ((f e).incidentId, (f e).attempt) = (e.incidentId, e.attempt))
    (executionId : Nat) : Exec.Frames (view id) (updateExecution executionId f) := by
  apply Exec.frames_update
  intro w
  simp only [view, Table.update]
  congr 2
  apply List.ext_getElem?
  intro i
  rw [List.getElem?_map, List.getElem?_map, List.getElem?_modify]
  split
  · next h =>
    subst h
    cases w.db.executions[executionId]? with
    | none => rfl
    | some e => exact congrArg some (hf e)
  · next h => simp

/-- A commit of a state that can be escalated. -/
theorem live_commit (ht : Tame env) (hs : s.isTerminal = false) :
    Exec.Triple (fun w ↦ Live id s n (view id w)) (commit env)
      (fun _ w ↦ Live id s n (view id w)) (Recoverable id) := by
  intro w hw
  obtain ⟨m, hm⟩ := reaches_commit ht.quiet w
  rw [hm]
  exact ⟨hw.state, ⟨s, hw.state, hs⟩, hw.attempts⟩

theorem live_flush (ht : Tame env) :
    Exec.Triple (fun w ↦ Live id s n (view id w)) (flush env)
      (fun _ w ↦ Live id s n (view id w)) (Recoverable id) :=
  live_of_frames (frames_flush env fun _ _ ↦ rfl) (raises_flush ht)

theorem live_updateIncident {f : Incident → Incident}
    (hf : ∀ incident, (f incident).state = incident.state) :
    Exec.Triple (fun w ↦ Live id s n (view id w)) (updateIncident id f)
      (fun _ w ↦ Live id s n (view id w)) (Recoverable id) :=
  live_of_frames (frames_view_updateIncident f hf id) (Exec.raises_update _)

theorem live_gather (ht : Tame env) (settings : Settings) (target : UnhealthyPodTarget)
    (actor : String) :
    Exec.Triple (fun w ↦ Live id s n (view id w)) (gather env settings id target actor)
      (fun _ w ↦ Live id .collectingEvidence n (view id w)) (Recoverable id) := by
  apply Exec.Triple.bind (live_changeIncidentState ht settings actor _)
  intro _
  apply Exec.Triple.bind (live_of_frames (frames_collect (fun _ _ ↦ rfl) (fun _ _ ↦ rfl) env target) (raises_collect ht target))
  intro evidence
  apply Exec.Triple.bind (live_of_frames (frames_getServiceHealth (fun _ _ ↦ rfl) env _ _ _)
    (raises_getServiceHealth ht _ _ _))
  intro _
  apply Exec.Triple.bind (live_flush ht)
  intro _
  apply Exec.Triple.bind (live_commit ht rfl)
  intro _
  exact Exec.Triple.pure fun _ h ↦ h

theorem live_choose (ht : Tame env) (settings : Settings) (runbooks : RunbookLoader)
    (target : UnhealthyPodTarget) (actor : String) (evidence : KubernetesEvidence) :
    Exec.Triple (fun w ↦ Live id s n (view id w))
      (choose env settings runbooks id target actor evidence)
      (fun _ w ↦ Live id .actionProposed n (view id w)) (Recoverable id) := by
  have hselect : Exec.Raises Caught
      (Exec.ofExcept (selectUnhealthyPod evidence target.podName) : Service PodState) := by
    apply Exec.raises_ofExcept
    intro e he
    unfold selectUnhealthyPod at he
    simp only at he
    split at he
    · cases he
    · cases he
      rfl
  have hmatch : Exec.Raises Caught (Exec.ofExcept
      (runbooks.matching "reliability" ["pod_unhealthy"] target.environment) :
        Service RunbookDocument) := by
    apply Exec.raises_ofExcept
    intro e he
    rw [runbooks.matching_eq_error he]
    rfl
  apply Exec.Triple.bind (live_of_frames (Exec.frames_ofExcept _) hselect)
  intro pod
  apply Exec.Triple.bind (live_changeIncidentState ht settings actor _)
  intro _
  apply Exec.Triple.bind (live_of_frames (Exec.frames_ofExcept _) hmatch)
  intro runbook
  apply Exec.Triple.bind
  · apply live_of_frames
    · exact Exec.frames_bind (Exec.frames_require _ _) fun _ ↦ Exec.frames_require _ _
    · exact Exec.raises_bind (raises_require _) fun _ ↦ raises_require _
  intro _
  apply Exec.Triple.bind
  · exact live_updateIncident fun _ ↦ rfl
  intro _
  apply Exec.Triple.bind
  · apply live_of_frames
    · exact Exec.frames_bind (Exec.frames_read _) fun _ ↦
        Exec.frames_bind (frames_view_write _ fun _ ↦ ⟨rfl, rfl⟩) fun _ ↦ Exec.frames_pure _
    · exact Exec.raises_bind (Exec.raises_read _) fun _ ↦
        Exec.raises_bind (Exec.raises_update _) fun _ ↦ Exec.raises_pure _
  intro runbookExecutionId
  apply Exec.Triple.bind (live_flush ht)
  intro _
  apply Exec.Triple.bind (live_changeIncidentState ht settings actor _)
  intro _
  exact Exec.Triple.pure fun _ h ↦ h

theorem live_propose (ht : Tame env) (settings : Settings) (target : UnhealthyPodTarget)
    (actor : String) (pod : PodState) (runbook : RunbookDocument) (runbookExecutionId : Nat) :
    Exec.Triple (fun w ↦ Live id s n (view id w))
      (propose env settings id target actor pod runbook runbookExecutionId)
      (fun _ w ↦ Live id .policyEvaluation n (view id w)) (Recoverable id) := by
  have hexecutable : Exec.Raises Caught (Exec.ofExcept
      (requireExecutableAction runbook.action target.environment) : Service ActionMetadata) :=
    Exec.raises_ofExcept fun e he ↦ isCloudWard_of_requireExecutableAction he
  apply Exec.Triple.bind (live_of_frames (Exec.frames_ofExcept _) hexecutable)
  intro metadata
  apply Exec.Triple.bind
  · exact live_updateIncident fun _ ↦ rfl
  intro _
  apply Exec.Triple.bind
  · apply live_of_frames
    · exact Exec.frames_bind (Exec.frames_read _) fun _ ↦
        Exec.frames_bind (frames_view_write _ fun _ ↦ ⟨rfl, rfl⟩) fun _ ↦ Exec.frames_pure _
    · exact Exec.raises_bind (Exec.raises_read _) fun _ ↦
        Exec.raises_bind (Exec.raises_update _) fun _ ↦ Exec.raises_pure _
  intro proposalId
  apply Exec.Triple.bind (live_flush ht)
  intro _
  apply Exec.Triple.bind (live_flush ht)
  intro _
  apply Exec.Triple.bind (live_flush ht)
  intro _
  apply Exec.Triple.bind (live_changeIncidentState ht settings actor _)
  intro _
  exact Exec.Triple.pure fun _ h ↦ h

theorem live_authorise (p : Proposal) (pod : PodState) :
    Exec.Triple (fun w ↦ Live id s n (view id w)) (authorise env p pod)
      (fun _ w ↦ Live id s n (view id w)) (Recoverable id) := by
  apply live_of_frames _ (raises_authorise p pod)
  apply Exec.frames_bind (frames_evaluate env _ (fun _ _ ↦ rfl) fun _ _ ↦ rfl)
  intro policy
  exact Exec.frames_bind (frames_view_write _ fun _ ↦ ⟨rfl, rfl⟩) fun _ ↦ Exec.frames_pure _

theorem live_settle (p : Proposal) (status : RecordStatus) :
    Exec.Triple (fun w ↦ Live id s n (view id w)) (settle p status)
      (fun _ w ↦ Live id s n (view id w)) (Recoverable id) := by
  apply live_of_frames
  · exact Exec.frames_bind (frames_view_write _ fun _ ↦ ⟨rfl, rfl⟩) fun _ ↦
      frames_view_write _ fun _ ↦ ⟨rfl, rfl⟩
  · exact Exec.raises_bind (Exec.raises_update _) fun _ ↦ Exec.raises_update _

/-- The next attempt's execution is unique, and counts. -/
theorem live_insertExecution (ht : Tame env) {r : ActionExecution}
    (hincident : r.incidentId = id) (hattempt : r.attempt = n)
    (hkey : r.idempotencyKey = none) :
    Exec.Triple (fun w ↦ Live id s n (view id w)) (insertExecution env r)
      (fun _ w ↦ Live id s (n + 1) (view id w)) (Recoverable id) := by
  intro w hw
  have hunique : executionIsUnique w.db.executions r := by
    intro e he
    constructor
    · intro heq
      have hlt := hw.attempts (e.incidentId, e.attempt) (List.mem_map_of_mem he)
        ((congrArg Prod.fst heq).trans hincident)
      have hsame : e.attempt = n := (congrArg Prod.snd heq).trans hattempt
      simp only at hlt
      omega
    · intro hsome
      rw [hkey] at hsome
      cases hsome
  obtain ⟨m, hm⟩ := reaches_insertExecution ht.quiet hunique
  rw [hm]
  refine ⟨hw.state, hw.committed, ?_⟩
  intro k hk hid
  simp only [view, Table.insert, List.map_append, List.mem_append, List.map_cons,
    List.map_nil, List.mem_singleton] at hk
  rcases hk with hk | rfl
  · exact Nat.lt_succ_of_lt (hw.attempts k hk hid)
  · simp only [hattempt]
    omega

theorem live_act (ht : Tame env) (settings : Settings) (p : Proposal) (executionId : Nat)
    (current : Option PodState) :
    Exec.Triple (fun w ↦ Live id s n (view id w)) (act env settings p executionId current)
      (fun _ w ↦ Live id s n (view id w)) (Recoverable id) := by
  cases current with
  | none =>
    apply live_of_frames _ (Exec.raises_update _)
    apply frames_view_updateExecution
    exact fun _ ↦ rfl
  | some pod =>
    apply Exec.Triple.bind
    · exact live_of_frames (frames_deletePod (fun _ _ ↦ rfl) (fun _ _ ↦ rfl) (fun _ _ ↦ rfl)
        env settings _ _) (raises_deletePod ht _ _)
    intro _
    apply Exec.Triple.bind
    · apply live_of_frames _ (Exec.raises_update _)
      apply frames_view_updateExecution
      exact fun _ ↦ rfl
    intro _
    exact live_flush ht

/-- What the last verification of a trace reported. -/
def lastVerified (t : List Event) : Option Bool :=
  t.findSome? fun
    | .verified success => some success
    | _ => none

/-- An attempt ends verified, and nothing is reported after its verification. -/
theorem live_attemptOnce (ht : Tame env) (settings : Settings) (actor : String)
    {p : Proposal} (hp : p.incidentId = id) (h : 1 ≤ n ∧ n ≤ 3) (current : Option PodState) :
    Exec.Triple (fun w ↦ Live id s n (view id w))
      (attemptOnce env settings actor p n h current)
      (fun verification w ↦ Live id .verifying (n + 1) (view id w) ∧
        lastVerified w.trace = some verification.success)
      (Recoverable id) := by
  subst hp
  apply Exec.Triple.bind
  · exact live_updateIncident fun _ ↦ rfl
  intro _
  apply Exec.Triple.bind
  · exact live_insertExecution ht (r := attemptRow p n h) rfl rfl rfl
  intro executionId
  apply Exec.Triple.bind (live_act ht settings p executionId current)
  intro _
  apply Exec.Triple.bind (live_changeIncidentState ht settings actor _)
  intro _
  apply Exec.Triple.bind (live_commit ht rfl)
  intro _
  apply Exec.Triple.bind (live_of_frames (frames_verifyUntil (fun _ _ ↦ rfl) env _)
    (raises_verifyUntil _))
  intro verification
  apply Exec.Triple.bind (Q := fun _ w ↦
    Live p.incidentId .verifying (n + 1) (view p.incidentId w) ∧
      lastVerified w.trace = some verification.success)
  · exact Exec.Triple.update fun w hw ↦ ⟨hw, rfl⟩
  intro _
  apply Exec.Triple.bind ((live_flush ht).framed (f := World.trace)
    (frames_flush env fun _ _ ↦ rfl) (lastVerified · = some verification.success))
  intro _
  exact Exec.Triple.pure fun _ h ↦ h

/-- How a run ends: its outcome is the committed incident's state, and resolved only by a
successful last verification. -/
structure Ended (id : Nat) (outcome : PipelineOutcome) (w : World) : Prop where
  incident : outcome.incidentId = id
  committed : w.committed.incidents[id]?.map (·.state) = some outcome.state
  ending : (outcome.state = .resolved ∧ lastVerified w.trace = some true) ∨
    outcome.state ∈ [IncidentState.escalated, .blocked, .awaitingApproval]

/-- A commit, and the outcome of what it commits. -/
theorem ended_commit (ht : Tame env) {outcome : PipelineOutcome}
    (hid : outcome.incidentId = id) {P : World → Prop}
    (hp : ∀ w, P w → Live id outcome.state n (view id w) ∧
      ((outcome.state = .resolved ∧ lastVerified w.trace = some true) ∨
        outcome.state ∈ [IncidentState.escalated, .blocked, .awaitingApproval])) :
    Exec.Triple P (do commit env; return outcome) (Ended id) (Recoverable id) := by
  intro w hw
  obtain ⟨hlive, hending⟩ := hp w hw
  obtain ⟨m, hm⟩ := reaches_commit ht.quiet w
  rw [Exec.run_bind_of_ok hm]
  exact ⟨hid, hlive.state, hending⟩

theorem ended_hold (ht : Tame env) (settings : Settings) (actor : String) {p : Proposal}
    (hp : p.incidentId = id) (policy : PolicyResult) :
    Exec.Triple (fun w ↦ Live id s n (view id w)) (hold env settings actor p policy)
      (Ended id) (Recoverable id) := by
  subst hp
  apply Exec.Triple.bind (live_changeIncidentState ht settings actor _)
  intro _
  apply Exec.Triple.bind (live_settle p _)
  intro _
  apply Exec.Triple.bind
  · exact live_of_frames (Exec.frames_when fun _ ↦ frames_flush env fun _ _ ↦ rfl)
      (Exec.raises_when fun _ ↦ raises_flush ht)
  intro _
  apply ended_commit ht rfl
  intro w hw
  refine ⟨hw, .inr ?_⟩
  cases policy.requiresApproval <;> simp

theorem ended_resolve (ht : Tame env) (settings : Settings) (actor : String) {p : Proposal}
    (hp : p.incidentId = id) (policy : PolicyResult) (verification : VerificationResult)
    (attempt : Nat) :
    Exec.Triple
      (fun w ↦ Live id s n (view id w) ∧ lastVerified w.trace = some true)
      (resolve env settings actor p policy verification attempt) (Ended id)
      (Recoverable id) := by
  subst hp
  apply Exec.Triple.bind ((live_settle p _).framed (frames_trace_settle p _)
    (lastVerified · = some true))
  intro _
  apply Exec.Triple.bind ((live_changeIncidentState ht settings actor _).framed
    (frames_trace_changeIncidentState env settings _ _ _ _) (lastVerified · = some true))
  intro _
  apply Exec.Triple.bind ((live_flush ht).framed (f := World.trace)
    (frames_flush env fun _ _ ↦ rfl) (lastVerified · = some true))
  intro _
  apply ended_commit ht rfl
  exact fun w hw ↦ ⟨hw.1, .inl ⟨rfl, hw.2⟩⟩

theorem ended_exhaust (ht : Tame env) (settings : Settings) (actor : String) {p : Proposal}
    (hp : p.incidentId = id) (policy : PolicyResult) (verification : VerificationResult) :
    Exec.Triple (fun w ↦ Live id s n (view id w))
      (exhaust env settings actor p policy verification) (Ended id) (Recoverable id) := by
  subst hp
  apply Exec.Triple.bind (live_settle p _)
  intro _
  apply Exec.Triple.bind (live_changeIncidentState ht settings actor _)
  intro _
  apply Exec.Triple.bind (live_flush ht)
  intro _
  apply ended_commit ht rfl
  exact fun w hw ↦ ⟨hw, .inr List.mem_cons_self⟩

theorem live_reconsider (ht : Tame env) (settings : Settings) (actor : String) {p : Proposal}
    (hp : p.incidentId = id) :
    Exec.Triple (fun w ↦ Live id s n (view id w)) (reconsider env settings actor p)
      (fun _ w ↦ Live id .executing n (view id w)) (Recoverable id) := by
  subst hp
  apply Exec.Triple.bind (live_changeIncidentState ht settings actor _)
  intro _
  apply Exec.Triple.bind (live_of_frames
    (frames_collect (fun _ _ ↦ rfl) (fun _ _ ↦ rfl) env p.target) (raises_collect ht p.target))
  intro evidence
  apply Exec.Triple.bind (Q := fun _ w ↦ Live p.incidentId .executing n (view p.incidentId w))
  · cases retryPod evidence with
    | none => exact Exec.Triple.pure fun _ h ↦ h
    | some pod =>
      apply Exec.Triple.bind (live_authorise p pod)
      intro policy
      exact live_of_frames (Exec.frames_require _ _) (raises_require _)
  intro _
  apply Exec.Triple.bind (live_commit ht rfl)
  intro _
  exact Exec.Triple.pure fun _ h ↦ h

/-- The attempts that are left end the run. -/
theorem ended_attempts (ht : Tame env) (settings : Settings) (actor : String) {p : Proposal}
    (hp : p.incidentId = id) (policy : PolicyResult) (left : Nat)
    (h : left < settings.maxRemediationAttempts) (current : Option PodState)
    (s : IncidentState) :
    Exec.Triple (fun w ↦ Live id s (attemptNumber settings left) (view id w))
      (attempts env settings actor p policy left h current) (Ended id) (Recoverable id) := by
  induction left generalizing current s with
  | zero =>
    apply Exec.Triple.bind (live_attemptOnce ht settings actor hp _ current)
    intro verification
    apply Exec.Triple.ite
    · intro hsuccess
      rw [hsuccess]
      exact ended_resolve ht settings actor hp policy verification _
    · intro _
      apply (ended_exhaust ht settings actor hp policy verification).mono
      · exact fun _ h ↦ h.1
      · exact fun _ _ h ↦ h
      · exact fun _ _ h ↦ h
  | succ left ih =>
    have hnext : attemptNumber settings (left + 1) + 1 = attemptNumber settings left := by
      unfold attemptNumber
      omega
    apply Exec.Triple.bind (live_attemptOnce ht settings actor hp _ current)
    intro verification
    rw [hnext]
    apply Exec.Triple.ite
    · intro hsuccess
      rw [hsuccess]
      exact ended_resolve ht settings actor hp policy verification _
    · intro _
      apply Exec.Triple.bind (Q := fun _ w ↦
        Live id .executing (attemptNumber settings left) (view id w))
      · apply (live_reconsider ht settings actor hp).mono
        · exact fun _ h ↦ h.1
        · exact fun _ _ h ↦ h
        · exact fun _ _ h ↦ h
      intro next
      exact ih (Nat.lt_of_succ_lt h) next .executing

theorem ended_process (ht : Tame env) (settings : Settings) (runbooks : RunbookLoader)
    (target : UnhealthyPodTarget) (actor : String) :
    Exec.Triple (fun w ↦ Live id s 1 (view id w))
      (process env settings runbooks id target actor) (Ended id) (Recoverable id) := by
  apply Exec.Triple.bind (live_gather ht settings target actor)
  intro evidence
  apply Exec.Triple.bind (live_choose ht settings runbooks target actor evidence)
  intro chosen
  obtain ⟨pod, runbook, runbookExecutionId⟩ := chosen
  apply Exec.Triple.bind
    ((live_propose ht settings target actor pod runbook runbookExecutionId).yields
      (yields_propose env settings actor id target pod runbook runbookExecutionId))
  intro p
  apply Exec.Triple.assume
  rintro ⟨hp, -, -, -, -⟩
  apply Exec.Triple.bind (live_authorise p pod)
  intro policy
  apply Exec.Triple.bind (live_flush ht)
  intro _
  apply Exec.Triple.ite
  · intro _
    exact ended_hold ht settings actor hp policy
  · intro _
    subst hp
    have hfirst : attemptNumber settings (retries settings) = 1 := by
      have := settings.maxRemediationAttempts_mem
      unfold attemptNumber retries
      omega
    have hattempts := ended_attempts ht settings actor (p := p) rfl policy (retries settings)
      (retries_lt settings) (some p.pod) .executing
    rw [hfirst] at hattempts
    apply Exec.Triple.bind
    · exact live_of_frames (frames_view_write _ fun _ ↦ ⟨rfl, rfl⟩) (Exec.raises_update _)
    intro _
    apply Exec.Triple.bind (live_changeIncidentState ht settings actor _)
    intro _
    apply Exec.Triple.bind (live_commit ht rfl)
    intro _
    exact hattempts

/-- The handler escalates what can be escalated, and raises nothing. -/
theorem ended_escalate (ht : Tame env) (settings : Settings) (actor : String) (e : Exc) :
    Exec.Triple (Recoverable id e) (escalate env settings id actor e) (Ended id)
      (fun _ _ ↦ False) := by
  rintro w ⟨hcaught, s, hstate, hopen⟩
  obtain ⟨row, hrow, rfl⟩ := Option.map_eq_some_iff.mp hstate
  have hq := ht.quiet
  have hreturns : Returns (escalate env settings id actor e) w (Ended id) := by
    unfold escalate
    rw [if_pos hcaught]
    apply returns_bind (reaches_rollback w)
    intro _
    apply returns_bind (reaches_flush hq _)
    intro _
    apply returns_bind (reaches_loadIncident (by exact hrow))
    intro _
    apply Returns.bind
    · apply returns_when (Q := fun _ w' ↦ w'.committed = w'.db ∧
        w'.db.incidents[id]?.map (·.state) = some .escalated)
      · intro _
        apply Returns.bind
        · exact returns_changeIncidentState hq settings actor {} (by exact hstate)
            (escalated_mem_of_not_isTerminal _ hopen) (by rintro h; rw [h] at hopen; cases hopen)
        rintro _ _ ⟨now, t, _, _, n, rfl⟩
        apply returns_bind (reaches_flush hq _)
        intro _
        apply (reaches_commit hq _).returns
        intro _
        constructor
        · rfl
        · simp only [Table.getElem?_update_self, hrow, Option.map_some, state_withState]
      · intro h
        rw [hopen] at h
        exact absurd Bool.false_ne_true h
    rintro _ w' ⟨hcommitted, hescalated⟩
    obtain ⟨row', hrow', hstate'⟩ := Option.map_eq_some_iff.mp hescalated
    apply returns_bind (reaches_loadIncident hrow')
    intro _
    apply (reaches_pure _ _).returns
    intro _
    refine ⟨rfl, ?_, .inr ?_⟩
    · rw [hstate']
      simp only [hcommitted]
      exact hescalated
    · rw [hstate']
      exact List.mem_cons_self
  obtain ⟨outcome, w', hrun, hended⟩ := hreturns
  rw [hrun]
  exact hended

/-- Every run ends, and as it should. -/
theorem ended_run (ht : Tame env) (settings : Settings) (runbooks : RunbookLoader)
    (target : UnhealthyPodTarget) (correlationId actor : String) (db : Database)
    (hdb : ∀ e ∈ db.executions, e.incidentId < db.incidents.length) :
    ∃ outcome w, (run env settings runbooks target correlationId actor).run (start db) =
      (.ok outcome, w) ∧ Ended db.incidents.fresh outcome w := by
  apply returns_bind (reaches_createIncident ht.quiet _ actor (start db))
  intro _
  apply returns_bind (reaches_commit ht.quiet _)
  intro n
  have hprocess : Exec.Triple
      (fun w ↦ Live db.incidents.fresh .detected 1 (view db.incidents.fresh w))
      (process env settings runbooks db.incidents.fresh target actor)
      (Ended db.incidents.fresh) (Recoverable db.incidents.fresh) :=
    ended_process ht settings runbooks target actor
  have hspec := hprocess.tryCatch fun e ↦ ended_escalate ht settings actor e
  have hstate : (db.incidents.insert (asCreated actor (incidentRow target correlationId)))[
      db.incidents.fresh]?.map (·.state) = some IncidentState.detected := by
    rw [Table.getElem?_insert_fresh]
    rfl
  have hrun := hspec { start db with
    db := { db with incidents := db.incidents.insert _ }
    committed := { db with incidents := db.incidents.insert _ }
    trace := [.committed]
    tick := n
    activeIncidents := counted (start db) target.environment 1 } ⟨hstate, ⟨_, hstate, rfl⟩, by
      intro k hk hid
      obtain ⟨e, he, rfl⟩ := List.mem_map.mp hk
      have hlt := hdb e he
      simp only [Table.fresh] at hid
      omega⟩
  split at hrun
  · next outcome w hrun' =>
    exact ⟨outcome, w, hrun', hrun⟩
  · exact hrun.elim

end Ends

/-! ### The run -/

/-- The rows that `action_executions.incident_id`'s foreign key allows. -/
def Keyed (db : Database) : Prop :=
  ∀ e ∈ db.executions, e.incidentId < db.incidents.length

theorem tame_calm : Tame calm where
  database _ := rfl
  validation _ := rfl
  listPods _ _ _ _ h := nomatch h
  readPod _ _ _ _ h := by
    cases h
    exact .inl rfl
  readDeployment _ _ _ _ h := nomatch h
  serviceHealth _ _ _ _ _ h := nomatch h
  refused _ _ _ h := nomatch h
  lost _ _ _ h := nomatch h

/-- A policy that allows and requires an approval at once, for one unhealthy pod. -/
def allowingWithApproval : Env :=
  { calm with
    opa := fun _ _ ↦
      { allowed := true
        requiresApproval := true
        reason := "operator approval required"
        reason_length := by decide }
    listPods := fun _ _ _ ↦ .ok [makePod "demo-a" false, makePod "demo-b" true]
    readPod := fun _ _ name ↦ .ok (makePod name false) }

end CloudWard.Remediation.Pipeline
