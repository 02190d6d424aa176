import CloudWard.Approvals.Requested
import CloudWard.Remediation.Safety

/-!
# The approvals of a pipeline run

A run asks for an approval only where its first evaluation requires one, and then it ends;
the attempts, and the handler of `run`, request nothing. What it leaves waiting is its own
proposal, for a deployment that its evidence stage has read.
-/

namespace CloudWard.Remediation.Pipeline

open CloudWard.Approvals CloudWard.Db CloudWard.Incidents CloudWard.Kubernetes CloudWard.Logic
  CloudWard.Policies CloudWard.Risk CloudWard.Runbooks CloudWard.Verification Service

/-- Why a run asks: its evaluation required an approval. -/
def Asking (decision : PolicyDecision) : Prop := decision.requiresApproval

/-! ### Stages that request nothing -/

/-- Nothing was added to the approvals of the session and of the database, and what was
requested comes from evaluations. -/
structure Silent (env : Env) (rs : List ApprovalRequest) (n : Nat) (w : World) : Prop where
  requests : RequestsFrom env Asking rs w
  session : w.db.approvals.length = n
  stored : w.committed.approvals.length = n

section Silence

variable {env : Env} {settings : Settings} {actor : String}
variable {rs : List ApprovalRequest} {n : Nat} {α : Type} {x : Service α}

/-- What silence reads of a world. -/
private def voices (w : World) : List ApprovalRequest × Nat × Nat :=
  (w.approvalRequests, w.db.approvals.length, w.committed.approvals.length)

private theorem silent_of_frames (hx : Exec.Frames voices x) : Exec.Keeps (Silent env rs n) x := by
  apply Exec.keeps_of_state
  intro w hw
  have hsame := hx w
  simp only [voices, Prod.mk.injEq] at hsame
  obtain ⟨hrequests, hsession, hstored⟩ := hsame
  constructor
  · intro r hr
    rw [hrequests] at hr
    exact hw.requests r hr
  · exact hsession.trans hw.session
  · exact hstored.trans hw.stored

private theorem silent_flush : Exec.Keeps (Silent env rs n) (flush env) :=
  silent_of_frames (frames_flush env fun _ _ ↦ rfl)

private theorem silent_commit : Exec.Keeps (Silent env rs n) (commit env) := by
  apply Exec.keeps_bind silent_flush
  intro _
  apply Exec.Triple.update
  exact fun _ hw ↦ ⟨hw.requests, hw.session, hw.session⟩

private theorem frames_voices_change (incidentId : Nat) {target : IncidentState} (actor : String)
    (details : Details) (h : target ≠ .awaitingApproval) :
    Exec.Frames voices (changeIncidentState env settings incidentId target actor details) :=
  frames_changeIncidentState (fun _ _ ↦ rfl) env settings incidentId target actor details false
    (fun _ _ ↦ rfl) (fun _ _ _ ↦ rfl) fun ht ↦ absurd ht h

private theorem silent_change (incidentId : Nat) {target : IncidentState} (actor : String)
    (h : target ≠ .awaitingApproval) : Exec.Keeps (Silent env rs n)
      (changeIncidentState env settings incidentId target actor) :=
  silent_of_frames (frames_voices_change incidentId actor {} h)

private theorem silent_settle (p : Proposal) (status : RecordStatus) :
    Exec.Keeps (Silent env rs n) (settle p status) := by
  apply silent_of_frames
  exact Exec.frames_bind (fun _ ↦ rfl) fun _ _ ↦ rfl

/-- The ends of a run request nothing. -/
private theorem silent_end {p : Proposal} {target : IncidentState} {status : RecordStatus}
    {outcome : PipelineOutcome} (h : target ≠ .awaitingApproval) :
    Exec.Keeps (Silent env rs n) (do
      settle p status
      changeIncidentState env settings p.incidentId target actor
      flush env
      commit env
      return outcome) := by
  apply Exec.keeps_bind (silent_settle p status)
  intro _
  apply Exec.keeps_bind (silent_change _ _ h)
  intro _
  apply Exec.keeps_bind silent_flush
  intro _
  apply Exec.keeps_bind silent_commit
  intro _
  exact Exec.keeps_pure _

private theorem silent_act (p : Proposal) (executionId : Nat) (current : Option PodState) :
    Exec.Keeps (Silent env rs n) (act env settings p executionId current) := by
  apply silent_of_frames
  cases current with
  | none => exact fun _ ↦ rfl
  | some pod =>
    apply Exec.frames_bind
      (frames_deletePod (fun _ _ ↦ rfl) (fun _ _ ↦ rfl) (fun _ _ ↦ rfl) env settings _ _)
    intro _
    exact Exec.frames_bind (fun _ ↦ rfl) fun _ ↦ frames_flush env fun _ _ ↦ rfl

private theorem silent_attemptOnce (p : Proposal) (attempt : Nat) (h : 1 ≤ attempt ∧ attempt ≤ 3)
    (current : Option PodState) :
    Exec.Keeps (Silent env rs n) (attemptOnce env settings actor p attempt h current) := by
  apply Exec.keeps_bind (silent_of_frames fun _ ↦ rfl)
  intro _
  apply Exec.keeps_bind
    (silent_of_frames (frames_insertExecution_of_table (fun _ _ ↦ rfl) (fun _ _ ↦ rfl) env _))
  intro executionId
  apply Exec.keeps_bind (silent_act p executionId current)
  intro _
  apply Exec.keeps_bind (silent_change _ _ (by decide))
  intro _
  apply Exec.keeps_bind silent_commit
  intro _
  apply Exec.keeps_bind (silent_of_frames (frames_verifyUntil (fun _ _ ↦ rfl) env _))
  intro verification
  apply Exec.keeps_bind (silent_of_frames fun _ ↦ rfl)
  intro _
  apply Exec.keeps_bind silent_flush
  intro _
  exact Exec.keeps_pure _

private theorem silent_reconsider (p : Proposal) :
    Exec.Keeps (Silent env rs n) (reconsider env settings actor p) := by
  apply Exec.keeps_bind (silent_change _ _ (by decide))
  intro _
  apply Exec.keeps_bind
    (silent_of_frames (frames_collect (fun _ _ ↦ rfl) (fun _ _ ↦ rfl) env p.target))
  intro evidence
  apply Exec.keeps_bind
  · apply silent_of_frames
    cases retryPod evidence with
    | none => exact Exec.frames_pure _
    | some pod =>
      apply Exec.frames_bind
      · apply Exec.frames_bind (frames_evaluate env _ (fun _ _ ↦ rfl) fun _ _ ↦ rfl)
        intro policy
        exact Exec.frames_bind (fun _ ↦ rfl) fun _ ↦ Exec.frames_pure _
      exact fun policy ↦ Exec.frames_require _ _
  intro _
  apply Exec.keeps_bind silent_commit
  intro _
  exact Exec.keeps_pure _

/-- The attempts request nothing, by induction on those that are left. -/
private theorem silent_attempts (p : Proposal) (policy : PolicyResult) (left : Nat)
    (h : left < settings.maxRemediationAttempts) (current : Option PodState) :
    Exec.Keeps (Silent env rs n) (attempts env settings actor p policy left h current) := by
  induction left generalizing current with
  | zero =>
    apply Exec.keeps_bind (silent_attemptOnce p _ _ current)
    intro verification
    exact Exec.keeps_ite (fun _ ↦ silent_end (by decide)) fun _ ↦ silent_end (by decide)
  | succ left ih =>
    apply Exec.keeps_bind (silent_attemptOnce p _ _ current)
    intro verification
    apply Exec.keeps_ite
    · exact fun _ ↦ silent_end (by decide)
    · intro _
      apply Exec.keeps_bind (silent_reconsider p)
      intro next
      exact ih (Nat.lt_of_succ_lt h) next

private theorem silent_execute (p : Proposal) (policy : PolicyResult) :
    Exec.Keeps (Silent env rs n) (execute env settings actor p policy) := by
  apply Exec.keeps_bind (silent_of_frames fun _ ↦ rfl)
  intro _
  apply Exec.keeps_bind (silent_change _ _ (by decide))
  intro _
  apply Exec.keeps_bind silent_commit
  intro _
  exact silent_attempts p policy _ _ _

/-- What an exception leaves: the session may hold an approval, the database does not. -/
structure Failed (env : Env) (rs : List ApprovalRequest) (n : Nat) (w : World) : Prop where
  requests : RequestsFrom env Asking rs w
  stored : w.committed.approvals.length = n

theorem Silent.failed {w : World} (h : Silent env rs n w) : Failed env rs n w :=
  ⟨h.requests, h.stored⟩

/-- The handler of `run` starts from the stored rows. -/
private theorem triple_escalate (incidentId : Nat) (e : Exc) :
    Exec.Triple (Failed env rs n) (escalate env settings incidentId actor e)
      (fun _ ↦ Silent env rs n) fun _ ↦ Failed env rs n := by
  have hsilent {α : Type} {x : Service α} (h : Exec.Keeps (Silent env rs n) x) :
      Exec.Triple (Silent env rs n) x (fun _ ↦ Silent env rs n) fun _ ↦ Failed env rs n :=
    h.mono (fun _ h ↦ h) (fun _ _ h ↦ h) fun _ _ h ↦ h.failed
  have hload : Exec.Keeps (Silent env rs n) (loadIncident incidentId) :=
    silent_of_frames (frames_loadIncident _)
  apply Exec.Triple.ite
  · intro _
    apply Exec.Triple.bind (Q := fun _ ↦ Silent env rs n)
    · exact Exec.Triple.update fun _ h ↦ ⟨h.requests, h.stored, h.stored⟩
    intro _
    apply hsilent
    apply Exec.keeps_bind silent_flush
    intro _
    apply Exec.keeps_bind hload
    intro incident
    apply Exec.keeps_bind
    · apply Exec.keeps_when
      intro _
      apply Exec.keeps_bind (silent_change _ _ (by decide))
      intro _
      apply Exec.keeps_bind silent_flush
      intro _
      exact silent_commit
    intro _
    apply Exec.keeps_bind hload
    intro _
    exact Exec.keeps_pure _
  · exact fun _ ↦ Exec.Triple.throw fun _ h ↦ h

end Silence

/-! ### The stages before the evaluation -/

/-- The row that `propose` files. -/
def filedRow (p : Proposal) : ActionProposal where
  incidentId := p.incidentId
  actionType := p.runbook.action
  parameters := proposalParameters p.target p.pod
  riskScore := p.risk.score
  riskCalculation := riskDump p.risk
  riskScore_le := p.risk.score_le

/-- The decision that `authorise` files. -/
def filedDecision (p : Proposal) (pod : PodState) (policy : PolicyResult) : PolicyDecision where
  incidentId := p.incidentId
  proposalId := p.proposalId
  allowed := policy.allowed
  requiresApproval := policy.requiresApproval
  reason := policy.reason
  input := policyInput p.target pod p.runbook.action p.risk

/-- The deployment of a target was read in this environment. -/
def ReadTarget (env : Env) (target : UnhealthyPodTarget) : Prop :=
  validName target.deployment ∧
    ∃ w deployment, env.readDeployment w target.ns target.deployment = .ok deployment

/-- A session with these papers that has as many approvals as the database. -/
structure Steady (v : Papers) (w : World) : Prop where
  session : papers w = v
  stored : w.committed.approvals.length = v.approvals.length

section Stages

variable {env : Env} {settings : Settings} {actor : String} {v : Papers} {α : Type}
variable {x : Service α}

theorem Steady.requests {w : World} (h : Steady v w) : w.approvalRequests = v.requests :=
  congrArg Papers.requests h.session

theorem Steady.silent {w : World} (h : Steady v w) :
    Silent env v.requests v.approvals.length w := by
  have happrovals : w.db.approvals = v.approvals := congrArg Papers.approvals h.session
  exact ⟨.of_eq h.requests, congrArg List.length happrovals, h.stored⟩

/-- A stage that leaves the papers alone stays steady. -/
private theorem triple_steady
    (hx : Exec.Frames (fun w ↦ (papers w, w.committed.approvals.length)) x) :
    Exec.Triple (Steady v) x (fun _ ↦ Steady v)
      fun _ ↦ Failed env v.requests v.approvals.length := by
  have hkeep : Exec.Keeps (Steady v) x := by
    apply Exec.keeps_of_state
    intro w hw
    have hsame := hx w
    simp only [Prod.mk.injEq] at hsame
    exact ⟨hsame.1.trans hw.session, hsame.2.trans hw.stored⟩
  apply hkeep.mono
  · exact fun _ h ↦ h
  · exact fun _ _ h ↦ h
  · exact fun _ _ h ↦ h.silent.failed

private theorem steady_flush : Exec.Triple (Steady v) (flush env) (fun _ ↦ Steady v)
    fun _ ↦ Failed env v.requests v.approvals.length :=
  triple_steady (frames_flush env fun _ _ ↦ rfl)

private theorem steady_commit : Exec.Triple (Steady v) (commit env) (fun _ ↦ Steady v)
    fun _ ↦ Failed env v.requests v.approvals.length := by
  apply Exec.Triple.bind steady_flush
  intro _
  apply Exec.Triple.update
  intro w hw
  have hsilent : Silent env v.requests v.approvals.length w := hw.silent
  exact ⟨hw.session, hsilent.session⟩

private theorem steady_change (incidentId : Nat) {target : IncidentState}
    (h : target ≠ .awaitingApproval) :
    Exec.Triple (Steady v) (changeIncidentState env settings incidentId target actor)
      (fun _ ↦ Steady v) fun _ ↦ Failed env v.requests v.approvals.length := by
  apply triple_steady
  apply frames_changeIncidentState_of_update (fun _ _ ↦ rfl) env settings incidentId target actor
    {} false
  · intro w now
    exact congrArg (·, _) (papers_update w _ fun _ ↦ rfl)
  · exact fun _ _ _ ↦ rfl
  · exact fun ht ↦ absurd ht h

private theorem steady_updateIncident (incidentId : Nat) {f : Incident → Incident}
    (hf : ∀ row, (f row).environment = row.environment) :
    Exec.Triple (Steady v) (updateIncident incidentId f) (fun _ ↦ Steady v)
      fun _ ↦ Failed env v.requests v.approvals.length := by
  apply triple_steady
  exact Exec.frames_update fun w ↦ congrArg (·, _) (papers_update w _ hf)

/-- The evidence stage has read the deployment of the target. -/
private theorem yields_gather (incidentId : Nat) (target : UnhealthyPodTarget) :
    Exec.Yields (fun _ ↦ ReadTarget env target)
      (gather env settings incidentId target actor) := by
  apply Exec.yields_bind
  intro _
  apply Exec.yields_bind_of (q := fun _ ↦ ReadTarget env target)
  · apply Exec.yields_bind_of (yields_getDeployment env target.ns target.deployment)
    rintro state ⟨hname, w, deployment, hread, -, -⟩
    apply Exec.yields_bind
    intro pods
    apply Exec.yields_bind
    intro _
    exact Exec.yields_pure ⟨hname, w, deployment, hread⟩
  intro evidence hread
  apply Exec.yields_bind
  intro _
  apply Exec.yields_bind
  intro _
  apply Exec.yields_bind
  intro _
  exact Exec.yields_pure hread

private theorem triple_gather (incidentId : Nat) (target : UnhealthyPodTarget) :
    Exec.Triple (Steady v) (gather env settings incidentId target actor) (fun _ ↦ Steady v)
      fun _ ↦ Failed env v.requests v.approvals.length := by
  apply Exec.Triple.bind (steady_change incidentId (by decide))
  intro _
  apply Exec.Triple.bind
  · apply triple_steady
    apply Exec.frames_bind (frames_getDeployment (fun _ _ ↦ rfl) env _ _)
    intro deployment
    apply Exec.frames_bind (frames_getPods (fun _ _ ↦ rfl) env _ _)
    intro pods
    exact Exec.frames_bind (Exec.frames_update fun _ ↦ rfl) fun _ ↦ Exec.frames_pure _
  intro evidence
  apply Exec.Triple.bind (triple_steady (frames_getServiceHealth (fun _ _ ↦ rfl) env _ _ _))
  intro _
  apply Exec.Triple.bind steady_flush
  intro _
  apply Exec.Triple.bind steady_commit
  intro _
  exact Exec.Triple.pure fun _ h ↦ h

private theorem triple_choose (runbooks : RunbookLoader) (incidentId : Nat)
    (target : UnhealthyPodTarget) (evidence : KubernetesEvidence) :
    Exec.Triple (Steady v) (choose env settings runbooks incidentId target actor evidence)
      (fun _ ↦ Steady v) fun _ ↦ Failed env v.requests v.approvals.length := by
  apply Exec.Triple.bind (triple_steady (Exec.frames_ofExcept _))
  intro pod
  apply Exec.Triple.bind (steady_change incidentId (by decide))
  intro _
  apply Exec.Triple.bind (triple_steady (Exec.frames_ofExcept _))
  intro runbook
  apply Exec.Triple.bind
  · exact triple_steady (Exec.frames_bind (Exec.frames_require _ _) fun _ ↦
      Exec.frames_require _ _)
  intro _
  apply Exec.Triple.bind
  · exact steady_updateIncident incidentId fun _ ↦ rfl
  intro _
  apply Exec.Triple.bind (triple_steady fun _ ↦ rfl)
  intro runbookExecutionId
  apply Exec.Triple.bind steady_flush
  intro _
  apply Exec.Triple.bind (steady_change incidentId (by decide))
  intro _
  exact Exec.Triple.pure fun _ h ↦ h

/-- The proposal stage files one pending proposal. -/
private theorem triple_propose (incidentId : Nat) (target : UnhealthyPodTarget) (pod : PodState)
    (runbook : RunbookDocument) (runbookExecutionId : Nat) :
    Exec.Triple (Steady v)
      (propose env settings incidentId target actor pod runbook runbookExecutionId)
      (fun p w ↦ Steady { v with proposals := v.proposals.insert (filedRow p) } w ∧
        p.target = target ∧ p.proposalId = v.proposals.fresh ∧ p.pod = pod)
      fun _ ↦ Failed env v.requests v.approvals.length := by
  apply Exec.Triple.bind (triple_steady (Exec.frames_ofExcept _))
  intro metadata
  apply Exec.Triple.bind
  · exact steady_updateIncident incidentId fun _ ↦ rfl
  intro _
  apply Exec.Triple.bind (Q := fun id w ↦ Steady { v with
    proposals := v.proposals.insert (filedRow ⟨incidentId, target, pod, runbook,
      runbookExecutionId, riskOf target.environment runbook.action metadata, 0⟩) } w ∧
    id = v.proposals.fresh)
  · rintro w ⟨rfl, hstored⟩
    exact ⟨⟨rfl, hstored⟩, rfl⟩
  intro proposalId
  apply Exec.Triple.assume
  rintro rfl
  apply Exec.Triple.bind steady_flush
  intro _
  apply Exec.Triple.bind steady_flush
  intro _
  apply Exec.Triple.bind steady_flush
  intro _
  apply Exec.Triple.bind (steady_change incidentId (by decide))
  intro _
  exact Exec.Triple.pure fun _ h ↦ ⟨h, rfl, rfl, rfl⟩

/-- The evaluation stage files the decision on the proposal. -/
private theorem triple_authorise (p : Proposal) (pod : PodState) :
    Exec.Triple (Steady v) (authorise env p pod)
      (fun policy w ↦ ∃ w', policy = env.opa w' (policyInput p.target pod p.runbook.action p.risk) ∧
        Steady { v with
          policyDecisions := v.policyDecisions.insert (filedDecision p pod policy)
          evaluation := some (policyInput p.target pod p.runbook.action p.risk, policy) } w)
      fun _ ↦ Failed env v.requests v.approvals.length := by
  rintro w ⟨rfl, hstored⟩
  exact ⟨w, rfl, rfl, hstored⟩

end Stages

/-! ### The whole run -/

section Run

variable {env : Env} {settings : Settings} {actor : String} {v : Papers}

/-- The papers after the evaluation of a proposal. -/
private def evaluatedPapers (env : Env) (v : Papers) (p : Proposal) (w' : World) : Papers :=
  v.file (filedRow p)
    (filedDecision p p.pod (env.opa w' (policyInput p.target p.pod p.runbook.action p.risk)))
    (env.opa w' (policyInput p.target p.pod p.runbook.action p.risk))

/-- Nothing but an approval of the run's proposal waits. -/
def LeavesWaiting (env : Env) (target : UnhealthyPodTarget) (v : Papers) (db : Database) : Prop :=
  ∃ p w', p.target = target ∧ p.proposalId = v.proposals.fresh ∧
    AtMostWaits env p.incidentId v.proposals.fresh v (filedRow p)
      (filedDecision p p.pod (env.opa w' (policyInput p.target p.pod p.runbook.action p.risk))) db

/-- What a run leaves: requests after its evaluation, and no new approval or one that waits. -/
structure RunEnds (env : Env) (target : UnhealthyPodTarget) (v : Papers) (w : World) : Prop where
  requests : RequestsFrom env Asking v.requests w
  stored : w.committed.approvals.length = v.approvals.length ∨
    ReadTarget env target ∧ LeavesWaiting env target v w.committed

theorem Silent.ends {target : UnhealthyPodTarget} {w : World}
    (h : Silent env v.requests v.approvals.length w) : RunEnds env target v w :=
  ⟨h.requests, .inl h.stored⟩

/-- A session in which an approval of the proposal may wait that is not stored. -/
private structure Waits (env : Env) (target : UnhealthyPodTarget) (v : Papers) (w : World) :
    Prop where
  requests : RequestsFrom env Asking v.requests w
  session : LeavesWaiting env target v w.db
  stored : w.committed.approvals.length = v.approvals.length

private theorem Waits.of_frames {target : UnhealthyPodTarget} {α : Type} {x : Service α}
    (hx : Exec.Frames (fun w ↦ (w.db, w.approvalRequests, w.committed.approvals.length)) x) :
    Exec.Triple (Waits env target v) x (fun _ ↦ Waits env target v)
      fun _ ↦ Failed env v.requests v.approvals.length := by
  have hkeep : Exec.Keeps (Waits env target v) x := by
    apply Exec.keeps_of_state
    intro w hw
    have hsame := hx w
    simp only [Prod.mk.injEq] at hsame
    obtain ⟨hdb, hrequests, hstored⟩ := hsame
    constructor
    · intro r hr
      rw [hrequests] at hr
      exact hw.requests r hr
    · rw [hdb]
      exact hw.session
    · exact hstored.trans hw.stored
  exact hkeep.mono (fun _ h ↦ h) (fun _ _ h ↦ h) fun _ _ h ↦ ⟨h.requests, h.stored⟩

/-- The wait of a run whose evaluation required an approval. -/
private theorem triple_wait {p : Proposal} (hid : p.proposalId = v.proposals.fresh) {w' : World}
    (details : Details)
    (hrequires :
      (env.opa w' (policyInput p.target p.pod p.runbook.action p.risk)).requiresApproval) :
    Exec.Triple (Steady (evaluatedPapers env v p w'))
      (changeIncidentState env settings p.incidentId .awaitingApproval actor details)
      (fun _ ↦ Waits env p.target v) fun _ ↦ Failed env v.requests v.approvals.length := by
  have hanswered : Answered env (filedDecision p p.pod
      (env.opa w' (policyInput p.target p.pod p.runbook.action p.risk))) := ⟨w', rfl, rfl⟩
  have hstored : Exec.Frames (fun w ↦ w.committed.approvals.length)
      (changeIncidentState env settings p.incidentId .awaitingApproval actor details) :=
    frames_changeIncidentState (fun _ _ ↦ rfl) env settings p.incidentId .awaitingApproval
      actor details false (fun _ _ ↦ rfl) (fun _ _ _ ↦ rfl) fun _ _ _ _ ↦ rfl
  apply ((triple_await (v := evaluatedPapers env v p w') (C := Asking) details hanswered
    hrequires fun w hw ↦ evaluated_of_papers hw rfl rfl hid rfl rfl).and
    (hstored.keeps (· = v.approvals.length))).mono
  · exact fun _ h ↦ ⟨h.session, h.stored⟩
  · exact fun _ _ h ↦ ⟨h.1.1, ⟨p, w', rfl, hid, h.1.2⟩, h.2⟩
  · exact fun _ _ h ↦ ⟨h.1, h.2⟩

/-- A run that is held back asks where its evaluation required an approval. -/
private theorem triple_hold {p : Proposal} (hread : ReadTarget env p.target)
    (hid : p.proposalId = v.proposals.fresh) {w' : World} :
    Exec.Triple (Steady (evaluatedPapers env v p w'))
      (hold env settings actor p
        (env.opa w' (policyInput p.target p.pod p.runbook.action p.risk)))
      (fun _ ↦ RunEnds env p.target v) fun _ ↦ Failed env v.requests v.approvals.length := by
  by_cases hrequires :
      (env.opa w' (policyInput p.target p.pod p.runbook.action p.risk)).requiresApproval
  · unfold hold
    simp only [if_pos hrequires]
    apply Exec.Triple.bind (triple_wait hid _ hrequires)
    intro _
    apply Exec.Triple.bind (Q := fun _ ↦ Waits env p.target v)
    · apply Exec.Triple.bind (Q := fun _ ↦ Waits env p.target v)
      · apply triple_write
        rintro w ⟨hrequests, ⟨q, w'', hof, hfresh, hwaits⟩, hstored⟩
        exact ⟨hrequests, ⟨q, w'', hof, hfresh, hwaits.refile _⟩, hstored⟩
      intro _
      apply triple_write
      rintro w ⟨hrequests, ⟨q, w'', hof, hfresh, hwaits⟩, hstored⟩
      exact ⟨hrequests, ⟨q, w'', hof, hfresh, hwaits.run _⟩, hstored⟩
    intro _
    have hflush : Exec.Triple (Waits env p.target v) (flush env) (fun _ ↦ Waits env p.target v)
        fun _ ↦ Failed env v.requests v.approvals.length :=
      Waits.of_frames (frames_flush env fun _ _ ↦ rfl)
    apply Exec.Triple.bind (Exec.Triple.when (fun _ ↦ hflush) fun h ↦ absurd hrequires h)
    intro _
    apply Exec.Triple.bind (Q := fun _ ↦ RunEnds env p.target v)
    · apply Exec.Triple.bind hflush
      intro _
      apply Exec.Triple.update
      exact fun w hw ↦ ⟨hw.requests, .inr ⟨hread, hw.session⟩⟩
    intro _
    exact Exec.Triple.pure fun _ h ↦ h
  · have hkeep : Exec.Keeps (Silent env v.requests v.approvals.length)
        (hold env settings actor p
          (env.opa w' (policyInput p.target p.pod p.runbook.action p.risk))) := by
      unfold hold
      simp only [if_neg hrequires]
      apply Exec.keeps_bind (silent_of_frames (frames_voices_change _ _ _ (by decide)))
      intro _
      apply Exec.keeps_bind (silent_settle p .rejected)
      intro _
      apply Exec.keeps_bind (Exec.keeps_when fun _ ↦ silent_flush)
      intro _
      apply Exec.keeps_bind silent_commit
      intro _
      exact Exec.keeps_pure _
    apply hkeep.mono
    · exact fun _ h ↦ Steady.silent (v := evaluatedPapers env v p w') h
    · exact fun _ _ h ↦ h.ends
    · exact fun _ _ h ↦ h.failed

/-- The stages of a run. -/
private theorem triple_process (runbooks : RunbookLoader) (incidentId : Nat)
    (target : UnhealthyPodTarget) :
    Exec.Triple (Steady v) (process env settings runbooks incidentId target actor)
      (fun _ ↦ RunEnds env target v) fun _ ↦ Failed env v.requests v.approvals.length := by
  apply Exec.Triple.bind ((triple_gather incidentId target).yields
    (yields_gather incidentId target))
  intro evidence
  apply Exec.Triple.assume
  intro hread
  apply Exec.Triple.bind (triple_choose runbooks incidentId target evidence)
  rintro ⟨pod, runbook, runbookExecutionId⟩
  apply Exec.Triple.bind
    (triple_propose incidentId target pod runbook runbookExecutionId)
  intro p
  apply Exec.Triple.assume
  rintro ⟨rfl, hid, rfl⟩
  apply Exec.Triple.bind
    (triple_authorise (v := { v with proposals := v.proposals.insert (filedRow p) }) p p.pod)
  rintro policy w ⟨w', rfl, hw⟩
  replace hw : Steady (evaluatedPapers env v p w') w := hw
  revert w
  change Exec.Triple _ _ _ _
  apply Exec.Triple.bind (steady_flush (v := evaluatedPapers env v p w'))
  intro _
  apply Exec.Triple.ite
  · exact fun _ ↦ triple_hold hread hid
  · intro _
    apply (silent_execute p _).mono
    · exact fun _ h ↦ Steady.silent (v := evaluatedPapers env v p w') h
    · exact fun _ _ h ↦ Silent.ends (v := v) h
    · exact fun _ _ h ↦ h.failed

end Run

/-- What `run` leaves: requests made after its evaluation, and no new approval or one that waits
for what it proposed. -/
theorem triple_run (env : Env) (settings : Settings) (runbooks : RunbookLoader)
    (target : UnhealthyPodTarget) (correlationId actor : String) {v : Papers} :
    Exec.Triple (Steady v) (run env settings runbooks target correlationId actor)
      (fun _ ↦ RunEnds env target (v.opened target.environment))
      fun _ ↦ Failed env v.requests v.approvals.length := by
  have hcreate : Exec.Frames (fun w ↦ w.committed.approvals.length)
      (createIncident env (incidentRow target correlationId) actor) :=
    frames_createIncident (fun _ _ ↦ rfl) env _ actor (fun _ ↦ rfl) fun _ _ ↦ rfl
  apply Exec.Triple.bind (Q := fun _ ↦ Steady (v.opened target.environment))
  · apply ((papers_createIncident env (incidentRow target correlationId) actor).and
      (hcreate.keeps (· = v.approvals.length))).mono
    · exact fun _ h ↦ ⟨h.session, h.stored⟩
    · exact fun _ _ h ↦ ⟨h.1.1, h.2⟩
    · exact fun _ _ h ↦ ⟨.of_eq h.1, h.2⟩
  intro incidentId
  apply Exec.Triple.bind (steady_commit (v := v.opened target.environment))
  intro _
  apply Exec.Triple.tryCatch (E := fun _ ↦ Failed env v.requests v.approvals.length)
  · exact triple_process (v := v.opened target.environment) runbooks incidentId target
  · intro e
    apply (triple_escalate incidentId e).mono
    · exact fun _ h ↦ h
    · exact fun _ _ h ↦ Silent.ends (v := v.opened target.environment) h
    · exact fun _ _ h ↦ h

end CloudWard.Remediation.Pipeline
