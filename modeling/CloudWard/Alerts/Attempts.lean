import CloudWard.Alerts.Grouping
import CloudWard.Alerts.Jobs
import CloudWard.Base.Trace
import CloudWard.Reliability.Trace

/-!
# Attempts on an incident

Jobs are delivered at least once: `process_alert_job` (`api/internal_reliability.py:104`) may run
again for a job that was done, or that made its request and then lost its commit. What stops a
second run is the committed proposal that `process` (`reliability/workflow.py:85`) looks for, so
the request of a committed attempt is an incident's last, and an attempt whose commit is lost may
be repeated.
-/

namespace CloudWard.Alerts

open CloudWard.Db CloudWard.Incidents CloudWard.Kubernetes CloudWard.Logic CloudWard.Reliability
  CloudWard.Remediation CloudWard.Runbooks CloudWard.Trace Service

/-- The processing of a job: what it left in its trace and the rows committed at its end. -/
structure Attempt where
  trace : List Event
  rows : Database

/-- The attempt of an operation that processes a job of an incident. -/
def attemptOf (incidentId : Nat) (s : State) (op : Operation) : Option Attempt :=
  match op.call with
  | .deliver .. => none
  | .work i runbooks =>
    (s.jobs[i]?.filter (·.incidentId = incidentId)).map fun job ↦
      let w := s.worked op.env op.settings runbooks job
      ⟨w.trace, w.committed⟩

/-- The attempts of a run on an incident, oldest first. -/
def attempts (incidentId : Nat) (s : State) : List Operation → List Attempt
  | [] => []
  | op :: ops => (attemptOf incidentId s op).toList ++ attempts incidentId (step s op) ops

/-- A request took effect and was committed. -/
def Kept (trace : List Event) : Prop := requests trace ≠ 0 ∧ ¬ Pending trace

/-- A proposal of an incident. -/
def Proposes (db : Database) (incidentId : Nat) : Prop :=
  ∃ proposal ∈ db.proposals, proposal.incidentId = incidentId

/-- An execution of an incident that succeeded. -/
def Succeeded (db : Database) (incidentId : Nat) : Prop :=
  ∃ execution ∈ db.executions, execution.incidentId = incidentId ∧ execution.status = .succeeded

/-! ### One request -/

/-- At most one request took effect, and nothing happened since. -/
def AtMostOne (trace : List Event) : Prop :=
  requests trace = 0 ∨ requests trace = 1 ∧ Pending trace

/-- A request that is sent takes effect at most once, and last. -/
private theorem triple_send (env : Env) (m : Mutation) :
    Exec.Triple (fun w ↦ requests w.trace = 0) (send env m) (fun _ w ↦ AtMostOne w.trace)
      fun _ w ↦ AtMostOne w.trace := by
  have hafter {w : World} (h : requests w.trace = 0) : AtMostOne (.mutated m :: w.trace) := by
    right
    rw [requests_mutated, h]
    exact ⟨rfl, m, rfl⟩
  apply Exec.triple_of_state
  intro w hw
  simp only [send, Exec.run_bind, run_ask]
  cases env.request w m with
  | done => exact hafter hw
  | refused e => exact .inl hw
  | lost e => exact hafter hw

private theorem triple_wrapping_send (env : Env) (error : CloudWardError) (m : Mutation) :
    Exec.Triple (fun w ↦ requests w.trace = 0) (wrapping error (send env m))
      (fun _ w ↦ AtMostOne w.trace) fun _ w ↦ AtMostOne w.trace := by
  apply Exec.Triple.tryCatch (triple_send env m)
  intro e
  exact Exec.Triple.throw fun _ h ↦ h

section Executions

variable {env : Env} {settings : Settings}

/-- A step that makes no request. -/
private theorem triple_silent {α : Type} {x : Service α} (h : Exec.Frames World.trace x) :
    Exec.Triple (fun w ↦ requests w.trace = 0) x (fun _ w ↦ requests w.trace = 0)
      fun _ w ↦ AtMostOne w.trace :=
  (h.keeps (requests · = 0)).mono (fun _ h ↦ h) (fun _ _ h ↦ h) fun _ _ h ↦ .inl h

private theorem triple_deletePod (ns name : String) :
    Exec.Triple (fun w ↦ requests w.trace = 0) (deletePod env settings ns name)
      (fun _ w ↦ AtMostOne w.trace) fun _ w ↦ AtMostOne w.trace := by
  apply Exec.Triple.bind (Q := fun _ w ↦ requests w.trace = 0)
  · apply Exec.Triple.update
    intro w h
    simpa [requests, isRequest] using h
  intro _
  apply Exec.Triple.bind (triple_silent (frames_requireNamespace settings ns))
  intro _
  apply Exec.Triple.bind (triple_silent (frames_getPodHealth (fun _ _ ↦ rfl) env ns name))
  intro pod
  apply Exec.Triple.bind (triple_silent (Exec.frames_require _ _))
  intro _
  apply Exec.Triple.bind (triple_silent (Exec.frames_require _ _))
  intro _
  apply Exec.Triple.bind (triple_silent (Exec.frames_require _ _))
  intro _
  exact triple_wrapping_send env _ _

private theorem triple_scaleStagingDeployment (ns name : String) (replicas maximum : Nat)
    (expected : Option Nat) :
    Exec.Triple (fun w ↦ requests w.trace = 0)
      (scaleStagingDeployment env settings ns name replicas maximum expected)
      (fun _ w ↦ AtMostOne w.trace) fun _ w ↦ AtMostOne w.trace := by
  apply Exec.Triple.bind (triple_silent (frames_requireNamespace settings ns))
  intro _
  apply Exec.Triple.bind (triple_silent (frames_validateName name _))
  intro _
  apply Exec.Triple.bind (triple_silent (Exec.frames_require _ _))
  intro _
  apply Exec.Triple.bind (triple_silent (Exec.frames_require _ _))
  intro _
  apply Exec.Triple.bind
    (triple_silent (frames_wrapping _ (frames_call _ fun _ _ ↦ rfl)))
  intro deployment
  apply Exec.Triple.bind (triple_silent (Exec.frames_require _ _))
  intro _
  apply Exec.Triple.bind (triple_silent (Exec.frames_require _ _))
  intro _
  apply Exec.Triple.bind (triple_wrapping_send env _ _)
  intro _
  exact Exec.Triple.pure fun _ h ↦ h

private theorem triple_revertToKnownGood :
    Exec.Triple (fun w ↦ requests w.trace = 0) (revertToKnownGood env settings)
      (fun _ w ↦ AtMostOne w.trace) fun _ w ↦ AtMostOne w.trace := by
  apply Exec.Triple.bind
  · exact triple_silent (Exec.frames_bind (Exec.frames_require _ _) fun _ ↦
      Exec.frames_bind (Exec.frames_require _ _) fun _ ↦ Exec.frames_require _ _)
  intro _
  apply Exec.Triple.bind (triple_silent (frames_call _ fun _ _ ↦ rfl))
  intro tag
  apply Exec.Triple.bind (triple_silent (Exec.frames_require _ _))
  intro _
  apply Exec.Triple.when
  · intro _
    exact triple_send env _
  · intro _ w h
    exact .inl h

/-! ### The execution that a request is recorded in -/

/-- The row of an execution of an incident. -/
def Opened (incidentId executionId : Nat) (executions : Table ActionExecution) : Prop :=
  ∃ row, executions[executionId]? = some row ∧ row.incidentId = incidentId

/-- What the execution stage leaves: a request that took effect is recorded. -/
def Acted (incidentId : Nat) (w : World) : Prop :=
  AtMostOne w.trace ∧ (requests w.trace ≠ 0 → Succeeded w.db incidentId)

/-- A step that makes no request and changes no execution. -/
private theorem acted_of_frames {incidentId : Nat} {α : Type} {x : Service α}
    (h : Exec.Frames (fun w ↦ (w.trace, w.db.executions)) x) :
    Exec.Triple (Acted incidentId) x (fun _ ↦ Acted incidentId) fun _ w ↦ AtMostOne w.trace :=
  (h.keeps fun v : List Event × Table ActionExecution ↦ AtMostOne v.1 ∧
    (requests v.1 ≠ 0 → ∃ execution ∈ v.2,
      execution.incidentId = incidentId ∧ execution.status = .succeeded)).mono
    (fun _ h ↦ h) (fun _ _ h ↦ h) fun _ _ h ↦ h.1

/-- A claim opens an execution of its incident. -/
private theorem triple_claimActionExecution (incidentId proposalId : Nat) (runbookId : String)
    (target : Parameters) (attempt : Nat) :
    Exec.Triple (fun _ ↦ True)
      (claimActionExecution env incidentId proposalId runbookId target attempt)
      (fun claim w ↦ claim.claimed → Opened incidentId claim.execution w.db.executions)
      fun _ _ ↦ True := by
  have htrue {α : Type} (x : Service α) :
      Exec.Triple (fun _ ↦ True) x (fun _ _ ↦ True) fun _ _ ↦ True := by
    apply Exec.triple_of_state
    exact fun _ _ ↦ trivial
  have hinsert (row : ActionExecution) (hrow : row.incidentId = incidentId)
      (approval : Option Nat) :
      Exec.Triple (fun _ ↦ True) (insertClaim env incidentId row approval)
        (fun claim w ↦ claim.claimed → Opened incidentId claim.execution w.db.executions)
        fun _ _ ↦ True := by
    have hkeeps {α : Type} {x : Service α} (h : Exec.Frames (fun w ↦ w.db.executions) x)
        (executionId : Nat) :
        Exec.Triple (fun w ↦ Opened incidentId executionId w.db.executions) x
          (fun _ w ↦ Opened incidentId executionId w.db.executions) fun _ _ ↦ True :=
      (h.keeps (Opened incidentId executionId)).mono (fun _ h ↦ h) (fun _ _ h ↦ h)
        fun _ _ _ ↦ trivial
    have hflush : Exec.Frames (fun w ↦ w.db.executions) (flush env) :=
      frames_flush env fun _ _ ↦ rfl
    apply Exec.Triple.bind (Q := fun executionId w ↦
      Opened incidentId executionId w.db.executions)
    · apply Exec.Triple.bind (Q := fun executions w ↦ w.db.executions = executions)
      · exact Exec.Triple.read fun _ _ ↦ rfl
      intro executions
      apply Exec.Triple.bind (Q := fun _ w ↦ w.db.executions = executions)
      · exact Exec.Triple.require (fun _ _ h ↦ h) fun _ _ _ ↦ trivial
      intro _
      apply Exec.Triple.bind
        (Q := fun _ w ↦ Opened incidentId executions.fresh w.db.executions)
      · apply triple_write
        rintro w rfl
        exact ⟨row, by simp, hrow⟩
      intro _
      apply Exec.Triple.bind (hkeeps hflush executions.fresh)
      intro _
      exact Exec.Triple.pure fun _ h ↦ h
    intro executionId
    apply Exec.Triple.bind (hkeeps (fun _ ↦ rfl) executionId)
    intro _
    apply Exec.Triple.bind (hkeeps (frames_ask _ fun _ _ ↦ rfl) executionId)
    intro now
    apply Exec.Triple.bind
    · apply hkeeps
      cases approval with
      | none => exact Exec.frames_pure _
      | some approvalId => exact fun _ ↦ rfl
    intro _
    apply Exec.Triple.bind (hkeeps hflush executionId)
    intro _
    apply Exec.Triple.bind (hkeeps hflush executionId)
    intro _
    exact Exec.Triple.pure fun _ h _ ↦ h
  unfold claimActionExecution
  split
  · apply Exec.Triple.bind (htrue _)
    intro proposal
    apply Exec.Triple.bind (htrue _)
    intro existing
    cases existing with
    | some entry => exact Exec.Triple.pure fun _ _ h ↦ absurd h Bool.false_ne_true
    | none =>
      apply Exec.Triple.bind (htrue _)
      intro approval
      cases approval with
      | none => exact hinsert _ rfl none
      | some entry =>
        apply Exec.Triple.bind (htrue _)
        intro _
        exact hinsert _ rfl _
  · exact Exec.Triple.throw fun _ _ ↦ trivial

/-- Finishing an execution as a success records what was requested. -/
private theorem triple_finish_succeeded {incidentId : Nat} (executionId : Nat)
    (result : Parameters) :
    Exec.Triple (fun w ↦ AtMostOne w.trace ∧ Opened incidentId executionId w.db.executions)
      (finishActionExecution env executionId true none result) (fun _ ↦ Acted incidentId)
      fun _ w ↦ AtMostOne w.trace := by
  have hflush : Exec.Frames (fun w ↦ (w.trace, w.db.executions)) (flush env) :=
    frames_flush env fun _ _ ↦ rfl
  apply Exec.Triple.bind (Q := fun _ ↦ Acted incidentId)
  · apply triple_write
    rintro w ⟨hone, row, hrow, hof⟩
    refine ⟨hone, fun _ ↦ ⟨{ row with status := .succeeded, errorCode := none, result := result },
      ?_, hof, rfl⟩⟩
    apply List.mem_of_getElem?
    rw [Table.getElem?_update_self, hrow]
    rfl
  intro _
  exact acted_of_frames (Exec.frames_bind hflush fun _ ↦ Exec.frames_bind hflush fun _ ↦ hflush)

/-- The typed action of a claimed execution. -/
private theorem triple_perform {incidentId : Nat} (p : Proposal) (executionId : Nat) :
    Exec.Triple
      (fun w ↦ requests w.trace = 0 ∧ Opened incidentId executionId w.db.executions)
      (perform env settings p executionId) (fun _ ↦ Acted incidentId)
      fun _ w ↦ AtMostOne w.trace := by
  have hframed {α : Type} {x : Service α}
      (hx : Exec.Triple (fun w ↦ requests w.trace = 0) x (fun _ w ↦ AtMostOne w.trace)
        fun _ w ↦ AtMostOne w.trace)
      (hrows : Exec.Frames (fun w ↦ w.db.executions) x) :
      Exec.Triple
        (fun w ↦ requests w.trace = 0 ∧ Opened incidentId executionId w.db.executions) x
        (fun _ w ↦ AtMostOne w.trace ∧ Opened incidentId executionId w.db.executions)
        fun _ w ↦ AtMostOne w.trace :=
    (hx.and (hrows.keeps (Opened incidentId executionId))).mono (fun _ h ↦ h)
      (fun _ _ h ↦ h) fun _ _ h ↦ h.1
  have hsilent {α : Type} {x : Service α} (hx : Exec.Frames World.trace x) :
      Exec.Triple
        (fun w ↦ requests w.trace = 0 ∧ Opened incidentId executionId w.db.executions) x
        (fun _ ↦ Acted incidentId) fun _ w ↦ AtMostOne w.trace := by
    apply (hx.keeps (requests · = 0)).mono
    · exact fun _ h ↦ h.1
    · exact fun _ _ h ↦ ⟨.inl h, fun hne ↦ absurd h hne⟩
    · exact fun _ _ h ↦ .inl h
  apply Exec.Triple.ite
  · intro _
    apply Exec.Triple.bind (hframed (triple_scaleStagingDeployment _ _ _ _ _)
      (frames_scaleStagingDeployment (fun _ _ ↦ rfl) (fun _ _ ↦ rfl) (fun _ _ ↦ rfl) env
        settings _ _ _ _ _))
    intro _
    exact triple_finish_succeeded executionId _
  intro _
  apply Exec.Triple.ite
  · intro _
    cases p.snapshot.unhealthy with
    | none =>
      exact hsilent (frames_finishActionExecution (fun _ _ ↦ rfl) (fun _ _ ↦ rfl) env _ _ _ _)
    | some pod =>
      apply Exec.Triple.bind (hframed (triple_deletePod _ _)
        (frames_deletePod (fun _ _ ↦ rfl) (fun _ _ ↦ rfl) (fun _ _ ↦ rfl) env settings _ _))
      intro _
      exact triple_finish_succeeded executionId _
  intro _
  apply Exec.Triple.ite
  · intro _
    apply Exec.Triple.bind (hframed triple_revertToKnownGood _)
    · intro _
      exact triple_finish_succeeded executionId _
    · apply Exec.frames_bind
      · exact Exec.frames_bind (Exec.frames_require _ _) fun _ ↦
          Exec.frames_bind (Exec.frames_require _ _) fun _ ↦ Exec.frames_require _ _
      intro _
      apply Exec.frames_bind (frames_call _ fun _ _ ↦ rfl)
      intro tag
      apply Exec.frames_bind (Exec.frames_require _ _)
      intro _
      exact Exec.frames_when fun _ ↦
        frames_send (fun _ _ ↦ rfl) (fun _ _ ↦ rfl) (fun _ _ ↦ rfl) env _
  intro _
  exact hsilent (Exec.frames_pure _)

/-! ### A run of the processor -/

/-- A step that makes no request leaves nothing to record. -/
private theorem acted_of_silent {incidentId : Nat} {α : Type} {x : Service α}
    (h : Exec.Frames World.trace x) :
    Exec.Triple (fun w ↦ requests w.trace = 0) x (fun _ ↦ Acted incidentId)
      fun _ w ↦ AtMostOne w.trace :=
  (triple_silent h).mono (fun _ h ↦ h) (fun _ _ h ↦ ⟨.inl h, fun hne ↦ absurd h hne⟩)
    fun _ _ h ↦ h

private theorem frames_change {ω : Type} {f : World → ω}
    (htick : ∀ w n, f { w with tick := n } = f w)
    (hincidents : ∀ w t, f { w with db := { w.db with incidents := t } } = f w)
    (hactive : ∀ w g, f { w with activeIncidents := g } = f w)
    (happrovals : ∀ w t r,
      f { w with db := { w.db with approvals := t }, approvalRequests := r } = f w)
    (incidentId : Nat) (target : IncidentState) (details : Details) :
    Exec.Frames f (changeIncidentState env settings incidentId target worker details) :=
  frames_changeIncidentState htick env settings incidentId target worker details false hincidents
    (fun _ ↦ hactive) fun _ ↦ happrovals

private theorem frames_result {ω : Type} {f : World → ω} (incidentId : Nat)
    (action : Option ActionType) (detail : String) :
    Exec.Frames f (result incidentId action detail) :=
  Exec.frames_bind (frames_loadIncident _) fun _ ↦ Exec.frames_pure _

private theorem triple_execute (incidentId : Nat) (p : Proposal) :
    Exec.Triple (fun w ↦ requests w.trace = 0) (execute env settings incidentId p)
      (fun _ ↦ Acted incidentId) fun _ w ↦ AtMostOne w.trace := by
  apply Exec.Triple.bind (triple_silent (frames_write _ fun _ _ ↦ rfl))
  intro _
  apply Exec.Triple.bind (triple_silent (frames_change (fun _ _ ↦ rfl) (fun _ _ ↦ rfl)
    (fun _ _ ↦ rfl) (fun _ _ _ ↦ rfl) _ _ _))
  intro _
  apply Exec.Triple.ite
  · intro _
    exact acted_of_silent (frames_write _ fun _ _ ↦ rfl)
  intro _
  apply Exec.Triple.bind (Q := fun claim w ↦ requests w.trace = 0 ∧
    (claim.claimed → Opened incidentId claim.execution w.db.executions))
  · apply ((triple_silent (frames_claimActionExecution (fun _ _ ↦ rfl) (fun _ _ ↦ rfl) env
      incidentId p.proposalId p.runbook.id _ 1)).and (triple_claimActionExecution
        incidentId p.proposalId p.runbook.id _ 1)).mono
    · exact fun _ h ↦ ⟨h, trivial⟩
    · exact fun _ _ h ↦ h
    · exact fun _ _ h ↦ h.1
  intro claim
  apply Exec.Triple.bind (Q := fun _ ↦ Acted incidentId)
  · apply Exec.Triple.when
    · intro hclaimed
      exact (triple_perform p claim.execution).mono (fun _ h ↦ ⟨h.1, h.2 hclaimed⟩)
        (fun _ _ h ↦ h) fun _ _ h ↦ h
    · intro _ w h
      exact ⟨.inl h.1, fun hne ↦ absurd h.1 hne⟩
  intro _
  apply Exec.Triple.bind (acted_of_frames (Exec.frames_read _))
  intro status
  exact acted_of_frames fun _ ↦ rfl

private theorem triple_remediate (incidentId : Nat) (snapshot : Snapshot)
    (runbook : RunbookDocument) :
    Exec.Triple (fun w ↦ requests w.trace = 0)
      (remediate env settings incidentId snapshot runbook) (fun _ ↦ Acted incidentId)
      fun _ w ↦ AtMostOne w.trace := by
  apply Exec.Triple.bind (Q := fun _ w ↦ requests w.trace = 0)
  · intro w hw
    have hspec := seen_propose env settings incidentId snapshot runbook w rfl
    rcases hrun : (propose env settings incidentId snapshot runbook).run w with ⟨_ | p, w'⟩
    · rw [hrun] at hspec
      left
      rw [hspec.1]
      exact hw
    · rw [hrun] at hspec
      have htrace : w'.trace = w.trace := congrArg Prod.fst hspec.1
      show requests w'.trace = 0
      rw [htrace]
      exact hw
  intro p
  apply Exec.Triple.bind (Q := fun _ w ↦ requests w.trace = 0)
  · intro w hw
    have hspec := authorise_evaluated env incidentId p w.trace w rfl
    rcases hrun : (authorise env incidentId p).run w with ⟨_ | policy, w'⟩
    · rw [hrun] at hspec
      left
      rcases hspec with h | ⟨input, policy, -, h⟩
      · rw [h]
        exact hw
      · rw [h]
        simpa [requests, isRequest] using hw
    · rw [hrun] at hspec
      obtain ⟨input, -, h⟩ := hspec
      show requests w'.trace = 0
      rw [h]
      simpa [requests, isRequest] using hw
  intro policy
  apply Exec.Triple.ite
  · intro _
    exact acted_of_silent fun w ↦
      congrArg Prod.fst (frames_seen_hold env settings incidentId p policy w)
  intro _
  apply Exec.Triple.ite
  · intro _
    exact acted_of_silent fun w ↦
      congrArg Prod.fst (frames_seen_holdForWriter env settings incidentId p w)
  intro _
  apply Exec.Triple.bind (triple_execute incidentId p)
  intro _
  apply Exec.Triple.bind (acted_of_frames (frames_change (fun _ _ ↦ rfl) (fun _ _ ↦ rfl)
    (fun _ _ ↦ rfl) (fun _ _ _ ↦ rfl) _ _ _))
  intro _
  exact acted_of_frames (frames_result _ _ _)

end Executions

/-! ### The proposals of a run -/

/-- The incidents that are proposed for, and what is committed. -/
def filings (w : World) : List Nat × Database :=
  (w.db.proposals.map (·.incidentId), w.committed)

section Filings

variable {env : Env} {settings : Settings} {v : List Nat × Database}

/-- A step that proposes nothing and commits nothing. -/
private theorem filings_of_frames {α : Type} {x : Service α} (h : Exec.Frames filings x) :
    Exec.Triple (fun w ↦ filings w = v) x (fun _ w ↦ filings w = v)
      fun _ w ↦ w.committed = v.2 :=
  (h.keeps (· = v)).mono (fun _ h ↦ h) (fun _ _ h ↦ h) fun _ _ h ↦ congrArg Prod.snd h

private theorem frames_filings_change (incidentId : Nat) (target : IncidentState)
    (details : Details) :
    Exec.Frames filings (changeIncidentState env settings incidentId target worker details) :=
  frames_change (fun _ _ ↦ rfl) (fun _ _ ↦ rfl) (fun _ _ ↦ rfl) (fun _ _ _ ↦ rfl) _ _ _

private theorem frames_filings_setStatus (id : Nat) (status : ActionProposal → RecordStatus) :
    Exec.Frames filings
      (updateProposal id fun proposal ↦ { proposal with status := status proposal }) := by
  apply Exec.frames_update
  intro w
  have hids := Table.map_update w.db.proposals id (g := (·.incidentId))
    (f := fun proposal ↦ { proposal with status := status proposal }) fun _ ↦ rfl
  exact congrArg (·, w.committed) hids

private theorem triple_filings_propose (incidentId : Nat) (snapshot : Snapshot)
    (runbook : RunbookDocument) :
    Exec.Triple (fun w ↦ filings w = v) (propose env settings incidentId snapshot runbook)
      (fun _ w ↦ filings w = (v.1 ++ [incidentId], v.2)) fun _ w ↦ w.committed = v.2 := by
  have hflush : Exec.Frames filings (flush env) := frames_flush env fun _ _ ↦ rfl
  apply Exec.Triple.bind (filings_of_frames fun _ ↦ rfl)
  intro _
  apply Exec.Triple.bind (filings_of_frames fun _ ↦ rfl)
  intro _
  apply Exec.Triple.bind (filings_of_frames hflush)
  intro _
  apply Exec.Triple.bind (filings_of_frames (frames_filings_change _ _ _))
  intro _
  apply Exec.Triple.bind (filings_of_frames (frames_loadIncident _))
  intro incident
  apply Exec.Triple.bind (filings_of_frames fun _ ↦ rfl)
  intro _
  apply Exec.Triple.bind (Q := fun _ w ↦ filings w = (v.1 ++ [incidentId], v.2))
  · apply Exec.Triple.bind (filings_of_frames (Exec.frames_read _))
    intro proposalId
    apply Exec.Triple.bind (Q := fun _ w ↦ filings w = (v.1 ++ [incidentId], v.2))
    · apply triple_write
      rintro w rfl
      simp [filings, Table.insert]
    intro _
    exact Exec.Triple.pure fun _ h ↦ h
  intro proposalId
  apply Exec.Triple.bind (filings_of_frames hflush)
  intro _
  apply Exec.Triple.bind (filings_of_frames (frames_filings_change _ _ _))
  intro _
  exact Exec.Triple.pure fun _ h ↦ h

private theorem frames_filings_authorise (incidentId : Nat) (p : Proposal) :
    Exec.Frames filings (authorise env incidentId p) := by
  apply Exec.frames_bind (frames_loadIncident _)
  intro incident
  apply Exec.frames_bind (Exec.frames_ofExcept _)
  intro input
  apply Exec.frames_bind (frames_evaluate env input (fun _ _ ↦ rfl) fun _ _ ↦ rfl)
  intro policy
  apply Exec.frames_bind
  · exact fun _ ↦ rfl
  intro _
  exact Exec.frames_bind (frames_flush env fun _ _ ↦ rfl) fun _ ↦ Exec.frames_pure _

private theorem frames_filings_execute (incidentId : Nat) (p : Proposal) :
    Exec.Frames filings (execute env settings incidentId p) := by
  apply Exec.frames_bind (frames_filings_setStatus _ fun _ ↦ .running)
  intro _
  apply Exec.frames_bind (frames_filings_change _ _ _)
  intro _
  apply Exec.frames_ite (frames_filings_setStatus _ fun _ ↦ .succeeded)
  apply Exec.frames_bind (frames_claimActionExecution_of_tables (fun _ _ ↦ rfl)
    (fun _ _ ↦ rfl) (fun _ _ ↦ rfl) (fun _ _ _ ↦ rfl) env _ _ _ _ _)
  intro claim
  apply Exec.frames_bind
  · apply Exec.frames_when
    intro _
    exact frames_perform (fun _ _ ↦ rfl) (fun _ _ ↦ rfl) (fun _ _ ↦ rfl) env settings p
      claim.execution fun succeeded code result ↦
        frames_finishActionExecution_of_table (fun _ _ ↦ rfl) (fun _ _ ↦ rfl) env _ _ _ _
  intro _
  apply Exec.frames_bind (Exec.frames_read _)
  intro status
  exact frames_filings_setStatus _ fun proposal ↦ status.getD proposal.status

private theorem triple_filings_remediate (incidentId : Nat) (snapshot : Snapshot)
    (runbook : RunbookDocument) :
    Exec.Triple (fun w ↦ filings w = v) (remediate env settings incidentId snapshot runbook)
      (fun _ w ↦ filings w = (v.1 ++ [incidentId], v.2)) fun _ w ↦ w.committed = v.2 := by
  apply Exec.Triple.bind (triple_filings_propose incidentId snapshot runbook)
  intro p
  apply filings_of_frames
  apply Exec.frames_bind (frames_filings_authorise incidentId p)
  intro policy
  apply Exec.frames_ite
  · apply Exec.frames_bind (frames_filings_change _ _ _)
    intro _
    apply Exec.frames_bind (frames_filings_setStatus _ fun _ ↦
      if policy.requiresApproval then .pending else .rejected)
    intro _
    exact frames_result _ _ _
  apply Exec.frames_ite
  · apply Exec.frames_bind (frames_filings_setStatus _ fun _ ↦ .pending)
    intro _
    apply Exec.frames_bind (frames_filings_change _ _ _)
    intro _
    exact frames_result _ _ _
  apply Exec.frames_bind (frames_filings_execute incidentId p)
  intro _
  apply Exec.frames_bind (frames_filings_change _ _ _)
  intro _
  exact frames_result _ _ _

end Filings

/-! ### An attempt -/

/-- What a run of `process` leaves in the session of a job. -/
structure Processed (incidentId : Nat) (rows : Database) (w : World) : Prop where
  acted : Acted incidentId w
  committed : w.committed = rows
  proposals : ∃ added, w.db.proposals.map (·.incidentId) =
    rows.proposals.map (·.incidentId) ++ added ∧ (requests w.trace ≠ 0 → incidentId ∈ added)

/-- What an attempt leaves: at most one request, which is committed with its record and its
proposal or is lost with everything else that the attempt wrote. -/
inductive Attempted (incidentId : Nat) (rows : Database) (trace : List Event) (after : Database) :
    Prop
  | lost (one : AtMostOne trace) (unchanged : after = rows)
  | kept (one : requests trace ≤ 1) (committed : ¬ Pending trace)
      (proposals : rows.proposals.map (·.incidentId) <+: after.proposals.map (·.incidentId))
      (recorded : requests trace ≠ 0 → Succeeded after incidentId ∧ Proposes after incidentId)

section Jobs

variable {env : Env} {settings : Settings} {rows : Database}

/-- A world whose session has made no request and proposed nothing. -/
private def Untouched (rows : Database) (w : World) : Prop :=
  requests w.trace = 0 ∧ filings w = (rows.proposals.map (·.incidentId), rows)

private theorem triple_untouched {α : Type} {x : Service α} (htrace : Exec.Frames World.trace x)
    (hfilings : Exec.Frames filings x) :
    Exec.Triple (Untouched rows) x (fun _ ↦ Untouched rows)
      fun _ w ↦ AtMostOne w.trace ∧ w.committed = rows :=
  (triple_silent htrace).and (filings_of_frames hfilings)

private theorem Untouched.processed {w : World} (h : Untouched rows w) (incidentId : Nat) :
    Processed incidentId rows w where
  acted := ⟨.inl h.1, fun hne ↦ absurd h.1 hne⟩
  committed := congrArg Prod.snd h.2
  proposals := ⟨[], by rw [List.append_nil]; exact congrArg Prod.fst h.2, fun hne ↦ absurd h.1 hne⟩

private theorem triple_process (runbooks : RunbookLoader) (incidentId : Nat)
    (alert : Reliability.NormalizedAlert) :
    Exec.Triple (Untouched rows) (process env settings runbooks incidentId alert)
      (fun _ ↦ Processed incidentId rows) fun _ w ↦ AtMostOne w.trace ∧ w.committed = rows := by
  have hleave {α : Type} {x : Service α} (htrace : Exec.Frames World.trace x)
      (hfilings : Exec.Frames filings x) :
      Exec.Triple (Untouched rows) x (fun _ ↦ Processed incidentId rows)
        fun _ w ↦ AtMostOne w.trace ∧ w.committed = rows :=
    (triple_untouched htrace hfilings).mono (fun _ h ↦ h) (fun _ _ h ↦ h.processed incidentId)
      fun _ _ h ↦ h
  have hflush {ω : Type} {f : World → ω} (htick : ∀ w n, f { w with tick := n } = f w) :
      Exec.Frames f (flush env) := frames_flush env htick
  apply Exec.Triple.bind (triple_untouched (frames_query env _ fun _ _ ↦ rfl)
    (frames_query env _ fun _ _ ↦ rfl))
  intro existing
  cases existing with
  | some entry => exact hleave (frames_result _ _ _) (frames_result _ _ _)
  | none =>
    apply Exec.Triple.bind (triple_untouched
      (frames_gather (fun _ _ ↦ rfl) (fun _ _ ↦ rfl) env settings incidentId alert)
      (frames_gather (fun _ _ ↦ rfl) (fun _ _ ↦ rfl) env settings incidentId alert))
    intro snapshot
    apply Exec.Triple.bind (triple_untouched (frames_loadIncident _) (frames_loadIncident _))
    intro incident
    cases runbooks.matching incident.incidentType (alertConditions alert.alertName)
        incident.environment with
    | error e =>
      apply Exec.Triple.ite
      · intro _
        have hunmatched {ω : Type} {f : World → ω} (htick : ∀ w n, f { w with tick := n } = f w) :
            Exec.Frames f (unmatched env incidentId) :=
          Exec.frames_bind (hflush htick) fun _ ↦ Exec.frames_bind (hflush htick) fun _ ↦
            Exec.frames_bind (frames_loadIncident _) fun _ ↦ Exec.frames_pure _
        exact hleave (hunmatched fun _ _ ↦ rfl) (hunmatched fun _ _ ↦ rfl)
      · intro _
        exact hleave (Exec.frames_throw e) (Exec.frames_throw e)
    | ok runbook =>
      apply ((triple_remediate incidentId snapshot runbook).and
        (triple_filings_remediate incidentId snapshot runbook)).mono
      · exact fun _ h ↦ h
      · rintro _ w ⟨hacted, hfilings⟩
        exact ⟨hacted, congrArg Prod.snd hfilings, [incidentId], congrArg Prod.fst hfilings,
          fun _ ↦ List.mem_singleton_self _⟩
      · exact fun _ _ h ↦ h

/-- **An attempt**: whatever fails, wherever it fails. -/
theorem attempted (s : State) (env : Env) (settings : Settings) (runbooks : RunbookLoader)
    (job : AlertJob) :
    Attempted job.incidentId s.rows (s.worked env settings runbooks job).trace
      (s.worked env settings runbooks job).committed := by
  have hlost {w : World} (h : AtMostOne w.trace ∧ w.committed = s.rows) :
      Attempted job.incidentId s.rows w.trace w.committed := .lost h.1 h.2
  have hspec : Exec.Triple (Untouched s.rows) (processAlertJob env settings runbooks job)
      (fun _ w ↦ Attempted job.incidentId s.rows w.trace w.committed)
      fun _ w ↦ Attempted job.incidentId s.rows w.trace w.committed := by
    apply Exec.Triple.bind
    · exact (triple_untouched (frames_query env _ fun _ _ ↦ rfl)
        (frames_query env _ fun _ _ ↦ rfl)).mono (fun _ h ↦ h) (fun _ _ h ↦ h)
          fun _ _ h ↦ hlost h
    intro row
    cases row with
    | none => exact Exec.Triple.throw fun w h ↦ hlost ⟨.inl h.1, congrArg Prod.snd h.2⟩
    | some incident =>
      apply Exec.Triple.bind
      · exact (triple_process runbooks job.incidentId job.alert.toNormalizedAlert).mono
          (fun _ h ↦ h) (fun _ _ h ↦ h) fun _ _ h ↦ hlost h
      intro result
      apply Exec.Triple.bind (Q := fun _ w ↦
        Attempted job.incidentId s.rows w.trace w.committed)
      · apply Exec.triple_of_state
        rintro w ⟨⟨hone, hrecorded⟩, hcommitted, added, hadded, hmem⟩
        simp only [commit, Exec.run_bind, run_flush]
        cases env.database w with
        | some e => exact .lost hone hcommitted
        | none =>
          have hrequests : requests (.committed :: w.trace) = requests w.trace := by
            simp [requests, isRequest]
          apply Attempted.kept
          · show requests (.committed :: w.trace) ≤ 1
            rw [hrequests]
            rcases hone with h | ⟨h, -⟩ <;> omega
          · rintro ⟨m, hm⟩
            simp at hm
          · exact ⟨added, hadded.symm⟩
          · intro hne
            have hne' : requests w.trace ≠ 0 := by
              rw [← hrequests]
              exact hne
            constructor
            · exact hrecorded hne'
            · have hin : job.incidentId ∈ w.db.proposals.map (·.incidentId) := by
                rw [hadded]
                exact List.mem_append_right _ (hmem hne')
              obtain ⟨proposal, hproposal, hof⟩ := List.mem_map.mp hin
              exact ⟨proposal, hproposal, hof⟩
      intro _
      exact Exec.Triple.pure fun _ h ↦ h
  exact hspec.state ⟨rfl, rfl⟩

end Jobs

/-! ### Runs -/

section Deliveries

variable {env : Env} {settings : Settings} {correlationId : String} {t : Table ActionProposal}

private theorem triple_proposals_ingestAlerts (alerts : List NormalizedAlert) :
    Exec.Triple (fun w ↦ w.db.proposals = t) (ingestAlerts env settings correlationId alerts)
      (fun _ w ↦ w.db.proposals = t) fun _ _ ↦ True := by
  induction alerts with
  | nil =>
    apply Exec.Triple.bind ((frames_flush env fun _ _ ↦ rfl :
      Exec.Frames (fun w ↦ w.db.proposals) _).returns (· = t))
    intro _
    exact Exec.Triple.pure fun _ h ↦ h
  | cons alert alerts ih =>
    apply Exec.Triple.bind (Q := fun _ w ↦ w.db.proposals = t)
    · rintro w rfl
      have hone := triple_ingestOne env settings correlationId alert w rfl
      rcases hrun : (ingestOne env settings correlationId alert).run w with ⟨_ | result, w'⟩
      · trivial
      · rw [hrun] at hone
        change Ingests correlationId alert w.db result w'.db at hone
        show w'.db.proposals = w.db.proposals
        generalize w'.db = after at hone ⊢
        cases hone with
        | repeated found same => rfl
        | opened differs opens => rfl
        | followed differs follows => rfl
    intro result
    exact Exec.Triple.bind ih fun _ ↦ Exec.Triple.pure fun _ h ↦ h

/-- A delivery proposes nothing. -/
private theorem proposals_alertmanagerWebhook (env : Env) (settings : Settings)
    (correlationId : String) (alerts : List NormalizedAlert) {w : World}
    (hw : w.db = w.committed) :
    ((alertmanagerWebhook env settings correlationId alerts).run w).2.committed.proposals =
      w.committed.proposals := by
  have hspec : Exec.Triple
      (fun w' ↦ w'.db.proposals = w.committed.proposals ∧ w'.committed = w.committed)
      (alertmanagerWebhook env settings correlationId alerts)
      (fun _ w' ↦ w'.committed.proposals = w.committed.proposals)
      fun _ w' ↦ w'.committed.proposals = w.committed.proposals := by
    apply Exec.Triple.bind
    · apply ((triple_proposals_ingestAlerts alerts).and
        ((frames_committed_ingestAlerts env settings correlationId alerts).keeps
          (· = w.committed))).mono
      · exact fun _ h ↦ h
      · exact fun _ _ h ↦ h
      · exact fun _ _ h ↦ congrArg (·.proposals) h.2
    intro ingested
    apply Exec.Triple.bind (Q := fun _ w' ↦ w'.committed.proposals = w.committed.proposals)
    · apply Exec.triple_of_state
      rintro w' ⟨hproposals, hcommitted⟩
      simp only [commit, Exec.run_bind, run_flush]
      cases env.database w' with
      | none => exact hproposals
      | some e => exact congrArg (·.proposals) hcommitted
    intro _
    exact Exec.Triple.pure fun _ h ↦ h
  exact hspec.state ⟨congrArg (·.proposals) hw, rfl⟩

end Deliveries

section Runs

variable {s : State} {incidentId : Nat}

private theorem Proposes.of_prefix {rows after : Database}
    (h : rows.proposals.map (·.incidentId) <+: after.proposals.map (·.incidentId))
    (hrows : Proposes rows incidentId) : Proposes after incidentId := by
  obtain ⟨proposal, hproposal, rfl⟩ := hrows
  have hmem := h.subset (List.mem_map_of_mem (f := (·.incidentId)) hproposal)
  obtain ⟨proposal', hproposal', hof⟩ := List.mem_map.mp hmem
  exact ⟨proposal', hproposal', hof⟩

/-- A proposal stays. -/
theorem proposes_step (op : Operation) (h : Proposes s.rows incidentId) :
    Proposes (step s op).rows incidentId := by
  unfold step
  split
  · next correlationId alerts published _ =>
    have hproposals := proposals_alertmanagerWebhook op.env op.settings correlationId alerts
      (w := s.world) rfl
    obtain ⟨proposal, hproposal, hof⟩ := h
    exact ⟨proposal, hproposals ▸ hproposal, hof⟩
  · next i runbooks _ =>
    split
    · exact h
    · next job _ =>
      cases attempted s op.env op.settings runbooks job with
      | lost one unchanged =>
        show Proposes (s.worked op.env op.settings runbooks job).committed incidentId
        rw [unchanged]
        exact h
      | kept one committed proposals recorded => exact h.of_prefix proposals

/-- What an operation's attempt is. -/
private theorem attemptOf_eq_some {op : Operation} {a : Attempt}
    (h : attemptOf incidentId s op = some a) :
    Attempted incidentId s.rows a.trace a.rows ∧ (step s op).rows = a.rows ∧
      (Proposes s.rows incidentId → requests a.trace = 0) := by
  unfold attemptOf at h
  split at h
  · cases h
  · next i runbooks hcall =>
    obtain ⟨job, hjob, rfl⟩ := Option.map_eq_some_iff.mp h
    obtain ⟨hfound, hof⟩ := Option.filter_eq_some_iff.mp hjob
    obtain rfl := of_decide_eq_true hof
    refine ⟨attempted s op.env op.settings runbooks job, ?_, ?_⟩
    · simp only [step, hcall, hfound]
    · intro hproposes
      exact requests_of_silent (worked_settled op.env op.settings runbooks (.inl hproposes)).trace

/-- Once an incident is proposed for, no attempt on it makes a request. -/
theorem attempts_of_proposes (ops : List Operation) (h : Proposes s.rows incidentId) :
    ∀ a ∈ attempts incidentId s ops, requests a.trace = 0 := by
  induction ops generalizing s with
  | nil =>
    intro a ha
    cases ha
  | cons op ops ih =>
    intro a ha
    rcases List.mem_append.mp ha with ha | ha
    · exact (attemptOf_eq_some (Option.mem_toList.mp ha)).2.2 h
    · exact ih (proposes_step op h) a ha

/-- What a kept request leaves behind. -/
private theorem Attempted.of_kept {rows after : Database} {trace : List Event}
    (h : Attempted incidentId rows trace after) (hkept : Kept trace) :
    Succeeded after incidentId ∧ Proposes after incidentId := by
  cases h with
  | lost one unchanged =>
    rcases one with h | ⟨-, h⟩
    · exact absurd h hkept.1
    · exact absurd h hkept.2
  | kept one committed proposals recorded => exact recorded hkept.1

private theorem Attempted.one {rows after : Database} {trace : List Event}
    (h : Attempted incidentId rows trace after) : requests trace ≤ 1 := by
  cases h with
  | lost one unchanged => rcases one with h | ⟨h, -⟩ <;> omega
  | kept one committed proposals recorded => exact one

/-- An attempt makes one request at most, and a kept one is recorded. -/
private theorem attempts_each (s : State) (ops : List Operation) :
    ∀ a ∈ attempts incidentId s ops,
      requests a.trace ≤ 1 ∧ (Kept a.trace → Succeeded a.rows incidentId) := by
  induction ops generalizing s with
  | nil =>
    intro a ha
    cases ha
  | cons op ops ih =>
    intro a ha
    rcases List.mem_append.mp ha with ha | ha
    · have h := (attemptOf_eq_some (Option.mem_toList.mp ha)).1
      exact ⟨h.one, fun hkept ↦ (h.of_kept hkept).1⟩
    · exact ih (step s op) a ha

/-- After a kept request no attempt makes another. -/
private theorem attempts_pairwise (s : State) (ops : List Operation) :
    (attempts incidentId s ops).Pairwise fun earlier later ↦
      Kept earlier.trace → requests later.trace = 0 := by
  induction ops generalizing s with
  | nil => exact List.Pairwise.nil
  | cons op ops ih =>
    unfold attempts
    cases hop : attemptOf incidentId s op with
    | none => exact ih (step s op)
    | some a =>
      obtain ⟨hattempted, hrows, -⟩ := attemptOf_eq_some hop
      apply List.Pairwise.cons _ (ih (step s op))
      intro later hlater hkept
      have hproposes := (hattempted.of_kept hkept).2
      rw [← hrows] at hproposes
      exact attempts_of_proposes ops hproposes later hlater

/-- The requests of attempts of which none follows a kept one. -/
private theorem sum_requests_le {as : List Attempt} (hone : ∀ a ∈ as, requests a.trace ≤ 1)
    (hpairwise : as.Pairwise fun earlier later ↦
      Kept earlier.trace → requests later.trace = 0) :
    (as.map (requests ·.trace)).sum ≤ as.countP (Pending ·.trace) + 1 := by
  induction as with
  | nil => exact Nat.zero_le _
  | cons a as ih =>
    have ih := ih (fun b hb ↦ hone b (List.mem_cons_of_mem a hb)) hpairwise.of_cons
    have ha := hone a List.mem_cons_self
    rw [List.map_cons, List.sum_cons, List.countP_cons]
    by_cases hpending : Pending a.trace
    · rw [if_pos (decide_eq_true hpending)]
      omega
    by_cases hrequests : requests a.trace = 0
    · omega
    have hnone : (as.map (requests ·.trace)).sum = 0 := by
      apply List.sum_eq_zero
      intro n hn
      obtain ⟨later, hlater, rfl⟩ := List.mem_map.mp hn
      exact (List.pairwise_cons.mp hpairwise).1 later hlater ⟨hrequests, hpending⟩
    omega

/-- **Jobs that are delivered at least once**: in every order of deliveries and jobs, whatever
fails, an attempt on an incident makes at most one request; one that is committed is recorded as
an execution that succeeded, and no later attempt on the incident makes another. So a run makes
at most one request more for an incident than attempts on it lost their commit. -/
theorem attempts_act_once (s : State) (ops : List Operation) (incidentId : Nat) :
    (attempts incidentId s ops).Pairwise (fun earlier later ↦
      Kept earlier.trace → requests later.trace = 0) ∧
    (∀ a ∈ attempts incidentId s ops,
      requests a.trace ≤ 1 ∧ (Kept a.trace → Succeeded a.rows incidentId)) ∧
    ((attempts incidentId s ops).map (requests ·.trace)).sum ≤
      (attempts incidentId s ops).countP (Pending ·.trace) + 1 :=
  ⟨attempts_pairwise s ops, attempts_each s ops,
    sum_requests_le (fun a ha ↦ (attempts_each s ops a ha).1) (attempts_pairwise s ops)⟩

end Runs

/-- The commits after a request fail. -/
def uncommitting : Env :=
  { oneUnready with database := fun w ↦ if Pending w.trace then some .database else none }

/-- A lost commit lets the next attempt delete again. -/
example : (attempts 0 {} [⟨.deliver "first" [oomKilled .firing "a"] 1, .standard, oneUnready⟩,
    ⟨.work 0 memoryPressureLibrary, {}, uncommitting⟩,
    ⟨.work 0 memoryPressureLibrary, {}, oneUnready⟩]).map (requests ·.trace) = [1, 1] := by
  decide +kernel

end CloudWard.Alerts
