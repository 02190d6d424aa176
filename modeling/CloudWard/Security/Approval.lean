import CloudWard.Approvals.Requested
import CloudWard.Security.Service

/-!
# The approvals of an ingestion

An ingestion asks for an approval only where the evaluation of its quarantine requires one,
and it commits what it leaves waiting.
-/

namespace CloudWard.Security

open CloudWard.Approvals CloudWard.Db CloudWard.Incidents CloudWard.Kubernetes CloudWard.Logic
  CloudWard.Policies CloudWard.Remediation CloudWard.Risk Service

/-- Why an ingestion asks: its evaluation required an approval. -/
def Asking (decision : PolicyDecision) : Prop := decision.requiresApproval

/-- The decision that `proposeQuarantine` files. -/
def filedDecision (d : Delivery) (incidentId proposalId : Nat) (policy : PolicyResult) :
    PolicyDecision where
  incidentId := incidentId
  proposalId := proposalId
  allowed := policy.allowed
  requiresApproval := policy.requiresApproval
  reason := policy.reason
  input := ingestionInput d.event d.labels

/-- The approval that an ingestion may leave. -/
def LeavesWaiting (env : Env) (d : Delivery) (v : Papers) (db : Database) : Prop :=
  ∃ eventId w', (env.opa w' (ingestionInput d.event d.labels)).requiresApproval ∧
    AtMostWaits env v.environments.length v.proposals.fresh (v.opened .staging)
      (proposalRow d v.environments.length eventId)
      (filedDecision d v.environments.length v.proposals.fresh
        (env.opa w' (ingestionInput d.event d.labels))) db

section Stages

variable {env : Env} {settings : Settings} {v : Papers} {α : Type} {x : Service α}

/-- A stage that leaves the papers alone. -/
private theorem triple_papers (hx : Exec.Frames papers x) :
    Exec.Triple (fun w ↦ papers w = v) x (fun _ w ↦ papers w = v)
      fun _ ↦ RequestsFrom env Asking v.requests :=
  (keeps_papers hx).mono (fun _ h ↦ h) (fun _ _ h ↦ h) fun _ _ h ↦ .of_eq h

private theorem papers_flush : Exec.Triple (fun w ↦ papers w = v) (flush env)
    (fun _ w ↦ papers w = v) fun _ ↦ RequestsFrom env Asking v.requests :=
  triple_papers (frames_flush env fun _ _ ↦ rfl)

private theorem papers_change (incidentId : Nat) {target : IncidentState}
    (h : target ≠ .awaitingApproval) (actor : String) (details : Details) :
    Exec.Triple (fun w ↦ papers w = v)
      (changeIncidentState env settings incidentId target actor details)
      (fun _ w ↦ papers w = v) fun _ ↦ RequestsFrom env Asking v.requests :=
  triple_papers (frames_papers_change env settings incidentId actor details h)

private theorem papers_updateIncident (incidentId : Nat) {f : Incident → Incident}
    (hf : ∀ row, (f row).environment = row.environment) :
    Exec.Triple (fun w ↦ papers w = v) (updateIncident incidentId f) (fun _ w ↦ papers w = v)
      fun _ ↦ RequestsFrom env Asking v.requests :=
  triple_papers (Exec.frames_update fun w ↦ papers_update w _ hf)

private theorem papers_openEvent (d : Delivery) :
    Exec.Triple (fun w ↦ papers w = v) (openEvent env settings d)
      (fun ids w ↦ papers w = v.opened .staging ∧ ids.1 = v.environments.length)
      fun _ ↦ RequestsFrom env Asking v.requests := by
  apply Exec.Triple.bind ((papers_createIncident env (incidentRow d) _).mono (fun _ h ↦ h)
    (fun _ _ h ↦ h) fun _ _ h ↦ .of_eq h)
  intro incidentId
  apply Exec.Triple.assume
  rintro rfl
  apply Exec.Triple.bind
  · exact papers_updateIncident _ fun _ ↦ rfl
  intro _
  apply Exec.Triple.bind
  · apply triple_papers
    apply Exec.frames_when
    intro _
    apply Exec.frames_bind (frames_ask _ fun _ _ ↦ rfl)
    intro fault
    exact Exec.frames_bind (Exec.frames_faultOf _) fun _ ↦ frames_flush env fun _ _ ↦ rfl
  intro _
  apply Exec.Triple.bind
  · exact papers_updateIncident _ fun _ ↦ rfl
  intro _
  apply Exec.Triple.bind
  · apply triple_papers
    apply Exec.frames_bind (Exec.frames_read _)
    intro events
    apply Exec.frames_bind (Exec.frames_require _ _)
    intro _
    apply Exec.frames_bind (fun _ ↦ rfl)
    intro _
    exact Exec.frames_bind (frames_flush env fun _ _ ↦ rfl) fun _ ↦ Exec.frames_pure _
  intro eventId
  apply Exec.Triple.bind papers_flush
  intro _
  apply Exec.Triple.bind papers_flush
  intro _
  apply Exec.Triple.bind (papers_change _ (by decide) _ _)
  intro _
  apply Exec.Triple.bind (papers_change _ (by decide) _ _)
  intro _
  exact Exec.Triple.pure fun _ h ↦ ⟨h, rfl⟩

/-- The papers after the evaluation of an ingestion's proposal. -/
private def evaluatedPapers (env : Env) (d : Delivery) (v : Papers) (incidentId eventId : Nat)
    (w' : World) : Papers :=
  v.file (proposalRow d incidentId eventId)
    (filedDecision d incidentId v.proposals.fresh
      (env.opa w' (ingestionInput d.event d.labels)))
    (env.opa w' (ingestionInput d.event d.labels))

private theorem papers_proposeQuarantine (d : Delivery) (incidentId eventId : Nat) :
    Exec.Triple (fun w ↦ papers w = v) (proposeQuarantine env settings d incidentId eventId)
      (fun filed w ↦ ∃ w', filed.1 = v.proposals.fresh ∧
        filed.2 = env.opa w' (ingestionInput d.event d.labels) ∧
        papers w = evaluatedPapers env d v incidentId eventId w')
      fun _ ↦ RequestsFrom env Asking v.requests := by
  apply Exec.Triple.bind
  · exact papers_updateIncident _ fun _ ↦ rfl
  intro _
  apply Exec.Triple.bind papers_flush
  intro _
  apply Exec.Triple.bind (papers_change _ (by decide) _ _)
  intro _
  apply Exec.Triple.bind (Q := fun id w ↦ papers w = { v with
    proposals := v.proposals.insert (proposalRow d incidentId eventId) } ∧ id = v.proposals.fresh)
  · rintro w rfl
    exact ⟨rfl, rfl⟩
  intro proposalId
  apply Exec.Triple.assume
  rintro rfl
  apply Exec.Triple.bind papers_flush
  intro _
  apply Exec.Triple.bind papers_flush
  intro _
  apply Exec.Triple.bind (papers_change _ (by decide) _ _)
  intro _
  apply Exec.Triple.bind (Q := fun policy w ↦
    ∃ w', policy = env.opa w' (ingestionInput d.event d.labels) ∧ papers w = { v with
      proposals := v.proposals.insert (proposalRow d incidentId eventId)
      evaluation := some (ingestionInput d.event d.labels, policy) })
  · rintro w hw
    let answer := (ingestionInput d.event d.labels, env.opa w (ingestionInput d.event d.labels))
    exact ⟨w, rfl, congrArg (fun o : Papers ↦ { o with evaluation := some answer }) hw⟩
  rintro policy w ⟨w', rfl, hw⟩
  revert w
  change Exec.Triple _ _ _ _
  apply Exec.Triple.bind
  · exact triple_papers (Exec.frames_update fun _ ↦ rfl)
  intro _
  apply Exec.Triple.bind
    (Q := fun _ w ↦ papers w = evaluatedPapers env d v incidentId eventId w')
  · apply triple_write
    intro w hw
    simp only [papers, evaluatedPapers, Papers.file, Papers.mk.injEq] at hw ⊢
    obtain ⟨hproposals, hdecisions, hexecutions, happrovals, hrequests, hevaluation, hrows⟩ := hw
    rw [hdecisions]
    exact ⟨hproposals, rfl, hexecutions, happrovals, hrequests, hevaluation, hrows⟩
  intro _
  apply Exec.Triple.bind
    (Q := fun _ w ↦ papers w = evaluatedPapers env d v incidentId eventId w')
  · exact papers_flush (v := evaluatedPapers env d v incidentId eventId w')
  intro _
  exact Exec.Triple.pure fun _ h ↦ ⟨w', rfl, rfl, h⟩

/-- What an ingestion with this decision leaves of a session. -/
private def Ends (env : Env) (d : Delivery) (incidentId eventId : Nat) (v : Papers) (w' : World)
    (w : World) : Prop :=
  RequestsFrom env Asking v.requests w ∧
    (w.db.approvals.length = v.approvals.length ∨
      (env.opa w' (ingestionInput d.event d.labels)).requiresApproval ∧
        AtMostWaits env incidentId v.proposals.fresh v (proposalRow d incidentId eventId)
          (filedDecision d incidentId v.proposals.fresh
            (env.opa w' (ingestionInput d.event d.labels))) w.db)

/-- An end that touches neither approvals nor requests. -/
private theorem papers_quiet {d : Delivery} {incidentId eventId : Nat} {w' : World}
    {x : Service Unit}
    (hx : Exec.Frames (fun w ↦ (w.db.approvals.length, w.approvalRequests)) x) :
    Exec.Triple (fun w ↦ papers w = evaluatedPapers env d v incidentId eventId w') x
      (fun _ ↦ Ends env d incidentId eventId v w') fun _ ↦ RequestsFrom env Asking v.requests := by
  apply (hx.keeps fun o ↦ o.2 = v.requests ∧ o.1 = v.approvals.length).mono
  · intro w hw
    have happrovals : w.db.approvals = v.approvals := congrArg Papers.approvals hw
    exact ⟨congrArg Papers.requests hw, congrArg List.length happrovals⟩
  · exact fun _ _ h ↦ ⟨.of_eq h.1, .inl h.2⟩
  · exact fun _ _ h ↦ .of_eq h.1

private theorem papers_settleEvent (d : Delivery) (incidentId eventId : Nat) (w' : World) :
    Exec.Triple (fun w ↦ papers w = evaluatedPapers env d v incidentId eventId w')
      (settleEvent env settings incidentId eventId v.proposals.fresh
        (env.opa w' (ingestionInput d.event d.labels)))
      (fun _ ↦ Ends env d incidentId eventId v w')
      fun _ ↦ RequestsFrom env Asking v.requests := by
  apply Exec.Triple.ite
  · exact fun _ ↦ papers_quiet (Exec.frames_update fun _ ↦ rfl)
  intro _
  apply Exec.Triple.ite
  · intro hrequires
    apply Exec.Triple.bind
      (Q := fun _ w ↦ papers w = evaluatedPapers env d v incidentId eventId w')
    · exact Exec.Triple.update fun _ h ↦ h
    intro _
    have hanswered : Answered env (filedDecision d incidentId v.proposals.fresh
        (env.opa w' (ingestionInput d.event d.labels))) := ⟨w', rfl, rfl⟩
    apply (triple_await (v := evaluatedPapers env d v incidentId eventId w') (C := Asking) {}
      hanswered hrequires fun w hw ↦ evaluated_of_papers hw rfl rfl rfl rfl rfl).mono
    · exact fun _ h ↦ h
    · exact fun _ _ h ↦ ⟨h.1, .inr ⟨hrequires, h.2⟩⟩
    · exact fun _ _ h ↦ h
  · intro _
    apply papers_quiet
    apply Exec.frames_bind
    · exact Exec.frames_update fun _ ↦ rfl
    intro _
    exact frames_changeIncidentState (fun _ _ ↦ rfl) env settings incidentId .blocked _ _ false
      (fun _ _ ↦ rfl) (fun _ _ _ ↦ rfl) fun h ↦ absurd h (by decide)

end Stages

/-- What `ingest_security_event` leaves: requests made after its evaluation, and no new approval
or one that waits for the quarantine it proposed. -/
theorem leaves_ingestSecurityEvent (env : Env) (settings : Settings) (d : Delivery) {v : Papers} :
    Exec.Triple (fun w ↦ papers w = v) (ingestSecurityEvent env settings d)
      (fun _ w ↦ RequestsFrom env Asking v.requests w ∧
        (w.committed.approvals.length = v.approvals.length ∨ LeavesWaiting env d v w.committed))
      fun _ ↦ RequestsFrom env Asking v.requests := by
  apply Exec.Triple.bind (triple_papers (frames_query env _ fun _ _ ↦ rfl))
  intro existing
  -- the end of both branches: the session's rows are committed
  have hcommit : Exec.Triple (fun w ↦ RequestsFrom env Asking v.requests w ∧
      (w.db.approvals.length = v.approvals.length ∨ LeavesWaiting env d v w.db))
      (do
        flush env
        commit env)
      (fun _ w ↦ RequestsFrom env Asking v.requests w ∧
        (w.committed.approvals.length = v.approvals.length ∨ LeavesWaiting env d v w.committed))
      fun _ ↦ RequestsFrom env Asking v.requests := by
    have hflush : Exec.Triple (fun w ↦ RequestsFrom env Asking v.requests w ∧
        (w.db.approvals.length = v.approvals.length ∨ LeavesWaiting env d v w.db)) (flush env)
        (fun _ w ↦ RequestsFrom env Asking v.requests w ∧
          (w.db.approvals.length = v.approvals.length ∨ LeavesWaiting env d v w.db))
        fun _ ↦ RequestsFrom env Asking v.requests := by
      have hframes : Exec.Frames (fun w ↦ (w.db, w.approvalRequests)) (flush env) :=
        frames_flush env fun _ _ ↦ rfl
      apply (hframes.keeps fun o ↦
        RequestsFrom env Asking v.requests { start {} with approvalRequests := o.2 } ∧
          (o.1.approvals.length = v.approvals.length ∨ LeavesWaiting env d v o.1)).mono
      · exact fun _ h ↦ h
      · exact fun _ _ h ↦ h
      · exact fun _ _ h ↦ h.1
    apply Exec.Triple.bind hflush
    intro _
    apply Exec.Triple.bind hflush
    intro _
    exact Exec.Triple.update fun _ h ↦ h
  cases existing with
  | some entry =>
    apply Exec.Triple.bind
    · exact triple_papers (Exec.frames_update fun _ ↦ rfl)
    intro _
    apply Exec.Triple.bind papers_flush
    intro _
    apply hcommit.mono
    · intro w hw
      have happrovals : w.db.approvals = v.approvals := congrArg Papers.approvals hw
      exact ⟨.of_eq (congrArg Papers.requests hw), .inl (congrArg List.length happrovals)⟩
    · exact fun _ _ h ↦ h
    · exact fun _ _ h ↦ h
  | none =>
    apply Exec.Triple.bind (papers_openEvent d)
    rintro ⟨incidentId, eventId⟩
    apply Exec.Triple.assume
    rintro rfl
    apply Exec.Triple.bind (papers_proposeQuarantine (v := v.opened .staging) d _ eventId)
    rintro ⟨proposalId, policy⟩ w ⟨w', rfl, rfl, hw⟩
    revert w
    change Exec.Triple _ _ _ _
    apply Exec.Triple.bind (papers_settleEvent (v := v.opened .staging) d _ eventId w')
    intro _
    apply hcommit.mono
    · rintro w ⟨hrequests, hsame | hwaits⟩
      · exact ⟨hrequests, .inl hsame⟩
      · exact ⟨hrequests, .inr ⟨eventId, w', hwaits⟩⟩
    · exact fun _ _ h ↦ h
    · exact fun _ _ h ↦ h

end CloudWard.Security
