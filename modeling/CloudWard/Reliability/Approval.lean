import CloudWard.Approvals.Requested
import CloudWard.Reliability.Trace

/-!
# The approvals of a processor run

A run asks for an approval when it may not execute: because the policy requires one, or
because the image writer is disabled although the policy allows the revert.
-/

namespace CloudWard.Reliability

open CloudWard.Approvals CloudWard.Db CloudWard.Incidents CloudWard.Kubernetes CloudWard.Logic
  CloudWard.Policies CloudWard.Remediation CloudWard.Risk CloudWard.Runbooks Service

theorem Proposal.score_le (p : Proposal) : p.risk.score ≤ 100 := p.risk.score_le

/-- The row that `propose` files. -/
def filedRow (incidentId : Nat) (p : Proposal) : ActionProposal where
  incidentId := incidentId
  actionType := p.runbook.action
  parameters := proposalParameters p.snapshot p.runbook.action
  riskScore := p.risk.score
  riskCalculation := riskDump p.risk
  riskScore_le := p.score_le

section Stages

variable (env : Env) (settings : Settings) (incidentId : Nat)

variable {v : Papers}

/-- The end of the proposal stage files one pending proposal. -/
private theorem triple_file (snapshot : Snapshot) (runbook : RunbookDocument) (risk : RiskResult) :
    Exec.Triple (fun w ↦ papers w = v) (do
        let proposalId ← insertProposal (filedRow incidentId ⟨snapshot, runbook, risk, 0⟩)
        flush env
        changeIncidentState env settings incidentId .policyEvaluation worker
        return (⟨snapshot, runbook, risk, proposalId⟩ : Proposal))
      (fun p w ↦ papers w = { v with proposals := v.proposals.insert (filedRow incidentId p) } ∧
        p.proposalId = v.proposals.fresh ∧ p.snapshot = snapshot ∧ p.runbook = runbook)
      fun _ w ↦ w.approvalRequests = v.requests := by
  apply Exec.Triple.bind (Q := fun id w ↦ papers w =
    { v with
      proposals := v.proposals.insert (filedRow incidentId ⟨snapshot, runbook, risk, 0⟩) } ∧
    id = v.proposals.fresh)
  · rintro w rfl
    exact ⟨rfl, rfl⟩
  intro id
  apply Exec.Triple.assume
  rintro rfl
  apply Exec.Triple.bind (keeps_papers (frames_flush env fun _ _ ↦ rfl))
  intro _
  apply Exec.Triple.bind
    (keeps_papers (frames_papers_change env settings incidentId worker {} (by decide)))
  intro _
  apply Exec.Triple.pure
  intro w hw
  exact ⟨hw, rfl, rfl, rfl⟩

/-- The proposal stage files one pending proposal. -/
private theorem triple_propose (snapshot : Snapshot) (runbook : RunbookDocument) :
    Exec.Triple (fun w ↦ papers w = v) (propose env settings incidentId snapshot runbook)
      (fun p w ↦ papers w = { v with proposals := v.proposals.insert (filedRow incidentId p) } ∧
        p.proposalId = v.proposals.fresh ∧ p.snapshot = snapshot ∧ p.runbook = runbook)
      fun _ w ↦ w.approvalRequests = v.requests := by
  apply Exec.Triple.bind
  · exact keeps_papers (Exec.frames_update fun w ↦ papers_update w _ fun _ ↦ rfl)
  intro _
  apply Exec.Triple.bind (keeps_papers (fun _ ↦ rfl))
  intro _
  apply Exec.Triple.bind (keeps_papers (frames_flush env fun _ _ ↦ rfl))
  intro _
  apply Exec.Triple.bind
    (keeps_papers (frames_papers_change env settings incidentId worker {} (by decide)))
  intro _
  apply Exec.Triple.bind (keeps_papers (frames_loadIncident _))
  intro incident
  apply Exec.Triple.bind
  · exact keeps_papers (Exec.frames_update fun w ↦ papers_update w _ fun _ ↦ rfl)
  intro _
  exact triple_file env settings incidentId snapshot runbook _

/-- The decision that `authorise` files. -/
def filedDecision (p : Proposal) (input : PolicyInput) (policy : PolicyResult) :
    PolicyDecision where
  incidentId := incidentId
  proposalId := p.proposalId
  allowed := policy.allowed
  requiresApproval := policy.requiresApproval
  reason := policy.reason
  input := input

/-- The evaluation stage files the decision on the proposal. -/
private theorem triple_authorise (p : Proposal) :
    Exec.Triple (fun w ↦ papers w = v) (authorise env incidentId p)
      (fun policy w ↦ ∃ environment input w', v.environments[incidentId]? = some environment ∧
        policy = env.opa w' input ∧ policyInput environment p = .ok input ∧
        papers w = { v with
          policyDecisions := v.policyDecisions.insert (filedDecision incidentId p input policy)
          evaluation := some (input, policy) })
      fun _ w ↦ w.approvalRequests = v.requests := by
  apply Exec.Triple.bind (Q := fun incident w ↦
    papers w = v ∧ v.environments[incidentId]? = some incident.environment)
  · apply (triple_loadIncident incidentId).mono (fun _ h ↦ h)
    · rintro incident w ⟨hw, hrow⟩
      refine ⟨hw, ?_⟩
      have henvironments : w.db.incidents.map (·.environment) = v.environments :=
        congrArg Papers.environments hw
      rw [← henvironments, List.getElem?_map, hrow, Option.map_some]
    · exact fun _ _ h ↦ congrArg Papers.requests h
  intro incident
  apply Exec.Triple.assume
  intro henvironment
  apply Exec.Triple.bind (Q := fun input w ↦
    papers w = v ∧ policyInput incident.environment p = .ok input)
  · apply Exec.Triple.ofExcept
    · exact fun input hinput w hw ↦ ⟨hw, hinput⟩
    · exact fun _ _ _ h ↦ congrArg Papers.requests h
  intro input
  apply Exec.Triple.assume
  intro hinput
  apply Exec.Triple.bind (Q := fun policy w ↦ papers w = { v with
    evaluation := some (input, policy) } ∧ ∃ w', policy = env.opa w' input)
  · rintro w rfl
    exact ⟨rfl, w, rfl⟩
  intro policy
  apply Exec.Triple.assume
  rintro ⟨w', hpolicy⟩
  apply Exec.Triple.bind (Q := fun _ w ↦ papers w = { v with
    policyDecisions := v.policyDecisions.insert (filedDecision incidentId p input policy)
    evaluation := some (input, policy) })
  · apply triple_write
    intro w hw
    simp only [papers, Papers.mk.injEq] at hw ⊢
    obtain ⟨hproposals, hdecisions, hexecutions, happrovals, hrequests, hevaluation, hrows⟩ := hw
    rw [hdecisions]
    exact ⟨hproposals, rfl, hexecutions, happrovals, hrequests, hevaluation, hrows⟩
  intro _
  apply Exec.Triple.bind (keeps_papers (frames_flush env fun _ _ ↦ rfl))
  intro _
  apply Exec.Triple.pure
  intro w hw
  exact ⟨incident.environment, input, w', henvironment, hpolicy, hinput, hw⟩

end Stages

/-- What a snapshot says was read of the demo namespace. -/
structure SnapshotOf (env : Env) (snapshot : Snapshot) : Prop where
  ns : snapshot.ns = "cloudward-staging"
  pods : ∃ w, env.listPods w snapshot.ns demoSelector = .ok snapshot.pods
  name : validName snapshot.deploymentName
  deployment : ∃ w deployment,
    env.readDeployment w snapshot.ns snapshot.deploymentName = .ok deployment ∧
      snapshot.deployment.desiredReplicas = deployment.replicas.getD 0

/-- The snapshot of the evidence stage is what it read. -/
private theorem yields_snapshot (env : Env) (settings : Settings) (incidentId : Nat)
    (alert : NormalizedAlert) :
    Exec.Yields (SnapshotOf env) (gather env settings incidentId alert) := by
  apply Exec.yields_bind
  intro incident
  apply Exec.yields_bind
  intro _
  apply Exec.yields_bind_of (q := fun _ ↦
    (alert.ns.filter (· ≠ "")).getD "cloudward-staging" = "cloudward-staging")
  · exact Exec.Triple.require (fun h _ _ ↦ h) fun _ _ _ ↦ trivial
  intro _ hns
  apply Exec.yields_bind_of (yields_getPods env _ _)
  rintro pods ⟨-, hpods⟩
  split
  · apply Exec.yields_bind_of (yields_getDeployment env _ _)
    rintro deployment ⟨hname, w, row, hread, hreplicas, -⟩
    apply Exec.yields_bind
    intro _
    apply Exec.yields_bind
    intro _
    apply Exec.yields_bind
    intro _
    apply Exec.yields_bind
    intro _
    exact Exec.yields_pure ⟨hns, hpods, hname, w, row, hread, hreplicas⟩
  · exact Exec.yields_throw _

/-! ### The end of a run -/

/-- Some runbook for the alert reverts an image. -/
def MayRevert (runbooks : RunbookLoader) (alert : NormalizedAlert) : Prop :=
  ∃ incidentType environment runbook,
    runbooks.matching incidentType (alertConditions alert.alertName) environment = .ok runbook ∧
      runbook.action = .revertImage

/-- Why a run asks: the evaluation required an approval, or it allowed a revert that may not be
written. -/
def Asking (settings : Settings) (mayRevert : Prop) (decision : PolicyDecision) : Prop :=
  decision.requiresApproval ∨
    (mayRevert ∧ ¬ settings.localGitopsWriteEnabled ∧ decision.input.action = .revertImage ∧
      decision.allowed)

/-- The approval that a run with this proposal and its evaluation may leave. -/
def LeavesWaiting (env : Env) (incidentId : Nat) (v : Papers) (p : Proposal) (db : Database) :
    Prop :=
  ∃ environment input w, v.environments[incidentId]? = some environment ∧
    policyInput environment p = .ok input ∧
    AtMostWaits env incidentId v.proposals.fresh v (filedRow incidentId p)
      (filedDecision incidentId p input (env.opa w input)) db

section Ends

variable (env : Env) (settings : Settings) (incidentId : Nat) {v : Papers} {mayRevert : Prop}
variable {environment : Environment} (henvironment : v.environments[incidentId]? = some environment)
variable {p : Proposal} (hid : p.proposalId = v.proposals.fresh)
variable {input : PolicyInput} (hinput : policyInput environment p = .ok input) {w' : World}

/-- The papers after the evaluation of a proposal. -/
private def evaluatedPapers (env : Env) (incidentId : Nat) (v : Papers) (p : Proposal)
    (input : PolicyInput) (w' : World) : Papers :=
  v.file (filedRow incidentId p) (filedDecision incidentId p input (env.opa w' input))
    (env.opa w' input)

/-- What the end of a run leaves. -/
private def Ends (env : Env) (settings : Settings) (mayRevert : Prop) (incidentId : Nat)
    (v : Papers) (p : Proposal) (w : World) : Prop :=
  RequestsFrom env (Asking settings mayRevert) v.requests w ∧
    (w.db.approvals.length = v.approvals.length ∨ LeavesWaiting env incidentId v p w.db)

include henvironment hid hinput

private theorem triple_wait (details : Details)
    (hasking : Asking settings mayRevert (filedDecision incidentId p input (env.opa w' input))) :
    Exec.Triple (fun w ↦ papers w = evaluatedPapers env incidentId v p input w')
      (changeIncidentState env settings incidentId .awaitingApproval worker details)
      (fun _ w ↦ RequestsFrom env (Asking settings mayRevert) v.requests w ∧
        LeavesWaiting env incidentId v p w.db)
      fun _ ↦ RequestsFrom env (Asking settings mayRevert) v.requests := by
  have hanswered : Answered env (filedDecision incidentId p input (env.opa w' input)) :=
    ⟨w', rfl, rfl⟩
  apply (triple_await (v := evaluatedPapers env incidentId v p input w') details hanswered
    hasking fun w hw ↦ evaluated_of_papers hw rfl rfl hid rfl rfl).mono
  · exact fun _ h ↦ h
  · exact fun _ w h ↦ ⟨h.1, environment, input, w', henvironment, hinput, h.2⟩
  · exact fun _ _ h ↦ h

omit henvironment hid hinput in
/-- What a program that touches neither approvals nor requests leaves. -/
private theorem keeps_ends {α : Type} {x : Service α}
    (hx : Exec.Frames (fun w ↦ (w.db.approvals.length, w.approvalRequests)) x) :
    Exec.Triple (fun w ↦ RequestsFrom env (Asking settings mayRevert) v.requests w ∧
        w.db.approvals.length = v.approvals.length) x
      (fun _ ↦ Ends env settings mayRevert incidentId v p)
      fun _ ↦ RequestsFrom env (Asking settings mayRevert) v.requests := by
  apply (hx.keeps fun o ↦ RequestsFrom env (Asking settings mayRevert) v.requests
    { start {} with approvalRequests := o.2 } ∧ o.1 = v.approvals.length).mono
  · exact fun _ h ↦ h
  · exact fun _ _ h ↦ ⟨h.1, .inl h.2⟩
  · exact fun _ _ h ↦ h.1

omit henvironment hid hinput in
/-- The result of a run that waits changes nothing. -/
private theorem triple_result (action : Option ActionType) (detail : String) :
    Exec.Triple (fun w ↦ RequestsFrom env (Asking settings mayRevert) v.requests w ∧
        LeavesWaiting env incidentId v p w.db)
      (result incidentId action detail)
      (fun _ ↦ Ends env settings mayRevert incidentId v p)
      fun _ ↦ RequestsFrom env (Asking settings mayRevert) v.requests := by
  have hframes : Exec.Frames (fun w ↦ (w.db, w.approvalRequests))
      (result incidentId action detail) :=
    Exec.frames_bind (frames_loadIncident _) fun _ ↦ Exec.frames_pure _
  apply (hframes.keeps fun o ↦ RequestsFrom env (Asking settings mayRevert) v.requests
    { start {} with approvalRequests := o.2 } ∧
      LeavesWaiting env incidentId v p o.1).mono
  · exact fun _ h ↦ h
  · exact fun _ _ h ↦ ⟨h.1, .inr h.2⟩
  · exact fun _ _ h ↦ h.1

/-- A run that is held back leaves an approval exactly where its evaluation required one. -/
private theorem triple_hold :
    Exec.Triple (fun w ↦ papers w = evaluatedPapers env incidentId v p input w')
      (hold env settings incidentId p (env.opa w' input))
      (fun _ ↦ Ends env settings mayRevert incidentId v p)
      fun _ ↦ RequestsFrom env (Asking settings mayRevert) v.requests := by
  unfold hold
  by_cases hrequires : (env.opa w' input).requiresApproval
  · simp only [if_pos hrequires]
    apply Exec.Triple.bind (triple_wait env settings incidentId henvironment hid hinput
      { policyReason := some (env.opa w' input).reason } (.inl hrequires))
    intro _
    apply Exec.Triple.bind (Q := fun _ w ↦ RequestsFrom env (Asking settings mayRevert) v.requests w ∧
      LeavesWaiting env incidentId v p w.db)
    · apply triple_write
      rintro w ⟨hrequests, environment', input', w'', hof, hinput', hwaits⟩
      exact ⟨hrequests, environment', input', w'', hof, hinput', hwaits.refile _⟩
    intro _
    exact triple_result env settings incidentId _ _
  · simp only [if_neg hrequires]
    have hframes : Exec.Frames (fun w ↦ (w.db.approvals.length, w.approvalRequests)) (do
        changeIncidentState env settings incidentId .blocked worker
          { policyReason := some (env.opa w' input).reason }
        updateProposal p.proposalId fun proposal ↦ { proposal with status := .rejected }
        result incidentId (some p.runbook.action) (env.opa w' input).reason) := by
      apply Exec.frames_bind
      · exact frames_changeIncidentState (fun _ _ ↦ rfl) env settings incidentId .blocked worker _
          false (fun _ _ ↦ rfl) (fun _ _ _ ↦ rfl) fun h ↦ absurd h (by decide)
      intro _
      apply Exec.frames_bind
      · exact Exec.frames_update fun _ ↦ rfl
      intro _
      exact Exec.frames_bind (frames_loadIncident _) fun _ ↦ Exec.frames_pure _
    apply (keeps_ends env settings incidentId hframes).mono
    · intro w hw
      have hrequests : w.approvalRequests = v.requests := congrArg Papers.requests hw
      have happrovals : w.db.approvals = v.approvals := congrArg Papers.approvals hw
      exact ⟨.of_eq hrequests, congrArg List.length happrovals⟩
    · exact fun _ _ h ↦ h
    · exact fun _ _ h ↦ h

/-- A revert that may not be written leaves an approval although its evaluation allowed it. -/
private theorem triple_holdForWriter (hmay : mayRevert) (haction : p.runbook.action = .revertImage)
    (hwriter : ¬ settings.localGitopsWriteEnabled) (hallowed : (env.opa w' input).allowed) :
    Exec.Triple (fun w ↦ papers w = evaluatedPapers env incidentId v p input w')
      (holdForWriter env settings incidentId p)
      (fun _ ↦ Ends env settings mayRevert incidentId v p)
      fun _ ↦ RequestsFrom env (Asking settings mayRevert) v.requests := by
  have hrevert : input.action = .revertImage := (target_policyInput hinput).2.1.trans haction
  apply Exec.Triple.bind
    (Q := fun _ w ↦ papers w = evaluatedPapers env incidentId v p input w')
  · apply triple_write
    intro w hw
    have hproposals : w.db.proposals = v.proposals.insert (filedRow incidentId p) :=
      congrArg Papers.proposals hw
    have hsame : w.db.proposals.update p.proposalId
        (fun proposal ↦ { proposal with status := .pending }) = w.db.proposals := by
      rw [hproposals, hid, Table.update_insert_fresh]
      rfl
    rw [← hw]
    simp only [papers, hsame]
  intro _
  apply Exec.Triple.bind (triple_wait env settings incidentId henvironment hid hinput
    { reason := some "typed local GitOps image writer is disabled" }
    (.inr ⟨hmay, hwriter, hrevert, hallowed⟩))
  intro _
  exact triple_result env settings incidentId _ _

end Ends

/-! ### The whole run -/

/-- How many approvals there are, and what was requested. -/
private def asked (w : World) : Nat × List ApprovalRequest :=
  (w.db.approvals.length, w.approvalRequests)

/-- An execution requests nothing. -/
private theorem frames_asked_execute (env : Env) (settings : Settings) (incidentId : Nat)
    (p : Proposal) : Exec.Frames asked (execute env settings incidentId p) := by
  have hset (f : ActionProposal → ActionProposal) :
      Exec.Frames asked (updateProposal p.proposalId f) := Exec.frames_update fun _ ↦ rfl
  apply Exec.frames_bind (hset _)
  intro _
  apply Exec.frames_bind
  · exact frames_changeIncidentState (fun _ _ ↦ rfl) env settings incidentId .executing worker {}
      false (fun _ _ ↦ rfl) (fun _ _ _ ↦ rfl) fun h ↦ absurd h (by decide)
  intro _
  apply Exec.frames_ite (hset _)
  apply Exec.frames_bind
  · apply frames_claimActionExecution_of_tables (fun _ _ ↦ rfl) (fun _ _ ↦ rfl) (fun _ _ ↦ rfl)
    intro w id g
    simp only [asked, Table.length_update]
  intro claim
  apply Exec.frames_bind
  · apply Exec.frames_when
    intro _
    apply frames_perform (fun _ _ ↦ rfl) (fun _ _ ↦ rfl) fun _ _ ↦ rfl
    intro succeeded code result
    exact frames_finishActionExecution_of_table (fun _ _ ↦ rfl) (fun _ _ ↦ rfl) env _ _ _ _
  intro _
  apply Exec.frames_bind (Exec.frames_read _)
  intro status
  exact hset _

section Run

variable (env : Env) (settings : Settings) (incidentId : Nat) {v : Papers} {mayRevert : Prop}
/-- What a run leaves: requests after its evaluation, and no new approval or one that waits. -/
def RunEnds (env : Env) (settings : Settings) (mayRevert : Prop) (incidentId : Nat)
    (v : Papers) (snapshot : Snapshot) (w : World) : Prop :=
  RequestsFrom env (Asking settings mayRevert) v.requests w ∧
    (w.db.approvals.length = v.approvals.length ∨ ∃ p : Proposal, p.snapshot = snapshot ∧
      LeavesWaiting env incidentId v p w.db)

/-- A run from its runbook on. -/
private theorem triple_remediate (snapshot : Snapshot) (runbook : RunbookDocument)
    (hmay : runbook.action = .revertImage → mayRevert) :
    Exec.Triple (fun w ↦ papers w = v) (remediate env settings incidentId snapshot runbook)
      (fun _ ↦ RunEnds env settings mayRevert incidentId v snapshot)
      fun _ ↦ RequestsFrom env (Asking settings mayRevert) v.requests := by
  apply Exec.Triple.bind ((triple_propose env settings incidentId snapshot runbook).mono
    (fun _ h ↦ h) (fun _ _ h ↦ h) fun _ _ h ↦ .of_eq h)
  intro p
  apply Exec.Triple.assume
  rintro ⟨hid, hsnapshot, rfl⟩
  apply Exec.Triple.bind ((triple_authorise env incidentId
    (v := { v with proposals := v.proposals.insert (filedRow incidentId p) }) p).mono
    (fun _ h ↦ h) (fun _ _ h ↦ h) fun _ _ h ↦ .of_eq h)
  rintro policy w ⟨environment, input, w', henvironment, rfl, hinput, hw⟩
  have hends {α : Type} {x : Service α}
      (h : Exec.Triple (fun w ↦ papers w = evaluatedPapers env incidentId v p input w') x
        (fun _ ↦ Ends env settings mayRevert incidentId v p)
        fun _ ↦ RequestsFrom env (Asking settings mayRevert) v.requests) :
      Exec.Triple (fun w ↦ papers w = evaluatedPapers env incidentId v p input w') x
        (fun _ ↦ RunEnds env settings mayRevert incidentId v snapshot)
        fun _ ↦ RequestsFrom env (Asking settings mayRevert) v.requests := by
    apply h.mono (fun _ h ↦ h) ?_ fun _ _ h ↦ h
    rintro _ w ⟨hrequests, hsame | hwaits⟩
    · exact ⟨hrequests, .inl hsame⟩
    · exact ⟨hrequests, .inr ⟨p, hsnapshot, hwaits⟩⟩
  replace hw : papers w = evaluatedPapers env incidentId v p input w' := hw
  replace henvironment : v.environments[incidentId]? = some environment := henvironment
  revert w
  change Exec.Triple _ _ _ _
  apply Exec.Triple.ite
  · intro _
    exact hends (triple_hold env settings incidentId henvironment hid hinput)
  intro hallowed
  apply Exec.Triple.ite
  · intro hrevert
    exact hends (triple_holdForWriter env settings incidentId henvironment hid hinput
      (hmay hrevert.1) hrevert.1 hrevert.2 (by simpa using hallowed))
  intro _
  apply hends
  have hframes : Exec.Frames asked (do
      execute env settings incidentId p
      changeIncidentState env settings incidentId .verifying worker
      result incidentId (some p.runbook.action)
        "action processed; multi-signal verification queued") := by
    apply Exec.frames_bind (frames_asked_execute env settings incidentId p)
    intro _
    apply Exec.frames_bind
    · exact frames_changeIncidentState (fun _ _ ↦ rfl) env settings incidentId .verifying worker {}
        false (fun _ _ ↦ rfl) (fun _ _ _ ↦ rfl) fun h ↦ absurd h (by decide)
    intro _
    exact Exec.frames_bind (frames_loadIncident _) fun _ ↦ Exec.frames_pure _
  apply (keeps_ends env settings incidentId hframes).mono
  · intro w hw
    have hrequests : w.approvalRequests = v.requests := congrArg Papers.requests hw
    have happrovals : w.db.approvals = v.approvals := congrArg Papers.approvals hw
    exact ⟨.of_eq hrequests, congrArg List.length happrovals⟩
  · exact fun _ _ h ↦ h
  · exact fun _ _ h ↦ h

/-- A run of an incident that had no proposal. -/
private theorem triple_run (runbooks : RunbookLoader) (alert : NormalizedAlert) :
    Exec.Triple (fun w ↦ papers w = v) (do
        let snapshot ← gather env settings incidentId alert
        let incident ← loadIncident incidentId
        match runbooks.matching incident.incidentType (alertConditions alert.alertName)
          incident.environment with
        | .error e => if e = runbookNotFound then unmatched env incidentId else throw e
        | .ok runbook => remediate env settings incidentId snapshot runbook)
      (fun _ w ↦ ∃ snapshot, SnapshotOf env snapshot ∧
        RunEnds env settings (MayRevert runbooks alert) incidentId v snapshot w)
      fun _ ↦ RequestsFrom env (Asking settings (MayRevert runbooks alert)) v.requests := by
  have hgather : Exec.Frames papers (gather env settings incidentId alert) :=
    frames_gather_of_update (fun _ _ ↦ rfl) env settings incidentId alert
      fun w _ _ ↦ papers_update w _ fun _ ↦ rfl
  have hkeep {α : Type} {x : Service α} (hx : Exec.Frames papers x) :
      Exec.Triple (fun w ↦ papers w = v) x (fun _ w ↦ papers w = v)
        fun _ ↦ RequestsFrom env (Asking settings (MayRevert runbooks alert)) v.requests :=
    (keeps_papers hx).mono (fun _ h ↦ h) (fun _ _ h ↦ h) fun _ _ h ↦ .of_eq h
  apply Exec.Triple.bind ((hkeep hgather).yields (yields_snapshot env settings incidentId alert))
  intro snapshot
  apply Exec.Triple.assume
  intro hsnapshot
  apply Exec.Triple.bind (hkeep (frames_loadIncident _))
  intro incident
  have hnone : ∀ w, papers w = v → ∃ snapshot, SnapshotOf env snapshot ∧
      RunEnds env settings (MayRevert runbooks alert) incidentId v snapshot w := by
    intro w hw
    have happrovals : w.db.approvals = v.approvals := congrArg Papers.approvals hw
    exact ⟨snapshot, hsnapshot, .of_eq (congrArg Papers.requests hw),
      .inl (congrArg List.length happrovals)⟩
  split
  · apply Exec.Triple.ite
    · intro _
      apply (hkeep ?_).mono (fun _ h ↦ h) (fun _ w h ↦ hnone w h) fun _ _ h ↦ h
      have hflush : Exec.Frames papers (flush env) := frames_flush env fun _ _ ↦ rfl
      exact Exec.frames_bind hflush fun _ ↦ Exec.frames_bind hflush fun _ ↦
        Exec.frames_bind (frames_loadIncident _) fun _ ↦ Exec.frames_pure _
    · exact fun _ ↦ Exec.Triple.throw fun _ h ↦ .of_eq (congrArg Papers.requests h)
  · next runbook hmatching =>
    have hmay : runbook.action = .revertImage → MayRevert runbooks alert :=
      fun haction ↦ ⟨_, _, runbook, hmatching, haction⟩
    apply (triple_remediate env settings incidentId snapshot runbook hmay).mono
    · exact fun _ h ↦ h
    · exact fun _ _ h ↦ ⟨snapshot, hsnapshot, h⟩
    · exact fun _ _ h ↦ h

end Run

/-- What `process` leaves of a session: requests made after its evaluation, and no new approval
or one that waits, of the proposal it made of its snapshot. -/
theorem triple_process (env : Env) (settings : Settings) (runbooks : RunbookLoader)
    (incidentId : Nat) (alert : NormalizedAlert) {v : Papers} :
    Exec.Triple (fun w ↦ papers w = v) (process env settings runbooks incidentId alert)
      (fun _ w ↦ RequestsFrom env (Asking settings (MayRevert runbooks alert)) v.requests w ∧
        (w.db.approvals.length = v.approvals.length ∨ ∃ p : Proposal,
          SnapshotOf env p.snapshot ∧ LeavesWaiting env incidentId v p w.db))
      fun _ ↦ RequestsFrom env (Asking settings (MayRevert runbooks alert)) v.requests := by
  apply Exec.Triple.bind ((keeps_papers (frames_query env _ fun _ _ ↦ rfl)).mono
    (fun _ h ↦ h) (fun _ _ h ↦ h) fun _ _ h ↦ .of_eq h)
  intro existing
  cases existing with
  | some entry =>
    have hframes : Exec.Frames papers
        (result incidentId (some entry.2.actionType) "alert was already processed") :=
      Exec.frames_bind (frames_loadIncident _) fun _ ↦ Exec.frames_pure _
    apply (keeps_papers hframes).mono (fun _ h ↦ h)
    · intro _ w hw
      have happrovals : w.db.approvals = v.approvals := congrArg Papers.approvals hw
      exact ⟨.of_eq (congrArg Papers.requests hw), .inl (congrArg List.length happrovals)⟩
    · exact fun _ _ h ↦ .of_eq h
  | none =>
    apply (triple_run env settings incidentId runbooks alert).mono
      (fun _ h ↦ h)
    · rintro _ w ⟨snapshot, hsnapshot, hrequests, hsame | ⟨p, rfl, hwaits⟩⟩
      · exact ⟨hrequests, .inl hsame⟩
      · exact ⟨hrequests, .inr ⟨p, hsnapshot, hwaits⟩⟩
    · exact fun _ _ h ↦ h

end CloudWard.Reliability
