import CloudWard.Approvals.Bound
import CloudWard.Approvals.Review

/-!
# Approving an unchanged request

What the flows left waiting is approved if nothing has changed and OPA answers by the shipped
policy, unless the policy never acts on it: because its evaluation required no approval (a
revert that waits for the image writer), or because of its action, its radius or its target.
-/

namespace CloudWard.Approvals

open CloudWard.Db CloudWard.Incidents CloudWard.Kubernetes CloudWard.Logic CloudWard.Policies
  CloudWard.Rbac CloudWard.Remediation CloudWard.Risk Service

/-! ### What the flows track -/

section Flows

variable {env env' : Env} {live : Live}

/-- The pod of an event has a valid name. -/
private theorem tracked_quarantine (live : Live) (d : Security.Delivery)
    (incidentId eventId : Nat) :
    Tracked live (Security.proposalRow d incidentId eventId).parameters :=
  @Tracked.pod _ _ Security.stagingNamespace d.event.pod rfl rfl rfl d.event.pod_valid

/-- A processor has read the deployment of its snapshot. -/
private theorem tracked_processor (hshows : Shows env live) {p : Reliability.Proposal}
    (h : Reliability.SnapshotOf env p.snapshot) (incidentId : Nat) :
    Tracked live (Reliability.filedRow incidentId p).parameters := by
  obtain ⟨-, -, hname, w, deployment, hread, hreplicas⟩ := h
  rw [hshows.readDeployment] at hread
  apply @Tracked.workload _ _ p.snapshot.ns p.snapshot.deploymentName _ rfl rfl hname hread
  intro n hn
  have hobserved : asInt (param (Reliability.proposalParameters p.snapshot p.runbook.action)
      "observed_replicas") = some p.snapshot.deployment.desiredReplicas := rfl
  rw [← hreplicas]
  exact Option.some.inj (hobserved.symm.trans hn)

/-- A pipeline has read the deployment of its target. -/
private theorem tracked_pipeline (hshows : Shows env live) {p : Pipeline.Proposal}
    (h : Pipeline.ReadTarget env p.target) :
    Tracked live (Pipeline.filedRow p).parameters := by
  obtain ⟨hname, w, deployment, hread⟩ := h
  rw [hshows.readDeployment] at hread
  exact @Tracked.workload _ _ p.target.ns p.target.deployment _ rfl rfl hname hread
    fun n hn ↦ nomatch hn

end Flows

/-! ### Every flow -/

/-- The calls of the deterministic flows. -/
def Call.IsFlow : Call → Prop
  | .pipeline .. => True
  | .job .. => True
  | .ingest .. => True
  | _ => False

/-- What a flow leaves with a new approval of its rows: it waits, for a proposal that was not there
before and whose target the flow has seen. -/
structure Left (env : Env) (rows db : Database) (approval : Approval) (incident : Incident)
    (proposal : ActionProposal) (decision : PolicyDecision) : Prop where
  executions : db.executions = rows.executions
  fresh : approval.proposalId = rows.proposals.length
  waits : Waiting env db approval incident proposal decision
  tracked : ∀ live, Shows env live → Tracked live proposal.parameters
  factors : ∃ factors, proposal.riskCalculation.factors = some factors ∧
    proposal.riskScore = factors.total

/-- The approval that was not among those of the papers is the one that waits. -/
private theorem left_of_waits {env : Env} {incidentId : Nat} {v : Papers}
    {proposal : ActionProposal} {decision : PolicyDecision} {db : Database} {id : Nat}
    {approval : Approval} {risk : RiskResult} (rows : Database)
    (h : AtMostWaits env incidentId rows.proposals.length v proposal decision db)
    (hexecutions : v.executions = rows.executions) (hnew : v.approvals.length ≤ id)
    (hrow : db.approvals[id]? = some approval)
    (htracked : ∀ live, Shows env live → Tracked live proposal.parameters)
    (hfactors : proposal.riskCalculation = riskDump risk) (hscore : proposal.riskScore = risk.score) :
    ∃ incident, Left env rows db approval incident proposal decision := by
  rcases h with hsame | ⟨approval', incident, hinsert, hkept, -, hid, -, hwaits⟩
  · rw [hsame] at hrow
    have hlt := (List.getElem?_eq_some_iff.mp hrow).1
    omega
  · rw [hinsert, Table.getElem?_insert_eq_some] at hrow
    rcases hrow with hold | ⟨-, rfl⟩
    · have hlt := (List.getElem?_eq_some_iff.mp hold).1
      omega
    · refine ⟨incident, hkept.trans hexecutions, hid, hwaits, htracked, risk.factors, ?_, ?_⟩
      · rw [hfactors]
        rfl
      · rw [hscore]
        exact risk.score_matches_factors

/-- **What the flows leave.** A new approval of a flow waits, for a proposal whose target the flow
has seen. -/
theorem left_of_flow {rows : Database} {cluster : Cluster} {op : Operation}
    (hflow : op.call.IsFlow) {w : World}
    (hrun : op.program.run (start rows cluster) = (.ok (), w)) {id : Nat} {approval : Approval}
    (hnew : rows.approvals.length ≤ id) (hrow : w.committed.approvals[id]? = some approval) :
    ∃ incident proposal decision, Left op.env rows w.committed approval incident proposal
      decision := by
  have hlt := (List.getElem?_eq_some_iff.mp hrow).1
  have hmore : w.committed.approvals.length ≠ rows.approvals.length := by omega
  obtain ⟨call, settings, env⟩ := op
  cases call with
  | pipeline runbooks target correlationId actor =>
    have hsteady : Pipeline.Steady (papers (start rows cluster)) (start rows cluster) :=
      ⟨rfl, rfl⟩
    have hends : Exec.Triple (Pipeline.Steady (papers (start rows cluster)))
        (do let _ ← Pipeline.run env settings runbooks target correlationId actor)
        (fun _ ↦ Pipeline.RunEnds env target
          ((papers (start rows cluster)).opened target.environment))
        fun _ _ ↦ True :=
      Exec.Triple.bind ((Pipeline.triple_run env settings runbooks target correlationId
        actor).mono (fun _ h ↦ h) (fun _ _ h ↦ h) fun _ _ _ ↦ trivial)
        fun _ ↦ Exec.Triple.pure fun _ h ↦ h
    rcases (hends.of_ok hsteady hrun).stored with hsame | ⟨hread, p, w', rfl, -, hwaits⟩
    · exact absurd hsame hmore
    obtain ⟨incident, hleft⟩ := left_of_waits rows hwaits rfl hnew hrow
      (fun live hshows ↦ tracked_pipeline hshows hread) rfl rfl
    exact ⟨incident, _, _, hleft⟩
  | job runbooks job =>
    have hends : Exec.Triple (fun w ↦ papers w = papers (start rows cluster))
        (do let _ ← Alerts.processAlertJob env settings runbooks job)
        (fun _ w ↦ w.committed.approvals.length = rows.approvals.length ∨
          ∃ p : Reliability.Proposal, Reliability.SnapshotOf env p.snapshot ∧
            Reliability.LeavesWaiting env job.incidentId (papers (start rows cluster)) p
              w.committed)
        fun _ _ ↦ True :=
      Exec.Triple.bind ((triple_processAlertJob env settings runbooks job).mono (fun _ h ↦ h)
        (fun _ _ h ↦ h.2) fun _ _ _ ↦ trivial) fun _ ↦ Exec.Triple.pure fun _ h ↦ h
    rcases hends.of_ok rfl hrun with hsame | ⟨p, hsnapshot, environment, input, w₀, -, -, hwaits⟩
    · exact absurd hsame hmore
    obtain ⟨incident, hleft⟩ := left_of_waits rows hwaits rfl hnew hrow
      (fun live hshows ↦ tracked_processor hshows hsnapshot _) rfl rfl
    exact ⟨incident, _, _, hleft⟩
  | ingest delivery =>
    have hends := (Security.leaves_ingestSecurityEvent env settings delivery).of_ok
      (rfl : papers (start rows cluster) = papers (start rows cluster)) hrun
    rcases hends.2 with hsame | ⟨eventId, w₀, -, hwaits⟩
    · exact absurd hsame hmore
    obtain ⟨incident, hleft⟩ := left_of_waits rows hwaits rfl hnew hrow
      (fun live _ ↦ tracked_quarantine live delivery _ eventId) rfl rfl
    exact ⟨incident, _, _, hleft⟩
  | candidate redact diagnoses service incidentId request => exact hflow.elim
  | incident call => exact hflow.elim
  | route incidentId proposalId decision principal comment => exact hflow.elim

/-- **An unchanged request can be approved, in all but a few kinds.** Take an approval that a flow
has created. If nothing has changed and the principal may approve it, then deciding APPROVED
under the shipped policy approves it and moves its incident to POLICY_EVALUATION exactly if the
newest decision on its proposal requires an approval and the proposal is one that the policy
acts on. -/
theorem unchanged_approved_iff {rows : Database} {cluster : Cluster} {op : Operation}
    (hflow : op.call.IsFlow) {w : World}
    (hrun : op.program.run (start rows cluster) = (.ok (), w))
    (hkeys : ∀ e ∈ rows.executions, e.proposalId < rows.proposals.length) {r : Request}
    {approval : Approval} (hnew : rows.approvals.length ≤ r.approvalId)
    (hrow : w.committed.approvals[r.approvalId]? = some approval) {incident : Incident}
    (hincident : w.committed.incidents[approval.incidentId]? = some incident)
    {proposal : ActionProposal}
    (hproposal : w.committed.proposals[approval.proposalId]? = some proposal)
    {entry : Nat × PolicyDecision}
    (hlatest : w.committed.policyDecisions.latest (·.proposalId = approval.proposalId) =
      some entry)
    {env' : Env} {live : Live} (hu : Unchanged op.env env' live r approval proposal) :
    GoesOn (r.rows env' w.committed w.cluster) r.approvalId approval.incidentId ↔
      entry.2.requiresApproval ∧ Stands live incident.environment proposal := by
  obtain ⟨incident', proposal', decision, hleft⟩ := left_of_flow hflow hrun hnew hrow
  have hwaits := hleft.waits
  have hincident' := hwaits.incident_row
  rw [hincident, Option.some.injEq] at hincident'
  subst hincident'
  have hproposal' := hwaits.proposal_row
  rw [hproposal, Option.some.injEq] at hproposal'
  subst hproposal'
  obtain ⟨id, hdecision⟩ := hwaits.decision_row
  rw [hlatest, Option.some.injEq] at hdecision
  subst hdecision
  obtain ⟨factors, hfactors, hscore⟩ := hleft.factors
  -- no execution of the rows refers to the proposal of the flow
  have hunexecuted : ∀ e ∈ w.committed.executions, e.proposalId ≠ approval.proposalId := by
    intro e he
    rw [hleft.executions] at he
    have hlt := hkeys e he
    rw [hleft.fresh]
    omega
  exact goesOn_iff hu hrow hwaits hunexecuted (hleft.tracked live hu.shown) hfactors hscore

/-! ### A request that goes on, and one that does not -/

/-- A cluster of managed demo pods, with a deployment of the bad image. -/
private def demoLive : Live where
  listPods _ _ := .ok [makePod "demo-a" true]
  readPod _ name := .ok (makePod name true)
  readDeployment _ _ :=
    .ok ⟨some 2, some 2, (makePod "demo" true).labels, ["demo:" ++ controlledBadTag]⟩

/-- An environment that shows it, with this OPA. -/
private def showing (opa : World → PolicyInput → PolicyResult) : Env :=
  { calm with
    opa := opa
    listPods := fun _ ↦ demoLive.listPods
    readPod := fun _ ↦ demoLive.readPod
    readDeployment := fun _ ↦ demoLive.readDeployment }

/-- OPA has loaded the shipped policy. -/
private def shipped : Env :=
  showing fun _ input ↦
    { allowed := (Policies.Remediation.decision (document input)).allowed
      requiresApproval := (Policies.Remediation.decision (document input)).requiresApproval
      reason := "as the shipped policy decides"
      reason_length := by decide }

/-- OPA had a policy that asks for an approval of every action. -/
private def asking : Env :=
  showing fun _ _ ↦
    { allowed := false
      requiresApproval := true
      reason := "every action needs a person"
      reason_length := by decide }

/-- An administrator approves the first request. -/
private def approving : Request :=
  ⟨.standard, 0, .approved, ⟨"administrator", .admin, none⟩, none⟩

private theorem unchanged_approving {opa : World → PolicyInput → PolicyResult}
    {approval : Approval} {proposal : ActionProposal} (hexpires : approval.expiresAt = 1800)
    (hscore : proposal.riskScore < 70) :
    Unchanged (showing opa) shipped demoLive approving approval proposal where
  shown := ⟨fun _ ↦ rfl, fun _ ↦ rfl, fun _ ↦ rfl⟩
  shows := ⟨fun _ ↦ rfl, fun _ ↦ rfl, fun _ ↦ rfl⟩
  policy := fun _ _ ↦ ⟨rfl, rfl⟩
  digest := rfl
  quiet := ⟨fun _ ↦ rfl, fun _ ↦ rfl⟩
  not_expired := fun _ ↦ by
    rw [hexpires]
    exact Nat.zero_lt_succ _
  approving := rfl
  permitted := by cases proposal.actionType <;> decide
  low_risk := hscore
  named := by decide

/-- An event is ingested. -/
private def ingesting : Operation := ⟨.ingest Security.delivery, .standard, asking⟩

theorem unchanged_approved_ingested :
    GoesOn (approving.rows shipped (ingesting.program.run (start {} {})).2.committed
      (ingesting.program.run (start {} {})).2.cluster) 0 0 := by
  have hok : (ingesting.program.run (start {} {})).1.isOk = true := by decide +kernel
  have happrovals : (ingesting.program.run (start {} {})).2.committed.approvals.map
      (fun a ↦ (a.expiresAt, a.incidentId, a.proposalId)) = [(1800, 0, 0)] := by decide +kernel
  have hincidents : (ingesting.program.run (start {} {})).2.committed.incidents.map
      (·.environment) = [.staging] := by decide +kernel
  have hproposals : (ingesting.program.run (start {} {})).2.committed.proposals.map
      (fun p ↦ (p.actionType, p.riskScore, p.parameters)) =
        [(.applyQuarantine, 25, (Security.proposalRow Security.delivery 0 0).parameters)] := by
    decide +kernel
  have hdecision : ((ingesting.program.run (start {} {})).2.committed.policyDecisions.latest
      (·.proposalId = 0)).map (·.2.requiresApproval) = some true := by decide +kernel
  obtain ⟨approval, happroval, hfields⟩ := List.map_eq_singleton_iff.mp happrovals
  simp only [Prod.mk.injEq] at hfields
  obtain ⟨hexpires, hincidentId, hproposalId⟩ := hfields
  obtain ⟨incident, hincident, henvironment⟩ := List.map_eq_singleton_iff.mp hincidents
  obtain ⟨proposal, hproposal, hfields⟩ := List.map_eq_singleton_iff.mp hproposals
  simp only [Prod.mk.injEq] at hfields
  obtain ⟨haction, hscore, hparameters⟩ := hfields
  obtain ⟨entry, hlatest, hrequires⟩ := Option.map_eq_some_iff.mp hdecision
  rcases hrun : ingesting.program.run (start {} {}) with ⟨e | ⟨⟩, w⟩
  · rw [hrun] at hok
    cases hok
  simp only [hrun] at happroval hincident hproposal hlatest
  have hu : Unchanged ingesting.env shipped demoLive approving approval proposal :=
    unchanged_approving hexpires (by rw [hscore]; decide)
  have hstands : Stands demoLive incident.environment proposal := by
    constructor
    · rw [henvironment, haction]
      decide
    · rw [hparameters]
      decide
    · rw [hparameters]
      rfl
    · refine ⟨makePod Security.delivery.event.pod true, ?_, by decide, by decide, by decide⟩
      rw [hparameters]
      exact .pod rfl rfl rfl
    · intro name tag hname
      rw [hparameters] at hname
      cases hname
  have hflow : ingesting.call.IsFlow := trivial
  have hgoes := (unchanged_approved_iff hflow hrun
    (fun e he ↦ absurd he List.not_mem_nil) (Nat.zero_le _) (by rw [happroval]; rfl)
    (by rw [hincident, hincidentId]; rfl) (by rw [hproposal, hproposalId]; rfl)
    (by simpa only [hproposalId] using hlatest) hu).mpr ⟨hrequires, hstands⟩
  rwa [hincidentId] at hgoes

/-- An incident of a bad release. -/
private def releaseRows : Database where
  incidents :=
    [{ Reliability.memoryIncident with incidentType := "reliability.bad-deployment" }]

/-- Its alert is processed while the image writer is disabled. -/
private def reverting : Operation :=
  ⟨.job Runbooks.badDeploymentLibrary
    ⟨0, { Alerts.oomKilled .firing "a" with alertName := "HighHTTPErrorRate" }, "release"⟩,
    .standard, shipped⟩

/-- The policy allows a revert outright, but the image writer is disabled: the approval that the
run asks for is invalidated by its first decision, though nothing has changed. -/
theorem unchanged_refused :
    ¬ ∀ (rows : Database) (cluster : Cluster) (op : Operation) (env' : Env) (live : Live)
      (r : Request) (approval : Approval) (proposal : ActionProposal) (w : World),
      op.call.IsFlow → op.program.run (start rows cluster) = (.ok (), w) →
      (∀ e ∈ rows.executions, e.proposalId < rows.proposals.length) →
      rows.approvals.length ≤ r.approvalId →
      w.committed.approvals[r.approvalId]? = some approval →
      w.committed.proposals[approval.proposalId]? = some proposal → Shipped op.env →
      Unchanged op.env env' live r approval proposal →
      GoesOn (r.rows env' w.committed w.cluster) r.approvalId approval.incidentId := by
  intro h
  have hok : (reverting.program.run (start releaseRows {})).1.isOk = true := by decide +kernel
  have happrovals : (reverting.program.run (start releaseRows {})).2.committed.approvals.map
      (fun a ↦ (a.expiresAt, a.proposalId)) = [(1800, 0)] := by decide +kernel
  have hproposals : (reverting.program.run (start releaseRows {})).2.committed.proposals.map
      (·.riskScore) = [17] := by decide +kernel
  have hdecided : ((approving.rows shipped
      (reverting.program.run (start releaseRows {})).2.committed
      (reverting.program.run (start releaseRows {})).2.cluster).approvals.map (·.decision)) =
        [.invalidated] := by decide +kernel
  obtain ⟨approval, happroval, hfields⟩ := List.map_eq_singleton_iff.mp happrovals
  simp only [Prod.mk.injEq] at hfields
  obtain ⟨hexpires, hproposalId⟩ := hfields
  obtain ⟨proposal, hproposal, hscore⟩ := List.map_eq_singleton_iff.mp hproposals
  rcases hrun : reverting.program.run (start releaseRows {}) with ⟨e | ⟨⟩, w⟩
  · rw [hrun] at hok
    cases hok
  simp only [hrun] at happroval hproposal hdecided
  have hgoes := h releaseRows {} reverting shipped demoLive approving approval proposal w trivial
    hrun (fun e he ↦ absurd he List.not_mem_nil) (Nat.zero_le _) (by rw [happroval]; rfl)
    (by rw [hproposal, hproposalId]; rfl) (fun _ _ ↦ ⟨rfl, rfl⟩)
    (unchanged_approving hexpires (by rw [hscore]; decide))
  have happroved := hgoes.1
  rw [← List.getElem?_map, hdecided] at happroved
  cases happroved

end CloudWard.Approvals
