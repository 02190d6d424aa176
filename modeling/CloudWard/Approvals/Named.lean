import CloudWard.Approvals.Review
import CloudWard.Remediation.Executed

/-!
# The pod that an approval names

The pipeline's proposals name a pod and its deployment, those of ingestion a pod alone. A decision
evaluates the policy for the pod that `_live_target` returns (`approvals/service.py:318`), and
that looks for a deployment first: of a proposal that names both, the first demo pod of the
namespace is evaluated. So the named pod is what every approval was evaluated for exactly if the
pod that is looked at is that one, wherever the request can be approved at all.
-/

namespace CloudWard.Approvals

open CloudWard.Db CloudWard.Incidents CloudWard.Kubernetes CloudWard.Logic CloudWard.Policies
  CloudWard.Rbac CloudWard.Remediation CloudWard.Risk Service

/-- The evaluation is for this target. -/
structure IsFor (input : PolicyInput) (target : LiveTarget) : Prop where
  ns : input.target.ns = target.ns
  name : input.target.podName = target.name
  labels : input.target.labels = target.labels
  managed : input.target.controllerManaged = target.controllerManaged

/-- An evaluation allowed the action, and whichever did was for this target. -/
structure AllowedFor (trace : List Event) (target : LiveTarget) : Prop where
  allowed : ∃ input result, Event.evaluated input result ∈ trace ∧ result.allowed
  isFor : ∀ input result, Event.evaluated input result ∈ trace → result.allowed →
    IsFor input target

/-- The rows of an approval whose proposal names a pod. -/
structure NamesPod (db : Database) (approvalId : Nat) (approval : Approval)
    (proposal : ActionProposal) (ns name : String) : Prop where
  approval_row : db.approvals[approvalId]? = some approval
  proposal_row : db.proposals[approval.proposalId]? = some proposal
  namespaced : asStr (param proposal.parameters "namespace") = some ns
  named : asStr (podParameter proposal.parameters) = some name

/-- The world in which the transaction of a decision ends. -/
def Request.world (r : Request) (env : Env) (db : Database) (cluster : Cluster) : World :=
  ((transaction env (r.program env)).run (start db cluster)).2

/-- Whenever a decision commits APPROVED, it was evaluated for the pod that is named, as it is. -/
def Reevaluates (live : Live) (db : Database) (approvalId : Nat) : Prop :=
  ∀ approval proposal ns name, NamesPod db approvalId approval proposal ns name →
    approval.decision ≠ .approved →
    ∀ (env : Env) (r : Request) (cluster : Cluster), Shows env live → r.approvalId = approvalId →
      (r.world env db cluster).committed.approvals[approvalId]?.map (·.decision) =
        some .approved →
      ∃ pod, live.readPod ns name = .ok pod ∧
        AllowedFor (r.world env db cluster).trace (liveAt ns pod)

/-- The request can be approved: by an administrator, in time, if the policy allows it. -/
structure Approvable (db : Database) (approval : Approval) (incident : Incident)
    (proposal : ActionProposal) : Prop where
  incident_row : db.incidents[approval.incidentId]? = some incident
  undecided : approval.decision = .pending
  expires : 0 < approval.expiresAt
  awaiting : incident.state = .awaitingApproval
  pending : proposal.status = .pending
  unexecuted : ∀ e ∈ db.executions, e.proposalId ≠ approval.proposalId
  requires : ∃ entry,
    db.policyDecisions.latest (·.proposalId = approval.proposalId) = some entry ∧
      entry.2.requiresApproval
  factors : proposal.riskCalculation.factors.isSome
  low_risk : proposal.riskScore < 70
  radius : approval.blastRadius ≤ 1000

/-- Where the request can be approved, the pod that is looked at is the one that is named. -/
def LooksAtNamed (live : Live) (db : Database) (approvalId : Nat) : Prop :=
  ∀ approval proposal ns name, NamesPod db approvalId approval proposal ns name →
    ∀ incident, Approvable db approval incident proposal → validName ns →
      ∀ pod, Looked live proposal.parameters ns pod →
        ∃ named, live.readPod ns name = .ok named ∧ liveAt ns named = liveAt ns pod

/-! ### What an approval was allowed for -/

section Granted

variable {env : Env} {live : Live} {db : Database} {r : Request} {approval : Approval}
variable {incident : Incident} {proposal : ActionProposal}

/-- What a guard that finds no reason has found, with the evaluation that it made. -/
private structure Granted (live : Live) (db : Database) (approval : Approval)
    (incident : Incident) (proposal : ActionProposal) (trace : List Event) : Prop where
  expires : 0 < approval.expiresAt
  awaiting : incident.state = .awaitingApproval
  pending : proposal.status = .pending
  unexecuted : ∀ e ∈ db.executions, e.proposalId ≠ approval.proposalId
  requires : ∃ entry,
    db.policyDecisions.latest (·.proposalId = approval.proposalId) = some entry ∧
      entry.2.requiresApproval
  factors : proposal.riskCalculation.factors.isSome
  radius : approval.blastRadius ≤ 1000
  target : ∃ ns pod, asStr (param proposal.parameters "namespace") = some ns ∧ validName ns ∧
    Looked live proposal.parameters ns pod ∧ AllowedFor trace (liveAt ns pod)

private theorem isFor_of_reviewInput {factors : RiskFactors} {target : LiveTarget}
    {input : PolicyInput}
    (h : reviewInput r.approvalId approval incident proposal factors target r.principal =
      .ok input) : approval.blastRadius ≤ 1000 ∧ IsFor input target := by
  have hreviewed := reviewed_of_reviewInput h
  have hpods := input.target.targetPods_le
  rw [hreviewed.pods] at hpods
  exact ⟨by omega, hreviewed.ns, hreviewed.name, hreviewed.labels, hreviewed.managed⟩

/-- The guard evaluates the policy once, for the pod that is looked at. -/
private theorem triple_granted (hshows : Shows env live) :
    Exec.Triple (fun w ↦ w.db = db ∧ w.trace = [])
      (staleReason env r.approvalId approval incident proposal r.principal)
      (fun reason w ↦ reason = none → Granted live db approval incident proposal w.trace)
      fun _ _ ↦ True := by
  have hstale {reason : String} {P : World → Prop} : Exec.Triple P
      (pure (some reason) : Service (Option String))
      (fun reason w ↦ reason = none → Granted live db approval incident proposal w.trace)
      fun _ _ ↦ True :=
    Exec.Triple.pure fun _ _ h ↦ nomatch h
  apply Exec.Triple.bind (Q := fun _ w ↦ w.db = db ∧ w.trace = [])
  · exact fun w hw ↦ hw
  intro now
  split
  · exact hstale
  next hrow =>
  obtain ⟨hexpires, hawaiting, hpending⟩ := rowReason_eq_none hrow
  apply triple_query
  apply Exec.Triple.ite (fun _ ↦ hstale)
  intro hexecuted
  apply Exec.Triple.ite (fun _ ↦ hstale)
  intro _
  apply Exec.Triple.bind (Q := fun target w ↦ (w.db = db ∧ w.trace = []) ∧
    (target.staleReason = none → ∃ ns pod, target = liveAt ns pod ∧
      asStr (param proposal.parameters "namespace") = some ns ∧ validName ns ∧
      Looked live proposal.parameters ns pod))
  · have hframes : Exec.Frames (fun w ↦ (w.db, w.trace)) (liveTarget env proposal) :=
      frames_liveTarget (fun _ _ ↦ rfl) env proposal
    exact (hframes.returns fun v ↦ v.1 = db ∧ v.2 = []).yields (yields_liveTarget hshows)
  intro target
  apply Exec.Triple.assume
  intro hseen
  split
  · exact hstale
  next hfresh =>
  obtain ⟨ns, pod, rfl, hns, hvalid, hlooked⟩ := hseen hfresh
  apply triple_query
  apply Exec.Triple.ite (fun _ ↦ hstale)
  intro hlatest
  rw [not_not, Option.any_eq_true] at hlatest
  split
  · exact hstale
  next factors hfactors =>
  apply Exec.Triple.bind (Q := fun input w ↦ w.trace = [] ∧
    reviewInput r.approvalId approval incident proposal factors (liveAt ns pod) r.principal =
      .ok input)
  · exact Exec.Triple.ofExcept (fun _ h _ hw ↦ ⟨hw.2, h⟩) fun _ _ _ _ ↦ trivial
  rintro input w ⟨htrace, hinput⟩ hnone
  obtain ⟨hradius, hfor⟩ := isFor_of_reviewInput hinput
  have hallowed : (env.opa w input).allowed := by
    simpa [policyReason, Exec.run_bind] using hnone
  have hafter : ((policyReason env input).run w).2.trace =
      [.evaluated input (env.opa w input)] := by
    simp [policyReason, Exec.run_bind, htrace]
  constructor
  · omega
  · exact hawaiting
  · exact hpending
  · simpa using hexecuted
  · exact hlatest
  · rw [hfactors]
    rfl
  · exact hradius
  · refine ⟨ns, pod, hns, hvalid, hlooked, ⟨input, env.opa w input, ?_, hallowed⟩, ?_⟩
    · show _ ∈ ((policyReason env input).run w).2.trace
      rw [hafter]
      exact List.mem_singleton_self _
    · intro input' result hmem _
      replace hmem : _ ∈ ((policyReason env input).run w).2.trace := hmem
      rw [hafter, List.mem_singleton] at hmem
      cases hmem
      exact hfor

/-- A decision that approves has granted. -/
private theorem triple_settle_granted (hshows : Shows env live)
    (hrow : db.approvals[r.approvalId]? = some approval) :
    Exec.Triple (fun w ↦ w.db = db ∧ w.trace = [])
      (settle env r.settings r.approvalId approval incident proposal r.decision r.principal
        r.comment)
      (fun _ w ↦ w.db.approvals[r.approvalId]?.map (·.decision) = some .approved →
        proposal.riskScore < 70 ∧ Granted live db approval incident proposal w.trace)
      fun _ _ ↦ True := by
  have hclosed {t : Table Approval} {f : Approval → Approval}
      (ht : t = db.approvals.update r.approvalId f) (hf : (f approval).decision ≠ .approved) :
      t[r.approvalId]?.map (·.decision) ≠ some .approved := by
    rw [ht, Table.getElem?_update_self, hrow]
    simpa using hf
  apply Exec.Triple.ite
  · intro _
    apply (reject_spec env r.settings r.approvalId approval db.approvals r.principal
      r.comment).mono
    · exact fun _ h ↦ congrArg Database.approvals h.1
    · rintro _ w ⟨now, h⟩ happroved
      exact absurd happroved (hclosed h (by simp [decided]))
    · exact fun _ _ h ↦ h
  intro _
  apply Exec.Triple.bind (Q := fun _ w ↦ w.db = db ∧ w.trace = [])
  · exact Exec.Triple.require (fun _ _ hw ↦ hw) fun _ _ _ ↦ trivial
  intro _
  apply Exec.Triple.bind (Q := fun _ w ↦ (w.db = db ∧ w.trace = []) ∧ proposal.riskScore < 70)
  · exact Exec.Triple.require (fun h _ hw ↦ ⟨hw, h⟩) fun _ _ _ ↦ trivial
  intro _
  apply Exec.Triple.assume
  intro hlow
  have hdb : Exec.Frames World.db (staleReason env r.approvalId approval incident proposal
      r.principal) :=
    frames_staleReason (fun _ _ ↦ rfl) (fun _ _ ↦ rfl) env _ _ _ _ _
  apply Exec.Triple.bind (((triple_granted hshows).and (hdb.returns (· = db))).mono
    (fun _ h ↦ ⟨h, h.1⟩) (fun _ _ h ↦ h) fun _ _ _ ↦ trivial)
  intro reason
  cases reason with
  | some reason =>
    apply (refuseStale_spec env r.settings r.approvalId approval db.approvals incident
      reason).mono
    · exact fun _ h ↦ congrArg Database.approvals h.2
    · rintro _ w ⟨f, h, hends⟩ happroved
      refine absurd happroved (hclosed h fun ha ↦ ?_)
      rcases hends approval with hexpired | hinvalidated
      · rw [hexpired] at ha
        cases ha
      · rw [hinvalidated] at ha
        cases ha
    · exact fun _ _ h ↦ h
  | none =>
    apply (approve_spec env r.settings r.approvalId approval db.approvals
      (Granted live db approval incident proposal) r.principal r.comment).mono
    · exact fun _ h ↦ ⟨congrArg Database.approvals h.2, h.1 rfl⟩
    · exact fun _ _ h _ ↦ ⟨hlow, h.2⟩
    · exact fun _ _ h ↦ h

/-- What a commit that approves an approval has found. -/
private theorem granted_of_approved (hshows : Shows env live) (cluster : Cluster)
    {ns name : String} (hnames : NamesPod db r.approvalId approval proposal ns name)
    (hbefore : approval.decision ≠ .approved)
    (happroved : (r.world env db cluster).committed.approvals[r.approvalId]?.map (·.decision) =
      some .approved) :
    ∃ incident, Approvable db approval incident proposal ∧ validName ns ∧ ∃ pod,
      Looked live proposal.parameters ns pod ∧
        AllowedFor (r.world env db cluster).trace (liveAt ns pod) := by
  have hprogram : Exec.Triple (fun w ↦ w.db = db ∧ w.trace = []) (r.program env)
      (fun _ w ↦ w.db.approvals[r.approvalId]?.map (·.decision) = some .approved →
        ∃ incident, Approvable db approval incident proposal ∧ validName ns ∧ ∃ pod,
          Looked live proposal.parameters ns pod ∧ AllowedFor w.trace (liveAt ns pod))
      fun _ _ ↦ True := by
    apply triple_program_of_rows
    intro approval' incident proposal' hrow hincident hproposal _ hpending
    rw [hnames.approval_row, Option.some.injEq] at hrow
    subst hrow
    rw [hnames.proposal_row, Option.some.injEq] at hproposal
    subst hproposal
    apply (triple_settle_granted hshows hnames.approval_row).mono
    · exact fun _ h ↦ h
    · intro _ w h hdecided
      obtain ⟨hlow, hgranted⟩ := h hdecided
      obtain ⟨ns', pod, hns, hvalid, hlooked, hallowed⟩ := hgranted.target
      rw [hnames.namespaced, Option.some.injEq] at hns
      subst hns
      exact ⟨incident, ⟨hincident, hpending, hgranted.expires, hgranted.awaiting,
        hgranted.pending, hgranted.unexecuted, hgranted.requires, hgranted.factors, hlow,
        hgranted.radius⟩, hvalid, pod, hlooked, hallowed⟩
    · exact fun _ _ h ↦ h
  rcases committed_transaction env (frames_committed_program r) (start db cluster) with
    hsame | ⟨w, hrun, hcommitted, htrace⟩
  · unfold Request.world at happroved
    rw [hsame] at happroved
    simp only [start, hnames.approval_row, Option.map_some, Option.some.injEq] at happroved
    exact absurd happroved hbefore
  · unfold Request.world at happroved ⊢
    rw [hcommitted] at happroved
    obtain ⟨incident, happrovable, hvalid, pod, hlooked, hallowed⟩ :=
      hprogram.of_ok ⟨rfl, rfl⟩ hrun happroved
    refine ⟨incident, happrovable, hvalid, pod, hlooked, ?_⟩
    rw [htrace]
    constructor
    · obtain ⟨input, result, hmem, hresult⟩ := hallowed.allowed
      exact ⟨input, result, List.mem_cons_of_mem _ hmem, hresult⟩
    · intro input result hmem
      rcases List.mem_cons.mp hmem with heq | hold
      · cases heq
      · exact hallowed.isFor input result hold

end Granted

/-! ### When the named pod is evaluated -/

/-- An environment that shows the cluster and in which nothing stands against an approval. -/
private def willing (live : Live) (digest : String) : Env :=
  { calm with
    listPods := fun _ ↦ live.listPods
    readPod := fun _ ↦ live.readPod
    readDeployment := fun _ ↦ live.readDeployment
    digest := fun _ ↦ digest }

/-- An administrator approves. -/
private def administrator (approvalId : Nat) : Request :=
  ⟨.standard, approvalId, .approved, ⟨"administrator", .admin, none⟩, none⟩

/-- What can be approved is approved there. -/
private theorem approved_of_approvable {live : Live} {db : Database} {id : Nat}
    {approval : Approval} {incident : Incident} {proposal : ActionProposal} {ns name : String}
    (hnames : NamesPod db id approval proposal ns name)
    (h : Approvable db approval incident proposal) (hvalid : validName ns) {pod : PodState}
    (hlooked : Looked live proposal.parameters ns pod) :
    GoesOn ((administrator id).rows (willing live approval.contextDigest) db {}) id
      approval.incidentId := by
  have hshows : Shows (willing live approval.contextDigest) live :=
    ⟨fun _ ↦ rfl, fun _ ↦ rfl, fun _ ↦ rfl⟩
  obtain ⟨⟨decisionId, decision⟩, hlatest, hrequires⟩ := h.requires
  obtain ⟨factors, hfactors⟩ := Option.isSome_iff_exists.mp h.factors
  have hradius := h.radius
  obtain ⟨input, hinput⟩ := exists_reviewInput (administrator id) approval incident proposal factors
    (liveAt ns pod) (by omega)
  have hdeciding : Deciding (willing live approval.contextDigest) db approval incident proposal
      decision :=
    ⟨h.incident_row, hnames.proposal_row, ⟨decisionId, hlatest⟩, h.undecided, h.awaiting,
      h.pending, rfl⟩
  have hpermitted : hasPermission (administrator id).principal.role
      (getActionMetadata proposal.actionType).requiredPermission := by
    show hasPermission .admin (getActionMetadata proposal.actionType).requiredPermission
    cases proposal.actionType <;> decide
  exact goesOn_of_allowed ⟨fun _ ↦ rfl, fun _ ↦ rfl⟩ rfl hnames.approval_row hdeciding rfl
    (fun _ ↦ h.expires) h.unexecuted hpermitted h.low_risk hrequires
    (reaches_liveTarget hshows hvalid hnames.namespaced hlooked) rfl hfactors hinput fun _ ↦ rfl

private theorem LiveTarget.eq_of_isFor {input : PolicyInput} {target target' : LiveTarget}
    (h : IsFor input target) (h' : IsFor input target')
    (hstale : target.staleReason = target'.staleReason) : target = target' := by
  obtain ⟨ns, name, labels, managed, stale⟩ := target
  obtain ⟨ns', name', labels', managed', stale'⟩ := target'
  simp only [LiveTarget.mk.injEq]
  exact ⟨h.ns.symm.trans h'.ns, h.name.symm.trans h'.name, h.labels.symm.trans h'.labels,
    h.managed.symm.trans h'.managed, hstale⟩

/-- **The named pod is evaluated.** In every environment that shows the cluster, whatever approves
an approval was an evaluation of exactly the pod that its proposal names, as it is, if and only
if that is the pod that is looked at wherever the request can be approved. -/
theorem reevaluates_iff (live : Live) (db : Database) (approvalId : Nat) :
    Reevaluates live db approvalId ↔ LooksAtNamed live db approvalId := by
  constructor
  · intro h approval proposal ns name hnames incident happrovable hvalid pod hlooked
    have hgoes := approved_of_approvable hnames happrovable hvalid hlooked
    have hshows : Shows (willing live approval.contextDigest) live :=
      ⟨fun _ ↦ rfl, fun _ ↦ rfl, fun _ ↦ rfl⟩
    have hbefore : approval.decision ≠ .approved := by
      rw [happrovable.undecided]
      decide
    obtain ⟨named, hread, hnamed⟩ := h approval proposal ns name hnames hbefore
      (willing live approval.contextDigest) (administrator approvalId) {} hshows rfl hgoes.1
    obtain ⟨-, -, -, pod', hlooked', hallowed⟩ :=
      granted_of_approved (r := administrator approvalId) hshows {} hnames hbefore hgoes.1
    obtain rfl := hlooked.unique hlooked'
    obtain ⟨input, result, hmem, hresult⟩ := hallowed.allowed
    exact ⟨named, hread, LiveTarget.eq_of_isFor (hnamed.isFor input result hmem hresult)
      (hallowed.isFor input result hmem hresult) rfl⟩
  · intro h approval proposal ns name hnames hbefore env r cluster hshows hid happroved
    subst hid
    obtain ⟨incident, happrovable, hvalid, pod, hlooked, hallowed⟩ :=
      granted_of_approved hshows cluster hnames hbefore happroved
    obtain ⟨named, hread, hsame⟩ := h approval proposal ns name hnames incident happrovable
      hvalid pod hlooked
    rw [← hsame] at hallowed
    exact ⟨named, hread, hallowed⟩

/-- A proposal that names no deployment is looked at by its pod. -/
theorem looksAtNamed_of_unnamed {live : Live} {db : Database} {approvalId : Nat}
    (h : ∀ approval proposal ns name, NamesPod db approvalId approval proposal ns name →
      asStr (param proposal.parameters "deployment") = none) :
    LooksAtNamed live db approvalId := by
  intro approval proposal ns name hnames incident _ _ pod hlooked
  have hunnamed := h approval proposal ns name hnames
  cases hlooked with
  | workload hnamed =>
    rw [hunnamed] at hnamed
    cases hnamed
  | pod _ hnamed _ hread =>
    rw [hnames.named, Option.some.injEq] at hnamed
    subst hnamed
    exact ⟨_, hread, rfl⟩

/-! ### A pod that is not the named one -/

/-- A cluster that lists a ready demo pod before the one that is not ready. -/
private def twoPods : Live where
  listPods _ _ := .ok [makePod "demo-b" true, makePod "demo-a" false]
  readPod _ name := .ok (makePod name (name = "demo-b"))
  readDeployment _ _ := .ok ⟨some 2, some 2, (makePod "demo" true).labels, ["demo:stable"]⟩

/-- A policy that asks for an approval of every deletion. -/
private def reserved : Env :=
  { willing twoPods "" with
    opa := fun _ _ ↦
      { allowed := false
        requiresApproval := true
        reason := "a person approves deletions"
        reason_length := by decide } }

/-- The rows of a pipeline's run there. -/
private def proposed : Database :=
  ((Pipeline.run reserved .standard Runbooks.unhealthyPodLibrary (Pipeline.demo .staging)
    "demo").run (start {})).2.committed

/-- The pipeline proposes to delete `demo-a`, and its deletion is approved after an evaluation for
`demo-b`, the first demo pod of the namespace. -/
theorem named_pod_not_evaluated :
    ¬ ∀ (live : Live) (db : Database) (approvalId : Nat), Reevaluates live db approvalId := by
  intro h
  have happrovals : proposed.approvals.map (fun a ↦ (a.decision, a.proposalId)) =
      [(.pending, 0)] := by
    decide +kernel
  have hproposals : proposed.proposals.map (fun p ↦ (asStr (param p.parameters "namespace"),
      asStr (podParameter p.parameters))) = [(some "cloudward-staging", some "demo-a")] := by
    decide +kernel
  have happroved : ((administrator 0).world (willing twoPods "") proposed
      {}).committed.approvals[0]?.map (·.decision) = some .approved := by
    decide +kernel
  have hevaluated : ∀ e ∈ ((administrator 0).world (willing twoPods "") proposed {}).trace,
      e.evaluation?.all (·.1.target.podName = "demo-b") := by
    decide +kernel
  obtain ⟨approval, happroval, hfields⟩ := List.map_eq_singleton_iff.mp happrovals
  obtain ⟨proposal, hproposal, hbound⟩ := List.map_eq_singleton_iff.mp hproposals
  simp only [Prod.mk.injEq] at hfields hbound
  obtain ⟨hdecision, hproposalId⟩ := hfields
  have hnames : NamesPod proposed 0 approval proposal "cloudward-staging" "demo-a" := by
    constructor
    · rw [happroval]
      rfl
    · rw [hproposal, hproposalId]
      rfl
    · exact hbound.1
    · exact hbound.2
  obtain ⟨pod, hread, hallowed⟩ := h twoPods proposed 0 approval proposal _ _ hnames
    (by rw [hdecision]; decide) (willing twoPods "") (administrator 0) {}
    ⟨fun _ ↦ rfl, fun _ ↦ rfl, fun _ ↦ rfl⟩ rfl happroved
  obtain ⟨input, result, hmem, hresult⟩ := hallowed.allowed
  have hfirst := hevaluated _ hmem
  have hname := (hallowed.isFor input result hmem hresult).name
  cases hread
  simp only [Event.evaluation?, Option.all_some, decide_eq_true_eq] at hfirst
  rw [hfirst] at hname
  revert hname
  decide

end CloudWard.Approvals
