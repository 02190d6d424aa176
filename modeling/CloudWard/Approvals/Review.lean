import CloudWard.Approvals.Requested
import CloudWard.Approvals.Status
import CloudWard.Policies.Document

/-!
# What an approval goes on from

The counterpart of the approval guards (`approvals/service.py:200` and `:316`): a waiting request
is approved if its newest evaluation required an approval, its live target is found and an
evaluation of that target allows it, and only then. If nothing has changed, the shipped policy
allows it if the action may be executed in its environment and the target is a demo pod.
-/

namespace CloudWard.Approvals

open CloudWard.Db CloudWard.Incidents CloudWard.Kubernetes CloudWard.Logic CloudWard.Policies
  CloudWard.Rbac CloudWard.Remediation CloudWard.Risk Service

/-- The committed rows after the transaction of a decision on a cluster. -/
def Request.rows (r : Request) (env : Env) (db : Database) (cluster : Cluster) : Database :=
  ((transaction env (r.program env)).run (start db cluster)).2.committed

/-- The approval is APPROVED and its incident is evaluated again. -/
def GoesOn (db : Database) (approvalId incidentId : Nat) : Prop :=
  db.approvals[approvalId]?.map (·.decision) = some .approved ∧
    db.incidents[incidentId]?.map (·.state) = some .policyEvaluation

/-- The rows of a pending approval that may be approved, up to its execution, its expiry and its
target. -/
structure Deciding (env : Env) (db : Database) (approval : Approval) (incident : Incident)
    (proposal : ActionProposal) (decision : PolicyDecision) : Prop where
  incident_row : db.incidents[approval.incidentId]? = some incident
  proposal_row : db.proposals[approval.proposalId]? = some proposal
  decision_row : ∃ id,
    db.policyDecisions.latest (·.proposalId = approval.proposalId) = some (id, decision)
  undecided : approval.decision = .pending
  awaiting : incident.state = .awaitingApproval
  pending : proposal.status = .pending
  digest_current : env.digest (contextOf approval.incidentId approval.proposalId proposal
    approval.proposalVersion) = approval.contextDigest

theorem Waiting.deciding {env : Env} {db : Database} {approval : Approval} {incident : Incident}
    {proposal : ActionProposal} {decision : PolicyDecision}
    (h : Waiting env db approval incident proposal decision) :
    Deciding env db approval incident proposal decision where
  incident_row := h.incident_row
  proposal_row := h.proposal_row
  decision_row := h.decision_row
  undecided := h.undecided
  awaiting := h.awaiting
  pending := h.pending
  digest_current := h.digest_current

section Decision

variable {env env' : Env} {db : Database} {cluster : Cluster} {approval : Approval}
variable {incident : Incident} {proposal : ActionProposal} {decision : PolicyDecision}
variable {r : Request} {target : LiveTarget} {input : PolicyInput} {factors : RiskFactors}

/-- A waiting request whose live target is found and whose evaluation allows it is not stale. -/
private theorem reaches_staleReason (hq : Quiet env) {w : World}
    (hwaits : Deciding env' w.db approval incident proposal decision)
    (hdigest : env.digest = env'.digest)
    (hnow : ∀ w, env.now w < approval.expiresAt)
    (hunexecuted : ∀ e ∈ w.db.executions, e.proposalId ≠ approval.proposalId)
    (hrequires : decision.requiresApproval)
    (htarget : ∀ w, Reaches (liveTarget env proposal) w target w)
    (hfresh : target.staleReason = none)
    (hfactors : proposal.riskCalculation.factors = some factors)
    (hinput : reviewInput r.approvalId approval incident proposal factors target r.principal =
      .ok input)
    (hallowed : ∀ w, (env.opa w input).allowed) :
    Returns (staleReason env r.approvalId approval incident proposal r.principal) w
      fun reason w' ↦ reason = none ∧ w'.db = w.db := by
  apply returns_bind (reaches_ask _ _)
  intro n
  have hrow : rowReason (env.now w) approval incident proposal = none := by
    unfold rowReason
    rw [if_neg (Nat.not_le.mpr (hnow w)), if_neg (not_not.mpr hwaits.awaiting),
      if_neg (not_not.mpr hwaits.pending)]
  simp only [hrow]
  apply returns_bind (reaches_query hq _ _)
  intro n
  have hnone : (w.db.executions.any fun e ↦ e.proposalId = approval.proposalId) = false := by
    rw [List.any_eq_false]
    intro e he
    simpa using hunexecuted e he
  have hcurrent : env.digest (contextOf approval.incidentId approval.proposalId proposal
      approval.proposalVersion) = approval.contextDigest := by
    rw [hdigest]
    exact hwaits.digest_current
  simp only [hnone, Bool.false_eq_true, if_false, hcurrent, ne_eq, not_true_eq_false]
  apply returns_bind (htarget _)
  intro n
  simp only [hfresh]
  apply returns_bind (reaches_query hq _ _)
  intro n
  obtain ⟨id, hlatest⟩ := hwaits.decision_row
  simp only [hlatest, Option.any_some, hrequires, not_true_eq_false, if_false, hfactors]
  apply returns_bind (reaches_ofExcept hinput)
  intro n
  apply returns_bind (reaches_evaluate _ _ _)
  intro n
  simp only [hallowed, if_true]
  exact (reaches_pure _ _).returns fun _ ↦ ⟨rfl, rfl⟩

/-- Approving a waiting request that is not stale. -/
private theorem returns_approve (hq : Quiet env) {w : World} (comment : Option String)
    (hwaits : Deciding env' w.db approval incident proposal decision)
    (hrow : w.db.approvals[r.approvalId]? = some approval) :
    Returns (approve env r.settings r.approvalId approval r.principal comment) w fun _ w' ↦
      GoesOn w'.db r.approvalId approval.incidentId := by
  apply returns_bind (reaches_ask _ _)
  intro n
  generalize env.now _ = now
  apply returns_bind (reaches_write _ _)
  intro n
  apply returns_bind (reaches_write _ _)
  intro n
  have hstate : w.db.incidents[approval.incidentId]?.map (·.state) = some .awaitingApproval := by
    rw [hwaits.incident_row, Option.map_some, hwaits.awaiting]
  apply returns_bind
  · exact reaches_changeIncidentState hq r.settings r.principal.login {} (by exact hstate)
      (by decide) (by decide) (by decide) rfl
  intro n
  apply returns_bind (reaches_flush hq _)
  intro n
  apply (reaches_flush hq _).returns
  intro n
  constructor
  · simp only [Table.getElem?_update_self, hrow, Option.map_some]
    rfl
  · simp only [Table.getElem?_update_self, hwaits.incident_row, Option.map_some]
    rfl

/-- **What goes on.** A waiting request goes on if its evaluation required an approval, its live
target is found and an evaluation of it allows it. -/
theorem goesOn_of_allowed (hq : Quiet env) (hdecision : r.decision = .approved)
    (hrow : db.approvals[r.approvalId]? = some approval)
    (hwaits : Deciding env' db approval incident proposal decision)
    (hdigest : env.digest = env'.digest) (hnow : ∀ w, env.now w < approval.expiresAt)
    (hunexecuted : ∀ e ∈ db.executions, e.proposalId ≠ approval.proposalId)
    (hpermitted : hasPermission r.principal.role
      (getActionMetadata proposal.actionType).requiredPermission)
    (hrisk : proposal.riskScore < 70) (hrequires : decision.requiresApproval)
    (htarget : ∀ w, Reaches (liveTarget env proposal) w target w)
    (hfresh : target.staleReason = none)
    (hfactors : proposal.riskCalculation.factors = some factors)
    (hinput : reviewInput r.approvalId approval incident proposal factors target r.principal =
      .ok input)
    (hallowed : ∀ w, (env.opa w input).allowed) :
    GoesOn (r.rows env db cluster) r.approvalId approval.incidentId := by
  have hsettle (w : World) (hw : w.db = db) : Returns (settle env r.settings r.approvalId approval
      incident proposal r.decision r.principal r.comment) w fun _ w' ↦
        GoesOn w'.db r.approvalId approval.incidentId := by
    subst hw
    have hne : r.decision ≠ .rejected := by
      rw [hdecision]
      decide
    unfold settle
    rw [if_neg hne]
    apply returns_bind (reaches_require hpermitted)
    intro n
    apply returns_bind (reaches_require hrisk)
    intro n
    apply (reaches_staleReason (w := { w with tick := n }) hq hwaits hdigest hnow hunexecuted
      hrequires htarget hfresh hfactors hinput hallowed).bind
    rintro reason w' ⟨rfl, hw'⟩
    replace hw' : w'.db = w.db := hw'
    exact returns_approve hq r.comment (by rw [hw']; exact hwaits) (by rw [hw']; exact hrow)
  have hreturns : Returns (transaction env (r.program env)) (start db cluster) fun _ w' ↦
      GoesOn w'.committed r.approvalId approval.incidentId := by
    apply Returns.bind (Q := fun _ w' ↦ GoesOn w'.db r.approvalId approval.incidentId)
    · apply returns_bind (reaches_require (.inl hdecision))
      intro n
      apply returns_bind (reaches_query hq _ _)
      intro n
      simp only [start, hrow]
      apply returns_bind (reaches_require hwaits.undecided)
      intro n
      apply returns_bind (reaches_query hq _ _)
      intro n
      apply returns_bind (reaches_query hq _ _)
      intro n
      simp only [hwaits.incident_row, hwaits.proposal_row]
      exact hsettle _ rfl
    · exact fun _ w' h ↦ (reaches_commit hq w').returns fun _ ↦ h
  exact hreturns.state

/-- What a guard that finds no reason has found: an evaluation that required an approval, a
live target and an evaluation that allows it. -/
structure Passes (env : Env) (r : Request) (approval : Approval) (incident : Incident)
    (proposal : ActionProposal) (decision : PolicyDecision) (T : LiveTarget → Prop) : Prop where
  requires : decision.requiresApproval
  allowed : ∃ target factors input w, T target ∧ target.staleReason = none ∧
    proposal.riskCalculation.factors = some factors ∧
    reviewInput r.approvalId approval incident proposal factors target r.principal = .ok input ∧
    (env.opa w input).allowed

private theorem triple_staleReason {T : LiveTarget → Prop}
    (hyields : Exec.Yields T (liveTarget env proposal)) {id : Nat}
    (hlatest : db.policyDecisions.latest (·.proposalId = approval.proposalId) =
      some (id, decision)) :
    Exec.Triple (fun w ↦ w.db = db)
      (staleReason env r.approvalId approval incident proposal r.principal)
      (fun reason _ ↦ reason = none → Passes env r approval incident proposal decision T)
      fun _ _ ↦ True := by
  have hsome {reason : String} {P : World → Prop} : Exec.Triple P
      (pure (some reason) : Service (Option String))
      (fun reason _ ↦ reason = none → Passes env r approval incident proposal decision T)
      fun _ _ ↦ True :=
    Exec.Triple.pure fun _ _ h ↦ nomatch h
  apply Exec.Triple.bind (Q := fun _ w ↦ w.db = db)
  · exact fun w hw ↦ hw
  intro now
  split
  · exact hsome
  apply Exec.Triple.bind ((query_spec env _ db).mono (fun _ h ↦ h) (fun _ _ h ↦ h.2)
    fun _ _ h ↦ h)
  intro executed
  apply Exec.Triple.ite (fun _ ↦ hsome)
  intro _
  apply Exec.Triple.ite (fun _ ↦ hsome)
  intro _
  apply Exec.Triple.bind (Q := fun target w ↦ w.db = db ∧ T target)
  · have hframes : Exec.Frames World.db (liveTarget env proposal) :=
      frames_liveTarget (fun _ _ ↦ rfl) env proposal
    exact (hframes.returns (· = db)).yields hyields
  intro target
  apply Exec.Triple.assume
  intro htarget
  split
  · exact hsome
  next hfresh =>
  apply Exec.Triple.bind (query_spec env _ db)
  rintro latest w ⟨rfl, hw⟩
  revert w
  change Exec.Triple _ _ _ _
  apply Exec.Triple.ite (fun _ ↦ hsome)
  intro hrequires
  rw [hlatest, Option.any_some, not_not] at hrequires
  split
  · exact hsome
  next factors hfactors =>
  apply Exec.Triple.bind (Q := fun input _ ↦
    reviewInput r.approvalId approval incident proposal factors target r.principal = .ok input)
  · exact Exec.Triple.ofExcept (fun _ h _ _ ↦ h) fun _ _ _ _ ↦ trivial
  intro input w hinput hnone
  refine ⟨hrequires, target, factors, input, w, htarget, hfresh, hfactors, hinput, ?_⟩
  simpa [policyReason, Exec.run_bind] using hnone

/-- **What goes on has passed.** -/
theorem passes_of_goesOn (hdecision : r.decision = .approved)
    (hrow : db.approvals[r.approvalId]? = some approval)
    (hwaits : Waiting env' db approval incident proposal decision) {T : LiveTarget → Prop}
    (hyields : Exec.Yields T (liveTarget env proposal))
    (h : GoesOn (r.rows env db cluster) r.approvalId approval.incidentId) :
    Passes env r approval incident proposal decision T := by
  obtain ⟨id, hlatest⟩ := hwaits.decision_row
  -- a transaction that approves nothing, or that passes
  have hsettle : Exec.Triple (fun w ↦ w.db = db) (settle env r.settings r.approvalId approval
      incident proposal r.decision r.principal r.comment)
      (fun _ w ↦ w.db.approvals[r.approvalId]?.map (·.decision) = some .approved →
        Passes env r approval incident proposal decision T) fun _ _ ↦ True := by
    have hne : r.decision ≠ .rejected := by
      rw [hdecision]
      decide
    unfold settle
    rw [if_neg hne]
    apply Exec.Triple.bind (Q := fun _ w ↦ w.db = db)
    · exact Exec.Triple.require (fun _ _ hw ↦ hw) fun _ _ _ ↦ trivial
    intro _
    apply Exec.Triple.bind (Q := fun _ w ↦ w.db = db)
    · exact Exec.Triple.require (fun _ _ hw ↦ hw) fun _ _ _ ↦ trivial
    intro _
    have hframes : Exec.Frames World.db (staleReason env r.approvalId approval incident proposal
        r.principal) :=
      frames_staleReason (fun _ _ ↦ rfl) (fun _ _ ↦ rfl) env _ _ _ _ _
    apply Exec.Triple.bind (((triple_staleReason hyields hlatest).and
      (hframes.returns (· = db))).mono (fun _ h ↦ ⟨h, h⟩) (fun _ _ h ↦ h) fun _ _ _ ↦ trivial)
    intro reason
    cases reason with
    | none =>
      rintro w ⟨hpasses, -⟩
      rcases (approve env r.settings r.approvalId approval r.principal r.comment).run w with
        ⟨e | a, w'⟩
      · trivial
      · exact fun _ ↦ hpasses rfl
    | some reason =>
      apply (refuseStale_spec env r.settings r.approvalId approval db.approvals incident
        reason).mono
      · exact fun w hw ↦ congrArg Database.approvals hw.2
      · rintro _ w ⟨f, hf, hclosed⟩ happroved
        rw [hf, Table.getElem?_update_self, hrow, Option.map_some, Option.map_some,
          Option.some.injEq] at happroved
        rcases hclosed approval with hexpired | hinvalidated
        · rw [hexpired] at happroved
          cases happroved
        · rw [hinvalidated] at happroved
          cases happroved
      · exact fun _ _ h ↦ h
  have hprogram : Exec.Triple (fun w ↦ w.db = db) (r.program env)
      (fun _ w ↦ w.db.approvals[r.approvalId]?.map (·.decision) = some .approved →
        Passes env r approval incident proposal decision T) fun _ _ ↦ True :=
    triple_program hrow hwaits.incident_row hwaits.proposal_row fun _ _ ↦ hsettle
  rcases committed_transaction env (frames_committed_program r) (start db cluster) with
    hsame | ⟨w, hrun, hcommitted, -⟩
  · have happroved := h.1
    unfold Request.rows at happroved
    rw [hsame] at happroved
    simp only [start, hrow, Option.map_some, hwaits.undecided] at happroved
    cases happroved
  · have happroved := h.1
    unfold Request.rows at happroved
    rw [hcommitted] at happroved
    exact hprogram.of_ok rfl hrun happroved

end Decision

/-! ### What does not change -/

/-- What the cluster's API answers as long as no pod or deployment changes. -/
structure Live where
  listPods : String → String → Except Exc (List PodState)
  readPod : String → String → Except Exc PodState
  readDeployment : String → String → Except Exc V1Deployment

/-- The environment shows the cluster as it is. -/
structure Shows (env : Env) (live : Live) : Prop where
  listPods : ∀ w, env.listPods w = live.listPods
  readPod : ∀ w, env.readPod w = live.readPod
  readDeployment : ∀ w, env.readDeployment w = live.readDeployment

/-- OPA answers by the shipped remediation policy. -/
def Shipped (env : Env) : Prop := ∀ w input,
  (env.opa w input).allowed = (Policies.Remediation.decision (document input)).allowed ∧
    (env.opa w input).requiresApproval =
      (Policies.Remediation.decision (document input)).requiresApproval

/-- The parameters name what the flow has seen: a deployment with the replicas that were observed,
or a pod. -/
inductive Tracked (live : Live) (parameters : Parameters) : Prop
  | workload {ns name : String} {deployment : V1Deployment}
      (namespaced : asStr (param parameters "namespace") = some ns)
      (named : asStr (param parameters "deployment") = some name) (valid : validName name)
      (read : live.readDeployment ns name = .ok deployment)
      (replicas : ∀ n, asInt (param parameters "observed_replicas") = some n →
        deployment.replicas.getD 0 = n)
  | pod {ns name : String} (namespaced : asStr (param parameters "namespace") = some ns)
      (unnamed : asStr (param parameters "deployment") = none)
      (named : asStr (podParameter parameters) = some name) (valid : validName name)

/-- The pod a decision looks at: the first demo pod of a deployment's namespace, or the pod
that is named. -/
inductive TargetPod (live : Live) (parameters : Parameters) (ns : String) : PodState → Prop
  | workload {name : String} {pod : PodState} {rest : List PodState}
      (named : asStr (param parameters "deployment") = some name)
      (listed : live.listPods ns "cloudward.io/demo-target=true" = .ok (pod :: rest)) :
      TargetPod live parameters ns pod
  | pod {name : String} {pod : PodState}
      (unnamed : asStr (param parameters "deployment") = none)
      (named : asStr (podParameter parameters) = some name)
      (read : live.readPod ns name = .ok pod) : TargetPod live parameters ns pod

/-- A deployment of which a tag is expected has an image with that tag. -/
def Tagged (live : Live) (parameters : Parameters) (ns : String) : Prop :=
  ∀ name tag, asStr (param parameters "deployment") = some name →
    asStr (param parameters "expected_current_tag") = some tag →
    ∃ deployment, live.readDeployment ns name = .ok deployment ∧
      deployment.images.any fun image ↦ (":" ++ tag).toList.isSuffixOf image.toList

/-- The proposal is one the shipped policy acts on: its action may be executed in the
environment, and its target is a managed demo pod of staging, one of at most ten, whose
deployment has the expected tag. -/
structure Stands (live : Live) (environment : Environment) (proposal : ActionProposal) :
    Prop where
  action : executable environment proposal.actionType
  radius : blastRadius proposal.parameters ≤ 10
  namespaced : asStr (param proposal.parameters "namespace") = some "cloudward-staging"
  pod : ∃ pod, TargetPod live proposal.parameters "cloudward-staging" pod ∧
    pod.name ≠ "" ∧ pod.controllerManaged ∧ isDemoTarget pod.labels
  tagged : Tagged live proposal.parameters "cloudward-staging"

section Target

variable {env : Env} {live : Live} {proposal : ActionProposal} {ns : String}

/-- The live target that a pod makes. -/
def liveAt (ns : String) (pod : PodState) : LiveTarget where
  ns := ns
  name := pod.name
  labels := pod.labels
  controllerManaged := pod.controllerManaged

/-- What `_live_target` returns where it finds no reason: the first demo pod of the namespace of
a deployment that is as expected, or the pod that is named. -/
inductive Looked (live : Live) (parameters : Parameters) (ns : String) : PodState → Prop
  | workload {name : String} {deployment : V1Deployment} {pod : PodState} {rest : List PodState}
      (named : asStr (param parameters "deployment") = some name) (valid : validName name)
      (read : live.readDeployment ns name = .ok deployment)
      (replicas : ∀ n, asInt (param parameters "observed_replicas") = some n →
        deployment.replicas.getD 0 = n)
      (tagged : ∀ tag, asStr (param parameters "expected_current_tag") = some tag →
        deployment.images.any fun image ↦ (":" ++ tag).toList.isSuffixOf image.toList)
      (listed : live.listPods ns "cloudward.io/demo-target=true" = .ok (pod :: rest)) :
      Looked live parameters ns pod
  | pod {name : String} {pod : PodState}
      (unnamed : asStr (param parameters "deployment") = none)
      (named : asStr (podParameter parameters) = some name) (valid : validName name)
      (read : live.readPod ns name = .ok pod) : Looked live parameters ns pod

section Looked

variable {parameters : Parameters} {pod pod' : PodState}

/-- There is one pod to look at. -/
theorem Looked.unique (h : Looked live parameters ns pod) (h' : Looked live parameters ns pod') :
    pod = pod' := by
  cases h with
  | workload hnamed _ _ _ _ hlisted =>
    cases h' with
    | workload _ _ _ _ _ hlisted' =>
      rw [hlisted] at hlisted'
      cases hlisted'
      rfl
    | pod hunnamed =>
      rw [hnamed] at hunnamed
      cases hunnamed
  | pod hunnamed hnamed _ hread =>
    cases h' with
    | workload hnamed' =>
      rw [hunnamed] at hnamed'
      cases hnamed'
    | pod _ hnamed' _ hread' =>
      rw [hnamed, Option.some.injEq] at hnamed'
      subst hnamed'
      rw [hread] at hread'
      cases hread'
      rfl

private theorem Looked.targetPod (h : Looked live parameters ns pod) :
    TargetPod live parameters ns pod := by
  cases h with
  | workload hnamed _ _ _ _ hlisted => exact .workload hnamed hlisted
  | pod hunnamed hnamed _ hread => exact .pod hunnamed hnamed hread

private theorem Looked.tagged (h : Looked live parameters ns pod) : Tagged live parameters ns := by
  intro name tag hname hexpected
  cases h with
  | workload hnamed _ hread _ htagged =>
    rw [hnamed, Option.some.injEq] at hname
    subst hname
    exact ⟨_, hread, htagged tag hexpected⟩
  | pod hunnamed =>
    rw [hunnamed] at hname
    cases hname

/-- A tracked target is looked at. -/
private theorem looked_of_tracked (htracked : Tracked live parameters)
    (hns : asStr (param parameters "namespace") = some ns)
    (hpod : TargetPod live parameters ns pod) (htagged : Tagged live parameters ns) :
    Looked live parameters ns pod := by
  cases htracked with
  | workload hns' hname hvalidName hread hreplicas =>
    rw [hns, Option.some.injEq] at hns'
    subst hns'
    cases hpod with
    | pod hunnamed =>
      rw [hname] at hunnamed
      cases hunnamed
    | workload _ hlisted =>
      refine .workload hname hvalidName hread hreplicas ?_ hlisted
      intro tag hexpected
      obtain ⟨deployment, hread', himage⟩ := htagged _ tag hname hexpected
      rw [hread] at hread'
      cases hread'
      exact himage
  | pod _ hunnamed hnamed hvalidName =>
    cases hpod with
    | workload hname =>
      rw [hunnamed] at hname
      cases hname
    | pod _ hnamed' hread =>
      rw [hnamed, Option.some.injEq] at hnamed'
      subst hnamed'
      exact .pod hunnamed hnamed hvalidName hread

end Looked

/-- A live target that is not stale is the pod that a decision looks at. -/
theorem yields_liveTarget (hshows : Shows env live) :
    Exec.Yields (fun target ↦ target.staleReason = none → ∃ ns pod, target = liveAt ns pod ∧
        asStr (param proposal.parameters "namespace") = some ns ∧ validName ns ∧
        Looked live proposal.parameters ns pod)
      (liveTarget env proposal) := by
  unfold liveTarget
  split
  · exact Exec.yields_pure fun h ↦ nomatch h
  next ns hns =>
  split
  · next name hname =>
    apply Exec.yields_bind_of (yields_getDeployment env ns name)
    rintro state ⟨hvalid, w, deployment, hread, hdesired, himages⟩
    rw [hshows.readDeployment] at hread
    split
    · exact Exec.yields_pure fun h ↦ nomatch h
    next hsame =>
    split
    · exact Exec.yields_pure fun h ↦ nomatch h
    next htag =>
    have hreplicas : ∀ n, asInt (param proposal.parameters "observed_replicas") = some n →
        deployment.replicas.getD 0 = n := by
      intro n hn
      rw [hn, Option.any_some, hdesired] at hsame
      simpa using hsame
    have htagged : ∀ tag, asStr (param proposal.parameters "expected_current_tag") = some tag →
        deployment.images.any fun image ↦ (":" ++ tag).toList.isSuffixOf image.toList := by
      intro tag hexpected
      rw [hexpected, Option.any_some, himages] at htag
      simpa using htag
    apply Exec.yields_bind_of (yields_getPods env ns _)
    rintro pods ⟨hvalidNs, w', hpods⟩
    rw [hshows.listPods] at hpods
    split
    · exact Exec.yields_pure fun h ↦ nomatch h
    · exact Exec.yields_pure fun _ ↦
        ⟨ns, _, rfl, hns, hvalidNs, .workload hname hvalid hread hreplicas htagged hpods⟩
  · next hname =>
    split
    · next podName hpod =>
      apply Exec.yields_bind_of (yields_getPodHealth env ns podName)
      rintro pod ⟨hvalidNs, hvalid, w, hread⟩
      rw [hshows.readPod] at hread
      exact Exec.yields_pure fun _ ↦
        ⟨ns, pod, rfl, hns, hvalidNs, .pod hname hpod hvalid hread⟩
    · exact Exec.yields_pure fun h ↦ nomatch h

/-- The pod to look at is found. -/
theorem reaches_liveTarget (hshows : Shows env live) {pod : PodState} (hvalid : validName ns)
    (hns : asStr (param proposal.parameters "namespace") = some ns)
    (h : Looked live proposal.parameters ns pod) (w : World) :
    Reaches (liveTarget env proposal) w (liveAt ns pod) w := by
  unfold liveTarget
  simp only [hns]
  cases h with
  | workload hname hvalidName hread hreplicas htagged hlisted =>
    simp only [hname]
    apply reaches_bind (reaches_getDeployment hvalid hvalidName fun w ↦ by
      rw [hshows.readDeployment, hread])
    intro n
    apply reaches_ite_not
    · cases hobserved : asInt (param proposal.parameters "observed_replicas") with
      | none => simp
      | some n => simpa using hreplicas n hobserved
    apply reaches_ite_not
    · cases hexpected : asStr (param proposal.parameters "expected_current_tag") with
      | none => simp
      | some tag =>
        rw [Option.any_some, htagged tag hexpected]
        decide
    apply reaches_bind (reaches_getPods hvalid (by decide) fun w ↦ by
      rw [hshows.listPods, hlisted])
    intro n
    exact reaches_pure _ _
  | pod hunnamed hnamed hvalidName hread =>
    simp only [hunnamed, hnamed]
    apply reaches_bind (reaches_getPodHealth hvalid hvalidName fun w ↦ by
      rw [hshows.readPod, hread])
    intro n
    exact reaches_pure _ _

end Target

section Review

variable {env env' : Env} {live : Live} {db : Database} {cluster : Cluster}
variable {approval : Approval} {incident : Incident} {proposal : ActionProposal}
variable {decision : PolicyDecision} {r : Request} {target : LiveTarget} {input : PolicyInput}
variable {factors : RiskFactors}

/-- What the shipped policy allows, it found eligible. -/
theorem Shipped.eligible_of_allowed (h : Shipped env) {w : World}
    (hallowed : (env.opa w input).allowed) : Policies.Remediation.Eligible (document input) := by
  by_contra hnot
  rw [(h w input).1, (Policies.Remediation.decision_of_not_eligible hnot).1] at hallowed
  cases hallowed

/-- The input of a decision is built unless too many pods are meant. -/
theorem exists_reviewInput (r : Request) (approval : Approval) (incident : Incident)
    (proposal : ActionProposal) (factors : RiskFactors) (target : LiveTarget)
    (hpods : max 1 approval.blastRadius ≤ 1000) : ∃ input,
      reviewInput r.approvalId approval incident proposal factors target r.principal =
        .ok input := by
  unfold reviewInput targetInput
  rw [dif_pos hpods]
  exact ⟨_, rfl⟩

/-- What the input of a decision says of the approval and of the target. -/
structure Reviewed (r : Request) (approval : Approval) (incident : Incident)
    (proposal : ActionProposal) (factors : RiskFactors) (target : LiveTarget)
    (input : PolicyInput) : Prop where
  environment : input.environment = incident.environment.value
  action : input.action = proposal.actionType
  score : input.riskScore = proposal.riskScore
  factors : input.riskFactors = factors
  radius : input.blastRadius = max 1 approval.blastRadius
  reversible : input.reversible = approval.reversible
  criticality : input.serviceCriticality = "low"
  approved : input.approval = ⟨true, some (toString r.approvalId), some r.principal.login⟩
  ns : input.target.ns = target.ns
  name : input.target.podName = target.name
  labels : input.target.labels = target.labels
  managed : input.target.controllerManaged = target.controllerManaged
  pods : input.target.targetPods = max 1 approval.blastRadius

theorem reviewed_of_reviewInput
    (h : reviewInput r.approvalId approval incident proposal factors target r.principal =
      .ok input) : Reviewed r approval incident proposal factors target input := by
  unfold reviewInput at h
  cases ht : targetInput target.ns target.name target.labels target.controllerManaged
      (max 1 approval.blastRadius) with
  | error e =>
    rw [ht] at h
    cases h
  | ok t =>
    rw [ht] at h
    cases h
    obtain ⟨-, hns, hname, hlabels, hmanaged, hpods⟩ := targetInput_eq_ok.mp ht
    exact ⟨rfl, rfl, rfl, rfl, rfl, rfl, rfl, rfl, hns, hname, hlabels, hmanaged, hpods⟩

/-- The input of a decision is eligible exactly if its action and its target are. -/
private theorem eligible_iff_of_reviewed (h : Reviewed r approval incident proposal factors target
      input) (hreversible : approval.reversible = true) (hscore : proposal.riskScore = factors.total)
    (hlow : proposal.riskScore < 70) :
    Policies.Remediation.Eligible (document input) ↔
      executable incident.environment proposal.actionType ∧ target.ns = "cloudward-staging" ∧
        target.name ≠ "" ∧ target.controllerManaged ∧ approval.blastRadius ≤ 10 ∧
        isDemoTarget target.labels := by
  have hradius : 1 ≤ input.blastRadius := by
    rw [h.radius]
    exact Nat.le_max_left _ _
  have hcount : (1 ≤ max 1 approval.blastRadius ∧ max 1 approval.blastRadius ≤ 10) ↔
      approval.blastRadius ≤ 10 := by omega
  rw [eligible_document h.environment hradius h.criticality (h.reversible.trans hreversible)
    (by rw [h.score, h.factors, hscore]) (by rw [h.score]; exact hlow), h.action,
    validDemoPodTarget_document, h.ns, h.name, h.managed, h.pods, h.labels, hcount, isDemoTarget,
    decide_eq_true_iff, demoTargetLabel]

/-- Nothing has changed since the request, and the principal may approve it. -/
structure Unchanged (env env' : Env) (live : Live) (r : Request) (approval : Approval)
    (proposal : ActionProposal) : Prop where
  shown : Shows env live
  shows : Shows env' live
  policy : Shipped env'
  digest : env'.digest = env.digest
  quiet : Quiet env'
  not_expired : ∀ w, env'.now w < approval.expiresAt
  approving : r.decision = .approved
  permitted : hasPermission r.principal.role
    (getActionMetadata proposal.actionType).requiredPermission
  low_risk : proposal.riskScore < 70
  named : r.principal.login ≠ ""

/-- **What goes on unchanged.** A waiting request of a tracked target goes on exactly if its
newest decision requires an approval and its proposal is one the shipped policy acts on. -/
theorem goesOn_iff (hu : Unchanged env env' live r approval proposal)
    (hrow : db.approvals[r.approvalId]? = some approval)
    (hwaits : Waiting env db approval incident proposal decision)
    (hunexecuted : ∀ e ∈ db.executions, e.proposalId ≠ approval.proposalId)
    (htracked : Tracked live proposal.parameters)
    (hfactors : proposal.riskCalculation.factors = some factors)
    (hscore : proposal.riskScore = factors.total) :
    GoesOn (r.rows env' db cluster) r.approvalId approval.incidentId ↔
      decision.requiresApproval ∧ Stands live incident.environment proposal := by
  have hreversible : approval.reversible = true :=
    hwaits.reversible.trans (reversible_getActionMetadata _)
  constructor
  · intro h
    obtain ⟨hrequires, target, factors', input, w, hseen, hfresh, hfactors', hinput, hallowed⟩ :=
      passes_of_goesOn hu.approving hrow hwaits (yields_liveTarget hu.shows) h
    rw [hfactors, Option.some.injEq] at hfactors'
    subst hfactors'
    obtain ⟨ns, pod, rfl, hns, -, hlooked⟩ := hseen hfresh
    obtain ⟨haction, rfl, hname, hmanaged, hradius, hdemo⟩ :=
      (eligible_iff_of_reviewed (reviewed_of_reviewInput hinput) hreversible hscore
        hu.low_risk).mp (hu.policy.eligible_of_allowed hallowed)
    exact ⟨hrequires, haction, hwaits.radius ▸ hradius, hns,
      ⟨pod, hlooked.targetPod, hname, hmanaged, hdemo⟩, hlooked.tagged⟩
  · rintro ⟨hrequires, haction, hradius, hns, ⟨pod, hpod, hname, hmanaged, hdemo⟩, htagged⟩
    rw [← hwaits.radius] at hradius
    obtain ⟨input, hinput⟩ := exists_reviewInput r approval incident proposal factors
      (liveAt "cloudward-staging" pod) (by omega)
    have hreviewed := reviewed_of_reviewInput hinput
    have heligible : Policies.Remediation.Eligible (document input) :=
      (eligible_iff_of_reviewed hreviewed hreversible hscore hu.low_risk).mpr
        ⟨haction, rfl, hname, hmanaged, hradius, hdemo⟩
    have hid : toString r.approvalId ≠ "" := Nat.repr_ne_empty
    have hallowed (w : World) : (env'.opa w input).allowed := by
      rw [(hu.policy w input).1, (Policies.Remediation.decision_of_eligible heligible).1,
        validApproval_document hreviewed.approved hid hu.named, Bool.or_true]
    exact goesOn_of_allowed hu.quiet hu.approving hrow hwaits.deciding hu.digest hu.not_expired hunexecuted
      hu.permitted hu.low_risk hrequires
      (reaches_liveTarget hu.shows (by decide) hns (looked_of_tracked htracked hns hpod htagged))
      rfl hfactors hinput
      hallowed

end Review

end CloudWard.Approvals
