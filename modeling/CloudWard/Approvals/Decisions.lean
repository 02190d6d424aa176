import CloudWard.Approvals.Service
import CloudWard.Logic.Runs

/-!
# Approval soundness over every history of decisions

The approvals API runs each decision as one transaction that locks the approval, its
incident and its proposal before it loads them; inserting an execution or a policy
decision of the proposal needs a lock on its row too, so a decision is one step on the
committed rows, taken at one clock reading. Between decisions every other row may change
in any way and new approvals may be requested. The results: an approval leaves PENDING at
most once, and a committed APPROVED had every guard true on the rows it was decided on.
-/

namespace CloudWard.Approvals

open CloudWard.Db CloudWard.Incidents CloudWard.Kubernetes CloudWard.Logic CloudWard.Policies
  CloudWard.Rbac CloudWard.Remediation CloudWard.Risk Service

/-- What `_stale_reason` establishes when it finds no reason: facts about the locked rows
and the rows that refer to them, and a policy evaluation made for this decision. -/
structure Current (env : Env) (now : Nat) (db : Database) (approvalId : Nat)
    (approval : Approval) (incident : Incident) (proposal : ActionProposal)
    (principal : Principal) (trace : List Event) : Prop where
  not_expired : now < approval.expiresAt
  awaiting : incident.state = .awaitingApproval
  proposal_pending : proposal.status = .pending
  unexecuted : ∀ e ∈ db.executions, e.proposalId ≠ approval.proposalId
  digest_current : env.digest (contextOf approval.incidentId approval.proposalId proposal
    approval.proposalVersion) = approval.contextDigest
  requires_approval : ∃ entry,
    db.policyDecisions.latest (·.proposalId = approval.proposalId) = some entry ∧
      entry.2.requiresApproval
  evaluated : ∃ input result, Event.evaluated input result ∈ trace ∧ result.allowed ∧
    input.action = proposal.actionType ∧
    input.approval = ⟨true, some (toString approvalId), some principal.login⟩

/-- What `decide` establishes when it approves: the rows it decided on, the deciding role's
permission, a risk score below the block, and that the request is current. -/
structure MayApprove (env : Env) (now : Nat) (db : Database) (approvalId : Nat)
    (approval : Approval) (incident : Incident) (proposal : ActionProposal)
    (principal : Principal) (trace : List Event) : Prop extends
    Current env now db approvalId approval incident proposal principal trace where
  approval_row : db.approvals[approvalId]? = some approval
  incident_row : db.incidents[approval.incidentId]? = some incident
  proposal_row : db.proposals[approval.proposalId]? = some proposal
  pending : approval.decision = .pending
  permitted :
    hasPermission principal.role (getActionMetadata proposal.actionType).requiredPermission
  low_risk : proposal.riskScore < 70

/-! ### What the guard establishes -/

theorem rowReason_eq_none {now : Nat} {approval : Approval} {incident : Incident}
    {proposal : ActionProposal} (h : rowReason now approval incident proposal = none) :
    now < approval.expiresAt ∧ incident.state = .awaitingApproval ∧
      proposal.status = .pending := by
  unfold rowReason at h
  split at h
  · cases h
  · next hexp =>
    split at h
    · cases h
    · next hstate =>
      split at h
      · cases h
      · next hstatus => exact ⟨by omega, not_not.mp hstate, not_not.mp hstatus⟩

private theorem reviewInput_fields {approvalId : Nat} {approval : Approval}
    {incident : Incident} {proposal : ActionProposal} {factors : RiskFactors}
    {target : LiveTarget} {principal : Principal} {input : PolicyInput}
    (h : reviewInput approvalId approval incident proposal factors target principal
      = .ok input) :
    input.action = proposal.actionType ∧
      input.approval = ⟨true, some (toString approvalId), some principal.login⟩ ∧
      input.target.ns = target.ns ∧ input.target.podName = target.name ∧
      input.target.labels = target.labels ∧
      input.target.controllerManaged = target.controllerManaged := by
  unfold reviewInput at h
  cases ht : targetInput target.ns target.name target.labels target.controllerManaged
      (max 1 approval.blastRadius) with
  | error e =>
    rw [ht] at h
    cases h
  | ok t =>
    rw [ht] at h
    cases h
    obtain ⟨-, h1, h2, h3, h4, -⟩ := targetInput_eq_ok.mp ht
    exact ⟨rfl, rfl, h1, h2, h3, h4⟩

theorem frames_liveTarget {ω : Type} {f : World → ω}
    (htick : ∀ w n, f { w with tick := n } = f w) (env : Env) (proposal : ActionProposal) :
    Exec.Frames f (liveTarget env proposal) := by
  unfold liveTarget
  split
  · exact Exec.frames_pure _
  · next ns _ =>
    split
    · next deploymentName _ =>
      refine Exec.frames_bind (frames_getDeployment htick env _ _) fun deployment ↦ ?_
      refine Exec.frames_ite (Exec.frames_pure _) (Exec.frames_ite (Exec.frames_pure _) ?_)
      refine Exec.frames_bind (frames_getPods htick env _ _) fun pods ↦ ?_
      cases pods with
      | nil => exact Exec.frames_pure _
      | cons pod rest => exact Exec.frames_pure _
    · split
      · exact Exec.frames_bind (frames_getPodHealth htick env _ _) fun _ ↦ Exec.frames_pure _
      · exact Exec.frames_pure _

theorem frames_staleReason {ω : Type} {f : World → ω}
    (htick : ∀ w n, f { w with tick := n } = f w)
    (htrace : ∀ w t, f { w with trace := t } = f w) (env : Env) (approvalId : Nat)
    (approval : Approval) (incident : Incident) (proposal : ActionProposal)
    (principal : Principal) :
    Exec.Frames f (staleReason env approvalId approval incident proposal principal) := by
  refine Exec.frames_bind (frames_ask _ htick) fun now ↦ ?_
  cases rowReason now approval incident proposal with
  | some reason => exact Exec.frames_pure _
  | none =>
    refine Exec.frames_bind (frames_query env _ htick) fun executed ↦ ?_
    refine Exec.frames_ite (Exec.frames_pure _) (Exec.frames_ite (Exec.frames_pure _) ?_)
    refine Exec.frames_bind (frames_liveTarget htick env proposal) fun target ↦ ?_
    cases target.staleReason with
    | some reason => exact Exec.frames_pure _
    | none =>
      refine Exec.frames_bind (frames_query env _ htick) fun latest ↦ ?_
      refine Exec.frames_ite (Exec.frames_pure _) ?_
      cases proposal.riskCalculation.factors with
      | none => exact Exec.frames_pure _
      | some factors =>
        refine Exec.frames_bind (Exec.frames_ofExcept _) fun input ↦ ?_
        exact Exec.frames_bind (frames_evaluate env _ htick htrace) fun _ ↦ Exec.frames_pure _

/-- The guard: no reason means the request is current. -/
theorem staleReason_spec (env : Env) (now : Nat) (hnow : ∀ w, env.now w = now) (db : Database)
    (approvalId : Nat) (approval : Approval) (incident : Incident) (proposal : ActionProposal)
    (principal : Principal) :
    Exec.Triple (fun w ↦ w.db = db)
      (staleReason env approvalId approval incident proposal principal)
      (fun reason w ↦ reason = none →
        Current env now db approvalId approval incident proposal principal w.trace)
      (fun _ _ ↦ True) := by
  unfold staleReason
  refine Exec.Triple.bind (Q := fun t w ↦ t = now ∧ w.db = db) ?_ fun t ↦ ?_
  · intro w hw
    exact ⟨hnow w, hw⟩
  split
  · exact Exec.Triple.pure fun _ _ h ↦ by cases h
  next hrow =>
  refine Exec.Triple.bind (Q := fun executed w ↦ t = now ∧
    executed = db.executions.any (·.proposalId = approval.proposalId) ∧ w.db = db) ?_
    fun executed ↦ ?_
  · exact (query_spec env _ db).and_pure
  refine Exec.Triple.ite (fun _ ↦ Exec.Triple.pure fun _ _ h ↦ by cases h) fun hexec ↦ ?_
  refine Exec.Triple.ite (fun _ ↦ Exec.Triple.pure fun _ _ h ↦ by cases h) fun hdigest ↦ ?_
  refine Exec.Triple.bind (Q := fun _ w ↦ (t = now ∧
    executed = db.executions.any (·.proposalId = approval.proposalId)) ∧ w.db = db) ?_
    fun target ↦ ?_
  · refine Exec.Triple.mono
      ((frames_liveTarget (f := World.db) (fun _ _ ↦ rfl) env proposal).returns
        (· = db)).and_pure ?_ (fun _ _ h ↦ h) (fun _ _ _ ↦ trivial)
    intro w hw
    exact ⟨⟨hw.1, hw.2.1⟩, hw.2.2⟩
  split
  · exact Exec.Triple.pure fun _ _ h ↦ by cases h
  refine Exec.Triple.bind (Q := fun latest w ↦ (t = now ∧
    executed = db.executions.any (·.proposalId = approval.proposalId)) ∧
    latest = db.policyDecisions.latest (·.proposalId = approval.proposalId) ∧ w.db = db) ?_
    fun latest ↦ ?_
  · exact (query_spec env _ db).and_pure
  refine Exec.Triple.ite (fun _ ↦ Exec.Triple.pure fun _ _ h ↦ by cases h) fun hlatest ↦ ?_
  split
  · exact Exec.Triple.pure fun _ _ h ↦ by cases h
  next factors _ =>
  intro w ⟨⟨ht, hex⟩, hl, _⟩
  rw [Exec.run_bind, Exec.run_ofExcept]
  cases hinput : reviewInput approvalId approval incident proposal factors target principal with
  | error e => trivial
  | ok input =>
    intro hnone
    have hfields := reviewInput_fields hinput
    have hallowed : (env.opa w input).allowed := by
      simpa [policyReason, Exec.run_bind] using hnone
    subst ht
    obtain ⟨hexp, hstate, hstatus⟩ := rowReason_eq_none hrow
    exact {
      not_expired := hexp
      awaiting := hstate
      proposal_pending := hstatus
      unexecuted := by simpa [hex] using hexec
      digest_current := not_not.mp hdigest
      requires_approval := by
        rw [not_not, hl, Option.any_eq_true] at hlatest
        exact hlatest
      evaluated := ⟨input, env.opa w input, by simp, hallowed,
        hfields.1, hfields.2.1⟩ }

/-! ### What each ending does to the approvals -/

section Endings

variable (env : Env) (settings : Settings) (approvalId : Nat) (approval : Approval)
variable (t : Table Approval) (p : List Event → Prop)

private theorem changeIncidentState_keeps (target : IncidentState) (actor : String)
    (htarget : target ≠ .awaitingApproval) :
    Exec.Triple (fun w ↦ w.db.approvals = t ∧ p w.trace)
      (changeIncidentState env settings approval.incidentId target actor)
      (fun _ w ↦ w.db.approvals = t ∧ p w.trace) (fun _ _ ↦ True) :=
  (frames_changeIncidentState (f := fun w ↦ (w.db.approvals, w.trace)) (fun _ _ ↦ rfl) env
    settings approval.incidentId target actor {} false (fun _ _ ↦ rfl) (fun _ _ _ ↦ rfl)
    fun h ↦ absurd h htarget).returns fun v ↦ v.1 = t ∧ p v.2

private theorem flush_keeps :
    Exec.Triple (fun w ↦ w.db.approvals = t ∧ p w.trace) (flush env)
      (fun _ w ↦ w.db.approvals = t ∧ p w.trace) (fun _ _ ↦ True) :=
  (frames_flush (f := fun w ↦ (w.db.approvals, w.trace)) env fun _ _ ↦ rfl).returns
    fun v ↦ v.1 = t ∧ p v.2

theorem reject_spec (principal : Principal) (comment : Option String) :
    Exec.Triple (fun w ↦ w.db.approvals = t)
      (reject env settings approvalId approval principal comment)
      (fun _ w ↦ ∃ now,
        w.db.approvals = t.update approvalId (decided .rejected principal comment now))
      (fun _ _ ↦ True) := by
  unfold reject
  refine Exec.Triple.bind (Q := fun _ w ↦ w.db.approvals = t)
    (triple_write fun w hw ↦ hw) fun _ ↦ ?_
  refine Exec.Triple.bind (Q := fun _ w ↦ w.db.approvals = t)
    (triple_ask fun w hw ↦ hw) fun now ↦ ?_
  have hkeep := changeIncidentState_keeps env settings approval
    (t.update approvalId (decided .rejected principal comment now)) (fun _ ↦ True) .blocked
    principal.login (by decide)
  have hflush := flush_keeps env
    (t.update approvalId (decided .rejected principal comment now)) fun _ ↦ True
  refine Exec.Triple.bind
    (triple_write fun w hw ↦ ⟨congrArg (Table.update · approvalId _) hw, trivial⟩) fun _ ↦ Exec.Triple.bind hkeep fun _ ↦ Exec.Triple.bind hflush fun _ ↦
    hflush.mono (fun _ h ↦ h) (fun _ w h ↦ ⟨now, h.1⟩) fun _ _ h ↦ h

theorem refuseStale_spec (incident : Incident) (reason : String) :
    Exec.Triple (fun w ↦ w.db.approvals = t)
      (refuseStale env settings approvalId approval incident reason)
      (fun _ w ↦ ∃ f : Approval → Approval, w.db.approvals = t.update approvalId f ∧
        ∀ a, (f a).decision = .expired ∨ (f a).decision = .invalidated)
      (fun _ _ ↦ True) := by
  unfold refuseStale
  refine Exec.Triple.bind (Q := fun _ w ↦ w.db.approvals = t)
    (triple_write fun w hw ↦ hw) fun _ ↦ ?_
  refine Exec.Triple.bind (Q := fun _ w ↦ ∃ f : Approval → Approval,
    w.db.approvals = t.update approvalId f ∧
      ∀ a, (f a).decision = .expired ∨ (f a).decision = .invalidated) ?_ fun _ ↦ ?_
  · intro w hw
    refine ⟨_, congrArg (Table.update · approvalId _) hw, fun a ↦ ?_⟩
    simp only
    split
    · exact .inl rfl
    · exact .inr rfl
  intro w ⟨f, hf, hdec⟩
  have hkeep := changeIncidentState_keeps env settings approval (t.update approvalId f)
    (fun _ ↦ True) .blocked "cloudward-approval-guard" (by decide)
  have hflush := flush_keeps env (t.update approvalId f) fun _ ↦ True
  have hrest := Exec.Triple.bind
    (Exec.Triple.when (c := incident.state = .awaitingApproval) (fun _ ↦ hkeep)
      fun _ _ h ↦ h)
    fun _ ↦ Exec.Triple.bind hflush fun _ ↦
      hflush.mono (fun _ h ↦ h)
        (Q := fun _ w ↦ ∃ f : Approval → Approval, w.db.approvals = t.update approvalId f ∧
          ∀ a, (f a).decision = .expired ∨ (f a).decision = .invalidated)
        (fun _ w h ↦ ⟨f, h.1, hdec⟩) fun _ _ h ↦ h
  exact hrest w ⟨hf, trivial⟩

theorem approve_spec (principal : Principal) (comment : Option String) :
    Exec.Triple (fun w ↦ w.db.approvals = t ∧ p w.trace)
      (approve env settings approvalId approval principal comment)
      (fun _ w ↦ (∃ now,
        w.db.approvals = t.update approvalId (decided .approved principal comment now)) ∧
          p w.trace)
      (fun _ _ ↦ True) := by
  unfold approve
  refine Exec.Triple.bind (Q := fun _ w ↦ w.db.approvals = t ∧ p w.trace)
    (triple_ask fun w hw ↦ hw) fun now ↦ ?_
  have hkeep := changeIncidentState_keeps env settings approval
    (t.update approvalId (decided .approved principal comment now)) p .policyEvaluation
    principal.login (by decide)
  have hflush := flush_keeps env
    (t.update approvalId (decided .approved principal comment now)) p
  refine Exec.Triple.bind
    (triple_write fun w hw ↦ ⟨congrArg (Table.update · approvalId _) hw.1, hw.2⟩)
    fun _ ↦ Exec.Triple.bind (triple_write fun w hw ↦ hw) fun _ ↦
    Exec.Triple.bind hkeep fun _ ↦ Exec.Triple.bind hflush fun _ ↦
    hflush.mono (fun _ h ↦ h) (fun _ w h ↦ ⟨⟨now, h.1⟩, h.2⟩) fun _ _ h ↦ h

end Endings

/-! ### One decision -/

private theorem settle_spec (env : Env) (now : Nat) (hnow : ∀ w, env.now w = now)
    (settings : Settings) (db : Database) (approvalId : Nat) (approval : Approval)
    (incident : Incident) (proposal : ActionProposal) (decision : ApprovalDecision)
    (principal : Principal) (comment : Option String) :
    Exec.Triple (fun w ↦ w.db = db)
      (settle env settings approvalId approval incident proposal decision principal comment)
      (fun _ w ↦ ∃ f : Approval → Approval, w.db.approvals = db.approvals.update approvalId f ∧
        (∀ a, (f a).decision ≠ .pending) ∧
        ((∃ a, (f a).decision = .approved) →
          Current env now db approvalId approval incident proposal principal w.trace ∧
            hasPermission principal.role
              (getActionMetadata proposal.actionType).requiredPermission ∧
            proposal.riskScore < 70))
      (fun _ _ ↦ True) := by
  unfold settle
  refine Exec.Triple.ite (fun _ ↦ ?_) fun _ ↦ ?_
  · refine (reject_spec env settings approvalId approval db.approvals principal comment).mono
      (fun w h ↦ congrArg Database.approvals h) ?_ fun _ _ h ↦ h
    rintro _ w ⟨n, hn⟩
    exact ⟨_, hn, fun a ↦ by simp [decided], fun ⟨a, ha⟩ ↦ by simp [decided] at ha⟩
  refine Exec.Triple.bind (Q := fun _ w ↦ hasPermission principal.role
    (getActionMetadata proposal.actionType).requiredPermission ∧ w.db = db)
    (Exec.Triple.require (fun h _ hw ↦ ⟨h, hw⟩) fun _ _ _ ↦ trivial) fun _ ↦ ?_
  refine Exec.Triple.bind (Q := fun _ w ↦ (hasPermission principal.role
    (getActionMetadata proposal.actionType).requiredPermission ∧ proposal.riskScore < 70) ∧
    w.db = db)
    (Exec.Triple.require (fun h _ hw ↦ ⟨⟨hw.1, h⟩, hw.2⟩) fun _ _ _ ↦ trivial) fun _ ↦ ?_
  have hguard := staleReason_spec env now hnow db approvalId approval incident proposal principal
  have hdb := (frames_staleReason (f := World.db) (fun _ _ ↦ rfl) (fun _ _ ↦ rfl) env
    approvalId approval incident proposal principal).returns (· = db)
  refine Exec.Triple.bind (hguard.and hdb |>.mono (fun w h ↦ ⟨h, h⟩) (fun _ _ h ↦ h)
    fun _ _ _ ↦ trivial).and_pure fun reason ↦ ?_
  cases reason with
  | some reason =>
    refine (refuseStale_spec env settings approvalId approval db.approvals incident reason).mono
      (fun w h ↦ congrArg Database.approvals h.2.2) ?_ fun _ _ h ↦ h
    rintro _ w ⟨f, hf, hdec⟩
    refine ⟨f, hf, fun a ↦ ?_, fun ⟨a, ha⟩ ↦ ?_⟩
    · rcases hdec a with h | h <;> simp [h]
    · rcases hdec a with h | h <;> simp [h] at ha
  | none =>
    refine (approve_spec env settings approvalId approval db.approvals
      (fun trace ↦ (hasPermission principal.role
        (getActionMetadata proposal.actionType).requiredPermission ∧ proposal.riskScore < 70) ∧
        Current env now db approvalId approval incident proposal principal trace)
      principal comment).mono
      (fun w h ↦ ⟨congrArg Database.approvals h.2.2, h.1, h.2.1 rfl⟩) ?_ fun _ _ h ↦ h
    rintro _ w ⟨⟨n, hn⟩, hok, hcur⟩
    exact ⟨_, hn, fun a ↦ by simp [decided], fun _ ↦ ⟨hcur, hok⟩⟩

/-- A decision that returns has closed the approval, which was pending, and has approved it
only if the request was current and the role and the risk score allowed it. -/
theorem decide_spec (env : Env) (now : Nat) (hnow : ∀ w, env.now w = now)
    (settings : Settings) (db : Database) (approvalId : Nat) (decision : ApprovalDecision)
    (principal : Principal) (comment : Option String) :
    Exec.Triple (fun w ↦ w.db = db)
      (decide env settings approvalId decision principal comment)
      (fun _ w ↦ ∃ approval, db.approvals[approvalId]? = some approval ∧
        approval.decision = .pending ∧ ∃ f : Approval → Approval,
          w.db.approvals = db.approvals.update approvalId f ∧
          (∀ a, (f a).decision ≠ .pending) ∧
          ((f approval).decision = .approved → ∃ incident proposal,
            MayApprove env now db approvalId approval incident proposal principal w.trace))
      (fun _ _ ↦ True) := by
  unfold decide
  refine Exec.Triple.bind (Q := fun _ w ↦ w.db = db)
    (Exec.Triple.require (fun _ _ h ↦ h) fun _ _ _ ↦ trivial) fun _ ↦ ?_
  refine Exec.Triple.bind (query_spec env _ db) fun row ↦ ?_
  cases row with
  | none => exact Exec.Triple.throw fun _ _ ↦ trivial
  | some approval =>
    refine Exec.Triple.bind (Q := fun _ w ↦ (some approval = db.approvals[approvalId]? ∧
      approval.decision = .pending) ∧ w.db = db)
      (Exec.Triple.require (fun hp w h ↦ ⟨⟨h.1, hp⟩, h.2⟩) fun _ _ _ ↦ trivial) fun _ ↦ ?_
    refine Exec.Triple.bind (query_spec env _ db).and_pure fun incident ↦ ?_
    refine Exec.Triple.bind (Q := fun proposal w ↦ ((some approval = db.approvals[approvalId]? ∧
      approval.decision = .pending) ∧ incident = db.incidents[approval.incidentId]?) ∧
      proposal = db.proposals[approval.proposalId]? ∧ w.db = db)
      ((query_spec env _ db).and_pure.mono (fun w h ↦ ⟨⟨h.1, h.2.1⟩, h.2.2⟩)
        (fun _ _ h ↦ h) fun _ _ h ↦ h) fun proposal ↦ ?_
    cases incident with
    | none => exact Exec.Triple.bind (Q := fun _ _ ↦ True) (fun w _ ↦ trivial) fun _ ↦
        Exec.Triple.throw fun _ _ ↦ trivial
    | some incident =>
      cases proposal with
      | none => exact Exec.Triple.bind (Q := fun _ _ ↦ True) (fun w _ ↦ trivial) fun _ ↦
          Exec.Triple.throw fun _ _ ↦ trivial
      | some proposal =>
        intro w ⟨⟨⟨ha, hpending⟩, hi⟩, hp, hdb⟩
        have hsettle := settle_spec env now hnow settings db approvalId approval incident
          proposal decision principal comment w hdb
        revert hsettle
        rcases (settle env settings approvalId approval incident proposal decision principal
          comment).run w with ⟨e | _, w'⟩
        · exact fun _ ↦ trivial
        · rintro ⟨f, hf, hdec, happ⟩
          refine ⟨approval, ha.symm, hpending, f, hf, hdec, fun h ↦ ?_⟩
          obtain ⟨hcur, hperm, hrisk⟩ := happ ⟨approval, h⟩
          exact ⟨incident, proposal, {
            hcur with
            approval_row := ha.symm
            incident_row := hi.symm
            proposal_row := hp.symm
            pending := hpending
            permitted := hperm
            low_risk := hrisk }⟩

section Frames

variable {ω : Type} {f : World → ω} (htick : ∀ w n, f { w with tick := n } = f w)
variable (hdb : ∀ w d, f { w with db := d } = f w)
variable (hactive : ∀ w g, f { w with activeIncidents := g } = f w)
variable (htrace : ∀ w t, f { w with trace := t } = f w)
include htick hdb hactive

private theorem frames_move (env : Env) (settings : Settings) (incidentId : Nat)
    {target : IncidentState} (htarget : target ≠ .awaitingApproval) (actor : String) :
    Exec.Frames f (changeIncidentState env settings incidentId target actor) :=
  frames_changeIncidentState htick env settings incidentId target actor {} false
    (fun w _ ↦ hdb w _) (fun _ ↦ hactive) fun h ↦ absurd h htarget

include htrace

/-- A decision changes nothing but the session's rows, the count of open incidents and the
trace. -/
theorem frames_decide (env : Env) (settings : Settings) (approvalId : Nat)
    (decision : ApprovalDecision) (principal : Principal) (comment : Option String) :
    Exec.Frames f (decide env settings approvalId decision principal comment) := by
  have hmove {target : IncidentState} (h : target ≠ .awaitingApproval) (actor : String)
      (incidentId : Nat) :
      Exec.Frames f (changeIncidentState env settings incidentId target actor) :=
    frames_move htick hdb hactive env settings incidentId h actor
  have hflush : Exec.Frames f (flush env) := frames_flush env htick
  have hwrite (g : Database → Database) : Exec.Frames f (write g) := frames_write g hdb
  have hnow : Exec.Frames f (ask env.now) := frames_ask _ htick
  have hinvalidate (reason : String) : Exec.Frames f (invalidate env approvalId reason) :=
    Exec.frames_bind hnow fun _ ↦ hwrite _
  refine Exec.frames_bind (Exec.frames_require _ _) fun _ ↦
    Exec.frames_bind (frames_query env _ htick) fun row ↦ ?_
  cases row with
  | none => exact Exec.frames_throw _
  | some approval =>
    refine Exec.frames_bind (Exec.frames_require _ _) fun _ ↦
      Exec.frames_bind (frames_query env _ htick) fun incident ↦
      Exec.frames_bind (frames_query env _ htick) fun proposal ↦ ?_
    cases incident with
    | none => exact Exec.frames_bind (hinvalidate _) fun _ ↦ Exec.frames_throw _
    | some incident =>
      cases proposal with
      | none => exact Exec.frames_bind (hinvalidate _) fun _ ↦ Exec.frames_throw _
      | some proposal =>
        refine Exec.frames_ite ?_ ?_
        · exact Exec.frames_bind (hwrite _) fun _ ↦ Exec.frames_bind hnow fun _ ↦
            Exec.frames_bind (hwrite _) fun _ ↦ Exec.frames_bind (hmove (by decide) _ _) fun _ ↦
            Exec.frames_bind hflush fun _ ↦ hflush
        refine Exec.frames_bind (Exec.frames_require _ _) fun _ ↦
          Exec.frames_bind (Exec.frames_require _ _) fun _ ↦
          Exec.frames_bind (frames_staleReason htick htrace env _ _ _ _ _) fun reason ↦ ?_
        cases reason with
        | some reason =>
          exact Exec.frames_bind (hwrite _) fun _ ↦ Exec.frames_bind (hinvalidate _) fun _ ↦
            Exec.frames_bind (Exec.frames_when fun _ ↦ hmove (by decide) _ _) fun _ ↦
            Exec.frames_bind hflush fun _ ↦ hflush
        | none =>
          exact Exec.frames_bind hnow fun _ ↦ Exec.frames_bind (hwrite _) fun _ ↦
            Exec.frames_bind (hwrite _) fun _ ↦ Exec.frames_bind (hmove (by decide) _ _) fun _ ↦
            Exec.frames_bind hflush fun _ ↦ hflush

end Frames

/-! ### Histories of the committed rows -/

/-- One transaction on the committed rows. -/
inductive StoreEvent
  /-- A decision through the approvals API, at one clock reading. -/
  | decide (env : Env) (settings : Settings) (now : Nat) (approvalId : Nat)
      (decision : ApprovalDecision) (principal : Principal) (comment : Option String)
  /-- A new approval, or the existing one. -/
  | request (env : Env) (settings : Settings) (incidentId proposalId : Nat)
      (requestedBy : String) (reason : Option String)
  /-- Any change of the rows that are not approvals. -/
  | drift (rows : Database)

variable (digest : ApprovalContext → String)

/-- The environment of a decision: one digest function, one clock reading. -/
def decisionEnv (env : Env) (now : Nat) : Env :=
  { env with now := fun _ ↦ now, digest := digest }

/-- The world in which the transaction of a decision ends. -/
def decisionWorld (db : Database) (env : Env) (settings : Settings) (now : Nat)
    (approvalId : Nat) (decision : ApprovalDecision) (principal : Principal)
    (comment : Option String) : World :=
  ((transaction (decisionEnv digest env now)
    (decide (decisionEnv digest env now) settings approvalId decision principal comment)).run
    (start db)).2

/-- The committed rows after a transaction. -/
def storeStep (db : Database) : StoreEvent → Database
  | .decide env settings now approvalId decision principal comment =>
      (decisionWorld digest db env settings now approvalId decision principal
        comment).committed
  | .request env settings incidentId proposalId requestedBy reason =>
      ((transaction { env with digest := digest } do
        let _ ← ensureRuntimeApproval { env with digest := digest } settings incidentId
          proposalId requestedBy reason).run (start db)).2.committed
  | .drift rows => { rows with approvals := db.approvals }

/-- Whether an approval exists and has left PENDING. -/
def isDecided (approvalId : Nat) (db : Database) : Bool :=
  db.approvals[approvalId]?.any (·.decision ≠ .pending)

/-- What a decision's transaction commits: nothing, or a closed approval, approved only under
the guards. -/
theorem decisionWorld_committed (db : Database) (env : Env) (settings : Settings) (now : Nat)
    (approvalId : Nat) (decision : ApprovalDecision) (principal : Principal)
    (comment : Option String) :
    let w := decisionWorld digest db env settings now approvalId decision principal comment
    w.committed = db ∨ ∃ approval, db.approvals[approvalId]? = some approval ∧
      approval.decision = .pending ∧ ∃ f : Approval → Approval,
        w.committed.approvals = db.approvals.update approvalId f ∧
        (∀ a, (f a).decision ≠ .pending) ∧
        ((f approval).decision = .approved → ∃ incident proposal,
          MayApprove (decisionEnv digest env now) now db approvalId approval incident proposal
            principal w.trace) := by
  intro w
  have hframe := frames_decide (f := World.committed) (fun _ _ ↦ rfl) (fun _ _ ↦ rfl)
    (fun _ _ ↦ rfl) (fun _ _ ↦ rfl) (decisionEnv digest env now) settings approvalId decision
    principal comment
  rcases committed_transaction (decisionEnv digest env now) hframe (start db) with
    h | ⟨w', hrun, hcommitted, htrace⟩
  · exact .inl h
  · have hspec := (decide_spec (decisionEnv digest env now) now (fun _ ↦ rfl) settings db
      approvalId decision principal comment).of_ok (s := start db) rfl hrun
    obtain ⟨approval, hrow, hpending, f, hf, hdec, happ⟩ := hspec
    refine .inr ⟨approval, hrow, hpending, f, ?_, hdec, fun h ↦ ?_⟩
    · exact (congrArg Database.approvals hcommitted).trans hf
    · obtain ⟨incident, proposal, hmay⟩ := happ h
      obtain ⟨input, result, hmem, hrest⟩ := hmay.evaluated
      refine ⟨incident, proposal, { hmay with evaluated := ⟨input, result, ?_, hrest⟩ }⟩
      exact htrace ▸ List.mem_cons_of_mem _ hmem

private theorem ensureRuntimeApproval_spec (env : Env) (settings : Settings)
    (incidentId proposalId : Nat) (requestedBy : String) (reason : Option String)
    (t : Table Approval) :
    Exec.Triple (fun w ↦ w.db.approvals = t)
      (ensureRuntimeApproval env settings incidentId proposalId requestedBy reason)
      (fun _ w ↦ w.db.approvals = t ∨
        ∃ row : Approval, row.decision = .pending ∧ w.db.approvals = t.insert row)
      (fun _ _ ↦ True) := by
  have hkeep {α : Type} {x : Service α} (hx : Exec.Frames (fun w ↦ w.db.approvals) x)
      (t' : Table Approval) := hx.returns (· = t')
  unfold ensureRuntimeApproval
  refine Exec.Triple.bind (hkeep (frames_query env _ fun _ _ ↦ rfl) t) fun existing ↦ ?_
  cases existing with
  | some entry => exact Exec.Triple.pure fun _ h ↦ .inl h
  | none =>
    refine Exec.Triple.bind (hkeep (frames_loadIncident _) t) fun incident ↦
      Exec.Triple.bind (hkeep (frames_loadProposal _) t) fun proposal ↦
      Exec.Triple.bind (hkeep (frames_ask _ fun _ _ ↦ rfl) t) fun now ↦
      Exec.Triple.bind (hkeep (Exec.frames_read _) t) fun id ↦ ?_
    have hflush := hkeep (frames_flush env fun _ _ ↦ rfl)
      (t.insert (approvalRow env settings incidentId proposalId incident proposal requestedBy
        reason now))
    exact Exec.Triple.bind (Exec.Triple.update fun w h ↦ congrArg (Table.insert · _) h) fun _ ↦
      Exec.Triple.bind hflush fun _ ↦ Exec.Triple.bind hflush fun _ ↦
      Exec.Triple.bind hflush fun _ ↦ Exec.Triple.pure fun _ h ↦ .inr ⟨_, rfl, h⟩

private theorem storeStep_request (db : Database) (env : Env) (settings : Settings)
    (incidentId proposalId : Nat) (requestedBy : String) (reason : Option String) :
    let after := storeStep digest db (.request env settings incidentId proposalId requestedBy
      reason)
    after.approvals = db.approvals ∨
      ∃ row : Approval, row.decision = .pending ∧ after.approvals = db.approvals.insert row := by
  intro after
  have hframe : Exec.Frames World.committed (do
      let _ ← ensureRuntimeApproval { env with digest := digest } settings incidentId
        proposalId requestedBy reason) :=
    Exec.frames_bind (frames_ensureRuntimeApproval (fun _ _ ↦ rfl) _ settings _ _ _ _
      fun _ _ _ ↦ rfl) fun _ ↦ Exec.frames_pure _
  rcases committed_transaction { env with digest := digest } hframe (start db) with
    h | ⟨w', hrun, hcommitted, -⟩
  · exact .inl (congrArg Database.approvals h)
  · have hspec := (Exec.Triple.bind
      (R := fun _ w ↦ w.db.approvals = db.approvals ∨
        ∃ row : Approval, row.decision = .pending ∧ w.db.approvals = db.approvals.insert row)
      (ensureRuntimeApproval_spec { env with digest := digest }
      settings incidentId proposalId requestedBy reason db.approvals)
      fun _ ↦ Exec.Triple.pure fun _ h ↦ h).of_ok (s := start db) rfl hrun
    have hafter : after.approvals = w'.db.approvals := congrArg Database.approvals hcommitted
    rw [hafter]
    exact hspec

/-- A decided approval is never written by a later decision, request or drift. -/
theorem storeStep_of_decided {db : Database} {approvalId : Nat} {row : Approval}
    (hrow : db.approvals[approvalId]? = some row) (hdec : row.decision ≠ .pending)
    (e : StoreEvent) : (storeStep digest db e).approvals[approvalId]? = some row := by
  cases e with
  | drift rows => exact hrow
  | request env settings incidentId proposalId requestedBy reason =>
    rcases storeStep_request digest db env settings incidentId proposalId requestedBy
      reason with h | ⟨row', -, h⟩
    · rw [h]
      exact hrow
    · rw [h]
      exact Table.getElem?_insert_of_some hrow
  | decide env settings now id decision principal comment =>
    rcases decisionWorld_committed digest db env settings now id decision principal
      comment with h | ⟨approval, happ, hpending, f, hf, -, -⟩
    · exact congrArg (fun d : Database ↦ d.approvals[approvalId]?) h |>.trans hrow
    · simp only [storeStep, hf]
      by_cases hid : id = approvalId
      · -- the decided row would have had to be pending
        subst hid
        rw [hrow] at happ
        cases happ
        exact absurd hpending hdec
      · rw [Table.getElem?_update_of_ne _ _ hid]
        exact hrow

/-- An approval that a step makes APPROVED was made so by a decision under the guards. -/
theorem mayApprove_of_storeStep {db : Database} {approvalId : Nat} {row : Approval}
    {e : StoreEvent} (hrow : (storeStep digest db e).approvals[approvalId]? = some row)
    (happ : row.decision = .approved)
    (hnew : ∀ old, db.approvals[approvalId]? = some old → old.decision ≠ .approved) :
    ∃ env settings now decision principal comment approval incident proposal,
      e = .decide env settings now approvalId decision principal comment ∧
      MayApprove (decisionEnv digest env now) now db approvalId approval incident proposal
        principal
        (decisionWorld digest db env settings now approvalId decision principal comment).trace := by
  cases e with
  | drift rows => exact absurd happ (hnew row hrow)
  | request env settings incidentId proposalId requestedBy reason =>
    rcases storeStep_request digest db env settings incidentId proposalId requestedBy
      reason with h | ⟨row', hpending, h⟩
    · rw [h] at hrow
      exact absurd happ (hnew row hrow)
    · rw [h, Table.getElem?_insert_eq_some] at hrow
      rcases hrow with hrow | ⟨-, rfl⟩
      · exact absurd happ (hnew row hrow)
      · rw [hpending] at happ
        cases happ
  | decide env settings now id decision principal comment =>
    rcases decisionWorld_committed digest db env settings now id decision principal
      comment with h | ⟨approval, hold, hpending, f, hf, -, hmay⟩
    · have hrow : db.approvals[approvalId]? = some row := by
        rw [← hrow]
        exact (congrArg (fun d : Database ↦ d.approvals[approvalId]?) h).symm
      exact absurd happ (hnew row hrow)
    · simp only [storeStep, hf] at hrow
      by_cases hid : id = approvalId
      · subst hid
        rw [Table.getElem?_update_self, hold, Option.map_some, Option.some.injEq] at hrow
        subst hrow
        obtain ⟨incident, proposal, hmay⟩ := hmay happ
        exact ⟨env, settings, now, decision, principal, comment, approval, incident, proposal,
          rfl, hmay⟩
      · rw [Table.getElem?_update_of_ne _ _ hid] at hrow
        exact absurd happ (hnew row hrow)

end CloudWard.Approvals
