import CloudWard.Base.Returns
import CloudWard.Remediation.Ending
import CloudWard.Security.Reversal

/-!
# What a removal raises

Where the calls of a removal fail with API exceptions and the program's own errors only, and its
label patch, which nothing wraps (`kubernetes/executor.py:865`), does not fail, a removal raises
the program's own errors only.
-/

namespace CloudWard.Security

open CloudWard.Approvals CloudWard.Db CloudWard.Incidents CloudWard.Kubernetes CloudWard.Logic
  CloudWard.Policies CloudWard.Remediation CloudWard.Remediation.Pipeline Service

/-- The calls about the quarantine of an event fail in ways that are caught. -/
structure Orderly (env : Env) (event : SecurityEvent) (policyName : String) : Prop where
  readPod : ∀ w e, env.readPod w event.ns event.pod = .error e → Handled e
  readPolicy : ∀ w e, env.readPolicy w event.ns policyName = .error e → Handled e
  probeEgress : ∀ w e, env.probeEgress w event.ns event.pod = .error e → Handled e
  refused : ∀ w e, env.request w (.deletePolicy event.ns policyName) = .refused e → Handled e
  lost : ∀ w e, env.request w (.deletePolicy event.ns policyName) = .lost e → Handled e
  patch : ∀ w, env.request w (.patchQuarantineLabel event.ns event.pod none) = .done

variable {env : Env} {settings : Settings} {event : SecurityEvent} {policyName : String}

/-! ### The calls to the cluster -/

private theorem isCloudWard_wrapped {e : Exc} (error : CloudWardError) (he : Handled e) :
    Caught (e.wrapApi error) := by
  rcases he with hapi | hcloud
  · exact Exc.isCloudWard_wrapApi error e hapi
  · cases e with
    | cloudWard error' => rfl
    | api status => rfl
    | transport => cases hcloud
    | database => cases hcloud
    | validation => cases hcloud

/-- A request raises what refuses or loses it. -/
private theorem raises_send_of {m : Mutation} {q : Exc → Prop}
    (hrefused : ∀ w e, env.request w m = .refused e → q e)
    (hlost : ∀ w e, env.request w m = .lost e → q e) : Exec.Raises q (send env m) := by
  intro w _
  have hask : (ask (env.request · m)).run w =
      (.ok (env.request w m), { w with tick := w.tick + 1 }) := rfl
  unfold send
  rw [Exec.run_bind_of_ok hask]
  cases hreply : env.request w m with
  | done => trivial
  | refused e => exact hrefused w e hreply
  | lost e => exact hlost w e hreply

namespace Orderly

variable (h : Orderly env event policyName)
include h

theorem raises_getPodHealth : Exec.Raises Caught (getPodHealth env event.ns event.pod) :=
  Exec.raises_bind (raises_validateName _ _) fun _ ↦
    Exec.raises_bind (raises_validateName _ _) fun _ ↦
    raises_wrapping _ (raises_call h.readPod)

private theorem raises_readQuarantinePolicy :
    Exec.Raises Caught (readQuarantinePolicy env event.ns policyName) := by
  apply Exec.raises_tryCatch (r := Handled)
  · exact Exec.raises_bind (raises_call h.readPolicy) fun _ ↦ Exec.raises_pure _
  intro e he
  apply Exec.raises_ite
  · exact fun _ ↦ Exec.raises_pure _
  · exact fun _ ↦ Exec.raises_throw (isCloudWard_wrapped _ he)

private theorem raises_policyState (quarantineId : String) :
    Exec.Raises Caught (getQuarantinePolicyState env settings event.ns event.pod policyName
      quarantineId) := by
  apply Exec.raises_bind (raises_requireNamespace _)
  intro _
  apply Exec.raises_bind (raises_validateName _ _)
  intro _
  apply Exec.raises_bind (raises_validateName _ _)
  intro _
  apply Exec.raises_bind (raises_validateName _ _)
  intro _
  apply Exec.raises_bind h.raises_readQuarantinePolicy
  intro policy
  exact Exec.raises_bind h.raises_getPodHealth fun _ ↦ Exec.raises_pure _

private theorem raises_probe :
    Exec.Raises Caught (probeControlledSecurityEgress env settings event.ns event.pod) := by
  apply Exec.raises_bind (raises_requireNamespace _)
  intro _
  apply Exec.raises_bind (raises_validateName _ _)
  intro _
  apply Exec.raises_bind h.raises_getPodHealth
  intro pod
  apply Exec.raises_bind (raises_require _)
  intro _
  exact raises_wrapping _ (raises_call h.probeEgress)

private theorem raises_deletion :
    Exec.Raises Caught (tryCatch (send env (.deletePolicy event.ns policyName))
      onDeleteFailure) := by
  apply Exec.raises_tryCatch (r := Handled) (raises_send_of h.refused h.lost)
  intro e he
  apply Exec.raises_ite
  · exact fun _ ↦ Exec.raises_pure _
  · exact fun _ ↦ Exec.raises_throw (isCloudWard_wrapped _ he)

private theorem raises_unlabel :
    Exec.Raises Caught (send env (.patchQuarantineLabel event.ns event.pod none)) := by
  apply raises_send_of
  · intro w e hrefused
    rw [h.patch] at hrefused
    cases hrefused
  · intro w e hlost
    rw [h.patch] at hlost
    cases hlost

private theorem raises_removeQuarantinePolicy (quarantineId : String) :
    Exec.Raises Caught (removeQuarantinePolicy env settings event.ns event.pod policyName
      quarantineId) := by
  apply Exec.raises_bind (raises_requireNamespace _)
  intro _
  apply Exec.raises_bind (raises_validateName _ _)
  intro _
  apply Exec.raises_bind (raises_validateName _ _)
  intro _
  apply Exec.raises_bind (raises_validateName _ _)
  intro _
  apply Exec.raises_bind (h.raises_policyState _)
  intro state
  apply Exec.raises_bind (Exec.raises_when fun _ ↦ h.raises_deletion)
  intro _
  exact Exec.raises_bind h.raises_unlabel fun _ ↦ h.raises_policyState _

private theorem raises_waitForRelease :
    Exec.Raises Caught (waitForRelease env settings event policyName) := by
  have hcheck : Exec.Raises Caught (checkRelease env settings event policyName) :=
    Exec.raises_bind (h.raises_policyState _) fun _ ↦
      Exec.raises_bind h.raises_probe fun _ ↦ Exec.raises_pure _
  apply Exec.raises_bind raises_ask
  intro left
  induction left with
  | zero => exact hcheck
  | succ left ih =>
    apply Exec.raises_bind hcheck
    intro latest
    exact Exec.raises_ite (fun _ ↦ Exec.raises_pure _) fun _ ↦ ih

end Orderly

/-! ### The rows -/

/-- An incident that is there can be loaded. -/
private theorem triple_loadIncident_of_isSome {incidentId : Nat} :
    Exec.Triple (fun w ↦ (w.db.incidents[incidentId]?).isSome) (loadIncident incidentId)
      (fun _ w ↦ (w.db.incidents[incidentId]?).isSome) fun e _ ↦ Caught e := by
  intro w hw
  obtain ⟨incident, hrow⟩ := Option.isSome_iff_exists.mp hw
  unfold loadIncident
  rw [Exec.run_bind_of_ok (Exec.run_read _ w), hrow]
  exact hw

/-- Where no statement fails, an incident that is there is resolved or one of the program's own
errors is raised. -/
private theorem triple_resolve (hq : Quiet env) {incidentId : Nat} (actor : String) :
    Exec.Triple (fun w ↦ (w.db.incidents[incidentId]?).isSome)
      (changeIncidentState env settings incidentId .resolved actor) (fun _ _ ↦ True)
      fun e _ ↦ Caught e := by
  apply Exec.Triple.bind triple_loadIncident_of_isSome
  intro incident
  apply Exec.Raises.from
  apply Exec.raises_when
  intro _
  have htransition : Exec.Raises Caught (checkTransition incident.state .resolved) := by
    apply Exec.raises_bind _ fun _ ↦ Exec.raises_pure _
    apply Exec.raises_ofExcept
    intro e he
    unfold transitionIncident at he
    split at he
    · cases he
    · cases he
      rfl
  apply Exec.raises_bind (Exec.raises_when fun _ ↦ htransition)
  intro _
  apply Exec.raises_bind raises_ask
  intro now
  apply Exec.raises_bind (Exec.raises_update _)
  intro _
  apply Exec.raises_bind (Exec.raises_when fun _ ↦ Exec.raises_update _)
  intro _
  apply Exec.raises_bind (triple_flush_quiet hq fun _ _ h ↦ h)
  intro _
  apply Exec.raises_bind (triple_flush_quiet hq fun _ _ h ↦ h)
  intro _
  apply Exec.raises_bind
  · exact Exec.raises_when fun htarget ↦ absurd htarget (by decide)
  intro _
  apply Exec.raises_bind
  · apply Exec.raises_when
    intro _ w _
    obtain ⟨n, hrun⟩ := reaches_captureTerminalIncident hq w
    rw [hrun]
    trivial
  · exact fun _ ↦ triple_flush_quiet hq fun _ _ h ↦ h

/-- The next removal of an incident's quarantine has a key of its own. -/
def FreshKey (db : Database) (s : Subject) : Prop :=
  ∀ e ∈ db.executions, e.idempotencyKey ≠ some (.quarantine s.incidentId .removeQuarantine
    s.event.ns s.event.pod (highestAttempt db s.incidentId + 1))

/-- What a removal needs of the rows: the incident of its event, and an attempt of its own. -/
def Started (s : Subject) (executions : Table ActionExecution) (incidents : Table Incident) :
    Prop :=
  (incidents[s.incidentId]?).isSome ∧ FreshKey { executions := executions } s

/-- The next attempt of an incident violates no constraint where its key is fresh. -/
private theorem executionIsUnique_of_freshKey {db : Database} {s : Subject} {proposalId : Nat}
    (hfresh : FreshKey db s)
    (h : 1 ≤ highestAttempt db s.incidentId + 1 ∧ highestAttempt db s.incidentId + 1 ≤ 3) :
    executionIsUnique db.executions
      (executionRow s proposalId .removeQuarantine (highestAttempt db s.incidentId + 1) h) := by
  intro e he
  have hle := attempt_le_highestAttempt he
  constructor
  · intro heq
    simp only [executionRow, Prod.mk.injEq] at heq
    rw [heq.1] at hle
    omega
  · exact fun _ ↦ hfresh e he

/-- A program that leaves executions and incidents alone keeps what a removal needs. -/
private theorem triple_started {α : Type} {y : Service α} {s : Subject}
    (hy : Exec.Frames (fun w ↦ (w.db.executions, w.db.incidents)) y)
    (hraises : Exec.Raises Caught y) :
    Exec.Triple (fun w ↦ Started s w.db.executions w.db.incidents) y
      (fun _ w ↦ Started s w.db.executions w.db.incidents) fun e _ ↦ Caught e :=
  (hy.raises hraises fun o ↦ Started s o.1 o.2).mono (fun _ h ↦ h) (fun _ _ h ↦ h)
    fun _ _ h ↦ h.1

private theorem triple_newExecution (hq : Quiet env) {s : Subject} (proposalId : Nat) :
    Exec.Triple (fun w ↦ Started s w.db.executions w.db.incidents)
      (newExecution env s proposalId .removeQuarantine)
      (fun _ w ↦ (w.db.incidents[s.incidentId]?).isSome) fun e _ ↦ Caught e := by
  apply Exec.Triple.bind (Q := fun highest w ↦ Started s w.db.executions w.db.incidents ∧
    highest = highestAttempt w.db s.incidentId)
  · apply Exec.Triple.bind
    · exact triple_started (frames_flush env fun _ _ ↦ rfl) (triple_flush_quiet hq fun _ _ h ↦ h)
    · exact fun _ ↦ Exec.Triple.read fun _ h ↦ ⟨h, rfl⟩
  intro highest
  split
  · next hhighest =>
    apply Exec.Triple.bind (Q := fun executions w ↦
      ((w.db.incidents[s.incidentId]?).isSome ∧ executionIsUnique executions
        (executionRow s proposalId .removeQuarantine (highest + 1)
          ⟨Nat.le_add_left 1 _, hhighest⟩)))
    · apply Exec.Triple.read
      rintro w ⟨⟨hincident, hfresh⟩, rfl⟩
      exact ⟨hincident, executionIsUnique_of_freshKey hfresh _⟩
    intro executions
    apply Exec.Triple.bind (Q := fun _ w ↦ (w.db.incidents[s.incidentId]?).isSome)
    · exact Exec.Triple.require (fun _ _ h ↦ h.1) fun hnot _ h ↦ absurd h.2 hnot
    intro _
    apply Exec.Triple.bind (Q := fun _ w ↦ (w.db.incidents[s.incidentId]?).isSome)
    · exact Exec.Triple.update fun _ h ↦ h
    intro _
    apply Exec.Triple.bind (Q := fun _ w ↦ (w.db.incidents[s.incidentId]?).isSome)
    · have hflush : Exec.Frames World.db (flush env) := frames_flush env fun _ _ ↦ rfl
      exact (hflush.raises (triple_flush_quiet hq fun _ _ h ↦ h) fun db ↦
        (db.incidents[s.incidentId]?).isSome = true).mono (fun _ h ↦ h) (fun _ _ h ↦ h)
        fun _ _ h ↦ h.1
    · exact fun _ ↦ Exec.Triple.pure fun _ h ↦ h
  · exact Exec.Triple.throw fun _ _ ↦ rfl

/-- A program that leaves incidents alone keeps the incident of a removal. -/
private theorem triple_present {α : Type} {y : Service α} {incidentId : Nat}
    (hy : Exec.Frames (fun w ↦ w.db.incidents) y) (hraises : Exec.Raises Caught y) :
    Exec.Triple (fun w ↦ (w.db.incidents[incidentId]?).isSome) y
      (fun _ w ↦ (w.db.incidents[incidentId]?).isSome) fun e _ ↦ Caught e :=
  (hy.raises hraises fun t ↦ (t[incidentId]?).isSome = true).mono (fun _ h ↦ h)
    (fun _ _ h ↦ h) fun _ _ h ↦ h.1

private theorem triple_releases (hq : Quiet env) {c : Containment}
    (h : Orderly env c.subject.event c.policyName) (executionId : Nat) (actor : String) :
    Exec.Triple (fun w ↦ (w.db.incidents[c.subject.incidentId]?).isSome)
      (release env settings c executionId actor) (fun _ _ ↦ True) fun e _ ↦ Caught e := by
  have hflush : Exec.Triple (fun _ ↦ True) (flush env) (fun _ _ ↦ True) fun e _ ↦ Caught e :=
    triple_flush_quiet hq fun _ _ h ↦ h
  apply Exec.Triple.bind
  · apply triple_present _ (h.raises_removeQuarantinePolicy _)
    exact frames_removeQuarantinePolicy (fun _ _ ↦ rfl) (fun _ _ ↦ rfl) (fun _ _ ↦ rfl) env
      settings _ _ _ _
  intro _
  apply Exec.Triple.bind
  · apply triple_present _ h.raises_waitForRelease
    have hwaits : Exec.Frames (seen fun db : Database ↦ db.incidents)
        (waitForRelease env settings c.subject.event c.policyName) :=
      frames_seen_waitForRelease env settings c.subject.event c.policyName
    exact fun w ↦ congrArg Prod.fst (hwaits w)
  intro verification
  apply Exec.Triple.bind (triple_present (Exec.frames_require _ _) (raises_require _))
  intro _
  apply Exec.Triple.bind
  · apply triple_present
    · exact Exec.frames_bind (Exec.frames_update fun _ ↦ rfl) fun _ ↦
        Exec.frames_update fun _ ↦ rfl
    · exact Exec.raises_bind (Exec.raises_update _) fun _ ↦ Exec.raises_update _
  intro _
  apply Exec.Triple.bind
  · exact triple_present (Exec.frames_update fun _ ↦ rfl) (Exec.raises_update _)
  intro _
  apply Exec.Triple.bind
  · exact triple_present (Exec.frames_update fun _ ↦ rfl) (Exec.raises_update _)
  intro _
  apply Exec.Triple.bind
  · exact triple_present (Exec.frames_update fun _ ↦ rfl) (Exec.raises_update _)
  intro _
  apply Exec.Triple.bind triple_loadIncident_of_isSome
  intro incident
  apply Exec.Triple.bind (Q := fun _ _ ↦ True)
  · apply Exec.Triple.when
    · intro _
      apply Exec.Triple.bind (Q := fun _ w ↦ (w.db.incidents[c.subject.incidentId]?).isSome)
      · apply Exec.Triple.update
        intro w hw
        obtain ⟨row, hrow⟩ := Option.isSome_iff_exists.mp hw
        simp only [Table.getElem?_update_self, hrow, Option.map_some, Option.isSome_some]
      · exact fun _ ↦ triple_resolve hq actor
    · exact fun _ _ _ ↦ trivial
  intro _
  apply Exec.Triple.bind hflush
  intro _
  apply Exec.Triple.bind (Q := fun _ _ ↦ True)
  · exact Exec.Triple.bind hflush fun _ ↦ Exec.Triple.update fun _ _ ↦ trivial
  intro _
  exact Exec.Triple.bind hflush fun _ ↦ Exec.Triple.pure fun _ _ ↦ trivial

private theorem triple_finishRemoval (hq : Quiet env) {c : Containment}
    (h : Orderly env c.subject.event c.policyName) (actor : String) :
    Exec.Triple (fun w ↦ Started c.subject w.db.executions w.db.incidents)
      (finishRemoval env settings c actor) (fun _ _ ↦ True) fun e _ ↦ Caught e := by
  apply Exec.Triple.bind
  · apply Exec.Triple.bind (Q := fun _ w ↦ Started c.subject w.db.executions w.db.incidents)
    · apply triple_started
      · exact Exec.frames_bind (Exec.frames_update fun _ ↦ rfl) fun _ ↦
          Exec.frames_update fun _ ↦ rfl
      · exact Exec.raises_bind (Exec.raises_update _) fun _ ↦ Exec.raises_update _
    · exact fun _ ↦ triple_newExecution hq _
  intro executionId
  apply Exec.Triple.tryCatch (triple_releases hq h executionId actor)
  intro e
  cases e with
  | cloudWard error =>
    have hends : Exec.Raises Caught (onReleaseFailure env c executionId (.cloudWard error)) := by
      apply Exec.raises_bind
      · exact Exec.raises_bind (Exec.raises_update _) fun _ ↦ Exec.raises_update _
      intro _
      apply Exec.raises_bind (Exec.raises_update _)
      intro _
      apply Exec.raises_bind (triple_flush_quiet hq fun _ _ h ↦ h)
      intro _
      apply Exec.raises_bind
      · exact Exec.raises_bind (triple_flush_quiet hq fun _ _ h ↦ h) fun _ ↦ Exec.raises_update _
      · exact fun _ ↦ Exec.raises_throw rfl
    exact hends.from _
  | api status => exact fun _ hcaught ↦ absurd hcaught Bool.false_ne_true
  | transport => exact fun _ hcaught ↦ absurd hcaught Bool.false_ne_true
  | database => exact fun _ hcaught ↦ absurd hcaught Bool.false_ne_true
  | validation => exact fun _ hcaught ↦ absurd hcaught Bool.false_ne_true

/-! ### The removal of an event's quarantine -/

/-- What fails in the removal of an event's quarantine is caught: its calls are orderly, and its
rows are there. -/
structure Removable (env : Env) (db : Database) (eventId : Nat) : Prop where
  orderly : ∀ event ∈ db.securityEvents[eventId]?, ∀ record ∈ latestRecord db eventId,
    Orderly env event record.2.policyName
  started : ∀ s : Subject, s.ReadFrom eventId db → FreshKey db s
  linked : ∀ event ∈ db.securityEvents[eventId]?, ∀ incidentId ∈ event.incidentId,
    (db.incidents[incidentId]?).isSome

private theorem triple_eventAndIncident_caught (hq : Quiet env) {db : Database} {eventId : Nat}
    (h : Removable env db eventId) :
    Exec.Triple (fun w ↦ w.db = db) (eventAndIncident env eventId)
      (fun s w ↦ w.db = db ∧ s.ReadFrom eventId db) fun e _ ↦ Caught e := by
  apply Exec.Triple.bind (triple_query_quiet hq db _)
  intro row
  apply Exec.Triple.assume
  intro hevent
  cases row with
  | none => exact Exec.Triple.throw fun _ _ ↦ rfl
  | some event =>
    simp only
    split
    · exact Exec.Triple.throw fun _ _ ↦ rfl
    · next incidentId hlinked =>
      apply Exec.Triple.bind (triple_query_quiet hq db _)
      intro row
      apply Exec.Triple.assume
      intro hincident
      cases row with
      | none =>
        have hsome := h.linked event hevent.symm incidentId hlinked
        rw [← hincident] at hsome
        cases hsome
      | some incident =>
        exact Exec.Triple.pure fun _ hw ↦ ⟨hw, rfl, hevent.symm, hlinked, hincident.symm⟩

private theorem frames_started_authoriseRemoval (s : Subject) (recordId : Nat)
    (record : QuarantineRecord) (actor : String) :
    Exec.Frames (fun w ↦ (w.db.executions, w.db.incidents))
      (authoriseRemoval env s recordId record actor) := by
  apply Exec.frames_bind (frames_getPodHealth (fun _ _ ↦ rfl) env _ _)
  intro pod
  apply Exec.frames_bind (frames_evaluate env _ (fun _ _ ↦ rfl) fun _ _ ↦ rfl)
  intro decision
  apply Exec.frames_bind
  · apply Exec.frames_bind (Exec.frames_read _)
    intro _
    exact Exec.frames_bind (Exec.frames_update fun _ ↦ rfl) fun _ ↦ Exec.frames_pure _
  intro proposalId
  apply Exec.frames_bind (frames_flush env fun _ _ ↦ rfl)
  intro _
  apply Exec.frames_bind
  · exact Exec.frames_bind (Exec.frames_update fun _ ↦ rfl) fun _ ↦
      Exec.frames_bind (Exec.frames_update fun _ ↦ rfl) fun _ ↦ frames_flush env fun _ _ ↦ rfl
  intro _
  apply Exec.frames_ite (Exec.frames_pure _)
  apply Exec.frames_bind
  · exact Exec.frames_update fun _ ↦ rfl
  intro _
  apply Exec.frames_bind
  · exact Exec.frames_bind (frames_flush env fun _ _ ↦ rfl) fun _ ↦
      Exec.frames_update fun _ ↦ rfl
  · exact fun _ ↦ Exec.frames_throw _

private theorem raises_authoriseRemoval (hq : Quiet env) {s : Subject} {recordId : Nat}
    {record : QuarantineRecord} (h : Orderly env s.event record.policyName) (actor : String) :
    Exec.Raises Caught (authoriseRemoval env s recordId record actor) := by
  apply Exec.raises_bind h.raises_getPodHealth
  intro pod
  apply Exec.raises_bind
  · exact Exec.raises_bind raises_ask fun _ ↦
      Exec.raises_bind (Exec.raises_update _) fun _ ↦ Exec.raises_pure _
  intro decision
  apply Exec.raises_bind
  · exact Exec.raises_bind (Exec.raises_read _) fun _ ↦
      Exec.raises_bind (Exec.raises_update _) fun _ ↦ Exec.raises_pure _
  intro proposalId
  apply Exec.raises_bind (triple_flush_quiet hq fun _ _ h ↦ h)
  intro _
  apply Exec.raises_bind
  · exact Exec.raises_bind (Exec.raises_update _) fun _ ↦
      Exec.raises_bind (Exec.raises_update _) fun _ ↦ triple_flush_quiet hq fun _ _ h ↦ h
  intro _
  apply Exec.raises_ite
  · exact fun _ ↦ Exec.raises_pure _
  intro _
  apply Exec.raises_bind (Exec.raises_update _)
  intro _
  apply Exec.raises_bind
  · exact Exec.raises_bind (triple_flush_quiet hq fun _ _ h ↦ h) fun _ ↦ Exec.raises_update _
  · exact fun _ ↦ Exec.raises_throw rfl

/-- The containment that a removal works with is of the subject that it read. -/
private theorem yields_subject_authoriseRemoval (s : Subject) (recordId : Nat)
    (record : QuarantineRecord) (actor : String) :
    Exec.Yields (fun c : Containment ↦ c.subject = s ∧ c.policyName = record.policyName)
      (authoriseRemoval env s recordId record actor) := by
  apply Exec.yields_bind
  intro pod
  apply Exec.yields_bind
  intro decision
  apply Exec.yields_bind
  intro proposalId
  apply Exec.yields_bind
  intro _
  apply Exec.yields_bind
  intro _
  split
  · exact Exec.yields_pure ⟨rfl, rfl⟩
  · apply Exec.yields_bind
    intro _
    apply Exec.yields_bind
    exact fun _ ↦ Exec.yields_throw _

/-- **What a removal raises** from rows and with calls that are in order is one of the program's
own errors. -/
theorem triple_removeQuarantine_caught (hq : Quiet env) {db : Database} {eventId : Nat}
    (h : Removable env db eventId) (settings : Settings) (actor : String) :
    Exec.Triple (fun w ↦ w.db = db) (removeQuarantine env settings eventId actor)
      (fun _ _ ↦ True) fun e _ ↦ Caught e := by
  apply Exec.Triple.bind (Q := fun found w ↦ ∀ c : Containment, found = .inr c →
    Started c.subject w.db.executions w.db.incidents ∧
      Orderly env c.subject.event c.policyName)
  · apply Exec.Triple.bind (triple_eventAndIncident_caught hq h)
    intro s
    apply Exec.Triple.assume
    intro hread
    apply Exec.Triple.bind (triple_query_quiet hq db _)
    intro found
    apply Exec.Triple.assume
    intro hfound
    cases found with
    | none => exact Exec.Triple.throw fun _ _ ↦ rfl
    | some found =>
      obtain ⟨recordId, record⟩ := found
      apply Exec.Triple.ite
      · intro _
        apply Exec.Triple.pure
        rintro _ _ _ ⟨⟩
      intro _
      have hrecord : latestRecord db eventId = some (recordId, record) := by
        rw [← hread.eventId_eq]
        exact hfound.symm
      have horderly := h.orderly s.event hread.event (recordId, record) hrecord
      apply Exec.Triple.bind (Q := fun c w ↦ Started s w.db.executions w.db.incidents ∧
        (c.subject = s ∧ c.policyName = record.policyName))
      · have hstarted := triple_started (s := s) (frames_started_authoriseRemoval s recordId
          record actor) (raises_authoriseRemoval hq horderly actor)
        apply (hstarted.yields (yields_subject_authoriseRemoval s recordId record actor)).mono
        · rintro w rfl
          refine ⟨?_, h.started s hread⟩
          rw [hread.incident]
          rfl
        · exact fun _ _ h ↦ h
        · exact fun _ _ h ↦ h
      intro c
      apply Exec.Triple.assume
      rintro ⟨rfl, hpolicy⟩
      apply Exec.Triple.pure
      rintro w hw _ ⟨⟩
      rw [hpolicy]
      exact ⟨hw, horderly⟩
  intro found
  cases found with
  | inl recordId => exact Exec.Triple.pure fun _ _ ↦ trivial
  | inr c =>
    intro w hw
    obtain ⟨hstarted, horderly⟩ := hw c rfl
    exact triple_finishRemoval hq horderly actor w hstarted

end CloudWard.Security
