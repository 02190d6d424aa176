import CloudWard.Security.View

/-!
# A quarantine from opening its record to closing it

An operation is sound where the session's rows could be committed as they are, and busy with
a record from opening it to closing it. It raises while it is busy, and the handlers of
`apply_quarantine` and `remove_quarantine` close the record of an exception of the program's
own. A removal that finds no attempt left raises outside of its handler.
-/

namespace CloudWard.Security

open CloudWard.Db CloudWard.Incidents CloudWard.Kubernetes CloudWard.Logic CloudWard.Policies
  CloudWard.Remediation Service

/-! ### Being busy with a record -/

/-- What the commits of an operation that started on `k` leave. -/
structure Fine (k : Ledger) (v : Ledger × Ledger) : Prop where
  committed : v.2.Consistent
  kept : k.Extends v.2

/-- The session's rows could be committed as they are. -/
structure Sound (k : Ledger) (v : Ledger × Ledger) : Prop extends Fine k v where
  session : v.1.Consistent
  keeps : k.Extends v.1

/-- The session holds a record of the event open. -/
structure Busy (k : Ledger) (eventId recordId : Nat) (v : Ledger × Ledger) : Prop
    extends Fine k v where
  session : v.1.Coherent (some recordId)
  keeps : k.Extends v.1
  holds : v.1.Holds eventId recordId
  untouched : ∀ r, k.records[recordId]? = some r → r.status ≠ .removed

/-- The record has been turned to a status. -/
structure Turned (k : Ledger) (eventId recordId : Nat) (status : ContainmentStatus)
    (v : Ledger × Ledger) : Prop extends Busy k eventId recordId v where
  turned : ∀ r, v.1.records[recordId]? = some r → r.status = status

/-- The record can be left as it is. -/
structure Done (k : Ledger) (eventId recordId : Nat) (v : Ledger × Ledger) : Prop
    extends Busy k eventId recordId v where
  closed : ∀ r, v.1.records[recordId]? = some r → r.Closed

section Holding

variable (env : Env) (settings : Settings) {k : Ledger} {v : Ledger × Ledger}
variable {s : Subject} {c : Containment} {recordId : Nat} {status : ContainmentStatus}
variable {E : Exc → World → Prop}

theorem Done.sound {eventId : Nat} (h : Done k eventId recordId v) : Sound k v where
  toFine := h.toFine
  session := h.session.close h.closed
  keeps := h.keeps

/-- A record that is neither in between nor contained can be left. -/
theorem Turned.done {eventId : Nat} (h : Turned k eventId recordId status v)
    (hsettled : status.inBetween = false) (hcontained : status ≠ .contained) :
    Done k eventId recordId v where
  toBusy := h.toBusy
  closed r hr := by
    have hstatus := h.turned r hr
    constructor
    · rw [hstatus]
      exact hsettled
    · intro hr'
      exact absurd (hstatus.symm.trans hr') hcontained

theorem triple_setContainment :
    Exec.Triple (fun w ↦ Busy k s.eventId recordId (view w)) (setContainment s recordId status)
      (fun _ w ↦ Turned k s.eventId recordId status (view w)) E := by
  intro w h
  have hview : view { w with db :=
      { w.db with
        quarantineRecords := w.db.quarantineRecords.update recordId ({ · with status })
        securityEvents := w.db.securityEvents.update s.eventId fun event ↦
          { event with containmentStatus := status } } } =
      ((view w).1.turn s.eventId recordId status, (view w).2) := by
    have hstatus := ledger_setStatus { w.db with
      quarantineRecords := w.db.quarantineRecords.update recordId ({ · with status }) }
      s.eventId status
    exact congrArg (·, ledger w.committed) hstatus
  obtain ⟨row, hrow, hevent⟩ := h.holds
  have hset : ((view w).1.turn s.eventId recordId status).records[recordId]? =
      some { row with status } := by
    simp only [Ledger.turn, Table.getElem?_update_self, hrow, Option.map_some]
  change Turned k s.eventId recordId status (view { w with db := _ })
  rw [hview]
  exact {
    committed := h.committed
    kept := h.kept
    session := h.session.turn h.holds status
    keeps := h.keeps.update h.untouched _
    holds := ⟨_, hset, hevent⟩
    untouched := h.untouched
    turned := by
      intro r hr
      rw [hset, Option.some.injEq] at hr
      rw [← hr] }

theorem triple_setVerification {eventId : Nat} {verification : ContainmentVerification}
    (hsettled : status.inBetween = false)
    (hverified : status = .contained → verification.success = some true) :
    Exec.Triple (fun w ↦ Turned k eventId recordId status (view w))
      (setVerification recordId verification)
      (fun _ w ↦ Done k eventId recordId (view w)) E := by
  intro w h
  obtain ⟨row, hrow, hevent⟩ := h.holds
  have hset : ((view w).1.note recordId verification).records[recordId]? =
      some { row with verification } := by
    simp only [Ledger.note, Table.getElem?_update_self, hrow, Option.map_some]
  change Done k eventId recordId ((view w).1.note recordId verification, (view w).2)
  exact {
    committed := h.committed
    kept := h.kept
    session := h.session.note verification
    keeps := h.keeps.update h.untouched _
    holds := ⟨_, hset, hevent⟩
    untouched := h.untouched
    closed := by
      intro r hr
      rw [hset, Option.some.injEq] at hr
      have hstatus : row.status = status := h.turned row hrow
      constructor
      · rw [← hr, hstatus]
        exact hsettled
      · intro hcontained
        rw [← hr] at hcontained ⊢
        exact hverified (hstatus.symm.trans hcontained) }

/-- A commit of a record that can be left. -/
theorem triple_commit_done {eventId : Nat} :
    Exec.Triple (fun w ↦ Done k eventId recordId (view w)) (commit env)
      (fun _ w ↦ Done k eventId recordId (view w))
      fun _ w ↦ Done k eventId recordId (view w) := by
  apply Exec.Triple.bind ((frames_seen_flush env).keeps (Done k eventId recordId))
  intro _
  apply Exec.Triple.update
  intro w h
  exact {
    committed := h.sound.session
    kept := h.keeps
    session := h.session
    keeps := h.keeps
    holds := h.holds
    untouched := h.untouched
    closed := h.closed }

/-- A commit of sound rows. -/
theorem keeps_commit_sound : Exec.Keeps (fun w ↦ Sound k (view w)) (commit env) := by
  apply Exec.Triple.bind ((frames_seen_flush env).keeps (Sound k))
  intro _
  apply Exec.Triple.update
  intro w h
  exact {
    committed := h.session
    kept := h.keeps
    session := h.session
    keeps := h.keeps }

/-- A framed program keeps what is known of the view, whatever it raises. -/
private theorem triple_framed {α : Type} {x : Service α} {p q : Ledger × Ledger → Prop}
    (h : Exec.Frames view x) (hq : ∀ v, p v → q v) :
    Exec.Triple (fun w ↦ p (view w)) x (fun _ w ↦ p (view w)) fun _ w ↦ q (view w) :=
  (h.keeps p).mono (fun _ hp ↦ hp) (fun _ _ hp ↦ hp) fun _ w hp ↦ hq (view w) hp

/-- The end of a `try` block, from the record's last status on. -/
private theorem triple_done {α : Type} {x : Service α} {eventId : Nat}
    (h : Exec.Frames view x) :
    Exec.Triple (fun w ↦ Done k eventId recordId (view w)) x
      (fun _ w ↦ Done k eventId recordId (view w))
      fun _ w ↦ Busy k eventId recordId (view w) :=
  triple_framed h fun _ hv ↦ hv.toBusy

private theorem triple_commit_busy {eventId : Nat} :
    Exec.Triple (fun w ↦ Done k eventId recordId (view w)) (commit env)
      (fun _ w ↦ Done k eventId recordId (view w))
      fun _ w ↦ Busy k eventId recordId (view w) :=
  (triple_commit_done env).mono (fun _ h ↦ h) (fun _ _ h ↦ h) fun _ _ h ↦ h.toBusy

/-- An application that returns leaves a sound view; one that raises still holds the record. -/
theorem triple_contain (executionId : Nat) (actor : String) :
    Exec.Triple (fun w ↦ Busy k c.subject.eventId c.recordId (view w))
      (contain env settings c executionId actor) (fun _ w ↦ Sound k (view w))
      fun _ w ↦ Busy k c.subject.eventId c.recordId (view w) := by
  have hbusy {α : Type} {x : Service α} (h : Exec.Frames view x) :=
    h.keeps (Busy k c.subject.eventId c.recordId)
  apply Exec.Triple.bind (hbusy (frames_seen_probe env settings _ _))
  intro reachable
  apply Exec.Triple.bind (hbusy (Exec.frames_require _ _))
  intro _
  apply Exec.Triple.bind
  · exact hbusy (frames_seen_applyQuarantinePolicy env settings _ _ _ _)
  intro _
  apply Exec.Triple.bind (hbusy (oblivious_ledger.changeIncidentState env settings _ _ _ _))
  intro _
  apply Exec.Triple.bind (hbusy (frames_seen_waitForContainment env settings _ _))
  intro verification
  apply Exec.Triple.bind
    (Q := fun _ w ↦ Busy k c.subject.eventId c.recordId (view w) ∧
      verification.success = some true)
  · exact Exec.Triple.require (fun hv _ h ↦ ⟨h, hv⟩) fun _ _ h ↦ h
  intro _
  apply Exec.Triple.assume
  intro hverified
  apply Exec.Triple.bind triple_setContainment
  intro _
  apply Exec.Triple.bind (triple_setVerification rfl fun _ ↦ hverified)
  intro _
  apply Exec.Triple.bind
  · exact triple_done (frames_seen_write fun _ ↦ rfl)
  intro _
  apply Exec.Triple.bind
  · exact triple_done (frames_seen_write fun _ ↦ rfl)
  intro _
  apply Exec.Triple.bind
  · exact triple_done (oblivious_ledger.recordContainment env c executionId verification)
  intro _
  apply Exec.Triple.bind (triple_done (frames_seen_notification env _))
  intro _
  apply Exec.Triple.bind (triple_done (frames_seen_flush env))
  intro _
  apply Exec.Triple.bind (triple_commit_busy env)
  intro _
  apply Exec.Triple.bind (triple_done (frames_seen_flush env))
  intro _
  exact Exec.Triple.pure fun _ h ↦ h.sound

/-- What is left by an exception of an operation: fine commits, and a sound session where a
caller catches it. -/
def Raised (k : Ledger) (e : Exc) (w : World) : Prop :=
  Fine k (view w) ∧ (e.isCloudWard → Sound k (view w))

private theorem triple_raised {α : Type} {x : Service α} (h : Exec.Frames view x) :
    Exec.Triple (fun w ↦ Sound k (view w)) x (fun _ w ↦ Sound k (view w)) (Raised k) :=
  (h.keeps (Sound k)).mono (fun _ h ↦ h) (fun _ _ h ↦ h) fun _ _ h ↦ ⟨h.toFine, fun _ ↦ h⟩

private theorem triple_commit_raised :
    Exec.Triple (fun w ↦ Sound k (view w)) (commit env) (fun _ w ↦ Sound k (view w))
      (Raised k) :=
  (keeps_commit_sound env).mono (fun _ h ↦ h) (fun _ _ h ↦ h) fun _ _ h ↦ ⟨h.toFine, fun _ ↦ h⟩

private theorem triple_rethrow {e : Exc} {eventId : Nat} (he : e.isCloudWard = false) :
    Exec.Triple (fun w ↦ Busy k eventId recordId (view w)) (throw e : Service Nat)
      (fun _ w ↦ Sound k (view w)) (Raised k) := by
  apply Exec.Triple.throw
  intro w h
  constructor
  · exact h.toFine
  · intro hcloudWard
    rw [he] at hcloudWard
    exact absurd hcloudWard Bool.false_ne_true

/-- The handler of an application closes the record. -/
theorem triple_onContainFailure (executionId : Nat) (e : Exc) :
    Exec.Triple (fun w ↦ Busy k c.subject.eventId c.recordId (view w))
      (onContainFailure env settings c executionId e) (fun _ w ↦ Sound k (view w))
      (Raised k) := by
  cases e with
  | cloudWard error =>
    apply Exec.Triple.bind triple_setContainment
    intro _
    apply Exec.Triple.bind
      ((triple_setVerification rfl fun h ↦ absurd h (by decide)).mono (fun _ h ↦ h)
        (fun _ _ h ↦ h.sound) fun _ _ h ↦ h)
    intro _
    apply Exec.Triple.bind
    · exact triple_raised (frames_seen_write fun _ ↦ rfl)
    intro _
    apply Exec.Triple.bind (triple_raised (frames_loadIncident _))
    intro incident
    apply Exec.Triple.bind
    · exact triple_raised (Exec.frames_when fun _ ↦
        oblivious_ledger.changeIncidentState env settings _ _ _ _)
    intro _
    apply Exec.Triple.bind (triple_raised (frames_seen_flush env))
    intro _
    apply Exec.Triple.bind (triple_commit_raised env)
    intro _
    exact Exec.Triple.throw fun _ h ↦ ⟨h.toFine, fun _ ↦ h⟩
  | api status => exact triple_rethrow rfl
  | transport => exact triple_rethrow rfl
  | database => exact triple_rethrow rfl
  | validation => exact triple_rethrow rfl

/-- A removal that returns leaves a sound view; one that raises still holds the record. -/
theorem triple_release (executionId : Nat) (actor : String) :
    Exec.Triple (fun w ↦ Busy k c.subject.eventId c.recordId (view w))
      (release env settings c executionId actor) (fun _ w ↦ Sound k (view w))
      fun _ w ↦ Busy k c.subject.eventId c.recordId (view w) := by
  have hbusy {α : Type} {x : Service α} (h : Exec.Frames view x) :=
    h.keeps (Busy k c.subject.eventId c.recordId)
  apply Exec.Triple.bind
  · exact hbusy (frames_seen_removeQuarantinePolicy env settings _ _ _ _)
  intro _
  apply Exec.Triple.bind (hbusy (frames_seen_waitForRelease env settings _ _))
  intro verification
  apply Exec.Triple.bind (hbusy (Exec.frames_require _ _))
  intro _
  apply Exec.Triple.bind triple_setContainment
  intro _
  apply Exec.Triple.bind (triple_setVerification rfl fun h ↦ absurd h (by decide))
  intro _
  apply Exec.Triple.bind
  · exact triple_done (frames_seen_write fun _ ↦ rfl)
  intro _
  apply Exec.Triple.bind
  · exact triple_done (frames_seen_write fun _ ↦ rfl)
  intro _
  apply Exec.Triple.bind (triple_done (frames_loadIncident _))
  intro incident
  apply Exec.Triple.bind
  · apply triple_done
    apply Exec.frames_when
    intro _
    apply Exec.frames_bind
    · exact frames_seen_write fun _ ↦ rfl
    intro _
    exact oblivious_ledger.changeIncidentState env settings _ _ _ _
  intro _
  apply Exec.Triple.bind (triple_done (frames_seen_flush env))
  intro _
  apply Exec.Triple.bind (triple_commit_busy env)
  intro _
  apply Exec.Triple.bind (triple_done (frames_seen_flush env))
  intro _
  exact Exec.Triple.pure fun _ h ↦ h.sound

/-- The handler of a removal closes the record. -/
theorem triple_onReleaseFailure (executionId : Nat) (e : Exc) :
    Exec.Triple (fun w ↦ Busy k c.subject.eventId c.recordId (view w))
      (onReleaseFailure env c executionId e) (fun _ w ↦ Sound k (view w)) (Raised k) := by
  cases e with
  | cloudWard error =>
    apply Exec.Triple.bind
      (triple_setContainment.mono (fun _ h ↦ h)
        (fun _ _ h ↦ (h.done rfl (by decide)).sound) fun _ _ h ↦ h)
    intro _
    apply Exec.Triple.bind
    · exact triple_raised (frames_seen_write fun _ ↦ rfl)
    intro _
    apply Exec.Triple.bind (triple_raised (frames_seen_flush env))
    intro _
    apply Exec.Triple.bind (triple_commit_raised env)
    intro _
    exact Exec.Triple.throw fun _ h ↦ ⟨h.toFine, fun _ ↦ h⟩
  | api status => exact triple_rethrow rfl
  | transport => exact triple_rethrow rfl
  | database => exact triple_rethrow rfl
  | validation => exact triple_rethrow rfl

/-! ### Applying and removing -/

/-- The ledger has the event under its name. -/
def Named (s : Subject) (l : Ledger) : Prop :=
  ∃ status, l.events[s.eventId]? = some (policyNameOf s.event, status)

/-- The ledger has the record, and it is not removed. -/
def Active (eventId recordId : Nat) (row : QuarantineRecord) (l : Ledger) : Prop :=
  l.records[recordId]? = some row ∧ row.securityEventId = eventId ∧ row.status ≠ .removed

/-- A record of the event that is not removed can be held open. -/
theorem Sound.hold {eventId : Nat} {row : QuarantineRecord} (h : Sound k v)
    (hactive : Active eventId recordId row v.1) : Busy k eventId recordId v where
  toFine := h.toFine
  session := h.session.hold recordId
  keeps := h.keeps
  holds := ⟨row, hactive.1, hactive.2.1⟩
  untouched := by
    intro r hr hremoved
    -- a removed record would still be what the session has
    have hsame := h.keeps recordId r hr hremoved
    rw [hactive.1, Option.some.injEq] at hsame
    rw [hsame] at hactive
    exact hactive.2.2 hremoved

/-- A record that is new in the session is not one of `k`. -/
private theorem untouched_fresh (h : Sound k v) {r : QuarantineRecord}
    (hr : k.records[v.1.records.fresh]? = some r) : r.status ≠ .removed := by
  intro hremoved
  have hlt := (List.getElem?_eq_some_iff.mp (h.keeps _ r hr hremoved)).1
  exact absurd hlt (Nat.lt_irrefl _)

/-- A new record of the event under its free name is held open. -/
private theorem Sound.enter {w : World} (h : Sound k (view w)) {status : ContainmentStatus}
    (hnamed : (view w).1.events[s.eventId]? = some (policyNameOf s.event, status))
    (hfree : policyNameIsFree (view w).1.records (policyNameOf s.event)) :
    Busy k s.eventId w.db.quarantineRecords.fresh (view { w with db := { w.db with
      quarantineRecords :=
        w.db.quarantineRecords.insert (recordRow s (quarantineRisk s.event .applyQuarantine))
      securityEvents := w.db.securityEvents.update s.eventId fun event ↦
        { event with containmentStatus := .applying } } }) := by
  let row := recordRow s (quarantineRisk s.event .applyQuarantine)
  have hview : view { w with db := { w.db with
      quarantineRecords := w.db.quarantineRecords.insert row
      securityEvents := w.db.securityEvents.update s.eventId fun event ↦
        { event with containmentStatus := .applying } } } =
      ((view w).1.enter row, (view w).2) := by
    have hstatus := ledger_setStatus
      { w.db with quarantineRecords := w.db.quarantineRecords.insert row } s.eventId .applying
    exact congrArg (·, ledger w.committed) hstatus
  rw [hview]
  exact {
    committed := h.committed
    kept := h.kept
    session := h.session.enter hnamed hfree
    keeps := h.keeps.insert row _
    holds := ⟨row, Table.getElem?_insert_fresh _ row, rfl⟩
    untouched := fun _ ↦ untouched_fresh h }

/-- The subject of an operation is in the ledger under its name. -/
theorem triple_eventAndIncident (eventId : Nat) :
    Exec.Triple (fun w ↦ Sound k (view w)) (eventAndIncident env eventId)
      (fun s w ↦ Sound k (view w) ∧ s.eventId = eventId ∧ Named s (view w).1) (Raised k) := by
  have hread := triple_eventAndIncident_reads env eventId fun v ↦
    Sound k (ledger v.1, ledger v.2)
  apply hread.mono (fun _ h ↦ h)
  · intro s w h
    refine ⟨h.1, h.2.eventId_eq, s.event.containmentStatus, ?_⟩
    simp only [view, seen, ledger, List.getElem?_map, h.2.eventId_eq, h.2.event,
      Option.map_some]
  · exact fun _ _ h ↦ ⟨h.toFine, fun _ ↦ h⟩

/-- Opening a record, and turning its event to APPLYING, holds the record open. -/
theorem triple_openRecord (existing : Option (Nat × QuarantineRecord)) :
    Exec.Triple
      (fun w ↦ Sound k (view w) ∧ Named s (view w).1 ∧
        ∀ e ∈ existing, Active s.eventId e.1 e.2 (view w).1)
      (openRecord s existing)
      (fun recordId w ↦ Busy k s.eventId recordId (view { w with db := { w.db with
        securityEvents := w.db.securityEvents.update s.eventId fun event ↦
          { event with containmentStatus := .applying } } }))
      fun _ w ↦ Fine k (view w) := by
  cases existing with
  | some entry =>
    obtain ⟨recordId, row⟩ := entry
    intro w h
    obtain ⟨hsound, -, hactive⟩ := h
    have hbusy := hsound.hold (hactive _ rfl)
    have hturned : Exec.Triple _ (setContainment s recordId .applying)
        (fun _ w ↦ Turned k s.eventId recordId .applying (view w)) fun _ _ ↦ False :=
      triple_setContainment
    exact (hturned w hbusy).toBusy
  | none =>
    intro w h
    obtain ⟨hsound, ⟨status, hnamed⟩, -⟩ := h
    by_cases hfree : policyNameIsFree w.db.quarantineRecords
        (recordRow s (quarantineRisk s.event .applyQuarantine)).policyName
    · have hrun : (openRecord s none).run w = (.ok w.db.quarantineRecords.fresh, { w with
          db := { w.db with
            quarantineRecords := w.db.quarantineRecords.insert
              (recordRow s (quarantineRisk s.event .applyQuarantine)) } }) := by
        unfold openRecord insertQuarantineRecord
        rw [Exec.run_bind_of_ok (Exec.run_read _ w), Exec.run_bind_require hfree]
        rfl
      rw [hrun]
      exact hsound.enter hnamed hfree
    · have hrun : (openRecord s none).run w = (.error .database, w) := by
        unfold openRecord insertQuarantineRecord
        rw [Exec.run_bind_of_ok (Exec.run_read _ w)]
        apply Exec.run_bind_of_error
        rw [Exec.run_require, if_neg hfree]
      rw [hrun]
      exact hsound.toFine

/-- A framed program leaves the commits fine, whatever it raises. -/
theorem triple_fine {α : Type} {x : Service α} {p : Ledger × Ledger → Prop}
    (h : Exec.Frames view x) (hp : ∀ v, p v → Fine k v) :
    Exec.Triple (fun w ↦ p (view w)) x (fun _ w ↦ p (view w)) fun _ w ↦ Fine k (view w) :=
  triple_framed h hp

/-- Whatever an authorised application comes to, its commits are fine. -/
theorem triple_execute (existing : Option (Nat × QuarantineRecord)) (proposalId : Nat)
    (actor : String) :
    Exec.Triple
      (fun w ↦ Sound k (view w) ∧ Named s (view w).1 ∧
        ∀ e ∈ existing, Active s.eventId e.1 e.2 (view w).1)
      (execute env settings s existing proposalId actor) (fun _ w ↦ Sound k (view w))
      fun _ w ↦ Fine k (view w) := by
  apply Exec.Triple.bind (triple_openRecord existing)
  intro recordId
  have hfine {α : Type} {x : Service α} (h : Exec.Frames view x) :=
    triple_fine (p := Busy k s.eventId recordId) h fun _ hv ↦ hv.toFine
  apply Exec.Triple.bind (Q := fun _ w ↦ Busy k s.eventId recordId (view w))
  · exact triple_write fun _ h ↦ h
  intro _
  apply Exec.Triple.bind
  · exact hfine (Exec.frames_when fun _ ↦ oblivious_ledger.changeIncidentState env settings _ _ _ _)
  intro _
  apply Exec.Triple.bind (hfine (frames_view_newExecution env _ _ _))
  intro executionId
  apply Exec.Triple.bind (hfine (frames_seen_flush env))
  intro _
  let c : Containment :=
    ⟨s, recordId, proposalId, (existing.map (·.2.policyName)).getD (policyNameOf s.event)⟩
  have hcontain : Exec.Triple (fun w ↦ Busy k s.eventId recordId (view w)) _ _ _ :=
    Exec.Triple.tryCatch (triple_contain env settings (c := c) executionId actor)
      (triple_onContainFailure env settings executionId)
  exact hcontain.mono (fun _ h ↦ h) (fun _ _ h ↦ h) fun _ _ h ↦ h.1

/-- An application keeps what is known of the session until it is denied. -/
private theorem triple_authoriseApply (actor : String) (p : Ledger → Prop) :
    Exec.Triple (fun w ↦ Sound k (view w) ∧ p (view w).1) (authoriseApply env s actor)
      (fun _ w ↦ Sound k (view w) ∧ p (view w).1) fun _ w ↦ Fine k (view w) := by
  have hfine {α : Type} {x : Service α} (h : Exec.Frames view x) :=
    triple_fine (p := fun v ↦ Sound k v ∧ p v.1) h fun _ hv ↦ hv.1.toFine
  apply Exec.Triple.bind (hfine (frames_seen_getPodHealth env _ _))
  intro pod
  apply Exec.Triple.bind (hfine (Exec.frames_require _ _))
  intro _
  apply Exec.Triple.bind (hfine (frames_seen_evaluate env _))
  intro decision
  apply Exec.Triple.bind (hfine (frames_seen_proposalForApply env s))
  intro proposalId
  apply Exec.Triple.bind (hfine (oblivious_ledger.persistDecision env s _ _ _))
  intro _
  apply Exec.Triple.ite
  · intro _
    exact Exec.Triple.pure fun _ h ↦ h
  · intro _
    apply Exec.Triple.bind (hfine (frames_seen_flush env))
    intro _
    have hcommit : Exec.Keeps (fun w ↦ Sound k (view w)) (commit env) := keeps_commit_sound env
    apply Exec.Triple.bind
      (hcommit.mono (fun _ h ↦ h.1) (fun _ _ h ↦ h) fun _ _ h ↦ h.toFine)
    intro _
    exact Exec.Triple.throw fun _ h ↦ h.toFine

private theorem active_of_activeRecord {db : Database} {eventId : Nat}
    {e : Nat × QuarantineRecord} (h : activeRecord db eventId = some e) :
    Active eventId e.1 e.2 (ledger db) := by
  obtain ⟨hrow, hkind⟩ := Table.latest_eq_some h
  simp only [decide_eq_true_eq] at hkind
  exact ⟨hrow, hkind.1, hkind.2⟩

/-- Every commit of an application is fine. -/
theorem triple_applyQuarantine (eventId : Nat) (actor : String) :
    Exec.Triple (fun w ↦ Sound k (view w)) (applyQuarantine env settings eventId actor)
      (fun _ w ↦ Sound k (view w)) fun _ w ↦ Fine k (view w) := by
  apply Exec.Triple.bind
    ((triple_eventAndIncident env eventId).mono (fun _ h ↦ h) (fun _ _ h ↦ h) fun _ _ h ↦ h.1)
  intro s
  have hquery := triple_query env (activeRecord · s.eventId)
    fun v ↦ Sound k (ledger v.1, ledger v.2) ∧ s.eventId = eventId ∧ Named s (ledger v.1)
  apply Exec.Triple.bind
    (hquery.mono (fun _ h ↦ h) (fun _ _ h ↦ h) fun _ _ h ↦ h.1.toFine)
  intro existing
  have hfound (w : World)
      (h : (Sound k (view w) ∧ s.eventId = eventId ∧ Named s (view w).1) ∧
        existing = activeRecord w.db s.eventId) :
      Sound k (view w) ∧ Named s (view w).1 ∧
        ∀ e ∈ existing, Active s.eventId e.1 e.2 (view w).1 := by
    refine ⟨h.1.1, h.1.2.2, ?_⟩
    intro e he
    exact active_of_activeRecord (h.2.symm.trans he)
  cases existing.filter fun e ↦ e.2.status ∈ [.contained, .applying] with
  | some entry => exact Exec.Triple.pure fun _ h ↦ h.1.1
  | none =>
    apply Exec.Triple.bind
    · exact Exec.Triple.require (Q := fun _ w ↦ Sound k (view w) ∧ Named s (view w).1 ∧
        ∀ e ∈ existing, Active s.eventId e.1 e.2 (view w).1)
        (fun _ w h ↦ hfound w h) fun _ _ h ↦ h.1.1.toFine
    intro _
    apply Exec.Triple.bind
    · exact triple_authoriseApply env actor fun l ↦
        Named s l ∧ ∀ e ∈ existing, Active s.eventId e.1 e.2 l
    intro proposalId
    exact triple_execute env settings existing proposalId actor

/-- The subject and the record of a removal that is authorised. -/
theorem triple_authoriseRemoval (row : QuarantineRecord) (actor : String) :
    Exec.Triple (fun w ↦ Sound k (view w) ∧ Active s.eventId recordId row (view w).1)
      (authoriseRemoval env s recordId row actor)
      (fun c w ↦ Sound k (view w) ∧ ∃ row, Active c.subject.eventId c.recordId row (view w).1)
      (Raised k) := by
  have hraised {α : Type} {x : Service α} (h : Exec.Frames view x) :
      Exec.Triple (fun w ↦ Sound k (view w) ∧ Active s.eventId recordId row (view w).1) x
        (fun _ w ↦ Sound k (view w) ∧ Active s.eventId recordId row (view w).1) (Raised k) :=
    (h.keeps fun v ↦ Sound k v ∧ Active s.eventId recordId row v.1).mono (fun _ h ↦ h)
      (fun _ _ h ↦ h) fun _ _ h ↦ ⟨h.1.toFine, fun _ ↦ h.1⟩
  apply Exec.Triple.bind (hraised (frames_seen_getPodHealth env _ _))
  intro pod
  apply Exec.Triple.bind (hraised (frames_seen_evaluate env _))
  intro decision
  apply Exec.Triple.bind (hraised (oblivious_ledger.insertProposal _))
  intro proposalId
  apply Exec.Triple.bind (hraised (frames_seen_flush env))
  intro _
  apply Exec.Triple.bind (hraised (oblivious_ledger.persistDecision env s _ _ _))
  intro _
  apply Exec.Triple.ite
  · intro _
    exact Exec.Triple.pure fun _ h ↦ ⟨h.1, row, h.2⟩
  · intro _
    apply Exec.Triple.bind
    · exact hraised (frames_seen_write fun _ ↦ rfl)
    intro _
    apply Exec.Triple.bind
      ((triple_commit_raised env).mono (fun _ h ↦ h.1) (fun _ _ h ↦ h) fun _ _ h ↦ h)
    intro _
    exact Exec.Triple.throw fun _ h ↦ ⟨h.toFine, fun _ ↦ h⟩

theorem triple_openRemoval (eventId : Nat) (actor : String) :
    Exec.Triple (fun w ↦ Sound k (view w)) (openRemoval env eventId actor)
      (fun r w ↦ Sound k (view w) ∧
        ∀ c, r = .inr c → ∃ row, Active c.subject.eventId c.recordId row (view w).1)
      (Raised k) := by
  apply Exec.Triple.bind (triple_eventAndIncident env eventId)
  intro s
  apply Exec.Triple.bind
    ((triple_query env (latestRecord · s.eventId) fun v ↦
      Sound k (ledger v.1, ledger v.2)).mono (fun _ h ↦ h.1) (fun _ _ h ↦ h)
      fun _ _ h ↦ ⟨h.toFine, fun _ ↦ h⟩)
  intro found
  cases found with
  | none => exact Exec.Triple.throw fun _ h ↦ ⟨h.1.toFine, fun _ ↦ h.1⟩
  | some entry =>
    obtain ⟨recordId, row⟩ := entry
    apply Exec.Triple.ite
    · intro _
      exact Exec.Triple.pure fun _ h ↦ ⟨h.1, by simp⟩
    · intro hremoved
      apply Exec.Triple.bind
        ((triple_authoriseRemoval env row actor).mono ?_ (fun _ _ h ↦ h) fun _ _ h ↦ h)
      · intro c
        refine Exec.Triple.pure fun w h ↦ ⟨h.1, ?_⟩
        intro c' hc
        rw [Sum.inr.injEq] at hc
        rw [← hc]
        exact h.2
      · intro w h
        obtain ⟨hrow, hevent⟩ := Table.latest_eq_some h.2.symm
        exact ⟨h.1, hrow, by simpa using hevent, hremoved⟩

/-- A removal that begins holds its record. -/
theorem triple_beginRemoval :
    Exec.Triple (fun w ↦ Busy k c.subject.eventId c.recordId (view w)) (beginRemoval env c)
      (fun _ w ↦ Busy k c.subject.eventId c.recordId (view w))
      fun _ w ↦ Fine k (view w) := by
  apply Exec.Triple.bind
    (triple_setContainment.mono (fun _ h ↦ h) (fun _ _ h ↦ h.toBusy) fun _ _ h ↦ h)
  intro _
  exact triple_fine (p := Busy k c.subject.eventId c.recordId)
    (frames_view_newExecution env _ _ _) fun _ h ↦ h.toFine

/-- No statement raises one of the program's own errors. -/
def DatabaseFaults (env : Env) : Prop :=
  ∀ w e, env.database w = some e → e.isCloudWard = false

/-- A removal is authorised for an incident that has no attempt left. -/
def Exhausted (env : Env) (eventId : Nat) (actor : String) (w : World) : Prop :=
  ∃ c w', (openRemoval env eventId actor).run w = (.ok (.inr c), w') ∧
    3 ≤ highestAttempt w'.db c.subject.incidentId

private theorem raises_flush (hfaults : DatabaseFaults env) :
    Exec.Raises (fun e ↦ e.isCloudWard = false) (flush env) := by
  intro w _
  rw [run_flush]
  cases hfault : env.database w with
  | none => trivial
  | some e => exact hfaults w e hfault

private theorem raises_insertExecution (hfaults : DatabaseFaults env) (row : ActionExecution) :
    Exec.Raises (fun e ↦ e.isCloudWard = false) (insertExecution env row) := by
  apply Exec.raises_bind (Exec.raises_read _)
  intro executions
  apply Exec.raises_bind
  · exact Exec.raises_require rfl
  intro _
  apply Exec.raises_bind (Exec.raises_update _)
  intro _
  exact Exec.raises_bind (raises_flush env hfaults) fun _ ↦ Exec.raises_pure _

/-- The one error of its own that a beginning removal raises is the attempt limit's. -/
theorem raises_beginRemoval (hfaults : DatabaseFaults env) :
    Exec.Triple (fun w ↦ highestAttempt w.db c.subject.incidentId < 3) (beginRemoval env c)
      (fun _ _ ↦ True) fun e _ ↦ e.isCloudWard = false := by
  apply Exec.Triple.bind
    (Q := fun _ w ↦ highestAttempt w.db c.subject.incidentId < 3)
  · exact fun _ h ↦ h
  intro _
  apply Exec.Triple.bind (Q := fun highest _ ↦ highest < 3)
  · apply Exec.Triple.bind
    · have hflush : Exec.Frames World.db (flush env) := frames_flush env fun _ _ ↦ rfl
      exact (hflush.raises (raises_flush env hfaults) fun db ↦
        highestAttempt db c.subject.incidentId < 3).mono (fun _ h ↦ h) (fun _ _ h ↦ h)
        fun _ _ h ↦ h.1
    intro _
    exact Exec.Triple.read fun _ h ↦ h
  intro highest
  by_cases hlt : highest < 3
  · rw [dif_pos (by omega)]
    exact (raises_insertExecution env hfaults _).mono (fun _ _ ↦ trivial) (fun _ _ h ↦ h)
      fun _ _ h ↦ h
  · exact fun _ h ↦ absurd h hlt

/-- What a removal leaves: a sound view, fine commits where it raises, and a sound session
with its own errors unless the attempts were used up. -/
theorem removeQuarantine_leaves (hfaults : DatabaseFaults env) (eventId : Nat) (actor : String)
    (w : World) :
    Exec.Triple (fun w' ↦ w' = w ∧ Sound k (view w)) (removeQuarantine env settings eventId actor)
      (fun _ w' ↦ Sound k (view w'))
      fun e w' ↦ Fine k (view w') ∧
        (e.isCloudWard → ¬ Exhausted env eventId actor w → Sound k (view w')) := by
  rintro w ⟨rfl, hsound⟩
  have hopen := triple_openRemoval env eventId actor w hsound
  unfold removeQuarantine
  rw [Exec.run_bind]
  rcases hrun : (openRemoval env eventId actor).run w with ⟨e | r, w'⟩
  · rw [hrun] at hopen
    exact ⟨hopen.1, fun he _ ↦ hopen.2 he⟩
  rw [hrun] at hopen
  cases r with
  | inl recordId => exact hopen.1
  | inr c =>
    obtain ⟨row, hactive⟩ := hopen.2 c rfl
    have hbusy := hopen.1.hold hactive
    have hbegin := triple_beginRemoval env w' hbusy
    simp only [finishRemoval]
    rw [Exec.run_bind]
    rcases hrun' : (beginRemoval env c).run w' with ⟨e | executionId, w''⟩
    · rw [hrun'] at hbegin
      refine ⟨hbegin, ?_⟩
      intro he hleft
      have hlt : highestAttempt w'.db c.subject.incidentId < 3 := by
        by_contra hge
        exact hleft ⟨c, w', hrun, by omega⟩
      have hnot := (raises_beginRemoval env hfaults).of_error hlt hrun'
      rw [he] at hnot
      exact absurd hnot (by decide)
    · rw [hrun'] at hbegin
      have hrelease := Exec.Triple.tryCatch (triple_release env settings executionId actor)
        (triple_onReleaseFailure env executionId) w'' hbegin
      dsimp only
      rcases hrun'' : (tryCatch (release env settings c executionId actor)
        (onReleaseFailure env c executionId)).run w'' with ⟨e | recordId, w₃⟩
      · rw [hrun''] at hrelease
        exact ⟨hrelease.1, fun he _ ↦ hrelease.2 he⟩
      · rw [hrun''] at hrelease
        exact hrelease

/-- Every commit of a removal is fine. -/
theorem triple_removeQuarantine (hfaults : DatabaseFaults env) (eventId : Nat) (actor : String) :
    Exec.Triple (fun w ↦ Sound k (view w)) (removeQuarantine env settings eventId actor)
      (fun _ w ↦ Sound k (view w)) fun _ w ↦ Fine k (view w) := by
  intro w h
  have hleaves := removeQuarantine_leaves env settings hfaults eventId actor w w ⟨rfl, h⟩
  rcases hrun : (removeQuarantine env settings eventId actor).run w with ⟨e | recordId, w'⟩
  · rw [hrun] at hleaves
    exact hleaves.1
  · rw [hrun] at hleaves
    exact hleaves

end Holding

end CloudWard.Security
