import CloudWard.Logic.Runs
import CloudWard.Security.Lifecycle
import CloudWard.Security.Reconcile
import CloudWard.Security.Service

/-!
# Quarantine records stay consistent

The operations on quarantines as a machine over the committed rows: an ingestion, an
application, a removal, or the incident lab's pass over a scenario, each against its own
environment. Every commit is consistent and keeps the removed records, except where the
lab cleans up an incident whose attempts are used up: it swallows the exception that the
begun removal raises outside of its handler, and commits the record as REMOVING.
-/

namespace CloudWard.Security

open CloudWard.Db CloudWard.Incidents CloudWard.Kubernetes CloudWard.Logic CloudWard.Policies
  CloudWard.Remediation CloudWard.Risk Service

variable (env : Env) (settings : Settings) {k : Ledger}

/-! ### Ingestions -/

/-- The rows could be committed, and no record is of the event. -/
structure Untracked (k : Ledger) (eventId : Nat) (v : Ledger × Ledger) : Prop
    extends Sound k v where
  untracked : ∀ r ∈ v.1.records, r.securityEventId ≠ eventId

private theorem triple_fine_of_sound {α : Type} {x : Service α} (h : Exec.Frames view x) :
    Exec.Triple (fun w ↦ Sound k (view w)) x (fun _ w ↦ Sound k (view w))
      fun _ w ↦ Fine k (view w) :=
  triple_fine h fun _ hv ↦ hv.toFine

private theorem triple_fine_of_untracked {α : Type} {x : Service α} {eventId : Nat}
    (h : Exec.Frames view x) :
    Exec.Triple (fun w ↦ Untracked k eventId (view w)) x
      (fun _ w ↦ Untracked k eventId (view w)) fun _ w ↦ Fine k (view w) :=
  triple_fine h fun _ hv ↦ hv.toFine

private theorem triple_commit_fine :
    Exec.Triple (fun w ↦ Sound k (view w)) (commit env) (fun _ w ↦ Sound k (view w))
      fun _ w ↦ Fine k (view w) :=
  (keeps_commit_sound env).mono (fun _ h ↦ h) (fun _ _ h ↦ h) fun _ _ h ↦ h.toFine

/-- No record is of a new event. -/
private theorem Sound.insertEvent {w : World} (h : Sound k (view w)) (row : SecurityEvent) :
    Untracked k w.db.securityEvents.fresh (view { w with db := { w.db with
      securityEvents := w.db.securityEvents.insert row } }) := by
  have hevents : (ledger { w.db with securityEvents := w.db.securityEvents.insert row }).events =
      (ledger w.db).events.insert (policyNameOf row, row.containmentStatus) := by
    simp only [ledger, Table.insert, List.map_append, List.map_cons, List.map_nil]
  have hold : ∀ r ∈ (ledger w.db).records, r.securityEventId < w.db.securityEvents.length := by
    intro r hr
    have hagree := h.session.agrees r hr
    have hlt := (List.getElem?_eq_some_iff.mp hagree).1
    simpa only [view, seen, ledger, List.length_map] using hlt
  exact {
    committed := h.committed
    kept := h.kept
    session := by
      apply h.session.of_events
      intro r hr
      have hagree := h.session.agrees r hr
      rw [hagree]
      exact (congrArg (·[r.securityEventId]?) hevents).trans
        (Table.getElem?_insert_of_some hagree)
    keeps := h.keeps
    untracked := by
      intro r hr heq
      exact absurd (hold r hr) (by rw [heq]; exact Nat.lt_irrefl _) }

private theorem triple_insertSecurityEvent (row : SecurityEvent) :
    Exec.Triple (fun w ↦ Sound k (view w)) (insertSecurityEvent env row)
      (fun eventId w ↦ Untracked k eventId (view w)) fun _ w ↦ Fine k (view w) := by
  apply Exec.Triple.bind
    (Q := fun events w ↦ Sound k (view w) ∧ events = w.db.securityEvents)
  · exact Exec.Triple.read fun _ h ↦ ⟨h, rfl⟩
  intro events
  apply Exec.Triple.bind (Q := fun _ w ↦ Sound k (view w) ∧ events = w.db.securityEvents)
  · exact Exec.Triple.require (fun _ _ h ↦ h) fun _ _ h ↦ h.1.toFine
  intro _
  apply Exec.Triple.bind (Q := fun _ w ↦ Untracked k events.fresh (view w))
  · apply triple_write
    rintro w ⟨h, rfl⟩
    exact h.insertEvent row
  intro _
  apply Exec.Triple.bind (triple_fine_of_untracked (frames_seen_flush env))
  intro _
  exact Exec.Triple.pure fun _ h ↦ h

/-- An event that no record is of takes any status. -/
private theorem triple_setStatus {eventId : Nat} (status : ContainmentStatus) :
    Exec.Triple (fun w ↦ Untracked k eventId (view w))
      (updateSecurityEvent eventId fun event ↦ { event with containmentStatus := status })
      (fun _ w ↦ Untracked k eventId (view w)) fun _ w ↦ Fine k (view w) := by
  apply triple_write
  intro w h
  have hview := ledger_setStatus w.db eventId status
  exact {
    committed := h.committed
    kept := h.kept
    session := by
      change Ledger.Consistent (ledger { w.db with securityEvents := _ })
      rw [hview]
      apply h.session.of_events
      intro r hr
      exact Table.getElem?_update_of_ne _ _ (h.untracked r hr).symm
    keeps := h.keeps
    untracked := h.untracked }

private theorem triple_openEvent (d : Delivery) :
    Exec.Triple (fun w ↦ Sound k (view w)) (openEvent env settings d)
      (fun ids w ↦ Untracked k ids.2 (view w)) fun _ w ↦ Fine k (view w) := by
  apply Exec.Triple.bind (triple_fine_of_sound (frames_view_createIncident env _ _))
  intro incidentId
  apply Exec.Triple.bind
  · exact triple_fine_of_sound (frames_seen_write fun _ ↦ rfl)
  intro _
  apply Exec.Triple.bind (triple_fine_of_sound (frames_seen_notification env _))
  intro _
  apply Exec.Triple.bind
  · exact triple_fine_of_sound (frames_seen_write fun _ ↦ rfl)
  intro _
  apply Exec.Triple.bind (triple_insertSecurityEvent env _)
  intro eventId
  apply Exec.Triple.bind (triple_fine_of_untracked (frames_seen_flush env))
  intro _
  apply Exec.Triple.bind (triple_fine_of_untracked (frames_seen_flush env))
  intro _
  apply Exec.Triple.bind
    (triple_fine_of_untracked (oblivious_ledger.changeIncidentState env settings _ _ _ _))
  intro _
  apply Exec.Triple.bind
    (triple_fine_of_untracked (oblivious_ledger.changeIncidentState env settings _ _ _ _))
  intro _
  exact Exec.Triple.pure fun _ h ↦ h

private theorem triple_settleEvent (incidentId eventId proposalId : Nat)
    (decision : PolicyResult) :
    Exec.Triple (fun w ↦ Untracked k eventId (view w))
      (settleEvent env settings incidentId eventId proposalId decision)
      (fun _ w ↦ Untracked k eventId (view w)) fun _ w ↦ Fine k (view w) := by
  unfold settleEvent
  apply Exec.Triple.ite
  · intro _
    exact triple_setStatus .proposed
  intro _
  apply Exec.Triple.ite
  · intro _
    apply Exec.Triple.bind (triple_setStatus .awaitingApproval)
    intro _
    exact triple_fine_of_untracked (oblivious_ledger.changeIncidentState env settings _ _ _ _)
  · intro _
    apply Exec.Triple.bind
    · exact triple_fine_of_untracked (frames_seen_write fun _ ↦ rfl)
    intro _
    exact triple_fine_of_untracked (oblivious_ledger.changeIncidentState env settings _ _ _ _)

/-- Every commit of an ingestion is fine. -/
theorem triple_ingestSecurityEvent (d : Delivery) :
    Exec.Triple (fun w ↦ Sound k (view w)) (ingestSecurityEvent env settings d)
      (fun _ w ↦ Sound k (view w)) fun _ w ↦ Fine k (view w) := by
  apply Exec.Triple.bind (triple_fine_of_sound (frames_seen_query env _))
  intro existing
  cases existing with
  | some entry =>
    apply Exec.Triple.bind
    · exact triple_fine_of_sound (oblivious_ledger.updateSecurityEvent _ fun _ ↦ rfl)
    intro _
    apply Exec.Triple.bind (triple_fine_of_sound (frames_seen_flush env))
    intro _
    apply Exec.Triple.bind (triple_fine_of_sound (frames_seen_flush env))
    intro _
    exact triple_commit_fine env
  | none =>
    apply Exec.Triple.bind (triple_openEvent env settings d)
    rintro ⟨incidentId, eventId⟩
    apply Exec.Triple.bind
      (triple_fine_of_untracked (oblivious_ledger.proposeQuarantine env settings d _ _))
    rintro ⟨proposalId, decision⟩
    apply Exec.Triple.bind
      ((triple_settleEvent env settings _ _ _ _).mono (fun _ h ↦ h) (fun _ _ h ↦ h.toSound)
        fun _ _ h ↦ h)
    intro _
    apply Exec.Triple.bind (triple_fine_of_sound (frames_seen_flush env))
    intro _
    exact triple_commit_fine env

/-! ### Passes of the incident lab -/

private theorem triple_stillActive (x : ChaosExecution) (detail : String) :
    Exec.Triple (fun w ↦ Sound k (view w)) (stillActive env x detail)
      (fun _ w ↦ Sound k (view w)) fun _ w ↦ Fine k (view w) := by
  apply Exec.Triple.bind (triple_fine_of_sound (frames_seen_flush env))
  intro _
  apply Exec.Triple.bind (triple_commit_fine env)
  intro _
  exact Exec.Triple.pure fun _ h ↦ h

private theorem triple_concludePass (x : ChaosExecution) (eventId : Nat) :
    Exec.Triple (fun w ↦ Sound k (view w)) (concludePass env x eventId)
      (fun _ w ↦ Sound k (view w)) fun _ w ↦ Fine k (view w) := by
  apply Exec.Triple.bind (triple_fine_of_sound (frames_seen_loadSecurityEvent _))
  intro event
  apply Exec.Triple.bind (triple_fine_of_sound (Exec.frames_read _))
  intro incident
  apply Exec.Triple.ite
  · intro _
    apply Exec.Triple.bind (triple_fine_of_sound (frames_seen_flush env))
    intro _
    apply Exec.Triple.bind (triple_commit_fine env)
    intro _
    exact Exec.Triple.pure fun _ h ↦ h
  intro _
  apply Exec.Triple.ite
  · intro _
    exact Exec.Triple.pure fun _ h ↦ h
  · intro _
    exact triple_stillActive env x _

private theorem triple_passEvent (hfaults : DatabaseFaults env) (x : ChaosExecution)
    (now eventId : Nat) :
    Exec.Triple (fun w ↦ Sound k (view w)) (passEvent env settings x now eventId)
      (fun _ w ↦ Sound k (view w)) fun _ w ↦ Fine k (view w) := by
  apply Exec.Triple.bind (triple_fine_of_sound (frames_seen_loadSecurityEvent _))
  intro event
  apply Exec.Triple.bind (triple_fine_of_sound (frames_seen_flush env))
  intro _
  apply Exec.Triple.ite
  · intro _
    exact Exec.Triple.pure fun _ h ↦ h
  intro _
  apply Exec.Triple.ite
  · intro _
    apply Exec.Triple.bind (triple_applyQuarantine env settings eventId labWorker)
    intro _
    exact triple_stillActive env x _
  intro _
  apply Exec.Triple.ite
  · intro _
    apply Exec.Triple.bind (triple_removeQuarantine env settings hfaults eventId labWorker)
    intro _
    apply Exec.Triple.bind (triple_fine_of_sound (frames_seen_flush env))
    intro _
    apply Exec.Triple.bind (triple_fine_of_sound (frames_seen_flush env))
    intro _
    exact triple_concludePass env x eventId
  · intro _
    exact triple_concludePass env x eventId

/-- A pass commits nothing that is not fine before it cleans up. -/
theorem triple_beforeCleanup (hfaults : DatabaseFaults env) (x : ChaosExecution) :
    Exec.Triple (fun w ↦ Sound k (view w)) (beforeCleanup env settings x)
      (fun _ w ↦ Sound k (view w)) fun _ w ↦ Fine k (view w) := by
  apply Exec.Triple.bind (triple_fine_of_sound (frames_ask _ fun _ _ ↦ rfl))
  intro now
  apply Exec.Triple.bind (triple_fine_of_sound (frames_seen_query env _))
  intro found
  cases found with
  | some eventId => exact triple_passEvent env settings hfaults x now eventId
  | none =>
    apply Exec.Triple.ite
    · intro _
      apply Exec.Triple.bind (triple_fine_of_sound (frames_seen_flush env))
      intro _
      apply Exec.Triple.bind (triple_commit_fine env)
      intro _
      exact Exec.Triple.pure fun _ h ↦ h
    · intro _
      exact Exec.Triple.pure fun _ h ↦ h

/-- A clean-up removes the quarantine of an incident that has no attempt left. -/
def CleansUpExhausted (eventId : Nat) (w : World) : Prop :=
  (∃ event, w.db.securityEvents[eventId]? = some event ∧
    needsNoRemoval event.containmentStatus = false) ∧ Exhausted env eventId labWorker w

/-- A removal under the lab's handler, with an attempt left, leaves the session sound. -/
private theorem triple_removeSecurityContainment (hfaults : DatabaseFaults env) (eventId : Nat)
    (w : World) (hleft : ¬ CleansUpExhausted env eventId w) :
    Exec.Triple (fun w' ↦ w' = w ∧ Sound k (view w))
      (removeSecurityContainment env settings eventId) (fun _ w' ↦ Sound k (view w'))
      fun _ w' ↦ Fine k (view w') := by
  apply Exec.Triple.bind (Q := fun event w' ↦
    (w' = w ∧ Sound k (view w)) ∧ w.db.securityEvents[eventId]? = some event)
  · rintro w ⟨rfl, hsound⟩
    simp only [loadSecurityEvent, Exec.run_bind, Exec.run_read]
    cases hevent : w.db.securityEvents[eventId]? with
    | none => exact hsound.toFine
    | some event => exact ⟨⟨rfl, hsound⟩, rfl⟩
  intro event
  apply Exec.Triple.assume
  intro hevent
  apply Exec.Triple.ite
  · intro _
    apply Exec.Triple.pure
    rintro _ ⟨rfl, hsound⟩
    exact hsound
  intro hneeds
  have hnot : ¬ Exhausted env eventId labWorker w :=
    fun h ↦ hleft ⟨⟨event, hevent, by simpa using hneeds⟩, h⟩
  apply Exec.Triple.tryCatch (E := fun e w' ↦
    Fine k (view w') ∧ (e.isCloudWard → Sound k (view w')))
  · apply Exec.Triple.bind
      ((removeQuarantine_leaves env settings hfaults eventId labWorker w).mono (fun _ h ↦ h)
        (fun _ _ h ↦ h) fun _ _ h ↦ ⟨h.1, fun he ↦ h.2 he hnot⟩)
    intro recordId
    exact Exec.Triple.read fun _ h ↦ h
  · intro e
    apply Exec.Triple.ite
    · intro he
      exact Exec.Triple.pure fun _ h ↦ h.2 he
    · intro _
      exact Exec.Triple.throw fun _ h ↦ h.1

/-- A clean-up that finds an attempt left commits nothing that is not fine. -/
theorem triple_cleanUp (hfaults : DatabaseFaults env) (eventId : Nat)
    (status : ExperimentStatus) (detail : String) (w : World)
    (hleft : ¬ CleansUpExhausted env eventId w) :
    Exec.Triple (fun w' ↦ w' = w ∧ Sound k (view w))
      (cleanUp env settings eventId status detail) (fun _ w' ↦ Sound k (view w'))
      fun _ w' ↦ Fine k (view w') := by
  apply Exec.Triple.bind
    (triple_removeSecurityContainment env settings hfaults eventId w hleft)
  intro cleanup
  apply Exec.Triple.bind (triple_fine_of_sound (frames_seen_flush env))
  intro _
  apply Exec.Triple.bind (triple_commit_fine env)
  intro _
  exact Exec.Triple.pure fun _ h ↦ h

/-- A reconciliation of an active execution up to its clean-up. -/
def openPass (x : ChaosExecution) : Service Pass := do
  flush env
  beforeCleanup env settings x

/-- A reconciliation comes to clean up an incident that has no attempt left. -/
def ReconcilesExhausted (x : ChaosExecution) (w : World) : Prop :=
  ∃ eventId status detail w',
    (openPass env settings x).run w = (.ok (.cleanUp eventId status detail), w') ∧
      CleansUpExhausted env eventId w'

/-- A pass over an active execution is what comes before its clean-up, and the clean-up. -/
theorem run_reconcileExecution {x : ChaosExecution}
    (hactive : x.status ∈ [.pending, .running, .stopping]) (w : World) :
    (reconcileExecution env settings x).run w =
      (openPass env settings x >>= fun pass ↦
        match pass with
        | .done result => pure result
        | .cleanUp eventId status detail => cleanUp env settings eventId status detail).run w := by
  unfold reconcileExecution reconcileSecurityExecution openPass
  simp only [if_pos hactive, Exec.run_bind]
  rcases (flush env).run w with ⟨e | _, w'⟩ <;> rfl

theorem triple_openPass (hfaults : DatabaseFaults env) (x : ChaosExecution) :
    Exec.Triple (fun w ↦ Sound k (view w)) (openPass env settings x)
      (fun _ w ↦ Sound k (view w)) fun _ w ↦ Fine k (view w) :=
  Exec.Triple.bind (triple_fine_of_sound (frames_seen_flush env)) fun _ ↦
    triple_beforeCleanup env settings hfaults x

/-- Every commit of another reconciliation is fine. -/
theorem triple_reconcileExecution (hfaults : DatabaseFaults env) (x : ChaosExecution)
    (w : World)
    (hleft : x.status ∈ [.pending, .running, .stopping] →
      ¬ ReconcilesExhausted env settings x w) :
    Exec.Triple (fun w' ↦ w' = w ∧ Sound k (view w)) (reconcileExecution env settings x)
      (fun _ w' ↦ Sound k (view w')) fun _ w' ↦ Fine k (view w') := by
  rintro w ⟨rfl, hsound⟩
  by_cases hactive : x.status ∈ [.pending, .running, .stopping]
  · have hpass := triple_openPass env settings hfaults x w hsound
    rw [run_reconcileExecution env settings hactive, Exec.run_bind]
    rcases hrun : (openPass env settings x).run w with ⟨e | pass, w'⟩
    · rw [hrun] at hpass
      exact hpass
    rw [hrun] at hpass
    cases pass with
    | done result => exact hpass
    | cleanUp eventId status detail =>
      have hnot : ¬ CleansUpExhausted env eventId w' :=
        fun h ↦ hleft hactive ⟨eventId, status, detail, w', hrun, h⟩
      exact triple_cleanUp env settings hfaults eventId status detail w' hnot w' ⟨rfl, hpass⟩
  · unfold reconcileExecution
    simp only [if_neg hactive]
    exact Exec.Triple.bind (triple_fine_of_sound (frames_seen_flush env))
      (fun _ ↦ Exec.Triple.pure fun _ h ↦ h) w hsound

end CloudWard.Security
