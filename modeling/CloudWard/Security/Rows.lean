import CloudWard.Security.Machine

/-!
# What the rows of a quarantine refer to

Every state the operations reach has its events linked to incidents and its records named
after their events, the targets of events are the ones ingestion accepts, and the key of a
quarantine execution is made from its own row. None of the operations changes these columns,
so only the four insertions matter; that a rollback undoes them does not.
-/

namespace CloudWard.Security

open CloudWard.Db CloudWard.Incidents CloudWard.Kubernetes CloudWard.Logic CloudWard.Policies
  CloudWard.Remediation Service

/-- The columns of an event that say what it is about. -/
structure Origin where
  uuid : String
  incidentId : Option Nat
  ns : String
  pod : String

/-- The origin of an event. -/
def originOf (event : SecurityEvent) : Origin :=
  ⟨event.uuid, event.incidentId, event.ns, event.pod⟩

/-- An accepted target, under a well-formed identity. -/
structure Origin.Valid (o : Origin) : Prop where
  ns : o.ns = stagingNamespace
  pod : validName o.pod
  uuid : o.uuid.toList.length = 32 ∧ o.uuid.toList.all isHexDigit

/-- The name of an event's policy, from its identity. -/
def Origin.policyName (o : Origin) : String :=
  quarantinePolicyName (String.ofList (o.uuid.toList.take 12))

/-- The columns that refer to other rows. -/
structure Skeleton where
  incidents : Nat
  events : Table Origin
  records : Table (Nat × String)
  executions : Table (Nat × Nat × Option IdempotencyKey)

/-- The skeleton of a database. -/
def skeleton (db : Database) : Skeleton where
  incidents := db.incidents.length
  events := db.securityEvents.map originOf
  records := db.quarantineRecords.map fun r ↦ (r.securityEventId, r.policyName)
  executions := db.executions.map executionColumns

/-- Every reference is to a row that is there. -/
structure Skeleton.Sourced (s : Skeleton) : Prop where
  linked : ∀ o ∈ s.events, ∃ incidentId, o.incidentId = some incidentId ∧
    incidentId < s.incidents
  valid : ∀ o ∈ s.events, o.Valid
  named : ∀ r ∈ s.records, ∃ o, s.events[r.1]? = some o ∧ r.2 = o.policyName
  keyed : ∀ e ∈ s.executions, ∀ incidentId action ns pod attempt,
    e.2.2 = some (.quarantine incidentId action ns pod attempt) →
      e.1 = incidentId ∧ e.2.1 = attempt

/-- The session's rows and the committed rows are sourced. -/
def Rooted (w : World) : Prop := (skeleton w.db).Sourced ∧ (skeleton w.committed).Sourced

theorem oblivious_skeleton : Oblivious skeleton where
  proposals _ _ := rfl
  policyDecisions _ _ := rfl
  approvals _ _ := rfl
  verificationRecords _ _ := rfl
  incident db id f := by simp only [skeleton, Table.length_update]
  execution db id f hf := by
    unfold skeleton
    rw [Table.map_update db.executions id hf]
  event db id f hf := by
    have horigin (row : SecurityEvent) : originOf (f row) = originOf row := by
      have hrow := hf row
      simp only [eventColumns, Prod.mk.injEq] at hrow
      simp only [originOf, hrow.1, hrow.2.1, hrow.2.2.1, hrow.2.2.2.1]
    unfold skeleton
    rw [Table.map_update db.securityEvents id horigin]

section Rooted

variable (env : Env) (settings : Settings) {s : Subject} {c : Containment}

/-- What leaves the skeletons alone keeps them sourced. -/
theorem keeps_rooted {α : Type} {x : Service α} (h : Exec.Frames (seen skeleton) x) :
    Exec.Keeps Rooted x :=
  h.keeps fun v ↦ v.1.Sourced ∧ v.2.Sourced

theorem keeps_rooted_commit : Exec.Keeps Rooted (commit env) := by
  apply Exec.keeps_bind (keeps_rooted (frames_seen_flush env))
  intro _
  exact Exec.Triple.update fun w h ↦ ⟨h.1, h.1⟩

/-! ### Insertions -/

private theorem keeps_rooted_insertExecution {row : ActionExecution}
    (hkey : ∀ incidentId action ns pod attempt,
      row.idempotencyKey = some (.quarantine incidentId action ns pod attempt) →
        row.incidentId = incidentId ∧ row.attempt = attempt) :
    Exec.Keeps Rooted (insertExecution env row) := by
  apply Exec.keeps_bind (Exec.keeps_read _)
  intro executions
  apply Exec.keeps_bind (Exec.keeps_require _ _)
  intro _
  apply Exec.keeps_bind
  · apply triple_write
    intro w h
    refine ⟨⟨h.1.linked, h.1.valid, h.1.named, ?_⟩, h.2⟩
    intro e he
    simp only [skeleton, Table.insert, List.map_append, List.map_cons, List.map_nil,
      List.mem_append, List.mem_singleton] at he
    rcases he with he | rfl
    · exact h.1.keyed e he
    · exact hkey
  intro _
  exact Exec.keeps_bind (keeps_rooted (frames_seen_flush env)) fun _ ↦ Exec.keeps_pure _

private theorem keeps_rooted_newExecution (proposalId : Nat) (action : ActionType) :
    Exec.Keeps Rooted (newExecution env s proposalId action) := by
  apply Exec.keeps_bind (keeps_rooted (frames_seen_query env _))
  intro highest
  split
  · apply keeps_rooted_insertExecution
    intro incidentId action' ns pod attempt hkey
    simp only [executionRow, Option.some.injEq, IdempotencyKey.quarantine.injEq] at hkey
    exact ⟨hkey.1, hkey.2.2.2.2⟩
  · exact Exec.keeps_throw _

/-- The session has the event of a subject as the subject has it. -/
def Known (s : Subject) (w : World) : Prop :=
  (skeleton w.db).events[s.eventId]? = some (originOf s.event)

private theorem triple_rooted_insertRecord (row : QuarantineRecord)
    (hevent : row.securityEventId = s.eventId) (hname : row.policyName = policyNameOf s.event) :
    Exec.Triple (fun w ↦ Rooted w ∧ Known s w) (insertQuarantineRecord row) (fun _ ↦ Rooted)
      fun _ ↦ Rooted := by
  apply Exec.Triple.bind
  · exact Exec.Triple.read (Q := fun _ w ↦ Rooted w ∧ Known s w) fun _ h ↦ h
  intro records
  apply Exec.Triple.bind
  · exact Exec.Triple.require (Q := fun _ w ↦ Rooted w ∧ Known s w) (fun _ _ h ↦ h)
      fun _ _ h ↦ h.1
  intro _
  apply Exec.Triple.bind
  · apply triple_write (Q := fun _ ↦ Rooted)
    intro w h
    refine ⟨⟨h.1.1.linked, h.1.1.valid, ?_, h.1.1.keyed⟩, h.1.2⟩
    intro r hr
    simp only [skeleton, Table.insert, List.map_append, List.map_cons, List.map_nil,
      List.mem_append, List.mem_singleton] at hr
    rcases hr with hr | rfl
    · exact h.1.1.named r hr
    · use originOf s.event
      rw [hevent, hname]
      exact ⟨h.2, rfl⟩
  intro _
  exact Exec.keeps_pure _

private theorem frames_skeleton_updateRecord (recordId : Nat)
    {f : QuarantineRecord → QuarantineRecord}
    (hf : ∀ r, ((f r).securityEventId, (f r).policyName) = (r.securityEventId, r.policyName)) :
    Exec.Frames (seen skeleton) (updateQuarantineRecord recordId f) := by
  apply frames_seen_write
  intro db
  unfold skeleton
  rw [Table.map_update db.quarantineRecords recordId hf]

private theorem frames_skeleton_setStatus (eventId : Nat) (status : ContainmentStatus) :
    Exec.Frames (seen skeleton) (updateSecurityEvent eventId fun event ↦
      { event with containmentStatus := status }) := by
  apply frames_seen_write
  intro db
  have horigin (row : SecurityEvent) :
      originOf { row with containmentStatus := status } = originOf row := rfl
  unfold skeleton
  rw [Table.map_update db.securityEvents eventId horigin]

theorem frames_skeleton_setContainment (recordId : Nat) (status : ContainmentStatus) :
    Exec.Frames (seen skeleton) (setContainment s recordId status) := by
  apply Exec.frames_bind
  · exact frames_skeleton_updateRecord _ fun _ ↦ rfl
  intro _
  exact frames_skeleton_setStatus _ _

private theorem frames_skeleton_setVerification (recordId : Nat)
    (verification : ContainmentVerification) :
    Exec.Frames (seen skeleton) (setVerification recordId verification) :=
  frames_skeleton_updateRecord _ fun _ ↦ rfl

/-! ### Applying and removing -/

private theorem keeps_rooted_contain (executionId : Nat) (actor : String) :
    Exec.Keeps Rooted (contain env settings c executionId actor) := by
  have hflush := keeps_rooted (frames_seen_flush env)
  apply Exec.keeps_bind (keeps_rooted (frames_seen_probe env settings _ _))
  intro reachable
  apply Exec.keeps_bind (Exec.keeps_require _ _)
  intro _
  apply Exec.keeps_bind
  · exact keeps_rooted (frames_seen_applyQuarantinePolicy env settings _ _ _ _)
  intro _
  apply Exec.keeps_bind
  · exact keeps_rooted (oblivious_skeleton.changeIncidentState env settings _ _ _ _)
  intro _
  apply Exec.keeps_bind (keeps_rooted (frames_seen_waitForContainment env settings _ _))
  intro verification
  apply Exec.keeps_bind (Exec.keeps_require _ _)
  intro _
  apply Exec.keeps_bind (keeps_rooted (frames_skeleton_setContainment _ _))
  intro _
  apply Exec.keeps_bind (keeps_rooted (frames_skeleton_setVerification _ _))
  intro _
  apply Exec.keeps_bind (keeps_rooted (oblivious_skeleton.endExecution _ _ _))
  intro _
  apply Exec.keeps_bind (keeps_rooted (oblivious_skeleton.updateProposal _ _))
  intro _
  apply Exec.keeps_bind (keeps_rooted (oblivious_skeleton.recordContainment env c _ _))
  intro _
  apply Exec.keeps_bind (keeps_rooted (frames_seen_notification env _))
  intro _
  apply Exec.keeps_bind hflush
  intro _
  apply Exec.keeps_bind (keeps_rooted_commit env)
  intro _
  exact Exec.keeps_bind hflush fun _ ↦ Exec.keeps_pure _

private theorem keeps_rooted_onContainFailure (executionId : Nat) (e : Exc) :
    Exec.Keeps Rooted (onContainFailure env settings c executionId e) := by
  cases e with
  | cloudWard error =>
    apply Exec.keeps_bind (keeps_rooted (frames_skeleton_setContainment _ _))
    intro _
    apply Exec.keeps_bind (keeps_rooted (frames_skeleton_setVerification _ _))
    intro _
    apply Exec.keeps_bind (keeps_rooted (oblivious_skeleton.endExecution _ _ _))
    intro _
    apply Exec.keeps_bind (keeps_rooted (frames_loadIncident _))
    intro incident
    apply Exec.keeps_bind
    · exact Exec.keeps_when fun _ ↦
        keeps_rooted (oblivious_skeleton.changeIncidentState env settings _ _ _ _)
    intro _
    apply Exec.keeps_bind (keeps_rooted (frames_seen_flush env))
    intro _
    exact Exec.keeps_bind (keeps_rooted_commit env) fun _ ↦ Exec.keeps_throw _
  | api status => exact Exec.keeps_throw _
  | transport => exact Exec.keeps_throw _
  | database => exact Exec.keeps_throw _
  | validation => exact Exec.keeps_throw _

private theorem keeps_rooted_release (executionId : Nat) (actor : String) :
    Exec.Keeps Rooted (release env settings c executionId actor) := by
  have hflush := keeps_rooted (frames_seen_flush env)
  apply Exec.keeps_bind
  · exact keeps_rooted (frames_seen_removeQuarantinePolicy env settings _ _ _ _)
  intro _
  apply Exec.keeps_bind (keeps_rooted (frames_seen_waitForRelease env settings _ _))
  intro verification
  apply Exec.keeps_bind (Exec.keeps_require _ _)
  intro _
  apply Exec.keeps_bind (keeps_rooted (frames_skeleton_setContainment _ _))
  intro _
  apply Exec.keeps_bind (keeps_rooted (frames_skeleton_setVerification _ _))
  intro _
  apply Exec.keeps_bind (keeps_rooted (oblivious_skeleton.endExecution _ _ _))
  intro _
  apply Exec.keeps_bind (keeps_rooted (oblivious_skeleton.updateProposal _ _))
  intro _
  apply Exec.keeps_bind (keeps_rooted (frames_loadIncident _))
  intro incident
  apply Exec.keeps_bind
  · apply Exec.keeps_when
    intro _
    apply Exec.keeps_bind (keeps_rooted (oblivious_skeleton.updateIncident _ _))
    intro _
    exact keeps_rooted (oblivious_skeleton.changeIncidentState env settings _ _ _ _)
  intro _
  apply Exec.keeps_bind hflush
  intro _
  apply Exec.keeps_bind (keeps_rooted_commit env)
  intro _
  exact Exec.keeps_bind hflush fun _ ↦ Exec.keeps_pure _

private theorem keeps_rooted_onReleaseFailure (executionId : Nat) (e : Exc) :
    Exec.Keeps Rooted (onReleaseFailure env c executionId e) := by
  cases e with
  | cloudWard error =>
    apply Exec.keeps_bind (keeps_rooted (frames_skeleton_setContainment _ _))
    intro _
    apply Exec.keeps_bind (keeps_rooted (oblivious_skeleton.endExecution _ _ _))
    intro _
    apply Exec.keeps_bind (keeps_rooted (frames_seen_flush env))
    intro _
    exact Exec.keeps_bind (keeps_rooted_commit env) fun _ ↦ Exec.keeps_throw _
  | api status => exact Exec.keeps_throw _
  | transport => exact Exec.keeps_throw _
  | database => exact Exec.keeps_throw _
  | validation => exact Exec.keeps_throw _

/-- A subject is known to the session it was read in. -/
private theorem triple_rooted_eventAndIncident (eventId : Nat) :
    Exec.Triple Rooted (eventAndIncident env eventId) (fun s w ↦ Rooted w ∧ Known s w)
      fun _ ↦ Rooted := by
  have hread := triple_eventAndIncident_reads env eventId fun v ↦
    (skeleton v.1).Sourced ∧ (skeleton v.2).Sourced
  apply hread.mono (fun _ h ↦ h)
  · intro s w h
    refine ⟨h.1, ?_⟩
    simp only [Known, skeleton, List.getElem?_map, h.2.eventId_eq, h.2.event, Option.map_some]
  · exact fun _ _ h ↦ h

private theorem triple_known {α : Type} {x : Service α} (h : Exec.Frames (seen skeleton) x) :
    Exec.Triple (fun w ↦ Rooted w ∧ Known s w) x (fun _ w ↦ Rooted w ∧ Known s w)
      fun _ ↦ Rooted :=
  (h.keeps fun v ↦ (v.1.Sourced ∧ v.2.Sourced) ∧
    v.1.events[s.eventId]? = some (originOf s.event)).mono (fun _ h ↦ h) (fun _ _ h ↦ h)
    fun _ _ h ↦ h.1

private theorem triple_rooted_execute (existing : Option (Nat × QuarantineRecord))
    (proposalId : Nat) (actor : String) :
    Exec.Triple (fun w ↦ Rooted w ∧ Known s w)
      (execute env settings s existing proposalId actor) (fun _ ↦ Rooted) fun _ ↦ Rooted := by
  apply Exec.Triple.bind (Q := fun _ ↦ Rooted)
  · cases existing with
    | none => exact triple_rooted_insertRecord _ rfl rfl
    | some entry =>
      have hkeeps : Exec.Keeps Rooted
          (updateQuarantineRecord entry.1 ({ · with status := .applying })) :=
        keeps_rooted (frames_skeleton_updateRecord _ fun _ ↦ rfl)
      apply Exec.Triple.bind (hkeeps.mono (fun _ h ↦ h.1) (fun _ _ h ↦ h) fun _ _ h ↦ h)
      intro _
      exact Exec.keeps_pure _
  intro recordId
  apply Exec.keeps_bind (keeps_rooted (frames_skeleton_setStatus _ _))
  intro _
  apply Exec.keeps_bind
  · exact Exec.keeps_when fun _ ↦
      keeps_rooted (oblivious_skeleton.changeIncidentState env settings _ _ _ _)
  intro _
  apply Exec.keeps_bind (keeps_rooted_newExecution env _ _)
  intro executionId
  apply Exec.keeps_bind (keeps_rooted (frames_seen_flush env))
  intro _
  apply Exec.keeps_tryCatch (keeps_rooted_contain env settings _ _)
  exact keeps_rooted_onContainFailure env settings executionId

private theorem triple_known_authoriseApply (actor : String) :
    Exec.Triple (fun w ↦ Rooted w ∧ Known s w) (authoriseApply env s actor)
      (fun _ w ↦ Rooted w ∧ Known s w) fun _ ↦ Rooted := by
  apply Exec.Triple.bind (triple_known (frames_seen_getPodHealth env _ _))
  intro pod
  apply Exec.Triple.bind (triple_known (Exec.frames_require _ _))
  intro _
  apply Exec.Triple.bind (triple_known (frames_seen_evaluate env _))
  intro decision
  apply Exec.Triple.bind (triple_known (frames_seen_proposalForApply env s))
  intro proposalId
  apply Exec.Triple.bind (triple_known (oblivious_skeleton.persistDecision env s _ _ _))
  intro _
  apply Exec.Triple.ite
  · intro _
    exact Exec.Triple.pure fun _ h ↦ h
  · intro _
    apply Exec.Triple.bind (triple_known (frames_seen_flush env))
    intro _
    apply Exec.Triple.bind
      ((keeps_rooted_commit env).mono (fun _ h ↦ h.1) (fun _ _ h ↦ h) fun _ _ h ↦ h)
    intro _
    exact Exec.Triple.throw fun _ h ↦ h

/-- An application keeps the rows sourced. -/
theorem keeps_rooted_applyQuarantine (eventId : Nat) (actor : String) :
    Exec.Keeps Rooted (applyQuarantine env settings eventId actor) := by
  apply Exec.Triple.bind (triple_rooted_eventAndIncident env eventId)
  intro s
  apply Exec.Triple.bind (triple_known (frames_seen_query env _))
  intro existing
  cases existing.filter fun e ↦ e.2.status ∈ [.contained, .applying] with
  | some entry => exact Exec.Triple.pure fun _ h ↦ h.1
  | none =>
    apply Exec.Triple.bind (triple_known (Exec.frames_require _ _))
    intro _
    apply Exec.Triple.bind (triple_known_authoriseApply env actor)
    intro proposalId
    exact triple_rooted_execute env settings existing proposalId actor

private theorem keeps_rooted_openRemoval (eventId : Nat) (actor : String) :
    Exec.Keeps Rooted (openRemoval env eventId actor) := by
  apply Exec.keeps_bind (keeps_rooted (frames_seen_eventAndIncident env eventId))
  intro s
  apply Exec.keeps_bind (keeps_rooted (frames_seen_query env _))
  intro found
  cases found with
  | none => exact Exec.keeps_throw _
  | some entry =>
    apply Exec.keeps_ite
    · intro _
      exact Exec.keeps_pure _
    intro _
    apply Exec.keeps_bind
    · apply Exec.keeps_bind (keeps_rooted (frames_seen_getPodHealth env _ _))
      intro pod
      apply Exec.keeps_bind (keeps_rooted (frames_seen_evaluate env _))
      intro decision
      apply Exec.keeps_bind (keeps_rooted (oblivious_skeleton.insertProposal _))
      intro proposalId
      apply Exec.keeps_bind (keeps_rooted (frames_seen_flush env))
      intro _
      apply Exec.keeps_bind (keeps_rooted (oblivious_skeleton.persistDecision env s _ _ _))
      intro _
      apply Exec.keeps_ite
      · intro _
        exact Exec.keeps_pure _
      · intro _
        apply Exec.keeps_bind (keeps_rooted (oblivious_skeleton.updateProposal _ _))
        intro _
        exact Exec.keeps_bind (keeps_rooted_commit env) fun _ ↦ Exec.keeps_throw _
    · intro c
      exact Exec.keeps_pure _

/-- A removal keeps the rows sourced. -/
theorem keeps_rooted_removeQuarantine (eventId : Nat) (actor : String) :
    Exec.Keeps Rooted (removeQuarantine env settings eventId actor) := by
  apply Exec.keeps_bind (keeps_rooted_openRemoval env eventId actor)
  intro r
  cases r with
  | inl recordId => exact Exec.keeps_pure _
  | inr c =>
    apply Exec.keeps_bind
    · apply Exec.keeps_bind (keeps_rooted (frames_skeleton_setContainment _ _))
      intro _
      exact keeps_rooted_newExecution env _ _
    intro executionId
    apply Exec.keeps_tryCatch (keeps_rooted_release env settings _ _)
    exact keeps_rooted_onReleaseFailure env executionId

/-! ### Ingesting -/

/-- The session has an incident under the identity. -/
def Opened (incidentId : Nat) (w : World) : Prop := incidentId < (skeleton w.db).incidents

private theorem triple_opened {α : Type} {x : Service α} {incidentId : Nat}
    (h : Exec.Frames (seen skeleton) x) :
    Exec.Triple (fun w ↦ Rooted w ∧ Opened incidentId w) x
      (fun _ w ↦ Rooted w ∧ Opened incidentId w) fun _ ↦ Rooted :=
  (h.keeps fun v ↦ (v.1.Sourced ∧ v.2.Sourced) ∧ incidentId < v.1.incidents).mono
    (fun _ h ↦ h) (fun _ _ h ↦ h) fun _ _ h ↦ h.1

/-- Adding an incident keeps every link. -/
private theorem triple_rooted_createIncident (row : Incident) (actor : String) :
    Exec.Triple Rooted (createIncident env row actor) (fun id w ↦ Rooted w ∧ Opened id w)
      fun _ ↦ Rooted := by
  apply Exec.Triple.bind (Q := fun id w ↦ Rooted w ∧ id = w.db.incidents.length)
  · exact Exec.Triple.read fun _ h ↦ ⟨h, rfl⟩
  intro id
  apply Exec.Triple.bind (Q := fun _ w ↦ Rooted w ∧ Opened id w)
  · apply triple_write
    rintro w ⟨h, rfl⟩
    refine ⟨⟨⟨?_, h.1.valid, h.1.named, h.1.keyed⟩, h.2⟩, ?_⟩
    · intro o ho
      obtain ⟨incidentId, hlink, hlt⟩ := h.1.linked o ho
      refine ⟨incidentId, hlink, ?_⟩
      simp only [skeleton, Table.length_insert] at hlt ⊢
      omega
    · simp only [Opened, skeleton, Table.length_insert]
      omega
  intro _
  have hflush : Exec.Triple (fun w ↦ Rooted w ∧ Opened id w) (flush env)
      (fun _ w ↦ Rooted w ∧ Opened id w) fun _ ↦ Rooted :=
    triple_opened (frames_seen_flush env)
  apply Exec.Triple.bind
  · apply triple_opened
    exact Exec.frames_update fun _ ↦ rfl
  intro _
  exact Exec.Triple.bind hflush fun _ ↦ Exec.Triple.bind hflush fun _ ↦
    Exec.Triple.bind hflush fun _ ↦ Exec.Triple.bind hflush fun _ ↦
    Exec.Triple.pure fun _ h ↦ h

private theorem triple_rooted_insertSecurityEvent (d : Delivery) (incidentId : Nat) :
    Exec.Triple (fun w ↦ Rooted w ∧ Opened incidentId w)
      (insertSecurityEvent env (eventRow d incidentId)) (fun _ ↦ Rooted) fun _ ↦ Rooted := by
  apply Exec.Triple.bind (triple_opened (Exec.frames_read _))
  intro events
  apply Exec.Triple.bind (triple_opened (Exec.frames_require _ _))
  intro _
  apply Exec.Triple.bind (Q := fun _ ↦ Rooted)
  · apply triple_write
    rintro w ⟨h, hopened⟩
    have hmem {o : Origin} (ho : o ∈ (skeleton { w.db with
        securityEvents := w.db.securityEvents.insert (eventRow d incidentId) }).events) :
        o ∈ (skeleton w.db).events ∨ o = originOf (eventRow d incidentId) := by
      simpa only [skeleton, Table.insert, List.map_append, List.map_cons, List.map_nil,
        List.mem_append, List.mem_singleton] using ho
    refine ⟨⟨?_, ?_, ?_, h.1.keyed⟩, h.2⟩
    · intro o ho
      rcases hmem ho with ho | rfl
      · exact h.1.linked o ho
      · exact ⟨incidentId, rfl, hopened⟩
    · intro o ho
      rcases hmem ho with ho | rfl
      · exact h.1.valid o ho
      · exact ⟨rfl, d.event.pod_valid, d.uuid_hex⟩
    · intro r hr
      obtain ⟨o, ho, hname⟩ := h.1.named r hr
      refine ⟨o, ?_, hname⟩
      simp only [skeleton, Table.insert, List.map_append] at ho ⊢
      have hlt := (List.getElem?_eq_some_iff.mp ho).1
      rw [List.getElem?_append_left hlt]
      exact ho
  intro _
  exact Exec.keeps_bind (keeps_rooted (frames_seen_flush env)) fun _ ↦ Exec.keeps_pure _

private theorem keeps_rooted_openEvent (d : Delivery) :
    Exec.Keeps Rooted (openEvent env settings d) := by
  apply Exec.Triple.bind (triple_rooted_createIncident env _ _)
  intro incidentId
  apply Exec.Triple.bind (triple_opened (oblivious_skeleton.updateIncident _ _))
  intro _
  apply Exec.Triple.bind (triple_opened (frames_seen_notification env _))
  intro _
  apply Exec.Triple.bind (triple_opened (oblivious_skeleton.updateIncident _ _))
  intro _
  apply Exec.Triple.bind (triple_rooted_insertSecurityEvent env d incidentId)
  intro eventId
  apply Exec.keeps_bind (keeps_rooted (frames_seen_flush env))
  intro _
  apply Exec.keeps_bind (keeps_rooted (frames_seen_flush env))
  intro _
  apply Exec.keeps_bind
  · exact keeps_rooted (oblivious_skeleton.changeIncidentState env settings _ _ _ _)
  intro _
  apply Exec.keeps_bind
  · exact keeps_rooted (oblivious_skeleton.changeIncidentState env settings _ _ _ _)
  intro _
  exact Exec.keeps_pure _

private theorem keeps_rooted_settleEvent (incidentId eventId proposalId : Nat)
    (decision : PolicyResult) :
    Exec.Keeps Rooted (settleEvent env settings incidentId eventId proposalId decision) := by
  unfold settleEvent
  apply Exec.keeps_ite
  · intro _
    exact keeps_rooted (frames_skeleton_setStatus _ _)
  intro _
  apply Exec.keeps_ite
  · intro _
    apply Exec.keeps_bind (keeps_rooted (frames_skeleton_setStatus _ _))
    intro _
    exact keeps_rooted (oblivious_skeleton.changeIncidentState env settings _ _ _ _)
  · intro _
    apply Exec.keeps_bind (keeps_rooted (oblivious_skeleton.updateProposal _ _))
    intro _
    exact keeps_rooted (oblivious_skeleton.changeIncidentState env settings _ _ _ _)

/-- An ingestion keeps the rows sourced. -/
theorem keeps_rooted_ingestSecurityEvent (d : Delivery) :
    Exec.Keeps Rooted (ingestSecurityEvent env settings d) := by
  have hflush := keeps_rooted (frames_seen_flush env)
  apply Exec.keeps_bind (keeps_rooted (frames_seen_query env _))
  intro existing
  cases existing with
  | some entry =>
    apply Exec.keeps_bind
    · exact keeps_rooted (oblivious_skeleton.updateSecurityEvent _ fun _ ↦ rfl)
    intro _
    exact Exec.keeps_bind hflush fun _ ↦ Exec.keeps_bind hflush fun _ ↦ keeps_rooted_commit env
  | none =>
    apply Exec.keeps_bind (keeps_rooted_openEvent env settings d)
    rintro ⟨incidentId, eventId⟩
    apply Exec.keeps_bind
      (keeps_rooted (oblivious_skeleton.proposeQuarantine env settings d _ _))
    rintro ⟨proposalId, decision⟩
    apply Exec.keeps_bind (keeps_rooted_settleEvent env settings _ _ _ _)
    intro _
    exact Exec.keeps_bind hflush fun _ ↦ keeps_rooted_commit env

/-! ### Reconciling -/

private theorem keeps_rooted_stillActive (x : ChaosExecution) (detail : String) :
    Exec.Keeps Rooted (stillActive env x detail) :=
  Exec.keeps_bind (keeps_rooted (frames_seen_flush env)) fun _ ↦
    Exec.keeps_bind (keeps_rooted_commit env) fun _ ↦ Exec.keeps_pure _

private theorem keeps_rooted_concludePass (x : ChaosExecution) (eventId : Nat) :
    Exec.Keeps Rooted (concludePass env x eventId) := by
  apply Exec.keeps_bind (keeps_rooted (frames_seen_loadSecurityEvent _))
  intro event
  apply Exec.keeps_bind (Exec.keeps_read _)
  intro incident
  apply Exec.keeps_ite
  · intro _
    exact Exec.keeps_bind (keeps_rooted (frames_seen_flush env)) fun _ ↦
      Exec.keeps_bind (keeps_rooted_commit env) fun _ ↦ Exec.keeps_pure _
  · intro _
    exact Exec.keeps_ite (fun _ ↦ Exec.keeps_pure _) fun _ ↦ keeps_rooted_stillActive env x _

private theorem keeps_rooted_passEvent (x : ChaosExecution) (now eventId : Nat) :
    Exec.Keeps Rooted (passEvent env settings x now eventId) := by
  apply Exec.keeps_bind (keeps_rooted (frames_seen_loadSecurityEvent _))
  intro event
  apply Exec.keeps_bind (keeps_rooted (frames_seen_flush env))
  intro _
  apply Exec.keeps_ite
  · intro _
    exact Exec.keeps_pure _
  intro _
  apply Exec.keeps_ite
  · intro _
    exact Exec.keeps_bind (keeps_rooted_applyQuarantine env settings eventId labWorker)
      fun _ ↦ keeps_rooted_stillActive env x _
  intro _
  apply Exec.keeps_ite
  · intro _
    apply Exec.keeps_bind (keeps_rooted_removeQuarantine env settings eventId labWorker)
    intro _
    apply Exec.keeps_bind (keeps_rooted (frames_seen_flush env))
    intro _
    apply Exec.keeps_bind (keeps_rooted (frames_seen_flush env))
    intro _
    exact keeps_rooted_concludePass env x eventId
  · intro _
    exact keeps_rooted_concludePass env x eventId

private theorem keeps_rooted_beforeCleanup (x : ChaosExecution) :
    Exec.Keeps Rooted (beforeCleanup env settings x) := by
  apply Exec.keeps_bind (keeps_rooted (frames_ask _ fun _ _ ↦ rfl))
  intro now
  apply Exec.keeps_bind (keeps_rooted (frames_seen_query env _))
  intro found
  cases found with
  | some eventId => exact keeps_rooted_passEvent env settings x now eventId
  | none =>
    apply Exec.keeps_ite
    · intro _
      exact Exec.keeps_bind (keeps_rooted (frames_seen_flush env)) fun _ ↦
        Exec.keeps_bind (keeps_rooted_commit env) fun _ ↦ Exec.keeps_pure _
    · intro _
      exact Exec.keeps_pure _

private theorem keeps_rooted_cleanUp (eventId : Nat) (status : ExperimentStatus)
    (detail : String) : Exec.Keeps Rooted (cleanUp env settings eventId status detail) := by
  apply Exec.keeps_bind
  · apply Exec.keeps_bind (keeps_rooted (frames_seen_loadSecurityEvent _))
    intro event
    apply Exec.keeps_ite
    · intro _
      exact Exec.keeps_pure _
    intro _
    apply Exec.keeps_tryCatch
    · exact Exec.keeps_bind (keeps_rooted_removeQuarantine env settings eventId labWorker)
        fun _ ↦ Exec.keeps_read _
    · intro e
      exact Exec.keeps_ite (fun _ ↦ Exec.keeps_pure _) fun _ ↦ Exec.keeps_throw _
  intro cleanup
  exact Exec.keeps_bind (keeps_rooted (frames_seen_flush env)) fun _ ↦
    Exec.keeps_bind (keeps_rooted_commit env) fun _ ↦ Exec.keeps_pure _

/-- A reconciliation keeps the rows sourced. -/
theorem keeps_rooted_reconcileExecution (x : ChaosExecution) :
    Exec.Keeps Rooted (reconcileExecution env settings x) := by
  apply Exec.keeps_bind (keeps_rooted (frames_seen_flush env))
  intro _
  apply Exec.keeps_ite
  · intro _
    apply Exec.keeps_bind (keeps_rooted_beforeCleanup env settings x)
    intro pass
    cases pass with
    | done result => exact Exec.keeps_pure _
    | cleanUp eventId status detail => exact keeps_rooted_cleanUp env settings _ _ _
  · intro _
    exact Exec.keeps_pure _

end Rooted

/-- **The rows stay sourced** along every run. -/
theorem sourced_run {s : State} (h : (skeleton s.rows).Sourced) (ops : List Operation) :
    (skeleton (Runs.run step s ops).rows).Sourced := by
  apply Runs.invariant (I := fun s : State ↦ (skeleton s.rows).Sourced) _ h
  intro s op h
  have hrooted : Rooted s.world := ⟨h, h⟩
  have hrun : Rooted (op.run s.world) := by
    unfold Operation.run
    split
    · exact (keeps_rooted_ingestSecurityEvent op.env op.settings _).state hrooted
    · exact (keeps_rooted_applyQuarantine op.env op.settings _ _).state hrooted
    · exact (keeps_rooted_removeQuarantine op.env op.settings _ _).state hrooted
    · exact (keeps_rooted_reconcileExecution op.env op.settings _).state hrooted
  exact hrun.2

end CloudWard.Security
