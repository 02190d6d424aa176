import CloudWard.Security.Ledger
import CloudWard.Security.Service

/-!
# What the quarantine services leave alone

Most of what the services do changes neither what a quarantine is nor what it refers to. An
observation of the rows is oblivious when it sees none of that; what it sees of a world, in
the session's rows and in the committed ones, is then left alone by every service but for
the writes that matter. The view is what the ledger sees.
-/

namespace CloudWard.Security

open CloudWard.Db CloudWard.Incidents CloudWard.Kubernetes CloudWard.Logic CloudWard.Policies
  CloudWard.Remediation Service

variable {ω : Type} {g : Database → ω}

/-- An observation of the session's rows and of the committed ones. -/
def seen (g : Database → ω) (w : World) : ω × ω := (g w.db, g w.committed)

/-- What the session's rows and the committed rows say of quarantines. -/
def view : World → Ledger × Ledger := seen ledger

/-- The columns of an event that a quarantine depends on. -/
def eventColumns (event : SecurityEvent) :
    String × Option Nat × String × String × ContainmentStatus :=
  (event.uuid, event.incidentId, event.ns, event.pod, event.containmentStatus)

/-- The columns of an execution that say which attempt it is. -/
def executionColumns (execution : ActionExecution) : Nat × Nat × Option IdempotencyKey :=
  (execution.incidentId, execution.attempt, execution.idempotencyKey)

/-- The observation sees no proposal, decision, approval or verification, no column of an incident, and of
events and executions only the columns above. -/
structure Oblivious (g : Database → ω) : Prop where
  proposals : ∀ db t, g { db with proposals := t } = g db
  policyDecisions : ∀ db t, g { db with policyDecisions := t } = g db
  approvals : ∀ db t, g { db with approvals := t } = g db
  verificationRecords : ∀ db t, g { db with verificationRecords := t } = g db
  incident : ∀ db id f, g { db with incidents := db.incidents.update id f } = g db
  execution : ∀ db id {f}, (∀ row, executionColumns (f row) = executionColumns row) →
    g { db with executions := db.executions.update id f } = g db
  event : ∀ db id {f}, (∀ row, eventColumns (f row) = eventColumns row) →
    g { db with securityEvents := db.securityEvents.update id f } = g db

/-! ### What the reads leave alone -/

section Reads

variable {f : World → ω} (htick : ∀ w n, f { w with tick := n } = f w) (env : Env)
include htick

theorem frames_notification (enabled : Prop) [Decidable enabled] :
    Exec.Frames f (Exec.when enabled do
      Exec.faultOf (← ask env.validation)
      flush env) := by
  apply Exec.frames_when
  intro _
  apply Exec.frames_bind (frames_ask _ htick)
  intro fault
  exact Exec.frames_bind (Exec.frames_faultOf fault) fun _ ↦ frames_flush env htick

theorem frames_eventAndIncident (eventId : Nat) : Exec.Frames f (eventAndIncident env eventId) := by
  apply Exec.frames_bind (frames_query env _ htick)
  intro row
  cases row with
  | none => exact Exec.frames_throw _
  | some event =>
    simp only
    cases event.incidentId with
    | none => exact Exec.frames_throw _
    | some incidentId =>
      apply Exec.frames_bind (frames_query env _ htick)
      intro row
      cases row with
      | none => exact Exec.frames_throw _
      | some incident => exact Exec.frames_pure _

theorem frames_proposalForApply (s : Subject) : Exec.Frames f (proposalForApply env s) := by
  apply Exec.frames_bind (frames_query env _ htick)
  intro proposal
  cases proposal with
  | none => exact Exec.frames_throw _
  | some entry => exact Exec.frames_pure _

end Reads

section Frames

variable (env : Env) (settings : Settings)

theorem frames_seen_write {f : Database → Database} (h : ∀ db, g (f db) = g db) :
    Exec.Frames (seen g) (write f) :=
  Exec.frames_update fun w ↦ congrArg (·, g w.committed) (h w.db)

theorem frames_seen_flush : Exec.Frames (seen g) (flush env) := frames_flush env fun _ _ ↦ rfl

theorem frames_seen_query {α : Type} (f : Database → α) :
    Exec.Frames (seen g) (query env f) :=
  frames_query env f fun _ _ ↦ rfl

theorem frames_seen_getPodHealth (ns name : String) :
    Exec.Frames (seen g) (getPodHealth env ns name) :=
  frames_getPodHealth (fun _ _ ↦ rfl) env ns name

theorem frames_seen_probe (ns name : String) :
    Exec.Frames (seen g) (probeControlledSecurityEgress env settings ns name) :=
  frames_probeControlledSecurityEgress (fun _ _ ↦ rfl) env settings ns name

theorem frames_seen_policyState (ns name policyName quarantineId : String) :
    Exec.Frames (seen g)
      (getQuarantinePolicyState env settings ns name policyName quarantineId) :=
  frames_getQuarantinePolicyState (fun _ _ ↦ rfl) env settings ns name policyName quarantineId

theorem frames_seen_applyQuarantinePolicy (ns name quarantineId incidentId : String) :
    Exec.Frames (seen g)
      (applyQuarantinePolicy env settings ns name quarantineId incidentId) :=
  frames_applyQuarantinePolicy (fun _ _ ↦ rfl) (fun _ _ ↦ rfl) (fun _ _ ↦ rfl) env settings
    ns name quarantineId incidentId

theorem frames_seen_removeQuarantinePolicy (ns name policyName quarantineId : String) :
    Exec.Frames (seen g)
      (removeQuarantinePolicy env settings ns name policyName quarantineId) :=
  frames_removeQuarantinePolicy (fun _ _ ↦ rfl) (fun _ _ ↦ rfl) (fun _ _ ↦ rfl) env settings
    ns name policyName quarantineId

theorem frames_seen_evaluate (input : PolicyInput) :
    Exec.Frames (seen g) (evaluate env input) :=
  frames_evaluate env input (fun _ _ ↦ rfl) fun _ _ ↦ rfl

theorem frames_seen_notification (enabled : Prop) [Decidable enabled] :
    Exec.Frames (seen g) (Exec.when enabled do
      Exec.faultOf (← ask env.validation)
      flush env) :=
  frames_notification (fun _ _ ↦ rfl) env enabled

theorem frames_seen_loadSecurityEvent (id : Nat) :
    Exec.Frames (seen g) (loadSecurityEvent id) := by
  apply Exec.frames_bind (Exec.frames_read _)
  intro row
  cases row with
  | none => exact Exec.frames_throw _
  | some row => exact Exec.frames_pure _

theorem frames_seen_eventAndIncident (eventId : Nat) :
    Exec.Frames (seen g) (eventAndIncident env eventId) :=
  frames_eventAndIncident (fun _ _ ↦ rfl) env eventId

/-- What an operation has read of its event and its incident. -/
structure Subject.ReadFrom (s : Subject) (eventId : Nat) (db : Database) : Prop where
  eventId_eq : s.eventId = eventId
  event : db.securityEvents[eventId]? = some s.event
  linked : s.event.incidentId = some s.incidentId
  incident : db.incidents[s.incidentId]? = some s.incident

/-- A query returns what it reads, and keeps what is known of the rows. -/
theorem triple_query {α : Type} (f : Database → α) (p : Database × Database → Prop) :
    Exec.Triple (fun w ↦ p (seen id w)) (query env f)
      (fun a w ↦ p (seen id w) ∧ a = f w.db) fun _ w ↦ p (seen id w) := by
  apply Exec.Triple.bind ((frames_seen_flush env).keeps p)
  intro _
  exact Exec.Triple.read fun _ h ↦ ⟨h, rfl⟩

/-- The subject of an operation is what its session has, and what is known of the rows is
kept. -/
theorem triple_eventAndIncident_reads (eventId : Nat) (p : Database × Database → Prop) :
    Exec.Triple (fun w ↦ p (seen id w)) (eventAndIncident env eventId)
      (fun s w ↦ p (seen id w) ∧ s.ReadFrom eventId w.db) fun _ w ↦ p (seen id w) := by
  apply Exec.Triple.bind (triple_query env _ p)
  intro row
  cases row with
  | none => exact Exec.Triple.throw fun _ h ↦ h.1
  | some event =>
    simp only
    cases hlinked : event.incidentId with
    | none => exact Exec.Triple.throw fun _ h ↦ h.1
    | some incidentId =>
      apply Exec.Triple.bind
        ((triple_query env (·.incidents[incidentId]?) fun v ↦
          p v ∧ some event = v.1.securityEvents[eventId]?).mono (fun _ h ↦ h) (fun _ _ h ↦ h)
          fun _ _ h ↦ h.1)
      intro row
      cases row with
      | none => exact Exec.Triple.throw fun _ h ↦ h.1.1
      | some incident =>
        refine Exec.Triple.pure fun w h ↦ ⟨h.1.1, ?_⟩
        exact {
          eventId_eq := rfl
          event := h.1.2.symm
          linked := hlinked
          incident := h.2.symm }

theorem frames_seen_proposalForApply (s : Subject) :
    Exec.Frames (seen g) (proposalForApply env s) :=
  frames_proposalForApply (fun _ _ ↦ rfl) env s

theorem frames_seen_pollUntil {check : Service ContainmentVerification}
    (h : Exec.Frames (seen g) check) (left : Nat) :
    Exec.Frames (seen g) (pollUntil check left) := by
  induction left with
  | zero => exact h
  | succ left ih =>
    apply Exec.frames_bind h
    intro latest
    exact Exec.frames_ite (Exec.frames_pure _) ih

theorem frames_seen_waitForContainment (event : SecurityEvent) (policyName : String) :
    Exec.Frames (seen g) (waitForContainment env settings event policyName) := by
  apply Exec.frames_bind (frames_ask _ fun _ _ ↦ rfl)
  intro left
  apply frames_seen_pollUntil
  apply Exec.frames_bind (frames_seen_policyState env settings _ _ _ _)
  intro state
  apply Exec.frames_bind (frames_seen_probe env settings _ _)
  intro reachable
  exact Exec.frames_bind (frames_seen_getPodHealth env _ _) fun _ ↦ Exec.frames_pure _

theorem frames_seen_waitForRelease (event : SecurityEvent) (policyName : String) :
    Exec.Frames (seen g) (waitForRelease env settings event policyName) := by
  apply Exec.frames_bind (frames_ask _ fun _ _ ↦ rfl)
  intro left
  apply frames_seen_pollUntil
  apply Exec.frames_bind (frames_seen_policyState env settings _ _ _ _)
  intro state
  exact Exec.frames_bind (frames_seen_probe env settings _ _) fun _ ↦ Exec.frames_pure _

/-! ### Writes that an oblivious observation does not see -/

namespace Oblivious

variable (h : Oblivious g)
include h

theorem updateIncident (id : Nat) (f : Incident → Incident) :
    Exec.Frames (seen g) (updateIncident id f) :=
  frames_seen_write fun db ↦ h.incident db id f

theorem updateProposal (id : Nat) (f : ActionProposal → ActionProposal) :
    Exec.Frames (seen g) (updateProposal id f) :=
  frames_seen_write fun db ↦ h.proposals db _

theorem insertPolicyDecision (row : PolicyDecision) :
    Exec.Frames (seen g) (insertPolicyDecision row) :=
  frames_seen_write fun db ↦ h.policyDecisions db _

theorem updateSecurityEvent (id : Nat) {f : SecurityEvent → SecurityEvent}
    (hf : ∀ row, eventColumns (f row) = eventColumns row) :
    Exec.Frames (seen g) (updateSecurityEvent id f) :=
  frames_seen_write fun db ↦ h.event db id hf

theorem endExecution (executionId : Nat) (status : RecordStatus) (errorCode : Option String) :
    Exec.Frames (seen g) (endExecution executionId status errorCode) :=
  frames_seen_write fun db ↦ h.execution db executionId fun _ ↦ rfl

theorem recordContainment (c : Containment) (executionId : Nat)
    (verification : ContainmentVerification) :
    Exec.Frames (seen g) (recordContainment env c executionId verification) := by
  apply Exec.frames_bind (frames_loadExecution executionId)
  intro execution
  apply Exec.frames_bind (frames_ask _ fun _ _ ↦ rfl)
  intro now
  exact frames_insertVerificationRecord (fun _ _ ↦ rfl) env _ fun w t ↦
    congrArg (·, g w.committed) (h.verificationRecords w.db t)

theorem insertProposal (row : ActionProposal) : Exec.Frames (seen g) (insertProposal row) :=
  Exec.frames_bind (Exec.frames_read _) fun _ ↦
    Exec.frames_bind (frames_seen_write fun db ↦ h.proposals db _) fun _ ↦ Exec.frames_pure _

theorem changeIncidentState (incidentId : Nat) (target : IncidentState) (actor : String)
    (details : Details) :
    Exec.Frames (seen g) (changeIncidentState env settings incidentId target actor details) :=
  frames_changeIncidentState_of_update (fun _ _ ↦ rfl) env settings incidentId target actor
    details false (fun w _ ↦ congrArg (·, g w.committed) (h.incident w.db incidentId _))
    (fun _ _ _ ↦ rfl) fun _ w t _ ↦ congrArg (·, g w.committed) (h.approvals w.db t)

theorem persistDecision (s : Subject) (proposalId : Nat) (input : PolicyInput)
    (decision : PolicyResult) :
    Exec.Frames (seen g) (persistDecision env s proposalId input decision) := by
  apply Exec.frames_bind (h.insertPolicyDecision _)
  intro _
  apply Exec.frames_bind
  · exact h.updateSecurityEvent _ fun _ ↦ rfl
  intro _
  exact frames_seen_flush env

theorem proposeQuarantine (d : Delivery) (incidentId eventId : Nat) :
    Exec.Frames (seen g) (proposeQuarantine env settings d incidentId eventId) := by
  apply Exec.frames_bind (h.updateIncident _ _)
  intro _
  apply Exec.frames_bind (frames_seen_flush env)
  intro _
  apply Exec.frames_bind (h.changeIncidentState env settings _ _ _ _)
  intro _
  apply Exec.frames_bind (h.insertProposal _)
  intro proposalId
  apply Exec.frames_bind (frames_seen_flush env)
  intro _
  apply Exec.frames_bind (frames_seen_flush env)
  intro _
  apply Exec.frames_bind (h.changeIncidentState env settings _ _ _ _)
  intro _
  apply Exec.frames_bind (frames_seen_evaluate env _)
  intro decision
  apply Exec.frames_bind
  · exact h.updateSecurityEvent _ fun _ ↦ rfl
  intro _
  apply Exec.frames_bind (h.insertPolicyDecision _)
  intro _
  exact Exec.frames_bind (frames_seen_flush env) fun _ ↦ Exec.frames_pure _

end Oblivious

/-! ### The view -/

theorem oblivious_ledger : Oblivious ledger where
  proposals _ _ := rfl
  policyDecisions _ _ := rfl
  approvals _ _ := rfl
  verificationRecords _ _ := rfl
  incident _ _ _ := rfl
  execution _ _ _ _ := rfl
  event db id f hf := by
    unfold ledger
    congr 1
    apply Table.map_update
    intro row
    have hrow := hf row
    simp only [eventColumns, Prod.mk.injEq] at hrow
    simp only [policyNameOf, quarantineIdOf, hrow.1, hrow.2.2.2.2]

theorem frames_view_insertExecution (row : ActionExecution) :
    Exec.Frames view (insertExecution env row) := by
  apply Exec.frames_bind (Exec.frames_read _)
  intro executions
  apply Exec.frames_bind (Exec.frames_require _ _)
  intro _
  apply Exec.frames_bind
  · exact frames_seen_write fun _ ↦ rfl
  intro _
  exact Exec.frames_bind (frames_seen_flush env) fun _ ↦ Exec.frames_pure _

theorem frames_view_newExecution (s : Subject) (proposalId : Nat) (action : ActionType) :
    Exec.Frames view (newExecution env s proposalId action) := by
  apply Exec.frames_bind (frames_seen_query env _)
  intro highest
  split
  · exact frames_view_insertExecution env _
  · exact Exec.frames_throw _

theorem frames_view_createIncident (row : Incident) (actor : String) :
    Exec.Frames view (createIncident env row actor) :=
  frames_createIncident (fun _ _ ↦ rfl) env row actor (fun _ ↦ rfl) fun _ _ ↦ rfl

end Frames

end CloudWard.Security
