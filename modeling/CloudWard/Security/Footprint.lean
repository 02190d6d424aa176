import CloudWard.Remediation.Execution
import CloudWard.Security.Replay
import CloudWard.Security.Rows

/-!
# What a call on quarantines leaves

A call of `apply_quarantine` or `remove_quarantine` writes no record but its event's, and asks
Kubernetes for nothing but its event's label and policy. Until it commits, the committed rows are
those it found; what it commits, once requests took effect, says what the cluster is like.
-/

namespace CloudWard.Security

open CloudWard.Db CloudWard.Incidents CloudWard.Kubernetes CloudWard.Logic CloudWard.Policies
  CloudWard.Remediation Service Trace

/-- Reads that return show the objects of the cluster, and a policy that is not found is not
there; any read may fail otherwise. -/
structure Truthful (env : Env) : Prop where
  readPod : ∀ w ns name pod, env.readPod w ns name = .ok pod → w.cluster.pod? ns name = some pod
  readPolicy : ∀ w ns name policy, env.readPolicy w ns name = .ok policy →
    w.cluster.policy? ns name = some policy
  missing : ∀ w ns name, env.readPolicy w ns name = .error (.api 404) →
    w.cluster.policy? ns name = none

/-! ### What is seen of a world -/

/-- A quarantine record's columns that a call goes by. -/
structure QuarantineEntry where
  eventId : Nat
  policyName : String
  status : ContainmentStatus

/-- The records of quarantines, and what the events are about. -/
structure Quarantines where
  records : Table QuarantineEntry
  origins : Table Origin

/-- The entry of a record. -/
def entryOf (record : QuarantineRecord) : QuarantineEntry :=
  ⟨record.securityEventId, record.policyName, record.status⟩

/-- The quarantines of a database. -/
def quarantines (db : Database) : Quarantines where
  records := db.quarantineRecords.map entryOf
  origins := db.securityEvents.map originOf

/-- What a call on quarantines may change. -/
structure Sight where
  cluster : Cluster
  trace : List Event
  session : Quarantines
  committed : Quarantines

/-- What is seen of a world. -/
def sight (w : World) : Sight := ⟨w.cluster, w.trace, quarantines w.db, quarantines w.committed⟩

namespace Quarantines

variable {q k : Quarantines} {eventId recordId : Nat} {e : QuarantineEntry}

/-- The event has a contained record. -/
def Contains (q : Quarantines) (eventId : Nat) : Prop :=
  ∃ e ∈ q.records, e.eventId = eventId ∧ e.status = .contained

/-- The event has a record that is not removed. -/
def Present (q : Quarantines) (eventId : Nat) : Prop :=
  ∃ e ∈ q.records, e.eventId = eventId ∧ e.status ≠ .removed

/-- The event has the record, in a status that meets a condition. -/
def Has (q : Quarantines) (eventId recordId : Nat) (P : ContainmentStatus → Prop) : Prop :=
  ∃ e, q.records[recordId]? = some e ∧ e.eventId = eventId ∧ P e.status

/-- No record of the event but one may be contained. -/
def OnlyAt (q : Quarantines) (eventId recordId : Nat) : Prop :=
  ∀ (id : Nat) (e : QuarantineEntry), q.records[id]? = some e → e.eventId = eventId →
    e.status = .contained → id = recordId

/-- The records of other events, and what all events are about, are those of `k`. -/
structure Beside (q k : Quarantines) (eventId : Nat) : Prop where
  origins : q.origins = k.origins
  others : ∀ (id : Nat) (e : QuarantineEntry), e.eventId ≠ eventId →
    (q.records[id]? = some e ↔ k.records[id]? = some e)

/-- Set the status of a record. -/
def turn (q : Quarantines) (recordId : Nat) (status : ContainmentStatus) : Quarantines :=
  { q with records := q.records.update recordId fun e ↦ { e with status } }

/-- Add a record. -/
def add (q : Quarantines) (e : QuarantineEntry) : Quarantines := { q with records := q.records.insert e }

theorem Beside.refl (q : Quarantines) (eventId : Nat) : q.Beside q eventId :=
  ⟨rfl, fun _ _ _ ↦ Iff.rfl⟩

theorem Has.mono {P P' : ContainmentStatus → Prop} (h : q.Has eventId recordId P)
    (hP : ∀ status, P status → P' status) : q.Has eventId recordId P' := by
  obtain ⟨e, he, hof, hstatus⟩ := h
  exact ⟨e, he, hof, hP _ hstatus⟩

theorem Has.present (h : q.Has eventId recordId (· ≠ .removed)) : q.Present eventId := by
  obtain ⟨e, he, hof, hstatus⟩ := h
  exact ⟨e, List.mem_of_getElem? he, hof, hstatus⟩

theorem Has.turn {P : ContainmentStatus → Prop} (h : q.Has eventId recordId P)
    (status : ContainmentStatus) : (q.turn recordId status).Has eventId recordId (· = status) := by
  obtain ⟨e, he, hof, -⟩ := h
  use { e with status }
  simp only [Quarantines.turn, Table.getElem?_update_self, he, Option.map_some]
  exact ⟨trivial, hof, trivial⟩

theorem Beside.turn (h : q.Beside k eventId) {P : ContainmentStatus → Prop}
    (hhas : q.Has eventId recordId P) (status : ContainmentStatus) :
    (q.turn recordId status).Beside k eventId := by
  obtain ⟨e, he, hof, -⟩ := hhas
  constructor
  · exact h.origins
  · intro id e' hother
    rw [← h.others id e' hother]
    simp only [Quarantines.turn, Table.getElem?_update]
    by_cases hid : recordId = id
    · subst hid
      rw [if_pos rfl, he]
      -- the record is of the event, before and after
      constructor
      · intro heq
        rw [Option.map_some, Option.some.injEq] at heq
        rw [← heq] at hother
        exact absurd hof hother
      · intro heq
        rw [Option.some.injEq] at heq
        rw [← heq] at hother
        exact absurd hof hother
    · rw [if_neg hid]

theorem Beside.add (h : q.Beside k eventId) (hof : e.eventId = eventId) :
    (q.add e).Beside k eventId := by
  constructor
  · exact h.origins
  · intro id e' hother
    rw [← h.others id e' hother]
    simp only [Quarantines.add, Table.getElem?_insert_eq_some]
    constructor
    · rintro (hold | ⟨-, rfl⟩)
      · exact hold
      · exact absurd hof hother
    · exact .inl

theorem onlyAt_of_not_contains (h : ¬ q.Contains eventId) : q.OnlyAt eventId recordId :=
  fun _ e he hof hstatus ↦ absurd ⟨e, List.mem_of_getElem? he, hof, hstatus⟩ h

theorem OnlyAt.turn (h : q.OnlyAt eventId recordId) (status : ContainmentStatus) :
    (q.turn recordId status).OnlyAt eventId recordId := by
  intro id e he hof hstatus
  simp only [Quarantines.turn, Table.getElem?_update] at he
  by_cases hid : recordId = id
  · exact hid.symm
  · rw [if_neg hid] at he
    exact h id e he hof hstatus

theorem OnlyAt.not_contains (h : q.OnlyAt eventId recordId) {status : ContainmentStatus}
    (hstatus : status ≠ .contained) : ¬ (q.turn recordId status).Contains eventId := by
  rintro ⟨e, he, hof, hcontained⟩
  obtain ⟨id, hid⟩ := List.mem_iff_getElem?.mp he
  obtain rfl := h.turn status id e hid hof hcontained
  simp only [Quarantines.turn, Table.getElem?_update_self, Option.map_eq_some_iff] at hid
  obtain ⟨e', -, rfl⟩ := hid
  exact hstatus hcontained

theorem not_contains_turn (h : ¬ q.Contains eventId) {status : ContainmentStatus}
    (hstatus : status ≠ .contained) : ¬ (q.turn recordId status).Contains eventId :=
  (onlyAt_of_not_contains h).not_contains hstatus

theorem not_contains_add (h : ¬ q.Contains eventId) (hstatus : e.status ≠ .contained) :
    ¬ (q.add e).Contains eventId := by
  rintro ⟨e', he, hof, hcontained⟩
  rcases List.mem_append.mp he with hold | hnew
  · exact h ⟨e', hold, hof, hcontained⟩
  · obtain rfl := List.mem_singleton.mp hnew
    exact hstatus hcontained

theorem has_add (hof : e.eventId = eventId) :
    (q.add e).Has eventId q.records.fresh (· = e.status) :=
  ⟨e, Table.getElem?_insert_fresh _ e, hof, rfl⟩

end Quarantines

/-! ### Steps that are seen -/

section Steps

variable (env : Env) (settings : Settings) {s : Subject} {recordId : Nat} {p : Sight → Prop}

theorem frames_sight_flush : Exec.Frames sight (flush env) := frames_flush env fun _ _ ↦ rfl

theorem frames_sight_getPodHealth (ns name : String) :
    Exec.Frames sight (getPodHealth env ns name) :=
  frames_getPodHealth (fun _ _ ↦ rfl) env ns name

theorem frames_sight_policyState (ns name policyName quarantineId : String) :
    Exec.Frames sight
      (getQuarantinePolicyState env settings ns name policyName quarantineId) :=
  frames_getQuarantinePolicyState (fun _ _ ↦ rfl) env settings ns name policyName quarantineId

theorem frames_sight_probe (ns name : String) :
    Exec.Frames sight (probeControlledSecurityEgress env settings ns name) :=
  frames_probeControlledSecurityEgress (fun _ _ ↦ rfl) env settings ns name

theorem frames_sight_changeIncidentState (incidentId : Nat) (target : IncidentState)
    (actor : String) (details : Details) :
    Exec.Frames sight (changeIncidentState env settings incidentId target actor details) :=
  frames_changeIncidentState (fun _ _ ↦ rfl) env settings incidentId target actor details false
    (fun _ _ ↦ rfl) (fun _ _ _ ↦ rfl) fun _ _ _ _ ↦ rfl

theorem frames_sight_event (id : Nat) {f : SecurityEvent → SecurityEvent}
    (hf : ∀ row, originOf (f row) = originOf row) :
    Exec.Frames sight (updateSecurityEvent id f) := by
  apply Exec.frames_update
  intro w
  have horigins : quarantines { w.db with securityEvents := w.db.securityEvents.update id f } =
      quarantines w.db := by
    unfold quarantines
    rw [Table.map_update w.db.securityEvents id hf]
  exact congrArg (fun q ↦ Sight.mk w.cluster w.trace q (quarantines w.committed)) horigins

theorem frames_sight_setVerification (verification : ContainmentVerification) :
    Exec.Frames sight (setVerification recordId verification) := by
  apply Exec.frames_update
  intro w
  have hentries (record : QuarantineRecord) :
      entryOf { record with verification } = entryOf record := rfl
  have hrecords : quarantines { w.db with
      quarantineRecords := w.db.quarantineRecords.update recordId ({ · with verification }) } =
      quarantines w.db := by
    unfold quarantines
    rw [Table.map_update w.db.quarantineRecords recordId hentries]
  exact congrArg (fun q ↦ Sight.mk w.cluster w.trace q (quarantines w.committed)) hrecords

theorem frames_sight_persistDecision (proposalId : Nat) (input : PolicyInput)
    (decision : PolicyResult) :
    Exec.Frames sight (persistDecision env s proposalId input decision) := by
  apply Exec.frames_bind
  · exact Exec.frames_update fun _ ↦ rfl
  intro _
  apply Exec.frames_bind
  · exact frames_sight_event _ fun _ ↦ rfl
  intro _
  exact frames_sight_flush env

theorem frames_sight_newExecution (proposalId : Nat) (action : ActionType) :
    Exec.Frames sight (newExecution env s proposalId action) := by
  apply Exec.frames_bind (frames_query env _ fun _ _ ↦ rfl)
  intro highest
  split
  · exact frames_insertExecution_of_table (fun _ _ ↦ rfl) (fun _ _ ↦ rfl) env _
  · exact Exec.frames_throw _

theorem frames_sight_recordContainment (c : Containment) (executionId : Nat)
    (verification : ContainmentVerification) :
    Exec.Frames sight (recordContainment env c executionId verification) := by
  apply Exec.frames_bind (frames_loadExecution executionId)
  intro execution
  apply Exec.frames_bind (frames_ask _ fun _ _ ↦ rfl)
  intro now
  exact frames_insertVerificationRecord (fun _ _ ↦ rfl) env _ fun _ _ ↦ rfl

theorem frames_sight_insertProposal (row : ActionProposal) :
    Exec.Frames sight (insertProposal row) := by
  apply Exec.frames_bind (Exec.frames_read _)
  intro id
  apply Exec.frames_bind
  · exact Exec.frames_update fun _ ↦ rfl
  intro _
  exact Exec.frames_pure _

/-- An evaluation adds itself to the trace. -/
theorem keeps_evaluate
    (h : ∀ v input policy, p v → p { v with trace := .evaluated input policy :: v.trace })
    (input : PolicyInput) : Exec.Keeps (fun w ↦ p (sight w)) (evaluate env input) := by
  apply Exec.keeps_of_state
  intro w hw
  exact h (sight w) input (env.opa w input) hw

/-- A request that takes effect does so on the cluster and adds itself to the trace. -/
theorem keeps_send {m : Mutation}
    (h : ∀ v, p v → p { v with cluster := v.cluster.apply m, trace := .mutated m :: v.trace }) :
    Exec.Keeps (fun w ↦ p (sight w)) (send env m) := by
  have heffect : Exec.Keeps (fun w ↦ p (sight w)) (effect m) :=
    Exec.Triple.update fun w hw ↦ h (sight w) hw
  have hask : Exec.Frames sight (ask (env.request · m)) := frames_ask _ fun _ _ ↦ rfl
  apply Exec.keeps_bind (hask.keeps p)
  intro reply
  cases reply with
  | done => exact heffect
  | refused e => exact Exec.keeps_throw e
  | lost e => exact Exec.keeps_bind heffect fun _ ↦ Exec.keeps_throw e

/-- A commit makes the session's rows the committed ones. -/
theorem keeps_commit
    (h : ∀ v, p v → p { v with trace := .committed :: v.trace, committed := v.session }) :
    Exec.Keeps (fun w ↦ p (sight w)) (commit env) := by
  apply Exec.keeps_bind ((frames_sight_flush env).keeps p)
  intro _
  exact Exec.Triple.update fun w hw ↦ h (sight w) hw

/-- The status of a record and of its event is set. -/
theorem triple_turn {q : Sight → Prop} {status : ContainmentStatus} {E : Exc → World → Prop}
    (h : ∀ v, p v → q { v with session := v.session.turn recordId status }) :
    Exec.Triple (fun w ↦ p (sight w)) (setContainment s recordId status)
      (fun _ w ↦ q (sight w)) E := by
  intro w hw
  have hrecords := Table.map_update_comm w.db.quarantineRecords recordId
    (f := fun record ↦ { record with status }) (g := entryOf)
    (h := fun e ↦ { e with status }) fun _ ↦ rfl
  have horigins := Table.map_update w.db.securityEvents s.eventId
    (f := fun event ↦ { event with containmentStatus := status }) (g := originOf) fun _ ↦ rfl
  have hsight : sight { w with db := { w.db with
      quarantineRecords := w.db.quarantineRecords.update recordId ({ · with status })
      securityEvents := w.db.securityEvents.update s.eventId fun event ↦
        { event with containmentStatus := status } } } =
      { sight w with session := (sight w).session.turn recordId status } :=
    congrArg₂ (fun records origins ↦ Sight.mk w.cluster w.trace ⟨records, origins⟩
      (quarantines w.committed)) hrecords horigins
  change q (sight { w with db := _ })
  rw [hsight]
  exact h (sight w) hw

end Steps

/-! ### Reads that show the cluster -/

private theorem triple_pollUntil {p r : Sight → Prop} {check : Service ContainmentVerification}
    (hcheck : Exec.Triple (fun w ↦ p (sight w)) check
      (fun v w ↦ p (sight w) ∧ (v.success = some true → r (sight w))) fun _ w ↦ p (sight w))
    (left : Nat) :
    Exec.Triple (fun w ↦ p (sight w)) (pollUntil check left)
      (fun v w ↦ p (sight w) ∧ (v.success = some true → r (sight w))) fun _ w ↦ p (sight w) := by
  induction left with
  | zero => exact hcheck
  | succ left ih =>
    apply Exec.Triple.bind hcheck
    intro latest
    apply Exec.Triple.ite
    · intro _
      exact Exec.Triple.pure fun _ hw ↦ hw
    · intro _
      exact ih.mono (fun _ hw ↦ hw.1) (fun _ _ hw ↦ hw) fun _ _ hw ↦ hw

section Reads

variable {env : Env} (h : Truthful env) (settings : Settings) (p : Sight → Prop)
include h

theorem Truthful.triple_getPodHealth (ns name : String) :
    Exec.Triple (fun w ↦ p (sight w)) (getPodHealth env ns name)
      (fun pod w ↦ p (sight w) ∧ w.cluster.pod? ns name = some pod) fun _ w ↦ p (sight w) := by
  have hvalid (value label : String) :
      Exec.Keeps (fun w ↦ p (sight w)) (validateName value label) :=
    (frames_validateName value label).keeps p
  apply Exec.Triple.bind (hvalid _ _)
  intro _
  apply Exec.Triple.bind (hvalid _ _)
  intro _ w hw
  simp only [wrapping, Exec.run_tryCatch, run_call]
  cases hread : env.readPod w ns name with
  | error e => exact hw
  | ok pod => exact ⟨hw, h.readPod w ns name pod hread⟩

private theorem Truthful.triple_readPolicy (ns policyName : String) :
    Exec.Triple (fun w ↦ p (sight w)) (readQuarantinePolicy env ns policyName)
      (fun policy w ↦ p (sight w) ∧ w.cluster.policy? ns policyName = policy)
      fun _ w ↦ p (sight w) := by
  intro w hw
  simp only [readQuarantinePolicy, Exec.run_tryCatch, Exec.run_bind, run_call]
  cases hread : env.readPolicy w ns policyName with
  | ok policy => exact ⟨hw, h.readPolicy w ns policyName policy hread⟩
  | error e =>
    by_cases hmissing : e = .api 404
    · subst hmissing
      exact ⟨hw, h.missing w ns policyName hread⟩
    · simp only [if_neg hmissing]
      exact hw

/-- What a state of the event's policy says of the cluster. -/
structure Shows (event : SecurityEvent) (state : QuarantinePolicyState) (cluster : Cluster) :
    Prop where
  enforced : state.enforced → Enforced cluster event
  unselected : state.policyExists = false → Unselected cluster event

theorem Truthful.triple_policyState (event : SecurityEvent) :
    Exec.Triple (fun w ↦ p (sight w))
      (getQuarantinePolicyState env settings event.ns event.pod (policyNameOf event)
        (quarantineIdOf event))
      (fun state w ↦ p (sight w) ∧ Shows event state w.cluster) fun _ w ↦ p (sight w) := by
  have hvalid (value label : String) :
      Exec.Keeps (fun w ↦ p (sight w)) (validateName value label) :=
    (frames_validateName value label).keeps p
  have hnamespace : Exec.Keeps (fun w ↦ p (sight w)) (requireNamespace settings event.ns) :=
    (frames_requireNamespace settings event.ns).keeps p
  apply Exec.Triple.bind hnamespace
  intro _
  apply Exec.Triple.bind (hvalid _ _)
  intro _
  apply Exec.Triple.bind (hvalid _ _)
  intro _
  apply Exec.Triple.bind (hvalid _ _)
  intro _
  apply Exec.Triple.bind (h.triple_readPolicy p _ _)
  intro policy
  apply Exec.Triple.bind
    ((h.triple_getPodHealth (fun v ↦ p v ∧ v.cluster.policy? event.ns (policyNameOf event) =
      policy) event.ns event.pod).mono (fun _ hw ↦ hw) (fun _ _ hw ↦ hw) fun _ _ hw ↦ hw.1)
  intro pod
  apply Exec.Triple.pure
  rintro w ⟨⟨hw, hpolicy⟩, hpod⟩
  refine ⟨hw, ?_, ?_⟩
  · intro henforced
    simp only [QuarantinePolicyState.enforced, Bool.and_eq_true, decide_eq_true_eq,
      Option.any_eq_true] at henforced
    obtain ⟨⟨⟨policy', hsome, hlabels⟩, hlabel⟩, policy'', hsome', hdeny⟩ := henforced
    rw [hsome, Option.some.injEq] at hsome'
    subst hsome'
    constructor
    · exact ⟨policy', hpolicy.trans hsome, hlabels, hdeny⟩
    · simp only [Cluster.quarantineIdOf, hpod, Option.bind_some, hlabel]
  · intro hnone policy' hpolicy' hlabels
    have hsome : policy = some policy' := hpolicy.symm.trans hpolicy'
    simp only [hsome, Option.any_some, hlabels, decide_true, Bool.true_eq_false] at hnone

/-- A containment that is verified is enforced. -/
theorem Truthful.triple_waitForContainment (event : SecurityEvent) :
    Exec.Triple (fun w ↦ p (sight w))
      (waitForContainment env settings event (policyNameOf event))
      (fun v w ↦ p (sight w) ∧ (v.success = some true → Enforced (sight w).cluster event))
      fun _ w ↦ p (sight w) := by
  have hask : Exec.Frames sight (ask env.polls) := frames_ask _ fun _ _ ↦ rfl
  apply Exec.Triple.bind (hask.keeps p)
  intro left
  apply triple_pollUntil (r := fun v ↦ Enforced v.cluster event)
  apply Exec.Triple.bind (h.triple_policyState settings p event)
  intro state
  have hkeeps {α : Type} {x : Service α} (hx : Exec.Frames sight x) :
      Exec.Triple (fun w ↦ p (sight w) ∧ Shows event state w.cluster) x
        (fun _ w ↦ p (sight w) ∧ Shows event state w.cluster) fun _ w ↦ p (sight w) :=
    (hx.keeps fun v ↦ p v ∧ Shows event state v.cluster).mono (fun _ hw ↦ hw) (fun _ _ hw ↦ hw)
      fun _ _ hw ↦ hw.1
  apply Exec.Triple.bind (hkeeps (frames_sight_probe env settings _ _))
  intro reachable
  apply Exec.Triple.bind (hkeeps (frames_sight_getPodHealth env _ _))
  intro pod
  apply Exec.Triple.pure
  rintro w ⟨hw, hshows⟩
  refine ⟨hw, fun hsuccess ↦ hshows.enforced ?_⟩
  simp only [verificationOf, List.all_cons, Option.some.injEq, Bool.and_eq_true] at hsuccess
  exact hsuccess.1

/-- A release that is verified leaves no policy that selects the pod. -/
theorem Truthful.triple_waitForRelease (event : SecurityEvent) :
    Exec.Triple (fun w ↦ p (sight w))
      (waitForRelease env settings event (policyNameOf event))
      (fun v w ↦ p (sight w) ∧ (v.success = some true → Unselected (sight w).cluster event))
      fun _ w ↦ p (sight w) := by
  have hask : Exec.Frames sight (ask env.polls) := frames_ask _ fun _ _ ↦ rfl
  apply Exec.Triple.bind (hask.keeps p)
  intro left
  apply triple_pollUntil (r := fun v ↦ Unselected v.cluster event)
  apply Exec.Triple.bind (h.triple_policyState settings p event)
  intro state
  have hprobe := (frames_sight_probe env settings event.ns event.pod).keeps fun v ↦
    p v ∧ Shows event state v.cluster
  apply Exec.Triple.bind (hprobe.mono (fun _ hw ↦ hw) (fun _ _ hw ↦ hw) fun _ _ hw ↦ hw.1)
  intro reachable
  apply Exec.Triple.pure
  rintro w ⟨hw, hshows⟩
  refine ⟨hw, fun hsuccess ↦ hshows.unselected ?_⟩
  simp only [verificationOf, List.all_cons, Option.some.injEq, Bool.and_eq_true,
    Bool.not_eq_true'] at hsuccess
  exact hsuccess.1

end Reads

/-! ### The stages of a call -/

/-- Nothing has come of the call. -/
structure Untouched (base : Cluster) (k : Quarantines) (v : Sight) : Prop where
  cluster : v.cluster = base
  silent : Silent v.trace
  session : v.session = k
  committed : v.committed = k

/-- The call has kept to its event. -/
structure Within (base : Cluster) (k : Quarantines) (s : Subject) (removes : Bool) (v : Sight) :
    Prop where
  replayed : v.cluster = replay base v.trace
  requests : ∀ m, .mutated m ∈ v.trace → Requests s.event removes m
  session : v.session.Beside k s.eventId
  committed : v.committed.Beside k s.eventId

/-- The call has committed nothing. -/
structure Unsaved (k : Quarantines) (v : Sight) : Prop where
  committed : v.committed = k
  requests : Silent v.trace ∨ Pending v.trace

/-- The call holds a record of its event, which is in between. -/
structure Underway (base : Cluster) (k : Quarantines) (s : Subject) (removes : Bool)
    (recordId : Nat) (v : Sight) : Prop extends Within base k s removes v where
  unsaved : Unsaved k v
  uncontained : ¬ v.session.Contains s.eventId
  held : v.session.Has s.eventId recordId (· ≠ .removed)

/-- What an application has committed. -/
structure CoverSaved (s : Subject) (v : Sight) : Prop where
  followed : ¬ Pending v.trace
  enforced : v.committed.Contains s.eventId → Enforced v.cluster s.event
  present : v.committed.Present s.eventId

/-- From its requests to its end, what an application says is contained is enforced. -/
structure Covered (base : Cluster) (k : Quarantines) (s : Subject) (recordId : Nat) (v : Sight) :
    Prop extends Within base k s false v where
  saved : Unsaved k v ∨ CoverSaved s v
  only : v.session.OnlyAt s.eventId recordId
  enforced : v.session.Contains s.eventId → Enforced v.cluster s.event
  held : v.session.Has s.eventId recordId (· ≠ .removed)

/-- What a removal has committed. -/
structure LiftSaved (s : Subject) (v : Sight) : Prop where
  followed : ¬ Pending v.trace
  uncontained : ¬ v.committed.Contains s.eventId
  removed : v.committed.Present s.eventId ∨ Unselected v.cluster s.event

/-- From its requests to its end, what a removal says is removed selects no pod. -/
structure Lifted (base : Cluster) (k : Quarantines) (s : Subject) (recordId : Nat) (v : Sight) :
    Prop extends Within base k s true v where
  saved : Unsaved k v ∨ LiftSaved s v
  uncontained : ¬ v.session.Contains s.eventId
  held : v.session.Has s.eventId recordId fun status ↦
    status = .removed → Unselected v.cluster s.event

section Stages

variable {base : Cluster} {k : Quarantines} {s : Subject} {recordId : Nat} {removes : Bool}
variable {v : Sight} {status : ContainmentStatus}

theorem Untouched.within (h : Untouched base k v) (s : Subject) (removes : Bool) :
    Within base k s removes v where
  replayed := by rw [h.cluster, replay_of_silent h.silent]
  requests m hm := absurd hm (h.silent m)
  session := by
    rw [h.session]
    exact Quarantines.Beside.refl k _
  committed := by
    rw [h.committed]
    exact Quarantines.Beside.refl k _

theorem Untouched.unsaved (h : Untouched base k v) : Unsaved k v := ⟨h.committed, .inl h.silent⟩

theorem Within.turn (h : Within base k s removes v) {P : ContainmentStatus → Prop}
    (hhas : v.session.Has s.eventId recordId P) (status : ContainmentStatus) :
    Within base k s removes { v with session := v.session.turn recordId status } where
  replayed := h.replayed
  requests := h.requests
  session := h.session.turn hhas status
  committed := h.committed

theorem Within.commit (h : Within base k s removes v) :
    Within base k s removes { v with trace := .committed :: v.trace, committed := v.session } where
  replayed := h.replayed
  requests m hm := h.requests m ((List.mem_cons.mp hm).resolve_left (by simp))
  session := h.session
  committed := h.session

private theorem not_pending_committed (trace : List Event) : ¬ Pending (.committed :: trace) := by
  rintro ⟨m, hm⟩
  cases hm

theorem Underway.request (h : Underway base k s removes recordId v) {m : Mutation}
    (hm : Requests s.event removes m) :
    Underway base k s removes recordId
      { v with cluster := v.cluster.apply m, trace := .mutated m :: v.trace } where
  replayed := by
    show v.cluster.apply m = (replay base v.trace).apply m
    rw [← h.replayed]
  requests m' hm' := by
    rcases List.mem_cons.mp hm' with heq | hold
    · cases heq
      exact hm
    · exact h.requests m' hold
  session := h.session
  committed := h.committed
  unsaved := ⟨h.unsaved.committed, .inr ⟨m, rfl⟩⟩
  uncontained := h.uncontained
  held := h.held

theorem Underway.covered (h : Underway base k s false recordId v) : Covered base k s recordId v where
  toWithin := h.toWithin
  saved := .inl h.unsaved
  only := Quarantines.onlyAt_of_not_contains h.uncontained
  enforced hcontains := absurd hcontains h.uncontained
  held := h.held

/-- A containment is noted where it is enforced. -/
theorem Underway.contained (h : Underway base k s false recordId v)
    (henforced : Enforced v.cluster s.event) :
    Covered base k s recordId { v with session := v.session.turn recordId .contained } where
  toWithin := h.toWithin.turn h.held _
  saved := .inl ⟨h.unsaved.committed, h.unsaved.requests⟩
  only := (Quarantines.onlyAt_of_not_contains h.uncontained).turn _
  enforced _ := henforced
  held := (h.held.turn _).mono fun _ hstatus ↦ by
    rw [hstatus]
    decide

theorem Covered.failed (h : Covered base k s recordId v) :
    Covered base k s recordId
      { v with session := v.session.turn recordId .verificationFailed } where
  toWithin := h.toWithin.turn h.held _
  saved := h.saved.imp (fun hs ↦ ⟨hs.committed, hs.requests⟩) fun hs ↦
    ⟨hs.followed, hs.enforced, hs.present⟩
  only := h.only.turn _
  enforced hcontains := absurd hcontains (h.only.not_contains (by decide))
  held := (h.held.turn _).mono fun _ hstatus ↦ by
    rw [hstatus]
    decide

theorem Covered.commit (h : Covered base k s recordId v) :
    Covered base k s recordId
      { v with trace := .committed :: v.trace, committed := v.session } where
  toWithin := h.toWithin.commit
  saved := .inr ⟨not_pending_committed _, h.enforced, h.held.present⟩
  only := h.only
  enforced := h.enforced
  held := h.held

theorem Underway.lifted (h : Underway base k s true recordId v) : Lifted base k s recordId v where
  toWithin := h.toWithin
  saved := .inl h.unsaved
  uncontained := h.uncontained
  held := h.held.mono fun _ hne heq ↦ absurd heq hne

theorem Lifted.turn (h : Lifted base k s recordId v) (hstatus : status ≠ .contained)
    (hremoved : status = .removed → Unselected v.cluster s.event) :
    Lifted base k s recordId { v with session := v.session.turn recordId status } where
  toWithin := h.toWithin.turn h.held _
  saved := h.saved.imp (fun hs ↦ ⟨hs.committed, hs.requests⟩) fun hs ↦
    ⟨hs.followed, hs.uncontained, hs.removed⟩
  uncontained := Quarantines.not_contains_turn h.uncontained hstatus
  held := (h.held.turn _).mono fun _ heq hremoved' ↦ hremoved (heq.symm.trans hremoved')

theorem Lifted.commit (h : Lifted base k s recordId v) :
    Lifted base k s recordId
      { v with trace := .committed :: v.trace, committed := v.session } where
  toWithin := h.toWithin.commit
  saved := by
    refine .inr ⟨not_pending_committed _, h.uncontained, ?_⟩
    obtain ⟨e, he, hof, hremoved⟩ := h.held
    by_cases hstatus : e.status = .removed
    · exact .inr (hremoved hstatus)
    · exact .inl ⟨e, List.mem_of_getElem? he, hof, hstatus⟩
  uncontained := h.uncontained
  held := h.held

end Stages

/-! ### Applying -/

/-- No other event's record bears the name of the event's policy. -/
def Alone (k : Quarantines) (s : Subject) : Prop :=
  ∀ e ∈ k.records, e.eventId ≠ s.eventId → e.policyName ≠ policyNameOf s.event

section Applying

variable {env : Env} (settings : Settings) {base : Cluster} {k : Quarantines} {s : Subject}
variable {recordId : Nat} {removes : Bool}

private theorem keeps_underway_send {m : Mutation} (hm : Requests s.event removes m) :
    Exec.Keeps (fun w ↦ Underway base k s removes recordId (sight w)) (send env m) :=
  keeps_send env fun _ hv ↦ hv.request hm

/-- The requests of an application keep to its event. -/
private theorem keeps_underway_applyPolicy (incidentId : String) :
    Exec.Keeps (fun w ↦ Underway base k s false recordId (sight w))
      (applyQuarantinePolicy env settings s.event.ns s.event.pod (quarantineIdOf s.event)
        incidentId) := by
  have hkeeps {α : Type} {x : Service α} (hx : Exec.Frames sight x) :=
    hx.keeps (Underway base k s false recordId)
  apply Exec.keeps_bind (hkeeps (frames_requireNamespace settings _))
  intro _
  apply Exec.keeps_bind (hkeeps (Exec.frames_require _ _))
  intro _
  apply Exec.keeps_bind (hkeeps (frames_validateName _ _))
  intro _
  apply Exec.keeps_bind (hkeeps (frames_validateName _ _))
  intro _
  apply Exec.keeps_bind (hkeeps (frames_sight_getPodHealth env _ _))
  intro pod
  apply Exec.keeps_bind (hkeeps (Exec.frames_require _ _))
  intro _
  apply Exec.keeps_bind (hkeeps (Exec.frames_require _ _))
  intro _
  apply Exec.keeps_bind (hkeeps (frames_validateName _ _))
  intro _
  apply Exec.keeps_bind (keeps_underway_send .label)
  intro _
  apply Exec.keeps_tryCatch (keeps_underway_send (.create incidentId))
  intro e
  unfold onCreateFailure
  apply Exec.keeps_ite
  · intro _
    apply Exec.keeps_bind (hkeeps (frames_sight_policyState env settings _ _ _ _))
    intro state
    exact Exec.keeps_require _ _
  · intro _
    apply Exec.keeps_ite
    · intro _
      exact Exec.keeps_bind (keeps_underway_send (.unlabel false)) fun _ ↦ Exec.keeps_throw _
    · intro _
      exact Exec.keeps_throw e

private theorem keeps_covered_commit :
    Exec.Keeps (fun w ↦ Covered base k s recordId (sight w)) (commit env) :=
  keeps_commit env fun _ hv ↦ hv.commit

/-- What an application notes is enforced, whichever way it ends. -/
private theorem covered_contain (h : Truthful env) {c : Containment}
    (hname : c.policyName = policyNameOf c.subject.event) (executionId : Nat) (actor : String) :
    Exec.Triple (fun w ↦ Underway base k c.subject false c.recordId (sight w))
      (contain env settings c executionId actor)
      (fun _ w ↦ Covered base k c.subject c.recordId (sight w))
      fun _ w ↦ Covered base k c.subject c.recordId (sight w) := by
  have hunderway {α : Type} {x : Service α}
      (hx : Exec.Keeps (fun w ↦ Underway base k c.subject false c.recordId (sight w)) x) :
      Exec.Triple (fun w ↦ Underway base k c.subject false c.recordId (sight w)) x
        (fun _ w ↦ Underway base k c.subject false c.recordId (sight w))
        fun _ w ↦ Covered base k c.subject c.recordId (sight w) :=
    hx.mono (fun _ hw ↦ hw) (fun _ _ hw ↦ hw) fun _ _ hw ↦ hw.covered
  have hcovered {α : Type} {x : Service α} (hx : Exec.Frames sight x) :=
    hx.keeps (Covered base k c.subject c.recordId)
  have hwait : Exec.Triple (fun w ↦ Underway base k c.subject false c.recordId (sight w))
      (waitForContainment env settings c.subject.event c.policyName)
      (fun v w ↦ Underway base k c.subject false c.recordId (sight w) ∧
        (v.success = some true → Enforced (sight w).cluster c.subject.event))
      fun _ w ↦ Covered base k c.subject c.recordId (sight w) := by
    rw [hname]
    exact (h.triple_waitForContainment settings _ c.subject.event).mono (fun _ hw ↦ hw)
      (fun _ _ hw ↦ hw) fun _ _ hw ↦ hw.covered
  apply Exec.Triple.bind (hunderway ((frames_sight_probe env settings _ _).keeps _))
  intro reachable
  apply Exec.Triple.bind (hunderway (Exec.keeps_require _ _))
  intro _
  apply Exec.Triple.bind (hunderway (keeps_underway_applyPolicy settings _))
  intro _
  apply Exec.Triple.bind
  · exact hunderway ((frames_sight_changeIncidentState env settings _ _ _ _).keeps _)
  intro _
  apply Exec.Triple.bind hwait
  intro verification
  apply Exec.Triple.bind (Q := fun _ w ↦ Underway base k c.subject false c.recordId (sight w) ∧
    Enforced (sight w).cluster c.subject.event)
  · exact Exec.Triple.require (fun hverified _ hw ↦ ⟨hw.1, hw.2 hverified⟩)
      fun _ _ hw ↦ hw.1.covered
  intro _
  apply Exec.Triple.bind
  · exact triple_turn (p := fun v ↦ Underway base k c.subject false c.recordId v ∧
      Enforced v.cluster c.subject.event) (q := Covered base k c.subject c.recordId)
      fun _ hv ↦ hv.1.contained hv.2
  intro _
  apply Exec.keeps_bind (hcovered (frames_sight_setVerification _))
  intro _
  apply Exec.keeps_bind
  · exact hcovered (Exec.frames_update fun _ ↦ rfl)
  intro _
  apply Exec.keeps_bind
  · exact hcovered (Exec.frames_update fun _ ↦ rfl)
  intro _
  apply Exec.keeps_bind (hcovered (frames_sight_recordContainment env c executionId verification))
  intro _
  apply Exec.keeps_bind
  · exact hcovered (frames_notification (fun _ _ ↦ rfl) env _)
  intro _
  apply Exec.keeps_bind (hcovered (frames_sight_flush env))
  intro _
  apply Exec.keeps_bind keeps_covered_commit
  intro _
  exact Exec.keeps_bind (hcovered (frames_sight_flush env)) fun _ ↦ Exec.keeps_pure _

private theorem keeps_covered_onContainFailure {c : Containment} (executionId : Nat) (e : Exc) :
    Exec.Keeps (fun w ↦ Covered base k c.subject c.recordId (sight w))
      (onContainFailure env settings c executionId e) := by
  have hcovered {α : Type} {x : Service α} (hx : Exec.Frames sight x) :=
    hx.keeps (Covered base k c.subject c.recordId)
  cases e with
  | cloudWard error =>
    apply Exec.keeps_bind
    · exact triple_turn (p := Covered base k c.subject c.recordId)
        (q := Covered base k c.subject c.recordId) fun _ hv ↦ hv.failed
    intro _
    apply Exec.keeps_bind (hcovered (frames_sight_setVerification _))
    intro _
    apply Exec.keeps_bind
    · exact hcovered (Exec.frames_update fun _ ↦ rfl)
    intro _
    apply Exec.keeps_bind (hcovered (frames_loadIncident _))
    intro incident
    apply Exec.keeps_bind
    · exact hcovered (Exec.frames_when fun _ ↦
        frames_sight_changeIncidentState env settings _ _ _ _)
    intro _
    apply Exec.keeps_bind (hcovered (frames_sight_flush env))
    intro _
    exact Exec.keeps_bind keeps_covered_commit fun _ ↦ Exec.keeps_throw _
  | api status => exact Exec.keeps_throw _
  | transport => exact Exec.keeps_throw _
  | database => exact Exec.keeps_throw _
  | validation => exact Exec.keeps_throw _

/-- The record of the event that an application goes on with, where it has one. -/
structure Reopens (k : Quarantines) (s : Subject) (e : Nat × QuarantineRecord) : Prop where
  has : k.Has s.eventId e.1 (· ≠ .removed)
  named : e.2.policyName = policyNameOf s.event
  alone : Alone k s

/-- An application opens a record, or nothing has come of it. -/
private theorem triple_underway_openRecord {existing : Option (Nat × QuarantineRecord)}
    (hfree : ¬ k.Contains s.eventId) (hreopens : ∀ e ∈ existing, Reopens k s e) :
    Exec.Triple (fun w ↦ Untouched base k (sight w)) (openRecord s existing)
      (fun recordId w ↦ Underway base k s false recordId (sight w) ∧ Alone k s)
      fun _ w ↦ Untouched base k (sight w) := by
  cases existing with
  | some entry =>
    obtain ⟨recordId, row⟩ := entry
    obtain ⟨hhas, -, halone⟩ := hreopens _ rfl
    intro w hw
    have hrecords := Table.map_update_comm w.db.quarantineRecords recordId
      (f := fun record ↦ { record with status := .applying }) (g := entryOf)
      (h := fun e ↦ { e with status := .applying }) fun _ ↦ rfl
    have hsight : sight { w with db := { w.db with
        quarantineRecords := w.db.quarantineRecords.update recordId
          ({ · with status := .applying }) } } =
        { sight w with session := (sight w).session.turn recordId .applying } :=
      congrArg (fun records ↦ Sight.mk w.cluster w.trace
        ⟨records, w.db.securityEvents.map originOf⟩ (quarantines w.committed)) hrecords
    change Underway base k s false recordId (sight { w with db := _ }) ∧ Alone k s
    rw [hsight]
    have hsession : (sight w).session.Has s.eventId recordId (· ≠ .removed) := by
      rw [hw.session]
      exact hhas
    refine ⟨⟨(hw.within s false).turn hsession _, ⟨hw.committed, .inl hw.silent⟩, ?_, ?_⟩, halone⟩
    · apply Quarantines.not_contains_turn
      · rw [hw.session]
        exact hfree
      · decide
    · refine (hsession.turn _).mono fun _ hstatus ↦ ?_
      rw [hstatus]
      decide
  | none =>
    intro w hw
    let row := recordRow s (quarantineRisk s.event .applyQuarantine)
    by_cases hname : policyNameIsFree w.db.quarantineRecords row.policyName
    · have hrun : (openRecord s none).run w = (.ok w.db.quarantineRecords.fresh, { w with
          db := { w.db with quarantineRecords := w.db.quarantineRecords.insert row } }) := by
        unfold openRecord insertQuarantineRecord
        rw [Exec.run_bind_of_ok (Exec.run_read _ w), Exec.run_bind_require hname]
        rfl
      rw [hrun]
      have hrecords : (w.db.quarantineRecords.insert row).map entryOf =
          Table.insert (w.db.quarantineRecords.map entryOf) (entryOf row) := List.map_append
      have hsight : sight { w with db := { w.db with
          quarantineRecords := w.db.quarantineRecords.insert row } } =
          { sight w with session := (sight w).session.add (entryOf row) } :=
        congrArg (fun records ↦ Sight.mk w.cluster w.trace
          ⟨records, w.db.securityEvents.map originOf⟩ (quarantines w.committed)) hrecords
      have hfresh : w.db.quarantineRecords.fresh = (sight w).session.records.fresh := by
        simp [sight, quarantines, Table.fresh]
      show Underway base k s false _ (sight { w with db := _ }) ∧ Alone k s
      rw [hsight, hfresh]
      have hwithin := hw.within s false
      constructor
      · constructor
        · exact ⟨hwithin.replayed, hwithin.requests, hwithin.session.add rfl, hwithin.committed⟩
        · exact ⟨hw.committed, .inl hw.silent⟩
        · apply Quarantines.not_contains_add
          · rw [hw.session]
            exact hfree
          · show ContainmentStatus.applying ≠ .contained
            decide
        · refine (Quarantines.has_add rfl).mono fun _ hstatus ↦ ?_
          rw [hstatus]
          show ContainmentStatus.applying ≠ .removed
          decide
      · intro e he _ heq
        rw [← hw.session] at he
        obtain ⟨record, hrecord, rfl⟩ := List.mem_map.mp he
        exact hname record hrecord heq
    · have hrun : (openRecord s none).run w = (.error .database, w) := by
        unfold openRecord insertQuarantineRecord
        rw [Exec.run_bind_of_ok (Exec.run_read _ w)]
        apply Exec.run_bind_of_error
        rw [Exec.run_require, if_neg hname]
      rw [hrun]
      exact hw

/-- What an application comes to: nothing, or what its record says is enforced. -/
def Applies (base : Cluster) (k : Quarantines) (s : Subject) (v : Sight) : Prop :=
  Untouched base k v ∨ Alone k s ∧ ∃ recordId, Covered base k s recordId v

private theorem triple_applies_execute (h : Truthful env)
    {existing : Option (Nat × QuarantineRecord)} (hfree : ¬ k.Contains s.eventId)
    (hreopens : ∀ e ∈ existing, Reopens k s e) (proposalId : Nat) (actor : String) :
    Exec.Triple (fun w ↦ Untouched base k (sight w))
      (execute env settings s existing proposalId actor) (fun _ w ↦ Applies base k s (sight w))
      fun _ w ↦ Applies base k s (sight w) := by
  apply Exec.Triple.bind ((triple_underway_openRecord hfree hreopens).mono (fun _ hw ↦ hw)
    (fun _ _ hw ↦ hw) fun _ _ hw ↦ .inl hw)
  intro recordId
  apply Exec.Triple.assume
  intro halone
  have hunderway {α : Type} {x : Service α} (hx : Exec.Frames sight x) :
      Exec.Triple (fun w ↦ Underway base k s false recordId (sight w)) x
        (fun _ w ↦ Underway base k s false recordId (sight w)) fun _ w ↦ Applies base k s (sight w) :=
    (hx.keeps (Underway base k s false recordId)).mono (fun _ hw ↦ hw) (fun _ _ hw ↦ hw)
      fun _ _ hw ↦ .inr ⟨halone, recordId, hw.covered⟩
  apply Exec.Triple.bind
  · exact hunderway (frames_sight_event _ fun _ ↦ rfl)
  intro _
  apply Exec.Triple.bind
  · exact hunderway (Exec.frames_when fun _ ↦ frames_sight_changeIncidentState env settings _ _ _ _)
  intro _
  apply Exec.Triple.bind (hunderway (frames_sight_newExecution env _ _))
  intro executionId
  apply Exec.Triple.bind (hunderway (frames_sight_flush env))
  intro _
  have hname : (existing.map (·.2.policyName)).getD (policyNameOf s.event) =
      policyNameOf s.event := by
    cases existing with
    | none => rfl
    | some e => exact (hreopens e rfl).named
  have hfails (c : Containment) (e : Exc) :
      Exec.Keeps (fun w ↦ Covered base k c.subject c.recordId (sight w))
        (onContainFailure env settings c executionId e) :=
    keeps_covered_onContainFailure settings executionId e
  have htry := Exec.Triple.tryCatch
    (covered_contain settings h (c := ⟨s, recordId, proposalId, _⟩) hname executionId actor)
    (hfails _)
  exact htry.mono (fun _ hw ↦ hw) (fun _ _ hw ↦ .inr ⟨halone, recordId, hw⟩)
    fun _ _ hw ↦ .inr ⟨halone, recordId, hw⟩

/-- Nothing that a denied call commits is about quarantines. -/
private theorem keeps_untouched_commit :
    Exec.Keeps (fun w ↦ Untouched base k (sight w)) (commit env) := by
  apply keeps_commit
  intro v hv
  constructor
  · exact hv.cluster
  · intro m hm
    exact hv.silent m ((List.mem_cons.mp hm).resolve_left (by simp))
  · exact hv.session
  · exact hv.session

private theorem keeps_untouched_evaluate (input : PolicyInput) :
    Exec.Keeps (fun w ↦ Untouched base k (sight w)) (evaluate env input) := by
  apply keeps_evaluate
  intro v input policy hv
  constructor
  · exact hv.cluster
  · intro m hm
    exact hv.silent m ((List.mem_cons.mp hm).resolve_left (by simp))
  · exact hv.session
  · exact hv.committed

private theorem keeps_untouched_authoriseApply (actor : String) :
    Exec.Keeps (fun w ↦ Untouched base k (sight w)) (authoriseApply env s actor) := by
  have huntouched {α : Type} {x : Service α} (hx : Exec.Frames sight x) :=
    hx.keeps (Untouched base k)
  apply Exec.keeps_bind (huntouched (frames_sight_getPodHealth env _ _))
  intro pod
  apply Exec.keeps_bind (huntouched (Exec.frames_require _ _))
  intro _
  apply Exec.keeps_bind (keeps_untouched_evaluate _)
  intro decision
  apply Exec.keeps_bind (huntouched (frames_proposalForApply (fun _ _ ↦ rfl) env s))
  intro proposalId
  apply Exec.keeps_bind (huntouched (frames_sight_persistDecision env _ _ _))
  intro _
  apply Exec.keeps_ite
  · intro _
    exact Exec.keeps_pure _
  · intro _
    apply Exec.keeps_bind (huntouched (frames_sight_flush env))
    intro _
    exact Exec.keeps_bind keeps_untouched_commit fun _ ↦ Exec.keeps_throw _

end Applying

/-! ### Removing -/

section Removing

variable {env : Env} (settings : Settings) {base : Cluster} {k : Quarantines} {s : Subject}
variable {recordId : Nat}

/-- The requests of a removal keep to its event. -/
private theorem keeps_underway_removePolicy :
    Exec.Keeps (fun w ↦ Underway base k s true recordId (sight w))
      (removeQuarantinePolicy env settings s.event.ns s.event.pod (policyNameOf s.event)
        (quarantineIdOf s.event)) := by
  have hkeeps {α : Type} {x : Service α} (hx : Exec.Frames sight x) :=
    hx.keeps (Underway base k s true recordId)
  have hstate := hkeeps (frames_sight_policyState env settings s.event.ns s.event.pod
    (policyNameOf s.event) (quarantineIdOf s.event))
  apply Exec.keeps_bind (hkeeps (frames_requireNamespace settings _))
  intro _
  apply Exec.keeps_bind (hkeeps (frames_validateName _ _))
  intro _
  apply Exec.keeps_bind (hkeeps (frames_validateName _ _))
  intro _
  apply Exec.keeps_bind (hkeeps (frames_validateName _ _))
  intro _
  apply Exec.keeps_bind hstate
  intro state
  apply Exec.keeps_bind
  · apply Exec.keeps_when
    intro _
    apply Exec.keeps_tryCatch (keeps_underway_send .delete)
    intro e
    exact hkeeps (Exec.frames_ite (Exec.frames_pure _) (Exec.frames_throw _))
  intro _
  apply Exec.keeps_bind (keeps_underway_send (.unlabel true))
  intro _
  exact hstate

private theorem keeps_lifted_commit :
    Exec.Keeps (fun w ↦ Lifted base k s recordId (sight w)) (commit env) :=
  keeps_commit env fun _ hv ↦ hv.commit

/-- What a removal notes as removed selects no pod, whichever way it ends. -/
private theorem lifted_release (h : Truthful env) {c : Containment}
    (hname : c.policyName = policyNameOf c.subject.event) (executionId : Nat) (actor : String) :
    Exec.Triple (fun w ↦ Underway base k c.subject true c.recordId (sight w))
      (release env settings c executionId actor)
      (fun _ w ↦ Lifted base k c.subject c.recordId (sight w))
      fun _ w ↦ Lifted base k c.subject c.recordId (sight w) := by
  have hlifted {α : Type} {x : Service α} (hx : Exec.Frames sight x) :=
    hx.keeps (Lifted base k c.subject c.recordId)
  have hremove : Exec.Triple (fun w ↦ Underway base k c.subject true c.recordId (sight w))
      (removeQuarantinePolicy env settings c.subject.event.ns c.subject.event.pod c.policyName
        (quarantineIdOf c.subject.event))
      (fun _ w ↦ Lifted base k c.subject c.recordId (sight w))
      fun _ w ↦ Lifted base k c.subject c.recordId (sight w) := by
    rw [hname]
    exact (keeps_underway_removePolicy settings).mono (fun _ hw ↦ hw) (fun _ _ hw ↦ hw.lifted)
      fun _ _ hw ↦ hw.lifted
  have hwait : Exec.Triple (fun w ↦ Lifted base k c.subject c.recordId (sight w))
      (waitForRelease env settings c.subject.event c.policyName)
      (fun v w ↦ Lifted base k c.subject c.recordId (sight w) ∧
        (v.success = some true → Unselected (sight w).cluster c.subject.event))
      fun _ w ↦ Lifted base k c.subject c.recordId (sight w) := by
    rw [hname]
    exact h.triple_waitForRelease settings _ c.subject.event
  apply Exec.Triple.bind hremove
  intro _
  apply Exec.Triple.bind hwait
  intro verification
  apply Exec.Triple.bind (Q := fun _ w ↦ Lifted base k c.subject c.recordId (sight w) ∧
    Unselected (sight w).cluster c.subject.event)
  · exact Exec.Triple.require (fun hverified _ hw ↦ ⟨hw.1, hw.2 hverified⟩) fun _ _ hw ↦ hw.1
  intro _
  apply Exec.Triple.bind
  · exact triple_turn (p := fun v ↦ Lifted base k c.subject c.recordId v ∧
      Unselected v.cluster c.subject.event) (q := Lifted base k c.subject c.recordId)
      fun _ hv ↦ hv.1.turn (by decide) fun _ ↦ hv.2
  intro _
  apply Exec.keeps_bind (hlifted (frames_sight_setVerification _))
  intro _
  apply Exec.keeps_bind
  · exact hlifted (Exec.frames_update fun _ ↦ rfl)
  intro _
  apply Exec.keeps_bind
  · exact hlifted (Exec.frames_update fun _ ↦ rfl)
  intro _
  apply Exec.keeps_bind (hlifted (frames_loadIncident _))
  intro incident
  apply Exec.keeps_bind
  · apply hlifted
    apply Exec.frames_when
    intro _
    apply Exec.frames_bind
    · exact Exec.frames_update fun _ ↦ rfl
    intro _
    exact frames_sight_changeIncidentState env settings _ _ _ _
  intro _
  apply Exec.keeps_bind (hlifted (frames_sight_flush env))
  intro _
  apply Exec.keeps_bind keeps_lifted_commit
  intro _
  exact Exec.keeps_bind (hlifted (frames_sight_flush env)) fun _ ↦ Exec.keeps_pure _

private theorem keeps_lifted_onReleaseFailure {c : Containment} (executionId : Nat) (e : Exc) :
    Exec.Keeps (fun w ↦ Lifted base k c.subject c.recordId (sight w))
      (onReleaseFailure env c executionId e) := by
  have hlifted {α : Type} {x : Service α} (hx : Exec.Frames sight x) :=
    hx.keeps (Lifted base k c.subject c.recordId)
  cases e with
  | cloudWard error =>
    apply Exec.keeps_bind
    · exact triple_turn (p := Lifted base k c.subject c.recordId)
        (q := Lifted base k c.subject c.recordId) fun _ hv ↦
          hv.turn (by decide) fun heq ↦ absurd heq (by decide)
    intro _
    apply Exec.keeps_bind
    · exact hlifted (Exec.frames_update fun _ ↦ rfl)
    intro _
    apply Exec.keeps_bind (hlifted (frames_sight_flush env))
    intro _
    exact Exec.keeps_bind keeps_lifted_commit fun _ ↦ Exec.keeps_throw _
  | api status => exact Exec.keeps_throw _
  | transport => exact Exec.keeps_throw _
  | database => exact Exec.keeps_throw _
  | validation => exact Exec.keeps_throw _

/-- A removal that is authorised is of the record it was authorised for. -/
private theorem triple_untouched_authoriseRemoval (recordId : Nat) (record : QuarantineRecord)
    (actor : String) :
    Exec.Triple (fun w ↦ Untouched base k (sight w)) (authoriseRemoval env s recordId record actor)
      (fun c w ↦ Untouched base k (sight w) ∧ c.subject = s ∧ c.recordId = recordId ∧
        c.policyName = record.policyName) fun _ w ↦ Untouched base k (sight w) := by
  have huntouched {α : Type} {x : Service α} (hx : Exec.Frames sight x) :=
    hx.keeps (Untouched base k)
  apply Exec.Triple.bind (huntouched (frames_sight_getPodHealth env _ _))
  intro pod
  apply Exec.Triple.bind (keeps_untouched_evaluate _)
  intro decision
  apply Exec.Triple.bind (huntouched (frames_sight_insertProposal _))
  intro proposalId
  apply Exec.Triple.bind (huntouched (frames_sight_flush env))
  intro _
  apply Exec.Triple.bind (huntouched (frames_sight_persistDecision env _ _ _))
  intro _
  apply Exec.Triple.ite
  · intro _
    exact Exec.Triple.pure fun _ hw ↦ ⟨hw, rfl, rfl, rfl⟩
  · intro _
    apply Exec.Triple.bind
    · exact huntouched (Exec.frames_update fun _ ↦ rfl)
    intro _
    apply Exec.Triple.bind keeps_untouched_commit
    intro _
    exact Exec.Triple.throw fun _ hw ↦ hw

/-- What a removal comes to: nothing, or what its record says is removed selects no pod. -/
def Removes (base : Cluster) (k : Quarantines) (s : Subject) (v : Sight) : Prop :=
  Untouched base k v ∨ Alone k s ∧ ∃ recordId, Lifted base k s recordId v

private theorem triple_removes_finishRemoval (h : Truthful env) {c : Containment}
    (hname : c.policyName = policyNameOf c.subject.event) (halone : Alone k c.subject)
    (hhas : k.Has c.subject.eventId c.recordId fun _ ↦ True)
    (honly : k.OnlyAt c.subject.eventId c.recordId) (actor : String) :
    Exec.Triple (fun w ↦ Untouched base k (sight w)) (finishRemoval env settings c actor)
      (fun _ w ↦ Removes base k c.subject (sight w))
      fun _ w ↦ Removes base k c.subject (sight w) := by
  have hremoves (v : Sight) (hv : Lifted base k c.subject c.recordId v) :
      Removes base k c.subject v := .inr ⟨halone, c.recordId, hv⟩
  apply Exec.Triple.bind (Q := fun _ w ↦ Underway base k c.subject true c.recordId (sight w))
  · apply Exec.Triple.bind (Q := fun _ w ↦ Underway base k c.subject true c.recordId (sight w))
    · apply triple_turn (p := Untouched base k)
        (q := Underway base k c.subject true c.recordId)
      intro v hv
      have hsession : v.session.Has c.subject.eventId c.recordId fun _ ↦ True := by
        rw [hv.session]
        exact hhas
      constructor
      · exact (hv.within c.subject true).turn hsession _
      · exact ⟨hv.committed, .inl hv.silent⟩
      · rw [hv.session]
        exact honly.not_contains (by decide)
      · refine (hsession.turn _).mono fun _ hstatus ↦ ?_
        rw [hstatus]
        decide
    intro _
    exact ((frames_sight_newExecution env _ _).keeps
      (Underway base k c.subject true c.recordId)).mono (fun _ hw ↦ hw) (fun _ _ hw ↦ hw)
      fun _ w hw ↦ hremoves (sight w) hw.lifted
  intro executionId
  have hfails (e : Exc) : Exec.Keeps (fun w ↦ Lifted base k c.subject c.recordId (sight w))
      (onReleaseFailure env c executionId e) :=
    keeps_lifted_onReleaseFailure executionId e
  have htry := Exec.Triple.tryCatch (lifted_release settings h hname executionId actor) hfails
  exact htry.mono (fun _ hw ↦ hw) (fun _ w hw ↦ hremoves (sight w) hw)
    fun _ w hw ↦ hremoves (sight w) hw

end Removing

/-! ### Whole calls -/

/-- The subject of a call on an event of the rows. -/
structure Concerns (rows : Database) (eventId : Nat) (s : Subject) : Prop where
  eventId_eq : s.eventId = eventId
  event : rows.securityEvents[eventId]? = some s.event

section Calls

variable {env : Env} (settings : Settings) {rows : Database} {base : Cluster}

/-- The world that a call starts in. -/
def Starts (rows : Database) (base : Cluster) (w : World) : Prop :=
  w.db = rows ∧ w.committed = rows ∧ w.cluster = base ∧ w.trace = []

private theorem Starts.untouched {w : World} (h : Starts rows base w) :
    Untouched base (quarantines rows) (sight w) := by
  obtain ⟨hdb, hcommitted, hcluster, htrace⟩ := h
  constructor
  · exact hcluster
  · intro m hm
    simp [sight, htrace] at hm
  · exact congrArg quarantines hdb
  · exact congrArg quarantines hcommitted

/-- What consistent rows say of an event's record. -/
private theorem record_of_consistent (h : (ledger rows).Consistent) {s : Subject}
    (hevent : rows.securityEvents[s.eventId]? = some s.event) {recordId : Nat}
    {record : QuarantineRecord} (hrecord : rows.quarantineRecords[recordId]? = some record)
    (hof : record.securityEventId = s.eventId) :
    record.policyName = policyNameOf s.event ∧ Alone (quarantines rows) s ∧
      (quarantines rows).OnlyAt s.eventId recordId := by
  have hagree := h.agrees record (List.mem_of_getElem? hrecord)
  simp only [ledger, List.getElem?_map, hof, hevent, Option.map_some, Option.some.injEq,
    Prod.mk.injEq] at hagree
  refine ⟨hagree.1.symm, ?_, ?_⟩
  · intro e he hother hname
    obtain ⟨record', hrecord', rfl⟩ := List.mem_map.mp he
    obtain ⟨id', hid'⟩ := List.mem_iff_getElem?.mp hrecord'
    obtain rfl := h.distinct hrecord hid' (hagree.1.symm.trans hname.symm)
    rw [hrecord, Option.some.injEq] at hid'
    rw [← hid'] at hother
    exact hother hof
  · intro id e he heof _
    simp only [quarantines, List.getElem?_map, Option.map_eq_some_iff] at he
    obtain ⟨record', hrecord', rfl⟩ := he
    exact h.record_unique hrecord' hrecord (heof.trans hof.symm)

private theorem triple_subject (eventId : Nat) :
    Exec.Triple (Starts rows base) (eventAndIncident env eventId)
      (fun s w ↦ (Untouched base (quarantines rows) (sight w) ∧ w.db = rows) ∧
        Concerns rows eventId s)
      fun _ w ↦ Untouched base (quarantines rows) (sight w) := by
  have hread := triple_eventAndIncident_reads env eventId (· = (rows, rows))
  have hframe : Exec.Frames sight (eventAndIncident env eventId) :=
    frames_eventAndIncident (fun _ _ ↦ rfl) env eventId
  apply (hread.and (hframe.keeps (Untouched base (quarantines rows)))).mono
  · intro w hw
    exact ⟨Prod.ext hw.1 hw.2.1, hw.untouched⟩
  · rintro s w ⟨⟨hrows, hs⟩, huntouched⟩
    have hdb : w.db = rows := congrArg Prod.fst hrows
    rw [hdb] at hs
    exact ⟨⟨huntouched, hdb⟩, hs.eventId_eq, hs.event⟩
  · exact fun _ _ hw ↦ hw.2

private theorem triple_found {α : Type} (f : Database → α) :
    Exec.Triple (fun w ↦ Untouched base (quarantines rows) (sight w) ∧ w.db = rows)
      (query env f) (fun a w ↦ Untouched base (quarantines rows) (sight w) ∧ a = f rows)
      fun _ w ↦ Untouched base (quarantines rows) (sight w) := by
  have hflush : Exec.Frames (fun w ↦ (sight w, w.db)) (flush env) :=
    frames_flush env fun _ _ ↦ rfl
  apply Exec.Triple.bind ((hflush.keeps fun v ↦ Untouched base (quarantines rows) v.1 ∧
    v.2 = rows).mono (fun _ hw ↦ hw) (fun _ _ hw ↦ hw) fun _ _ hw ↦ hw.1)
  intro _
  apply Exec.Triple.read
  rintro w ⟨huntouched, rfl⟩
  exact ⟨huntouched, rfl⟩

/-- What an application leaves: nothing, or an event that was not contained, and is enforced if
it is now. -/
def AppliedBy (rows : Database) (base : Cluster) (eventId : Nat) (v : Sight) : Prop :=
  Untouched base (quarantines rows) v ∨
    ∃ s recordId, Concerns rows eventId s ∧ Alone (quarantines rows) s ∧
      ¬ (quarantines rows).Contains eventId ∧ Covered base (quarantines rows) s recordId v

/-- What a removal leaves: nothing, or an event that is not contained if the removal committed. -/
def RemovedBy (rows : Database) (base : Cluster) (eventId : Nat) (v : Sight) : Prop :=
  Untouched base (quarantines rows) v ∨
    ∃ s recordId, Concerns rows eventId s ∧ Alone (quarantines rows) s ∧
      Lifted base (quarantines rows) s recordId v

private theorem reopens_of_active (h : (ledger rows).Consistent) {s : Subject}
    (hevent : rows.securityEvents[s.eventId]? = some s.event) {e : Nat × QuarantineRecord}
    (hactive : activeRecord rows s.eventId = some e) : Reopens (quarantines rows) s e := by
  obtain ⟨hrecord, hkind⟩ := Table.latest_eq_some hactive
  simp only [decide_eq_true_eq] at hkind
  obtain ⟨hname, halone, -⟩ := record_of_consistent h hevent hrecord hkind.1
  refine ⟨⟨entryOf e.2, ?_, hkind.1, hkind.2⟩, hname, halone⟩
  simp only [quarantines, List.getElem?_map, hrecord, Option.map_some]

/-- An event whose newest record is not contained has no contained record. -/
private theorem not_contains_of_active (h : (ledger rows).Consistent) {eventId : Nat}
    (hnone : (activeRecord rows eventId).filter
      (fun e ↦ e.2.status ∈ [.contained, .applying]) = none) :
    ¬ (quarantines rows).Contains eventId := by
  rintro ⟨e, he, hof, hstatus⟩
  obtain ⟨record, hrecord, rfl⟩ := List.mem_map.mp he
  obtain ⟨id, hid⟩ := List.mem_iff_getElem?.mp hrecord
  change record.securityEventId = eventId at hof
  change record.status = .contained at hstatus
  cases hactive : activeRecord rows eventId with
  | none =>
    have hkind := Table.latest_eq_none.mp hactive record hrecord
    simp [hof, hstatus] at hkind
  | some entry =>
    obtain ⟨hrow, hkind⟩ := Table.latest_eq_some hactive
    simp only [decide_eq_true_eq] at hkind
    -- an event has one record
    obtain rfl := h.record_unique hid hrow (hof.trans hkind.1.symm)
    rw [hid, Option.some.injEq] at hrow
    rw [hactive] at hnone
    simp [← hrow, hstatus] at hnone

theorem applyQuarantine_leaves (h : Truthful env) (hrows : (ledger rows).Consistent)
    (eventId : Nat) (actor : String) :
    Exec.Triple (Starts rows base) (applyQuarantine env settings eventId actor)
      (fun _ w ↦ AppliedBy rows base eventId (sight w))
      fun _ w ↦ AppliedBy rows base eventId (sight w) := by
  apply Exec.Triple.bind
    ((triple_subject eventId).mono (fun _ hw ↦ hw) (fun _ _ hw ↦ hw) fun _ _ hw ↦ .inl hw)
  intro s
  apply Exec.Triple.assume
  intro hs
  obtain rfl := hs.eventId_eq
  apply Exec.Triple.bind ((triple_found (activeRecord · s.eventId)).mono (fun _ hw ↦ hw)
    (fun _ _ hw ↦ hw) fun _ _ hw ↦ .inl hw)
  intro existing
  apply Exec.Triple.assume
  rintro rfl
  have huntouched {α : Type} {x : Service α}
      (hx : Exec.Keeps (fun w ↦ Untouched base (quarantines rows) (sight w)) x) :
      Exec.Triple (fun w ↦ Untouched base (quarantines rows) (sight w)) x
        (fun _ w ↦ Untouched base (quarantines rows) (sight w))
        fun _ w ↦ AppliedBy rows base s.eventId (sight w) :=
    hx.mono (fun _ hw ↦ hw) (fun _ _ hw ↦ hw) fun _ _ hw ↦ .inl hw
  cases hfilter : (activeRecord rows s.eventId).filter
      fun e ↦ e.2.status ∈ [.contained, .applying] with
  | some entry => exact Exec.Triple.pure fun _ hw ↦ .inl hw
  | none =>
    have hfree := not_contains_of_active hrows hfilter
    apply Exec.Triple.bind (huntouched (Exec.keeps_require _ _))
    intro _
    apply Exec.Triple.bind (huntouched (keeps_untouched_authoriseApply actor))
    intro proposalId
    have happlies (v : Sight) (hv : Applies base (quarantines rows) s v) :
        AppliedBy rows base s.eventId v := by
      rcases hv with hv | ⟨halone, recordId, hv⟩
      · exact .inl hv
      · exact .inr ⟨s, recordId, hs, halone, hfree, hv⟩
    exact (triple_applies_execute settings h hfree
      (fun e he ↦ reopens_of_active hrows hs.event he) proposalId actor).mono (fun _ hw ↦ hw)
      (fun _ w hw ↦ happlies (sight w) hw) fun _ w hw ↦ happlies (sight w) hw

theorem removeQuarantine_leaves_sight (h : Truthful env) (hrows : (ledger rows).Consistent)
    (eventId : Nat) (actor : String) :
    Exec.Triple (Starts rows base) (removeQuarantine env settings eventId actor)
      (fun _ w ↦ RemovedBy rows base eventId (sight w))
      fun _ w ↦ RemovedBy rows base eventId (sight w) := by
  have hopen : Exec.Triple (Starts rows base) (openRemoval env eventId actor)
      (fun r w ↦ Untouched base (quarantines rows) (sight w) ∧ ∀ c, r = .inr c →
        Concerns rows eventId c.subject ∧ Alone (quarantines rows) c.subject ∧
        c.policyName = policyNameOf c.subject.event ∧
        ((quarantines rows).Has c.subject.eventId c.recordId fun _ ↦ True) ∧
        (quarantines rows).OnlyAt c.subject.eventId c.recordId)
      fun _ w ↦ Untouched base (quarantines rows) (sight w) := by
    apply Exec.Triple.bind (triple_subject eventId)
    intro s
    apply Exec.Triple.assume
    intro hs
    apply Exec.Triple.bind (triple_found (latestRecord · s.eventId))
    intro found
    apply Exec.Triple.assume
    rintro rfl
    cases hlatest : latestRecord rows s.eventId with
    | none => exact Exec.Triple.throw fun _ hw ↦ hw
    | some entry =>
      obtain ⟨recordId, record⟩ := entry
      obtain ⟨hrecord, hof⟩ := Table.latest_eq_some hlatest
      simp only [decide_eq_true_eq] at hof
      have hevent : rows.securityEvents[s.eventId]? = some s.event := by
        rw [hs.eventId_eq]
        exact hs.event
      obtain ⟨hname, halone, honly⟩ := record_of_consistent hrows hevent hrecord hof
      have hhas : (quarantines rows).Has s.eventId recordId fun _ ↦ True := by
        refine ⟨entryOf record, ?_, hof, trivial⟩
        simp only [quarantines, List.getElem?_map, hrecord, Option.map_some]
      apply Exec.Triple.ite
      · intro _
        exact Exec.Triple.pure fun _ hw ↦ ⟨hw, by simp⟩
      · intro _
        apply Exec.Triple.bind (triple_untouched_authoriseRemoval recordId record actor)
        intro c
        apply Exec.Triple.pure
        rintro w ⟨hw, hsubject, hid, hpolicy⟩
        refine ⟨hw, ?_⟩
        rintro c' heq
        rw [Sum.inr.injEq] at heq
        subst heq
        rw [hsubject, hid, hpolicy]
        exact ⟨hs, halone, hname, hhas, honly⟩
  apply Exec.Triple.bind (hopen.mono (fun _ hw ↦ hw) (fun _ _ hw ↦ hw) fun _ _ hw ↦ .inl hw)
  intro r
  cases r with
  | inl recordId => exact Exec.Triple.pure fun _ hw ↦ .inl hw.1
  | inr c =>
    apply Exec.Triple.assume
    intro hc
    obtain ⟨hs, halone, hname, hhas, honly⟩ := hc c rfl
    have hremoves (v : Sight) (hv : Removes base (quarantines rows) c.subject v) :
        RemovedBy rows base eventId v := by
      rcases hv with hv | ⟨halone, recordId, hv⟩
      · exact .inl hv
      · exact .inr ⟨c.subject, recordId, hs, halone, hv⟩
    exact (triple_removes_finishRemoval settings h hname halone hhas honly actor).mono
      (fun _ hw ↦ hw) (fun _ w hw ↦ hremoves (sight w) hw) fun _ w hw ↦ hremoves (sight w) hw

end Calls

end CloudWard.Security
