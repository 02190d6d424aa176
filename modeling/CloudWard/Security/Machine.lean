import CloudWard.Security.Consistency

/-!
# The operations on quarantines in any order

A state is the committed rows and the cluster. A step is one operation in a session of its
own, which ends with the request: whatever it did not commit is lost.
-/

namespace CloudWard.Security

open CloudWard.Db CloudWard.Incidents CloudWard.Kubernetes CloudWard.Logic CloudWard.Policies
  CloudWard.Remediation Service

variable {k : Ledger}

/-- An operation on quarantines. -/
inductive Call
  | ingest (d : Delivery)
  | apply (eventId : Nat) (actor : String)
  | remove (eventId : Nat) (actor : String)
  | reconcile (x : ChaosExecution)

/-- An operation with the settings it runs under and the environment that answers it. -/
structure Operation where
  call : Call
  settings : Settings := .standard
  env : Env
  faults : DatabaseFaults env

/-- What the operations share. -/
structure State where
  rows : Database
  cluster : Cluster := {}

/-- The world an operation starts in. -/
def State.world (s : State) : World := start s.rows s.cluster

/-- Run an operation to its end, whether it returns or raises. -/
def Operation.run (op : Operation) (w : World) : World :=
  match op.call with
  | .ingest d => ((ingestSecurityEvent op.env op.settings d).run w).2
  | .apply eventId actor => ((applyQuarantine op.env op.settings eventId actor).run w).2
  | .remove eventId actor => ((removeQuarantine op.env op.settings eventId actor).run w).2
  | .reconcile x => ((reconcileExecution op.env op.settings x).run w).2

/-- A step keeps what the operation committed. -/
def step (s : State) (op : Operation) : State where
  rows := (op.run s.world).committed
  cluster := (op.run s.world).cluster

/-- The branch that goes wrong: the lab cleans up an incident that has no attempt left. -/
def Overdrawn (s : State) (op : Operation) : Prop :=
  ∃ x, op.call = .reconcile x ∧ x.status ∈ [.pending, .running, .stopping] ∧
    ReconcilesExhausted op.env op.settings x s.world

/-- What is asked of the committed rows. -/
structure RecordsConsistent (db : Database) : Prop where
  status_eq : ∀ {eventId event recordId record}, db.securityEvents[eventId]? = some event →
    latestRecord db eventId = some (recordId, record) → event.containmentStatus = record.status
  verified : ∀ record ∈ db.quarantineRecords, record.status = .contained →
    record.verification.success = some true
  settled : ∀ record ∈ db.quarantineRecords,
    record.status ≠ .applying ∧ record.status ≠ .removing

/-- A removed record never changes again. -/
def RemovedKept (db db' : Database) : Prop :=
  ∀ (id : Nat) (record : QuarantineRecord), db.quarantineRecords[id]? = some record →
    record.status = .removed → db'.quarantineRecords[id]? = some record

/-- A consistent ledger is what is asked of the rows. -/
theorem recordsConsistent_of_ledger {db : Database} (h : (ledger db).Consistent) :
    RecordsConsistent db where
  status_eq {eventId event recordId record} hevent hlatest := by
    obtain ⟨hrecord, hof⟩ := Table.latest_eq_some hlatest
    have hagree := h.agrees record (List.mem_of_getElem? hrecord)
    simp only [decide_eq_true_eq] at hof
    simp only [ledger, List.getElem?_map, hof, hevent, Option.map_some, Option.some.injEq,
      Prod.mk.injEq] at hagree
    exact hagree.2
  verified record hrecord := by
    obtain ⟨id, hid⟩ := List.mem_iff_getElem?.mp hrecord
    exact (h.closed hid (by simp)).verified
  settled record hrecord := by
    obtain ⟨id, hid⟩ := List.mem_iff_getElem?.mp hrecord
    have hsettled := (h.closed hid (by simp)).settled
    constructor <;> intro heq <;> simp [heq, ContainmentStatus.inBetween] at hsettled

/-- An operation that does not go wrong leaves its commits fine. -/
theorem fine_step {s : State} {op : Operation} (h : (ledger s.rows).Consistent)
    (hleft : ¬ Overdrawn s op) :
    (ledger (step s op).rows).Consistent ∧ (ledger s.rows).Extends (ledger (step s op).rows) := by
  have hsound : Sound (ledger s.rows) (view s.world) := {
    committed := h
    kept := Ledger.Extends.refl _
    session := h
    keeps := Ledger.Extends.refl _ }
  have hfine {α : Type} {x : Service α}
      (ht : Exec.Triple (fun w ↦ w = s.world ∧ Sound (ledger s.rows) (view w)) x
        (fun _ w ↦ Sound (ledger s.rows) (view w)) fun _ w ↦ Fine (ledger s.rows) (view w)) :
      Fine (ledger s.rows) (view (x.run s.world).2) :=
    (ht.mono (fun _ h ↦ h) (fun _ _ h ↦ h.toFine) fun _ _ h ↦ h).state ⟨rfl, hsound⟩
  have hrun : Fine (ledger s.rows) (view (op.run s.world)) := by
    unfold Operation.run
    split
    · next d _ =>
      exact hfine ((triple_ingestSecurityEvent op.env op.settings d).mono (fun _ h ↦ h.2)
        (fun _ _ h ↦ h) fun _ _ h ↦ h)
    · next eventId actor _ =>
      exact hfine ((triple_applyQuarantine op.env op.settings eventId actor).mono
        (fun _ h ↦ h.2) (fun _ _ h ↦ h) fun _ _ h ↦ h)
    · next eventId actor _ =>
      exact hfine ((triple_removeQuarantine op.env op.settings op.faults eventId actor).mono
        (fun _ h ↦ h.2) (fun _ _ h ↦ h) fun _ _ h ↦ h)
    · next x hcall =>
      have hnot : x.status ∈ [.pending, .running, .stopping] →
          ¬ ReconcilesExhausted op.env op.settings x s.world :=
        fun hactive h ↦ hleft ⟨x, hcall, hactive, h⟩
      exact hfine ((triple_reconcileExecution op.env op.settings op.faults x s.world hnot).mono
        (fun _ h ↦ ⟨h.1, h.1 ▸ h.2⟩) (fun _ _ h ↦ h) fun _ _ h ↦ h)
  exact ⟨hrun.committed, hrun.kept⟩

/-- Along a run in which no operation goes wrong the committed rows are consistent, and the
removed records of every state stay. -/
theorem consistent_run {s : State} (h : (ledger s.rows).Consistent) {ops : List Operation}
    (hleft : Runs.Along step (fun s op ↦ ¬ Overdrawn s op) s ops) :
    (ledger (Runs.run step s ops).rows).Consistent ∧
      (ledger s.rows).Extends (ledger (Runs.run step s ops).rows) := by
  induction ops generalizing s with
  | nil => exact ⟨h, Ledger.Extends.refl _⟩
  | cons op rest ih =>
    have hstep := fine_step h hleft.1
    have hrest := ih hstep.1 hleft.2
    exact ⟨hrest.1, hstep.2.trans hrest.2⟩

theorem consistent_of_empty {rows : Database} (h : rows.quarantineRecords = []) :
    (ledger rows).Consistent where
  agrees := by simp [ledger, h]
  distinct := by simp [ledger, h]
  closed := by simp [ledger, h]

/-- **Quarantine records are consistent** after every operation of a run in which the lab
cleans up no incident whose attempts are used up, and a record that is removed somewhere in
the run is the same ever after. -/
theorem quarantine_records_consistent (s : State) (hrows : s.rows.quarantineRecords = [])
    (before after : List Operation)
    (hleft : Runs.Along step (fun s op ↦ ¬ Overdrawn s op) s (before ++ after)) :
    RecordsConsistent (Runs.run step s (before ++ after)).rows ∧
      RemovedKept (Runs.run step s before).rows (Runs.run step s (before ++ after)).rows := by
  have hempty := consistent_of_empty hrows
  have hbefore := consistent_run hempty hleft.left
  have hafter := consistent_run hbefore.1 hleft.right
  rw [Runs.run_append]
  exact ⟨recordsConsistent_of_ledger hafter.1, hafter.2⟩

/-- A cluster whose policies are never found, with the egress of its pods open or cut. -/
def cluster (reachable : Bool) : Env :=
  { calm with
    readPod := fun _ _ name ↦ .ok (makePod name true)
    probeEgress := fun _ _ _ ↦ .ok reachable }

/-- The settings as they come. -/
def standard : Settings := .standard

/-- An operation against that cluster. -/
def against (reachable : Bool) (call : Call) : Operation where
  call := call
  env := cluster reachable
  faults := by
    intro w e h
    cases h

/-- An unexpected egress of a demo pod. -/
def unexpectedEgress : TetragonSecurityEvent where
  eventType := .unexpectedEgress
  severity := "warning"
  pod := "demo"
  workload := none
  policy := "cloudward-egress"
  workloadLabels := (makePod "demo" true).labels
  secretsOrDataExposure := false
  pod_valid := by decide
  demo_target := by decide

/-- A delivery of it. -/
def delivery : Delivery :=
  ⟨unexpectedEgress, "fingerprint", "0123456789abcdef0123456789abcdef", ∅, by decide⟩

theorem quarantine_records_consistent_removal :
    RecordsConsistent (Runs.run step ⟨{}, {}⟩
      [against true (.ingest delivery), against true (.apply 0 "operator"),
        against true (.remove 0 "operator")]).rows ∧
      RemovedKept
        (Runs.run step ⟨{}, {}⟩
          [against true (.ingest delivery), against true (.apply 0 "operator")]).rows
        (Runs.run step ⟨{}, {}⟩
          [against true (.ingest delivery), against true (.apply 0 "operator"),
            against true (.remove 0 "operator")]).rows := by
  have hleft (s : State) {op : Operation} (h : ∀ x, op.call ≠ .reconcile x) :
      ¬ Overdrawn s op := fun ⟨x, hcall, _⟩ ↦ h x hcall
  exact quarantine_records_consistent ⟨{}, {}⟩ rfl
    [against true (.ingest delivery), against true (.apply 0 "operator")]
    [against true (.remove 0 "operator")]
    ⟨hleft _ (by intro x h; cases h), hleft _ (by intro x h; cases h),
      hleft _ (by intro x h; cases h), trivial⟩

/-- The lab's execution that provoked the event. -/
def egressScenario : ChaosExecution where
  category := .unexpectedEgress
  targetNamespace := stagingNamespace
  resourceName := none
  eventsBefore := 0
  cleanupDeadline := 1
  status := .running

/-- An application and two removals that cannot be verified use up the attempts; then the
lab cleans up. -/
def overdrawn : List Operation :=
  [against true (.ingest delivery), against true (.apply 0 "operator"),
    against false (.remove 0 "operator"), against false (.remove 0 "operator"),
    against false (.reconcile egressScenario)]

private theorem statuses_overdrawn :
    (Runs.run step ⟨{}, {}⟩ overdrawn).rows.quarantineRecords.map (·.status) = [.removing] := by
  decide +kernel

/-- The clean-up leaves its record REMOVING. -/
theorem cleanup_leaves_removing :
    ¬ ∀ (s : State), s.rows.quarantineRecords = [] → ∀ before after : List Operation,
      RecordsConsistent (Runs.run step s (before ++ after)).rows ∧
        RemovedKept (Runs.run step s before).rows (Runs.run step s (before ++ after)).rows := by
  intro h
  have hconsistent := (h ⟨{}, {}⟩ rfl overdrawn []).1
  rw [List.append_nil] at hconsistent
  have hmem : ContainmentStatus.removing ∈
      (Runs.run step ⟨{}, {}⟩ overdrawn).rows.quarantineRecords.map (·.status) := by
    rw [statuses_overdrawn]
    exact List.mem_singleton_self _
  obtain ⟨record, hrecord, hstatus⟩ := List.mem_map.mp hmem
  exact (hconsistent.settled record hrecord).2 hstatus

/-! ### The branch that goes wrong -/

/-- Without an attempt left a removal stops at its new execution. -/
private theorem run_beginRemoval_exhausted {env : Env} (hq : Quiet env) {c : Containment}
    {w : World} (h : 3 ≤ highestAttempt w.db c.subject.incidentId) :
    ∃ w', (beginRemoval env c).run w = (.error (.cloudWard attemptLimit), w') ∧
      w'.db.quarantineRecords =
        w.db.quarantineRecords.update c.recordId ({ · with status := .removing }) := by
  have hset : ∃ w₁, (setContainment c.subject c.recordId .removing).run w = (.ok (), w₁) ∧
      w₁.db.quarantineRecords =
        w.db.quarantineRecords.update c.recordId ({ · with status := .removing }) ∧
      highestAttempt w₁.db c.subject.incidentId = highestAttempt w.db c.subject.incidentId :=
    ⟨_, rfl, rfl, rfl⟩
  obtain ⟨w₁, hrun, hrecords, hhighest⟩ := hset
  obtain ⟨n, hquery⟩ := reaches_query hq (highestAttempt · c.subject.incidentId) w₁
  use { w₁ with tick := n }
  constructor
  · unfold beginRemoval newExecution
    rw [Exec.run_bind_of_ok hrun, Exec.run_bind_of_ok hquery, dif_neg (by omega)]
    rfl
  · exact hrecords

/-- A clean-up that finds no attempt left commits its record as REMOVING. -/
private theorem cleanUp_exhausted {env : Env} (settings : Settings) (hq : Quiet env)
    {eventId : Nat} {w : World} (hsound : Sound k (view w))
    (h : CleansUpExhausted env eventId w) (status : ExperimentStatus) (detail : String) :
    ∃ record ∈ ((cleanUp env settings eventId status detail).run w).2.committed.quarantineRecords,
      record.status = .removing := by
  obtain ⟨⟨event, hevent, hneeds⟩, c, w₁, hopen, hhighest⟩ := h
  have hactive := (triple_openRemoval env eventId labWorker).of_ok hsound hopen
  obtain ⟨row, hrow, -⟩ := hactive.2 c rfl
  obtain ⟨w₂, hbegin, hrecords⟩ := run_beginRemoval_exhausted hq hhighest
  have hremove : (removeQuarantine env settings eventId labWorker).run w =
      (.error (.cloudWard attemptLimit), w₂) := by
    unfold removeQuarantine finishRemoval
    rw [Exec.run_bind_of_ok hopen]
    exact Exec.run_bind_of_error hbegin
  have hload : (loadSecurityEvent eventId).run w = (.ok event, w) := by
    unfold loadSecurityEvent
    rw [Exec.run_bind_of_ok (Exec.run_read _ w)]
    simp only [hevent]
    rfl
  have hswallow : (removeSecurityContainment env settings eventId).run w = (.ok false, w₂) := by
    unfold removeSecurityContainment
    rw [Exec.run_bind_of_ok hload, if_neg (by rw [hneeds]; decide), Exec.run_tryCatch,
      Exec.run_bind_of_error hremove]
    rfl
  obtain ⟨n, hflush⟩ := reaches_flush hq w₂
  obtain ⟨m, hcommit⟩ := reaches_commit hq { w₂ with tick := n }
  unfold cleanUp
  rw [Exec.run_bind_of_ok hswallow, Exec.run_bind_of_ok hflush, Exec.run_bind_of_ok hcommit]
  have hset : w₂.db.quarantineRecords[c.recordId]? = some { row with status := .removing } := by
    rw [hrecords, Table.getElem?_update_self]
    exact congrArg (Option.map _) hrow
  exact ⟨_, List.mem_of_getElem? hset, rfl⟩

/-- Where no statement fails, the branch that goes wrong leaves a record in between. -/
theorem overdrawn_leaves_removing {s : State} {op : Operation} (hq : Quiet op.env)
    (h : (ledger s.rows).Consistent) (hover : Overdrawn s op) :
    ¬ RecordsConsistent (step s op).rows := by
  obtain ⟨x, hcall, hactive, eventId, status, detail, w, hpass, hexhausted⟩ := hover
  have hsound : Sound (ledger s.rows) (view s.world) := {
    committed := h
    kept := Ledger.Extends.refl _
    session := h
    keeps := Ledger.Extends.refl _ }
  have hafter := (triple_openPass op.env op.settings op.faults x).of_ok hsound hpass
  obtain ⟨record, hmem, hremoving⟩ :=
    cleanUp_exhausted op.settings hq hafter hexhausted status detail
  intro hconsistent
  have hrows : (step s op).rows =
      ((cleanUp op.env op.settings eventId status detail).run w).2.committed := by
    simp only [step, Operation.run, hcall, run_reconcileExecution op.env op.settings hactive,
      Exec.run_bind_of_ok hpass]
  rw [← hrows] at hmem
  exact (hconsistent.settled record hmem).2 hremoving

end CloudWard.Security
