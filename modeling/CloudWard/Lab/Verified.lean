import CloudWard.Lab.Reconcile
import CloudWard.Logic.Runs

/-!
# What verification by signals decides

Over any run of passes over one execution, whatever the environment answers and whatever the rest
of the system does between them: an incident has at most three verifications, a pass resolves an
incident only with a verification all of whose required checks passed, a third verification that
failed escalates it, and no required check passed without its reading. A health endpoint that
answers without a status counts as read.
-/

namespace CloudWard.Lab

open CloudWard.Approvals CloudWard.Db CloudWard.Incidents CloudWard.Kubernetes CloudWard.Logic
  CloudWard.Remediation CloudWard.Security CloudWard.Verification Service

variable {F : Type} [LE F] [DecidableLE F]

/-- No incident has more than three verifications. -/
def Bounded (db : Database) : Prop := ∀ id, (recordsOf db id).length ≤ 3

/-- A pass: what answers it, and what the rest of the system did before it. -/
structure Turn (F : Type) where
  env : Env
  settings : Settings
  metrics : Metrics F
  cluster : Cluster
  others : Database → Database
  /-- What the others write obeys the constraints of the table. -/
  others_bounded : ∀ db, Bounded db → Bounded (others db)

/-- The committed rows, with the row of the execution. -/
structure Situation where
  rows : Database
  execution : ChaosExecution

/-- The rows that a pass finds. -/
def Situation.found (s : Situation) (t : Turn F) : Database := t.others s.rows

/-- The rows and the row of the execution after a pass; one that raises leaves the latter. -/
def Situation.next (s : Situation) (t : Turn F) : Situation :=
  let out := (reconcileExecution t.env t.settings t.metrics s.execution).run
    (start (s.found t) t.cluster)
  { rows := out.2.committed
    execution := match out.1 with
      | .ok passed => passed.row
      | .error _ => s.execution }

/-- The moments of a pass, by the calls made before them. -/
def moments (db : Database) (cluster : Cluster) (n : Nat) : World :=
  { start db cluster with tick := n }

/-- The verifications that a pass added. -/
def added (before after : Database) : List VerificationRecord :=
  after.verificationRecords.drop before.verificationRecords.length

/-- The plan of a verification: of an alert of its incident, and of the replicas that its deployment
asked for. -/
def PlannedFor (env : Env) (x : ChaosExecution) (before : Database) (cluster : Cluster)
    (incidentId : Nat) (plan : VerificationPlan) : Prop :=
  ∃ alert ∈ before.alerts, alert.incidentId = some incidentId ∧ ∃ n deployment,
    env.readDeployment (moments before cluster n) x.targetNamespace (deploymentOf alert) =
      .ok deployment ∧
    ∃ h, plan = planOf x alert (deploymentOf alert) (deployment.replicas.getD 0) h

/-- What a pass over an execution may do to incidents and verifications, when `accepts` tells which
answers of the health endpoint are readings of health. -/
structure Decides (accepts : ServicePayload → Bool) (t : Turn F) (x : ChaosExecution)
    (before after : Database) : Prop where
  kept : before.verificationRecords <+: after.verificationRecords
  resolved : ∀ (id : Nat) (i j : Incident), before.incidents[id]? = some i →
    i.state ≠ .resolved → after.incidents[id]? = some j → j.state = .resolved →
    ∃ row ∈ added before after, row.incidentId = id ∧ row.success ∧
      ∀ check ∈ row.checks, check.required → check.passed
  escalated : ∀ row ∈ added before after, row.success = false →
    (recordsOf after row.incidentId).length = 3 →
    ∃ j, after.incidents[row.incidentId]? = some j ∧ j.state = .escalated
  supported : ∀ row ∈ added before after, ∃ plan,
    PlannedFor t.env x before t.cluster row.incidentId plan ∧
    ∀ type, ∃ check ∈ row.checks, check.name = SignalType.value type ∧
      (check.required → check.passed →
        Supported t.env t.metrics plan (moments before t.cluster) accepts type)

/-! ### Readings -/

section Readings

variable {w₀ : World} {α : Type}

/-- Only calls were made since. -/
def Since (w₀ w : World) : Prop := { w with tick := 0 } = { w₀ with tick := 0 }

theorem Since.eq {w : World} (h : Since w₀ w) : w = { w₀ with tick := w.tick } := by
  calc w = { ({ w with tick := 0 } : World) with tick := w.tick } := rfl
    _ = { ({ w₀ with tick := 0 } : World) with tick := w.tick } := by rw [h]

private theorem keeps_since {x : Service α}
    (h : Exec.Frames (fun w : World ↦ { w with tick := 0 }) x) : Exec.Keeps (Since w₀) x :=
  h.keeps (· = { w₀ with tick := 0 })

/-- An answer is given at some moment. -/
private theorem triple_call (answer : World → Except Exc α) :
    Exec.Triple (Since w₀) (call answer)
      (fun a w ↦ Since w₀ w ∧ ∃ n, answer { w₀ with tick := n } = .ok a) fun _ ↦ Since w₀ := by
  intro w hw
  rw [run_call]
  cases hanswer : answer w with
  | error e => exact hw
  | ok a =>
    refine ⟨hw, w.tick, ?_⟩
    rwa [← hw.eq]

private theorem triple_getDeployment (env : Env) (ns name : String) :
    Exec.Triple (Since w₀) (getDeployment env ns name)
      (fun d w ↦ Since w₀ w ∧ ∃ n deployment,
        env.readDeployment { w₀ with tick := n } ns name = .ok deployment ∧
          d.desiredReplicas = deployment.replicas.getD 0 ∧
          d.readyReplicas = deployment.readyReplicas.getD 0) fun _ ↦ Since w₀ := by
  apply Exec.Triple.bind (keeps_since (frames_validateName _ _))
  intro _
  apply Exec.Triple.bind (keeps_since (frames_validateName _ _))
  intro _
  apply Exec.Triple.bind
  · apply Exec.Triple.tryCatch (triple_call _)
    exact fun e ↦ Exec.Triple.throw fun _ h ↦ h
  · rintro deployment
    exact Exec.Triple.pure fun w ⟨hw, n, hread⟩ ↦ ⟨hw, n, deployment, hread, rfl, rfl⟩

private theorem triple_getPods (env : Env) (ns labelSelector : String) :
    Exec.Triple (Since w₀) (getPods env ns labelSelector)
      (fun pods w ↦ Since w₀ w ∧ ∃ n,
        env.listPods { w₀ with tick := n } ns labelSelector = .ok pods) fun _ ↦ Since w₀ := by
  apply Exec.Triple.bind (keeps_since (frames_validateName _ _))
  intro _
  apply Exec.Triple.bind (keeps_since (Exec.frames_require _ _))
  intro _
  apply Exec.Triple.tryCatch (triple_call _)
  exact fun e ↦ Exec.Triple.throw fun _ h ↦ h

/-- A healthy service answered so. -/
private theorem triple_getServiceHealth (env : Env) (ns serviceName path : String) :
    Exec.Triple (Since w₀) (getServiceHealth env ns serviceName path)
      (fun health w ↦ Since w₀ w ∧ (health.healthy → ∃ n path payload,
        env.serviceHealth { w₀ with tick := n } ns serviceName path = .ok payload ∧
          payload.healthy)) fun _ ↦ Since w₀ := by
  apply Exec.Triple.bind (keeps_since (frames_validateName _ _))
  intro _
  apply Exec.Triple.bind (keeps_since (frames_validateName _ _))
  intro _
  cases normalizedPath path with
  | none => exact Exec.Triple.throw fun _ h ↦ h
  | some normalized =>
    apply Exec.Triple.tryCatch (E := fun _ ↦ Since w₀)
    · apply Exec.Triple.bind (triple_call _)
      intro payload
      exact Exec.Triple.pure fun w ⟨hw, n, hread⟩ ↦
        ⟨hw, fun hhealthy ↦ ⟨n, normalized, payload, hread, hhealthy⟩⟩
    · intro e
      apply Exec.Triple.ite
      · intro _
        exact Exec.Triple.pure fun w hw ↦ ⟨hw, fun h ↦ absurd h Bool.false_ne_true⟩
      · exact fun _ ↦ Exec.Triple.throw fun _ h ↦ h

/-- A verification rests on answers. -/
theorem triple_verify (env : Env) (m : Metrics F) (plan : VerificationPlan) :
    Exec.Triple (Since w₀) (verify env m plan)
      (fun result w ↦ Since w₀ w ∧ ∃ r, result = resultOf (signalChecks m plan r) ∧
        Evidenced env m plan (fun n ↦ { w₀ with tick := n }) r) fun _ ↦ Since w₀ := by
  have hscalar (samples : List (Series F)) :
      Exec.Triple (Since w₀) (Exec.ofExcept (m.latestScalar samples) : Service (Option F))
        (fun a w ↦ Since w₀ w ∧ m.latestScalar samples = .ok a) fun _ ↦ Since w₀ :=
    Exec.Triple.ofExcept (fun _ ha _ hw ↦ ⟨hw, ha⟩) fun _ _ _ hw ↦ hw
  have hsampled {query : String} {samples : List (Series F)} {reading : Option F} {n : Nat}
      (hread : m.queryRange { w₀ with tick := n } query = .ok samples)
      (hscalar : m.latestScalar samples = .ok reading) :
      ∀ x ∈ reading, Sampled m (fun n ↦ { w₀ with tick := n }) query x := by
    rintro x rfl
    obtain ⟨readings, hne, hreads, hsum⟩ := readings_of_latestScalar hscalar
    exact ⟨n, samples, readings, hread, hne, hreads, hsum⟩
  apply Exec.Triple.bind
    (Q := fun r w ↦ Since w₀ w ∧ Evidenced env m plan (fun n ↦ { w₀ with tick := n }) r)
  · apply Exec.Triple.bind (triple_getDeployment env _ _)
    intro deployment
    apply Exec.Triple.assume
    rintro ⟨n, read, hdeployment, -, hready⟩
    apply Exec.Triple.bind (triple_getPods env _ _)
    intro pods
    apply Exec.Triple.assume
    rintro ⟨k, hpods⟩
    apply Exec.Triple.bind (Q := fun _ ↦ Since w₀)
    · exact keeps_since (frames_ask _ fun _ _ ↦ rfl)
    intro restarts
    apply Exec.Triple.bind (triple_call _)
    intro errors
    apply Exec.Triple.assume
    rintro ⟨i, herrors⟩
    apply Exec.Triple.bind (hscalar errors)
    intro errorRate
    apply Exec.Triple.assume
    intro herrorRate
    apply Exec.Triple.bind (triple_call _)
    intro latencies
    apply Exec.Triple.assume
    rintro ⟨j, hlatencies⟩
    apply Exec.Triple.bind (hscalar latencies)
    intro latency
    apply Exec.Triple.assume
    intro hlatency
    apply Exec.Triple.bind (triple_getServiceHealth env _ _ _)
    intro health
    apply Exec.Triple.pure
    rintro w ⟨hw, hhealth⟩
    exact ⟨hw, {
      replicas := ⟨n, read, hdeployment, hready⟩
      pods := ⟨k, pods, hpods, rfl⟩
      errorRate := hsampled herrors herrorRate
      latency := hsampled hlatencies hlatency
      health := hhealth }⟩
  · intro r
    exact Exec.Triple.pure fun w ⟨hw, h⟩ ↦ ⟨hw, r, rfl, h⟩

/-- A query returns a function of the rows. -/
private theorem triple_query (env : Env) (f : Database → α) :
    Exec.Triple (Since w₀) (query env f) (fun a w ↦ Since w₀ w ∧ a = f w₀.db)
      fun _ ↦ Since w₀ := by
  apply Exec.Triple.bind (keeps_since (frames_flush env fun _ _ ↦ rfl))
  intro _
  apply Exec.Triple.read
  intro w hw
  exact ⟨hw, by rw [hw.eq]⟩

end Readings

/-! ### One pass -/

section Pass

variable {t : Turn F} {x : ChaosExecution} {db : Database}

/-- A verification that a pass may store. -/
structure Sound (t : Turn F) (x : ChaosExecution) (db : Database) (row : VerificationRecord) :
    Prop where
  few : (recordsOf db row.incidentId).length < 3
  passed : row.success → ∀ check ∈ row.checks, check.required → check.passed
  supported : ∃ plan, PlannedFor t.env x db t.cluster row.incidentId plan ∧
    ∀ type, ∃ check ∈ row.checks, check.name = SignalType.value type ∧
      (check.required → check.passed →
        Supported t.env t.metrics plan (moments db t.cluster) ServicePayload.healthy type)

/-- What a pass makes of the incidents and the verifications it found. -/
inductive Verdict (t : Turn F) (x : ChaosExecution) (db : Database) :
    Table Incident → Table VerificationRecord → Prop
  | unverified : Verdict t x db db.incidents db.verificationRecords
  | verified {row : VerificationRecord} {incidents : Table Incident} (hrow : Sound t x db row)
      (hothers : ∀ id ≠ row.incidentId, incidents[id]? = db.incidents[id]?)
      (hfailed : row.success = false →
        (incidents[row.incidentId]? = db.incidents[row.incidentId]? ∧
            (recordsOf db row.incidentId).length ≠ 2) ∨
          ∃ j, incidents[row.incidentId]? = some j ∧ j.state = .escalated) :
      Verdict t x db incidents (db.verificationRecords.insert row)

/-- The rows of an incident with one of its own added. -/
theorem length_recordsOf_insert {after : Database} {row : VerificationRecord}
    (h : after.verificationRecords = db.verificationRecords.insert row) (id : Nat) :
    (recordsOf after id).length =
      (recordsOf db id).length + if row.incidentId = id then 1 else 0 := by
  unfold recordsOf
  rw [h, Table.insert, List.filter_append, List.length_append]
  by_cases hid : row.incidentId = id
  · simp [hid]
  · simp [hid]

theorem Verdict.bounded {after : Database}
    (h : Verdict t x db after.incidents after.verificationRecords) (hdb : Bounded db) :
    Bounded after := by
  intro id
  generalize hi : after.incidents = incidents at h
  generalize hr : after.verificationRecords = records at h
  cases h with
  | unverified =>
    have h := hdb id
    unfold recordsOf at h ⊢
    rwa [hr]
  | @verified row _ hrow _ _ =>
    rw [length_recordsOf_insert hr id]
    have hbound := hdb id
    have hfew := hrow.few
    split
    · next hid =>
      rw [hid] at hfew
      omega
    · exact hbound

theorem Verdict.decides {after : Database}
    (h : Verdict t x db after.incidents after.verificationRecords) :
    Decides ServicePayload.healthy t x db after := by
  generalize hi : after.incidents = incidents at h
  generalize hr : after.verificationRecords = records at h
  cases h with
  | unverified =>
    have hnone : added db after = [] := by simp [added, hr]
    constructor
    · exact hr ▸ List.prefix_rfl
    · intro id i j hrow hstate hafter hresolved
      rw [hi, hrow] at hafter
      cases hafter
      exact absurd hresolved hstate
    · intro row hadded
      rw [hnone] at hadded
      exact absurd hadded List.not_mem_nil
    · intro row hadded
      rw [hnone] at hadded
      exact absurd hadded List.not_mem_nil
  | @verified row _ hrow hothers hfailed =>
    have hone : added db after = [row] := by simp [added, hr, Table.insert]
    constructor
    · rw [hr]
      exact List.prefix_append _ _
    · intro id i j hbefore hstate hafter hresolved
      rw [hi] at hafter
      by_cases hid : id = row.incidentId
      · subst hid
        refine ⟨row, by simp [hone], rfl, ?_⟩
        cases hsuccess : row.success with
        | true => exact ⟨rfl, hrow.passed hsuccess⟩
        | false =>
          rcases hfailed hsuccess with ⟨hsame, -⟩ | ⟨k, hk, hescalated⟩
          · rw [hsame, hbefore] at hafter
            cases hafter
            exact absurd hresolved hstate
          · rw [hk] at hafter
            cases hafter
            rw [hescalated] at hresolved
            cases hresolved
      · rw [hothers id hid, hbefore] at hafter
        cases hafter
        exact absurd hresolved hstate
    · intro row' hadded hunsuccessful hthird
      rw [hone, List.mem_singleton] at hadded
      subst hadded
      rw [length_recordsOf_insert hr, if_pos rfl] at hthird
      rcases hfailed hunsuccessful with ⟨-, hcount⟩ | hescalated
      · exact absurd (Nat.succ.inj hthird) hcount
      · rwa [hi]
    · intro row' hadded
      rw [hone, List.mem_singleton] at hadded
      subst hadded
      exact hrow.supported

/-- The session holds what a pass may come to, and nothing is committed yet. -/
def Held (t : Turn F) (x : ChaosExecution) (db : Database) (w : World) : Prop :=
  w.committed = db ∧ Verdict t x db w.db.incidents w.db.verificationRecords

/-- What is committed is what a pass may come to. -/
def Final (t : Turn F) (x : ChaosExecution) (db : Database) (w : World) : Prop :=
  Verdict t x db w.committed.incidents w.committed.verificationRecords

theorem Held.final {w : World} (h : Held t x db w) : Final t x db w := by
  unfold Final
  rw [h.1]
  exact .unverified

theorem held_of_since {w : World} (h : Since (start db t.cluster) w) : Held t x db w := by
  rw [h.eq]
  exact ⟨rfl, .unverified⟩

/-- What of a world a pass is held to. -/
private def columns (w : World) : Database × Table Incident × Table VerificationRecord :=
  (w.committed, w.db.incidents, w.db.verificationRecords)

private theorem keeps_held {α : Type} {y : Service α} (h : Exec.Frames columns y) :
    Exec.Keeps (Held t x db) y :=
  h.keeps fun c ↦ c.1 = db ∧ Verdict t x db c.2.1 c.2.2

private theorem keeps_held_commit (env : Env) :
    Exec.Triple (Held t x db) (commit env) (fun _ ↦ Final t x db) fun _ ↦ Final t x db := by
  apply Exec.Triple.bind
  · exact (keeps_held (frames_flush env fun _ _ ↦ rfl)).mono (fun _ h ↦ h) (fun _ _ h ↦ h)
      fun _ _ h ↦ h.final
  · exact fun _ ↦ Exec.Triple.update fun _ h ↦ h.2

/-- A pass that commits the row and goes on later. -/
private theorem triple_active (env : Env) (row : ChaosExecution) (detail : String) (n : Nat) :
    Exec.Triple (Held t x db) (active env row detail n) (fun _ ↦ Final t x db)
      fun _ ↦ Final t x db := by
  apply Exec.Triple.bind (Q := fun _ ↦ Held t x db)
  · exact (keeps_held (frames_flush env fun _ _ ↦ rfl)).mono (fun _ h ↦ h) (fun _ _ h ↦ h)
      fun _ _ h ↦ h.final
  intro _
  apply Exec.Triple.bind (keeps_held_commit env)
  exact fun _ ↦ Exec.Triple.pure fun _ h ↦ h

private theorem triple_conclude (env : Env) (settings : Settings) (row : ChaosExecution)
    (status : ExperimentStatus) (now : Nat) (reason : Option String) (currentStep detail : String) :
    Exec.Triple (Held t x db)
      (conclude env settings row status now reason currentStep detail) (fun _ ↦ Final t x db)
      fun _ ↦ Final t x db := by
  apply Exec.Triple.bind (Q := fun _ ↦ Held t x db)
  · exact (keeps_held (frames_cleanup (fun _ _ ↦ rfl) (fun _ _ ↦ rfl) (fun _ _ ↦ rfl)
      (fun _ _ ↦ rfl) env settings row)).mono (fun _ h ↦ h) (fun _ _ h ↦ h) fun _ _ h ↦ h.final
  intro _
  apply Exec.Triple.bind (Q := fun _ ↦ Held t x db)
  · exact (keeps_held (frames_flush env fun _ _ ↦ rfl)).mono (fun _ h ↦ h) (fun _ _ h ↦ h)
      fun _ _ h ↦ h.final
  intro _
  apply Exec.Triple.bind (keeps_held_commit env)
  exact fun _ ↦ Exec.Triple.pure fun _ h ↦ h

private theorem triple_concludeReliability (env : Env) (settings : Settings)
    (row : ChaosExecution) (now incidentId : Nat) :
    Exec.Triple (Held t x db) (concludeReliability env settings row now incidentId)
      (fun _ ↦ Final t x db) fun _ ↦ Final t x db := by
  apply Exec.Triple.bind (Q := fun _ ↦ Held t x db)
  · exact (keeps_held (frames_loadIncident incidentId)).mono (fun _ h ↦ h) (fun _ _ h ↦ h)
      fun _ _ h ↦ h.final
  intro incident
  apply Exec.Triple.ite
  · exact fun _ ↦ triple_conclude env settings row _ now _ _ _
  · intro _
    apply Exec.Triple.ite
    · exact fun _ ↦ triple_conclude env settings row _ now _ _ _
    · exact fun _ ↦ triple_active env row _ _

/-- Everything `columns` holds but one incident. -/
private def elsewhere (id : Nat) (w : World) :
    Database × Table VerificationRecord × (Nat → Option Incident) :=
  (w.committed, w.db.verificationRecords,
    fun id' ↦ if id' = id then none else w.db.incidents[id']?)

private theorem elsewhere_update (id : Nat) (f : Incident → Incident) (w : World) :
    elsewhere id
      { w with db := { w.db with incidents := w.db.incidents.update id f } } =
        elsewhere id w := by
  unfold elsewhere
  congr 2
  funext id'
  split
  · rfl
  · next hid => exact Table.getElem?_update_of_ne w.db.incidents f (Ne.symm hid)

private theorem frames_elsewhere_changeIncidentState (env : Env) (settings : Settings) (id : Nat)
    (target : IncidentState) (details : Details) :
    Exec.Frames (elsewhere id)
      (changeIncidentState env settings id target verifier details) :=
  frames_changeIncidentState_of_update (fun _ _ ↦ rfl) env settings id target verifier details
    false (fun w _ ↦ elsewhere_update id _ w) (fun _ _ _ ↦ rfl) fun _ _ _ _ ↦ rfl

/-- What the verifier does to the incident is a pass' outcome. -/
private theorem triple_decideIncident (env : Env) (settings : Settings)
    {row : VerificationRecord} (hrow : Sound t x db row) (source : ResolutionSource) :
    Exec.Triple
      (fun w ↦ columns w = (db, db.incidents, db.verificationRecords.insert row))
      (decideIncident env settings row.incidentId row.success
        ((recordsOf db row.incidentId).length + 1) source)
      (fun _ ↦ Held t x db) fun _ w ↦ w.committed = db := by
  let id := row.incidentId
  let rest (incidents : Table Incident) : Nat → Option Incident :=
    fun id' ↦ if id' = id then none else incidents[id']?
  let p (c : Database × Table VerificationRecord × (Nat → Option Incident)) : Prop :=
    c = (db, db.verificationRecords.insert row, rest db.incidents)
  have hothers {w : World} (h : p (elsewhere id w)) :
      w.committed = db ∧ w.db.verificationRecords = db.verificationRecords.insert row ∧
        ∀ id' ≠ id, w.db.incidents[id']? = db.incidents[id']? := by
    simp only [p, elsewhere, Prod.mk.injEq] at h
    refine ⟨h.1, h.2.1, ?_⟩
    intro id' hid'
    have heq := congrFun h.2.2 id'
    simpa only [rest, if_neg hid'] using heq
  have hrest {w : World} (h : columns w = (db, db.incidents, db.verificationRecords.insert row)) :
      p (elsewhere id w) := by
    simp only [columns, Prod.mk.injEq] at h
    simp only [p, elsewhere, rest, h.1, h.2.1, h.2.2]
  have hchange (target : IncidentState) (details : Details) :
      Exec.Triple (fun w ↦ p (elsewhere id w))
        (changeIncidentState env settings id target verifier details)
        (fun _ w ↦ p (elsewhere id w) ∧
          ∃ j, w.db.incidents[id]? = some j ∧ j.state = target) fun _ w ↦ w.committed = db := by
    apply (((frames_elsewhere_changeIncidentState env settings id target details).keeps p).and
      (triple_changeIncidentState env settings id target verifier details)).mono
    · exact fun _ h ↦ ⟨h, trivial⟩
    · exact fun _ _ h ↦ h
    · exact fun _ _ h ↦ (hothers h.1).1
  unfold decideIncident
  cases hsuccess : row.success with
  | true =>
    rw [if_pos rfl]
    apply Exec.Triple.bind (Q := fun _ w ↦ p (elsewhere id w))
    · apply triple_write
      intro w hw
      rw [elsewhere_update]
      exact hrest hw
    intro _
    apply (hchange .resolved {}).mono
    · exact fun _ h ↦ h
    · rintro _ w ⟨hw, -⟩
      obtain ⟨hcommitted, hrecords, hsame⟩ := hothers hw
      refine ⟨hcommitted, ?_⟩
      rw [hrecords]
      exact .verified hrow hsame fun hfailed ↦ absurd (hsuccess.symm.trans hfailed) (by decide)
    · exact fun _ _ h ↦ h
  | false =>
    rw [if_neg Bool.false_ne_true]
    apply Exec.Triple.when
    · intro _
      apply (hchange .escalated _).mono
      · exact fun _ h ↦ hrest h
      · rintro _ w ⟨hw, hstate⟩
        obtain ⟨hcommitted, hrecords, hsame⟩ := hothers hw
        refine ⟨hcommitted, ?_⟩
        rw [hrecords]
        exact .verified hrow hsame fun _ ↦ .inr hstate
      · exact fun _ _ h ↦ h
    · intro hcount w hw
      simp only [columns, Prod.mk.injEq] at hw
      refine ⟨hw.1, ?_⟩
      rw [hw.2.1, hw.2.2]
      exact .verified hrow (fun _ _ ↦ rfl) fun _ ↦ .inl ⟨rfl, by omega⟩

/-- A verification that rests on the answers of the pass may be stored. -/
theorem sound_verificationRow {incidentId : Nat} {plan : VerificationPlan} {r : Readings F}
    (hplan : PlannedFor t.env x db t.cluster incidentId plan)
    (hevidenced : Evidenced t.env t.metrics plan (moments db t.cluster) r)
    (hfew : (recordsOf db incidentId).length < 3) {attempt : Nat}
    (actionExecutionId : Option Nat) (now : Nat) (h : 1 ≤ attempt ∧ attempt ≤ 3) :
    Sound t x db (verificationRow incidentId (resultOf (signalChecks t.metrics plan r)) attempt
      actionExecutionId now h) where
  few := hfew
  passed := by
    intro hsuccess check hcheck hrequired
    obtain ⟨signal, hsignal, rfl⟩ := List.mem_map.mp hcheck
    have hall := List.all_eq_true.mp hsuccess signal hsignal
    simp only [decide_eq_true_eq] at hall
    exact hall.resolve_left (not_not.mpr hrequired)
  supported := by
    refine ⟨plan, hplan, ?_⟩
    intro type
    have hexists : ∃ check ∈ signalChecks t.metrics plan r, check.type = type :=
      exists_check_of_type r type
    obtain ⟨signal, hsignal, rfl⟩ := hexists
    refine ⟨signal.stored, List.mem_map_of_mem hsignal, rfl, ?_⟩
    exact supported_of_evidenced hevidenced hsignal

private theorem triple_persistVerification {incidentId : Nat} {plan : VerificationPlan}
    {r : Readings F} (hplan : PlannedFor t.env x db t.cluster incidentId plan)
    (hevidenced : Evidenced t.env t.metrics plan (moments db t.cluster) r)
    (hfew : (recordsOf db incidentId).length < 3) (env : Env) (settings : Settings)
    (actionExecutionId : Option Nat) (source : ResolutionSource) :
    Exec.Triple (Since (start db t.cluster))
      (persistVerification env settings incidentId (resultOf (signalChecks t.metrics plan r))
        ((recordsOf db incidentId).length + 1) actionExecutionId source)
      (fun _ ↦ Held t x db) fun _ w ↦ w.committed = db := by
  have hcommitted {w : World} (h : Since (start db t.cluster) w) : w.committed = db := by
    rw [h.eq]
    rfl
  have hattempt : 1 ≤ (recordsOf db incidentId).length + 1 ∧
      (recordsOf db incidentId).length + 1 ≤ 3 := by omega
  apply Exec.Triple.bind (Q := fun _ ↦ Since (start db t.cluster))
  · exact (keeps_since (frames_ask _ fun _ _ ↦ rfl)).mono (fun _ h ↦ h) (fun _ _ h ↦ h)
      fun _ _ h ↦ hcommitted h
  intro now
  rw [dif_pos hattempt]
  have hrow := sound_verificationRow hplan hevidenced hfew actionExecutionId now hattempt
  generalize hresult : verificationRow incidentId _ _ actionExecutionId now hattempt = row at hrow ⊢
  let p (c : Database × Table Incident × Table VerificationRecord) : Prop :=
    c = (db, db.incidents, db.verificationRecords.insert row)
  have hstays {α : Type} {y : Service α} (h : Exec.Frames columns y) :
      Exec.Triple (fun w ↦ p (columns w)) y (fun _ w ↦ p (columns w))
        fun _ w ↦ w.committed = db :=
    (h.keeps p).mono (fun _ h ↦ h) (fun _ _ h ↦ h) fun _ w h ↦ congrArg Prod.fst h
  apply Exec.Triple.bind (Q := fun _ w ↦ p (columns w))
  · apply Exec.Triple.bind (Q := fun _ ↦ Since (start db t.cluster))
    · exact Exec.Triple.read fun _ h ↦ h
    intro records
    apply Exec.Triple.bind (Q := fun _ ↦ Since (start db t.cluster))
    · exact Exec.Triple.require (fun _ _ h ↦ h) fun _ _ h ↦ hcommitted h
    intro _
    apply Exec.Triple.bind (Q := fun _ w ↦ p (columns w))
    · apply triple_write
      intro w hw
      rw [hw.eq]
      rfl
    intro _
    exact hstays (frames_flush env fun _ _ ↦ rfl)
  intro _
  apply Exec.Triple.bind (hstays (frames_flush env fun _ _ ↦ rfl))
  intro _
  apply Exec.Triple.bind (hstays (frames_query env _ fun _ _ ↦ rfl))
  intro execution
  apply Exec.Triple.bind
  · exact hstays (Exec.frames_when fun _ ↦ frames_flush env fun _ _ ↦ rfl)
  intro _
  subst hresult
  exact triple_decideIncident env settings hrow source

private theorem triple_verifyOnce {alert : AlertRecord} {incidentId : Nat} {n : Nat}
    {deployment : V1Deployment} (row : ChaosExecution)
    (hrow : row.targetNamespace = x.targetNamespace) (halert : alert ∈ db.alerts)
    (hlinked : alert.incidentId = some incidentId)
    (hread : t.env.readDeployment (moments db t.cluster n) x.targetNamespace
      (deploymentOf alert) = .ok deployment)
    (hfew : (recordsOf db incidentId).length < 3) :
    Exec.Triple (Since (start db t.cluster))
      (verifyOnce t.env t.settings t.metrics row alert incidentId (deploymentOf alert)
        (deployment.replicas.getD 0) (recordsOf db incidentId).length)
      (fun _ ↦ Held t x db) fun _ w ↦ w.committed = db := by
  have hcommitted {w : World} (h : Since (start db t.cluster) w) : w.committed = db := by
    rw [h.eq]
    rfl
  unfold verifyOnce
  split
  · next hdesired =>
    have hplanned : PlannedFor t.env x db t.cluster incidentId
        (planOf row alert (deploymentOf alert) (deployment.replicas.getD 0) hdesired) := by
      refine ⟨alert, halert, hlinked, n, deployment, hread, hdesired, ?_⟩
      simp only [planOf, hrow]
    apply Exec.Triple.bind
    · exact (triple_verify t.env t.metrics _).mono (fun _ h ↦ h) (fun _ _ h ↦ h)
        fun _ _ h ↦ hcommitted h
    intro result
    apply Exec.Triple.assume
    rintro ⟨r, rfl, hevidenced⟩
    apply Exec.Triple.bind (Q := fun _ ↦ Since (start db t.cluster))
    · exact (keeps_since (frames_query _ _ fun _ _ ↦ rfl)).mono (fun _ h ↦ h) (fun _ _ h ↦ h)
        fun _ _ h ↦ hcommitted h
    intro action
    apply Exec.Triple.bind
    · exact triple_persistVerification hplanned hevidenced hfew t.env t.settings _ _
    intro _
    apply Exec.Triple.when
    · intro _
      have hrollback : Exec.Keeps (Held t x db)
          (rollBackScale t.env t.settings incidentId action) :=
        keeps_held (frames_rollBackScale (fun _ _ ↦ rfl) (fun _ _ ↦ rfl) (fun _ _ ↦ rfl)
          (fun _ _ ↦ rfl) t.env t.settings incidentId action)
      exact hrollback.mono (fun _ h ↦ h) (fun _ _ h ↦ h) fun _ _ h ↦ h.1
    · exact fun _ _ h ↦ h
  · exact Exec.Triple.throw fun _ h ↦ hcommitted h

private theorem triple_verifyIncident {alert : AlertRecord} {incidentId : Nat}
    (loaded row : ChaosExecution) (hrow : row.targetNamespace = x.targetNamespace)
    (halert : alert ∈ db.alerts) (hlinked : alert.incidentId = some incidentId) (now : Nat) :
    Exec.Triple (Since (start db t.cluster))
      (verifyIncident t.env t.settings t.metrics loaded row now alert incidentId)
      (fun early w ↦ if early.isSome then Final t x db w else Held t x db w)
      fun _ ↦ Final t x db := by
  have hfinal {w : World} (h : Since (start db t.cluster) w) : Final t x db w :=
    (held_of_since h).final
  apply Exec.Triple.bind
  · exact (triple_getDeployment t.env _ _).mono (fun _ h ↦ h) (fun _ _ h ↦ h)
      fun _ _ h ↦ hfinal h
  intro deployment
  apply Exec.Triple.assume
  rintro ⟨n, read, hread, hdesired, -⟩
  apply Exec.Triple.ite
  · intro _
    apply Exec.Triple.bind
    · exact (triple_active t.env _ _ _).mono (fun _ h ↦ held_of_since h) (fun _ _ h ↦ h)
        fun _ _ h ↦ h
    · exact fun _ ↦ Exec.Triple.pure fun _ h ↦ h
  intro _
  apply Exec.Triple.bind
  · exact (triple_query t.env _).mono (fun _ h ↦ h) (fun _ _ h ↦ h) fun _ _ h ↦ hfinal h
  intro records
  apply Exec.Triple.assume
  rintro rfl
  apply Exec.Triple.ite
  · exact fun _ ↦ Exec.Triple.pure fun _ h ↦ hfinal h
  intro _
  apply Exec.Triple.bind (Q := fun _ ↦ Held t x db)
  · apply Exec.Triple.when
    · intro hfew
      rw [hdesired]
      apply (triple_verifyOnce row hrow halert hlinked (by rw [← hrow]; exact hread) hfew).mono
      · exact fun _ h ↦ h
      · exact fun _ _ h ↦ h
      · intro _ w h
        unfold Final
        rw [h]
        exact .unverified
    · exact fun _ _ h ↦ held_of_since h
  · exact fun _ ↦ Exec.Triple.pure fun _ h ↦ h

private theorem triple_passIncident {alert : AlertRecord} {incidentId : Nat}
    (halert : alert ∈ db.alerts) (hlinked : alert.incidentId = some incidentId) (now : Nat)
    (incident : Incident) :
    Exec.Triple (Since (start db t.cluster))
      (passIncident t.env t.settings t.metrics x now alert incidentId incident)
      (fun _ ↦ Final t x db) fun _ ↦ Final t x db := by
  apply Exec.Triple.bind (Q := fun early w ↦ if early.isSome then Final t x db w
    else Held t x db w)
  · apply Exec.Triple.ite
    · have hrow : (located x incidentId incident).targetNamespace = x.targetNamespace := rfl
      exact fun _ ↦ triple_verifyIncident x _ hrow halert hlinked now
    · exact fun _ ↦ Exec.Triple.pure fun _ h ↦ held_of_since h
  intro early
  cases early with
  | some passed => exact Exec.Triple.pure fun _ h ↦ h
  | none => exact triple_concludeReliability t.env t.settings _ now incidentId

private theorem triple_passAlert (now : Nat) :
    Exec.Triple (Since (start db t.cluster)) (passAlert t.env t.settings t.metrics x now)
      (fun _ ↦ Final t x db) fun _ ↦ Final t x db := by
  have hfinal {w : World} (h : Since (start db t.cluster) w) : Final t x db w :=
    (held_of_since h).final
  apply Exec.Triple.bind
  · exact (triple_query t.env _).mono (fun _ h ↦ h) (fun _ _ h ↦ h) fun _ _ h ↦ hfinal h
  intro alert
  apply Exec.Triple.assume
  intro halert
  cases alert with
  | none => exact Exec.Triple.pure fun _ h ↦ hfinal h
  | some alert =>
    have hmem : alert ∈ db.alerts := List.mem_of_mem_filter (List.argmax_mem halert.symm)
    simp only
    split
    · exact Exec.Triple.pure fun _ h ↦ hfinal h
    · next incidentId hlinked =>
      apply Exec.Triple.bind (Q := fun _ ↦ Since (start db t.cluster))
      · exact (keeps_since (frames_query _ _ fun _ _ ↦ rfl)).mono (fun _ h ↦ h) (fun _ _ h ↦ h)
          fun _ _ h ↦ hfinal h
      intro incident
      cases incident with
      | none => exact Exec.Triple.pure fun _ h ↦ hfinal h
      | some incident => exact triple_passIncident hmem hlinked now incident

/-- What a pass commits. -/
theorem triple_reconcileExecution :
    Exec.Triple (Since (start db t.cluster))
      (reconcileExecution t.env t.settings t.metrics x) (fun _ ↦ Final t x db)
      fun _ ↦ Final t x db := by
  have hfinal {w : World} (h : Since (start db t.cluster) w) : Final t x db w :=
    (held_of_since h).final
  apply Exec.Triple.bind (Q := fun _ ↦ Since (start db t.cluster))
  · exact (keeps_since (frames_flush _ fun _ _ ↦ rfl)).mono (fun _ h ↦ h) (fun _ _ h ↦ h)
      fun _ _ h ↦ hfinal h
  intro _
  apply Exec.Triple.ite
  · intro _
    apply Exec.Triple.bind (Q := fun _ ↦ Since (start db t.cluster))
    · exact (keeps_since (frames_ask _ fun _ _ ↦ rfl)).mono (fun _ h ↦ h) (fun _ _ h ↦ h)
        fun _ _ h ↦ hfinal h
    intro now
    apply Exec.Triple.ite
    · intro _
      exact (triple_conclude t.env t.settings x _ now _ _ _).mono (fun _ h ↦ held_of_since h)
        (fun _ _ h ↦ h) fun _ _ h ↦ h
    · exact fun _ ↦ triple_passAlert now
  · exact fun _ ↦ Exec.Triple.pure fun _ h ↦ hfinal h

end Pass

/-! ### Every run of passes -/

/-- What one pass makes of the rows it found. -/
theorem verdict_next (s : Situation) (t : Turn F) :
    Verdict t s.execution (s.found t) (s.next t).rows.incidents
      (s.next t).rows.verificationRecords :=
  triple_reconcileExecution.state (I := Final t s.execution (s.found t)) rfl

/-- The rows after a run keep to three verifications an incident. -/
theorem bounded_run {s : Situation} (hs : Bounded s.rows) (turns : List (Turn F)) :
    Bounded (Runs.run Situation.next s turns).rows := by
  apply Runs.invariant (I := fun s : Situation ↦ Bounded s.rows) _ hs
  intro s t h
  exact (verdict_next s t).bounded (t.others_bounded _ h)

/-- **Verification by signals decides the incident.** After any run of passes no incident has more
than three verifications, and the next pass resolves, escalates and passes checks only as it
may. -/
theorem verification_decides {s : Situation} (hs : Bounded s.rows) (turns : List (Turn F))
    (t : Turn F) :
    Bounded (Runs.run Situation.next s turns).rows ∧
      Decides ServicePayload.healthy t (Runs.run Situation.next s turns).execution
        ((Runs.run Situation.next s turns).found t)
        ((Runs.run Situation.next s turns).next t).rows :=
  ⟨bounded_run hs turns, (verdict_next _ t).decides⟩

/-! ### A health endpoint that says nothing of its status -/

/-- An answer with a status that can be read and means health. -/
def reportsHealth : ServicePayload → Bool
  | .object status state => (status.or state).any healthyStatus
  | .other => false

/-- One ready pod, and a health endpoint that answers an empty object. -/
def statuslessEnv : Env :=
  { calm with
    readDeployment := fun _ _ _ ↦ .ok ⟨some 1, some 1, ∅, []⟩
    listPods := fun _ _ _ ↦ .ok [makePod "cloudward-demo" true]
    serviceHealth := fun _ _ _ _ ↦ .ok (.object none none) }

/-- Both queries are answered with one series, whose point is 0. -/
def flatMetrics : Metrics Nat where
  queryRange _ _ := .ok [[("value", .list [.int 0, .int 0])]]
  restartCount _ _ := 0
  ofString _ := none
  ofInt n := some n.toNat
  sum := List.sum
  errorRateThreshold := 0
  p95LatencyThreshold := 2

/-- A pass that nothing else happens before. -/
def statuslessTurn : Turn Nat where
  env := statuslessEnv
  settings := Settings.standard
  metrics := flatMetrics
  cluster := {}
  others := id
  others_bounded _ h := h

/-- The alert of a scenario, received after its start. -/
def oomAlert : AlertRecord where
  incidentId := some 0
  fingerprint := "oom"
  payloadDigest := "digest"
  alertName := "ContainerOOMKilled"
  status := .firing
  severity := "warning"
  service := "cloudward-demo"
  environment := .staging
  ns := none
  labels := ∅
  annotations := ∅
  startsAt := 0
  endsAt := none
  lastReceivedAt := 1

/-- The incident of the alert is being verified. -/
def underVerification : Situation where
  rows := {
    incidents := [{
      correlationId := "oom"
      incidentType := "reliability.memory-pressure"
      title := "ContainerOOMKilled on cloudward-demo"
      environment := .staging
      state := .verifying }]
    alerts := [oomAlert] }
  execution := {
    scenarioId := "reliability.memory-pressure"
    status := .running
    requestedBy := "operator"
    targetNamespace := demoNamespace
    targetSelector := demoSelector
    expectedAlert := "ContainerOOMKilled"
    expectedRunbook := "reliability.memory-pressure"
    maxRuntimeSeconds := 240
    cleanupDeadline := 240
    details := [] }

theorem bounded_underVerification : Bounded underVerification.rows := fun _ ↦ Nat.zero_le 3

/-- The guarantees at a run of one pass. -/
theorem verification_decides_statusless :
    Bounded (Runs.run Situation.next underVerification [statuslessTurn]).rows ∧
      Decides ServicePayload.healthy statuslessTurn
        (Runs.run Situation.next underVerification [statuslessTurn]).execution
        ((Runs.run Situation.next underVerification [statuslessTurn]).found statuslessTurn)
        ((Runs.run Situation.next underVerification [statuslessTurn]).next statuslessTurn).rows :=
  verification_decides bounded_underVerification [statuslessTurn] statuslessTurn

/-- The health of a service that reports none is counted as passed, and the incident resolved. -/
theorem statusless_not_reported :
    Bounded underVerification.rows ∧
      (underVerification.next statuslessTurn).rows.incidents.map (·.state) = [.resolved] ∧
      ¬ Decides reportsHealth statuslessTurn underVerification.execution
        (underVerification.found statuslessTurn) (underVerification.next statuslessTurn).rows := by
  refine ⟨bounded_underVerification, by decide +kernel, ?_⟩
  intro h
  have hpassed : (added (underVerification.found statuslessTurn)
      (underVerification.next statuslessTurn).rows).any (fun row ↦ row.checks.all fun check ↦
        check.passed && (check.required || check.name != "health_endpoint")) = true := by
    decide +kernel
  obtain ⟨row, hrow, hall⟩ := List.any_eq_true.mp hpassed
  obtain ⟨plan, -, hsupported⟩ := h.supported row hrow
  obtain ⟨check, hcheck, hname, hread⟩ := hsupported .healthEndpoint
  have hboth := List.all_eq_true.mp hall check hcheck
  have hrequired : check.required = true ∧ check.passed = true := by
    simpa [hname, SignalType.value, and_comm] using hboth
  obtain ⟨n, path, payload, hanswer, hreports⟩ := hread hrequired.1 hrequired.2
  cases hanswer
  exact absurd hreports Bool.false_ne_true

end CloudWard.Lab
