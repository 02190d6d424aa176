import CloudWard.Alerts.Jobs
import CloudWard.Alerts.Grouping
import CloudWard.Lab.Verified
import CloudWard.Lab.Sessions

/-!
# Executions that succeed on their own incident

A pass finds the incident of its scenario through the alert record that was received last
(`api/internal_reliability.py:370`). A record is one for all firings of an alert, and every
delivery refreshes it, so it may be linked to an incident that is older than the execution. As
long as no delivery refreshes such a record without opening an incident, an execution succeeds on
an incident created after it only.
-/

namespace CloudWard.Lab

open CloudWard.Alerts CloudWard.Approvals CloudWard.Db CloudWard.Incidents CloudWard.Kubernetes
  CloudWard.Logic CloudWard.Remediation CloudWard.Security CloudWard.Verification Service

variable {F : Type} [LE F] [DecidableLE F]

/-- An execution, and how many incidents there were when it was created. -/
structure Launched where
  row : ChaosExecution
  incidentsBefore : Nat

/-- The committed rows, and the executions of reliability scenarios. -/
structure Laboratory where
  rows : Database := {}
  executions : Table Launched := []

/-- What happens next. -/
inductive Act (F : Type)
  /-- The Alertmanager webhook receives a payload. -/
  | deliver (env : Env) (settings : Settings) (correlationId : String)
      (alerts : List NormalizedAlert)
  | launch (settings : Settings) (scenario : ChaosScenario) (principal resource : String)
      (now : Nat)
  | pass (i : Nat) (env : Env) (settings : Settings) (metrics : Metrics F) (cluster : Cluster)
  | stop (i : Nat) (principal : String) (now : Nat) (entries : Parameters)
  /-- Any other service runs; none writes alert records or takes incidents away. -/
  | others (f : Database → Database) (halerts : ∀ db, (f db).alerts = db.alerts)
      (hincidents : ∀ db, db.incidents.length ≤ (f db).incidents.length)

/-- An execution with its row changed. -/
def Launched.withRow (row : ChaosExecution) (e : Launched) : Launched := { e with row := row }

/-- The executions after a pass over one of them; one that raises leaves the row. -/
def Laboratory.afterPass (s : Laboratory) (i : Nat) : Except Exc Passed → Table Launched
  | .ok passed => s.executions.update i (Launched.withRow passed.row)
  | .error _ => s.executions

/-- One step. -/
def Laboratory.step (s : Laboratory) : Act F → Laboratory
  | .deliver env settings correlationId alerts =>
    let out := (ingestPayload env settings correlationId alerts).run (start s.rows)
    { s with rows := out.2.committed }
  | .launch settings scenario principal resource now =>
    let row := started settings scenario principal resource now
    { s with executions := s.executions.insert ⟨row, s.rows.incidents.length⟩ }
  | .pass i env settings metrics cluster =>
    match s.executions[i]? with
    | none => s
    | some e =>
      let out := (reconcileExecution env settings metrics e.row).run (start s.rows cluster)
      { rows := out.2.committed, executions := s.afterPass i out.1 }
  | .stop i principal now entries =>
    { s with executions := s.executions.update i fun e ↦
        if e.row.active then
          e.withRow ((cancelled principal now entries).write e.row e.row)
        else e }
  | .others f _ _ => { s with rows := f s.rows }

/-- The incident that a row names is no older than its execution. -/
def Launched.Newer (e : Launched) (incidentId : Option Nat) : Prop :=
  ∀ id ∈ incidentId, e.incidentsBefore ≤ id

/-- Every execution that succeeded did so on an incident created after it. -/
def Attributed (s : Laboratory) : Prop :=
  ∀ e ∈ s.executions, e.row.status = .succeeded →
    ∃ id, recordedIncident e.row.details = some id ∧ e.incidentsBefore ≤ id

/-! ### The condition -/

/-- An alert that finds its record linked to an incident older than an active execution which
waits for it opens a new incident. -/
def Relinks (executions : Table Launched) (db : Database) (alert : NormalizedAlert) : Prop :=
  ∀ e ∈ executions, e.row.active → ∀ entry ∈ recordOf db alert,
    entry.2.alertName = e.row.expectedAlert →
      e.Newer entry.2.incidentId ∨ Differs db alert ∧ Opens db alert

/-- The session after an alert of a payload. -/
def ingested (env : Env) (settings : Settings) (correlationId : String) (w : World)
    (alert : NormalizedAlert) : World :=
  ((ingestOne env settings correlationId alert).run w).2

/-- No delivery refreshes a record that stays linked to an older incident, and an execution is
created after the last delivery of its alert. -/
def Undisturbed (s : Laboratory) : Act F → Prop
  | .deliver env settings correlationId alerts =>
    Runs.Along (ingested env settings correlationId)
      (fun w alert ↦ Relinks s.executions w.db alert) (start s.rows) alerts
  | .launch _ scenario _ _ now => ∀ record ∈ s.rows.alerts,
    record.alertName = scenario.expectedAlert → record.incidentId ≠ none →
      record.lastReceivedAt < now
  | _ => True

/-! ### Deliveries -/

/-- The records that an execution may find are linked to no older incident. -/
def Launched.Safe (e : Launched) (db : Database) : Prop :=
  e.incidentsBefore ≤ db.incidents.length ∧
    ∀ record ∈ db.alerts, record.alertName = e.row.expectedAlert →
      e.row.createdAt ≤ record.lastReceivedAt → e.Newer record.incidentId

section Delivery

variable {e : Launched} {db db' : Database} {alert : NormalizedAlert} {correlationId : String}
variable {result : AlertIngestionResult}

/-- A record that is filed under a newer incident is safe. -/
private theorem safe_filed (hrecords : ∀ record ∈ db.alerts,
      record.alertName = e.row.expectedAlert → e.row.createdAt ≤ record.lastReceivedAt →
        e.Newer record.incidentId)
    {incidentId : Option Nat} {now : Nat} (hnew : recordOf db alert = none → e.Newer incidentId)
    (hfound : ∀ entry ∈ recordOf db alert, entry.2.alertName = e.row.expectedAlert →
      e.Newer (incidentId.or entry.2.incidentId)) :
    ∀ record ∈ filed db alert incidentId now, record.alertName = e.row.expectedAlert →
      e.row.createdAt ≤ record.lastReceivedAt → e.Newer record.incidentId := by
  intro record hmem hname hreceived
  unfold Alerts.filed at hmem
  split at hmem
  · next hnone =>
    rcases List.mem_append.mp hmem with hold | hrow
    · exact hrecords record hold hname hreceived
    · rw [List.mem_singleton.mp hrow]
      exact hnew hnone
  · next id old hentry =>
    rcases Table.mem_update_of_some (recordOf_eq_some hentry).1 hmem with hold | rfl
    · exact hrecords record hold hname hreceived
    · exact hfound (id, old) hentry hname

/-- An alert that relinks what it refreshes keeps an execution safe. -/
theorem Launched.Safe.ingests (h : e.Safe db) (hi : Ingests correlationId alert db result db')
    (hrelinks : ∀ entry ∈ recordOf db alert, entry.2.alertName = e.row.expectedAlert →
      e.Newer entry.2.incidentId ∨ Differs db alert ∧ Opens db alert) : e.Safe db' := by
  obtain ⟨hstored, hrecords⟩ := h
  cases hi with
  | @repeated id now old found same =>
    refine ⟨hstored, ?_⟩
    intro record hmem hname hreceived
    rcases Table.mem_update_of_some (recordOf_eq_some found).1 hmem with hold | rfl
    · exact hrecords record hold hname hreceived
    · rcases hrelinks (id, old) found hname with hnewer | ⟨hdiffers, -⟩
      · exact hnewer
      · exact absurd same (hdiffers _ found)
  | opened differs opens =>
    have hnewest : e.Newer (some db.incidents.fresh) := by
      intro id hid
      cases hid
      exact hstored
    exact ⟨hstored.trans (by simp), safe_filed hrecords (fun _ ↦ hnewest) fun _ _ _ ↦ hnewest⟩
  | followed differs follows =>
    constructor
    · refine hstored.trans (Nat.le_of_eq ?_)
      unfold Alerts.followed
      split
      · rfl
      · exact (Table.length_update _ _ _).symm
    apply safe_filed hrecords
    · intro hnone id hid
      simp [linkedTo, hnone] at hid
    · intro entry hentry hname id hid
      have hkept : e.Newer entry.2.incidentId :=
        (hrelinks entry hentry hname).resolve_right fun h ↦ follows h.2
      rcases Option.or_eq_some_iff.mp hid with hlink | ⟨-, hold⟩
      · obtain ⟨found, hfound, rfl⟩ := Option.map_eq_some_iff.mp hlink
        obtain ⟨-, entry', hentry', hlinked⟩ := linkedTo_eq_some hfound
        rw [hentry] at hentry'
        cases hentry'
        exact hkept _ hlinked
      · exact hkept id hold

/-- A payload whose alerts relink what they refresh keeps an execution safe. -/
theorem triple_ingestAlerts_safe {executions : Table Launched} (he : e ∈ executions)
    (hactive : e.row.active) (env : Env) (settings : Settings) (correlationId : String)
    (alerts : List NormalizedAlert) :
    Exec.Triple
      (fun w ↦ e.Safe w.db ∧ Runs.Along (ingested env settings correlationId)
        (fun w alert ↦ Relinks executions w.db alert) w alerts)
      (ingestAlerts env settings correlationId alerts) (fun _ w ↦ e.Safe w.db)
      fun _ _ ↦ True := by
  induction alerts with
  | nil =>
    apply Exec.Triple.bind (Q := fun _ w ↦ e.Safe w.db)
    · apply ((frames_flush env fun _ _ ↦ rfl : Exec.Frames World.db _).returns e.Safe).mono
      · exact fun _ h ↦ h.1
      · exact fun _ _ h ↦ h
      · exact fun _ _ h ↦ h
    · exact fun _ ↦ Exec.Triple.pure fun _ h ↦ h
  | cons alert alerts ih =>
    apply Exec.Triple.bind
      (Q := fun _ w ↦ e.Safe w.db ∧ Runs.Along (ingested env settings correlationId)
        (fun w alert ↦ Relinks executions w.db alert) w alerts)
    · rintro w ⟨hsafe, hrelinks, hrest⟩
      have hone := triple_ingestOne env settings correlationId alert w rfl
      rcases hrun : (ingestOne env settings correlationId alert).run w with ⟨_ | result, w'⟩
      · trivial
      · rw [hrun] at hone
        have hafter : ingested env settings correlationId w alert = w' := by
          unfold ingested
          rw [hrun]
        rw [hafter] at hrest
        exact ⟨hsafe.ingests hone (hrelinks e he hactive), hrest⟩
    · intro result
      exact Exec.Triple.bind ih fun _ ↦ Exec.Triple.pure fun _ h ↦ h

/-- So does what the webhook commits. -/
theorem safe_ingestPayload {executions : Table Launched} (he : e ∈ executions)
    (hactive : e.row.active) (hsafe : e.Safe db) {env : Env} {settings : Settings}
    {correlationId : String} {alerts : List NormalizedAlert}
    (hrelinks : Runs.Along (ingested env settings correlationId)
      (fun w alert ↦ Relinks executions w.db alert) (start db) alerts) :
    e.Safe ((ingestPayload env settings correlationId alerts).run (start db)).2.committed := by
  have hspec := ingestPayload_spec env settings correlationId alerts db (start db) rfl
  have halerts := triple_ingestAlerts_safe he hactive env settings correlationId alerts
  rcases hrun : (ingestPayload env settings correlationId alerts).run (start db) with
    ⟨_ | results, w⟩
  · rw [hrun] at hspec
    rwa [hspec]
  · rw [hrun] at hspec
    obtain ⟨w', hingest, hcommitted⟩ := hspec
    rw [hcommitted]
    exact halerts.of_ok ⟨hsafe, hrelinks⟩ hingest

end Delivery

/-! ### Passes -/

section Pass

variable {env : Env} {settings : Settings} {m : Metrics F} {x : ChaosExecution}

/-- What of the rows a pass leaves alone. -/
private def untouched (db : Database) : Table AlertRecord × Nat :=
  (db.alerts, db.incidents.length)

/-- The session's rows and the committed ones have the same of it. -/
private def Kept (c : Table AlertRecord × Nat) (w : World) : Prop :=
  untouched w.db = c ∧ untouched w.committed = c

private theorem keeps_kept {c : Table AlertRecord × Nat} {α : Type} {y : Service α}
    (h : Exec.Frames (fun w ↦ (untouched w.db, untouched w.committed)) y) :
    Exec.Keeps (Kept c) y :=
  h.keeps fun o ↦ o.1 = c ∧ o.2 = c

private theorem keeps_kept_commit {c : Table AlertRecord × Nat} (env : Env) :
    Exec.Keeps (Kept c) (commit env) :=
  Exec.keeps_bind (keeps_kept (frames_flush env fun _ _ ↦ rfl)) fun _ ↦
    Exec.Triple.update fun _ h ↦ ⟨h.1, h.1⟩

private theorem keeps_kept_active {c : Table AlertRecord × Nat} (env : Env)
    (row : ChaosExecution) (detail : String) (n : Nat) :
    Exec.Keeps (Kept c) (active env row detail n) :=
  Exec.keeps_bind (keeps_kept (frames_flush env fun _ _ ↦ rfl)) fun _ ↦
    Exec.keeps_bind (keeps_kept_commit env) fun _ ↦ Exec.keeps_pure _

private theorem keeps_kept_conclude {c : Table AlertRecord × Nat} (env : Env)
    (settings : Settings) (row : ChaosExecution) (status : ExperimentStatus) (now : Nat)
    (reason : Option String) (currentStep detail : String) :
    Exec.Keeps (Kept c) (conclude env settings row status now reason currentStep detail) := by
  apply Exec.keeps_bind
  · exact keeps_kept (frames_cleanup (fun _ _ ↦ rfl) (fun _ _ ↦ rfl) (fun _ _ ↦ rfl)
      (fun _ _ ↦ rfl) env settings row)
  intro _
  apply Exec.keeps_bind (keeps_kept (frames_flush env fun _ _ ↦ rfl))
  intro _
  exact Exec.keeps_bind (keeps_kept_commit env) fun _ ↦ Exec.keeps_pure _

private theorem keeps_kept_changeIncidentState {c : Table AlertRecord × Nat} (env : Env)
    (settings : Settings) (incidentId : Nat) (target : IncidentState) (details : Details) :
    Exec.Keeps (Kept c) (changeIncidentState env settings incidentId target verifier details) := by
  apply keeps_kept
  apply frames_changeIncidentState_of_update (fun _ _ ↦ rfl) env settings incidentId target
    verifier details false
  · intro w now
    simp only [untouched, Table.length_update]
  · exact fun _ _ _ ↦ rfl
  · exact fun _ _ _ _ ↦ rfl

omit [LE F] [DecidableLE F] in
private theorem keeps_kept_persistVerification {c : Table AlertRecord × Nat} (env : Env)
    (settings : Settings) (incidentId : Nat) (result : MultiSignalResult F) (attempt : Nat)
    (actionExecutionId : Option Nat) (source : ResolutionSource) :
    Exec.Keeps (Kept c) (persistVerification env settings incidentId result attempt
      actionExecutionId source) := by
  apply Exec.keeps_bind (keeps_kept (frames_ask _ fun _ _ ↦ rfl))
  intro now
  split
  · apply Exec.keeps_bind
    · exact keeps_kept (frames_insertVerificationRecord (fun _ _ ↦ rfl) env _ fun _ _ ↦ rfl)
    intro _
    apply Exec.keeps_bind (keeps_kept (frames_flush env fun _ _ ↦ rfl))
    intro _
    apply Exec.keeps_bind (keeps_kept (frames_query env _ fun _ _ ↦ rfl))
    intro execution
    apply Exec.keeps_bind
    · exact keeps_kept (Exec.frames_when fun _ ↦ frames_flush env fun _ _ ↦ rfl)
    intro _
    apply Exec.keeps_ite
    · intro _
      apply Exec.keeps_bind
      · apply keeps_kept
        apply Exec.frames_update
        intro w
        simp only [untouched, Table.length_update]
      · exact fun _ ↦ keeps_kept_changeIncidentState env settings incidentId _ _
    · exact fun _ ↦ Exec.keeps_when fun _ ↦
        keeps_kept_changeIncidentState env settings incidentId _ _
  · exact Exec.keeps_throw _

private theorem keeps_kept_verifyOnce {c : Table AlertRecord × Nat} (alert : AlertRecord)
    (incidentId : Nat) (name : String) (desired count : Nat) :
    Exec.Keeps (Kept c) (verifyOnce env settings m x alert incidentId name desired count) := by
  unfold verifyOnce
  split
  · apply Exec.keeps_bind (keeps_kept (frames_verify (fun _ _ ↦ rfl) env m _))
    intro result
    apply Exec.keeps_bind (keeps_kept (frames_query env _ fun _ _ ↦ rfl))
    intro action
    apply Exec.keeps_bind (keeps_kept_persistVerification env settings incidentId result _ _ _)
    intro _
    exact Exec.keeps_when fun _ ↦ keeps_kept (frames_rollBackScale (fun _ _ ↦ rfl)
      (fun _ _ ↦ rfl) (fun _ _ ↦ rfl) (fun _ _ ↦ rfl) env settings incidentId action)
  · exact Exec.keeps_throw _

private theorem keeps_kept_verifyIncident {c : Table AlertRecord × Nat}
    (loaded : ChaosExecution) (now : Nat) (alert : AlertRecord) (incidentId : Nat) :
    Exec.Keeps (Kept c) (verifyIncident env settings m loaded x now alert incidentId) := by
  apply Exec.keeps_bind (keeps_kept (frames_getDeployment (fun _ _ ↦ rfl) env _ _))
  intro deployment
  apply Exec.keeps_ite
  · exact fun _ ↦ Exec.keeps_bind (keeps_kept_active env _ _ _) fun _ ↦ Exec.keeps_pure _
  intro _
  apply Exec.keeps_bind (keeps_kept (frames_query env _ fun _ _ ↦ rfl))
  intro records
  apply Exec.keeps_ite
  · exact fun _ ↦ Exec.keeps_pure _
  intro _
  apply Exec.keeps_bind (Exec.keeps_when fun _ ↦ keeps_kept_verifyOnce alert incidentId _ _ _)
  exact fun _ ↦ Exec.keeps_pure _

private theorem keeps_kept_concludeReliability {c : Table AlertRecord × Nat}
    (now incidentId : Nat) :
    Exec.Keeps (Kept c) (concludeReliability env settings x now incidentId) := by
  apply Exec.keeps_bind (keeps_kept (frames_loadIncident incidentId))
  intro incident
  apply Exec.keeps_ite
  · exact fun _ ↦ keeps_kept_conclude env settings x _ now _ _ _
  · intro _
    apply Exec.keeps_ite
    · exact fun _ ↦ keeps_kept_conclude env settings x _ now _ _ _
    · exact fun _ ↦ keeps_kept_active env x _ _

/-- The row that an execution ends with names the incident that its details name. -/
private theorem recordedIncident_ended (status : ExperimentStatus) (now : Nat)
    (reason : Option String) (currentStep : String) :
    recordedIncident (ended x status now reason currentStep).details =
      recordedIncident x.details := rfl

/-- The row keeps what the alert of the execution is found by, and the execution succeeds on one
incident only. -/
def SucceedsOn (x : ChaosExecution) (found : Option Nat) (passed : Passed) : Prop :=
  passed.row.createdAt = x.createdAt ∧ passed.row.expectedAlert = x.expectedAlert ∧
    (passed.row.status = .succeeded →
      recordedIncident passed.row.details = found ∧ found.isSome)

/-- An active execution has not succeeded. -/
theorem ne_succeeded_of_active (hactive : x.active) : x.status ≠ .succeeded := by
  intro hstatus
  rw [ChaosExecution.active, hstatus] at hactive
  exact absurd hactive (by decide)

private theorem yields_active {row : ChaosExecution} (found : Option Nat)
    (hcreated : row.createdAt = x.createdAt) (halert : row.expectedAlert = x.expectedAlert)
    (hrow : row.status = x.status) (hactive : x.active) (detail : String) (n : Nat) :
    Exec.Yields (SucceedsOn x found) (active env row detail n) := by
  apply Exec.yields_bind
  intro _
  apply Exec.yields_bind
  intro _
  apply Exec.yields_pure
  refine ⟨hcreated, halert, ?_⟩
  intro hsucceeded
  exact absurd (hrow.symm.trans hsucceeded) (ne_succeeded_of_active hactive)

private theorem yields_conclude {row : ChaosExecution} {found : Option Nat}
    (hcreated : row.createdAt = x.createdAt) (halert : row.expectedAlert = x.expectedAlert)
    {status : ExperimentStatus}
    (hstatus : status = .succeeded → recordedIncident row.details = found ∧ found.isSome)
    (now : Nat) (reason : Option String) (currentStep detail : String) :
    Exec.Yields (SucceedsOn x found)
      (conclude env settings row status now reason currentStep detail) := by
  apply Exec.yields_bind
  intro _
  apply Exec.yields_bind
  intro _
  apply Exec.yields_bind
  intro _
  apply Exec.yields_pure
  refine ⟨hcreated, halert, ?_⟩
  intro hsucceeded
  rw [recordedIncident_ended]
  exact hstatus hsucceeded

private theorem yields_concludeReliability {row : ChaosExecution} {incidentId : Nat}
    (hcreated : row.createdAt = x.createdAt) (halert : row.expectedAlert = x.expectedAlert)
    (hrow : row.status = x.status) (hactive : x.active)
    (hfound : recordedIncident row.details = some incidentId) (now : Nat) :
    Exec.Yields (SucceedsOn x (some incidentId))
      (concludeReliability env settings row now incidentId) := by
  apply Exec.yields_bind
  intro incident
  split
  · exact yields_conclude hcreated halert (fun _ ↦ ⟨hfound, rfl⟩) now _ _ _
  · split
    · have hnot : ExperimentStatus.failed = .succeeded →
          recordedIncident row.details = some incidentId ∧ (some incidentId).isSome := nofun
      exact yields_conclude hcreated halert hnot now _ _ _
    · exact yields_active _ hcreated halert hrow hactive _ _

private theorem succeedsOn_waiting (found : Option Nat) (hactive : x.active) (detail : String)
    (n : Nat) : SucceedsOn x found (waiting x detail n) := by
  refine ⟨rfl, rfl, ?_⟩
  intro hsucceeded
  exact absurd hsucceeded (ne_succeeded_of_active hactive)

private theorem yields_passIncident (hactive : x.active) (now : Nat) (alert : AlertRecord)
    (incidentId : Nat) (incident : Incident) :
    Exec.Yields (SucceedsOn x (some incidentId))
      (passIncident env settings m x now alert incidentId incident) := by
  apply Exec.yields_bind_of
    (q := fun early ↦ ∀ passed ∈ early, SucceedsOn x (some incidentId) passed)
  · unfold verifyWhere
    split
    · apply Exec.yields_bind
      intro deployment
      dsimp only
      split
      · apply Exec.yields_bind_of (q := SucceedsOn x (some incidentId))
        · apply yields_active
          · rfl
          · rfl
          · rfl
          · exact hactive
        · intro passed hpassed
          apply Exec.yields_pure
          rintro _ ⟨⟩
          exact hpassed
      apply Exec.yields_bind
      intro records
      split
      · apply Exec.yields_pure
        rintro _ ⟨⟩
        exact succeedsOn_waiting _ hactive _ _
      apply Exec.yields_bind
      intro _
      apply Exec.yields_pure
      rintro _ ⟨⟩
    · apply Exec.yields_pure
      rintro _ ⟨⟩
  · intro early hearly
    cases early with
    | some passed => exact Exec.yields_pure (hearly passed rfl)
    | none =>
      apply yields_concludeReliability
      · rfl
      · rfl
      · rfl
      · exact hactive
      · rfl

/-- The incident that a pass goes over. -/
def foundBy (db : Database) (x : ChaosExecution) : Option Nat :=
  (scenarioAlert db x).bind (·.incidentId)

private theorem keeps_kept_passIncident {c : Table AlertRecord × Nat} (now : Nat)
    (alert : AlertRecord) (incidentId : Nat) (incident : Incident) :
    Exec.Keeps (Kept c) (passIncident env settings m x now alert incidentId incident) := by
  apply Exec.keeps_bind
  · exact Exec.keeps_ite (fun _ ↦ keeps_kept_verifyIncident x now alert incidentId) fun _ ↦
      Exec.keeps_pure _
  intro early
  cases early with
  | some passed => exact Exec.keeps_pure _
  | none => exact keeps_kept_concludeReliability now incidentId

/-- A pass over an active execution leaves alerts alone, and succeeds on the incident it finds. -/
theorem triple_reconcileReliability (db : Database) (hactive : x.active) :
    Exec.Triple (fun w ↦ w.db = db ∧ w.committed = db) (reconcileReliability env settings m x)
      (fun passed w ↦ Kept (untouched db) w ∧ SucceedsOn x (foundBy db x) passed)
      fun _ ↦ Kept (untouched db) := by
  have hkept (w : World) (h : w.db = db ∧ w.committed = db) : Kept (untouched db) w :=
    ⟨congrArg untouched h.1, congrArg untouched h.2⟩
  have hreads {α : Type} {y : Service α} (h : Exec.Frames (fun w ↦ (w.db, w.committed)) y) :
      Exec.Triple (fun w ↦ w.db = db ∧ w.committed = db) y
        (fun _ w ↦ w.db = db ∧ w.committed = db) fun _ ↦ Kept (untouched db) :=
    (h.keeps fun o ↦ o.1 = db ∧ o.2 = db).mono (fun _ h ↦ h) (fun _ _ h ↦ h) fun _ w h ↦ hkept w h
  have hends {y : Service Passed} (hkeeps : Exec.Keeps (Kept (untouched db)) y)
      (hyields : Exec.Yields (SucceedsOn x (foundBy db x)) y) :
      Exec.Triple (fun w ↦ w.db = db ∧ w.committed = db) y
        (fun passed w ↦ Kept (untouched db) w ∧ SucceedsOn x (foundBy db x) passed)
        fun _ ↦ Kept (untouched db) :=
    (hkeeps.yields hyields).mono hkept (fun _ _ h ↦ h) fun _ _ h ↦ h
  apply Exec.Triple.bind (hreads (frames_ask _ fun _ _ ↦ rfl))
  intro now
  apply Exec.Triple.ite
  · intro _
    apply hends (keeps_kept_conclude env settings x _ now _ _ _)
    exact yields_conclude rfl rfl (fun h ↦ absurd h (by decide)) now _ _ _
  intro _
  apply Exec.Triple.bind (Q := fun alert w ↦
    (w.db = db ∧ w.committed = db) ∧ alert = scenarioAlert db x)
  · apply Exec.Triple.bind (hreads (frames_flush env fun _ _ ↦ rfl))
    intro _
    exact Exec.Triple.read fun w h ↦ ⟨h, by rw [h.1]⟩
  intro alert
  apply Exec.Triple.assume
  intro halert
  have hwaits (detail : String) := hends (y := pure (waiting x detail)) (Exec.keeps_pure _)
    (Exec.yields_pure (succeedsOn_waiting (foundBy db x) hactive detail 5))
  cases alert with
  | none => exact hwaits _
  | some alert =>
    simp only
    split
    · exact hwaits _
    · next incidentId hlinked =>
      have hfound : foundBy db x = some incidentId := by
        rw [foundBy, ← halert, Option.bind_some, hlinked]
      apply Exec.Triple.bind (hreads (frames_query env _ fun _ _ ↦ rfl))
      intro incident
      cases incident with
      | none => exact hwaits _
      | some incident =>
        apply hends (keeps_kept_passIncident now alert incidentId incident)
        rw [hfound]
        exact yields_passIncident hactive now alert incidentId incident

/-- A pass leaves alerts alone; it leaves the row as it is, or succeeds on the incident that an
active execution finds. -/
theorem triple_reconcileExecution_kept (db : Database) :
    Exec.Triple (fun w ↦ w.db = db ∧ w.committed = db)
      (reconcileExecution env settings m x)
      (fun passed w ↦ untouched w.committed = untouched db ∧
        (passed.row = x ∨ x.active ∧ SucceedsOn x (foundBy db x) passed))
      fun _ w ↦ untouched w.committed = untouched db := by
  apply Exec.Triple.bind (Q := fun _ w ↦ w.db = db ∧ w.committed = db)
  · have hflush : Exec.Frames (fun w : World ↦ (w.db, w.committed)) (flush env) :=
      frames_flush env fun _ _ ↦ rfl
    exact (hflush.keeps fun o ↦ o.1 = db ∧ o.2 = db).mono (fun _ h ↦ h) (fun _ _ h ↦ h)
      fun _ _ h ↦ congrArg untouched h.2
  intro _
  apply Exec.Triple.ite
  · intro hactive
    exact (triple_reconcileReliability db hactive).mono (fun _ h ↦ h)
      (fun _ _ h ↦ ⟨h.1.2, .inr ⟨hactive, h.2⟩⟩) fun _ _ h ↦ h.2
  · exact fun _ ↦ Exec.Triple.pure fun _ h ↦ ⟨congrArg untouched h.2, .inl rfl⟩

end Pass

/-! ### Runs -/

/-- The incident that a safe execution finds is no older than it. -/
theorem Launched.Safe.foundBy {e : Launched} {db : Database} (h : e.Safe db) {id : Nat}
    (hfound : foundBy db e.row = some id) : e.incidentsBefore ≤ id := by
  obtain ⟨record, hrecord, hlink⟩ := Option.bind_eq_some_iff.mp hfound
  obtain ⟨hmem, hmatches⟩ := List.mem_filter.mp (List.argmax_mem hrecord)
  obtain ⟨hname, hreceived⟩ := of_decide_eq_true hmatches
  exact h.2 record hmem hname hreceived id hlink

/-- What makes an execution safe are the records and the number of the incidents. -/
theorem Launched.Safe.of_alerts {e : Launched} {db db' : Database} (h : e.Safe db)
    (halerts : db'.alerts = db.alerts) (hincidents : db.incidents.length ≤ db'.incidents.length) :
    e.Safe db' := by
  refine ⟨h.1.trans hincidents, ?_⟩
  rw [halerts]
  exact h.2

/-- Active executions are safe, and those that succeeded did so on newer incidents. -/
structure Fresh (s : Laboratory) : Prop where
  safe : ∀ e ∈ s.executions, e.row.active → e.Safe s.rows
  attributed : Attributed s

namespace Fresh

variable {s : Laboratory}

/-- The row that a pass leaves keeps its execution fresh. -/
private theorem withRow (h : Fresh s) {e : Launched} (he : e ∈ s.executions) {passed : Passed}
    (hrow : passed.row = e.row ∨
      e.row.active ∧ SucceedsOn e.row (Lab.foundBy s.rows e.row) passed) :
    ((e.withRow passed.row).row.active → (e.withRow passed.row).Safe s.rows) ∧
      ((e.withRow passed.row).row.status = .succeeded →
        ∃ id, recordedIncident (e.withRow passed.row).row.details = some id ∧
          e.incidentsBefore ≤ id) := by
  rcases hrow with hsame | ⟨hactive, hcreated, halert, hsucceeds⟩
  · have hself : e.withRow passed.row = e := by
      unfold Launched.withRow
      rw [hsame]
    rw [hself]
    exact ⟨h.safe e he, h.attributed e he⟩
  · have hsafe := h.safe e he hactive
    constructor
    · intro _
      refine ⟨hsafe.1, ?_⟩
      intro record hmem hname hreceived
      refine hsafe.2 record hmem (hname.trans halert) ?_
      rw [← hcreated]
      exact hreceived
    · intro hsucceeded
      obtain ⟨hrecorded, hfound⟩ := hsucceeds hsucceeded
      obtain ⟨id, hid⟩ := Option.isSome_iff_exists.mp hfound
      exact ⟨id, hrecorded.trans hid, hsafe.foundBy hid⟩

private theorem of_rows (h : Fresh s) {db : Database} (halerts : db.alerts = s.rows.alerts)
    (hincidents : s.rows.incidents.length ≤ db.incidents.length) : Fresh { s with rows := db } where
  safe e he hactive := (h.safe e he hactive).of_alerts halerts hincidents
  attributed := h.attributed

private theorem pass (h : Fresh s) (i : Nat) (env : Env) (settings : Settings) (m : Metrics F)
    (cluster : Cluster) : Fresh (s.step (.pass i env settings m cluster)) := by
  simp only [Laboratory.step]
  split
  · exact h
  next e he =>
  have hmem := List.mem_of_getElem? he
  have htriple : Exec.Triple _ (reconcileExecution env settings m e.row) _ _ :=
    triple_reconcileExecution_kept s.rows
  have hspec := htriple (start s.rows cluster) ⟨rfl, rfl⟩
  rcases hrun : (reconcileExecution env settings m e.row).run (start s.rows cluster) with
    ⟨exc | passed, w⟩
  · rw [hrun] at hspec
    obtain ⟨halerts, hincidents⟩ := Prod.mk.inj hspec
    exact h.of_rows halerts hincidents.ge
  · rw [hrun] at hspec
    obtain ⟨huntouched, hrow⟩ := hspec
    obtain ⟨halerts, hincidents⟩ := Prod.mk.inj huntouched
    obtain ⟨hsafe, hattributed⟩ := h.withRow hmem hrow
    have hrows := h.of_rows halerts hincidents.ge
    constructor
    · intro e' he' hactive'
      rcases Table.mem_update_of_some he he' with hold | rfl
      · exact hrows.safe e' hold hactive'
      · exact (hsafe hactive').of_alerts halerts hincidents.ge
    · intro e' he'
      rcases Table.mem_update_of_some he he' with hold | rfl
      · exact h.attributed e' hold
      · exact hattributed

/-- A step that does not disturb them keeps executions fresh. -/
theorem step (h : Fresh s) (act : Act F) (hact : Undisturbed s act) : Fresh (s.step act) := by
  cases act with
  | deliver env settings correlationId alerts =>
    exact ⟨fun e he hactive ↦ safe_ingestPayload he hactive (h.safe e he hactive) hact,
      h.attributed⟩
  | launch settings scenario principal resource now =>
    constructor
    · intro e he hactive
      rcases List.mem_append.mp he with hold | hnew
      · exact h.safe e hold hactive
      · rw [List.mem_singleton.mp hnew]
        refine ⟨Nat.le_refl _, ?_⟩
        intro record hmem hname hreceived id hid
        have hbefore : record.lastReceivedAt < now := by
          apply hact record hmem hname
          rw [hid]
          exact Option.some_ne_none id
        exact absurd hreceived (Nat.not_le.mpr hbefore)
    · intro e he hsucceeded
      rcases List.mem_append.mp he with hold | hnew
      · exact h.attributed e hold hsucceeded
      · rw [List.mem_singleton.mp hnew] at hsucceeded
        cases hsucceeded
  | pass i env settings m cluster => exact h.pass i env settings m cluster
  | stop i principal now entries =>
    constructor
    · intro e he hactive
      rcases Table.mem_update he with hold | ⟨old, hold, rfl⟩
      · exact h.safe e hold hactive
      · split at hactive
        · cases hactive
        · next hover => exact absurd hactive hover
    · intro e he hsucceeded
      rcases Table.mem_update he with hold | ⟨old, hold, rfl⟩
      · exact h.attributed e hold hsucceeded
      · split at hsucceeded
        · cases hsucceeded
        · next hover =>
          rw [if_neg hover]
          exact h.attributed old hold hsucceeded
  | others f halerts hincidents => exact h.of_rows (halerts _) (hincidents _)

end Fresh

/-- **When no delivery disturbs.** In every run from any rows and no executions whose deliveries
relink the records that they refresh, and whose executions are created after the last delivery
of their alert, an execution succeeds on an incident created after it only. -/
theorem executions_attributed (db : Database) (acts : List (Act F))
    (h : Runs.Along Laboratory.step Undisturbed ⟨db, []⟩ acts) :
    Attributed (Runs.run Laboratory.step ⟨db, []⟩ acts) := by
  have hfresh : Fresh (Runs.run Laboratory.step ⟨db, []⟩ acts) := by
    apply Runs.invariant_along (I := Fresh) (fun s act hs hact ↦ hs.step act hact) _ h
    constructor <;> intro e he <;> cases he
  exact hfresh.attributed

/-! ### A record that outlives its incident -/

/-- The calm environment at a moment. -/
def calmAt (now : Nat) : Env := { calm with now := fun _ ↦ now }

/-- `reliability.memory-pressure`, `demo/scenarios.py:74`. -/
def memoryPressure : ChaosScenario where
  id := "reliability.memory-pressure"
  mechanism := .stressChaos
  durationSeconds := 60
  expectedAlert := "ContainerOOMKilled"
  expectedRunbook := "reliability.memory-pressure"
  cleanupStrategy := "delete_stresschaos"
  maxRuntimeSeconds := 240

/-- Operators resolve every incident. -/
def resolveAll (db : Database) : Database :=
  { db with incidents := db.incidents.map fun incident ↦ { incident with state := .resolved } }

/-- Their step. -/
def resolving : Act Nat :=
  .others resolveAll (fun _ ↦ rfl) fun _ ↦ Nat.le_of_eq (List.length_map _).symm

/-- The alert fires after the start, its incident is resolved, and a pass ends the execution. -/
def firedAfterStart : List (Act Nat) := [
  .launch .standard memoryPressure "operator" "cloudward-1" 5,
  .deliver (calmAt 6) .standard "first" [oomKilled .firing "a"],
  resolving,
  .pass 0 (calmAt 7) .standard flatMetrics {}]

/-- The alert fired before the start and its incident was resolved; what is delivered after the
start is that it is resolved. -/
def resolvedAfterStart : List (Act Nat) := [
  .deliver (calmAt 1) .standard "first" [oomKilled .firing "a"],
  resolving,
  .launch .standard memoryPressure "operator" "cloudward-1" 5,
  .deliver (calmAt 6) .standard "second" [oomKilled .resolved "b"],
  .pass 0 (calmAt 7) .standard flatMetrics {}]

/-- The executions, with whether they succeeded. -/
def endings (s : Laboratory) : List (Nat × Option Nat × Bool) :=
  s.executions.map fun e ↦
    (e.incidentsBefore, recordedIncident e.row.details, decide (e.row.status = .succeeded))

/-- Nothing is disturbed when the alert fires after the start, and the execution succeeds. -/
theorem executions_attributed_firedAfterStart :
    endings (Runs.run Laboratory.step {} firedAfterStart) = [(0, some 0, true)] ∧
      Attributed (Runs.run Laboratory.step {} firedAfterStart) := by
  refine ⟨by decide +kernel, executions_attributed {} firedAfterStart ?_⟩
  refine ⟨?_, ⟨?_, trivial⟩, trivial, trivial, trivial⟩
  · intro record hrecord
    cases hrecord
  · intro e he hactive entry hentry
    cases hentry

/-- The execution succeeds on the incident that was resolved before it was created. -/
theorem resolvedAfterStart_not_attributed :
    ¬ ∀ acts : List (Act Nat), Attributed (Runs.run Laboratory.step {} acts) := by
  intro h
  have hendings : endings (Runs.run Laboratory.step {} resolvedAfterStart) =
      [(1, some 0, true)] := by decide +kernel
  have hmem : ((1, some 0, true) : Nat × Option Nat × Bool) ∈
      endings (Runs.run Laboratory.step {} resolvedAfterStart) := by
    rw [hendings]
    exact List.mem_singleton_self _
  obtain ⟨e, he, hentry⟩ := List.mem_map.mp hmem
  obtain ⟨hbefore, hrest⟩ := Prod.mk.inj hentry
  obtain ⟨hrecorded, hsucceeded⟩ := Prod.mk.inj hrest
  obtain ⟨id, hid, hle⟩ := h resolvedAfterStart e he (of_decide_eq_true hsucceeded)
  rw [hrecorded] at hid
  cases hid
  rw [hbefore] at hle
  exact absurd hle (by decide)

end CloudWard.Lab
