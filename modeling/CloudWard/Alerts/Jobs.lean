import CloudWard.Alerts.Service
import CloudWard.Logic.Runs
import CloudWard.Reliability.Preconditions

/-!
# Deliveries and jobs in any order

The webhook and the workers as one machine: a delivery commits its records and enqueues
jobs, and any job that was ever enqueued may be processed, any number of times, at any later
point. A job decides by its incident alone; the status of the alert is read by nobody.
-/

namespace CloudWard.Alerts

open CloudWard.Approvals CloudWard.Db CloudWard.Incidents CloudWard.Kubernetes CloudWard.Logic
  CloudWard.Remediation CloudWard.Runbooks Service

/-- What happens next: a payload is delivered, of whose jobs `published` are enqueued before
publishing fails, or a job is processed. -/
inductive Call
  | deliver (correlationId : String) (alerts : List NormalizedAlert) (published : Nat)
  | work (job : Nat) (runbooks : RunbookLoader)

/-- A call with the settings and the environment it meets. -/
structure Operation where
  call : Call
  settings : Settings
  env : Env

/-- The committed rows, every job enqueued so far and the cluster. -/
structure State where
  rows : Database := {}
  jobs : List AlertJob := []
  cluster : Cluster := {}

/-- A fresh session on a state. -/
def State.world (s : State) : World := start s.rows s.cluster

/-- The world in which the processing of a job ends. -/
def State.worked (s : State) (env : Env) (settings : Settings) (runbooks : RunbookLoader)
    (job : AlertJob) : World :=
  ((processAlertJob env settings runbooks job).run s.world).2

/-- The jobs of a webhook that answered. -/
def enqueued : Except Exc (List AlertJob) → List AlertJob
  | .ok jobs => jobs
  | .error _ => []

/-- One operation. -/
def step (s : State) (op : Operation) : State :=
  match op.call with
  | .deliver correlationId alerts published =>
    let r := (alertmanagerWebhook op.env op.settings correlationId alerts).run s.world
    ⟨r.2.committed, s.jobs ++ (enqueued r.1).take published, r.2.cluster⟩
  | .work i runbooks =>
    match s.jobs[i]? with
    | none => s
    | some job =>
      let w := s.worked op.env op.settings runbooks job
      ⟨w.committed, s.jobs, w.cluster⟩

/-! ### Jobs that find nothing to do -/

/-- The states in which `process` goes on past its evidence. -/
def acceptedStates : List IncidentState := [.detected, .collectingEvidence, .classifying]

/-- What a job may change. -/
def still (w : World) : Database × Database × Cluster × List Event :=
  (w.db, w.committed, w.cluster, w.trace)

/-- Evidence of an incident in another state is gathered and then refused. -/
private theorem triple_gather_refused (env : Env) (settings : Settings) {id : Nat}
    (alert : Reliability.NormalizedAlert) {incident : Incident}
    (hstate : incident.state ∉ acceptedStates) {v : Database × Database × Cluster × List Event}
    (hrow : v.1.incidents[id]? = some incident) :
    Exec.Triple (fun w ↦ still w = v) (Reliability.gather env settings id alert)
      (fun _ _ ↦ False) fun _ w ↦ still w = v := by
  have hkeeps {α : Type} {x : Service α} (h : Exec.Frames still x) :
      Exec.Triple (fun w ↦ still w = v) x (fun _ w ↦ still w = v) fun _ w ↦ still w = v :=
    h.keeps (· = v)
  have htick : ∀ w n, still { w with tick := n } = still w := fun _ _ ↦ rfl
  simp only [acceptedStates, List.mem_cons, List.not_mem_nil, or_false, not_or] at hstate
  apply Exec.Triple.bind (Q := fun row w ↦ still w = v ∧ row = incident)
  · rintro w hw
    have hload : (loadIncident id).run w = (.ok incident, w) := by
      have hdb : w.db.incidents[id]? = some incident := by
        rw [← hrow, ← hw]
        rfl
      unfold loadIncident
      rw [Exec.run_bind_of_ok (Exec.run_read _ w), hdb]
      rfl
    rw [hload]
    exact ⟨hw, rfl⟩
  intro row
  apply Exec.Triple.assume
  rintro rfl
  apply Exec.Triple.bind (hkeeps (Exec.frames_when fun h ↦ absurd h hstate.1))
  intro _
  apply Exec.Triple.bind (hkeeps (Exec.frames_require _ _))
  intro _
  apply Exec.Triple.bind (hkeeps (frames_getPods htick env _ _))
  intro pods
  split
  · apply Exec.Triple.bind (hkeeps (frames_getDeployment htick env _ _))
    intro deployment
    apply Exec.Triple.bind (hkeeps (frames_getEvents htick env _ _))
    intro _
    apply Exec.Triple.bind (hkeeps (frames_call _ htick))
    intro _
    apply Exec.Triple.bind (hkeeps (frames_flush env htick))
    intro _
    apply Exec.Triple.bind (Q := fun _ _ ↦ False)
    · intro w hw
      have hdb : w.db.incidents[id]? = some row := by
        rw [← hrow, ← hw]
        rfl
      have hnot : .classifying ∉ allowedTransitions row.state := by
        rw [classifying_mem_allowedTransitions]
        exact hstate.2.1
      obtain ⟨e, -, he⟩ := changeIncidentState_refused env settings Reliability.worker {} hdb
        hstate.2.2 hnot
      rw [he]
      exact hw
    intro _ w h
    exact h.elim
  · exact Exec.Triple.throw fun _ h ↦ h

/-- What a job finds when there is nothing for it to do: a proposal, or an incident that is
past its evidence or over. -/
def Settled (db : Database) (incidentId : Nat) : Prop :=
  (∃ proposal ∈ db.proposals, proposal.incidentId = incidentId) ∨
    ∀ incident ∈ db.incidents[incidentId]?, incident.state ∉ acceptedStates

/-- A settled incident's alert is processed without any effect. -/
private theorem triple_process_settled (env : Env) (settings : Settings)
    (runbooks : RunbookLoader) {id : Nat} (alert : Reliability.NormalizedAlert)
    {v : Database × Database × Cluster × List Event} (hsettled : Settled v.1 id) {incident : Incident}
    (hrow : v.1.incidents[id]? = some incident) :
    Exec.Triple (fun w ↦ still w = v) (Reliability.process env settings runbooks id alert)
      (fun _ w ↦ still w = v) fun _ w ↦ still w = v := by
  have hkeeps {α : Type} {x : Service α} (h : Exec.Frames still x) :
      Exec.Triple (fun w ↦ still w = v) x (fun _ w ↦ still w = v) fun _ w ↦ still w = v :=
    h.keeps (· = v)
  apply Exec.Triple.bind (Q := fun existing w ↦
    still w = v ∧ existing = v.1.proposals.latest (·.incidentId = id))
  · apply Exec.Triple.bind (hkeeps (frames_flush env fun _ _ ↦ rfl))
    intro _
    apply Exec.Triple.read
    rintro w hw
    exact ⟨hw, by rw [← hw]; rfl⟩
  intro existing
  apply Exec.Triple.assume
  intro hexisting
  cases existing with
  | some entry =>
    exact hkeeps (Exec.frames_bind (frames_loadIncident _) fun _ ↦ Exec.frames_pure _)
  | none =>
    have hstate : incident.state ∉ acceptedStates := by
      rcases hsettled with ⟨proposal, hmem, hof⟩ | hstate
      · have hnone := Table.latest_eq_none.mp hexisting.symm proposal hmem
        simp [hof] at hnone
      · exact hstate incident hrow
    apply Exec.Triple.bind (triple_gather_refused env settings alert hstate hrow)
    intro _ w h
    exact h.elim

/-- A world that a job left as it found its state. -/
structure Idle (s : State) (w : World) : Prop where
  rows : w.committed = s.rows
  cluster : w.cluster = s.cluster
  trace : ∀ m, .mutated m ∉ w.trace

/-- A settled incident's job leaves everything as it is. -/
theorem worked_settled {s : State} (env : Env) (settings : Settings)
    (runbooks : RunbookLoader) {job : AlertJob} (hsettled : Settled s.rows job.incidentId) :
    Idle s (s.worked env settings runbooks job) := by
  have hidle : ∀ w, still w = still s.world → Idle s w := by
    intro w hw
    simp only [still, State.world, start, Prod.mk.injEq] at hw
    exact ⟨hw.2.1, hw.2.2.1, by simp [hw.2.2.2]⟩
  have hkeeps {α : Type} {x : Service α} (h : Exec.Frames still x) :
      Exec.Triple (fun w ↦ still w = still s.world) x (fun _ w ↦ still w = still s.world)
        fun _ ↦ Idle s :=
    (h.keeps (· = still s.world)).mono (fun _ h ↦ h) (fun _ _ h ↦ h) fun _ w h ↦ hidle w h
  have hspec : Exec.Triple (fun w ↦ still w = still s.world)
      (processAlertJob env settings runbooks job) (fun _ ↦ Idle s) fun _ ↦ Idle s := by
    apply Exec.Triple.bind (Q := fun row w ↦
      still w = still s.world ∧ row = s.rows.incidents[job.incidentId]?)
    · apply Exec.Triple.bind (hkeeps (frames_flush env fun _ _ ↦ rfl))
      intro _
      apply Exec.Triple.read
      rintro w hw
      exact ⟨hw, congrArg (·.1.incidents[job.incidentId]?) hw⟩
    intro row
    apply Exec.Triple.assume
    intro hrow
    cases row with
    | none => exact Exec.Triple.throw fun w h ↦ hidle w h
    | some incident =>
      apply Exec.Triple.bind
      · exact (triple_process_settled env settings runbooks _ hsettled hrow.symm).mono
          (fun _ h ↦ h) (fun _ _ h ↦ h) fun _ w h ↦ hidle w h
      intro result
      apply Exec.Triple.bind (Q := fun _ ↦ Idle s)
      · apply Exec.Triple.bind (hkeeps (frames_flush env fun _ _ ↦ rfl))
        intro _
        apply Exec.Triple.update
        intro w hw
        simp only [still, State.world, start, Prod.mk.injEq] at hw
        exact ⟨hw.1, hw.2.2.1, by simp [hw.2.2.2]⟩
      intro _
      exact Exec.Triple.pure fun _ h ↦ h
  exact hspec.state rfl

/-- A delivery for the demo service. -/
def oomKilled (status : AlertStatus) (payloadDigest : String) : NormalizedAlert where
  toNormalizedAlert := Reliability.containerOOMKilled
  status := status
  severity := "warning"
  service := "cloudward-demo"
  environment := .staging
  startsAt := 0
  annotations := ∅
  fingerprint := "fingerprint"
  payloadDigest := payloadDigest

/-- One unready demo pod, where everything is granted. -/
def oneUnready : Env := Reliability.listing Reliability.willing [makePod "demo-a" false]

/-- The alert is delivered as firing and then as resolved before a job is processed. -/
def firedAndResolved : List Operation :=
  [⟨.deliver "first" [oomKilled .firing "a"] 1, .standard, oneUnready⟩,
    ⟨.deliver "second" [oomKilled .resolved "b"] 1, .standard, oneUnready⟩]

/-- The job of the second delivery. -/
def resolvedJob : AlertJob := ⟨0, oomKilled .resolved "b", "second"⟩

end CloudWard.Alerts
