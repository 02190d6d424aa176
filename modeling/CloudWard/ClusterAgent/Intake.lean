import CloudWard.ClusterAgent.Service
import CloudWard.Logic.Runs
import Mathlib.Data.List.Pairwise

/-!
# Reports in flight

Agents publish reports, the network delivers a body any number of times, late or never, and the
intake answers. Requests run side by side: each reads its clock when it arrives, waits for the row
of the cluster, and holds it until its transaction ends. Other parts of the control plane change
their tables between any two steps.
-/

namespace CloudWard.ClusterAgent

open CloudWard.Logic CloudWard.Security Python

/-- How a request is answered; a failure is any other exception. -/
inductive Response
  | receipt (receipt : AgentReceipt)
  | rejected (error : CloudWardError)
  | failed

/-- A request and its answer. -/
structure Answer where
  report : AgentReport
  response : Response

/-- The network, the requests and the rows. -/
structure Intake where
  rows : Rows
  /-- The bodies on the network. -/
  sent : List AgentReport := []
  /-- The requests that wait for the cluster's row, with the times they arrived at. -/
  waiting : List (AgentReport × Nat) := []
  /-- The transaction that holds the cluster's row. -/
  holder : Option Running := none
  answers : List Answer := []

/-- What happens next. -/
inductive Event
  | publish (report : AgentReport) (deliveries : Nat → Delivery)
  | arrive (n now : Nat)
  | acquire (n : Nat)
  | attach
  | commit
  | abort
  | others (inventory : Inventory) (collected : List EvidenceSnapshot)

/-- The event is not of another part of the control plane. -/
def Event.ofIntake : Event → Bool
  | .others _ _ => false
  | _ => true

/-- An answer is given. -/
def Intake.answer (s : Intake) (report : AgentReport) (response : Response) : Intake :=
  { s with answers := s.answers ++ [⟨report, response⟩] }

section Steps

variable (u : Unicode) (wire : Wire) (settings : AgentSettings)

/-- A body arrives; it stays on the network, since it may arrive again. -/
def arrive (s : Intake) (report : AgentReport) (now : Nat) : Intake :=
  match checkArrival settings report now with
  | .error e => s.answer report (.rejected e)
  | .ok () => { s with waiting := s.waiting ++ [(report, now)] }

/-- A request gets the row of the cluster. -/
def acquire (s : Intake) (n : Nat) (report : AgentReport) (current : Nat) : Intake :=
  let s := { s with waiting := s.waiting.eraseIdx n }
  match openReport u wire settings s.rows report current with
  | .error e => s.answer report (.rejected e)
  | .ok (.inl receipt) => s.answer report (.receipt receipt)
  | .ok (.inr running) => { s with holder := some running }

/-- The transaction commits once no workload is left. -/
def commit (s : Intake) (running : Running) : Intake :=
  match running.remaining with
  | [] =>
    { s with rows := s.rows.commit u wire running, holder := none }.answer running.report
      (.receipt running.receipt)
  | _ :: _ => s

/-- One step. -/
def step (s : Intake) : Event → Intake
  | .publish report deliveries =>
    { s with sent := s.sent ++ List.replicate (publish wire report deliveries).1 report }
  | .arrive n now =>
    match s.sent[n]? with
    | none => s
    | some report => arrive settings s report now
  | .acquire n =>
    match s.holder, s.waiting[n]? with
    | none, some (report, current) => acquire u wire settings s n report current
    | _, _ => s
  | .attach => { s with holder := s.holder.map (attach u wire s.rows) }
  | .commit =>
    match s.holder with
    | none => s
    | some running => commit u wire s running
  | .abort =>
    match s.holder with
    | none => s
    | some running => { s with holder := none }.answer running.report .failed
  | .others inventory collected =>
    { s with rows := { s.rows with inventory, collected := s.rows.collected ++ collected } }

end Steps

/-- Before the first report. -/
def Intake.initial (inventory : Inventory) (collected : List EvidenceSnapshot) : Intake where
  rows := { inventory, collected }

/-- The report of an answer, if the answer accepts it for the cluster. -/
def Answer.accepted (cluster : Uuid) (answer : Answer) : Option AgentReport :=
  match answer.response with
  | .receipt receipt =>
    if receipt.duplicate = false ∧ answer.report.clusterId = cluster then some answer.report
    else none
  | _ => none

/-- The reports of a cluster that were accepted, in their order. -/
def Intake.accepted (s : Intake) (cluster : Uuid) : List AgentReport :=
  s.answers.filterMap (Answer.accepted cluster)

variable {u : Unicode} {wire : Wire} {settings : AgentSettings} {s : Intake}

/-! ### Evidence that was added is seen -/

theorem stateEvidence_mem_incidentEvidence (batch : Batch) :
    stateEvidence u wire batch ∈ incidentEvidence u wire batch := List.mem_cons_self

/-- An incident is due a minute after each of its batches. -/
theorem createdAt_le_of_due {rows : Rows} {added : List Batch} {batch : Batch} {current : Nat}
    {row : PlacedIncident × Nat} (hdue : due (evidenceSeen u wire rows added) current row)
    (hbatch : batch ∈ rows.batches ++ added) (hincident : batch.incidentId = row.2) :
    batch.createdAt + 60 * second ≤ current := by
  have hseen : batch.createdAt ∈ ((evidenceSeen u wire rows added).filter fun e ↦
      e.incidentId = row.2 ∧ e.collectedBy = collector).map (·.createdAt) := by
    refine List.mem_map.mpr ⟨stateEvidence u wire batch, List.mem_filter.mpr ⟨?_, ?_⟩, rfl⟩
    · exact List.mem_append_right _ (List.mem_flatMap.mpr
        ⟨batch, hbatch, stateEvidence_mem_incidentEvidence batch⟩)
    · exact decide_eq_true ⟨hincident, rfl⟩
  unfold due latest at hdue
  split at hdue
  · next hnone =>
    rw [List.max?_eq_none_iff] at hnone
    rw [hnone] at hseen
    exact absurd hseen List.not_mem_nil
  · next previous hprevious =>
    have hle := (List.max?_eq_some_iff.mp hprevious).2 _ hseen
    have := of_decide_eq_true hdue
    omega

/-- The incidents of a service are different rows. -/
theorem nodup_activeIncidents (incidents : Table PlacedIncident) (cluster service : Uuid) :
    ((activeIncidents incidents cluster service).map (·.2)).Nodup := by
  have hrows : (incidents.zipIdx.map (·.2)).Nodup := by
    rw [List.zipIdx_map_snd]
    exact List.nodup_range'
  have hfiltered := hrows.sublist (List.filter_sublist (p := fun row ↦
    row.1.clusterId = some cluster ∧ row.1.serviceId = some service ∧
      row.1.state ≠ .resolved) |>.map _)
  have hsorted := (((List.mergeSort_perm (incidents.zipIdx.filter fun row ↦
    row.1.clusterId = some cluster ∧ row.1.serviceId = some service ∧ row.1.state ≠ .resolved)
      fun row row' ↦ row'.1.createdAt ≤ row.1.createdAt).map (·.2)).nodup_iff).mpr hfiltered
  exact hsorted.sublist ((List.take_sublist 20 _).map _)

/-! ### What the checks say -/

/-- A report that passes is newer than the last one, and arrived later. -/
theorem newer_of_checkState {report : AgentReport} {current : Nat}
    {state : ClusterAgentState} (h : checkState wire report current (some state) = .ok none) :
    state.observedAt < report.observedAt.instant ∧ state.receivedAt < current := by
  unfold checkState at h
  dsimp only at h
  split at h
  · split at h
    · cases h
    · cases h
  split at h
  · cases h
  · next horder =>
    split at h
    · cases h
    · next hrate =>
      have : 0 < 10 * second := by decide
      omega

theorem duplicate_of_checkState {report : AgentReport} {current : Nat}
    {state : Option ClusterAgentState} {receipt : AgentReceipt}
    (h : checkState wire report current state = .ok (some receipt)) : receipt.duplicate = true := by
  unfold checkState at h
  split at h
  · cases h
  · split at h
    · split at h
      · cases h
      · cases h
        rfl
    · split at h
      · cases h
      · split at h
        · cases h
        · cases h

theorem duplicate_of_openReport {rows : Rows} {report : AgentReport} {current : Nat}
    {receipt : AgentReceipt}
    (h : openReport u wire settings rows report current = .ok (.inl receipt)) :
    receipt.duplicate = true := by
  unfold openReport at h
  split at h
  · cases h
  split at h
  · cases h
  · next hstate =>
    cases h
    exact duplicate_of_checkState hstate
  · dsimp only at h
    split at h
    · cases h
    split at h
    · cases h
    · cases h

/-- The transaction of a report that passed. -/
structure Running.Opened (u : Unicode) (wire : Wire) (rows : Rows) (report : AgentReport)
    (current : Nat) (running : Running) : Prop where
  sameReport : running.report = report
  sameTime : running.current = current
  state : running.state = newState u wire report current
  batches : running.batches = []
  newer : ∀ state, rows.stateOf report.clusterId = some state →
    state.observedAt < report.observedAt.instant ∧ state.receivedAt < current

theorem opened_of_openReport {rows : Rows} {report : AgentReport} {current : Nat}
    {running : Running}
    (h : openReport u wire settings rows report current = .ok (.inr running)) :
    running.Opened u wire rows report current := by
  unfold openReport at h
  split at h
  · cases h
  split at h
  · cases h
  · cases h
  · next hstate =>
    dsimp only at h
    split at h
    · cases h
    split at h
    · cases h
    · cases h
      refine ⟨rfl, rfl, rfl, rfl, fun state hsome ↦ ?_⟩
      rw [hsome] at hstate
      exact newer_of_checkState hstate

/-! ### What holds of the intake -/

/-- The second batch for an incident is a minute later, and of a later report. -/
def Batch.Before (batch batch' : Batch) : Prop :=
  batch.incidentId = batch'.incidentId → batch.createdAt + 60 * second ≤ batch'.createdAt ∧
    batch.report.observedAt.instant < batch'.report.observedAt.instant

/-- The last report of the cluster is not older, and did not arrive earlier. -/
def Rows.Behind (settings : AgentSettings) (rows : Rows) (report : AgentReport) (time : Nat) :
    Prop :=
  some report.clusterId = settings.clusterAgentClusterId ∧ ∃ state,
    rows.stateOf report.clusterId = some state ∧ report.observedAt.instant ≤ state.observedAt ∧
      time ≤ state.receivedAt

/-- What holds of the transaction that has the cluster's row. -/
structure Running.Sound (settings : AgentSettings) (rows : Rows) (running : Running) : Prop where
  cluster : some running.report.clusterId = settings.clusterAgentClusterId
  clusterId : running.state.clusterId = running.report.clusterId
  observedAt : running.state.observedAt = running.report.observedAt.instant
  receivedAt : running.state.receivedAt = running.current
  newer : ∀ state, rows.stateOf running.report.clusterId = some state →
    state.observedAt < running.report.observedAt.instant ∧ state.receivedAt < running.current
  own : ∀ batch ∈ running.batches,
    batch.report = running.report ∧ batch.createdAt = running.current
  apart : (rows.batches ++ running.batches).Pairwise Batch.Before

/-- What holds of the intake. -/
structure Intake.Sound (settings : AgentSettings) (s : Intake) : Prop where
  increasing : ∀ cluster, (s.accepted cluster).Pairwise fun report report' ↦
    report.observedAt.instant < report'.observedAt.instant
  accepted : ∀ cluster, ∀ report ∈ s.accepted cluster, s.rows.Behind settings report 0
  apart : s.rows.batches.Pairwise Batch.Before
  batches : ∀ batch ∈ s.rows.batches, s.rows.Behind settings batch.report batch.createdAt
  waiting : ∀ request ∈ s.waiting, some request.1.clusterId = settings.clusterAgentClusterId
  holder : ∀ running, s.holder = some running → running.Sound settings s.rows

theorem accepted_answer (report : AgentReport) (response : Response) (cluster : Uuid) :
    (s.answer report response).accepted cluster =
      s.accepted cluster ++ (Answer.accepted cluster ⟨report, response⟩).toList := by
  show List.filterMap _ (s.answers ++ [_]) = _
  rw [List.filterMap_append, List.filterMap_cons, List.filterMap_nil]
  cases Answer.accepted cluster ⟨report, response⟩ with
  | none => rfl
  | some report' => rfl

/-- An answer that accepts nothing. -/
theorem Intake.Sound.answer (h : s.Sound settings) {report : AgentReport} {response : Response}
    (hnone : ∀ cluster, Answer.accepted cluster ⟨report, response⟩ = none) :
    (s.answer report response).Sound settings := by
  have haccepted (cluster : Uuid) :
      (s.answer report response).accepted cluster = s.accepted cluster := by
    rw [accepted_answer, hnone, Option.toList_none, List.append_nil]
  constructor
  · intro cluster
    rw [haccepted]
    exact h.increasing cluster
  · intro cluster
    rw [haccepted]
    exact h.accepted cluster
  · exact h.apart
  · exact h.batches
  · exact h.waiting
  · exact h.holder

private theorem sound_arrive (h : s.Sound settings) (report : AgentReport) (now : Nat) :
    (arrive settings s report now).Sound settings := by
  unfold arrive
  split
  · exact h.answer fun _ ↦ rfl
  · next hcheck =>
    have hcluster : some report.clusterId = settings.clusterAgentClusterId := by
      unfold checkArrival at hcheck
      split at hcheck
      · cases hcheck
      · next hequal => exact not_not.mp hequal
    refine ⟨h.increasing, h.accepted, h.apart, h.batches, ?_, h.holder⟩
    intro request hrequest
    rcases List.mem_append.mp hrequest with hold | hnew
    · exact h.waiting request hold
    · rw [List.mem_singleton.mp hnew]
      exact hcluster

private theorem sound_acquire (h : s.Sound settings) {n : Nat} {report : AgentReport}
    {current : Nat} (hn : s.waiting[n]? = some (report, current)) :
    (acquire u wire settings s n report current).Sound settings := by
  have hfewer : Intake.Sound settings { s with waiting := s.waiting.eraseIdx n } :=
    ⟨h.increasing, h.accepted, h.apart, h.batches,
      fun request hrequest ↦ h.waiting request (List.mem_of_mem_eraseIdx hrequest), h.holder⟩
  unfold acquire
  dsimp only
  split
  · exact hfewer.answer fun _ ↦ rfl
  · next receipt hreceipt =>
    apply hfewer.answer
    intro cluster
    have hduplicate := duplicate_of_openReport hreceipt
    exact if_neg fun hboth ↦ Bool.false_ne_true (hboth.1.symm.trans hduplicate)
  · next running hrunning =>
    have hopened := opened_of_openReport hrunning
    refine ⟨hfewer.increasing, hfewer.accepted, hfewer.apart, hfewer.batches, hfewer.waiting, ?_⟩
    rintro running' hholder
    obtain rfl := Option.some.inj hholder
    constructor
    · rw [hopened.sameReport]
      exact h.waiting _ (List.mem_of_getElem? hn)
    · rw [hopened.sameReport, hopened.state]
      rfl
    · rw [hopened.sameReport, hopened.state]
      rfl
    · rw [hopened.sameTime, hopened.state]
      rfl
    · rw [hopened.sameReport, hopened.sameTime]
      exact hopened.newer
    · rw [hopened.batches]
      exact fun _ hbatch ↦ absurd hbatch List.not_mem_nil
    · rw [hopened.batches, List.append_nil]
      exact h.apart

/-- A workload's evidence is a minute after what is there. -/
private theorem apart_workloadBatches {rows : Rows} {running : Running}
    (h : running.Sound settings rows)
    (hbatches : ∀ batch ∈ rows.batches, rows.Behind settings batch.report batch.createdAt)
    (workload : WorkloadReport) :
    (rows.batches ++ (running.batches ++ workloadBatches u wire rows running workload)).Pairwise
      Batch.Before := by
  rw [← List.append_assoc, List.pairwise_append]
  unfold workloadBatches
  split
  · exact ⟨h.apart, List.Pairwise.nil, fun _ _ _ hnew ↦ absurd hnew List.not_mem_nil⟩
  · next service hservice =>
    dsimp only
    refine ⟨h.apart, ?_, ?_⟩
    · have hnodup := ((nodup_activeIncidents rows.inventory.incidents running.report.clusterId
        service.id).sublist ((List.filter_sublist (p := due (evidenceSeen u wire rows
          running.batches) running.current)).map _))
      rw [List.pairwise_map]
      exact (List.pairwise_map.mp hnodup).imp fun hne hsame ↦ absurd hsame hne
    · intro batch hbatch new hnew hincident
      obtain ⟨row, hrow, rfl⟩ := List.mem_map.mp hnew
      have hdue := createdAt_le_of_due (List.mem_filter.mp hrow).2 hbatch hincident
      refine ⟨hdue, ?_⟩
      rcases List.mem_append.mp hbatch with hold | hown
      · obtain ⟨hcluster, state, hstate, hobserved, -⟩ := hbatches batch hold
        have hsame : batch.report.clusterId = running.report.clusterId :=
          Option.some.inj (hcluster.trans h.cluster.symm)
        rw [hsame] at hstate
        exact Nat.lt_of_le_of_lt hobserved (h.newer state hstate).1
      · -- the transaction's own evidence is not a minute old
        rw [(h.own batch hown).2] at hdue
        have : 0 < 60 * second := by decide
        omega

private theorem sound_attach (h : s.Sound settings) {running : Running}
    (hholder : s.holder = some running) : (attach u wire s.rows running).Sound settings s.rows := by
  have hrunning := h.holder running hholder
  unfold attach
  split
  · exact hrunning
  · next workload rest _ =>
    refine ⟨hrunning.cluster, hrunning.clusterId, hrunning.observedAt, hrunning.receivedAt,
      hrunning.newer, ?_, apart_workloadBatches hrunning h.batches workload⟩
    intro batch hbatch
    rcases List.mem_append.mp hbatch with hold | hnew
    · exact hrunning.own batch hold
    · unfold workloadBatches at hnew
      split at hnew
      · exact absurd hnew List.not_mem_nil
      · obtain ⟨row, -, rfl⟩ := List.mem_map.mp hnew
        exact ⟨rfl, rfl⟩

/-! ### The commit -/

/-- The row that is put is found. -/
theorem find?_putState (states : List ClusterAgentState) (state : ClusterAgentState) :
    (putState states state).find? (·.clusterId = state.clusterId) = some state := by
  unfold putState
  split
  · next hany =>
    induction states with
    | nil => cases hany
    | cons old rest ih =>
      rw [List.map_cons, List.find?_cons]
      by_cases hsame : old.clusterId = state.clusterId
      · rw [if_pos hsame, decide_eq_true rfl]
      · rw [if_neg hsame, decide_eq_false hsame]
        apply ih
        rw [List.any_cons, decide_eq_false hsame] at hany
        exact hany
  · next hnone =>
    rw [List.find?_append, List.find?_eq_none.mpr, Option.none_or, List.find?_cons,
      decide_eq_true rfl]
    intro old hold hsame
    exact hnone (List.any_eq_true.mpr ⟨old, hold, hsame⟩)

private theorem sound_commit (h : s.Sound settings) {running : Running}
    (hholder : s.holder = some running) : (commit u wire s running).Sound settings := by
  have hrunning := h.holder running hholder
  unfold commit
  split
  · have hstate : (s.rows.commit u wire running).stateOf running.report.clusterId =
        some running.state := by
      rw [← hrunning.clusterId]
      exact find?_putState s.rows.agentStates running.state
    -- what was behind the old row is behind the new one
    have hbehind {report : AgentReport} {time : Nat} (hold : s.rows.Behind settings report time) :
        (s.rows.commit u wire running).Behind settings report time ∧
          report.observedAt.instant < running.report.observedAt.instant := by
      obtain ⟨hcluster, state, hfound, hobserved, htime⟩ := hold
      have hsame : report.clusterId = running.report.clusterId :=
        Option.some.inj (hcluster.trans hrunning.cluster.symm)
      rw [hsame] at hfound
      obtain ⟨hnewer, hlater⟩ := hrunning.newer state hfound
      refine ⟨⟨hcluster, running.state, hsame ▸ hstate, ?_, ?_⟩, by omega⟩
      · rw [hrunning.observedAt]
        omega
      · rw [hrunning.receivedAt]
        omega
    have hown {time : Nat} (htime : time ≤ running.current) :
        (s.rows.commit u wire running).Behind settings running.report time :=
      ⟨hrunning.cluster, running.state, hstate, hrunning.observedAt.ge,
        hrunning.receivedAt ▸ htime⟩
    have haccepted (cluster : Uuid) : ({ s with
        rows := s.rows.commit u wire running, holder := none }.answer running.report
          (.receipt running.receipt)).accepted cluster = s.accepted cluster ++
            if running.report.clusterId = cluster then [running.report] else [] := by
      rw [accepted_answer]
      congr 1
      unfold Answer.accepted
      by_cases hsame : running.report.clusterId = cluster
      · rw [if_pos hsame]
        exact congrArg Option.toList (if_pos ⟨rfl, hsame⟩)
      · rw [if_neg hsame]
        exact congrArg Option.toList (if_neg fun hboth ↦ hsame hboth.2)
    constructor
    · intro cluster
      rw [haccepted, List.pairwise_append]
      refine ⟨h.increasing cluster, ?_, ?_⟩
      · split
        · exact List.pairwise_singleton _ _
        · exact List.Pairwise.nil
      · intro report hreport new hnew
        split at hnew
        · rw [List.mem_singleton.mp hnew]
          exact (hbehind (h.accepted cluster report hreport)).2
        · exact absurd hnew List.not_mem_nil
    · intro cluster report hreport
      rw [haccepted] at hreport
      rcases List.mem_append.mp hreport with hold | hnew
      · exact (hbehind (h.accepted cluster report hold)).1
      · split at hnew
        · rw [List.mem_singleton.mp hnew]
          exact hown (Nat.zero_le _)
        · exact absurd hnew List.not_mem_nil
    · exact hrunning.apart
    · intro batch hbatch
      rcases List.mem_append.mp hbatch with hold | hnew
      · exact (hbehind (h.batches batch hold)).1
      · obtain ⟨hreport, htime⟩ := hrunning.own batch hnew
        rw [hreport]
        exact hown htime.le
    · exact h.waiting
    · rintro _ ⟨⟩
  · exact h

/-! ### Every run -/

/-- A step. -/
theorem sound_step (h : s.Sound settings) (event : Event) :
    (step u wire settings s event).Sound settings := by
  cases event with
  | publish report deliveries =>
    exact ⟨h.increasing, h.accepted, h.apart, h.batches, h.waiting, h.holder⟩
  | arrive n now =>
    unfold step
    dsimp only
    split
    · exact h
    · next report _ => exact sound_arrive h report now
  | acquire n =>
    unfold step
    dsimp only
    split
    · next hn => exact sound_acquire h hn
    · exact h
  | attach =>
    refine ⟨h.increasing, h.accepted, h.apart, h.batches, h.waiting, ?_⟩
    intro running' hholder
    obtain ⟨running, hrunning, rfl⟩ := Option.map_eq_some_iff.mp hholder
    exact sound_attach h hrunning
  | commit =>
    unfold step
    dsimp only
    split
    · exact h
    · next running hholder => exact sound_commit h hholder
  | abort =>
    unfold step
    dsimp only
    split
    · exact h
    · refine Intake.Sound.answer (s := { s with holder := none }) ?_ fun _ ↦ rfl
      exact ⟨h.increasing, h.accepted, h.apart, h.batches, h.waiting, by rintro _ ⟨⟩⟩
  | others inventory collected =>
    refine ⟨h.increasing, h.accepted, h.apart, h.batches, h.waiting, fun running hholder ↦ ?_⟩
    have hrunning := h.holder running hholder
    exact ⟨hrunning.cluster, hrunning.clusterId, hrunning.observedAt, hrunning.receivedAt,
      hrunning.newer, hrunning.own, hrunning.apart⟩

/-- The rows change where a report is accepted, and nowhere else. -/
theorem accepted_of_rows_ne {event : Event} (hintake : event.ofIntake)
    (hrows : (step u wire settings s event).rows ≠ s.rows) : ∃ running : Running,
      (step u wire settings s event).rows = s.rows.commit u wire running ∧
      (step u wire settings s event).answers =
        s.answers ++ [⟨running.report, .receipt running.receipt⟩] := by
  cases event with
  | publish report deliveries => exact absurd rfl hrows
  | arrive n now =>
    unfold step at hrows
    dsimp only at hrows
    split at hrows
    · exact absurd rfl hrows
    · unfold arrive at hrows
      split at hrows <;> exact absurd rfl hrows
  | acquire n =>
    unfold step at hrows
    dsimp only at hrows
    split at hrows
    · unfold acquire at hrows
      dsimp only at hrows
      split at hrows <;> exact absurd rfl hrows
    · exact absurd rfl hrows
  | attach => exact absurd rfl hrows
  | commit =>
    unfold step at hrows ⊢
    dsimp only at hrows ⊢
    split at hrows
    · exact absurd rfl hrows
    · next running hholder =>
      unfold commit at hrows
      split at hrows
      · next hdone =>
        refine ⟨running, ?_⟩
        unfold commit
        rw [hdone]
        exact ⟨rfl, rfl⟩
      · exact absurd rfl hrows
  | abort =>
    unfold step at hrows
    dsimp only at hrows
    split at hrows <;> exact absurd rfl hrows
  | others inventory collected => cases hintake

/-- The intake after some events. -/
def Intake.after (u : Unicode) (wire : Wire) (settings : AgentSettings) (inventory : Inventory)
    (collected : List EvidenceSnapshot) (events : List Event) : Intake :=
  Runs.run (step u wire settings) (.initial inventory collected) events

/-- In every run the accepted reports of a cluster are observed later and later, no report is
attached to an incident twice, and the batches of an incident are a minute apart. A step of the
intake changes rows only where it accepts a report, and never an incident or an action. -/
theorem reports_never_repeated (u : Unicode) (wire : Wire) (settings : AgentSettings)
    (inventory : Inventory) (collected : List EvidenceSnapshot) (events : List Event) :
    (∀ cluster, ((Intake.after u wire settings inventory collected events).accepted
      cluster).Pairwise fun report report' ↦
        report.observedAt.instant < report'.observedAt.instant) ∧
    ((Intake.after u wire settings inventory collected events).rows.batches.Pairwise
      fun batch batch' ↦ batch.incidentId = batch'.incidentId → batch.report ≠ batch'.report) ∧
    ((Intake.after u wire settings inventory collected events).rows.batches.Pairwise
      fun batch batch' ↦ batch.incidentId = batch'.incidentId →
        batch.createdAt + 60 * second ≤ batch'.createdAt) ∧
    (∀ event, event.ofIntake →
      (step u wire settings (Intake.after u wire settings inventory collected events)
        event).rows ≠ (Intake.after u wire settings inventory collected events).rows →
      ∃ running : Running,
        (step u wire settings (Intake.after u wire settings inventory collected events)
          event).answers =
            (Intake.after u wire settings inventory collected events).answers ++
              [⟨running.report, .receipt running.receipt⟩]) ∧
    ∀ event, event.ofIntake →
      (step u wire settings (Intake.after u wire settings inventory collected events)
        event).rows.inventory =
          (Intake.after u wire settings inventory collected events).rows.inventory := by
  have hinitial : (Intake.initial inventory collected).Sound settings := by
    refine ⟨fun _ ↦ List.Pairwise.nil, fun _ _ hreport ↦ ?_, List.Pairwise.nil,
      fun _ hbatch ↦ ?_, fun _ hrequest ↦ ?_, by rintro _ ⟨⟩⟩
    · exact absurd hreport List.not_mem_nil
    · exact absurd hbatch List.not_mem_nil
    · exact absurd hrequest List.not_mem_nil
  have hsound : (Intake.after u wire settings inventory collected events).Sound settings :=
    Runs.invariant (I := Intake.Sound settings) (fun _ event h ↦ sound_step h event) hinitial
      events
  refine ⟨hsound.increasing, hsound.apart.imp ?_, hsound.apart.imp ?_, ?_, ?_⟩
  · intro batch batch' hbefore hincident hreport
    have := (hbefore hincident).2
    rw [hreport] at this
    exact absurd this (Nat.lt_irrefl _)
  · exact fun hbefore hincident ↦ (hbefore hincident).1
  · intro event hintake hrows
    obtain ⟨running, -, hanswers⟩ := accepted_of_rows_ne hintake hrows
    exact ⟨running, hanswers⟩
  · intro event hintake
    by_cases hrows : (step u wire settings (Intake.after u wire settings inventory collected events)
        event).rows = (Intake.after u wire settings inventory collected events).rows
    · rw [hrows]
    · obtain ⟨running, hcommit, -⟩ := accepted_of_rows_ne hintake hrows
      rw [hcommit]
      rfl

end CloudWard.ClusterAgent
