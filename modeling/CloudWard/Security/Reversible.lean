import CloudWard.Remediation.Execution
import CloudWard.Security.Reversal

/-!
# When a quarantine can be reversed

The attempts of an incident are never given back: an application, a failed application and a
failed removal each use one up, and after three of them no removal can begin. A removal that
Kubernetes and OPA would let through succeeds exactly when an attempt is left and its target
can be reached.
-/

namespace CloudWard.Security

open CloudWard.Db CloudWard.Incidents CloudWard.Kubernetes CloudWard.Logic CloudWard.Policies
  CloudWard.Remediation Service

/-! ### What a removal that succeeds has found -/

section Necessity

variable {env : Env} {settings : Settings}

/-- What a removal depends on until it begins. -/
def footing (w : World) : Table ActionExecution × Cluster := (w.db.executions, w.cluster)

private theorem frames_footing_commit (env : Env) : Exec.Frames footing (commit env) := by
  apply Exec.frames_bind (frames_flush env fun _ _ ↦ rfl)
  intro _
  exact Exec.frames_update fun _ ↦ rfl

private theorem frames_footing_persistDecision (s : Subject) (proposalId : Nat)
    (input : PolicyInput) (decision : PolicyResult) :
    Exec.Frames footing (persistDecision env s proposalId input decision) := by
  apply Exec.frames_bind
  · exact Exec.frames_update fun _ ↦ rfl
  intro _
  apply Exec.frames_bind
  · exact Exec.frames_update fun _ ↦ rfl
  intro _
  exact frames_flush env fun _ _ ↦ rfl

private theorem frames_footing_authoriseRemoval (env : Env) (s : Subject) (recordId : Nat)
    (record : QuarantineRecord) (actor : String) :
    Exec.Frames footing (authoriseRemoval env s recordId record actor) := by
  have hflush : Exec.Frames footing (flush env) := frames_flush env fun _ _ ↦ rfl
  apply Exec.frames_bind (frames_getPodHealth (fun _ _ ↦ rfl) env _ _)
  intro pod
  apply Exec.frames_bind (frames_evaluate env _ (fun _ _ ↦ rfl) fun _ _ ↦ rfl)
  intro decision
  apply Exec.frames_bind
  · apply Exec.frames_bind (Exec.frames_read _)
    intro id
    exact Exec.frames_bind (Exec.frames_update fun _ ↦ rfl) fun _ ↦ Exec.frames_pure _
  intro proposalId
  apply Exec.frames_bind hflush
  intro _
  apply Exec.frames_bind (frames_footing_persistDecision s _ _ _)
  intro _
  apply Exec.frames_ite (Exec.frames_pure _)
  apply Exec.frames_bind
  · exact Exec.frames_update fun _ ↦ rfl
  intro _
  exact Exec.frames_bind (frames_footing_commit env) fun _ ↦ Exec.frames_throw _

private theorem yields_authoriseRemoval (s : Subject) (recordId : Nat)
    (record : QuarantineRecord) (actor : String) :
    Exec.Yields (fun c ↦ c.subject = s) (authoriseRemoval env s recordId record actor) := by
  apply Exec.yields_bind
  intro pod
  apply Exec.yields_bind
  intro decision
  apply Exec.yields_bind
  intro proposalId
  apply Exec.yields_bind
  intro _
  apply Exec.yields_bind
  intro _
  apply Exec.Triple.ite
  · intro _
    exact Exec.yields_pure rfl
  · intro _
    apply Exec.yields_bind
    intro _
    apply Exec.yields_bind
    intro _
    exact Exec.yields_throw _

/-- A removal that begins had an attempt left, and has not touched the cluster. -/
private theorem triple_beginRemoval_left {c : Containment} (highest : Nat) (k : Cluster) :
    Exec.Triple
      (fun w ↦ highestAttempt w.db c.subject.incidentId = highest ∧ w.cluster = k)
      (beginRemoval env c) (fun _ w ↦ highest < 3 ∧ w.cluster = k) fun _ _ ↦ True := by
  apply Exec.Triple.bind
    (Q := fun _ w ↦ highestAttempt w.db c.subject.incidentId = highest ∧ w.cluster = k)
  · exact fun _ h ↦ h
  intro _
  apply Exec.Triple.bind (Q := fun highest' w ↦ highest' = highest ∧ w.cluster = k)
  · apply Exec.Triple.bind (Q := fun _ w ↦
      highestAttempt w.db c.subject.incidentId = highest ∧ w.cluster = k)
    · have hflush : Exec.Frames (fun w : World ↦ (w.db, w.cluster)) (flush env) :=
        frames_flush env fun _ _ ↦ rfl
      exact hflush.returns fun v ↦
        highestAttempt v.1 c.subject.incidentId = highest ∧ v.2 = k
    intro _
    exact Exec.Triple.read fun _ h ↦ h
  intro highest'
  split
  · next hle =>
    have hinsert : Exec.Frames World.cluster
        (insertExecution env (executionRow c.subject c.proposalId .removeQuarantine
          (highest' + 1) ⟨Nat.le_add_left 1 _, hle⟩)) := by
      exact frames_insertExecution (fun _ _ ↦ rfl) (fun _ _ ↦ rfl) env _
    rintro w ⟨rfl, hcluster⟩
    have hrun := (hinsert.returns (· = k)) w hcluster
    rcases hr : (insertExecution env _).run w with ⟨e | id, w'⟩
    · trivial
    · rw [hr] at hrun
      exact ⟨hle, hrun⟩
  · exact Exec.Triple.throw fun _ _ ↦ trivial

/-- Whether a pod is there, and a demo target. -/
def demoOf (ns name : String) (w : World) : Option Bool :=
  (w.cluster.pod? ns name).map fun pod ↦ isDemoTarget pod.labels

private theorem frames_demoOf_send (ns name : String) {m : Mutation}
    (hm : ∀ cluster : Cluster, ((cluster.apply m).pod? ns name).map (isDemoTarget ·.labels) =
      (cluster.pod? ns name).map (isDemoTarget ·.labels)) :
    Exec.Frames (demoOf ns name) (send env m) := by
  have heffect : Exec.Frames (demoOf ns name) (effect m) := Exec.frames_update fun w ↦ hm w.cluster
  apply Exec.frames_bind (frames_ask _ fun _ _ ↦ rfl)
  intro reply
  cases reply with
  | done => exact heffect
  | refused e => exact Exec.frames_throw e
  | lost e => exact Exec.frames_bind heffect fun _ ↦ Exec.frames_throw e

private theorem demo_patchLabels (cluster : Cluster) (ns name ns' name' : String)
    (value : Option String) :
    ((cluster.apply (.patchQuarantineLabel ns' name' value)).pod? ns name).map
        (isDemoTarget ·.labels) =
      (cluster.pod? ns name).map (isDemoTarget ·.labels) := by
  have hlabels (labels : Labels) :
      isDemoTarget (Cluster.patchLabels labels value) = isDemoTarget labels := by
    unfold isDemoTarget
    rw [Cluster.lookup_patchLabels_of_ne labels value (by decide)]
  rw [Cluster.pod?_apply_patchQuarantineLabel, Option.map_map]
  congr 1
  funext pod
  simp only [Function.comp_apply]
  split
  · exact hlabels pod.labels
  · rfl

/-- A removal request that is not refused acted in an allowed namespace. -/
private theorem triple_removeQuarantinePolicy_demo (ns name policyName quarantineId : String)
    (v : Option Bool) :
    Exec.Triple (fun w ↦ demoOf ns name w = v)
      (removeQuarantinePolicy env settings ns name policyName quarantineId)
      (fun _ w ↦ demoOf ns name w = v ∧ ns ∈ settings.allowedNamespaces) fun _ _ ↦ True := by
  have hstate : Exec.Frames (demoOf ns name)
      (getQuarantinePolicyState env settings ns name policyName quarantineId) :=
    frames_getQuarantinePolicyState (fun _ _ ↦ rfl) env settings _ _ _ _
  have hkeeps {α : Type} {x : Service α} (h : Exec.Frames (demoOf ns name) x) :=
    h.returns fun d ↦ d = v ∧ ns ∈ settings.allowedNamespaces
  apply Exec.Triple.bind
    (Q := fun _ w ↦ demoOf ns name w = v ∧ ns ∈ settings.allowedNamespaces)
  · apply Exec.Triple.bind (Exec.Triple.require (Q := fun _ w ↦ demoOf ns name w = v)
      (fun _ _ h ↦ h) fun _ _ _ ↦ trivial)
    intro _
    exact Exec.Triple.require (fun hns _ h ↦ ⟨h, hns⟩) fun _ _ _ ↦ trivial
  intro _
  apply Exec.Triple.bind (hkeeps (frames_validateName _ _))
  intro _
  apply Exec.Triple.bind (hkeeps (frames_validateName _ _))
  intro _
  apply Exec.Triple.bind (hkeeps (frames_validateName _ _))
  intro _
  apply Exec.Triple.bind (hkeeps hstate)
  intro state
  apply Exec.Triple.bind
  · apply hkeeps
    apply Exec.frames_when
    intro _
    apply Exec.frames_tryCatch
    · exact frames_demoOf_send ns name fun _ ↦ rfl
    · exact fun _ ↦ Exec.frames_ite (Exec.frames_pure _) (Exec.frames_throw _)
  intro _
  apply Exec.Triple.bind
  · exact hkeeps (frames_demoOf_send ns name fun cluster ↦
      demo_patchLabels cluster ns name ns name none)
  intro _
  exact hkeeps hstate

/-- A probe that returns found its pod, a demo target. -/
private theorem Answering.triple_probe_demo (h : Answering env) (ns name : String)
    (v : Option Bool) :
    Exec.Triple (fun w ↦ demoOf ns name w = v)
      (probeControlledSecurityEgress env settings ns name) (fun _ _ ↦ v = some true)
      fun _ _ ↦ True := by
  have hkeeps {α : Type} {x : Service α} (h : Exec.Frames (demoOf ns name) x) :=
    h.returns (· = v)
  apply Exec.Triple.bind (hkeeps (frames_requireNamespace _ _))
  intro _
  apply Exec.Triple.bind (hkeeps (frames_validateName _ _))
  intro _
  apply Exec.Triple.bind (Q := fun pod _ ↦ v = some (isDemoTarget pod.labels))
  · apply Exec.Triple.bind (hkeeps (frames_validateName _ _))
    intro _
    apply Exec.Triple.bind (hkeeps (frames_validateName _ _))
    intro _
    rintro w rfl
    simp only [wrapping, Exec.run_tryCatch, run_call, h.readPod]
    cases hpod : w.cluster.pod? ns name with
    | none => trivial
    | some pod => simp [demoOf, hpod]
  intro pod
  apply Exec.Triple.bind (Q := fun _ _ ↦ v = some true)
  · exact Exec.Triple.require (fun hdemo _ hv ↦ by rw [hv, hdemo]) fun _ _ _ ↦ trivial
  intro _ w hv
  rcases (wrapping _ (call (env.probeEgress · ns name))).run w with ⟨e | reachable, w'⟩
  · trivial
  · exact hv

/-- A verification of a release that returns found its pod, a demo target. -/
private theorem Answering.triple_waitForRelease_demo (h : Answering env) (event : SecurityEvent)
    (policyName : String) (v : Option Bool) :
    Exec.Triple (fun w ↦ demoOf event.ns event.pod w = v)
      (waitForRelease env settings event policyName) (fun _ _ ↦ v = some true)
      fun _ _ ↦ True := by
  have hcheck : Exec.Triple (fun w ↦ demoOf event.ns event.pod w = v)
      (checkRelease env settings event policyName) (fun _ _ ↦ v = some true)
      fun _ _ ↦ True := by
    apply Exec.Triple.bind
    · have hstate : Exec.Frames (demoOf event.ns event.pod)
          (getQuarantinePolicyState env settings event.ns event.pod policyName
            (quarantineIdOf event)) :=
        frames_getQuarantinePolicyState (fun _ _ ↦ rfl) env settings _ _ _ _
      exact hstate.returns (· = v)
    intro state
    apply Exec.Triple.bind (h.triple_probe_demo event.ns event.pod v)
    intro reachable
    exact Exec.Triple.pure fun _ hv ↦ hv
  apply Exec.Triple.bind (Q := fun _ w ↦ demoOf event.ns event.pod w = v)
  · exact triple_ask fun _ hv ↦ hv
  intro left
  cases left with
  | zero => exact hcheck
  | succ left =>
    apply Exec.Triple.bind hcheck
    intro latest w hv
    rcases (if latest.success = some true then pure latest
      else pollUntil (checkRelease env settings event policyName) left).run w with ⟨e | a, w'⟩
    · trivial
    · exact hv

/-- A release that returns acted in an allowed namespace on a demo target. -/
private theorem Answering.triple_release_demo (h : Answering env) (c : Containment)
    (executionId : Nat) (actor : String) (v : Option Bool) :
    Exec.Triple (fun w ↦ demoOf c.subject.event.ns c.subject.event.pod w = v)
      (release env settings c executionId actor)
      (fun _ _ ↦ v = some true ∧ c.subject.event.ns ∈ settings.allowedNamespaces)
      fun _ _ ↦ True := by
  apply Exec.Triple.bind (triple_removeQuarantinePolicy_demo _ _ _ _ v)
  intro _
  apply Exec.Triple.assume
  intro hallowed
  apply Exec.Triple.bind (h.triple_waitForRelease_demo c.subject.event c.policyName v)
  intro verification w hv
  dsimp only
  split
  · exact ⟨hv, hallowed⟩
  · trivial

/-- The handler of a removal always raises. -/
private theorem triple_onReleaseFailure_raises (c : Containment) (executionId : Nat) (e : Exc) :
    Exec.Triple (fun _ ↦ True) (onReleaseFailure env c executionId e) (fun _ _ ↦ False)
      fun _ _ ↦ True := by
  have hany {α : Type} (x : Service α) :
      Exec.Triple (fun _ ↦ True) x (fun _ _ ↦ True) fun _ _ ↦ True := by
    intro w _
    split <;> trivial
  cases e with
  | cloudWard error =>
    apply Exec.Triple.bind (hany _)
    intro _
    apply Exec.Triple.bind (hany _)
    intro _
    apply Exec.Triple.bind (hany _)
    intro _
    apply Exec.Triple.bind (hany _)
    intro _
    exact Exec.Triple.throw fun _ _ ↦ trivial
  | api status => exact Exec.Triple.throw fun _ _ ↦ trivial
  | transport => exact Exec.Triple.throw fun _ _ ↦ trivial
  | database => exact Exec.Triple.throw fun _ _ ↦ trivial
  | validation => exact Exec.Triple.throw fun _ _ ↦ trivial

/-- What a removal needs: an attempt of its incident, a namespace the executor may act in,
and the pod it quarantined. -/
structure Available (settings : Settings) (event : SecurityEvent) (w : World) : Prop where
  attempt : ∀ incidentId ∈ event.incidentId, highestAttempt w.db incidentId < 3
  allowed : event.ns ∈ settings.allowedNamespaces
  demo : demoOf event.ns event.pod w = some true

/-- A removal of a record that was not removed yet succeeds only where it is available. -/
theorem Answering.available_of_removeQuarantine (h : Answering env) {s : Subject} {w w' : World}
    {recordId a : Nat} {record : QuarantineRecord} {actor : String}
    (hread : s.ReadFrom s.eventId w.db)
    (hrecord : latestRecord w.db s.eventId = some (recordId, record))
    (hactive : record.status ≠ .removed)
    (hrun : (removeQuarantine env settings s.eventId actor).run w = (.ok a, w')) :
    Available settings s.event w := by
  obtain ⟨n, hsubject⟩ := reaches_eventAndIncident h.quiet hread
  obtain ⟨m, hlatest⟩ :=
    reaches_query h.quiet (latestRecord · s.eventId) { w with tick := n }
  obtain ⟨r, w₁, hopen, hrest⟩ := Exec.run_bind_eq_ok.mp hrun
  unfold openRemoval at hopen
  rw [Exec.run_bind_of_ok hsubject, Exec.run_bind_of_ok hlatest] at hopen
  simp only [hrecord, if_neg hactive] at hopen
  obtain ⟨c, w₂, hauthorise, hpure⟩ := Exec.run_bind_eq_ok.mp hopen
  obtain rfl := (yields_authoriseRemoval _ recordId record actor).of_ok hauthorise
  have hfooting := frames_footing_authoriseRemoval env c.subject recordId record actor
    { w with tick := m }
  rw [hauthorise] at hfooting
  simp only [footing, Prod.mk.injEq] at hfooting
  cases hpure
  obtain ⟨executionId, w₃, hbegin, hfinish⟩ := Exec.run_bind_eq_ok.mp hrest
  have hhighest : highestAttempt w₁.db c.subject.incidentId =
      highestAttempt w.db c.subject.incidentId := by
    unfold highestAttempt
    rw [hfooting.1]
  have hbegan := (triple_beginRemoval_left _ w.cluster).of_ok ⟨hhighest, hfooting.2⟩ hbegin
  have hsame : demoOf c.subject.event.ns c.subject.event.pod w₃ =
      demoOf c.subject.event.ns c.subject.event.pod w := by
    unfold demoOf
    rw [hbegan.2]
  have htry : Exec.Triple _
      (tryCatch (release env settings c executionId actor) (onReleaseFailure env c executionId))
      (fun _ _ ↦ demoOf c.subject.event.ns c.subject.event.pod w = some true ∧
        c.subject.event.ns ∈ settings.allowedNamespaces) fun _ _ ↦ True :=
    Exec.Triple.tryCatch (h.triple_release_demo c executionId actor _) fun e ↦
      (triple_onReleaseFailure_raises c executionId e).mono (fun _ hv ↦ hv)
        (fun _ _ hv ↦ hv.elim) fun _ _ hv ↦ hv
  have hreleased := htry.of_ok hsame hfinish
  refine ⟨?_, hreleased.2, hreleased.1⟩
  intro incidentId hid
  rw [Option.mem_def, hread.linked, Option.some.injEq] at hid
  rw [← hid]
  exact hbegan.1

end Necessity

/-! ### Reachable states -/

/-- A quarantine that is applied: its latest record is contained or could not be verified,
and its policy exists. -/
structure Applied (s : State) (eventId recordId : Nat) (event : SecurityEvent)
    (record : QuarantineRecord) : Prop where
  found : s.rows.securityEvents[eventId]? = some event
  latest : latestRecord s.rows eventId = some (recordId, record)
  applied : record.status ∈ [.contained, .verificationFailed]
  policy : ∃ policy, s.cluster.policy? event.ns record.policyName = some policy ∧
    policy.matchLabels = quarantineSelector (quarantineIdOf event)

/-- A removal that succeeded, and left the pod without the label and the policy deleted. -/
structure Reversed (event : SecurityEvent) (record : QuarantineRecord)
    (r : Except Exc Nat × World) : Prop where
  succeeded : ∃ recordId, r.1 = .ok recordId
  unlabelled : r.2.cluster.quarantineIdOf event.ns event.pod = none
  deleted : r.2.cluster.policy? event.ns record.policyName = none

/-- The subject of an applied quarantine, in rows that are sourced. -/
private theorem Applied.subject {s : State} {eventId recordId : Nat} {event : SecurityEvent}
    {record : QuarantineRecord} (h : Applied s eventId recordId event record)
    (hsourced : (skeleton s.rows).Sourced) :
    ∃ subject : Subject, subject.event = event ∧ subject.ReadFrom eventId s.rows ∧
      record.policyName = policyNameOf event ∧ (originOf event).Valid := by
  have horigin : (skeleton s.rows).events[eventId]? = some (originOf event) := by
    simp only [skeleton, List.getElem?_map, h.found, Option.map_some]
  have hmem := List.mem_of_getElem? horigin
  obtain ⟨incidentId, hlinked, hlt⟩ := hsourced.linked _ hmem
  obtain ⟨hrow, hof⟩ := Table.latest_eq_some h.latest
  simp only [decide_eq_true_eq] at hof
  have hrecord : (eventId, record.policyName) ∈ (skeleton s.rows).records := by
    rw [← hof]
    exact List.mem_map_of_mem (List.mem_of_getElem? hrow)
  obtain ⟨origin, ho, hname⟩ := hsourced.named _ hrecord
  rw [horigin, Option.some.injEq] at ho
  refine ⟨⟨eventId, event, incidentId, s.rows.incidents[incidentId]⟩, rfl, ?_, ?_,
    hsourced.valid _ hmem⟩
  · exact ⟨rfl, h.found, hlinked, List.getElem?_eq_getElem hlt⟩
  · rw [← ho] at hname
    exact hname

/-- **When a quarantine is reversible**: in every reachable state where it is applied, a
removal that OPA allows and Kubernetes answers reverses it exactly when it is available. -/
theorem reversed_iff_available {s₀ : State} (hsourced : (skeleton s₀.rows).Sourced)
    (ops : List Operation) {eventId recordId : Nat} {event : SecurityEvent}
    {record : QuarantineRecord}
    (happlied : Applied (Runs.run step s₀ ops) eventId recordId event record) {env : Env}
    (henv : Answering env) (settings : Settings) (actor : String) :
    Reversed event record
        ((removeQuarantine env settings eventId actor).run (Runs.run step s₀ ops).world) ↔
      Available settings event (Runs.run step s₀ ops).world := by
  have hrows := sourced_run hsourced ops
  obtain ⟨subject, rfl, hread, hname, hvalid⟩ := happlied.subject hrows
  obtain rfl := hread.eventId_eq
  have hactive : record.status ≠ .removed := by
    intro hremoved
    have hstatus := happlied.applied
    rw [hremoved] at hstatus
    exact absurd hstatus (by decide)
  constructor
  · rintro ⟨⟨a, ha⟩, -, -⟩
    obtain ⟨w', hrun⟩ : ∃ w', (removeQuarantine env settings subject.eventId actor).run
        (Runs.run step s₀ ops).world = (.ok a, w') := by
      rw [← ha]
      exact ⟨_, rfl⟩
    exact henv.available_of_removeQuarantine hread happlied.latest hactive hrun
  · intro havailable
    obtain ⟨pod, hpod, hdemo⟩ := Option.map_eq_some_iff.mp havailable.demo
    have hns : validName subject.event.ns := by
      rw [show subject.event.ns = stagingNamespace from hvalid.ns]
      decide
    have hnames : Accepted settings subject.event.ns subject.event.pod record.policyName
        (quarantineIdOf subject.event) := by
      rw [hname]
      exact ⟨hns, havailable.allowed, hvalid.pod, hvalid.names.2, hvalid.names.1⟩
    obtain ⟨a, w, hrun, hreleased⟩ := henv.returns_removeQuarantine
      (w := (Runs.run step s₀ ops).world) hread happlied.latest hactive hrows
      (havailable.attempt _ hread.linked) hnames hpod hdemo happlied.policy actor
    rw [hrun]
    refine ⟨⟨a, rfl⟩, ?_, ?_⟩
    · simp only [hreleased]
      exact quarantineIdOf_released _ _ _ _ hpod
    · simp only [hreleased]
      exact policy?_released _ _ _ _

/-! ### Examples -/

/-- A cluster that answers as its objects are. -/
def reflecting : Env :=
  { calm with
    readPod := fun w ns name ↦ (w.cluster.pod? ns name).elim (.error (.api 404)) .ok
    readPolicy := fun w ns name ↦ (w.cluster.policy? ns name).elim (.error (.api 404)) .ok
    probeEgress := fun w ns name ↦
      .ok ((w.cluster.pod? ns name).all fun pod ↦ pod.labels.lookup quarantineLabel = none) }

theorem answering_reflecting : Answering reflecting where
  quiet := ⟨fun _ ↦ rfl, fun _ ↦ rfl⟩
  allows _ _ := rfl
  readPod _ _ _ := rfl
  readPolicy _ _ _ := rfl
  deletePolicy _ _ _ _ := rfl
  patchLabel _ _ _ _ _ := rfl
  egress w ns name pod hpod hlabel := by
    simp only [reflecting, hpod, Option.all_some, hlabel, decide_true]

/-- A cluster whose API server does not answer for policies. -/
def unavailable : Env :=
  { calm with
    readPod := fun _ _ name ↦ .ok (makePod name true)
    readPolicy := fun _ _ _ ↦ .error (.api 503) }

private theorem databaseFaults_unavailable : DatabaseFaults unavailable := by
  intro w e h
  cases h

/-- An operation against that cluster. -/
def attempt (call : Call) : Operation :=
  { call := call, settings := standard, env := unavailable, faults := databaseFaults_unavailable }

/-- A cluster of one demo pod. -/
def oneDemoPod : Cluster := { pods := [makePod "demo" true] }

/-- The event is ingested, and its quarantine applied but not verified. -/
def quarantined : List Operation :=
  [attempt (.ingest delivery), attempt (.apply 0 "operator")]

/-- Then two removals fail. -/
def stuck : List Operation :=
  quarantined ++ [attempt (.remove 0 "operator"), attempt (.remove 0 "operator")]

/-- The rows and the policy of a quarantine that could not be verified. -/
private theorem exists_applied {s : State} (hsourced : (skeleton s.rows).Sourced)
    (ns uuid quarantineId : String) (hid : String.ofList (uuid.toList.take 12) = quarantineId)
    (hevents : s.rows.securityEvents.map (fun event ↦ (event.ns, event.uuid)) = [(ns, uuid)])
    (hrecords : s.rows.quarantineRecords.map (fun record ↦
      (record.securityEventId, record.status)) = [(0, .verificationFailed)])
    (hpolicies : s.cluster.policies.map (fun policy ↦ (policy.ns, policy.name)) =
      [(ns, quarantinePolicyName quarantineId)])
    (hselectors : s.cluster.policies.map (fun policy ↦
      policy.matchLabels.entries.map fun entry ↦ (entry.1, entry.2)) =
        [[(quarantineLabel, quarantineId)]]) :
    ∃ event record, Applied s 0 0 event record := by
  obtain ⟨event, hevent, hns⟩ := List.map_eq_singleton_iff.mp hevents
  obtain ⟨record, hrecord, hstatus⟩ := List.map_eq_singleton_iff.mp hrecords
  obtain ⟨policy, hpolicy, hlabels⟩ := List.map_eq_singleton_iff.mp hpolicies
  simp only [Prod.mk.injEq] at hns hstatus hlabels
  have hselector : policy.matchLabels = quarantineSelector quarantineId := by
    rw [hpolicy, List.map_singleton, List.singleton_inj] at hselectors
    obtain ⟨⟨key, value⟩, hentry, hpair⟩ := List.map_eq_singleton_iff.mp hselectors
    obtain ⟨rfl, rfl⟩ := Prod.mk.inj hpair
    exact AList.ext hentry
  have hquarantine : quarantineIdOf event = quarantineId := by
    rw [← hid, ← hns.2]
    rfl
  have hfound : s.rows.securityEvents[0]? = some event := by
    rw [hevent]
    rfl
  have hlatest : latestRecord s.rows 0 = some (0, record) := by
    simp [latestRecord, hrecord, Table.latest, hstatus.1]
  have hname : record.policyName = policyNameOf event := by
    have hmem : (0, record.policyName) ∈ (skeleton s.rows).records := by
      simp [skeleton, hrecord, hstatus.1]
    obtain ⟨origin, horigin, hname⟩ := hsourced.named _ hmem
    simp only [skeleton, List.getElem?_map, hfound, Option.map_some, Option.some.injEq]
      at horigin
    rw [← horigin] at hname
    exact hname
  refine ⟨event, record, hfound, hlatest, ?_, policy, ?_, ?_⟩
  · rw [hstatus.2]
    decide
  · rw [hname, policyNameOf, hquarantine]
    simp [Cluster.policy?, hpolicy, hns.1, hlabels.1, hlabels.2]
  · rw [hquarantine]
    exact hselector

private theorem sourced_empty : (skeleton {}).Sourced where
  linked := by simp [skeleton]
  valid := by simp [skeleton]
  named := by simp [skeleton]
  keyed := by simp [skeleton]

private theorem applied_quarantined :
    ∃ event record, Applied (Runs.run step ⟨{}, oneDemoPod⟩ quarantined) 0 0 event record :=
  exists_applied (sourced_run sourced_empty quarantined) "cloudward-staging" delivery.uuid
    "0123456789ab" (by decide +kernel) (by decide +kernel) (by decide +kernel)
    (by decide +kernel) (by decide +kernel)

private theorem applied_stuck :
    ∃ event record, Applied (Runs.run step ⟨{}, oneDemoPod⟩ stuck) 0 0 event record :=
  exists_applied (sourced_run sourced_empty stuck) "cloudward-staging" delivery.uuid
    "0123456789ab" (by decide +kernel) (by decide +kernel) (by decide +kernel)
    (by decide +kernel) (by decide +kernel)

theorem reversed_iff_available_quarantined :
    ∃ event record, Applied (Runs.run step ⟨{}, oneDemoPod⟩ quarantined) 0 0 event record ∧
      (Reversed event record
          ((removeQuarantine reflecting standard 0 "operator").run
            (Runs.run step ⟨{}, oneDemoPod⟩ quarantined).world) ↔
        Available standard event (Runs.run step ⟨{}, oneDemoPod⟩ quarantined).world) := by
  obtain ⟨event, record, h⟩ := applied_quarantined
  exact ⟨event, record, h,
    reversed_iff_available sourced_empty quarantined h answering_reflecting standard "operator"⟩

/-- Two failed removals after an application make the quarantine permanent. -/
theorem failed_removals_irreversible :
    ¬ ∀ (cluster : Cluster) (ops : List Operation) (eventId recordId : Nat)
      (event : SecurityEvent) (record : QuarantineRecord),
      Applied (Runs.run step ⟨{}, cluster⟩ ops) eventId recordId event record →
      ∀ env, Answering env → ∀ settings actor, Reversed event record
        ((removeQuarantine env settings eventId actor).run
          (Runs.run step ⟨{}, cluster⟩ ops).world) := by
  intro h
  obtain ⟨event, record, happlied⟩ := applied_stuck
  obtain ⟨a, ha⟩ := (h oneDemoPod stuck 0 0 event record happlied reflecting
    answering_reflecting standard "operator").succeeded
  have hraises : ((removeQuarantine reflecting standard 0 "operator").run
      (Runs.run step ⟨{}, oneDemoPod⟩ stuck).world).1.isOk = false := by decide +kernel
  rw [ha] at hraises
  exact Bool.noConfusion hraises

end CloudWard.Security
