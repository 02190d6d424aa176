import CloudWard.Reliability.Granted

/-!
# The preconditions of a runbook

`runbooks/schema.py:52`. The pipeline checks a runbook's preconditions before it proposes
(`remediation/pipeline.py:569`); the processor proposes, evaluates and performs the same
actions for the same documents and never reads them. What decides whether they hold anyway
is the listing.
-/

namespace CloudWard.Reliability

open CloudWard.Db CloudWard.Incidents CloudWard.Kubernetes CloudWard.Logic CloudWard.Policies
  CloudWard.Remediation CloudWard.Risk CloudWard.Runbooks Service

/-- The listed pod that a deletion is about: the first one that is not ready. -/
def deleted (pods : List PodState) : Option PodState := pods.find? fun p ↦ ! p.ready

/-- What a document declares of its target, on the listing a decision was made on. -/
structure Satisfied (pre : PreconditionsSchema) (pods : List PodState)
    (target : Option PodState) : Prop where
  count : pods.length ≤ pre.maxTargetPods
  managed : pre.controllerManaged → ∃ pod, target = some pod ∧ pod.controllerManaged

/-- Every mutation of a trace satisfies the preconditions: of a deletion the pod it deletes,
of a scale the pod that was evaluated for it. -/
structure Respects (pre : PreconditionsSchema) (pods : List PodState) (trace : List Event) :
    Prop where
  deletion : ∀ ns name, .mutated (.deletePod ns name) ∈ trace →
    Satisfied pre pods ((deleted pods).filter (·.name = name))
  scale : ∀ ns name replicas, .mutated (.patchScale ns name replicas) ∈ trace →
    Satisfied pre pods pods.head?

/-- A listing on which no run breaks the preconditions: nothing is listed, or more than a
policy input takes, or no more than the document allows, with the first pod and the first
unready one controller-managed where it asks for that. -/
def Harmless (pre : PreconditionsSchema) (pods : List PodState) : Prop :=
  pods = [] ∨ 1000 < pods.length ∨ (pods.length ≤ pre.maxTargetPods ∧
    (pre.controllerManaged → (∀ pod ∈ pods.head?, pod.controllerManaged) ∧
      ∀ pod ∈ deleted pods, validName pod.name → pod.controllerManaged))

/-! ### The matched runbook -/

/-- What a choice of runbook depends on. -/
def kinds (w : World) : List (String × Environment) :=
  w.db.incidents.map fun incident ↦ (incident.incidentType, incident.environment)

/-- Evidence changes no incident's kind. -/
private theorem frames_kinds_gather (env : Env) (settings : Settings) (incidentId : Nat)
    (alert : NormalizedAlert) : Exec.Frames kinds (gather env settings incidentId alert) := by
  apply frames_gather_of_update fun _ _ ↦ rfl
  intro w target now
  exact Table.map_update w.db.incidents incidentId fun incident ↦ rfl

private theorem getElem?_of_loadIncident {id : Nat} {incident : Incident} {w w' : World}
    (h : (loadIncident id).run w = (.ok incident, w')) :
    w.db.incidents[id]? = some incident := by
  unfold loadIncident at h
  rw [Exec.run_bind_of_ok (Exec.run_read _ w)] at h
  cases hrow : w.db.incidents[id]? with
  | none =>
    rw [hrow] at h
    cases h
  | some row =>
    rw [hrow] at h
    cases h
    rfl

/-- A run depends on its library only through the match for its incident. -/
theorem run_process_congr (env : Env) (settings : Settings) {runbooks runbooks' : RunbookLoader}
    {incidentId : Nat} {alert : NormalizedAlert} {w : World}
    (h : ∀ incident, w.db.incidents[incidentId]? = some incident →
      runbooks.matching incident.incidentType (alertConditions alert.alertName)
          incident.environment =
        runbooks'.matching incident.incidentType (alertConditions alert.alertName)
          incident.environment) :
    (process env settings runbooks incidentId alert).run w =
      (process env settings runbooks' incidentId alert).run w := by
  have hdb : Exec.Frames World.db (query env fun db ↦
      db.proposals.latest (·.incidentId = incidentId)) := frames_query env _ fun _ _ ↦ rfl
  unfold process
  rcases hquery : (query env fun db ↦ db.proposals.latest (·.incidentId = incidentId)).run w
    with ⟨e | existing, w₁⟩
  · rw [Exec.run_bind_of_error hquery, Exec.run_bind_of_error hquery]
  rw [Exec.run_bind_of_ok hquery, Exec.run_bind_of_ok hquery]
  have hw₁ := hdb w
  rw [hquery] at hw₁
  cases existing with
  | some entry => rfl
  | none =>
    dsimp only
    rcases hgather : (gather env settings incidentId alert).run w₁ with ⟨e | snapshot, w₂⟩
    · rw [Exec.run_bind_of_error hgather, Exec.run_bind_of_error hgather]
    rw [Exec.run_bind_of_ok hgather, Exec.run_bind_of_ok hgather]
    have hw₂ := frames_kinds_gather env settings incidentId alert w₁
    rw [hgather] at hw₂
    rcases hload : (loadIncident incidentId).run w₂ with ⟨e | incident, w₃⟩
    · rw [Exec.run_bind_of_error hload, Exec.run_bind_of_error hload]
    rw [Exec.run_bind_of_ok hload, Exec.run_bind_of_ok hload]
    have hkinds : kinds w₂ = kinds w := by
      rw [hw₂, kinds, hw₁, kinds]
    have hentry := congrArg (·[incidentId]?) hkinds
    simp only [kinds, List.getElem?_map, getElem?_of_loadIncident hload, Option.map_some]
      at hentry
    obtain ⟨row, hrow, hkind⟩ := Option.map_eq_some_iff.mp hentry.symm
    obtain ⟨htype, henvironment⟩ := Prod.mk.inj hkind
    rw [← htype, ← henvironment, h row hrow]

/-- What a run on a fixed listing performs: mutations of the matched runbook's kind, on a
target chosen from the listing. -/
private theorem performed_of_mutated {pods : List PodState} {env : Env} {settings : Settings}
    {runbooks : RunbookLoader} {incidentId : Nat} {alert : NormalizedAlert} {db : Database}
    {incident : Incident} {r : RunbookDocument} {m : Mutation}
    (hincident : db.incidents[incidentId]? = some incident)
    (hmatch : runbooks.matching incident.incidentType (alertConditions alert.alertName)
      incident.environment = .ok r)
    (hmem : .mutated m ∈
      ((process (listing env pods) settings runbooks incidentId alert).run (start db)).2.trace) :
    ∃ p : Proposal, p.runbook = r ∧ p.snapshot.pods = pods ∧ pods.length ≤ 1000 ∧
      Performed settings p (.mutated m) := by
  have hrun : (process (listing env pods) settings runbooks incidentId alert).run (start db) =
      (process (listing env pods) settings (.only r) incidentId alert).run (start db) := by
    apply run_process_congr
    intro row hrow
    have hsame : row = incident := Option.some.inj (hrow.symm.trans hincident)
    rw [hsame, hmatch, RunbookLoader.matching_only (runbooks.matching_eq_ok hmatch).2]
  rw [hrun] at hmem
  have hleft := process_left (listing env pods) settings (.only r) incidentId alert (start db)
  rcases hleft with ⟨hempty, -⟩ | ⟨p, input, policy, added, hproposed, htrace, hall, -, -⟩
  · rw [hempty] at hmem
    simp [start] at hmem
  · rw [htrace] at hmem
    have hadded : .mutated m ∈ added := by
      rcases List.mem_append.mp hmem with h | h
      · exact h
      · simp [start] at h
    obtain ⟨w, hlisted⟩ := hproposed.listed
    have hpods : p.snapshot.pods = pods := by simpa [listing] using hlisted.symm
    obtain ⟨incidentType, environment, hmatched⟩ := hproposed.matched
    obtain ⟨environment', hinput⟩ := hproposed.evaluated
    have hrunbook := (RunbookLoader.matching_eq_ok hmatched).1
    refine ⟨p, List.mem_singleton.mp hrunbook, hpods, ?_, (hall _ hadded).2⟩
    rw [← hpods]
    exact (target_policyInput hinput).1

/-- On a harmless listing every run respects the preconditions of its runbook. -/
theorem respects_of_harmless {pre : PreconditionsSchema} {pods : List PodState}
    (hharmless : Harmless pre pods) (env : Env) (settings : Settings) {runbooks : RunbookLoader}
    {incidentId : Nat} {alert : NormalizedAlert} {db : Database} {incident : Incident}
    {r : RunbookDocument} (hincident : db.incidents[incidentId]? = some incident)
    (hmatch : runbooks.matching incident.incidentType (alertConditions alert.alertName)
      incident.environment = .ok r) :
    Respects pre pods ((process (listing env pods) settings runbooks incidentId alert).run
      (start db)).2.trace := by
  have hbound {m : Mutation} (hmem : .mutated m ∈ ((process (listing env pods) settings runbooks
      incidentId alert).run (start db)).2.trace) :
      pods.length ≤ pre.maxTargetPods ∧ (pre.controllerManaged →
        (∀ pod ∈ pods.head?, pod.controllerManaged) ∧
          ∀ pod ∈ deleted pods, validName pod.name → pod.controllerManaged) := by
    obtain ⟨p, -, hpods, hle, -⟩ := performed_of_mutated hincident hmatch hmem
    rcases hharmless with hempty | hlong | h
    · exact absurd (hpods.trans hempty) p.snapshot.pods_ne
    · omega
    · exact h
  constructor
  · intro ns name hmem
    obtain ⟨hcount, hmanaged⟩ := hbound hmem
    obtain ⟨p, -, rfl, -, ⟨-, -, pod, hpod, rfl⟩, hvalid⟩ :=
      performed_of_mutated hincident hmatch hmem
    refine ⟨hcount, fun hdeclared ↦ ⟨pod, ?_, (hmanaged hdeclared).2 pod hpod hvalid⟩⟩
    rw [Option.filter_eq_some_iff]
    exact ⟨hpod, by simp⟩
  · intro ns name replicas hmem
    obtain ⟨hcount, hmanaged⟩ := hbound hmem
    obtain ⟨p, -, rfl, -, -⟩ := performed_of_mutated hincident hmatch hmem
    have hhead := List.head?_eq_some_head p.snapshot.pods_ne
    exact ⟨hcount, fun hdeclared ↦ ⟨_, hhead, (hmanaged hdeclared).1 _ hhead⟩⟩

/-! ### Listings that are not harmless -/

/-- Everything is granted, the pod that is read is an unready demo pod and the deployment
that is read has demo pods. -/
def willing : Env :=
  { calm with
    readPod := fun _ _ name ↦ .ok (makePod name false)
    readDeployment := fun _ _ _ ↦ .ok ⟨some 2, some 1, (makePod "demo" true).labels, []⟩ }

private theorem grants_willing (pods : List PodState) : Grants (listing willing pods) pods where
  quiet := ⟨fun _ ↦ rfl, fun _ ↦ rfl⟩
  opa := rfl
  listPods _ _ _ := rfl
  deployment := ⟨_, fun _ _ _ ↦ rfl⟩
  events _ _ _ := rfl
  telemetry _ := rfl

/-- A document for the incident, with these preconditions and this action. -/
def declaring (pre : PreconditionsSchema) (action : ActionType)
    (h : .staging ∈ (getActionMetadata action).allowedEnvironments) : RunbookDocument :=
  { memoryPressure with
    preconditions := pre
    action := action
    supported := by
      intro e he
      rw [List.mem_singleton.mp he]
      exact h
    rollback_capable := fun h ↦ Bool.noConfusion h }

private theorem matching_declaring (pre : PreconditionsSchema) (action : ActionType)
    (h : .staging ∈ (getActionMetadata action).allowedEnvironments) :
    (RunbookLoader.only (declaring pre action h)).matching memoryIncident.incidentType
      (alertConditions containerOOMKilled.alertName) memoryIncident.environment =
      .ok (declaring pre action h) :=
  RunbookLoader.matching_only rfl

private theorem performs_scale (pods : List PodState) {r : RunbookDocument}
    (haction : r.action = .scaleStagingDeployment) (hne : pods ≠ []) :
    Performs (listing willing pods) {} (proposalOf r (snapshotOf pods hne))
      [.mutated (.patchScale "cloudward-staging" "cloudward-demo" 3)]
      (DeploymentScaleResult.toDict ⟨"cloudward-staging", "cloudward-demo", 2, 3, true⟩) := by
  intro w hcluster
  have hnone : w.cluster.apply (.patchScale "cloudward-staging" "cloudward-demo" 3) =
      w.cluster := by
    rw [hcluster]
    rfl
  unfold perform
  have hdesired : min (2 + 1) ({} : Settings).maxTemporaryReplicas = 3 := by decide
  rw [if_pos (show (proposalOf r (snapshotOf pods hne)).runbook.action =
    .scaleStagingDeployment from haction)]
  simp only [proposalOf, snapshotOf, hdesired]
  apply reaches_bind
  · exact reaches_scaleStagingDeployment (by decide) (by decide) (by decide) (fun _ _ ↦ rfl) rfl rfl
      fun _ ↦ rfl
  intro _
  rw [hnone]
  exact reaches_finishActionExecution (grants_willing pods).quiet 0 true none _

/-- A granted run of a document that scales. -/
private theorem scales (pre : PreconditionsSchema) {pods : List PodState} (hne : pods ≠ [])
    (hle : pods.length ≤ 1000) :
    .mutated (.patchScale "cloudward-staging" "cloudward-demo" 3) ∈
      ((process (listing willing pods) {} (.only (declaring pre .scaleStagingDeployment
        (by decide))) 0 containerOOMKilled).run (start memoryRows)).2.trace := by
  obtain ⟨input, policy, htrace, -⟩ := ((grants_willing pods).returns_process hne hle
    (matching_declaring pre .scaleStagingDeployment (by decide))
    (show ActionType.scaleStagingDeployment ∉ [.noAction, .revertImage] by decide)
    (performs_scale pods rfl hne)).state
  rw [htrace]
  exact List.mem_cons_self

/-- A granted run of a document that deletes. -/
private theorem deletes (pre : PreconditionsSchema) {pods : List PodState} (hne : pods ≠ [])
    (hle : pods.length ≤ 1000) {pod : PodState} (hpod : deleted pods = some pod)
    (hvalid : validName pod.name) :
    .mutated (.deletePod "cloudward-staging" pod.name) ∈
      ((process (listing willing pods) {} (.only (declaring pre .deleteUnhealthyPod
        (by decide))) 0 containerOOMKilled).run (start memoryRows)).2.trace := by
  have hunhealthy : (snapshotOf pods hne).unhealthy = some pod := hpod
  obtain ⟨input, policy, htrace, -⟩ := ((grants_willing pods).returns_process hne hle
    (matching_declaring pre .deleteUnhealthyPod (by decide))
    (show ActionType.deleteUnhealthyPod ∉ [.noAction, .revertImage] by decide)
    (performs_deletion (grants_willing _).quiet (fun _ _ ↦ rfl) (fun _ _ ↦ rfl) rfl rfl hunhealthy hvalid)).state
  rw [htrace]
  exact List.mem_cons_self

/-- **When the processor respects preconditions**: whatever its environment, its documents and
the alert, exactly on the listings that are harmless. -/
theorem process_respects_preconditions_iff (pods : List PodState) (pre : PreconditionsSchema) :
    (∀ (env : Env) (settings : Settings) (runbooks : RunbookLoader) (incidentId : Nat)
      (alert : NormalizedAlert) (db : Database) (incident : Incident) (r : RunbookDocument),
      db.incidents[incidentId]? = some incident →
      runbooks.matching incident.incidentType (alertConditions alert.alertName)
        incident.environment = .ok r →
      r.preconditions = pre →
      Respects pre pods
        ((process (listing env pods) settings runbooks incidentId alert).run
          (start db)).2.trace) ↔ Harmless pre pods := by
  constructor
  · intro h
    by_cases hne : pods = []
    · exact .inl hne
    by_cases hle : pods.length ≤ 1000
    · right; right
      have hscale := (h willing {} _ 0 containerOOMKilled memoryRows memoryIncident _ rfl
        (matching_declaring pre .scaleStagingDeployment (by decide)) rfl).scale _ _ _
        (scales pre hne hle)
      refine ⟨hscale.count, fun hdeclared ↦ ⟨?_, ?_⟩⟩
      · intro pod hpod
        obtain ⟨pod', hhead, hmanaged⟩ := hscale.managed hdeclared
        rw [Option.mem_def, hhead, Option.some.injEq] at hpod
        rw [← hpod]
        exact hmanaged
      · intro pod hpod hvalid
        have hdeletion := (h willing {} _ 0 containerOOMKilled memoryRows memoryIncident _ rfl
          (matching_declaring pre .deleteUnhealthyPod (by decide)) rfl).deletion _ _
          (deletes pre hne hle hpod hvalid)
        obtain ⟨pod', hfound, hmanaged⟩ := hdeletion.managed hdeclared
        rw [Option.filter_eq_some_iff, hpod, Option.some.injEq] at hfound
        rw [hfound.1]
        exact hmanaged
    · exact .inr (.inl (by omega))
  · intro hharmless env settings runbooks incidentId alert db incident r hincident hmatch _
    exact respects_of_harmless hharmless env settings hincident hmatch

/-- Four unready demo pods, one more than `reliability.memory-pressure` allows. -/
def fourUnready : List PodState :=
  ["demo-a", "demo-b", "demo-c", "demo-d"].map fun name ↦ makePod name false

/-- The repository's own runbook deletes a pod of four. -/
theorem process_exceeds_max_target_pods :
    ¬ ∀ (pods : List PodState) (env : Env) (settings : Settings) (runbooks : RunbookLoader)
      (incidentId : Nat) (alert : NormalizedAlert) (db : Database) (incident : Incident)
      (r : RunbookDocument),
      db.incidents[incidentId]? = some incident →
      runbooks.matching incident.incidentType (alertConditions alert.alertName)
        incident.environment = .ok r →
      Respects r.preconditions pods
        ((process (listing env pods) settings runbooks incidentId alert).run
          (start db)).2.trace := by
  intro h
  have hmatch : memoryPressureLibrary.matching memoryIncident.incidentType
      (alertConditions containerOOMKilled.alertName) memoryIncident.environment =
      .ok memoryPressure := rfl
  have hne : fourUnready ≠ [] := List.cons_ne_nil _ _
  have hpod : (snapshotOf fourUnready hne).unhealthy = some (makePod "demo-a" false) := rfl
  obtain ⟨input, policy, htrace, -⟩ := ((grants_willing fourUnready).returns_process hne
    (by decide) hmatch (by decide)
    (performs_deletion (grants_willing _).quiet (fun _ _ ↦ rfl) (fun _ _ ↦ rfl) rfl rfl hpod (by decide))).state
  have hrespects := h fourUnready willing {} memoryPressureLibrary 0 containerOOMKilled memoryRows
    memoryIncident memoryPressure rfl hmatch
  have hcount := (hrespects.deletion "cloudward-staging" "demo-a" (by
    rw [htrace]
    exact List.mem_cons_self)).count
  exact absurd hcount (by decide)

end CloudWard.Reliability
