import CloudWard.Reliability.Granted

/-!
# The evaluated target and the deleted target

`reliability/workflow.py:279` evaluates the first listed pod, `reliability/workflow.py:392`
deletes the first listed pod that is not ready, and
`docs/architecture/safety-boundary.md:12` has the policy allow the exact request. What
decides whether the two are one pod is the list alone.
-/

namespace CloudWard.Reliability

open CloudWard.Db CloudWard.Incidents CloudWard.Kubernetes CloudWard.Logic CloudWard.Policies
  CloudWard.Remediation CloudWard.Risk CloudWard.Runbooks Service

/-- Every pod that a trace deletes is the target of an input that the policy allowed, with
the labels and the controller status under which `pods` lists it. -/
def EvaluatedTarget (pods : List PodState) (trace : List Event) : Prop :=
  ∀ ns name, .mutated (.deletePod ns name) ∈ trace →
    ∃ input policy, .evaluated input policy ∈ trace ∧ policy.allowed ∧
      input.target.ns = ns ∧ input.target.podName = name ∧
      ∃ pod ∈ pods, pod.name = name ∧ pod.labels = input.target.labels ∧
        pod.controllerManaged = input.target.controllerManaged

/-- The first listed pod bears the name of the first one that is not ready, where the
executor takes that name and the policy input takes that many pods. -/
def Agree (pods : List PodState) : Prop :=
  ∀ pod, pods.find? (fun p ↦ ! p.ready) = some pod → validName pod.name →
    pods.length ≤ 1000 → pods.head?.map (·.name) = some pod.name

/-! ### Lists that agree -/

/-- Where the list agrees, a run deletes only what it had evaluated. -/
theorem evaluatedTarget_of_agree {pods : List PodState} (hagree : Agree pods) (env : Env)
    (settings : Settings) (runbooks : RunbookLoader) (incidentId : Nat)
    (alert : NormalizedAlert) (db : Database) :
    EvaluatedTarget pods
      ((process (listing env pods) settings runbooks incidentId alert).run (start db)).2.trace := by
  intro ns name hmem
  have hleft := process_left (listing env pods) settings runbooks incidentId alert (start db)
  rcases hleft with ⟨hempty, -⟩ | ⟨p, input, policy, added, hproposed, htrace, hall, -, -⟩
  · rw [hempty] at hmem
    simp [start] at hmem
  rw [htrace] at hmem ⊢
  have hadded : .mutated (.deletePod ns name) ∈ added := by
    rcases List.mem_append.mp hmem with h | h
    · exact h
    · simp [start] at h
  obtain ⟨hallowed, ⟨_, rfl, pod, hpod, rfl⟩, hvalid⟩ := hall _ hadded
  obtain ⟨w, hlisted⟩ := hproposed.listed
  have hpods : p.snapshot.pods = pods := by simpa [listing] using hlisted.symm
  obtain ⟨environment, hinput⟩ := hproposed.evaluated
  obtain ⟨hle, -, hns, hname, hlabels, hmanaged⟩ := target_policyInput hinput
  have hfirst : p.snapshot.targetPod ∈ pods := by
    rw [← hpods]
    exact List.head_mem _
  have hsame : p.snapshot.targetPod.name = pod.name := by
    have h := hagree pod (by rw [← hpods]; exact hpod) hvalid (by rw [← hpods]; exact hle)
    rw [← hpods, List.head?_eq_some_head p.snapshot.pods_ne] at h
    simpa [Snapshot.targetPod] using h
  refine ⟨input, policy, ?_, hallowed, hns, hname.trans hsame, ?_⟩
  · exact List.mem_append_right _ List.mem_cons_self
  · exact ⟨_, hfirst, hsame, hlabels.symm, hmanaged.symm⟩

/-! ### Lists that do not -/

/-- Nothing fails, the policy allows, and the pod that is read is an unready demo pod. -/
def granting : Env := { calm with readPod := fun _ _ name ↦ .ok (makePod name false) }

private theorem grants_granting (pods : List PodState) : Grants (listing granting pods) pods where
  quiet := ⟨fun _ ↦ rfl, fun _ ↦ rfl⟩
  opa := rfl
  listPods _ _ _ := rfl
  deployment := ⟨∅, fun _ _ _ ↦ rfl⟩
  events _ _ _ := rfl
  telemetry _ := rfl

/-- Where everything is granted, the first pod that is not ready is deleted after the first
pod was evaluated. -/
theorem returns_deletion (pods : List PodState) (hne : pods ≠ []) {pod : PodState}
    (hpod : pods.find? (fun p ↦ ! p.ready) = some pod) (hvalid : validName pod.name)
    (hle : pods.length ≤ 1000) :
    Returns
      (process (listing granting pods) {} memoryPressureLibrary 0 containerOOMKilled)
      (start memoryRows) fun _ w ↦
        .mutated (.deletePod "cloudward-staging" pod.name) ∈ w.trace ∧
        ∀ input policy, .evaluated input policy ∈ w.trace →
          input.target.podName = (pods.head hne).name := by
  have hunhealthy : (snapshotOf pods hne).unhealthy = some pod := hpod
  have hmatch : memoryPressureLibrary.matching memoryIncident.incidentType
      (alertConditions containerOOMKilled.alertName) memoryIncident.environment =
      .ok memoryPressure := rfl
  apply ((grants_granting pods).returns_process hne hle hmatch (by decide)
    (performs_deletion (grants_granting pods).quiet (fun _ _ ↦ rfl) (fun _ _ ↦ rfl) rfl rfl
      hunhealthy hvalid)).mono
  rintro _ w ⟨input, policy, htrace, hname⟩
  rw [htrace]
  constructor
  · exact List.mem_cons_self
  · intro input' policy' hmem
    simp only [List.cons_append, List.nil_append, List.mem_cons, reduceCtorEq,
      Event.evaluated.injEq, List.not_mem_nil, or_false, false_or] at hmem
    rw [hmem.1, hname]

/-- The processor deletes only what it had evaluated, whatever its environment does, exactly
on the listings that agree. -/
theorem process_deletes_evaluated_iff (pods : List PodState) :
    (∀ (env : Env) (settings : Settings) (runbooks : RunbookLoader) (incidentId : Nat)
      (alert : NormalizedAlert) (db : Database),
      EvaluatedTarget pods
        ((process (listing env pods) settings runbooks incidentId alert).run
          (start db)).2.trace) ↔ Agree pods := by
  constructor
  · intro h pod hpod hvalid hle
    have hne : pods ≠ [] := by
      rintro rfl
      simp at hpod
    obtain ⟨hdeleted, honly⟩ := (returns_deletion pods hne hpod hvalid hle).state
    obtain ⟨input, policy, hmem, -, -, hname, -⟩ :=
      h granting {} memoryPressureLibrary 0 containerOOMKilled memoryRows _ _ hdeleted
    rw [List.head?_eq_some_head hne, Option.map_some, ← honly input policy hmem, hname]
  · intro hagree env settings runbooks incidentId alert db
    exact evaluatedTarget_of_agree hagree env settings runbooks incidentId alert db

/-- A ready pod listed before an unready one: the first is evaluated, the second deleted. -/
theorem process_deletes_unevaluated :
    ¬ ∀ (pods : List PodState) (env : Env) (settings : Settings) (runbooks : RunbookLoader)
      (incidentId : Nat) (alert : NormalizedAlert) (db : Database),
      EvaluatedTarget pods
        ((process (listing env pods) settings runbooks incidentId alert).run
          (start db)).2.trace := by
  intro h
  have hpods : [makePod "demo-a" true, makePod "demo-b" false] ≠ [] := List.cons_ne_nil _ _
  have hpod : [makePod "demo-a" true, makePod "demo-b" false].find? (fun p ↦ ! p.ready)
      = some (makePod "demo-b" false) := rfl
  obtain ⟨hdeleted, honly⟩ := (returns_deletion _ hpods hpod (by decide) (by decide)).state
  obtain ⟨input, policy, hmem, -, -, hname, -⟩ :=
    h _ granting {} memoryPressureLibrary 0 containerOOMKilled memoryRows _ _ hdeleted
  have hfirst : input.target.podName = "demo-a" := honly input policy hmem
  rw [hname] at hfirst
  exact absurd hfirst (by decide)

end CloudWard.Reliability
