import CloudWard.Policies.Opa

/-!
# Kubernetes objects and the requests that change them

What `kubernetes/executor.py` reads from the API server and what it asks of it. Pods are
given as `_pod_state` returns them; fields that only reach an evidence payload (phase,
restarts, terminations) are left out. A cluster holds the objects that the modelled requests
change: the labels of pods, Cilium policies and the replica counts of deployments.
-/

namespace CloudWard.Kubernetes

/-- `PodState`, `kubernetes/executor.py:43`. -/
structure PodState where
  ns : String
  name : String
  ready : Bool
  labels : Labels
  controllerManaged : Bool
  controllerKind : Option String
deriving DecidableEq

/-- The fields of a `V1Deployment` that the executor reads. -/
structure V1Deployment where
  replicas : Option Nat
  readyReplicas : Option Nat
  templateLabels : Labels
  images : List String
deriving DecidableEq

/-- `DeploymentState`, `kubernetes/executor.py:30`. -/
structure DeploymentState where
  ns : String
  name : String
  desiredReplicas : Nat
  readyReplicas : Nat
  containerImages : List String
deriving DecidableEq

/-- The policy object `apply_quarantine_policy` builds, `kubernetes/executor.py:707`. -/
structure CiliumPolicy where
  ns : String
  name : String
  incidentId : String
  targetPod : String
  matchLabels : Labels
  egressDenyAll : Bool
deriving DecidableEq

/-- What a service answers through the proxy: a JSON object, by the texts of its `status` and
`state` entries, or anything else. -/
inductive ServicePayload
  | object (status state : Option String)
  | other
deriving DecidableEq

/-- `ServiceHealth`, `kubernetes/executor.py:77`, less its payload. -/
structure ServiceHealth where
  healthy : Bool
deriving DecidableEq

/-- `str.lower`, as far as ASCII letters come of it: those of ASCII and the Kelvin sign. -/
def lowered (value : String) : String :=
  value.map fun c ↦ if c = Char.ofNat 0x212A then 'k' else c.toLower

/-- The texts of a status that mean health. -/
def healthyStatus (status : String) : Bool :=
  lowered status ∈ ["ok", "healthy", "ready", "up", "true"]

/-- The health of a service that answers, `kubernetes/executor.py:489`. -/
def ServicePayload.healthy : ServicePayload → Bool
  | .object status state => healthyStatus (status.getD (state.getD "ok"))
  | .other => true

/-- `DEMO_TARGET_LABEL`, `kubernetes/executor.py:18`. -/
def demoTargetLabel : String := "cloudward.io/demo-target"

/-- `QUARANTINE_LABEL`, `kubernetes/executor.py:19`. -/
def quarantineLabel : String := "cloudward.io/quarantine-id"

/-- `make_pod`, `tests/unit/test_pipeline.py:19`. -/
def makePod (name : String) (ready : Bool) : PodState where
  ns := "cloudward-staging"
  name := name
  ready := ready
  labels := AList.insert demoTargetLabel "true"
    (AList.insert "app.kubernetes.io/name" "cloudward-demo" ∅)
  controllerManaged := true
  controllerKind := some "ReplicaSet"

/-- The selector `{QUARANTINE_LABEL: quarantine_id}`. -/
def quarantineSelector (quarantineId : String) : Labels :=
  AList.insert quarantineLabel quarantineId ∅

/-- A request that changes the cluster or its Git source. -/
inductive Mutation
  | deletePod (ns name : String)
  | patchScale (ns name : String) (replicas : Nat)
  | patchQuarantineLabel (ns name : String) (value : Option String)
  | createPolicy (policy : CiliumPolicy)
  | deletePolicy (ns name : String)
  | pushImageTag (tag : String)
deriving DecidableEq

/-- What becomes of a request: it takes effect, it is refused, or it takes effect and the
reply is lost, so that the caller sees an exception all the same. -/
inductive Reply
  | done
  | refused (e : Exc)
  | lost (e : Exc)
deriving DecidableEq

/-- A deployment and the replicas it asks for. -/
structure Deployment where
  ns : String
  name : String
  replicas : Nat
deriving DecidableEq

/-- The objects of one cluster. -/
structure Cluster where
  pods : List PodState := []
  policies : List CiliumPolicy := []
  deployments : List Deployment := []

namespace Cluster

/-- A pod by namespace and name. -/
def pod? (c : Cluster) (ns name : String) : Option PodState :=
  c.pods.find? fun p ↦ p.ns = ns ∧ p.name = name

/-- A policy by namespace and name. -/
def policy? (c : Cluster) (ns name : String) : Option CiliumPolicy :=
  c.policies.find? fun p ↦ p.ns = ns ∧ p.name = name

/-- The replicas a deployment asks for, by namespace and name. -/
def replicas? (c : Cluster) (ns name : String) : Option Nat :=
  (c.deployments.find? fun d ↦ d.ns = ns ∧ d.name = name).map (·.replicas)

/-- The quarantine label a pod carries. -/
def quarantineIdOf (c : Cluster) (ns name : String) : Option String :=
  (c.pod? ns name).bind fun p ↦ p.labels.lookup quarantineLabel

/-- The label patch `{QUARANTINE_LABEL: value}` on one pod's labels. -/
def patchLabels (labels : Labels) (value : Option String) : Labels :=
  match value with
  | some v => labels.insert quarantineLabel v
  | none => labels.erase quarantineLabel

/-- The objects after a request took effect. -/
def apply (c : Cluster) : Mutation → Cluster
  | .patchQuarantineLabel ns name value =>
      { c with pods := c.pods.map fun p ↦
          if p.ns = ns ∧ p.name = name then { p with labels := patchLabels p.labels value }
          else p }
  | .createPolicy policy => { c with policies := c.policies ++ [policy] }
  | .deletePolicy ns name =>
      { c with policies := c.policies.filter fun p ↦ ¬ (p.ns = ns ∧ p.name = name) }
  | .patchScale ns name replicas =>
      { c with deployments := c.deployments.map fun d ↦
          if d.ns = ns ∧ d.name = name then { d with replicas := replicas } else d }
  | _ => c

/-! ### Reading an object after a request -/

private theorem find?_map_of_keeps {α : Type} (objects : List α) (q : α → Bool)
    (f : α → α) (hq : ∀ p, q (f p) = q p) :
    (objects.map f).find? q = (objects.find? q).map f := by
  induction objects with
  | nil => rfl
  | cons p rest ih =>
    simp only [List.map_cons, List.find?_cons, hq]
    split
    · rfl
    · exact ih

/-- A label patch changes the labels of its own pod only. -/
theorem pod?_apply_patchQuarantineLabel (c : Cluster) (ns name ns' name' : String)
    (value : Option String) :
    (c.apply (.patchQuarantineLabel ns name value)).pod? ns' name' =
      (c.pod? ns' name').map fun p ↦
        if ns' = ns ∧ name' = name then { p with labels := patchLabels p.labels value }
        else p := by
  simp only [pod?, apply]
  rw [find?_map_of_keeps]
  · cases h : c.pods.find? fun p ↦ decide (p.ns = ns' ∧ p.name = name') with
    | none => rfl
    | some p =>
      have hp := List.find?_some h
      simp only [decide_eq_true_eq] at hp
      simp [hp.1, hp.2]
  · intro p
    split <;> rfl

/-- What the patch writes is what the pod then carries. -/
theorem lookup_patchLabels (labels : Labels) (value : Option String) :
    (patchLabels labels value).lookup quarantineLabel = value := by
  cases value with
  | none => simp [patchLabels]
  | some v => simp [patchLabels]

/-- A label patch leaves every other label alone. -/
theorem lookup_patchLabels_of_ne (labels : Labels) (value : Option String) {key : String}
    (h : key ≠ quarantineLabel) :
    (patchLabels labels value).lookup key = labels.lookup key := by
  cases value with
  | none => simp [patchLabels, AList.lookup_erase_ne h]
  | some v => simp [patchLabels, AList.lookup_insert_ne h]

/-- The slot of a pod after a patch of its label. -/
theorem quarantineIdOf_apply_patch (c : Cluster) (ns name ns' name' : String)
    (value : Option String) :
    (c.apply (.patchQuarantineLabel ns name value)).quarantineIdOf ns' name' =
      if ns' = ns ∧ name' = name ∧ (c.pod? ns name).isSome then value
      else c.quarantineIdOf ns' name' := by
  simp only [quarantineIdOf, pod?_apply_patchQuarantineLabel]
  by_cases h : ns' = ns ∧ name' = name
  · obtain ⟨rfl, rfl⟩ := h
    cases hp : c.pod? ns' name' with
    | none => simp
    | some p => simp [lookup_patchLabels]
  · have h' : ¬ (ns' = ns ∧ name' = name ∧ (c.pod? ns name).isSome) := by
      tauto
    simp only [h, h', if_false]
    cases c.pod? ns' name' <;> rfl

@[simp] theorem policy?_apply_patchQuarantineLabel (c : Cluster) (ns name ns' name' : String)
    (value : Option String) :
    (c.apply (.patchQuarantineLabel ns name value)).policy? ns' name' = c.policy? ns' name' :=
  rfl

@[simp] theorem quarantineIdOf_apply_createPolicy (c : Cluster) (policy : CiliumPolicy)
    (ns name : String) :
    (c.apply (.createPolicy policy)).quarantineIdOf ns name = c.quarantineIdOf ns name := rfl

@[simp] theorem quarantineIdOf_apply_deletePolicy (c : Cluster) (ns' name' ns name : String) :
    (c.apply (.deletePolicy ns' name')).quarantineIdOf ns name = c.quarantineIdOf ns name := rfl

@[simp] theorem pod?_apply_createPolicy (c : Cluster) (policy : CiliumPolicy)
    (ns name : String) : (c.apply (.createPolicy policy)).pod? ns name = c.pod? ns name := rfl

@[simp] theorem pod?_apply_deletePolicy (c : Cluster) (ns' name' ns name : String) :
    (c.apply (.deletePolicy ns' name')).pod? ns name = c.pod? ns name := rfl

/-- The count of a scaled deployment is the one asked for, and no other changes. -/
theorem replicas?_apply_patchScale (c : Cluster) (ns name ns' name' : String) (replicas : Nat) :
    (c.apply (.patchScale ns name replicas)).replicas? ns' name' =
      (c.replicas? ns' name').map fun current ↦
        if ns' = ns ∧ name' = name then replicas else current := by
  simp only [replicas?, apply]
  rw [find?_map_of_keeps]
  · cases h : c.deployments.find? fun d ↦ decide (d.ns = ns' ∧ d.name = name') with
    | none => rfl
    | some d =>
      have hd := List.find?_some h
      simp only [decide_eq_true_eq] at hd
      obtain ⟨rfl, rfl⟩ := hd
      simp only [Option.map_some]
      split <;> rfl
  · intro d
    split <;> rfl

/-- A created policy is found unless its name was taken. -/
theorem policy?_apply_createPolicy (c : Cluster) (policy : CiliumPolicy) (ns name : String) :
    (c.apply (.createPolicy policy)).policy? ns name =
      (c.policy? ns name).or
        (if policy.ns = ns ∧ policy.name = name then some policy else none) := by
  simp only [policy?, apply, List.find?_append, List.find?_singleton, decide_eq_true_eq]

/-- A deletion removes one name and nothing else. -/
theorem policy?_apply_deletePolicy (c : Cluster) (ns name ns' name' : String) :
    (c.apply (.deletePolicy ns name)).policy? ns' name' =
      if ns' = ns ∧ name' = name then none else c.policy? ns' name' := by
  simp only [policy?, apply, List.find?_filter]
  split
  · next h =>
    obtain ⟨rfl, rfl⟩ := h
    simp only [List.find?_eq_none]
    intro p _ hp
    simp only [decide_eq_true_eq] at hp
    exact hp.1 hp.2
  · next h =>
    congr 1
    funext p
    by_cases hp : p.ns = ns' ∧ p.name = name'
    · obtain ⟨rfl, rfl⟩ := hp
      simp [h]
    · simp [hp]

end Cluster
end CloudWard.Kubernetes
