import CloudWard.Base.Progress

/-!
# The typed Kubernetes executor

`kubernetes/executor.py`: the reads and the typed mutations that the workflows use, with
their guards in source order. Every read wraps `ApiException`; of the writes, the label
patches of the two quarantine operations do not. The custom-resource client is present,
as `KubernetesExecutor.create` builds it.
-/

namespace CloudWard.Kubernetes

open CloudWard.Logic Service

/-- `DNS_LABEL` and the length test of `_validate_name`, `kubernetes/executor.py:164`. -/
def validName (value : String) : Bool :=
  value.length ≤ 253 ∧ value.toList.head?.any alphanumeric ∧
    value.toList.getLast?.any alphanumeric ∧
    value.toList.all fun c ↦ alphanumeric c ∨ c = '-' ∨ c = '.'
where
  alphanumeric (c : Char) : Bool := ('a' ≤ c ∧ c ≤ 'z') ∨ ('0' ≤ c ∧ c ≤ '9')

/-- `SAFE_SELECTOR`, `kubernetes/executor.py:17`. -/
def safeSelector (value : String) : Bool :=
  1 ≤ value.length ∧ value.length ≤ 512 ∧
    value.toList.all fun c ↦ c.isAlphanum ∨ c ∈ "./_=,!() -".toList

/-- `path.strip("/")` and the pattern of `get_service_health`, `kubernetes/executor.py:473`. -/
def normalizedPath (path : String) : Option String :=
  let stripped := ((path.toList.dropWhile (· = '/')).reverse.dropWhile (· = '/')).reverse
  if 1 ≤ stripped.length ∧ stripped.length ≤ 256 ∧
      stripped.all fun c ↦ c.isAlphanum ∨ c ∈ "._~/-".toList then
    some (String.ofList stripped)
  else none

/-- `_validate_name`, `kubernetes/executor.py:164`. -/
def validateName (value label : String) : Service Unit :=
  require (validName value) ⟨"INVALID_KUBERNETES_TARGET", "Invalid " ++ label, 422⟩

/-- `KubernetesExecutor._require_namespace`, `kubernetes/executor.py:209`. -/
def requireNamespace (settings : Settings) (ns : String) : Service Unit := do
  validateName ns "namespace"
  require (ns ∈ settings.allowedNamespaces)
    ⟨"KUBERNETES_NAMESPACE_DENIED",
      "Automated actions are not allowed in namespace " ++ ns, 403⟩

/-- `KUBERNETES_API_ERROR`, the wrapping of every read. -/
def apiError (message : String) : CloudWardError := ⟨"KUBERNETES_API_ERROR", message, 502⟩

/-- `KUBERNETES_ACTION_FAILED`, the wrapping of every wrapped write. -/
def actionFailed (message : String) : CloudWardError :=
  ⟨"KUBERNETES_ACTION_FAILED", message, 502⟩

/-- `KUBERNETES_TARGET_DENIED`. -/
def targetDenied (message : String) : CloudWardError :=
  ⟨"KUBERNETES_TARGET_DENIED", message, 403⟩

/-- Whether a label set carries `DEMO_TARGET_LABEL: "true"`. -/
def isDemoTarget (labels : Labels) : Bool := labels.lookup demoTargetLabel = some "true"

/-! ### Reads -/

/-- `KubernetesExecutor.get_deployment`, `kubernetes/executor.py:218`. -/
def getDeployment (env : Env) (ns name : String) : Service DeploymentState := do
  validateName ns "namespace"
  validateName name "deployment name"
  let deployment ← wrapping (apiError "Unable to read Kubernetes deployment")
    (call (env.readDeployment · ns name))
  return {
    ns, name
    desiredReplicas := deployment.replicas.getD 0
    readyReplicas := deployment.readyReplicas.getD 0
    containerImages := deployment.images }

/-- `KubernetesExecutor.get_pods`, `kubernetes/executor.py:304`. -/
def getPods (env : Env) (ns labelSelector : String) : Service (List PodState) := do
  validateName ns "namespace"
  require (safeSelector labelSelector)
    ⟨"INVALID_KUBERNETES_SELECTOR", "Invalid label selector", 400⟩
  wrapping (apiError "Unable to list Kubernetes pods") (call (env.listPods · ns labelSelector))

/-- `KubernetesExecutor.get_pod_health`, `kubernetes/executor.py:321`. -/
def getPodHealth (env : Env) (ns name : String) : Service PodState := do
  validateName ns "namespace"
  validateName name "pod name"
  wrapping (apiError "Unable to read Kubernetes pod") (call (env.readPod · ns name))

/-- `KubernetesExecutor.get_events`, `kubernetes/executor.py:442`. -/
def getEvents (env : Env) (ns objectName : String) : Service Unit := do
  validateName ns "namespace"
  validateName objectName "object name"
  wrapping (apiError "Unable to list Kubernetes events") (call (env.listEvents · ns objectName))

/-- `KubernetesExecutor.get_service_health`, `kubernetes/executor.py:466`: an API error is
an unhealthy service, not an exception. -/
def getServiceHealth (env : Env) (ns serviceName path : String) : Service ServiceHealth := do
  validateName ns "namespace"
  validateName serviceName "service name"
  match normalizedPath path with
  | none => raise ⟨"INVALID_HEALTH_PATH", "Invalid service health path", 400⟩
  | some normalized =>
    tryCatch
      (do
        let payload ← call (env.serviceHealth · ns serviceName normalized)
        return { healthy := payload.healthy })
      fun e ↦ if e.isApi then pure { healthy := false } else throw e

/-- `KubernetesExecutor.probe_controlled_security_egress`, `kubernetes/executor.py:500`; the
environment answers what the probe payload's `reachable` says. -/
def probeControlledSecurityEgress (env : Env) (settings : Settings) (ns podName : String) :
    Service Bool := do
  requireNamespace settings ns
  validateName podName "pod name"
  let pod ← getPodHealth env ns podName
  require (isDemoTarget pod.labels)
    (targetDenied "Pod is not labeled as a CloudWard demo target")
  wrapping ⟨"SECURITY_PROBE_FAILED", "Unable to execute the controlled egress probe", 502⟩
    (call (env.probeEgress · ns podName))

/-- `QuarantinePolicyState`, `kubernetes/executor.py:109`. -/
structure QuarantinePolicyState where
  policyExists : Bool
  targetLabelMatches : Bool
  denyAllEgress : Bool
deriving DecidableEq

/-- `QuarantinePolicyState.enforced`. -/
def QuarantinePolicyState.enforced (s : QuarantinePolicyState) : Bool :=
  s.policyExists && s.targetLabelMatches && s.denyAllEgress

/-- The policy object, or nothing where the API server answers 404. -/
def readQuarantinePolicy (env : Env) (ns policyName : String) :
    Service (Option CiliumPolicy) :=
  tryCatch
    (do
      let policy ← call (env.readPolicy · ns policyName)
      return some policy)
    fun e ↦
      if e = .api 404 then pure none
      else throw (e.wrapApi (apiError "Unable to read the Cilium quarantine policy"))

/-- `KubernetesExecutor.get_quarantine_policy_state`, `kubernetes/executor.py:773`. -/
def getQuarantinePolicyState (env : Env) (settings : Settings)
    (ns podName policyName quarantineId : String) : Service QuarantinePolicyState := do
  requireNamespace settings ns
  validateName podName "pod name"
  validateName policyName "policy name"
  validateName quarantineId "quarantine id"
  let policy ← readQuarantinePolicy env ns policyName
  let pod ← getPodHealth env ns podName
  return {
    policyExists := policy.any (·.matchLabels = quarantineSelector quarantineId)
    targetLabelMatches := pod.labels.lookup quarantineLabel = some quarantineId
    denyAllEgress := policy.any (·.egressDenyAll) }

/-! ### Deployments and pods -/

/-- `KubernetesExecutor.delete_pod`, `kubernetes/executor.py:336`. -/
def deletePod (env : Env) (settings : Settings) (ns name : String) : Service Unit := do
  record (.deletePodCalled ns name)
  requireNamespace settings ns
  let pod ← getPodHealth env ns name
  require (isDemoTarget pod.labels)
    (targetDenied "Pod is not labeled as a CloudWard demo target")
  require (pod.controllerManaged ∧ pod.controllerKind = some "ReplicaSet")
    (targetDenied "Pod is not managed by a ReplicaSet controller")
  require (¬ pod.ready) ⟨"KUBERNETES_TARGET_HEALTHY", "Refusing to delete a ready pod", 409⟩
  wrapping (actionFailed "Kubernetes rejected the typed pod deletion")
    (send env (.deletePod ns name))

/-- `PodDeletionResult.to_dict`, `kubernetes/executor.py:66`, of an accepted deletion. -/
def deletionResult (ns podName : String) : Db.Parameters :=
  [("namespace", .str ns), ("pod_name", .str podName), ("accepted", .bool true),
    ("controller_reconciles_replacement", .bool true)]

/-- `DeploymentScaleResult`, `kubernetes/executor.py:71`. -/
structure DeploymentScaleResult where
  ns : String
  deployment : String
  previousReplicas : Nat
  requestedReplicas : Nat
  accepted : Bool
deriving DecidableEq

/-- `DeploymentScaleResult.to_dict`, `kubernetes/executor.py:78`. -/
def DeploymentScaleResult.toDict (r : DeploymentScaleResult) : Db.Parameters :=
  [("namespace", .str r.ns), ("deployment", .str r.deployment),
    ("previous_replicas", .int r.previousReplicas),
    ("requested_replicas", .int r.requestedReplicas), ("accepted", .bool r.accepted)]

/-- `KubernetesExecutor.scale_staging_deployment`, `kubernetes/executor.py:377`. -/
def scaleStagingDeployment (env : Env) (settings : Settings) (ns name : String)
    (replicas maximumReplicas : Nat) (expectedCurrentReplicas : Option Nat) :
    Service DeploymentScaleResult := do
  requireNamespace settings ns
  validateName name "deployment name"
  require (ns = "cloudward-staging") (targetDenied "Automatic scale is staging-only")
  require (1 ≤ replicas ∧ 1 ≤ maximumReplicas ∧ replicas ≤ maximumReplicas)
    ⟨"SCALE_BOUND_EXCEEDED",
      "Requested replica count exceeds the configured automatic scale bound", 422⟩
  let deployment ← wrapping (apiError "Unable to read Kubernetes deployment")
    (call (env.readDeployment · ns name))
  require (isDemoTarget deployment.templateLabels)
    (targetDenied "Deployment is not labeled as a CloudWard demo target")
  let current := deployment.replicas.getD 0
  require (∀ expected ∈ expectedCurrentReplicas, current = expected)
    ⟨"STALE_ACTION_TARGET", "Deployment replicas changed after the action was proposed", 409⟩
  wrapping (actionFailed "Kubernetes rejected the bounded scale action")
    (send env (.patchScale ns name replicas))
  return {
    ns
    deployment := name
    previousReplicas := current
    requestedReplicas := replicas
    accepted := true }

/-- `KubernetesExecutor.delete_typed_custom_object`, `kubernetes/executor.py:909`; its group and
version are always those of Chaos Mesh. -/
def deleteTypedCustomObject (env : Env) (settings : Settings) (ns name plural : String) :
    Service Unit := do
  requireNamespace settings ns
  validateName name "custom resource name"
  tryCatch (call (env.deleteCustomObject · ns plural name)) fun e ↦
    if e = .api 404 then pure ()
    else throw (e.wrapApi (actionFailed "Kubernetes rejected custom resource cleanup"))

/-! ### Quarantine -/

/-- The policy name of a quarantine. -/
def quarantinePolicyName (quarantineId : String) : String :=
  "cloudward-quarantine-" ++ quarantineId

/-- The body `apply_quarantine_policy` sends, `kubernetes/executor.py:707`. -/
def quarantinePolicy (ns podName quarantineId incidentId : String) : CiliumPolicy where
  ns := ns
  name := quarantinePolicyName quarantineId
  incidentId := incidentId
  targetPod := podName
  matchLabels := quarantineSelector quarantineId
  egressDenyAll := true

/-- What `apply_quarantine_policy` does when its create request raised `e`: a conflict is
accepted when the policy is already enforced, any other API error clears the label. -/
def onCreateFailure (env : Env) (settings : Settings) (ns podName quarantineId : String)
    (e : Exc) : Service Unit :=
  if e = .api 409 then do
    let state ← getQuarantinePolicyState env settings ns podName
      (quarantinePolicyName quarantineId) quarantineId
    require state.enforced
      ⟨"QUARANTINE_CONFLICT", "An incompatible quarantine policy already exists", 409⟩
  else if e.isApi then do
    -- not wrapped: an ApiException of this patch replaces the create's
    send env (.patchQuarantineLabel ns podName none)
    raise (actionFailed "Kubernetes rejected the typed Cilium quarantine")
  else throw e

/-- `KubernetesExecutor.apply_quarantine_policy`, `kubernetes/executor.py:672`. -/
def applyQuarantinePolicy (env : Env) (settings : Settings)
    (ns podName quarantineId incidentId : String) : Service Unit := do
  requireNamespace settings ns
  require (ns = "cloudward-staging")
    ⟨"QUARANTINE_NAMESPACE_DENIED",
      "Part 2 quarantine is restricted to cloudward-staging", 403⟩
  validateName podName "pod name"
  validateName quarantineId "quarantine id"
  let pod ← getPodHealth env ns podName
  require (isDemoTarget pod.labels)
    (targetDenied "Pod is not labeled as a CloudWard demo target")
  require pod.controllerManaged
    (targetDenied "Quarantine target must be a controller-managed demo pod")
  validateName (quarantinePolicyName quarantineId) "policy name"
  send env (.patchQuarantineLabel ns podName (some quarantineId))
  tryCatch (send env (.createPolicy (quarantinePolicy ns podName quarantineId incidentId)))
    (onCreateFailure env settings ns podName quarantineId)

/-- What `remove_quarantine_policy` does when its delete request raised `e`. -/
def onDeleteFailure (e : Exc) : Service Unit :=
  if e = .api 404 then pure ()
  else throw (e.wrapApi
    (actionFailed "Kubernetes rejected removal of the recorded quarantine"))

/-- `KubernetesExecutor.remove_quarantine_policy`, `kubernetes/executor.py:824`. -/
def removeQuarantinePolicy (env : Env) (settings : Settings)
    (ns podName policyName quarantineId : String) : Service QuarantinePolicyState := do
  requireNamespace settings ns
  validateName podName "pod name"
  validateName policyName "policy name"
  validateName quarantineId "quarantine id"
  let state ← getQuarantinePolicyState env settings ns podName policyName quarantineId
  Exec.when state.policyExists
    (tryCatch (send env (.deletePolicy ns policyName)) onDeleteFailure)
  send env (.patchQuarantineLabel ns podName none)
  getQuarantinePolicyState env settings ns podName policyName quarantineId

/-! ### What the reads leave unchanged -/

section Frames

variable {ω : Type} {f : World → ω}

theorem frames_validateName (value label : String) : Exec.Frames f (validateName value label) :=
  Exec.frames_require _ _

theorem frames_requireNamespace (settings : Settings) (ns : String) :
    Exec.Frames f (requireNamespace settings ns) :=
  Exec.frames_bind (frames_validateName _ _) fun _ ↦ Exec.frames_require _ _

variable (htick : ∀ w n, f { w with tick := n } = f w)
include htick

theorem frames_getDeployment (env : Env) (ns name : String) :
    Exec.Frames f (getDeployment env ns name) :=
  Exec.frames_bind (frames_validateName _ _) fun _ ↦
    Exec.frames_bind (frames_validateName _ _) fun _ ↦
    Exec.frames_bind (frames_wrapping _ (frames_call _ htick)) fun _ ↦ Exec.frames_pure _

theorem frames_getPods (env : Env) (ns labelSelector : String) :
    Exec.Frames f (getPods env ns labelSelector) :=
  Exec.frames_bind (frames_validateName _ _) fun _ ↦
    Exec.frames_bind (Exec.frames_require _ _) fun _ ↦ frames_wrapping _ (frames_call _ htick)

theorem frames_getPodHealth (env : Env) (ns name : String) :
    Exec.Frames f (getPodHealth env ns name) :=
  Exec.frames_bind (frames_validateName _ _) fun _ ↦
    Exec.frames_bind (frames_validateName _ _) fun _ ↦ frames_wrapping _ (frames_call _ htick)

theorem frames_getEvents (env : Env) (ns objectName : String) :
    Exec.Frames f (getEvents env ns objectName) :=
  Exec.frames_bind (frames_validateName _ _) fun _ ↦
    Exec.frames_bind (frames_validateName _ _) fun _ ↦ frames_wrapping _ (frames_call _ htick)

theorem frames_getServiceHealth (env : Env) (ns serviceName path : String) :
    Exec.Frames f (getServiceHealth env ns serviceName path) := by
  refine Exec.frames_bind (frames_validateName _ _) fun _ ↦
    Exec.frames_bind (frames_validateName _ _) fun _ ↦ ?_
  cases normalizedPath path with
  | none => exact Exec.frames_throw _
  | some normalized =>
    apply Exec.frames_tryCatch
    · exact Exec.frames_bind (frames_call _ htick) fun _ ↦ Exec.frames_pure _
    · exact fun _ ↦ Exec.frames_ite (Exec.frames_pure _) (Exec.frames_throw _)

theorem frames_probeControlledSecurityEgress (env : Env) (settings : Settings)
    (ns podName : String) :
    Exec.Frames f (probeControlledSecurityEgress env settings ns podName) :=
  Exec.frames_bind (frames_requireNamespace _ _) fun _ ↦
    Exec.frames_bind (frames_validateName _ _) fun _ ↦
    Exec.frames_bind (frames_getPodHealth htick env ns podName) fun _ ↦
    Exec.frames_bind (Exec.frames_require _ _) fun _ ↦ frames_wrapping _ (frames_call _ htick)

theorem frames_readQuarantinePolicy (env : Env) (ns policyName : String) :
    Exec.Frames f (readQuarantinePolicy env ns policyName) :=
  Exec.frames_tryCatch
    (Exec.frames_bind (frames_call _ htick) fun _ ↦ Exec.frames_pure _) fun _ ↦
    Exec.frames_ite (Exec.frames_pure _) (Exec.frames_throw _)

theorem frames_getQuarantinePolicyState (env : Env) (settings : Settings)
    (ns podName policyName quarantineId : String) :
    Exec.Frames f
      (getQuarantinePolicyState env settings ns podName policyName quarantineId) :=
  Exec.frames_bind (frames_requireNamespace _ _) fun _ ↦
    Exec.frames_bind (frames_validateName _ _) fun _ ↦
    Exec.frames_bind (frames_validateName _ _) fun _ ↦
    Exec.frames_bind (frames_validateName _ _) fun _ ↦
    Exec.frames_bind (frames_readQuarantinePolicy htick env ns policyName) fun _ ↦
    Exec.frames_bind (frames_getPodHealth htick env ns podName) fun _ ↦ Exec.frames_pure _

variable (htrace : ∀ w t, f { w with trace := t } = f w)
variable (hcluster : ∀ w c, f { w with cluster := c } = f w)
include htrace hcluster

/-- A request changes the cluster and the trace only. -/
theorem frames_send (env : Env) (m : Mutation) : Exec.Frames f (send env m) := by
  have heffect : Exec.Frames f (effect m) := by
    apply Exec.frames_update
    intro w
    exact (htrace { w with cluster := w.cluster.apply m } _).trans (hcluster w _)
  apply Exec.frames_bind (frames_ask _ htick)
  intro reply
  cases reply with
  | done => exact heffect
  | refused e => exact Exec.frames_throw e
  | lost e => exact Exec.frames_bind heffect fun _ ↦ Exec.frames_throw e

theorem frames_deletePod (env : Env) (settings : Settings) (ns name : String) :
    Exec.Frames f (deletePod env settings ns name) := by
  apply Exec.frames_bind (Exec.frames_update fun w ↦ htrace w _)
  intro _
  apply Exec.frames_bind (frames_requireNamespace settings ns)
  intro _
  apply Exec.frames_bind (frames_getPodHealth htick env ns name)
  intro pod
  apply Exec.frames_bind (Exec.frames_require _ _)
  intro _
  apply Exec.frames_bind (Exec.frames_require _ _)
  intro _
  apply Exec.frames_bind (Exec.frames_require _ _)
  intro _
  exact frames_wrapping _ (frames_send htick htrace hcluster env _)

theorem frames_scaleStagingDeployment (env : Env) (settings : Settings) (ns name : String)
    (replicas maximum : Nat) (expected : Option Nat) :
    Exec.Frames f (scaleStagingDeployment env settings ns name replicas maximum expected) := by
  apply Exec.frames_bind (frames_requireNamespace settings ns)
  intro _
  apply Exec.frames_bind (frames_validateName _ _)
  intro _
  apply Exec.frames_bind (Exec.frames_require _ _)
  intro _
  apply Exec.frames_bind (Exec.frames_require _ _)
  intro _
  apply Exec.frames_bind (frames_wrapping _ (frames_call _ htick))
  intro deployment
  apply Exec.frames_bind (Exec.frames_require _ _)
  intro _
  apply Exec.frames_bind (Exec.frames_require _ _)
  intro _
  apply Exec.frames_bind (frames_wrapping _ (frames_send htick htrace hcluster env _))
  intro _
  exact Exec.frames_pure _

private theorem frames_onCreateFailure (env : Env) (settings : Settings)
    (ns podName quarantineId : String) (e : Exc) :
    Exec.Frames f (onCreateFailure env settings ns podName quarantineId e) := by
  unfold onCreateFailure
  split
  · apply Exec.frames_bind (frames_getQuarantinePolicyState htick env settings _ _ _ _)
    intro state
    exact Exec.frames_require _ _
  · split
    · apply Exec.frames_bind (frames_send htick htrace hcluster env _)
      intro _
      exact Exec.frames_throw _
    · exact Exec.frames_throw e

/-- An application changes the cluster and the trace only. -/
theorem frames_applyQuarantinePolicy (env : Env) (settings : Settings)
    (ns podName quarantineId incidentId : String) :
    Exec.Frames f (applyQuarantinePolicy env settings ns podName quarantineId incidentId) := by
  apply Exec.frames_bind (frames_requireNamespace settings ns)
  intro _
  apply Exec.frames_bind (Exec.frames_require _ _)
  intro _
  apply Exec.frames_bind (frames_validateName _ _)
  intro _
  apply Exec.frames_bind (frames_validateName _ _)
  intro _
  apply Exec.frames_bind (frames_getPodHealth htick env ns podName)
  intro pod
  apply Exec.frames_bind (Exec.frames_require _ _)
  intro _
  apply Exec.frames_bind (Exec.frames_require _ _)
  intro _
  apply Exec.frames_bind (frames_validateName _ _)
  intro _
  apply Exec.frames_bind (frames_send htick htrace hcluster env _)
  intro _
  apply Exec.frames_tryCatch (frames_send htick htrace hcluster env _)
  exact frames_onCreateFailure htick htrace hcluster env settings ns podName quarantineId

/-- A removal changes the cluster and the trace only. -/
theorem frames_removeQuarantinePolicy (env : Env) (settings : Settings)
    (ns podName policyName quarantineId : String) :
    Exec.Frames f
      (removeQuarantinePolicy env settings ns podName policyName quarantineId) := by
  have hsend (m : Mutation) : Exec.Frames f (send env m) :=
    frames_send htick htrace hcluster env m
  have hstate := frames_getQuarantinePolicyState htick env settings ns podName policyName
    quarantineId
  apply Exec.frames_bind (frames_requireNamespace settings ns)
  intro _
  apply Exec.frames_bind (frames_validateName _ _)
  intro _
  apply Exec.frames_bind (frames_validateName _ _)
  intro _
  apply Exec.frames_bind (frames_validateName _ _)
  intro _
  apply Exec.frames_bind hstate
  intro state
  apply Exec.frames_bind
  · apply Exec.frames_when
    intro _
    apply Exec.frames_tryCatch (hsend _)
    intro e
    exact Exec.frames_ite (Exec.frames_pure _) (Exec.frames_throw _)
  intro _
  apply Exec.frames_bind (hsend _)
  intro _
  exact hstate

end Frames

/-! ### What a read returns -/

section Values

variable (env : Env) (ns name : String)

/-- A wrapped call returns an answer of the environment. -/
theorem yields_wrapped_call {α : Type} (error : CloudWardError)
    (answer : World → Except Exc α) :
    Exec.Yields (fun a ↦ ∃ w, answer w = .ok a) (wrapping error (call answer)) := by
  intro w _
  simp only [wrapping, Exec.run_tryCatch, run_call]
  cases hanswer : answer w with
  | ok a => exact ⟨w, hanswer⟩
  | error e => trivial

private theorem yields_validateName (value label : String) :
    Exec.Yields (fun _ ↦ validName value) (validateName value label) :=
  Exec.Triple.require (fun h _ _ ↦ h) fun _ _ _ ↦ trivial

/-- Pods that are returned were listed, in a namespace with a valid name. -/
theorem yields_getPods (selector : String) :
    Exec.Yields (fun pods ↦ validName ns ∧ ∃ w, env.listPods w ns selector = .ok pods)
      (getPods env ns selector) := by
  apply Exec.yields_bind_of (yields_validateName ns _)
  intro _ hns
  apply Exec.yields_bind
  intro _
  exact (yields_wrapped_call _ _).mono fun _ h ↦ ⟨hns, h⟩

/-- A pod that is returned was read, and has a valid name. -/
theorem yields_getPodHealth :
    Exec.Yields (fun pod ↦ validName ns ∧ validName name ∧ ∃ w, env.readPod w ns name = .ok pod)
      (getPodHealth env ns name) := by
  apply Exec.yields_bind_of (yields_validateName ns _)
  intro _ hns
  apply Exec.yields_bind_of (yields_validateName name _)
  intro _ hname
  exact (yields_wrapped_call _ _).mono fun _ h ↦ ⟨hns, hname, h⟩

/-- A deployment that is returned has a valid name and was read. -/
theorem yields_getDeployment :
    Exec.Yields (fun state ↦ validName name ∧ ∃ w deployment,
        env.readDeployment w ns name = .ok deployment ∧
          state.desiredReplicas = deployment.replicas.getD 0 ∧
          state.containerImages = deployment.images)
      (getDeployment env ns name) := by
  apply Exec.yields_bind
  intro _
  apply Exec.yields_bind_of (yields_validateName name _)
  intro _ hname
  apply Exec.yields_bind_of (yields_wrapped_call _ _)
  rintro deployment ⟨w, hread⟩
  exact Exec.yields_pure ⟨hname, w, deployment, hread, rfl, rfl⟩

end Values

/-! ### Calls that succeed -/

section Progress

variable {w : World} {env : Env} {settings : Settings} {ns name : String}

theorem reaches_validateName {value label : String} (h : validName value) :
    Reaches (validateName value label) w () w := reaches_require h

theorem reaches_requireNamespace (hns : validName ns) (hallowed : ns ∈ settings.allowedNamespaces) :
    Reaches (requireNamespace settings ns) w () w := by
  apply reaches_bind (reaches_validateName hns)
  intro n
  exact reaches_require hallowed

theorem reaches_getDeployment {deployment : V1Deployment} (hns : validName ns)
    (hname : validName name) (h : ∀ w, env.readDeployment w ns name = .ok deployment) :
    Reaches (getDeployment env ns name) w
      { ns, name
        desiredReplicas := deployment.replicas.getD 0
        readyReplicas := deployment.readyReplicas.getD 0
        containerImages := deployment.images } w := by
  apply reaches_bind (reaches_validateName hns)
  intro _
  apply reaches_bind (reaches_validateName hname)
  intro _
  apply reaches_bind (reaches_wrapping (reaches_call (h _)))
  intro _
  exact reaches_pure _ _

theorem reaches_getPods {selector : String} {pods : List PodState} (hns : validName ns)
    (hselector : safeSelector selector) (h : ∀ w, env.listPods w ns selector = .ok pods) :
    Reaches (getPods env ns selector) w pods w := by
  apply reaches_bind (reaches_validateName hns)
  intro _
  apply reaches_bind (reaches_require hselector)
  intro _
  exact reaches_wrapping (reaches_call (h _))

theorem reaches_getPodHealth {pod : PodState} (hns : validName ns) (hname : validName name)
    (h : ∀ w, env.readPod w ns name = .ok pod) :
    Reaches (getPodHealth env ns name) w pod w := by
  apply reaches_bind (reaches_validateName hns)
  intro _
  apply reaches_bind (reaches_validateName hname)
  intro _
  exact reaches_wrapping (reaches_call (h _))

theorem reaches_getEvents (hns : validName ns) (hname : validName name)
    (h : ∀ w, env.listEvents w ns name = .ok ()) : Reaches (getEvents env ns name) w () w := by
  apply reaches_bind (reaches_validateName hns)
  intro _
  apply reaches_bind (reaches_validateName hname)
  intro _
  exact reaches_wrapping (reaches_call (h _))

theorem reaches_getServiceHealth {path normalized : String} {payload : ServicePayload}
    (hns : validName ns) (hname : validName name) (hpath : normalizedPath path = some normalized)
    (h : ∀ w, env.serviceHealth w ns name normalized = .ok payload) :
    Reaches (getServiceHealth env ns name path) w { healthy := payload.healthy } w := by
  apply reaches_bind (reaches_validateName hns)
  intro _
  apply reaches_bind (reaches_validateName hname)
  intro _
  simp only [hpath]
  apply reaches_tryCatch
  apply reaches_bind (reaches_call (h _))
  exact fun _ ↦ reaches_pure _ _

/-- An unready demo pod of a ReplicaSet is deleted when the API server does as asked. -/
theorem reaches_deletePod {p : PodState} (hns : validName ns) (hname : validName name)
    (hallowed : ns ∈ settings.allowedNamespaces)
    (hread : ∀ w, env.readPod w ns name = .ok p) (hdemo : isDemoTarget p.labels)
    (hcontroller : p.controllerManaged ∧ p.controllerKind = some "ReplicaSet")
    (hready : ¬ p.ready) (hdone : ∀ w, env.request w (.deletePod ns name) = .done) :
    Reaches (deletePod env settings ns name) w ()
      { w with
        cluster := w.cluster.apply (.deletePod ns name)
        trace := .mutated (.deletePod ns name) :: .deletePodCalled ns name :: w.trace } := by
  apply reaches_bind (reaches_record _ w)
  intro _
  apply reaches_bind (reaches_requireNamespace hns hallowed)
  intro _
  apply reaches_bind (reaches_getPodHealth hns hname hread)
  intro _
  apply reaches_bind (reaches_require hdemo)
  intro _
  apply reaches_bind (reaches_require hcontroller)
  intro _
  apply reaches_bind (reaches_require hready)
  intro _
  exact reaches_wrapping (reaches_send (hdone _))

/-- A scale within its bound of a demo deployment with the expected replicas is performed. -/
theorem reaches_scaleStagingDeployment {deployment : V1Deployment}
    {replicas maximum current : Nat} (hname : validName name)
    (hallowed : "cloudward-staging" ∈ settings.allowedNamespaces)
    (hbound : 1 ≤ replicas ∧ 1 ≤ maximum ∧ replicas ≤ maximum)
    (hread : ∀ w', w'.cluster = w.cluster →
      env.readDeployment w' "cloudward-staging" name = .ok deployment)
    (hdemo : isDemoTarget deployment.templateLabels)
    (hcurrent : deployment.replicas.getD 0 = current)
    (hdone : ∀ w, env.request w (.patchScale "cloudward-staging" name replicas) = .done) :
    Reaches (scaleStagingDeployment env settings "cloudward-staging" name replicas maximum
        (some current)) w ⟨"cloudward-staging", name, current, replicas, true⟩
      { w with
        cluster := w.cluster.apply (.patchScale "cloudward-staging" name replicas)
        trace := .mutated (.patchScale "cloudward-staging" name replicas) :: w.trace } := by
  apply reaches_bind (reaches_requireNamespace (by decide) hallowed)
  intro _
  apply reaches_bind (reaches_validateName hname)
  intro _
  apply reaches_bind (reaches_require rfl)
  intro _
  apply reaches_bind (reaches_require hbound)
  intro _
  apply reaches_bind (reaches_wrapping (reaches_call (by exact hread _ rfl)))
  intro _
  apply reaches_bind (reaches_require hdemo)
  intro _
  apply reaches_bind
  · apply reaches_require
    intro expected hexpected
    cases hexpected
    exact hcurrent
  intro _
  apply reaches_bind (reaches_wrapping (reaches_send (hdone _)))
  intro _
  rw [hcurrent]
  exact reaches_pure _ _

end Progress

end CloudWard.Kubernetes
