import CloudWard.Base.Returns
import CloudWard.Kubernetes.Executor

/-!
# A quarantine that fails

What `KubernetesExecutor.apply_quarantine_policy` (`kubernetes/executor.py:672`) leaves on the
cluster when it raises. It patches the label of the pod, then creates the policy. A failed patch
is not wrapped; a conflict undoes nothing; any other failure of the creation clears the label, also
of a pod that carried one before.
-/

namespace CloudWard.Kubernetes

open CloudWard.Logic Service

/-- Errors of the Kubernetes client are no `CloudWardError`s. -/
structure ClientErrors (env : Env) : Prop where
  readPod : ∀ w ns name e, env.readPod w ns name = .error e → e.isCloudWard = false
  readPolicy : ∀ w ns name e, env.readPolicy w ns name = .error e → e.isCloudWard = false
  refused : ∀ w m e, env.request w m = .refused e → e.isCloudWard = false
  lost : ∀ w m e, env.request w m = .lost e → e.isCloudWard = false

/-- A pod's label. -/
def Cluster.label? (c : Cluster) (ns name key : String) : Option String :=
  (c.pod? ns name).bind (·.labels.lookup key)

/-- The same policies, and the same labels on every pod. -/
def Cluster.Same (c c' : Cluster) : Prop :=
  c'.policies = c.policies ∧ ∀ ns name key, c'.label? ns name key = c.label? ns name key

section Stages

variable (env : Env) (settings : Settings) (ns podName quarantineId incidentId : String) (w : World)

/-- The names are valid, and the namespace is the one for quarantines. -/
structure Addressed : Prop where
  ns_valid : validName ns
  ns_allowed : ns ∈ settings.allowedNamespaces
  ns_staging : ns = "cloudward-staging"
  podName_valid : validName podName
  quarantineId_valid : validName quarantineId

/-- The guards before the patch let the call pass. -/
structure Admitted : Prop where
  addressed : Addressed settings ns podName quarantineId
  live : ∃ pod, env.readPod w ns podName = .ok pod ∧ isDemoTarget pod.labels ∧
    pod.controllerManaged
  policyName_valid : validName (quarantinePolicyName quarantineId)

/-- The request for the label. -/
def labelRequest : Mutation := .patchQuarantineLabel ns podName (some quarantineId)

/-- The request for the policy. -/
def policyRequest : Mutation := .createPolicy (quarantinePolicy ns podName quarantineId incidentId)

/-- The compensating request. -/
def clearRequest : Mutation := .patchQuarantineLabel ns podName none

/-- The world in which the policy is created. -/
def labelled : World := (w.later 2).mutated (labelRequest ns podName quarantineId)

/-- What becomes of the patch. -/
def patchReply : Reply := env.request (w.later 1) (labelRequest ns podName quarantineId)

/-- What becomes of the creation. -/
def createReply : Reply :=
  env.request (labelled ns podName quarantineId w)
    (policyRequest ns podName quarantineId incidentId)

/-- The world after a creation that failed. -/
def uncreated : World :=
  match createReply env ns podName quarantineId incidentId w with
  | .lost _ => ((labelled ns podName quarantineId w).later 1).mutated
      (policyRequest ns podName quarantineId incidentId)
  | _ => (labelled ns podName quarantineId w).later 1

/-- What becomes of the compensating request. -/
def clearReply : Reply :=
  env.request (uncreated env ns podName quarantineId incidentId w) (clearRequest ns podName)

/-- The API server shows the policy enforced on the pod. -/
def ShownEnforced : Prop :=
  ∃ policy pod, env.readPolicy w ns (quarantinePolicyName quarantineId) = .ok policy ∧
    env.readPod (w.later 1) ns podName = .ok pod ∧
    policy.matchLabels = quarantineSelector quarantineId ∧ policy.egressDenyAll ∧
    pod.labels.lookup quarantineLabel = some quarantineId

/-- The reads of policy and pod fail by API errors, if at all; the pod is not read after an error
but 404. -/
structure ReadsReported : Prop where
  readPolicy : ∀ e, env.readPolicy w ns (quarantinePolicyName quarantineId) = .error e → e.isApi
  readPod : ∀ e, env.readPod (w.later 1) ns podName = .error e → e.isApi ∨
    ∃ status, status ≠ 404 ∧
      env.readPolicy w ns (quarantinePolicyName quarantineId) = .error (.api status)

/-- If the pod is there, its quarantine label is this. -/
def Carries (value : Option String) : Prop :=
  ∀ pod, w.cluster.pod? ns podName = some pod → pod.labels.lookup quarantineLabel = value

/-- The answers to a creation after which nothing is left of a quarantine that raises. -/
def CreateRecoverable : Prop :=
  match createReply env ns podName quarantineId incidentId w with
  | .done => True
  | .refused e =>
    if e = .api 409 then
      ShownEnforced env ns podName quarantineId
          (uncreated env ns podName quarantineId incidentId w) ∨
        (ReadsReported env ns podName quarantineId
            (uncreated env ns podName quarantineId incidentId w) ∧
          Carries ns podName w (some quarantineId))
    else
      e.isApi ∧ (clearReply env ns podName quarantineId incidentId w ≠ .done ∨
        Carries ns podName w none)
  | .lost e =>
    if e = .api 409 then
      ShownEnforced env ns podName quarantineId
        (uncreated env ns podName quarantineId incidentId w)
    else e.isApi ∧ clearReply env ns podName quarantineId incidentId w ≠ .done

/-- The pod is read, or the read fails by an API error; a call that the guards let pass has its
patch done and a creation that is recovered from. -/
structure Recoverable : Prop where
  reported : Addressed settings ns podName quarantineId →
    ∀ e, env.readPod w ns podName = .error e → e.isApi
  patched : Admitted env settings ns podName quarantineId w →
    patchReply env ns podName quarantineId w = .done ∧
      CreateRecoverable env ns podName quarantineId incidentId w

/-- The compensating request is made and fails. -/
structure ClearFails : Prop where
  admitted : Admitted env settings ns podName quarantineId w
  patched : patchReply env ns podName quarantineId w = .done
  uncreated : ∃ e, (createReply env ns podName quarantineId incidentId w = .refused e ∨
    createReply env ns podName quarantineId incidentId w = .lost e) ∧ e.isApi ∧ e ≠ .api 409
  failed : clearReply env ns podName quarantineId incidentId w ≠ .done

/-- A call that raises, though its compensating request does not fail, raises a `CloudWardError`
and leaves the cluster the same. -/
def Atomic : Prop :=
  ∀ e w', (applyQuarantinePolicy env settings ns podName quarantineId incidentId).run w =
      (.error e, w') →
    ¬ ClearFails env settings ns podName quarantineId incidentId w →
      e.isCloudWard ∧ w.cluster.Same w'.cluster

end Stages

/-! ### The runs of the parts -/

section Runs

variable {env : Env} {settings : Settings} {ns podName quarantineId incidentId : String} {w : World}

theorem run_send (m : Mutation) (w : World) :
    (send env m).run w = match env.request w m with
      | .done => (.ok (), (w.later 1).mutated m)
      | .refused e => (.error e, w.later 1)
      | .lost e => (.error e, (w.later 1).mutated m) := by
  unfold send
  rw [Exec.run_bind, run_ask]
  dsimp only
  cases env.request w m with
  | done => rfl
  | refused e => rfl
  | lost e => rfl

theorem isCloudWard_wrapApi_iff {error : CloudWardError} {e : Exc} (h : e.isCloudWard = false) :
    (e.wrapApi error).isCloudWard ↔ e.isApi := by
  cases e with
  | cloudWard error => cases h
  | api status => exact ⟨fun _ ↦ rfl, fun _ ↦ rfl⟩
  | _ => exact ⟨fun h ↦ (nomatch h), fun h ↦ (nomatch h)⟩

theorem run_wrapping_call {α : Type} (error : CloudWardError) (answer : World → Except Exc α)
    (w : World) :
    (wrapping error (call answer)).run w = match answer w with
      | .ok a => (.ok a, w.later 1)
      | .error e => (.error (e.wrapApi error), w.later 1) := by
  unfold wrapping
  rw [Exec.run_tryCatch, run_call]
  cases answer w with
  | ok a => rfl
  | error e => rfl

theorem run_getPodHealth (hns : validName ns) (hname : validName podName) :
    (getPodHealth env ns podName).run w = match env.readPod w ns podName with
      | .ok pod => (.ok pod, w.later 1)
      | .error e => (.error (e.wrapApi (apiError "Unable to read Kubernetes pod")), w.later 1) := by
  unfold getPodHealth validateName Service.require
  rw [Exec.run_bind_require hns, Exec.run_bind_require hname, run_wrapping_call]
  cases env.readPod w ns podName with
  | ok pod => rfl
  | error e => rfl

private theorem run_readQuarantinePolicy (policyName : String) :
    (readQuarantinePolicy env ns policyName).run w = match env.readPolicy w ns policyName with
      | .ok policy => (.ok (some policy), w.later 1)
      | .error e => (if e = .api 404 then .ok none else
          .error (e.wrapApi (apiError "Unable to read the Cilium quarantine policy")),
        w.later 1) := by
  unfold readQuarantinePolicy
  rw [Exec.run_tryCatch, Exec.run_bind, run_call]
  cases env.readPolicy w ns policyName with
  | ok policy => rfl
  | error e =>
    dsimp only
    split
    · rfl
    · rfl

private theorem run_requireNamespace (hns : validName ns) (hallowed : ns ∈ settings.allowedNamespaces) :
    (requireNamespace settings ns).run w = (.ok (), w) := by
  unfold requireNamespace validateName Service.require
  rw [Exec.run_bind_require hns, Exec.run_require, if_pos hallowed]

private theorem run_validateName {value label : String} (h : validName value) :
    (validateName value label).run w = (.ok (), w) := by
  unfold validateName Service.require
  rw [Exec.run_require, if_pos h]

/-- The state that is read after a conflict. -/
private theorem run_conflictState (hclient : ClientErrors env)
    (haddressed : Addressed settings ns podName quarantineId)
    (hpolicyName : validName (quarantinePolicyName quarantineId)) :
    ∃ r w', (getQuarantinePolicyState env settings ns podName
        (quarantinePolicyName quarantineId) quarantineId).run w = (r, w') ∧
      w'.cluster = w.cluster ∧
      match r with
      | .ok state =>
        (state.enforced ↔ ShownEnforced env ns podName quarantineId w) ∧
          ReadsReported env ns podName quarantineId w
      | .error e =>
        ¬ ShownEnforced env ns podName quarantineId w ∧
          (e.isCloudWard ↔ ReadsReported env ns podName quarantineId w) := by
  have hread := @run_readQuarantinePolicy env ns w (quarantinePolicyName quarantineId)
  have hpod := @run_getPodHealth env ns podName (w.later 1) haddressed.ns_valid
    haddressed.podName_valid
  unfold getQuarantinePolicyState
  rw [Exec.run_bind_of_ok (run_requireNamespace haddressed.ns_valid haddressed.ns_allowed),
    Exec.run_bind_of_ok (run_validateName haddressed.podName_valid),
    Exec.run_bind_of_ok (run_validateName hpolicyName),
    Exec.run_bind_of_ok (run_validateName haddressed.quarantineId_valid)]
  cases hpolicy : env.readPolicy w ns (quarantinePolicyName quarantineId) with
  | ok policy =>
    rw [hpolicy] at hread
    rw [Exec.run_bind_of_ok hread]
    cases hlive : env.readPod (w.later 1) ns podName with
    | ok pod =>
      rw [hlive] at hpod
      rw [Exec.run_bind_of_ok hpod]
      refine ⟨_, _, rfl, rfl, ?_, ?_, ?_⟩
      · simp [QuarantinePolicyState.enforced, ShownEnforced, hpolicy, hlive, and_comm,
          and_left_comm]
      · simp [hpolicy]
      · simp [hlive]
    | error e =>
      have he := hclient.readPod _ _ _ e hlive
      rw [hlive] at hpod
      rw [Exec.run_bind_of_error hpod]
      refine ⟨_, _, rfl, rfl, ?_, ?_⟩
      · rintro ⟨-, pod, -, hpod, -⟩
        rw [hlive] at hpod
        cases hpod
      · rw [isCloudWard_wrapApi_iff he]
        constructor
        · intro hapi
          constructor
          · simp [hpolicy]
          · intro e' he'
            rw [hlive] at he'
            cases he'
            exact .inl hapi
        · intro hreported
          rcases hreported.readPod e hlive with hapi | ⟨status, -, hstatus⟩
          · exact hapi
          · rw [hpolicy] at hstatus
            cases hstatus
  | error e =>
    have hnot : ¬ ShownEnforced env ns podName quarantineId w := by
      rintro ⟨policy, -, hok, -⟩
      rw [hpolicy] at hok
      cases hok
    rw [hpolicy] at hread
    by_cases h404 : e = .api 404
    · obtain rfl := h404
      rw [Exec.run_bind_of_ok hread]
      have hreport (e : Exc) (he : env.readPod (w.later 1) ns podName = .error e) :
          e.isApi ↔ ReadsReported env ns podName quarantineId w := by
        constructor
        · intro hapi
          constructor
          · intro e' he'
            rw [hpolicy] at he'
            cases he'
            rfl
          · intro e' he'
            rw [he] at he'
            cases he'
            exact .inl hapi
        · intro hreported
          rcases hreported.readPod e he with hapi | ⟨status, hne, hstatus⟩
          · exact hapi
          · rw [hpolicy] at hstatus
            cases hstatus
            exact absurd rfl hne
      cases hlive : env.readPod (w.later 1) ns podName with
      | ok pod =>
        rw [hlive] at hpod
        rw [Exec.run_bind_of_ok hpod]
        refine ⟨_, _, rfl, rfl, ?_, ?_, ?_⟩
        · simp [QuarantinePolicyState.enforced, hnot]
        · simp [hpolicy, Exc.isApi]
        · simp [hlive]
      | error e =>
        have he := hclient.readPod _ _ _ e hlive
        rw [hlive] at hpod
        rw [Exec.run_bind_of_error hpod]
        refine ⟨_, _, rfl, rfl, hnot, ?_⟩
        rw [isCloudWard_wrapApi_iff he]
        exact hreport e hlive
    · have he := hclient.readPolicy _ _ _ e hpolicy
      dsimp only at hread
      rw [if_neg h404] at hread
      rw [Exec.run_bind_of_error hread]
      refine ⟨_, _, rfl, rfl, hnot, ?_⟩
      rw [isCloudWard_wrapApi_iff he]
      constructor
      · intro hapi
        cases e with
        | api status =>
          constructor
          · simp [hpolicy, Exc.isApi]
          · exact fun _ _ ↦ .inr ⟨status, fun h ↦ h404 (congrArg Exc.api h), hpolicy⟩
        | _ => cases hapi
      · exact fun hreported ↦ hreported.readPolicy e hpolicy

end Runs

/-! ### What is left on the cluster -/

section Left

variable {c : Cluster} {ns podName : String}

private theorem label?_apply_patch (value : Option String) (ns' name' key : String) :
    (c.apply (.patchQuarantineLabel ns podName value)).label? ns' name' key =
      if ns' = ns ∧ name' = podName ∧ key = quarantineLabel ∧ (c.pod? ns podName).isSome then value
      else c.label? ns' name' key := by
  unfold Cluster.label?
  rw [Cluster.pod?_apply_patchQuarantineLabel]
  by_cases hpod : ns' = ns ∧ name' = podName
  · obtain ⟨rfl, rfl⟩ := hpod
    cases c.pod? ns' name' with
    | none => simp
    | some pod =>
      by_cases hkey : key = quarantineLabel
      · obtain rfl := hkey
        simp [Cluster.lookup_patchLabels]
      · simp [hkey, Cluster.lookup_patchLabels_of_ne]
  · have hnot : ¬ (ns' = ns ∧ name' = podName ∧ key = quarantineLabel ∧
        (c.pod? ns podName).isSome) := by tauto
    rw [if_neg hnot]
    simp [hpod]

/-- Patches of one label leave the cluster the same if the last value is the one before. -/
private theorem same_patched_iff {c' : Cluster} {value : Option String}
    (hpolicies : c'.policies = c.policies)
    (hlabel : ∀ ns' name' key, c'.label? ns' name' key =
      if ns' = ns ∧ name' = podName ∧ key = quarantineLabel ∧ (c.pod? ns podName).isSome then value
      else c.label? ns' name' key) :
    c.Same c' ↔ ∀ pod, c.pod? ns podName = some pod →
      pod.labels.lookup quarantineLabel = value := by
  constructor
  · rintro ⟨-, hsame⟩ pod hpod
    have h := (hlabel ns podName quarantineLabel).symm.trans (hsame ns podName quarantineLabel)
    rw [if_pos ⟨rfl, rfl, rfl, by rw [hpod]; rfl⟩] at h
    rw [h, Cluster.label?, hpod]
    rfl
  · intro h
    refine ⟨hpolicies, fun ns' name' key ↦ ?_⟩
    rw [hlabel]
    split
    · next hpatched =>
      obtain ⟨rfl, rfl, rfl, hsome⟩ := hpatched
      obtain ⟨pod, hpod⟩ := Option.isSome_iff_exists.mp hsome
      rw [Cluster.label?, hpod, ← h pod hpod]
      rfl
    · rfl

private theorem label?_patch_patch (value value' : Option String) (ns' name' key : String) :
    ((c.apply (.patchQuarantineLabel ns podName value)).apply
        (.patchQuarantineLabel ns podName value')).label? ns' name' key =
      if ns' = ns ∧ name' = podName ∧ key = quarantineLabel ∧ (c.pod? ns podName).isSome then value'
      else c.label? ns' name' key := by
  rw [label?_apply_patch, label?_apply_patch, Cluster.pod?_apply_patchQuarantineLabel,
    Option.isSome_map]
  split
  · rfl
  · rfl

private theorem not_same_of_created {c' : Cluster} {policy : CiliumPolicy}
    (h : c'.policies = c.policies ++ [policy]) : ¬ c.Same c' := by
  rintro ⟨hsame, -⟩
  have hlength := congrArg List.length (h.symm.trans hsame)
  simp at hlength

end Left

/-! ### Exactly when a failure leaves nothing -/

section Failure

variable {env : Env} {settings : Settings} {ns podName quarantineId incidentId : String} {w : World}

/-- A check that addressed calls pass. -/
private theorem triple_checked {c : Prop} [Decidable c] {error : CloudWardError}
    (h : ¬ c → ¬ Addressed settings ns podName quarantineId) :
    Exec.Triple (· = w) (Exec.require c (.cloudWard error) : Service Unit)
      (fun _ w' ↦ w' = w ∧ c)
      (fun e w' ↦ Admitted env settings ns podName quarantineId w ∨ (w'.cluster = w.cluster ∧
        (e.isCloudWard ↔ (Addressed settings ns podName quarantineId →
          ∀ e, env.readPod w ns podName = .error e → e.isApi)))) := by
  apply Exec.Triple.require
  · exact fun hc _ hw ↦ ⟨hw, hc⟩
  · intro hc w' hw
    rw [hw]
    exact .inr ⟨rfl, fun _ haddressed ↦ absurd haddressed (h hc), fun _ ↦ rfl⟩

/-- A call that the guards do not let pass raises and changes no object. -/
private theorem run_of_not_admitted (hclient : ClientErrors env)
    (hnot : ¬ Admitted env settings ns podName quarantineId w) :
    ∃ e w', (applyQuarantinePolicy env settings ns podName quarantineId incidentId).run w =
        (.error e, w') ∧ w'.cluster = w.cluster ∧
      (e.isCloudWard ↔ (Addressed settings ns podName quarantineId →
        ∀ e, env.readPod w ns podName = .error e → e.isApi)) := by
  have hguards : Exec.Triple (· = w)
      (applyQuarantinePolicy env settings ns podName quarantineId incidentId)
      (fun _ _ ↦ Admitted env settings ns podName quarantineId w)
      (fun e w' ↦ Admitted env settings ns podName quarantineId w ∨ (w'.cluster = w.cluster ∧
        (e.isCloudWard ↔ (Addressed settings ns podName quarantineId →
          ∀ e, env.readPod w ns podName = .error e → e.isApi)))) := by
    unfold applyQuarantinePolicy requireNamespace validateName Service.require
    apply Exec.Triple.bind (Q := fun _ w' ↦ w' = w ∧ (validName ns ∧ ns ∈ settings.allowedNamespaces))
    · apply Exec.Triple.bind (triple_checked fun hns haddressed ↦ hns haddressed.ns_valid)
      intro _
      apply Exec.Triple.assume
      intro hns
      apply (triple_checked fun hallowed haddressed ↦ hallowed haddressed.ns_allowed).mono
      · exact fun _ h ↦ h
      · exact fun _ _ h ↦ ⟨h.1, hns, h.2⟩
      · exact fun _ _ h ↦ h
    intro _
    apply Exec.Triple.assume
    rintro ⟨hns, hallowed⟩
    apply Exec.Triple.bind (triple_checked fun hstaging haddressed ↦
      hstaging haddressed.ns_staging)
    intro _
    apply Exec.Triple.assume
    intro hstaging
    apply Exec.Triple.bind (triple_checked fun hname haddressed ↦
      hname haddressed.podName_valid)
    intro _
    apply Exec.Triple.assume
    intro hname
    apply Exec.Triple.bind (triple_checked fun hid haddressed ↦
      hid haddressed.quarantineId_valid)
    intro _
    apply Exec.Triple.assume
    intro hid
    have haddressed : Addressed settings ns podName quarantineId :=
      ⟨hns, hallowed, hstaging, hname, hid⟩
    apply Exec.Triple.bind (Q := fun pod w' ↦ w' = w.later 1 ∧ env.readPod w ns podName = .ok pod)
    · rintro w' rfl
      rw [run_getPodHealth hns hname]
      cases hread : env.readPod w' ns podName with
      | ok pod => exact ⟨rfl, rfl⟩
      | error e =>
        refine .inr ⟨rfl, ?_⟩
        rw [isCloudWard_wrapApi_iff (hclient.readPod _ _ _ e hread)]
        constructor
        · intro hapi _ e' he'
          cases he'
          exact hapi
        · exact fun h ↦ h haddressed e rfl
    intro pod
    apply Exec.Triple.assume
    intro hread
    -- the pod is read, so every other check raises a `CloudWardError`
    have hreported : Addressed settings ns podName quarantineId →
        ∀ e, env.readPod w ns podName = .error e → e.isApi := by
      intro _ e he
      rw [hread] at he
      cases he
    have hrequire {c : Prop} [Decidable c] (error : CloudWardError) :
        Exec.Triple (· = w.later 1) (Exec.require c (.cloudWard error) : Service Unit)
          (fun _ w' ↦ w' = w.later 1 ∧ c)
          (fun e w' ↦ Admitted env settings ns podName quarantineId w ∨
            (w'.cluster = w.cluster ∧ (e.isCloudWard ↔
              (Addressed settings ns podName quarantineId →
                ∀ e, env.readPod w ns podName = .error e → e.isApi)))) := by
      apply Exec.Triple.require
      · exact fun hc _ hw ↦ ⟨hw, hc⟩
      · intro _ w' hw
        rw [hw]
        exact .inr ⟨rfl, fun _ ↦ hreported, fun _ ↦ rfl⟩
    apply Exec.Triple.bind (hrequire _)
    intro _
    apply Exec.Triple.assume
    intro hdemo
    apply Exec.Triple.bind (hrequire _)
    intro _
    apply Exec.Triple.assume
    intro hmanaged
    apply Exec.Triple.bind (hrequire _)
    intro _
    apply Exec.Triple.assume
    intro hpolicyName
    have hadmitted : Admitted env settings ns podName quarantineId w :=
      ⟨haddressed, ⟨pod, hread, hdemo, hmanaged⟩, hpolicyName⟩
    intro w' _
    split
    · exact hadmitted
    · exact .inl hadmitted
  have hrun := hguards w rfl
  rcases hresult : (applyQuarantinePolicy env settings ns podName quarantineId incidentId).run w
    with ⟨e | a, w'⟩
  · rw [hresult] at hrun
    rcases hrun with hadmitted | ⟨hcluster, hreport⟩
    · exact absurd hadmitted hnot
    · exact ⟨e, w', rfl, hcluster, hreport⟩
  · rw [hresult] at hrun
    exact absurd hrun hnot

/-- A call that the guards let pass patches the label and creates the policy. -/
private theorem run_of_admitted (h : Admitted env settings ns podName quarantineId w) :
    (applyQuarantinePolicy env settings ns podName quarantineId incidentId).run w =
      (do
        send env (labelRequest ns podName quarantineId)
        tryCatch (send env (policyRequest ns podName quarantineId incidentId))
          (onCreateFailure env settings ns podName quarantineId) : Service Unit).run
        (w.later 1) := by
  obtain ⟨pod, hread, hdemo, hmanaged⟩ := h.live
  have hpod : (getPodHealth env ns podName).run w = (.ok pod, w.later 1) := by
    rw [run_getPodHealth h.addressed.ns_valid h.addressed.podName_valid, hread]
  unfold applyQuarantinePolicy Service.require
  rw [Exec.run_bind_of_ok (run_requireNamespace h.addressed.ns_valid h.addressed.ns_allowed),
    Exec.run_bind_require h.addressed.ns_staging,
    Exec.run_bind_of_ok (run_validateName h.addressed.podName_valid),
    Exec.run_bind_of_ok (run_validateName h.addressed.quarantineId_valid),
    Exec.run_bind_of_ok hpod, Exec.run_bind_require hdemo, Exec.run_bind_require hmanaged,
    Exec.run_bind_of_ok (run_validateName h.policyName_valid)]
  rfl

/-- What a failed creation ends with. -/
private theorem run_onCreateFailure (hclient : ClientErrors env)
    (haddressed : Addressed settings ns podName quarantineId)
    (hpolicyName : validName (quarantinePolicyName quarantineId)) (e : Exc) (u : World) :
    ∃ r u', (onCreateFailure env settings ns podName quarantineId e).run u = (r, u') ∧
      if e = .api 409 then
        u'.cluster = u.cluster ∧ (r = .ok () ↔ ShownEnforced env ns podName quarantineId u) ∧
          ∀ e', r = .error e' → (e'.isCloudWard ↔ ReadsReported env ns podName quarantineId u)
      else if e.isApi then
        env.request u (clearRequest ns podName) = .done →
          u'.cluster = u.cluster.apply (clearRequest ns podName) ∧
            ∃ error, r = .error (.cloudWard error)
      else r = .error e := by
  unfold onCreateFailure
  split
  · next hconflict =>
    obtain ⟨r, u', hrun, hcluster, hr⟩ :=
      run_conflictState (w := u) hclient haddressed hpolicyName
    cases r with
    | ok state =>
      obtain ⟨henforced, hreported⟩ := hr
      refine ⟨_, u', by rw [Exec.run_bind_of_ok hrun, Service.require, Exec.run_require], hcluster, ?_⟩
      by_cases hshown : state.enforced
      · simp [hshown, henforced.mp hshown]
      · simp [hshown, mt henforced.mpr hshown, hreported, Exc.isCloudWard]
    | error e' =>
      obtain ⟨hnot, hreported⟩ := hr
      refine ⟨_, u', Exec.run_bind_of_error hrun, hcluster, ?_, ?_⟩
      · simp [hnot]
      · intro e'' he''
        cases he''
        exact hreported
  · split
    · next hapi =>
      have hsend := @run_send env (clearRequest ns podName) u
      cases hreply : env.request u (clearRequest ns podName) with
      | done =>
        rw [hreply] at hsend
        refine ⟨.error (.cloudWard _), _, Exec.run_bind_of_ok hsend, ?_⟩
        exact fun _ ↦ ⟨rfl, _, rfl⟩
      | refused e' =>
        rw [hreply] at hsend
        refine ⟨_, _, Exec.run_bind_of_error hsend, fun h ↦ ?_⟩
        cases h
      | lost e' =>
        rw [hreply] at hsend
        refine ⟨_, _, Exec.run_bind_of_error hsend, fun h ↦ ?_⟩
        cases h
    · exact ⟨_, _, rfl, rfl⟩

private theorem atomic_iff_of_run {r : Except Exc Unit} {w' : World}
    (h : (applyQuarantinePolicy env settings ns podName quarantineId incidentId).run w = (r, w')) :
    Atomic env settings ns podName quarantineId incidentId w ↔
      ∀ e, r = .error e → ¬ ClearFails env settings ns podName quarantineId incidentId w →
        e.isCloudWard ∧ w.cluster.Same w'.cluster := by
  unfold Atomic
  rw [h]
  constructor
  · intro hatomic e he
    exact hatomic e w' (by rw [he])
  · rintro hends e w'' hpair
    cases hpair
    exact hends e rfl

/-- After a creation that failed by `e`. -/
private theorem atomic_iff_of_uncreated (hclient : ClientErrors env)
    (hadmitted : Admitted env settings ns podName quarantineId w)
    (hpatch : patchReply env ns podName quarantineId w = .done) {e : Exc}
    (hcreate : createReply env ns podName quarantineId incidentId w = .refused e ∨
      createReply env ns podName quarantineId incidentId w = .lost e)
    (hclient_e : e.isCloudWard = false)
    (hrun : (applyQuarantinePolicy env settings ns podName quarantineId incidentId).run w =
      (onCreateFailure env settings ns podName quarantineId e).run
        (uncreated env ns podName quarantineId incidentId w)) :
    Atomic env settings ns podName quarantineId incidentId w ↔
      if e = .api 409 then
        ShownEnforced env ns podName quarantineId
            (uncreated env ns podName quarantineId incidentId w) ∨
          (ReadsReported env ns podName quarantineId
              (uncreated env ns podName quarantineId incidentId w) ∧
            w.cluster.Same (uncreated env ns podName quarantineId incidentId w).cluster)
      else
        e.isApi ∧ (clearReply env ns podName quarantineId incidentId w ≠ .done ∨
          w.cluster.Same ((uncreated env ns podName quarantineId incidentId w).cluster.apply
            (clearRequest ns podName))) := by
  obtain ⟨r, u', hfailure, houtcome⟩ := run_onCreateFailure hclient hadmitted.addressed
    hadmitted.policyName_valid e (uncreated env ns podName quarantineId incidentId w)
  rw [atomic_iff_of_run (hrun.trans hfailure)]
  by_cases hconflict : e = .api 409
  · rw [if_pos hconflict] at houtcome ⊢
    obtain ⟨hcluster, hshown, hreported⟩ := houtcome
    have hclear : ¬ ClearFails env settings ns podName quarantineId incidentId w := by
      rintro ⟨-, -, ⟨e', hcreate', -, hne⟩, -⟩
      apply hne
      rcases hcreate with h | h <;> rcases hcreate' with h' | h'
      · exact (Reply.refused.inj (h.symm.trans h')).symm.trans hconflict
      · cases h.symm.trans h'
      · cases h.symm.trans h'
      · exact (Reply.lost.inj (h.symm.trans h')).symm.trans hconflict
    cases r with
    | ok a =>
      constructor
      · exact fun _ ↦ .inl (hshown.mp rfl)
      · exact fun _ e' he' ↦ nomatch he'
    | error e' =>
      have hnot : ¬ ShownEnforced env ns podName quarantineId
          (uncreated env ns podName quarantineId incidentId w) := fun h ↦ nomatch hshown.mpr h
      constructor
      · intro h
        obtain ⟨hcloudward, hsame⟩ := h e' rfl hclear
        rw [hcluster] at hsame
        exact .inr ⟨(hreported e' rfl).mp hcloudward, hsame⟩
      · rintro (h | ⟨hreads, hsame⟩) e'' he'' _
        · exact absurd h hnot
        · cases he''
          rw [hcluster]
          exact ⟨(hreported e' rfl).mpr hreads, hsame⟩
  · rw [if_neg hconflict] at houtcome ⊢
    by_cases hapi : e.isApi
    · rw [if_pos hapi] at houtcome
      by_cases hclear : clearReply env ns podName quarantineId incidentId w = .done
      · obtain ⟨hcluster, error, rfl⟩ := houtcome hclear
        constructor
        · intro h
          obtain ⟨-, hsame⟩ := h _ rfl fun hfails ↦ hfails.failed hclear
          exact ⟨hapi, .inr (hcluster ▸ hsame)⟩
        · rintro ⟨-, h | hsame⟩ e' he' _
          · exact absurd hclear h
          · cases he'
            exact ⟨rfl, hcluster ▸ hsame⟩
      · have hfails : ClearFails env settings ns podName quarantineId incidentId w :=
          ⟨hadmitted, hpatch, ⟨e, hcreate, hapi, hconflict⟩, hclear⟩
        constructor
        · exact fun _ ↦ ⟨hapi, .inl hclear⟩
        · exact fun _ e' _ hnot ↦ absurd hfails hnot
    · rw [if_neg hapi] at houtcome
      have hclear : ¬ ClearFails env settings ns podName quarantineId incidentId w := by
        rintro ⟨-, -, ⟨e', hcreate', hapi', -⟩, -⟩
        apply hapi
        rcases hcreate with h | h <;> rcases hcreate' with h' | h'
        · exact Reply.refused.inj (h.symm.trans h') ▸ hapi'
        · cases h.symm.trans h'
        · cases h.symm.trans h'
        · exact Reply.lost.inj (h.symm.trans h') ▸ hapi'
      constructor
      · intro h
        have hcloudward := (h e houtcome hclear).1
        rw [hclient_e] at hcloudward
        cases hcloudward
      · exact fun h ↦ absurd h.1 hapi

/-- A call that the guards let pass fails atomically if its patch is done and its creation is
recovered from. -/
private theorem atomic_iff_of_admitted (hclient : ClientErrors env)
    (hadmitted : Admitted env settings ns podName quarantineId w) :
    Atomic env settings ns podName quarantineId incidentId w ↔
      patchReply env ns podName quarantineId w = .done ∧
        CreateRecoverable env ns podName quarantineId incidentId w := by
  have hrun := @run_of_admitted env settings ns podName quarantineId incidentId w hadmitted
  have hsend := @run_send env (labelRequest ns podName quarantineId) (w.later 1)
  have hcreate := @run_send env (policyRequest ns podName quarantineId incidentId)
    (labelled ns podName quarantineId w)
  have hfailed {e : Exc} {w' : World} (he : e.isCloudWard = false)
      (hnot : patchReply env ns podName quarantineId w ≠ .done)
      (hrun : (applyQuarantinePolicy env settings ns podName quarantineId incidentId).run w =
        (.error e, w')) :
      ¬ Atomic env settings ns podName quarantineId incidentId w := by
    rw [atomic_iff_of_run hrun]
    intro h
    have hcloudward := (h e rfl fun hclear ↦ hnot hclear.patched).1
    rw [he] at hcloudward
    cases hcloudward
  cases hpatch : patchReply env ns podName quarantineId w with
  | refused e =>
    rw [show env.request (w.later 1) (labelRequest ns podName quarantineId) = _ from hpatch] at hsend
    rw [Exec.run_bind_of_error hsend] at hrun
    exact iff_of_false (hfailed (hclient.refused _ _ _ hpatch) (by simp [hpatch]) hrun) (by simp)
  | lost e =>
    rw [show env.request (w.later 1) (labelRequest ns podName quarantineId) = _ from hpatch] at hsend
    rw [Exec.run_bind_of_error hsend] at hrun
    exact iff_of_false (hfailed (hclient.lost _ _ _ hpatch) (by simp [hpatch]) hrun) (by simp)
  | done =>
    rw [show env.request (w.later 1) (labelRequest ns podName quarantineId) = _ from hpatch] at hsend
    rw [Exec.run_bind_of_ok hsend] at hrun
    unfold CreateRecoverable
    cases hreply : createReply env ns podName quarantineId incidentId w with
    | done =>
      rw [show env.request (labelled ns podName quarantineId w)
        (policyRequest ns podName quarantineId incidentId) = _ from hreply] at hcreate
      rw [atomic_iff_of_run (hrun.trans (Exec.run_tryCatch_of_ok hcreate))]
      simp
    | refused e =>
      have huncreated : uncreated env ns podName quarantineId incidentId w =
          (labelled ns podName quarantineId w).later 1 := by
        unfold uncreated
        rw [hreply]
      rw [show env.request (labelled ns podName quarantineId w)
        (policyRequest ns podName quarantineId incidentId) = _ from hreply] at hcreate
      rw [atomic_iff_of_uncreated hclient hadmitted hpatch (.inl hreply)
        (hclient.refused _ _ _ hreply)
        (huncreated ▸ hrun.trans (Exec.run_tryCatch_of_error hcreate))]
      have hlabelled : w.cluster.Same (uncreated env ns podName quarantineId incidentId w).cluster ↔
          Carries ns podName w (some quarantineId) := by
        rw [huncreated]
        exact same_patched_iff rfl (label?_apply_patch _)
      have hcleared : w.cluster.Same ((uncreated env ns podName quarantineId incidentId
          w).cluster.apply (clearRequest ns podName)) ↔ Carries ns podName w none := by
        rw [huncreated]
        exact same_patched_iff rfl (label?_patch_patch _ _)
      rw [hlabelled, hcleared]
      simp
    | lost e =>
      have huncreated : uncreated env ns podName quarantineId incidentId w =
          ((labelled ns podName quarantineId w).later 1).mutated
            (policyRequest ns podName quarantineId incidentId) := by
        unfold uncreated
        rw [hreply]
      rw [show env.request (labelled ns podName quarantineId w)
        (policyRequest ns podName quarantineId incidentId) = _ from hreply] at hcreate
      rw [atomic_iff_of_uncreated hclient hadmitted hpatch (.inr hreply)
        (hclient.lost _ _ _ hreply)
        (huncreated ▸ hrun.trans (Exec.run_tryCatch_of_error hcreate))]
      have hlabelled : ¬ w.cluster.Same
          (uncreated env ns podName quarantineId incidentId w).cluster := by
        rw [huncreated]
        exact not_same_of_created rfl
      have hcleared : ¬ w.cluster.Same ((uncreated env ns podName quarantineId incidentId
          w).cluster.apply (clearRequest ns podName)) := by
        rw [huncreated]
        exact not_same_of_created rfl
      simp [hlabelled, hcleared]

/-- **Atomic on error.** A quarantine that raises leaves the cluster the same and raises a
`CloudWardError`, if and only if its patch does not fail, a conflict finds the label of the pod as
it was or the policy enforced, and any other failed creation finds the pod without a label. -/
theorem atomic_iff_recoverable (hclient : ClientErrors env) :
    Atomic env settings ns podName quarantineId incidentId w ↔
      Recoverable env settings ns podName quarantineId incidentId w := by
  by_cases hadmitted : Admitted env settings ns podName quarantineId w
  · rw [atomic_iff_of_admitted hclient hadmitted]
    constructor
    · refine fun h ↦ ⟨?_, fun _ ↦ h⟩
      intro _ e he
      obtain ⟨pod, hread, -⟩ := hadmitted.live
      rw [hread] at he
      cases he
    · exact fun h ↦ h.patched hadmitted
  · obtain ⟨e, w', hrun, hcluster, hreport⟩ :=
      @run_of_not_admitted env settings ns podName quarantineId incidentId w hclient hadmitted
    rw [atomic_iff_of_run hrun]
    constructor
    · intro hatomic
      have hclear : ¬ ClearFails env settings ns podName quarantineId incidentId w :=
        fun h ↦ hadmitted h.admitted
      exact ⟨hreport.mp (hatomic e rfl hclear).1, fun h ↦ absurd h hadmitted⟩
    · intro hrecoverable e' he' _
      cases he'
      refine ⟨hreport.mpr hrecoverable.reported, ?_⟩
      rw [hcluster]
      exact ⟨rfl, fun _ _ _ ↦ rfl⟩

end Failure

/-! ### Examples -/

/-- An API server that does not create the policy. -/
def uncreating : Env :=
  { calm with
    readPod := fun w ns name ↦ (w.cluster.pod? ns name).elim (.error (.api 404)) .ok
    request := fun _ m ↦ match m with
      | .createPolicy _ => .refused (.api 500)
      | _ => .done }

private theorem clientErrors_uncreating : ClientErrors uncreating where
  readPod w ns name e h := by
    simp only [uncreating] at h
    cases hpod : w.cluster.pod? ns name with
    | none =>
      rw [hpod] at h
      cases h
      rfl
    | some pod =>
      rw [hpod] at h
      cases h
  readPolicy w ns name e h := by
    cases h
    rfl
  refused w m e h := by
    cases m with
    | createPolicy policy =>
      cases h
      rfl
    | _ => cases h
  lost w m e h := by
    cases m with
    | _ => cases h

/-- A demo pod. -/
def freePod : World := start {} { pods := [makePod "demo" true] }

/-- The demo pod with the label of another event. -/
def takenPod : World :=
  start {} { pods := [{ makePod "demo" true with
    labels := (makePod "demo" true).labels.insert quarantineLabel "fedcba987654" }] }

private theorem admitted_uncreating {w : World} {pod : PodState}
    (hpod : w.cluster.pod? "cloudward-staging" "demo" = some pod)
    (hdemo : isDemoTarget pod.labels) (hmanaged : pod.controllerManaged) :
    Admitted uncreating .standard "cloudward-staging" "demo" "0123456789ab" w where
  addressed := ⟨by decide, by decide, rfl, by decide, by decide⟩
  live := ⟨pod, by simp only [uncreating, hpod, Option.elim_some], hdemo, hmanaged⟩
  policyName_valid := by decide

theorem atomic_freePod :
    Atomic uncreating .standard "cloudward-staging" "demo" "0123456789ab" "incident" freePod := by
  refine (atomic_iff_recoverable clientErrors_uncreating).mpr ⟨?_, fun _ ↦ ⟨rfl, rfl, .inr ?_⟩⟩
  · intro _ e he
    cases he
  · intro pod hpod
    cases hpod
    rfl

/-- The label of another event is lost. -/
theorem not_atomic_takenPod :
    ¬ Atomic uncreating .standard "cloudward-staging" "demo" "0123456789ab" "incident"
      takenPod := by
  rw [atomic_iff_of_admitted clientErrors_uncreating (admitted_uncreating rfl rfl rfl)]
  rintro ⟨-, -, h | h⟩
  · exact h rfl
  · cases h _ rfl

end CloudWard.Kubernetes
