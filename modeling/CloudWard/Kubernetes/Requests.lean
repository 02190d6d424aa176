import CloudWard.Kubernetes.Executor

/-!
# What the executor's requests leave in the trace

Each typed mutation of `kubernetes/executor.py` adds at most its own request to the trace;
a pod deletion first adds that it was called.
-/

namespace CloudWard.Kubernetes

open CloudWard.Logic Service

/-- A request adds at most itself. -/
theorem emits_send (env : Env) (m : Mutation) :
    Exec.Emits World.trace (· = .mutated m) (send env m) := by
  have heffect : Exec.Emits World.trace (· = Event.mutated m) (effect m) := by
    intro w
    exact ⟨[.mutated m], rfl, by simp⟩
  apply Exec.emits_bind (frames_ask _ fun _ _ ↦ rfl).emits
  intro reply
  cases reply with
  | done => exact heffect
  | refused e => exact (Exec.frames_throw e).emits
  | lost e => exact Exec.emits_bind heffect fun _ ↦ (Exec.frames_throw e).emits

/-- A wrapped program adds what it adds unwrapped. -/
theorem emits_wrapping {p : Event → Prop} {α : Type} {x : Service α} (error : CloudWardError)
    (hx : Exec.Emits World.trace p x) : Exec.Emits World.trace p (wrapping error x) :=
  Exec.emits_tryCatch hx fun _ ↦ (Exec.frames_throw _).emits

private theorem frames_trace_getPodHealth (env : Env) (ns name : String) :
    Exec.Frames World.trace (getPodHealth env ns name) :=
  frames_getPodHealth (fun _ _ ↦ rfl) env ns name

/-- A deletion adds its call and then, only for a valid name, at most its effect. -/
theorem deletePod_adds (env : Env) (settings : Settings) (ns name : String) (w : World) :
    ∃ added, ((deletePod env settings ns name).run w).2.trace =
        added ++ .deletePodCalled ns name :: w.trace ∧
      ∀ e ∈ added, e = .mutated (.deletePod ns name) ∧ validName name := by
  have hrest : Exec.Emits World.trace
      (fun e ↦ e = .mutated (.deletePod ns name) ∧ validName name)
      (do
        requireNamespace settings ns
        let pod ← getPodHealth env ns name
        Service.require (isDemoTarget pod.labels)
          (targetDenied "Pod is not labeled as a CloudWard demo target")
        Service.require (pod.controllerManaged ∧ pod.controllerKind = some "ReplicaSet")
          (targetDenied "Pod is not managed by a ReplicaSet controller")
        Service.require (¬ pod.ready)
          ⟨"KUBERNETES_TARGET_HEALTHY", "Refusing to delete a ready pod", 409⟩
        wrapping (actionFailed "Kubernetes rejected the typed pod deletion")
          (send env (.deletePod ns name))) := by
    apply Exec.emits_bind (frames_requireNamespace settings ns).emits
    intro _
    by_cases hname : validName name
    · apply Exec.emits_bind (frames_trace_getPodHealth env ns name).emits
      intro pod
      apply Exec.emits_bind (Exec.frames_require _ _).emits
      intro _
      apply Exec.emits_bind (Exec.frames_require _ _).emits
      intro _
      apply Exec.emits_bind (Exec.frames_require _ _).emits
      intro _
      exact emits_wrapping _ ((emits_send env _).mono fun e he ↦ ⟨he, hname⟩)
    · -- the read refuses the name, so nothing after it runs
      intro w
      have hstop : ∃ e, (getPodHealth env ns name).run w = (.error e, w) := by
        by_cases hns : validName ns
        · exact ⟨_, by simp [getPodHealth, validateName, Service.require, Exec.require, hns,
            hname, Exec.run_bind]; rfl⟩
        · exact ⟨_, by simp [getPodHealth, validateName, Service.require, Exec.require, hns,
            Exec.run_bind]; rfl⟩
      obtain ⟨e, he⟩ := hstop
      exact ⟨[], by rw [Exec.run_bind_of_error he]; rfl, by simp⟩
  exact hrest { w with trace := .deletePodCalled ns name :: w.trace }

/-- What a deletion may add. -/
theorem emits_deletePod (env : Env) (settings : Settings) (ns name : String) :
    Exec.Emits World.trace
      (fun e ↦ e = .deletePodCalled ns name ∨
        (e = .mutated (.deletePod ns name) ∧ validName name))
      (deletePod env settings ns name) := by
  intro w
  obtain ⟨added, heq, hall⟩ := deletePod_adds env settings ns name w
  refine ⟨added ++ [.deletePodCalled ns name], ?_, ?_⟩
  · rw [heq, List.append_assoc, List.singleton_append]
  · intro e he
    rcases List.mem_append.mp he with he | he
    · exact .inr (hall e he)
    · exact .inl (List.mem_singleton.mp he)

/-- A scale request adds at most itself. -/
theorem emits_scaleStagingDeployment (env : Env) (settings : Settings) (ns name : String)
    (replicas maximum : Nat) (expected : Option Nat) :
    Exec.Emits World.trace (· = .mutated (.patchScale ns name replicas))
      (scaleStagingDeployment env settings ns name replicas maximum expected) := by
  apply Exec.emits_bind (frames_requireNamespace settings ns).emits
  intro _
  apply Exec.emits_bind (frames_validateName _ _).emits
  intro _
  apply Exec.emits_bind (Exec.frames_require _ _).emits
  intro _
  apply Exec.emits_bind (Exec.frames_require _ _).emits
  intro _
  apply Exec.emits_bind (frames_wrapping _ (frames_call _ fun _ _ ↦ rfl)).emits
  intro deployment
  apply Exec.emits_bind (Exec.frames_require _ _).emits
  intro _
  apply Exec.emits_bind (Exec.frames_require _ _).emits
  intro _
  apply Exec.emits_bind (emits_wrapping _ (emits_send env _))
  intro _
  exact (Exec.frames_pure _).emits

end CloudWard.Kubernetes
