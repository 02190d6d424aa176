import CloudWard.Kubernetes.Executor

/-!
# The verification engine

`verification/engine.py`: three checks of the cluster, repeated until they all pass or the
deadline is over. Every exception of a check is a failed check, so a verification always
returns; the exception's class name in a failed check's detail is left out.
-/

namespace CloudWard.Verification

open CloudWard.Db CloudWard.Kubernetes CloudWard.Logic Service

/-- `VerificationCheck`, `verification/engine.py:24`. -/
structure VerificationCheck where
  type : String
  expected : JsonValue
  actual : JsonValue := .null
  passed : Bool
deriving DecidableEq

/-- `VerificationResult`, `verification/engine.py:33`. -/
structure VerificationResult where
  success : Bool
  checks : List VerificationCheck
  attempts : Nat
deriving DecidableEq

/-- What a verification is about: the arguments of `check_once`. -/
structure Subject where
  ns : String
  deployment : String
  labelSelector : String
  expectedReplicas : Nat
  serviceName : String
  healthPath : String

/-- A check that a raised exception fails. -/
def failed (type : String) (subject : Subject) : VerificationCheck where
  type := type
  expected := .int subject.expectedReplicas
  passed := false

/-- A count compared with the expected replicas. -/
def counted (type : String) (subject : Subject) (actual : Nat) : VerificationCheck where
  type := type
  expected := .int subject.expectedReplicas
  actual := .int actual
  passed := actual = subject.expectedReplicas

/-- The checks of the first `try` of `check_once`, `verification/engine.py:58`: those made
before it raised stay, and two failed ones follow. -/
def reconciliationChecks (env : Env) (subject : Subject) : Service (List VerificationCheck) :=
  let lost := [failed "ready_replicas" subject, failed "pod_readiness" subject]
  tryCatch
    (do
      let deployment ← getDeployment env subject.ns subject.deployment
      let replicas := counted "ready_replicas" subject deployment.readyReplicas
      tryCatch
        (do
          let pods ← getPods env subject.ns subject.labelSelector
          let ready := (pods.filter (·.ready)).length
          return [replicas, counted "pod_readiness" subject ready])
        fun _ ↦ pure (replicas :: lost))
    fun _ ↦ pure lost

/-- The check of the second `try` of `check_once`, `verification/engine.py:94`. -/
def healthCheck (env : Env) (subject : Subject) : Service VerificationCheck :=
  tryCatch
    (do
      let health ← getServiceHealth env subject.ns subject.serviceName subject.healthPath
      return {
        type := "health_endpoint"
        expected := .str "healthy"
        actual := .str (if health.healthy then "healthy" else "unhealthy")
        passed := health.healthy })
    fun _ ↦ pure { type := "health_endpoint", expected := .str "healthy", passed := false }

/-- `VerificationEngine.check_once`, `verification/engine.py:47`. -/
def checkOnce (env : Env) (subject : Subject) : Service VerificationResult := do
  let reconciliation ← reconciliationChecks env subject
  let health ← healthCheck env subject
  let checks := reconciliation ++ [health]
  return { success := checks.all (·.passed), checks, attempts := 1 }

/-- The loop of `verify_until`, with the polls that are left before its deadline. -/
def poll (env : Env) (subject : Subject) : (left : Nat) → (attempts : Nat) →
    Service VerificationResult
  | 0, attempts => do
      let last ← checkOnce env subject
      return { last with attempts := attempts + 1 }
  | left + 1, attempts => do
      let last ← checkOnce env subject
      if last.success then return { last with attempts := attempts + 1 }
      else poll env subject left (attempts + 1)

/-- `VerificationEngine.verify_until`, `verification/engine.py:117`. -/
def verifyUntil (env : Env) (subject : Subject) : Service VerificationResult := do
  let left ← ask env.polls
  poll env subject left 0

/-! ### Verifying only reads, and always returns -/

section Frames

variable {ω : Type} {f : World → ω} (htick : ∀ w n, f { w with tick := n } = f w)
include htick

theorem frames_checkOnce (env : Env) (subject : Subject) :
    Exec.Frames f (checkOnce env subject) := by
  apply Exec.frames_bind
  · apply Exec.frames_tryCatch
    · apply Exec.frames_bind (frames_getDeployment htick env _ _)
      intro deployment
      apply Exec.frames_tryCatch
      · exact Exec.frames_bind (frames_getPods htick env _ _) fun _ ↦ Exec.frames_pure _
      · exact fun _ ↦ Exec.frames_pure _
    · exact fun _ ↦ Exec.frames_pure _
  intro reconciliation
  apply Exec.frames_bind
  · apply Exec.frames_tryCatch
    · exact Exec.frames_bind (frames_getServiceHealth htick env _ _ _) fun _ ↦
        Exec.frames_pure _
    · exact fun _ ↦ Exec.frames_pure _
  exact fun _ ↦ Exec.frames_pure _

theorem frames_poll (env : Env) (subject : Subject) (left attempts : Nat) :
    Exec.Frames f (poll env subject left attempts) := by
  induction left generalizing attempts with
  | zero =>
    exact Exec.frames_bind (frames_checkOnce htick env subject) fun _ ↦ Exec.frames_pure _
  | succ left ih =>
    apply Exec.frames_bind (frames_checkOnce htick env subject)
    intro last
    exact Exec.frames_ite (Exec.frames_pure _) (ih (attempts + 1))

theorem frames_verifyUntil (env : Env) (subject : Subject) :
    Exec.Frames f (verifyUntil env subject) :=
  Exec.frames_bind (frames_ask _ htick) fun left ↦ frames_poll htick env subject left 0

end Frames

end CloudWard.Verification
