import CloudWard.Base.Errors
import CloudWard.Rbac.Policy

/-!
# Action registry

`remediation/actions.py`: the allowlist of action types and their immutable metadata.
Actions that arrive as text (the manual and AI routes) are not modelled here, so
`UNKNOWN_ACTION` cannot arise and the lookup is total.
-/

namespace CloudWard

/-- `Environment`, `db/models.py:43`. -/
inductive Environment
  | local
  | staging
  | production
deriving DecidableEq, Repr

/-- The enum's string value. -/
def Environment.value : Environment → String
  | .local => "local"
  | .staging => "staging"
  | .production => "production"

end CloudWard

namespace CloudWard.Remediation

open CloudWard.Rbac (Permission)

/-- `ActionType`, `remediation/actions.py:12`. -/
inductive ActionType
  | deleteUnhealthyPod
  | restartPod
  | scaleStagingDeployment
  | scaleWorkload
  | revertImage
  | rollbackDeployment
  | applyQuarantine
  | quarantineWorkload
  | removeQuarantine
  | createGitopsPr
  | createTerraformPr
  | createGithubIssue
  | requestApproval
  | noAction
deriving DecidableEq, Repr

/-- The enum's string value. -/
def ActionType.value : ActionType → String
  | .deleteUnhealthyPod => "DELETE_UNHEALTHY_POD"
  | .restartPod => "RESTART_POD"
  | .scaleStagingDeployment => "SCALE_STAGING_DEPLOYMENT"
  | .scaleWorkload => "SCALE_WORKLOAD"
  | .revertImage => "REVERT_IMAGE"
  | .rollbackDeployment => "ROLLBACK_DEPLOYMENT"
  | .applyQuarantine => "APPLY_QUARANTINE"
  | .quarantineWorkload => "QUARANTINE_WORKLOAD"
  | .removeQuarantine => "REMOVE_QUARANTINE"
  | .createGitopsPr => "CREATE_GITOPS_PR"
  | .createTerraformPr => "CREATE_TERRAFORM_PR"
  | .createGithubIssue => "CREATE_GITHUB_ISSUE"
  | .requestApproval => "REQUEST_APPROVAL"
  | .noAction => "NO_ACTION"

/-- `VerificationStrategy`, `remediation/actions.py:29`. -/
inductive VerificationStrategy
  | none
  | kubernetesAndHttp
  | deploymentRollout
  | policyState
  | externalRecord
deriving DecidableEq, Repr

/-- `ActionMetadata`, `remediation/actions.py:38`. -/
structure ActionMetadata where
  actionType : ActionType
  reversible : Bool
  persistent : Bool
  allowedEnvironments : List Environment
  requiredPermission : Permission
  verificationStrategy : VerificationStrategy
  rollbackCapable : Bool
  implemented : Bool := false
deriving DecidableEq, Repr

private def anywhere : List Environment := [.local, .staging, .production]

private def rehearsal : List Environment := [.local, .staging]

/-- `ACTION_REGISTRY`, `remediation/actions.py:50`, read through `get_action_metadata`. -/
def getActionMetadata : ActionType → ActionMetadata
  | .deleteUnhealthyPod =>
      ⟨.deleteUnhealthyPod, true, false, rehearsal, .demoTrigger, .kubernetesAndHttp, false, true⟩
  | .restartPod =>
      ⟨.restartPod, true, false, anywhere, .demoTrigger, .kubernetesAndHttp, false, true⟩
  | .scaleStagingDeployment =>
      ⟨.scaleStagingDeployment, true, false, rehearsal, .actionApproveStandard,
        .deploymentRollout, true, true⟩
  | .scaleWorkload =>
      ⟨.scaleWorkload, true, false, anywhere, .actionApproveStandard, .deploymentRollout,
        true, true⟩
  | .revertImage =>
      ⟨.revertImage, true, true, anywhere, .actionApproveHigherRisk, .deploymentRollout,
        true, true⟩
  | .rollbackDeployment =>
      ⟨.rollbackDeployment, true, true, anywhere, .actionApproveHigherRisk,
        .deploymentRollout, true, true⟩
  | .applyQuarantine =>
      ⟨.applyQuarantine, true, false, anywhere, .actionApproveHigherRisk, .policyState,
        true, true⟩
  | .quarantineWorkload =>
      ⟨.quarantineWorkload, true, false, anywhere, .actionApproveHigherRisk, .policyState,
        true, true⟩
  | .removeQuarantine =>
      ⟨.removeQuarantine, true, false, anywhere, .actionApproveHigherRisk, .policyState,
        true, true⟩
  | .createGitopsPr =>
      ⟨.createGitopsPr, true, true, anywhere, .actionApproveStandard, .externalRecord,
        true, false⟩
  | .createTerraformPr =>
      ⟨.createTerraformPr, true, true, anywhere, .actionApproveHigherRisk, .externalRecord,
        true, false⟩
  | .createGithubIssue =>
      ⟨.createGithubIssue, true, true, anywhere, .actionApproveStandard, .externalRecord,
        true, false⟩
  | .requestApproval =>
      ⟨.requestApproval, true, false, anywhere, .actionApproveStandard, .none, false, false⟩
  | .noAction => ⟨.noAction, true, false, anywhere, .platformRead, .none, false, true⟩

/-- `require_executable_action`, `remediation/actions.py:197`. -/
def requireExecutableAction (action : ActionType) (environment : Environment) :
    Except Exc ActionMetadata :=
  let metadata := getActionMetadata action
  if environment ∉ metadata.allowedEnvironments then
    .error <| .cloudWard
      { code := "ACTION_ENVIRONMENT_DENIED"
        message := metadata.actionType.value ++ " is not allowed in " ++ environment.value
        statusCode := 403 }
  else if ¬ metadata.implemented then
    .error <| .cloudWard
      { code := "ACTION_NOT_IMPLEMENTED"
        message := metadata.actionType.value
          ++ " is registered but not executable in Part 1"
        statusCode := 501 }
  else .ok metadata

/-- Every registry entry is filed under its own action. -/
theorem actionType_getActionMetadata (action : ActionType) :
    (getActionMetadata action).actionType = action := by
  cases action <;> rfl

/-- Every registered action is declared reversible. -/
theorem reversible_getActionMetadata (action : ActionType) :
    (getActionMetadata action).reversible = true := by
  cases action <;> rfl

/-- An action is executable exactly when it is allowed there and implemented. -/
theorem requireExecutableAction_eq_ok {action : ActionType} {environment : Environment}
    {metadata : ActionMetadata} :
    requireExecutableAction action environment = .ok metadata ↔
      environment ∈ (getActionMetadata action).allowedEnvironments ∧
        (getActionMetadata action).implemented ∧ metadata = getActionMetadata action := by
  unfold requireExecutableAction
  by_cases he : environment ∈ (getActionMetadata action).allowedEnvironments
  · by_cases hi : (getActionMetadata action).implemented
    · simp [he, hi, eq_comm]
    · simp [he, hi]
  · simp [he]

/-- A refused action is a `CloudWardError`. -/
theorem isCloudWard_of_requireExecutableAction {action : ActionType}
    {environment : Environment} {e : Exc}
    (h : requireExecutableAction action environment = .error e) : e.isCloudWard := by
  simp only [requireExecutableAction] at h
  split at h
  · cases h
    rfl
  · split at h
    · cases h
      rfl
    · cases h

end CloudWard.Remediation
