import CloudWard.Base.World

/-!
# The local GitOps image writer

`remediation/gitops.py`: one YAML field of one fixed repository is moved from the
controlled bad tag to the known good one and pushed. The Git work up to reading the tag is
one call of the environment, the commit and push are one request; a push whose revision is
not visible afterwards took effect all the same.
-/

namespace CloudWard.Remediation

open CloudWard.Logic Service

/-- `KNOWN_GOOD_TAG`, `remediation/gitops.py:22`. -/
def knownGoodTag : String := "local"

/-- `CONTROLLED_BAD_TAG`, `remediation/gitops.py:23`. -/
def controlledBadTag : String := "local-bad"

/-- `LOCAL_REPOSITORY_URL`, `remediation/gitops.py:19`. -/
def localRepositoryUrl : String := "git://host.docker.internal:19418/cloudward-gitops.git"

/-- `LocalGitOpsImageWriter.require_available`, `remediation/gitops.py:56`. -/
def requireAvailable (settings : Settings) : Service Unit := do
  require settings.localGitopsWriteEnabled
    ⟨"LOCAL_GITOPS_WRITER_DISABLED", "The typed local GitOps writer is disabled", 503⟩
  require (settings.appEnv ∈ ["development", "test"])
    ⟨"LOCAL_GITOPS_WRITER_DENIED",
      "The local GitOps writer is forbidden outside local/test", 403⟩
  require (settings.localGitopsRepoUrl = localRepositoryUrl)
    ⟨"LOCAL_GITOPS_REPOSITORY_DENIED",
      "Only the fixed ephemeral CloudWard demo repository is allowed", 403⟩

/-- `LocalGitOpsImageWriter.revert_to_known_good`, `remediation/gitops.py:85`. -/
def revertToKnownGood (env : Env) (settings : Settings) : Service Unit := do
  requireAvailable settings
  let tag ← call env.readImageTag
  require (tag ∈ [controlledBadTag, knownGoodTag])
    ⟨"STALE_GITOPS_TARGET",
      "The current image tag is outside the recorded R1 transition", 409⟩
  Exec.when (tag ≠ knownGoodTag) (send env (.pushImageTag knownGoodTag))

end CloudWard.Remediation
