import CloudWard.Base.Utf8
import CloudWard.Base.Uuid
import CloudWard.Finops.Values
import CloudWard.Logic.Branches
import CloudWard.Remediation.Gitops

/-!
# The image writer and its repository

`LocalGitOpsImageWriter` of `remediation/gitops.py:47` with its Git commands: clone the branch, put
another tag into the values file, commit, push, and look whether the branch is there. Several
processes write, and others push to the branch; `_writer_lock` orders the writes of one process,
and here any writes interleave. A command fails, is not started, or is killed at its time limit,
and a push that was killed or failed may have been taken. The YAML library is given.
-/

namespace CloudWard.Remediation.Writer

open CloudWard.Logic CloudWard.Logic.Branches CloudWard.Logic.Interleave Python
open CloudWard.Finops (Scalar Values Yaml dict?)

/-! ### The repository -/

/-- The values file of a tree: a file, or a link, perhaps to a file of the tree. -/
inductive ValuesFile
  | regular (bytes : List UInt8)
  | link (target : Option (List UInt8))
deriving DecidableEq

/-- The files of a commit: the values file, if it is there, and the others. -/
structure Tree where
  values : Option ValuesFile
  others : List (String × List UInt8)
deriving DecidableEq

/-- A commit, less its parent. -/
structure Commit where
  tree : Tree
  author : String
  message : String
  time : Nat
deriving DecidableEq

/-! ### Operations -/

/-- `GitOpsImageOperation`, `remediation/gitops.py:27`. -/
inductive GitOpsImageOperation
  | deployControlledBad
  | revertToKnownGood
  | approvedRollback
deriving DecidableEq

/-- The value of an operation. -/
def GitOpsImageOperation.text : GitOpsImageOperation → String
  | .deployControlledBad => "DEPLOY_CONTROLLED_BAD"
  | .revertToKnownGood => "REVERT_TO_KNOWN_GOOD"
  | .approvedRollback => "APPROVED_ROLLBACK"

/-- A call of one of the public methods, `remediation/gitops.py:76`. -/
inductive Call
  | deployControlledBad (executionId : Uuid)
  | revertToKnownGood (incidentId : Uuid)
  | ensureKnownGood (executionId : Uuid)
  | approvedRollback (incidentId : Uuid) (recordedPreviousTag : String) (approved : Bool)

/-- The arguments of `_write`, `remediation/gitops.py:120`. -/
structure Plan where
  operation : GitOpsImageOperation
  expectedTags : List String
  targetTag : String
  auditReference : String

/-- `GitOpsImageWriteResult`, `remediation/gitops.py:33`, less the fields that never change. -/
structure GitOpsImageWriteResult where
  operation : GitOpsImageOperation
  previousTag : String
  targetTag : String
  previousRevision : Revision Commit
  revision : Revision Commit
  changed : Bool

/-- What a call ends with instead of a result. -/
inductive Failure
  | cloudWard (error : CloudWardError)
  /-- `UnicodeDecodeError`, or an exception of `yaml.safe_load` that is no `YAMLError`. -/
  | value
  /-- `OSError`, where a command is not started or the file not written. -/
  | os

/-- The plan of a call, or the refusal of a rollback that was not approved. -/
def Call.plan : Call → Except Failure Plan
  | .deployControlledBad executionId =>
    .ok ⟨.deployControlledBad, [knownGoodTag, controlledBadTag], controlledBadTag,
      "scenario-" ++ executionId.text⟩
  | .revertToKnownGood incidentId =>
    .ok ⟨.revertToKnownGood, [controlledBadTag, knownGoodTag], knownGoodTag,
      "incident-" ++ incidentId.text⟩
  | .ensureKnownGood executionId =>
    .ok ⟨.revertToKnownGood, [controlledBadTag, knownGoodTag], knownGoodTag,
      "cleanup-" ++ executionId.text⟩
  | .approvedRollback incidentId recordedPreviousTag approved =>
    if approved = false ∨ recordedPreviousTag ≠ controlledBadTag then
      .error (.cloudWard ⟨"GITOPS_ROLLBACK_APPROVAL_REQUIRED",
        "A persistent image rollback requires explicit approval and the recorded prior tag", 403⟩)
    else
      .ok ⟨.approvedRollback, [knownGoodTag], controlledBadTag,
        "approved-rollback-" ++ incidentId.text⟩

/-- `require_available`, `remediation/gitops.py:56`. -/
def available (settings : Settings) : Except Failure Unit :=
  if ¬ settings.localGitopsWriteEnabled then
    .error (.cloudWard
      ⟨"LOCAL_GITOPS_WRITER_DISABLED", "The typed local GitOps writer is disabled", 503⟩)
  else if settings.appEnv ∉ ["development", "test"] then
    .error (.cloudWard ⟨"LOCAL_GITOPS_WRITER_DENIED",
      "The local GitOps writer is forbidden outside local/test", 403⟩)
  else if settings.localGitopsRepoUrl ≠ localRepositoryUrl then
    .error (.cloudWard ⟨"LOCAL_GITOPS_REPOSITORY_DENIED",
      "Only the fixed ephemeral CloudWard demo repository is allowed", 403⟩)
  else .ok ()

/-! ### The values file -/

/-- `newline=None`. -/
def universalNewlines : List Char → List Char
  | '\r' :: '\n' :: rest => '\n' :: universalNewlines rest
  | '\r' :: rest => '\n' :: universalNewlines rest
  | c :: rest => c :: universalNewlines rest
  | [] => []

/-- `path.read_text(encoding="utf-8")`. -/
def readText (bytes : List UInt8) : Option String :=
  let text := decodeReplace bytes
  if encode text = bytes then some (String.ofList (universalNewlines text.toList)) else none

/-- The path of the image. -/
def imagePath : List (Step Scalar) := [.key (.str "cloudward-demo"), .key (.str "image")]

/-- The values with the address and the entries of the image, and its tag. -/
structure Image where
  document : Values
  address : Nat
  entries : List (Scalar × Document.Part Scalar)
  tag : String

/-- `INVALID_GITOPS_VALUES`. -/
def invalidValues (message : String) : Failure :=
  .cloudWard ⟨"INVALID_GITOPS_VALUES", message, 409⟩

/-- `_load_values`, `remediation/gitops.py:211`. -/
def loadValues (yaml : Yaml) (bytes : List UInt8) : Except Failure Image :=
  match readText bytes with
  | none => .error .value
  | some text =>
    match yaml.safeLoad text with
    | .error .yamlError =>
      .error (invalidValues "The fixed CloudWard values document has an invalid shape")
    | .error .other => .error .value
    | .ok document =>
      match dict? document (document.find imagePath) with
      | none => .error (invalidValues "The fixed CloudWard values document has an invalid shape")
      | some (address, entries) =>
        match entries.lookup (.str "tag") with
        | none =>
          .error (invalidValues "The fixed CloudWard values document has an invalid shape")
        | some (.scalar (.str tag)) => .ok ⟨document, address, entries, tag⟩
        | some _ => .error (invalidValues "The fixed CloudWard image tag is invalid")

/-- The values with another tag, `remediation/gitops.py:172`. -/
def Image.retagged (image : Image) (tag : String) : Values :=
  image.document.put image.address (assign image.entries (.str "tag") (.scalar (.str tag)))

/-! ### Git -/

/-- The end of a command. -/
inductive CommandEnd
  | exited
  | failed
  | timedOut
  | unstarted

/-- What happens in a call. -/
structure Answers where
  clone : CommandEnd := .exited
  revParse : CommandEnd := .exited
  /-- The file is written. -/
  written : Bool := true
  add : CommandEnd := .exited
  commit : CommandEnd := .exited
  /-- The time of the commit. -/
  time : Nat := 0
  revision : CommandEnd := .exited
  push : CommandEnd := .exited
  /-- A push that failed or was killed was taken. -/
  taken : Bool := false
  lsRemote : CommandEnd := .exited

/-- `GITOPS_OPERATION_FAILED`, `remediation/gitops.py:284`. -/
def operationFailed : Failure :=
  .cloudWard ⟨"GITOPS_OPERATION_FAILED", "The fixed local Git operation failed", 502⟩

/-- `_git`, `remediation/gitops.py:256`. -/
def git : CommandEnd → Except Failure Unit
  | .exited => .ok ()
  | .failed => .error operationFailed
  | .timedOut => .error (.cloudWard
      ⟨"GITOPS_OPERATION_TIMEOUT", "The bounded local GitOps operation timed out", 504⟩)
  | .unstarted => .error .os

/-- `git clone`, of a branch that is there. -/
def cloned (answers : Answers) (head : Revision Commit) :
    Except Failure (Commit × Revision Commit) := do
  git answers.clone
  match head with
  | [] => .error operationFailed
  | commit :: below => .ok (commit, below)

/-- What `values_path` leads to, `remediation/gitops.py:145`. -/
def ValuesFile.resolved : Option ValuesFile → Except Failure (List UInt8)
  | some (.regular bytes) => .ok bytes
  | some (.link (some bytes)) => .ok bytes
  | _ => .error (.cloudWard
      ⟨"GITOPS_VALUES_PATH_INVALID", "The fixed CloudWard local values file is unavailable", 409⟩)

/-- `STALE_GITOPS_TARGET`, `remediation/gitops.py:155`. -/
def staleTarget : Failure :=
  .cloudWard ⟨"STALE_GITOPS_TARGET",
    "The current image tag is outside the recorded R1 transition", 409⟩

/-- `GITOPS_REVISION_NOT_VISIBLE`, `remediation/gitops.py:195`. -/
def notVisible : Failure :=
  .cloudWard ⟨"GITOPS_REVISION_NOT_VISIBLE",
    "The pushed GitOps revision is not visible to Argo CD", 502⟩

/-- The author of the writer's commits. -/
def writerName : String := "CloudWard Reliability <reliability@cloudward.invalid>"

/-- The tree after `git add`. A file written through a link is not the one that is added. -/
def added (base : Tree) (rendered : String) : Tree :=
  match base.values with
  | some (.regular _) => { base with values := some (.regular (encode rendered)) }
  | _ => base

/-- `git commit`, if there is something to commit. -/
def committed (yaml : Yaml) (answers : Answers) (plan : Plan) (base : Commit) (image : Image) :
    Except Failure Commit := do
  git answers.commit
  let tree := added base.tree (yaml.safeDump (image.retagged plan.targetTag))
  if tree = base.tree then .error operationFailed
  else
    .ok { tree
          author := writerName
          message := "CloudWard " ++ plan.operation.text ++ ": " ++ plan.auditReference
          time := answers.time }

/-- From the clone to the commit, `remediation/gitops.py:144`: the tag that is there, and the
commit of another, unless it is there already. -/
def edited (yaml : Yaml) (answers : Answers) (plan : Plan) (base : Commit) :
    Except Failure (String × Option Commit) := do
  git answers.revParse
  let bytes ← ValuesFile.resolved base.tree.values
  let image ← loadValues yaml bytes
  if image.tag ∉ plan.expectedTags then .error staleTarget
  else if image.tag = plan.targetTag then return (image.tag, none)
  else
    if ¬ answers.written then .error .os
    else
      git answers.add
      let commit ← committed yaml answers plan base image
      git answers.revision
      return (image.tag, some commit)

/-- Whose push it is. -/
structure Writing where
  settings : Settings
  call : Call

/-- What `git push` answers. -/
def pushAnswer (answers : Answers) (p : Push Commit Writing) (b : Branch Commit Writing) :
    Except Failure Unit := do
  git answers.push
  if (b.push p).isSome then .ok () else .error operationFailed

/-- The branch after `git push`. -/
def pushEffect (answers : Answers) (p : Push Commit Writing) (b : Branch Commit Writing) :
    Branch Commit Writing :=
  match answers.push with
  | .exited => b.pushed p
  | .unstarted => b
  | _ => if answers.taken then b.pushed p else b

/-- The program of a write. -/
abbrev Program (α : Type) : Type := Resumption (Branch Commit Writing) Failure α

/-- `git push`. -/
def pushing (answers : Answers) (p : Push Commit Writing) : Program Unit :=
  .step (pushEffect answers p) fun b ↦ .done (pushAnswer answers p b)

/-- `_write`, `remediation/gitops.py:120`, of a call. -/
def write (yaml : Yaml) (writing : Writing) (answers : Answers) :
    Program GitOpsImageWriteResult := do
  let plan ← Resumption.ofExcept writing.call.plan
  let _ ← Resumption.ofExcept (available writing.settings)
  let (base, below) ← Resumption.read fun b ↦ cloned answers b.head
  let (previousTag, commit) ← Resumption.ofExcept (edited yaml answers plan base)
  match commit with
  | none =>
    return ⟨plan.operation, previousTag, plan.targetTag, base :: below, base :: below, false⟩
  | some commit =>
    pushing answers ⟨writing, base :: below, commit⟩
    let remote ← Resumption.read fun b ↦ (git answers.lsRemote).map fun _ ↦ b.head
    Resumption.require (remote = commit :: base :: below) notVisible
    return ⟨plan.operation, previousTag, plan.targetTag, base :: below,
      commit :: base :: below, true⟩

/-! ### All processes -/

/-- What starts: a call, or a push of others. -/
inductive Input
  | call (writing : Writing) (answers : Answers)
  | others (commits : List Commit)

/-- Others put commits on the branch. -/
def othersPush (commits : List Commit) : Program GitOpsImageWriteResult :=
  .step (·.extend commits) fun _ ↦ .done (.error operationFailed)

/-- What an input does. -/
def program (yaml : Yaml) : Input → Program GitOpsImageWriteResult
  | .call writing answers => write yaml writing answers
  | .others commits => othersPush commits

/-- The branch and the calls after some moves. -/
def after (yaml : Yaml) (initial : Revision Commit) (moves : List (Move Input)) :
    Pool (Branch Commit Writing) Failure GitOpsImageWriteResult :=
  Runs.run (Pool.move (program yaml)) ⟨⟨initial, []⟩, []⟩ moves

end CloudWard.Remediation.Writer
