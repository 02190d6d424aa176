import CloudWard.Finops.Service
import CloudWard.Logic.Runs

/-!
# FinOps requests

`preview_finops_pr` and `create_finops_pr` of `api/finops.py:226`, each with its transaction: the
session commits only where the endpoint says so, at its end, and an exception rolls it back. GitHub
keeps what was sent to it.
-/

namespace CloudWard.Finops

open CloudWard.Logic Json Python

/-! ### Payloads and answers -/

/-- `^[0-9a-fA-F]+$` of 7 to 64 characters. -/
def isSha (value : String) : Bool :=
  7 ≤ value.length ∧ value.length ≤ 64 ∧ value.toList.all Github.isHex

/-- `FinOpsPullRequestRequest`, `api/finops.py:87`. -/
structure FinOpsPullRequestRequest where
  baseCommitSha : String
  expectedBlobSha : Option String
  base_isSha : isSha baseCommitSha
  blob_isSha : ∀ sha ∈ expectedBlobSha, isSha sha

/-- The endpoint, with its payload and what GitHub answers to the read. -/
inductive Endpoint
  | prPreview
  | createPr (payload : FinOpsPullRequestRequest) (answer : Except Exc Json)

/-- A request on a recommendation, the times that it reads, and the faults it meets. -/
structure Request where
  id : Uuid
  endpoint : Endpoint
  lookedAt : Nat
  builtAt : Nat
  faults : Github.Faults := {}

/-- What a request is answered. -/
inductive Response
  | preview (proposal : GitOpsChangeProposal)
  | pullRequest (response : Github.GitHubChangeProposalResponse)

/-- The service, its GitHub client where one is configured, and GitHub. -/
structure App (F : Type) where
  lib : Library F
  settings : Settings
  client : Except Exc Github.GitHubAutomationPolicy
  host : Github.Host

/-! ### `GitHubChangeProposalRequest(...)` -/

/-- The pattern of `head`, `github/schemas.py:147`. -/
def isHead (head : String) : Bool :=
  "cloudward/".toList <+: head.toList ∧ (head.toList.drop 10).head?.any Char.isAlphanum ∧
    (head.toList.drop 10).all fun c ↦ c.isAlphanum || c ∈ ['.', '_', '/', '-']

/-- `{**value, **entries}`. -/
def overlay (value : Json) (entries : List (String × Json)) : Json :=
  match value with
  | .dict kept => .dict (kept.filter (fun entry ↦ entry.1 ∉ entries.map (·.1)) ++ entries)
  | _ => .dict entries

variable {F : Type} (app : App F)

/-- The evidence of a change, `api/finops.py:285`. -/
def changeEvidence (row : FinOpsRecommendation) : Json :=
  overlay row.evidence
    [("evidence_window_start", .str (app.lib.isoformat row.evidenceWindowStart)),
      ("evidence_window_end", .str (app.lib.isoformat row.evidenceWindowEnd)),
      ("estimated_savings", row.estimatedSavings),
      ("confidence", .float row.confidence),
      ("limitations", .list (row.limitations.map .str))]

/-- `GitHubChangeProposalRequest(...)`, `api/finops.py:272`, with the bounds of its fields. -/
def changeRequest (row : FinOpsRecommendation) (proposal : GitOpsChangeProposal)
    (payload : FinOpsPullRequestRequest) (sha content : String) :
    Except Exc Github.GitHubChangeProposalRequest :=
  let commitMessage := "CloudWard FinOps recommendation " ++ row.id.text
  let reason := row.why app.lib
  if h : (12 ≤ proposal.branchPrefix.length ∧ proposal.branchPrefix.length ≤ 255) ∧
      (1 ≤ proposal.title.length ∧ proposal.title.length ≤ 200) then
    if (1 ≤ proposal.path.length ∧ proposal.path.length ≤ 1024) ∧ isHead proposal.branchPrefix ∧
        (7 ≤ sha.length ∧ sha.length ≤ 64) ∧
        (1 ≤ content.length ∧ content.length ≤ 100000) ∧
        (1 ≤ commitMessage.length ∧ commitMessage.length ≤ 500) ∧
        (1 ≤ reason.length ∧ reason.length ≤ 2000) ∧ row.riskScore ≤ 100 then
      .ok
        { repository := proposal.repository
          path := proposal.path
          base := "main"
          baseCommitSha := payload.baseCommitSha
          head := proposal.branchPrefix
          expectedBlobSha := some sha
          proposedContent := content
          commitMessage
          title := proposal.title
          reason
          currentState := row.currentConfig
          proposedState := row.recommendedConfig
          evidence := changeEvidence app row
          riskScore := row.riskScore
          verificationPlan :=
            "Observe workload CPU/memory p95, readiness, restarts, latency, and error rate after " ++
              "rollout."
          rollbackPlan := "Revert the pull request to restore the previous resource requests."
          draft := true
          base_length := ⟨Nat.le_of_ble_eq_true rfl, Nat.le_of_ble_eq_true rfl⟩
          head_length := h.1
          title_length := h.2 }
    else .error .validation
  else .error .validation

/-! ### Endpoints -/

/-- A part of a request that reads and writes what a pull request does. -/
def onChange {α : Type} (x : Exec Github.Change Exc α) : Exec Store Exc α := fun s ↦
  ((x.run s.change).1, { s with change := (x.run s.change).2 })

/-- `FINOPS_GITOPS_BLOB_MISSING`. -/
def blobMissing : Exc :=
  .cloudWard ⟨"FINOPS_GITOPS_BLOB_MISSING", "GitHub did not return the current values blob", 502⟩

/-- The file that `create_finops_pr` reads, and its blob, `api/finops.py:253`. -/
def valuesSource (proposal : GitOpsChangeProposal) (payload : FinOpsPullRequestRequest)
    (answer : Except Exc Json) : Except Exc (Github.SourceFileEvidence × String) := do
  let policy ← app.client
  let source ← Github.readFile app.lib.toCodecs policy answer proposal.repository proposal.path
    payload.baseCommitSha
  let sha ← orError blobMissing source.sha
  if ∀ expected ∈ payload.expectedBlobSha, expected = sha then .ok (source, sha)
  else .error (stale "GitOps values blob changed before pull request creation")

/-- `create_finops_pr` after its proposal is built, `api/finops.py:253`. -/
def createFinopsPr (faults : Github.Faults) (row : FinOpsRecommendation)
    (proposal : GitOpsChangeProposal) (payload : FinOpsPullRequestRequest)
    (answer : Except Exc Json) : Exec Store Exc Response := do
  let (source, sha) ← Exec.ofExcept (valuesSource app proposal payload answer)
  let policy ← Exec.ofExcept app.client
  let content ← patchGitopsValues app.lib row source.content
  let request ← Exec.ofExcept (changeRequest app row proposal payload sha content)
  let result ← onChange (Github.createOnce app.lib.unicode policy app.host faults row.id
    "FINOPS_RIGHTSIZING" request)
  recordPrCreated row (result.pullRequest.repository ++ "#" ++ toString result.pullRequest.number)
    result.pullRequest.url
  return .pullRequest result

/-- `preview_finops_pr` and `create_finops_pr`, up to the commit, `api/finops.py:226`. -/
def body (r : Request) : Exec Store Exc Response := do
  let row ← getForUpdate r.id r.lookedAt
  let proposal ← buildGitopsProposal app.lib app.settings row r.builtAt
  match r.endpoint with
  | .prPreview => return .preview proposal
  | .createPr payload answer => createFinopsPr app r.faults row proposal payload answer

/-- A store as it was, with what GitHub has now. -/
def Store.rollback (s after : Store) : Store :=
  { s with change := { s.change with hub := after.change.hub, pending := none } }

/-- A store with what its transaction wrote. -/
def Store.commit (s : Store) : Store :=
  { s with
    change := { s.change with
      records := s.change.records ++ s.change.pending.toList
      pending := none } }

/-- A request and its transaction. -/
def handle (s : Store) (r : Request) : Store × Except Exc Response :=
  match (body app r).run s with
  | (.error e, after) => (s.rollback after, .error e)
  | (.ok response, after) =>
    match r.faults.commit with
    | .none => (after.commit, .ok response)
    | .before => (s.rollback after, .error .database)
    | .after => (after.commit, .error .database)

/-! ### Runs -/

/-- `persist_result`, `finops/service.py:118`, with the row that an analysis asks for. -/
def persistResult (s : Store) (draft : FinOpsRecommendation) : Store :=
  if s.rows.any fun row ↦ row.sourceFingerprint = draft.sourceFingerprint ∨ row.id = draft.id then s
  else
    let row := { draft with
      status := .recommended
      proposalVersion := 1
      expectedStateDigest := digest app.lib draft.currentConfig
      prReference := none
      prUrl := none }
    { s with rows := s.rows ++ [row] }

/-- A transaction of the service. -/
inductive Move
  | request (r : Request)
  | analysis (draft : FinOpsRecommendation)

/-- The store after a transaction. -/
def step (s : Store) : Move → Store
  | .request r => (handle app s r).1
  | .analysis draft => persistResult app s draft

end CloudWard.Finops
