import CloudWard.Base.Dumps
import CloudWard.Github.Policy
import CloudWard.Logic.Exec

/-!
# Pull requests of CloudWard

`GitHubChangeProposalService.create_once`, `github/service.py:305`, against GitHub. A call may fail
before or after it takes effect, and so may the commit; GitHub refuses a branch that exists, a file
whose blob is another, and a second pull request for a head.
-/

namespace CloudWard.Github

open CloudWard.Logic CloudWard.Security Python Redaction Json

/-! ### GitHub -/

/-- What GitHub has always known, and what it makes of a write. -/
structure Host where
  /-- The files of a commit of a repository. -/
  tree : String → String → Option (List (String × String))
  /-- The blob id of a content. -/
  blob : String → String
  commitSha : Nat → String
  created : Nat → Created
  commitSha_ne : ∀ n, commitSha n ≠ ""

/-- A branch, with its files. -/
structure Branch where
  repository : String
  name : String
  files : List (String × String)

/-- A pull request that is open. -/
structure Pull where
  repository : String
  head : String
  base : String
  title : String
  body : String
  draft : Bool
  created : Created

/-- The branches and pull requests, and the number of writes. -/
structure Hub where
  branches : List Branch := []
  pulls : List Pull := []
  writes : Nat := 0

/-- The branch of a repository. -/
def Hub.branch? (hub : Hub) (repository name : String) : Option Branch :=
  hub.branches.find? fun branch ↦ branch.repository = repository ∧ branch.name = name

/-- The open pull requests for a head. -/
def Hub.pullsOf (hub : Hub) (repository head : String) : List Pull :=
  hub.pulls.filter fun pull ↦ pull.repository = repository ∧ pull.head = head

/-- `POST /git/refs`. -/
def Host.createRef (host : Host) (repository name sha : String) (hub : Hub) :
    Option (Hub × Unit) :=
  if (hub.branch? repository name).isSome then none
  else (host.tree repository sha).map fun files ↦
    ({ hub with branches := ⟨repository, name, files⟩ :: hub.branches }, ())

/-- A file of a branch with another content. -/
def Branch.write (path content : String) (branch : Branch) : Branch :=
  { branch with files := (path, content) :: branch.files.filter (·.1 ≠ path) }

/-- `PUT /contents`, with the blob id that is to be replaced. -/
def Host.putContents (host : Host) (repository path name content : String) (sha : Option String)
    (hub : Hub) : Option (Hub × String) :=
  (hub.branch? repository name).bind fun branch ↦
    if (branch.files.lookup path).map host.blob ≠ sha then none
    else some
      ({ hub with
          branches := hub.branches.map fun other ↦
            if other.repository = repository ∧ other.name = name then other.write path content
            else other
          writes := hub.writes + 1 }, host.commitSha hub.writes)

/-- `POST /pulls`. -/
def Host.createPull (host : Host) (pull : Created → Pull) (hub : Hub) : Option (Hub × Created) :=
  let made := pull (host.created hub.writes)
  if (hub.branch? made.repository made.head).isNone ∨
      hub.pullsOf made.repository made.head ≠ [] then none
  else some ({ hub with pulls := made :: hub.pulls, writes := hub.writes + 1 }, made.created)

/-! ### Requests, records and faults -/

/-- `GitHubChangeProposalRequest`, `github/schemas.py:136`, with the bounds that a pull request
shares. -/
structure GitHubChangeProposalRequest where
  repository : String
  path : String
  base : String
  baseCommitSha : String
  head : String
  expectedBlobSha : Option String
  proposedContent : String
  commitMessage : String
  title : String
  reason : String
  currentState : Json
  proposedState : Json
  evidence : Json
  riskScore : Nat
  verificationPlan : String
  rollbackPlan : String
  draft : Bool := true
  base_length : 1 ≤ base.length ∧ base.length ≤ 255
  head_length : 12 ≤ head.length ∧ head.length ≤ 255
  title_length : 1 ≤ title.length ∧ title.length ≤ 200

/-- `GitHubPRContent`, `github/schemas.py:120`. -/
structure GitHubPRContent where
  title : String
  body : String
  head : String
  base : String
  draft : Bool
  title_length : 1 ≤ title.length ∧ title.length ≤ 200
  body_length : 1 ≤ body.length ∧ body.length ≤ 20000
  head_length : 1 ≤ head.length ∧ head.length ≤ 255
  base_length : 1 ≤ base.length ∧ base.length ≤ 255

/-- `GitHubPullRequestResult`, `github/schemas.py:64`. -/
structure GitHubPullRequestResult where
  repository : String
  number : Nat
  url : String
  head : String
  base : String

/-- `GitHubChangeProposalResponse`, `github/schemas.py:163`. -/
structure GitHubChangeProposalResponse where
  subjectId : String
  path : String
  commitSha : String
  pullRequest : GitHubPullRequestResult
  created : Bool

/-- The `details` of a record of a change. -/
structure ChangeDetails where
  subjectId : String
  path : String
  head : String
  base : String
  commitSha : String

/-- `GitHubAutomationRecord`, `github/models.py:14`, of a change. -/
structure ChangeRecord where
  dedupeKey : String
  operation : String
  repository : String
  externalNumber : Option Nat
  externalUrl : Option String
  status : String
  title : Option String
  summary : Option String
  details : ChangeDetails

/-- How a call ends: as GitHub ends it, or with a failure before or after it takes effect. -/
inductive Fault
  | none
  | before
  | after
deriving DecidableEq

/-- The faults of an attempt. -/
structure Faults where
  branch : Fault := .none
  file : Fault := .none
  pull : Fault := .none
  flush : Bool := false
  commit : Fault := .none

/-- What an attempt reads and writes: GitHub, the committed records, and its own record. -/
structure Change where
  hub : Hub := {}
  records : List ChangeRecord := []
  pending : Option ChangeRecord := .none

/-! ### `GitHubAppClient` -/

/-- `GITHUB_API_FAILURE`, `github/app.py:382`. -/
def apiFailure : Exc := .cloudWard ⟨"GITHUB_API_FAILURE", "GitHub App request failed", 502⟩

/-- A request to GitHub. -/
def send {α : Type} (fault : Fault) (effect : Hub → Option (Hub × α)) : Exec Change Exc α :=
  fun s ↦
    match fault, effect s.hub with
    | .before, _ => (.error apiFailure, s)
    | _, .none => (.error apiFailure, s)
    | .none, some (hub, a) => (.ok a, { s with hub })
    | .after, some (hub, _) => (.error apiFailure, { s with hub })

variable (u : Unicode) (policy : GitHubAutomationPolicy) (host : Host)

/-- `create_branch`, `github/app.py:315`. -/
def createBranch (fault : Fault) (repository branch fromSha : String) : Exec Change Exc Unit := do
  let repository ← Exec.ofExcept (policy.requirePullRequest repository)
  Exec.ofExcept (requireBranch branch)
  Exec.ofExcept (requireSha fromSha)
  send fault (host.createRef repository branch fromSha)

/-- `update_file`, `github/app.py:279`; the message of the commit is left out. -/
def updateFile (fault : Fault) (repository path branch content : String)
    (expectedBlobSha : Option String) : Exec Change Exc String := do
  let (repository, path) ← Exec.ofExcept (policy.requirePathWrite repository path)
  let sha := expectedBlobSha.filter (· ≠ "")
  match sha with
  | some sha => Exec.ofExcept (requireSha sha)
  | .none => pure ()
  send fault (host.putContents repository path branch content sha)

/-- `Created by CloudWard`. -/
def marker : String := "Created by CloudWard"

/-- `create_pull_request`, `github/app.py:325`. -/
def createPullRequest (fault : Fault) (repository : String) (content : GitHubPRContent) :
    Exec Change Exc GitHubPullRequestResult := do
  let repository ← Exec.ofExcept (policy.requirePullRequest repository)
  let body := redactText u content.body
  let body := if marker.toList <:+: body.toList then body else marker ++ "\n\n" ++ body
  let created ← send fault (host.createPull fun created ↦
    { repository, head := content.head, base := content.base, title := redactText u content.title
      body, draft := content.draft, created })
  return ⟨repository, created.number, created.url, content.head, content.base⟩

/-! ### `create_once` -/

/-- `text[:n]`. -/
def clip (n : Nat) (text : String) : String := String.ofList (text.toList.take n)

/-- A JSON block of a body, `github/service.py:430`. -/
def block (value : Json) : String :=
  "```json\n" ++ String.ofList ((dumps (sorted (redact u value))).take 3000) ++ "\n```"

/-- `_change_pr_body`, `github/service.py:416`. -/
def changePrBody (subject : Uuid) (operation : String) (request : GitHubChangeProposalRequest) :
    String :=
  "\n\n".intercalate
    ["Created by CloudWard",
      "Automation: `" ++ clip 64 (redactText u operation) ++ "`",
      "Subject ID: `" ++ subject.text ++ "`",
      "Reason: " ++ clip 2000 (redactText u request.reason),
      "Current state:\n" ++ block u request.currentState,
      "Proposed state:\n" ++ block u request.proposedState,
      "Risk: " ++ toString request.riskScore ++ "/100",
      "Evidence:\n" ++ block u request.evidence,
      "Verification plan: " ++ redactText u request.verificationPlan,
      "Rollback plan: " ++ redactText u request.rollbackPlan,
      "CloudWard made no direct persistent change; merge remains a human decision."]

/-- `GitHubPRContent(...)`, `github/service.py:360`. -/
def prContent (subject : Uuid) (operation : String) (request : GitHubChangeProposalRequest) :
    Except Exc GitHubPRContent :=
  let body := changePrBody u subject operation request
  if h : 1 ≤ body.length ∧ body.length ≤ 20000 then
    .ok
      { title := request.title, body, head := request.head, base := request.base
        draft := request.draft, title_length := request.title_length, body_length := h
        head_length := ⟨by have := request.head_length; omega, request.head_length.2⟩
        base_length := request.base_length }
  else .error .validation

/-- The text whose digest is the key of a change, `github/service.py:315`. -/
def changeKey (subject : Uuid) (operation repository path : String) : String :=
  "change-pr:" ++ operation ++ ":" ++ subject.text ++ ":" ++ repository ++ ":" ++ path

/-- The number and address of a record that has both, `github/service.py:325`. -/
def ChangeRecord.external (record : ChangeRecord) : Option (Nat × String) := do
  let number ← record.externalNumber.filter (· ≠ 0)
  let url ← record.externalUrl.filter (· ≠ "")
  return (number, url)

/-- `GITHUB_AUTOMATION_RECORD_INVALID`, `github/service.py:328`. -/
def recordInvalid : Exc :=
  .cloudWard ⟨"GITHUB_AUTOMATION_RECORD_INVALID", "Stored GitHub automation record is incomplete",
    500⟩

/-- The calls of GitHub and the record they leave, `github/service.py:346`. -/
def propose (faults : Faults) (subject : Uuid) (operation repository path key : String)
    (request : GitHubChangeProposalRequest) : Exec Change Exc GitHubChangeProposalResponse := do
  createBranch policy host faults.branch repository request.head request.baseCommitSha
  let commitSha ← updateFile policy host faults.file repository path request.head
    request.proposedContent request.expectedBlobSha
  let content ← Exec.ofExcept (prContent u subject operation request)
  let pull ← createPullRequest u policy host faults.pull repository content
  let record : ChangeRecord :=
    { dedupeKey := key
      operation := clip 32 operation
      repository := pull.repository
      externalNumber := some pull.number
      externalUrl := some pull.url
      status := "CREATED"
      title := some content.title
      summary := some (clip 2000 (redactText u content.body))
      details := ⟨subject.text, path, request.head, request.base, commitSha⟩ }
  -- the flush of the new row, whose key is unique
  let taken ← Exec.read fun s ↦ s.records.any (·.dedupeKey = key)
  Exec.require (faults.flush = false ∧ taken = false) .database
  Exec.update fun s ↦ { s with pending := some record }
  return ⟨subject.text, path, commitSha, pull, true⟩

/-- `create_once`, `github/service.py:305`. -/
def createOnce (faults : Faults) (subject : Uuid) (operation : String)
    (request : GitHubChangeProposalRequest) : Exec Change Exc GitHubChangeProposalResponse := do
  let (repository, path) ←
    Exec.ofExcept (policy.requirePathWrite request.repository request.path)
  let key := changeKey subject operation repository path
  let existing ← Exec.read fun s ↦ s.records.find? (·.dedupeKey = key)
  match existing.bind fun record ↦ record.external.map (record, ·) with
  | some (record, number, url) =>
    Exec.require (record.details.commitSha ≠ "") recordInvalid
    return ⟨subject.text, path, record.details.commitSha,
      ⟨record.repository, number, url, record.details.head, record.details.base⟩, false⟩
  | .none => propose u policy host faults subject operation repository path key request

/-- An attempt: `create_once` and the commit of its transaction. -/
def attempt (subject : Uuid) (operation : String) (request : GitHubChangeProposalRequest)
    (s : Change) (faults : Faults) : Change × Except Exc GitHubChangeProposalResponse :=
  match (createOnce u policy host faults subject operation request).run s with
  | (.error e, s) => ({ s with pending := .none }, .error e)
  | (.ok response, s) =>
    let stored : Change := { s with records := s.records ++ s.pending.toList, pending := .none }
    match faults.commit with
    | .none => (stored, .ok response)
    | .before => ({ s with pending := .none }, .error .database)
    | .after => (stored, .error .database)

end CloudWard.Github
