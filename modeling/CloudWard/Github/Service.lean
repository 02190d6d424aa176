import CloudWard.Base.Errors
import CloudWard.Base.Uuid
import CloudWard.Security.Redaction

/-!
# The GitHub issue service

`GitHubIssueService.create_once` of `github/service.py:237` as the steps its transactions take:
the select, the call of GitHub, the flush and the commit. A transaction sees the rows that others
have committed, and a flush waits for another that has flushed the same key.
-/

namespace CloudWard.Github

open CloudWard.Logic CloudWard.Security Python Redaction

/-- `GitHubIssueContent`, `github/schemas.py:113`. -/
structure GitHubIssueContent where
  title : String
  body : String
  labels : List String
  title_length : 1 ≤ title.length ∧ title.length ≤ 200
  body_length : 1 ≤ body.length ∧ body.length ≤ 10000
  labels_length : labels.length ≤ 10

/-- What GitHub answers to a successful call. -/
structure Created where
  number : Nat
  url : String
  number_pos : 1 ≤ number
  url_ne : url ≠ ""
deriving DecidableEq

/-- An issue at GitHub, and the pair it was created for. -/
structure Issue where
  incident : Uuid
  repository : String
  created : Created
deriving DecidableEq

/-- `GitHubIssueResult`, `github/schemas.py:50`. -/
structure GitHubIssueResult where
  repository : String
  number : Nat
  url : String
  title : String
deriving DecidableEq

/-- `IssueAutomationResult`, `github/service.py:224`. -/
structure IssueAutomationResult where
  issue : GitHubIssueResult
  created : Bool
deriving DecidableEq

/-- `GitHubAutomationRecord`, `github/models.py:14`. -/
structure GitHubAutomationRecord where
  dedupeKey : String
  incidentId : Uuid
  operation : String
  repository : String
  externalNumber : Option Nat
  externalUrl : Option String
  status : String
  title : Option String
  summary : Option String
  labels : List String
deriving DecidableEq

/-! ### `github/policy.py` -/

/-- `[A-Za-z0-9_.-]`. -/
def repositoryChar (c : Char) : Bool := c.isAlphanum || c ∈ ['_', '.', '-']

/-- `REPOSITORY_PATTERN`, `github/policy.py:13`. -/
def repositoryPattern (text : List Char) : Bool :=
  let owner := text.takeWhile repositoryChar
  match text.dropWhile repositoryChar with
  | '/' :: name => owner ≠ [] ∧ name ≠ [] ∧ name.all repositoryChar
  | _ => false

/-- `normalize_repository`, `github/policy.py:16`. -/
def normalizeRepository (value : String) : Except Exc String :=
  let normalized := strip value.toList
  if repositoryPattern normalized then .ok (String.ofList (normalized.map Char.toLower))
  else .error (.cloudWard ⟨"GITHUB_REPOSITORY_FORBIDDEN", "GitHub repository is not valid", 403⟩)

/-- `require_issue_write`, `github/policy.py:68`, with the normalized allowlist. -/
def requireIssueWrite (issueRepositories : List String) (repository : String) :
    Except Exc String := do
  let normalized ← normalizeRepository repository
  if normalized ∈ issueRepositories then .ok normalized
  else
    .error (.cloudWard ⟨"GITHUB_REPOSITORY_FORBIDDEN",
      "Repository is outside the GitHub Issue allowlist", 403⟩)

/-! ### `create_once` -/

/-- The text whose digest is the key of a pair, `github/service.py:246`. -/
def dedupeKey (incident : Uuid) (repository : String) : String :=
  "incident-issue:" ++ incident.text ++ ":" ++ repository

/-- How far a transaction has come. -/
inductive Phase
  | asked (existing : Option GitHubAutomationRecord)
  | called (existing : Option GitHubAutomationRecord) (created : Created)
  | flushed (existing : Option GitHubAutomationRecord) (created : Created)
  | ended (answer : Option IssueAutomationResult)
deriving DecidableEq

/-- A request that passed the policy. -/
structure Session where
  incident : Uuid
  repository : String
  content : GitHubIssueContent
  phase : Phase

/-- The committed records, the issues at GitHub, and the requests so far. -/
structure Automation where
  records : List GitHubAutomationRecord := []
  issues : List Issue := []
  sessions : List Session := []

/-- What happens: a request, GitHub's answer to a call or its failure, a flush, a commit, or a
failure that rolls a transaction back. -/
inductive Move
  | request (incident : Uuid) (repository : String) (content : GitHubIssueContent)
  | call (n : Nat) (reply : Option Created)
  | flush (n : Nat)
  | commit (n : Nat)
  | fail (n : Nat)

/-- The key of a session's record. -/
def Session.key (a : Session) : String := dedupeKey a.incident a.repository

/-- The session has not ended. -/
def Session.running (a : Session) : Bool :=
  match a.phase with
  | .ended _ => false
  | _ => true

/-- The session has called GitHub, and has not ended. -/
def Session.called (a : Session) : Bool :=
  match a.phase with
  | .called _ _ => true
  | .flushed _ _ => true
  | _ => false

/-- The session waits with a written record for its commit. -/
def Session.flushed (a : Session) : Bool :=
  match a.phase with
  | .flushed _ _ => true
  | _ => false

/-- The issue a call created. -/
def Session.issue (a : Session) (created : Created) : Issue := ⟨a.incident, a.repository, created⟩

/-- The record of an issue, `github/service.py:269`. -/
def Session.record (u : Unicode) (a : Session) (existing : Option GitHubAutomationRecord)
    (created : Created) : GitHubAutomationRecord :=
  let record := existing.getD ⟨a.key, a.incident, "ISSUE", a.repository, none, none, "", none, none,
    []⟩
  { record with
    externalNumber := some created.number
    externalUrl := some created.url
    status := "CREATED"
    title := some (String.ofList ((redactText u a.content.title).toList.take 255))
    summary := some (String.ofList ((redactText u a.content.body).toList.take 2000))
    labels := a.content.labels.map fun label ↦
      String.ofList ((redactText u label).toList.take 50) }

/-- `GitHubIssueResult` of a record that is complete, `github/service.py:256`. -/
def GitHubAutomationRecord.result (record : GitHubAutomationRecord) : Option GitHubIssueResult := do
  let number ← record.externalNumber.filter (· ≠ 0)
  let url ← record.externalUrl.filter (· ≠ "")
  return ⟨record.repository, number, url,
    (record.title.filter (· ≠ "")).getD "CloudWard incident"⟩

/-- The phase after the select, `github/service.py:249`. -/
def select (records : List GitHubAutomationRecord) (key : String) : Phase :=
  match records.find? fun record ↦ record.dedupeKey = key with
  | none => .asked none
  | some record =>
    match record.result with
    | some issue => .ended (some ⟨issue, false⟩)
    | none => .asked (some record)

/-- Put a session into another phase. -/
def Automation.goTo (s : Automation) (n : Nat) (a : Session) (phase : Phase) : Automation :=
  { s with sessions := s.sessions.set n { a with phase } }

/-- A request up to its select. -/
def request (issueRepositories : List String) (s : Automation) (incident : Uuid)
    (repository : String) (content : GitHubIssueContent) : Automation :=
  match requireIssueWrite issueRepositories repository with
  | .error _ => s
  | .ok repository =>
    { s with sessions := s.sessions ++
        [⟨incident, repository, content, select s.records (dedupeKey incident repository)⟩] }

/-- A flush waits for another of the same key, and a new record's key must be new. -/
def flush (s : Automation) (n : Nat) (a : Session) (existing : Option GitHubAutomationRecord)
    (created : Created) : Automation :=
  if s.sessions.any fun b ↦ b.flushed ∧ b.key = a.key then s
  else if existing = none ∧ s.records.any fun record ↦ record.dedupeKey = a.key then
    s.goTo n a (.ended none)
  else s.goTo n a (.flushed existing created)

/-- A commit makes the record visible. -/
def commit (u : Unicode) (s : Automation) (n : Nat) (a : Session)
    (existing : Option GitHubAutomationRecord) (created : Created) : Automation :=
  let record := a.record u existing created
  let records :=
    if existing = none then s.records ++ [record]
    else s.records.map fun other ↦ if other.dedupeKey = record.dedupeKey then record else other
  { s.goTo n a (.ended (some ⟨⟨a.repository, created.number, created.url, a.content.title⟩, true⟩))
    with records }

/-- What a session does in its phase. -/
def advance (u : Unicode) (s : Automation) (n : Nat) (a : Session) : Phase → Move → Automation
  | .asked existing, .call _ (some created) =>
    { s.goTo n a (.called existing created) with issues := a.issue created :: s.issues }
  | .asked _, .call _ none => s.goTo n a (.ended none)
  | .called existing created, .flush _ => flush s n a existing created
  | .flushed existing created, .commit _ => commit u s n a existing created
  | .ended _, .fail _ => s
  | _, .fail _ => s.goTo n a (.ended none)
  | _, _ => s

/-- A move of a session that exists. -/
def advanceAt (u : Unicode) (s : Automation) (n : Nat) (move : Move) : Automation :=
  match s.sessions[n]? with
  | none => s
  | some a => advance u s n a a.phase move

/-- One move. -/
def step (u : Unicode) (issueRepositories : List String) (s : Automation) : Move → Automation
  | .request incident repository content =>
    request issueRepositories s incident repository content
  | .call n reply => advanceAt u s n (.call n reply)
  | .flush n => advanceAt u s n (.flush n)
  | .commit n => advanceAt u s n (.commit n)
  | .fail n => advanceAt u s n (.fail n)

end CloudWard.Github
