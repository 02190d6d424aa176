import CloudWard.Base.Dumps
import CloudWard.Finops.Values
import CloudWard.Github.Proposals
import CloudWard.Github.Reading

/-!
# The FinOps recommendation service

`FinOpsRecommendationService` of `finops/service.py:40`, from the recommendation that an analysis
leaves to its pull request. What a service writes to a row is committed or lost with the
transaction of its caller. Digests, dates and formats of numbers are given.
-/

namespace CloudWard.Finops

open CloudWard.Logic Json Python

/-! ### Rows -/

/-- `FinOpsStatus`, `db/models.py:110`. -/
inductive FinOpsStatus
  | detected
  | analyzed
  | recommended
  | prCreated
  | approved
  | rejected
  | applied
  | verified
  | expired
deriving DecidableEq

/-- The statuses that an expiry does not replace, `finops/service.py:226`. -/
def terminal : List FinOpsStatus := [.approved, .rejected, .applied, .verified, .expired]

/-- The statuses of which a pull request can be made, `finops/service.py:252`. -/
def proposable : List FinOpsStatus := [.recommended, .prCreated]

/-- `FinOpsRecommendation`, `db/models.py:628`. -/
structure FinOpsRecommendation where
  id : Uuid
  service : String
  recommendationType : String
  status : FinOpsStatus
  currentConfig : Json
  recommendedConfig : Json
  evidence : Json
  estimatedSavings : Json
  riskScore : Nat
  confidence : String
  limitations : List String
  evidenceWindowStart : Nat
  evidenceWindowEnd : Nat
  sourceFingerprint : String
  proposalVersion : Nat
  expectedStateDigest : String
  expiresAt : Nat
  prReference : Option String
  prUrl : Option String
  details : Json

/-- The recommendations, and what a pull request reads and writes. -/
structure Store where
  rows : List FinOpsRecommendation := []
  change : Github.Change := {}

/-- The recommendation of an id. -/
def Store.get? (s : Store) (id : Uuid) : Option FinOpsRecommendation := s.rows.find? (·.id = id)

/-- The recommendation of an id, written again. -/
def Store.write (s : Store) (id : Uuid) (f : FinOpsRecommendation → FinOpsRecommendation) : Store :=
  { s with rows := s.rows.map fun row ↦ if row.id = id then f row else row }

/-- A recommendation that is expired. -/
def FinOpsRecommendation.expire (row : FinOpsRecommendation) : FinOpsRecommendation :=
  { row with status := .expired }

/-- The library functions of the service. -/
structure Library (F : Type) extends Github.Codecs where
  floats : Floats F
  yaml : Yaml
  sha256 : String → String
  /-- `json.dumps(value, sort_keys=True, indent=2)`. -/
  indented : Json → String
  isoformat : Nat → String
  /-- A float with two places. -/
  fixed2 : String → String

/-- `settings.finops_gitops_repository` and `settings.finops_gitops_values_path`. -/
structure Settings where
  gitopsRepository : String
  gitopsValuesPath : String

/-- `GitOpsChangeProposal`, `finops/schemas.py:120`. -/
structure GitOpsChangeProposal where
  repository : String
  branchPrefix : String
  path : String
  title : String
  body : String
  content : String
  recommendationId : String
  expectedStateDigest : String

variable {F : Type} (lib : Library F) (settings : Settings)

/-- `_digest`, `finops/service.py:35`. -/
def digest (value : Json) : String := lib.sha256 (String.ofList (compact (sorted value)))

/-- `str(recommendation.details.get("why", ...))`. -/
def FinOpsRecommendation.why (row : FinOpsRecommendation) : String :=
  match row.details.get? "why" with
  | some (.str why) => why
  | some why => lib.str why
  | none => "Deterministic rightsizing analysis"

/-- The `requests` of a configuration, where they are a `dict`. -/
def requestsOf (config : Json) : Option Json :=
  match config.get? "requests" with
  | some (.dict entries) => some (.dict entries)
  | _ => none

/-! ### `get_for_update` -/

/-- `FINOPS_RECOMMENDATION_NOT_FOUND`. -/
def notFound : Exc :=
  .cloudWard ⟨"FINOPS_RECOMMENDATION_NOT_FOUND", "FinOps recommendation was not found", 404⟩

/-- `get_for_update`, `finops/service.py:212`. -/
def getForUpdate (id : Uuid) (now : Nat) : Exec Store Exc FinOpsRecommendation := do
  match ← Exec.read (·.get? id) with
  | none => throw notFound
  | some row =>
    if row.expiresAt ≤ now ∧ row.status ∉ terminal then
      Exec.update (·.write id .expire)
      return row.expire
    else return row

/-! ### `build_gitops_proposal` -/

/-- `FINOPS_PR_NOT_APPLICABLE`. -/
def notApplicable : Exc :=
  conflict "FINOPS_PR_NOT_APPLICABLE"
    "Only a workload rightsizing recommendation can produce this GitOps change"

/-- `FINOPS_RECOMMENDATION_NOT_PROPOSABLE`. -/
def notProposable : Exc :=
  conflict "FINOPS_RECOMMENDATION_NOT_PROPOSABLE" "Recommendation is not in a PR-proposable state"

/-- `FINOPS_RECOMMENDATION_EXPIRED`. -/
def expiredBefore : Exc :=
  conflict "FINOPS_RECOMMENDATION_EXPIRED" "Recommendation evidence expired before PR creation"

/-- `FINOPS_RECOMMENDATION_STALE`. -/
def stale (message : String) : Exc := conflict "FINOPS_RECOMMENDATION_STALE" message

/-- `FINOPS_RECOMMENDATION_INVALID`. -/
def invalid (message : String) : Exc := conflict "FINOPS_RECOMMENDATION_INVALID" message

/-- The requests that a recommendation proposes, in a file of their own, `finops/service.py:283`. -/
def proposedContent (row : FinOpsRecommendation) (cpu memory : String) : String :=
  "# Created by CloudWard; human review and merge are required.\n" ++
    "recommendationId: " ++ row.id.text ++ "\n" ++
    "proposalVersion: " ++ toString row.proposalVersion ++ "\n" ++
    "resources:\n" ++
    "  requests:\n" ++
    "    cpu: \"" ++ cpu ++ "\"\n" ++
    "    memory: \"" ++ memory ++ "\"\n"

/-- The body of a proposal, `finops/service.py:295`. -/
def proposedBody (row : FinOpsRecommendation) : String :=
  "Created by CloudWard\n\n" ++
    "Recommendation: `" ++ row.id.text ++ "` (version " ++ toString row.proposalVersion ++ ")\n\n" ++
    "Reason: " ++ row.why lib ++ "\n\n" ++
    "Current state:\n```json\n" ++ lib.indented row.currentConfig ++ "\n```\n\n" ++
    "Proposed state:\n```json\n" ++ lib.indented row.recommendedConfig ++ "\n```\n\n" ++
    "Estimated impact: `" ++ String.ofList (dumps (sorted row.estimatedSavings)) ++ "`\n\n" ++
    "Risk: " ++ toString row.riskScore ++ "/100; confidence: " ++ lib.fixed2 row.confidence ++
    "\n\n" ++
    "Evidence window: " ++ lib.isoformat row.evidenceWindowStart ++ " to " ++
    lib.isoformat row.evidenceWindowEnd ++ "\n\n" ++
    "Verification plan: observe CPU/memory p95, restarts, readiness, latency, and errors after " ++
    "rollout.\n\n" ++
    "Rollback plan: revert this pull request to restore the previous resource requests.\n\n" ++
    "CloudWard will not merge this pull request or resize the live production Deployment."

/-- The proposal of a recommendation that passed the checks, `finops/service.py:272`. -/
def gitopsProposal (row : FinOpsRecommendation) : Except Exc GitOpsChangeProposal := do
  let requests ← orError (invalid "Recommendation has no typed resource requests")
    (requestsOf row.recommendedConfig)
  let cpu ← cpuText lib.floats requests
  let memory ← memoryText lib.floats lib.unicode requests
  return {
    repository := settings.gitopsRepository
    branchPrefix := "cloudward/finops-" ++
      String.ofList ((row.id.text.toList.filter (· ≠ '-')).take 12)
    path := settings.gitopsValuesPath
    title := "CloudWard: rightsize " ++ row.service
    body := proposedBody lib row
    content := proposedContent row cpu memory
    recommendationId := row.id.text
    expectedStateDigest := row.expectedStateDigest }

/-- `build_gitops_proposal`, `finops/service.py:245`. -/
def buildGitopsProposal (row : FinOpsRecommendation) (now : Nat) :
    Exec Store Exc GitOpsChangeProposal := do
  Exec.require (row.recommendationType = "WORKLOAD_RIGHTSIZING") notApplicable
  Exec.require (row.status ∈ proposable) notProposable
  if row.expiresAt ≤ now then
    Exec.update (·.write row.id .expire)
    throw expiredBefore
  if digest lib row.currentConfig ≠ row.expectedStateDigest then
    Exec.update (·.write row.id .expire)
    throw (stale "Recommendation current state no longer matches its bound proposal version")
  Exec.ofExcept (gitopsProposal lib settings row)

/-! ### `patch_gitops_values` -/

/-- What a patch reads before it changes anything. -/
structure Binding where
  document : Values
  address : Nat
  requests : List (Scalar × Document.Part Scalar)
  proposed : Json
  drifted : Bool

/-- The reads of `patch_gitops_values`, `finops/service.py:327`. -/
def binding (row : FinOpsRecommendation) (content : String) : Except Exc Binding := do
  let (document, address, requests) ← valuesTarget lib.yaml content
  let current ← orError (invalid "Recommendation resource requests are invalid")
    (requestsOf row.currentConfig)
  let proposed ← orError (invalid "Recommendation resource requests are invalid")
    (requestsOf row.recommendedConfig)
  let currentCpu ← parseCpu lib.floats ((requests.lookup (.str "cpu")).getD (.scalar .null))
  let currentMemory ← parseMemory lib.floats ((requests.lookup (.str "memory")).getD (.scalar .null))
  let expectedCpu ← cpuCores lib.floats current
  let expectedMemory ← memoryBytes lib.floats lib.unicode current
  return ⟨document, address, requests, proposed,
    lib.floats.far currentCpu expectedCpu || currentMemory ≠ expectedMemory⟩

/-- The document of a binding with other requests, `finops/service.py:375`. -/
def Binding.patched (b : Binding) (cpu memory : String) : Values :=
  b.document.put b.address
    (assign (assign b.requests (.str "cpu") (.scalar (.str cpu)))
      (.str "memory") (.scalar (.str memory)))

/-- `patch_gitops_values`, `finops/service.py:320`. -/
def patchGitopsValues (row : FinOpsRecommendation) (content : String) :
    Exec Store Exc String := do
  let b ← Exec.ofExcept (binding lib row content)
  if b.drifted then
    Exec.update (·.write row.id .expire)
    throw (stale "GitOps resource requests changed after recommendation evidence collection")
  let cpu ← Exec.ofExcept (cpuText lib.floats b.proposed)
  let memory ← Exec.ofExcept (memoryText lib.floats lib.unicode b.proposed)
  return lib.yaml.safeDump (b.patched cpu memory)

/-- What a patch that is made comes from. -/
theorem patchGitopsValues_eq_ok {lib : Library F} {row : FinOpsRecommendation} {content text : String}
    {s s' : Store} (h : (patchGitopsValues lib row content).run s = (.ok text, s')) :
    ∃ b cpu memory, binding lib row content = .ok b ∧ cpuText lib.floats b.proposed = .ok cpu ∧
      memoryText lib.floats lib.unicode b.proposed = .ok memory ∧
      text = lib.yaml.safeDump (b.patched cpu memory) := by
  unfold patchGitopsValues at h
  obtain ⟨b, s₁, hb, h⟩ := Exec.run_bind_eq_ok.mp h
  rw [Exec.run_ofExcept] at hb
  split at h
  · obtain ⟨_, _, _, h⟩ := Exec.run_bind_eq_ok.mp h
    obtain ⟨_, _, hthrow, -⟩ := Exec.run_bind_eq_ok.mp h
    cases hthrow
  · obtain ⟨cpu, _, hcpu, h⟩ := Exec.run_bind_eq_ok.mp h
    obtain ⟨memory, _, hmemory, h⟩ := Exec.run_bind_eq_ok.mp h
    rw [Exec.run_ofExcept] at hcpu hmemory
    exact ⟨b, cpu, memory, congrArg Prod.fst hb, congrArg Prod.fst hcpu, congrArg Prod.fst hmemory,
      (Except.ok.inj (congrArg Prod.fst h)).symm⟩

/-! ### `record_pr_created` -/

/-- `FINOPS_PR_ALREADY_CREATED`. -/
def alreadyCreated : Exc :=
  conflict "FINOPS_PR_ALREADY_CREATED"
    "A different pull request is already bound to this recommendation"

/-- `record_pr_created`, `finops/service.py:384`. -/
def recordPrCreated (row : FinOpsRecommendation) (prReference prUrl : String) :
    Exec Store Exc Unit := do
  Exec.require (∀ bound ∈ row.prReference.filter (· ≠ ""), bound = prReference) alreadyCreated
  Exec.update (·.write row.id fun row ↦
    { row with status := .prCreated, prReference := some prReference, prUrl := some prUrl })

end CloudWard.Finops
