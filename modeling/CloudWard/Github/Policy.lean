import CloudWard.Github.Service

/-!
# The write policy of the GitHub App

`GitHubAutomationPolicy`, `github/policy.py:36`, and the checks of references in `github/app.py:389`.
Patterns of paths are those of `fnmatch`; allowlists are given with normalized repositories.
-/

namespace CloudWard.Github

open CloudWard.Security Python Redaction

/-! ### `fnmatch` -/

/-- A part of a pattern: any text, any character, a character of some ranges or of none of them,
or one character. -/
inductive Glob
  | star
  | any
  | oneOf (negated : Bool) (ranges : List (Char × Char))
  | char (c : Char)

/-- The ranges of a class; a character is a range of one. -/
def classRanges : List Char → List (Char × Char)
  | a :: '-' :: b :: rest => (a, b) :: classRanges rest
  | a :: rest => (a, a) :: classRanges rest
  | [] => []

/-- The text of a class and what follows it, after its opening bracket. -/
def classText (pattern : List Char) : Option (List Char × List Char) :=
  -- a closing bracket that is the first character of the class does not close it
  let start := match pattern with
    | '!' :: ']' :: _ => 2
    | '!' :: _ => 1
    | ']' :: _ => 1
    | _ => 0
  let text := (pattern.drop start).takeWhile (· ≠ ']')
  match pattern.drop (start + text.length) with
  | ']' :: rest => some (pattern.take start ++ text, rest)
  | _ => none

/-- The parts of a pattern with at most a number of characters. -/
def globs : Nat → List Char → List Glob
  | 0, _ => []
  | _ + 1, [] => []
  | fuel + 1, '*' :: rest => .star :: globs fuel rest
  | fuel + 1, '?' :: rest => .any :: globs fuel rest
  | fuel + 1, '[' :: rest =>
    match classText rest with
    | some ('!' :: text, rest) => .oneOf true (classRanges text) :: globs fuel rest
    | some (text, rest) => .oneOf false (classRanges text) :: globs fuel rest
    | none => .char '[' :: globs fuel rest
  | fuel + 1, c :: rest => .char c :: globs fuel rest

/-- A text matches the parts of a pattern. -/
def globMatches : List Glob → List Char → Bool
  | [], text => text = []
  | .star :: rest, text => text.tails.any (globMatches rest)
  | _ :: _, [] => false
  | .any :: rest, _ :: text => globMatches rest text
  | .oneOf negated ranges :: rest, c :: text =>
    (ranges.any (fun range ↦ range.1 ≤ c && c ≤ range.2) != negated) && globMatches rest text
  | .char d :: rest, c :: text => c = d && globMatches rest text

/-- `fnmatch.fnmatchcase`. -/
def fnmatchcase (name pattern : String) : Bool :=
  globMatches (globs pattern.length pattern.toList) name.toList

/-! ### Paths and allowlists -/

/-- `GITHUB_PATH_FORBIDDEN`. -/
def pathForbidden (message : String) : Exc := .cloudWard ⟨"GITHUB_PATH_FORBIDDEN", message, 403⟩

/-- `GITHUB_REPOSITORY_FORBIDDEN`. -/
def repositoryForbidden (message : String) : Exc :=
  .cloudWard ⟨"GITHUB_REPOSITORY_FORBIDDEN", message, 403⟩

/-- The parts of a relative `PurePosixPath`. -/
def parts (value : String) : List (List Char) :=
  (value.toList.splitOn '/').filter fun part ↦ part ≠ [] ∧ part ≠ ['.']

/-- `normalize_path`, `github/policy.py:24`. -/
def normalizePath (value : String) : Except Exc String :=
  if value = "" ∨ '\\' ∈ value.toList ∨ value.toList.head? = some '/' then
    .error (pathForbidden "GitHub path is forbidden")
  else if ['.', '.'] ∈ parts value then .error (pathForbidden "GitHub path is forbidden")
  else
    let normalized := if parts value = [] then ['.'] else ['/'].intercalate (parts value)
    if normalized.length > 1024 then .error (pathForbidden "GitHub path exceeds limit")
    else .ok (String.ofList normalized)

/-- `GitHubAutomationPolicy`, `github/policy.py:36`, as far as a change asks it. -/
structure GitHubAutomationPolicy where
  readRepositories : List String
  writePaths : List (String × List String)

variable (policy : GitHubAutomationPolicy)

/-- `require_read`, `github/policy.py:58`. -/
def GitHubAutomationPolicy.requireRead (repository : String) : Except Exc String := do
  let normalized ← normalizeRepository repository
  if normalized ∈ policy.readRepositories then .ok normalized
  else .error (repositoryForbidden "Repository is outside the GitHub read allowlist")

/-- `require_path_write`, `github/policy.py:78`. -/
def GitHubAutomationPolicy.requirePathWrite (repository path : String) :
    Except Exc (String × String) := do
  let normalizedRepository ← normalizeRepository repository
  let normalizedPath ← normalizePath path
  let patterns := (policy.writePaths.lookup normalizedRepository).getD []
  if patterns.any (fnmatchcase normalizedPath) then .ok (normalizedRepository, normalizedPath)
  else .error (pathForbidden "Path is outside the GitHub write allowlist")

/-- `require_pull_request`, `github/policy.py:90`. -/
def GitHubAutomationPolicy.requirePullRequest (repository : String) : Except Exc String := do
  let normalized ← normalizeRepository repository
  if normalized ∈ policy.writePaths.map (·.1) then .ok normalized
  else .error (repositoryForbidden "Repository is outside the GitHub pull-request allowlist")

/-! ### References -/

/-- A hexadecimal digit. -/
def isHex (c : Char) : Bool := c.isDigit || ('a' ≤ c && c ≤ 'f') || ('A' ≤ c && c ≤ 'F')

/-- `GITHUB_REF_INVALID`. -/
def refInvalid (message : String) : Exc := .cloudWard ⟨"GITHUB_REF_INVALID", message, 422⟩

/-- `_require_sha`, `github/app.py:389`. -/
def requireSha (value : String) : Except Exc Unit :=
  if 7 ≤ value.length ∧ value.length ≤ 64 ∧ value.toList.all isHex then .ok ()
  else .error (refInvalid "GitHub commit reference is invalid")

/-- `BRANCH_PATTERN`, `github/app.py:34`. -/
def branchPattern (text : List Char) : Bool :=
  1 ≤ text.length ∧ text.length ≤ 255 ∧ text.head?.any Char.isAlphanum ∧
    text.getLast?.any Char.isAlphanum ∧
      text.all fun c ↦ c.isAlphanum || c ∈ ['.', '_', '/', '-']

/-- `_require_branch`, `github/app.py:396`. -/
def requireBranch (value : String) : Except Exc Unit :=
  if branchPattern value.toList ∧ ¬ ['.', '.'] <:+: value.toList ∧
      ¬ ['/', '/'] <:+: value.toList ∧ ¬ ".lock".toList <:+ value.toList then .ok ()
  else .error (refInvalid "GitHub branch name is invalid")

example : fnmatchcase "gitops/values.yaml" "gitops/*.y[!b-z]ml" = true := by decide

end CloudWard.Github
