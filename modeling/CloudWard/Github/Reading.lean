import CloudWard.Base.Utf8
import CloudWard.Github.Policy
import CloudWard.Logic.Exec

/-!
# Files read from GitHub

`GitHubAppClient.read_file`, `github/app.py:226`. The bytes of a file are decoded with replacement
and the text is redacted before a caller sees it. What a call of GitHub answers is given, as are
Python's `base64.b64decode` and the text of a value.
-/

namespace CloudWard.Github

open CloudWard.Security Python Redaction

/-- `SourceFileEvidence`, `github/schemas.py:41`. -/
structure SourceFileEvidence where
  repository : String
  path : String
  ref : String
  content : String
  sha : Option String
  content_length : content.length ≤ 20000

/-- The library functions of a reader. -/
structure Codecs where
  unicode : Unicode
  /-- `base64.b64decode`, where it raises no error. -/
  b64decode : String → Option (List UInt8)
  /-- `str(value)` of a value that is no text. -/
  str : Json → String

/-- `MAX_SOURCE_BYTES`, `github/app.py:35`. -/
def maxSourceBytes : Nat := 20000

/-- `GITHUB_RESPONSE_INVALID`, `github/app.py:237`. -/
def responseInvalid : Exc :=
  .cloudWard ⟨"GITHUB_RESPONSE_INVALID", "GitHub content response is invalid", 502⟩

/-- `GITHUB_SOURCE_TOO_LARGE`, `github/app.py:247`. -/
def sourceTooLarge : Exc :=
  .cloudWard ⟨"GITHUB_SOURCE_TOO_LARGE", "Source file exceeds diagnosis bound", 422⟩

variable (c : Codecs)

/-- The bytes that an answer of GitHub holds, `github/app.py:234`. -/
def contentBytes (payload : Json) : Except Exc (List UInt8) :=
  match payload.get? "encoding", payload.get? "content" with
  | some (.str "base64"), some (.str encoded) =>
    match c.b64decode encoded with
    | some decoded => .ok decoded
    | none => .error responseInvalid
  | _, _ => .error responseInvalid

variable {c} in
/-- An answer in base64 holds what its content decodes to. -/
theorem contentBytes_of_decode {payload : Json} {encoded : String} {bytes : List UInt8}
    (hencoding : payload.get? "encoding" = some (.str "base64"))
    (hcontent : payload.get? "content" = some (.str encoded))
    (hdecode : c.b64decode encoded = some bytes) : contentBytes c payload = .ok bytes := by
  unfold contentBytes
  simp only [hencoding, hcontent, hdecode]

/-- The text that a caller sees of the bytes of a file. -/
def sourceText (bytes : List UInt8) : String := redactText c.unicode (decodeReplace bytes)

/-- The blob id of an answer of GitHub, if it has one, `github/app.py:255`. -/
def blobSha (payload : Json) : Option String :=
  ((payload.get? "sha").filter (·.truthy)).map fun
    | .str sha => sha
    | sha => c.str sha

/-- `read_file`, `github/app.py:226`. -/
def readFile (policy : GitHubAutomationPolicy) (answer : Except Exc Json)
    (repository path ref : String) : Except Exc SourceFileEvidence := do
  let repository ← policy.requireRead repository
  let path ← normalizePath path
  let payload ← answer
  let decoded ← contentBytes c payload
  if decoded.length > maxSourceBytes then .error sourceTooLarge
  else
    let content := sourceText c decoded
    -- the bound of the field is checked after the redaction, which may lengthen a text
    if h : content.length ≤ 20000 then
      .ok ⟨repository, path, ref, content, blobSha c payload, h⟩
    else .error .validation

variable {c} {policy : GitHubAutomationPolicy} {answer : Except Exc Json}
  {repository path ref : String} {source : SourceFileEvidence}

/-- A source that is read holds the text of the bytes in the answer. -/
theorem content_readFile (h : readFile c policy answer repository path ref = .ok source) :
    ∃ payload bytes, answer = .ok payload ∧ contentBytes c payload = .ok bytes ∧
      source.content = sourceText c bytes ∧ source.sha = blobSha c payload := by
  unfold readFile at h
  obtain ⟨name, -, h⟩ := Logic.bind_eq_ok h
  obtain ⟨normalized, -, h⟩ := Logic.bind_eq_ok h
  obtain ⟨payload, hanswer, h⟩ := Logic.bind_eq_ok h
  obtain ⟨bytes, hbytes, h⟩ := Logic.bind_eq_ok h
  refine ⟨payload, bytes, hanswer, hbytes, ?_⟩
  split at h
  · cases h
  · dsimp only at h
    split at h
    · have heq := Except.ok.inj h
      rw [← heq]
      exact ⟨rfl, rfl⟩
    · cases h

/-- A file within the bounds is read. -/
theorem readFile_of_contentBytes {name normalized : String} {payload : Json} {bytes : List UInt8}
    (hread : policy.requireRead repository = .ok name) (hpath : normalizePath path = .ok normalized)
    (hbytes : contentBytes c payload = .ok bytes) (hlength : bytes.length ≤ maxSourceBytes)
    (hcontent : (sourceText c bytes).length ≤ 20000) :
    readFile c policy (.ok payload) repository path ref =
      .ok ⟨name, normalized, ref, sourceText c bytes, blobSha c payload, hcontent⟩ := by
  unfold readFile
  rw [hread, hpath]
  show (contentBytes c payload >>= _) = _
  rw [hbytes]
  show (if bytes.length > maxSourceBytes then _ else _) = _
  rw [if_neg (Nat.not_lt.mpr hlength)]
  exact dif_pos hcontent

/-- A text that redaction leaves is read as it is. -/
theorem sourceText_encode {text : String} (h : redactText c.unicode text = text) :
    sourceText c (encode text) = text := by
  unfold sourceText
  rw [decodeReplace_encode, h]

end CloudWard.Github
