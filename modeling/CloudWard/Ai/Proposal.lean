import CloudWard.Ai.Context
import CloudWard.Risk.Engine

/-!
# Proposals of a model

`DiagnosisProposal` of `ai/schemas.py:39`, and `validate_proposal` of `ai/service.py:220`, which
checks a proposal against the context it was made for. The schema lets a confidence through that
is not a number; it compares as false with every other.
-/

namespace CloudWard.Ai

open CloudWard.Remediation CloudWard.Risk CloudWard.Security Redaction

/-- `LLMProviderError`, `ai/provider.py:11`. -/
structure LLMProviderError where
  code : String
  message : String
  retryable : Bool := false
deriving DecidableEq

/-- `RelatedChange`, `ai/schemas.py:23`. -/
structure RelatedChange where
  repository : String
  commitSha : String
  files : List String
  correlation : String

/-- `DiagnosisProposal`, `ai/schemas.py:39`; the confidence is none where it is `NaN`. -/
structure DiagnosisProposal where
  suspectedRootCause : String
  rootCauseCategory : String
  confidence : Option Confidence
  evidenceRefs : List String
  relatedChange : Option RelatedChange := none
  suggestedRunbook : Option String := none
  actionCandidates : List ActionType := []
  explanation : String

/-- `ai/service.py:223`. -/
def evidenceReferenceInvalid : LLMProviderError :=
  ⟨"AI_EVIDENCE_REFERENCE_INVALID", "Diagnosis references evidence not in the context", false⟩

/-- `ai/service.py:227`. -/
def runbookInvalid : LLMProviderError :=
  ⟨"AI_RUNBOOK_INVALID", "Diagnosis references an unavailable runbook", false⟩

/-- `ai/service.py:237`. -/
def changeReferenceInvalid : LLMProviderError :=
  ⟨"AI_CHANGE_REFERENCE_INVALID", "Diagnosis references a Git change not in the context", false⟩

/-- The changes of a context that a proposal names. -/
def matchingChanges (change : RelatedChange) (context : RawContext) : List SourceDiff :=
  context.untrustedEvidence.gitChanges.filter fun item ↦
    item.repository = change.repository ∧ lower item.commitSha = lower change.commitSha

/-- `validate_proposal`, `ai/service.py:220`. -/
def validateProposal (proposal : DiagnosisProposal) (context : RawContext) :
    Except LLMProviderError Unit :=
  if ¬ proposal.evidenceRefs.all (· ∈ context.evidenceRefs) then .error evidenceReferenceInvalid
  else if proposal.suggestedRunbook.any fun id ↦ id ≠ "" ∧ id ∉ context.runbookIds then
    .error runbookInvalid
  else
    match proposal.relatedChange with
    | none => .ok ()
    | some change =>
      let known := matchingChanges change context
      if known = [] ∨ ¬ change.files.all (· ∈ known.map (·.file)) then
        .error changeReferenceInvalid
      else .ok ()

/-- A reference that no proposal is rejected for. -/
def Accepted (context : RawContext) (ref : String) : Prop :=
  ∀ proposal : DiagnosisProposal, proposal.evidenceRefs = [ref] →
    validateProposal proposal context ≠ .error evidenceReferenceInvalid

/-- The accepted references are those of the context. -/
theorem accepted_iff {context : RawContext} {ref : String} :
    Accepted context ref ↔ ref ∈ context.evidenceRefs := by
  constructor
  · intro h
    by_contra hnot
    let proposal : DiagnosisProposal :=
      { suspectedRootCause := "unknown", rootCauseCategory := "unknown", confidence := none
        evidenceRefs := [ref], explanation := "unknown" }
    apply h proposal rfl
    unfold validateProposal
    rw [if_pos]
    simpa [proposal] using hnot
  · intro h proposal hrefs
    have hrunbook : runbookInvalid ≠ evidenceReferenceInvalid := by decide
    have hchange : changeReferenceInvalid ≠ evidenceReferenceInvalid := by decide
    unfold validateProposal
    rw [if_neg (by simp [hrefs, h])]
    split
    · exact fun heq ↦ hrunbook (Except.error.inj heq)
    · split
      · exact fun heq ↦ by cases heq
      · dsimp only
        split
        · exact fun heq ↦ hchange (Except.error.inj heq)
        · exact fun heq ↦ by cases heq

end CloudWard.Ai
