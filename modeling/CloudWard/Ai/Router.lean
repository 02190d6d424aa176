import CloudWard.Ai.Builder
import CloudWard.Ai.Openrouter

/-!
# The router of a diagnosis

`DiagnosisRouter`, `ai/service.py:22`: one model, its fallback, and a stronger model for a doubtful
answer share one limit on the attempts. Each attempt leaves a row, `ai/persistence.py:46`.
-/

namespace CloudWard.Ai

open CloudWard.Alerts CloudWard.Risk CloudWard.Security Python Redaction

/-- `InvocationAttempt`, `ai/schemas.py:94`. -/
structure InvocationAttempt where
  requestedModel : String
  actualModel : Option String := none
  success : Bool
  fallback : Bool
  escalation : Bool
  errorCode : Option String := none

/-- `AIStatus`, `ai/schemas.py:17`. -/
inductive AIStatus
  | available
  | aiUnavailable
deriving DecidableEq

/-- The text of a status. -/
def AIStatus.value : AIStatus → String
  | .available => "AVAILABLE"
  | .aiUnavailable => "AI_UNAVAILABLE"

/-- `DiagnosisOutcome`, `ai/schemas.py:105`. -/
structure DiagnosisOutcome where
  status : AIStatus
  proposal : Option DiagnosisProposal := none
  modelUsed : Option String := none
  fallbackUsed : Bool := false
  escalationUsed : Bool := false
  attempts : List InvocationAttempt := []
  failureCode : Option String := none

/-- A row of `model_invocations`, `db/models.py:693`. -/
structure ModelInvocation where
  incidentId : Nat
  provider : String
  model : String
  purpose : String
  status : String
  createdAt : Nat

/-- A model that is asked: which, and why. -/
structure Asked where
  model : String
  fallback : Bool := false
  escalation : Bool := false

/-- A model call that has been made, and what the checks left of its answer. -/
structure ModelCall extends Asked where
  context : RawContext
  result : Except String ProviderResult
  createdAt : Nat

/-- The row of a call, `ai/persistence.py:72`. -/
def ModelCall.invocation (incidentId : Nat) (call : ModelCall) : ModelInvocation where
  incidentId := incidentId
  provider := "openrouter"
  model := match call.result with
    | .ok result => cut 128 result.actualModel
    | .error _ => cut 128 call.model
  purpose := "diagnose_incident"
  status := match call.result with
    | .ok _ => "SUCCEEDED"
    | .error _ => "FAILED"
  createdAt := call.createdAt

/-- The attempt of a call. -/
def ModelCall.attempt (call : ModelCall) : InvocationAttempt :=
  match call.result with
  | .ok result => ⟨call.model, result.actualModel, true, call.fallback, call.escalation, none⟩
  | .error code => ⟨call.model, none, false, call.fallback, call.escalation, code⟩

/-- What a diagnosis has spent: the rows of the session, the posts and its own calls. -/
structure Spending where
  invocations : List ModelInvocation
  posts : Nat
  calls : List ModelCall := []

/-- `a < b` of floats. -/
def below : Option Confidence → Option Confidence → Bool
  | some a, some b => a < b
  | _, _ => false

/-- `a >= b` of floats. -/
def atLeast : Option Confidence → Option Confidence → Bool
  | some a, some b => b ≤ a
  | _, _ => false

/-- The confidence below which a stronger model may be asked, `ai/service.py:33`. -/
def lowConfidence : Confidence := ⟨55 / 100, by norm_num⟩

/-- `DiagnosisRouter`, `ai/service.py:22`. -/
structure DiagnosisRouter where
  provider : OpenRouterProvider
  primaryModel : String
  fallbackModel : String
  escalationModel : String
  lowConfidenceThreshold : Confidence := lowConfidence
  escalationComplexityThreshold : Nat := 70

namespace DiagnosisRouter

variable (net : Network) (u : Unicode) (clock : Nat → Nat) (r : DiagnosisRouter)
  (incidentId : Nat) (context : IncidentContext)

/-- An answer that `validate_proposal` lets pass, or the code of the failure,
`ai/service.py:142`. -/
def checked (answer : Except ProviderFailure ProviderResult) : Except String ProviderResult :=
  match answer with
  | .error (.provider error) => .error error.code
  | .error .unexpected => .error "AI_PROVIDER_FAILURE"
  | .ok result =>
    match validateProposal result.output context.toRawContext with
    | .ok () => .ok result
    | .error error => .error error.code

/-- `_attempt`, `ai/service.py:129`. -/
def attempt (asked : Asked) (s : Spending) : Spending × Option ProviderResult :=
  let (posts, answer) := r.provider.diagnoseIncident net u context asked.model s.posts
  let call : ModelCall :=
    { toAsked := asked, context := context.toRawContext, result := checked context answer
      createdAt := clock s.invocations.length }
  ({ invocations := s.invocations ++ [call.invocation incidentId]
     posts, calls := s.calls ++ [call] }, call.result.toOption)

/-- Whether the fallback is asked, `ai/service.py:75`. -/
def fallsBack (limit : Nat) (s : Spending) (primary : Option ProviderResult) : Bool :=
  primary.isNone ∧ s.calls.length < limit ∧ r.fallbackModel ≠ r.primaryModel

/-- The answer of the primary model or of its fallback, `ai/service.py:63`. -/
def select (limit : Nat) (s : Spending) : Spending × Option ProviderResult × Bool :=
  let (s, primary) := r.attempt net u clock incidentId context { model := r.primaryModel } s
  if r.fallsBack limit s primary then
    let (s, selected) := r.attempt net u clock incidentId context
      { model := r.fallbackModel, fallback := true } s
    (s, selected, true)
  else (s, primary, false)

/-- Whether the stronger model is asked, `ai/service.py:102`. -/
def escalates (limit : Nat) (allowEscalation : Bool) (s : Spending) (selected : ProviderResult) :
    Bool :=
  allowEscalation ∧ s.calls.length < limit ∧
    below selected.output.confidence (some r.lowConfidenceThreshold) ∧
      r.escalationComplexityThreshold ≤ context.complexityScore ∧
        r.escalationModel ∉ [selected.requestedModel, selected.actualModel]

/-- The answer that is kept, `ai/service.py:119`. -/
def kept (selected : ProviderResult) : Option ProviderResult → ProviderResult
  | some escalated =>
    if atLeast escalated.output.confidence selected.output.confidence then escalated else selected
  | none => selected

/-- The answer after the stronger model, `ai/service.py:101`. -/
def escalate (limit : Nat) (allowEscalation : Bool) (s : Spending) (selected : ProviderResult) :
    Spending × ProviderResult × Bool :=
  if r.escalates context limit allowEscalation s selected then
    let (s, escalated) := r.attempt net u clock incidentId context
      { model := r.escalationModel, escalation := true } s
    (s, kept selected escalated, true)
  else (s, selected, false)

/-- `diagnose`, `ai/service.py:44`, from a session without calls. -/
def diagnose (maxAttempts : Int) (s : Spending) (allowEscalation : Bool := true) :
    Spending × DiagnosisOutcome :=
  let limit := (min (max maxAttempts 0) 3).toNat
  if limit = 0 then
    (s, { status := .aiUnavailable, failureCode := "AI_CALL_BUDGET_EXHAUSTED" })
  else
    let (s, selected, fallbackUsed) := r.select net u clock incidentId context limit s
    match selected with
    | none =>
      (s, { status := .aiUnavailable, fallbackUsed, attempts := s.calls.map (·.attempt)
            failureCode := match (s.calls.map (·.attempt)).getLast? with
              | some last => last.errorCode
              | none => "AI_UNAVAILABLE" })
    | some selected =>
      let (s, final, escalationUsed) :=
        r.escalate net u clock incidentId context limit allowEscalation s selected
      (s, { status := .available, proposal := final.output, modelUsed := final.actualModel
            fallbackUsed, escalationUsed, attempts := s.calls.map (·.attempt) })

/-! ### What a diagnosis spends -/

variable {net u clock r incidentId context} {start s : Spending} {limit : Nat}

/-- What a diagnosis has done since it began: a row for each call, and for each row the posts of
one model call; what it took from an answer was checked. -/
structure Spends (r : DiagnosisRouter) (incidentId : Nat) (start s : Spending) : Prop where
  rows : s.invocations = start.invocations ++ s.calls.map (·.invocation incidentId)
  posts : s.posts ≤ start.posts + (r.provider.maxRetries + 1) * s.calls.length
  valid : ∀ call ∈ s.calls, ∀ result, call.result = .ok result →
    validateProposal result.output call.context = .ok ()

private theorem checked_ok {answer : Except ProviderFailure ProviderResult}
    {result : ProviderResult} (h : checked context answer = .ok result) :
    validateProposal result.output context.toRawContext = .ok () := by
  unfold checked at h
  split at h
  · cases h
  · cases h
  · split at h
    · next hvalid =>
      cases h
      exact hvalid
    · cases h

variable (net u clock context) in
/-- An attempt makes one call. -/
private theorem attempt_spec (asked : Asked) (h : Spends r incidentId start s) :
    ∃ call : ModelCall, call.toAsked = asked ∧
      (r.attempt net u clock incidentId context asked s).1.calls = s.calls ++ [call] ∧
      (r.attempt net u clock incidentId context asked s).2 = call.result.toOption ∧
      Spends r incidentId start (r.attempt net u clock incidentId context asked s).1 := by
  refine ⟨_, rfl, rfl, rfl, ?_, ?_, ?_⟩
  · simp [attempt, h.rows]
  · have hposts := h.posts
    have hcall := @OpenRouterProvider.diagnoseIncident_le net u r.provider context
      asked.model s.posts
    simp only [attempt, List.length_append, List.length_singleton, Nat.mul_add, Nat.mul_one]
    omega
  · intro call hcall result hresult
    rcases List.mem_append.mp hcall with hcall | hcall
    · exact h.valid call hcall result hresult
    · rw [List.mem_singleton.mp hcall] at hresult ⊢
      exact checked_ok hresult

/-- What the first answer is: that of the only call that has one. -/
structure Selects (s : Spending) (selected : Option ProviderResult) : Prop where
  plain : ∀ call ∈ s.calls, call.escalation = false
  only : ∀ call ∈ s.calls, ∀ result, call.result = .ok result → selected = some result
  made : ∀ result ∈ selected, ∃ call ∈ s.calls, call.result = .ok result

private theorem toOption_eq_some {result : Except String ProviderResult} {value : ProviderResult} :
    result.toOption = some value ↔ result = .ok value := by
  cases result <;> simp [Except.toOption]

/-- The answer of the last call is selected where no call before it has one. -/
private theorem selects_last {failed : List ModelCall} {call : ModelCall}
    (hcalls : s.calls = failed ++ [call])
    (hfailed : ∀ other ∈ failed, ∀ result, other.result ≠ .ok result)
    (hplain : ∀ other ∈ s.calls, other.escalation = false) : Selects s call.result.toOption := by
  constructor
  · exact hplain
  · intro other hother result hresult
    rw [hcalls, List.mem_append, List.mem_singleton] at hother
    rcases hother with hother | rfl
    · exact absurd hresult (hfailed other hother result)
    · exact toOption_eq_some.mpr hresult
  · intro result hresult
    exact ⟨call, hcalls ▸ List.mem_append_right _ (List.mem_singleton_self _),
      toOption_eq_some.mp hresult⟩

variable (net u clock context) in
/-- At most two calls select an answer. -/
private theorem select_spec (h : Spends r incidentId start s) (hnone : s.calls = [])
    (hlimit : limit ≠ 0) :
    Spends r incidentId start (r.select net u clock incidentId context limit s).1 ∧
      (r.select net u clock incidentId context limit s).1.calls.length ≤ limit ∧
      Selects (r.select net u clock incidentId context limit s).1
        (r.select net u clock incidentId context limit s).2.1 := by
  obtain ⟨first, hfirst, hcalls, hanswer, hspends⟩ :=
    attempt_spec net u clock context { model := r.primaryModel } h
  unfold select
  generalize r.attempt net u clock incidentId context { model := r.primaryModel } s = tried at *
  obtain ⟨s, primary⟩ := tried
  dsimp only at *
  rw [hnone] at hcalls
  subst hanswer
  split
  · next hfallback =>
    obtain ⟨hprimary, hlength, -⟩ := of_decide_eq_true hfallback
    obtain ⟨second, hsecond, hcalls', hanswer, hspends⟩ :=
      attempt_spec net u clock context { model := r.fallbackModel, fallback := true } hspends
    generalize r.attempt net u clock incidentId context
      { model := r.fallbackModel, fallback := true } s = tried at *
    obtain ⟨s', selected⟩ := tried
    dsimp only at *
    subst hanswer
    have hboth : s'.calls = [first] ++ [second] := by
      rw [hcalls', hcalls, List.nil_append]
    have hfailed (result : ProviderResult) : first.result ≠ .ok result := by
      intro hok
      rw [hok] at hprimary
      cases hprimary
    refine ⟨hspends, ?_, selects_last hboth ?_ ?_⟩
    · rw [hboth]
      rwa [hcalls] at hlength
    · simpa using hfailed
    · simp [hboth, hfirst, hsecond]
  · refine ⟨hspends, ?_, selects_last hcalls ?_ ?_⟩
    · rw [hcalls]
      exact Nat.one_le_iff_ne_zero.mpr hlimit
    · simp
    · simp [hcalls, hfirst]

/-- What an escalation keeps: an answer of a call, which no answer before was above. -/
structure Keeps (s : Spending) (final : ProviderResult) : Prop where
  made : ∃ call ∈ s.calls, call.result = .ok final
  above : ∀ call ∈ s.calls, call.escalation = false → ∀ result, call.result = .ok result →
    final = result ∨ atLeast final.output.confidence result.output.confidence

private theorem kept_eq_or (selected : ProviderResult) (escalated : Option ProviderResult) :
    kept selected escalated = selected ∨ ∃ result, escalated = some result ∧
      kept selected escalated = result ∧
        atLeast result.output.confidence selected.output.confidence := by
  cases escalated with
  | none => exact .inl rfl
  | some result =>
    by_cases hatLeast : atLeast result.output.confidence selected.output.confidence
    · exact .inr ⟨result, rfl, if_pos hatLeast, hatLeast⟩
    · exact .inl (if_neg hatLeast)

variable (net u clock context) in
/-- An escalation is at most one more call. -/
private theorem escalate_spec {selected : ProviderResult} (allowEscalation : Bool)
    (h : Spends r incidentId start s) (hlimit : s.calls.length ≤ limit)
    (hselects : Selects s (some selected)) :
    Spends r incidentId start
        (r.escalate net u clock incidentId context limit allowEscalation s selected).1 ∧
      (r.escalate net u clock incidentId context limit allowEscalation s selected).1.calls.length
        ≤ limit ∧
      Keeps (r.escalate net u clock incidentId context limit allowEscalation s selected).1
        (r.escalate net u clock incidentId context limit allowEscalation s selected).2.1 := by
  obtain ⟨source, hsource, hmade⟩ := hselects.made selected rfl
  have honly : ∀ call ∈ s.calls, ∀ result, call.result = .ok result → selected = result :=
    fun call hcall result hresult ↦ Option.some.inj (hselects.only call hcall result hresult)
  unfold escalate
  split
  · next hescalates =>
    obtain ⟨-, hlength, -⟩ := of_decide_eq_true hescalates
    obtain ⟨last, hlast, hcalls, hanswer, hspends⟩ :=
      attempt_spec net u clock context { model := r.escalationModel, escalation := true } h
    generalize r.attempt net u clock incidentId context
      { model := r.escalationModel, escalation := true } s = tried at *
    obtain ⟨s', escalated⟩ := tried
    dsimp only at *
    subst hanswer
    have hbefore {call : ModelCall} (hcall : call ∈ s'.calls) (hplain : call.escalation = false) :
        call ∈ s.calls := by
      rw [hcalls, List.mem_append, List.mem_singleton] at hcall
      rcases hcall with hcall | rfl
      · exact hcall
      · rw [hlast] at hplain
        cases hplain
    refine ⟨hspends, ?_, ?_⟩
    · rw [hcalls, List.length_append]
      exact hlength
    rcases kept_eq_or selected last.result.toOption with hkept | ⟨result, hresult, hkept, habove⟩
    · rw [hkept]
      refine ⟨⟨source, hcalls ▸ List.mem_append_left _ hsource, hmade⟩, ?_⟩
      intro call hcall hplain result hresult
      exact .inl (honly call (hbefore hcall hplain) result hresult)
    · rw [hkept]
      refine ⟨⟨last, hcalls ▸ List.mem_append_right _ (List.mem_singleton_self _),
        toOption_eq_some.mp hresult⟩, ?_⟩
      intro call hcall hplain other hother
      rw [← honly call (hbefore hcall hplain) other hother]
      exact .inr habove
  · refine ⟨h, hlimit, ⟨source, hsource, hmade⟩, ?_⟩
    intro call hcall _ result hresult
    exact .inl (honly call hcall result hresult)

/-- What a diagnosis ends with. -/
structure Settles (r : DiagnosisRouter) (incidentId : Nat) (start s : Spending) (limit : Nat)
    (outcome : DiagnosisOutcome) : Prop where
  spends : Spends r incidentId start s
  within : s.calls.length ≤ limit
  attempts : outcome.attempts = s.calls.map (·.attempt)
  contract : outcome.status = .available ↔ outcome.proposal.isSome
  available : ∀ proposal ∈ outcome.proposal, ∃ final : ProviderResult,
    Keeps s final ∧ final.output = proposal

variable (net u clock r incidentId context) in
/-- A diagnosis makes at most the calls it may make, and at most three. -/
theorem diagnose_spec (maxAttempts : Int) (allowEscalation : Bool) (start : Spending)
    (hnone : start.calls = []) :
    Settles r incidentId start
      (r.diagnose net u clock incidentId context maxAttempts start allowEscalation).1
      (min (max maxAttempts 0) 3).toNat
      (r.diagnose net u clock incidentId context maxAttempts start allowEscalation).2 := by
  have hstart : Spends r incidentId start start := by
    constructor
    · simp [hnone]
    · exact Nat.le_add_right _ _
    · simp [hnone]
  unfold diagnose
  generalize (min (max maxAttempts 0) 3).toNat = limit
  dsimp only
  split
  · exact ⟨hstart, by simp [hnone], by simp [hnone], by simp, by simp⟩
  · next hlimit =>
    obtain ⟨hspends, hwithin, hselects⟩ :=
      select_spec net u clock context hstart hnone hlimit
    generalize r.select net u clock incidentId context limit start = chosen at *
    obtain ⟨s, selected, fallbackUsed⟩ := chosen
    dsimp only at *
    cases selected with
    | none => exact ⟨hspends, hwithin, rfl, by simp, by simp⟩
    | some selected =>
      obtain ⟨hspends, hwithin, hkeeps⟩ := escalate_spec net u clock context
        allowEscalation hspends hwithin hselects
      dsimp only
      generalize r.escalate net u clock incidentId context limit allowEscalation s selected = done
        at *
      obtain ⟨s', final, escalationUsed⟩ := done
      exact ⟨hspends, hwithin, rfl, by simp, fun proposal hproposal ↦
        ⟨final, hkeeps, Option.some.inj hproposal⟩⟩

end DiagnosisRouter

end CloudWard.Ai
