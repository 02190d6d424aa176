import CloudWard.Ai.Router
import CloudWard.Logic.Runs

/-!
# What the diagnoses of an incident spend

`diagnose_and_store`, `ai/application.py:23`, and `evaluate_ai_admission`, `ai/safety.py:25`. A
request holds the row lock of its incident until it is committed, so those of one incident come one
after another; rows of other incidents may appear between them.
-/

namespace CloudWard.Ai

open CloudWard.Logic CloudWard.Security

/-- The settings of the diagnosis, `config.py:263`. -/
structure AiSettings where
  aiDiagnosisEnabled : Bool
  cloudwardLlmPrimaryModel : String
  cloudwardLlmFallbackModel : String
  cloudwardLlmEscalationModel : String
  openrouterApiKey : Option String
  openrouterMaxRetries : Nat
  openrouterMaxContextTokens : Nat
  aiMaxEvidenceChars : Nat
  aiMaxModelCallsPerIncident : Nat
  aiCircuitBreakerFailureThreshold : Nat
  aiCircuitBreakerWindowSeconds : Nat

/-- `AIAdmission`, `ai/safety.py:18`. -/
structure AIAdmission where
  allowed : Bool
  remainingCalls : Int
  failureCode : Option String := none

/-- The statuses of the newest rows within the window, `ai/safety.py:50`. -/
def recentStatuses (settings : AiSettings) (now : Nat) (rows : List ModelInvocation) :
    List String :=
  (((rows.filter fun row ↦ row.provider = "openrouter" ∧
    now ≤ row.createdAt + settings.aiCircuitBreakerWindowSeconds * 1000000).mergeSort
      fun a b ↦ b.createdAt ≤ a.createdAt).take settings.aiCircuitBreakerFailureThreshold).map
        (·.status)

/-- `evaluate_ai_admission`, `ai/safety.py:25`. -/
def evaluateAiAdmission (settings : AiSettings) (incidentId now : Nat)
    (rows : List ModelInvocation) : AIAdmission :=
  let usedCalls := rows.countP fun row ↦ row.incidentId = incidentId ∧ row.provider = "openrouter"
  let remaining : Int := settings.aiMaxModelCallsPerIncident - usedCalls
  if remaining ≤ 0 then ⟨false, 0, "AI_CALL_BUDGET_EXHAUSTED"⟩
  else
    let recent := recentStatuses settings now rows
    if settings.aiCircuitBreakerFailureThreshold ≤ recent.length ∧ recent.all (· = "FAILED") then
      ⟨false, 0, "AI_CIRCUIT_OPEN"⟩
    else ⟨true, min remaining 3, none⟩

/-- A row of `ai_diagnoses`, `ai/models.py:14`; the columns of its proposal are one value. -/
structure DiagnosisRow where
  incidentId : Nat
  status : String
  proposal : Option DiagnosisProposal
  model : Option String
  fallbackUsed : Bool
  escalationUsed : Bool
  failureCode : Option String
  createdAt : Nat

/-- A stored diagnosis, with the model calls that were made for it. -/
structure Diagnosed where
  row : DiagnosisRow
  calls : List ModelCall

/-- The rows of all incidents that tell of model calls, the posts, and the diagnoses of one. -/
structure AiState where
  invocations : List ModelInvocation := []
  posts : Nat := 0
  diagnoses : List Diagnosed := []

/-- What the diagnosis asks of Python, of the network and of the clock. -/
structure AiEnv where
  python : Conversions
  network : Network
  /-- The time of the row of a number. -/
  clock : Nat → Nat
  /-- `model_dump_json`. -/
  modelDumpJson : IncidentContext → String

/-- A request for a diagnosis of an incident. -/
structure DiagnosisRequest (incidentId : Nat) where
  reuseExisting : Bool
  now : Nat
  sources : Sources
  own : sources.incidentId = incidentId

variable (env : AiEnv) (settings : AiSettings) {incidentId : Nat}

/-- The router of a request, `ai/application.py:88`. -/
def routerOf : DiagnosisRouter where
  provider := .init settings.openrouterApiKey settings.openrouterMaxRetries
    settings.openrouterMaxContextTokens
  primaryModel := settings.cloudwardLlmPrimaryModel
  fallbackModel := settings.cloudwardLlmFallbackModel
  escalationModel := settings.cloudwardLlmEscalationModel

namespace AiState

variable (s : AiState)

/-- `_persist_outcome`, `ai/application.py:127`. -/
def persistOutcome (incidentId now : Nat) (spent : Spending) (outcome : DiagnosisOutcome) :
    AiState × DiagnosisRow :=
  let row : DiagnosisRow :=
    { incidentId, status := outcome.status.value, proposal := outcome.proposal
      model := outcome.modelUsed.map (Alerts.cut 128), fallbackUsed := outcome.fallbackUsed
      escalationUsed := outcome.escalationUsed, failureCode := outcome.failureCode
      createdAt := now }
  ({ invocations := spent.invocations, posts := spent.posts
     diagnoses := s.diagnoses ++ [⟨row, spent.calls⟩] }, row)

/-- A diagnosis that was not made. -/
def unavailable (incidentId now : Nat) (failureCode : Option String) : AiState × DiagnosisRow :=
  s.persistOutcome incidentId now { invocations := s.invocations, posts := s.posts }
    { status := .aiUnavailable, failureCode }

/-- `latest_diagnosis`, `ai/application.py:113`. -/
def latest : Option DiagnosisRow :=
  ((s.diagnoses.map (·.row)).mergeSort fun a b ↦ b.createdAt ≤ a.createdAt).head?

/-- The half of `diagnose_and_store` that may ask a model, `ai/application.py:43`. -/
def diagnoseNow (request : DiagnosisRequest incidentId) : Except BuildError (AiState × DiagnosisRow) :=
  if ¬ settings.aiDiagnosisEnabled then
    .ok (s.unavailable incidentId request.now "AI_DISABLED")
  else
    let admission := evaluateAiAdmission settings incidentId request.now s.invocations
    if ¬ admission.allowed then
      .ok (s.unavailable incidentId request.now admission.failureCode)
    else
      match buildIncidentContext env.python request.sources with
      | .error .value => .ok (s.unavailable incidentId request.now "AI_CONTEXT_INVALID")
      | .error error => .error error
      | .ok context =>
        if (env.modelDumpJson context).length ≤ settings.aiMaxEvidenceChars then
          let (spent, outcome) := (routerOf settings).diagnose env.network env.python.unicode
            env.clock incidentId context admission.remainingCalls
            { invocations := s.invocations, posts := s.posts }
          .ok (s.persistOutcome incidentId request.now spent outcome)
        else .ok (s.unavailable incidentId request.now "AI_EVIDENCE_BUDGET_EXCEEDED")

/-- `diagnose_and_store`, `ai/application.py:23`. -/
def diagnoseAndStore (request : DiagnosisRequest incidentId) :
    Except BuildError (AiState × DiagnosisRow) :=
  if request.reuseExisting then
    match s.latest with
    | some existing => .ok (s, existing)
    | none => s.diagnoseNow env settings request
  else s.diagnoseNow env settings request

/-- The rows of an incident that tell of its model calls. -/
def rowsOf (incidentId : Nat) : List ModelInvocation :=
  s.invocations.filter (·.incidentId = incidentId)

/-- The model calls of the diagnoses. -/
def calls : List ModelCall := s.diagnoses.flatMap (·.calls)

end AiState

/-- A request for a diagnosis, or rows of other incidents that appear. -/
inductive AiInput (incidentId : Nat)
  | diagnose (request : DiagnosisRequest incidentId)
  | others (rows : List ModelInvocation)

/-- A committed request; one that raises leaves nothing. -/
def AiState.step (s : AiState) : AiInput incidentId → AiState
  | .diagnose request =>
    match s.diagnoseAndStore env settings request with
    | .ok (after, _) => after
    | .error _ => s
  | .others rows =>
    { s with invocations := s.invocations ++ rows.filter (·.incidentId ≠ incidentId) }

/-- A diagnosis that says it has a proposal has one that was checked, and none of its calls but
that of the stronger model has one above it. -/
structure Diagnosed.Sound (d : Diagnosed) : Prop where
  carries : d.row.status = "AVAILABLE" → ∃ call ∈ d.calls, ∃ result : ProviderResult,
    call.result = .ok result ∧ d.row.proposal = some result.output ∧
      validateProposal result.output call.context = .ok ()
  above : d.row.status = "AVAILABLE" → ∀ call ∈ d.calls, call.escalation = false →
    ∀ result, call.result = .ok result → d.row.proposal = some result.output ∨
      ∃ proposal ∈ d.row.proposal, atLeast proposal.confidence result.output.confidence

/-- What an incident may spend, and what its diagnoses may say. -/
structure AiState.Bounded (settings : AiSettings) (incidentId : Nat) (s : AiState) : Prop where
  rows : (s.rowsOf incidentId).length ≤ settings.aiMaxModelCallsPerIncident
  once : s.rowsOf incidentId = s.calls.map (·.invocation incidentId)
  posts : s.posts ≤ (settings.openrouterMaxRetries + 1) * (s.rowsOf incidentId).length
  sound : ∀ d ∈ s.diagnoses, d.Sound

variable {env settings} {s : AiState}

namespace AiState

/-- The calls that are left are those the incident has not made. -/
private theorem evaluateAiAdmission_allowed {now : Nat} (h : Bounded settings incidentId s)
    (hallowed : (evaluateAiAdmission settings incidentId now s.invocations).allowed) :
    (min (max (evaluateAiAdmission settings incidentId now s.invocations).remainingCalls 0) 3).toNat +
      (s.rowsOf incidentId).length ≤ settings.aiMaxModelCallsPerIncident := by
  have hused : (s.invocations.countP fun row ↦
      row.incidentId = incidentId ∧ row.provider = "openrouter") = (s.rowsOf incidentId).length := by
    have hprovider : ∀ row ∈ s.rowsOf incidentId, row.provider = "openrouter" := by
      rw [h.once]
      intro row hrow
      obtain ⟨call, -, rfl⟩ := List.mem_map.mp hrow
      rfl
    rw [rowsOf, List.countP_congr (q := fun row ↦ row.incidentId = incidentId),
      List.countP_eq_length_filter]
    intro row hrow
    simp only [decide_eq_true_iff]
    refine ⟨And.left, fun hown ↦ ⟨hown, hprovider row ?_⟩⟩
    exact List.mem_filter.mpr ⟨hrow, decide_eq_true hown⟩
  unfold evaluateAiAdmission at hallowed ⊢
  rw [hused] at hallowed ⊢
  dsimp only at hallowed ⊢
  split at hallowed
  · cases hallowed
  · split at hallowed
    · cases hallowed
    · next hremaining hclosed =>
      rw [if_neg hremaining, if_neg hclosed]
      dsimp only
      omega

/-- A stored diagnosis keeps the bounds where its calls fit what is left. -/
private theorem bounded_persistOutcome {now : Nat} {spent : Spending} {outcome : DiagnosisOutcome}
    (h : Bounded settings incidentId s)
    (hrows : spent.invocations = s.invocations ++ spent.calls.map (·.invocation incidentId))
    (hposts : spent.posts ≤ s.posts + (settings.openrouterMaxRetries + 1) * spent.calls.length)
    (hfit : spent.calls.length + (s.rowsOf incidentId).length ≤ settings.aiMaxModelCallsPerIncident)
    (hsound : Diagnosed.Sound
      ⟨(s.persistOutcome incidentId now spent outcome).2, spent.calls⟩) :
    Bounded settings incidentId (s.persistOutcome incidentId now spent outcome).1 := by
  have hown : (spent.calls.map (·.invocation incidentId)).filter (·.incidentId = incidentId) =
      spent.calls.map (·.invocation incidentId) := by
    refine List.filter_eq_self.mpr fun row hrow ↦ ?_
    obtain ⟨call, -, rfl⟩ := List.mem_map.mp hrow
    exact decide_eq_true rfl
  have hafter : (s.persistOutcome incidentId now spent outcome).1.rowsOf incidentId =
      s.rowsOf incidentId ++ spent.calls.map (·.invocation incidentId) := by
    show spent.invocations.filter _ = _
    rw [hrows, List.filter_append, hown]
    rfl
  constructor
  · rw [hafter, List.length_append, List.length_map]
    omega
  · rw [hafter, h.once]
    simp [calls, persistOutcome]
  · rw [hafter, List.length_append, List.length_map, Nat.mul_add]
    exact hposts.trans (Nat.add_le_add_right h.posts _)
  · intro d hd
    rcases List.mem_append.mp hd with hd | hd
    · exact h.sound d hd
    · rw [List.mem_singleton.mp hd]
      exact hsound

private theorem bounded_unavailable {now : Nat} {failureCode : Option String}
    (h : Bounded settings incidentId s) :
    Bounded settings incidentId (s.unavailable incidentId now failureCode).1 := by
  refine bounded_persistOutcome h (List.append_nil _).symm (Nat.le_add_right _ _) ?_ ?_
  · rw [List.length_nil, Nat.zero_add]
    exact h.rows
  · have hstatus : AIStatus.aiUnavailable.value ≠ "AVAILABLE" := by decide
    exact ⟨fun havailable ↦ absurd havailable hstatus, fun havailable ↦ absurd havailable hstatus⟩

/-- An outcome of the router is sound. -/
private theorem sound_of_settles {r : DiagnosisRouter} {now limit : Nat} {start spent : Spending}
    {outcome : DiagnosisOutcome} (h : r.Settles incidentId start spent limit outcome) :
    Diagnosed.Sound ⟨(s.persistOutcome incidentId now spent outcome).2, spent.calls⟩ := by
  have hproposal (havailable : outcome.status.value = "AVAILABLE") :
      ∃ proposal, outcome.proposal = some proposal := by
    have hstatus : outcome.status = .available := by
      cases hcase : outcome.status with
      | available => rfl
      | aiUnavailable =>
        rw [hcase] at havailable
        exact absurd havailable (by decide)
    exact Option.isSome_iff_exists.mp (h.contract.mp hstatus)
  constructor
  · intro havailable
    obtain ⟨proposal, hproposal⟩ := hproposal havailable
    obtain ⟨final, hkeeps, rfl⟩ := h.available proposal hproposal
    obtain ⟨call, hcall, hresult⟩ := hkeeps.made
    exact ⟨call, hcall, final, hresult, hproposal, h.spends.valid call hcall final hresult⟩
  · intro havailable call hcall hplain result hresult
    obtain ⟨proposal, hproposal⟩ := hproposal havailable
    obtain ⟨final, hkeeps, rfl⟩ := h.available proposal hproposal
    rcases hkeeps.above call hcall hplain result hresult with rfl | habove
    · exact .inl hproposal
    · exact .inr ⟨final.output, hproposal, habove⟩

private theorem bounded_diagnoseNow {request : DiagnosisRequest incidentId} {after : AiState}
    {row : DiagnosisRow} (h : Bounded settings incidentId s)
    (hok : s.diagnoseNow env settings request = .ok (after, row)) :
    Bounded settings incidentId after ∧ ∃ d ∈ after.diagnoses, d.row = row := by
  have hstored {now : Nat} {spent : Spending} {outcome : DiagnosisOutcome}
      (hbounded : Bounded settings incidentId (s.persistOutcome incidentId now spent outcome).1)
      (heq : (Except.ok (s.persistOutcome incidentId now spent outcome) :
        Except BuildError (AiState × DiagnosisRow)) = .ok (after, row)) :
      Bounded settings incidentId after ∧ ∃ d ∈ after.diagnoses, d.row = row := by
    have hpair := Except.ok.inj heq
    rw [hpair] at hbounded
    refine ⟨hbounded, ⟨row, spent.calls⟩, ?_, rfl⟩
    have hafter : after = (s.persistOutcome incidentId now spent outcome).1 := by rw [hpair]
    have hrow : row = (s.persistOutcome incidentId now spent outcome).2 := by rw [hpair]
    rw [hafter, hrow]
    exact List.mem_append_right _ (List.mem_singleton_self _)
  unfold diagnoseNow at hok
  split at hok
  · exact hstored (bounded_unavailable h) hok
  dsimp only at hok
  split at hok
  · exact hstored (bounded_unavailable h) hok
  next hallowed =>
  split at hok
  · exact hstored (bounded_unavailable h) hok
  · cases hok
  next context _ =>
  split at hok
  · have hspec := DiagnosisRouter.diagnose_spec env.network env.python.unicode env.clock
      (routerOf settings) incidentId context
      (evaluateAiAdmission settings incidentId request.now s.invocations).remainingCalls true
      { invocations := s.invocations, posts := s.posts } rfl
    generalize (routerOf settings).diagnose env.network env.python.unicode env.clock incidentId
      context (evaluateAiAdmission settings incidentId request.now s.invocations).remainingCalls
      { invocations := s.invocations, posts := s.posts } = made at *
    obtain ⟨spent, outcome⟩ := made
    have hretries : (routerOf settings).provider.maxRetries ≤ settings.openrouterMaxRetries := by
      show min (max settings.openrouterMaxRetries 0) 3 ≤ _
      omega
    refine hstored (bounded_persistOutcome h hspec.spends.rows ?_ ?_ (sound_of_settles hspec)) hok
    · refine hspec.spends.posts.trans (Nat.add_le_add_left (Nat.mul_le_mul_right _ ?_) _)
      exact Nat.succ_le_succ hretries
    · have hleft := evaluateAiAdmission_allowed h (not_not.mp hallowed)
      exact (Nat.add_le_add_right hspec.within _).trans hleft
  · exact hstored (bounded_unavailable h) hok

/-- A request keeps the bounds, and what it returns is stored. -/
theorem bounded_diagnoseAndStore {request : DiagnosisRequest incidentId} {after : AiState}
    {row : DiagnosisRow} (h : Bounded settings incidentId s)
    (hok : s.diagnoseAndStore env settings request = .ok (after, row)) :
    Bounded settings incidentId after ∧ ∃ d ∈ after.diagnoses, d.row = row := by
  unfold diagnoseAndStore at hok
  split at hok
  · split at hok
    · next existing hexisting =>
      cases hok
      have hmem := (List.mergeSort_perm _ _).mem_iff.mp (List.mem_of_mem_head? hexisting)
      exact ⟨h, List.mem_map.mp hmem⟩
    · exact bounded_diagnoseNow h hok
  · exact bounded_diagnoseNow h hok

variable (env) in
private theorem bounded_step (h : Bounded settings incidentId s) (input : AiInput incidentId) :
    Bounded settings incidentId (s.step env settings input) := by
  cases input with
  | diagnose request =>
    rw [step]
    split
    · next hok => exact (bounded_diagnoseAndStore h hok).1
    · exact h
  | others rows =>
    have hsame :
        (s.step env settings (.others rows : AiInput incidentId)).rowsOf incidentId =
          s.rowsOf incidentId := by
      have hnone : (rows.filter (·.incidentId ≠ incidentId)).filter
          (·.incidentId = incidentId) = [] := by
        simp
      show (s.invocations ++ rows.filter _).filter _ = _
      rw [List.filter_append, hnone, List.append_nil]
      rfl
    exact ⟨hsame ▸ h.rows, hsame ▸ h.once, hsame ▸ h.posts, h.sound⟩

end AiState

/-- After any requests an incident has spent no more model calls than it may, each with one row and
at most the posts of one call, and what its diagnoses say was checked. -/
theorem spending_bounded_run (env : AiEnv) (settings : AiSettings) (incidentId : Nat)
    (inputs : List (AiInput incidentId)) :
    AiState.Bounded settings incidentId (Runs.run (AiState.step env settings) ({} : AiState) inputs) ∧
      ∀ (request : DiagnosisRequest incidentId) (after : AiState) (row : DiagnosisRow),
        (Runs.run (AiState.step env settings) ({} : AiState) inputs).diagnoseAndStore env settings
          request = .ok (after, row) →
          AiState.Bounded settings incidentId after ∧ ∃ d ∈ after.diagnoses, d.row = row := by
  have hinitial : AiState.Bounded settings incidentId ({} : AiState) := by
    constructor
    · exact Nat.zero_le _
    · rfl
    · exact Nat.zero_le _
    · intro d hd
      cases hd
  have hrun := Runs.invariant (I := AiState.Bounded settings incidentId)
    (fun _ input h ↦ AiState.bounded_step env h input) hinitial inputs
  exact ⟨hrun, fun request after row hok ↦ AiState.bounded_diagnoseAndStore hrun hok⟩

end CloudWard.Ai
