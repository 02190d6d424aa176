import CloudWard.Security.WebhookAuth

/-!
# The webhook with and without Redis

`authenticate_tetragon_request` of `security/webhook_auth.py:50` where the Redis server may fail:
a development or test process then keeps the nonces and the counts itself, any other refuses. A
call of Redis that fails leaves the keys as they may be.
-/

namespace CloudWard.Security.Webhook

open CloudWard.Logic

/-- How a call of the Redis server ends: it answers, or it fails and leaves the keys as they may
be. -/
inductive Reply
  | answers
  | fails (left : Gate)

/-- The keys a call leaves that does not answer. -/
def Reply.gate : Reply → Gate → Gate
  | .answers, g => g
  | .fails left, _ => left

/-- The Redis keys, the environment, and what a process keeps where Redis does not answer. -/
structure Intake where
  gate : Gate := {}
  appEnv : String
  developmentNonces : List (String × ℚ) := []
  developmentRates : List (Int × Nat) := []

/-- The environments that may go on without Redis. -/
def Intake.development (s : Intake) : Bool := s.appEnv ∈ ["development", "test"]

/-- `WEBHOOK_REPLAY_DETECTED`. -/
def replayDetected : Exc :=
  .cloudWard ⟨"WEBHOOK_REPLAY_DETECTED", "Webhook nonce was already used", 409⟩

/-- `SECURITY_EVENT_RATE_LIMITED`. -/
def rateLimited : Exc :=
  .cloudWard ⟨"SECURITY_EVENT_RATE_LIMITED", "Security event rate exceeded", 429⟩

/-- Run a program on the Redis keys. -/
def onGate {α : Type} (x : Exec Gate Exc α) : Exec Intake Exc α := fun s ↦
  ((x.run s.gate).1, { s with gate := (x.run s.gate).2 })

/-- The end of `_claim_nonce`, `webhook_auth.py:104`: the clock is a monotonic one. -/
def claimDevelopmentNonce (settings : WebhookSettings) (clock : ℚ) (nonce : String) :
    Exec Intake Exc Unit := do
  let development ← Exec.read Intake.development
  Exec.require (development = true) (.cloudWard ⟨"WEBHOOK_REPLAY_PROTECTION_UNAVAILABLE",
    "Webhook replay protection is unavailable", 503⟩)
  Exec.update fun s ↦
    { s with developmentNonces := s.developmentNonces.filter fun entry ↦ clock < entry.2 }
  let used ← Exec.read fun s ↦ s.developmentNonces.any fun entry ↦ entry.1 = nonce
  Exec.require (used = false) replayDetected
  Exec.update fun s ↦ { s with
    developmentNonces := (nonce, clock + 2 * settings.maxClockSkewSeconds) ::
      s.developmentNonces }

/-- `_claim_nonce`, `webhook_auth.py:84`. -/
def claimNonceOr (settings : WebhookSettings) (now clock : ℚ) (nonce : String) :
    Reply → Exec Intake Exc Unit
  | .answers => onGate (claimNonce settings now nonce)
  | .fails left => do
    Exec.update fun s ↦ { s with gate := left }
    claimDevelopmentNonce settings clock nonce

/-- The count of a minute in the process. -/
def Intake.developmentCount (s : Intake) (minute : Int) : Nat :=
  (s.developmentRates.lookup minute).getD 0

/-- The end of `_check_rate`, `webhook_auth.py:138`. -/
def checkDevelopmentRate (settings : WebhookSettings) (now : ℚ) : Exec Intake Exc Unit := do
  let minute := ⌊now⌋ / 60
  let development ← Exec.read Intake.development
  Exec.require (development = true) (.cloudWard ⟨"SECURITY_RATE_CONTROL_UNAVAILABLE",
    "Security event rate control is unavailable", 503⟩)
  Exec.update fun s ↦
    { s with developmentRates := s.developmentRates.filter fun entry ↦ ¬ entry.1 < minute - 1 }
  Exec.update fun s ↦ { s with
    developmentRates := (minute, s.developmentCount minute + 1) :: s.developmentRates }
  let count ← Exec.read fun s ↦ s.developmentCount minute
  Exec.require (count ≤ settings.maxEventsPerMinute) rateLimited

/-- `_check_rate`, `webhook_auth.py:121`. -/
def checkRateOr (settings : WebhookSettings) (now : ℚ) : Reply → Exec Intake Exc Unit
  | .answers => onGate (checkRate settings now)
  | .fails left => do
    Exec.update fun s ↦ { s with gate := left }
    checkDevelopmentRate settings now

/-- The timestamp of a request, `webhook_auth.py:55`. -/
def readTimestamp (codec : Codec) (r : Request) : Except Exc Int :=
  match codec.int r.timestamp with
  | some timestamp => .ok timestamp
  | none => .error authenticationFailed

/-- `authenticate_tetragon_request`, `webhook_auth.py:50`, and how its two calls of Redis end. -/
def authenticateTetragonRequest (codec : Codec) (settings : WebhookSettings) (now clock : ℚ)
    (claim rate : Reply) (r : Request) : Exec Intake Exc Unit := do
  let timestamp ← Exec.ofExcept (readTimestamp codec r)
  Exec.require (InWindow settings now timestamp) authenticationFailed
  Exec.require (16 ≤ r.nonce.length ∧ r.nonce.length ≤ 128 ∧ codec.isalnum r.nonce)
    authenticationFailed
  Exec.require ((normalizedSupplied r.signature).length = 64 ∧
    codec.hmac r.timestamp r.nonce r.body = normalizedSupplied r.signature) authenticationFailed
  claimNonceOr settings now clock r.nonce claim
  checkRateOr settings now rate

variable {codec : Codec} {settings : WebhookSettings} {now clock : ℚ}

private theorem onGate_bind {α β : Type} (x : Exec Gate Exc α) (f : α → Exec Gate Exc β) :
    onGate (x >>= f) = onGate x >>= fun a ↦ onGate (f a) := by
  funext s
  show (((x >>= f).run s.gate).1, { s with gate := ((x >>= f).run s.gate).2 }) =
    (onGate x >>= fun a ↦ onGate (f a)).run s
  have hx : (onGate x).run s = ((x.run s.gate).1, { s with gate := (x.run s.gate).2 }) := rfl
  rw [Exec.run_bind, Exec.run_bind, hx]
  rcases x.run s.gate with ⟨_ | a, g⟩
  · rfl
  · rfl

private theorem onGate_require (c : Prop) [Decidable c] (e : Exc) :
    onGate (Exec.require c e) = Exec.require c e := by
  unfold Exec.require
  split
  · rfl
  · rfl

/-- While Redis answers, the process keeps nothing itself. -/
theorem authenticateTetragonRequest_answers (r : Request) :
    authenticateTetragonRequest codec settings now clock .answers .answers r =
      onGate (authenticate codec settings now r) := by
  unfold authenticateTetragonRequest authenticate
  simp only [onGate_bind, onGate_require]
  rfl

/-- No record of the nonce is left, in Redis or in the process. -/
structure Intake.Unused (s : Intake) (now : ℚ) (nonce : String) : Prop where
  gate : s.gate.used nonce now = false
  process : ∀ entry ∈ s.developmentNonces, entry.1 ≠ nonce

/-- A call of Redis answers, or the environment goes on without it. -/
def Intake.Serves (s : Intake) (reply : Reply) : Prop :=
  reply = .answers ∨ s.development

/-- The count of this minute, where a call finds it. -/
def Intake.count (s : Intake) (now : ℚ) : Reply → Nat
  | .answers => s.gate.count (⌊now⌋ / 60) now
  | .fails _ => s.developmentCount (⌊now⌋ / 60)

/-- What the claim of a nonce leaves to the count. -/
def Intake.claimed (s : Intake) (claim : Reply) : Intake := { s with gate := claim.gate s.gate }

/-- The process claims an unused nonce where it may. -/
private theorem claimDevelopmentNonce_ok {s : Intake} {nonce : String}
    (h : ∀ entry ∈ s.developmentNonces, entry.1 ≠ nonce) (hdevelopment : s.development = true) :
    ∃ s', (claimDevelopmentNonce settings clock nonce).run s = (.ok (), s') ∧
      s'.gate = s.gate ∧ s'.appEnv = s.appEnv ∧ s'.developmentRates = s.developmentRates := by
  have hunused : (s.developmentNonces.filter fun entry ↦ clock < entry.2).any
      (fun entry ↦ entry.1 = nonce) = false := by
    rw [List.any_eq_false]
    intro entry hentry
    simpa using h entry (List.mem_filter.mp hentry).1
  refine ⟨{ s with
    developmentNonces := (nonce, clock + 2 * settings.maxClockSkewSeconds) ::
      s.developmentNonces.filter fun entry ↦ clock < entry.2 }, ?_, rfl, rfl, rfl⟩
  unfold claimDevelopmentNonce
  rw [Exec.run_bind_of_ok (Exec.run_read _ _), Exec.run_bind_require hdevelopment,
    Exec.run_bind_of_ok (Exec.run_update _ _), Exec.run_bind_of_ok (Exec.run_read _ _),
    Exec.run_bind_require hunused]
  rfl

private theorem claimDevelopmentNonce_error {s : Intake} {nonce : String}
    (h : ¬ s.development = true) :
    ∃ e s', (claimDevelopmentNonce settings clock nonce).run s = (.error e, s') := by
  refine ⟨.cloudWard ⟨"WEBHOOK_REPLAY_PROTECTION_UNAVAILABLE",
    "Webhook replay protection is unavailable", 503⟩, s, ?_⟩
  unfold claimDevelopmentNonce
  rw [Exec.run_bind_of_ok (Exec.run_read _ _)]
  apply Exec.run_bind_of_error
  rw [Exec.run_require, if_neg h]

/-- A nonce that was not used is claimed where something keeps it. -/
theorem claimNonceOr_ok {s : Intake} {nonce : String} (h : s.Unused now nonce) {claim : Reply}
    (hserves : s.Serves claim) :
    ∃ s', (claimNonceOr settings now clock nonce claim).run s = (.ok (), s') ∧
      s'.gate.rates = (s.claimed claim).gate.rates ∧ s'.appEnv = s.appEnv ∧
      s'.developmentRates = s.developmentRates := by
  cases claim with
  | answers =>
    refine ⟨{ s with gate := { s.gate with
      nonces := (nonce, now + 2 * settings.maxClockSkewSeconds) :: s.gate.nonces } }, ?_, rfl, rfl,
      rfl⟩
    have hclaim : (claimNonce settings now nonce).run s.gate = (.ok (), { s.gate with
        nonces := (nonce, now + 2 * settings.maxClockSkewSeconds) :: s.gate.nonces }) := by
      unfold claimNonce
      rw [Exec.run_bind_of_ok (Exec.run_read _ _), h.gate]
      rfl
    show (((claimNonce settings now nonce).run s.gate).1,
      { s with gate := ((claimNonce settings now nonce).run s.gate).2 }) = _
    rw [hclaim]
  | fails left =>
    have hdevelopment : s.development = true := hserves.resolve_left (by rintro ⟨⟩)
    unfold claimNonceOr
    rw [Exec.run_bind_of_ok (Exec.run_update _ _)]
    obtain ⟨s', hrun, hgate, happ, hrates⟩ := @claimDevelopmentNonce_ok settings clock
      { s with gate := left } nonce h.process hdevelopment
    exact ⟨s', hrun, congrArg Gate.rates hgate, happ, hrates⟩

/-- Nothing keeps the nonce. -/
theorem claimNonceOr_error {s : Intake} {nonce : String} {claim : Reply}
    (h : ¬ s.Serves claim) :
    ∃ e s', (claimNonceOr settings now clock nonce claim).run s = (.error e, s') := by
  cases claim with
  | answers => exact absurd (.inl rfl) h
  | fails left =>
    unfold claimNonceOr
    rw [Exec.run_bind_of_ok (Exec.run_update _ _)]
    exact claimDevelopmentNonce_error (s := { s with gate := left }) fun hdevelopment ↦
      h (.inr hdevelopment)

private theorem count_checked (g : Gate) (minute : Int) (now : ℚ) :
    ({ g with rates := (minute, g.count minute now + 1, g.expiry minute now) :: g.rates } :
      Gate).count minute now = g.count minute now + 1 := by
  have hlive : now < g.expiry minute now := by
    unfold Gate.expiry
    cases hfind : g.rates.find? fun entry ↦ entry.1 = minute ∧ now < entry.2.2 with
    | none => simp
    | some entry =>
      have := List.find?_some hfind
      simp only [decide_eq_true_iff] at this
      exact this.2
  conv_lhs => unfold Gate.count
  rw [List.find?_cons_of_pos]
  · rfl
  · simp [hlive]

private theorem developmentCount_pruned (s : Intake) (minute : Int) :
    ({ s with developmentRates := s.developmentRates.filter fun entry ↦ ¬ entry.1 < minute - 1 } :
      Intake).developmentCount minute = s.developmentCount minute := by
  have hlookup (rates : List (Int × Nat)) :
      (rates.filter fun entry ↦ ¬ entry.1 < minute - 1).lookup minute = rates.lookup minute := by
    induction rates with
    | nil => rfl
    | cons entry rest ih =>
      by_cases hkey : minute = entry.1
      · rw [List.filter_cons_of_pos (by simp; omega)]
        have hsame : (minute == entry.1) = true := by simpa using hkey
        rw [List.lookup_cons, List.lookup_cons, hsame]
      · have hne : (minute == entry.1) = false := by simpa using hkey
        rw [List.filter_cons]
        split
        · rw [List.lookup_cons, List.lookup_cons, hne]
          exact ih
        · rw [ih, List.lookup_cons, hne]
  unfold Intake.developmentCount
  rw [hlookup]

private theorem ok_iff {c : Prop} [Decidable c] {e : Exc} :
    (if c then Except.ok () else Except.error e) = .ok () ↔ c := by
  by_cases hc : c
  · simp [hc]
  · simp [hc]

private theorem checkDevelopmentRate_ok_iff {s : Intake} :
    ((checkDevelopmentRate settings now).run s).1 = .ok () ↔
      s.development = true ∧ s.developmentCount (⌊now⌋ / 60) < settings.maxEventsPerMinute := by
  unfold checkDevelopmentRate
  rw [Exec.run_bind_of_ok (Exec.run_read _ _)]
  by_cases hdevelopment : s.development = true
  · rw [Exec.run_bind_require hdevelopment, Exec.run_bind_of_ok (Exec.run_update _ _),
      Exec.run_bind_of_ok (Exec.run_update _ _), Exec.run_bind_of_ok (Exec.run_read _ _),
      Exec.run_require, ok_iff, developmentCount_pruned, and_iff_right hdevelopment]
    unfold Intake.developmentCount
    rw [List.lookup_cons_self]
    rfl
  · rw [Exec.run_bind_of_error (e := .cloudWard ⟨"SECURITY_RATE_CONTROL_UNAVAILABLE",
      "Security event rate control is unavailable", 503⟩) (by
        rw [Exec.run_require, if_neg hdevelopment])]
    constructor
    · rintro ⟨⟩
    · exact fun h ↦ absurd h.1 hdevelopment

/-- A request is counted if and only if something counts and its minute has room. -/
theorem checkRateOr_ok_iff {s : Intake} (rate : Reply) :
    ((checkRateOr settings now rate).run s).1 = .ok () ↔
      s.Serves rate ∧ s.count now rate < settings.maxEventsPerMinute := by
  cases rate with
  | answers =>
    show ((checkRate settings now).run s.gate).1 = .ok () ↔ _
    unfold checkRate
    rw [Exec.run_bind_of_ok (Exec.run_update _ _), Exec.run_bind_of_ok (Exec.run_read _ _),
      Exec.run_require, count_checked, ok_iff]
    exact ⟨fun h ↦ ⟨.inl rfl, h⟩, fun h ↦ h.2⟩
  | fails left =>
    unfold checkRateOr
    rw [Exec.run_bind_of_ok (Exec.run_update _ _), checkDevelopmentRate_ok_iff]
    constructor
    · exact fun h ↦ ⟨.inr h.1, h.2⟩
    · exact fun h ↦ ⟨h.1.resolve_left (by rintro ⟨⟩), h.2⟩

end CloudWard.Security.Webhook
