import CloudWard.Base.Errors
import CloudWard.Logic.Exec
import CloudWard.Logic.Runs
import Mathlib.Data.Rat.Floor
import Mathlib.Tactic.Linarith

/-!
# Authentication of the Tetragon webhook

`security/webhook_auth.py` over a Redis server: a request is accepted when its timestamp is
near the clock's whole second, its signature is right, its nonce was not used and its
minute is not full. The server keeps a nonce for twice the permitted skew, counted from the
instant of the first acceptance, while the window of a timestamp ends with the last
fraction of its last second. So a nonce outlives its timestamp unless it was first accepted
in the very first second of the window.
-/

namespace CloudWard.Security.Webhook

open CloudWard.Logic

/-- The settings of the webhook, `config.py:158`. -/
structure WebhookSettings where
  maxEventsPerMinute : Nat := 120
  maxClockSkewSeconds : Nat := 300
  maxEventsPerMinute_pos : 1 ≤ maxEventsPerMinute := by decide
  maxClockSkewSeconds_mem : 30 ≤ maxClockSkewSeconds ∧ maxClockSkewSeconds ≤ 900 := by decide

/-- What the gateway computes from the headers: `int(text)`, the alphanumeric test of a
nonce without its dashes, and the digest of the signed bytes. -/
structure Codec where
  int : String → Option Int
  isalnum : String → Bool
  hmac : String → String → List UInt8 → String

/-- The headers of a request and its body. -/
structure Request where
  timestamp : String
  nonce : String
  signature : String
  body : List UInt8
deriving DecidableEq

/-- The Redis keys, with the instants at which they expire, and what was accepted so far. -/
structure Gate where
  nonces : List (String × ℚ) := []
  rates : List (Int × Nat × ℚ) := []
  accepted : List (ℚ × Request) := []

/-- `WEBHOOK_AUTHENTICATION_FAILED`. -/
def authenticationFailed : Exc :=
  .cloudWard ⟨"WEBHOOK_AUTHENTICATION_FAILED", "Invalid webhook authentication", 401⟩

/-- `supplied.removeprefix("sha256=")`. -/
def normalizedSupplied (supplied : String) : String :=
  if "sha256=".toList.isPrefixOf supplied.toList then String.ofList (supplied.toList.drop 7)
  else supplied

/-- The nonce has a key that has not expired. -/
def Gate.used (g : Gate) (nonce : String) (now : ℚ) : Bool :=
  g.nonces.any fun entry ↦ entry.1 = nonce ∧ now < entry.2

/-- `_claim_nonce`, `webhook_auth.py:84`: `SET key 1 EX (2 * skew) NX`. -/
def claimNonce (settings : WebhookSettings) (now : ℚ) (nonce : String) : Exec Gate Exc Unit := do
  let used ← Exec.read fun g ↦ g.used nonce now
  Exec.require (used = false)
    (.cloudWard ⟨"WEBHOOK_REPLAY_DETECTED", "Webhook nonce was already used", 409⟩)
  Exec.update fun g ↦
    { g with nonces := (nonce, now + 2 * settings.maxClockSkewSeconds) :: g.nonces }

/-- The count of a minute's key that has not expired. -/
def Gate.count (g : Gate) (minute : Int) (now : ℚ) : Nat :=
  ((g.rates.find? fun entry ↦ entry.1 = minute ∧ now < entry.2.2).map (·.2.1)).getD 0

/-- The instant at which a minute's key expires: 61 seconds after it was made. -/
def Gate.expiry (g : Gate) (minute : Int) (now : ℚ) : ℚ :=
  ((g.rates.find? fun entry ↦ entry.1 = minute ∧ now < entry.2.2).map (·.2.2)).getD (now + 61)

/-- `_check_rate`, `webhook_auth.py:121`: `INCR`, and `EXPIRE` where the key is new. -/
def checkRate (settings : WebhookSettings) (now : ℚ) : Exec Gate Exc Unit := do
  let minute := ⌊now⌋ / 60
  Exec.update fun g ↦
    { g with rates := (minute, g.count minute now + 1, g.expiry minute now) :: g.rates }
  let count ← Exec.read fun g ↦ g.count minute now
  Exec.require (count ≤ settings.maxEventsPerMinute)
    (.cloudWard ⟨"SECURITY_EVENT_RATE_LIMITED", "Security event rate exceeded", 429⟩)

/-- The timestamp is near the whole second of the clock. -/
def InWindow (settings : WebhookSettings) (now : ℚ) (timestamp : Int) : Prop :=
  |⌊now⌋ - timestamp| ≤ settings.maxClockSkewSeconds

instance (settings : WebhookSettings) (now : ℚ) (timestamp : Int) :
    Decidable (InWindow settings now timestamp) := by
  unfold InWindow
  infer_instance

/-- The nonce and the signature of a request are well formed, and the signature is right. -/
def Signed (codec : Codec) (r : Request) : Prop :=
  (16 ≤ r.nonce.length ∧ r.nonce.length ≤ 128 ∧ codec.isalnum r.nonce) ∧
    (normalizedSupplied r.signature).length = 64 ∧
    codec.hmac r.timestamp r.nonce r.body = normalizedSupplied r.signature

instance (codec : Codec) (r : Request) : Decidable (Signed codec r) := by
  unfold Signed
  infer_instance

/-- `authenticate_tetragon_request`, `webhook_auth.py:50`. -/
def authenticate (codec : Codec) (settings : WebhookSettings) (now : ℚ) (r : Request) :
    Exec Gate Exc Unit := do
  let timestamp ← Exec.ofExcept
    (match codec.int r.timestamp with
      | some timestamp => .ok timestamp
      | none => .error authenticationFailed)
  Exec.require (InWindow settings now timestamp) authenticationFailed
  Exec.require (16 ≤ r.nonce.length ∧ r.nonce.length ≤ 128 ∧ codec.isalnum r.nonce)
    authenticationFailed
  Exec.require ((normalizedSupplied r.signature).length = 64 ∧
    codec.hmac r.timestamp r.nonce r.body = normalizedSupplied r.signature) authenticationFailed
  claimNonce settings now r.nonce
  checkRate settings now

/-- A request that arrives: what was accepted is noted. -/
def arrive (codec : Codec) (settings : WebhookSettings) (g : Gate) (arrival : ℚ × Request) :
    Gate :=
  match (authenticate codec settings arrival.1 arrival.2).run g with
  | (.ok (), g') => { g' with accepted := arrival :: g'.accepted }
  | (.error _, g') => g'

/-! ### What one arrival does -/

section Arrivals

variable {codec : Codec} {settings : WebhookSettings} {g : Gate} {now : ℚ} {r : Request}

/-- What the gate knows after an arrival. -/
structure Arrived (codec : Codec) (settings : WebhookSettings) (now : ℚ) (r : Request)
    (g g' : Gate) : Prop where
  nonces : ∀ entry ∈ g.nonces, entry ∈ g'.nonces
  accepted : g'.accepted = g.accepted ∨
    (g'.accepted = (now, r) :: g.accepted ∧ g.used r.nonce now = false ∧
      (r.nonce, now + 2 * settings.maxClockSkewSeconds) ∈ g'.nonces ∧
      ∃ timestamp, codec.int r.timestamp = some timestamp ∧ InWindow settings now timestamp)

private theorem frames_checkRate_nonces (settings : WebhookSettings) (now : ℚ) :
    Exec.Frames (fun g : Gate ↦ (g.nonces, g.accepted)) (checkRate settings now) := by
  apply Exec.frames_bind
  · exact Exec.frames_update fun _ ↦ rfl
  intro _
  apply Exec.frames_bind (Exec.frames_read _)
  intro count
  exact Exec.frames_require _ _

/-- A request is accepted only in its window and with an unused nonce. -/
theorem authenticate_spec (codec : Codec) (settings : WebhookSettings) (now : ℚ) (r : Request)
    (g : Gate) :
    Exec.Triple (· = g) (authenticate codec settings now r)
      (fun _ g' ↦ g'.nonces = (r.nonce, now + 2 * settings.maxClockSkewSeconds) :: g.nonces ∧
        g'.accepted = g.accepted ∧ g.used r.nonce now = false ∧
        ∃ timestamp, codec.int r.timestamp = some timestamp ∧ InWindow settings now timestamp)
      (fun _ g' ↦ (∀ entry ∈ g.nonces, entry ∈ g'.nonces) ∧ g'.accepted = g.accepted) := by
  have hkeep (g' : Gate) (h : g' = g) :
      (∀ entry ∈ g.nonces, entry ∈ g'.nonces) ∧ g'.accepted = g.accepted := by
    subst h
    exact ⟨fun _ h ↦ h, rfl⟩
  apply Exec.Triple.bind
    (Q := fun timestamp g' ↦ g' = g ∧ codec.int r.timestamp = some timestamp)
  · apply Exec.Triple.ofExcept
    · intro timestamp ht g' hg
      cases hint : codec.int r.timestamp with
      | none =>
        rw [hint] at ht
        cases ht
      | some t =>
        rw [hint] at ht
        cases ht
        exact ⟨hg, rfl⟩
    · exact fun _ _ g' hg ↦ hkeep g' hg
  intro timestamp
  apply Exec.Triple.assume
  intro hint
  apply Exec.Triple.bind (Q := fun _ g' ↦ g' = g ∧ InWindow settings now timestamp)
  · exact Exec.Triple.require (fun h g' hg ↦ ⟨hg, h⟩) fun _ g' hg ↦ hkeep g' hg
  intro _
  apply Exec.Triple.assume
  intro hwindow
  apply Exec.Triple.bind (Q := fun _ g' ↦ g' = g)
  · exact Exec.Triple.require (fun _ g' hg ↦ hg) fun _ g' hg ↦ hkeep g' hg
  intro _
  apply Exec.Triple.bind (Q := fun _ g' ↦ g' = g)
  · exact Exec.Triple.require (fun _ g' hg ↦ hg) fun _ g' hg ↦ hkeep g' hg
  intro _
  apply Exec.Triple.bind (Q := fun _ g' ↦
    (g'.nonces, g'.accepted) =
      ((r.nonce, now + 2 * settings.maxClockSkewSeconds) :: g.nonces, g.accepted) ∧
    g.used r.nonce now = false)
  · apply Exec.Triple.bind (Q := fun used g' ↦ g' = g ∧ used = g.used r.nonce now)
    · apply Exec.Triple.read
      rintro g' rfl
      exact ⟨rfl, rfl⟩
    intro used
    apply Exec.Triple.assume
    rintro rfl
    apply Exec.Triple.bind (Q := fun _ g' ↦ g' = g ∧ g.used r.nonce now = false)
    · exact Exec.Triple.require (fun h g' hg ↦ ⟨hg, h⟩) fun _ g' hg ↦ hkeep g' hg
    intro _
    apply Exec.Triple.update
    rintro g' ⟨rfl, hunused⟩
    exact ⟨rfl, hunused⟩
  intro _
  apply ((frames_checkRate_nonces settings now).keeps fun s ↦
    s = ((r.nonce, now + 2 * settings.maxClockSkewSeconds) :: g.nonces, g.accepted) ∧
    g.used r.nonce now = false).mono
  · exact fun _ h ↦ h
  · rintro _ g' ⟨heq, hunused⟩
    obtain ⟨hnonces, haccepted⟩ := Prod.mk.inj heq
    exact ⟨hnonces, haccepted, hunused, timestamp, hint, hwindow⟩
  · rintro _ g' ⟨heq, -⟩
    obtain ⟨hnonces, haccepted⟩ := Prod.mk.inj heq
    rw [hnonces]
    exact ⟨fun _ h ↦ List.mem_cons_of_mem _ h, haccepted⟩

/-- What an arrival adds. -/
theorem arrived_arrive (codec : Codec) (settings : WebhookSettings) (g : Gate) (now : ℚ)
    (r : Request) : Arrived codec settings now r g (arrive codec settings g (now, r)) := by
  have hspec := authenticate_spec codec settings now r g g rfl
  unfold arrive
  rcases hrun : (authenticate codec settings now r).run g with ⟨e | _, g'⟩
  · rw [hrun] at hspec
    exact ⟨hspec.1, .inl hspec.2⟩
  · rw [hrun] at hspec
    obtain ⟨hnonces, haccepted, hunused, hwindow⟩ := hspec
    constructor
    · intro entry h
      rw [hnonces]
      exact List.mem_cons_of_mem _ h
    · right
      refine ⟨congrArg _ haccepted, hunused, ?_, hwindow⟩
      rw [hnonces]
      exact List.mem_cons_self

end Arrivals

/-! ### Runs -/

section Runs

variable {codec : Codec} {settings : WebhookSettings}

/-- Two accepted requests differ in their nonce, their timestamp or their body. -/
def Distinct (a b : ℚ × Request) : Prop :=
  ¬ (a.2.nonce = b.2.nonce ∧ a.2.timestamp = b.2.timestamp ∧ a.2.body = b.2.body)

/-- The request arrives in the first second of the window of its timestamp. -/
def AtOpening (codec : Codec) (settings : WebhookSettings) (arrival : ℚ × Request) : Prop :=
  ∃ timestamp, codec.int arrival.2.timestamp = some timestamp ∧
    ⌊arrival.1⌋ = timestamp - settings.maxClockSkewSeconds

/-- What is known of an accepted request until its window closes. -/
structure Kept (codec : Codec) (settings : WebhookSettings) (g : Gate) (a : ℚ × Request) :
    Prop where
  nonce : (a.2.nonce, a.1 + 2 * settings.maxClockSkewSeconds) ∈ g.nonces
  window : ∃ timestamp, codec.int a.2.timestamp = some timestamp ∧
    InWindow settings a.1 timestamp
  late : ¬ AtOpening codec settings a

/-- A nonce is still known while the timestamp of its request is accepted. -/
theorem used_of_kept {g : Gate} {a b : ℚ × Request} (ha : Kept codec settings g a)
    (hnonce : a.2.nonce = b.2.nonce) (htimestamp : a.2.timestamp = b.2.timestamp)
    {timestamp : Int} (hint : codec.int b.2.timestamp = some timestamp)
    (hb : InWindow settings b.1 timestamp) : g.used b.2.nonce b.1 = true := by
  obtain ⟨timestamp', hint', hwindow⟩ := ha.window
  have hsame : timestamp' = timestamp := by
    rw [htimestamp, hint] at hint'
    exact (Option.some.inj hint').symm
  subst hsame
  have hlate : ⌊a.1⌋ ≠ timestamp' - settings.maxClockSkewSeconds :=
    fun h ↦ ha.late ⟨timestamp', hint', h⟩
  -- the first acceptance is a whole second after the window opened, the replay before it ends
  have hfirst : timestamp' - settings.maxClockSkewSeconds + 1 ≤ ⌊a.1⌋ := by
    have := (abs_le.mp hwindow).1
    omega
  have hlast : ⌊b.1⌋ ≤ timestamp' + settings.maxClockSkewSeconds := by
    have := (abs_le.mp hb).2
    omega
  have hlow : ((timestamp' - settings.maxClockSkewSeconds + 1 : Int) : ℚ) ≤ a.1 :=
    Int.le_floor.mp hfirst
  have hhigh : b.1 < ((timestamp' + settings.maxClockSkewSeconds : Int) : ℚ) + 1 := by
    have h : (⌊b.1⌋ : ℚ) ≤ ((timestamp' + settings.maxClockSkewSeconds : Int) : ℚ) := by
      exact_mod_cast hlast
    have := Int.lt_floor_add_one b.1
    linarith
  have hlive : b.1 < a.1 + 2 * settings.maxClockSkewSeconds := by
    push_cast at hlow hhigh
    linarith
  unfold Gate.used
  rw [List.any_eq_true]
  refine ⟨_, ha.nonce, ?_⟩
  simp [hnonce, hlive]

/-- What arrivals that open no window keep. -/
structure Protected (codec : Codec) (settings : WebhookSettings) (g : Gate) : Prop where
  kept : ∀ a ∈ g.accepted, Kept codec settings g a
  distinct : g.accepted.Pairwise Distinct

theorem protected_arrive {g : Gate} {a : ℚ × Request} (hg : Protected codec settings g)
    (hlate : ¬ AtOpening codec settings a) :
    Protected codec settings (arrive codec settings g a) := by
  obtain ⟨now, r⟩ := a
  have harrived := arrived_arrive codec settings g now r
  have hold : ∀ b ∈ g.accepted, Kept codec settings (arrive codec settings g (now, r)) b := by
    intro b hb
    have := hg.kept b hb
    exact ⟨harrived.nonces _ this.nonce, this.window, this.late⟩
  rcases harrived.accepted with heq | ⟨heq, hunused, hnonce, timestamp, hint, hwindow⟩
  · constructor
    · rw [heq]
      exact hold
    · rw [heq]
      exact hg.distinct
  · constructor
    · rw [heq]
      intro b hb
      rcases List.mem_cons.mp hb with rfl | hb
      · exact ⟨hnonce, ⟨timestamp, hint, hwindow⟩, hlate⟩
      · exact hold b hb
    · rw [heq]
      refine List.pairwise_cons.mpr ⟨?_, hg.distinct⟩
      rintro b hb ⟨hn, ht, -⟩
      have hused := used_of_kept (b := (now, r)) (hg.kept b hb) hn.symm ht.symm hint hwindow
      rw [hunused] at hused
      cases hused

theorem protected_run (arrivals : List (ℚ × Request))
    (hlate : ∀ a ∈ arrivals, ¬ AtOpening codec settings a) :
    Protected codec settings (Runs.run (arrive codec settings) {} arrivals) := by
  have hinit : Protected codec settings ({} : Gate) := by
    constructor
    · intro a ha
      cases ha
    · exact List.Pairwise.nil
  have hstep : ∀ (arrivals : List (ℚ × Request)) (g : Gate), Protected codec settings g →
      (∀ a ∈ arrivals, ¬ AtOpening codec settings a) →
      Protected codec settings (Runs.run (arrive codec settings) g arrivals) := by
    intro arrivals
    induction arrivals with
    | nil => exact fun _ hg _ ↦ hg
    | cons a arrivals ih =>
      intro g hg hlate
      rw [Runs.run_cons]
      apply ih
      · exact protected_arrive hg (hlate a List.mem_cons_self)
      · exact fun b hb ↦ hlate b (List.mem_cons_of_mem _ hb)
  exact hstep arrivals {} hinit hlate

end Runs

/-! ### The first second of a window -/

section Opening

variable {codec : Codec} {settings : WebhookSettings}

/-- A signed request in its window with an unused nonce is accepted while its minute has
room. -/
theorem authenticate_eq_ok {g : Gate} {now : ℚ} {r : Request} {timestamp : Int}
    (hint : codec.int r.timestamp = some timestamp) (hwindow : InWindow settings now timestamp)
    (hsigned : Signed codec r) (hunused : g.used r.nonce now = false)
    (hroom : g.count (⌊now⌋ / 60) now = 0) (hlive : now < g.expiry (⌊now⌋ / 60) now) :
    (authenticate codec settings now r).run g = (.ok (),
      { g with
        nonces := (r.nonce, now + 2 * settings.maxClockSkewSeconds) :: g.nonces
        rates := (⌊now⌋ / 60, 1, g.expiry (⌊now⌋ / 60) now) :: g.rates }) := by
  have hparse : (Exec.ofExcept (σ := Gate)
      (match codec.int r.timestamp with
        | some timestamp => .ok timestamp
        | none => .error authenticationFailed)).run g = (.ok timestamp, g) := by
    rw [hint]
    rfl
  have hclaim : (claimNonce settings now r.nonce).run g = (.ok (),
      { g with nonces := (r.nonce, now + 2 * settings.maxClockSkewSeconds) :: g.nonces }) := by
    unfold claimNonce
    rw [Exec.run_bind_of_ok (Exec.run_read _ _), hunused]
    rfl
  have hrate (g' : Gate) (hrates : g'.rates = g.rates) : (checkRate settings now).run g' =
      (.ok (), { g' with
        rates := (⌊now⌋ / 60, 1, g.expiry (⌊now⌋ / 60) now) :: g'.rates }) := by
    have hcount : g'.count (⌊now⌋ / 60) now = 0 := by
      unfold Gate.count at hroom ⊢
      rw [hrates]
      exact hroom
    have hexpiry : g'.expiry (⌊now⌋ / 60) now = g.expiry (⌊now⌋ / 60) now := by
      unfold Gate.expiry
      rw [hrates]
    have hone : 1 ≤ settings.maxEventsPerMinute := settings.maxEventsPerMinute_pos
    unfold checkRate
    rw [Exec.run_bind_of_ok (Exec.run_update _ _), Exec.run_bind_of_ok (Exec.run_read _ _),
      Exec.run_require, hcount, hexpiry]
    simp [Gate.count, hlive, hone]
  unfold authenticate
  rw [Exec.run_bind_of_ok hparse, Exec.run_bind_require hwindow,
    Exec.run_bind_require hsigned.1, Exec.run_bind_require hsigned.2,
    Exec.run_bind_of_ok hclaim]
  exact hrate _ rfl

/-- A signed request of the first second of its window is accepted again when its nonce
has expired, in the window's last second. -/
theorem accepted_twice {now : ℚ} {r : Request} (hopening : AtOpening codec settings (now, r))
    (hsigned : Signed codec r) :
    (Runs.run (arrive codec settings) {}
      [(now, r), (now + 2 * settings.maxClockSkewSeconds, r)]).accepted =
      [(now + 2 * settings.maxClockSkewSeconds, r), (now, r)] := by
  obtain ⟨timestamp, hint, hfloor⟩ := hopening
  have hskew := settings.maxClockSkewSeconds_mem
  have hfloor : ⌊now⌋ = timestamp - settings.maxClockSkewSeconds := hfloor
  have hfloor' : ⌊now + 2 * (settings.maxClockSkewSeconds : ℚ)⌋ =
      timestamp + settings.maxClockSkewSeconds := by
    have hcast : now + 2 * (settings.maxClockSkewSeconds : ℚ) =
        now + ((2 * settings.maxClockSkewSeconds : Int) : ℚ) := by
      push_cast
      ring
    rw [hcast, Int.floor_add_intCast, hfloor]
    ring
  have hopen : InWindow settings now timestamp := by
    unfold InWindow
    rw [abs_le]
    omega
  have hclose : InWindow settings (now + 2 * settings.maxClockSkewSeconds) timestamp := by
    unfold InWindow
    rw [abs_le]
    omega
  have hfirst := authenticate_eq_ok (g := {}) hint hopen hsigned rfl rfl (by simp [Gate.expiry])
  -- the replay counts in another minute, and the key of the nonce has expired
  have hminute : ⌊now⌋ / 60 ≠ ⌊now + 2 * (settings.maxClockSkewSeconds : ℚ)⌋ / 60 := by omega
  have hsecond := authenticate_eq_ok (g := {
      nonces := [(r.nonce, now + 2 * settings.maxClockSkewSeconds)]
      rates := [(⌊now⌋ / 60, 1, ({} : Gate).expiry (⌊now⌋ / 60) now)]
      accepted := [(now, r)] })
    hint hclose hsigned (by simp [Gate.used]) (by simp [Gate.count, hminute])
    (by simp [Gate.expiry, hminute])
  have harrive : arrive codec settings {} (now, r) = {
      nonces := [(r.nonce, now + 2 * settings.maxClockSkewSeconds)]
      rates := [(⌊now⌋ / 60, 1, ({} : Gate).expiry (⌊now⌋ / 60) now)]
      accepted := [(now, r)] } := by
    unfold arrive
    rw [hfirst]
  rw [Runs.run_cons, harrive, Runs.run_cons, Runs.run_nil]
  unfold arrive
  rw [hsecond]

end Opening

/-- No request is accepted twice in a run none of whose arrivals is in the first second of
its window; and from any signed request that is, some run accepts it twice. -/
theorem replay_protection (codec : Codec) (settings : WebhookSettings) :
    (∀ arrivals : List (ℚ × Request), (∀ a ∈ arrivals, ¬ AtOpening codec settings a) →
      (Runs.run (arrive codec settings) {} arrivals).accepted.Pairwise Distinct) ∧
    ∀ now r, AtOpening codec settings (now, r) → Signed codec r → ∃ later, now ≤ later ∧
      ¬ (Runs.run (arrive codec settings) {} [(now, r), (later, r)]).accepted.Pairwise
        Distinct := by
  constructor
  · exact fun arrivals hlate ↦ (protected_run arrivals hlate).distinct
  · intro now r hopening hsigned
    refine ⟨now + 2 * settings.maxClockSkewSeconds, ?_, ?_⟩
    · have : (0 : ℚ) ≤ settings.maxClockSkewSeconds := Nat.cast_nonneg _
      linarith
    · rw [accepted_twice hopening hsigned, List.pairwise_cons]
      rintro ⟨hdistinct, -⟩
      exact hdistinct (now, r) List.mem_cons_self ⟨rfl, rfl, rfl⟩

/-- Decimal timestamps, ASCII nonces and a constant digest. -/
def plainCodec : Codec where
  int text :=
    if text.toList.all Char.isDigit then
      some (text.toList.foldl (fun n c ↦ 10 * n + (c.toNat - '0'.toNat)) 0)
    else none
  isalnum nonce := nonce.toList.all fun c ↦ c = '-' || c.isAlphanum
  hmac _ _ _ := "0000000000000000000000000000000000000000000000000000000000000000"

/-- A request dated 300 seconds after it arrives at 1000. -/
def ahead : Request where
  timestamp := "1300"
  nonce := "0123456789abcdef"
  signature := "sha256=0000000000000000000000000000000000000000000000000000000000000000"
  body := []

/-- That request is accepted again half a second into the last second of its window. -/
theorem ahead_accepted_twice :
    (Runs.run (arrive plainCodec {}) {} [(1000, ahead), (3201 / 2, ahead)]).accepted =
      [(3201 / 2, ahead), (1000, ahead)] := by
  decide +kernel

end CloudWard.Security.Webhook
