import CloudWard.Base.Python
import CloudWard.Security.WebhookFallback

/-!
# Signatures of the webhook

Both ends of the signature: `_deliver` of `security-forwarder/forwarder.py:261` and
`authenticate_tetragon_request` of `security/webhook_auth.py:50`. The digest, of a key and a
message, is a parameter. The parts of a signed message are joined with dots, and neither a number
nor a nonce has one.
-/

namespace CloudWard.Security.Webhook

open CloudWard.Logic Python

/-! ### Signed messages -/

/-- The bytes that are signed, `webhook_auth.py:69` and `forwarder.py:266`. -/
def signedBytes (timestamp nonce : String) (body : List UInt8) : List UInt8 :=
  encode timestamp ++ [0x2e] ++ encode nonce ++ [0x2e] ++ body

/-- A digest of 32 bytes, of a key and a message. -/
abbrev Digest : Type := List UInt8 → List UInt8 → Vector UInt8 32

/-- `bytes.hex()`. -/
def hex (bytes : List UInt8) : String :=
  String.ofList (bytes.flatMap fun b ↦
    [Nat.digitChar (b.toNat / 16), Nat.digitChar (b.toNat % 16)])

/-- `hmac.new(secret.encode(), message, hashlib.sha256).hexdigest()`. -/
def hexdigest (digest : Digest) (secret : String) (message : List UInt8) : String :=
  hex (digest (encode secret) message).toList

/-- What the gateway computes from the headers. -/
def tetragonCodec (u : Unicode) (digest : Digest) (secret : String) : Codec where
  int := Python.int u
  isalnum nonce := isAlnumText u (nonce.toList.filter (· ≠ '-'))
  hmac timestamp nonce body := hexdigest digest secret (signedBytes timestamp nonce body)

/-- The request `_deliver` builds at a second of its clock, with the 16 bytes of a token. -/
def deliver (digest : Digest) (secret : String) (seconds : Nat) (token : Vector UInt8 16)
    (body : List UInt8) : Request where
  timestamp := toString seconds
  nonce := hex token.toList
  signature := "sha256=" ++
    hexdigest digest secret (signedBytes (toString seconds) (hex token.toList) body)
  body

variable {u : Unicode} {digest : Digest} {secret : String}

theorem length_hex (bytes : List UInt8) : (hex bytes).length = 2 * bytes.length := by
  rw [hex, String.length_ofList]
  induction bytes with
  | nil => rfl
  | cons b rest ih =>
    rw [List.flatMap_cons, List.length_append, ih, List.length_cons, List.length_cons,
      List.length_cons, List.length_nil]
    omega

private theorem isAlphanum_digitChar {n : Nat} (h : n < 16) :
    (Nat.digitChar n).isAlphanum ∧ (Nat.digitChar n).toNat < 128 ∧ Nat.digitChar n ≠ '-' := by
  have hall : ∀ n < 16, (Nat.digitChar n).isAlphanum ∧ (Nat.digitChar n).toNat < 128 ∧
      Nat.digitChar n ≠ '-' := by decide
  exact hall n h

private theorem of_mem_hex {bytes : List UInt8} {c : Char} (h : c ∈ (hex bytes).toList) :
    c.isAlphanum ∧ c.toNat < 128 ∧ c ≠ '-' := by
  rw [hex, String.toList_ofList] at h
  obtain ⟨b, -, hc⟩ := List.mem_flatMap.mp h
  have hb := b.toNat_lt
  rcases List.mem_cons.mp hc with rfl | hc
  · exact isAlphanum_digitChar (by omega)
  · rw [List.mem_singleton.mp hc]
    exact isAlphanum_digitChar (by omega)

private theorem isAlnumText_hex {bytes : List UInt8} (h : bytes ≠ []) :
    isAlnumText u ((hex bytes).toList.filter (· ≠ '-')) := by
  have hfilter : (hex bytes).toList.filter (· ≠ '-') = (hex bytes).toList := by
    rw [List.filter_eq_self]
    exact fun c hc ↦ decide_eq_true (of_mem_hex hc).2.2
  have hlength := length_hex bytes
  have hpos : 0 < bytes.length := List.length_pos_iff.mpr h
  simp only [isAlnumText, decide_eq_true_iff, hfilter]
  constructor
  · intro hnil
    rw [← String.length_toList, hnil, List.length_nil] at hlength
    omega
  · rw [List.all_eq_true]
    intro c hc
    obtain ⟨halnum, hlt, -⟩ := of_mem_hex hc
    unfold isAlnum
    rwa [if_pos hlt]

/-- The gateway takes the prefix off that the forwarder puts before a signature. -/
theorem normalizedSupplied_append (signature : String) :
    normalizedSupplied ("sha256=" ++ signature) = signature := by
  unfold normalizedSupplied
  rw [String.toList_append, if_pos (List.isPrefixOf_iff_prefix.mpr (List.prefix_append _ _))]
  have hdrop : ("sha256=".toList ++ signature.toList).drop 7 = signature.toList := rfl
  rw [hdrop, String.ofList_toList]

/-- The signature of a delivered request is right. -/
theorem signed_deliver (seconds : Nat) (token : Vector UInt8 16) (body : List UInt8) :
    Signed (tetragonCodec u digest secret) (deliver digest secret seconds token body) := by
  have hnonce : (hex token.toList).length = 32 := by
    rw [length_hex, Vector.length_toList]
  have hsignature : (hexdigest digest secret
      (signedBytes (toString seconds) (hex token.toList) body)).length = 64 := by
    rw [hexdigest, length_hex, Vector.length_toList]
  have hne : token.toList ≠ [] := by
    rw [ne_eq, ← List.length_eq_zero_iff, Vector.length_toList]
    decide
  refine ⟨⟨?_, ?_, isAlnumText_hex hne⟩, ?_, ?_⟩
  · exact hnonce ▸ by decide
  · exact hnonce ▸ by decide
  · rw [deliver, normalizedSupplied_append, hsignature]
  · rw [deliver, normalizedSupplied_append]
    rfl

/-! ### Messages and their parts -/

/-- The timestamp and the nonce of a request pass their checks. -/
structure WellFormed (codec : Codec) (r : Request) : Prop where
  timestamp : (codec.int r.timestamp).isSome
  nonce : 16 ≤ r.nonce.length ∧ r.nonce.length ≤ 128 ∧ codec.isalnum r.nonce

private theorem int_deliver (seconds : Nat) (token : Vector UInt8 16) (body : List UInt8) :
    (tetragonCodec u digest secret).int (deliver digest secret seconds token body).timestamp =
      some (seconds : Int) :=
  int_toString seconds

theorem wellFormed_deliver (seconds : Nat) (token : Vector UInt8 16) (body : List UInt8) :
    WellFormed (tetragonCodec u digest secret) (deliver digest secret seconds token body) :=
  ⟨Option.isSome_iff_exists.mpr ⟨_, int_deliver seconds token body⟩,
    (signed_deliver seconds token body).1⟩

private theorem dot_notMem_timestamp {r : Request}
    (h : WellFormed (tetragonCodec u digest secret) r) : 0x2e ∉ encode r.timestamp := by
  obtain ⟨n, hn⟩ := Option.isSome_iff_exists.mp h.timestamp
  exact dot_notMem_encode (dot_notMem_of_int hn)

private theorem dot_notMem_nonce {r : Request}
    (h : WellFormed (tetragonCodec u digest secret) r) : 0x2e ∉ encode r.nonce := by
  apply dot_notMem_encode
  intro hdot
  apply dot_notMem_of_isAlnumText h.nonce.2.2
  exact List.mem_filter.mpr ⟨hdot, by decide⟩

/-- What stands before the first separator, and after it. -/
private theorem append_cons_inj {α : Type} {dot : α} {rest rest' : List α} :
    ∀ {front front' : List α}, dot ∉ front → dot ∉ front' →
      front ++ dot :: rest = front' ++ dot :: rest' → front = front' ∧ rest = rest'
  | [], [], _, _, h => ⟨rfl, (List.cons.inj h).2⟩
  | [], a :: _, _, hdot, h => absurd ((List.cons.inj h).1 ▸ List.mem_cons_self) hdot
  | a :: _, [], hdot, _, h => absurd ((List.cons.inj h).1 ▸ List.mem_cons_self) hdot
  | a :: front, b :: front', hdot, hdot', h => by
    obtain ⟨rfl, htail⟩ := List.cons.inj h
    obtain ⟨rfl, hrest⟩ := append_cons_inj (fun hmem ↦ hdot (List.mem_cons_of_mem _ hmem))
      (fun hmem ↦ hdot' (List.mem_cons_of_mem _ hmem)) htail
    exact ⟨rfl, hrest⟩

/-- A signed message has one timestamp, one nonce and one body. -/
theorem signedBytes_inj {r r' : Request} (h : WellFormed (tetragonCodec u digest secret) r)
    (h' : WellFormed (tetragonCodec u digest secret) r')
    (heq : signedBytes r.timestamp r.nonce r.body = signedBytes r'.timestamp r'.nonce r'.body) :
    r.timestamp = r'.timestamp ∧ r.nonce = r'.nonce ∧ r.body = r'.body := by
  simp only [signedBytes, List.append_assoc, List.singleton_append] at heq
  obtain ⟨htimestamp, hrest⟩ :=
    append_cons_inj (dot_notMem_timestamp h) (dot_notMem_timestamp h') heq
  obtain ⟨hnonce, hbody⟩ := append_cons_inj (dot_notMem_nonce h) (dot_notMem_nonce h') hrest
  exact ⟨encode_injective htimestamp, encode_injective hnonce, hbody⟩

variable {settings : WebhookSettings} {now clock : ℚ}

/-! ### Delivered requests -/

/-- A delivered request near the gateway's clock is accepted if and only if its nonce is kept and
its minute has room. -/
theorem deliver_accepted_iff (u : Unicode) (digest : Digest) (secret : String)
    (settings : WebhookSettings) (now clock : ℚ) (claim rate : Reply) (s : Intake) (seconds : Nat)
    (token : Vector UInt8 16) (body : List UInt8) (hskew : InWindow settings now seconds)
    (hfresh : s.Unused now (hex token.toList)) :
    ((authenticateTetragonRequest (tetragonCodec u digest secret) settings now clock claim rate
        (deliver digest secret seconds token body)).run s).1 = .ok () ↔
      (s.Serves claim ∧ s.Serves rate) ∧
        (s.claimed claim).count now rate < settings.maxEventsPerMinute := by
  have hsigned : Signed (tetragonCodec u digest secret)
      (deliver digest secret seconds token body) := signed_deliver seconds token body
  have htimestamp : readTimestamp (tetragonCodec u digest secret)
      (deliver digest secret seconds token body) = .ok (seconds : Int) := by
    unfold readTimestamp
    rw [int_deliver]
  unfold authenticateTetragonRequest
  rw [htimestamp, Exec.run_bind_of_ok (Exec.run_ofExcept _ _), Exec.run_bind_require hskew, Exec.run_bind_require hsigned.1,
    Exec.run_bind_require hsigned.2]
  by_cases hclaim : s.Serves claim
  · obtain ⟨s', hrun, hgate, happ, hrates⟩ := @claimNonceOr_ok settings now clock s
      (deliver digest secret seconds token body).nonce hfresh claim hclaim
    have hserves : s'.Serves rate ↔ s.Serves rate := by
      unfold Intake.Serves Intake.development
      rw [happ]
    have hcount : s'.count now rate = (s.claimed claim).count now rate := by
      cases rate with
      | answers =>
        unfold Intake.count Gate.count
        dsimp only
        rw [hgate]
      | fails left =>
        unfold Intake.count Intake.developmentCount
        dsimp only
        rw [hrates]
        rfl
    rw [Exec.run_bind_of_ok hrun, checkRateOr_ok_iff, hserves, hcount, and_iff_right hclaim]
  · obtain ⟨e, s', hrun⟩ := @claimNonceOr_error settings now clock s
      (deliver digest secret seconds token body).nonce claim hclaim
    rw [Exec.run_bind_of_error hrun]
    constructor
    · rintro ⟨⟩
    · exact fun h ↦ absurd h.1.1 hclaim

/-- Two requests with the same right signature are the same, or two messages collide. -/
private theorem same_of_signed {r r' : Request} (h : WellFormed (tetragonCodec u digest secret) r)
    (h' : WellFormed (tetragonCodec u digest secret) r')
    (hsigned : Signed (tetragonCodec u digest secret) r)
    (hsigned' : Signed (tetragonCodec u digest secret) r')
    (heq : normalizedSupplied r.signature = normalizedSupplied r'.signature) :
    (r.timestamp = r'.timestamp ∧ r.nonce = r'.nonce ∧ r.body = r'.body) ∨
      (signedBytes r.timestamp r.nonce r.body ≠ signedBytes r'.timestamp r'.nonce r'.body ∧
        hexdigest digest secret (signedBytes r.timestamp r.nonce r.body) =
          hexdigest digest secret (signedBytes r'.timestamp r'.nonce r'.body)) := by
  by_cases hbytes : signedBytes r.timestamp r.nonce r.body =
      signedBytes r'.timestamp r'.nonce r'.body
  · exact .inl (signedBytes_inj h h' hbytes)
  · refine .inr ⟨hbytes, ?_⟩
    calc hexdigest digest secret (signedBytes r.timestamp r.nonce r.body)
      _ = normalizedSupplied r.signature := hsigned.2.2
      _ = normalizedSupplied r'.signature := heq
      _ = hexdigest digest secret (signedBytes r'.timestamp r'.nonce r'.body) :=
        hsigned'.2.2.symm

/-- A delivered request passes every check of the signature, and is accepted if and only if its
nonce is kept and its minute has room; a signed message has one timestamp, one nonce and one body;
and a signature is right for one request only, unless the digest collides. -/
theorem signature_authenticates (u : Unicode) (digest : Digest) (secret : String)
    (settings : WebhookSettings) :
    (∀ now clock claim rate (s : Intake) (seconds : Nat) token body,
      InWindow settings now seconds → s.Unused now (hex token.toList) →
      (((authenticateTetragonRequest (tetragonCodec u digest secret) settings now clock claim rate
          (deliver digest secret seconds token body)).run s).1 = .ok () ↔
        (s.Serves claim ∧ s.Serves rate) ∧
          (s.claimed claim).count now rate < settings.maxEventsPerMinute)) ∧
    (∀ r r', WellFormed (tetragonCodec u digest secret) r →
      WellFormed (tetragonCodec u digest secret) r' →
      signedBytes r.timestamp r.nonce r.body = signedBytes r'.timestamp r'.nonce r'.body →
      r.timestamp = r'.timestamp ∧ r.nonce = r'.nonce ∧ r.body = r'.body) ∧
    ∀ r r', WellFormed (tetragonCodec u digest secret) r →
      WellFormed (tetragonCodec u digest secret) r' → Signed (tetragonCodec u digest secret) r →
      Signed (tetragonCodec u digest secret) r' →
      normalizedSupplied r.signature = normalizedSupplied r'.signature →
      (r.timestamp = r'.timestamp ∧ r.nonce = r'.nonce ∧ r.body = r'.body) ∨
        (signedBytes r.timestamp r.nonce r.body ≠ signedBytes r'.timestamp r'.nonce r'.body ∧
          hexdigest digest secret (signedBytes r.timestamp r.nonce r.body) =
            hexdigest digest secret (signedBytes r'.timestamp r'.nonce r'.body)) := by
  refine ⟨?_, fun r r' ↦ signedBytes_inj, fun r r' ↦ same_of_signed⟩
  intro now clock claim rate s seconds token body hskew hfresh
  exact deliver_accepted_iff u digest secret settings now clock claim rate s seconds token body
    hskew hfresh

/-! ### Two deliveries -/

/-- The bytes of two tokens. -/
private def tokens (n : UInt8) : Vector UInt8 16 :=
  Vector.ofFn fun i ↦ 16 * n + UInt8.ofNat i.val

/-- HMAC-SHA256 of the two messages of the deliveries below. -/
private def knownDigest : Digest := fun _ message ↦
  if message = signedBytes "1000" (hex (tokens 0).toList) [0x7b, 0x7d] then
    #v[92, 162, 42, 109, 11, 199, 22, 3, 78, 68, 36, 127, 65, 60, 49, 55, 20, 152, 42, 184,
      233, 54, 75, 149, 41, 159, 41, 146, 123, 30, 101, 254]
  else
    #v[128, 58, 101, 1, 151, 238, 132, 67, 24, 125, 28, 105, 104, 44, 185, 134, 31, 76, 88,
      195, 40, 199, 215, 167, 169, 211, 42, 162, 87, 179, 148, 71]

private def asciiOnly : Unicode := ⟨fun _ ↦ false, fun _ ↦ none⟩

private def sharedSecret : String := "0123456789abcdef0123456789abcdef"

/-- A gateway in production, and a delivery at second 1000 that arrives half a second later. -/
private def arrival (settings : WebhookSettings) (n : UInt8) : Exec Intake Exc Unit :=
  authenticateTetragonRequest (tetragonCodec asciiOnly knownDigest sharedSecret) settings
    (2001 / 2) 0 .answers .answers
    (deliver knownDigest sharedSecret 1000 (tokens n) [0x7b, 0x7d])

theorem signature_authenticates_first :
    ((arrival {} 0).run { appEnv := "production" }).1 = .ok () ∧
      Signed (tetragonCodec asciiOnly knownDigest sharedSecret)
        (deliver knownDigest sharedSecret 1000 (tokens 0) [0x7b, 0x7d]) ∧
      signedBytes "1000" (hex (tokens 0).toList) [0x7b, 0x7d] ≠
        signedBytes "1000" (hex (tokens 1).toList) [0x7b, 0x7d] := by
  have hspec := signature_authenticates asciiOnly knownDigest sharedSecret {}
  refine ⟨(hspec.1 (2001 / 2) 0 .answers .answers { appEnv := "production" } 1000 (tokens 0)
    [0x7b, 0x7d] (by decide +kernel) ⟨rfl, fun _ h ↦ absurd h List.not_mem_nil⟩).mpr
      ⟨⟨.inl rfl, .inl rfl⟩, by decide +kernel⟩, signed_deliver 1000 (tokens 0) [0x7b, 0x7d], ?_⟩
  intro hbytes
  have hnonce := (hspec.2.1 _ _ (wellFormed_deliver 1000 (tokens 0) [0x7b, 0x7d])
    (wellFormed_deliver 1000 (tokens 1) [0x7b, 0x7d]) hbytes).2.1
  revert hnonce
  decide +kernel

/-- With room for one request in a minute the second delivery is refused, whatever its nonce. -/
theorem second_delivery_refused :
    InWindow { maxEventsPerMinute := 1 } (2001 / 2) 1000 ∧
      (((arrival { maxEventsPerMinute := 1 } 0).run { appEnv := "production" }).2).Unused
        (2001 / 2) (hex (tokens 1).toList) ∧
      ((arrival { maxEventsPerMinute := 1 } 1).run
        ((arrival { maxEventsPerMinute := 1 } 0).run { appEnv := "production" }).2).1 =
          .error rateLimited := by
  refine ⟨by decide +kernel, ⟨by decide +kernel, by decide +kernel⟩, ?_⟩
  decide +kernel

end CloudWard.Security.Webhook
