import CloudWard.Base.Unambiguous
import CloudWard.Logic.Runs
import CloudWard.Logic.Table
import CloudWard.Security.Signatures
import Mathlib.Logic.Function.Basic

/-!
# Rate limits

`security/rate_limit.py`: requests of an address are counted in Redis, one counter for each fixed
window, which `EXPIRE` removes a second after the window. `INCR` and `EXPIRE` are two calls, other
requests come between, and either may fail before or after it takes effect; without Redis a
replica counts for itself in development and refuses everywhere else. The clock of the replicas
and of Redis is one, in milliseconds.
-/

namespace CloudWard.Security.RateLimits

open CloudWard.Logic CloudWard.Security.Webhook Python

/-- `RateLimit`, `security/rate_limit.py:16`. -/
structure RateLimit where
  name : String
  limit : Nat
  windowSeconds : Nat
  limit_pos : 0 < limit
  windowSeconds_pos : 0 < windowSeconds

private theorem minute_pos : 0 < 60 := by decide
private theorem authLimit_pos : 0 < 20 := by decide
private theorem demoLimit_pos : 0 < 5 := by decide
private theorem alertmanagerLimit_pos : 0 < 120 := by decide

/-- `auth_rate_limit`, `security/rate_limit.py:58`. -/
def authRateLimit : RateLimit := ⟨"auth", 20, 60, authLimit_pos, minute_pos⟩

/-- `demo_rate_limit`, `security/rate_limit.py:59`. -/
def demoRateLimit : RateLimit := ⟨"demo-trigger", 5, 60, demoLimit_pos, minute_pos⟩

/-- `alertmanager_rate_limit`, `security/rate_limit.py:60`. -/
def alertmanagerRateLimit : RateLimit :=
  ⟨"alertmanager-webhook", 120, 60, alertmanagerLimit_pos, minute_pos⟩

/-- `hashlib.sha256`. -/
abbrev Sha256 : Type := List UInt8 → Vector UInt8 32

/-- `identity`, `security/rate_limit.py:25`. -/
def identityOf (sha256 : Sha256) (address : String) : String :=
  String.ofList ((hex (sha256 (encode address)).toList).toList.take 24)

/-- `key`, `security/rate_limit.py:27`. -/
def key (r : RateLimit) (identity : String) (window : Nat) : String :=
  "cloudward:rate:" ++ r.name ++ ":" ++ identity ++ ":" ++ toString window

/-- `window` of a request at a time. -/
def windowAt (r : RateLimit) (arrival : Nat) : Nat := arrival / 1000 / r.windowSeconds

/-- The last time at which the counter of a window is sure to be there. -/
def deadline (r : RateLimit) (window : Nat) : Nat := ((window + 1) * r.windowSeconds + 1) * 1000

/-- Who counted a request. -/
inductive Counter
  | redis
  | replica
deriving DecidableEq

/-- Where a request stands. -/
inductive Phase
  | arrived
  /-- Its `INCR` made the counter, and `EXPIRE` is next. -/
  | first
  | accepted (counter : Counter)
  | refused (counter : Counter)
  | unavailable
deriving DecidableEq

/-- A request; `late` tells whether its `INCR` came after the deadline of its window. -/
structure Query where
  address : String
  replica : Nat
  arrival : Nat
  phase : Phase := .arrived
  late : Bool := false

/-- The value of a key and when it expires. -/
structure Count where
  count : Nat
  expiry : Option Nat := none

/-- The clock, the keys of the limit, what the replicas have counted, and the requests. -/
structure State where
  now : Nat := 0
  redis : String → Option Count := fun _ ↦ none
  replicas : Nat → String → Option (Nat × Nat) := fun _ _ ↦ none
  queries : Table Query := []

/-- What becomes of a call of Redis: it answers, or it fails before or after it took effect. -/
inductive CallEnd
  | answered
  | failed
  | lost

/-- What happens next. -/
inductive Move
  | arrive (address : String) (replica : Nat)
  | incr (query : Nat) (outcome : CallEnd)
  | expire (query : Nat) (outcome : CallEnd)
  /-- The replica has no Redis client. -/
  | unconnected (query : Nat)
  | pass (milliseconds : Nat)

section Machine

variable (r : RateLimit) (sha256 : Sha256) (appEnv : String)

/-- The key of a request. -/
def keyOf (q : Query) : String := key r (identityOf sha256 q.address) (windowAt r q.arrival)

/-- A key's value, unless it has expired. -/
def live (s : State) (k : String) : Option Count :=
  (s.redis k).filter fun c ↦ ∀ e ∈ c.expiry, s.now ≤ e

/-- `INCR`. -/
def incremented : Option Count → Count
  | none => { count := 1 }
  | some c => { c with count := c.count + 1 }

/-- A request comes to a decision, or to its next call. -/
def settle (s : State) (i : Nat) (phase : Phase) (late : Bool) : State :=
  { s with queries := s.queries.update i fun q ↦ { q with phase, late } }

/-- The comparison with the limit, `security/rate_limit.py:34` and `58`. -/
def decided (counter : Counter) (count : Nat) : Phase :=
  if r.limit < count then .refused counter else .accepted counter

/-- What a replica counts without Redis, `security/rate_limit.py:52`. -/
def counted (now : Nat) (entry : Option (Nat × Nat)) : Nat × Nat :=
  let (count, expires) := entry.getD (0, 0)
  if expires ≤ now then (1, now + r.windowSeconds * 1000) else (count + 1, expires)

/-- The end of a request without Redis, `security/rate_limit.py:40`. -/
def fallBack (s : State) (i : Nat) (q : Query) (late : Bool) : State :=
  if appEnv ∈ ["development", "test"] then
    let identity := identityOf sha256 q.address
    let entry := counted r s.now (s.replicas q.replica identity)
    settle { s with
      replicas := Function.update s.replicas q.replica
        (Function.update (s.replicas q.replica) identity (some entry)) } i
      (decided r .replica entry.1) late
  else settle s i .unavailable late

/-- The keys after `INCR`. -/
def incr (s : State) (q : Query) : State :=
  { s with
    redis := Function.update s.redis (keyOf r sha256 q)
      (some (incremented (live s (keyOf r sha256 q)))) }

/-- The keys after `EXPIRE`. -/
def expire (s : State) (q : Query) : State :=
  match live s (keyOf r sha256 q) with
  | none => s
  | some c => { s with
      redis := Function.update s.redis (keyOf r sha256 q)
        (some { c with expiry := some (s.now + (r.windowSeconds + 1) * 1000) }) }

/-- The phase after an `INCR` that answered. -/
def afterIncr (count : Nat) : Phase := if count = 1 then .first else decided r .redis count

/-- `INCR` comes after the deadline. -/
def isLate (s : State) (q : Query) : Bool := deadline r (windowAt r q.arrival) < s.now

/-- The request of a call, if it has come to that call. -/
def querying (s : State) (i : Nat) (phase : Phase) : Option Query :=
  s.queries[i]?.filter (·.phase = phase)

/-- One move. -/
def step (s : State) : Move → State
  | .arrive address replica =>
    { s with queries := s.queries.insert { address, replica, arrival := s.now } }
  | .incr i outcome =>
    match querying s i .arrived, outcome with
    | none, _ => s
    | some q, .answered => settle (incr r sha256 s q) i
        (afterIncr r (incremented (live s (keyOf r sha256 q))).count) (isLate r s q)
    | some q, .failed => fallBack r sha256 appEnv s i q false
    | some q, .lost => fallBack r sha256 appEnv (incr r sha256 s q) i q (isLate r s q)
  | .expire i outcome =>
    match querying s i .first, outcome with
    | none, _ => s
    | some q, .answered => settle (expire r sha256 s q) i (decided r .redis 1) q.late
    | some q, .failed => fallBack r sha256 appEnv s i q q.late
    | some q, .lost => fallBack r sha256 appEnv (expire r sha256 s q) i q q.late
  | .unconnected i =>
    match querying s i .arrived with
    | none => s
    | some q => fallBack r sha256 appEnv s i q false
  | .pass milliseconds => { s with now := s.now + milliseconds }

end Machine

/-! ### Keys -/

section Keys

variable {r : RateLimit} {sha256 : Sha256}

theorem length_identityOf (sha256 : Sha256) (address : String) :
    (identityOf sha256 address).length = 24 := by
  have hlength : (hex (sha256 (encode address)).toList).length = 64 := by
    rw [length_hex, Vector.length_toList]
  rw [identityOf, String.length_ofList, List.length_take, String.length_toList, hlength]
  rfl

private theorem toList_key (r : RateLimit) (identity : String) (window : Nat) :
    (key r identity window).toList = ("cloudward:rate:" ++ r.name ++ ":").toList ++
      (identity.toList ++ (":".toList ++ (toString window).toList)) := by
  unfold key
  rw [String.toList_append, String.toList_append, String.toList_append, List.append_assoc,
    List.append_assoc]

/-- A key names its identity and its window. -/
theorem key_injective {identity identity' : String} {window window' : Nat}
    (hlength : identity.length = identity'.length)
    (h : key r identity window = key r identity' window') :
    identity = identity' ∧ window = window' := by
  have hlist := congrArg String.toList h
  rw [toList_key, toList_key] at hlist
  have hrest := List.append_cancel_left hlist
  rw [← String.length_toList, ← String.length_toList] at hlength
  obtain ⟨hidentity, hwindow⟩ := List.append_inj hrest hlength
  exact ⟨String.toList_inj.mp hidentity, Json.natText_injective (List.append_cancel_left hwindow)⟩

end Keys

end CloudWard.Security.RateLimits
