import CloudWard.Security.RateLimit

/-!
# What a rate limit bounds

An invariant of one window of one address, about the counter and the requests it has counted,
that every move of `security/rate_limit.py` keeps; from it the bounds on a window and on any
stretch of a window's length. A request whose `INCR` reaches Redis after the counter may have
expired, more than a second after its window, is not bounded.
-/

namespace CloudWard.Security.RateLimits

open CloudWard.Logic CloudWard.Security.Webhook

/-! ### One window of one address -/

section Window

variable (r : RateLimit) (sha256 : Sha256) (identity : String) (window : Nat)

/-- A request of the address in the window. -/
def matching (q : Query) : Bool :=
  identityOf sha256 q.address = identity ∧ windowAt r q.arrival = window

/-- A request that Redis has accepted, or will unless `EXPIRE` fails. -/
def holds (q : Query) : Bool :=
  matching r sha256 identity window q ∧ (q.phase = .first ∨ q.phase = .accepted .redis)

/-- A request whose `INCR` came late. -/
def lagging (q : Query) : Bool := matching r sha256 identity window q ∧ q.late

/-- A request that has asked. -/
def asked (q : Query) : Bool := matching r sha256 identity window q ∧ q.phase ≠ .arrived

/-- The value of the counter, expired or not. -/
def value (s : State) : Nat := ((s.redis (key r identity window)).map (·.count)).getD 0

/-- What the counter says of the requests: until the deadline it is there and counts them all,
and after it each request that it accepts too many is late. -/
structure Limited (s : State) : Prop where
  arrivals : ∀ q ∈ s.queries, q.arrival ≤ s.now
  unmarked : ∀ q ∈ s.queries, q.phase = .arrived → q.late = false
  expiries : ∀ c ∈ s.redis (key r identity window), ∀ e ∈ c.expiry, deadline r window ≤ e
  early : s.now ≤ deadline r window →
    s.queries.countP (holds r sha256 identity window) ≤ min r.limit (value r identity window s)
  bounded : s.queries.countP (holds r sha256 identity window) ≤
    r.limit + s.queries.countP (lagging r sha256 identity window)
  counts : value r identity window s ≤ s.queries.countP (asked r sha256 identity window)
  refusals : ∀ q ∈ s.queries, matching r sha256 identity window q → q.phase = .refused .redis →
    r.limit < s.queries.countP (asked r sha256 identity window)

variable {r sha256 identity window} {s : State} {i : Nat} {q : Query}

/-- The requests after one of them has moved. -/
private theorem counted_settle (hq : s.queries[i]? = some q) (phase : Phase) (late : Bool)
    (p : Query → Bool) :
    (s.queries.update i fun q ↦ { q with phase, late }).countP p + (if p q then 1 else 0) =
      s.queries.countP p + if p { q with phase, late } then 1 else 0 :=
  Table.countP_update hq _ p

private theorem querying_eq_some {phase : Phase} (h : querying s i phase = some q) :
    s.queries[i]? = some q ∧ q.phase = phase := by
  obtain ⟨hq, hphase⟩ := Option.filter_eq_some_iff.mp h
  exact ⟨hq, of_decide_eq_true hphase⟩

/-- The key of a request is the window's exactly if the request is. -/
private theorem keyOf_eq_iff (hlength : identity.length = 24) :
    keyOf r sha256 q = key r identity window ↔ matching r sha256 identity window q := by
  simp only [matching, decide_eq_true_eq]
  constructor
  · intro h
    exact key_injective ((length_identityOf sha256 q.address).trans hlength.symm) h
  · rintro ⟨h, h'⟩
    rw [keyOf, h, h']

/-- A request moves, and with it at most the counter of its own window. -/
private theorem Limited.settle (h : Limited r sha256 identity window s)
    (hq : s.queries[i]? = some q) {t : State} (hnow : t.now = s.now) {phase : Phase} {late : Bool}
    (hqueries : t.queries = s.queries.update i fun q ↦ { q with phase, late })
    (hphase : phase ≠ .arrived)
    (hother : matching r sha256 identity window q = false →
      t.redis (key r identity window) = s.redis (key r identity window))
    (hexpiries : ∀ c ∈ t.redis (key r identity window), ∀ e ∈ c.expiry, deadline r window ≤ e)
    (hown : matching r sha256 identity window q →
      (s.now ≤ deadline r window →
        t.queries.countP (holds r sha256 identity window) ≤
          min r.limit (value r identity window t)) ∧
      t.queries.countP (holds r sha256 identity window) ≤
        r.limit + t.queries.countP (lagging r sha256 identity window) ∧
      value r identity window t ≤ t.queries.countP (asked r sha256 identity window) ∧
      (phase = .refused .redis →
        r.limit < t.queries.countP (asked r sha256 identity window))) :
    Limited r sha256 identity window t := by
  have hmember : ∀ q' ∈ t.queries, q' ∈ s.queries ∨ q' = { q with phase, late } := by
    intro q' hq'
    rw [hqueries] at hq'
    exact Table.mem_update_of_some hq hq'
  have hqmem := List.mem_of_getElem? hq
  have hcounts := counted_settle hq phase late
  rw [← hqueries] at hcounts
  have hsame (hm : ¬ matching r sha256 identity window q) (p : Query → Bool)
      (hp : ∀ q, ¬ matching r sha256 identity window q → p q = false) :
      t.queries.countP p = s.queries.countP p := by
    have hcount := hcounts p
    rw [hp q hm, hp _ (show ¬ matching r sha256 identity window { q with phase, late } from hm)]
      at hcount
    simpa using hcount
  have hvalue (hm : ¬ matching r sha256 identity window q) :
      value r identity window t = value r identity window s := by
    unfold value
    rw [hother (by simpa using hm)]
  have hasked := hcounts (asked r sha256 identity window)
  have hle : s.queries.countP (asked r sha256 identity window) ≤
      t.queries.countP (asked r sha256 identity window) := by
    by_cases hm : matching r sha256 identity window q
    · have hafter : asked r sha256 identity window { q with phase, late } = true := by
        simp only [asked, decide_eq_true_eq]
        exact ⟨hm, hphase⟩
      rw [if_pos hafter] at hasked
      split at hasked <;> omega
    · have hbefore : asked r sha256 identity window q = false := by
        simp [asked, hm]
      simp only [hbefore, Bool.false_eq_true, if_false] at hasked
      omega
  constructor
  · intro q' hq'
    rw [hnow]
    rcases hmember q' hq' with hold | rfl
    · exact h.arrivals q' hold
    · exact h.arrivals q hqmem
  · intro q' hq' harrived
    rcases hmember q' hq' with hold | rfl
    · exact h.unmarked q' hold harrived
    · exact absurd harrived hphase
  · exact hexpiries
  -- a request of another window counts for nothing here
  all_goals by_cases hm : matching r sha256 identity window q
  · rw [hnow]
    exact (hown hm).1
  · rw [hnow, hsame hm _ fun q hq ↦ by simp [holds, hq], hvalue hm]
    exact h.early
  · exact (hown hm).2.1
  · rw [hsame hm _ fun q hq ↦ by simp [holds, hq], hsame hm _ fun q hq ↦ by simp [lagging, hq]]
    exact h.bounded
  · exact (hown hm).2.2.1
  · rw [hsame hm _ fun q hq ↦ by simp [asked, hq], hvalue hm]
    exact h.counts
  · intro q' hq' hmatching hrefused
    rcases hmember q' hq' with hold | rfl
    · exact Nat.lt_of_lt_of_le (h.refusals q' hold hmatching hrefused) hle
    · exact (hown hm).2.2.2 hrefused
  · intro q' hq' hmatching hrefused
    rcases hmember q' hq' with hold | rfl
    · exact Nat.lt_of_lt_of_le (h.refusals q' hold hmatching hrefused) hle
    · exact absurd hmatching hm

/-- A phase that Redis has no part in. -/
private def Away (phase : Phase) : Prop :=
  phase ≠ .arrived ∧ phase ≠ .first ∧ phase ≠ .accepted .redis ∧ phase ≠ .refused .redis

private theorem away_decided (count : Nat) : Away (decided r .replica count) := by
  unfold decided
  split <;> simp [Away]

private theorem fallBack_spec (r : RateLimit) (sha256 : Sha256) (appEnv : String) (s : State)
    (i : Nat) (q : Query) (late : Bool) :
    ∃ phase, Away phase ∧ (fallBack r sha256 appEnv s i q late).now = s.now ∧
      (fallBack r sha256 appEnv s i q late).redis = s.redis ∧
      (fallBack r sha256 appEnv s i q late).queries =
        s.queries.update i fun q ↦ { q with phase, late } := by
  unfold fallBack
  split
  · exact ⟨_, away_decided _, rfl, rfl, rfl⟩
  · exact ⟨.unavailable, by simp [Away], rfl, rfl, rfl⟩

private theorem holds_away {phase : Phase} (h : Away phase) (q : Query) (late : Bool) :
    holds r sha256 identity window { q with phase, late } = false := by
  simp [holds, h.2.1, h.2.2.1]

/-- A request falls back, and the counter is left alone. -/
private theorem Limited.fellBack (h : Limited r sha256 identity window s)
    (hq : s.queries[i]? = some q) {t : State} (hnow : t.now = s.now) {phase : Phase}
    (hphase : Away phase)
    (hqueries : t.queries = s.queries.update i fun q' ↦ { q' with phase, late := q.late })
    (hredis : t.redis (key r identity window) = s.redis (key r identity window)) :
    Limited r sha256 identity window t := by
  have hvalue : value r identity window t = value r identity window s := by
    unfold value
    rw [hredis]
  have hcounts := counted_settle hq phase q.late
  rw [← hqueries] at hcounts
  have hholds := hcounts (holds r sha256 identity window)
  have hlagging := hcounts (lagging r sha256 identity window)
  have hasked := hcounts (asked r sha256 identity window)
  rw [holds_away hphase, if_neg Bool.false_ne_true] at hholds
  have hsame : lagging r sha256 identity window { q with phase, late := q.late } =
      lagging r sha256 identity window q := rfl
  rw [hsame] at hlagging
  apply h.settle hq hnow hqueries hphase.1 (fun _ ↦ hredis)
  · rw [hredis]
    exact h.expiries
  intro hm
  have hafter : asked r sha256 identity window { q with phase, late := q.late } = true := by
    simp only [asked, decide_eq_true_eq]
    exact ⟨hm, hphase.1⟩
  rw [if_pos hafter] at hasked
  have hearly := h.early
  have hbounded := h.bounded
  have hasks := h.counts
  refine ⟨?_, ?_, ?_, ?_⟩
  · intro hle
    have := hearly hle
    rw [hvalue]
    omega
  · omega
  · rw [hvalue]
    split at hasked <;> omega
  · exact fun hrefused ↦ absurd hrefused hphase.2.2.2

private theorem redis_incr_of_ne (hlength : identity.length = 24)
    (hm : matching r sha256 identity window q = false) :
    (incr r sha256 s q).redis (key r identity window) = s.redis (key r identity window) := by
  have hne : key r identity window ≠ keyOf r sha256 q := by
    intro h
    rw [(keyOf_eq_iff hlength).mp h.symm] at hm
    cases hm
  simp [incr, hne]

private theorem redis_incr (hlength : identity.length = 24)
    (hm : matching r sha256 identity window q) :
    (incr r sha256 s q).redis (key r identity window) =
      some (incremented (live s (key r identity window))) := by
  have hkey := (keyOf_eq_iff (r := r) (q := q) hlength).mpr hm
  simp [incr, hkey]

private theorem expiry_incremented (c : Option Count) :
    (incremented c).expiry = c.bind (·.expiry) := by
  cases c <;> rfl

private theorem count_incremented (c : Option Count) :
    (incremented c).count = (c.map (·.count)).getD 0 + 1 := by
  cases c <;> rfl

/-- The live counter is one of what it was. -/
private theorem live_le (s : State) (k : String) :
    ((live s k).map (·.count)).getD 0 ≤ ((s.redis k).map (·.count)).getD 0 := by
  unfold live
  cases hc : s.redis k with
  | none => exact Nat.le_refl _
  | some c =>
    rw [Option.filter_some]
    split
    · exact Nat.le_refl _
    · exact Nat.zero_le _

/-- Until the deadline the counter has not expired. -/
private theorem Limited.live_eq (h : Limited r sha256 identity window s)
    (hnow : s.now ≤ deadline r window) :
    live s (key r identity window) = s.redis (key r identity window) := by
  unfold live
  cases hc : s.redis (key r identity window) with
  | none => rfl
  | some c =>
    have hlive : ∀ e ∈ c.expiry, s.now ≤ e := by
      intro e he
      exact Nat.le_trans hnow (h.expiries c hc e he)
    rw [Option.filter_some, if_pos (decide_eq_true hlive)]

/-- A request is counted: one phase for a call that answers, another for one that does not. -/
private theorem Limited.incr (h : Limited r sha256 identity window s)
    (hlength : identity.length = 24) (hq : s.queries[i]? = some q) (harrived : q.phase = .arrived)
    {t : State} (hnow : t.now = s.now) {phase : Phase}
    (hphase : Away phase ∨
      phase = afterIncr r (incremented (live s (keyOf r sha256 q))).count)
    (hqueries : t.queries = s.queries.update i fun q' ↦ { q' with phase, late := isLate r s q })
    (hredis : t.redis = (incr r sha256 s q).redis) : Limited r sha256 identity window t := by
  have hafterIncr (n : Nat) : afterIncr r n ≠ .arrived := by
    unfold afterIncr decided
    split
    · simp
    · split <;> simp
  have hne : phase ≠ .arrived := by
    rcases hphase with hphase | rfl
    · exact hphase.1
    · exact hafterIncr _
  have hcounts := counted_settle hq phase (isLate r s q)
  rw [← hqueries] at hcounts
  have hholds := hcounts (holds r sha256 identity window)
  have hlagging := hcounts (lagging r sha256 identity window)
  have hasked := hcounts (asked r sha256 identity window)
  have hqlate := h.unmarked q (List.mem_of_getElem? hq) harrived
  have hqholds : holds r sha256 identity window q = false := by simp [holds, harrived]
  have hqlagging : lagging r sha256 identity window q = false := by simp [lagging, hqlate]
  have hqasked : asked r sha256 identity window q = false := by simp [asked, harrived]
  rw [hqholds, if_neg Bool.false_ne_true, Nat.add_zero] at hholds
  rw [hqlagging, if_neg Bool.false_ne_true, Nat.add_zero] at hlagging
  rw [hqasked, if_neg Bool.false_ne_true, Nat.add_zero] at hasked
  apply h.settle hq hnow hqueries hne
  · intro hm
    rw [hredis, redis_incr_of_ne hlength hm]
  · by_cases hm : matching r sha256 identity window q
    · rw [hredis, redis_incr hlength hm]
      rintro c hc e he
      cases hc
      rw [expiry_incremented] at he
      obtain ⟨c, hlive, hexpiry⟩ := Option.bind_eq_some_iff.mp he
      exact h.expiries c (Option.filter_eq_some_iff.mp hlive).1 e hexpiry
    · rw [hredis, redis_incr_of_ne hlength (by simpa using hm)]
      exact h.expiries
  intro hm
  have hkey := (keyOf_eq_iff (r := r) (q := q) hlength).mpr hm
  rw [hkey] at hphase
  have hvalue : value r identity window t =
      ((live s (key r identity window)).map (·.count)).getD 0 + 1 := by
    unfold value
    rw [hredis, redis_incr hlength hm, Option.map_some, Option.getD_some, count_incremented]
  rw [count_incremented, ← hvalue] at hphase
  have hlive : value r identity window t ≤ value r identity window s + 1 := by
    rw [hvalue]
    exact Nat.add_le_add_right (live_le s _) 1
  have hafter : asked r sha256 identity window { q with phase, late := isLate r s q } = true := by
    simp only [asked, decide_eq_true_eq]
    exact ⟨hm, hne⟩
  rw [if_pos hafter] at hasked
  have hone : (if holds r sha256 identity window { q with phase, late := isLate r s q } then 1
      else 0) ≤ 1 := by
    split <;> omega
  -- whoever is accepted finds the counter at the limit or below
  have hwithin : holds r sha256 identity window { q with phase, late := isLate r s q } = true →
      value r identity window t ≤ r.limit := by
    intro hhold
    rcases hphase with haway | rfl
    · rw [holds_away haway] at hhold
      cases hhold
    · have hpos := r.limit_pos
      unfold afterIncr decided at hhold
      split at hhold
      · omega
      · split at hhold
        · simp [holds] at hhold
        · omega
  have hearly : s.now ≤ deadline r window →
      t.queries.countP (holds r sha256 identity window) ≤
        min r.limit (value r identity window t) := by
    intro hle
    have hbefore := h.early hle
    have hvalue' : value r identity window t = value r identity window s + 1 := by
      rw [hvalue, h.live_eq hle]
      rfl
    by_cases hhold : holds r sha256 identity window { q with phase, late := isLate r s q } = true
    · have := hwithin hhold
      rw [if_pos hhold] at hholds
      omega
    · rw [if_neg hhold] at hholds
      omega
  have hbounded := h.bounded
  have hcount := h.counts
  refine ⟨hearly, ?_, ?_, ?_⟩
  · by_cases hle : s.now ≤ deadline r window
    · have := hearly hle
      omega
    · have hlate :
          lagging r sha256 identity window { q with phase, late := isLate r s q } = true := by
        have hwindow : windowAt r q.arrival = window := by
          simp only [matching, decide_eq_true_eq] at hm
          exact hm.2
        simp only [lagging, isLate, hwindow, decide_eq_true_eq]
        exact ⟨hm, Nat.lt_of_not_le hle⟩
      rw [if_pos hlate] at hlagging
      omega
  · omega
  · intro hrefused
    rcases hphase with haway | hphase
    · exact absurd hrefused haway.2.2.2
    · rw [hphase] at hrefused
      unfold afterIncr decided at hrefused
      split at hrefused
      · cases hrefused
      · split at hrefused
        · omega
        · cases hrefused

private theorem end_le {arrival now width : Nat} (hnow : arrival ≤ now) :
    ((arrival / 1000 / width + 1) * width + 1) * 1000 ≤ now + (width + 1) * 1000 := by
  have hwindow := Nat.div_mul_le_self (arrival / 1000) width
  have harrival := Nat.div_mul_le_self arrival 1000
  rw [Nat.succ_mul (arrival / 1000 / width) width, Nat.add_assoc, Nat.add_mul]
  apply Nat.add_le_add_right
  exact Nat.le_trans (Nat.mul_le_mul_right 1000 hwindow) (Nat.le_trans harrival hnow)

private theorem expire_spec (r : RateLimit) (sha256 : Sha256) (s : State) (q : Query) :
    (expire r sha256 s q).now = s.now ∧ (expire r sha256 s q).queries = s.queries ∧
    ∀ k, (expire r sha256 s q).redis k = s.redis k ∨
      k = keyOf r sha256 q ∧ ∃ c, s.redis k = some c ∧ (expire r sha256 s q).redis k =
        some { c with expiry := some (s.now + (r.windowSeconds + 1) * 1000) } := by
  unfold RateLimits.expire
  split
  · exact ⟨rfl, rfl, fun k ↦ .inl rfl⟩
  · next c hlive =>
    refine ⟨rfl, rfl, ?_⟩
    intro k
    by_cases hk : k = keyOf r sha256 q
    · refine .inr ⟨hk, c, ?_, ?_⟩
      · rw [hk]
        exact (Option.filter_eq_some_iff.mp hlive).1
      · rw [hk]
        exact Function.update_self _ _ _
    · exact .inl (Function.update_of_ne hk _ _)

/-- `EXPIRE` removes no counter before the deadline, and leaves its value. -/
private theorem Limited.expire (h : Limited r sha256 identity window s)
    (hlength : identity.length = 24) (hq : q ∈ s.queries) :
    Limited r sha256 identity window (expire r sha256 s q) := by
  obtain ⟨hnow, hqueries, hredis⟩ := expire_spec r sha256 s q
  have hvalue : value r identity window (RateLimits.expire r sha256 s q) =
      value r identity window s := by
    unfold value
    rcases hredis (key r identity window) with hsame | ⟨-, c, hbefore, hafter⟩
    · rw [hsame]
    · rw [hbefore, hafter]
      rfl
  have hexpiries : ∀ c ∈ (RateLimits.expire r sha256 s q).redis (key r identity window),
      ∀ e ∈ c.expiry, deadline r window ≤ e := by
    rcases hredis (key r identity window) with hsame | ⟨hkey, c, hbefore, hafter⟩
    · rw [hsame]
      exact h.expiries
    · have hm := (keyOf_eq_iff hlength).mp hkey.symm
      simp only [matching, decide_eq_true_eq] at hm
      rw [hafter]
      intro c' hc' e he
      cases hc'
      cases he
      rw [← hm.2]
      exact end_le (h.arrivals q hq)
  constructor
  · rw [hqueries, hnow]
    exact h.arrivals
  · rw [hqueries]
    exact h.unmarked
  · exact hexpiries
  · rw [hqueries, hnow, hvalue]
    exact h.early
  · rw [hqueries]
    exact h.bounded
  · rw [hqueries, hvalue]
    exact h.counts
  · rw [hqueries]
    exact h.refusals

/-- The request that made the counter is accepted. -/
private theorem Limited.first (h : Limited r sha256 identity window s)
    (hq : s.queries[i]? = some q) (hfirst : q.phase = .first) :
    Limited r sha256 identity window (RateLimits.settle s i (decided r .redis 1) q.late) := by
  have haccepted : decided r .redis 1 = .accepted .redis := by
    have hpos := r.limit_pos
    rw [decided, if_neg (by omega)]
  rw [haccepted]
  have hcounts := counted_settle hq (.accepted .redis) q.late
  have hholds := hcounts (holds r sha256 identity window)
  have hlagging := hcounts (lagging r sha256 identity window)
  have hasked := hcounts (asked r sha256 identity window)
  have hsame : lagging r sha256 identity window { q with phase := .accepted .redis, late := q.late }
      = lagging r sha256 identity window q := rfl
  rw [hsame] at hlagging
  refine h.settle (t := RateLimits.settle s i (.accepted .redis) q.late) hq rfl rfl (by simp)
    (fun _ ↦ rfl) h.expiries ?_
  intro hm
  have hbefore : holds r sha256 identity window q = true := by
    simp [holds, hm, hfirst]
  have hafter : holds r sha256 identity window
      { q with phase := .accepted .redis, late := q.late } = true := by
    simp only [holds, decide_eq_true_eq]
    exact ⟨hm, .inr trivial⟩
  have hasks : asked r sha256 identity window q = true := by
    simp [asked, hm, hfirst]
  have hasks' : asked r sha256 identity window
      { q with phase := .accepted .redis, late := q.late } = true := by
    simp only [asked, decide_eq_true_eq]
    exact ⟨hm, by simp⟩
  rw [hbefore, hafter] at hholds
  rw [hasks, hasks'] at hasked
  have hearly := h.early
  have hbounded := h.bounded
  have hcount := h.counts
  simp only [RateLimits.settle]
  refine ⟨?_, ?_, ?_, ?_⟩
  · intro hle
    have := hearly hle
    simp only [value] at this ⊢
    omega
  · omega
  · simp only [value] at hcount ⊢
    omega
  · intro hrefused
    cases hrefused

private theorem Limited.arrive (h : Limited r sha256 identity window s) (address : String)
    (replica : Nat) : Limited r sha256 identity window
      { s with queries := s.queries.insert { address, replica, arrival := s.now } } := by
  have hcount (p : Query → Bool) (hp : p { address, replica, arrival := s.now } = false) :
      (s.queries.insert { address, replica, arrival := s.now }).countP p =
        s.queries.countP p := by
    rw [Table.insert, List.countP_append, List.countP_singleton, hp]
    simp
  constructor
  · intro q hq
    rcases List.mem_append.mp hq with hq | hq
    · exact h.arrivals q hq
    · rw [List.mem_singleton.mp hq]
  · intro q hq harrived
    rcases List.mem_append.mp hq with hq | hq
    · exact h.unmarked q hq harrived
    · rw [List.mem_singleton.mp hq]
  · exact h.expiries
  · intro hle
    show (s.queries.insert _).countP _ ≤ _
    rw [hcount _ (by simp [holds])]
    exact h.early hle
  · show (s.queries.insert _).countP _ ≤ _ + (s.queries.insert _).countP _
    rw [hcount _ (by simp [holds]), hcount _ (by simp [lagging])]
    exact h.bounded
  · show _ ≤ (s.queries.insert _).countP _
    rw [hcount _ (by simp [asked])]
    exact h.counts
  · intro q hq hmatching hrefused
    show _ < (s.queries.insert _).countP _
    rw [hcount _ (by simp [asked])]
    rcases List.mem_append.mp hq with hq | hq
    · exact h.refusals q hq hmatching hrefused
    · rw [List.mem_singleton.mp hq] at hrefused
      cases hrefused

/-- Each move keeps the counter right. -/
theorem Limited.step (h : Limited r sha256 identity window s) (hlength : identity.length = 24)
    (appEnv : String) (m : Move) :
    Limited r sha256 identity window (RateLimits.step r sha256 appEnv s m) := by
  cases m with
  | arrive address replica => exact h.arrive address replica
  | pass milliseconds =>
    refine ⟨?_, h.unmarked, h.expiries, ?_, h.bounded, h.counts, h.refusals⟩
    · intro q hq
      exact Nat.le_trans (h.arrivals q hq) (Nat.le_add_right _ _)
    · intro hle
      exact h.early (Nat.le_trans (Nat.le_add_right _ _) hle)
  | unconnected i =>
    cases hquerying : querying s i .arrived with
    | none => simpa only [RateLimits.step, hquerying] using h
    | some q =>
      obtain ⟨hq, harrived⟩ := querying_eq_some hquerying
      have hlate := h.unmarked q (List.mem_of_getElem? hq) harrived
      obtain ⟨phase, hphase, hnow, hredis, hqueries⟩ :=
        fallBack_spec r sha256 appEnv s i q false
      simp only [RateLimits.step, hquerying]
      rw [← hlate] at hqueries hnow hredis ⊢
      exact h.fellBack hq hnow hphase hqueries (congrFun hredis _)
  | incr i outcome =>
    cases hquerying : querying s i .arrived with
    | none => simpa only [RateLimits.step, hquerying] using h
    | some q =>
      obtain ⟨hq, harrived⟩ := querying_eq_some hquerying
      have hlate := h.unmarked q (List.mem_of_getElem? hq) harrived
      simp only [RateLimits.step, hquerying]
      cases outcome with
      | answered => exact h.incr hlength hq harrived rfl (.inr rfl) rfl rfl
      | failed =>
        obtain ⟨phase, hphase, hnow, hredis, hqueries⟩ :=
          fallBack_spec r sha256 appEnv s i q false
        simp only
        rw [← hlate] at hqueries hnow hredis ⊢
        exact h.fellBack hq hnow hphase hqueries (congrFun hredis _)
      | lost =>
        obtain ⟨phase, hphase, hnow, hredis, hqueries⟩ :=
          fallBack_spec r sha256 appEnv (RateLimits.incr r sha256 s q) i q (isLate r s q)
        exact h.incr hlength hq harrived hnow (.inl hphase) hqueries hredis
  | expire i outcome =>
    cases hquerying : querying s i .first with
    | none => simpa only [RateLimits.step, hquerying] using h
    | some q =>
      obtain ⟨hq, hfirst⟩ := querying_eq_some hquerying
      have hqueries := (expire_spec r sha256 s q).2.1
      have hexpired := h.expire hlength (List.mem_of_getElem? hq)
      have hq' : (RateLimits.expire r sha256 s q).queries[i]? = some q := by
        rw [hqueries, hq]
      simp only [RateLimits.step, hquerying]
      cases outcome with
      | answered => exact hexpired.first hq' hfirst
      | failed =>
        obtain ⟨phase, hphase, hnow, hredis, hqueries⟩ :=
          fallBack_spec r sha256 appEnv s i q q.late
        exact h.fellBack hq hnow hphase hqueries (congrFun hredis _)
      | lost =>
        obtain ⟨phase, hphase, hnow, hredis, hqueries⟩ :=
          fallBack_spec r sha256 appEnv (RateLimits.expire r sha256 s q) i q q.late
        exact hexpired.fellBack hq' hnow hphase hqueries (congrFun hredis _)

theorem limited_start : Limited r sha256 identity window {} := by
  constructor <;> simp [value]

end Window

/-! ### Runs -/

section Runs

variable (r : RateLimit) (sha256 : Sha256) (appEnv : String)

/-- The state after a run. -/
def after (moves : List Move) : State := Runs.run (step r sha256 appEnv) {} moves

variable {r sha256 appEnv}

private theorem limited_after (address : String) (window : Nat) (moves : List Move) :
    Limited r sha256 (identityOf sha256 address) window (after r sha256 appEnv moves) :=
  Runs.invariant (fun _ m h ↦ h.step (length_identityOf sha256 address) appEnv m) limited_start
    moves

/-- No request is accepted on a replica's word. -/
private def Shared (s : State) : Prop := ∀ q ∈ s.queries, q.phase ≠ .accepted .replica

private theorem shared_settle {s t : State} {i : Nat} {phase : Phase} {late : Bool} (h : Shared s)
    (hphase : phase ≠ .accepted .replica)
    (hqueries : t.queries = s.queries.update i fun q ↦ { q with phase, late }) : Shared t := by
  intro q hq
  rw [hqueries] at hq
  rcases Table.mem_update hq with hq | ⟨old, -, rfl⟩
  · exact h q hq
  · exact hphase

private theorem fallBack_deployed (h : appEnv ∉ ["development", "test"]) (s : State) (i : Nat)
    (q : Query) (late : Bool) :
    fallBack r sha256 appEnv s i q late = settle s i .unavailable late := by
  rw [fallBack, if_neg h]

private theorem shared_step (hdeployed : appEnv ∉ ["development", "test"]) (s : State) (m : Move)
    (h : Shared s) : Shared (step r sha256 appEnv s m) := by
  have hredis (count : Nat) : decided r .redis count ≠ .accepted .replica := by
    unfold decided
    split <;> simp
  have hafter (count : Nat) : afterIncr r count ≠ .accepted .replica := by
    unfold afterIncr
    split
    · simp
    · exact hredis count
  have hunavailable : Phase.unavailable ≠ .accepted .replica := by simp
  have hexpire (q : Query) := (expire_spec r sha256 s q).2.1
  cases m with
  | arrive address replica =>
    intro q hq
    rcases List.mem_append.mp hq with hq | hq
    · exact h q hq
    · rw [List.mem_singleton.mp hq]
      simp
  | pass milliseconds => exact h
  | unconnected i =>
    cases hquerying : querying s i .arrived with
    | none => simpa only [step, hquerying] using h
    | some q =>
      simp only [step, hquerying, fallBack_deployed hdeployed]
      exact shared_settle h hunavailable rfl
  | incr i outcome =>
    cases hquerying : querying s i .arrived with
    | none => simpa only [step, hquerying] using h
    | some q =>
      simp only [step, hquerying, fallBack_deployed hdeployed]
      cases outcome with
      | answered => exact shared_settle h (hafter _) rfl
      | failed => exact shared_settle h hunavailable rfl
      | lost => exact shared_settle h hunavailable rfl
  | expire i outcome =>
    cases hquerying : querying s i .first with
    | none => simpa only [step, hquerying] using h
    | some q =>
      simp only [step, hquerying, fallBack_deployed hdeployed]
      cases outcome with
      | answered => exact shared_settle h (hredis 1) (congrArg (Table.update · i _) (hexpire q))
      | failed => exact shared_settle h hunavailable rfl
      | lost => exact shared_settle h hunavailable (congrArg (Table.update · i _) (hexpire q))

variable (r sha256)

/-- The requests of an address in a window that Redis accepted. -/
def acceptedIn (address : String) (window : Nat) (s : State) : Nat :=
  s.queries.countP fun q ↦
    matching r sha256 (identityOf sha256 address) window q ∧ q.phase = .accepted .redis

/-- The requests of an address in a window whose `INCR` came late. -/
def lateIn (address : String) (window : Nat) (s : State) : Nat :=
  s.queries.countP (lagging r sha256 (identityOf sha256 address) window)

/-- The requests of an address in a window that have asked. -/
def askedIn (address : String) (window : Nat) (s : State) : Nat :=
  s.queries.countP (asked r sha256 (identityOf sha256 address) window)

/-- The requests of an address that Redis accepted and that came within a window's length. -/
def acceptedFrom (address : String) (start : Nat) (s : State) : Nat :=
  s.queries.countP fun q ↦ q.address = address ∧ q.phase = .accepted .redis ∧
    start ≤ q.arrival ∧ q.arrival < start + r.windowSeconds * 1000

variable {r sha256}

private theorem acceptedIn_le (r : RateLimit) (sha256 : Sha256) (appEnv address : String)
    (window : Nat) (moves : List Move) :
    acceptedIn r sha256 address window (after r sha256 appEnv moves) ≤
      r.limit + lateIn r sha256 address window (after r sha256 appEnv moves) := by
  refine Nat.le_trans (List.countP_mono_left ?_) (limited_after address window moves).bounded
  intro q _ hq
  simp only [decide_eq_true_eq] at hq
  simp only [holds, decide_eq_true_eq]
  exact ⟨hq.1, .inr hq.2⟩

/-- Within a window's length fall the ends of two windows at most. -/
private theorem windowAt_eq {start arrival : Nat} (hle : start ≤ arrival)
    (hlt : arrival < start + r.windowSeconds * 1000) :
    windowAt r arrival = windowAt r start ∨ windowAt r arrival = windowAt r start + 1 := by
  unfold windowAt
  rw [Nat.div_div_eq_div_mul, Nat.div_div_eq_div_mul, Nat.mul_comm 1000]
  have hpos : 0 < r.windowSeconds * 1000 := Nat.mul_pos r.windowSeconds_pos (by decide)
  generalize r.windowSeconds * 1000 = length at hlt hpos ⊢
  have hlower : start / length ≤ arrival / length := Nat.div_le_div_right hle
  have hupper : arrival / length ≤ start / length + 1 := by
    rw [← Nat.add_div_right start hpos]
    exact Nat.div_le_div_right (Nat.le_of_lt hlt)
  omega

private theorem acceptedFrom_le (r : RateLimit) (sha256 : Sha256) (address : String) (start : Nat)
    (s : State) :
    acceptedFrom r address start s ≤ acceptedIn r sha256 address (windowAt r start) s +
      acceptedIn r sha256 address (windowAt r start + 1) s := by
  unfold acceptedFrom acceptedIn
  induction s.queries with
  | nil => exact Nat.le_refl _
  | cons q rest ih =>
    rw [List.countP_cons, List.countP_cons, List.countP_cons]
    split
    · next h =>
      simp only [decide_eq_true_eq] at h
      obtain ⟨haddress, hphase, hle, hlt⟩ := h
      rcases windowAt_eq hle hlt with hwindow | hwindow
      · have hfirst : (decide (matching r sha256 (identityOf sha256 address) (windowAt r start) q ∧
            q.phase = .accepted .redis)) = true := by
          simp [matching, haddress, hphase, hwindow]
        rw [if_pos hfirst]
        omega
      · have hsecond : (decide (matching r sha256 (identityOf sha256 address)
            (windowAt r start + 1) q ∧ q.phase = .accepted .redis)) = true := by
          simp [matching, haddress, hphase, hwindow]
        rw [if_pos hsecond]
        omega
    · omega

end Runs

/-- In every order of requests, calls of Redis and their failures, the requests of an address that
Redis accepts in a window are at most the limit and the requests whose `INCR` came after the
deadline, in any stretch of a window's length they are at most twice that, a request is refused
only if more of its window than the limit have asked, and outside development and tests no
replica accepts on its own. -/
theorem rate_limited (r : RateLimit) (sha256 : Sha256) (appEnv : String) (moves : List Move)
    (address : String) :
    (∀ window, acceptedIn r sha256 address window (after r sha256 appEnv moves) ≤
      r.limit + lateIn r sha256 address window (after r sha256 appEnv moves)) ∧
    (∀ start, acceptedFrom r address start (after r sha256 appEnv moves) ≤ 2 * r.limit +
      lateIn r sha256 address (windowAt r start) (after r sha256 appEnv moves) +
      lateIn r sha256 address (windowAt r start + 1) (after r sha256 appEnv moves)) ∧
    (∀ q ∈ (after r sha256 appEnv moves).queries, q.address = address →
      q.phase = .refused .redis → r.limit <
        askedIn r sha256 address (windowAt r q.arrival) (after r sha256 appEnv moves)) ∧
    (appEnv ∉ ["development", "test"] → ∀ q ∈ (after r sha256 appEnv moves).queries,
      q.phase ≠ .accepted .replica) := by
  constructor
  · exact fun window ↦ acceptedIn_le r sha256 appEnv address window moves
  constructor
  · intro start
    have hsplit := acceptedFrom_le r sha256 address start (after r sha256 appEnv moves)
    have hfirst := acceptedIn_le r sha256 appEnv address (windowAt r start) moves
    have hsecond := acceptedIn_le r sha256 appEnv address (windowAt r start + 1) moves
    omega
  constructor
  · intro q hq haddress hrefused
    apply (limited_after address (windowAt r q.arrival) moves).refusals q hq _ hrefused
    simp [matching, haddress]
  · intro hdeployed
    exact Runs.invariant (I := Shared) (shared_step hdeployed) (by simp [Shared]) moves

/-- A late `INCR` finds no counter and makes one: here a second request of a window is accepted,
though the limit is one. -/
example : acceptedIn ⟨"once", 1, 1, Nat.one_pos, Nat.one_pos⟩ (fun _ ↦ Vector.replicate 32 0) "a" 0
    (after ⟨"once", 1, 1, Nat.one_pos, Nat.one_pos⟩ (fun _ ↦ Vector.replicate 32 0) "production"
      [.arrive "a" 0, .arrive "a" 0, .incr 0 .answered, .expire 0 .answered, .pass 2001,
        .incr 1 .answered, .expire 1 .answered]) = 2 := by
  decide +kernel

end CloudWard.Security.RateLimits
