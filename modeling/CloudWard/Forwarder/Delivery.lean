import CloudWard.Forwarder.Normalize
import CloudWard.Forwarder.Tail
import Mathlib.Data.Rat.Defs
import Mathlib.Algebra.Order.Ring.Rat

/-!
# The delivery of events

`Forwarder.run` of `security-forwarder/forwarder.py:195` and `_deliver`: an event that is of a known
policy, no duplicate and within the rate is sent to the backend, at most three times. An attempt
may raise what `_deliver` catches, or an error of the connection that it does not.
-/

namespace CloudWard.Forwarder

open CloudWard.Logic CloudWard.Security Lines Python

/-- What urllib raises; the last two are an `OSError` and an `HTTPException` while the response is
read. -/
inductive UrlError
  | httpError
  | urlError
  | timeoutError
  | osError
  | httpException
deriving DecidableEq

/-- `except (HTTPError, URLError, TimeoutError)`, `forwarder.py:292`. -/
def UrlError.caught : UrlError → Bool
  | .httpError => true
  | .urlError => true
  | .timeoutError => true
  | _ => false

/-- How an attempt ends: with a response, or with an exception. -/
inductive Attempt
  | response (status : Nat)
  | raised (e : UrlError)
deriving DecidableEq

/-- `200 <= response.status < 300`. -/
def Attempt.succeeded : Attempt → Bool
  | .response status => 200 ≤ status ∧ status < 300
  | .raised _ => false

/-- The attempt raises an error that `_deliver` does not catch. -/
def Attempt.escapes : Attempt → Bool
  | .response _ => false
  | .raised e => ¬ e.caught

/-- The settings of the forwarder, `forwarder.py:160`. -/
structure ForwarderSettings where
  nodeName : String := "unknown-node"
  rate : Nat := 60
  dedupTtl : Nat := 300

/-- What `run` knows of the events before: their number, when the fingerprints it saw expire, and
when it sent the last ones. -/
structure Filter where
  sequence : Nat := 0
  seen : List (String × ℚ) := []
  sent : List ℚ := []

/-- The filter, and the documents it let through. -/
structure Forwarder where
  filter : Filter := {}
  attempted : List TetragonDocument := []

/-- An event, what the clocks show when it is looked at, and the outcomes of the attempts to
deliver it. -/
structure Arrival where
  raw : Json
  nowText : String
  seenAt : ℚ
  sentAt : ℚ
  attempts : Nat → Attempt

/-- `_duplicate`, `forwarder.py:240`. -/
def Filter.duplicate (f : Filter) (ttl : Nat) (now : ℚ) (fingerprint : String) : Bool × Filter :=
  let seen := f.seen.filter fun entry ↦ ¬ entry.2 ≤ now
  if seen.any fun entry ↦ entry.1 = fingerprint then (true, { f with seen })
  else (false, { f with seen := (fingerprint, now + ttl) :: seen })

/-- `_within_rate`, `forwarder.py:251`. -/
def Filter.withinRate (f : Filter) (rate : Nat) (now : ℚ) : Bool × Filter :=
  let sent := f.sent.dropWhile (· ≤ now - 60)
  if rate ≤ sent.length then (false, { f with sent })
  else (true, { f with sent := sent ++ [now] })

section Run

variable (u : Unicode) (r : Repr) (fingerprint : TetragonDocument → String)
variable (settings : ForwarderSettings)

/-- The document of an event that passes, `forwarder.py:198`. -/
def Filter.admit (f : Filter) (a : Arrival) : Option TetragonDocument × Filter :=
  let f := { f with sequence := f.sequence + 1 }
  match normalize u r a.nowText settings.nodeName f.sequence a.raw with
  | none => (none, f)
  | some document =>
    match f.duplicate settings.dedupTtl a.seenAt (fingerprint document) with
    | (true, f) => (none, f)
    | (false, f) =>
      match f.withinRate settings.rate a.sentAt with
      | (false, f) => (none, f)
      | (true, f) => (some document, f)

/-- The attempts of `_deliver`, `forwarder.py:263`, from one on. -/
def attemptFrom (attempts : Nat → Attempt) : Nat → Nat → Exec Forwarder UrlError Unit
  | 0, _ => pure ()
  | remaining + 1, attempt =>
    match attempts attempt with
    | .response status =>
      if (Attempt.response status).succeeded then pure ()
      else attemptFrom attempts remaining (attempt + 1)
    | .raised e => if e.caught then attemptFrom attempts remaining (attempt + 1) else throw e

/-- `_deliver`, `forwarder.py:261`. -/
def deliverDocument (document : TetragonDocument) (attempts : Nat → Attempt) :
    Exec Forwarder UrlError Unit := do
  Exec.update fun s ↦ { s with attempted := s.attempted ++ [document] }
  attemptFrom attempts 3 0

/-- One event, `forwarder.py:199`. -/
def handle (a : Arrival) : Exec Forwarder UrlError Unit := do
  let admitted ← Exec.read fun s ↦ s.filter.admit u r fingerprint settings a
  Exec.update fun s ↦ { s with filter := admitted.2 }
  match admitted.1 with
  | none => pure ()
  | some document => deliverDocument document a.attempts

/-- `run`, as long as nothing escapes. -/
def run : List Arrival → Exec Forwarder UrlError Unit
  | [] => pure ()
  | a :: rest => do
    handle u r fingerprint settings a
    run rest

/-- The documents that pass, with the outcomes of their attempts. -/
def Filter.admitted (f : Filter) : List Arrival → List (TetragonDocument × (Nat → Attempt))
  | [] => []
  | a :: rest =>
    match f.admit u r fingerprint settings a with
    | (none, f) => Filter.admitted f rest
    | (some document, f) => (document, a.attempts) :: Filter.admitted f rest

end Run

/-- One of some attempts escapes, and is made. -/
def EscapesFrom (attempts : Nat → Attempt) (remaining attempt : Nat) : Prop :=
  ∃ k < remaining, (attempts (attempt + k)).escapes ∧
    ∀ j < k, (attempts (attempt + j)).succeeded = false ∧ (attempts (attempt + j)).escapes = false

/-- One of the three attempts escapes, and is made. -/
def Escapes (attempts : Nat → Attempt) : Prop := EscapesFrom attempts 3 0

variable {attempts : Nat → Attempt} {remaining attempt : Nat}

/-- After an attempt that fails the next is made. -/
private theorem escapesFrom_of_failed (hsucceeded : (attempts attempt).succeeded = false)
    (hescapes : (attempts attempt).escapes = false) :
    EscapesFrom attempts (remaining + 1) attempt ↔ EscapesFrom attempts remaining (attempt + 1) := by
  constructor
  · rintro ⟨k, hk, hescape, hbefore⟩
    cases k with
    | zero =>
      rw [Nat.add_zero, hescapes] at hescape
      cases hescape
    | succ k =>
      refine ⟨k, by omega, ?_, fun j hj ↦ ?_⟩
      · rwa [Nat.add_right_comm, Nat.add_assoc]
      · have hj' := hbefore (j + 1) (by omega)
        rwa [Nat.add_right_comm, Nat.add_assoc]
  · rintro ⟨k, hk, hescape, hbefore⟩
    refine ⟨k + 1, by omega, ?_, fun j hj ↦ ?_⟩
    · rwa [Nat.add_right_comm, Nat.add_assoc] at hescape
    · cases j with
      | zero => exact ⟨hsucceeded, hescapes⟩
      | succ j =>
        have hj' := hbefore j (by omega)
        rwa [Nat.add_right_comm, Nat.add_assoc] at hj'

/-- The attempts raise if and only if one that is made escapes. -/
private theorem attemptFrom_ok_iff (attempts : Nat → Attempt) (remaining attempt : Nat)
    (s : Forwarder) :
    ((attemptFrom attempts remaining attempt).run s).1 = .ok () ↔
      ¬ EscapesFrom attempts remaining attempt := by
  induction remaining generalizing attempt with
  | zero =>
    refine ⟨?_, fun _ ↦ rfl⟩
    rintro - ⟨k, hk, -⟩
    exact Nat.not_lt_zero k hk
  | succ remaining ih =>
    unfold attemptFrom
    cases hattempt : attempts attempt with
    | response status =>
      have hescapes : (attempts attempt).escapes = false := by
        rw [hattempt]
        rfl
      dsimp only
      split
      · next hsucceeded =>
        refine ⟨?_, fun _ ↦ rfl⟩
        rintro - ⟨k, hk, hescape, hbefore⟩
        cases k with
        | zero =>
          rw [Nat.add_zero, hescapes] at hescape
          cases hescape
        | succ k =>
          have hfirst := (hbefore 0 (by omega)).1
          rw [Nat.add_zero, hattempt, hsucceeded] at hfirst
          cases hfirst
      · next hsucceeded =>
        rw [ih, escapesFrom_of_failed (by rw [hattempt]; simpa using hsucceeded) hescapes]
    | raised e =>
      dsimp only
      split
      · next hcaught =>
        rw [ih, escapesFrom_of_failed]
        · rw [hattempt]
          rfl
        · rw [hattempt]
          simp [Attempt.escapes, hcaught]
      · next hcaught =>
        constructor
        · rintro ⟨⟩
        · intro hnot
          refine absurd ⟨0, by omega, ?_, fun j hj ↦ absurd hj (Nat.not_lt_zero j)⟩ hnot
          rw [Nat.add_zero, hattempt]
          simpa [Attempt.escapes] using hcaught

/-- The attempts change nothing. -/
private theorem attemptFrom_state (attempts : Nat → Attempt) (remaining attempt : Nat)
    (s : Forwarder) : ((attemptFrom attempts remaining attempt).run s).2 = s := by
  induction remaining generalizing attempt with
  | zero => rfl
  | succ remaining ih =>
    unfold attemptFrom
    split
    · split
      · rfl
      · exact ih (attempt + 1)
    · split
      · exact ih (attempt + 1)
      · rfl

section Run

variable (u : Unicode) (r : Repr) (fingerprint : TetragonDocument → String)
variable (settings : ForwarderSettings)

/-- The loop raises nothing if and only if no attempt that is made escapes; then every document
that passes is attempted. -/
theorem run_run (arrivals : List Arrival) (s : Forwarder) :
    (((run u r fingerprint settings arrivals).run s).1 = .ok () ↔
      ∀ admitted ∈ s.filter.admitted u r fingerprint settings arrivals,
        ¬ Escapes admitted.2) ∧
    (((run u r fingerprint settings arrivals).run s).1 = .ok () →
      ((run u r fingerprint settings arrivals).run s).2.attempted =
        s.attempted ++ (s.filter.admitted u r fingerprint settings arrivals).map (·.1)) := by
  induction arrivals generalizing s with
  | nil =>
    refine ⟨⟨fun _ _ h ↦ absurd h List.not_mem_nil, fun _ ↦ rfl⟩, fun _ ↦ ?_⟩
    exact (List.append_nil _).symm
  | cons a rest ih =>
    unfold run Filter.admitted
    rcases hfiltered : s.filter.admit u r fingerprint settings a with ⟨_ | document, f⟩
    · have hhandle : (handle u r fingerprint settings a).run s = (.ok (), { s with filter := f }) := by
        unfold handle
        rw [Exec.run_bind_of_ok (Exec.run_read _ _), Exec.run_bind_of_ok (Exec.run_update _ _),
          hfiltered]
        rfl
      rw [Exec.run_bind_of_ok hhandle]
      exact ih { s with filter := f }
    · have hhandle : (handle u r fingerprint settings a).run s =
          (attemptFrom a.attempts 3 0).run
            { filter := f, attempted := s.attempted ++ [document] } := by
        unfold handle
        rw [Exec.run_bind_of_ok (Exec.run_read _ _), Exec.run_bind_of_ok (Exec.run_update _ _),
          hfiltered]
        rfl
      have hstate := attemptFrom_state a.attempts 3 0
        { filter := f, attempted := s.attempted ++ [document] }
      have hiff := attemptFrom_ok_iff a.attempts 3 0
        { filter := f, attempted := s.attempted ++ [document] }
      rw [List.forall_mem_cons, Escapes, ← hiff, Exec.run_bind, hhandle]
      rcases hrun : (attemptFrom a.attempts 3 0).run
        { filter := f, attempted := s.attempted ++ [document] } with ⟨e | _, s'⟩
      · refine ⟨⟨?_, ?_⟩, ?_⟩
        · rintro ⟨⟩
        · rintro ⟨⟨⟩, -⟩
        · rintro ⟨⟩
      · rw [hrun] at hstate
        dsimp only at hstate
        subst hstate
        obtain ⟨hiff', hattempted⟩ := ih { filter := f, attempted := s.attempted ++ [document] }
        refine ⟨hiff'.trans (by simp), fun hok ↦ ?_⟩
        rw [hattempted hok, List.map_cons, List.append_assoc]
        rfl

end Run

/-- Neither loop raises if and only if `json.loads` raises nothing but the errors the tail catches
on the reads within the limit, and no attempt that is made raises an error `_deliver` does not
catch; then every usable line is queued and every document that passes is attempted. -/
theorem forwarder_goes_on_iff (loads : Loads) (polls : List Poll) (u : Unicode) (r : Repr)
    (fingerprint : TetragonDocument → String) (settings : ForwarderSettings)
    (arrivals : List Arrival) :
    ((((tail loads polls).run {}).1 = .ok () ∧
        ((tail loads polls).run {}).2.events = events loads 0 polls) ∧
      ((run u r fingerprint settings arrivals).run {}).1 = .ok () ∧
        ((run u r fingerprint settings arrivals).run {}).2.attempted =
          (Filter.admitted u r fingerprint settings {} arrivals).map (·.1)) ↔
    (∀ line ∈ reads 0 polls, line.length ≤ maxLineBytes → Caught loads line) ∧
      ∀ admitted ∈ Filter.admitted u r fingerprint settings {} arrivals,
        ¬ Escapes admitted.2 := by
  obtain ⟨htail, hevents⟩ := run_tail loads polls {}
  obtain ⟨hrun, hattempted⟩ := run_run u r fingerprint settings arrivals {}
  constructor
  · rintro ⟨⟨hok, -⟩, hok', -⟩
    exact ⟨htail.mp hok, hrun.mp hok'⟩
  · rintro ⟨hlines, hattempts⟩
    have hok := htail.mpr hlines
    have hok' := hrun.mpr hattempts
    refine ⟨⟨hok, ?_⟩, hok', ?_⟩
    · rw [hevents hok, List.nil_append]
    · rw [hattempted hok', List.nil_append]

/-! ### What ends the loops -/

/-- A number of 4301 digits. -/
private def manyDigits : List UInt8 := List.replicate 4301 0x31

/-- What `json.loads` makes of that number. -/
private def loadsDigits : Loads := fun line ↦
  if 4300 < line.length then .error .value else .error .jsonDecode

private theorem reads_manyDigits : reads 0 [⟨.opened manyDigits none, fun _ ↦ false⟩] =
    [manyDigits] := by
  have hlength : manyDigits.length = 4301 := List.length_replicate
  have hlines : readLines newline maxLineBytes manyDigits = [manyDigits] := by
    apply readLines_eq_singleton
    · intro hnil
      rw [hnil] at hlength
      cases hlength
    · apply readline_eq_self
      · intro hmem
        exact absurd (List.eq_of_mem_replicate hmem) (by decide)
      · rw [hlength]
        decide
  have hreads := reads_appends [] [manyDigits]
  rw [List.flatMap_cons, List.flatMap_nil, hlines] at hreads
  exact hreads

/-- An event whose delivery is cut off while the response is read. -/
private def cutOff : Arrival where
  raw := rawEvent "cloudward-s2-unexpected-egress" "/usr/bin/curl"
  nowText := ""
  seenAt := 0
  sentAt := 0
  attempts := fun _ ↦ .raised .osError

/-- A line with a number of 4301 digits ends the tail, and a connection that is reset while the
response is read ends the delivery. -/
theorem forwarder_ends :
    ((tail loadsDigits [⟨.opened manyDigits none, fun _ ↦ false⟩]).run {}).1 ≠ .ok () ∧
      ((run plainUnicode plainRepr (fun _ ↦ "") {} [cutOff]).run {}).1 ≠ .ok () := by
  constructor
  · intro hok
    have hcaught := (run_tail loadsDigits _ {}).1.mp hok manyDigits
      (reads_manyDigits ▸ List.mem_cons_self) (by
        rw [manyDigits, List.length_replicate]
        decide)
    have herror : loadsDigits manyDigits = .error .value := by
      unfold loadsDigits
      rw [if_pos]
      rw [manyDigits, List.length_replicate]
      decide
    exact absurd (hcaught _ herror) (by decide)
  · intro hok
    have hsome : (normalize plainUnicode plainRepr "" "unknown-node" 1 cutOff.raw).isSome := by
      decide +kernel
    obtain ⟨document, hdocument⟩ := Option.isSome_iff_exists.mp hsome
    have hnormalize : normalize plainUnicode plainRepr cutOff.nowText
        ({} : ForwarderSettings).nodeName (({} : Filter).sequence + 1) cutOff.raw =
          some document := hdocument
    obtain ⟨f, hfiltered⟩ : ∃ f, Filter.admit plainUnicode plainRepr (fun _ ↦ "") {} {} cutOff =
        (some document, f) := by
      unfold Filter.admit
      dsimp only
      rw [hnormalize]
      exact ⟨_, rfl⟩
    have hadmitted : Filter.admitted plainUnicode plainRepr (fun _ ↦ "") {} {} [cutOff] =
        [(document, cutOff.attempts)] := by
      unfold Filter.admitted
      rw [hfiltered]
      rfl
    refine (run_run plainUnicode plainRepr (fun _ ↦ "") {} [cutOff] {}).1.mp hok
      (document, cutOff.attempts) ?_ ⟨0, by decide, rfl, fun j hj ↦ absurd hj (Nat.not_lt_zero j)⟩
    rw [hadmitted]
    exact List.mem_cons_self

end CloudWard.Forwarder
