import CloudWard.Base.Json
import CloudWard.Logic.Exec
import CloudWard.Logic.Lines

/-!
# The tail of the event log

`Forwarder._tail` of `security-forwarder/forwarder.py:210`. A poll reads the file from the position
of the last read on, `MAX_LINE_BYTES + 1` bytes of a line at once, and parses each read that is not
longer than `MAX_LINE_BYTES`; `json.loads` is a parameter. A read that ends with the file and not
with its line is parsed as if it were one, and so is the rest of a line that was too long.
-/

namespace CloudWard.Forwarder

open CloudWard.Logic Lines

/-- `MAX_LINE_BYTES`, `forwarder.py:39`. -/
def maxLineBytes : Nat := 1048576

/-- The byte of a newline. -/
def newline : UInt8 := 0x0a

/-- What `json.loads` raises: a `UnicodeDecodeError`, a `JSONDecodeError`, another `ValueError`
or a `RecursionError`. -/
inductive LoadsError
  | unicodeDecode
  | jsonDecode
  | value
  | recursion
deriving DecidableEq

/-- `except (UnicodeDecodeError, json.JSONDecodeError)`, `forwarder.py:226`. -/
def LoadsError.caught : LoadsError → Bool
  | .unicodeDecode => true
  | .jsonDecode => true
  | _ => false

/-- `json.loads` of a line. -/
abbrev Loads : Type := List UInt8 → Except LoadsError Json

/-- The position of the tail, and the events it put into the queue. -/
structure Tail where
  position : Nat := 0
  events : List Json := []

/-- What a poll finds: no file, a file of some size that cannot be opened, or its bytes, of which
some reads may succeed. -/
inductive EventFile
  | missing
  | unopened (size : Nat)
  | opened (content : List UInt8) (reads : Option Nat)

/-- A poll: the file, and the positions at which the queue stays full. -/
structure Poll where
  file : EventFile
  full : Nat → Bool := fun _ ↦ false

/-- An event is put into the queue, unless that stays full. -/
def put (full : Nat → Bool) (event : Json) : Exec Tail LoadsError Unit := fun t ↦
  (.ok (), if full t.position then t else { t with events := t.events ++ [event] })

/-- `isinstance(event, dict)`. -/
def isDict : Json → Bool
  | .dict _ => true
  | _ => false

/-- One read, `forwarder.py:219`. -/
def readEvent (loads : Loads) (full : Nat → Bool) (line : List UInt8) :
    Exec Tail LoadsError Unit := do
  Exec.update fun t ↦ { t with position := t.position + line.length }
  if line.length > maxLineBytes then pure ()
  else
    match loads line with
    | .error e => if e.caught then pure () else throw e
    | .ok event => if isDict event then put full event else pure ()

/-- Where a poll starts to read, `forwarder.py:215`. -/
def startOf (size position : Nat) : Nat := if size < position then 0 else position

/-- The reads of a poll. -/
def readsOf (position : Nat) : EventFile → List (List UInt8)
  | .missing => []
  | .unopened _ => []
  | .opened content reads =>
    let lines := readLines newline maxLineBytes (content.drop (startOf content.length position))
    lines.take (reads.getD lines.length)

/-- The position from which a poll reads. -/
def seek (position : Nat) : EventFile → Nat
  | .missing => position
  | .unopened size => startOf size position
  | .opened content _ => startOf content.length position

/-- Some reads, one after the other. -/
def readEvents (loads : Loads) (full : Nat → Bool) : List (List UInt8) → Exec Tail LoadsError Unit
  | [] => pure ()
  | line :: rest => do
    readEvent loads full line
    readEvents loads full rest

/-- One poll, `forwarder.py:213`; `FileNotFoundError` and `OSError` end it. -/
def poll (loads : Loads) (p : Poll) : Exec Tail LoadsError Unit := do
  let reads ← Exec.read fun t ↦ readsOf t.position p.file
  Exec.update fun t ↦ { t with position := seek t.position p.file }
  readEvents loads p.full reads

/-- `_tail`, as long as nothing escapes a poll. -/
def tail (loads : Loads) : List Poll → Exec Tail LoadsError Unit
  | [] => pure ()
  | p :: rest => do
    poll loads p
    tail loads rest

/-- The object of a line, where it has one. -/
def usable (loads : Loads) (line : List UInt8) : Option Json :=
  match loads line with
  | .ok event => if isDict event then some event else none
  | .error _ => none

/-- Nothing but the two errors that are caught. -/
def Caught (loads : Loads) (line : List UInt8) : Prop :=
  ∀ e, loads line = .error e → e.caught

/-- The events some reads leave in the queue. -/
def eventsOf (loads : Loads) (full : Nat → Bool) : Nat → List (List UInt8) → List Json
  | _, [] => []
  | position, line :: rest =>
    (if line.length ≤ maxLineBytes ∧ full (position + line.length) = false then
      (usable loads line).toList else []) ++ eventsOf loads full (position + line.length) rest

/-- The position after some reads. -/
def after (position : Nat) (lines : List (List UInt8)) : Nat := position + lines.flatten.length

/-- The reads of some polls. -/
def reads : Nat → List Poll → List (List UInt8)
  | _, [] => []
  | position, p :: rest =>
    readsOf position p.file ++
      reads (after (seek position p.file) (readsOf position p.file)) rest

/-- The events some polls leave in the queue. -/
def events (loads : Loads) : Nat → List Poll → List Json
  | _, [] => []
  | position, p :: rest =>
    eventsOf loads p.full (seek position p.file) (readsOf position p.file) ++
      events loads (after (seek position p.file) (readsOf position p.file)) rest

variable (loads : Loads) (full : Nat → Bool)

/-! ### Reads -/

/-- A read raises nothing if and only if its line is too long or parsed without another error;
then it puts the object of its line. -/
theorem run_readEvent (line : List UInt8) (t : Tail) :
    (((readEvent loads full line).run t).1 = .ok () ↔
      (line.length ≤ maxLineBytes → Caught loads line)) ∧
    (((readEvent loads full line).run t).1 = .ok () →
      ((readEvent loads full line).run t).2 = {
        position := t.position + line.length
        events := t.events ++ if line.length ≤ maxLineBytes ∧
          full (t.position + line.length) = false then (usable loads line).toList else [] }) := by
  unfold readEvent
  rw [Exec.run_bind_of_ok (Exec.run_update _ _)]
  by_cases hlong : line.length > maxLineBytes
  · have hnot : ¬ line.length ≤ maxLineBytes := by omega
    rw [if_pos hlong, if_neg fun h ↦ hnot h.1, List.append_nil]
    exact ⟨⟨fun _ h ↦ absurd h hnot, fun _ ↦ rfl⟩, fun _ ↦ rfl⟩
  · have hle : line.length ≤ maxLineBytes := by omega
    rw [if_neg hlong]
    unfold Caught usable
    cases loads line with
    | error e =>
      dsimp only
      cases hcaught : e.caught
      · rw [if_neg Bool.false_ne_true]
        refine ⟨⟨?_, ?_⟩, ?_⟩
        · rintro ⟨⟩
        · intro h
          rw [h hle e rfl] at hcaught
          cases hcaught
        · rintro ⟨⟩
      · rw [if_pos rfl]
        refine ⟨⟨?_, fun _ ↦ rfl⟩, fun _ ↦ ?_⟩
        · rintro - - e' h
          cases h
          exact hcaught
        · simp
    | ok event =>
      dsimp only
      have hcaught : ∀ e, (.ok event : Except LoadsError Json) = .error e → e.caught := by
        rintro e ⟨⟩
      cases isDict event with
      | false =>
        rw [if_neg Bool.false_ne_true, if_neg Bool.false_ne_true]
        refine ⟨⟨fun _ _ ↦ hcaught, fun _ ↦ rfl⟩, fun _ ↦ ?_⟩
        simp
      | true =>
        rw [if_pos rfl, if_pos rfl]
        refine ⟨⟨fun _ _ ↦ hcaught, fun _ ↦ rfl⟩, fun _ ↦ ?_⟩
        have hput : ((put full event).run
            { t with position := t.position + line.length }).2 =
            if full (t.position + line.length) then
              { t with position := t.position + line.length }
            else { position := t.position + line.length, events := t.events ++ [event] } := rfl
        rw [hput]
        cases full (t.position + line.length) with
        | true => simp
        | false => simp [hle]

/-- The reads of a poll raise nothing if and only if each is too long or parsed without another
error. -/
theorem run_readEvents (lines : List (List UInt8)) (t : Tail) :
    (((readEvents loads full lines).run t).1 = .ok () ↔
      ∀ line ∈ lines, line.length ≤ maxLineBytes → Caught loads line) ∧
    (((readEvents loads full lines).run t).1 = .ok () →
      ((readEvents loads full lines).run t).2 = {
        position := after t.position lines
        events := t.events ++ eventsOf loads full t.position lines }) := by
  induction lines generalizing t with
  | nil =>
    refine ⟨⟨fun _ _ h ↦ absurd h List.not_mem_nil, fun _ ↦ rfl⟩, fun _ ↦ ?_⟩
    show t = { position := t.position + 0, events := t.events ++ [] }
    rw [List.append_nil, Nat.add_zero]
  | cons line rest ih =>
    obtain ⟨hiff, hstate⟩ := run_readEvent loads full line t
    unfold readEvents
    rw [List.forall_mem_cons, ← hiff, Exec.run_bind]
    rcases hrun : (readEvent loads full line).run t with ⟨e | _, t'⟩
    · refine ⟨⟨?_, ?_⟩, ?_⟩
      · rintro ⟨⟩
      · rintro ⟨⟨⟩, -⟩
      · rintro ⟨⟩
    · rw [hrun] at hstate
      have ht' := hstate rfl
      dsimp only at ht'
      obtain ⟨hiff', hstate'⟩ := ih t'
      refine ⟨hiff'.trans (by simp), fun hok ↦ ?_⟩
      have hend := hstate' hok
      dsimp only
      rw [hend, ht']
      simp [after, eventsOf, List.append_assoc, Nat.add_assoc]

/-- The polls raise nothing if and only if each read is too long or parsed without another error;
then they put the events of the reads. -/
theorem run_tail (polls : List Poll) (t : Tail) :
    (((tail loads polls).run t).1 = .ok () ↔
      ∀ line ∈ reads t.position polls, line.length ≤ maxLineBytes → Caught loads line) ∧
    (((tail loads polls).run t).1 = .ok () →
      ((tail loads polls).run t).2.events = t.events ++ events loads t.position polls) := by
  induction polls generalizing t with
  | nil =>
    refine ⟨⟨fun _ _ h ↦ absurd h List.not_mem_nil, fun _ ↦ rfl⟩, fun _ ↦ ?_⟩
    exact (List.append_nil _).symm
  | cons p rest ih =>
    have hpoll : (poll loads p).run t = (readEvents loads p.full (readsOf t.position p.file)).run
        { t with position := seek t.position p.file } := rfl
    obtain ⟨hiff, hstate⟩ := run_readEvents loads p.full
      (readsOf t.position p.file) { t with position := seek t.position p.file }
    unfold tail
    rw [reads, List.forall_mem_append, ← hiff, Exec.run_bind, hpoll]
    rcases hrun : (readEvents loads p.full (readsOf t.position p.file)).run
      { t with position := seek t.position p.file } with ⟨e | _, t'⟩
    · refine ⟨⟨?_, ?_⟩, ?_⟩
      · rintro ⟨⟩
      · rintro ⟨⟨⟩, -⟩
      · rintro ⟨⟩
    · rw [hrun] at hstate
      have ht' := hstate rfl
      dsimp only at ht'
      obtain ⟨hiff', hstate'⟩ := ih t'
      subst ht'
      refine ⟨hiff'.trans (by simp), fun hok ↦ ?_⟩
      have hend := hstate' hok
      dsimp only at hend ⊢
      rw [hend, events, List.append_assoc]

/-! ### Appends -/

/-- A poll after each append to what the file has. -/
def appends (content : List UInt8) : List (List UInt8) → List Poll
  | [] => []
  | part :: rest => ⟨.opened (content ++ part) none, fun _ ↦ false⟩ :: appends (content ++ part) rest

/-- The objects on the complete lines within the limit. -/
def objects (loads : Loads) (bytes : List UInt8) : List Json :=
  (within maxLineBytes (completeLines newline [] bytes)).filterMap (usable loads)

/-- The tail goes on, and yields the objects of what was appended. -/
def Delivers (loads : Loads) (parts : List (List UInt8)) : Prop :=
  ((tail loads (appends [] parts)).run {}).1 = .ok () ∧
    ((tail loads (appends [] parts)).run {}).2.events = objects loads parts.flatten

/-- Each read of an append that is not too long is a whole line. -/
def WholeLines (parts : List (List UInt8)) : Prop :=
  Whole newline maxLineBytes True (parts.flatMap (readLines newline maxLineBytes))

/-- A poll reads what was appended. -/
private theorem readsOf_append (content part : List UInt8) :
    readsOf content.length (.opened (content ++ part) none) =
      readLines newline maxLineBytes part ∧
    seek content.length (.opened (content ++ part) none) = content.length := by
  have hstart : startOf (content ++ part).length content.length = content.length := by
    unfold startOf
    rw [if_neg]
    rw [List.length_append]
    omega
  unfold readsOf seek
  dsimp only
  rw [hstart, List.drop_left, Option.getD_none, List.take_length]
  exact ⟨rfl, rfl⟩

theorem reads_appends (content : List UInt8) (parts : List (List UInt8)) :
    reads content.length (appends content parts) =
      parts.flatMap (readLines newline maxLineBytes) := by
  induction parts generalizing content with
  | nil => rfl
  | cons part rest ih =>
    obtain ⟨hreads, hseek⟩ := readsOf_append content part
    rw [appends, reads, hreads, hseek, after, flatten_readLines, ← List.length_append, ih,
      List.flatMap_cons]

private theorem eventsOf_free (position : Nat) (lines : List (List UInt8)) :
    eventsOf loads (fun _ ↦ false) position lines =
      (within maxLineBytes lines).filterMap (usable loads) := by
  induction lines generalizing position with
  | nil => rfl
  | cons line rest ih =>
    rw [eventsOf, ih]
    by_cases hle : line.length ≤ maxLineBytes
    · rw [if_pos ⟨hle, rfl⟩, within_cons_of_le hle, List.filterMap_cons]
      cases usable loads line with
      | none => rfl
      | some event => rfl
    · rw [if_neg fun h ↦ hle h.1, within_cons_of_lt (Nat.lt_of_not_le hle), List.nil_append]

theorem events_appends (content : List UInt8) (parts : List (List UInt8)) :
    events loads content.length (appends content parts) =
      (within maxLineBytes (parts.flatMap (readLines newline maxLineBytes))).filterMap
        (usable loads) := by
  induction parts generalizing content with
  | nil => rfl
  | cons part rest ih =>
    obtain ⟨hreads, hseek⟩ := readsOf_append content part
    rw [appends, events, hreads, hseek, after, flatten_readLines, ← List.length_append, ih,
      eventsOf_free, List.flatMap_cons, within, within, within, List.filter_append,
      List.filterMap_append]

/-- The tail yields the objects of every log, whatever `json.loads` makes of its lines, if and only
if each read that is not too long is a whole line. -/
theorem tail_delivers_iff (parts : List (List UInt8)) :
    (∀ loads : Loads, (∀ line, Caught loads line) → Delivers loads parts) ↔ WholeLines parts := by
  have hlines : completeLines newline [] parts.flatten =
      linesOf newline [] (parts.flatMap (readLines newline maxLineBytes)) :=
    completeLines_flatten maxLineBytes [] parts
  have hevents (loads : Loads) : events loads 0 (appends [] parts) =
      (within maxLineBytes (parts.flatMap (readLines newline maxLineBytes))).filterMap
        (usable loads) := events_appends loads [] parts
  have htrue : (([] : List UInt8) = []) = True := eq_self []
  unfold WholeLines
  rw [← htrue]
  constructor
  · intro h
    -- a parser that takes every line counts them
    have hdelivers := h (fun _ ↦ .ok (.dict [])) (by rintro line e ⟨⟩)
    have hend := (run_tail (fun _ ↦ .ok (.dict [])) (appends [] parts) {}).2 hdelivers.1
    have hall : usable (fun _ ↦ .ok (.dict [])) = some ∘ fun _ ↦ .dict [] := rfl
    rw [hdelivers.2, objects, hlines, List.nil_append, hevents, hall, List.filterMap_eq_map] at hend
    apply whole_of_length_eq (.inl rfl)
    have hlength := congrArg List.length hend
    rw [List.length_map, List.length_map] at hlength
    exact hlength.symm
  · intro hwhole loads hcaught
    have hok := (run_tail loads (appends [] parts) {}).1.mpr fun line _ _ ↦ hcaught line
    refine ⟨hok, ?_⟩
    rw [(run_tail loads (appends [] parts) {}).2 hok, List.nil_append, hevents, objects, hlines,
      within_eq_of_whole (.inl rfl) hwhole]

/-! ### A line in two appends -/

/-- `{"a":1}` and a newline. -/
private def objectLine : List UInt8 := [0x7b, 0x22, 0x61, 0x22, 0x3a, 0x31, 0x7d, 0x0a]

/-- What `json.loads` makes of that line, and of its parts. -/
private def loadsLine : Loads := fun line ↦
  if line = objectLine then .ok (.dict [("a", .int 1)]) else .error .jsonDecode

/-- The line is complete after the second append, but never delivered. -/
theorem dividedLine_not_delivered :
    (∀ line, Caught loadsLine line) ∧
      ¬ Delivers loadsLine [objectLine.take 5, objectLine.drop 5] := by
  constructor
  · intro line e h
    unfold loadsLine at h
    split at h
    · cases h
    · cases h
      rfl
  · rintro ⟨hok, hdelivered⟩
    have hreads : [objectLine.take 5, objectLine.drop 5].flatMap
        (readLines newline maxLineBytes) = [objectLine.take 5, objectLine.drop 5] := by
      rw [List.flatMap_cons, List.flatMap_cons, List.flatMap_nil,
        readLines_eq_singleton (by decide) (by decide +kernel),
        readLines_eq_singleton (by decide) (by decide +kernel)]
      rfl
    have hevents := (run_tail loadsLine _ {}).2 hok
    rw [hdelivered] at hevents
    have hnone : events loadsLine 0 (appends [] [objectLine.take 5, objectLine.drop 5]) = [] := by
      refine (events_appends loadsLine [] _).trans ?_
      rw [hreads]
      rfl
    have hsome : (objects loadsLine [objectLine.take 5, objectLine.drop 5].flatten).length = 1 :=
      rfl
    rw [hevents, hnone] at hsome
    cases hsome

end CloudWard.Forwarder
