import CloudWard.Base.Errors
import CloudWard.Base.Python
import CloudWard.Logic.Page
import CloudWard.Logic.Runs

/-!
# The event stream

`append_stream_event` (`events/service.py:17`) and `event_stream` (`api/events.py:37`): a
transaction takes an identity from the sequence when it flushes its event, and the row becomes
visible when the transaction commits. A connection polls for the events after its cursor, a
hundred at a time, and moves the cursor to the last event it sends; a client that lost its
connection comes back with the identity of the last event it received.

The cursor passes over the identities of transactions that are still open, so an event is lost
when its transaction commits behind the cursor. Where every commit is ahead of the cursor,
nothing is lost; nothing is ever repeated.
-/

namespace CloudWard.Events

open CloudWard.Logic Python

/-- `StreamEvent`, `db/models.py:455`; `data` is the JSON of its payload. -/
structure StreamEvent where
  id : Nat
  eventType : String
  data : String
deriving DecidableEq

/-- `MAX_EVENT_CURSOR`: the identities are 32-bit integers. -/
def maxEventCursor : Nat := 2147483647

/-- `f"id: {record.id}\nevent: {record.event_type}\ndata: {data}\n\n"`. -/
def StreamEvent.frame (e : StreamEvent) : String :=
  "id: " ++ toString e.id ++ "\nevent: " ++ e.eventType ++ "\ndata: " ++ e.data ++ "\n\n"

/-- `INVALID_EVENT_CURSOR`. -/
def invalidEventCursor : Exc :=
  .cloudWard ⟨"INVALID_EVENT_CURSOR", "Last-Event-ID must be a non-negative integer", 422⟩

/-- The cursor of a connection, `api/events.py:47`. -/
def openCursor (u : Unicode) (query : Nat) (header : Option String) : Except Exc Nat :=
  match header with
  | none | some "" => .ok query
  | some text =>
    match int u text with
    | some (.ofNat n) =>
      if n ≤ maxEventCursor then .ok (max query n) else .error invalidEventCursor
    | _ => .error invalidEventCursor

/-- A table of events and one client of the stream. -/
structure Feed where
  /-- The next identity of the sequence. -/
  next : Nat := 1
  /-- The events that open transactions have flushed, with their transactions. -/
  writing : List (Nat × StreamEvent) := []
  visible : List StreamEvent := []
  /-- `last_event_id` of the address the client connects to. -/
  start : Nat
  cursor : Nat
  /-- The frames on their way to the client. -/
  sent : List StreamEvent := []
  received : List StreamEvent := []

/-- A client that has just connected. -/
def Feed.initial (start : Nat) : Feed := { start, cursor := start }

/-- The events of a transaction. -/
def Feed.eventsOf (s : Feed) (transaction : Nat) : List StreamEvent :=
  (s.writing.filter (·.1 = transaction)).map (·.2)

/-- The records of a poll, `api/events.py:76`. -/
def Feed.records (s : Feed) : List StreamEvent := page StreamEvent.id 100 s.cursor s.visible

/-- The last event a client received. -/
def Feed.lastEventId (s : Feed) : Option String := s.received.getLast?.map fun e ↦ toString e.id

/-- What happens next. -/
inductive Move
  | append (transaction : Nat) (eventType data : String)
  | commit (transaction : Nat)
  | abort (transaction : Nat)
  | poll
  | receive
  | reconnect

/-- One step. -/
def step (u : Unicode) (s : Feed) : Move → Feed
  | .append transaction eventType data =>
    if s.next ≤ maxEventCursor then
      { s with
        next := s.next + 1
        writing := s.writing ++ [(transaction, ⟨s.next, eventType, data⟩)] }
    else s
  | .commit transaction =>
    { s with
      writing := s.writing.filter (·.1 ≠ transaction)
      visible := s.visible ++ s.eventsOf transaction }
  | .abort transaction => { s with writing := s.writing.filter (·.1 ≠ transaction) }
  | .poll =>
    { s with
      cursor := (s.records.getLast?.map (·.id)).getD s.cursor
      sent := s.sent ++ s.records }
  | .receive =>
    match s.sent with
    | [] => s
    | e :: rest => { s with sent := rest, received := s.received ++ [e] }
  | .reconnect =>
    match openCursor u s.start s.lastEventId with
    | .ok cursor => { s with cursor, sent := [] }
    | .error _ => s

variable {u : Unicode} {s : Feed}

/-- What was sent to the client and not lost on the way, oldest first. -/
def Feed.frames (s : Feed) : List StreamEvent := s.received ++ s.sent

/-- The identity of the last event of a list, or the address's own cursor. -/
def Feed.lastOf (s : Feed) (events : List StreamEvent) : Nat :=
  (events.getLast?.map (·.id)).getD s.start

/-- A client that comes back starts after the last event it received. -/
theorem openCursor_lastEventId (hreceived : ∀ e ∈ s.received, s.start < e.id)
    (hbound : ∀ e ∈ s.received, e.id ≤ maxEventCursor) :
    openCursor u s.start s.lastEventId = .ok (s.lastOf s.received) := by
  unfold Feed.lastEventId Feed.lastOf
  cases hlast : s.received.getLast? with
  | none => rfl
  | some e =>
    have hmem := List.mem_of_getLast? hlast
    have hstart := hreceived e hmem
    have hne : toString e.id ≠ "" := by
      intro h
      have hdigits : Nat.toDigits 10 e.id = [] := by
        rw [← Nat.toList_repr]
        exact congrArg String.toList h
      exact Nat.toDigits_ne_nil hdigits
    have hopen : openCursor u s.start (some (toString e.id)) =
        if e.id ≤ maxEventCursor then .ok (max s.start e.id) else .error invalidEventCursor := by
      unfold openCursor
      split
      · next h => cases h
      · next h => exact absurd (Option.some.inj h) hne
      · next text _ h =>
        cases h
        rw [int_toString]
    rw [Option.map_some, hopen, if_pos (hbound e hmem), Nat.max_eq_right (by omega)]
    rfl

/-! ### The order of the frames -/

/-- Identities are taken once, and the frames follow their order. -/
structure Feed.Ordered (s : Feed) : Prop where
  nodup : (s.visible.map (·.id) ++ s.writing.map (·.2.id)).Nodup
  visible_lt : ∀ e ∈ s.visible, e.id < s.next
  writing_lt : ∀ entry ∈ s.writing, entry.2.id < s.next
  next_le : s.next ≤ maxEventCursor + 1
  frames_visible : ∀ e ∈ s.frames, e ∈ s.visible
  increasing : s.frames.Pairwise fun a b ↦ a.id < b.id
  above : ∀ e ∈ s.frames, s.start < e.id
  cursor_eq : s.cursor = s.lastOf s.frames

theorem Feed.Ordered.nodup_visible (h : s.Ordered) : (s.visible.map (·.id)).Nodup :=
  h.nodup.sublist (List.sublist_append_left _ _)

private theorem le_lastOf {events : List StreamEvent}
    (h : events.Pairwise fun a b ↦ a.id < b.id) {e : StreamEvent} (he : e ∈ events) :
    e.id ≤ s.lastOf events := by
  unfold Feed.lastOf
  rcases List.eq_nil_or_concat events with rfl | ⟨front, last, rfl⟩
  · cases he
  · rw [List.concat_eq_append] at h he ⊢
    rw [List.getLast?_append_of_ne_nil _ (List.cons_ne_nil last []), List.getLast?_singleton]
    rcases List.mem_append.mp he with hfront | hlast
    · exact Nat.le_of_lt ((List.pairwise_append.mp h).2.2 e hfront last List.mem_cons_self)
    · rw [List.mem_singleton.mp hlast]
      exact Nat.le_refl _

private theorem start_le_lastOf {events : List StreamEvent} (h : ∀ e ∈ events, s.start < e.id) :
    s.start ≤ s.lastOf events := by
  unfold Feed.lastOf
  cases hlast : events.getLast? with
  | none => exact Nat.le_refl _
  | some e => exact Nat.le_of_lt (h e (List.mem_of_getLast? hlast))

theorem Feed.Ordered.le_cursor (h : s.Ordered) {e : StreamEvent} (he : e ∈ s.frames) :
    e.id ≤ s.cursor := by
  rw [h.cursor_eq]
  exact le_lastOf h.increasing he

theorem Feed.Ordered.start_le_cursor (h : s.Ordered) : s.start ≤ s.cursor := by
  rw [h.cursor_eq]
  exact start_le_lastOf h.above

private theorem mem_frames_of_mem_received {e : StreamEvent} (he : e ∈ s.received) :
    e ∈ s.frames := List.mem_append_left _ he

/-- What a client that comes back starts with. -/
theorem Feed.Ordered.step_reconnect (h : s.Ordered) :
    step u s .reconnect = { s with cursor := s.lastOf s.received, sent := [] } := by
  have hopen : openCursor u s.start s.lastEventId = .ok (s.lastOf s.received) := by
    apply openCursor_lastEventId
    · exact fun e he ↦ h.above e (mem_frames_of_mem_received he)
    · intro e he
      have hlt := h.visible_lt e (h.frames_visible e (mem_frames_of_mem_received he))
      have hle := h.next_le
      omega
  simp only [step, hopen]

private theorem step_receive (h : s.sent = []) : step u s .receive = s := by
  simp only [step, h]

private theorem step_receive_cons {e : StreamEvent} {rest : List StreamEvent}
    (h : s.sent = e :: rest) :
    step u s .receive = { s with sent := rest, received := s.received ++ [e] } := by
  simp only [step, h]

private theorem frames_receive (s : Feed) : (step u s .receive).frames = s.frames := by
  cases hsent : s.sent with
  | nil => rw [step_receive hsent]
  | cons e rest =>
    rw [step_receive_cons hsent, Feed.frames, Feed.frames, hsent, List.append_assoc]
    rfl

private theorem lastOf_append (s : Feed) (events records : List StreamEvent) :
    s.lastOf (events ++ records) = (records.getLast?.map (·.id)).getD (s.lastOf events) := by
  unfold Feed.lastOf
  rw [List.getLast?_append]
  cases records.getLast? with
  | none => rfl
  | some e => rfl

/-- One step keeps the order. -/
theorem Feed.Ordered.step (h : s.Ordered) (move : Move) : (step u s move).Ordered := by
  cases move with
  | append transaction eventType data =>
    unfold Events.step
    dsimp only
    split
    · next hle =>
      constructor
      · simp only [List.map_append, List.map_cons, List.map_nil, ← List.append_assoc]
        apply List.nodup_append.mpr
        constructor
        · exact h.nodup
        constructor
        · exact List.nodup_singleton _
        intro a ha b hb
        rw [List.mem_singleton.mp hb]
        rcases List.mem_append.mp ha with hv | hw
        · obtain ⟨e, he, rfl⟩ := List.mem_map.mp hv
          exact Nat.ne_of_lt (h.visible_lt e he)
        · obtain ⟨entry, he, rfl⟩ := List.mem_map.mp hw
          exact Nat.ne_of_lt (h.writing_lt entry he)
      · exact fun e he ↦ Nat.lt_succ_of_lt (h.visible_lt e he)
      · intro entry he
        rcases List.mem_append.mp he with hw | hnew
        · exact Nat.lt_succ_of_lt (h.writing_lt entry hw)
        · rw [List.mem_singleton.mp hnew]
          exact Nat.lt_succ_self _
      · exact Nat.succ_le_succ hle
      · exact h.frames_visible
      · exact h.increasing
      · exact h.above
      · exact h.cursor_eq
    · exact h
  | commit transaction =>
    have hperm : (s.visible.map (·.id) ++ s.writing.map (·.2.id)).Perm
        ((s.visible ++ s.eventsOf transaction).map (·.id) ++
          (s.writing.filter (·.1 ≠ transaction)).map (·.2.id)) := by
      rw [List.map_append, List.append_assoc]
      apply List.Perm.append_left
      unfold Feed.eventsOf
      rw [List.map_map]
      have hsplit := (List.filter_append_perm (·.1 = transaction) s.writing).map (·.2.id)
      rw [List.map_append] at hsplit
      simpa [Function.comp_def] using hsplit.symm
    constructor
    · exact hperm.nodup_iff.mp h.nodup
    · intro e he
      rcases List.mem_append.mp he with hv | hw
      · exact h.visible_lt e hv
      · obtain ⟨entry, hentry, rfl⟩ := List.mem_map.mp hw
        exact h.writing_lt entry (List.mem_of_mem_filter hentry)
    · exact fun entry he ↦ h.writing_lt entry (List.mem_of_mem_filter he)
    · exact h.next_le
    · exact fun e he ↦ List.mem_append_left _ (h.frames_visible e he)
    · exact h.increasing
    · exact h.above
    · exact h.cursor_eq
  | abort transaction =>
    constructor
    · exact h.nodup.sublist ((List.filter_sublist.map _).append_left _)
    · exact h.visible_lt
    · exact fun entry he ↦ h.writing_lt entry (List.mem_of_mem_filter he)
    · exact h.next_le
    · exact h.frames_visible
    · exact h.increasing
    · exact h.above
    · exact h.cursor_eq
  | poll =>
    have hframes : (Events.step u s .poll).frames = s.frames ++ s.records := by
      simp only [Events.step, Feed.frames, List.append_assoc]
    constructor
    · exact h.nodup
    · exact h.visible_lt
    · exact h.writing_lt
    · exact h.next_le
    · rw [hframes]
      intro e he
      rcases List.mem_append.mp he with hold | hnew
      · exact h.frames_visible e hold
      · exact (Page.mem hnew).1
    · rw [hframes, List.pairwise_append]
      constructor
      · exact h.increasing
      constructor
      · exact Page.pairwise h.nodup_visible
      intro a ha b hb
      exact Nat.lt_of_le_of_lt (h.le_cursor ha) (Page.mem hb).2
    · rw [hframes]
      intro e he
      rcases List.mem_append.mp he with hold | hnew
      · exact h.above e hold
      · exact Nat.lt_of_le_of_lt h.start_le_cursor (Page.mem hnew).2
    · rw [hframes]
      have hlast := lastOf_append s s.frames s.records
      rw [← h.cursor_eq] at hlast
      exact hlast.symm
  | receive =>
    have hframes := frames_receive (u := u) s
    cases hsent : s.sent with
    | nil => rwa [step_receive hsent]
    | cons e rest =>
      rw [step_receive_cons hsent] at hframes ⊢
      constructor
      · exact h.nodup
      · exact h.visible_lt
      · exact h.writing_lt
      · exact h.next_le
      · exact hframes ▸ h.frames_visible
      · exact hframes ▸ h.increasing
      · exact hframes ▸ h.above
      · rw [hframes]
        exact h.cursor_eq
  | reconnect =>
    have hframes : ({ s with cursor := s.lastOf s.received, sent := [] } : Feed).frames =
        s.received := List.append_nil _
    rw [h.step_reconnect]
    constructor
    · exact h.nodup
    · exact h.visible_lt
    · exact h.writing_lt
    · exact h.next_le
    · rw [hframes]
      exact fun e he ↦ h.frames_visible e (mem_frames_of_mem_received he)
    · rw [hframes]
      exact h.increasing.sublist (List.sublist_append_left _ _)
    · rw [hframes]
      exact fun e he ↦ h.above e (mem_frames_of_mem_received he)
    · rw [hframes]
      rfl

/-- A client that has just connected received nothing. -/
theorem ordered_initial (start : Nat) : (Feed.initial start).Ordered where
  nodup := List.nodup_nil
  visible_lt := fun _ h ↦ absurd h List.not_mem_nil
  writing_lt := fun _ h ↦ absurd h List.not_mem_nil
  next_le := Nat.le_add_left 1 maxEventCursor
  frames_visible := fun _ h ↦ absurd h List.not_mem_nil
  increasing := List.Pairwise.nil
  above := fun _ h ↦ absurd h List.not_mem_nil
  cursor_eq := rfl

/-! ### Nothing is repeated, and what is lost -/

/-- The events that became visible up to the cursor were sent. -/
def Feed.Complete (s : Feed) : Prop :=
  ∀ e ∈ s.visible, s.start < e.id → e.id ≤ s.cursor → e ∈ s.frames

/-- A transaction commits ahead of the cursor. -/
def CommitsAhead (s : Feed) : Move → Prop
  | .commit transaction => ∀ e ∈ s.eventsOf transaction, s.cursor < e.id
  | _ => True

instance (s : Feed) : ∀ move, Decidable (CommitsAhead s move)
  | .commit transaction =>
    inferInstanceAs (Decidable (∀ e ∈ s.eventsOf transaction, s.cursor < e.id))
  | .append .. | .abort _ | .poll | .receive | .reconnect => inferInstanceAs (Decidable True)

/-- One step that commits nothing behind the cursor loses nothing. -/
theorem Feed.Complete.step (hs : s.Ordered) (h : s.Complete) {move : Move}
    (hmove : CommitsAhead s move) : (step u s move).Complete := by
  cases move with
  | append transaction eventType data =>
    unfold Events.step
    dsimp only
    split
    · exact h
    · exact h
  | commit transaction =>
    intro e he hstart hle
    rcases List.mem_append.mp he with hv | hw
    · exact h e hv hstart hle
    · have hlt : s.cursor < e.id := hmove e hw
      have hle : e.id ≤ s.cursor := hle
      omega
  | abort transaction => exact h
  | poll =>
    intro e he hstart hle
    have hframes : (Events.step u s .poll).frames = s.frames ++ s.records := by
      simp only [Events.step, Feed.frames, List.append_assoc]
    rw [hframes, List.mem_append]
    by_cases hold : e.id ≤ s.cursor
    · exact .inl (h e he hstart hold)
    · right
      have hle : e.id ≤ (s.records.getLast?.map (·.id)).getD s.cursor := hle
      cases hlast : s.records.getLast? with
      | none =>
        rw [hlast] at hle
        exact absurd hle hold
      | some last =>
        rw [hlast] at hle
        exact Page.mem_of_le hs.nodup_visible he (by omega) (List.mem_of_getLast? hlast) hle
  | receive =>
    intro e he hstart hle
    rw [frames_receive]
    cases hsent : s.sent with
    | nil =>
      rw [step_receive hsent] at he hstart hle
      exact h e he hstart hle
    | cons a rest =>
      rw [step_receive_cons hsent] at he hstart hle
      exact h e he hstart hle
  | reconnect =>
    intro e he hstart hle
    rw [hs.step_reconnect] at he hstart hle ⊢
    have hle : e.id ≤ s.lastOf s.received := hle
    have hcursor : s.lastOf s.received ≤ s.cursor := by
      unfold Feed.lastOf
      cases hlast : s.received.getLast? with
      | none => exact hs.start_le_cursor
      | some last =>
        exact hs.le_cursor (mem_frames_of_mem_received (List.mem_of_getLast? hlast))
    rcases List.mem_append.mp (h e he hstart (hle.trans hcursor)) with hreceived | hsent
    · exact List.mem_append_left _ hreceived
    · exfalso
      unfold Feed.lastOf at hle
      cases hlast : s.received.getLast? with
      | none =>
        rw [hlast] at hle
        exact Nat.not_lt.mpr hle hstart
      | some last =>
        rw [hlast] at hle
        have hlt := (List.pairwise_append.mp hs.increasing).2.2 last (List.mem_of_getLast? hlast)
          e hsent
        exact Nat.not_lt.mpr hle hlt

/-! ### A client that goes on reading -/

/-- The client polls and receives a frame, some number of times. -/
def reading : Nat → List Move
  | 0 => []
  | n + 1 => .poll :: .receive :: reading n

/-- Nothing is on its way, and a poll finds nothing. -/
def Feed.CaughtUp (s : Feed) : Prop := s.sent = [] ∧ s.records = []

private theorem step_poll (h : s.records = []) : step u s .poll = s := by
  simp only [step, h, List.getLast?_nil, Option.map_none, Option.getD_none, List.append_nil]

/-- A client that has caught up changes nothing by reading on. -/
theorem Feed.CaughtUp.run_reading (h : s.CaughtUp) (n : Nat) :
    Runs.run (step u) s (reading n) = s := by
  induction n with
  | zero => rfl
  | succ n ih =>
    rw [reading, Runs.run_cons, Runs.run_cons, step_poll h.2, step_receive h.1]
    exact ih

/-- What reading leaves alone. -/
private theorem run_reading_frame (n : Nat) (s : Feed) :
    (Runs.run (step u) s (reading n)).visible = s.visible ∧
      (Runs.run (step u) s (reading n)).start = s.start := by
  induction n generalizing s with
  | zero => exact ⟨rfl, rfl⟩
  | succ n ih =>
    obtain ⟨hvisible, hstart⟩ := ih (step u (step u s .poll) .receive)
    rw [reading, Runs.run_cons, Runs.run_cons, hvisible, hstart]
    cases hsent : (step u s .poll).sent with
    | nil =>
      rw [step_receive hsent]
      exact ⟨rfl, rfl⟩
    | cons e rest =>
      rw [step_receive_cons hsent]
      exact ⟨rfl, rfl⟩

/-- A client that has not caught up receives a later event. -/
private theorem lastOf_lt (h : s.Ordered) (hbehind : ¬ s.CaughtUp) :
    s.lastOf s.received < s.next ∧
      (step u (step u s .poll) .receive).next = s.next ∧
      s.lastOf s.received < (step u (step u s .poll) .receive).lastOf
        (step u (step u s .poll) .receive).received := by
  have hpoll : (step u s .poll).Ordered := h.step .poll
  cases hsent : (step u s .poll).sent with
  | nil =>
    have hnil : s.sent ++ s.records = [] := hsent
    exact absurd (List.append_eq_nil_iff.mp hnil) hbehind
  | cons e rest =>
    have hframes : (step u s .poll).frames = s.received ++ e :: rest := by
      rw [Feed.frames, hsent]
      rfl
    have hmem : e ∈ (step u s .poll).frames := by
      rw [hframes]
      exact List.mem_append_right _ List.mem_cons_self
    have hlt : s.lastOf s.received < e.id := by
      unfold Feed.lastOf
      cases hlast : s.received.getLast? with
      | none => exact hpoll.above e hmem
      | some last =>
        have hincreasing := hpoll.increasing
        rw [hframes] at hincreasing
        exact (List.pairwise_append.mp hincreasing).2.2 last (List.mem_of_getLast? hlast) e
          List.mem_cons_self
    have hnext : e.id < s.next := hpoll.visible_lt e (hpoll.frames_visible e hmem)
    rw [step_receive_cons hsent]
    refine ⟨hlt.trans hnext, rfl, ?_⟩
    simpa [Feed.lastOf, step] using hlt

/-- A client that goes on reading catches up. -/
theorem Feed.Ordered.caughtUp_reading (h : s.Ordered) {n : Nat}
    (hn : s.next ≤ s.lastOf s.received + n) :
    (Runs.run (Events.step u) s (reading n)).CaughtUp := by
  induction n generalizing s with
  | zero =>
    by_contra hbehind
    have hlt := (lastOf_lt (u := u) h hbehind).1
    omega
  | succ n ih =>
    by_cases hup : s.CaughtUp
    · rw [hup.run_reading]
      exact hup
    · obtain ⟨-, hnext, hlt⟩ := lastOf_lt (u := u) h hup
      apply ih ((h.step .poll).step .receive)
      rw [hnext]
      omega

/-- A client that goes on reading receives every visible event after its starting cursor
exactly once. -/
def Feed.DeliversOnce (u : Unicode) (s : Feed) : Prop :=
  ∀ e ∈ s.visible, s.start < e.id →
    (Runs.run (step u) s (reading s.next)).received.count e = 1

/-- In every run whose transactions commit ahead of the cursor, every event that is committed
after the starting cursor is delivered to the client exactly once; and in every run none is
delivered twice. -/
theorem stream_delivers_once (u : Unicode) (start : Nat) (moves : List Move) :
    (Runs.Along (step u) CommitsAhead (Feed.initial start) moves →
      (Runs.run (step u) (Feed.initial start) moves).DeliversOnce u) ∧
    ∀ e, (Runs.run (step u) (Feed.initial start) moves).received.count e ≤ 1 := by
  have hnodup {s : Feed} (h : s.Ordered) : s.received.Nodup := by
    apply (h.increasing.sublist (List.sublist_append_left _ _)).imp
    rintro a _ hlt rfl
    exact Nat.lt_irrefl _ hlt
  constructor
  · intro halong
    have hsafe : (Runs.run (step u) (Feed.initial start) moves).Ordered ∧
        (Runs.run (step u) (Feed.initial start) moves).Complete := by
      apply Runs.invariant_along (C := CommitsAhead) (I := fun s ↦ s.Ordered ∧ s.Complete)
        _ _ halong
      · exact fun s move hs hmove ↦ ⟨hs.1.step move, hs.2.step hs.1 hmove⟩
      · exact ⟨ordered_initial start, fun e he ↦ absurd he List.not_mem_nil⟩
    generalize Runs.run (step u) (Feed.initial start) moves = s at hsafe
    obtain ⟨hordered, hcomplete⟩ := hsafe
    intro e he hstart
    have hreads : ∀ n (s : Feed), s.Ordered → s.Complete →
        (Runs.run (step u) s (reading n)).Ordered ∧
          (Runs.run (step u) s (reading n)).Complete := by
      intro n
      induction n with
      | zero => exact fun s hordered hcomplete ↦ ⟨hordered, hcomplete⟩
      | succ n ih =>
        intro s hordered hcomplete
        have hpoll := hordered.step (u := u) .poll
        have hpolled : (Events.step u s .poll).Complete := hcomplete.step hordered trivial
        exact ih _ (hpoll.step .receive) (hpolled.step hpoll trivial)
    obtain ⟨hordered', hcomplete'⟩ := hreads s.next s hordered hcomplete
    have hup := hordered.caughtUp_reading (u := u) (n := s.next) (Nat.le_add_left _ _)
    obtain ⟨hvisible, hstart'⟩ := run_reading_frame (u := u) s.next s
    rw [← hvisible] at he
    rw [← hstart'] at hstart
    have hle := (Page.eq_nil_iff (by decide)).mp hup.2 e he
    have hframes := hcomplete' e he hstart hle
    rw [Feed.frames, hup.1, List.append_nil] at hframes
    exact List.count_eq_one_of_mem (hnodup hordered') hframes
  · intro e
    exact List.nodup_iff_count_le_one.mp
      (hnodup (Runs.invariant (I := Feed.Ordered) (fun s move h ↦ h.step move)
        (ordered_initial start) moves)) e

/-- ASCII alone. -/
private def ascii : Unicode := ⟨fun _ ↦ false, fun _ ↦ none⟩

/-- Two transactions whose events are committed in their order, around a lost connection. -/
private def orderly : List Move :=
  [.append 1 "incident.created" "{}", .append 2 "incident.updated" "{}", .commit 1, .poll,
    .receive, .commit 2, .poll, .reconnect]

theorem stream_delivers_once_orderly :
    Runs.Along (step ascii) CommitsAhead (Feed.initial 0) orderly ∧
      (Runs.run (step ascii) (Feed.initial 0) orderly).visible.length = 2 ∧
      (Runs.run (step ascii) (Feed.initial 0) orderly).DeliversOnce ascii := by
  have halong : Runs.Along (step ascii) CommitsAhead (Feed.initial 0) orderly := by decide +kernel
  exact ⟨halong, by decide +kernel, (stream_delivers_once ascii 0 orderly).1 halong⟩

/-- A transaction that flushed first commits after a poll that read a later event. -/
private def overtaken : List Move :=
  [.append 1 "incident.created" "{}", .append 2 "incident.updated" "{}", .commit 2, .poll,
    .receive, .commit 1]

/-- Its event is never delivered. -/
theorem overtaken_not_delivered :
    ¬ (Runs.run (step ascii) (Feed.initial 0) overtaken).DeliversOnce ascii := by
  intro h
  have hcount := h ⟨1, "incident.created", "{}"⟩ (by decide +kernel) (by decide +kernel)
  revert hcount
  decide +kernel

end CloudWard.Events
