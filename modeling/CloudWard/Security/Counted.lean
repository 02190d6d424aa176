import CloudWard.Security.Fingerprint

/-!
# Counting security events

The invariant of the rows and the jobs: each event that was counted has its row, and no row counts
more than was delivered. Every transaction of a job keeps it, and so does other code that leaves
the columns of ingestions alone.
-/

namespace CloudWard.Security.Jobs

open CloudWard.Db CloudWard.Incidents CloudWard.Logic CloudWard.Logic.Interleave
  CloudWard.Policies CloudWard.Security.RateLimits

/-! ### The row of a new event -/

section Tallies

variable (env : Env) (settings : Settings)

/-- The tallies of the session's rows. -/
private def tallies (w : World) : List (String × String × Nat) := w.db.securityEvents.map tally

private theorem frames_tallies_flush : Exec.Frames tallies (Service.flush env) :=
  Service.frames_flush env fun _ _ ↦ rfl

private theorem frames_tallies_write {f : Database → Database}
    (h : ∀ db, (f db).securityEvents.map tally = db.securityEvents.map tally) :
    Exec.Frames tallies (Service.write f) := Exec.frames_update fun w ↦ h w.db

private theorem frames_tallies_event (id : Nat) {f : SecurityEvent → SecurityEvent}
    (h : ∀ row, tally (f row) = tally row) : Exec.Frames tallies (updateSecurityEvent id f) :=
  frames_tallies_write fun db ↦ Table.map_update db.securityEvents id h

private theorem frames_tallies_incident (id : Nat) (f : Incident → Incident) :
    Exec.Frames tallies (updateIncident id f) := frames_tallies_write fun _ ↦ rfl

private theorem frames_tallies_change (incidentId : Nat) (target : IncidentState)
    (actor : String) (details : Details) :
    Exec.Frames tallies (changeIncidentState env settings incidentId target actor details) :=
  frames_changeIncidentState_of_update (fun _ _ ↦ rfl) env settings incidentId target actor
    details false (fun _ _ ↦ rfl) (fun _ _ _ ↦ rfl) fun _ _ _ _ ↦ rfl

private theorem triple_tallies {α : Type} {x : Service α} (h : Exec.Frames tallies x)
    (t : List (String × String × Nat)) :
    Exec.Triple (fun w ↦ tallies w = t) x (fun _ w ↦ tallies w = t) fun _ _ ↦ True :=
  (h.keeps (· = t)).mono (fun _ h ↦ h) (fun _ _ h ↦ h) fun _ _ _ ↦ trivial

private theorem triple_openEvent_tallies (d : Delivery) (t : List (String × String × Nat)) :
    Exec.Triple (fun w ↦ tallies w = t) (openEvent env settings d)
      (fun _ w ↦ tallies w = t ++ [("tetragon", d.fingerprint, 1)]) fun _ _ ↦ True := by
  have hkeeps {α : Type} {x : Service α} (h : Exec.Frames tallies x) := triple_tallies h
  apply Exec.Triple.bind
  · exact hkeeps (frames_createIncident (fun _ _ ↦ rfl) env _ _ (fun _ ↦ rfl) fun _ _ ↦ rfl) t
  intro incidentId
  apply Exec.Triple.bind (hkeeps (frames_tallies_incident incidentId _) t)
  intro _
  apply Exec.Triple.bind (hkeeps (frames_notification (fun _ _ ↦ rfl) env _) t)
  intro _
  apply Exec.Triple.bind (hkeeps (frames_tallies_incident incidentId _) t)
  intro _
  have hflush := hkeeps (frames_tallies_flush env) (t ++ [("tetragon", d.fingerprint, 1)])
  have hchange (target : IncidentState) :=
    hkeeps (frames_tallies_change env settings incidentId target "cloudward" {})
      (t ++ [("tetragon", d.fingerprint, 1)])
  apply Exec.Triple.bind (Q := fun _ w ↦ tallies w = t ++ [("tetragon", d.fingerprint, 1)])
  · -- the event is inserted
    apply Exec.Triple.bind (hkeeps (Exec.frames_read _) t)
    intro events
    apply Exec.Triple.bind (hkeeps (Exec.frames_require _ _) t)
    intro _
    apply Exec.Triple.bind (Q := fun _ w ↦ tallies w = t ++ [("tetragon", d.fingerprint, 1)])
    · apply Exec.Triple.update
      intro w hw
      show (w.db.securityEvents ++ [eventRow d incidentId]).map tally = _
      rw [List.map_append, ← hw]
      rfl
    intro _
    apply Exec.Triple.bind hflush
    intro _
    exact Exec.Triple.pure fun _ h ↦ h
  intro eventId
  apply Exec.Triple.bind hflush
  intro _
  apply Exec.Triple.bind hflush
  intro _
  apply Exec.Triple.bind (hchange .collectingEvidence)
  intro _
  apply Exec.Triple.bind (hchange .classifying)
  intro _
  exact Exec.Triple.pure fun _ h ↦ h

private theorem frames_tallies_propose (d : Delivery) (incidentId eventId : Nat) :
    Exec.Frames tallies (proposeQuarantine env settings d incidentId eventId) := by
  have hflush := frames_tallies_flush env
  have hchange (target : IncidentState) :=
    frames_tallies_change env settings incidentId target "cloudward" {}
  apply Exec.frames_bind (frames_tallies_incident incidentId _)
  intro _
  apply Exec.frames_bind hflush
  intro _
  apply Exec.frames_bind (hchange _)
  intro _
  apply Exec.frames_bind
  · apply Exec.frames_bind (Exec.frames_read _)
    intro _
    exact Exec.frames_bind (frames_tallies_write fun _ ↦ rfl) fun _ ↦ Exec.frames_pure _
  intro proposalId
  apply Exec.frames_bind hflush
  intro _
  apply Exec.frames_bind hflush
  intro _
  apply Exec.frames_bind (hchange _)
  intro _
  apply Exec.frames_bind (Service.frames_evaluate env _ (fun _ _ ↦ rfl) fun _ _ ↦ rfl)
  intro decision
  apply Exec.frames_bind
  · exact frames_tallies_event eventId fun _ ↦ rfl
  intro _
  apply Exec.frames_bind
  · exact frames_tallies_write fun _ ↦ rfl
  intro _
  exact Exec.frames_bind hflush fun _ ↦ Exec.frames_pure _

private theorem frames_tallies_settle (incidentId eventId proposalId : Nat)
    (decision : PolicyResult) :
    Exec.Frames tallies (settleEvent env settings incidentId eventId proposalId decision) := by
  unfold settleEvent
  apply Exec.frames_ite
  · exact frames_tallies_event _ fun _ ↦ rfl
  apply Exec.frames_ite
  · exact Exec.frames_bind (frames_tallies_event _ fun _ ↦ rfl) fun _ ↦
      frames_tallies_change env settings _ _ _ _
  · exact Exec.frames_bind (frames_tallies_write fun _ ↦ rfl) fun _ ↦
      frames_tallies_change env settings _ _ _ _

/-- The row of a new event counts one delivery. -/
private theorem tallies_ingest {rows : Database} {d : Delivery} (hnone : d.existing rows = none)
    {w : World} (hrun : (ingestSecurityEvent env settings d).run (Service.start rows) = (.ok (), w)) :
    w.committed.securityEvents.map tally =
      rows.securityEvents.map tally ++ [("tetragon", d.fingerprint, 1)] := by
  have htriple : Exec.Triple (fun w ↦ w.db = rows ∧ tallies w = rows.securityEvents.map tally)
      (ingestSecurityEvent env settings d)
      (fun _ w ↦ w.committed.securityEvents.map tally =
        rows.securityEvents.map tally ++ [("tetragon", d.fingerprint, 1)]) fun _ _ ↦ True := by
    apply Exec.Triple.bind (Q := fun existing w ↦
      tallies w = rows.securityEvents.map tally ∧ existing = none)
    · apply (Service.query_spec env _ rows).mono
      · exact fun _ h ↦ h.1
      · rintro existing w ⟨hexisting, hdb⟩
        refine ⟨?_, hexisting.trans hnone⟩
        unfold tallies
        rw [hdb]
      · exact fun _ _ _ ↦ trivial
    intro existing
    apply Exec.Triple.assume
    rintro rfl
    apply Exec.Triple.bind (triple_openEvent_tallies env settings d _)
    rintro ⟨incidentId, eventId⟩
    apply Exec.Triple.bind
      (triple_tallies (frames_tallies_propose env settings d incidentId eventId) _)
    rintro ⟨proposalId, decision⟩
    apply Exec.Triple.bind
      (triple_tallies (frames_tallies_settle env settings incidentId eventId proposalId decision) _)
    intro _
    apply Exec.Triple.bind (triple_tallies (frames_tallies_flush env) _)
    intro _
    apply Exec.Triple.bind (triple_tallies (frames_tallies_flush env) _)
    intro _
    exact Exec.Triple.update fun _ h ↦ h
  exact htriple.of_ok ⟨rfl, rfl⟩ hrun

end Tallies

/-! ### The invariant -/

section Runs

variable (d : Deployment) (initial : Database)

/-- The columns that name the row of an event. -/
def Deployment.keyOf (event : AcceptedEvent) : String × String :=
  ("tetragon", eventFingerprint d.sha256 d.window event)

/-- How often the events of a key were delivered, by the rows of that key. -/
def countOf (rows : Database) (key : String × String) : Nat :=
  ((rows.securityEvents.filter (eventKey · = key)).map (·.dedupCount)).sum

/-- How many of the counted events have a key. -/
def Deployment.timesOf (counted : List AcceptedEvent) (key : String × String) : Nat :=
  counted.countP (d.keyOf · = key)

/-- Every job is of an event, the events that were counted have their rows, and a row counts no
more than was delivered. -/
structure Sound (s : Store) : Prop where
  constrained : Constrained s.rows
  jobs : ∀ job ∈ s.jobs, ∃ event, job = d.jobOf event
  queued : ∀ event ∈ s.counted, d.jobOf event ∈ s.jobs
  stored : ∀ event ∈ s.counted, ∃ row ∈ s.rows.securityEvents, eventKey row = d.keyOf event
  source : ∀ row ∈ s.rows.securityEvents,
    (∃ old ∈ initial.securityEvents, eventKey old = eventKey row) ∨
      ∃ event ∈ s.counted, d.keyOf event = eventKey row
  positive : ∀ row ∈ s.rows.securityEvents, 1 ≤ row.dedupCount
  bounded : ∀ row ∈ s.rows.securityEvents,
    row.dedupCount ≤ countOf initial (eventKey row) + d.timesOf s.counted (eventKey row)

/-- Rows stay, with their keys; jobs and counted events become more. -/
structure Grows (s t : Store) : Prop where
  rows : ∀ (id : Nat) row, s.rows.securityEvents[id]? = some row →
    ∃ row', t.rows.securityEvents[id]? = some row' ∧ eventKey row' = eventKey row
  jobs : s.jobs ⊆ t.jobs
  counted : s.counted <:+ t.counted

/-- What may become of the store. -/
def keeping : Rely Store where
  may s t := Sound d initial s → Sound d initial t ∧ Grows s t
  refl s hs := ⟨hs, fun _ row hrow ↦ ⟨row, hrow, rfl⟩, List.Subset.refl _, List.suffix_rfl⟩
  trans := by
    intro a b c h h' ha
    obtain ⟨hb, hab⟩ := h ha
    obtain ⟨hc, hbc⟩ := h' hb
    refine ⟨hc, ?_, List.Subset.trans hab.jobs hbc.jobs, hab.counted.trans hbc.counted⟩
    intro id row hrow
    obtain ⟨row', hrow', hkey⟩ := hab.rows id row hrow
    obtain ⟨row'', hrow'', hkey'⟩ := hbc.rows id row' hrow'
    exact ⟨row'', hrow'', hkey'.trans hkey⟩

/-- What a request that is over says of the store. -/
def Told (s : Store) : Except Failure Answer → Prop
  | .ok (.queued job) => job ∈ s.jobs
  | .ok (.processed event _) => event ∈ s.counted
  | .error (.invalidJob job) => job ∉ s.jobs
  | .error (.fingerprintMismatch job) => job ∉ s.jobs
  | _ => True

variable {d initial} {s t : Store}

theorem timesOf_le (h : s.counted <:+ t.counted) (key : String × String) :
    d.timesOf s.counted key ≤ d.timesOf t.counted key := h.sublist.countP_le

private theorem timesOf_cons (event : AcceptedEvent) (counted : List AcceptedEvent) :
    d.timesOf (event :: counted) (d.keyOf event) = d.timesOf counted (d.keyOf event) + 1 := by
  unfold Deployment.timesOf
  rw [List.countP_cons_of_pos]
  simp

private theorem timesOf_le_cons (event : AcceptedEvent) (counted : List AcceptedEvent)
    (key : String × String) : d.timesOf counted key ≤ d.timesOf (event :: counted) key :=
  (List.sublist_cons_self event counted).countP_le

/-- A key and a count that a row of the same tally has too. -/
private theorem exists_of_tallies {rows rows' : Database}
    (h : rows'.securityEvents.map tally = rows.securityEvents.map tally) {row : SecurityEvent}
    (hrow : row ∈ rows'.securityEvents) :
    ∃ old ∈ rows.securityEvents, eventKey old = eventKey row ∧
      old.dedupCount = row.dedupCount := by
  have hmem : tally row ∈ rows.securityEvents.map tally := by
    rw [← h]
    exact List.mem_map_of_mem hrow
  obtain ⟨old, hold, heq⟩ := List.mem_map.mp hmem
  simp only [tally, Prod.mk.injEq] at heq
  exact ⟨old, hold, Prod.ext heq.1 heq.2.1, heq.2.2⟩

/-- A transaction of other code. -/
theorem may_other {write : Database → Database}
    (hconstrained : Constrained s.rows → Constrained (write s.rows))
    (h : (write s.rows).securityEvents.map tally = s.rows.securityEvents.map tally) :
    (keeping d initial).may s { s with rows := write s.rows } := by
  intro hs
  refine ⟨?_, ?_, List.Subset.refl _, List.suffix_rfl⟩
  · constructor
    · exact hconstrained hs.constrained
    · exact hs.jobs
    · exact hs.queued
    · intro event hevent
      obtain ⟨row, hrow, hkey⟩ := hs.stored event hevent
      obtain ⟨row', hrow', hkey', -⟩ := exists_of_tallies h.symm hrow
      exact ⟨row', hrow', hkey'.trans hkey⟩
    · intro row hrow
      obtain ⟨old, hold, hkey, -⟩ := exists_of_tallies h hrow
      rw [← hkey]
      exact hs.source old hold
    · intro row hrow
      obtain ⟨old, hold, -, hcount⟩ := exists_of_tallies h hrow
      rw [← hcount]
      exact hs.positive old hold
    · intro row hrow
      obtain ⟨old, hold, hkey, hcount⟩ := exists_of_tallies h hrow
      rw [← hkey, ← hcount]
      exact hs.bounded old hold
  · intro id row hrow
    have hmap : ((write s.rows).securityEvents.map tally)[id]? = some (tally row) := by
      rw [h, List.getElem?_map, hrow]
      rfl
    rw [List.getElem?_map, Option.map_eq_some_iff] at hmap
    obtain ⟨row', hrow', heq⟩ := hmap
    simp only [tally, Prod.mk.injEq] at heq
    exact ⟨row', hrow', Prod.ext heq.1 heq.2.1⟩

/-- A job is queued. -/
theorem may_enqueue (event : AcceptedEvent) :
    (keeping d initial).may s (enqueue (d.jobOf event) s) := by
  intro hs
  refine ⟨⟨hs.constrained, ?_, ?_, hs.stored, hs.source, hs.positive, hs.bounded⟩,
    fun _ row hrow ↦ ⟨row, hrow, rfl⟩, List.subset_append_left _ _, List.suffix_rfl⟩
  · intro job hjob
    rcases List.mem_append.mp hjob with hold | hnew
    · exact hs.jobs job hold
    · exact ⟨event, List.mem_singleton.mp hnew⟩
  · intro event' hevent'
    exact List.mem_append_left _ (hs.queued event' hevent')

/-- A row that was found counts once more than it did when it was loaded. -/
theorem may_countAgain {event : AcceptedEvent} {id : Nat} {loaded : SecurityEvent}
    (hkey : eventKey loaded = d.keyOf event)
    (hrow : ∃ row, s.rows.securityEvents[id]? = some row ∧ eventKey row = eventKey loaded)
    (hjob : d.jobOf event ∈ s.jobs)
    (hcount : Sound d initial s → loaded.dedupCount ≤
      countOf initial (d.keyOf event) + d.timesOf s.counted (d.keyOf event)) :
    (keeping d initial).may s { s with
      rows := { s.rows with securityEvents := s.rows.securityEvents.update id fun row ↦
        { row with dedupCount := loaded.dedupCount + 1 } }
      counted := event :: s.counted } := by
  obtain ⟨row, hrow, hrowkey⟩ := hrow
  have hkeys (row : SecurityEvent) :
      eventKey { row with dedupCount := loaded.dedupCount + 1 } = eventKey row := rfl
  intro hs
  refine ⟨?_, ?_, List.Subset.refl _, List.suffix_cons _ _⟩
  · have hmember : ∀ row' ∈ s.rows.securityEvents.update id (fun row ↦
        { row with dedupCount := loaded.dedupCount + 1 }), row' ∈ s.rows.securityEvents ∨
          row' = { row with dedupCount := loaded.dedupCount + 1 } :=
      fun row' hrow' ↦ Table.mem_update_of_some hrow hrow'
    have hnew : eventKey { row with dedupCount := loaded.dedupCount + 1 } = d.keyOf event :=
      (hkeys row).trans (hrowkey.trans hkey)
    have hmap : (s.rows.securityEvents.update id fun row ↦
        { row with dedupCount := loaded.dedupCount + 1 }).map eventKey =
          s.rows.securityEvents.map eventKey := Table.map_update s.rows.securityEvents id hkeys
    constructor
    · refine ⟨hs.constrained.proposals, hs.constrained.decisions, hs.constrained.approvals, ?_, ?_⟩
      · intro row' hrow' i hi
        rcases Table.mem_update hrow' with hold | ⟨old, hold, rfl⟩
        · exact hs.constrained.events row' hold i hi
        · exact hs.constrained.events old hold i hi
      · show (List.map eventKey _).Nodup
        rw [hmap]
        exact hs.constrained.unique
    · exact hs.jobs
    · exact List.forall_mem_cons.mpr ⟨hjob, hs.queued⟩
    · intro event' hevent'
      have hold : ∃ old ∈ s.rows.securityEvents, eventKey old = d.keyOf event' := by
        rcases List.mem_cons.mp hevent' with rfl | hold
        · exact ⟨row, List.mem_of_getElem? hrow, hrowkey.trans hkey⟩
        · exact hs.stored event' hold
      obtain ⟨old, hold, holdkey⟩ := hold
      have hin : d.keyOf event' ∈ (s.rows.securityEvents.update id fun row ↦
          { row with dedupCount := loaded.dedupCount + 1 }).map eventKey := by
        rw [hmap, ← holdkey]
        exact List.mem_map_of_mem hold
      exact List.mem_map.mp hin
    · intro row' hrow'
      rcases hmember row' hrow' with hold | rfl
      · rcases hs.source row' hold with hinitial | ⟨e, he, hkey'⟩
        · exact .inl hinitial
        · exact .inr ⟨e, List.mem_cons_of_mem _ he, hkey'⟩
      · exact .inr ⟨event, List.mem_cons_self, hnew.symm⟩
    · intro row' hrow'
      rcases hmember row' hrow' with hold | rfl
      · exact hs.positive row' hold
      · exact Nat.le_add_left 1 _
    · intro row' hrow'
      rcases hmember row' hrow' with hold | rfl
      · exact (hs.bounded row' hold).trans
          (Nat.add_le_add_left (timesOf_le_cons event s.counted _) _)
      · have hle := hcount hs
        rw [hnew, timesOf_cons]
        show loaded.dedupCount + 1 ≤ _
        omega
  · intro id' old hold
    rw [Table.getElem?_update, hold]
    split
    · exact ⟨_, rfl, hkeys old⟩
    · exact ⟨old, rfl, rfl⟩

/-- A new event brings its row. -/
theorem may_openNew {call : Call} {event : AcceptedEvent} {store : Store}
    (hjob : d.jobOf event ∈ s.jobs) (h : openNew d call event s = .ok ((), store)) :
    (keeping d initial).may s store ∧ event ∈ store.counted := by
  unfold openNew at h
  split at h
  · cases h
  next hexisting =>
  have hnone : (d.deliveryOf call event).existing s.rows = none := by simpa using hexisting
  split at h
  case h_2 => cases h
  next w hrun =>
  cases h
  refine ⟨?_, List.mem_cons_self⟩
  intro hs
  have hdelivered := (triple_ingest_at (d.deliveryOf call event)
    fun a ha ↦ (hs.constrained.approvals a ha).2).of_ok ⟨rfl, rfl⟩ hrun
  have htallies := tallies_ingest call.env d.settings hnone hrun
  rcases hdelivered with ⟨id, row, hsome, -⟩ | ⟨-, w', e, hfits, hrows⟩
  · rw [hnone] at hsome
    cases hsome
  have hevents : w.committed.securityEvents = s.rows.securityEvents ++ [e.event] := by
    rw [hrows]
    rfl
  rw [hevents, List.map_append, List.append_cancel_left_eq, List.map_singleton,
    List.singleton_inj] at htallies
  simp only [tally, Prod.mk.injEq] at htallies
  have hkey : eventKey e.event = d.keyOf event := Prod.ext htallies.1 htallies.2.1
  have hcount : e.event.dedupCount = 1 := htallies.2.2
  refine ⟨⟨?_, hs.jobs, List.forall_mem_cons.mpr ⟨hjob, hs.queued⟩, ?_, ?_, ?_, ?_⟩, ?_,
    List.Subset.refl _, List.suffix_cons _ _⟩
  · show Constrained w.committed
    rw [hrows]
    exact hs.constrained.file hfits hnone
  · intro event' hevent'
    show ∃ row ∈ w.committed.securityEvents, _
    rw [hevents]
    rcases List.mem_cons.mp hevent' with rfl | hold
    · exact ⟨e.event, List.mem_append_right _ (List.mem_singleton_self _), hkey⟩
    · obtain ⟨row, hrow, hrowkey⟩ := hs.stored event' hold
      exact ⟨row, List.mem_append_left _ hrow, hrowkey⟩
  · intro row hrow
    replace hrow : row ∈ w.committed.securityEvents := hrow
    rw [hevents, List.mem_append, List.mem_singleton] at hrow
    rcases hrow with hold | rfl
    · rcases hs.source row hold with hinitial | ⟨e', he', hkey'⟩
      · exact .inl hinitial
      · exact .inr ⟨e', List.mem_cons_of_mem _ he', hkey'⟩
    · exact .inr ⟨event, List.mem_cons_self, hkey.symm⟩
  · intro row hrow
    replace hrow : row ∈ w.committed.securityEvents := hrow
    rw [hevents, List.mem_append, List.mem_singleton] at hrow
    rcases hrow with hold | rfl
    · exact hs.positive row hold
    · exact Nat.le_of_eq hcount.symm
  · intro row hrow
    replace hrow : row ∈ w.committed.securityEvents := hrow
    rw [hevents, List.mem_append, List.mem_singleton] at hrow
    rcases hrow with hold | rfl
    · exact (hs.bounded row hold).trans
        (Nat.add_le_add_left (timesOf_le_cons event s.counted _) _)
    · show e.event.dedupCount ≤ _ + d.timesOf (event :: s.counted) _
      rw [hkey, timesOf_cons]
      omega
  · intro id row hrow
    refine ⟨row, ?_, rfl⟩
    show w.committed.securityEvents[id]? = some row
    rw [hevents]
    exact Table.getElem?_insert_of_some hrow

end Runs

end CloudWard.Security.Jobs
