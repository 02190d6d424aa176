import CloudWard.Incidents.Operations

/-!
# The gauge of open incidents

`metrics.py:16` describes `ACTIVE_INCIDENTS` as the "CloudWard incidents currently
non-terminal". A creation raises it and every change to a terminal state lowers it, whatever
the state before; it lives outside the database, so a rollback leaves it as it is. It counts
the open incidents, and `resolved_at` marks the resolved ones, along runs in which no
forced change leaves a terminal state and no counted transaction fails.
-/

namespace CloudWard.Incidents

open CloudWard.Db CloudWard.Logic Service

/-- An incident of an environment that is not over. -/
def isOpen (e : Environment) (incident : Incident) : Bool :=
  incident.environment = e ∧ incident.state.isTerminal = false

/-- `resolved_at` is set exactly if the incident is resolved. -/
def Stamped (incident : Incident) : Prop :=
  incident.resolvedAt.isSome ↔ incident.state = .resolved

/-- Since it showed `g₀`, the gauge has moved by the open incidents of each environment. -/
def Counts (g₀ g : Environment → Int) (incidents : Table Incident) : Prop :=
  ∀ e, g e - g₀ e = incidents.countP (isOpen e)

/-- The gauge counts the open incidents and `resolved_at` marks the resolved ones. -/
def Balanced (g₀ : Environment → Int) (s : State) : Prop :=
  Counts g₀ s.active s.rows.incidents ∧ ∀ incident ∈ s.rows.incidents, Stamped incident

/-- The state change a call makes: of which incident, to which state, and whether forced. -/
def Call.move : Call → Option (Nat × IncidentState × Bool)
  | .create _ _ => none
  | .change incidentId target _ _ force => some (incidentId, target, force)
  | .resolve incidentId _ _ _ => some (incidentId, .resolved, true)
  | .update incidentId fields _ => fields.state.map fun target ↦ (incidentId, target, true)

/-- Whether a call can move the gauge. -/
def Call.isCounted : Call → Bool
  | .create _ _ => true
  | call => call.move.any fun move ↦ move.2.1.isTerminal

/-- Nothing fails in an operation that moves the gauge, and no forced change takes an
incident out of a terminal state. -/
structure Orderly (s : State) (op : Operation) : Prop where
  quiet : op.call.isCounted → Quiet op.env
  fromOpen : ∀ id target incident, op.call.move = some (id, target, true) →
    s.rows.incidents[id]? = some incident → incident.state ≠ target →
    incident.state.isTerminal = false

/-! ### What single changes do to the count -/

section Counting

variable {g₀ g : Environment → Int} {t : Table Incident} {id : Nat} {incident : Incident}

/-- What neither counts nor marks an incident changes nothing. -/
private theorem Counts.update (h : Counts g₀ g t) (id : Nat) {f : Incident → Incident}
    (hf : ∀ row e, isOpen e (f row) = isOpen e row) : Counts g₀ g (t.update id f) := by
  intro e
  rw [h e]
  cases hrow : t[id]? with
  | none =>
    rw [Table.update, List.modify_eq_self (List.getElem?_eq_none_iff.mp hrow)]
  | some row =>
    have hcount := Table.countP_update hrow f (isOpen e)
    rw [hf row e] at hcount
    omega

/-- A state change of an open incident moves the count with the gauge. -/
private theorem Counts.moved (h : Counts g₀ g t) (hrow : t[id]? = some incident)
    (hopen : incident.state.isTerminal = false) (target : IncidentState) (actor : String)
    (now : Nat) :
    Counts g₀ (fun e ↦ if target.isTerminal ∧ e = incident.environment then g e + -1 else g e)
      (t.update id (withState target actor now)) := by
  intro e
  have hcount := Table.countP_update hrow (withState target actor now) (isOpen e)
  have hbefore : isOpen e incident = decide (incident.environment = e) := by
    simp [isOpen, hopen]
  have hafter : isOpen e (withState target actor now incident) =
      (decide (incident.environment = e) && !target.isTerminal) := by
    cases hend : target.isTerminal <;> simp [isOpen, withState, hend]
  rw [hbefore, hafter] at hcount
  have he := h e
  by_cases henv : incident.environment = e
  · cases hend : target.isTerminal with
    | false =>
      simp [henv, hend] at hcount ⊢
      omega
    | true =>
      simp [henv, hend] at hcount ⊢
      omega
  · have hne : ¬ e = incident.environment := fun h ↦ henv h.symm
    simp [henv, hne] at hcount ⊢
    omega

/-- A new incident is open. -/
private theorem Counts.created (h : Counts g₀ g t) (actor : String) (row : Incident) :
    Counts g₀ (fun e ↦ if e = row.environment then g e + 1 else g e)
      (t.insert (asCreated actor row)) := by
  intro e
  have hcount := Table.countP_insert t (asCreated actor row) (isOpen e)
  have hnew : isOpen e (asCreated actor row) = decide (row.environment = e) := by
    simp [isOpen, asCreated, IncidentState.isTerminal]
  rw [hnew] at hcount
  have he := h e
  by_cases henv : row.environment = e
  · simp only [henv, decide_true, if_true] at hcount ⊢
    omega
  · have hne : ¬ e = row.environment := fun h ↦ henv h.symm
    simp only [henv, decide_false, Bool.false_eq_true, if_false, if_neg hne] at hcount ⊢
    omega

/-- A state change marks the incident, if it was open. -/
private theorem stamped_withState (hopen : incident.state.isTerminal = false)
    {target : IncidentState} (h : Stamped incident ∨ target = .resolved) (actor : String)
    (now : Nat) : Stamped (withState target actor now incident) := by
  unfold Stamped
  by_cases htarget : target = .resolved
  · simp [withState, htarget]
  · have hstamped := h.resolve_right htarget
    have hnot : incident.state ≠ .resolved := by
      intro hresolved
      rw [hresolved] at hopen
      cases hopen
    have hnone : incident.resolvedAt.isSome = false := by
      rw [← Bool.not_eq_true, show incident.resolvedAt.isSome = true ↔ _ from hstamped]
      exact hnot
    simp [withState, htarget, hnone]

end Counting

/-! ### What the service's programs do to it -/

section Programs

variable {g₀ g : Environment → Int} {c : Prop} {env : Env} {α : Type}

/-- The incidents of a session and the gauge. -/
private def gauged (w : World) : Table Incident × (Environment → Int) :=
  (w.db.incidents, w.activeIncidents)

/-- The session is balanced, and the gauge has not moved unless the program may move it. -/
private def Accounted (g₀ g : Environment → Int) (c : Prop) (w : World) : Prop :=
  Balanced g₀ ⟨w.db, w.activeIncidents⟩ ∧ (c ∨ w.activeIncidents = g)

/-- A program that leaves incidents and gauge alone, and fails only if the gauge has not moved. -/
private theorem accounted_of_frames {x : Service α} (hx : Exec.Frames gauged x)
    (hc : c → Exec.Raises (fun _ ↦ False) x) :
    Exec.Triple (Accounted g₀ g c) x (fun _ ↦ Accounted g₀ g c) fun _ w ↦ w.activeIncidents = g := by
  have hkeeps : Exec.Keeps (Accounted g₀ g c) x := hx.keeps fun v ↦
    (Counts g₀ v.2 v.1 ∧ ∀ incident ∈ v.1, Stamped incident) ∧ (c ∨ v.2 = g)
  by_cases h : c
  · apply (hkeeps.and (hc h)).mono
    · exact fun _ hw ↦ ⟨hw, trivial⟩
    · exact fun _ _ hw ↦ hw.1
    · exact fun _ _ hw ↦ absurd hw.2 id
  · apply hkeeps.mono
    · exact fun _ hw ↦ hw
    · exact fun _ _ hw ↦ hw
    · exact fun _ _ hw ↦ hw.2.resolve_left h

private theorem raises_false_flush (hq : Quiet env) :
    Exec.Raises (fun _ ↦ False) (flush env) := by
  intro w _
  rw [run_flush, hq.database]
  trivial

private theorem accounted_flush (hc : c → Quiet env) :
    Exec.Triple (Accounted g₀ g c) (flush env) (fun _ ↦ Accounted g₀ g c)
      fun _ w ↦ w.activeIncidents = g :=
  accounted_of_frames (frames_flush env fun _ _ ↦ rfl) fun h ↦ raises_false_flush (hc h)

private theorem raises_false_captureTerminalIncident (hq : Quiet env) :
    Exec.Raises (fun _ ↦ False) (captureTerminalIncident env) := by
  intro w _
  obtain ⟨n, hrun⟩ := reaches_captureTerminalIncident hq w
  rw [hrun]
  trivial

/-- Columns that neither count nor mark an incident may be set. -/
private theorem accounted_updateIncident (id : Nat) {f : Incident → Incident}
    (hopen : ∀ row e, isOpen e (f row) = isOpen e row)
    (hstamped : ∀ row, Stamped row → Stamped (f row)) :
    Exec.Triple (Accounted g₀ g c) (updateIncident id f) (fun _ ↦ Accounted g₀ g c)
      fun _ w ↦ w.activeIncidents = g := by
  apply Exec.Triple.update
  intro w h
  refine ⟨⟨h.1.1.update id hopen, ?_⟩, h.2⟩
  intro incident hmem
  rcases Table.mem_update hmem with hmem | ⟨row, hrow, rfl⟩
  · exact h.1.2 incident hmem
  · exact hstamped row (h.1.2 row hrow)

/-- A session in which an incident may be changed to a state. -/
private structure Changeable (g₀ g : Environment → Int) (id : Nat) (target : IncidentState)
    (force : Bool) (w : World) : Prop where
  active : w.activeIncidents = g
  counts : Counts g₀ g w.db.incidents
  stamped : ∀ i row, w.db.incidents[i]? = some row →
    Stamped row ∨ (i = id ∧ target = .resolved ∧ row.state ≠ .resolved)
  fromOpen : force → ∀ row, w.db.incidents[id]? = some row → row.state ≠ target →
    row.state.isTerminal = false

private theorem accounted_changeIncidentState (settings : Settings) (id : Nat)
    (target : IncidentState) (actor : String) (details : Details) (force : Bool)
    (hquiet : target.isTerminal → Quiet env) :
    Exec.Triple (Changeable g₀ g id target force)
      (changeIncidentState env settings id target actor details force)
      (fun _ ↦ Accounted g₀ g target.isTerminal) fun _ w ↦ w.activeIncidents = g := by
  unfold changeIncidentState
  apply Exec.Triple.bind (Q := fun incident w ↦
    Changeable g₀ g id target force w ∧ w.db.incidents[id]? = some incident)
  · intro w hw
    unfold loadIncident
    rw [Exec.run_bind_of_ok (Exec.run_read _ w)]
    cases hrow : w.db.incidents[id]? with
    | none => exact hw.active
    | some incident => exact ⟨hw, hrow⟩
  intro incident
  apply Exec.Triple.when
  · intro hne
    -- the transition table leads out of no terminal state, and neither do the forced changes
    apply Exec.Triple.bind (Q := fun _ w ↦ Changeable g₀ g id target force w ∧
      w.db.incidents[id]? = some incident ∧ incident.state.isTerminal = false)
    · apply Exec.Triple.when
      · intro _
        unfold checkTransition
        apply Exec.Triple.bind (Q := fun _ w ↦ Changeable g₀ g id target force w ∧
          w.db.incidents[id]? = some incident ∧ incident.state.isTerminal = false)
        · apply Exec.Triple.ofExcept
          · intro s hs w hw
            refine ⟨hw.1, hw.2, ?_⟩
            by_contra hterminal
            rw [Bool.not_eq_false] at hterminal
            have hmem := (transitionIncident_eq_ok.mp hs).1
            rw [allowedTransitions_of_isTerminal _ hterminal] at hmem
            exact List.not_mem_nil hmem
          · exact fun _ _ w hw ↦ hw.1.active
        · exact fun _ ↦ Exec.Triple.pure fun _ hw ↦ hw
      · intro hforce w hw
        have hforce : force = true := by simpa using hforce
        exact ⟨hw.1, hw.2, hw.1.fromOpen hforce incident hw.2 hne⟩
    intro _
    apply Exec.Triple.bind (Q := fun _ w ↦ Changeable g₀ g id target force w ∧
      w.db.incidents[id]? = some incident ∧ incident.state.isTerminal = false)
    · exact triple_ask fun w hw ↦ ⟨⟨hw.1.active, hw.1.counts, hw.1.stamped, hw.1.fromOpen⟩, hw.2⟩
    intro now
    apply Exec.Triple.bind (Q := fun _ w ↦ w.activeIncidents = g ∧
      Counts g₀ (fun e ↦ if target.isTerminal ∧ e = incident.environment then g e + -1 else g e)
        w.db.incidents ∧ ∀ row ∈ w.db.incidents, Stamped row)
    · apply Exec.Triple.update
      rintro w ⟨hw, hrow, hopen⟩
      refine ⟨hw.active, hw.counts.moved hrow hopen target actor now, ?_⟩
      intro row hmem
      obtain ⟨i, hi⟩ := List.mem_iff_getElem?.mp hmem
      change (w.db.incidents.update id _)[i]? = some row at hi
      rw [Table.getElem?_update] at hi
      split at hi
      · next hid =>
        subst hid
        rw [hrow, Option.map_some, Option.some.injEq] at hi
        subst hi
        apply stamped_withState hopen
        rcases hw.stamped id incident hrow with h | h
        · exact .inl h
        · exact .inr h.2.1
      · next hid =>
        rcases hw.stamped i row hi with h | h
        · exact h
        · exact absurd h.1.symm hid
    intro _
    apply Exec.Triple.bind (Q := fun _ ↦ Accounted g₀ g target.isTerminal)
    · apply Exec.Triple.when
      · intro hend
        apply Exec.Triple.update
        rintro w ⟨rfl, hcounts, hstamped⟩
        refine ⟨⟨?_, hstamped⟩, .inl hend⟩
        simpa [hend] using hcounts
      · rintro hend w ⟨rfl, hcounts, hstamped⟩
        refine ⟨⟨?_, hstamped⟩, .inr rfl⟩
        simpa [hend] using hcounts
    intro _
    apply Exec.Triple.bind (accounted_flush hquiet)
    intro _
    apply Exec.Triple.bind (accounted_flush hquiet)
    intro _
    apply Exec.Triple.bind
    · apply accounted_of_frames
      · exact Exec.frames_when fun _ ↦
          frames_requestApproval (fun _ _ ↦ rfl) env settings id actor details fun _ _ _ ↦ rfl
      · intro hend
        apply Exec.raises_when
        rintro rfl
        cases hend
    intro _
    apply Exec.Triple.bind
    · apply accounted_of_frames
      · exact Exec.frames_when fun _ ↦ frames_captureTerminalIncident (fun _ _ ↦ rfl) env
      · intro hend
        exact Exec.raises_when fun _ ↦ raises_false_captureTerminalIncident (hquiet hend)
    intro _
    exact accounted_flush hquiet
  · rintro hstate w ⟨hw, hrow⟩
    rw [not_not] at hstate
    refine ⟨⟨?_, ?_⟩, .inr hw.active⟩
    · rw [hw.active]
      exact hw.counts
    · intro row hmem
      obtain ⟨i, hi⟩ := List.mem_iff_getElem?.mp hmem
      rcases hw.stamped i row hi with h | ⟨rfl, rfl, hne⟩
      · exact h
      · rw [hrow] at hi
        cases hi
        exact absurd hstate hne

private theorem accounted_createIncident (hq : Quiet env) (row : Incident) (actor : String) :
    Exec.Triple (Accounted g₀ g True) (createIncident env row actor)
      (fun _ ↦ Accounted g₀ g True) fun _ w ↦ w.activeIncidents = g := by
  have hflush : Exec.Triple (Accounted g₀ g True) (flush env) (fun _ ↦ Accounted g₀ g True)
      fun _ w ↦ w.activeIncidents = g := accounted_flush fun _ ↦ hq
  apply Exec.Triple.bind (Exec.Triple.read (Q := fun _ ↦ Accounted g₀ g True) fun _ hw ↦ hw)
  intro id
  apply Exec.Triple.bind (Q := fun _ w ↦
    Counts g₀ (fun e ↦ if e = row.environment then w.activeIncidents e + 1 else
      w.activeIncidents e) w.db.incidents ∧ ∀ incident ∈ w.db.incidents, Stamped incident)
  · apply Exec.Triple.update
    intro w hw
    refine ⟨hw.1.1.created actor row, ?_⟩
    intro incident hmem
    rcases List.mem_append.mp hmem with hmem | hmem
    · exact hw.1.2 incident hmem
    · rw [List.mem_singleton.mp hmem]
      simp [Stamped, asCreated]
  intro _
  apply Exec.Triple.bind (Q := fun _ ↦ Accounted g₀ g True)
  · apply Exec.Triple.update
    exact fun _ hw ↦ ⟨hw, .inl trivial⟩
  intro _
  exact Exec.Triple.bind hflush fun _ ↦ Exec.Triple.bind hflush fun _ ↦
    Exec.Triple.bind hflush fun _ ↦ Exec.Triple.bind hflush fun _ ↦
    Exec.Triple.pure fun _ hw ↦ hw

private theorem accounted_resolveIncident (hq : Quiet env) (settings : Settings) (id : Nat)
    (actor reason : String) (source : ResolutionSource) :
    Exec.Triple (fun w ↦ Accounted g₀ g False w ∧ ∀ row, w.db.incidents[id]? = some row →
        row.state ≠ .resolved → row.state.isTerminal = false)
      (Operators.resolveIncident env settings id actor reason source)
      (fun _ ↦ Accounted g₀ g True) fun _ w ↦ w.activeIncidents = g := by
  unfold Operators.resolveIncident
  apply Exec.Triple.bind (Q := fun incident w ↦ Accounted g₀ g False w ∧
    w.db.incidents[id]? = some incident ∧
    (incident.state ≠ .resolved → incident.state.isTerminal = false))
  · intro w hw
    unfold loadIncident
    rw [Exec.run_bind_of_ok (Exec.run_read _ w)]
    cases hrow : w.db.incidents[id]? with
    | none => exact hw.1.2.resolve_left not_false
    | some incident => exact ⟨hw.1, hrow, hw.2 incident hrow⟩
  intro incident
  apply Exec.Triple.when
  · intro hne
    apply Exec.Triple.bind (Q := fun _ w ↦ Accounted g₀ g False w ∧
      w.db.incidents[id]? = some incident ∧ incident.state.isTerminal = false)
    · exact triple_ask fun w hw ↦ ⟨hw.1, hw.2.1, hw.2.2 hne⟩
    intro now
    -- the row is stamped before its state says so
    apply Exec.Triple.bind (Q := fun _ ↦ Changeable g₀ g id .resolved true)
    · apply Exec.Triple.update
      rintro w ⟨⟨⟨hcounts, hstamped⟩, hactive⟩, hrow, hopen⟩
      have hactive := hactive.resolve_left not_false
      refine ⟨hactive, ?_, ?_, ?_⟩
      · rw [← hactive]
        exact hcounts.update id fun _ _ ↦ rfl
      · intro i row hi
        change (w.db.incidents.update id _)[i]? = some row at hi
        rw [Table.getElem?_update] at hi
        split at hi
        · next hid =>
          subst hid
          rw [hrow, Option.map_some, Option.some.injEq] at hi
          subst hi
          exact .inr ⟨rfl, rfl, hne⟩
        · exact .inl (hstamped row (List.mem_of_getElem? hi))
      · intro _ row hi _
        change (w.db.incidents.update id _)[id]? = some row at hi
        rw [Table.getElem?_update_self, hrow, Option.map_some, Option.some.injEq] at hi
        subst hi
        exact hopen
    intro _
    apply (accounted_changeIncidentState settings id .resolved actor _ true fun _ ↦ hq).mono
    · exact fun _ hw ↦ hw
    · exact fun _ _ hw ↦ ⟨hw.1, .inl trivial⟩
    · exact fun _ _ hw ↦ hw
  · exact fun _ w hw ↦ ⟨hw.1.1, .inl trivial⟩

private theorem accounted_updateIncident_operator (settings : Settings) (id : Nat)
    (update : Operators.IncidentUpdate) (actor : String)
    (hc : update.state.any IncidentState.isTerminal → Quiet env) :
    Exec.Triple (fun w ↦ Accounted g₀ g False w ∧ ∀ target row, update.state = some target →
        w.db.incidents[id]? = some row → row.state ≠ target → row.state.isTerminal = false)
      (Operators.updateIncident env settings id update actor)
      (fun _ ↦ Accounted g₀ g (update.state.any IncidentState.isTerminal))
      fun _ w ↦ w.activeIncidents = g := by
  unfold Operators.updateIncident
  apply Exec.Triple.bind (Q := fun incident w ↦ Accounted g₀ g False w ∧
    w.db.incidents[id]? = some incident ∧ ∀ target, update.state = some target →
      incident.state ≠ target → incident.state.isTerminal = false)
  · intro w hw
    unfold loadIncident
    rw [Exec.run_bind_of_ok (Exec.run_read _ w)]
    cases hrow : w.db.incidents[id]? with
    | none => exact hw.1.2.resolve_left not_false
    | some incident => exact ⟨hw.1, hrow, fun target htarget ↦ hw.2 target incident htarget hrow⟩
  intro incident
  apply Exec.Triple.bind (Q := fun _ w ↦ Accounted g₀ g False w ∧
    w.db.incidents[id]? = some (Operators.edited update incident) ∧
    ∀ target, update.state = some target →
      incident.state ≠ target → incident.state.isTerminal = false)
  · apply Exec.Triple.update
    rintro w ⟨hw, hrow, hopen⟩
    refine ⟨⟨⟨hw.1.1.update id fun _ _ ↦ rfl, ?_⟩, hw.2⟩, ?_, hopen⟩
    · intro row hmem
      rcases Table.mem_update hmem with hmem | ⟨old, hold, rfl⟩
      · exact hw.1.2 row hmem
      · exact hw.1.2 old hold
    · rw [Table.getElem?_update_self, hrow]
      rfl
  intro _
  apply Exec.Triple.bind
    (Q := fun _ ↦ Accounted g₀ g (update.state.any IncidentState.isTerminal))
  · cases hstate : update.state with
    | none =>
      apply Exec.Triple.pure
      rintro w ⟨⟨hbalanced, hactive⟩, -⟩
      exact ⟨hbalanced, .inr (hactive.resolve_left not_false)⟩
    | some target =>
      rw [hstate] at hc
      apply Exec.Triple.when
      · intro hne
        have hchange : Exec.Triple (Changeable g₀ g id target true)
            (changeIncidentState env settings id target actor
              { reason := some "Updated via incident update" } true)
            (fun _ ↦ Accounted g₀ g target.isTerminal) fun _ w ↦ w.activeIncidents = g :=
          accounted_changeIncidentState settings id target actor _ true hc
        apply hchange.mono
        · rintro w ⟨⟨⟨hcounts, hstamped⟩, hactive⟩, hrow, hopen⟩
          have hactive := hactive.resolve_left not_false
          refine ⟨hactive, ?_, ?_, ?_⟩
          · rw [← hactive]
            exact hcounts
          · exact fun i row hi ↦ .inl (hstamped row (List.mem_of_getElem? hi))
          · intro _ row hi hne'
            rw [hrow, Option.some.injEq] at hi
            subst hi
            exact hopen target rfl (Ne.symm hne)
        · exact fun _ _ hw ↦ hw
        · exact fun _ _ hw ↦ hw
      · rintro _ w ⟨⟨hbalanced, hactive⟩, -⟩
        exact ⟨hbalanced, .inr (hactive.resolve_left not_false)⟩
  intro _
  apply Exec.Triple.bind
    (Q := fun _ ↦ Accounted g₀ g (update.state.any IncidentState.isTerminal))
  · apply Exec.Triple.when
    · intro _
      apply Exec.Triple.bind
        (Q := fun _ ↦ Accounted g₀ g (update.state.any IncidentState.isTerminal))
      · exact accounted_updateIncident id (fun _ _ ↦ rfl) fun _ h ↦ h
      · exact fun _ ↦ accounted_flush hc
    · exact fun _ _ hw ↦ hw
  intro _
  exact accounted_flush hc

end Programs

/-! ### Runs -/

/-- A program of the service commits nothing itself. -/
private theorem frames_committed_program (op : Operation) :
    Exec.Frames World.committed op.program := by
  have hchange (id : Nat) (target : IncidentState) (actor : String) (details : Details)
      (force : Bool) : Exec.Frames World.committed
        (changeIncidentState op.env op.settings id target actor details force) :=
    frames_changeIncidentState (fun _ _ ↦ rfl) op.env op.settings id target actor details force
      (fun _ _ ↦ rfl) (fun _ _ _ ↦ rfl) fun _ _ _ _ ↦ rfl
  unfold Operation.program
  split
  · next row actor _ =>
    apply Exec.frames_bind
    · exact frames_createIncident (fun _ _ ↦ rfl) op.env row actor (fun _ ↦ rfl) fun _ _ ↦ rfl
    · exact fun _ ↦ Exec.frames_pure _
  · exact hchange _ _ _ _ _
  · apply Exec.frames_bind (frames_loadIncident _)
    intro incident
    apply Exec.frames_when
    intro _
    apply Exec.frames_bind (frames_ask _ fun _ _ ↦ rfl)
    intro now
    apply Exec.frames_bind
    · exact Exec.frames_update fun _ ↦ rfl
    · exact fun _ ↦ hchange _ _ _ _ _
  · next id fields actor _ =>
    apply Exec.frames_bind (frames_loadIncident _)
    intro incident
    apply Exec.frames_bind
    · exact Exec.frames_update fun _ ↦ rfl
    intro _
    apply Exec.frames_bind
    · cases fields.state with
      | none => exact Exec.frames_pure _
      | some target => exact Exec.frames_when fun _ ↦ hchange _ _ _ _ _
    intro _
    apply Exec.frames_bind
    · apply Exec.frames_when
      intro _
      apply Exec.frames_bind
      · exact Exec.frames_update fun _ ↦ rfl
      · exact fun _ ↦ frames_flush op.env fun _ _ ↦ rfl
    exact fun _ ↦ frames_flush op.env fun _ _ ↦ rfl

/-- An orderly call balances its session if it returns, and moves nothing if it raises. -/
private theorem accounted_program {g₀ : Environment → Int} {s : State} {op : Operation}
    (hs : Balanced g₀ s) (ho : Orderly s op) :
    Exec.Triple (· = s.world) op.program (fun _ ↦ Accounted g₀ s.active op.call.isCounted)
      fun _ w ↦ w.activeIncidents = s.active := by
  obtain ⟨call, settings, env⟩ := op
  obtain ⟨hquiet, hopen⟩ := ho
  have hstart (c : Prop) : Accounted g₀ s.active c s.world := ⟨hs, .inr rfl⟩
  cases call with
  | create row actor =>
    apply Exec.Triple.bind (Q := fun _ ↦ Accounted g₀ s.active True)
    · apply (accounted_createIncident (hquiet rfl) row actor).mono
      · rintro w rfl
        exact hstart True
      · exact fun _ _ hw ↦ hw
      · exact fun _ _ hw ↦ hw
    · exact fun _ ↦ Exec.Triple.pure fun _ hw ↦ ⟨hw.1, .inl rfl⟩
  | change id target actor details force =>
    apply (accounted_changeIncidentState settings id target actor details force hquiet).mono
    · rintro w rfl
      refine ⟨rfl, hs.1, fun i row hi ↦ .inl (hs.2 row (List.mem_of_getElem? hi)), ?_⟩
      rintro rfl row hrow hne
      exact hopen id target row rfl hrow hne
    · exact fun _ _ hw ↦ hw
    · exact fun _ _ hw ↦ hw
  | resolve id actor reason source =>
    apply (accounted_resolveIncident (hquiet rfl) settings id actor reason source).mono
    · rintro w rfl
      exact ⟨hstart False, fun row hrow hne ↦ hopen id .resolved row rfl hrow hne⟩
    · exact fun _ _ hw ↦ ⟨hw.1, .inl rfl⟩
    · exact fun _ _ hw ↦ hw
  | update id fields actor =>
    have hcounted : (Call.update id fields actor).isCounted =
        fields.state.any IncidentState.isTerminal := by
      simp only [Call.isCounted, Call.move]
      cases fields.state <;> rfl
    rw [hcounted] at hquiet ⊢
    apply (accounted_updateIncident_operator settings id fields actor hquiet).mono
    · rintro w rfl
      refine ⟨hstart False, ?_⟩
      intro target row hstate hrow hne
      apply hopen id target row _ hrow hne
      simp [Call.move, hstate]
    · exact fun _ _ hw ↦ hw
    · exact fun _ _ hw ↦ hw

/-- One orderly operation keeps the balance. -/
private theorem balanced_step {g₀ : Environment → Int} {s : State} {op : Operation}
    (hs : Balanced g₀ s) (ho : Orderly s op) : Balanced g₀ (step s op) := by
  have hframes := (frames_committed_program op).keeps (· = s.rows)
  have hprogram := (accounted_program hs ho).and hframes
  have hflush : Exec.Frames World.committed (flush op.env) := frames_flush op.env fun _ _ ↦ rfl
  have hstay (w : World) (hactive : w.activeIncidents = s.active)
      (hcommitted : w.committed = s.rows) : Balanced g₀ ⟨w.committed, w.activeIncidents⟩ := by
    rw [hactive, hcommitted]
    exact hs
  have htransaction : Exec.Triple (fun w ↦ w = s.world ∧ w.committed = s.rows)
      (transaction op.env op.program) (fun _ w ↦ Balanced g₀ ⟨w.committed, w.activeIncidents⟩)
      fun _ w ↦ Balanced g₀ ⟨w.committed, w.activeIncidents⟩ := by
    apply Exec.Triple.bind
    · apply hprogram.mono
      · exact fun _ hw ↦ hw
      · exact fun _ _ hw ↦ hw
      · exact fun _ w hw ↦ hstay w hw.1 hw.2
    intro _
    apply Exec.Triple.bind
    · apply ((accounted_flush ho.quiet).and (hflush.keeps (· = s.rows))).mono
      · exact fun _ hw ↦ hw
      · exact fun _ _ hw ↦ hw
      · exact fun _ w hw ↦ hstay w hw.1 hw.2
    intro _
    apply Exec.Triple.update
    exact fun _ hw ↦ hw.1.1
  exact htransaction.state ⟨rfl, rfl⟩

/-- **Open-incident accounting.** Along every run of operations in which no forced change
takes an incident out of a terminal state and nothing fails in an operation that moves the
gauge, the gauge has moved by the number of open incidents of each environment, and
`resolved_at` is set exactly on the resolved incidents. -/
theorem gauge_counts_open_incidents (g₀ : Environment → Int) (ops : List Operation)
    (h : Runs.Along step Orderly { active := g₀ } ops) :
    Balanced g₀ (Runs.run step { active := g₀ } ops) := by
  apply Runs.invariant_along (fun _ _ ↦ balanced_step) _ h
  refine ⟨?_, fun _ hmem ↦ absurd hmem List.not_mem_nil⟩
  intro e
  exact Int.sub_self (g₀ e)

/-- An incident as an operator files it. -/
private def filed : Incident where
  correlationId := "2f6b"
  incidentType := "UNHEALTHY_POD"
  title := "API pod restarting"
  environment := .staging

/-- A call in the calm environment. -/
private def calmly (call : Call) : Operation := ⟨call, .standard, calm⟩

/-- An incident is filed, and an operator closes it as blocked. -/
private def closing : List Operation :=
  [calmly (.create filed "operator"), calmly (.update 0 { state := some .blocked } "operator")]

/-- The operator of `closing` resolves the blocked incident. -/
private def resolving : Operation :=
  calmly (.resolve 0 "operator" "Resolved by operator" .humanAction)

private theorem orderly_closing : Runs.Along step Orderly {} closing := by
  refine ⟨⟨fun _ ↦ quiet_calm, ?_⟩, ⟨fun _ ↦ quiet_calm, ?_⟩, trivial⟩
  · intro id target incident hmove
    cases hmove
  · intro id target incident hmove hrow hne
    cases hmove
    have hstate : (step {} (calmly (.create filed "operator"))).rows.incidents[0]?.map
        (·.state) = some .detected := by decide
    rw [hrow, Option.map_some, Option.some.injEq] at hstate
    rw [hstate]
    rfl

theorem gauge_counts_open_incidents_closing :
    Balanced (fun _ ↦ 0) (Runs.run step {} closing) :=
  gauge_counts_open_incidents (fun _ ↦ 0) closing orderly_closing

/-- Resolving a blocked incident counts it as over a second time. -/
theorem gauge_below_zero :
    (Runs.run step {} (closing ++ [resolving])).active .staging = -1 ∧
      ¬ Balanced (fun _ ↦ 0) (Runs.run step {} (closing ++ [resolving])) := by
  have hactive : (Runs.run step {} (closing ++ [resolving])).active .staging = -1 := by
    decide
  refine ⟨hactive, fun h ↦ ?_⟩
  have hcount := h.1 .staging
  rw [hactive, sub_zero] at hcount
  omega

end CloudWard.Incidents
