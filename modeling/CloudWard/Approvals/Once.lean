import CloudWard.Approvals.Concurrent

/-!
# An approval is decided once

Over `Approvals/Concurrent.lean`: in every run in which a session that locks a row it has read
before finds it unchanged, at most one committed transaction decides an approval, and on the
rows as committed; and in no other run. A session of the approvals API has read nothing before.
-/

namespace CloudWard.Approvals.Concurrent

open CloudWard.Db CloudWard.Incidents CloudWard.Logic CloudWard.Logic.Sessions Service

/-! ### One decision -/

/-- What `decide` leaves of the approvals when it returns. -/
private theorem settle_closes (env : Env) (settings : Settings) (approvalId : Nat)
    (approval : Approval) (incident : Incident) (proposal : ActionProposal)
    (decision : ApprovalDecision) (principal : Principal) (comment : Option String)
    (t : Table Approval) :
    Exec.Triple (fun w ↦ w.db.approvals = t)
      (settle env settings approvalId approval incident proposal decision principal comment)
      (fun _ w ↦ ∃ f : Approval → Approval, w.db.approvals = t.update approvalId f ∧
        ∀ a, (f a).decision ≠ .pending)
      fun _ _ ↦ True := by
  have hkeep {α : Type} {x : Service α} (hx : Exec.Frames (fun w ↦ w.db.approvals) x) :=
    hx.returns (· = t)
  apply Exec.Triple.ite
  · intro _
    apply (reject_spec env settings approvalId approval t principal comment).mono
    · exact fun _ h ↦ h
    · rintro _ w ⟨now, h⟩
      exact ⟨_, h, fun a ↦ by simp [decided]⟩
    · exact fun _ _ h ↦ h
  · intro _
    apply Exec.Triple.bind (hkeep (Exec.frames_require _ _))
    intro _
    apply Exec.Triple.bind (hkeep (Exec.frames_require _ _))
    intro _
    apply Exec.Triple.bind (hkeep (frames_staleReason (fun _ _ ↦ rfl) (fun _ _ ↦ rfl) env
      approvalId approval incident proposal principal))
    intro reason
    cases reason with
    | some reason =>
      apply (refuseStale_spec env settings approvalId approval t incident reason).mono
      · exact fun _ h ↦ h
      · rintro _ w ⟨f, h, hclosed⟩
        refine ⟨f, h, fun a ha ↦ ?_⟩
        rcases hclosed a with hexpired | hinvalidated
        · simp [ha] at hexpired
        · simp [ha] at hinvalidated
      · exact fun _ _ h ↦ h
    | none =>
      apply (approve_spec env settings approvalId approval t (fun _ ↦ True) principal comment).mono
      · exact fun _ h ↦ ⟨h, trivial⟩
      · rintro _ w ⟨⟨now, h⟩, _⟩
        exact ⟨_, h, fun a ↦ by simp [decided]⟩
      · exact fun _ _ h ↦ h

/-- What a deciding statement commits. -/
private theorem settleEffect_cases (call : Call) (db : Database) (target : Target)
    (approval : Approval) (incident : Incident) (proposal : ActionProposal) :
    settleEffect call db target approval incident proposal = .abort ∨
      ∃ (new : Database) (f : Approval → Approval),
      settleEffect call db target approval incident proposal =
        .commit (target.id db) (commitRows db target approval incident proposal new) ∧
      new.approvals = (viewApprovals db target approval).update (target.id db) f ∧
      ∀ a, (f a).decision ≠ .pending := by
  have hcommits : Exec.Triple (fun w ↦ w.db.approvals = viewApprovals db target approval)
      (transaction call.env (settle call.env call.settings (target.id db) approval incident
        proposal call.decision call.principal call.comment))
      (fun _ w ↦ ∃ f : Approval → Approval,
        w.committed.approvals = (viewApprovals db target approval).update (target.id db) f ∧
        ∀ a, (f a).decision ≠ .pending) fun _ _ ↦ True := by
    apply Exec.Triple.bind
    · apply settle_closes
    intro _
    apply Exec.Triple.bind
    · exact (frames_flush (f := fun w ↦ w.db.approvals) call.env fun _ _ ↦ rfl).returns
        fun t ↦ ∃ f : Approval → Approval,
          t = (viewApprovals db target approval).update (target.id db) f ∧
          ∀ a, (f a).decision ≠ .pending
    · exact fun _ ↦ Exec.Triple.update fun _ hw ↦ hw
  unfold settleEffect
  simp only
  split
  · exact .inl rfl
  · next hrun =>
    obtain ⟨f, hf, hclosed⟩ := hcommits.of_ok
      (s := start (view db target approval incident proposal)) rfl (Prod.ext hrun rfl)
    exact .inr ⟨_, f, rfl, hf, hclosed⟩

private theorem insertEffect_cases (call : Call) (db : Database) (incidentId proposalId : Nat) :
    insertEffect call db incidentId proposalId = .abort ∨
      ∃ row, insertEffect call db incidentId proposalId = .insert row := by
  unfold insertEffect
  simp only
  split
  · exact .inl rfl
  · split
    · exact .inl rfl
    · exact .inr ⟨_, rfl⟩

/-! ### What a session does -/

/-- What a session has checked and locked when it is about to send a statement. -/
def Ready (session : DbSession) : Phase → Prop
  | .lockIncident target => ∀ id, target = .stored id → Key.approval id ∈ session.locked
  | .lockProposal target => ∃ approval, approvalOf session target = some approval ∧
      approval.decision = .pending ∧
      (∀ id, target = .stored id → Key.approval id ∈ session.locked) ∧
      Key.incident approval.incidentId ∈ session.locked
  | .settle target => ∃ approval, Holds session target approval
  | _ => True

private theorem Ready.goTo {session : DbSession} {phase : Phase} (h : Ready session phase)
    (next : Phase) : Ready (goTo session next) phase := by
  have hinstance {target : Target} {approval : Approval}
      (happroval : approvalOf session target = some approval) :
      approvalOf (Concurrent.goTo session next) target = some approval := by
    cases target with
    | stored id => exact happroval
    | inserted row => exact happroval
  cases phase with
  | lockIncident target => exact h
  | lockProposal target =>
    obtain ⟨approval, happroval, hlocked⟩ := h
    exact ⟨approval, hinstance happroval, hlocked⟩
  | settle target =>
    obtain ⟨approval, hholds⟩ := h
    exact ⟨approval, hinstance hholds.instance_eq, hholds.pending, hholds.approval_locked,
      hholds.incident_locked, hholds.proposal_locked⟩
  | selectIncident incidentId proposalId => trivial
  | selectProposal incidentId proposalId => trivial
  | selectApproval incidentId proposalId => trivial
  | lockApproval target => trivial
  | ended => trivial

/-- The statements of a session, by what they do. -/
inductive Does (db : Database) (session : DbSession) : Effect → Prop
  | abort : Does db session .abort
  | select (k : Key) {next : Phase} (hnext : ∀ other, Ready other next) :
      Does db session (.select k next)
  | insert (row : Approval) : Does db session (.insert row)
  | lockApproval (id : Nat) :
      Does db session (.lock (.approval id) (.lockIncident (.stored id)))
  | skipLock (row : Approval) : Does db session (.proceed (.lockIncident (.inserted row)))
  | lockIncident {target : Target} {approval : Approval}
      (hphase : session.program.phase = .lockIncident target)
      (happroval : approvalOf session target = some approval)
      (hpending : approval.decision = .pending) :
      Does db session (.lock (.incident approval.incidentId) (.lockProposal target))
  | lockProposal {target : Target} {approval : Approval}
      (hphase : session.program.phase = .lockProposal target)
      (happroval : approvalOf session target = some approval) :
      Does db session (.lock (.proposal approval.proposalId) (.settle target))
  | commit {target : Target} {approval : Approval} {incident : Incident}
      {proposal : ActionProposal} {new : Database} {f : Approval → Approval}
      (hphase : session.program.phase = .settle target)
      (happroval : approvalOf session target = some approval)
      (hnew : new.approvals = (viewApprovals db target approval).update (target.id db) f)
      (hclosed : ∀ a, (f a).decision ≠ .pending) :
      Does db session
        (.commit (target.id db) (commitRows db target approval incident proposal new))

private theorem does_selectApproval (db : Database) (session : DbSession)
    (incidentId proposalId : Nat)
    (h : session.program.phase = .selectApproval incidentId proposalId) :
    Does db session (effectOf db session) := by
  unfold effectOf
  simp only [h]
  split
  · next incident proposal hincident hproposal =>
    by_cases hstate : incident.state = .awaitingApproval
    · rw [if_neg (not_not.mpr hstate)]
      split
      · exact .select _ fun _ ↦ trivial
      · rcases insertEffect_cases session.program.call
          { db with
            incidents := db.incidents.update incidentId fun _ ↦ incident
            proposals := db.proposals.update proposalId fun _ ↦ proposal }
          incidentId proposalId with hinsert | ⟨row, hinsert⟩
        · rw [hinsert]
          exact .abort
        · rw [hinsert]
          exact .insert row
    · rw [if_pos hstate]
      exact .abort
  · exact .abort

/-- The next statement is one of them. -/
theorem does_effectOf (db : Database) (session : DbSession) :
    Does db session (effectOf db session) := by
  cases h : session.program.phase with
  | selectIncident incidentId proposalId =>
    simp only [effectOf, h]
    exact .select _ fun _ ↦ trivial
  | selectProposal incidentId proposalId =>
    simp only [effectOf, h]
    split
    · exact .select _ fun _ ↦ trivial
    · exact .abort
  | selectApproval incidentId proposalId => exact does_selectApproval db session _ _ h
  | lockApproval target =>
    simp only [effectOf, h]
    split
    · cases target with
      | stored id => exact .lockApproval id
      | inserted row => exact .skipLock row
    · exact .abort
  | lockIncident target =>
    simp only [effectOf, h]
    cases happroval : approvalOf session target with
    | none => exact .abort
    | some approval =>
      by_cases hpending : approval.decision = .pending
      · simp only [hpending, if_true]
        exact .lockIncident h happroval hpending
      · simp only [hpending, if_false]
        exact .abort
  | lockProposal target =>
    simp only [effectOf, h]
    cases happroval : approvalOf session target with
    | none => exact .abort
    | some approval => exact .lockProposal h happroval
  | settle target =>
    simp only [effectOf, h]
    cases happroval : approvalOf session target with
    | none => exact .abort
    | some approval =>
      simp only
      split
      · next incident proposal _ _ =>
        rcases settleEffect_cases session.program.call db target approval incident proposal with
          habort | ⟨new, f, hcommit, hnew, hclosed⟩
        · rw [habort]
          exact .abort
        · rw [hcommit]
          exact .commit h happroval hnew hclosed
      · exact .abort
  | ended =>
    simp only [effectOf, h]
    exact .abort

/-- A session's approval stays the instance it is. -/
private theorem approvalOf_load {session : DbSession} {target : Target} {approval : Approval}
    (h : approvalOf session target = some approval) (k : Key) (row : Row k) :
    approvalOf (session.load k row) target = some approval := by
  cases target with
  | stored id => exact loaded_load_of_some h
  | inserted other => exact h

private theorem isDecided_iff {id : Nat} {db : Database} :
    isDecided id db = true ↔ ∃ row, db.approvals[id]? = some row ∧ row.decision ≠ .pending := by
  unfold isDecided
  rw [Option.any_eq_true]
  simp

/-! ### What a commit changes -/

section Commit

variable {db : Database} {target : Target} {approval : Approval} {incident : Incident}
variable {proposal : ActionProposal} {new : Database}

/-- A commit changes only the rows of its decision. -/
private theorem rowOf_commitRows {k : Key} (hexists : (rowOf db k).isSome)
    (happroval : ∀ id, target = .stored id → k ≠ .approval id)
    (hincident : k ≠ .incident approval.incidentId)
    (hproposal : k ≠ .proposal approval.proposalId) :
    rowOf (commitRows db target approval incident proposal new) k = rowOf db k := by
  cases k with
  | approval id =>
    cases target with
    | stored other =>
      apply Table.getElem?_update_of_ne
      intro heq
      exact happroval other rfl (by rw [heq])
    | inserted row =>
      obtain ⟨old, hold⟩ := Option.isSome_iff_exists.mp hexists
      have hrow : db.approvals[id]? = some old := hold
      exact (Table.getElem?_insert_of_some hrow).trans hrow.symm
  | incident id =>
    apply Table.getElem?_update_of_ne
    intro heq
    exact hincident (by rw [heq])
  | proposal id =>
    apply Table.getElem?_update_of_ne
    intro heq
    exact hproposal (by rw [heq])

variable {f : Approval → Approval}
variable (hnew : new.approvals = (viewApprovals db target approval).update (target.id db) f)
variable (hclosed : ∀ a, (f a).decision ≠ .pending)
include hnew hclosed

/-- It closes the approval, which was pending as it was loaded. -/
private theorem isDecided_commitRows (hpending : approval.decision = .pending)
    (hexists : ∀ id, target = .stored id → (db.approvals[id]?).isSome) :
    isDecided (target.id db) (commitRows db target approval incident proposal new) := by
  cases target with
  | stored id =>
    obtain ⟨row, hrow⟩ := Option.isSome_iff_exists.mp (hexists id rfl)
    have hafter : new.approvals[id]? = some (f approval) := by
      rw [hnew]
      simp [viewApprovals, Target.id, hrow]
    have hdecision : (flushApproval approval (f approval) row).decision = (f approval).decision := by
      simp [flushApproval, written, hpending, hclosed approval]
    apply isDecided_iff.mpr
    refine ⟨flushApproval approval (f approval) row, ?_, hdecision ▸ hclosed approval⟩
    show (flushed db.approvals new.approvals id (flushApproval approval))[id]? = _
    rw [flushed, Table.getElem?_update_self, hrow, hafter]
    rfl
  | inserted row =>
    have hafter : new.approvals[db.approvals.fresh]? = some (f row) := by
      rw [hnew]
      simp [viewApprovals, Target.id]
    apply isDecided_iff.mpr
    refine ⟨f row, ?_, hclosed row⟩
    show (db.approvals.insert (new.approvals[db.approvals.fresh]?.getD row))[
      db.approvals.fresh]? = _
    rw [hafter, Table.getElem?_insert_fresh]
    rfl

/-- What was decided stays so. -/
private theorem isDecided_of_commitRows (hpending : approval.decision = .pending) {id : Nat}
    (h : isDecided id db) : isDecided id (commitRows db target approval incident proposal new) := by
  obtain ⟨row, hrow, hdecided⟩ := isDecided_iff.mp h
  by_cases hid : target = .stored id
  · subst hid
    exact isDecided_commitRows hnew hclosed hpending fun other hother ↦ by
      cases hother
      rw [hrow]
      rfl
  · have hsame : (commitApprovals db target approval new.approvals)[id]? = db.approvals[id]? := by
      cases target with
      | stored other =>
        apply Table.getElem?_update_of_ne
        intro heq
        exact hid (by rw [heq])
      | inserted other => exact (Table.getElem?_insert_of_some hrow).trans hrow.symm
    exact isDecided_iff.mpr ⟨row, hsame.trans hrow, hdecided⟩

end Commit

/-! ### What other code changes -/

private theorem rowOf_editedRows_of_ne {db : Database} {k k' : Key} (f : Row k → Row k)
    (h : k' ≠ k) : rowOf (editedRows db k f) k' = rowOf db k' := by
  cases k with
  | approval id =>
    cases k' with
    | approval id' => exact Table.getElem?_update_of_ne _ _ fun heq ↦ h (by rw [heq])
    | incident id' => rfl
    | proposal id' => rfl
  | incident id =>
    cases k' with
    | approval id' => rfl
    | incident id' => exact Table.getElem?_update_of_ne _ _ fun heq ↦ h (by rw [heq])
    | proposal id' => rfl
  | proposal id =>
    cases k' with
    | approval id' => rfl
    | incident id' => rfl
    | proposal id' => exact Table.getElem?_update_of_ne _ _ fun heq ↦ h (by rw [heq])

private theorem isDecided_editedRows (db : Database) (k : Key) (f : Row k → Row k) (id : Nat) :
    isDecided id (editedRows db k f) = isDecided id db := by
  cases k with
  | approval other =>
    unfold isDecided editedRows
    rw [Table.getElem?_update]
    split
    · cases db.approvals[id]? <;> rfl
    · rfl
  | incident other => rfl
  | proposal other => rfl

private theorem rowOf_addedRows {db rows : Database} {k : Key} (h : (rowOf db k).isSome) :
    rowOf (addedRows db rows) k = rowOf db k := by
  have hlt {α : Type} {t : Table α} {id : Nat} (ht : t[id]?.isSome) : id < t.length := by
    obtain ⟨row, hrow⟩ := Option.isSome_iff_exists.mp ht
    exact (List.getElem?_eq_some_iff.mp hrow).1
  cases k with
  | approval id => exact List.getElem?_append_left (hlt h)
  | incident id => exact List.getElem?_append_left (hlt h)
  | proposal id => exact List.getElem?_append_left (hlt h)

private theorem isDecided_addedRows {db rows : Database} {id : Nat} (h : isDecided id db) :
    isDecided id (addedRows db rows) := by
  obtain ⟨row, hrow, hdecided⟩ := isDecided_iff.mp h
  have hsome : (rowOf db (.approval id)).isSome := by
    show (db.approvals[id]?).isSome
    rw [hrow]
    rfl
  have hsame : (addedRows db rows).approvals[id]? = db.approvals[id]? := rowOf_addedRows hsome
  exact isDecided_iff.mpr ⟨row, hsame.trans hrow, hdecided⟩

/-! ### Every run -/

/-- What every state of a run satisfies whose locks find what the sessions had read. -/
private structure Inv (s : State) : Prop where
  serial : Serial (rowOf s.rows) s.sessions
  ready : ∀ session ∈ s.sessions, Ready session session.program.phase
  nodup : s.decided.Nodup
  decided : ∀ id ∈ s.decided, isDecided id s.rows

section Runs

variable {s : State} {i : Nat} {session : DbSession}

/-- A session that decides, decides what was not decided. -/
private theorem Inv.undecided (h : Inv s) (hs : session ∈ s.sessions) {target : Target}
    {approval : Approval} (hholds : Holds session target approval) :
    isDecided (target.id s.rows) s.rows = false := by
  cases target with
  | stored id =>
    have hcurrent : session.loaded (.approval id) = rowOf s.rows (.approval id) :=
      h.serial.current session hs (.approval id) (hholds.approval_locked id rfl)
    have hrow : s.rows.approvals[id]? = some approval := hcurrent.symm.trans hholds.instance_eq
    unfold isDecided Target.id
    simp only [hrow, Option.any_some]
    simp [hholds.pending]
  | inserted row => simp [isDecided, Target.id, Table.fresh]

private theorem Inv.put (h : Inv s) (hs : s.sessions[i]? = some session) {after : DbSession}
    (hstatement : Statement (rowOf s.rows) s.sessions (rowOf s.rows)
      (s.sessions.update i fun _ ↦ after))
    (hready : Ready after after.program.phase) : Inv (s.put i after) := by
  constructor
  · exact hstatement.serial h.serial
  · intro other hother
    rcases Table.mem_update_of_some hs hother with hold | rfl
    · exact h.ready other hold
    · exact hready
  · exact h.nodup
  · exact h.decided

private theorem Inv.closed (h : Inv s) (hs : s.sessions[i]? = some session) :
    Inv (s.put i (closed session)) :=
  h.put hs (.finish hs (fun _ _ _ ↦ rfl) _) trivial

private theorem Inv.lock (h : Inv s) (hs : s.sessions[i]? = some session) {k : Key} {next : Phase}
    (hfresh : heldElsewhere s.sessions i k = false → ∀ row, rowOf s.rows k = some row →
      ∀ old, session.loaded k = some old → old = row)
    (hready : ∀ row, Ready (session.lock k row) next) :
    Inv (perform s i session (.lock k next)) := by
  cases hrow : rowOf s.rows k with
  | none =>
    simp only [perform, hrow]
    exact h.closed hs
  | some row =>
    by_cases hheld : heldElsewhere s.sessions i k = true
    · simp only [perform, hrow, hheld, if_true]
      exact h
    · rw [Bool.not_eq_true] at hheld
      simp only [perform, hrow, hheld, Bool.false_eq_true, if_false]
      exact h.put hs (.lock hs hrow hheld (hfresh hheld row hrow) _) ((hready row).goTo next)

/-- What a statement keeps. -/
private theorem Inv.perform (h : Inv s) (hs : s.sessions[i]? = some session) {effect : Effect}
    (hdoes : Does s.rows session effect)
    (hfresh : ∀ k next, effect = .lock k next → heldElsewhere s.sessions i k = false →
      ∀ row, rowOf s.rows k = some row → ∀ old, session.loaded k = some old → old = row) :
    Inv (perform s i session effect) := by
  have hmem := List.mem_of_getElem? hs
  cases hdoes with
  | abort => exact h.closed hs
  | select k hnext =>
    cases hrow : rowOf s.rows k with
    | none =>
      simp only [Concurrent.perform, hrow]
      exact h.closed hs
    | some row =>
      simp only [Concurrent.perform, hrow]
      exact h.put hs (.load hs hrow _) (hnext _)
  | insert row =>
    by_cases hinserting : inserting s.sessions i row = true
    · simp only [Concurrent.perform, hinserting, if_true]
      exact h
    · simp only [Concurrent.perform, hinserting]
      exact h.put hs (.proceed hs _) trivial
  | lockApproval id =>
    apply h.lock hs (hfresh _ _ rfl)
    intro row other hother
    cases hother
    exact List.mem_cons_self
  | skipLock row => exact h.put hs (.proceed hs _) fun id hid ↦ by cases hid
  | @lockIncident target approval hphase happroval hpending =>
    have hready := h.ready session hmem
    rw [hphase] at hready
    apply h.lock hs (hfresh _ _ rfl)
    intro row
    exact ⟨approval, approvalOf_load happroval _ row, hpending,
      fun id hid ↦ List.mem_cons_of_mem _ (hready id hid), List.mem_cons_self⟩
  | @lockProposal target approval hphase happroval =>
    have hready := h.ready session hmem
    rw [hphase] at hready
    obtain ⟨same, hsame, hpending, hlocked, hincident⟩ := hready
    rw [happroval, Option.some.injEq] at hsame
    subst hsame
    apply h.lock hs (hfresh _ _ rfl)
    intro row
    exact ⟨approval, approvalOf_load happroval _ row, hpending,
      fun id hid ↦ List.mem_cons_of_mem _ (hlocked id hid), List.mem_cons_of_mem _ hincident,
      List.mem_cons_self⟩
  | @commit target approval incident proposal new f hphase happroval hnew hclosed =>
    have hready := h.ready session hmem
    rw [hphase] at hready
    obtain ⟨same, hholds⟩ := hready
    obtain rfl : same = approval := by
      have hsame := hholds.instance_eq
      rw [happroval, Option.some.injEq] at hsame
      exact hsame.symm
    have hkept : ∀ id, isDecided id s.rows →
        isDecided id (commitRows s.rows target same incident proposal new) :=
      fun id ↦ isDecided_of_commitRows hnew hclosed hholds.pending
    constructor
    · apply (Statement.finish hs _ _).serial h.serial
      intro k hexists hunlocked
      apply rowOf_commitRows hexists
      · intro id hid heq
        exact hunlocked (heq ▸ hholds.approval_locked id hid)
      · intro heq
        exact hunlocked (heq ▸ hholds.incident_locked)
      · intro heq
        exact hunlocked (heq ▸ hholds.proposal_locked)
    · intro other hother
      rcases Table.mem_update_of_some hs hother with hold | rfl
      · exact h.ready other hold
      · trivial
    · apply List.nodup_cons.mpr
      refine ⟨fun hid ↦ ?_, h.nodup⟩
      have hundecided := h.undecided hmem hholds
      rw [h.decided _ hid] at hundecided
      cases hundecided
    · intro id hid
      rcases List.mem_cons.mp hid with rfl | hid
      · apply isDecided_commitRows hnew hclosed hholds.pending
        intro id hid
        exact h.serial.exist session hmem (.approval id) (hholds.approval_locked id hid)
      · exact hkept id (h.decided id hid)

/-- What a move keeps. -/
private theorem Inv.step (h : Inv s) {move : Move} (hfresh : Fresh s move) :
    Inv (Concurrent.step s move) := by
  cases move with
  | arrive call =>
    constructor
    · exact (Statement.join (⟨call, call.route.first⟩ : Program)).serial h.serial
    · intro session hsession
      rcases List.mem_append.mp hsession with hold | hnew
      · exact h.ready session hold
      · rw [List.mem_singleton.mp hnew]
        show Ready _ call.route.first
        cases call.route with
        | approvals id => trivial
        | incidents incidentId proposalId => trivial
    · exact h.nodup
    · exact h.decided
  | statement i =>
    cases hs : s.sessions[i]? with
    | none =>
      simp only [Concurrent.step, hs]
      exact h
    | some session =>
      simp only [Concurrent.step, hs]
      exact h.perform hs (does_effectOf s.rows session) (hfresh session hs)
  | fail i =>
    cases hs : s.sessions[i]? with
    | none =>
      simp only [Concurrent.step, hs]
      exact h
    | some session =>
      simp only [Concurrent.step, hs]
      exact h.closed hs
  | edit k f =>
    by_cases hheld : held s.sessions k = true
    · simp only [Concurrent.step, hheld, if_true]
      exact h
    · simp only [Concurrent.step, hheld]
      constructor
      · apply (Statement.foreign _).serial h.serial
        intro k' _ hheld'
        apply rowOf_editedRows_of_ne
        rintro rfl
        exact hheld hheld'
      · exact h.ready
      · exact h.nodup
      · intro id hid
        exact (isDecided_editedRows s.rows k f id).trans (h.decided id hid)
  | add rows =>
    constructor
    · exact (Statement.foreign fun k hexists _ ↦ rowOf_addedRows hexists).serial h.serial
    · exact h.ready
    · exact h.nodup
    · exact fun id hid ↦ isDecided_addedRows (h.decided id hid)

private theorem Inv.sound (h : Inv s) : Sound s := by
  constructor
  · exact fun id ↦ List.nodup_iff_count_le_one.mp h.nodup id
  · intro session hsession target hphase
    have hready := h.ready session hsession
    rw [hphase] at hready
    exact hready
  · exact h.serial.current

/-- A lock of a row that has changed since it was read holds what is not committed. -/
private theorem Inv.fresh_of_sound (h : Inv s) {move : Move} (hsound : Sound (Concurrent.step s move)) :
    Fresh s move := by
  cases move with
  | statement i =>
    intro session hs k next heffect hfree row hrow
    have hstep : Concurrent.step s (.statement i) = s.put i (goTo (session.lock k row) next) := by
      unfold Concurrent.step
      simp only [hs, heffect, Concurrent.perform, hrow, hfree, Bool.false_eq_true, if_false]
    rw [hstep] at hsound
    have hmem : goTo (session.lock k row) next ∈ s.sessions.update i fun _ ↦ goTo (session.lock k row) next := by
      apply List.mem_of_getElem? (i := i)
      rw [Table.getElem?_update_self, hs]
      rfl
    have hcurrent := hsound.current (Concurrent.goTo (session.lock k row) next) hmem
    have hbefore := h.serial.current session (List.mem_of_getElem? hs)
    exact (current_lock_iff hbefore hrow).mp hcurrent
  | arrive call => trivial
  | fail i => trivial
  | edit k f => trivial
  | add rows => trivial

private theorem Inv.sound_iff (h : Inv s) (moves : List Move) :
    (∀ n, Sound (Runs.run Concurrent.step s (moves.take n))) ↔
      Runs.Along Concurrent.step Fresh s moves := by
  induction moves generalizing s with
  | nil =>
    constructor
    · exact fun _ ↦ trivial
    · intro _ n
      rw [List.take_nil]
      exact h.sound
  | cons move rest ih =>
    constructor
    · intro hsound
      have hfresh : Fresh s move := h.fresh_of_sound (hsound 1)
      exact ⟨hfresh, (ih (h.step hfresh)).mp fun n ↦ hsound (n + 1)⟩
    · rintro ⟨hfresh, hrest⟩ n
      cases n with
      | zero => exact h.sound
      | succ n => exact (ih (h.step hfresh)).mpr hrest n

end Runs

/-- **An approval is decided once.** In a run of decisions, statement by statement, every approval
is decided by at most one committed transaction, and on its rows as committed, in every state
exactly if no session locks a row that has changed since it read it. -/
theorem decided_once_iff (rows : Database) (moves : List Move) :
    (∀ n, Sound (Runs.run step { rows } (moves.take n))) ↔
      Runs.Along step Fresh { rows } moves := by
  apply Inv.sound_iff
  constructor
  · exact ⟨fun i j s t hs ↦ by simp at hs, fun s hs ↦ absurd hs List.not_mem_nil,
      fun s hs ↦ absurd hs List.not_mem_nil⟩
  · exact fun s hs ↦ absurd hs List.not_mem_nil
  · exact List.nodup_nil
  · exact fun id hid ↦ absurd hid List.not_mem_nil

private theorem awaiting_score : 10 ≤ 100 := by decide

/-- An incident that waits for the approval of its proposal. -/
private def awaitingRows : Database where
  incidents := [⟨"2f6b", "UNHEALTHY_POD", "API pod restarting", none, .staging, .awaitingApproval,
    "warning", none, 0, none, none, none, none, []⟩]
  proposals := [⟨0, .restartPod, [], .pending, 10, ⟨none, none⟩, "cloudward", awaiting_score⟩]
  approvals := [⟨0, 0, none, .pending, none, .restartPod, .staging, 10, 1, true, "cloudward",
    none, 1, "", ⟨0, 0, 1, .restartPod, 10, []⟩, "digest", 1800, none, none, none, none, none,
    none⟩]

private def rejecting (route : Route) (login : String) : Call :=
  ⟨route, .rejected, ⟨login, .operator, none⟩, none, .standard, calm⟩

/-- The incident route reads the three rows, the approvals API decides and commits, and then the
incident route takes the locks. -/
private def crossing : List Move :=
  [.arrive (rejecting (.incidents 0 0) "first"), .statement 0, .statement 0, .statement 0,
    .arrive (rejecting (.approvals 0) "second"), .statement 1, .statement 1, .statement 1,
    .statement 1, .statement 0, .statement 0, .statement 0, .statement 0]

/-- Both transactions decide the approval. -/
theorem decided_twice :
    ¬ ∀ (rows : Database) (moves : List Move), Sound (Runs.run step { rows } moves) := by
  intro h
  have hdecided : (Runs.run step { rows := awaitingRows } crossing).decided = [0, 0] := by
    decide +kernel
  have honce := (h awaitingRows crossing).once 0
  rw [hdecided] at honce
  exact absurd honce (by decide)

end CloudWard.Approvals.Concurrent
