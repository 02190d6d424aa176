import CloudWard.Finops.Requests

/-!
# The expiry of a recommendation

A request that finds a recommendation expired or stale writes so, and raises; its transaction is
rolled back. The expiry lasts exactly where the recommendation was closed before.
-/

namespace CloudWard.Finops

open CloudWard.Logic

variable {F : Type} (app : App F)

/-- A create-pr request reads other requests in GitOps than a recommendation is bound to. -/
def Drifts (r : Request) (row : FinOpsRecommendation) : Prop :=
  match r.endpoint with
  | .prPreview => False
  | .createPr payload answer => ∃ proposal source sha b,
      gitopsProposal app.lib app.settings row = .ok proposal ∧
      valuesSource app proposal payload answer = .ok (source, sha) ∧
      binding app.lib row source.content = .ok b ∧ b.drifted = true

/-- A request finds a recommendation expired when it looks at it or builds the proposal, or finds
its bound state or the GitOps requests changed. -/
def Finds (r : Request) (row : FinOpsRecommendation) : Prop :=
  row.expiresAt ≤ r.lookedAt ∨
    row.recommendationType = "WORKLOAD_RIGHTSIZING" ∧ row.status ∈ proposable ∧
      (row.expiresAt ≤ r.builtAt ∨ digest app.lib row.currentConfig ≠ row.expectedStateDigest ∨
        Drifts app r row)

/-- A run keeps what its requests find: the recommendation is expired or closed as it was, and no
later request makes a pull request of it. -/
structure Durable (s : Store) (moves : List Move) : Prop where
  committed : ∀ before r rest, moves = before ++ .request r :: rest → ∀ row,
    (Runs.run (step app) s before).get? r.id = some row → Finds app r row →
      ∃ row', (step app (Runs.run (step app) s before) (.request r)).get? r.id = some row' ∧
        (row'.status = .expired ∨ row.status ∈ terminal ∧ row'.status = row.status)
  refused : ∀ before r between later rest,
    moves = before ++ .request r :: (between ++ .request later :: rest) → later.id = r.id → ∀ row,
    (Runs.run (step app) s before).get? r.id = some row → Finds app r row →
      (∃ e, (handle app (Runs.run (step app) s (before ++ .request r :: between)) later).2 =
        .error e) ∧
      (handle app (Runs.run (step app) s (before ++ .request r :: between)) later).1.change.hub =
        (Runs.run (step app) s (before ++ .request r :: between)).change.hub

/-- Every request of a run that finds a recommendation expired or stale finds it closed. -/
def Closed (s : Store) (moves : List Move) : Prop :=
  ∀ before r rest, moves = before ++ .request r :: rest → ∀ row,
    (Runs.run (step app) s before).get? r.id = some row → Finds app r row → row.status ∈ terminal

/-! ### Lookups -/

variable {app} {s after : Store} {r : Request} {row : FinOpsRecommendation} {id : Uuid}

private theorem id_of_get? (h : s.get? id = some row) : row.id = id := by
  simpa using List.find?_some h

/-- A write to a row leaves the others. -/
private theorem get?_write {f : FinOpsRecommendation → FinOpsRecommendation} {other : Uuid}
    (hf : ∀ row, (f row).id = row.id) (h : id ≠ other) : (s.write other f).get? id = s.get? id := by
  unfold Store.get? Store.write
  induction s.rows with
  | nil => rfl
  | cons row rows ih =>
    rw [List.map_cons]
    by_cases hrow : row.id = id
    · have hother : row.id ≠ other := fun heq ↦ h (hrow.symm.trans heq)
      rw [if_neg hother, List.find?_cons_of_pos (by simpa using hrow),
        List.find?_cons_of_pos (by simpa using hrow)]
    · have hwritten : (if row.id = other then f row else row).id = row.id := by
        split
        · exact hf row
        · rfl
      rw [List.find?_cons_of_neg (by simpa [hwritten] using hrow),
        List.find?_cons_of_neg (by simpa using hrow)]
      exact ih

/-! ### Requests that fail -/

variable (app) in
/-- A recommendation that is not proposable has no proposal. -/
private theorem run_build_of_not_proposable (h : row.status ∉ proposable) (now : Nat) :
    ∃ e, (buildGitopsProposal app.lib app.settings row now).run s = (.error e, s) := by
  unfold buildGitopsProposal
  by_cases htype : row.recommendationType = "WORKLOAD_RIGHTSIZING"
  · rw [Exec.run_bind_require htype]
    refine ⟨notProposable, Exec.run_bind_of_error ?_⟩
    rw [Exec.run_require, if_neg h]
  · refine ⟨notApplicable, Exec.run_bind_of_error ?_⟩
    rw [Exec.run_require, if_neg htype]

/-- A closed recommendation is not proposable. -/
private theorem not_proposable_of_terminal {status : FinOpsStatus} (h : status ∈ terminal) :
    status ∉ proposable := by
  revert h
  cases status <;> decide

/-- What a look at a recommendation returns. -/
private theorem run_getForUpdate (hrow : s.get? id = some row) (now : Nat) :
    (getForUpdate id now).run s =
      if row.expiresAt ≤ now ∧ row.status ∉ terminal then (.ok row.expire, s.write id .expire)
      else (.ok row, s) := by
  unfold getForUpdate
  rw [Exec.run_bind_of_ok (Exec.run_read _ _), hrow]
  dsimp only
  split <;> rfl

private theorem expired_terminal : FinOpsStatus.expired ∈ terminal := by decide

variable (app) in
/-- A request on a closed recommendation changes nothing. -/
private theorem run_body_of_terminal (hrow : s.get? r.id = some row) (h : row.status ∈ terminal) :
    ∃ e, (body app r).run s = (.error e, s) := by
  have hlook := run_getForUpdate hrow r.lookedAt
  rw [if_neg fun hexpired ↦ hexpired.2 h] at hlook
  obtain ⟨e, he⟩ := run_build_of_not_proposable app (s := s)
    (not_proposable_of_terminal h) r.builtAt
  unfold body
  rw [Exec.run_bind_of_ok hlook]
  exact ⟨e, Exec.run_bind_of_error he⟩

/-- A recommendation whose requests drifted gets no pull request. -/
private theorem run_createFinopsPr_of_drifted {faults : Github.Faults}
    {proposal : GitOpsChangeProposal} {payload : FinOpsPullRequestRequest}
    {answer : Except Exc Json} {source : Github.SourceFileEvidence} {sha : String} {b : Binding}
    (hsource : valuesSource app proposal payload answer = .ok (source, sha))
    (hbinding : binding app.lib row source.content = .ok b) (hdrifted : b.drifted = true) :
    ∃ e after, (createFinopsPr app faults row proposal payload answer).run s =
      (.error e, after) := by
  obtain ⟨policy, hpolicy, -⟩ := bind_eq_ok hsource
  have hpatch : ∃ after, (patchGitopsValues app.lib row source.content).run s =
      (.error (stale "GitOps resource requests changed after recommendation evidence collection"),
        after) := by
    unfold patchGitopsValues
    rw [hbinding, Exec.run_bind_of_ok (Exec.run_ofExcept _ _), if_pos hdrifted]
    exact ⟨_, rfl⟩
  obtain ⟨after, hpatch⟩ := hpatch
  unfold createFinopsPr
  rw [hsource, Exec.run_bind_of_ok (Exec.run_ofExcept _ _)]
  dsimp only
  rw [hpolicy, Exec.run_bind_of_ok (Exec.run_ofExcept _ _), Exec.run_bind_of_error hpatch]
  exact ⟨_, _, rfl⟩

variable (app) in
/-- How a proposal ends that is applicable and proposable. -/
private theorem run_build (htype : row.recommendationType = "WORKLOAD_RIGHTSIZING")
    (hstatus : row.status ∈ proposable) (now : Nat) :
    (buildGitopsProposal app.lib app.settings row now).run s =
      if row.expiresAt ≤ now then (.error expiredBefore, s.write row.id .expire)
      else if digest app.lib row.currentConfig ≠ row.expectedStateDigest then
        (.error (stale "Recommendation current state no longer matches its bound proposal version"),
          s.write row.id .expire)
      else (gitopsProposal app.lib app.settings row, s) := by
  unfold buildGitopsProposal
  rw [Exec.run_bind_require htype, Exec.run_bind_require hstatus]
  by_cases hexpired : row.expiresAt ≤ now
  · simp only [if_pos hexpired]
    rfl
  · by_cases hdigest : digest app.lib row.currentConfig ≠ row.expectedStateDigest
    · simp only [if_neg hexpired, if_pos hdigest]
      rfl
    · simp only [if_neg hexpired, if_neg hdigest]
      rfl

/-- A request that finds an open recommendation expired or stale raises. -/
private theorem run_body_of_finds (hrow : s.get? r.id = some row) (hopen : row.status ∉ terminal)
    (h : Finds app r row) : ∃ e after, (body app r).run s = (.error e, after) := by
  have hlook := run_getForUpdate hrow r.lookedAt
  unfold body
  by_cases hexpired : row.expiresAt ≤ r.lookedAt
  · rw [if_pos ⟨hexpired, hopen⟩] at hlook
    have hstatus : row.expire.status ∉ proposable := not_proposable_of_terminal expired_terminal
    obtain ⟨e, he⟩ := run_build_of_not_proposable app (s := s.write r.id .expire) hstatus r.builtAt
    rw [Exec.run_bind_of_ok hlook]
    exact ⟨e, _, Exec.run_bind_of_error he⟩
  · rw [if_neg fun hboth ↦ hexpired hboth.1] at hlook
    obtain ⟨htype, hstatus, hfound⟩ := h.resolve_left hexpired
    have hbuild := run_build app (s := s) htype hstatus r.builtAt
    rw [Exec.run_bind_of_ok hlook]
    by_cases hbuilt : row.expiresAt ≤ r.builtAt
    · rw [if_pos hbuilt] at hbuild
      exact ⟨_, _, Exec.run_bind_of_error hbuild⟩
    · by_cases hdigest : digest app.lib row.currentConfig ≠ row.expectedStateDigest
      · rw [if_neg hbuilt, if_pos hdigest] at hbuild
        exact ⟨_, _, Exec.run_bind_of_error hbuild⟩
      · have hdrifts := (hfound.resolve_left hbuilt).resolve_left hdigest
        rw [if_neg hbuilt, if_neg hdigest] at hbuild
        unfold Drifts at hdrifts
        cases hendpoint : r.endpoint with
        | prPreview =>
          rw [hendpoint] at hdrifts
          exact hdrifts.elim
        | createPr payload answer =>
          rw [hendpoint] at hdrifts
          obtain ⟨proposal, source, sha, b, hproposal, hsource, hbinding, hdrifted⟩ := hdrifts
          rw [hproposal] at hbuild
          rw [Exec.run_bind_of_ok hbuild]
          exact run_createFinopsPr_of_drifted hsource hbinding hdrifted

/-! ### Transactions -/

/-- A request that raises leaves the rows. -/
private theorem handle_of_error {e : Exc} (h : (body app r).run s = (.error e, after)) :
    handle app s r = (s.rollback after, .error e) := by
  unfold handle
  rw [h]

private theorem get?_rollback (id : Uuid) : (s.rollback after).get? id = s.get? id := rfl

/-- The part of a request after its look changes no other row. -/
private theorem frames_createFinopsPr (hid : id ≠ row.id) (faults : Github.Faults)
    (proposal : GitOpsChangeProposal) (payload : FinOpsPullRequestRequest)
    (answer : Except Exc Json) :
    Exec.Frames (fun s : Store ↦ s.get? id)
      (createFinopsPr app faults row proposal payload answer) := by
  have hexpire : Exec.Frames (fun s : Store ↦ s.get? id)
      (Exec.update (·.write row.id .expire) : Exec Store Exc Unit) :=
    Exec.frames_update fun s ↦ get?_write (fun _ ↦ rfl) hid
  unfold createFinopsPr
  apply Exec.frames_bind (Exec.frames_ofExcept _)
  intro ⟨source, sha⟩
  apply Exec.frames_bind (Exec.frames_ofExcept _)
  intro policy
  apply Exec.frames_bind
  · unfold patchGitopsValues
    apply Exec.frames_bind (Exec.frames_ofExcept _)
    intro b
    split
    · apply Exec.frames_bind hexpire
      exact fun _ ↦ Exec.frames_throw _
    · apply Exec.frames_bind (Exec.frames_ofExcept _)
      intro cpu
      apply Exec.frames_bind (Exec.frames_ofExcept _)
      exact fun _ ↦ Exec.frames_pure _
  · intro content
    apply Exec.frames_bind (Exec.frames_ofExcept _)
    intro request
    apply Exec.frames_bind
    · exact fun s ↦ rfl
    · intro result
      apply Exec.frames_bind
      · unfold recordPrCreated
        apply Exec.frames_bind (Exec.frames_require _ _)
        exact fun _ ↦ Exec.frames_update fun s ↦ get?_write (fun _ ↦ rfl) hid
      · exact fun _ ↦ Exec.frames_pure _

variable (app) in
/-- A request changes no row but the one it is on. -/
private theorem get?_body (hid : id ≠ r.id) : ((body app r).run s).2.get? id = s.get? id := by
  unfold body
  cases hrow : s.get? r.id with
  | none =>
    have hlook : (getForUpdate r.id r.lookedAt).run s = (.error notFound, s) := by
      unfold getForUpdate
      rw [Exec.run_bind_of_ok (Exec.run_read _ _), hrow]
      rfl
    rw [Exec.run_bind_of_error hlook]
  | some row =>
    have hrowId := id_of_get? hrow
    have hrest (row : FinOpsRecommendation) (hrowId : row.id = r.id) :
        Exec.Frames (fun s : Store ↦ s.get? id)
          (buildGitopsProposal app.lib app.settings row r.builtAt >>= fun proposal ↦
            match r.endpoint with
            | .prPreview => pure (.preview proposal)
            | .createPr payload answer =>
              createFinopsPr app r.faults row proposal payload answer) := by
      have hne : id ≠ row.id := hrowId ▸ hid
      have hexpire : Exec.Frames (fun s : Store ↦ s.get? id)
          (Exec.update (·.write row.id .expire) : Exec Store Exc Unit) :=
        Exec.frames_update fun s ↦ get?_write (fun _ ↦ rfl) hne
      apply Exec.frames_bind
      · unfold buildGitopsProposal
        apply Exec.frames_bind (Exec.frames_require _ _)
        intro _
        apply Exec.frames_bind (Exec.frames_require _ _)
        intro _
        dsimp only
        split
        · apply Exec.frames_bind hexpire
          exact fun _ ↦ Exec.frames_bind (Exec.frames_throw _) fun _ ↦ by
            split
            · exact Exec.frames_bind hexpire fun _ ↦
                Exec.frames_bind (Exec.frames_throw _) fun _ ↦ Exec.frames_ofExcept _
            · exact Exec.frames_ofExcept _
        · split
          · exact Exec.frames_bind hexpire fun _ ↦
              Exec.frames_bind (Exec.frames_throw _) fun _ ↦ Exec.frames_ofExcept _
          · exact Exec.frames_ofExcept _
      · intro proposal
        split
        · exact Exec.frames_pure _
        · exact frames_createFinopsPr hne _ _ _ _
    have hlook := run_getForUpdate hrow r.lookedAt
    split at hlook
    · rw [Exec.run_bind_of_ok hlook]
      exact (hrest row.expire hrowId _).trans (get?_write (fun _ ↦ rfl) hid)
    · rw [Exec.run_bind_of_ok hlook]
      exact hrest row hrowId _

/-- What a request on another recommendation leaves. -/
private theorem get?_handle (hid : id ≠ r.id) : (handle app s r).1.get? id = s.get? id := by
  have hbody := get?_body app (s := s) hid
  unfold handle
  split
  · rfl
  · next response after hrun =>
    rw [hrun] at hbody
    split
    · exact hbody
    · rfl
    · exact hbody

/-! ### Runs -/

/-- A recommendation is closed. -/
private def Kept (id : Uuid) (s : Store) : Prop :=
  ∃ row, s.get? id = some row ∧ row.status ∈ terminal

private theorem kept_step (h : Kept id s) (move : Move) : Kept id (step app s move) := by
  obtain ⟨row, hrow, hstatus⟩ := h
  cases move with
  | analysis draft =>
    refine ⟨row, ?_, hstatus⟩
    show (persistResult app s draft).get? id = some row
    unfold persistResult
    split
    · exact hrow
    · unfold Store.get? at hrow ⊢
      rw [List.find?_append, hrow]
      rfl
  | request r =>
    refine ⟨row, ?_, hstatus⟩
    show (handle app s r).1.get? id = some row
    by_cases hid : id = r.id
    · subst hid
      obtain ⟨e, he⟩ := run_body_of_terminal app hrow hstatus
      rw [handle_of_error he, get?_rollback]
      exact hrow
    · rw [get?_handle hid]
      exact hrow

private theorem closed_of_durable {moves : List Move} (h : Durable app s moves) :
    Closed app s moves := by
  intro before r rest hmoves row hrow hfinds
  by_contra hopen
  obtain ⟨e, after, hbody⟩ := run_body_of_finds hrow hopen hfinds
  obtain ⟨row', hrow', hstatus⟩ := h.committed before r rest hmoves row hrow hfinds
  have hstep : step app (Runs.run (step app) s before) (.request r) =
      (Runs.run (step app) s before).rollback after := congrArg Prod.fst (handle_of_error hbody)
  rw [hstep, get?_rollback, hrow] at hrow'
  cases hrow'
  rcases hstatus with hexpired | ⟨hterminal, -⟩
  · exact hopen (hexpired ▸ expired_terminal)
  · exact hopen hterminal

private theorem durable_of_closed {moves : List Move} (h : Closed app s moves) :
    Durable app s moves := by
  constructor
  · intro before r rest hmoves row hrow hfinds
    have hterminal := h before r rest hmoves row hrow hfinds
    obtain ⟨e, he⟩ := run_body_of_terminal app hrow hterminal
    refine ⟨row, ?_, .inr ⟨hterminal, rfl⟩⟩
    show (handle app _ r).1.get? r.id = some row
    rw [handle_of_error he, get?_rollback]
    exact hrow
  · intro before r between later rest hmoves hid row hrow hfinds
    have hterminal := h before r _ hmoves row hrow hfinds
    obtain ⟨row', hrow', hstatus⟩ : Kept later.id
        (Runs.run (step app) s (before ++ .request r :: between)) := by
      rw [Runs.run_append, hid]
      exact Runs.invariant (I := Kept r.id) (fun _ move hkept ↦ kept_step hkept move)
        ⟨row, hrow, hterminal⟩ (.request r :: between)
    obtain ⟨e, he⟩ := run_body_of_terminal app hrow' hstatus
    rw [handle_of_error he]
    exact ⟨⟨e, rfl⟩, rfl⟩

/-- A run is durable exactly if its requests find only closed recommendations expired or stale. -/
theorem durable_iff_closed (app : App F) (s : Store) (moves : List Move) :
    Durable app s moves ↔ Closed app s moves :=
  ⟨closed_of_durable, durable_of_closed⟩

/-! ### From an empty database -/

/-- Every recommendation is open. -/
def AllOpen (s : Store) : Prop := ∀ row ∈ s.rows, row.status ∈ proposable

private theorem allOpen_write {f : FinOpsRecommendation → FinOpsRecommendation} (h : AllOpen s)
    (hf : ∀ row, (f row).status ∈ proposable) (id : Uuid) : AllOpen (s.write id f) := by
  intro row hrow
  obtain ⟨old, hold, rfl⟩ := List.mem_map.mp hrow
  split
  · exact hf old
  · exact h old hold

private theorem triple_ofExcept {α : Type} (x : Except Exc α) :
    Exec.Triple AllOpen (Exec.ofExcept x : Exec Store Exc α) (fun _ ↦ AllOpen) fun _ _ ↦ True :=
  Exec.Triple.ofExcept (fun _ _ _ h ↦ h) fun _ _ _ _ ↦ trivial

private theorem triple_patchGitopsValues (row : FinOpsRecommendation) (content : String) :
    Exec.Triple AllOpen (patchGitopsValues app.lib row content) (fun _ ↦ AllOpen)
      fun _ _ ↦ True := by
  unfold patchGitopsValues
  apply Exec.Triple.bind (triple_ofExcept _)
  intro b
  split
  · apply Exec.Triple.bind (Q := fun _ _ ↦ True)
    · exact Exec.Triple.update fun _ _ ↦ trivial
    · intro _
      apply Exec.Triple.bind (Q := fun _ _ ↦ False)
      · exact Exec.Triple.throw fun _ _ ↦ trivial
      · exact fun _ _ h ↦ h.elim
  · apply Exec.Triple.bind (triple_ofExcept _)
    intro cpu
    apply Exec.Triple.bind (triple_ofExcept _)
    exact fun memory ↦ Exec.Triple.pure fun _ h ↦ h

private theorem prCreated_proposable : FinOpsStatus.prCreated ∈ proposable := by decide

/-- A pull request that is made leaves its recommendation open. -/
private theorem triple_createFinopsPr (faults : Github.Faults) (row : FinOpsRecommendation)
    (proposal : GitOpsChangeProposal) (payload : FinOpsPullRequestRequest)
    (answer : Except Exc Json) :
    Exec.Triple AllOpen (createFinopsPr app faults row proposal payload answer) (fun _ ↦ AllOpen)
      fun _ _ ↦ True := by
  have hchange {α : Type} (x : Exec Github.Change Exc α) :
      Exec.Frames (·.rows) (onChange x : Exec Store Exc α) := fun _ ↦ rfl
  unfold createFinopsPr
  apply Exec.Triple.bind (triple_ofExcept _)
  intro ⟨source, sha⟩
  apply Exec.Triple.bind (triple_ofExcept _)
  intro policy
  apply Exec.Triple.bind (triple_patchGitopsValues _ _)
  intro content
  apply Exec.Triple.bind (triple_ofExcept _)
  intro request
  apply Exec.Triple.bind ((hchange _).returns fun rows ↦ ∀ row ∈ rows, row.status ∈ proposable)
  intro result
  unfold recordPrCreated
  apply Exec.Triple.bind (Q := fun _ ↦ AllOpen)
  · apply Exec.Triple.bind (Q := fun _ ↦ AllOpen)
    · exact Exec.Triple.require (fun _ _ h ↦ h) fun _ _ _ ↦ trivial
    · exact fun _ ↦ Exec.Triple.update fun s h ↦ allOpen_write h (fun _ ↦ prCreated_proposable) row.id
  · exact fun _ ↦ Exec.Triple.pure fun _ h ↦ h

/-- A request that does not raise leaves every recommendation open. -/
private theorem allOpen_body {response : Response} (h : AllOpen s)
    (hrun : (body app r).run s = (.ok response, after)) : AllOpen after := by
  cases hrow : s.get? r.id with
  | none =>
    have hlook : (getForUpdate r.id r.lookedAt).run s = (.error notFound, s) := by
      unfold getForUpdate
      rw [Exec.run_bind_of_ok (Exec.run_read _ _), hrow]
      rfl
    unfold body at hrun
    rw [Exec.run_bind_of_error hlook] at hrun
    cases hrun
  | some row =>
    have hstatus := h row (List.mem_of_find?_eq_some hrow)
    have hopen : row.status ∉ terminal := fun hterminal ↦
      not_proposable_of_terminal hterminal hstatus
    by_cases hfinds : Finds app r row
    · obtain ⟨e, after', herror⟩ := run_body_of_finds hrow hopen hfinds
      rw [herror] at hrun
      cases hrun
    · unfold Finds at hfinds
      push Not at hfinds
      obtain ⟨hlooked, hbuilt⟩ := hfinds
      have hlook := run_getForUpdate hrow r.lookedAt
      rw [if_neg fun hexpired ↦ absurd hexpired.1 (Nat.not_le.mpr hlooked)] at hlook
      unfold body at hrun
      rw [Exec.run_bind_of_ok hlook] at hrun
      by_cases htype : row.recommendationType = "WORKLOAD_RIGHTSIZING"
      · obtain ⟨hbuilt, hdigest, -⟩ := hbuilt htype hstatus
        have hbuild := run_build app (s := s) htype hstatus r.builtAt
        rw [if_neg (Nat.not_le.mpr hbuilt), if_neg (not_not.mpr hdigest)] at hbuild
        cases hproposal : gitopsProposal app.lib app.settings row with
        | error e =>
          rw [hproposal] at hbuild
          rw [Exec.run_bind_of_error hbuild] at hrun
          cases hrun
        | ok proposal =>
          rw [hproposal] at hbuild
          rw [Exec.run_bind_of_ok hbuild] at hrun
          cases hendpoint : r.endpoint with
          | prPreview =>
            rw [hendpoint] at hrun
            cases hrun
            exact h
          | createPr payload answer =>
            rw [hendpoint] at hrun
            exact (triple_createFinopsPr _ _ _ _ _).of_ok h hrun
      · have hbuild : (buildGitopsProposal app.lib app.settings row r.builtAt).run s =
            (.error notApplicable, s) := by
          unfold buildGitopsProposal
          refine Exec.run_bind_of_error ?_
          rw [Exec.run_require, if_neg htype]
        rw [Exec.run_bind_of_error hbuild] at hrun
        cases hrun

/-- No run of an empty database closes a recommendation. -/
theorem allOpen_run (app : App F) (moves : List Move) : AllOpen (Runs.run (step app) {} moves) := by
  have hempty : AllOpen {} := fun row hrow ↦ absurd hrow List.not_mem_nil
  refine Runs.invariant (I := AllOpen) (fun s move h ↦ ?_) hempty moves
  cases move with
  | analysis draft =>
    show AllOpen (persistResult app s draft)
    unfold persistResult
    split
    · exact h
    · intro row hrow
      rcases List.mem_append.mp hrow with hold | hnew
      · exact h row hold
      · rw [List.mem_singleton.mp hnew]
        exact List.mem_cons_self
  | request r =>
    show AllOpen (handle app s r).1
    unfold handle
    split
    · exact h
    · next response after hrun =>
      have hafter := allOpen_body h hrun
      split
      · exact hafter
      · exact h
      · exact hafter

/-- From an empty database a run is durable exactly if no request finds a recommendation expired
or stale. -/
theorem durable_iff_not_finds (app : App F) (moves : List Move) :
    Durable app {} moves ↔ ∀ before r rest, moves = before ++ .request r :: rest → ∀ row,
      (Runs.run (step app) {} before).get? r.id = some row → ¬ Finds app r row := by
  constructor
  · intro h before r rest hmoves row hrow hfinds
    exact not_proposable_of_terminal
      (closed_of_durable h before r rest hmoves row hrow hfinds)
      (allOpen_run app before row (List.mem_of_find?_eq_some hrow))
  · exact fun h ↦ durable_of_closed fun before r rest hmoves row hrow hfinds ↦
      absurd hfinds (h before r rest hmoves row hrow)

/-! ### A preview of an expired recommendation -/

private def someLibrary : Library Nat where
  unicode := ⟨fun _ ↦ false, fun _ ↦ none⟩
  b64decode _ := none
  str _ := ""
  floats :=
    { ofInt n := some n.toNat
      ofText _ := none
      ofBytes _ := none
      ofRepr _ := 0
      milli n := n / 1000
      far m n := m ≠ n
      trunc n := some n
      scale n k := .ok (n * k)
      ceilMilli n := some (n * 1000)
      ceilMebi n := some ((n + 1048575) / 1048576) }
  yaml := ⟨fun _ ↦ .error .yamlError, fun _ ↦ .error .yamlError, fun _ ↦ ""⟩
  sha256 text := text
  indented _ := ""
  isoformat _ := ""
  fixed2 text := text

private theorem someUrl_ne : "https://github.com/acme/demo/pull/1" ≠ "" := by decide

private theorem someNumber_pos (n : Nat) : 1 ≤ n + 1 := Nat.le_add_left 1 n

private theorem someSha_ne : "c0ffee0" ≠ "" := by decide

private def someApp : App Nat where
  lib := someLibrary
  settings := ⟨"acme/demo", "cloudward-gitops/environments/staging/values.yaml"⟩
  client := .error (.cloudWard ⟨"GITHUB_APP_NOT_CONFIGURED",
    "GitHub App credentials are not configured", 503⟩)
  host := ⟨fun _ _ ↦ none, fun _ ↦ "", fun _ ↦ "c0ffee0", fun n ↦
    ⟨n + 1, "https://github.com/acme/demo/pull/1", someNumber_pos n, someUrl_ne⟩, fun _ ↦ someSha_ne⟩

private def rightsizing : FinOpsRecommendation where
  id := ⟨"6f1c2e1a-0000-4000-8000-000000000003", by decide +kernel⟩
  service := "cloudward-demo"
  recommendationType := "WORKLOAD_RIGHTSIZING"
  status := .recommended
  currentConfig := .dict []
  recommendedConfig := .dict []
  evidence := .dict []
  estimatedSavings := .dict []
  riskScore := 20
  confidence := "0.9"
  limitations := []
  evidenceWindowStart := 0
  evidenceWindowEnd := 3600
  sourceFingerprint := "f1"
  proposalVersion := 1
  expectedStateDigest := ""
  expiresAt := 90000
  prReference := none
  prUrl := none
  details := .dict []

/-- A preview, made after the recommendation expired, leaves it recommended. -/
theorem not_durable_expiredPreview :
    ¬ Durable someApp {} [.analysis rightsizing,
      .request ⟨rightsizing.id, .prPreview, 90000, 90000, {}⟩] := by
  intro h
  have hopen := closed_of_durable h [.analysis rightsizing] _ [] rfl
    { rightsizing with expectedStateDigest := digest someLibrary rightsizing.currentConfig }
    rfl (.inl (Nat.le_refl _))
  revert hopen
  decide

end CloudWard.Finops
