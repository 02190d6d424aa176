import CloudWard.Github.Proposals

/-!
# When a retry completes

`create_once` creates the branch of a pull request before it leaves any record of its own, and
asks nothing about a branch that is there already. Once its branch exists, only a committed record
lets a request complete.
-/

namespace CloudWard.Github

open CloudWard.Logic CloudWard.Security Python Redaction

variable {u : Unicode} {policy : GitHubAutomationPolicy} {host : Host} {subject : Uuid}
  {operation repository path : String} {request : GitHubChangeProposalRequest} {s : Change}

/-- The checks of a request let it pass, and its base commit has the blob that it names. -/
structure Passes (u : Unicode) (policy : GitHubAutomationPolicy) (host : Host) (subject : Uuid)
    (operation repository path : String) (request : GitHubChangeProposalRequest) : Prop where
  write : policy.requirePathWrite request.repository request.path = .ok (repository, path)
  again : policy.requirePathWrite repository path = .ok (repository, path)
  pull : policy.requirePullRequest repository = .ok repository
  branch : requireBranch request.head = .ok ()
  base : requireSha request.baseCommitSha = .ok ()
  blob : ∀ sha ∈ request.expectedBlobSha.filter (· ≠ ""), requireSha sha = .ok ()
  content : ∃ content, prContent u subject operation request = .ok content
  tree : ∃ files, host.tree repository request.baseCommitSha = some files ∧
    (files.lookup path).map host.blob = request.expectedBlobSha.filter (· ≠ "")

/-- Nobody has made the branch, the pull request or the record of a request. -/
structure Fresh (subject : Uuid) (operation repository path head : String) (s : Change) :
    Prop where
  branch : s.hub.branch? repository head = none
  pulls : s.hub.pullsOf repository head = []
  records : ∀ record ∈ s.records, record.dedupeKey ≠ changeKey subject operation repository path
  pending : s.pending = none

/-- The branch of a request exists, and no record of it. -/
structure Stuck (subject : Uuid) (operation repository path head : String) (s : Change) :
    Prop where
  branch : (s.hub.branch? repository head).isSome
  records : ∀ record ∈ s.records, record.dedupeKey ≠ changeKey subject operation repository path
  pending : s.pending = none

/-- There is one pull request and one record of a request, which is complete. -/
structure Done (subject : Uuid) (operation repository path head : String) (s : Change) :
    Prop where
  pulls : (s.hub.pullsOf repository head).length = 1
  records : s.records.countP (·.dedupeKey = changeKey subject operation repository path) = 1
  complete : ∃ record number url,
    s.records.find? (·.dedupeKey = changeKey subject operation repository path) = some record ∧
      record.external = some (number, url) ∧ record.details.commitSha ≠ ""
  pending : s.pending = none

/-- An attempt whose faults leave its record. -/
structure Faults.Lands (f : Faults) : Prop where
  branch : f.branch = .none
  file : f.file = .none
  pull : f.pull = .none
  flush : f.flush = false
  commit : f.commit ≠ .before

/-! ### Calls of GitHub -/

/-- What a request to GitHub that is not refused ends with. -/
def landed {α : Type} (fault : Fault) (s : Change) (hub : Hub) (a : α) : Except Exc α × Change :=
  match fault with
  | .none => (.ok a, { s with hub })
  | .before => (.error apiFailure, s)
  | .after => (.error apiFailure, { s with hub })

private theorem run_send {α : Type} {effect : Hub → Option (Hub × α)} {hub : Hub} {a : α}
    (h : effect s.hub = some (hub, a)) (fault : Fault) :
    (send fault effect).run s = landed fault s hub a := by
  unfold send Exec.run landed
  cases fault <;> simp [h]

private theorem run_send_refused {α : Type} {effect : Hub → Option (Hub × α)}
    (h : effect s.hub = none) (fault : Fault) :
    (send fault effect).run s = (.error apiFailure, s) := by
  unfold send Exec.run
  cases fault <;> simp [h]

private theorem run_bind_ofExcept {α β : Type} {x : Except Exc α} {a : α}
    {f : α → Exec Change Exc β} (h : x = .ok a) : (Exec.ofExcept x >>= f).run s = (f a).run s :=
  Exec.run_bind_of_ok (by rw [Exec.run_ofExcept, h])

private theorem run_createBranch (hpass : Passes u policy host subject operation repository path
    request) (fault : Fault) :
    (createBranch policy host fault repository request.head request.baseCommitSha).run s =
      (send fault (host.createRef repository request.head request.baseCommitSha)).run s := by
  unfold createBranch
  rw [run_bind_ofExcept hpass.pull, run_bind_ofExcept hpass.branch, run_bind_ofExcept hpass.base]

private theorem run_updateFile (hpass : Passes u policy host subject operation repository path
    request) (fault : Fault) :
    (updateFile policy host fault repository path request.head request.proposedContent
      request.expectedBlobSha).run s =
      (send fault (host.putContents repository path request.head request.proposedContent
        (request.expectedBlobSha.filter (· ≠ "")))).run s := by
  unfold updateFile
  rw [run_bind_ofExcept hpass.again]
  dsimp only
  split
  · next sha hsha =>
    rw [run_bind_ofExcept (hpass.blob sha hsha)]
  · rfl

/-! ### The effects of an attempt -/

private theorem createRef_of_none {hub : Hub} {name sha : String} {files : List (String × String)}
    (hnone : hub.branch? repository name = none) (htree : host.tree repository sha = some files) :
    ∃ after, host.createRef repository name sha hub = some (after, ()) ∧
      after.branch? repository name = some ⟨repository, name, files⟩ ∧ after.pulls = hub.pulls := by
  unfold Host.createRef
  rw [hnone, htree]
  refine ⟨_, rfl, ?_, rfl⟩
  unfold Hub.branch?
  rw [List.find?_cons_of_pos]
  exact decide_eq_true ⟨rfl, rfl⟩

private theorem createRef_of_isSome {hub : Hub} {name sha : String}
    (h : (hub.branch? repository name).isSome) :
    host.createRef repository name sha hub = none := if_pos h

/-- A write keeps the branches. -/
private theorem isSome_branch?_write {hub : Hub} {name : String} (p : Branch → Prop)
    [DecidablePred p] (content : String) (writes : Nat) (h : (hub.branch? repository name).isSome) :
    ({ hub with
        branches := hub.branches.map fun other ↦ if p other then other.write path content else other
        writes : Hub }.branch? repository name).isSome := by
  unfold Hub.branch? at h ⊢
  rw [List.find?_isSome] at h ⊢
  obtain ⟨branch, hmem, hname⟩ := h
  refine ⟨_, List.mem_map_of_mem hmem, ?_⟩
  split
  · exact hname
  · exact hname

private theorem putContents_of_branch {hub : Hub} {name : String} {sha : Option String}
    {branch : Branch} (content : String) (hbranch : hub.branch? repository name = some branch)
    (hblob : (branch.files.lookup path).map host.blob = sha) :
    ∃ after, host.putContents repository path name content sha hub =
        some (after, host.commitSha hub.writes) ∧
      (after.branch? repository name).isSome ∧ after.pulls = hub.pulls := by
  unfold Host.putContents
  rw [hbranch, Option.bind_some, if_neg (not_not.mpr hblob)]
  refine ⟨_, rfl, isSome_branch?_write _ _ _ ?_, rfl⟩
  rw [hbranch]
  rfl

private theorem createPull_of_branch {hub : Hub} {name : String} {pull : Created → Pull}
    (hpull : ∀ created, (pull created).repository = repository ∧ (pull created).head = name)
    (hbranch : (hub.branch? repository name).isSome) (hnone : hub.pullsOf repository name = []) :
    ∃ after created, host.createPull pull hub = some (after, created) ∧
      (after.branch? repository name).isSome ∧ (after.pullsOf repository name).length = 1 := by
  obtain ⟨hrepository, hhead⟩ := hpull (host.created hub.writes)
  unfold Host.createPull
  dsimp only
  rw [hrepository, hhead, if_neg]
  · refine ⟨_, _, rfl, hbranch, ?_⟩
    unfold Hub.pullsOf at hnone ⊢
    show (List.filter _ (pull (host.created hub.writes) :: hub.pulls)).length = 1
    rw [List.filter_cons_of_pos (by simp [hrepository, hhead]), hnone]
    rfl
  · rintro (h | h)
    · rw [Option.isNone_iff_eq_none] at h
      rw [h] at hbranch
      cases hbranch
    · exact h hnone

variable (u host) in
private theorem run_createPullRequest (hpull : policy.requirePullRequest repository = .ok repository)
    {content : GitHubPRContent} (hbranch : (s.hub.branch? repository content.head).isSome)
    (hnone : s.hub.pullsOf repository content.head = []) (fault : Fault) :
    ∃ (after : Hub) (created : Created),
      (after.branch? repository content.head).isSome ∧
      (after.pullsOf repository content.head).length = 1 ∧
      (createPullRequest u policy host fault repository content).run s = landed fault s after
        ⟨repository, created.number, created.url, content.head, content.base⟩ := by
  let pull (created : Created) : Pull :=
    { repository, head := content.head, base := content.base, title := redactText u content.title
      body := if marker.toList <:+: (redactText u content.body).toList then
        redactText u content.body else marker ++ "\n\n" ++ redactText u content.body
      draft := content.draft, created }
  obtain ⟨after, created, hcreate, hisSome, hlength⟩ :=
    @createPull_of_branch host repository s.hub content.head pull (fun _ ↦ ⟨rfl, rfl⟩) hbranch hnone
  have hsend := run_send hcreate fault
  refine ⟨after, created, hisSome, hlength, ?_⟩
  unfold createPullRequest
  rw [run_bind_ofExcept hpull]
  cases fault with
  | none => exact Exec.run_bind_of_ok hsend
  | before => exact Exec.run_bind_of_error hsend
  | after => exact Exec.run_bind_of_error hsend

/-- How the calls of an attempt may end, from a state without a branch. -/
inductive Proposed (subject : Uuid) (operation repository path head : String) (f : Faults)
    (s s' : Change) : Except Exc GitHubChangeProposalResponse → Prop
  | unsent (e : Exc) (hbranch : f.branch = .before) (hsame : s' = s) :
    Proposed subject operation repository path head f s s' (.error e)
  | stopped (e : Exc) (hbranch : f.branch ≠ .before)
    (hfault : ¬ (f.branch = .none ∧ f.file = .none ∧ f.pull = .none ∧ f.flush = false))
    (hstuck : Stuck subject operation repository path head s') :
    Proposed subject operation repository path head f s s' (.error e)
  | made (response : GitHubChangeProposalResponse) (record : ChangeRecord) (number : Nat)
    (url : String)
    (hfault : f.branch = .none ∧ f.file = .none ∧ f.pull = .none ∧ f.flush = false)
    (hbranch : (s'.hub.branch? repository head).isSome)
    (hpulls : (s'.hub.pullsOf repository head).length = 1) (hrecords : s'.records = s.records)
    (hpending : s'.pending = some record)
    (hkey : record.dedupeKey = changeKey subject operation repository path)
    (hexternal : record.external = some (number, url)) (hsha : record.details.commitSha ≠ "") :
    Proposed subject operation repository path head f s s' (.ok response)

private theorem head_prContent {content : GitHubPRContent}
    (h : prContent u subject operation request = .ok content) : content.head = request.head := by
  unfold prContent at h
  dsimp only at h
  split at h
  · cases h
    rfl
  · cases h

/-- The key of a request whose row is new is free. -/
private theorem any_key_eq_false {records : List ChangeRecord} {key : String}
    (h : ∀ record ∈ records, record.dedupeKey ≠ key) :
    records.any (·.dedupeKey = key) = false := by
  rw [List.any_eq_false]
  exact fun record hrecord ↦ by simpa using h record hrecord

/-- The record of a pull request has its number and address. -/
private theorem external_created {record : ChangeRecord} (created : Created)
    (hnumber : record.externalNumber = some created.number)
    (hurl : record.externalUrl = some created.url) :
    record.external = some (created.number, created.url) := by
  have hpos := created.number_pos
  unfold ChangeRecord.external
  have hfilter : (some created.number).filter (· ≠ 0) = some created.number :=
    Option.filter_some_pos (by simpa using Nat.ne_of_gt hpos)
  have hfilter' : (some created.url).filter (· ≠ "") = some created.url :=
    Option.filter_some_pos (by simpa using created.url_ne)
  rw [hnumber, hurl, hfilter, hfilter']
  rfl

private theorem proposed_of_fresh (hpass : Passes u policy host subject operation repository path
    request) (hfresh : Fresh subject operation repository path request.head s) (f : Faults) :
    Proposed subject operation repository path request.head f s
      ((propose u policy host f subject operation repository path
        (changeKey subject operation repository path) request).run s).2
      ((propose u policy host f subject operation repository path
        (changeKey subject operation repository path) request).run s).1 := by
  obtain ⟨content, hcontent⟩ := hpass.content
  obtain ⟨files, htree, hblob⟩ := hpass.tree
  obtain ⟨made, hmade, hexists, hpulls₁⟩ := createRef_of_none hfresh.branch htree
  have hcreate := (run_createBranch hpass f.branch).trans (run_send hmade f.branch)
  unfold propose
  cases hbranch : f.branch with
  | before =>
    rw [hbranch] at hcreate
    rw [Exec.run_bind_of_error hcreate]
    exact .unsent _ hbranch rfl
  | after =>
    rw [hbranch] at hcreate
    rw [Exec.run_bind_of_error hcreate]
    exact .stopped _ (by simp [hbranch]) (by simp [hbranch])
      ⟨by rw [hexists]; rfl, hfresh.records, hfresh.pending⟩
  | none =>
    rw [hbranch] at hcreate
    rw [Exec.run_bind_of_ok hcreate]
    obtain ⟨written, hput, hisSome, hpulls₂⟩ := putContents_of_branch request.proposedContent
      hexists hblob
    have hupdate := (run_updateFile (s := { s with hub := made }) hpass f.file).trans
      (run_send hput f.file)
    cases hfile : f.file with
    | before =>
      rw [hfile] at hupdate
      rw [Exec.run_bind_of_error hupdate]
      exact .stopped _ (by simp [hbranch]) (by simp [hfile])
        ⟨by rw [hexists]; rfl, hfresh.records, hfresh.pending⟩
    | after =>
      rw [hfile] at hupdate
      rw [Exec.run_bind_of_error hupdate]
      exact .stopped _ (by simp [hbranch]) (by simp [hfile])
        ⟨hisSome, hfresh.records, hfresh.pending⟩
    | none =>
      rw [hfile] at hupdate
      rw [Exec.run_bind_of_ok hupdate, run_bind_ofExcept hcontent]
      have hnopulls : written.pullsOf repository request.head = [] := by
        unfold Hub.pullsOf
        rw [hpulls₂, hpulls₁]
        exact hfresh.pulls
      have hhead := head_prContent hcontent
      rw [← hhead] at hisSome hnopulls
      obtain ⟨after, created, hisSome', hlength, hpull⟩ := run_createPullRequest u host
        (s := { s with hub := written }) hpass.pull hisSome hnopulls f.pull
      rw [hhead] at hisSome hisSome' hlength
      cases hpullFault : f.pull with
      | before =>
        rw [hpullFault] at hpull
        rw [Exec.run_bind_of_error hpull]
        exact .stopped _ (by simp [hbranch]) (by simp [hpullFault])
          ⟨hisSome, hfresh.records, hfresh.pending⟩
      | after =>
        rw [hpullFault] at hpull
        rw [Exec.run_bind_of_error hpull]
        exact .stopped _ (by simp [hbranch]) (by simp [hpullFault])
          ⟨hisSome', hfresh.records, hfresh.pending⟩
      | none =>
        rw [hpullFault] at hpull
        have hfree := any_key_eq_false hfresh.records
        rw [Exec.run_bind_of_ok hpull, Exec.run_bind_of_ok (Exec.run_read _ _), hfree]
        cases hflush : f.flush with
        | true =>
          rw [Exec.run_bind_of_error (Exec.run_require _ _ _)]
          exact .stopped _ (by simp [hbranch]) (by simp [hflush])
            ⟨hisSome', hfresh.records, hfresh.pending⟩
        | false =>
          rw [Exec.run_bind_require ⟨rfl, rfl⟩]
          exact .made _ _ created.number created.url ⟨hbranch, hfile, hpullFault, hflush⟩ hisSome'
            hlength rfl rfl rfl (external_created _ rfl rfl) (host.commitSha_ne _)

/-! ### Attempts -/

private theorem find?_key_eq_none {records : List ChangeRecord} {key : String}
    (h : ∀ record ∈ records, record.dedupeKey ≠ key) :
    records.find? (·.dedupeKey = key) = none := by
  rw [List.find?_eq_none]
  exact fun record hrecord ↦ by simpa using h record hrecord

/-- Without a record `create_once` calls GitHub. -/
private theorem run_createOnce_of_none (hpass : Passes u policy host subject operation repository path
    request) (f : Faults) (hnone : ∀ record ∈ s.records,
      record.dedupeKey ≠ changeKey subject operation repository path) :
    (createOnce u policy host f subject operation request).run s =
      (propose u policy host f subject operation repository path
        (changeKey subject operation repository path) request).run s := by
  unfold createOnce
  rw [run_bind_ofExcept hpass.write]
  dsimp only
  rw [Exec.run_bind_of_ok (Exec.run_read _ _), find?_key_eq_none hnone]
  rfl

private theorem attempt_fresh (hpass : Passes u policy host subject operation repository path request)
    (h : Fresh subject operation repository path request.head s) (f : Faults) :
    (f.branch = .before → Fresh subject operation repository path request.head
        (attempt u policy host subject operation request s f).1) ∧
      (f.branch ≠ .before → ¬ f.Lands → Stuck subject operation repository path request.head
        (attempt u policy host subject operation request s f).1) ∧
      (f.Lands → Done subject operation repository path request.head
          (attempt u policy host subject operation request s f).1) ∧
      (f.Lands → f.commit = .none → ∃ response,
        (attempt u policy host subject operation request s f).2 = .ok response) := by
  have hproposed := proposed_of_fresh hpass h f
  unfold attempt
  rw [run_createOnce_of_none hpass f h.records]
  generalize (propose u policy host f subject operation repository path
    (changeKey subject operation repository path) request).run s = result at *
  obtain ⟨answer, s'⟩ := result
  dsimp only at hproposed
  cases hproposed with
  | unsent e hbranch hsame =>
    subst hsame
    have hlands : ¬ f.Lands := fun hlands ↦ by
      have hnone := hlands.branch
      rw [hbranch] at hnone
      cases hnone
    exact ⟨fun _ ↦ ⟨h.branch, h.pulls, h.records, rfl⟩, fun hne ↦ absurd hbranch hne,
      fun hland ↦ absurd hland hlands, fun hland ↦ absurd hland hlands⟩
  | stopped e hbranch hfault hstuck =>
    have hlands : ¬ f.Lands := fun hlands ↦
      hfault ⟨hlands.branch, hlands.file, hlands.pull, hlands.flush⟩
    exact ⟨fun hbefore ↦ absurd hbefore hbranch,
      fun _ _ ↦ ⟨hstuck.branch, hstuck.records, rfl⟩,
      fun hland ↦ absurd hland hlands, fun hland ↦ absurd hland hlands⟩
  | made response record number url hfault hbranch hpulls hrecords hpending hkey hexternal hsha =>
    have hdone : Done subject operation repository path request.head
        { s' with records := s'.records ++ s'.pending.toList, pending := none } := by
      have hnone : s.records.countP
          (·.dedupeKey = changeKey subject operation repository path) = 0 := by
        rw [List.countP_eq_zero]
        exact fun other hother ↦ by simpa using h.records other hother
      refine ⟨hpulls, ?_, ⟨record, number, url, ?_, hexternal, hsha⟩, rfl⟩
      · rw [hrecords, hpending, List.countP_append, hnone]
        simp [hkey]
      · rw [hrecords, hpending, List.find?_append, find?_key_eq_none h.records]
        simp [hkey]
    have hbefore : f.branch ≠ .before := by
      rw [hfault.1]
      decide
    cases hcommit : f.commit with
    | none =>
      have hlands : f.Lands := ⟨hfault.1, hfault.2.1, hfault.2.2.1, hfault.2.2.2, by simp [hcommit]⟩
      exact ⟨fun hb ↦ absurd hb hbefore, fun _ hnot ↦ absurd hlands hnot, fun _ ↦ hdone,
        fun _ _ ↦ ⟨response, rfl⟩⟩
    | before =>
      have hlands : ¬ f.Lands := fun hlands ↦ hlands.commit hcommit
      refine ⟨fun hb ↦ absurd hb hbefore, fun _ _ ↦ ⟨hbranch, ?_, rfl⟩,
        fun hland ↦ absurd hland hlands, fun hland ↦ absurd hland hlands⟩
      show ∀ other ∈ s'.records, _
      rw [hrecords]
      exact h.records
    | after =>
      have hlands : f.Lands := ⟨hfault.1, hfault.2.1, hfault.2.2.1, hfault.2.2.2, by simp [hcommit]⟩
      exact ⟨fun hb ↦ absurd hb hbefore, fun _ hnot ↦ absurd hlands hnot, fun _ ↦ hdone,
        fun _ hnone ↦ by cases hnone⟩

/-- A branch that is there refuses every attempt. -/
private theorem attempt_stuck (hpass : Passes u policy host subject operation repository path request)
    (h : Stuck subject operation repository path request.head s) (f : Faults) :
    Stuck subject operation repository path request.head
        (attempt u policy host subject operation request s f).1 ∧
      ∃ e, (attempt u policy host subject operation request s f).2 = .error e := by
  have hrefused := (run_createBranch hpass f.branch).trans
    (run_send_refused (@createRef_of_isSome host repository s.hub request.head
      request.baseCommitSha h.branch) f.branch)
  unfold attempt
  rw [run_createOnce_of_none hpass f h.records]
  unfold propose
  rw [Exec.run_bind_of_error hrefused]
  exact ⟨⟨h.branch, h.records, rfl⟩, _, rfl⟩

/-- A complete record answers every attempt. -/
private theorem attempt_done (hpass : Passes u policy host subject operation repository path request)
    (h : Done subject operation repository path request.head s) (f : Faults) :
    Done subject operation repository path request.head
        (attempt u policy host subject operation request s f).1 ∧
      (f.commit = .none → ∃ response,
        (attempt u policy host subject operation request s f).2 = .ok response) := by
  obtain ⟨record, number, url, hfind, hexternal, hsha⟩ := h.complete
  have hrun : (createOnce u policy host f subject operation request).run s =
      (.ok ⟨subject.text, path, record.details.commitSha,
        ⟨record.repository, number, url, record.details.head, record.details.base⟩, false⟩, s) := by
    unfold createOnce
    rw [run_bind_ofExcept hpass.write]
    dsimp only
    rw [Exec.run_bind_of_ok (Exec.run_read _ _), hfind]
    simp only [Option.bind_some, hexternal, Option.map_some]
    rw [Exec.run_bind_require hsha]
    rfl
  have hstored : Done subject operation repository path request.head
      { s with records := s.records ++ s.pending.toList, pending := none } := by
    have hsame : s.records ++ s.pending.toList = s.records := by
      rw [h.pending]
      exact List.append_nil _
    rw [hsame]
    exact ⟨h.pulls, h.records, h.complete, rfl⟩
  unfold attempt
  rw [hrun]
  cases hcommit : f.commit with
  | none => exact ⟨hstored, fun _ ↦ ⟨_, rfl⟩⟩
  | before => exact ⟨⟨h.pulls, h.records, h.complete, rfl⟩, fun hnone ↦ by cases hnone⟩
  | after => exact ⟨hstored, fun hnone ↦ by cases hnone⟩

/-! ### Retries -/

variable (u policy host subject operation request) in
/-- The state after some attempts. -/
def after (s : Change) (attempts : List Faults) : Change :=
  attempts.foldl (fun s f ↦ (attempt u policy host subject operation request s f).1) s

/-- The first attempt that leaves a branch, if there is one, leaves its record. -/
def Resumable (attempts : List Faults) : Prop :=
  ∀ f ∈ attempts.find? (·.branch ≠ .before), f.Lands

/-- A retry without faults completes, with one pull request and one record. -/
structure Completes (u : Unicode) (policy : GitHubAutomationPolicy) (host : Host) (subject : Uuid)
    (operation repository path : String) (request : GitHubChangeProposalRequest) (s : Change) :
    Prop where
  answers : ∃ response, (attempt u policy host subject operation request s {}).2 = .ok response
  pulls : ((attempt u policy host subject operation request s {}).1.hub.pullsOf repository
    request.head).length = 1
  records : (attempt u policy host subject operation request s {}).1.records.countP
    (·.dedupeKey = changeKey subject operation repository path) = 1

private theorem after_stuck (hpass : Passes u policy host subject operation repository path request)
    (attempts : List Faults) : ∀ {s : Change},
    Stuck subject operation repository path request.head s →
      Stuck subject operation repository path request.head
        (after u policy host subject operation request s attempts) := by
  induction attempts with
  | nil => exact fun h ↦ h
  | cons f rest ih => exact fun h ↦ ih (attempt_stuck hpass h f).1

private theorem after_done (hpass : Passes u policy host subject operation repository path request)
    (attempts : List Faults) : ∀ {s : Change},
    Done subject operation repository path request.head s →
      Done subject operation repository path request.head
        (after u policy host subject operation request s attempts) := by
  induction attempts with
  | nil => exact fun h ↦ h
  | cons f rest ih => exact fun h ↦ ih (attempt_done hpass h f).1

private theorem lands_default : ({} : Faults).Lands := ⟨rfl, rfl, rfl, rfl, nofun⟩

private theorem completes_of_done (hpass : Passes u policy host subject operation repository path
    request) (h : Done subject operation repository path request.head s) :
    Completes u policy host subject operation repository path request s :=
  have hattempt := attempt_done hpass h {}
  ⟨hattempt.2 rfl, hattempt.1.pulls, hattempt.1.records⟩

private theorem completes_of_fresh (hpass : Passes u policy host subject operation repository path
    request) (h : Fresh subject operation repository path request.head s) :
    Completes u policy host subject operation repository path request s := by
  obtain ⟨-, -, hdone, hanswers⟩ := attempt_fresh hpass h {}
  exact ⟨hanswers lands_default rfl, (hdone lands_default).pulls, (hdone lands_default).records⟩

private theorem not_completes_of_stuck (hpass : Passes u policy host subject operation repository
    path request) (h : Stuck subject operation repository path request.head s) :
    ¬ Completes u policy host subject operation repository path request s := by
  rintro ⟨⟨response, hanswer⟩, -, -⟩
  obtain ⟨e, he⟩ := (attempt_stuck hpass h {}).2
  rw [hanswer] at he
  cases he

/-- A retry completes exactly if the first attempt that left a branch left its record. -/
theorem completes_iff (hpass : Passes u policy host subject operation repository path request)
    (hfresh : Fresh subject operation repository path request.head s) (attempts : List Faults) :
    Completes u policy host subject operation repository path request
        (after u policy host subject operation request s attempts) ↔ Resumable attempts := by
  induction attempts generalizing s with
  | nil => exact iff_of_true (completes_of_fresh hpass hfresh) nofun
  | cons f rest ih =>
    obtain ⟨hunsent, hstuck, hdone, -⟩ := attempt_fresh hpass hfresh f
    unfold Resumable
    by_cases hbefore : f.branch = .before
    · rw [List.find?_cons_of_neg (by simp [hbefore])]
      exact ih (hunsent hbefore)
    · rw [List.find?_cons_of_pos (by simp [hbefore])]
      by_cases hlands : f.Lands
      · refine iff_of_true (completes_of_done hpass (after_done hpass rest (hdone hlands))) ?_
        exact fun other hother ↦ Option.mem_some.mp hother ▸ hlands
      · refine iff_of_false (not_completes_of_stuck hpass
          (after_stuck hpass rest (hstuck hbefore hlands))) fun h ↦ hlands (h f rfl)

/-! ### A patch of a manifest -/

private def manifestPolicy : GitHubAutomationPolicy :=
  ⟨["acme/demo"], [("acme/demo", ["gitops/*.yaml"])]⟩

private def finding : Uuid := ⟨"6f1c2e1a-0000-4000-8000-000000000002", by decide +kernel⟩

private theorem demoUrl_ne : "https://github.com/acme/demo/pull/1" ≠ "" := by decide

private theorem demoNumber_pos (n : Nat) : 1 ≤ n + 1 := Nat.le_add_left 1 n

private theorem demoSha_ne : "c0ffee0" ≠ "" := by decide

private def demoHost : Host where
  tree repository sha :=
    if repository = "acme/demo" ∧ sha = "0a1b2c3" then some [("gitops/values.yaml", "cpu: 100m")]
    else none
  blob content := if content = "cpu: 100m" then "1111111" else "2222222"
  commitSha _ := "c0ffee0"
  created n := ⟨n + 1, "https://github.com/acme/demo/pull/1", demoNumber_pos n, demoUrl_ne⟩
  commitSha_ne _ := demoSha_ne

private theorem demoBase_length : 1 ≤ "main".length ∧ "main".length ≤ 255 := by decide

private theorem demoHead_length :
    12 ≤ "cloudward/finops-1".length ∧ "cloudward/finops-1".length ≤ 255 := by decide

private theorem demoTitle_length : 1 ≤ "[CloudWard] Right-size api".length ∧
    "[CloudWard] Right-size api".length ≤ 200 := by decide

private def demoPatch : GitHubChangeProposalRequest where
  repository := "acme/demo"
  path := "gitops/values.yaml"
  base := "main"
  baseCommitSha := "0a1b2c3"
  head := "cloudward/finops-1"
  expectedBlobSha := some "1111111"
  proposedContent := "cpu: 50m"
  commitMessage := "cloudward: right-size api"
  title := "[CloudWard] Right-size api"
  reason := "Low usage"
  currentState := .null
  proposedState := .null
  evidence := .null
  riskScore := 20
  verificationPlan := "Watch restarts"
  rollbackPlan := "Revert"
  base_length := demoBase_length
  head_length := demoHead_length
  title_length := demoTitle_length

private theorem passes_demoPatch : Passes bareTable manifestPolicy demoHost finding "finops"
    "acme/demo" "gitops/values.yaml" demoPatch where
  write := by decide +kernel
  again := by decide +kernel
  pull := by decide +kernel
  branch := by decide +kernel
  base := by decide +kernel
  blob := by decide +kernel
  content := by
    have hlength : 1 ≤ (changePrBody bareTable finding "finops" demoPatch).length ∧
        (changePrBody bareTable finding "finops" demoPatch).length ≤ 20000 := by decide +kernel
    unfold prContent
    exact ⟨_, dif_pos hlength⟩
  tree := ⟨[("gitops/values.yaml", "cpu: 100m")], by decide +kernel, by decide +kernel⟩

private theorem fresh_empty (subject : Uuid) (operation repository path head : String) :
    Fresh subject operation repository path head {} := ⟨rfl, rfl, nofun, rfl⟩

theorem completes_iff_demoPatch :
    Completes bareTable manifestPolicy demoHost finding "finops" "acme/demo" "gitops/values.yaml"
        demoPatch (after bareTable manifestPolicy demoHost finding "finops" demoPatch {}
          [{ branch := .before }, { commit := .after }]) ↔
      Resumable [{ branch := .before }, { commit := .after }] :=
  completes_iff passes_demoPatch (fresh_empty ..) _

/-- A file that was not written leaves a branch that refuses every retry. -/
theorem not_completes_unwritten :
    ¬ Completes bareTable manifestPolicy demoHost finding "finops" "acme/demo"
      "gitops/values.yaml" demoPatch
        (after bareTable manifestPolicy demoHost finding "finops" demoPatch {}
          [{ file := .before }]) := by
  obtain ⟨-, hstuck, -, -⟩ := attempt_fresh passes_demoPatch
    (fresh_empty finding "finops" "acme/demo" "gitops/values.yaml" demoPatch.head)
    { file := .before }
  exact not_completes_of_stuck passes_demoPatch (hstuck nofun fun h ↦ nomatch h.file)

end CloudWard.Github
