import CloudWard.Github.Service
import CloudWard.Logic.Runs
import Mathlib.Data.List.Pairwise

/-!
# Issues at GitHub

An issue exists from the call of `create_once` on, the record that keeps a second call away only
from the commit on. Between the two lies all that can go wrong: another request of the pair, and a
transaction that fails. Requests that do neither create one issue for a pair.
-/

namespace CloudWard.Github

open CloudWard.Logic CloudWard.Security Python

variable {u : Unicode} {issueRepositories : List String} {s : Automation} {n : Nat} {a b : Session}

/-! ### Keys -/

private theorem append_inj {front mid a a' b b' : String} (hlength : a.length = a'.length)
    (h : front ++ a ++ mid ++ b = front ++ a' ++ mid ++ b') : a = a' ∧ b = b' := by
  have hlist := congrArg String.toList h
  simp only [String.toList_append, List.append_assoc] at hlist
  obtain ⟨-, hrest⟩ := List.append_inj hlist rfl
  obtain ⟨ha, hrest⟩ := List.append_inj hrest (by
    rwa [String.length_toList, String.length_toList])
  obtain ⟨-, hb⟩ := List.append_inj hrest rfl
  exact ⟨String.toList_inj.mp ha, String.toList_inj.mp hb⟩

/-- A key has one pair. -/
theorem dedupeKey_inj {incident incident' : Uuid} {repository repository' : String}
    (h : dedupeKey incident repository = dedupeKey incident' repository') :
    incident = incident' ∧ repository = repository' := by
  obtain ⟨htext, hrepository⟩ :=
    append_inj (incident.length_text.trans incident'.length_text.symm) h
  rcases incident with ⟨text, _⟩
  rcases incident' with ⟨text', _⟩
  obtain rfl : text = text' := htext
  exact ⟨rfl, hrepository⟩

/-- The issue is one for the session's pair. -/
def Session.Owns (a : Session) (issue : Issue) : Prop :=
  issue.incident = a.incident ∧ issue.repository = a.repository

theorem Session.owns_issue (a : Session) (created : Created) : a.Owns (a.issue created) :=
  ⟨rfl, rfl⟩

theorem Session.Owns.key {issue : Issue} (h : a.Owns issue) :
    dedupeKey issue.incident issue.repository = a.key := by
  rw [h.1, h.2, Session.key]

theorem Session.owns_of_key {issue : Issue}
    (h : dedupeKey issue.incident issue.repository = a.key) : a.Owns issue :=
  dedupeKey_inj h

/-- The record of an issue. -/
structure GitHubAutomationRecord.Keeps (record : GitHubAutomationRecord) (issue : Issue) :
    Prop where
  key : record.dedupeKey = Github.dedupeKey issue.incident issue.repository
  repository : record.repository = issue.repository
  number : record.externalNumber = some issue.created.number
  url : record.externalUrl = some issue.created.url

/-- The record of an issue leads to it. -/
theorem GitHubAutomationRecord.Keeps.result {record : GitHubAutomationRecord} {issue : Issue}
    (h : record.Keeps issue) :
    record.result = some ⟨issue.repository, issue.created.number, issue.created.url,
      (record.title.filter (· ≠ "")).getD "CloudWard incident"⟩ := by
  have hnumber : (some issue.created.number).filter (· ≠ 0) = some issue.created.number := by
    have := issue.created.number_pos
    rw [Option.filter_eq_some_iff]
    exact ⟨rfl, decide_eq_true (by omega)⟩
  have hurl : (some issue.created.url).filter (· ≠ "") = some issue.created.url := by
    rw [Option.filter_eq_some_iff]
    exact ⟨rfl, decide_eq_true issue.created.url_ne⟩
  unfold GitHubAutomationRecord.result
  rw [h.number, h.url, hnumber, hurl, h.repository]
  rfl

theorem keeps_record (u : Unicode) (a : Session) (created : Created) :
    (a.record u none created).Keeps (a.issue created) :=
  ⟨rfl, rfl, rfl, rfl⟩

/-! ### Requests that do not overlap -/

/-- What is known of a session. -/
def Session.Sound (records : List GitHubAutomationRecord) (issues : List Issue) (a : Session) :
    Prop :=
  match a.phase with
  | .asked existing => existing = none ∧ (∀ record ∈ records, record.dedupeKey ≠ a.key) ∧
      ∀ issue ∈ issues, ¬ a.Owns issue
  | .called existing created => existing = none ∧
      (∀ record ∈ records, record.dedupeKey ≠ a.key) ∧ a.issue created ∈ issues
  | .flushed existing created => existing = none ∧
      (∀ record ∈ records, record.dedupeKey ≠ a.key) ∧ a.issue created ∈ issues
  | .ended (some answer) => ∃ issue ∈ issues, a.Owns issue ∧
      answer.issue.number = issue.created.number ∧ answer.issue.url = issue.created.url
  | .ended none => True

/-- What requests keep that do not overlap. -/
structure Automation.Safe (s : Automation) : Prop where
  alone : ∀ (m n : Nat) (a b : Session), s.sessions[m]? = some a → s.sessions[n]? = some b → a.running →
    b.running → a.key = b.key → m = n
  sound : ∀ a ∈ s.sessions, a.Sound s.records s.issues
  kept : ∀ record ∈ s.records, ∃ issue ∈ s.issues, record.Keeps issue
  covered : ∀ issue ∈ s.issues, (∃ record ∈ s.records, record.Keeps issue) ∨
    ∃ a ∈ s.sessions, a.called ∧ a.Owns issue
  once : s.issues.Pairwise fun issue issue' ↦
    ¬ (issue.incident = issue'.incident ∧ issue.repository = issue'.repository)

private theorem mem_set {sessions : List Session} {a' : Session} (h : b ∈ sessions.set n a') :
    b = a' ∨ ∃ m, m ≠ n ∧ sessions[m]? = some b := by
  obtain ⟨m, hm⟩ := List.mem_iff_getElem?.mp h
  rw [List.getElem?_set] at hm
  split at hm
  · split at hm
    · exact .inl (Option.some.inj hm).symm
    · cases hm
  · next hne => exact .inr ⟨m, Ne.symm hne, hm⟩

/-- The other sessions stay. -/
private theorem mem_goTo {phase : Phase} (ha : s.sessions[n]? = some a) (hb : b ∈ s.sessions)
    (hne : b ≠ a) : b ∈ (s.goTo n a phase).sessions := by
  obtain ⟨m, hm⟩ := List.mem_iff_getElem?.mp hb
  have hmn : n ≠ m := by
    rintro rfl
    rw [ha] at hm
    exact hne (Option.some.inj hm).symm
  exact List.mem_iff_getElem?.mpr ⟨m, (List.getElem?_set_ne hmn).trans hm⟩

/-- One session goes on. -/
theorem Automation.Safe.goTo {records : List GitHubAutomationRecord} {issues : List Issue}
    {phase : Phase} (h : s.Safe) (ha : s.sessions[n]? = some a) (hrunning : a.running)
    (hself : ({ a with phase } : Session).Sound records issues)
    (hother : ∀ b ∈ s.sessions, (b.running → b.key ≠ a.key) → b.Sound records issues)
    (hkept : ∀ record ∈ records, ∃ issue ∈ issues, record.Keeps issue)
    (hcovered : ∀ issue ∈ issues, (∃ record ∈ records, record.Keeps issue) ∨
      ∃ b ∈ (s.goTo n a phase).sessions, b.called ∧ b.Owns issue)
    (honce : issues.Pairwise fun issue issue' ↦
      ¬ (issue.incident = issue'.incident ∧ issue.repository = issue'.repository)) :
    Safe { s.goTo n a phase with records, issues } := by
  have hold {m : Nat} {b : Session} (hm : (s.goTo n a phase).sessions[m]? = some b) :
      m = n ∧ b = { a with phase } ∨ m ≠ n ∧ s.sessions[m]? = some b := by
    change (s.sessions.set n { a with phase })[m]? = some b at hm
    rw [List.getElem?_set] at hm
    split at hm
    · next heq =>
      split at hm
      · exact .inl ⟨heq.symm, (Option.some.inj hm).symm⟩
      · cases hm
    · next hne => exact .inr ⟨Ne.symm hne, hm⟩
  constructor
  · intro m m' b b' hb hb' hrun hrun' hkey
    rcases hold hb with ⟨rfl, rfl⟩ | ⟨-, hm⟩
    · rcases hold hb' with ⟨rfl, rfl⟩ | ⟨-, hm'⟩
      · rfl
      · exact h.alone _ _ a b' ha hm' hrunning hrun' hkey
    · rcases hold hb' with ⟨rfl, rfl⟩ | ⟨-, hm'⟩
      · exact h.alone _ _ b a hm ha hrun hrunning hkey
      · exact h.alone _ _ b b' hm hm' hrun hrun' hkey
  · intro b hb
    rcases mem_set hb with rfl | ⟨m, hne, hm⟩
    · exact hself
    · apply hother b (List.mem_of_getElem? hm)
      intro hrun hkey
      exact hne (h.alone m n b a hm ha hrun hrunning hkey)
  · exact hkept
  · exact hcovered
  · exact honce

/-- A pair has one issue. -/
theorem Automation.Safe.eq_of_pair {issue issue' : Issue} (h : s.Safe) (hissue : issue ∈ s.issues)
    (hissue' : issue' ∈ s.issues) (hincident : issue.incident = issue'.incident)
    (hrepository : issue.repository = issue'.repository) : issue = issue' := by
  by_contra hne
  have : Std.Symm fun issue issue' : Issue ↦
      ¬ (issue.incident = issue'.incident ∧ issue.repository = issue'.repository) :=
    ⟨fun _ _ hdiffer hsame ↦ hdiffer ⟨hsame.1.symm, hsame.2.symm⟩⟩
  exact h.once.forall hissue hissue' hne ⟨hincident, hrepository⟩

/-- A session is gone when it fails before its call. -/
private theorem Automation.Safe.drop (h : s.Safe) (ha : s.sessions[n]? = some a)
    (hrunning : a.running) (hcalled : a.called = false) : (s.goTo n a (.ended none)).Safe := by
  apply h.goTo ha hrunning
  · trivial
  · exact fun b hb _ ↦ h.sound b hb
  · exact h.kept
  · intro issue hissue
    rcases h.covered issue hissue with hrecord | ⟨b, hb, hbcalled, howns⟩
    · exact .inl hrecord
    · refine .inr ⟨b, mem_goTo ha hb ?_, hbcalled, howns⟩
      rintro rfl
      rw [hcalled] at hbcalled
      cases hbcalled
  · exact h.once

/-- GitHub answers a call. -/
private theorem Automation.Safe.call {existing : Option GitHubAutomationRecord} {created : Created}
    (h : s.Safe) (ha : s.sessions[n]? = some a) (hphase : a.phase = .asked existing) :
    Safe { s.goTo n a (.called existing created) with issues := a.issue created :: s.issues } := by
  have hsound := h.sound a (List.mem_of_getElem? ha)
  unfold Session.Sound at hsound
  rw [hphase] at hsound
  obtain ⟨hexisting, hrecords, hissues⟩ := hsound
  have hrunning : a.running := by
    unfold Session.running
    rw [hphase]
  have hn : n < s.sessions.length := (List.getElem?_eq_some_iff.mp ha).1
  apply h.goTo ha hrunning
  · exact ⟨hexisting, hrecords, List.mem_cons_self⟩
  · intro b hb hkey
    have hbsound := h.sound b hb
    unfold Session.Sound at hbsound ⊢
    unfold Session.running at hkey
    cases hb' : b.phase with
    | asked existing' =>
      rw [hb'] at hbsound hkey
      obtain ⟨hnone, hother, hown⟩ := hbsound
      refine ⟨hnone, hother, ?_⟩
      intro issue hissue howns
      rcases List.mem_cons.mp hissue with rfl | hissue
      · exact hkey rfl (howns.key.symm.trans (a.owns_issue created).key)
      · exact hown issue hissue howns
    | called existing' created' =>
      rw [hb'] at hbsound
      exact ⟨hbsound.1, hbsound.2.1, List.mem_cons_of_mem _ hbsound.2.2⟩
    | flushed existing' created' =>
      rw [hb'] at hbsound
      exact ⟨hbsound.1, hbsound.2.1, List.mem_cons_of_mem _ hbsound.2.2⟩
    | ended answer =>
      rw [hb'] at hbsound
      cases answer with
      | none => trivial
      | some answer =>
        obtain ⟨issue, hissue, howns⟩ := hbsound
        exact ⟨issue, List.mem_cons_of_mem _ hissue, howns⟩
  · intro record hrecord
    obtain ⟨issue, hissue, hkeeps⟩ := h.kept record hrecord
    exact ⟨issue, List.mem_cons_of_mem _ hissue, hkeeps⟩
  · intro issue hissue
    rcases List.mem_cons.mp hissue with rfl | hissue
    · exact .inr ⟨_, List.mem_set hn _, rfl, a.owns_issue created⟩
    · rcases h.covered issue hissue with hrecord | ⟨b, hb, hcalled, howns⟩
      · exact .inl hrecord
      · refine .inr ⟨b, mem_goTo ha hb ?_, hcalled, howns⟩
        rintro rfl
        unfold Session.called at hcalled
        rw [hphase] at hcalled
        cases hcalled
  · refine List.pairwise_cons.mpr ⟨?_, h.once⟩
    rintro issue hissue ⟨hincident, hrepository⟩
    exact hissues issue hissue ⟨hincident.symm, hrepository.symm⟩

/-- A record is written. -/
private theorem Automation.Safe.flush {existing : Option GitHubAutomationRecord}
    {created : Created} (h : s.Safe) (ha : s.sessions[n]? = some a)
    (hphase : a.phase = .called existing created) :
    (Github.flush s n a existing created).Safe := by
  have hsound := h.sound a (List.mem_of_getElem? ha)
  unfold Session.Sound at hsound
  rw [hphase] at hsound
  have hrunning : a.running := by
    unfold Session.running
    rw [hphase]
  have hn : n < s.sessions.length := (List.getElem?_eq_some_iff.mp ha).1
  unfold Github.flush
  split
  · exact h
  split
  · next hconflict =>
    -- a record of the key would have kept the session from its call
    obtain ⟨record, hrecord, hkey⟩ := List.any_eq_true.mp hconflict.2
    exact absurd (of_decide_eq_true hkey) (hsound.2.1 record hrecord)
  · apply h.goTo ha hrunning
    · exact hsound
    · exact fun b hb _ ↦ h.sound b hb
    · exact h.kept
    · intro issue hissue
      rcases h.covered issue hissue with hrecord | ⟨b, hb, hcalled, howns⟩
      · exact .inl hrecord
      · right
        by_cases hne : b = a
        · subst hne
          exact ⟨_, List.mem_set hn _, rfl, howns⟩
        · exact ⟨b, mem_goTo ha hb hne, hcalled, howns⟩
    · exact h.once

/-- A record is committed. -/
private theorem Automation.Safe.commit {existing : Option GitHubAutomationRecord}
    {created : Created} (u : Unicode) (h : s.Safe) (ha : s.sessions[n]? = some a)
    (hphase : a.phase = .flushed existing created) :
    (Github.commit u s n a existing created).Safe := by
  have hsound := h.sound a (List.mem_of_getElem? ha)
  unfold Session.Sound at hsound
  rw [hphase] at hsound
  obtain ⟨rfl, hrecords, hissue⟩ := hsound
  have hrunning : a.running := by
    unfold Session.running
    rw [hphase]
  have hkeeps := keeps_record u a created
  have hmem : a.record u none created ∈ s.records ++ [a.record u none created] :=
    List.mem_append_right _ List.mem_cons_self
  apply h.goTo ha hrunning
  · exact ⟨_, hissue, a.owns_issue created, rfl, rfl⟩
  · intro b hb hkey
    have hbsound := h.sound b hb
    have hother (hrun : b.running) (hold : ∀ record ∈ s.records, record.dedupeKey ≠ b.key) :
        ∀ record ∈ s.records ++ [a.record u none created], record.dedupeKey ≠ b.key := by
      intro record hrecord
      rcases List.mem_append.mp hrecord with hrecord | hrecord
      · exact hold record hrecord
      · rw [List.mem_singleton.mp hrecord]
        exact Ne.symm (hkey hrun)
    unfold Session.Sound at hbsound ⊢
    unfold Session.running at hother
    cases hb' : b.phase with
    | asked existing' =>
      rw [hb'] at hbsound hother
      exact ⟨hbsound.1, hother rfl hbsound.2.1, hbsound.2.2⟩
    | called existing' created' =>
      rw [hb'] at hbsound hother
      exact ⟨hbsound.1, hother rfl hbsound.2.1, hbsound.2.2⟩
    | flushed existing' created' =>
      rw [hb'] at hbsound hother
      exact ⟨hbsound.1, hother rfl hbsound.2.1, hbsound.2.2⟩
    | ended answer =>
      rw [hb'] at hbsound
      cases answer with
      | none => trivial
      | some answer => exact hbsound
  · intro record hrecord
    rcases List.mem_append.mp hrecord with hrecord | hrecord
    · exact h.kept record hrecord
    · rw [List.mem_singleton.mp hrecord]
      exact ⟨_, hissue, hkeeps⟩
  · intro issue hissue'
    rcases h.covered issue hissue' with ⟨record, hrecord, hkept⟩ | ⟨b, hb, hcalled, howns⟩
    · exact .inl ⟨record, List.mem_append_left _ hrecord, hkept⟩
    · by_cases hne : b = a
      · rw [hne] at howns
        have heq : a.issue created = issue :=
          h.eq_of_pair hissue hissue' howns.1.symm howns.2.symm
        exact .inl ⟨_, hmem, heq ▸ hkeeps⟩
      · exact .inr ⟨b, mem_goTo ha hb hne, hcalled, howns⟩
  · exact h.once

/-- No request for a pair runs. -/
def Automation.Free (issueRepositories : List String) (s : Automation) (incident : Uuid)
    (repository : String) : Prop :=
  match requireIssueWrite issueRepositories repository with
  | .ok repository => ∀ a ∈ s.sessions, a.running → a.key ≠ dedupeKey incident repository
  | .error _ => True

/-- A request starts when none for its pair runs, and no transaction fails after its call. -/
def Orderly (issueRepositories : List String) (s : Automation) : Move → Prop
  | .request incident repository _ => s.Free issueRepositories incident repository
  | .fail n => ∀ a ∈ s.sessions[n]?, a.called = false
  | _ => True

/-- The issue of a pair for which no request runs has its record. -/
private theorem Automation.Safe.recorded {issue : Issue} (h : s.Safe) (hissue : issue ∈ s.issues)
    (hfree : ∀ a ∈ s.sessions, a.running → a.key ≠ dedupeKey issue.incident issue.repository) :
    ∃ record ∈ s.records, record.Keeps issue := by
  rcases h.covered issue hissue with hrecord | ⟨b, hb, hcalled, howns⟩
  · exact hrecord
  · have hrunning : b.running := by
      unfold Session.called at hcalled
      unfold Session.running
      split at hcalled
      · next hphase => rw [hphase]
      · next hphase => rw [hphase]
      · cases hcalled
    exact absurd howns.key.symm (hfree b hb hrunning)

instance (s : Automation) (incident : Uuid) (repository : String) :
    Decidable (s.Free issueRepositories incident repository) := by
  unfold Automation.Free
  split
  · infer_instance
  · infer_instance

instance (s : Automation) (move : Move) : Decidable (Orderly issueRepositories s move) := by
  unfold Orderly
  split
  · infer_instance
  · infer_instance
  · infer_instance

/-- What a select finds is the issue of the pair. -/
private theorem sound_select (h : s.Safe) {incident : Uuid} {repository : String}
    (content : GitHubIssueContent)
    (hnew : ∀ a ∈ s.sessions, a.running → a.key ≠ dedupeKey incident repository) :
    (⟨incident, repository, content, select s.records (dedupeKey incident repository)⟩ :
      Session).Sound s.records s.issues := by
  unfold select
  cases hfind : s.records.find? fun record ↦ record.dedupeKey = dedupeKey incident repository with
  | none =>
    have hrecords : ∀ record ∈ s.records, record.dedupeKey ≠ dedupeKey incident repository := by
      intro record hrecord hkey
      have := List.find?_eq_none.mp hfind record hrecord
      exact this (decide_eq_true hkey)
    refine ⟨rfl, hrecords, ?_⟩
    intro issue hissue howns
    obtain ⟨record, hrecord, hkeeps⟩ := h.recorded hissue (howns.key.symm ▸ hnew)
    exact hrecords record hrecord (hkeeps.key.trans howns.key)
  | some record =>
    have hkey : record.dedupeKey = dedupeKey incident repository := by
      simpa using List.find?_some hfind
    obtain ⟨issue, hissue, hkeeps⟩ := h.kept record (List.mem_of_find?_eq_some hfind)
    dsimp only
    rw [hkeeps.result]
    exact ⟨issue, hissue, Session.owns_of_key (hkeeps.key.symm.trans hkey), rfl, rfl⟩

/-- A request. -/
private theorem Automation.Safe.request (h : s.Safe) {incident : Uuid} {repository : String}
    {content : GitHubIssueContent} (hfree : s.Free issueRepositories incident repository) :
    (Github.request issueRepositories s incident repository content).Safe := by
  unfold Automation.Free at hfree
  unfold Github.request
  split
  · exact h
  · next repository hallowed =>
    rw [hallowed] at hfree
    have hsound := sound_select h content hfree
    have hold {m : Nat} {b a' : Session} (hm : (s.sessions ++ [a'])[m]? = some b) :
        s.sessions[m]? = some b ∨ m = s.sessions.length ∧ b = a' := by
      by_cases hlt : m < s.sessions.length
      · rw [List.getElem?_append_left hlt] at hm
        exact .inl hm
      · rw [List.getElem?_append_right (Nat.le_of_not_lt hlt)] at hm
        rw [List.getElem?_singleton] at hm
        split at hm
        · exact .inr ⟨by omega, (Option.some.inj hm).symm⟩
        · cases hm
    constructor
    · intro m m' b b' hb hb' hrun hrun' hkey
      rcases hold hb with hm | ⟨hm, rfl⟩
      · rcases hold hb' with hm' | ⟨hm', rfl⟩
        · exact h.alone m m' b b' hm hm' hrun hrun' hkey
        · exact absurd hkey (hfree b (List.mem_of_getElem? hm) hrun)
      · rcases hold hb' with hm' | ⟨hm', rfl⟩
        · exact absurd hkey.symm (hfree b' (List.mem_of_getElem? hm') hrun')
        · rw [hm, hm']
    · intro b hb
      rcases List.mem_append.mp hb with hb | hb
      · exact h.sound b hb
      · rw [List.mem_singleton.mp hb]
        exact hsound
    · exact h.kept
    · intro issue hissue
      rcases h.covered issue hissue with hrecord | ⟨b, hb, hcalled⟩
      · exact .inl hrecord
      · exact .inr ⟨b, List.mem_append_left _ hb, hcalled⟩
    · exact h.once

/-- What a session does in order. -/
private theorem Automation.Safe.advance (u : Unicode) (h : s.Safe) (ha : s.sessions[n]? = some a)
    {move : Move} (hfail : ∀ m, move = .fail m → a.called = false) :
    (Github.advance u s n a a.phase move).Safe := by
  have hrunning (hne : ∀ answer, a.phase ≠ .ended answer) : a.running := by
    unfold Session.running
    split
    · next answer hphase => exact absurd hphase (hne answer)
    · rfl
  unfold Github.advance
  split
  · next hphase => exact h.call ha hphase
  · next hphase =>
    apply h.drop ha
    · exact hrunning fun answer hended ↦ by cases hphase.symm.trans hended
    · unfold Session.called
      rw [hphase]
  · next hphase => exact h.flush ha hphase
  · next hphase => exact h.commit u ha hphase
  · exact h
  · next hne => exact h.drop ha (hrunning hne) (hfail _ rfl)
  · exact h

/-- One move in order. -/
theorem Automation.Safe.step (u : Unicode) (h : s.Safe) {move : Move}
    (hmove : Orderly issueRepositories s move) : (Github.step u issueRepositories s move).Safe := by
  have hadvance {n : Nat} {move : Move}
      (hfail : ∀ a ∈ s.sessions[n]?, ∀ m, move = .fail m → a.called = false) :
      (advanceAt u s n move).Safe := by
    unfold advanceAt
    split
    · exact h
    · next a ha => exact h.advance u ha (hfail a ha)
  cases move with
  | request incident repository content => exact h.request hmove
  | call n reply => exact hadvance fun _ _ _ heq ↦ by cases heq
  | flush n => exact hadvance fun _ _ _ heq ↦ by cases heq
  | commit n => exact hadvance fun _ _ _ heq ↦ by cases heq
  | fail n => exact hadvance fun a ha _ _ ↦ hmove a ha

theorem safe_initial : ({} : Automation).Safe := by
  constructor
  · intro m n a b ha
    cases ha
  · exact fun a ha ↦ absurd ha List.not_mem_nil
  · exact fun record hrecord ↦ absurd hrecord List.not_mem_nil
  · exact fun issue hissue ↦ absurd hissue List.not_mem_nil
  · exact List.Pairwise.nil

/-! ### One issue for a pair -/

/-- The issues of a pair. -/
def Automation.issuesOf (s : Automation) (incident : Uuid) (repository : String) : List Issue :=
  s.issues.filter fun issue ↦ issue.incident = incident ∧ issue.repository = repository

/-- A request ends with an issue that was there. -/
def Automation.Finds (issueRepositories : List String) (s : Automation) (issue : Issue)
    (repository : String) (content : GitHubIssueContent) : Prop :=
  ∃ title, request issueRepositories s issue.incident repository content =
    { s with sessions := s.sessions ++ [⟨issue.incident, issue.repository, content, .ended (some
      ⟨⟨issue.repository, issue.created.number, issue.created.url, title⟩, false⟩)⟩] }

/-- No pair has two issues, and a request for a pair that has one finds it. -/
structure Automation.CreatedOnce (issueRepositories : List String) (s : Automation) : Prop where
  once : ∀ incident repository, (s.issuesOf incident repository).length ≤ 1
  found : ∀ issue ∈ s.issues, ∀ repository content,
    requireIssueWrite issueRepositories repository = .ok issue.repository →
    s.Free issueRepositories issue.incident repository →
    s.Finds issueRepositories issue repository content

private theorem Automation.Safe.createdOnce (h : s.Safe) : s.CreatedOnce issueRepositories := by
  constructor
  · intro incident repository
    have hpair : ∀ issue ∈ s.issuesOf incident repository,
        issue.incident = incident ∧ issue.repository = repository :=
      fun issue hissue ↦ of_decide_eq_true (List.mem_filter.mp hissue).2
    have hpairwise : (s.issuesOf incident repository).Pairwise fun issue issue' ↦
        ¬ (issue.incident = issue'.incident ∧ issue.repository = issue'.repository) :=
      h.once.filter _
    rcases hissues : s.issuesOf incident repository with _ | ⟨issue, _ | ⟨issue', rest⟩⟩
    · exact Nat.zero_le 1
    · exact le_rfl
    · rw [hissues] at hpair hpairwise
      obtain ⟨hincident, hrepository⟩ := hpair issue List.mem_cons_self
      obtain ⟨hincident', hrepository'⟩ :=
        hpair issue' (List.mem_cons_of_mem _ List.mem_cons_self)
      exact absurd ⟨hincident.trans hincident'.symm, hrepository.trans hrepository'.symm⟩
        ((List.pairwise_cons.mp hpairwise).1 issue' List.mem_cons_self)
  · intro issue hissue repository content hallowed hfree
    unfold Automation.Free at hfree
    rw [hallowed] at hfree
    obtain ⟨record, hrecord, hkeeps⟩ := h.recorded hissue hfree
    obtain ⟨found, hfound⟩ : ∃ found, s.records.find? (fun record ↦
        record.dedupeKey = dedupeKey issue.incident issue.repository) = some found := by
      rw [← Option.isSome_iff_exists, List.find?_isSome]
      exact ⟨record, hrecord, decide_eq_true hkeeps.key⟩
    have hkey : found.dedupeKey = dedupeKey issue.incident issue.repository := by
      simpa using List.find?_some hfound
    obtain ⟨issue', hissue', hkeeps'⟩ := h.kept found (List.mem_of_find?_eq_some hfound)
    obtain ⟨hincident, hrepository⟩ := dedupeKey_inj (hkeeps'.key.symm.trans hkey)
    obtain rfl := h.eq_of_pair hissue' hissue hincident hrepository
    have hselect : select s.records (dedupeKey issue'.incident issue'.repository) =
        .ended (some ⟨⟨issue'.repository, issue'.created.number, issue'.created.url,
          (found.title.filter (· ≠ "")).getD "CloudWard incident"⟩, false⟩) := by
      unfold select
      rw [hfound]
      dsimp only
      rw [hkeeps'.result]
    refine ⟨(found.title.filter (· ≠ "")).getD "CloudWard incident", ?_⟩
    unfold Github.request
    rw [hallowed]
    dsimp only
    rw [hselect]

/-- In every run in which the requests for one pair do not overlap and no transaction fails after
its call, each pair has at most one issue, and a further request finds it. -/
theorem issue_created_once (u : Unicode) (issueRepositories : List String) (moves : List Move)
    (h : Runs.Along (step u issueRepositories) (Orderly issueRepositories) {} moves) :
    (Runs.run (step u issueRepositories) {} moves).CreatedOnce issueRepositories := by
  have hsafe : (Runs.run (step u issueRepositories) {} moves).Safe :=
    Runs.invariant_along (fun s move hs hmove ↦ hs.step u hmove) safe_initial h
  exact hsafe.createdOnce

private def asciiText : Unicode := ⟨fun _ ↦ false, fun _ ↦ none⟩

private def someIncident : Uuid := ⟨"6f1c2e1a-0000-4000-8000-000000000001", by decide +kernel⟩

private def someContent : GitHubIssueContent where
  title := "[CloudWard] API is down"
  body := "Created by CloudWard"
  labels := ["cloudward"]
  title_length := by decide
  body_length := by decide
  labels_length := by decide

/-- GitHub's answer to its first call, and to its second. -/
private def created (n : Nat) : Created where
  number := n + 1
  url := "https://github.com/acme/api/issues/1"
  number_pos := Nat.le_add_left _ _
  url_ne := by decide

private def asks : Move := .request someIncident " Acme/api " someContent

/-- One request after the other. -/
private def inTurn : List Move :=
  [asks, .call 0 none, asks, .call 1 (some (created 0)), .flush 1, .commit 1, asks]

theorem issue_created_once_inTurn :
    Runs.Along (step asciiText ["acme/api"]) (Orderly ["acme/api"]) {} inTurn ∧
      (Runs.run (step asciiText ["acme/api"]) {} inTurn).issues.length = 1 ∧
      (Runs.run (step asciiText ["acme/api"]) {} inTurn).CreatedOnce ["acme/api"] := by
  have halong : Runs.Along (step asciiText ["acme/api"]) (Orderly ["acme/api"]) {} inTurn := by
    decide +kernel
  exact ⟨halong, by decide +kernel, issue_created_once asciiText ["acme/api"] inTurn halong⟩

/-- Two requests at once, and a request after a transaction that failed after its call, create a
second issue. -/
theorem issue_created_twice :
    ¬ (Runs.run (step asciiText ["acme/api"]) {}
        [asks, asks, .call 0 (some (created 0)), .call 1 (some (created 1))]).CreatedOnce
          ["acme/api"] ∧
      ¬ (Runs.run (step asciiText ["acme/api"]) {}
        [asks, .call 0 (some (created 0)), .fail 0, asks, .call 1 (some (created 1))]).CreatedOnce
          ["acme/api"] := by
  constructor
  · intro h
    have hlength := h.once someIncident "acme/api"
    revert hlength
    decide +kernel
  · intro h
    have hlength := h.once someIncident "acme/api"
    revert hlength
    decide +kernel

end CloudWard.Github
