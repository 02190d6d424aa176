import CloudWard.Remediation.Writer

/-!
# What the image writer leaves on the branch

Whatever writes and pushes of others interleave and whatever fails, the branch of
`remediation/gitops.py` is only extended; each commit of the writer moves the tag as its call says
and nothing else; and what a call reports is on the branch for good.
-/

namespace CloudWard.Remediation.Writer

open CloudWard.Logic CloudWard.Logic.Branches CloudWard.Logic.Interleave Python
open CloudWard.Finops (Scalar Values Yaml dict?)

/-- The path of the tag. -/
def tagPath : List (Step Scalar) := imagePath ++ [.key (.str "tag")]

/-- The tag that a call takes away, and the one it puts there. -/
def Call.transition : Call → String × String
  | .deployControlledBad _ => (knownGoodTag, controlledBadTag)
  | .revertToKnownGood _ => (controlledBadTag, knownGoodTag)
  | .ensureKnownGood _ => (controlledBadTag, knownGoodTag)
  | .approvedRollback _ _ _ => (knownGoodTag, controlledBadTag)

/-- Only a rollback needs an approval. -/
def Call.approved : Call → Bool
  | .approvedRollback _ _ approved => approved
  | _ => true

/-- The tag of a revision is known to be a text. -/
def HasTag (yaml : Yaml) (revision : Revision Commit) (tag : String) : Prop :=
  ∃ base below bytes image, revision = base :: below ∧
    ValuesFile.resolved base.tree.values = .ok bytes ∧ loadValues yaml bytes = .ok image ∧
    image.tag = tag

/-- A commit has the files of the revision below it, less the values, and those are the dump of the
values there with another tag. -/
def Retags (yaml : Yaml) (parent : Revision Commit) (commit : Commit) (before after : String) :
    Prop :=
  ∃ base below bytes image new, parent = base :: below ∧
    base.tree.values = some (.regular bytes) ∧ loadValues yaml bytes = .ok image ∧
    image.tag = before ∧
    commit.tree = ⟨some (.regular (encode (yaml.safeDump new))), base.tree.others⟩ ∧
    new.find tagPath = some (.scalar (.str after)) ∧
    ∀ path, ¬ image.document.Takes image.address (· = .str "tag") path →
      new.view path = image.document.view path

/-- A push is one of an enabled writer, by an approved call, and moves the tag as the call says. -/
structure Written (yaml : Yaml) (p : Push Commit Writing) : Prop where
  enabled : p.label.settings.localGitopsWriteEnabled
  environment : p.label.settings.appEnv ∈ ["development", "test"]
  repository : p.label.settings.localGitopsRepoUrl = localRepositoryUrl
  approved : p.label.call.approved
  author : p.commit.author = writerName
  retags : Retags yaml p.parent p.commit p.label.call.transition.1 p.label.call.transition.2

/-- What a call reports of a branch. -/
structure Reported (yaml : Yaml) (result : GitOpsImageWriteResult) (head : Revision Commit) :
    Prop where
  visible : result.revision <:+ head
  same : result.changed = false → result.revision = result.previousRevision ∧
    result.previousTag = result.targetTag ∧ HasTag yaml result.revision result.targetTag
  other : result.changed = true → ∃ commit, result.revision = commit :: result.previousRevision ∧
    Retags yaml result.previousRevision commit result.previousTag result.targetTag

/-! ### One call -/

section Call

variable {yaml : Yaml} {writing : Writing} {answers : Answers} {plan : Plan} {base : Commit}

private theorem bind_eq_ok {α β : Type} {x : Except Failure α} {f : α → Except Failure β} {b : β}
    (h : x >>= f = .ok b) : ∃ a, x = .ok a ∧ f a = .ok b := by
  cases x with
  | error e => cases h
  | ok a => exact ⟨a, rfl, h⟩

private theorem available_eq_ok {settings : Settings} (h : available settings = .ok ()) :
    settings.localGitopsWriteEnabled ∧ settings.appEnv ∈ ["development", "test"] ∧
      settings.localGitopsRepoUrl = localRepositoryUrl := by
  unfold available at h
  split at h
  · cases h
  · next henabled =>
    split at h
    · cases h
    · next henvironment =>
      split at h
      · cases h
      · next hrepository =>
        exact ⟨not_not.mp henabled, not_not.mp henvironment, not_not.mp hrepository⟩

/-- Of the tags a plan expects, only one is not its target. -/
private theorem plan_spec {call : Call} (h : call.plan = .ok plan) :
    call.approved ∧ plan.targetTag = call.transition.2 ∧
      ∀ tag ∈ plan.expectedTags, tag ≠ plan.targetTag → tag = call.transition.1 := by
  cases call with
  | deployControlledBad id =>
    cases h
    simp [Call.approved, Call.transition]
  | revertToKnownGood id =>
    cases h
    simp [Call.approved, Call.transition]
  | ensureKnownGood id =>
    cases h
    simp [Call.approved, Call.transition]
  | approvedRollback id tag approved =>
    simp only [Call.plan] at h
    split at h
    · cases h
    · next hnot =>
      cases h
      simp only [not_or, Bool.not_eq_false] at hnot
      simp [Call.approved, Call.transition, hnot.1]

/-- Values that are loaded have their image at its place. -/
private theorem image_spec {bytes : List UInt8} {image : Image}
    (h : loadValues yaml bytes = .ok image) :
    image.document.nodes[image.address]? = some (.map image.entries) ∧
      image.document.find imagePath = some (.ref image.address) := by
  unfold loadValues at h
  split at h
  · cases h
  · split at h
    · cases h
    · cases h
    · next document _ =>
      split at h
      · cases h
      · next address entries hdict =>
        split at h
        · cases h
        · cases h
          unfold dict? at hdict
          split at hdict
          · next a hfind =>
            split at hdict
            · next found hnode =>
              cases hdict
              exact ⟨hnode, hfind⟩
            · cases hdict
          · cases hdict
        · cases h

/-- No step to the image is a tag. -/
private theorem not_takes_imagePath (document : Values) (address : Nat) :
    ¬ document.Takes address (· = .str "tag") imagePath := by
  rintro ⟨before, k, rest, hpath, rfl, -⟩
  have hmem : Step.key (Scalar.str "tag") ∈ imagePath := by
    rw [hpath]
    exact List.mem_append_right _ List.mem_cons_self
  simp [imagePath] at hmem

/-- Values with another tag are as they were but for the tag. -/
private theorem retagged_spec {bytes : List UInt8} {image : Image}
    (h : loadValues yaml bytes = .ok image) (tag : String) :
    (image.retagged tag).find tagPath = some (.scalar (.str tag)) ∧
      ∀ path, ¬ image.document.Takes image.address (· = .str "tag") path →
        (image.retagged tag).view path = image.document.view path := by
  obtain ⟨hnode, hfind⟩ := image_spec h
  have hkeys : ∀ k : Scalar, ¬ k = .str "tag" →
      (assign image.entries (.str "tag") (.scalar (.str tag))).lookup k = image.entries.lookup k := by
    intro k hk
    rw [lookup_assign, if_neg hk]
  constructor
  · apply Document.find_put_taken hnode
    · rw [Document.find_put hnode hkeys (not_takes_imagePath _ _), hfind]
    · rw [lookup_assign, if_pos rfl]
  · intro path hpath
    exact Document.view_put hnode hkeys hpath

private theorem loadValues_of_edited {result : String × Option Commit}
    (h : edited yaml answers plan base = .ok result) :
    ∃ bytes image, ValuesFile.resolved base.tree.values = .ok bytes ∧
      loadValues yaml bytes = .ok image ∧ image.tag = result.1 ∧ image.tag ∈ plan.expectedTags ∧
      ((image.tag = plan.targetTag ∧ result.2 = none) ∨
        image.tag ≠ plan.targetTag ∧ ∃ commit, result.2 = some commit ∧
          committed yaml answers plan base image = .ok commit) := by
  unfold edited at h
  obtain ⟨_, -, h⟩ := bind_eq_ok h
  obtain ⟨bytes, hbytes, h⟩ := bind_eq_ok h
  obtain ⟨image, himage, h⟩ := bind_eq_ok h
  refine ⟨bytes, image, hbytes, himage, ?_⟩
  split at h
  · cases h
  · next hexpected =>
    split at h
    · next htarget =>
      cases h
      exact ⟨rfl, not_not.mp hexpected, .inl ⟨htarget, rfl⟩⟩
    · next htarget =>
      split at h
      · cases h
      · obtain ⟨_, -, h⟩ := bind_eq_ok h
        obtain ⟨commit, hcommit, h⟩ := bind_eq_ok h
        obtain ⟨_, -, h⟩ := bind_eq_ok h
        cases h
        exact ⟨rfl, not_not.mp hexpected, .inr ⟨htarget, commit, rfl, hcommit⟩⟩

/-- A commit of the writer moves the tag and nothing else. -/
private theorem retags_of_committed (below : Revision Commit) {bytes : List UInt8} {image : Image}
    {commit : Commit} (hbytes : ValuesFile.resolved base.tree.values = .ok bytes)
    (himage : loadValues yaml bytes = .ok image)
    (h : committed yaml answers plan base image = .ok commit) :
    commit.author = writerName ∧
      Retags yaml (base :: below) commit image.tag plan.targetTag := by
  unfold committed at h
  obtain ⟨_, -, h⟩ := bind_eq_ok h
  dsimp only at h
  split at h
  · cases h
  · next hchanged =>
    cases h
    obtain ⟨htag, hrest⟩ := retagged_spec himage plan.targetTag
    have hregular : base.tree.values = some (.regular bytes) := by
      unfold ValuesFile.resolved at hbytes
      split at hbytes
      · next found hfound =>
        cases hbytes
        exact hfound
      · next found hfound =>
        refine absurd ?_ hchanged
        simp only [added, hfound]
      · cases hbytes
    refine ⟨rfl, base, below, bytes, image, image.retagged plan.targetTag, rfl, hregular, himage,
      rfl, ?_, htag, hrest⟩
    simp only [added, hregular]

/-- A commit that a call makes is a push it may make. -/
private theorem written_of_edited (below : Revision Commit)
    (hplan : writing.call.plan = .ok plan) (havailable : available writing.settings = .ok ())
    {tag : String} {commit : Commit} (h : edited yaml answers plan base = .ok (tag, some commit)) :
    Written yaml ⟨writing, base :: below, commit⟩ ∧
      Retags yaml (base :: below) commit tag plan.targetTag := by
  obtain ⟨bytes, image, hbytes, himage, htag, hexpected, hcase⟩ := loadValues_of_edited h
  rcases hcase with ⟨-, hnone⟩ | ⟨hne, commit', hcommit, hcommitted⟩
  · cases hnone
  · cases hcommit
    obtain ⟨hauthor, hretags⟩ := retags_of_committed below hbytes himage hcommitted
    obtain ⟨happroved, htarget, honly⟩ := plan_spec hplan
    obtain ⟨henabled, henvironment, hrepository⟩ := available_eq_ok havailable
    have hbefore := honly _ hexpected hne
    subst htag
    refine ⟨⟨henabled, henvironment, hrepository, happroved, hauthor, ?_⟩, hretags⟩
    rw [← hbefore, ← htarget]
    exact hretags

/-- Others may always push. -/
private theorem may_pushEffect {p : Push Commit Writing} (h : Written yaml p)
    (b : Branch Commit Writing) : (extending (Written yaml)).may b (pushEffect answers p b) := by
  unfold pushEffect
  split
  · exact may_pushed h b
  · exact (extending (Written yaml)).refl b
  · split
    · exact may_pushed h b
    · exact (extending (Written yaml)).refl b

/-- A push that answers well was taken. -/
private theorem head_of_pushAnswer {p : Push Commit Writing} {b : Branch Commit Writing}
    (h : pushAnswer answers p b = .ok ()) : (pushEffect answers p b).head = p.revision := by
  unfold pushAnswer at h
  obtain ⟨_, hgit, h⟩ := bind_eq_ok h
  split at h
  · next hsome =>
    obtain ⟨b', hpush⟩ := Option.isSome_iff_exists.mp hsome
    have hexited : answers.push = .exited := by
      unfold git at hgit
      split at hgit
      · assumption
      · cases hgit
      · cases hgit
      · cases hgit
    have heffect : pushEffect answers p b = b' := by
      simp only [pushEffect, hexited, Branch.pushed, hpush, Option.getD_some]
    rw [heffect]
    exact head_of_push hpush
  · cases h

/-- What is said of the result of a program. -/
private def Told (yaml : Yaml) (result : Except Failure GitOpsImageWriteResult)
    (b : Branch Commit Writing) : Prop :=
  ∀ r, result = .ok r → Reported yaml r b.head

private theorem told_error (e : Failure) (b : Branch Commit Writing) :
    Told yaml (.error e) b := by
  intro r h
  cases h

/-- A call only makes pushes that it may make, and reports what stays. -/
private theorem safe_write (yaml : Yaml) (writing : Writing) (answers : Answers)
    (b : Branch Commit Writing) :
    (write yaml writing answers).Safe (extending (Written yaml)) (Told yaml) b := by
  unfold write
  apply Resumption.safe_ofExcept_bind
  · intro plan hplan
    apply Resumption.safe_ofExcept_bind
    · intro _ havailable
      apply Resumption.safe_read_bind
      · intro b₁ _ cloned hcloned
        obtain ⟨base, below⟩ := cloned
        have hhead : b₁.head = base :: below := by
          obtain ⟨_, -, hcloned⟩ := bind_eq_ok hcloned
          split at hcloned
          · cases hcloned
          · next commit rest hhead =>
            cases hcloned
            exact hhead
        apply Resumption.safe_ofExcept_bind
        · intro result hedited
          obtain ⟨tag, commit⟩ := result
          cases commit with
          | none =>
            apply Resumption.safe_pure
            intro b₂ h₂ r hr
            cases hr
            obtain ⟨bytes, image, hbytes, himage, htag, -, hcase⟩ := loadValues_of_edited hedited
            rcases hcase with ⟨htarget, -⟩ | ⟨-, commit, hcommit, -⟩
            · subst htag
              refine ⟨hhead ▸ h₂.1, ?_, nofun⟩
              intro _
              exact ⟨rfl, htarget, base, below, bytes, image, rfl, hbytes, himage, htarget⟩
            · cases hcommit
          | some commit =>
            obtain ⟨hwritten, hretags⟩ := written_of_edited below hplan havailable hedited
            intro b₂ _
            refine ⟨may_pushEffect hwritten b₂, ?_⟩
            apply Resumption.safe_ofExcept_bind
            · intro _ hanswer
              have hpushed := head_of_pushAnswer hanswer
              apply Resumption.safe_read_bind
              · intro b₃ h₃ remote _
                have hvisible : commit :: base :: below <:+ b₃.head := by
                  have h := h₃.1
                  rw [hpushed] at h
                  exact h
                apply Resumption.safe_bind
                  (Q := fun _ b₄ ↦ commit :: base :: below <:+ b₄.head)
                · apply Resumption.safe_require
                  · exact fun _ b₄ h₄ ↦ hvisible.trans h₄.1
                  · exact fun _ b₄ h₄ ↦ hvisible.trans h₄.1
                · intro _ b₄ _ hstill
                  apply Resumption.safe_pure
                  intro b₅ h₅ r hr
                  cases hr
                  exact ⟨hstill.trans h₅.1, nofun, fun _ ↦ ⟨commit, rfl, hretags⟩⟩
                · exact fun e b₄ _ _ ↦ told_error e b₄
              · exact fun _ _ e _ b₄ _ ↦ told_error e b₄
            · exact fun e _ b₄ _ ↦ told_error e b₄
        · exact fun e _ b₂ _ ↦ told_error e b₂
      · exact fun _ _ e _ b₂ _ ↦ told_error e b₂
    · exact fun e _ b₁ _ ↦ told_error e b₁
  · exact fun e _ b₁ _ ↦ told_error e b₁

private theorem safe_program (yaml : Yaml) (input : Input) (b : Branch Commit Writing) :
    (program yaml input).Safe (extending (Written yaml)) (Told yaml) b := by
  cases input with
  | call writing answers => exact safe_write yaml writing answers b
  | others commits =>
    intro b₁ _
    exact ⟨may_extend b₁ commits, fun b₂ _ ↦ told_error _ b₂⟩

end Call

/-- **The branch is only extended**: in every interleaving of calls and of pushes of others,
whatever Git commands fail, time out or take effect unnoticed, all that was on the branch stays;
every commit of the writer is of an enabled writer and an approved call and moves the tag of the
revision below it as the call says, and nothing else; two of them never stand on one revision; and
what a call reports is on the branch. -/
theorem branch_kept (yaml : Yaml) (initial : Revision Commit) (moves : List (Move Input)) :
    initial <:+ (after yaml initial moves).store.head ∧
    (∀ p ∈ (after yaml initial moves).store.pushes,
      Written yaml p ∧ p.revision <:+ (after yaml initial moves).store.head) ∧
    (∀ p ∈ (after yaml initial moves).store.pushes, ∀ q ∈ (after yaml initial moves).store.pushes,
      p.parent = q.parent → p.commit = q.commit) ∧
    ∀ result, .done (.ok result) ∈ (after yaml initial moves).threads →
      Reported yaml result (after yaml initial moves).store.head := by
  have hstart : Pool.AllSafe (extending (Written yaml)) (Told yaml)
      (⟨⟨initial, []⟩, []⟩ : Pool (Branch Commit Writing) Failure GitOpsImageWriteResult) :=
    fun _ h ↦ absurd h List.not_mem_nil
  obtain ⟨⟨hhead, -, hkept⟩, hsafe⟩ := hstart.run (C := fun _ _ ↦ True)
    (fun b _ input _ ↦ safe_program yaml input b) moves
    (Runs.along_of_forall (fun _ m ↦ by cases m <;> trivial) moves)
  have hpushes := hkept fun _ h ↦ absurd h List.not_mem_nil
  refine ⟨hhead, hpushes, ?_, ?_⟩
  · intro p hp q hq hparent
    exact Kept.commit_eq hpushes hp hq hparent
  · intro result hresult
    exact hsafe.result hresult result rfl

/-- The local values, whose image has a tag. -/
private def localValues (tag : String) : Values :=
  ⟨[.map [(.str "cloudward-demo", .ref 1)], .map [(.str "image", .ref 2)],
    .map [(.str "tag", .scalar (.str tag))]], .ref 0⟩

/-- A library that knows the local values. -/
private def localYaml : Yaml where
  safeLoad text := .ok (localValues text)
  safeLoadBytes bytes := .ok (localValues (decodeReplace bytes))
  safeDump document :=
    match document.find tagPath with
    | some (.scalar (.str tag)) => tag
    | _ => ""

private theorem isUuidText_writing :
    isUuidText "6f1c2e1a-0000-4000-8000-000000000004".toList := by
  decide +kernel

private def deployment : Writing :=
  ⟨{ Settings.standard with localGitopsWriteEnabled := true },
    .deployControlledBad ⟨_, isUuidText_writing⟩⟩

/-- Two calls clone one revision, and only the first push is taken. -/
example : (after localYaml [⟨⟨some (.regular (encode "local")), []⟩, "", "", 0⟩]
    [.start (.call deployment {}), .start (.call deployment { time := 1 }), .advance 0, .advance 1,
      .advance 0, .advance 1, .advance 0]).store.head.map (·.tree.values) =
      [some (.regular (encode "local-bad")), some (.regular (encode "local"))] := by
  decide +kernel

end CloudWard.Remediation.Writer
