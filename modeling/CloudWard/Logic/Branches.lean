import CloudWard.Logic.Interleave

/-!
# A branch that is pushed to

Library `Logic`. A revision is a commit with those below it, as the hash of a commit names all of
them. A push is taken if the branch is at the parent of its commit, so that of two pushes with one
parent one is refused; others may put commits on top of the branch. `pushes` records what was
pushed; nothing reads it.
-/

namespace CloudWard.Logic.Branches

open Interleave

variable {κ ℓ : Type}

/-- A commit and those below it, the newest first. -/
abbrev Revision (κ : Type) : Type := List κ

/-- A commit on top of a revision, with a label that says whose it is. -/
structure Push (κ ℓ : Type) where
  label : ℓ
  parent : Revision κ
  commit : κ

/-- The revision that a push makes. -/
def Push.revision (p : Push κ ℓ) : Revision κ := p.commit :: p.parent

/-- A branch, and the pushes it took. -/
structure Branch (κ ℓ : Type) where
  head : Revision κ
  pushes : List (Push κ ℓ) := []

/-- Push a commit: there is nothing to do if the branch is at it. -/
def Branch.push [DecidableEq κ] (b : Branch κ ℓ) (p : Push κ ℓ) : Option (Branch κ ℓ) :=
  if b.head = p.revision then some b
  else if b.head = p.parent then some { head := p.revision, pushes := p :: b.pushes }
  else none

/-- The branch after a push, taken or not. -/
def Branch.pushed [DecidableEq κ] (b : Branch κ ℓ) (p : Push κ ℓ) : Branch κ ℓ :=
  (b.push p).getD b

/-- Others put commits on top. -/
def Branch.extend (b : Branch κ ℓ) (commits : List κ) : Branch κ ℓ :=
  { b with head := commits ++ b.head }

/-- Every push was a valid one, and is part of the branch. -/
def Kept (Valid : Push κ ℓ → Prop) (b : Branch κ ℓ) : Prop :=
  ∀ p ∈ b.pushes, Valid p ∧ p.revision <:+ b.head

/-- What may become of a branch: nothing is taken away, and what is pushed is valid. -/
def extending (Valid : Push κ ℓ → Prop) : Rely (Branch κ ℓ) where
  may s t := s.head <:+ t.head ∧ s.pushes <:+ t.pushes ∧ (Kept Valid s → Kept Valid t)
  refl _ := ⟨List.suffix_rfl, List.suffix_rfl, id⟩
  trans h h' := ⟨h.1.trans h'.1, h.2.1.trans h'.2.1, fun hkept ↦ h'.2.2 (h.2.2 hkept)⟩

variable {Valid : Push κ ℓ → Prop} {b b' : Branch κ ℓ}

/-- Two pushes on one revision are one: no push takes away another. -/
theorem Kept.commit_eq (h : Kept Valid b) {p q : Push κ ℓ} (hp : p ∈ b.pushes) (hq : q ∈ b.pushes)
    (hparent : p.parent = q.parent) : p.commit = q.commit := by
  have hlength : p.revision.length = q.revision.length := by
    simp only [Push.revision, List.length_cons, hparent]
  have heq : p.revision = q.revision :=
    List.IsSuffix.eq_of_length
      (List.suffix_of_suffix_length_le (h p hp).2 (h q hq).2 (Nat.le_of_eq hlength)) hlength
  exact (List.cons.inj heq).1

theorem may_extend (b : Branch κ ℓ) (commits : List κ) :
    (extending Valid).may b (b.extend commits) := by
  refine ⟨List.suffix_append _ _, List.suffix_rfl, ?_⟩
  intro h p hp
  exact ⟨(h p hp).1, (h p hp).2.trans (List.suffix_append _ _)⟩

variable [DecidableEq κ] {p : Push κ ℓ}

/-- The branch is at the commit of a push that it took. -/
theorem head_of_push (h : b.push p = some b') : b'.head = p.revision := by
  unfold Branch.push at h
  split at h
  · next hhead =>
    cases h
    exact hhead
  · split at h
    · cases h
      rfl
    · cases h

theorem may_push (hvalid : Valid p) (h : b.push p = some b') : (extending Valid).may b b' := by
  unfold Branch.push at h
  split at h
  · cases h
    exact (extending Valid).refl b
  · split at h
    · next hparent =>
      cases h
      have hsuffix : b.head <:+ p.revision := by
        rw [hparent]
        exact List.suffix_cons _ _
      refine ⟨hsuffix, List.suffix_cons _ _, ?_⟩
      intro hkept q hq
      rcases List.mem_cons.mp hq with rfl | hq
      · exact ⟨hvalid, List.suffix_rfl⟩
      · exact ⟨(hkept q hq).1, (hkept q hq).2.trans hsuffix⟩
    · cases h

/-- A push that may or may not be taken. -/
theorem may_pushed (hvalid : Valid p) (b : Branch κ ℓ) : (extending Valid).may b (b.pushed p) := by
  unfold Branch.pushed
  cases h : b.push p with
  | none => exact (extending Valid).refl b
  | some b' => exact may_push hvalid h

end CloudWard.Logic.Branches
