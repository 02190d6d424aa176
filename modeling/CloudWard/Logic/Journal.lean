/-!
# Journals of a state

Library `Logic`. A journal lists the changes of one value as pairs of the value before and
the value after. It follows the value from `s` to `t` when each change starts where the one
before it ended; folding such a journal over its first value yields the last.
-/

namespace CloudWard.Logic.Journal

variable {σ : Type}

/-- The journal leads from `s` to `t`, each change starting where the one before ended. -/
def Follows (s : σ) : List (σ × σ) → σ → Prop
  | [], t => s = t
  | change :: rest, t => change.1 = s ∧ Follows change.2 rest t

/-- The value after all changes of a journal. -/
def replay (s : σ) (journal : List (σ × σ)) : σ := journal.foldl (fun _ change ↦ change.2) s

@[simp] theorem follows_nil (s t : σ) : Follows s [] t ↔ s = t := Iff.rfl

@[simp] theorem follows_cons (s t : σ) (change : σ × σ) (rest : List (σ × σ)) :
    Follows s (change :: rest) t ↔ change.1 = s ∧ Follows change.2 rest t := Iff.rfl

/-- One journal after another leads on from where the first ended. -/
theorem follows_append {s u : σ} {first second : List (σ × σ)} :
    Follows s (first ++ second) u ↔ ∃ t, Follows s first t ∧ Follows t second u := by
  induction first generalizing s with
  | nil => simp
  | cons change rest ih => simp [ih, and_assoc]

/-- A change from the value a journal led to extends it. -/
theorem Follows.snoc {s t u : σ} {journal : List (σ × σ)} (h : Follows s journal t) :
    Follows s (journal ++ [(t, u)]) u := by
  rw [follows_append]
  exact ⟨t, h, rfl, rfl⟩

/-- The value a journal leads to is the one that folding it yields. -/
theorem Follows.replay_eq {s t : σ} {journal : List (σ × σ)} (h : Follows s journal t) :
    replay s journal = t := by
  induction journal generalizing s with
  | nil => exact h
  | cons change rest ih => exact ih h.2

/-- A journal leads to one value. -/
theorem Follows.unique {s t u : σ} {journal : List (σ × σ)} (ht : Follows s journal t)
    (hu : Follows s journal u) : t = u := by
  rw [← ht.replay_eq, hu.replay_eq]

end CloudWard.Logic.Journal
