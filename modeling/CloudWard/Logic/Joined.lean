import Mathlib.Data.List.Basic

/-!
# Joined texts

Library `Logic`. Texts that are joined by a separator, and the pieces of a text between its
separators. The joined text keeps the pieces of all texts in their order, and forgets where one
text ends and the next begins; how many pieces each text has brings that back.
-/

namespace CloudWard.Logic

variable {α ι : Type} [DecidableEq α] {a : α}

/-- The pieces of a text bring it back. -/
theorem splitOn_injective (a : α) : Function.Injective (List.splitOn a) := by
  intro xs ys h
  have hjoin := congrArg [a].intercalate h
  rwa [List.intercalate_splitOn, List.intercalate_splitOn] at hjoin

/-- The pieces of a joined text are those of the texts. -/
theorem splitOn_intercalate_flatMap {xs : List (List α)} (h : xs ≠ []) :
    ([a].intercalate xs).splitOn a = xs.flatMap (List.splitOn a) := by
  induction xs with
  | nil => exact absurd rfl h
  | cons x rest ih =>
    cases rest with
    | nil => simp
    | cons y rest =>
      rw [List.intercalate_cons_cons, List.append_assoc, List.singleton_append,
        List.splitOn_append_cons_self, ih (List.cons_ne_nil y rest)]
      rfl

/-- Joined texts are the same if and only if their pieces are. -/
theorem intercalate_eq_iff {xs ys : List (List α)} (hx : xs ≠ []) (hy : ys ≠ []) :
    [a].intercalate xs = [a].intercalate ys ↔
      xs.flatMap (List.splitOn a) = ys.flatMap (List.splitOn a) := by
  rw [← splitOn_intercalate_flatMap hx, ← splitOn_intercalate_flatMap hy]
  exact (splitOn_injective a).eq_iff.symm

/-- Texts of the same pieces are the same where each has as many of them. -/
theorem eq_of_flatMap_splitOn {keys : List ι} {f g : ι → List α}
    (hpieces : keys.flatMap (fun k ↦ (f k).splitOn a) = keys.flatMap fun k ↦ (g k).splitOn a)
    (hcount : ∀ k ∈ keys, ((f k).splitOn a).length = ((g k).splitOn a).length) :
    ∀ k ∈ keys, f k = g k := by
  induction keys with
  | nil => simp
  | cons key rest ih =>
    rw [List.forall_mem_cons] at hcount ⊢
    rw [List.flatMap_cons, List.flatMap_cons] at hpieces
    have happend := List.append_inj hpieces hcount.1
    exact ⟨splitOn_injective a happend.1, ih happend.2 hcount.2⟩

end CloudWard.Logic
