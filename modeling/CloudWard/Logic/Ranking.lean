import Mathlib.Data.List.Sort

/-!
# The first rows of a ranking

Library `Logic`. A row is among the first `n` of a ranking when the rows that may stand before it
are of a kind, it is of that kind itself, and the ranking has at most `n` rows of the kind.
-/

namespace CloudWard.Logic

variable {α : Type} {r : α → α → Prop} {p : α → Bool} {rows : List α} {x : α} {n : Nat}

/-- A row that only rows of its own kind precede is among the first rows. -/
theorem mem_take_of_countP (hsorted : rows.Pairwise r) (hx : x ∈ rows) (hp : p x)
    (hbefore : ∀ y ∈ rows, r y x → p y) (hcount : rows.countP p ≤ n) : x ∈ rows.take n := by
  by_contra hnot
  have hsplit := List.take_append_drop n rows
  have hdrop : x ∈ rows.drop n := by
    rw [← hsplit, List.mem_append] at hx
    exact hx.resolve_left hnot
  have hall : ∀ y ∈ rows.take n, p y := by
    intro y hy
    rw [← hsplit] at hsorted
    exact hbefore y (List.mem_of_mem_take hy) ((List.pairwise_append.mp hsorted).2.2 y hy x hdrop)
  have htake : (rows.take n).countP p = n := by
    have hlt : n < rows.length := by
      by_contra hle
      rw [List.drop_eq_nil_of_le (Nat.le_of_not_lt hle)] at hdrop
      cases hdrop
    rw [List.countP_eq_length.mpr hall, List.length_take]
    omega
  have hone : 1 ≤ (rows.drop n).countP p := List.countP_pos_iff.mpr ⟨x, hdrop, hp⟩
  have hsum : (rows.take n).countP p + (rows.drop n).countP p = rows.countP p := by
    rw [← List.countP_append, hsplit]
  omega

/-- So it is among the first rows of what a total order sorts. -/
theorem mem_take_mergeSort {le : α → α → Bool}
    (htrans : ∀ a b c, le a b → le b c → le a c) (htotal : ∀ a b, le a b || le b a)
    (hx : x ∈ rows) (hp : p x) (hbefore : ∀ y ∈ rows, le y x → p y)
    (hcount : rows.countP p ≤ n) : x ∈ (rows.mergeSort le).take n := by
  have hperm := List.mergeSort_perm rows le
  apply mem_take_of_countP (List.pairwise_mergeSort htrans htotal rows) (hperm.mem_iff.mpr hx) hp
  · exact fun y hy ↦ hbefore y (hperm.mem_iff.mp hy)
  · rwa [hperm.countP_eq]

/-- The first rows of what a total order sorts stand in its order. -/
theorem pairwise_take_mergeSort {le : α → α → Bool}
    (htrans : ∀ a b c, le a b → le b c → le a c) (htotal : ∀ a b, le a b || le b a)
    (rows : List α) (n : Nat) : ((rows.mergeSort le).take n).Pairwise (le · ·) :=
  (List.pairwise_mergeSort htrans htotal rows).sublist (List.take_sublist n _)

/-- And before the rows that are left out. -/
theorem le_of_mem_take_of_mem_drop {le : α → α → Bool} {y : α}
    (htrans : ∀ a b c, le a b → le b c → le a c) (htotal : ∀ a b, le a b || le b a)
    (hx : x ∈ (rows.mergeSort le).take n) (hy : y ∈ (rows.mergeSort le).drop n) : le x y := by
  have hsorted := List.pairwise_mergeSort htrans htotal rows
  rw [← List.take_append_drop n (rows.mergeSort le)] at hsorted
  exact (List.pairwise_append.mp hsorted).2.2 x hx y hy

end CloudWard.Logic
