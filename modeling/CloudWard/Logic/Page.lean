import Mathlib.Data.List.Sort

/-!
# Keyset pages

Library `Logic`. `page key n after rows` is `SELECT … WHERE key > after ORDER BY key LIMIT n`.
A reader that goes on after the last key of each page reads the rows in order; it misses none
that was there, since a row that is not on a page has a larger key than every row on it.
-/

namespace CloudWard.Logic

variable {α : Type}

/-- The rows after a key, in order. -/
def rowsAfter (key : α → Nat) (after : Nat) (rows : List α) : List α :=
  (rows.filter fun row ↦ after < key row).insertionSort fun a b ↦ key a ≤ key b

/-- The first rows after a key. -/
def page (key : α → Nat) (n after : Nat) (rows : List α) : List α := (rowsAfter key after rows).take n

variable {key : α → Nat} {n after : Nat} {rows : List α}

theorem mem_rowsAfter {x : α} : x ∈ rowsAfter key after rows ↔ x ∈ rows ∧ after < key x := by
  rw [rowsAfter, List.mem_insertionSort, List.mem_filter, decide_eq_true_iff]

theorem pairwise_rowsAfter (hkeys : (rows.map key).Nodup) :
    (rowsAfter key after rows).Pairwise fun a b ↦ key a < key b := by
  have hle : (rowsAfter key after rows).Pairwise fun a b ↦ key a ≤ key b :=
    List.pairwise_insertionSort _ _
  have hperm : (rowsAfter key after rows).Perm (rows.filter fun row ↦ after < key row) :=
    List.perm_insertionSort _ _
  have hne : (rowsAfter key after rows).Pairwise fun a b ↦ key a ≠ key b :=
    List.pairwise_map.mp ((hperm.map key).nodup_iff.mpr (hkeys.sublist (List.filter_sublist.map key)))
  exact (hle.and hne).imp fun ⟨hle, hne⟩ ↦ Nat.lt_of_le_of_ne hle hne

namespace Page

/-- A row on a page is a row with a larger key. -/
theorem mem {x : α} (h : x ∈ page key n after rows) : x ∈ rows ∧ after < key x :=
  mem_rowsAfter.mp (List.mem_of_mem_take h)

/-- A page is in order. -/
theorem pairwise (hkeys : (rows.map key).Nodup) :
    (page key n after rows).Pairwise fun a b ↦ key a < key b :=
  (pairwise_rowsAfter hkeys).sublist (List.take_sublist _ _)

/-- The rows up to a row on a page are on the page. -/
theorem mem_of_le (hkeys : (rows.map key).Nodup) {x y : α} (hx : x ∈ rows)
    (hafter : after < key x) (hy : y ∈ page key n after rows) (hle : key x ≤ key y) :
    x ∈ page key n after rows := by
  have hmem : x ∈ rowsAfter key after rows := mem_rowsAfter.mpr ⟨hx, hafter⟩
  have hsorted : (rowsAfter key after rows).Pairwise fun a b ↦ key a < key b :=
    pairwise_rowsAfter hkeys
  rw [← List.take_append_drop n (rowsAfter key after rows)] at hsorted hmem
  rcases List.mem_append.mp hmem with htake | hdrop
  · exact htake
  · have hlt := (List.pairwise_append.mp hsorted).2.2 y hy x hdrop
    omega

/-- An empty page means that there is nothing to read. -/
theorem eq_nil_iff (hn : 0 < n) : page key n after rows = [] ↔ ∀ x ∈ rows, key x ≤ after := by
  constructor
  · intro hnil x hx
    by_contra hlt
    have hmem : x ∈ rowsAfter key after rows := mem_rowsAfter.mpr ⟨hx, by omega⟩
    rcases List.take_eq_nil_iff.mp hnil with hzero | hempty
    · omega
    · rw [hempty] at hmem
      cases hmem
  · intro hle
    rw [List.eq_nil_iff_forall_not_mem]
    intro x hx
    obtain ⟨hrow, hafter⟩ := mem hx
    have := hle x hrow
    omega

end Page
end CloudWard.Logic
