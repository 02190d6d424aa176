import Mathlib.Data.List.Infix

/-!
# Markers in texts

A marker is a nonempty text whose first letter it has only once. Occurrences of a marker do not
overlap, and a letter that a marker does not go on with cuts a text into two that can be searched
one after the other.
-/

namespace CloudWard.Logic

/-- A text that has its first letter only once. -/
structure Marker (α : Type) where
  first : α
  rest : List α
  once : first ∉ rest

namespace Marker

variable {α : Type} {m : Marker α} {c : α} {xs ys : List α}

/-- The letters of a marker. -/
def text (m : Marker α) : List α := m.first :: m.rest

theorem isPrefix_append_cons {p : List α} (hc : c ∉ p) :
    p <+: xs ++ c :: ys ↔ p <+: xs := by
  induction p generalizing xs with
  | nil => simp
  | cons a p ih =>
    rw [List.mem_cons, not_or] at hc
    cases xs with
    | nil => simp [Ne.symm hc.1]
    | cons x xs =>
      rw [List.cons_append, List.cons_prefix_cons, List.cons_prefix_cons, ih hc.2]

variable [DecidableEq α]

/-- How often a marker occurs in a text. -/
def occurrences (m : Marker α) : List α → Nat
  | [] => 0
  | c :: text => (if m.text.isPrefixOf (c :: text) then 1 else 0) + m.occurrences text

theorem occurrences_cons_of_ne (h : c ≠ m.first) (xs : List α) :
    m.occurrences (c :: xs) = m.occurrences xs := by
  rw [occurrences, if_neg, Nat.zero_add]
  rw [List.isPrefixOf_iff_prefix, text, List.cons_prefix_cons]
  exact fun hprefix ↦ h hprefix.1.symm

/-- A text without the first letter adds no occurrence. -/
theorem occurrences_append_of_notMem (h : m.first ∉ xs) (ys : List α) :
    m.occurrences (xs ++ ys) = m.occurrences ys := by
  induction xs with
  | nil => rfl
  | cons x xs ih =>
    rw [List.mem_cons, not_or] at h
    rw [List.cons_append, occurrences_cons_of_ne (Ne.symm h.1), ih h.2]

theorem occurrences_of_notMem (h : m.first ∉ xs) : m.occurrences xs = 0 := by
  have happend := occurrences_append_of_notMem h []
  rwa [List.append_nil] at happend

/-- A letter that the marker does not go on with cuts the text. -/
theorem occurrences_append_cons (hc : c ∉ m.rest) (xs ys : List α) :
    m.occurrences (xs ++ c :: ys) = m.occurrences xs + m.occurrences (c :: ys) := by
  induction xs with
  | nil => rw [List.nil_append, occurrences, Nat.zero_add]
  | cons x xs ih =>
    have hprefix : m.text.isPrefixOf (x :: (xs ++ c :: ys)) = m.text.isPrefixOf (x :: xs) := by
      rw [Bool.eq_iff_iff, List.isPrefixOf_iff_prefix, List.isPrefixOf_iff_prefix, text,
        List.cons_prefix_cons, List.cons_prefix_cons, isPrefix_append_cons hc]
    rw [List.cons_append, occurrences, occurrences, hprefix, ih, Nat.add_assoc]

/-- A marker occurs once where it starts a text that goes on without its first letter. -/
theorem occurrences_text (m : Marker α) : m.occurrences m.text = 1 := by
  rw [text, occurrences, if_pos, occurrences_of_notMem m.once]
  rw [List.isPrefixOf_iff_prefix]
  exact List.prefix_rfl

/-- A marker that does not occur is no part of the text. -/
theorem occurrences_eq_zero_iff : m.occurrences xs = 0 ↔ ¬ m.text <:+: xs := by
  induction xs with
  | nil => simp [occurrences, text]
  | cons x xs ih =>
    rw [occurrences, Nat.add_eq_zero_iff, ih, List.infix_cons_iff, not_or]
    simp

end Marker
end CloudWard.Logic
