import Mathlib.Algebra.Order.Floor.Ring
import Mathlib.Algebra.Order.Field.Basic
import Mathlib.Algebra.Order.Ring.Rat
import Mathlib.Data.Int.ConditionallyCompleteOrder
import Mathlib.Data.Rat.Floor
import Mathlib.Order.Interval.Set.Defs
import Mathlib.Tactic.Linarith

/-!
# Order statistics and interpolation

Library `Logic`. The value at a place of a sorted list is at most a bound where more than so many
of the values are, so sorted lists compare place by place as the lists do before they are sorted.
Between the places of a sequence that increases, linear interpolation increases too.
-/

namespace CloudWard.Logic

/-! ### Order statistics -/

section Sorting

variable {α : Type} [LinearOrder α] {xs ys : List α} {i : Nat} {a b bound : α}

theorem pairwise_sorted (xs : List α) : xs.mergeSort.Pairwise (· ≤ ·) := by
  have hsorted : xs.mergeSort.Pairwise (fun a b ↦ decide (a ≤ b) = true) := by
    refine List.pairwise_mergeSort (fun a b c hab hbc ↦ ?_) (fun a b ↦ ?_) xs
    · exact decide_eq_true ((of_decide_eq_true hab).trans (of_decide_eq_true hbc))
    · simpa using le_total a b
  exact hsorted.imp fun h ↦ of_decide_eq_true h

/-- Sorting forgets the order. -/
theorem mergeSort_eq_of_perm (h : xs.Perm ys) : xs.mergeSort = ys.mergeSort := by
  refine List.Perm.eq_of_pairwise (fun a b _ _ hab hba ↦ le_antisymm hab hba)
    (pairwise_sorted xs) (pairwise_sorted ys) ?_
  exact (List.mergeSort_perm xs _).trans (h.trans (List.mergeSort_perm ys _).symm)

/-- The value at a place is at most a bound if and only if more values than that are. -/
theorem sorted_getElem_le_iff (h : xs.Pairwise (· ≤ ·)) (hi : xs[i]? = some a) :
    a ≤ bound ↔ i < xs.countP (· ≤ bound) := by
  induction xs generalizing i with
  | nil => simp at hi
  | cons x rest ih =>
    rw [List.pairwise_cons] at h
    by_cases hx : x ≤ bound
    · rw [List.countP_cons_of_pos (by simpa using hx)]
      cases i with
      | zero =>
        obtain rfl : x = a := by simpa using hi
        simp [hx]
      | succ i =>
        rw [List.getElem?_cons_succ] at hi
        rw [ih h.2 hi]
        omega
    · have hnone : (x :: rest).countP (· ≤ bound) = 0 := by
        rw [List.countP_eq_zero]
        intro y hy
        rcases List.mem_cons.mp hy with rfl | hy
        · simpa using hx
        · simpa using (lt_of_not_ge hx).trans_le (h.1 y hy)
      have hle : x ≤ a := by
        rcases List.mem_cons.mp (List.mem_of_getElem? hi) with rfl | ha
        · exact le_rfl
        · exact h.1 a ha
      rw [hnone]
      constructor
      · intro ha
        exact absurd (hle.trans ha) hx
      · intro hlt
        omega

theorem getElem_mergeSort_le_iff (hi : xs.mergeSort[i]? = some a) :
    a ≤ bound ↔ i < xs.countP (· ≤ bound) := by
  rw [sorted_getElem_le_iff (pairwise_sorted xs) hi,
    (List.mergeSort_perm xs fun a b ↦ decide (a ≤ b)).countP_eq]

/-- Where no value is larger in one list than in another, no sorted one is. -/
theorem getElem_mergeSort_mono (h : List.Forall₂ (· ≤ ·) xs ys) (hi : xs.mergeSort[i]? = some a)
    (hi' : ys.mergeSort[i]? = some b) : a ≤ b := by
  have hcount : ys.countP (· ≤ b) ≤ xs.countP (· ≤ b) := by
    clear hi hi'
    induction h with
    | nil => exact le_rfl
    | @cons x y _ _ hxy _ ih =>
      rw [List.countP_cons, List.countP_cons]
      by_cases hy : y ≤ b
      · simpa [hy, hxy.trans hy] using ih
      · simp only [hy, decide_false, Bool.false_eq_true, if_false]
        omega
  rw [getElem_mergeSort_le_iff hi]
  exact lt_of_lt_of_le ((getElem_mergeSort_le_iff hi').mp le_rfl) hcount

end Sorting

/-! ### Interpolation -/

/-- The value of a sequence at a position between two of its places. -/
def interpolate (f : ℤ → ℚ) (t : ℚ) : ℚ := f ⌊t⌋ + (f ⌈t⌉ - f ⌊t⌋) * (t - ⌊t⌋)

section Interpolation

variable {f g : ℤ → ℚ} {lower upper : ℤ} {s t : ℚ}

theorem fract_mem (t : ℚ) : 0 ≤ t - ⌊t⌋ ∧ t - ⌊t⌋ ≤ 1 := by
  have hfloor := Int.floor_le t
  have hlt := Int.lt_floor_add_one t
  constructor
  · linarith
  · linarith

/-- The places around a position between two places. -/
theorem places_mem (hlow : (lower : ℚ) ≤ t) (hhigh : t ≤ upper) :
    ⌊t⌋ ∈ Set.Icc lower upper ∧ ⌈t⌉ ∈ Set.Icc lower upper := by
  have hfloor : lower ≤ ⌊t⌋ := Int.le_floor.mpr hlow
  have hceil : ⌈t⌉ ≤ upper := Int.ceil_le.mpr hhigh
  have hle := Int.floor_le_ceil t
  exact ⟨⟨hfloor, hle.trans hceil⟩, ⟨hfloor.trans hle, hceil⟩⟩

section Increasing

variable (hf : MonotoneOn f (Set.Icc lower upper)) (hlow : (lower : ℚ) ≤ t) (hhigh : t ≤ upper)

include hf hlow hhigh

private theorem places_le : f ⌊t⌋ ≤ f ⌈t⌉ :=
  hf (places_mem hlow hhigh).1 (places_mem hlow hhigh).2 (Int.floor_le_ceil t)

/-- Interpolation is no smaller than the value before the position. -/
theorem le_interpolate : f ⌊t⌋ ≤ interpolate f t := by
  have hprod := mul_nonneg (sub_nonneg.mpr (places_le hf hlow hhigh)) (fract_mem t).1
  unfold interpolate
  linarith

/-- And no larger than the value after it. -/
theorem interpolate_le : interpolate f t ≤ f ⌈t⌉ := by
  have hprod := mul_le_mul_of_nonneg_left (fract_mem t).2
    (sub_nonneg.mpr (places_le hf hlow hhigh))
  unfold interpolate
  linarith

end Increasing

/-- Interpolation of a sequence that increases does. -/
theorem interpolate_mono (hf : MonotoneOn f (Set.Icc lower upper)) (hlow : (lower : ℚ) ≤ s)
    (hst : s ≤ t) (hhigh : t ≤ upper) : interpolate f s ≤ interpolate f t := by
  have hslow := hst.trans hhigh
  have htlow := hlow.trans hst
  by_cases hplaces : ⌈s⌉ ≤ ⌊t⌋
  · calc
      interpolate f s ≤ f ⌈s⌉ := interpolate_le hf hlow hslow
      _ ≤ f ⌊t⌋ := hf (places_mem hlow hslow).2 (places_mem htlow hhigh).1 hplaces
      _ ≤ interpolate f t := le_interpolate hf htlow hhigh
  · -- both positions lie between the same two places
    have hlt : (⌊t⌋ : ℚ) < s := Int.lt_ceil.mp (lt_of_not_ge hplaces)
    have hfloor : ⌊s⌋ = ⌊t⌋ := by
      have hle := Int.floor_mono hst
      have hge : ⌊t⌋ ≤ ⌊s⌋ := Int.le_floor.mpr hlt.le
      omega
    have hceil : ⌈s⌉ = ⌈t⌉ := by
      have hle := Int.ceil_mono hst
      have hone : ⌈t⌉ ≤ ⌊t⌋ + 1 := Int.ceil_le_floor_add_one t
      omega
    unfold interpolate
    rw [hfloor, hceil]
    have hle := places_le hf htlow hhigh
    have hprod := mul_le_mul_of_nonneg_left (sub_le_sub_right hst (⌊t⌋ : ℚ)) (sub_nonneg.mpr hle)
    linarith

/-- Interpolation of a sequence that is no larger is not. -/
theorem interpolate_le_interpolate (hlower : f ⌊t⌋ ≤ g ⌊t⌋) (hupper : f ⌈t⌉ ≤ g ⌈t⌉) :
    interpolate f t ≤ interpolate g t := by
  obtain ⟨hzero, hone⟩ := fract_mem t
  have hleft := mul_le_mul_of_nonneg_right hlower (sub_nonneg.mpr hone)
  have hright := mul_le_mul_of_nonneg_right hupper hzero
  calc
    interpolate f t = f ⌊t⌋ * (1 - (t - ⌊t⌋)) + f ⌈t⌉ * (t - ⌊t⌋) := by
      unfold interpolate
      ring
    _ ≤ g ⌊t⌋ * (1 - (t - ⌊t⌋)) + g ⌈t⌉ * (t - ⌊t⌋) := add_le_add hleft hright
    _ = interpolate g t := by
      unfold interpolate
      ring

end Interpolation

end CloudWard.Logic
