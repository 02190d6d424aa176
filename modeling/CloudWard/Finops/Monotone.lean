import CloudWard.Finops.Bounds

/-!
# Quantiles of exact numbers

`_quantile`, `finops/engine.py:38`, with numbers taken as exact rationals: it interpolates between
the sorted usable values at a position that never leaves them. So it lies between the smallest and
the largest of them, it increases with the quantile that is asked for and with every sample, and
the order of the samples and those that are not usable do not matter.
-/

namespace CloudWard.Finops

open CloudWard.Logic

/-- The usable values in order. -/
def sortedAt (values : List Double) (i : ℤ) : ℚ := ((usable values).mergeSort[i.toNat]?).getD 0

/-- The position of a quantile, `finops/engine.py:42`. -/
def position (values : List Double) (q : ℚ) : ℚ := ((usable values).length - 1) * q

/-- The quantiles of a series are quantiles. -/
structure IsQuantile (values : List Double) : Prop where
  /-- No index is outside of the sorted values. -/
  returns : ∀ q, 0 ≤ q → q ≤ 1 →
    0 ≤ ⌊position values q⌋ ∧ ⌈position values q⌉ < (usable values).length ∧
      ∃ x, quantile exact values (.finite q) = .ok (.finite x)
  between : ∀ q x, 0 ≤ q → q ≤ 1 → quantile exact values (.finite q) = .ok (.finite x) →
    ∀ least greatest, IsLeast {a | a ∈ usable values} least →
      IsGreatest {a | a ∈ usable values} greatest → least ≤ x ∧ x ≤ greatest
  increasing : ∀ p q x y, 0 ≤ p → p ≤ q → q ≤ 1 →
    quantile exact values (.finite p) = .ok (.finite x) →
    quantile exact values (.finite q) = .ok (.finite y) → x ≤ y
  percentiles_le : ∀ series, series.values = values →
    ∃ p, percentiles exact series = .ok p ∧ p.p50 ≤ p.p95 ∧ p.p95 ≤ p.p99
  reordered : ∀ values', values'.Perm values → ∀ q,
    quantile exact values' q = quantile exact values q
  /-- Samples that are not usable do not matter. -/
  usable_only : ∀ values', usable values' = usable values → ∀ q,
    quantile exact values' q = quantile exact values q
  /-- No quantile is smaller when a sample is larger. -/
  raised : ∀ before a b after, values = before ++ .finite a :: after → 0 ≤ a → a ≤ b →
    ∀ q x, 0 ≤ q → q ≤ 1 → quantile exact values (.finite q) = .ok (.finite x) →
      ∃ y, quantile exact (before ++ .finite b :: after) (.finite q) = .ok (.finite y) ∧ x ≤ y

variable {values : List Double} {q : ℚ}

/-! ### Usable values -/

theorem usable_append (xs ys : List Double) : usable (xs ++ ys) = usable xs ++ usable ys :=
  List.filterMap_append

theorem usable_cons_finite {a : ℚ} (ha : 0 ≤ a) (xs : List Double) :
    usable (.finite a :: xs) = a :: usable xs := by
  simp [usable, ha]

/-- Samples in another order have the same usable values in another order. -/
theorem usable_perm {values' : List Double} (h : values'.Perm values) :
    (usable values').Perm (usable values) :=
  h.filterMap _

/-! ### Sorted values -/

theorem exists_sortedAt {i : ℤ} (hlow : 0 ≤ i) (hhigh : i < (usable values).length) :
    (usable values).mergeSort[i.toNat]? = some (sortedAt values i) ∧
      item (usable values).mergeSort i = .ok (.finite (sortedAt values i)) := by
  rw [← (List.mergeSort_perm (usable values) fun a b ↦ decide (a ≤ b)).length_eq] at hhigh
  obtain ⟨x, hx, hitem⟩ := exists_item hlow hhigh
  have hat : sortedAt values i = x := by
    unfold sortedAt
    rw [hx]
    rfl
  rw [hat]
  exact ⟨hx, hitem⟩

theorem sortedAt_mem {i : ℤ} (hlow : 0 ≤ i) (hhigh : i < (usable values).length) :
    sortedAt values i ∈ usable values :=
  List.mem_mergeSort.mp (List.mem_of_getElem? (exists_sortedAt hlow hhigh).1)

theorem sortedAt_monotoneOn (values : List Double) :
    MonotoneOn (sortedAt values) (Set.Icc 0 ((usable values).length - 1)) := by
  intro i hi j hj hij
  obtain ⟨hi0, hin⟩ := hi
  obtain ⟨hj0, hjn⟩ := hj
  exact sorted_le (by omega) (exists_sortedAt hi0 (by omega)).1 (exists_sortedAt hj0 (by omega)).1

/-! ### Positions -/

section Position

variable (hne : usable values ≠ [])

include hne

private theorem size_nonneg : (0 : ℚ) ≤ (usable values).length - 1 := by
  have hpos := List.length_pos_iff.mpr hne
  have hone : (1 : ℚ) ≤ (usable values).length := by exact_mod_cast hpos
  linarith

theorem position_mono {p : ℚ} (h : p ≤ q) : position values p ≤ position values q :=
  mul_le_mul_of_nonneg_left h (size_nonneg hne)

theorem position_nonneg (h : 0 ≤ q) : ((0 : ℤ) : ℚ) ≤ position values q := by
  rw [Int.cast_zero]
  exact mul_nonneg (size_nonneg hne) h

theorem position_le (h : q ≤ 1) : position values q ≤ (((usable values).length - 1 : ℤ) : ℚ) := by
  push_cast
  exact mul_le_of_le_one_right (size_nonneg hne) h

/-- The places around the position of a quantile are within the values. -/
theorem position_within (hq0 : 0 ≤ q) (hq1 : q ≤ 1) :
    0 ≤ ⌊position values q⌋ ∧ ⌊position values q⌋ ≤ ⌈position values q⌉ ∧
      ⌈position values q⌉ < (usable values).length := by
  obtain ⟨⟨hfloor, -⟩, ⟨-, hceil⟩⟩ := places_mem (position_nonneg hne hq0) (position_le hne hq1)
  exact ⟨hfloor, Int.floor_le_ceil _, by omega⟩

/-- A quantile interpolates between the sorted values around its position. -/
theorem quantile_exact (hq0 : 0 ≤ q) (hq1 : q ≤ 1) :
    quantile exact values (.finite q) =
      .ok (.finite (interpolate (sortedAt values) (position values q))) := by
  obtain ⟨hfloor, hle, hceil⟩ := position_within hne hq0 hq1
  have hlow := (exists_sortedAt hfloor (lt_of_le_of_lt hle hceil)).2
  have hhigh := (exists_sortedAt (hfloor.trans hle) hceil).2
  have hposition : exact.mul (.finite (((usable values).mergeSort.length - 1 : ℤ) : ℚ))
      (.finite q) = .finite (position values q) := by
    rw [List.length_mergeSort, Rounding.mul_finite, Rounding.round_exact]
    unfold position
    push_cast
    rfl
  unfold quantile
  simp only [Rounding.ofInt_exact, computed_ok, ok_bind]
  rw [if_neg (sorted_usable_ne_nil hne), hposition]
  simp only [Double.floor, Double.ceil, Double.toInt, computed_ok, ok_bind]
  split
  · next heq =>
    rw [hlow]
    unfold interpolate
    rw [← heq, sub_self, zero_mul, add_zero]
  · rw [hlow, hhigh]
    rfl

end Position

/-! ### What quantiles are -/

/-- The samples in order are no larger than those of a series where one was raised. -/
theorem sortedAt_le_of_raised {before after : List Double} {a b : ℚ} {i : ℤ} (ha : 0 ≤ a)
    (hab : a ≤ b) (hlow : 0 ≤ i) (hhigh : i < (usable (before ++ .finite a :: after)).length) :
    sortedAt (before ++ .finite a :: after) i ≤ sortedAt (before ++ .finite b :: after) i := by
  have husable := usable_append before (.finite a :: after)
  have husable' := usable_append before (.finite b :: after)
  rw [usable_cons_finite ha] at husable
  rw [usable_cons_finite (ha.trans hab)] at husable'
  have hpointwise : List.Forall₂ (· ≤ ·) (usable (before ++ .finite a :: after))
      (usable (before ++ .finite b :: after)) := by
    rw [husable, husable']
    exact List.rel_append (List.forall₂_refl _) (List.Forall₂.cons hab (List.forall₂_refl _))
  have hlength := hpointwise.length_eq
  exact getElem_mergeSort_mono hpointwise (exists_sortedAt hlow hhigh).1
    (exists_sortedAt hlow (by omega)).1

/-- What a quantile interpolates increases with it. -/
theorem interpolate_position_mono {p : ℚ} (hne : usable values ≠ []) (hp0 : 0 ≤ p) (hpq : p ≤ q)
    (hq1 : q ≤ 1) : interpolate (sortedAt values) (position values p) ≤
      interpolate (sortedAt values) (position values q) :=
  interpolate_mono (sortedAt_monotoneOn values) (position_nonneg hne hp0) (position_mono hne hpq)
    (position_le hne hq1)

/-- The percentiles of a series stand in their order. -/
theorem exists_percentiles_le {series : UsageSeries} (hne : usable series.values ≠ []) :
    ∃ p, percentiles exact series = .ok p ∧ p.p50 ≤ p.p95 ∧ p.p95 ≤ p.p99 := by
  obtain ⟨p, hp, -⟩ := exists_percentiles (R := exact) hne
  refine ⟨p, hp, ?_⟩
  unfold percentiles at hp
  rw [Rounding.round_exact, Rounding.round_exact, Rounding.round_exact,
    quantile_exact hne (by norm_num) (by norm_num), quantile_exact hne (by norm_num) (by norm_num),
    quantile_exact hne (by norm_num) (by norm_num)] at hp
  simp only [ok_bind] at hp
  split at hp
  · cases hp
    simp only [Double.finite_le_finite]
    exact ⟨interpolate_position_mono hne (by norm_num) (by norm_num) (by norm_num),
      interpolate_position_mono hne (by norm_num) (by norm_num) (by norm_num)⟩
  · cases hp

/-- **The quantile is a quantile.** It lies between the smallest and the largest usable value,
increases with the quantile that is asked for and with every sample, and depends on nothing but
the usable values; no index is outside of them. -/
theorem quantile_isQuantile (values : List Double) (hne : usable values ≠ []) :
    IsQuantile values where
  returns q hq0 hq1 := by
    obtain ⟨hfloor, -, hceil⟩ := position_within hne hq0 hq1
    exact ⟨hfloor, hceil, _, quantile_exact hne hq0 hq1⟩
  between q x hq0 hq1 hx least greatest hleast hgreatest := by
    rw [quantile_exact hne hq0 hq1] at hx
    cases hx
    obtain ⟨hfloor, hle, hceil⟩ := position_within hne hq0 hq1
    have hmono := sortedAt_monotoneOn values
    have hlow := position_nonneg hne hq0
    have hhigh := position_le hne hq1
    constructor
    · calc
        least ≤ sortedAt values ⌊position values q⌋ :=
          hleast.2 (sortedAt_mem hfloor (lt_of_le_of_lt hle hceil))
        _ ≤ interpolate (sortedAt values) (position values q) := le_interpolate hmono hlow hhigh
    · calc
        interpolate (sortedAt values) (position values q)
          ≤ sortedAt values ⌈position values q⌉ := interpolate_le hmono hlow hhigh
        _ ≤ greatest := hgreatest.2 (sortedAt_mem (hfloor.trans hle) hceil)
  increasing p q x y hp0 hpq hq1 hx hy := by
    rw [quantile_exact hne hp0 (hpq.trans hq1)] at hx
    rw [quantile_exact hne (hp0.trans hpq) hq1] at hy
    cases hx
    cases hy
    exact interpolate_position_mono hne hp0 hpq hq1
  percentiles_le series hseries := by
    obtain rfl := hseries
    exact exists_percentiles_le hne
  reordered values' hperm q := by
    unfold quantile
    rw [mergeSort_eq_of_perm (usable_perm hperm)]
  usable_only values' husable q := by
    unfold quantile
    rw [husable]
  raised before a b after hvalues ha hab q x hq0 hq1 hx := by
    subst hvalues
    have hlength : (usable (before ++ .finite b :: after)).length =
        (usable (before ++ .finite a :: after)).length := by
      rw [usable_append, usable_append, usable_cons_finite ha, usable_cons_finite (ha.trans hab),
        List.length_append, List.length_append, List.length_cons, List.length_cons]
    have hne' : usable (before ++ .finite b :: after) ≠ [] := by
      rw [← List.length_pos_iff, hlength]
      exact List.length_pos_iff.mpr hne
    have hposition : position (before ++ .finite b :: after) q =
        position (before ++ .finite a :: after) q := by
      unfold position
      rw [hlength]
    rw [quantile_exact hne hq0 hq1] at hx
    cases hx
    refine ⟨_, quantile_exact hne' hq0 hq1, ?_⟩
    rw [hposition]
    obtain ⟨hfloor, hle, hceil⟩ := position_within hne hq0 hq1
    exact interpolate_le_interpolate
      (sortedAt_le_of_raised ha hab hfloor (lt_of_le_of_lt hle hceil))
      (sortedAt_le_of_raised ha hab (hfloor.trans hle) hceil)

/-- Of four samples two are usable. -/
theorem quantile_isQuantile_four :
    IsQuantile [.finite 3, .nan, .finite (-1), .finite 1] :=
  quantile_isQuantile _ (by simp [usable])

end CloudWard.Finops
