import CloudWard.Finops.Engine
import CloudWard.Logic.Exec
import CloudWard.Logic.Interpolation
import Mathlib.Tactic.Linarith
import Mathlib.Tactic.NormNum

/-!
# Quantiles of a usage series

`finops/engine.py:38`: a series with a usable value has every quantile that the engine asks for,
and it is not negative. The positions stay within the series because the quantiles are further
below one than the relative error of three roundings.
-/

namespace CloudWard.Finops

open CloudWard.Logic

@[simp] theorem computed_ok {α : Type} (a : α) : computed (.ok a) = .ok a := rfl

theorem computed_eq_ok {α : Type} {result : Except ArithmeticError α} {a : α} :
    computed result = .ok a ↔ result = .ok a := by
  cases result with
  | error error =>
    constructor <;> intro h <;> cases h
  | ok b =>
    constructor <;> intro h <;> cases h <;> rfl

/-- A value of a series, or one between two of them. -/
inductive Interpolated (R : Rounding) : Double → Prop
  | value (a : ℚ) (ha : 0 ≤ a) : Interpolated R (.finite a)
  | between (a b t : ℚ) (ha : 0 ≤ a) (hab : a ≤ b) (ht : 0 ≤ t) :
    Interpolated R (R.add (.finite a) (R.mul (R.sub (.finite b) (.finite a)) (R.round t)))

variable {R : Rounding} {values : List Double} {p : ℚ} {x : Double}

theorem Interpolated.atLeast (h : Interpolated R x) : AtLeast 0 x := by
  cases h with
  | value a ha =>
    show ¬ Double.finite a < .finite 0
    rw [Double.finite_lt_finite]
    exact not_lt_of_ge ha
  | between a b t ha hab ht =>
    refine R.not_add_lt_zero ?_ (R.not_mul_lt_zero ?_ (R.not_round_lt_zero ht))
    · rw [Double.finite_lt_finite]
      exact not_lt_of_ge ha
    · exact R.not_round_lt_zero (sub_nonneg.mpr hab)

theorem Interpolated.exact_isFinite (h : Interpolated exact x) : x.isFinite := by
  cases h <;> rfl

/-! ### Usable values -/

theorem mem_usable_nonneg {q : ℚ} (h : q ∈ usable values) : 0 ≤ q := by
  obtain ⟨y, -, hy⟩ := List.mem_filterMap.mp h
  cases y with
  | finite a =>
    simp only at hy
    split at hy
    · next ha =>
      cases hy
      exact ha
    · cases hy
  | nan => cases hy
  | inf negative => cases hy

theorem length_usable_le (values : List Double) : (usable values).length ≤ values.length :=
  List.length_filterMap_le _ _

/-- A later value of a sorted list is no smaller. -/
theorem sorted_le {xs : List ℚ} {i j : Nat} {a b : ℚ} (hij : i ≤ j)
    (hi : xs.mergeSort[i]? = some a) (hj : xs.mergeSort[j]? = some b) : a ≤ b := by
  obtain ⟨hilt, rfl⟩ := List.getElem?_eq_some_iff.mp hi
  obtain ⟨hjlt, rfl⟩ := List.getElem?_eq_some_iff.mp hj
  rcases hij.eq_or_lt with rfl | hlt
  · exact le_rfl
  · exact List.pairwise_iff_getElem.mp (pairwise_sorted xs) i j hilt hjlt hlt

/-- An item within a list. -/
theorem exists_item {xs : List ℚ} {i : ℤ} (hlow : 0 ≤ i) (hhigh : i < xs.length) :
    ∃ q, xs[i.toNat]? = some q ∧ item xs i = .ok (.finite q) := by
  have hlt : i.toNat < xs.length := by omega
  refine ⟨xs[i.toNat], List.getElem?_eq_getElem hlt, ?_⟩
  unfold item
  simp only
  rw [if_neg (by omega), if_neg (by omega), List.getElem?_eq_getElem hlt]

/-! ### Positions -/

private theorem close_bounds {q r : ℚ} (h : |r - q| ≤ q / 2 ^ 53) :
    q * (1 - 1 / 2 ^ 53) ≤ r ∧ r ≤ q * (1 + 1 / 2 ^ 53) := by
  obtain ⟨hlow, hhigh⟩ := abs_le.mp h
  constructor
  · calc
      q * (1 - 1 / 2 ^ 53) = q - q / 2 ^ 53 := by ring
      _ ≤ r := by linarith
  · calc
      r ≤ q + q / 2 ^ 53 := by linarith
      _ = q * (1 + 1 / 2 ^ 53) := by ring

/-- The position of a quantile lies between the first and the last. -/
private theorem exists_position {n : Nat} (hn : n < 2 ^ 63) (hlow : 1 / 2 ≤ p)
    (hhigh : p ≤ 99 / 100) :
    ∃ s y, R.ofInt n = .ok (.finite s) ∧ R.mul (.finite s) (R.round p) = .finite y ∧
      0 ≤ y ∧ y ≤ n ∧ R.round y = .finite y := by
  obtain ⟨r, hr, hrclose⟩ := R.close p hlow (by linarith)
  obtain ⟨hrlow, hrhigh⟩ := close_bounds hrclose
  rcases Nat.eq_zero_or_pos n with rfl | hpos
  · refine ⟨0, 0, ?_, ?_, le_rfl, ?_, R.round_zero⟩
    · exact R.fitting_eq_ok.mpr ⟨by simpa using R.round_zero, 0, rfl⟩
    · rw [hr, Rounding.mul_finite, zero_mul, R.round_zero]
    · simp
  · have hone : (1 : ℚ) ≤ n := by exact_mod_cast hpos
    have hle : (n : ℚ) ≤ 2 ^ 63 := by exact_mod_cast hn.le
    obtain ⟨s, hs, hsclose⟩ := R.close n (by linarith) (by linarith)
    obtain ⟨hslow, hshigh⟩ := close_bounds hsclose
    have hspos : 0 ≤ s := by linarith
    have hrpos : 0 ≤ r := by linarith
    have hprod : s * r ≤ n * (99 / 100 * (1 + 1 / 2 ^ 53) ^ 2) := by
      calc
        s * r ≤ (n * (1 + 1 / 2 ^ 53)) * (99 / 100 * (1 + 1 / 2 ^ 53)) := by
          refine mul_le_mul hshigh (hrhigh.trans ?_) hrpos (by positivity)
          exact mul_le_mul_of_nonneg_right hhigh (by norm_num)
        _ = n * (99 / 100 * (1 + 1 / 2 ^ 53) ^ 2) := by ring
    have hy : ∃ y, R.round (s * r) = .finite y ∧ 0 ≤ y ∧ y ≤ n := by
      by_cases hsmall : s * r ≤ 1
      · obtain ⟨y, hy, hy0, hy1⟩ := R.round_mem_unit (mul_nonneg hspos hrpos) hsmall
        exact ⟨y, hy, hy0, hy1.trans hone⟩
      · obtain ⟨y, hy, hyclose⟩ := R.close (s * r) (by linarith) (by linarith)
        obtain ⟨hylow, hyhigh⟩ := close_bounds hyclose
        refine ⟨y, hy, by linarith, ?_⟩
        calc
          y ≤ s * r * (1 + 1 / 2 ^ 53) := hyhigh
          _ ≤ n * (99 / 100 * (1 + 1 / 2 ^ 53) ^ 2) * (1 + 1 / 2 ^ 53) :=
            mul_le_mul_of_nonneg_right hprod (by norm_num)
          _ ≤ n := by linarith
    obtain ⟨y, hy, hy0, hyn⟩ := hy
    refine ⟨s, y, R.fitting_eq_ok.mpr ⟨by simpa using hs, s, rfl⟩, ?_, hy0, hyn, R.round_round hy⟩
    rw [hr, Rounding.mul_finite, hy]

/-! ### Quantiles -/

theorem quantile_of_unusable (hempty : usable values = []) (q : Double) :
    quantile R values q =
      .error (.valueError "usage series has no finite non-negative values") := by
  simp [quantile, hempty]

theorem sorted_usable_ne_nil (hne : usable values ≠ []) : (usable values).mergeSort ≠ [] := by
  intro hnil
  have hlen := (List.mergeSort_perm (usable values) (fun a b ↦ decide (a ≤ b))).length_eq
  rw [hnil] at hlen
  exact hne (List.eq_nil_of_length_eq_zero hlen.symm)

/-- A quantile is a value of the series, or lies between two of them. -/
theorem exists_quantile (hne : usable values ≠ []) (hlength : values.length < 2 ^ 63)
    (hlow : 1 / 2 ≤ p) (hhigh : p ≤ 99 / 100) :
    ∃ x, quantile R values (R.round p) = .ok x ∧ Interpolated R x := by
  have hordered := sorted_usable_ne_nil hne
  have hlen : (usable values).mergeSort.length ≤ values.length := by
    rw [List.length_mergeSort]
    exact length_usable_le values
  have hnonneg : ∀ {i : Nat} {a : ℚ}, (usable values).mergeSort[i]? = some a → 0 ≤ a := by
    intro i a ha
    exact mem_usable_nonneg (List.mem_mergeSort.mp (List.mem_of_getElem? ha))
  have hpos := List.length_pos_iff.mpr hordered
  generalize hxs : (usable values).mergeSort = xs at *
  obtain ⟨s, y, hs, hy, hy0, hyn, hround⟩ :=
    exists_position (R := R) (n := xs.length - 1) (by omega) hlow hhigh
  have hcast : ((xs.length - 1 : Nat) : ℤ) = (xs.length : ℤ) - 1 := by omega
  rw [hcast] at hs
  have hfloor : 0 ≤ ⌊y⌋ := Int.floor_nonneg.mpr hy0
  have hceil : ⌈y⌉ < xs.length := by
    have hle : ⌈y⌉ ≤ ((xs.length - 1 : Nat) : ℤ) := Int.ceil_le.mpr (by exact_mod_cast hyn)
    omega
  have hfc : ⌊y⌋ ≤ ⌈y⌉ := Int.floor_le_ceil y
  obtain ⟨a, ha, hitem⟩ := exists_item hfloor (by omega : ⌊y⌋ < xs.length)
  obtain ⟨b, hb, hitem'⟩ := exists_item (by omega : 0 ≤ ⌈y⌉) hceil
  unfold quantile
  simp only
  rw [hxs, if_neg hordered, hs]
  show ∃ x, (computed (R.mul (.finite s) (R.round p)).floor >>= _) = .ok x ∧ Interpolated R x
  rw [hy]
  show ∃ x, (if ⌊y⌋ = ⌈y⌉ then item xs ⌊y⌋ else item xs ⌊y⌋ >>= _) = .ok x ∧ Interpolated R x
  split
  · exact ⟨.finite a, hitem, .value a (hnonneg ha)⟩
  · obtain ⟨l, hl, -, hly⟩ := R.exists_round_of_mem R.round_zero hround
      (Int.cast_nonneg hfloor) (Int.floor_le y)
    have hbelow : R.ofInt ⌊y⌋ = .ok (.finite l) := R.fitting_eq_ok.mpr ⟨hl, l, rfl⟩
    have hab : a ≤ b := by
      rw [← hxs] at ha hb
      exact sorted_le (by omega) ha hb
    rw [hitem]
    show ∃ x, (item xs ⌈y⌉ >>= _) = .ok x ∧ Interpolated R x
    rw [hitem']
    show ∃ x, (computed (R.ofInt ⌊y⌋) >>= _) = .ok x ∧ Interpolated R x
    rw [hbelow]
    exact ⟨_, rfl, .between a b (y - l) (hnonneg ha) hab (sub_nonneg.mpr hly)⟩

/-- Every quantile of a series with one usable value is that value. -/
theorem quantile_of_usable_single {q : ℚ} (h : usable values = [q]) (hlow : 1 / 2 ≤ p)
    (hhigh : p ≤ 99 / 100) : quantile R values (R.round p) = .ok (.finite q) := by
  obtain ⟨r, hr, -⟩ := R.close p hlow (by linarith)
  have hsize : R.ofInt (([q].length : ℤ) - 1) = .ok (.finite 0) :=
    R.fitting_eq_ok.mpr ⟨by simpa using R.round_zero, 0, rfl⟩
  unfold quantile
  rw [h, List.mergeSort_singleton, hr]
  simp only
  rw [if_neg (List.cons_ne_nil q []), hsize]
  show (computed (R.mul (.finite 0) (.finite r)).floor >>= _) = _
  rw [Rounding.mul_finite, zero_mul, R.round_zero]
  simp only [Double.floor, Double.ceil, Double.toInt, Int.floor_zero, Int.ceil_zero, computed_ok]
  rfl

/-! ### Percentiles -/

variable {series : UsageSeries}

theorem percentiles_of_unusable (hempty : usable series.values = []) :
    percentiles R series =
      .error (.valueError "usage series has no finite non-negative values") := by
  unfold percentiles
  rw [quantile_of_unusable hempty]
  rfl

theorem exists_percentiles (hne : usable series.values ≠ []) :
    ∃ p, percentiles R series = .ok p ∧ Interpolated R p.p95 := by
  obtain ⟨p50, h50, hi50⟩ := exists_quantile (R := R) (p := 50 / 100) hne series.values_length
    (by norm_num) (by norm_num)
  obtain ⟨p95, h95, hi95⟩ := exists_quantile (R := R) (p := 95 / 100) hne series.values_length
    (by norm_num) (by norm_num)
  obtain ⟨p99, h99, hi99⟩ := exists_quantile (R := R) (p := 99 / 100) hne series.values_length
    (by norm_num) (by norm_num)
  have hbounds : AtLeast 0 p50 ∧ AtLeast 0 p95 ∧ AtLeast 0 p99 :=
    ⟨hi50.atLeast, hi95.atLeast, hi99.atLeast⟩
  refine ⟨⟨p50, p95, p99, hbounds.1, hbounds.2.1, hbounds.2.2⟩, ?_, hi95⟩
  unfold percentiles
  rw [h50, h95, h99]
  exact dif_pos hbounds

theorem percentiles_of_usable_single {q : ℚ} (hq : AtLeast 0 (.finite q))
    (h : usable series.values = [q]) :
    percentiles R series = .ok ⟨.finite q, .finite q, .finite q, hq, hq, hq⟩ := by
  unfold percentiles
  rw [quantile_of_usable_single h (by norm_num) (by norm_num),
    quantile_of_usable_single h (by norm_num) (by norm_num),
    quantile_of_usable_single h (by norm_num) (by norm_num)]
  exact dif_pos ⟨hq, hq, hq⟩

/-- A series has percentiles when it has a usable value. -/
theorem percentiles_eq_ok {p : Percentiles} (h : percentiles R series = .ok p) :
    usable series.values ≠ [] ∧ Interpolated R p.p95 := by
  by_cases hempty : usable series.values = []
  · rw [percentiles_of_unusable hempty] at h
    cases h
  · obtain ⟨p', hp', hinter⟩ := exists_percentiles (R := R) hempty
    rw [hp'] at h
    cases h
    exact ⟨hempty, hinter⟩

end CloudWard.Finops
