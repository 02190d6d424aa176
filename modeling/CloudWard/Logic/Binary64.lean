import CloudWard.Logic.Doubles
import Mathlib.Data.Int.Log
import Mathlib.Algebra.Order.Field.Power
import Mathlib.Tactic.Ring
import Mathlib.Tactic.NormNum

/-!
# Rounding to binary64

Library `Logic`. A number is rounded to a multiple of its last place, which is 52 binary places
below its first and never below the smallest subnormal number; what is then too large is an
infinity. The rounding is monotone because a power of two is a multiple of every last place below
it.
-/

namespace CloudWard.Logic

theorem roundHalfEven_neg (q : ℚ) : roundHalfEven (-q) = -roundHalfEven q := by
  have hfloor := Int.floor_le q
  have hlt := Int.lt_floor_add_one q
  by_cases hint : q = ⌊q⌋
  · rw [hint, ← Int.cast_neg, roundHalfEven_intCast, roundHalfEven_intCast]
  · have hneg : ⌊-q⌋ = -⌊q⌋ - 1 := by
      rw [Int.floor_eq_iff]
      push_cast
      constructor
      · linarith
      · linarith [lt_of_le_of_ne hfloor (Ne.symm hint)]
    have hparity : Even (-⌊q⌋ - 1) ↔ ¬ Even ⌊q⌋ := by
      rw [Int.even_iff, Int.even_iff]
      omega
    unfold roundHalfEven
    rw [hneg]
    push_cast
    rcases lt_trichotomy (q - ⌊q⌋) (1 / 2) with hlow | hhalf | hhigh
    · rw [if_neg, if_pos (.inl hlow)]
      · ring
      · rintro (h | ⟨h, -⟩) <;> linarith
    · by_cases heven : Even ⌊q⌋
      · rw [if_neg, if_pos (.inr ⟨hhalf, heven⟩)]
        · ring
        · rintro (h | ⟨-, h⟩)
          · linarith
          · exact hparity.mp h heven
      · rw [if_pos (.inr ⟨by linarith, hparity.mpr heven⟩), if_neg]
        · ring
        · rintro (h | ⟨-, h⟩)
          · linarith
          · exact heven h
    · rw [if_pos (.inl (by linarith)), if_neg]
      · ring
      · rintro (h | ⟨h, -⟩) <;> linarith

/-- The exponent of the last place of a number. -/
def lastPlace (q : ℚ) : ℤ := max (Int.log 2 |q| - 52) (-1074)

/-- The multiple of the last place that is closest. -/
def rounded (q : ℚ) : ℚ := roundHalfEven (q / 2 ^ lastPlace q) * 2 ^ lastPlace q

/-- What is as large as this is an infinity. -/
def overflowLimit : ℚ := 2 ^ 1024

/-- The closest number of 53 binary places, or an infinity. -/
def roundBinary64 (q : ℚ) : Double :=
  if |rounded q| < overflowLimit then .finite (rounded q) else .inf (rounded q < 0)

/-! ### Powers of two -/

private theorem two_zpow_pos (e : ℤ) : (0 : ℚ) < 2 ^ e := zpow_pos (by norm_num) e

private theorem zpow_lt_overflowLimit : (2 : ℚ) ^ (64 : ℤ) < overflowLimit := by
  show (2 : ℚ) ^ 64 < 2 ^ 1024
  exact pow_lt_pow_right₀ (by norm_num) (by norm_num)

/-- A power of two is a multiple of a smaller one. -/
private theorem exists_zpow_eq {e k : ℤ} (h : e ≤ k) : ∃ m : ℤ, (2 : ℚ) ^ k / 2 ^ e = m := by
  refine ⟨2 ^ (k - e).toNat, ?_⟩
  rw [← zpow_sub₀ (by norm_num : (2 : ℚ) ≠ 0), Int.cast_pow, Int.cast_ofNat, ← zpow_natCast,
    Int.toNat_of_nonneg (by omega)]

private theorem rounded_le_zpow {q : ℚ} {k : ℤ} (hplace : lastPlace q ≤ k) (h : q ≤ 2 ^ k) :
    rounded q ≤ 2 ^ k := by
  obtain ⟨m, hm⟩ := exists_zpow_eq hplace
  have hle : q / 2 ^ lastPlace q ≤ m := by
    rw [← hm]
    exact div_le_div_of_nonneg_right h (two_zpow_pos _).le
  have hround : (roundHalfEven (q / 2 ^ lastPlace q) : ℚ) ≤ m :=
    Int.cast_le.mpr (roundHalfEven_le_of_le hle)
  calc
    rounded q ≤ m * 2 ^ lastPlace q := mul_le_mul_of_nonneg_right hround (two_zpow_pos _).le
    _ = 2 ^ k := by rw [← hm, div_mul_cancel₀ _ (two_zpow_pos _).ne']

private theorem zpow_le_rounded {q : ℚ} {k : ℤ} (hplace : lastPlace q ≤ k) (h : 2 ^ k ≤ q) :
    2 ^ k ≤ rounded q := by
  obtain ⟨m, hm⟩ := exists_zpow_eq hplace
  have hle : (m : ℚ) ≤ q / 2 ^ lastPlace q := by
    rw [← hm]
    exact div_le_div_of_nonneg_right h (two_zpow_pos _).le
  have hround : (m : ℚ) ≤ roundHalfEven (q / 2 ^ lastPlace q) :=
    Int.cast_le.mpr (le_roundHalfEven_of_le hle)
  calc
    (2 : ℚ) ^ k = m * 2 ^ lastPlace q := by rw [← hm, div_mul_cancel₀ _ (two_zpow_pos _).ne']
    _ ≤ rounded q := mul_le_mul_of_nonneg_right hround (two_zpow_pos _).le

/-! ### Monotony -/

theorem rounded_zero : rounded 0 = 0 := by
  have hzero : roundHalfEven 0 = 0 := by
    exact_mod_cast roundHalfEven_intCast 0
  rw [rounded, zero_div, hzero, Int.cast_zero, zero_mul]

theorem rounded_neg (q : ℚ) : rounded (-q) = -rounded q := by
  have hplace : lastPlace (-q) = lastPlace q := by
    rw [lastPlace, lastPlace, abs_neg]
  rw [rounded, rounded, hplace, neg_div, roundHalfEven_neg, Int.cast_neg, neg_mul]

theorem rounded_nonneg {q : ℚ} (h : 0 ≤ q) : 0 ≤ rounded q := by
  have hround : 0 ≤ roundHalfEven (q / 2 ^ lastPlace q) :=
    le_roundHalfEven_of_le (by
      rw [Int.cast_zero]
      exact div_nonneg h (two_zpow_pos _).le)
  exact mul_nonneg (Int.cast_nonneg hround) (two_zpow_pos _).le

private theorem rounded_le_of_pos {p q : ℚ} (hp : 0 < p) (h : p ≤ q) : rounded p ≤ rounded q := by
  have hq := hp.trans_le h
  have hlog : Int.log 2 p ≤ Int.log 2 q := Int.log_mono_right hp h
  have hplaces : lastPlace p ≤ lastPlace q := by
    rw [lastPlace, lastPlace, abs_of_pos hp, abs_of_pos hq]
    omega
  by_cases heq : lastPlace p = lastPlace q
  · have hround : roundHalfEven (p / 2 ^ lastPlace q) ≤ roundHalfEven (q / 2 ^ lastPlace q) :=
      roundHalfEven_mono (div_le_div_of_nonneg_right h (two_zpow_pos _).le)
    rw [rounded, rounded, heq]
    exact mul_le_mul_of_nonneg_right (Int.cast_le.mpr hround) (two_zpow_pos _).le
  · -- the first place of `q` is above that of `p`: the power of two there separates them
    have hp' : lastPlace p = max (Int.log 2 p - 52) (-1074) := by
      rw [lastPlace, abs_of_pos hp]
    have hq' : lastPlace q = max (Int.log 2 q - 52) (-1074) := by
      rw [lastPlace, abs_of_pos hq]
    have hbelow : p ≤ 2 ^ Int.log 2 q := by
      have hlt := Int.lt_zpow_succ_log_self (b := 2) (by norm_num) p
      refine hlt.le.trans ?_
      rw [Nat.cast_ofNat]
      exact zpow_le_zpow_right₀ (by norm_num) (by omega)
    have habove : 2 ^ Int.log 2 q ≤ q := by
      have hle := Int.zpow_log_le_self (b := 2) (by norm_num) hq
      rwa [Nat.cast_ofNat] at hle
    exact (rounded_le_zpow (by omega) hbelow).trans (zpow_le_rounded (by omega) habove)

theorem rounded_mono : Monotone rounded := by
  intro p q h
  rcases lt_trichotomy p 0 with hp | rfl | hp
  · by_cases hq : 0 ≤ q
    · have hnonpos : 0 ≤ rounded (-p) := rounded_nonneg (by linarith)
      rw [rounded_neg] at hnonpos
      linarith [rounded_nonneg hq]
    · have hneg := rounded_le_of_pos (p := -q) (q := -p) (by linarith) (by linarith)
      rw [rounded_neg, rounded_neg] at hneg
      linarith
  · rw [rounded_zero]
    exact rounded_nonneg h
  · exact rounded_le_of_pos hp h

private theorem roundBinary64_mono {p q : ℚ} (h : p ≤ q) : roundBinary64 p ≤ roundBinary64 q := by
  have hle := rounded_mono h
  unfold roundBinary64
  by_cases hp : |rounded p| < overflowLimit
  · rw [if_pos hp]
    by_cases hq : |rounded q| < overflowLimit
    · rw [if_pos hq]
      exact hle
    · rw [if_neg hq]
      have hnot : ¬ rounded q < 0 := by
        intro hneg
        rw [abs_of_neg hneg] at hq
        have hlow := (abs_lt.mp hp).1
        linarith
      rw [Double.finite_le_inf]
      exact decide_eq_false hnot
  · rw [if_neg hp]
    by_cases hsign : rounded p < 0
    · rw [decide_eq_true hsign]
      split
      · rfl
      · exact .inl rfl
    · have hlarge : ¬ |rounded q| < overflowLimit := by
        rw [abs_of_nonneg (not_lt.mp hsign)] at hp
        rw [abs_of_nonneg ((not_lt.mp hsign).trans hle)]
        linarith
      rw [if_neg hlarge, Double.inf_le_inf]
      exact .inr (decide_eq_false (by linarith))

/-! ### Small numbers -/

private theorem abs_rounded_sub_le (q : ℚ) : |rounded q - q| ≤ 2 ^ lastPlace q / 2 := by
  have hpos := two_zpow_pos (lastPlace q)
  have herror := mul_le_mul_of_nonneg_right (abs_roundHalfEven_sub_le (q / 2 ^ lastPlace q)) hpos.le
  have hscale : |(roundHalfEven (q / 2 ^ lastPlace q) : ℚ) - q / 2 ^ lastPlace q| *
      2 ^ lastPlace q = |rounded q - q| := by
    rw [← abs_of_pos hpos, ← abs_mul, abs_of_pos hpos, sub_mul, div_mul_cancel₀ _ hpos.ne']
    rfl
  rw [hscale] at herror
  linarith

private theorem roundBinary64_of_le {q : ℚ} (hhalf : 1 / 2 ≤ q) (hle : q ≤ 2 ^ 64) :
    roundBinary64 q = .finite (rounded q) ∧ |rounded q - q| ≤ q / 2 ^ 53 := by
  have hpos : 0 < q := by linarith
  have hlow : -1 ≤ Int.log 2 q := by
    have hlog := Int.log_mono_right (b := 2) (by norm_num : (0 : ℚ) < 1 / 2) hhalf
    have hpow := Int.log_zpow (R := ℚ) (b := 2) (by norm_num) (-1)
    rw [Nat.cast_ofNat] at hpow
    rwa [show (1 / 2 : ℚ) = 2 ^ (-1 : ℤ) by norm_num, hpow] at hlog
  have hhigh : Int.log 2 q ≤ 64 := by
    have hlog := Int.log_mono_right (b := 2) hpos hle
    have hpow := Int.log_zpow (R := ℚ) (b := 2) (by norm_num) 64
    rw [Nat.cast_ofNat] at hpow
    rwa [show (2 : ℚ) ^ 64 = 2 ^ (64 : ℤ) from rfl, hpow] at hlog
  have hplace : lastPlace q = Int.log 2 q - 52 := by
    rw [lastPlace, abs_of_pos hpos]
    omega
  constructor
  · have hbound : rounded q ≤ 2 ^ (64 : ℤ) := rounded_le_zpow (by omega) hle
    unfold roundBinary64
    rw [if_pos]
    rw [abs_of_nonneg (rounded_nonneg hpos.le)]
    exact hbound.trans_lt zpow_lt_overflowLimit
  · refine (abs_rounded_sub_le q).trans ?_
    have hself := Int.zpow_log_le_self (b := 2) (by norm_num) hpos
    rw [Nat.cast_ofNat] at hself
    rw [hplace, zpow_sub₀ (by norm_num)]
    calc
      (2 : ℚ) ^ Int.log 2 q / 2 ^ (52 : ℤ) / 2 = 2 ^ Int.log 2 q / 2 ^ 53 := by
        rw [div_div]
        norm_num
      _ ≤ q / 2 ^ 53 := div_le_div_of_nonneg_right hself (by norm_num)

/-! ### Numbers that are rounded already -/

/-- What is rounded is a multiple of its own last place. -/
private theorem exists_rounded_div {q : ℚ} (hq : 0 < q) (hr : 0 < rounded q) :
    ∃ m : ℤ, rounded q / 2 ^ lastPlace (rounded q) = m := by
  have hplace : lastPlace q = max (Int.log 2 q - 52) (-1074) := by
    rw [lastPlace, abs_of_pos hq]
  have hplace' : lastPlace (rounded q) = max (Int.log 2 (rounded q) - 52) (-1074) := by
    rw [lastPlace, abs_of_pos hr]
  by_cases hle : lastPlace (rounded q) ≤ lastPlace q
  · obtain ⟨m, hm⟩ := exists_zpow_eq hle
    refine ⟨roundHalfEven (q / 2 ^ lastPlace q) * m, ?_⟩
    rw [Int.cast_mul, ← hm, ← mul_div_assoc]
    rfl
  · -- only a power of two has gained a place
    have hbelow : q ≤ 2 ^ Int.log 2 (rounded q) := by
      have hlt := Int.lt_zpow_succ_log_self (b := 2) (by norm_num) q
      rw [Nat.cast_ofNat] at hlt
      exact hlt.le.trans (zpow_le_zpow_right₀ (by norm_num) (by omega))
    have hself := Int.zpow_log_le_self (b := 2) (by norm_num) hr
    rw [Nat.cast_ofNat] at hself
    have heq : rounded q = 2 ^ Int.log 2 (rounded q) :=
      le_antisymm (rounded_le_zpow (by omega) hbelow) hself
    obtain ⟨m, hm⟩ := exists_zpow_eq (e := lastPlace (rounded q)) (k := Int.log 2 (rounded q))
      (by omega)
    refine ⟨m, ?_⟩
    rw [← hm, ← heq]

private theorem rounded_rounded_of_pos {q : ℚ} (hq : 0 < q) : rounded (rounded q) = rounded q := by
  rcases (rounded_nonneg hq.le).eq_or_lt with hzero | hr
  · rw [← hzero, rounded_zero]
  · obtain ⟨m, hm⟩ := exists_rounded_div hq hr
    rw [rounded, hm, roundHalfEven_intCast, ← hm, div_mul_cancel₀ _ (two_zpow_pos _).ne']

theorem rounded_rounded (q : ℚ) : rounded (rounded q) = rounded q := by
  rcases lt_trichotomy q 0 with hneg | rfl | hpos
  · have hflip := rounded_rounded_of_pos (q := -q) (by linarith)
    rw [rounded_neg, rounded_neg] at hflip
    exact neg_injective hflip
  · rw [rounded_zero, rounded_zero]
  · exact rounded_rounded_of_pos hpos

private theorem roundBinary64_round {q r : ℚ} (h : roundBinary64 q = .finite r) :
    roundBinary64 r = .finite r := by
  unfold roundBinary64 at h
  split at h
  · next hlt =>
    cases h
    rw [roundBinary64, rounded_rounded, if_pos hlt]
  · cases h

private theorem roundBinary64_zero : roundBinary64 0 = .finite 0 := by
  rw [roundBinary64, rounded_zero, abs_zero, if_pos]
  exact (two_zpow_pos 64).trans zpow_lt_overflowLimit

private theorem roundBinary64_one : roundBinary64 1 = .finite 1 := by decide +kernel

private theorem exists_roundBinary64 (q : ℚ) (hhalf : 1 / 2 ≤ q) (hle : q ≤ 2 ^ 64) :
    ∃ r, roundBinary64 q = .finite r ∧ |r - q| ≤ q / 2 ^ 53 :=
  ⟨rounded q, roundBinary64_of_le hhalf hle⟩

/-- The floating-point numbers of Python. -/
def binary64 : Rounding where
  round := roundBinary64
  mono := roundBinary64_mono
  round_zero := roundBinary64_zero
  round_one := roundBinary64_one
  round_round := roundBinary64_round
  close := exists_roundBinary64

/-- The closest number to the opposite is the opposite. -/
theorem binary64_round_neg {q r : ℚ} (h : binary64.round q = .finite r) :
    binary64.round (-q) = .finite (-r) := by
  show roundBinary64 (-q) = .finite (-r)
  have hround : roundBinary64 q = .finite r := h
  unfold roundBinary64 at hround ⊢
  split at hround
  · next hlt =>
    cases hround
    rw [rounded_neg, abs_neg, if_pos hlt]
  · cases hround

example : binary64.round (1 / 10) = .finite (3602879701896397 / 2 ^ 55) := by decide +kernel

end CloudWard.Logic
