import Mathlib.Data.Rat.Floor
import Mathlib.Algebra.Order.Floor.Ring
import Mathlib.Algebra.Order.Field.Basic
import Mathlib.Data.Int.ConditionallyCompleteOrder
import Mathlib.Tactic.Linarith
import Mathlib.Tactic.Positivity

/-!
# Floating-point numbers

Library `Logic`. A number is a rational, an infinity or not a number; the signs of zeros are not
kept. An operation on rationals computes the exact result and rounds it, and how it rounds is a
parameter: `Rounding` is what every rounding shares, and `exact` does not round at all. Comparisons
with NaN are false.
-/

namespace CloudWard.Logic

/-! ### The closest integer -/

/-- The integer closest to a number, and the even one of two. -/
def roundHalfEven (q : ℚ) : ℤ :=
  if q - ⌊q⌋ < 1 / 2 ∨ q - ⌊q⌋ = 1 / 2 ∧ Even ⌊q⌋ then ⌊q⌋ else ⌊q⌋ + 1

theorem roundHalfEven_intCast (n : ℤ) : roundHalfEven n = n := by
  simp [roundHalfEven]

theorem floor_le_roundHalfEven (q : ℚ) : ⌊q⌋ ≤ roundHalfEven q := by
  unfold roundHalfEven
  split
  · exact le_rfl
  · omega

theorem roundHalfEven_le (q : ℚ) : roundHalfEven q ≤ ⌊q⌋ + 1 := by
  unfold roundHalfEven
  split
  · omega
  · exact le_rfl

theorem roundHalfEven_mono : Monotone roundHalfEven := by
  intro p q h
  have hfloor : ⌊p⌋ ≤ ⌊q⌋ := Int.floor_mono h
  by_cases heq : ⌊p⌋ = ⌊q⌋
  · unfold roundHalfEven
    rw [heq]
    split
    · split
      · exact le_rfl
      · omega
    · next hp =>
      rw [if_neg]
      rintro (hlt | ⟨hhalf, heven⟩)
      · exact hp (.inl (by linarith))
      · by_cases hlow : p - ⌊q⌋ < 1 / 2
        · exact hp (.inl hlow)
        · exact hp (.inr ⟨by linarith, heven⟩)
  · calc
      roundHalfEven p ≤ ⌊p⌋ + 1 := roundHalfEven_le p
      _ ≤ ⌊q⌋ := by omega
      _ ≤ roundHalfEven q := floor_le_roundHalfEven q

theorem abs_roundHalfEven_sub_le (q : ℚ) : |(roundHalfEven q : ℚ) - q| ≤ 1 / 2 := by
  have hfloor := Int.floor_le q
  have hlt := Int.lt_floor_add_one q
  unfold roundHalfEven
  split
  · next hlow =>
    rcases hlow with hlow | ⟨hhalf, -⟩
    · rw [abs_le]
      constructor <;> linarith
    · rw [abs_le]
      constructor <;> linarith
  · next hhigh =>
    have hge : 1 / 2 ≤ q - ⌊q⌋ := by
      by_contra hlow
      exact hhigh (.inl (by linarith))
    push_cast
    rw [abs_le]
    constructor <;> linarith

/-- An integer above a number is above what the number rounds to. -/
theorem roundHalfEven_le_of_le {q : ℚ} {n : ℤ} (h : q ≤ n) : roundHalfEven q ≤ n := by
  have hmono := roundHalfEven_mono h
  rwa [roundHalfEven_intCast] at hmono

theorem le_roundHalfEven_of_le {q : ℚ} {n : ℤ} (h : n ≤ q) : n ≤ roundHalfEven q := by
  have hmono := roundHalfEven_mono h
  rwa [roundHalfEven_intCast] at hmono

/-! ### Numbers -/

/-- A floating-point number. -/
inductive Double
  | nan
  | inf (negative : Bool)
  | finite (q : ℚ)
deriving DecidableEq

namespace Double

/-- `x <= y`. -/
def le : Double → Double → Prop
  | .finite a, .finite b => a ≤ b
  | .finite _, .inf negative => negative = false
  | .inf negative, .finite _ => negative = true
  | .inf s, .inf t => s = true ∨ t = false
  | _, _ => False

instance instLE : LE Double := ⟨le⟩

instance decidableLE : DecidableLE Double
  | .finite a, .finite b => inferInstanceAs (Decidable (a ≤ b))
  | .finite _, .inf negative => inferInstanceAs (Decidable (negative = false))
  | .inf negative, .finite _ => inferInstanceAs (Decidable (negative = true))
  | .inf s, .inf t => inferInstanceAs (Decidable (s = true ∨ t = false))
  | .nan, _ => isFalse id
  | .finite _, .nan => isFalse id
  | .inf _, .nan => isFalse id

/-- `x < y`. -/
instance instLT : LT Double := ⟨fun x y ↦ x ≤ y ∧ ¬ y ≤ x⟩

instance decidableLT : DecidableLT Double := fun x y ↦
  inferInstanceAs (Decidable (x ≤ y ∧ ¬ y ≤ x))

/-- `math.isfinite(x)`. -/
def isFinite : Double → Bool
  | .finite _ => true
  | _ => false

@[simp] theorem finite_le_finite {a b : ℚ} : finite a ≤ finite b ↔ a ≤ b := Iff.rfl

@[simp] theorem finite_lt_finite {a b : ℚ} : finite a < finite b ↔ a < b := by
  show a ≤ b ∧ ¬ b ≤ a ↔ a < b
  constructor
  · intro h
    exact lt_of_not_ge h.2
  · intro h
    exact ⟨h.le, not_le_of_gt h⟩

@[simp] theorem not_nan_le (x : Double) : ¬ nan ≤ x := id

@[simp] theorem not_le_nan (x : Double) : ¬ x ≤ nan := by
  cases x <;> exact id

@[simp] theorem not_nan_lt (x : Double) : ¬ nan < x := fun h ↦ h.1

@[simp] theorem not_lt_nan (x : Double) : ¬ x < nan := fun h ↦ not_le_nan x h.1

@[simp] theorem finite_le_inf {a : ℚ} {negative : Bool} :
    finite a ≤ inf negative ↔ negative = false := Iff.rfl

@[simp] theorem inf_le_finite {a : ℚ} {negative : Bool} :
    inf negative ≤ finite a ↔ negative = true := Iff.rfl

@[simp] theorem inf_le_inf {s t : Bool} : inf s ≤ inf t ↔ s = true ∨ t = false := Iff.rfl

@[simp] theorem finite_lt_inf {a : ℚ} {negative : Bool} :
    finite a < inf negative ↔ negative = false := by
  show (negative = false ∧ ¬ negative = true) ↔ negative = false
  cases negative <;> simp

@[simp] theorem inf_lt_finite {a : ℚ} {negative : Bool} :
    inf negative < finite a ↔ negative = true := by
  show (negative = true ∧ ¬ negative = false) ↔ negative = true
  cases negative <;> simp

@[simp] theorem inf_lt_inf {s t : Bool} : inf s < inf t ↔ s = true ∧ t = false := by
  show ((s = true ∨ t = false) ∧ ¬ (t = true ∨ s = false)) ↔ s = true ∧ t = false
  cases s <;> cases t <;> simp

theorem isFinite_iff {x : Double} : x.isFinite ↔ ∃ q, x = .finite q := by
  cases x <;> simp [isFinite]

theorem le_trans {x y z : Double} (hxy : x ≤ y) (hyz : y ≤ z) : x ≤ z := by
  cases x with
  | nan => exact absurd hxy (not_nan_le y)
  | inf s =>
    cases y with
    | nan => exact absurd hxy (not_le_nan _)
    | inf t => cases z <;> cases s <;> cases t <;> simp_all
    | finite b => cases z <;> simp_all
  | finite a =>
    cases y with
    | nan => exact absurd hxy (not_le_nan _)
    | inf t => cases z <;> cases t <;> simp_all
    | finite b =>
      cases z with
      | finite c => exact Rat.le_trans hxy hyz
      | _ => simp_all

/-- `min(x, y)`. -/
def min (x y : Double) : Double := if y < x then y else x

/-- `max(x, y)`. -/
def max (x y : Double) : Double := if x < y then y else x

theorem min_finite (a b : ℚ) : min (.finite a) (.finite b) = .finite (Min.min a b) := by
  unfold min
  by_cases h : b < a
  · rw [if_pos (finite_lt_finite.mpr h), min_eq_right h.le]
  · rw [if_neg (fun hlt ↦ h (finite_lt_finite.mp hlt)), min_eq_left (le_of_not_gt h)]

theorem max_finite (a b : ℚ) : max (.finite a) (.finite b) = .finite (Max.max a b) := by
  unfold max
  by_cases h : a < b
  · rw [if_pos (finite_lt_finite.mpr h), max_eq_right h.le]
  · rw [if_neg (fun hlt ↦ h (finite_lt_finite.mp hlt)), max_eq_left (le_of_not_gt h)]

/-- The rational of a finite number. -/
def toRat : Double → ℚ
  | .finite q => q
  | _ => 0

@[simp] theorem toRat_finite (q : ℚ) : (finite q).toRat = q := rfl

theorem finite_toRat {x : Double} (h : x.isFinite) : .finite x.toRat = x := by
  cases x with
  | finite q => rfl
  | nan => cases h
  | inf negative => cases h

end Double

/-! ### Arithmetic -/

/-- What arithmetic raises. -/
inductive ArithmeticError
  | valueError
  | overflowError
  | zeroDivisionError
deriving DecidableEq

/-- What the roundings of numbers have in common. -/
structure Rounding where
  round : ℚ → Double
  mono : ∀ {a b}, a ≤ b → round a ≤ round b
  round_zero : round 0 = .finite 0
  round_one : round 1 = .finite 1
  round_round : ∀ {q r}, round q = .finite r → round r = .finite r
  close : ∀ q, 1 / 2 ≤ q → q ≤ 2 ^ 64 → ∃ r, round q = .finite r ∧ |r - q| ≤ q / 2 ^ 53

private theorem finite_close (q : ℚ) (h : 1 / 2 ≤ q) (_ : q ≤ 2 ^ 64) :
    ∃ r, Double.finite q = .finite r ∧ |r - q| ≤ q / 2 ^ 53 := by
  refine ⟨q, rfl, ?_⟩
  rw [sub_self, abs_zero]
  exact div_nonneg (by linarith) (by norm_num)

private theorem finite_finite {q r : ℚ} (_ : Double.finite q = .finite r) :
    Double.finite r = .finite r := rfl

/-- Numbers taken as exact rationals. -/
def exact : Rounding where
  round := .finite
  mono := id
  round_zero := rfl
  round_one := rfl
  round_round := finite_finite
  close := finite_close

namespace Rounding

variable (R : Rounding)

/-- `x + y`. -/
def add : Double → Double → Double
  | .finite a, .finite b => R.round (a + b)
  | .inf s, .inf t => if s = t then .inf s else .nan
  | .inf s, .finite _ => .inf s
  | .finite _, .inf t => .inf t
  | _, _ => .nan

/-- `x - y`. -/
def sub : Double → Double → Double
  | .finite a, .finite b => R.round (a - b)
  | .inf s, .inf t => if s = t then .nan else .inf s
  | .inf s, .finite _ => .inf s
  | .finite _, .inf t => .inf (!t)
  | _, _ => .nan

/-- `x * y`. -/
def mul : Double → Double → Double
  | .finite a, .finite b => R.round (a * b)
  | .inf s, .inf t => .inf (s ^^ t)
  | .inf s, .finite b => if b = 0 then .nan else .inf (s ^^ decide (b < 0))
  | .finite a, .inf t => if a = 0 then .nan else .inf (decide (a < 0) ^^ t)
  | _, _ => .nan

/-- `x / y`. -/
def div : Double → Double → Except ArithmeticError Double
  | x, .finite b =>
    if b = 0 then .error .zeroDivisionError
    else
      match x with
      | .finite a => .ok (R.round (a / b))
      | .inf s => .ok (.inf (s ^^ decide (b < 0)))
      | .nan => .ok .nan
  | .finite _, .inf _ => .ok (.finite 0)
  | _, _ => .ok .nan

/-- A number as a float, where it has one. -/
def fitting (q : ℚ) : Except ArithmeticError Double :=
  if (R.round q).isFinite then .ok (R.round q) else .error .overflowError

/-- `float(n)`. -/
def ofInt (n : ℤ) : Except ArithmeticError Double := R.fitting n

/-- `m / n` of integers. -/
def divInt (m n : ℤ) : Except ArithmeticError Double :=
  if n = 0 then .error .zeroDivisionError else R.fitting (m / n)

/-- `round(x, digits)`. -/
def roundTo (digits : Nat) : Double → Double
  | .finite q => R.round (roundHalfEven (q * 10 ^ digits) / 10 ^ digits)
  | x => x

end Rounding

namespace Double

/-- An integer of a number, where it is finite. -/
def toInt (f : ℚ → ℤ) : Double → Except ArithmeticError ℤ
  | .finite q => .ok (f q)
  | .inf _ => .error .overflowError
  | .nan => .error .valueError

/-- `math.ceil(x)`. -/
def ceil : Double → Except ArithmeticError ℤ := toInt fun q ↦ ⌈q⌉

/-- `math.floor(x)`. -/
def floor : Double → Except ArithmeticError ℤ := toInt fun q ↦ ⌊q⌋

/-- `round(x)`. -/
def nearest : Double → Except ArithmeticError ℤ := toInt roundHalfEven

end Double

/-! ### What every rounding keeps -/

namespace Rounding

variable (R : Rounding)

theorem round_ne_nan (q : ℚ) : R.round q ≠ .nan := by
  intro h
  have hle := R.mono (le_refl q)
  rw [h] at hle
  exact hle

theorem round_nonneg {q : ℚ} (h : 0 ≤ q) : .finite 0 ≤ R.round q := by
  rw [← R.round_zero]
  exact R.mono h

theorem round_le_one {q : ℚ} (h : q ≤ 1) : R.round q ≤ .finite 1 := by
  rw [← R.round_one]
  exact R.mono h

/-- Between two numbers that round to rationals. -/
theorem exists_round_of_mem {a b q r s : ℚ} (ha : R.round a = .finite r) (hb : R.round b = .finite s)
    (haq : a ≤ q) (hqb : q ≤ b) : ∃ x, R.round q = .finite x ∧ r ≤ x ∧ x ≤ s := by
  have hlow := R.mono haq
  have hhigh := R.mono hqb
  rw [ha] at hlow
  rw [hb] at hhigh
  cases hround : R.round q with
  | nan => exact absurd hround (R.round_ne_nan q)
  | inf negative =>
    rw [hround] at hlow hhigh
    simp only [Double.finite_le_inf, Double.inf_le_finite] at hlow hhigh
    rw [hlow] at hhigh
    cases hhigh
  | finite x =>
    rw [hround] at hlow hhigh
    exact ⟨x, rfl, hlow, hhigh⟩

/-- A number between zero and one rounds to one. -/
theorem round_mem_unit {q : ℚ} (hzero : 0 ≤ q) (hone : q ≤ 1) :
    ∃ r, R.round q = .finite r ∧ 0 ≤ r ∧ r ≤ 1 :=
  R.exists_round_of_mem R.round_zero R.round_one hzero hone

@[simp] theorem add_finite (a b : ℚ) : R.add (.finite a) (.finite b) = R.round (a + b) := rfl

@[simp] theorem sub_finite (a b : ℚ) : R.sub (.finite a) (.finite b) = R.round (a - b) := rfl

@[simp] theorem mul_finite (a b : ℚ) : R.mul (.finite a) (.finite b) = R.round (a * b) := rfl

theorem div_finite {a b : ℚ} (h : b ≠ 0) :
    R.div (.finite a) (.finite b) = .ok (R.round (a / b)) := if_neg h

theorem not_round_lt_zero {q : ℚ} (h : 0 ≤ q) : ¬ R.round q < .finite 0 :=
  fun hlt ↦ hlt.2 (R.round_nonneg h)

/-- A finite product is rounded already. -/
theorem round_of_mul_eq {x y : Double} {q : ℚ} (h : R.mul x y = .finite q) :
    R.round q = .finite q := by
  cases x with
  | nan => cases y <;> cases h
  | inf s =>
    cases y with
    | nan => cases h
    | inf t => cases h
    | finite b =>
      unfold mul at h
      simp only at h
      split at h <;> cases h
  | finite a =>
    cases y with
    | nan => cases h
    | inf t =>
      unfold mul at h
      simp only at h
      split at h <;> cases h
    | finite b => exact R.round_round h

/-- A sum of numbers that are not negative. -/
theorem not_add_lt_zero {x y : Double} (hx : ¬ x < .finite 0) (hy : ¬ y < .finite 0) :
    ¬ R.add x y < .finite 0 := by
  cases x with
  | nan => cases y <;> exact Double.not_nan_lt _
  | inf s =>
    cases y with
    | nan => exact Double.not_nan_lt _
    | inf t =>
      show ¬ (if s = t then .inf s else .nan) < Double.finite 0
      split
      · exact hx
      · exact Double.not_nan_lt _
    | finite b => exact hx
  | finite a =>
    cases y with
    | nan => exact Double.not_nan_lt _
    | inf t => exact hy
    | finite b =>
      rw [Double.finite_lt_finite, not_lt] at hx hy
      exact R.not_round_lt_zero (add_nonneg hx hy)

/-- A product of numbers that are not negative. -/
theorem not_mul_lt_zero {x y : Double} (hx : ¬ x < .finite 0) (hy : ¬ y < .finite 0) :
    ¬ R.mul x y < .finite 0 := by
  cases x with
  | nan => cases y <;> exact Double.not_nan_lt _
  | inf s =>
    rw [Double.inf_lt_finite, Bool.not_eq_true] at hx
    subst hx
    cases y with
    | nan => exact Double.not_nan_lt _
    | inf t =>
      rw [Double.inf_lt_finite, Bool.not_eq_true] at hy
      subst hy
      simp [mul]
    | finite b =>
      rw [Double.finite_lt_finite] at hy
      show ¬ (if b = 0 then .nan else .inf (false ^^ decide (b < 0))) < Double.finite 0
      split
      · exact Double.not_nan_lt _
      · simp [hy]
  | finite a =>
    cases y with
    | nan => exact Double.not_nan_lt _
    | inf t =>
      rw [Double.finite_lt_finite] at hx
      rw [Double.inf_lt_finite, Bool.not_eq_true] at hy
      subst hy
      show ¬ (if a = 0 then .nan else .inf (decide (a < 0) ^^ false)) < Double.finite 0
      split
      · exact Double.not_nan_lt _
      · simp [hx]
    | finite b =>
      rw [Double.finite_lt_finite, not_lt] at hx hy
      exact R.not_round_lt_zero (mul_nonneg hx hy)

theorem fitting_of_isFinite {q : ℚ} (h : (R.round q).isFinite) : R.fitting q = .ok (R.round q) :=
  if_pos h

theorem fitting_eq_ok {q : ℚ} {x : Double} :
    R.fitting q = .ok x ↔ R.round q = x ∧ ∃ r, x = .finite r := by
  unfold fitting
  split
  · next h =>
    obtain ⟨r, hr⟩ := Double.isFinite_iff.mp h
    rw [hr]
    constructor
    · intro hx
      cases hx
      exact ⟨rfl, r, rfl⟩
    · rintro ⟨rfl, -⟩
      rfl
  · next h =>
    constructor
    · intro hx
      cases hx
    · rintro ⟨rfl, r, hr⟩
      rw [hr] at h
      exact absurd rfl h

theorem divInt_eq_ok {m n : ℤ} {x : Double} (hn : n ≠ 0) :
    R.divInt m n = .ok x ↔ R.round (m / n) = x ∧ ∃ r, x = .finite r := by
  rw [divInt, if_neg hn, fitting_eq_ok]

/-- What is rounded to some digits stays between zero and one. -/
theorem roundTo_mem_unit (digits : Nat) {q : ℚ} (hzero : 0 ≤ q) (hone : q ≤ 1) :
    ∃ r, R.roundTo digits (.finite q) = .finite r ∧ 0 ≤ r ∧ r ≤ 1 := by
  have hpos : (0 : ℚ) < 10 ^ digits := by positivity
  have hlow : 0 ≤ roundHalfEven (q * 10 ^ digits) := by
    refine le_roundHalfEven_of_le ?_
    rw [Int.cast_zero]
    exact mul_nonneg hzero hpos.le
  have hhigh : roundHalfEven (q * 10 ^ digits) ≤ 10 ^ digits := by
    refine roundHalfEven_le_of_le ?_
    push_cast
    exact mul_le_of_le_one_left hpos.le hone
  refine R.round_mem_unit (div_nonneg (Int.cast_nonneg hlow) hpos.le) ?_
  rw [div_le_one hpos]
  exact_mod_cast hhigh

@[simp] theorem round_exact (q : ℚ) : exact.round q = .finite q := rfl

@[simp] theorem fitting_exact (q : ℚ) : exact.fitting q = .ok (.finite q) := rfl

@[simp] theorem ofInt_exact (n : ℤ) : exact.ofInt n = .ok (.finite n) := rfl

end Rounding

end CloudWard.Logic
