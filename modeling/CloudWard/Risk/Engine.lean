import CloudWard.Remediation.Actions
import Mathlib.Data.Rat.Floor

/-!
# Deterministic risk calculation

`risk/engine.py`. Factors carry the bounds of their schema, a result carries that its
score is the sum of its factors, and a context carries the bounds of its inputs, so the
engine cannot build a value the schemas reject. Confidences are exact rationals; the
workflows only use `0.94`, `0.95`, `0.96`, `0.98` and `1`.
-/

namespace CloudWard.Risk

open CloudWard.Remediation

/-- A confidence between zero and one (`Field(ge=0, le=1)`). -/
abbrev Confidence : Type := { q : ℚ // 0 ≤ q ∧ q ≤ 1 }

/-- The confidence of a deterministic diagnosis. -/
def deterministicConfidence : Confidence := ⟨98 / 100, by norm_num⟩

/-- The confidence that the schemas and the approval service assume where none is given. -/
def fullConfidence : Confidence := ⟨1, by norm_num⟩

/-- `RiskClassification`, `risk/engine.py:12`. -/
inductive RiskClassification
  | low
  | medium
  | high
deriving DecidableEq, Repr

/-- `RecommendedMode`, `risk/engine.py:18`. -/
inductive RecommendedMode
  | autoExecute
  | approvalRequired
  | blockAndEscalate
deriving DecidableEq, Repr

/-- `Sensitivity`, `risk/engine.py:24`. -/
inductive Sensitivity
  | none
  | low
  | moderate
  | high
deriving DecidableEq, Repr

/-- `RiskContext`, `risk/engine.py:31`. -/
structure RiskContext where
  environment : String
  action : ActionType
  targetCount : Nat := 1
  reversible : Option Bool := none
  confidence : Confidence := fullConfidence
  sensitivity : Sensitivity := .none
  destructiveOverride : Bool := false
  targetCount_pos : 1 ≤ targetCount := by omega

/-- `RiskFactors`, `risk/engine.py:43`, with the bounds of its fields. -/
structure RiskFactors where
  environment : Nat
  blastRadius : Nat
  destructiveness : Nat
  reversibility : Nat
  uncertainty : Nat
  sensitivity : Nat
  environment_le : environment ≤ 15
  blastRadius_le : blastRadius ≤ 25
  destructiveness_le : destructiveness ≤ 20
  reversibility_le : reversibility ≤ 15
  uncertainty_le : uncertainty ≤ 15
  sensitivity_le : sensitivity ≤ 10
deriving DecidableEq

/-- The sum of the factors. -/
def RiskFactors.total (f : RiskFactors) : Nat :=
  f.environment + f.blastRadius + f.destructiveness + f.reversibility + f.uncertainty
    + f.sensitivity

/-- `RiskResult`, `risk/engine.py:54`; the last field is its model validator. -/
structure RiskResult where
  score : Nat
  classification : RiskClassification
  recommendedMode : RecommendedMode
  factors : RiskFactors
  score_matches_factors : score = factors.total
deriving DecidableEq

/-- The factor bounds keep a score within the schema's `le=100`. -/
theorem RiskResult.score_le (r : RiskResult) : r.score ≤ 100 := by
  have h := r.score_matches_factors
  have h1 := r.factors.environment_le
  have h2 := r.factors.blastRadius_le
  have h3 := r.factors.destructiveness_le
  have h4 := r.factors.reversibility_le
  have h5 := r.factors.uncertainty_le
  have h6 := r.factors.sensitivity_le
  unfold RiskFactors.total at h
  omega

/-- `DESTRUCTIVENESS`, `risk/engine.py:69`. -/
def destructiveness : ActionType → Nat
  | .deleteUnhealthyPod => 3
  | .restartPod => 3
  | .scaleStagingDeployment => 5
  | .scaleWorkload => 5
  | .revertImage => 8
  | .rollbackDeployment => 8
  | .applyQuarantine => 9
  | .quarantineWorkload => 9
  | .removeQuarantine => 7
  | .createGitopsPr => 2
  | .createTerraformPr => 4
  | .createGithubIssue => 0
  | .requestApproval => 0
  | .noAction => 0

/-- Python's `round`: to the nearest integer, ties to the even one. -/
def pyRound (q : ℚ) : Int :=
  if q - ⌊q⌋ < 1 / 2 then ⌊q⌋
  else if 1 / 2 < q - ⌊q⌋ then ⌊q⌋ + 1
  else if ⌊q⌋ % 2 = 0 then ⌊q⌋ else ⌊q⌋ + 1

/-- Rounding never leaves an interval with integer ends. -/
theorem pyRound_le {q : ℚ} {n : Int} (h : q ≤ n) : pyRound q ≤ n := by
  have hf : ⌊q⌋ ≤ n := by
    have := Int.floor_le q
    exact_mod_cast this.trans h
  unfold pyRound
  split
  · exact hf
  · next hlt =>
    -- a fractional part of at least one half leaves room below `n`
    have hne : ⌊q⌋ ≠ n := by
      intro he
      have hq : q - ⌊q⌋ ≤ 0 := by
        rw [he]
        linarith
      linarith
    have hroom : ⌊q⌋ + 1 ≤ n := by omega
    split
    · exact hroom
    · split <;> omega

private def environmentFactor (environment : String) : Nat :=
  ([("local", 1), ("development", 1), ("staging", 4), ("production", 15)].lookup
    environment).getD 10

private theorem environmentFactor_le (environment : String) :
    environmentFactor environment ≤ 15 := by
  simp only [environmentFactor, List.lookup_cons, List.lookup_nil]
  repeat' split
  all_goals simp

private def blastRadiusFactor (targetCount : Nat) : Nat :=
  if targetCount = 1 then 3 else if targetCount ≤ 3 then 8
  else if targetCount ≤ 10 then 15 else 25

private def sensitivityFactor : Sensitivity → Nat
  | .none => 0
  | .low => 2
  | .moderate => 6
  | .high => 10

private def uncertaintyFactor (confidence : Confidence) : Nat :=
  (pyRound ((1 - confidence.val) * 15)).toNat

private theorem uncertaintyFactor_le (confidence : Confidence) :
    uncertaintyFactor confidence ≤ 15 := by
  obtain ⟨q, hq⟩ := confidence
  have h : (1 - q) * 15 ≤ ((15 : Int) : ℚ) := by
    push_cast
    linarith [hq.1]
  have := pyRound_le h
  simp only [uncertaintyFactor]
  omega

private theorem destructiveness_le (action : ActionType) : destructiveness action ≤ 20 := by
  cases action <;> decide

/-- The factors of `RiskEngine.calculate`, `risk/engine.py:91`. -/
def riskFactors (context : RiskContext) : RiskFactors where
  environment := environmentFactor context.environment
  blastRadius := blastRadiusFactor context.targetCount
  destructiveness :=
    if context.destructiveOverride then 20 else destructiveness context.action
  reversibility :=
    if context.reversible.getD (getActionMetadata context.action).reversible then 2 else 15
  uncertainty := uncertaintyFactor context.confidence
  sensitivity := sensitivityFactor context.sensitivity
  environment_le := environmentFactor_le context.environment
  blastRadius_le := by
    unfold blastRadiusFactor
    split
    · omega
    · split
      · omega
      · split <;> omega
  destructiveness_le := by
    split
    · omega
    · exact destructiveness_le context.action
  reversibility_le := by split <;> omega
  uncertainty_le := uncertaintyFactor_le context.confidence
  sensitivity_le := by cases context.sensitivity <;> decide

/-- `RiskEngine.calculate`, `risk/engine.py:89`. -/
def calculate (context : RiskContext) : RiskResult :=
  let factors := riskFactors context
  let score := factors.total
  if score ≤ 30 then ⟨score, .low, .autoExecute, factors, rfl⟩
  else if score ≤ 69 then ⟨score, .medium, .approvalRequired, factors, rfl⟩
  else ⟨score, .high, .blockAndEscalate, factors, rfl⟩

/-- A result has the factors of its context. -/
theorem factors_calculate (context : RiskContext) :
    (calculate context).factors = riskFactors context := by
  simp only [calculate]
  split
  · rfl
  · split <;> rfl

/-- Every calculation counts some blast radius. -/
theorem blastRadius_pos (context : RiskContext) :
    1 ≤ (calculate context).factors.blastRadius := by
  rw [factors_calculate]
  simp only [riskFactors, blastRadiusFactor]
  split
  · omega
  · split
    · omega
    · split <;> omega

private theorem uncertaintyFactor_deterministic :
    uncertaintyFactor deterministicConfidence = 0 := by
  have hfloor : ⌊(1 - 98 / 100 : ℚ) * 15⌋ = 0 := by
    rw [Int.floor_eq_iff]
    norm_num
  have hround : pyRound ((1 - 98 / 100 : ℚ) * 15) = 0 := by
    unfold pyRound
    rw [hfloor]
    norm_num
  unfold uncertaintyFactor deterministicConfidence
  rw [hround]
  rfl

/-- A reversible action on one target stays below an approval, wherever it is. -/
theorem score_calculate_le (environment : String) (action : ActionType) :
    (calculate
      { environment
        action
        targetCount := 1
        reversible := some true
        confidence := deterministicConfidence
        targetCount_pos := Nat.one_pos }).score ≤ 29 := by
  have hdestructiveness : destructiveness action ≤ 9 := by cases action <;> decide
  have henvironment := environmentFactor_le environment
  have huncertainty := uncertaintyFactor_deterministic
  rw [(calculate _).score_matches_factors, factors_calculate]
  simp only [RiskFactors.total, riskFactors, blastRadiusFactor, sensitivityFactor,
    Option.getD_some, if_true, Bool.false_eq_true, if_false]
  omega

/-- Seventy points and more are always blocked, fewer never are. -/
theorem recommendedMode_calculate (context : RiskContext) :
    (calculate context).recommendedMode = .blockAndEscalate ↔
      70 ≤ (calculate context).score := by
  simp only [calculate]
  split
  · next h =>
    simp
    omega
  · split
    · next h =>
      simp
      omega
    · next h =>
      simp
      omega

end CloudWard.Risk
