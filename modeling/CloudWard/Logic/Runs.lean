/-!
# Runs of a step function

Library `Logic`. A run folds a step over a list of inputs. `transitions` lists the pairs
of states around each step, so that a claim about every step of every run is a claim
about the members of a list. The rules: an invariant holds along a run, a property that
no step takes away is acquired at most once, and an invariant kept by every step that
meets a condition holds along every run whose steps all meet it.
-/

namespace CloudWard.Logic.Runs

variable {σ ι : Type} (step : σ → ι → σ)

/-- The state after a list of inputs. -/
def run (s : σ) (inputs : List ι) : σ := inputs.foldl step s

/-- The states before and after each step. -/
def transitions (s : σ) : List ι → List (σ × σ)
  | [] => []
  | i :: rest => (s, step s i) :: transitions (step s i) rest

/-- Every step of the run meets a condition on the state before it and its input. -/
def Along (C : σ → ι → Prop) (s : σ) : List ι → Prop
  | [] => True
  | i :: rest => C s i ∧ Along C (step s i) rest

instance Along.decidable {C : σ → ι → Prop} [∀ s i, Decidable (C s i)] :
    ∀ (s : σ) (inputs : List ι), Decidable (Along step C s inputs)
  | _, [] => inferInstanceAs (Decidable True)
  | s, i :: rest =>
    have : Decidable (Along step C (step s i) rest) := Along.decidable (step s i) rest
    inferInstanceAs (Decidable (C s i ∧ Along step C (step s i) rest))

variable {step}

@[simp] theorem run_nil (s : σ) : run step s [] = s := rfl

@[simp] theorem run_cons (s : σ) (i : ι) (rest : List ι) :
    run step s (i :: rest) = run step (step s i) rest := rfl

@[simp] theorem run_append (s : σ) (is js : List ι) :
    run step s (is ++ js) = run step (run step s is) js := by
  simp [run]

/-- What one step preserves, a run preserves. -/
theorem invariant {I : σ → Prop} (hstep : ∀ s i, I s → I (step s i)) {s : σ} (hs : I s)
    (inputs : List ι) : I (run step s inputs) := by
  induction inputs generalizing s with
  | nil => exact hs
  | cons i rest ih => exact ih (hstep s i hs)

/-- What every step meeting a condition preserves holds in every state of a run whose
steps all meet it. -/
theorem invariant_along {C : σ → ι → Prop} {I : σ → Prop}
    (hstep : ∀ s i, I s → C s i → I (step s i)) {s : σ} (hs : I s) :
    ∀ {inputs : List ι}, Along step C s inputs → I (run step s inputs)
  | [], _ => hs
  | i :: _, h => invariant_along hstep (hstep s i hs h.1) h.2

theorem along_of_forall {C : σ → ι → Prop} (h : ∀ s i, C s i) {s : σ} :
    ∀ inputs : List ι, Along step C s inputs
  | [] => trivial
  | i :: rest => ⟨h s i, along_of_forall h rest⟩

theorem Along.mono {C D : σ → ι → Prop} (hCD : ∀ s i, C s i → D s i) {s : σ} :
    ∀ {inputs : List ι}, Along step C s inputs → Along step D s inputs
  | [], _ => trivial
  | _ :: _, h => ⟨hCD _ _ h.1, Along.mono hCD h.2⟩

/-- A condition along a run is a condition along each beginning of it. -/
theorem Along.left {C : σ → ι → Prop} {s : σ} : ∀ {is js : List ι},
    Along step C s (is ++ js) → Along step C s is
  | [], _, _ => trivial
  | _ :: _, _, h => ⟨h.1, Along.left h.2⟩

/-- A condition along a run is a condition along each end of it. -/
theorem Along.right {C : σ → ι → Prop} {s : σ} : ∀ {is js : List ι},
    Along step C s (is ++ js) → Along step C (run step s is) js
  | [], _, h => h
  | i :: _, _, h => Along.right (s := step s i) h.2

/-- Where, of the states that `J` allows, a step keeps `I` exactly if it meets a condition, `I`
holds all along a run exactly if every step meets it. -/
theorem always_iff_along {C : σ → ι → Prop} {I J : σ → Prop} (hJ : ∀ s i, J s → J (step s i))
    (hstep : ∀ s i, J s → I s → (I (step s i) ↔ C s i)) {s : σ} (hs : J s) (h : I s)
    (inputs : List ι) :
    (∀ before, before <+: inputs → I (run step s before)) ↔ Along step C s inputs := by
  induction inputs generalizing s with
  | nil =>
    constructor
    · intro _
      trivial
    · intro _ before hbefore
      rw [List.prefix_nil.mp hbefore]
      exact h
  | cons i rest ih =>
    constructor
    · intro hall
      have hnext : I (step s i) := hall [i] ⟨rest, rfl⟩
      refine ⟨(hstep s i hs h).mp hnext, (ih (hJ s i hs) hnext).mp ?_⟩
      intro before hbefore
      exact hall (i :: before) (List.cons_prefix_cons.mpr ⟨rfl, hbefore⟩)
    · intro halong before hbefore
      have hnext : I (step s i) := (hstep s i hs h).mpr halong.1
      rcases List.prefix_cons_iff.mp hbefore with rfl | ⟨before', rfl, hbefore'⟩
      · exact h
      · exact (ih (hJ s i hs) hnext).mpr halong.2 before' hbefore'

/-- A property that no step takes away is acquired at most once. -/
theorem acquired_at_most_once {p : σ → Bool} (hkeep : ∀ s i, p s → p (step s i)) (s : σ)
    (inputs : List ι) :
    (transitions step s inputs).countP (fun t ↦ ! p t.1 && p t.2) ≤ 1 := by
  -- with `p` already true nothing is acquired, so one acquisition uses the budget up
  have hnone : ∀ (inputs : List ι) (s : σ), p s →
      (transitions step s inputs).countP (fun t ↦ ! p t.1 && p t.2) = 0 := by
    intro inputs
    induction inputs with
    | nil =>
      intro s _
      rfl
    | cons i rest ih =>
      intro s hs
      rw [transitions, List.countP_cons, ih (step s i) (hkeep s i hs)]
      simp [hs]
  induction inputs generalizing s with
  | nil => exact Nat.zero_le _
  | cons i rest ih =>
    rw [transitions, List.countP_cons]
    by_cases h : p (step s i)
    · rw [hnone rest (step s i) h]
      split <;> omega
    · simpa [h] using ih (step s i)

end CloudWard.Logic.Runs
