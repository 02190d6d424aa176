import CloudWard.Base.Progress

/-!
# Exactly when a program returns

`Returns` is the weakest precondition of a program that must not raise. Each rule says what a
primitive of `Base/World.lean` needs to return, and where it leaves the world; a program's
condition is the conjunction of what its parts need, each at the moment of its call.
-/

namespace CloudWard

open CloudWard.Db CloudWard.Kubernetes CloudWard.Logic

namespace World

/-- The world after further calls that change nothing. -/
def later (w : World) (n : Nat) : World := { w with tick := w.tick + n }

/-- The world after a request took effect. -/
def mutated (w : World) (m : Mutation) : World :=
  { w with cluster := w.cluster.apply m, trace := .mutated m :: w.trace }

/-- The world with other rows in the session. -/
def withRows (w : World) (db : Database) : World := { w with db := db }

@[simp] theorem later_later (w : World) (m n : Nat) : (w.later m).later n = w.later (m + n) := by
  simp only [later, Nat.add_assoc]

@[simp] theorem db_later (w : World) (n : Nat) : (w.later n).db = w.db := rfl

@[simp] theorem db_mutated (w : World) (m : Mutation) : (w.mutated m).db = w.db := rfl

@[simp] theorem db_withRows (w : World) (db : Database) : (w.withRows db).db = db := rfl

end World

namespace Service

variable {α β : Type} {w : World} {env : Env}

/-! ### The parts of a program -/

section Parts

variable {x : Service α} {k : α → Service β} {Q : α → World → Prop} {R : β → World → Prop}

/-- A sequence returns when its second part does from where the first returned. -/
theorem returns_bind_iff : Returns (x >>= k) w R ↔ Returns x w fun a w' ↦ Returns (k a) w' R := by
  constructor
  · rintro ⟨b, w₂, hrun, hR⟩
    obtain ⟨a, w₁, hx, hk⟩ := Exec.run_bind_eq_ok.mp hrun
    exact ⟨a, w₁, hx, b, w₂, hk, hR⟩
  · rintro ⟨a, w₁, hx, b, w₂, hk, hR⟩
    refine ⟨b, w₂, ?_, hR⟩
    rw [Exec.run_bind_of_ok hx, hk]

/-- A run whose end is known returns with what is known of it. -/
theorem returns_iff_of_run {a : α} {w' : World} (h : x.run w = (.ok a, w')) :
    Returns x w Q ↔ Q a w' := by
  constructor
  · rintro ⟨b, w₂, hrun, hQ⟩
    rw [h] at hrun
    cases hrun
    exact hQ
  · exact fun hQ ↦ ⟨a, w', h, hQ⟩

/-- A run that raises does not return. -/
theorem not_returns_of_run {e : Exc} {w' : World} (h : x.run w = (.error e, w')) :
    ¬ Returns x w Q := by
  rintro ⟨b, w₂, hrun, -⟩
  rw [h] at hrun
  cases hrun

theorem returns_pure_iff {a : α} : Returns (pure a : Service α) w Q ↔ Q a w :=
  returns_iff_of_run rfl

theorem returns_throw_iff {e : Exc} : Returns (throw e : Service α) w Q ↔ False :=
  iff_false_intro (not_returns_of_run rfl)

theorem returns_ite_iff {c : Prop} [Decidable c] {y : Service α} :
    Returns (if c then x else y) w Q ↔ (c → Returns x w Q) ∧ (¬ c → Returns y w Q) := by
  by_cases h : c <;> simp [h]

theorem returns_ofExcept_iff {v : Except Exc α} :
    Returns (Exec.ofExcept v) w Q ↔ ∃ a, v = .ok a ∧ Q a w := by
  cases v with
  | ok a =>
    rw [returns_iff_of_run (Exec.run_ofExcept _ w)]
    simp
  | error e =>
    simp only [reduceCtorEq, false_and, exists_false, iff_false]
    exact not_returns_of_run (Exec.run_ofExcept _ w)

theorem returns_exec_require_iff {c : Prop} [Decidable c] {e : Exc} {Q : Unit → World → Prop} :
    Returns (Exec.require c e) w Q ↔ c ∧ Q () w := by
  have hrun := Exec.run_require c e w
  by_cases h : c
  · rw [if_pos h] at hrun
    rw [returns_iff_of_run hrun]
    exact (and_iff_right h).symm
  · rw [if_neg h] at hrun
    exact iff_of_false (not_returns_of_run hrun) fun hc ↦ h hc.1

theorem returns_require_iff {c : Prop} [Decidable c] {e : CloudWardError}
    {Q : Unit → World → Prop} : Returns (require c e) w Q ↔ c ∧ Q () w :=
  returns_exec_require_iff

theorem returns_when_iff {c : Prop} [Decidable c] {x : Service Unit} {Q : Unit → World → Prop} :
    Returns (Exec.when c x) w Q ↔ (c → Returns x w Q) ∧ (¬ c → Q () w) := by
  have hrun := Exec.run_when c x w
  by_cases h : c
  · rw [if_pos h] at hrun
    simp only [h, forall_const, not_true_eq_false, false_implies, and_true]
    unfold Returns
    rw [hrun]
  · rw [if_neg h] at hrun
    rw [returns_iff_of_run hrun]
    simp [h]

end Parts

/-! ### The primitives -/

section Primitives

variable {Q : α → World → Prop} {R : Unit → World → Prop}

theorem returns_read_iff {f : World → α} : Returns (Exec.read f) w Q ↔ Q (f w) w :=
  returns_iff_of_run rfl

theorem returns_write_iff {f : Database → Database} :
    Returns (write f) w R ↔ R () (w.withRows (f w.db)) :=
  returns_iff_of_run rfl

theorem returns_ask_iff {answer : World → α} :
    Returns (ask answer) w Q ↔ Q (answer w) (w.later 1) :=
  returns_iff_of_run rfl

theorem returns_call_iff {answer : World → Except Exc α} :
    Returns (call answer) w Q ↔ ∃ a, answer w = .ok a ∧ Q a (w.later 1) := by
  rw [call, returns_bind_iff, returns_ask_iff, returns_ofExcept_iff]

theorem returns_wrapping_iff {error : CloudWardError} {x : Service α} :
    Returns (wrapping error x) w Q ↔ Returns x w Q := by
  unfold Returns wrapping
  rw [Exec.run_tryCatch]
  rcases x.run w with ⟨e | a, w'⟩ <;> simp

theorem returns_send_iff {m : Mutation} :
    Returns (send env m) w R ↔ env.request w m = .done ∧ R () ((w.later 1).mutated m) := by
  rw [send, returns_bind_iff, returns_ask_iff]
  cases env.request w m with
  | done =>
    rw [returns_iff_of_run (run_effect m _)]
    simp [World.mutated]
  | refused e =>
    simp only [reduceCtorEq, false_and, iff_false]
    exact not_returns_of_run (Exec.run_throw e _)
  | lost e =>
    simp only [reduceCtorEq, false_and, iff_false]
    apply not_returns_of_run
    rw [Exec.run_bind_of_ok (run_effect m _)]
    exact Exec.run_throw e _

variable (hq : Quiet env)
include hq

theorem returns_flush_iff : Returns (flush env) w R ↔ R () (w.later 1) := by
  apply returns_iff_of_run
  rw [run_flush, hq.database]
  rfl

theorem returns_query_iff {f : Database → α} :
    Returns (query env f) w Q ↔ Q (f w.db) (w.later 1) := by
  rw [query, returns_bind_iff, returns_flush_iff hq, returns_read_iff, World.db_later]

/-- A commit returns where no statement fails. -/
theorem returns_commit_of {R : Unit → World → Prop} (h : ∀ w', R () w') :
    Returns (commit env) w R := by
  rw [commit, returns_bind_iff, returns_flush_iff hq]
  exact ⟨(), _, rfl, h _⟩

end Primitives

/-! ### Statements that do not fail -/

section Quiet

variable {P : World → Prop} {E : Exc → World → Prop} (hq : Quiet env)
include hq

theorem triple_flush_quiet (h : ∀ w n, P w → P { w with tick := n }) :
    Exec.Triple P (flush env) (fun _ ↦ P) E := by
  intro w hw
  rw [run_flush, hq.database]
  exact h w _ hw

theorem triple_query_quiet (db : Database) (f : Database → α) :
    Exec.Triple (fun w ↦ w.db = db) (query env f) (fun a w ↦ w.db = db ∧ a = f db) E :=
  Exec.Triple.bind (triple_flush_quiet hq fun _ _ h ↦ h) fun _ ↦
    Exec.Triple.read fun _ h ↦ ⟨h, by rw [h]⟩

theorem triple_commit_quiet {p : Prop} :
    Exec.Triple (fun _ ↦ p) (commit env) (fun _ _ ↦ p) E :=
  Exec.Triple.bind (triple_flush_quiet hq fun _ _ h ↦ h) fun _ ↦ Exec.Triple.update fun _ h ↦ h

end Quiet

end Service

end CloudWard
