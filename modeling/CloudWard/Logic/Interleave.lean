import CloudWard.Logic.Runs
import CloudWard.Logic.Table

/-!
# Programs whose atomic steps interleave

Library `Logic`. A `Resumption` changes a shared store one atomic step at a time; between two of
them any other program may step. A `Rely` says what may become of a store, and `Safe R Q` is the
rely-guarantee condition: after any change that others may make, the next step only makes a
change that is allowed, and the result satisfies `Q` whatever becomes of the store. In a pool of
safe programs every schedule only makes allowed changes.
-/

namespace CloudWard.Logic.Interleave

/-- A program over a store `σ` that returns an `α` or raises an `ε`. -/
inductive Resumption (σ ε α : Type)
  | done (result : Except ε α)
  | step (change : σ → σ) (next : σ → Resumption σ ε α)

namespace Resumption

variable {σ ε α β ω : Type}

/-- One program after another; an exception ends both. -/
def bind : Resumption σ ε α → (α → Resumption σ ε β) → Resumption σ ε β
  | done (.ok a), k => k a
  | done (.error e), _ => done (.error e)
  | step change next, k => step change fun s ↦ bind (next s) k

instance monad : Monad (Resumption σ ε) where
  pure a := done (.ok a)
  bind := bind

/-- Raise. -/
def throw (e : ε) : Resumption σ ε α := done (.error e)

/-- Continue with a value computed elsewhere, or raise its error. -/
def ofExcept (x : Except ε α) : Resumption σ ε α := done x

/-- Raise unless a condition holds. -/
def require (c : Prop) [Decidable c] (e : ε) : Resumption σ ε Unit :=
  if c then done (.ok ()) else throw e

/-- Read the store in one step, and fail or return. -/
def read (f : σ → Except ε ω) : Resumption σ ε ω := step id fun s ↦ done (f s)

/-- The store after a change that may fail. -/
def settled (s : σ) : Except ε (ω × σ) → σ
  | .ok r => r.2
  | .error _ => s

/-- Change the store in one step, or fail and leave it. -/
def change (f : σ → Except ε (ω × σ)) : Resumption σ ε ω :=
  step (fun s ↦ settled s (f s)) fun s ↦ done ((f s).map (·.1))

end Resumption

/-- What may become of a store. -/
structure Rely (σ : Type) where
  may : σ → σ → Prop
  refl : ∀ s, may s s
  trans : ∀ {a b c}, may a b → may b c → may a c

namespace Resumption

/-! ### Safety -/

variable {σ ε α β ω : Type} (R : Rely σ)

/-- Whatever others do, the program only makes allowed changes and its result satisfies `Q`. -/
def Safe (Q : Except ε α → σ → Prop) : Resumption σ ε α → σ → Prop
  | done result, s => ∀ s', R.may s s' → Q result s'
  | step change next, s => ∀ s', R.may s s' →
      R.may s' (change s') ∧ Safe Q (next s') (change s')

variable {R}
variable {Q : Except ε α → σ → Prop} {Q' : Except ε β → σ → Prop} {s s' : σ}

/-- What others may do before is part of what they may do at all. -/
theorem Safe.later {p : Resumption σ ε α} (h : Safe R Q p s) (hs : R.may s s') : Safe R Q p s' := by
  cases p with
  | done result =>
    intro s'' hs''
    exact h s'' (R.trans hs hs'')
  | step change next =>
    intro s'' hs''
    exact h s'' (R.trans hs hs'')

theorem safe_pure {a : α} (h : ∀ s', R.may s s' → Q (.ok a) s') :
    Safe R Q (pure a : Resumption σ ε α) s := h

theorem safe_throw {e : ε} (h : ∀ s', R.may s s' → Q (.error e) s') :
    Safe R Q (throw e : Resumption σ ε α) s := h

/-- The sequence rule: the second program starts in whatever the first one's result has become. -/
theorem safe_bind {p : Resumption σ ε α} {k : α → Resumption σ ε β} (hp : Safe R Q p s)
    (hok : ∀ a s', R.may s s' → Q (.ok a) s' → Safe R Q' (k a) s')
    (herror : ∀ e s', R.may s s' → Q (.error e) s' → Q' (.error e) s') : Safe R Q' (p >>= k) s := by
  show Safe R Q' (bind p k) s
  induction p generalizing s with
  | done result =>
    cases result with
    | ok a => exact hok a s (R.refl s) (hp s (R.refl s))
    | error e =>
      intro s' hs
      exact herror e s' hs (hp s' hs)
  | step change next ih =>
    intro s' hs
    obtain ⟨hle, hnext⟩ := hp s' hs
    have hfrom : R.may s (change s') := R.trans hs hle
    refine ⟨hle, ih s' hnext ?_ ?_⟩
    · intro a s'' hs''
      exact hok a s'' (R.trans hfrom hs'')
    · intro e s'' hs''
      exact herror e s'' (R.trans hfrom hs'')

/-- A weaker condition on the result. -/
theorem Safe.mono {p : Resumption σ ε α} {Q' : Except ε α → σ → Prop} (h : Safe R Q p s)
    (hQ : ∀ r s', R.may s s' → Q r s' → Q' r s') : Safe R Q' p s := by
  induction p generalizing s with
  | done result =>
    intro s' hs
    exact hQ result s' hs (h s' hs)
  | step change next ih =>
    intro s' hs
    obtain ⟨hle, hnext⟩ := h s' hs
    refine ⟨hle, ih s' hnext ?_⟩
    intro r s'' hs''
    exact hQ r s'' (R.trans (R.trans hs hle) hs'')

theorem safe_ofExcept {x : Except ε α} (h : ∀ s', R.may s s' → Q x s') :
    Safe R Q (ofExcept x : Resumption σ ε α) s := h

theorem safe_require {c : Prop} [Decidable c] {e : ε} {Q : Except ε Unit → σ → Prop}
    (hok : c → ∀ s', R.may s s' → Q (.ok ()) s') (herror : ¬ c → ∀ s', R.may s s' → Q (.error e) s') :
    Safe R Q (require c e : Resumption σ ε Unit) s := by
  unfold require
  split
  · next h => exact hok h
  · next h => exact herror h

theorem safe_ite {c : Prop} [Decidable c] {p q : Resumption σ ε α} (hp : c → Safe R Q p s)
    (hq : ¬ c → Safe R Q q s) : Safe R Q (if c then p else q) s := by
  split
  · next h => exact hp h
  · next h => exact hq h

/-- What a read finds is still known later if `Q` is. -/
theorem safe_read {f : σ → Except ε ω} {Q : Except ε ω → σ → Prop}
    (h : ∀ s', R.may s s' → ∀ s'', R.may s' s'' → Q (f s') s'') : Safe R Q (read f) s := by
  intro s' hs
  exact ⟨R.refl s', h s' hs⟩

/-- What follows a value computed elsewhere. -/
theorem safe_ofExcept_bind {x : Except ε α} {k : α → Resumption σ ε β}
    (hok : ∀ a, x = .ok a → Safe R Q' (k a) s)
    (herror : ∀ e, x = .error e → ∀ s', R.may s s' → Q' (.error e) s') :
    Safe R Q' (ofExcept x >>= k) s := by
  cases hx : x with
  | ok a => exact hok a hx
  | error e => exact herror e hx

/-- What follows a read starts where it was made. -/
theorem safe_read_bind {f : σ → Except ε ω} {k : ω → Resumption σ ε β}
    (hok : ∀ s', R.may s s' → ∀ a, f s' = .ok a → Safe R Q' (k a) s')
    (herror : ∀ s', R.may s s' → ∀ e, f s' = .error e → ∀ s'', R.may s' s'' → Q' (.error e) s'') :
    Safe R Q' (read f >>= k) s := by
  intro s' hs
  refine ⟨R.refl s', ?_⟩
  show Safe R Q' (bind (done (f s')) k) s'
  cases hf : f s' with
  | ok a => exact hok s' hs a hf
  | error e => exact herror s' hs e hf

/-- A change that succeeds has to be an allowed one. -/
theorem safe_change {f : σ → Except ε (ω × σ)} {Q : Except ε ω → σ → Prop}
    (hok : ∀ s', R.may s s' → ∀ a t, f s' = .ok (a, t) → R.may s' t ∧ ∀ t', R.may t t' → Q (.ok a) t')
    (herror : ∀ s', R.may s s' → ∀ e, f s' = .error e → ∀ t', R.may s' t' → Q (.error e) t') :
    Safe R Q (change f) s := by
  intro s' hs
  show R.may s' (settled s' (f s')) ∧ Safe R Q (done ((f s').map (·.1))) (settled s' (f s'))
  cases hf : f s' with
  | error e => exact ⟨R.refl s', herror s' hs e hf⟩
  | ok r => exact hok s' hs r.1 r.2 hf

end Resumption

/-! ### Pools -/

/-- The store and the programs that share it. -/
structure Pool (σ ε α : Type) where
  store : σ
  threads : Table (Resumption σ ε α) := []

/-- What happens next: a program starts, or one that has started makes its next step. -/
inductive Move (ι : Type)
  | start (input : ι)
  | advance (thread : Nat)

variable {σ ε α ι : Type}

/-- One move. -/
def Pool.move (spawn : ι → Resumption σ ε α) (p : Pool σ ε α) : Move ι → Pool σ ε α
  | .start input => { p with threads := p.threads.insert (spawn input) }
  | .advance thread =>
    match p.threads[thread]? with
    | some (.step change next) =>
      ⟨change p.store, p.threads.update thread fun _ ↦ next p.store⟩
    | _ => p

/-- What an input has to meet when its program starts. -/
def Admits (C : σ → ι → Prop) (p : Pool σ ε α) : Move ι → Prop
  | .start input => C p.store input
  | .advance _ => True

section Safety

variable {spawn : ι → Resumption σ ε α} {R : Rely σ} {Q : Except ε α → σ → Prop}

/-- Every program of the pool is safe. -/
def Pool.AllSafe (R : Rely σ) (Q : Except ε α → σ → Prop) (p : Pool σ ε α) : Prop :=
  ∀ thread ∈ p.threads, thread.Safe R Q p.store

/-- One move only makes an allowed change. -/
theorem Pool.AllSafe.move {p : Pool σ ε α} (h : p.AllSafe R Q) {C : σ → ι → Prop} (m : Move ι)
    (hstart : ∀ input, C p.store input → (spawn input).Safe R Q p.store) (hm : Admits C p m) :
    R.may p.store (p.move spawn m).store ∧ (p.move spawn m).AllSafe R Q := by
  cases m with
  | start input =>
    refine ⟨R.refl _, ?_⟩
    intro thread hthread
    rcases List.mem_append.mp hthread with hold | hnew
    · exact h thread hold
    · rw [List.mem_singleton.mp hnew]
      exact hstart input hm
  | advance n =>
    cases hn : p.threads[n]? with
    | none =>
      have hstay : p.move spawn (.advance n) = p := by
        simp only [Pool.move, hn]
      rw [hstay]
      exact ⟨R.refl _, h⟩
    | some thread =>
      cases thread with
      | done result =>
        have hstay : p.move spawn (.advance n) = p := by
          simp only [Pool.move, hn]
        rw [hstay]
        exact ⟨R.refl _, h⟩
      | step change next =>
        have hmoved : p.move spawn (.advance n) =
            ⟨change p.store, p.threads.update n fun _ ↦ next p.store⟩ := by
          simp only [Pool.move, hn]
        obtain ⟨hle, hnext⟩ := h _ (List.mem_of_getElem? hn) p.store (R.refl _)
        rw [hmoved]
        refine ⟨hle, ?_⟩
        intro thread hthread
        rcases Table.mem_update_of_some hn hthread with hold | rfl
        · exact (h thread hold).later hle
        · exact hnext

/-- **Rely and guarantee**: if every program that starts is safe, then whatever the schedule,
the store only changes as allowed and every program stays safe. -/
theorem Pool.AllSafe.run {p : Pool σ ε α} (h : p.AllSafe R Q) {C : σ → ι → Prop}
    (hstart : ∀ s, R.may p.store s → ∀ input, C s input → (spawn input).Safe R Q s)
    (moves : List (Move ι)) (hmoves : Runs.Along (Pool.move spawn) (Admits C) p moves) :
    R.may p.store (Runs.run (Pool.move spawn) p moves).store ∧
      (Runs.run (Pool.move spawn) p moves).AllSafe R Q := by
  induction moves generalizing p with
  | nil => exact ⟨R.refl _, h⟩
  | cons m moves ih =>
    obtain ⟨hle, hsafe⟩ := h.move m (hstart p.store (R.refl _)) hmoves.1
    have hrest := ih hsafe (fun s hs ↦ hstart s (R.trans hle hs)) hmoves.2
    exact ⟨R.trans hle hrest.1, hrest.2⟩

/-- What a program of a safe pool has returned satisfies `Q`. -/
theorem Pool.AllSafe.result {p : Pool σ ε α} (h : p.AllSafe R Q) {r : Except ε α}
    (hr : .done r ∈ p.threads) : Q r p.store := h _ hr p.store (R.refl _)

end Safety

end CloudWard.Logic.Interleave
