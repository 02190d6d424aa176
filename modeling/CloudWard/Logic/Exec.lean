/-!
# Programs that keep their state when they raise

Library `Logic`. `Exec σ ε α` is a program over a state `σ` that returns an `α` or
raises an `ε`; whatever it wrote before it raised stays written, as in a language
with exceptions and mutable objects. `Triple` is its program logic: one postcondition
for a return, one for an exception. `Keeps` is the special case of an invariant that
both ways out preserve, and `Frames` of an observation that no step changes.
-/

namespace CloudWard.Logic

/-- A program over `σ` that returns `α` or raises `ε`; the state survives the exception. -/
def Exec (σ ε α : Type) : Type := σ → Except ε α × σ

namespace Exec

variable {σ ε α β ω : Type}

/-- Run a program from a state. -/
def run (x : Exec σ ε α) (s : σ) : Except ε α × σ := x s

instance : Monad (Exec σ ε) where
  pure a := fun s ↦ (.ok a, s)
  bind x f := fun s ↦
    match x s with
    | (.ok a, s') => f a s'
    | (.error e, s') => (.error e, s')

instance : MonadExceptOf ε (Exec σ ε) where
  throw e := fun s ↦ (.error e, s)
  tryCatch x h := fun s ↦
    match x s with
    | (.ok a, s') => (.ok a, s')
    | (.error e, s') => h e s'

instance : MonadStateOf σ (Exec σ ε) where
  get := fun s ↦ (.ok s, s)
  set s' := fun _ ↦ (.ok (), s')
  modifyGet f := fun s ↦ (.ok (f s).1, (f s).2)

/-- Read an observation of the state. -/
def read (f : σ → ω) : Exec σ ε ω := fun s ↦ (.ok (f s), s)

/-- Change the state. -/
def update (f : σ → σ) : Exec σ ε Unit := fun s ↦ (.ok (), f s)

/-- Continue with a value computed elsewhere, or raise its error. -/
def ofExcept (x : Except ε α) : Exec σ ε α := fun s ↦ (x, s)

/-- Raise the error of a step that may have one. -/
def faultOf (fault : Option ε) : Exec σ ε Unit := fun s ↦
  match fault with
  | none => (.ok (), s)
  | some e => (.error e, s)

/-- Run a program only under a condition. -/
def when (c : Prop) [Decidable c] (x : Exec σ ε Unit) : Exec σ ε Unit :=
  if c then x else pure ()

/-- Raise unless a condition holds. -/
def require (c : Prop) [Decidable c] (e : ε) : Exec σ ε Unit :=
  if c then pure () else throw e

/-! ### Evaluation rules -/

@[simp] theorem run_pure (a : α) (s : σ) : (pure a : Exec σ ε α).run s = (.ok a, s) := rfl

@[simp] theorem run_throw (e : ε) (s : σ) : (throw e : Exec σ ε α).run s = (.error e, s) := rfl

@[simp] theorem run_read (f : σ → ω) (s : σ) :
    (read f : Exec σ ε ω).run s = (.ok (f s), s) := rfl

@[simp] theorem run_update (f : σ → σ) (s : σ) :
    (update f : Exec σ ε Unit).run s = (.ok (), f s) := rfl

@[simp] theorem run_ofExcept (x : Except ε α) (s : σ) : (ofExcept x).run s = (x, s) := rfl

@[simp] theorem run_faultOf_none (s : σ) :
    (faultOf none : Exec σ ε Unit).run s = (.ok (), s) := rfl

@[simp] theorem run_faultOf_some (e : ε) (s : σ) :
    (faultOf (some e) : Exec σ ε Unit).run s = (.error e, s) := rfl

theorem run_when (c : Prop) [Decidable c] (x : Exec σ ε Unit) (s : σ) :
    (when c x).run s = if c then x.run s else (.ok (), s) := by
  unfold when
  split <;> rfl

theorem run_require (c : Prop) [Decidable c] (e : ε) (s : σ) :
    (require c e : Exec σ ε Unit).run s = (if c then .ok () else .error e, s) := by
  unfold require
  split <;> rfl

/-- A sequence runs its second part only after a return of the first. -/
theorem run_bind (x : Exec σ ε α) (f : α → Exec σ ε β) (s : σ) :
    (x >>= f).run s =
      match x.run s with
      | (.ok a, s') => (f a).run s'
      | (.error e, s') => (.error e, s') := rfl

/-- A handler runs from the state in which the exception was raised. -/
theorem run_tryCatch (x : Exec σ ε α) (h : ε → Exec σ ε α) (s : σ) :
    (tryCatch x h).run s =
      match x.run s with
      | (.ok a, s') => (.ok a, s')
      | (.error e, s') => (h e).run s' := rfl

/-- After a return of the first part the sequence is its second part. -/
theorem run_bind_of_ok {x : Exec σ ε α} {f : α → Exec σ ε β} {s s' : σ} {a : α}
    (h : x.run s = (.ok a, s')) : (x >>= f).run s = (f a).run s' := by
  rw [run_bind, h]

/-- An exception of the first part is the exception of the sequence. -/
theorem run_bind_of_error {x : Exec σ ε α} {f : α → Exec σ ε β} {s s' : σ} {e : ε}
    (h : x.run s = (.error e, s')) : (x >>= f).run s = (.error e, s') := by
  rw [run_bind, h]

/-- A handler is not run after a return. -/
theorem run_tryCatch_of_ok {x : Exec σ ε α} {h : ε → Exec σ ε α} {s s' : σ} {a : α}
    (hx : x.run s = (.ok a, s')) : (tryCatch x h).run s = (.ok a, s') := by
  rw [run_tryCatch, hx]

/-- After an exception the handler is what runs. -/
theorem run_tryCatch_of_error {x : Exec σ ε α} {h : ε → Exec σ ε α} {s s' : σ} {e : ε}
    (hx : x.run s = (.error e, s')) : (tryCatch x h).run s = (h e).run s' := by
  rw [run_tryCatch, hx]

/-- After a condition that holds the sequence is its second part. -/
theorem run_bind_require {c : Prop} [Decidable c] {e : ε} {f : Unit → Exec σ ε β} (h : c)
    (s : σ) : (require c e >>= f).run s = (f ()).run s := by
  apply run_bind_of_ok
  rw [run_require, if_pos h]

/-- A sequence returns exactly when both parts do, in turn. -/
theorem run_bind_eq_ok {x : Exec σ ε α} {f : α → Exec σ ε β} {s s'' : σ} {b : β} :
    (x >>= f).run s = (.ok b, s'') ↔
      ∃ a s', x.run s = (.ok a, s') ∧ (f a).run s' = (.ok b, s'') := by
  rw [run_bind]
  rcases hx : x.run s with ⟨_ | a, s'⟩
  · simp
  · constructor
    · intro h
      exact ⟨a, s', rfl, h⟩
    · rintro ⟨_, _, hr, h⟩
      cases hr
      exact h

/-- A sequence raises exactly when one part raises after a return of those before. -/
theorem run_bind_eq_error {x : Exec σ ε α} {f : α → Exec σ ε β} {s s'' : σ} {e : ε} :
    (x >>= f).run s = (.error e, s'') ↔
      x.run s = (.error e, s'') ∨
        ∃ a s', x.run s = (.ok a, s') ∧ (f a).run s' = (.error e, s'') := by
  rw [run_bind]
  rcases hx : x.run s with ⟨_ | a, s'⟩
  · simp
  · constructor
    · intro h
      exact .inr ⟨a, s', rfl, h⟩
    · rintro (hr | ⟨_, _, hr, h⟩)
      · simp at hr
      · cases hr
        exact h

/-! ### Triples -/

/-- From `P`, a return satisfies `Q` and an exception satisfies `E`. -/
def Triple (P : σ → Prop) (x : Exec σ ε α) (Q : α → σ → Prop) (E : ε → σ → Prop) : Prop :=
  ∀ s, P s →
    match x.run s with
    | (.ok a, s') => Q a s'
    | (.error e, s') => E e s'

section Rules

variable {P P' : σ → Prop} {Q Q' : α → σ → Prop} {R : β → σ → Prop} {E E' : ε → σ → Prop}
variable {x : Exec σ ε α}

/-- What a triple says of a run that returns. -/
theorem Triple.of_ok (h : Triple P x Q E) {s s' : σ} {a : α} (hp : P s)
    (hx : x.run s = (.ok a, s')) : Q a s' := by
  have := h s hp
  rwa [hx] at this

/-- What a triple says of a run that raises. -/
theorem Triple.of_error (h : Triple P x Q E) {s s' : σ} {e : ε} (hp : P s)
    (hx : x.run s = (.error e, s')) : E e s' := by
  have := h s hp
  rwa [hx] at this

theorem Triple.pure {a : α} (h : ∀ s, P s → Q a s) : Triple P (Pure.pure a : Exec σ ε α) Q E :=
  h

theorem Triple.throw {e : ε} (h : ∀ s, P s → E e s) :
    Triple P (MonadExcept.throw e : Exec σ ε α) Q E :=
  h

theorem Triple.read {f : σ → ω} {Q : ω → σ → Prop} (h : ∀ s, P s → Q (f s) s) :
    Triple P (Exec.read f : Exec σ ε ω) Q E :=
  h

theorem Triple.update {f : σ → σ} {Q : Unit → σ → Prop} (h : ∀ s, P s → Q () (f s)) :
    Triple P (Exec.update f : Exec σ ε Unit) Q E :=
  h

theorem Triple.ofExcept {v : Except ε α} (hok : ∀ a, v = .ok a → ∀ s, P s → Q a s)
    (herr : ∀ e, v = .error e → ∀ s, P s → E e s) : Triple P (Exec.ofExcept v) Q E := by
  intro s hp
  cases v with
  | ok a => exact hok a rfl s hp
  | error e => exact herr e rfl s hp

theorem Triple.faultOf {fault : Option ε} {Q : Unit → σ → Prop}
    (hok : fault = none → ∀ s, P s → Q () s)
    (herr : ∀ e, fault = some e → ∀ s, P s → E e s) :
    Triple P (Exec.faultOf fault : Exec σ ε Unit) Q E := by
  intro s hp
  cases fault with
  | none => exact hok rfl s hp
  | some e => exact herr e rfl s hp

/-- The sequence rule: the first postcondition is the second precondition. -/
theorem Triple.bind {f : α → Exec σ ε β} (hx : Triple P x Q E)
    (hf : ∀ a, Triple (Q a) (f a) R E) : Triple P (x >>= f) R E := by
  intro s hp
  have hx := hx s hp
  rw [run_bind]
  rcases hr : x.run s with ⟨_ | a, s'⟩
  · rw [hr] at hx
    exact hx
  · rw [hr] at hx
    exact hf a s' hx

/-- The handler rule: the exception's postcondition is the handler's precondition. -/
theorem Triple.tryCatch {h : ε → Exec σ ε α} (hx : Triple P x Q E)
    (hh : ∀ e, Triple (E e) (h e) Q E') : Triple P (MonadExcept.tryCatch x h) Q E' := by
  intro s hp
  have hx := hx s hp
  have hrun := run_tryCatch x h s
  rw [hrun]
  rcases hr : x.run s with ⟨e | a, s'⟩
  · rw [hr] at hx
    exact hh e s' hx
  · rw [hr] at hx
    exact hx

/-- Strengthen the precondition, weaken the postconditions. -/
theorem Triple.mono (h : Triple P' x Q' E') (hp : ∀ s, P s → P' s)
    (hq : ∀ a s, Q' a s → Q a s) (he : ∀ e s, E' e s → E e s) : Triple P x Q E := by
  intro s hs
  have h := h s (hp s hs)
  rcases hr : x.run s with ⟨e | a, s'⟩
  · rw [hr] at h
    exact he e s' h
  · rw [hr] at h
    exact hq a s' h

/-- Two triples of one program hold together. -/
theorem Triple.and (h : Triple P x Q E) (h' : Triple P' x Q' E') :
    Triple (fun s ↦ P s ∧ P' s) x (fun a s ↦ Q a s ∧ Q' a s) (fun e s ↦ E e s ∧ E' e s) := by
  intro s hs
  have h := h s hs.1
  have h' := h' s hs.2
  rcases hr : x.run s with ⟨e | a, s'⟩
  · rw [hr] at h h'
    exact ⟨h, h'⟩
  · rw [hr] at h h'
    exact ⟨h, h'⟩

/-- A fact about no state goes along unchanged. -/
theorem Triple.and_pure {p : Prop} (h : Triple P x Q fun _ _ ↦ True) :
    Triple (fun s ↦ p ∧ P s) x (fun a s ↦ p ∧ Q a s) fun _ _ ↦ True := by
  intro s hs
  have h := h s hs.2
  rcases hr : x.run s with ⟨e | a, s'⟩
  · trivial
  · rw [hr] at h
    exact ⟨hs.1, h⟩

/-- A fact about no state in the precondition is a hypothesis. -/
theorem Triple.assume {p : Prop} (h : p → Triple P x Q E) : Triple (fun s ↦ P s ∧ p) x Q E :=
  fun s hs ↦ h hs.2 s hs.1

/-- What holds either way out holds of the state a run ends in. -/
theorem Triple.state {I : σ → Prop} (h : Triple P x (fun _ ↦ I) fun _ ↦ I) {s : σ}
    (hs : P s) : I (x.run s).2 := by
  have h := h s hs
  rcases hr : x.run s with ⟨e | a, s'⟩
  · rw [hr] at h
    exact h
  · rw [hr] at h
    exact h

/-- What holds of every state a run ends in holds either way out. -/
theorem triple_of_state {I : σ → Prop} (h : ∀ s, P s → I (x.run s).2) :
    Triple P x (fun _ ↦ I) fun _ ↦ I := by
  intro s hs
  have h := h s hs
  rcases hr : x.run s with ⟨e | a, s'⟩
  · rw [hr] at h
    exact h
  · rw [hr] at h
    exact h

theorem Triple.ite {c : Prop} [Decidable c] {y : Exec σ ε α}
    (hx : c → Triple P x Q E) (hy : ¬ c → Triple P y Q E) :
    Triple P (if c then x else y) Q E := by
  split
  · next h => exact hx h
  · next h => exact hy h

theorem Triple.when {c : Prop} [Decidable c] {x : Exec σ ε Unit} {Q : Unit → σ → Prop}
    (hx : c → Triple P x Q E) (hn : ¬ c → ∀ s, P s → Q () s) :
    Triple P (Exec.when c x) Q E := by
  unfold Exec.when
  exact Triple.ite hx fun h ↦ Triple.pure (hn h)

theorem Triple.require {c : Prop} [Decidable c] {e : ε} {Q : Unit → σ → Prop}
    (hok : c → ∀ s, P s → Q () s) (herr : ¬ c → ∀ s, P s → E e s) :
    Triple P (Exec.require c e : Exec σ ε Unit) Q E := by
  unfold Exec.require
  exact Triple.ite (fun h ↦ Triple.pure (hok h)) fun h ↦ Triple.throw (herr h)

end Rules

/-! ### Invariants and frames -/

/-- Both ways out of the program preserve `I`. -/
def Keeps (I : σ → Prop) (x : Exec σ ε α) : Prop :=
  Triple I x (fun _ ↦ I) (fun _ ↦ I)

/-- The program leaves the observation `f` of the state unchanged. -/
def Frames (f : σ → ω) (x : Exec σ ε α) : Prop := ∀ s, f (x.run s).2 = f s

theorem Keeps.state {I : σ → Prop} {x : Exec σ ε α} (h : Keeps I x) {s : σ} (hs : I s) :
    I (x.run s).2 :=
  Triple.state h hs

theorem keeps_of_state {I : σ → Prop} {x : Exec σ ε α} (h : ∀ s, I s → I (x.run s).2) :
    Keeps I x :=
  triple_of_state h

/-- A framed observation keeps whatever was known about it. -/
theorem Frames.keeps {f : σ → ω} {x : Exec σ ε α} (h : Frames f x) (p : ω → Prop) :
    Keeps (fun s ↦ p (f s)) x := by
  apply keeps_of_state
  intro s hs
  rw [h s]
  exact hs

/-- The frame rule: what a program leaves alone goes along with its triple. -/
theorem Triple.framed {P : σ → Prop} {Q : α → σ → Prop} {E : ε → σ → Prop} {f : σ → ω}
    {x : Exec σ ε α} (h : Triple P x Q E) (hf : Frames f x) (p : ω → Prop) :
    Triple (fun s ↦ P s ∧ p (f s)) x (fun a s ↦ Q a s ∧ p (f s)) E := by
  apply (h.and (hf.keeps p)).mono
  · exact fun _ hs ↦ hs
  · exact fun _ _ hs ↦ hs
  · exact fun _ _ hs ↦ hs.1

/-- A framed program keeps what was known, and nothing is promised of its exceptions. -/
theorem Frames.returns {f : σ → ω} {x : Exec σ ε α} (h : Frames f x) (p : ω → Prop) :
    Triple (fun s ↦ p (f s)) x (fun _ s ↦ p (f s)) (fun _ _ ↦ True) :=
  (h.keeps p).mono (fun _ hs ↦ hs) (fun _ _ hs ↦ hs) (fun _ _ _ ↦ trivial)

section KeepRules

variable {I : σ → Prop} {x : Exec σ ε α}

theorem keeps_pure (a : α) : Keeps I (pure a : Exec σ ε α) := Triple.pure fun _ h ↦ h

theorem keeps_throw (e : ε) : Keeps I (throw e : Exec σ ε α) := Triple.throw fun _ h ↦ h

theorem keeps_read (f : σ → ω) : Keeps I (read f : Exec σ ε ω) := Triple.read fun _ h ↦ h

theorem keeps_ofExcept (v : Except ε α) : Keeps I (ofExcept v : Exec σ ε α) :=
  Triple.ofExcept (fun _ _ _ h ↦ h) fun _ _ _ h ↦ h

theorem keeps_require (c : Prop) [Decidable c] (e : ε) :
    Keeps I (require c e : Exec σ ε Unit) :=
  Triple.require (fun _ _ h ↦ h) fun _ _ h ↦ h

theorem keeps_bind {k : α → Exec σ ε β} (hx : Keeps I x) (hk : ∀ a, Keeps I (k a)) :
    Keeps I (x >>= k) :=
  Triple.bind hx hk

/-- The last part may count on what the first part returned. -/
theorem keeps_bind_of {q : α → Prop} {k : α → Exec σ ε β} (hx : Keeps I x)
    (hq : ∀ {s s' a}, x.run s = (.ok a, s') → q a) (hk : ∀ a, q a → Keeps I (k a)) :
    Keeps I (x >>= k) := by
  apply keeps_of_state
  intro s hs
  have hx := hx.state hs
  rw [run_bind]
  rcases hr : x.run s with ⟨e | a, s'⟩
  · rw [hr] at hx
    exact hx
  · rw [hr] at hx
    exact (hk a (hq hr)).state hx

theorem keeps_ite {c : Prop} [Decidable c] {y : Exec σ ε α} (hx : c → Keeps I x)
    (hy : ¬ c → Keeps I y) : Keeps I (if c then x else y) :=
  Triple.ite hx hy

theorem keeps_when {c : Prop} [Decidable c] {x : Exec σ ε Unit} (hx : c → Keeps I x) :
    Keeps I (when c x) :=
  Triple.when hx fun _ _ h ↦ h

theorem keeps_tryCatch {h : ε → Exec σ ε α} (hx : Keeps I x) (hh : ∀ e, Keeps I (h e)) :
    Keeps I (tryCatch x h) :=
  Triple.tryCatch hx hh

end KeepRules

section FrameRules

variable {f : σ → ω} {x : Exec σ ε α}

theorem frames_pure (a : α) : Frames f (pure a : Exec σ ε α) := fun _ ↦ rfl

theorem frames_throw (e : ε) : Frames f (throw e : Exec σ ε α) := fun _ ↦ rfl

theorem frames_read {ω' : Type} (g : σ → ω') : Frames f (read g : Exec σ ε ω') := fun _ ↦ rfl

theorem frames_ofExcept (v : Except ε α) : Frames f (ofExcept v : Exec σ ε α) := fun _ ↦ rfl

theorem frames_faultOf (fault : Option ε) : Frames f (faultOf fault : Exec σ ε Unit) := by
  intro s
  cases fault <;> rfl

theorem frames_update {g : σ → σ} (h : ∀ s, f (g s) = f s) :
    Frames f (update g : Exec σ ε Unit) := h

theorem frames_bind {k : α → Exec σ ε β} (hx : Frames f x) (hk : ∀ a, Frames f (k a)) :
    Frames f (x >>= k) := by
  intro s
  have hx := hx s
  rw [run_bind]
  rcases hr : x.run s with ⟨e | a, s'⟩
  · rw [hr] at hx
    exact hx
  · rw [hr] at hx
    exact (hk a s').trans hx

theorem frames_tryCatch {h : ε → Exec σ ε α} (hx : Frames f x) (hh : ∀ e, Frames f (h e)) :
    Frames f (tryCatch x h) := by
  intro s
  have hx := hx s
  rw [run_tryCatch]
  rcases hr : x.run s with ⟨e | a, s'⟩
  · rw [hr] at hx
    exact (hh e s').trans hx
  · rw [hr] at hx
    exact hx

theorem frames_ite {c : Prop} [Decidable c] {y : Exec σ ε α} (hx : Frames f x)
    (hy : Frames f y) : Frames f (if c then x else y) := by
  split
  · exact hx
  · exact hy

theorem frames_when {c : Prop} [Decidable c] {x : Exec σ ε Unit} (hx : c → Frames f x) :
    Frames f (when c x) := by
  unfold when
  split
  · next h => exact hx h
  · exact frames_pure _

theorem frames_require (c : Prop) [Decidable c] (e : ε) :
    Frames f (require c e : Exec σ ε Unit) :=
  frames_ite (frames_pure _) (frames_throw _)

end FrameRules

/-! ### Values -/

section Values

variable {q : α → Prop} {r : β → Prop} {x : Exec σ ε α} {k : α → Exec σ ε β}

/-- Whatever the program returns, from any state, satisfies `q`. -/
def Yields (q : α → Prop) (x : Exec σ ε α) : Prop :=
  Triple (fun _ ↦ True) x (fun a _ ↦ q a) (fun _ _ ↦ True)

theorem Yields.of_ok (h : Yields q x) {s s' : σ} {a : α} (hrun : x.run s = (.ok a, s')) : q a :=
  Triple.of_ok h trivial hrun

theorem Yields.mono (h : Yields q x) {q' : α → Prop} (hq : ∀ a, q a → q' a) : Yields q' x := by
  apply Triple.mono h
  · exact fun _ h ↦ h
  · exact fun a _ h ↦ hq a h
  · exact fun _ _ h ↦ h

theorem yields_pure {a : α} (h : q a) : Yields q (pure a : Exec σ ε α) :=
  Triple.pure fun _ _ ↦ h

theorem yields_throw (e : ε) : Yields q (throw e : Exec σ ε α) :=
  Triple.throw fun _ _ ↦ trivial

theorem yields_ofExcept (v : Except ε α) : Yields (v = .ok ·) (ofExcept v : Exec σ ε α) :=
  Triple.ofExcept (fun _ h _ _ ↦ h) fun _ _ _ _ ↦ trivial

/-- The last part may count on what the first part returned. -/
theorem yields_bind_of (hx : Yields q x) (hk : ∀ a, q a → Yields r (k a)) :
    Yields r (x >>= k) := by
  apply Triple.bind hx
  intro a s ha
  exact hk a ha s trivial

/-- What a sequence returns its last part returns. -/
theorem yields_bind (hk : ∀ a, Yields r (k a)) : Yields r (x >>= k) := by
  apply yields_bind_of (q := fun _ ↦ True)
  · intro s _
    split <;> trivial
  · exact fun a _ ↦ hk a

/-- What a program returns holds along with its postcondition. -/
theorem Triple.yields {P : σ → Prop} {Q : α → σ → Prop} {E : ε → σ → Prop}
    (h : Triple P x Q E) (hq : Yields q x) : Triple P x (fun a s ↦ Q a s ∧ q a) E := by
  apply (h.and hq).mono
  · exact fun _ hp ↦ ⟨hp, trivial⟩
  · exact fun _ _ hq ↦ hq
  · exact fun _ _ he ↦ he.1

end Values

/-! ### Exceptions -/

section Exceptions

variable {q r : ε → Prop} {x : Exec σ ε α} {k : α → Exec σ ε β}

/-- Whatever the program raises, from any state, satisfies `q`. -/
def Raises (q : ε → Prop) (x : Exec σ ε α) : Prop :=
  Triple (fun _ ↦ True) x (fun _ _ ↦ True) (fun e _ ↦ q e)

theorem Raises.of_error (h : Raises q x) {s s' : σ} {e : ε} (hrun : x.run s = (.error e, s')) :
    q e :=
  Triple.of_error h trivial hrun

/-- What is raised from any state is raised from those that satisfy a precondition. -/
theorem Raises.from (h : Raises q x) (P : σ → Prop) :
    Triple P x (fun _ _ ↦ True) fun e _ ↦ q e :=
  h.mono (fun _ _ ↦ trivial) (fun _ _ h ↦ h) fun _ _ h ↦ h

theorem raises_pure (a : α) : Raises q (pure a : Exec σ ε α) := Triple.pure fun _ _ ↦ trivial

theorem raises_throw {e : ε} (h : q e) : Raises q (throw e : Exec σ ε α) :=
  Triple.throw fun _ _ ↦ h

theorem raises_read {ω' : Type} (g : σ → ω') : Raises q (read g : Exec σ ε ω') :=
  Triple.read fun _ _ ↦ trivial

theorem raises_update (g : σ → σ) : Raises q (update g : Exec σ ε Unit) :=
  Triple.update fun _ _ ↦ trivial

theorem raises_ofExcept {v : Except ε α} (h : ∀ e, v = .error e → q e) :
    Raises q (ofExcept v : Exec σ ε α) :=
  Triple.ofExcept (fun _ _ _ _ ↦ trivial) fun e he _ _ ↦ h e he

theorem raises_bind (hx : Raises q x) (hk : ∀ a, Raises q (k a)) : Raises q (x >>= k) :=
  Triple.bind hx hk

theorem raises_tryCatch {h : ε → Exec σ ε α} (hx : Raises r x)
    (hh : ∀ e, r e → Raises q (h e)) : Raises q (tryCatch x h) := by
  apply Triple.tryCatch hx
  intro e s he
  exact hh e he s trivial

/-- A handler that handles everything leaves only its own exceptions. -/
theorem raises_tryCatch_any {h : ε → Exec σ ε α} (hh : ∀ e, Raises q (h e)) :
    Raises q (tryCatch x h) := by
  apply raises_tryCatch (r := fun _ ↦ True)
  · intro s _
    split <;> trivial
  · exact fun e _ ↦ hh e

theorem raises_ite {c : Prop} [Decidable c] {y : Exec σ ε α} (hx : c → Raises q x)
    (hy : ¬ c → Raises q y) : Raises q (if c then x else y) :=
  Triple.ite hx hy

theorem raises_when {c : Prop} [Decidable c] {x : Exec σ ε Unit} (hx : c → Raises q x) :
    Raises q (when c x) :=
  raises_ite hx fun _ ↦ raises_pure ()

theorem raises_require {c : Prop} [Decidable c] {e : ε} (h : q e) :
    Raises q (require c e : Exec σ ε Unit) :=
  raises_ite (fun _ ↦ raises_pure ()) fun _ ↦ raises_throw h

/-- What a framed program keeps holds either way out, along with what it may raise. -/
theorem Frames.raises {f : σ → ω} (hf : Frames f x) (hr : Raises q x) (p : ω → Prop) :
    Triple (fun s ↦ p (f s)) x (fun _ s ↦ p (f s)) (fun e s ↦ q e ∧ p (f s)) := by
  apply ((hf.keeps p).and hr).mono
  · exact fun _ hp ↦ ⟨hp, trivial⟩
  · exact fun _ _ hq ↦ hq.1
  · exact fun _ _ he ↦ ⟨he.2, he.1⟩

end Exceptions

/-! ### Logs -/

section Logs

variable {κ : Type} {f : σ → List κ} {p q : κ → Prop} {x : Exec σ ε α}

/-- Either way out, the program has only added entries satisfying `p` to the front of the
log `f`. -/
def Emits (f : σ → List κ) (p : κ → Prop) (x : Exec σ ε α) : Prop :=
  ∀ s, ∃ added, f (x.run s).2 = added ++ f s ∧ ∀ e ∈ added, p e

theorem Frames.emits (h : Frames f x) : Emits f p x := by
  intro s
  exact ⟨[], h s, by simp⟩

theorem Emits.mono (h : Emits f p x) (hpq : ∀ e, p e → q e) : Emits f q x := by
  intro s
  obtain ⟨added, heq, hall⟩ := h s
  exact ⟨added, heq, fun e he ↦ hpq e (hall e he)⟩

/-- The last part may count on what the first part returned. -/
theorem emits_bind_of {r : α → Prop} {k : α → Exec σ ε β} (hx : Emits f p x)
    (hr : Yields r x) (hk : ∀ a, r a → Emits f p (k a)) : Emits f p (x >>= k) := by
  intro s
  obtain ⟨added, heq, hall⟩ := hx s
  rw [run_bind]
  rcases hrun : x.run s with ⟨e | a, s'⟩
  · rw [hrun] at heq
    exact ⟨added, heq, hall⟩
  · rw [hrun] at heq
    obtain ⟨added', heq', hall'⟩ := hk a (hr.of_ok hrun) s'
    refine ⟨added' ++ added, ?_, ?_⟩
    · rw [heq', heq, List.append_assoc]
    · intro e he
      rcases List.mem_append.mp he with he | he
      · exact hall' e he
      · exact hall e he

theorem emits_bind {k : α → Exec σ ε β} (hx : Emits f p x) (hk : ∀ a, Emits f p (k a)) :
    Emits f p (x >>= k) :=
  emits_bind_of hx (r := fun _ ↦ True) (by intro s _; split <;> trivial) fun a _ ↦ hk a

theorem emits_tryCatch {h : ε → Exec σ ε α} (hx : Emits f p x) (hh : ∀ e, Emits f p (h e)) :
    Emits f p (tryCatch x h) := by
  intro s
  obtain ⟨added, heq, hall⟩ := hx s
  rw [run_tryCatch]
  rcases hr : x.run s with ⟨e | a, s'⟩
  · rw [hr] at heq
    obtain ⟨added', heq', hall'⟩ := hh e s'
    refine ⟨added' ++ added, ?_, ?_⟩
    · rw [heq', heq, List.append_assoc]
    · intro e' he
      rcases List.mem_append.mp he with he | he
      · exact hall' e' he
      · exact hall e' he
  · rw [hr] at heq
    exact ⟨added, heq, hall⟩

theorem emits_ite {c : Prop} [Decidable c] {y : Exec σ ε α} (hx : c → Emits f p x)
    (hy : ¬ c → Emits f p y) : Emits f p (if c then x else y) := by
  split
  · next h => exact hx h
  · next h => exact hy h

theorem emits_when {c : Prop} [Decidable c] {x : Exec σ ε Unit} (hx : c → Emits f p x) :
    Emits f p (when c x) := by
  unfold when
  split
  · next h => exact hx h
  · exact (frames_pure _).emits

/-- A log that only grows keeps its entries. -/
theorem Emits.mem (h : Emits f p x) {s : σ} {e : κ} (he : e ∈ f s) : e ∈ f (x.run s).2 := by
  obtain ⟨added, heq, -⟩ := h s
  rw [heq]
  exact List.mem_append_right _ he

/-- An entry of the log is an old one or satisfies what the program adds. -/
theorem Emits.of_mem (h : Emits f p x) {s : σ} {e : κ} (he : e ∈ f (x.run s).2) :
    e ∈ f s ∨ p e := by
  obtain ⟨added, heq, hall⟩ := h s
  rw [heq] at he
  rcases List.mem_append.mp he with he | he
  · exact .inr (hall e he)
  · exact .inl he

end Logs

end Exec

/-! ### Results without a state -/

/-- What a result comes from, that passed through another. -/
theorem bind_eq_ok {ε α β : Type} {x : Except ε α} {f : α → Except ε β} {b : β}
    (h : x >>= f = .ok b) : ∃ a, x = .ok a ∧ f a = .ok b := by
  cases x with
  | error e => cases h
  | ok a => exact ⟨a, rfl, h⟩

theorem ok_bind {ε α β : Type} (a : α) (f : α → Except ε β) : (Except.ok a >>= f) = f a := rfl

/-- When a result that passes through another is of a kind. -/
theorem exists_bind_iff {ε α β : Type} {x : Except ε α} {f : α → Except ε β} {P : β → Prop} :
    (∃ b, x >>= f = .ok b ∧ P b) ↔ ∃ a, x = .ok a ∧ ∃ b, f a = .ok b ∧ P b := by
  constructor
  · intro ⟨b, hb, hP⟩
    obtain ⟨a, ha, hfa⟩ := bind_eq_ok hb
    exact ⟨a, ha, b, hfa, hP⟩
  · intro ⟨a, ha, b, hfa, hP⟩
    rw [ha]
    exact ⟨b, hfa, hP⟩

/-- A list of results, each of which needs a condition. -/
theorem mapM_eq_ok {ε α β : Type} {f : α → Except ε β} {g : α → β} {P : α → Prop}
    (h : ∀ a b, f a = .ok b ↔ P a ∧ g a = b) {as : List α} {bs : List β} :
    as.mapM f = .ok bs ↔ (∀ a ∈ as, P a) ∧ as.map g = bs := by
  induction as generalizing bs with
  | nil =>
    rw [List.mapM_nil]
    exact ⟨fun h ↦ ⟨List.forall_mem_nil _, Except.ok.inj h⟩, fun h ↦ congrArg Except.ok h.2⟩
  | cons a rest ih =>
    rw [List.mapM_cons, List.forall_mem_cons, List.map_cons]
    constructor
    · intro hall
      obtain ⟨b, hb, htail⟩ := bind_eq_ok hall
      obtain ⟨more, hmore, hbs⟩ := bind_eq_ok htail
      obtain ⟨hrest, rfl⟩ := ih.mp hmore
      obtain ⟨ha, rfl⟩ := (h a b).mp hb
      exact ⟨⟨ha, hrest⟩, Except.ok.inj hbs⟩
    · rintro ⟨⟨ha, hrest⟩, rfl⟩
      rw [(h a (g a)).mpr ⟨ha, rfl⟩, ih.mpr ⟨hrest, rfl⟩]
      rfl

/-- A list of results is as long as what it comes from. -/
theorem length_of_mapM {ε α β : Type} {f : α → Except ε β} {as : List α} {bs : List β}
    (h : as.mapM f = .ok bs) : bs.length = as.length := by
  induction as generalizing bs with
  | nil =>
    cases h
    rfl
  | cons a rest ih =>
    rw [List.mapM_cons] at h
    obtain ⟨b, -, htail⟩ := bind_eq_ok h
    obtain ⟨more, hmore, hcons⟩ := bind_eq_ok htail
    cases hcons
    rw [List.length_cons, List.length_cons, ih hmore]

/-- A result of a list comes from one of its members. -/
theorem exists_of_mem_mapM {ε α β : Type} {f : α → Except ε β} {as : List α} {bs : List β} {b : β}
    (h : as.mapM f = .ok bs) (hb : b ∈ bs) : ∃ a ∈ as, f a = .ok b := by
  induction as generalizing bs with
  | nil =>
    cases h
    cases hb
  | cons a rest ih =>
    rw [List.mapM_cons] at h
    obtain ⟨first, hfirst, htail⟩ := bind_eq_ok h
    obtain ⟨more, hmore, hcons⟩ := bind_eq_ok htail
    cases hcons
    rcases List.mem_cons.mp hb with rfl | hb
    · exact ⟨a, List.mem_cons_self, hfirst⟩
    · obtain ⟨other, hother, hresult⟩ := ih hmore hb
      exact ⟨other, List.mem_cons_of_mem a hother, hresult⟩

/-! ### How results end -/

section Conclusions

variable {ε α β : Type} {q : ε → Prop} {P Q : α → Prop} {x : Except ε α} {fits : Prop}

/-- A result is of a kind, or an exception of another. -/
def Concludes (q : ε → Prop) (P : α → Prop) : Except ε α → Prop
  | .ok a => P a
  | .error e => q e

/-- A condition holds, and what is returned is of a kind. -/
def Requires (fits : Prop) (x : Except ε α) (P : α → Prop) : Prop := fits ∧ ∀ a, x = .ok a → P a

@[simp] theorem concludes_ok (a : α) : Concludes q P (.ok a : Except ε α) ↔ P a := Iff.rfl

@[simp] theorem concludes_error (e : ε) : Concludes q P (.error e) ↔ q e := Iff.rfl

theorem concludes_bind (x : Except ε α) (f : α → Except ε β) (P : β → Prop) :
    Concludes q P (x >>= f) ↔ Concludes q (fun a ↦ Concludes q P (f a)) x := by
  cases x with
  | error e => rfl
  | ok a => rfl

/-- Where a condition decides whether an exception is of the kind, it guards what is returned. -/
theorem concludes_iff_requires (h : Concludes q (fun _ ↦ True) x ↔ fits) :
    Concludes q P x ↔ Requires fits x P := by
  unfold Requires
  cases x with
  | error e =>
    rw [concludes_error] at h ⊢
    simpa using h
  | ok a =>
    rw [concludes_ok] at h ⊢
    simp [h.mp trivial]

theorem requires_congr (h : ∀ a, x = .ok a → (P a ↔ Q a)) :
    Requires fits x P ↔ Requires fits x Q :=
  and_congr_right fun _ ↦ forall₂_congr h

theorem concludes_iff : Concludes q P x ↔ (∀ e, x = .error e → q e) ∧ ∀ a, x = .ok a → P a := by
  cases x <;> simp

/-- Where no exception is of the kind, every result of a list has to be. -/
theorem concludes_mapM {f : α → Except ε β} (h : ∀ a e, f a = .error e → ¬ q e) (as : List α) :
    Concludes q (fun _ ↦ True) (as.mapM f) ↔ ∀ a ∈ as, Concludes q (fun _ ↦ True) (f a) := by
  induction as with
  | nil => simp [pure, Except.pure]
  | cons a rest ih =>
    rw [List.mapM_cons, List.forall_mem_cons, concludes_bind, ← ih]
    cases hfa : f a with
    | error e => simp [h a e hfa]
    | ok b =>
      rw [concludes_ok, concludes_ok, concludes_bind]
      cases rest.mapM f <;> simp [pure, Except.pure]

end Conclusions

end CloudWard.Logic
