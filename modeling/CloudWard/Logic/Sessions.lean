import CloudWard.Logic.Table
import Mathlib.Logic.Function.Basic

/-!
# Sessions that keep what they have read

Library `Logic`. A session fills its identity map from the committed rows and never reads a
row twice: a statement that selects a row which the map has already leaves the map as it is,
also when it locks the row. So the row that a session holds locked is the committed one only
if it had not been read before, or had not changed since. `Statement` lists what one statement of
such a store can do when every lock meets that condition; `Serial` is what the locks are for,
and each step keeps it.
-/

namespace CloudWard.Logic.Sessions

variable {K : Type} [DecidableEq K] {V : K → Type} {π : Type}

/-- A session of a program: the identity map, the rows it holds locked, and what is next. -/
structure Client (V : K → Type) (π : Type) where
  loaded : ∀ k, Option (V k) := fun _ ↦ none
  locked : List K := []
  program : π

/-- A selected row; the map keeps the one it has. -/
def Client.load (s : Client V π) (k : K) (row : V k) : Client V π :=
  { s with loaded := Function.update s.loaded k (some ((s.loaded k).getD row)) }

/-- A selected row that stays locked until the transaction ends. -/
def Client.lock (s : Client V π) (k : K) (row : V k) : Client V π :=
  { s.load k row with locked := k :: s.locked }

/-- The end of the transaction. -/
def Client.release (s : Client V π) (next : π) : Client V π :=
  { s with locked := [], program := next }

/-- Another session holds the row. -/
def heldElsewhere (sessions : Table (Client V π)) (i : Nat) (k : K) : Bool :=
  sessions.zipIdx.any fun e ↦ e.2 ≠ i && e.1.locked.contains k

/-- Some session holds the row. -/
def held (sessions : Table (Client V π)) (k : K) : Bool :=
  sessions.any (·.locked.contains k)

/-- What the session holds locked is as committed. -/
def AsCommitted (rows : ∀ k, Option (V k)) (s : Client V π) : Prop :=
  ∀ k ∈ s.locked, s.loaded k = rows k

/-- No row is locked twice, and what is locked exists and is as committed. -/
structure Serial (rows : ∀ k, Option (V k)) (sessions : Table (Client V π)) : Prop where
  exclusive : ∀ (i j : Nat) (s t : Client V π), sessions[i]? = some s → sessions[j]? = some t →
    i ≠ j → ∀ k ∈ s.locked, k ∉ t.locked
  exist : ∀ s ∈ sessions, ∀ k ∈ s.locked, (rows k).isSome
  current : ∀ s ∈ sessions, AsCommitted rows s

/-! ### One session -/

@[simp] theorem locked_load (s : Client V π) (k : K) (row : V k) :
    (s.load k row).locked = s.locked := rfl

@[simp] theorem program_load (s : Client V π) (k : K) (row : V k) :
    (s.load k row).program = s.program := rfl

@[simp] theorem loaded_load_self (s : Client V π) (k : K) (row : V k) :
    (s.load k row).loaded k = some ((s.loaded k).getD row) := by
  simp [Client.load]

@[simp] theorem loaded_load_of_ne (s : Client V π) {k k' : K} (row : V k) (h : k' ≠ k) :
    (s.load k row).loaded k' = s.loaded k' := by
  simp [Client.load, h]

/-- A row that is loaded already stays as it was loaded. -/
theorem loaded_load_of_some {s : Client V π} {k k' : K} {row : V k} {old : V k'}
    (h : s.loaded k' = some old) : (s.load k row).loaded k' = some old := by
  by_cases hk : k' = k
  · subst hk
    simp [h]
  · simp [hk, h]

/-- Loading a committed row keeps what is locked as committed. -/
theorem AsCommitted.load {rows : ∀ k, Option (V k)} {s : Client V π} {k : K} {row : V k}
    (h : AsCommitted rows s) (hrow : rows k = some row) : AsCommitted rows (s.load k row) := by
  intro k' hk'
  by_cases hne : k' = k
  · subst hne
    simp [h k' hk', hrow]
  · simpa [hne] using h k' hk'

/-- After a lock what is locked is as committed exactly when the row that the session had
loaded, if any, is the committed one. -/
theorem current_lock_iff {rows : ∀ k, Option (V k)} {s : Client V π} {k : K} {row : V k}
    (h : AsCommitted rows s) (hrow : rows k = some row) :
    AsCommitted rows (s.lock k row) ↔ ∀ old, s.loaded k = some old → old = row := by
  constructor
  · intro hlock old hold
    have hself : (s.load k row).loaded k = rows k := hlock k List.mem_cons_self
    rw [loaded_load_self, hold, hrow] at hself
    simpa using hself
  · intro hfresh k' hk'
    show (s.load k row).loaded k' = rows k'
    by_cases hne : k' = k
    · subst hne
      cases hold : s.loaded k' with
      | none => simp [hold, hrow]
      | some old => simp [hold, hrow, hfresh old hold]
    · have hin : k' ∈ s.locked := by
        simpa [Client.lock, hne] using hk'
      simpa [hne] using h k' hin

/-! ### Who holds a row -/

theorem heldElsewhere_eq_false {sessions : Table (Client V π)} {i : Nat} {k : K} :
    heldElsewhere sessions i k = false ↔
      ∀ (j : Nat) (t : Client V π), sessions[j]? = some t → j ≠ i → k ∉ t.locked := by
  simp only [heldElsewhere, List.any_eq_false, Bool.and_eq_true, decide_eq_true_eq,
    List.contains_iff_mem, not_and]
  constructor
  · intro h j t hj hne
    exact h (t, j) (List.mem_zipIdx_iff_getElem?.mpr hj) hne
  · intro h e he hne
    exact h e.2 e.1 (List.mem_zipIdx_iff_getElem?.mp he) hne

theorem held_eq_false {sessions : Table (Client V π)} {k : K} :
    held sessions k = false ↔ ∀ t ∈ sessions, k ∉ t.locked := by
  simp [held]

/-! ### Statements -/

/-- What one statement does, where a lock finds what the session has loaded of the row. -/
inductive Statement (rows : ∀ k, Option (V k)) (sessions : Table (Client V π)) :
    (∀ k, Option (V k)) → Table (Client V π) → Prop
  /-- A session starts. -/
  | join (next : π) : Statement rows sessions rows (sessions.insert { program := next })
  /-- The statement waits for a lock, or there is none. -/
  | wait : Statement rows sessions rows sessions
  /-- A statement that loads no row. -/
  | proceed {i : Nat} {s : Client V π} (hs : sessions[i]? = some s) (next : π) :
      Statement rows sessions rows (sessions.update i fun _ ↦ { s with program := next })
  /-- A row is selected. -/
  | load {i : Nat} {s : Client V π} (hs : sessions[i]? = some s) {k : K} {row : V k}
      (hrow : rows k = some row) (next : π) :
      Statement rows sessions rows (sessions.update i fun _ ↦ { s.load k row with program := next })
  /-- A row is selected and locked. -/
  | lock {i : Nat} {s : Client V π} (hs : sessions[i]? = some s) {k : K} {row : V k}
      (hrow : rows k = some row) (hfree : heldElsewhere sessions i k = false)
      (hfresh : ∀ old, s.loaded k = some old → old = row) (next : π) :
      Statement rows sessions rows (sessions.update i fun _ ↦ { s.lock k row with program := next })
  /-- The transaction ends; it has changed rows that it held, and added new ones. -/
  | finish {i : Nat} {s : Client V π} (hs : sessions[i]? = some s)
      {after : ∀ k, Option (V k)}
      (hrows : ∀ k, (rows k).isSome → k ∉ s.locked → after k = rows k) (next : π) :
      Statement rows sessions after (sessions.update i fun _ ↦ s.release next)
  /-- Another transaction changes rows that no session holds. -/
  | foreign {after : ∀ k, Option (V k)}
      (hrows : ∀ k, (rows k).isSome → held sessions k = true → after k = rows k) :
      Statement rows sessions after sessions

/-- A changed session whose locks are its own and are as committed. -/
private theorem serial_update {rows : ∀ k, Option (V k)} {sessions : Table (Client V π)}
    (h : Serial rows sessions) {i : Nat} {s : Client V π} (hs : sessions[i]? = some s)
    {s' : Client V π}
    (hlocked : ∀ k ∈ s'.locked, k ∈ s.locked ∨
      ((rows k).isSome ∧ heldElsewhere sessions i k = false))
    (hcurrent : AsCommitted rows s') : Serial rows (sessions.update i fun _ ↦ s') := by
  have hmember : ∀ t ∈ sessions.update i (fun _ ↦ s'), t ∈ sessions ∨ t = s' :=
    fun t ht ↦ Table.mem_update_of_some hs ht
  -- what the changed session holds, no other one does
  have halone : ∀ k ∈ s'.locked, ∀ (j : Nat) (t : Client V π), sessions[j]? = some t → j ≠ i → k ∉ t.locked := by
    intro k hk j t ht hne
    rcases hlocked k hk with hold | ⟨-, hfree⟩
    · exact h.exclusive i j s t hs ht (Ne.symm hne) k hold
    · exact heldElsewhere_eq_false.mp hfree j t ht hne
  constructor
  · intro a b u v hu hv hab k hku hkv
    rw [Table.getElem?_update] at hu hv
    split at hu
    · next ha =>
      subst ha
      rw [hs, Option.map_some, Option.some.injEq] at hu
      subst hu
      rw [if_neg hab] at hv
      exact halone k hku b v hv (Ne.symm hab) hkv
    · next ha =>
      split at hv
      · next hb =>
        subst hb
        rw [hs, Option.map_some, Option.some.injEq] at hv
        subst hv
        exact halone k hkv a u hu hab hku
      · exact h.exclusive a b u v hu hv hab k hku hkv
  · intro t ht k hk
    rcases hmember t ht with hold | rfl
    · exact h.exist t hold k hk
    · rcases hlocked k hk with hown | ⟨hsome, -⟩
      · exact h.exist s (List.mem_of_getElem? hs) k hown
      · exact hsome
  · intro t ht
    rcases hmember t ht with hold | rfl
    · exact h.current t hold
    · exact hcurrent

omit [DecidableEq K] in
/-- Rows that change where nothing is locked. -/
private theorem serial_congr {rows after : ∀ k, Option (V k)} {sessions : Table (Client V π)}
    (h : Serial rows sessions)
    (hrows : ∀ t ∈ sessions, ∀ k ∈ t.locked, after k = rows k) : Serial after sessions := by
  constructor
  · exact h.exclusive
  · intro t ht k hk
    rw [hrows t ht k hk]
    exact h.exist t ht k hk
  · intro t ht k hk
    rw [hrows t ht k hk]
    exact h.current t ht k hk

/-- Every statement keeps the locked rows as committed. -/
theorem Statement.serial {rows after : ∀ k, Option (V k)} {sessions next : Table (Client V π)}
    (hstep : Statement rows sessions after next) (h : Serial rows sessions) : Serial after next := by
  cases hstep with
  | join program =>
    constructor
    · intro i j s t hs ht hij k hks
      rcases Table.getElem?_insert_eq_some.mp hs with hs | ⟨-, rfl⟩
      · rcases Table.getElem?_insert_eq_some.mp ht with ht | ⟨-, rfl⟩
        · exact h.exclusive i j s t hs ht hij k hks
        · exact List.not_mem_nil
      · exact absurd hks List.not_mem_nil
    · intro s hs k hk
      rcases List.mem_append.mp hs with hs | hs
      · exact h.exist s hs k hk
      · rw [List.mem_singleton.mp hs] at hk
        exact absurd hk List.not_mem_nil
    · intro s hs k hk
      rcases List.mem_append.mp hs with hs | hs
      · exact h.current s hs k hk
      · rw [List.mem_singleton.mp hs] at hk
        exact absurd hk List.not_mem_nil
  | wait => exact h
  | proceed hs program =>
    have hcurrent := h.current _ (List.mem_of_getElem? hs)
    refine serial_update h hs ?_ hcurrent
    exact fun k hk ↦ .inl hk
  | load hs hrow program =>
    have hcurrent := (h.current _ (List.mem_of_getElem? hs)).load hrow
    refine serial_update h hs ?_ hcurrent
    exact fun k hk ↦ .inl hk
  | lock hs hrow hfree hfresh program =>
    have hcurrent := (current_lock_iff (h.current _ (List.mem_of_getElem? hs)) hrow).mpr hfresh
    refine serial_update h hs ?_ hcurrent
    intro k hk
    rcases List.mem_cons.mp hk with rfl | hold
    · exact .inr ⟨by rw [hrow]; rfl, hfree⟩
    · exact .inl hold
  | @finish i s hs after hrows program =>
    have hreleased : Serial rows (sessions.update i fun _ ↦ s.release program) :=
      serial_update h hs (fun k hk ↦ absurd hk List.not_mem_nil)
        fun k hk ↦ absurd hk List.not_mem_nil
    apply serial_congr hreleased
    intro t ht k hk
    obtain ⟨j, hj⟩ := List.mem_iff_getElem?.mp ht
    rw [Table.getElem?_update] at hj
    split at hj
    · rw [‹i = j›] at hs
      rw [hs, Option.map_some, Option.some.injEq] at hj
      subst hj
      exact absurd hk List.not_mem_nil
    · next hne =>
      exact hrows k (h.exist t (List.mem_of_getElem? hj) k hk)
        (h.exclusive j i t s hj hs (Ne.symm hne) k hk)
  | foreign hrows =>
    apply serial_congr h
    intro t ht k hk
    apply hrows k (h.exist t ht k hk)
    by_cases hheld : held sessions k = true
    · exact hheld
    · exact absurd hk (held_eq_false.mp (by simpa using hheld) t ht)

end CloudWard.Logic.Sessions
