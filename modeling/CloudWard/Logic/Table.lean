/-!
# Append-only tables

Library `Logic`. A table is the list of its rows in insertion order; a row's identity is
its position, rows are inserted at the end and changed in place, never removed. `latest`
is the newest row of a kind, what `ORDER BY created_at DESC LIMIT 1` returns.
-/

namespace CloudWard.Logic

/-- The rows of a table, oldest first. -/
abbrev Table (α : Type) : Type := List α

namespace Table

variable {α : Type}

/-- Add a row. -/
def insert (t : Table α) (row : α) : Table α := t ++ [row]

/-- The identity the next inserted row gets. -/
def fresh (t : Table α) : Nat := t.length

/-- Change one row. -/
def update (t : Table α) (id : Nat) (f : α → α) : Table α := List.modify t id f

/-- The newest row that satisfies `p`, with its identity. -/
def latest (t : Table α) (p : α → Bool) : Option (Nat × α) :=
  (t.zipIdx.reverse.find? fun e ↦ p e.1).map fun e ↦ (e.2, e.1)

/-! ### Rows after an insertion or a change -/

@[simp] theorem length_insert (t : Table α) (row : α) : (t.insert row).length = t.length + 1 := by
  simp [insert]

@[simp] theorem length_update (t : Table α) (id : Nat) (f : α → α) :
    (t.update id f).length = t.length := by
  simp [update]

/-- The inserted row is found under the fresh identity. -/
@[simp] theorem getElem?_insert_fresh (t : Table α) (row : α) :
    (t.insert row)[t.fresh]? = some row := by
  simp [insert, fresh]

/-- Insertion keeps the rows that are there. -/
theorem getElem?_insert_of_some {t : Table α} {row row' : α} {id : Nat}
    (h : t[id]? = some row) : (t.insert row')[id]? = some row := by
  have hlt : id < t.length := (List.getElem?_eq_some_iff.mp h).1
  simp [insert, List.getElem?_append_left hlt, h]

/-- An inserted table's row is an old one or the new one. -/
theorem getElem?_insert_eq_some {t : Table α} {row row' : α} {id : Nat} :
    (t.insert row')[id]? = some row ↔
      t[id]? = some row ∨ (id = t.fresh ∧ row = row') := by
  rcases Nat.lt_trichotomy id t.length with h | h | h
  · simp only [insert, fresh, List.getElem?_append_left h]
    constructor
    · exact .inl
    · rintro (h' | ⟨rfl, -⟩)
      · exact h'
      · omega
  · subst h
    simp [insert, fresh, eq_comm]
  · have h1 : (t.insert row')[id]? = none := by
      simp [insert]
      omega
    have h2 : t[id]? = none := by
      simp
      omega
    simp [h1, h2, fresh]
    omega

/-- A changed row is the function's value on the old one. -/
@[simp] theorem getElem?_update_self (t : Table α) (id : Nat) (f : α → α) :
    (t.update id f)[id]? = t[id]?.map f := by
  simp [update]

/-- The other rows stay. -/
theorem getElem?_update_of_ne (t : Table α) {id id' : Nat} (f : α → α) (h : id ≠ id') :
    (t.update id f)[id']? = t[id']? := by
  simp [update, h]

/-- Any row after a change, by cases on its identity. -/
theorem getElem?_update (t : Table α) (id id' : Nat) (f : α → α) :
    (t.update id f)[id']? = if id = id' then t[id']?.map f else t[id']? := by
  split
  · next h =>
    subst h
    exact getElem?_update_self t id f
  · next h => exact getElem?_update_of_ne t f h

/-- A changed table's row is an old one, changed or not. -/
theorem mem_update {t : Table α} {id : Nat} {f : α → α} {row : α} (h : row ∈ t.update id f) :
    row ∈ t ∨ ∃ old ∈ t, row = f old := by
  obtain ⟨i, hi⟩ := List.mem_iff_getElem?.mp h
  rw [getElem?_update] at hi
  split at hi
  · obtain ⟨old, hold, rfl⟩ := Option.map_eq_some_iff.mp hi
    exact .inr ⟨old, List.mem_of_getElem? hold, rfl⟩
  · exact .inl (List.mem_of_getElem? hi)

/-- A table's row after the change of a given one is an old row, or that one changed. -/
theorem mem_update_of_some {t : Table α} {id : Nat} {f : α → α} {old row : α}
    (hold : t[id]? = some old) (h : row ∈ t.update id f) : row ∈ t ∨ row = f old := by
  obtain ⟨i, hi⟩ := List.mem_iff_getElem?.mp h
  rw [getElem?_update] at hi
  split at hi
  · next hid =>
    subst hid
    rw [hold] at hi
    cases hi
    exact .inr rfl
  · exact .inl (List.mem_of_getElem? hi)

/-- A change that a function does not see leaves its values on the rows. -/
theorem map_update {β : Type} (t : Table α) (id : Nat) {f : α → α} {g : α → β}
    (h : ∀ row, g (f row) = g row) : (t.update id f).map g = t.map g := by
  apply List.ext_getElem?
  intro i
  simp only [List.getElem?_map, getElem?_update]
  split
  · next hid =>
    subst hid
    rw [Option.map_map]
    exact congrArg (t[id]?.map ·) (funext h)
  · rfl

/-- A function of the rows turns a change of a row into a change of its value. -/
theorem map_update_comm {β : Type} (t : Table α) (id : Nat) {f : α → α} {g : α → β} {h : β → β}
    (hcomm : ∀ row, g (f row) = h (g row)) :
    (t.update id f).map g = Table.update (t.map g) id h := by
  apply List.ext_getElem?
  intro i
  simp only [List.getElem?_map, getElem?_update]
  split
  · cases t[i]? with
    | none => rfl
    | some row => exact congrArg some (hcomm row)
  · rfl

/-- A change of the row just inserted inserts the changed row. -/
theorem update_insert_fresh (t : Table α) (row : α) (f : α → α) :
    (t.insert row).update t.fresh f = t.insert (f row) := by
  simp [update, insert, fresh, List.modify_eq_take_drop]

/-! ### The newest row of a kind -/

/-- The newest row of a kind is a row of that kind. -/
theorem latest_eq_some {t : Table α} {p : α → Bool} {id : Nat} {row : α}
    (h : t.latest p = some (id, row)) : t[id]? = some row ∧ p row := by
  simp only [latest, Option.map_eq_some_iff, Prod.mk.injEq] at h
  obtain ⟨⟨row', id'⟩, hf, rfl, rfl⟩ := h
  have hmem := List.mem_of_find?_eq_some hf
  have hp := List.find?_some hf
  simp only [List.mem_reverse, List.mem_zipIdx_iff_getElem?] at hmem
  exact ⟨hmem, hp⟩

/-- There is no newest row of a kind exactly when there is no row of that kind. -/
theorem latest_eq_none {t : Table α} {p : α → Bool} :
    t.latest p = none ↔ ∀ row ∈ t, p row = false := by
  simp only [latest, Option.map_eq_none_iff, List.find?_eq_none, List.mem_reverse]
  constructor
  · intro h row hrow
    obtain ⟨id, hid⟩ := List.mem_iff_getElem?.mp hrow
    simpa using h (row, id) (by simpa [List.mem_zipIdx_iff_getElem?] using hid)
  · rintro h ⟨row, id⟩ hmem
    simp only [List.mem_zipIdx_iff_getElem?] at hmem
    simpa using h row (List.mem_of_getElem? hmem)

/-- A row of the kind just inserted is the newest one. -/
theorem latest_insert_of_pos {t : Table α} {p : α → Bool} {row : α} (h : p row) :
    (t.insert row).latest p = some (t.fresh, row) := by
  simp [latest, insert, fresh, List.zipIdx_append, h]

/-- A row of another kind does not change the newest one. -/
theorem latest_insert_of_neg {t : Table α} {p : α → Bool} {row : α} (h : p row = false) :
    (t.insert row).latest p = t.latest p := by
  simp [latest, insert, List.zipIdx_append, h]

/-- The newest row of all is the newest of its kind. -/
theorem latest_of_newest {t : Table α} {p : α → Bool} {id : Nat} {row : α}
    (h : t.latest (fun _ ↦ true) = some (id, row)) (hp : p row) :
    t.latest p = some (id, row) := by
  unfold latest at h ⊢
  cases hrows : t.zipIdx.reverse with
  | nil => simp [hrows] at h
  | cons e rest =>
    simp only [hrows, List.find?_cons_of_pos, Option.map_some, Option.some.injEq,
      Prod.mk.injEq] at h
    obtain ⟨rfl, rfl⟩ := h
    simp [hp]

private theorem zipIdx_update (t : Table α) (id : Nat) (f : α → α) :
    (t.update id f).zipIdx =
      t.zipIdx.map fun e ↦ (if e.2 = id then f e.1 else e.1, e.2) := by
  apply List.ext_getElem?
  intro i
  rw [List.getElem?_zipIdx, List.getElem?_map, List.getElem?_zipIdx, getElem?_update]
  by_cases h : id = i
  · subst h
    simp only [if_pos rfl]
    cases t[id]? <;> simp
  · rw [if_neg h]
    cases t[i]? with
    | none => rfl
    | some row => simp [Ne.symm h]

/-- A change that keeps every row's kind keeps which row is the newest of it. -/
theorem latest_update {t : Table α} {p : α → Bool} (id : Nat) {f : α → α}
    (h : ∀ row, p (f row) = p row) :
    (t.update id f).latest p =
      (t.latest p).map fun e ↦ (e.1, if e.1 = id then f e.2 else e.2) := by
  have hkind : (fun e : α × Nat ↦ p (if e.2 = id then f e.1 else e.1)) = fun e ↦ p e.1 := by
    funext e
    split
    · exact h e.1
    · rfl
  unfold latest
  rw [zipIdx_update, ← List.map_reverse, List.find?_map, Option.map_map, Option.map_map]
  simp only [Function.comp_def, hkind]

/-! ### Rows up to their order -/

/-- A list is one of its members and the rest, in some order. -/
theorem perm_cons_eraseIdx {t : List α} {id : Nat} {row : α} (h : t[id]? = some row) :
    t.Perm (row :: t.eraseIdx id) := by
  induction t generalizing id with
  | nil => simp at h
  | cons row' rest ih =>
    cases id with
    | zero =>
      rw [List.getElem?_cons_zero, Option.some.injEq] at h
      rw [h, List.eraseIdx_cons_zero]
    | succ id =>
      rw [List.eraseIdx_cons_succ]
      exact ((ih (by simpa using h)).cons row').trans (List.Perm.swap row row' _)

/-- Replacing a member replaces it in front of the rest. -/
theorem set_perm_cons_eraseIdx {t : List α} {id : Nat} {row row' : α} (h : t[id]? = some row) :
    (t.set id row').Perm (row' :: t.eraseIdx id) := by
  have hlt : id < t.length := (List.getElem?_eq_some_iff.mp h).1
  have hset : (t.set id row')[id]? = some row' := by
    rw [List.getElem?_set_self hlt]
  have hperm := perm_cons_eraseIdx hset
  rwa [List.eraseIdx_set_eq] at hperm

/-- Changing one row changes the number of rows of a kind by that row alone. -/
theorem countP_update {t : Table α} {id : Nat} {row : α} (h : t[id]? = some row) (f : α → α)
    (p : α → Bool) :
    (t.update id f).countP p + (if p row then 1 else 0) =
      t.countP p + if p (f row) then 1 else 0 := by
  have hset : t.update id f = t.set id (f row) := by
    apply List.ext_getElem?
    intro i
    rw [getElem?_update, List.getElem?_set]
    by_cases hid : id = i
    · subst hid
      obtain ⟨hlt, hget⟩ := List.getElem?_eq_some_iff.mp h
      simp [hlt, hget]
    · simp [hid]
  rw [hset, (set_perm_cons_eraseIdx h).countP_eq, (perm_cons_eraseIdx h).countP_eq]
  simp only [List.countP_cons]
  omega

/-- An inserted row counts once if it is of the kind. -/
theorem countP_insert (t : Table α) (row : α) (p : α → Bool) :
    (t.insert row).countP p = t.countP p + if p row then 1 else 0 := by
  simp [insert, List.countP_append, List.countP_cons]

end Table
end CloudWard.Logic
