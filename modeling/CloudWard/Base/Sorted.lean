import CloudWard.Base.Unambiguous

/-!
# What sorted compact JSON says

`json.dumps` with `sort_keys=True` and `separators=(",", ":")`, which digests are taken of. Two
objects with one sorted encoding have the same values, themselves sorted, at the same keys.
-/

namespace CloudWard.Json

/-- `json.dumps(value, sort_keys=True, separators=(",", ":"))`. -/
def canonical (value : Json) : String := String.ofList (compact (sorted value))

/-! ### Numbers -/

private theorem floatsOfEntries_eq (entries : List (String × Json)) :
    floatsOfEntries entries = entries.flatMap fun entry ↦ floats entry.2 := by
  induction entries with
  | nil => rfl
  | cons entry rest ih => rw [floatsOfEntries, ih, List.flatMap_cons]

mutual

/-- Sorting keeps the numbers of a value. -/
theorem floats_sorted : (value : Json) → (floats (sorted value)).Perm (floats value)
  | .null => .refl _
  | .bool _ => .refl _
  | .int _ => .refl _
  | .float _ => .refl _
  | .str _ => .refl _
  | .list items => by
    rw [sorted, floats, floats]
    exact floats_sortedItems items
  | .dict entries => by
    rw [sorted, floats, floats, floatsOfEntries_eq]
    refine ((List.mergeSort_perm _ _).flatMap_right _).trans ?_
    rw [← floatsOfEntries_eq]
    exact floats_sortedEntries entries

/-- Those of the items of a list. -/
theorem floats_sortedItems : (items : List Json) →
    (floatsOfItems (sortedItems items)).Perm (floatsOfItems items)
  | [] => .refl _
  | item :: rest => by
    rw [sortedItems, floatsOfItems, floatsOfItems]
    exact (floats_sorted item).append (floats_sortedItems rest)

/-- Those of the entries of an object. -/
theorem floats_sortedEntries : (entries : List (String × Json)) →
    (floatsOfEntries (sortedEntries entries)).Perm (floatsOfEntries entries)
  | [] => .refl _
  | (key, value) :: rest => by
    rw [sortedEntries, floatsOfEntries, floatsOfEntries]
    exact (floats_sorted value).append (floats_sortedEntries rest)

end

theorem Legible.sorted {value : Json} (h : Legible value) : Legible (sorted value) :=
  fun text ht ↦ h text ((floats_sorted value).mem_iff.mp ht)

/-- A sorted encoding is of one sorted value. -/
theorem canonical_eq_iff {a b : Json} (ha : Legible a) (hb : Legible b) :
    canonical a = canonical b ↔ sorted a = sorted b := by
  constructor
  · intro h
    exact compact_injective ha.sorted hb.sorted (String.ofList_inj.mp h)
  · intro h
    unfold canonical
    rw [h]

/-! ### Objects -/

private theorem lookup_eq_some_iff {α : Type} {entries : List (String × α)}
    (h : (entries.map (·.1)).Nodup) {key : String} {value : α} :
    entries.lookup key = some value ↔ (key, value) ∈ entries := by
  induction entries with
  | nil => simp
  | cons entry rest ih =>
    obtain ⟨k, v⟩ := entry
    rw [List.map_cons, List.nodup_cons] at h
    rw [List.lookup_cons]
    by_cases hkey : key = k
    · subst hkey
      simp only [BEq.rfl, Option.some.injEq, List.mem_cons, Prod.mk.injEq, true_and]
      constructor
      · exact fun hv ↦ .inl hv.symm
      · rintro (hv | hv)
        · exact hv.symm
        · exact absurd (List.mem_map_of_mem (f := (·.1)) hv) h.1
    · have hne : (key == k) = false := by simpa using hkey
      simp [hne, ih h.2, hkey]

private theorem lookup_perm {α : Type} {xs ys : List (String × α)} (hperm : xs.Perm ys)
    (h : (ys.map (·.1)).Nodup) (key : String) : xs.lookup key = ys.lookup key := by
  have hxs : (xs.map (·.1)).Nodup := (hperm.map _).nodup_iff.mpr h
  ext value
  rw [lookup_eq_some_iff hxs, lookup_eq_some_iff h, hperm.mem_iff]

private theorem map_sortedEntries (entries : List (String × Json)) :
    (sortedEntries entries).map (·.1) = entries.map (·.1) := by
  induction entries with
  | nil => rfl
  | cons entry rest ih => rw [sortedEntries, List.map_cons, List.map_cons, ih]

private theorem lookup_sortedEntries (entries : List (String × Json)) (key : String) :
    (sortedEntries entries).lookup key = (entries.lookup key).map sorted := by
  induction entries with
  | nil => rfl
  | cons entry rest ih =>
    obtain ⟨k, v⟩ := entry
    rw [sortedEntries, List.lookup_cons, List.lookup_cons]
    split
    · rfl
    · exact ih

/-- Sorting keeps what stands at a key. -/
theorem get?_sorted {entries : List (String × Json)} (h : (entries.map (·.1)).Nodup)
    (key : String) : (sorted (.dict entries)).get? key = (entries.lookup key).map sorted := by
  rw [sorted, get?, lookup_perm (List.mergeSort_perm _ _), lookup_sortedEntries]
  rwa [map_sortedEntries]

/-- Objects that are one when they are sorted have the same at every key. -/
theorem lookup_of_sorted_eq {xs ys : List (String × Json)}
    (h : sorted (.dict xs) = sorted (.dict ys)) (hxs : (xs.map (·.1)).Nodup)
    (hys : (ys.map (·.1)).Nodup) (key : String) :
    (xs.lookup key).map sorted = (ys.lookup key).map sorted := by
  rw [← get?_sorted hxs, h, get?_sorted hys]

end CloudWard.Json
