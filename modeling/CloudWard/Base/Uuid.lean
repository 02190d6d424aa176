import Mathlib.Data.List.Basic

/-!
# UUIDs

A UUID by its text: 36 characters, hexadecimal digits in lower case in groups of 8, 4, 4, 4 and
12, with dashes between them.
-/

namespace CloudWard

/-- The places of the dashes. -/
def dashes : List Nat := [8, 13, 18, 23]

/-- The text of a UUID. -/
def isUuidText (text : List Char) : Bool :=
  text.length = 36 ∧ text.zipIdx.all fun place ↦
    if place.2 ∈ dashes then place.1 = '-'
    else place.1.isDigit || ('a' ≤ place.1 && place.1 ≤ 'f')

/-- A UUID. -/
structure Uuid where
  text : String
  valid : isUuidText text.toList
deriving DecidableEq

/-- The UUID of a text, where it is one. -/
def Uuid.ofText (text : String) : Option Uuid :=
  if h : isUuidText text.toList then some ⟨text, h⟩ else none

theorem Uuid.ofText_text (id : Uuid) : Uuid.ofText id.text = some id := dif_pos id.valid

theorem Uuid.text_injective : Function.Injective Uuid.text := by
  rintro ⟨_, _⟩ ⟨_, _⟩ rfl
  rfl

theorem Uuid.length_text (id : Uuid) : id.text.length = 36 := by
  have hvalid := id.valid
  simp only [isUuidText, decide_eq_true_iff] at hvalid
  rw [← String.length_toList]
  exact hvalid.1

/-- The characters of a UUID. -/
theorem Uuid.mem_text {id : Uuid} {c : Char} (h : c ∈ id.text.toList) :
    c = '-' ∨ c.isDigit ∨ 'a' ≤ c ∧ c ≤ 'f' := by
  have hvalid := id.valid
  simp only [isUuidText, decide_eq_true_iff] at hvalid
  obtain ⟨i, hi⟩ := List.mem_iff_getElem?.mp h
  have hplace := List.all_eq_true.mp hvalid.2 (c, i) (List.mem_zipIdx_iff_getElem?.mpr hi)
  dsimp only at hplace
  split at hplace
  · exact .inl (of_decide_eq_true hplace)
  · simp only [Bool.or_eq_true, Bool.and_eq_true, decide_eq_true_iff] at hplace
    exact .inr hplace

end CloudWard
