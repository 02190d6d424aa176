import CloudWard.Base.Json
import CloudWard.Logic.Marker
import Mathlib.Algebra.GroupWithZero.Nat

/-!
# Compact JSON

`json.dumps` with `separators=(",", ":")`, and with `sort_keys=True`. The encoder escapes quotes,
backslashes and what is no printable ASCII; a marker of other letters occurs in the encoding as
often as in the keys and texts that are encoded.
-/

namespace CloudWard.Json

open CloudWard.Logic

mutual

/-- `json.dumps(value, separators=(",", ":"))`. -/
def compact : Json → List Char
  | .null => "null".toList
  | .bool b => (if b then "true" else "false").toList
  | .int n => (toString n).toList
  | .float text => text.toList
  | .str s => quoted s
  | .list items => '[' :: (compactItems items ++ [']'])
  | .dict entries => '\x7b' :: (compactEntries entries ++ ['\x7d'])

/-- The items of a list. -/
def compactItems : List Json → List Char
  | [] => []
  | [item] => compact item
  | item :: rest => compact item ++ ',' :: compactItems rest

/-- The entries of an object. -/
def compactEntries : List (String × Json) → List Char
  | [] => []
  | [(key, value)] => quoted key ++ ':' :: compact value
  | (key, value) :: rest => quoted key ++ ':' :: (compact value ++ ',' :: compactEntries rest)

end

mutual

/-- A value with the entries of its objects sorted by key. -/
def sorted : Json → Json
  | .list items => .list (sortedItems items)
  | .dict entries => .dict ((sortedEntries entries).mergeSort fun a b ↦ a.1 ≤ b.1)
  | value => value

/-- The items of a list. -/
def sortedItems : List Json → List Json
  | [] => []
  | item :: rest => sorted item :: sortedItems rest

/-- The entries of an object, not sorted themselves. -/
def sortedEntries : List (String × Json) → List (String × Json)
  | [] => []
  | (key, value) :: rest => (key, sorted value) :: sortedEntries rest

end

mutual

/-- The keys and texts of a value, and the texts of its numbers that are no integers. -/
def texts : Json → List String
  | .float text => [text]
  | .str s => [s]
  | .list items => textsOfItems items
  | .dict entries => textsOfEntries entries
  | _ => []

/-- The keys and texts of the items of a list. -/
def textsOfItems : List Json → List String
  | [] => []
  | item :: rest => texts item ++ textsOfItems rest

/-- The keys and texts of the entries of an object. -/
def textsOfEntries : List (String × Json) → List String
  | [] => []
  | (key, value) :: rest => key :: (texts value ++ textsOfEntries rest)

end

/-! ### Markers in the encoding -/

/-- A marker that the encoder neither escapes nor writes of its own. -/
structure Quotable (m : Marker Char) : Prop where
  plain : ∀ c ∈ m.text, escape c = [c]
  first_escape : ∀ c, c ≠ m.first → m.first ∉ escape c
  first_number : m.first ∉ "-0123456789".toList
  first_word : m.first ∉ "nulltruefalse[]\x7b\x7d\":,".toList
  rest_mark : ∀ c ∈ ['"', ',', ':', ']', '\x7d'], c ∉ m.rest

variable {m : Marker Char}

/-- A character is left as it is or written with a backslash. -/
theorem escape_cases (c : Char) : escape c = [c] ∨ ∃ cs, escape c = '\\' :: cs := by
  unfold escape
  split
  case h_8 =>
    split
    · exact .inl rfl
    · split
      · exact .inr ⟨_, rfl⟩
      · exact .inr ⟨_, rfl⟩
  all_goals exact .inr ⟨_, rfl⟩

private theorem notMem_of_escaped (hm : Quotable m) {c : Char} (h : escape c ≠ [c]) :
    c ∉ m.text := fun hc ↦ h (hm.plain c hc)

private theorem backslash_notMem (hm : Quotable m) : '\\' ∉ m.text :=
  notMem_of_escaped hm (by decide)

private theorem prefix_escaped_iff {p : List Char} (hplain : ∀ c ∈ p, escape c = [c])
    (s : List Char) : p <+: s.flatMap escape ↔ p <+: s := by
  induction s generalizing p with
  | nil => simp
  | cons c s ih =>
    cases p with
    | nil => simp
    | cons x p =>
      have hx := hplain x List.mem_cons_self
      have hp := fun d hd ↦ hplain d (List.mem_cons_of_mem x hd)
      rw [List.flatMap_cons, List.cons_prefix_cons]
      rcases escape_cases c with hc | ⟨cs, hc⟩
      · rw [hc, List.singleton_append, List.cons_prefix_cons, ih hp]
      · rw [hc, List.cons_append, List.cons_prefix_cons]
        refine iff_of_false ?_ ?_
        · rintro ⟨rfl, -⟩
          exact absurd hx (by decide)
        · rintro ⟨rfl, -⟩
          rw [hx] at hc
          cases hc
          exact absurd hx (by decide)

/-- A marker occurs in a quoted text as often as in the text. -/
theorem occurrences_quoted (hm : Quotable m) (s : String) :
    m.occurrences (quoted s) = m.occurrences s.toList := by
  have hescaped (cs : List Char) : m.occurrences (cs.flatMap escape) = m.occurrences cs := by
    induction cs with
    | nil => rfl
    | cons c cs ih =>
      rw [List.flatMap_cons]
      by_cases hc : escape c = [c]
      · have hprefix : m.text.isPrefixOf (c :: cs.flatMap escape) = m.text.isPrefixOf (c :: cs) := by
          have h := prefix_escaped_iff hm.plain (c :: cs)
          rw [List.flatMap_cons, hc, List.singleton_append] at h
          rwa [Bool.eq_iff_iff, List.isPrefixOf_iff_prefix, List.isPrefixOf_iff_prefix]
        rw [hc, List.singleton_append, Marker.occurrences, Marker.occurrences, hprefix, ih]
      · have hne : c ≠ m.first := by
          rintro rfl
          exact notMem_of_escaped hm hc List.mem_cons_self
        rw [Marker.occurrences_append_of_notMem (hm.first_escape c hne),
          Marker.occurrences_cons_of_ne hne, ih]
  have hquote : '"' ≠ m.first := fun h ↦ hm.first_word (h ▸ by decide)
  have hlast : '"' ∉ m.rest := hm.rest_mark _ (by decide)
  rw [quoted, List.cons_append, Marker.occurrences_cons_of_ne hquote,
    Marker.occurrences_append_cons hlast, hescaped, Marker.occurrences_cons_of_ne hquote]
  rfl

/-- How often a marker occurs in some texts. -/
def occurrencesIn (m : Marker Char) (texts : List String) : Nat :=
  (texts.map fun s ↦ m.occurrences s.toList).sum

theorem occurrencesIn_append (m : Marker Char) (xs ys : List String) :
    occurrencesIn m (xs ++ ys) = occurrencesIn m xs + occurrencesIn m ys := by
  rw [occurrencesIn, List.map_append, List.sum_append]
  rfl

theorem occurrencesIn_cons (m : Marker Char) (s : String) (texts : List String) :
    occurrencesIn m (s :: texts) = m.occurrences s.toList + occurrencesIn m texts := by
  rw [occurrencesIn, List.map_cons, List.sum_cons]
  rfl

theorem occurrencesIn_eq_zero_iff (m : Marker Char) (texts : List String) :
    occurrencesIn m texts = 0 ↔ ∀ s ∈ texts, ¬ m.text <:+: s.toList := by
  induction texts with
  | nil => simp [occurrencesIn]
  | cons s texts ih =>
    rw [occurrencesIn_cons, Nat.add_eq_zero_iff, ih, Marker.occurrences_eq_zero_iff,
      List.forall_mem_cons]

private theorem mem_digits_of_nat (n : Nat) :
    ∀ c ∈ n.repr.toList, c ∈ "-0123456789".toList := by
  intro c hc
  rw [Nat.toList_repr] at hc
  have hdigit := Nat.isDigit_of_mem_toDigits (by omega) (by omega) hc
  simp only [Char.isDigit, Bool.and_eq_true, decide_eq_true_iff] at hdigit
  have hge : 48 ≤ c.toNat := UInt32.le_iff_toNat_le.mp hdigit.1
  have hle : c.toNat ≤ 57 := UInt32.le_iff_toNat_le.mp hdigit.2
  have hdigits : ∀ k ∈ List.range' 48 10, Char.ofNat k ∈ "-0123456789".toList := by
    simp [List.range']
  have h := hdigits c.toNat (by rw [List.mem_range'_1]; omega)
  rwa [Char.ofNat_toNat] at h

theorem mem_digits_of_int (n : Int) :
    ∀ c ∈ (toString n).toList, c ∈ "-0123456789".toList := by
  intro c hc
  cases n with
  | ofNat n => exact mem_digits_of_nat n c hc
  | negSucc n =>
    have htext : (toString (Int.negSucc n)).toList = '-' :: (n + 1).repr.toList := by
      show (Int.repr (Int.negSucc n)).toList = _
      simp [Int.repr]
    rw [htext, List.mem_cons] at hc
    rcases hc with rfl | hc
    · decide
    · exact mem_digits_of_nat _ c hc

private theorem wordLetters {word : List Char}
    (h : word = "null".toList ∨ word = "true".toList ∨ word = "false".toList) :
    ∀ c ∈ word, c ∈ "nulltruefalse[]\x7b\x7d\":,".toList := by
  rcases h with rfl | rfl | rfl
  · simp
  · simp
  · simp

/-- A closing mark is no part of a marker. -/
private theorem occurrences_closed (hm : Quotable m) {c : Char} (hc : c ∈ [']', '\x7d'])
    (xs : List Char) : m.occurrences (xs ++ [c]) = m.occurrences xs := by
  have hmarks : ∀ c ∈ [']', '\x7d'], c ∈ ['"', ',', ':', ']', '\x7d'] ∧
      c ∈ "nulltruefalse[]\x7b\x7d\":,".toList := by
    simp
  have hrest : c ∉ m.rest := hm.rest_mark c (hmarks c hc).1
  have hfirst : c ≠ m.first := fun h ↦ hm.first_word (h ▸ (hmarks c hc).2)
  rw [Marker.occurrences_append_cons hrest, Marker.occurrences_cons_of_ne hfirst]
  rfl

private theorem occurrences_pair (hm : Quotable m) (key : String) (cs : List Char) :
    m.occurrences (quoted key ++ ':' :: cs) = m.occurrences key.toList + m.occurrences cs := by
  have hcolon : ':' ∉ m.rest := hm.rest_mark _ (by decide)
  have hne : ':' ≠ m.first := fun h ↦ hm.first_word (h ▸ by decide)
  rw [Marker.occurrences_append_cons hcolon, Marker.occurrences_cons_of_ne hne,
    occurrences_quoted hm]

private theorem occurrences_comma (hm : Quotable m) (xs ys : List Char) :
    m.occurrences (xs ++ ',' :: ys) = m.occurrences xs + m.occurrences ys := by
  have hcomma : ',' ∉ m.rest := hm.rest_mark _ (by decide)
  have hne : ',' ≠ m.first := fun h ↦ hm.first_word (h ▸ by decide)
  rw [Marker.occurrences_append_cons hcomma, Marker.occurrences_cons_of_ne hne]

mutual

/-- A marker occurs in the encoding as often as in the keys and texts. -/
theorem occurrences_compact (hm : Quotable m) : (value : Json) →
    m.occurrences (compact value) = occurrencesIn m (texts value)
  | .null => Marker.occurrences_of_notMem fun h ↦
      hm.first_word (wordLetters (.inl rfl) _ h)
  | .bool true => Marker.occurrences_of_notMem fun h ↦
      hm.first_word (wordLetters (.inr (.inl rfl)) _ h)
  | .bool false => Marker.occurrences_of_notMem fun h ↦
      hm.first_word (wordLetters (.inr (.inr rfl)) _ h)
  | .int n => Marker.occurrences_of_notMem fun h ↦
      hm.first_number (mem_digits_of_int n _ h)
  | .float text => by
    rw [compact, texts, occurrencesIn_cons]
    rfl
  | .str s => by
    rw [compact, occurrences_quoted hm, texts, occurrencesIn_cons]
    rfl
  | .list items => by
    have hopen : '[' ≠ m.first := fun h ↦ hm.first_word (h ▸ by decide)
    rw [compact, Marker.occurrences_cons_of_ne hopen, occurrences_closed hm (by decide),
      occurrences_compactItems hm items, texts]
  | .dict entries => by
    have hopen : '\x7b' ≠ m.first := fun h ↦ hm.first_word (h ▸ by decide)
    rw [compact, Marker.occurrences_cons_of_ne hopen, occurrences_closed hm (by decide),
      occurrences_compactEntries hm entries, texts]

/-- So it does in the items of a list. -/
theorem occurrences_compactItems (hm : Quotable m) : (items : List Json) →
    m.occurrences (compactItems items) = occurrencesIn m (textsOfItems items)
  | [] => rfl
  | [item] => by
    rw [compactItems, occurrences_compact hm item, textsOfItems, textsOfItems,
      List.append_nil]
  | item :: next :: rest => by
    have hrest := occurrences_compactItems hm (next :: rest)
    rw [compactItems, occurrences_comma hm, occurrences_compact hm item, hrest,
      ← occurrencesIn_append]
    · rfl
    · exact fun h ↦ nomatch h

/-- So it does in the entries of an object. -/
theorem occurrences_compactEntries (hm : Quotable m) : (entries : List (String × Json)) →
    m.occurrences (compactEntries entries) = occurrencesIn m (textsOfEntries entries)
  | [] => rfl
  | [(key, value)] => by
    rw [compactEntries, occurrences_pair hm, occurrences_compact hm value,
      textsOfEntries, textsOfEntries, occurrencesIn_cons, List.append_nil]
  | (key, value) :: next :: rest => by
    have hrest := occurrences_compactEntries hm (next :: rest)
    rw [compactEntries, occurrences_pair hm, occurrences_comma hm,
      occurrences_compact hm value, hrest, ← occurrencesIn_append,
      ← occurrencesIn_cons]
    · rfl
    · exact fun h ↦ nomatch h

end

theorem textsOfEntries_eq (entries : List (String × Json)) :
    textsOfEntries entries = entries.flatMap fun entry ↦ entry.1 :: texts entry.2 := by
  induction entries with
  | nil => rfl
  | cons entry rest ih => rw [textsOfEntries, ih, List.flatMap_cons, List.cons_append]

/-- Sorting moves no marker. -/
theorem occurrencesIn_perm {xs ys : List String} (h : xs.Perm ys) :
    occurrencesIn m xs = occurrencesIn m ys :=
  (h.map _).sum_nat

mutual

/-- Sorted values have the same keys and texts. -/
theorem texts_sorted : (value : Json) → (texts (sorted value)).Perm (texts value)
  | .null => .refl _
  | .bool _ => .refl _
  | .int _ => .refl _
  | .float _ => .refl _
  | .str _ => .refl _
  | .list items => by
    rw [sorted, texts, texts]
    exact texts_sortedItems items
  | .dict entries => by
    rw [sorted, texts, texts, textsOfEntries_eq]
    refine ((List.mergeSort_perm _ _).flatMap_right _).trans ?_
    rw [← textsOfEntries_eq]
    exact texts_sortedEntries entries

/-- So have sorted items. -/
theorem texts_sortedItems : (items : List Json) →
    (textsOfItems (sortedItems items)).Perm (textsOfItems items)
  | [] => .refl _
  | item :: rest => by
    rw [sortedItems, textsOfItems, textsOfItems]
    exact (texts_sorted item).append (texts_sortedItems rest)

/-- So have sorted entries. -/
theorem texts_sortedEntries : (entries : List (String × Json)) →
    (textsOfEntries (sortedEntries entries)).Perm (textsOfEntries entries)
  | [] => .refl _
  | (key, value) :: rest => by
    rw [sortedEntries, textsOfEntries, textsOfEntries]
    exact ((texts_sorted value).append (texts_sortedEntries rest)).cons key

end

end CloudWard.Json
