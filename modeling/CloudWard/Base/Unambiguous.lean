import CloudWard.Base.Dumps

/-!
# What compact JSON says

Two values with one compact encoding are one value: where a text ends can be read off the encoding,
and each value begins with what no value of another kind begins with. A number that is no integer
is its text, which must not be the text of something else. So a digest of a sorted encoding is
the digest of one value, up to the order of the entries of its objects.
-/

namespace CloudWard.Json

/-! ### Characters -/

/-- The value of a hexadecimal digit. -/
def digitValue (c : Char) : Nat := if c.isDigit then c.toNat - 48 else c.toNat - 87

/-- The number of four hexadecimal digits. -/
def hexValue (a b c d : Char) : Nat :=
  16 * (16 * (16 * digitValue a + digitValue b) + digitValue c) + digitValue d

/-- The character of a backslash and what follows it, and the rest. -/
def unescapeRest : List Char → Option (Char × List Char)
  | 'u' :: a :: b :: c :: d :: rest =>
    if 0xd800 ≤ hexValue a b c d ∧ hexValue a b c d < 0xdc00 then
      match rest with
      | '\\' :: 'u' :: e :: f :: g :: h :: rest =>
        some (Char.ofNat (0x10000 + (0x400 * (hexValue a b c d - 0xd800) +
          (hexValue e f g h - 0xdc00))), rest)
      | _ => none
    else some (Char.ofNat (hexValue a b c d), rest)
  | 'n' :: rest => some ('\n', rest)
  | 'r' :: rest => some ('\r', rest)
  | 't' :: rest => some ('\t', rest)
  | 'b' :: rest => some ('\u0008', rest)
  | 'f' :: rest => some ('\u000c', rest)
  | c :: rest => some (c, rest)
  | [] => none

/-- The first character of a string in `json.dumps`, and the rest. -/
def unescape : List Char → Option (Char × List Char)
  | [] => none
  | c :: rest => if c = '\\' then unescapeRest rest else some (c, rest)

private theorem digitValue_digitChar {n : Nat} (h : n < 16) : digitValue (Nat.digitChar n) = n := by
  revert n
  decide

private theorem hexValue_hex4 {n : Nat} (h : n < 0x10000) :
    hexValue (Nat.digitChar (n / 4096 % 16)) (Nat.digitChar (n / 256 % 16))
      (Nat.digitChar (n / 16 % 16)) (Nat.digitChar (n % 16)) = n := by
  unfold hexValue
  rw [digitValue_digitChar (Nat.mod_lt _ (by omega)), digitValue_digitChar (Nat.mod_lt _ (by omega)),
    digitValue_digitChar (Nat.mod_lt _ (by omega)), digitValue_digitChar (Nat.mod_lt _ (by omega))]
  omega

/-- Escaping loses no character. -/
theorem unescape_escape (c : Char) (rest : List Char) :
    unescape (escape c ++ rest) = some (c, rest) := by
  unfold escape
  split
  case h_8 h1 h2 h3 h4 h5 h6 h7 =>
    have hne : c ≠ '\\' := h2
    split
    · rw [List.singleton_append, unescape, if_neg hne]
    · have hvalid := c.valid
      split
      · next hsmall =>
        have hvalue := hexValue_hex4 hsmall
        simp only [hex4, List.map_cons, List.map_nil, List.cons_append, List.nil_append, unescape,
          unescapeRest, hvalue]
        have hno : ¬ (0xd800 ≤ c.toNat ∧ c.toNat < 0xdc00) := by
          have hcases : c.toNat < 0xd800 ∨ 0xdfff < c.toNat ∧ c.toNat < 0x110000 := hvalid
          omega
        rw [if_pos trivial, if_neg hno, Char.ofNat_toNat]
      · next hlarge =>
        have hlt : c.toNat < 0x110000 := by
          have hcases : c.toNat < 0xd800 ∨ 0xdfff < c.toNat ∧ c.toNat < 0x110000 := hvalid
          omega
        have hhigh : 0xd800 + (c.toNat - 0x10000) / 0x400 < 0x10000 := by omega
        have hlow : 0xdc00 + (c.toNat - 0x10000) % 0x400 < 0x10000 := by omega
        have hpair : 0xd800 ≤ 0xd800 + (c.toNat - 0x10000) / 0x400 ∧
            0xd800 + (c.toNat - 0x10000) / 0x400 < 0xdc00 := by omega
        have hsum : 0x10000 + (0x400 * (0xd800 + (c.toNat - 0x10000) / 0x400 - 0xd800) +
            (0xdc00 + (c.toNat - 0x10000) % 0x400 - 0xdc00)) = c.toNat := by omega
        simp only [hex4, List.map_cons, List.map_nil, List.cons_append, List.nil_append, unescape,
          unescapeRest, hexValue_hex4 hhigh, hexValue_hex4 hlow]
        rw [if_pos trivial, if_pos hpair, hsum, Char.ofNat_toNat]
  all_goals rfl

private theorem escape_inj {c d : Char} {x y : List Char} (h : escape c ++ x = escape d ++ y) :
    c = d ∧ x = y := by
  have hsome := (unescape_escape c x).symm.trans ((congrArg unescape h).trans (unescape_escape d y))
  simpa using hsome

private theorem escape_ne_quote (c : Char) (x y : List Char) : escape c ++ x ≠ '"' :: y := by
  intro h
  rcases escape_cases c with hc | ⟨cs, hc⟩
  · rw [hc, List.singleton_append] at h
    have hquote : c = '"' := (List.cons.inj h).1
    subst hquote
    exact absurd hc (by decide)
  · rw [hc, List.cons_append] at h
    exact absurd (List.cons.inj h).1 (by decide)

private theorem body_inj {cs ds x y : List Char}
    (h : cs.flatMap escape ++ '"' :: x = ds.flatMap escape ++ '"' :: y) : cs = ds ∧ x = y := by
  induction cs generalizing ds with
  | nil =>
    cases ds with
    | nil => exact ⟨rfl, (List.cons.inj h).2⟩
    | cons d ds =>
      rw [List.flatMap_cons, List.append_assoc] at h
      exact absurd h.symm (escape_ne_quote d _ _)
  | cons c cs ih =>
    cases ds with
    | nil =>
      rw [List.flatMap_cons, List.append_assoc] at h
      exact absurd h (escape_ne_quote c _ _)
    | cons d ds =>
      rw [List.flatMap_cons, List.flatMap_cons, List.append_assoc, List.append_assoc] at h
      obtain ⟨hcd, hrest⟩ := escape_inj h
      obtain ⟨hlist, hxy⟩ := ih hrest
      exact ⟨by rw [hcd, hlist], hxy⟩

/-- Where a string ends can be read off. -/
theorem quoted_inj {s t : String} {x y : List Char} (h : quoted s ++ x = quoted t ++ y) :
    s = t ∧ x = y := by
  unfold quoted at h
  rw [List.cons_append, List.cons_append, List.append_assoc, List.append_assoc] at h
  obtain ⟨hlist, hxy⟩ := body_inj (List.cons.inj h).2
  exact ⟨String.toList_inj.mp hlist, hxy⟩

/-! ### Numbers -/

/-- What may follow a value. -/
def delimiters : List Char := [',', ']', '\x7d']

/-- The end of a value has come. -/
def Delimited (rest : List Char) : Prop := ∀ c ∈ rest.head?, c ∈ delimiters

private theorem delimited_nil : Delimited [] := nofun

private theorem delimited_cons {c : Char} (h : c ∈ delimiters) (rest : List Char) :
    Delimited (c :: rest) := by
  intro d hd
  cases hd
  exact h

private theorem span_inj {xs ys x y : List Char} (hxs : ∀ c ∈ xs, c ∉ delimiters)
    (hys : ∀ c ∈ ys, c ∉ delimiters) (hx : Delimited x) (hy : Delimited y)
    (h : xs ++ x = ys ++ y) : xs = ys ∧ x = y := by
  induction xs generalizing ys with
  | nil =>
    cases ys with
    | nil => exact ⟨rfl, h⟩
    | cons d ds =>
      refine absurd (hx d ?_) (hys d List.mem_cons_self)
      rw [← List.nil_append x, h]
      rfl
  | cons c cs ih =>
    cases ys with
    | nil =>
      refine absurd (hy c ?_) (hxs c List.mem_cons_self)
      rw [← List.nil_append y, ← h]
      rfl
    | cons d ds =>
      obtain ⟨hcd, hrest⟩ := List.cons.inj h
      obtain ⟨hlist, hxy⟩ := ih (fun e he ↦ hxs e (List.mem_cons_of_mem _ he))
        (fun e he ↦ hys e (List.mem_cons_of_mem _ he)) hrest
      exact ⟨by rw [hcd, hlist], hxy⟩

/-- The text of a number that is no integer. -/
structure Numeral (text : String) : Prop where
  plain : ∀ c ∈ text.toList, c ∉ delimiters
  start : ∃ c rest, text.toList = c :: rest ∧ c ∉ "ntf\"[\x7b".toList
  noInt : ∀ n : Int, text ≠ toString n

mutual

/-- The numbers of a value that are no integers. -/
def floats : Json → List String
  | .float text => [text]
  | .list items => floatsOfItems items
  | .dict entries => floatsOfEntries entries
  | _ => []

/-- Those of the items of a list. -/
def floatsOfItems : List Json → List String
  | [] => []
  | item :: rest => floats item ++ floatsOfItems rest

/-- Those of the entries of an object. -/
def floatsOfEntries : List (String × Json) → List String
  | [] => []
  | (_, value) :: rest => floats value ++ floatsOfEntries rest

end

/-- Every number of a value that is no integer is written as one. -/
def Legible (value : Json) : Prop := ∀ text ∈ floats value, Numeral text

/-- A natural number by its text. -/
theorem natText_injective {m n : Nat} (h : (toString m).toList = (toString n).toList) : m = n := by
  have hvalue := congrArg (fun digits ↦ Nat.ofDigitChars 10 digits 0) h
  simpa [Nat.toString_eq_ofList_toDigits] using hvalue

private theorem nat_ne_minus (m n : Nat) :
    (toString m).toList ≠ '-' :: (toString n).toList := by
  intro h
  have hdigit : '-'.isDigit := by
    apply Nat.isDigit_of_mem_toDigits (b := 10) (n := m) (by omega) (by omega)
    rw [Nat.toString_eq_ofList_toDigits, String.toList_ofList] at h
    rw [h]
    exact List.mem_cons_self
  cases hdigit

private theorem toList_negSucc (n : Nat) :
    (toString (Int.negSucc n)).toList = '-' :: (toString (n + 1)).toList := by
  show (Int.repr (Int.negSucc n)).toList = _
  simp [Int.repr]

/-- An integer by its text. -/
theorem intText_injective {m n : Int} (h : (toString m).toList = (toString n).toList) : m = n := by
  cases m with
  | ofNat m =>
    cases n with
    | ofNat n => rw [natText_injective h]
    | negSucc n =>
      rw [toList_negSucc] at h
      exact absurd h (nat_ne_minus m (n + 1))
  | negSucc m =>
    cases n with
    | ofNat n =>
      rw [toList_negSucc] at h
      exact absurd h.symm (nat_ne_minus n (m + 1))
    | negSucc n =>
      rw [toList_negSucc, toList_negSucc] at h
      have heq := natText_injective (List.cons.inj h).2
      rw [Nat.succ.inj heq]

private theorem plain_digits : ∀ c ∈ "-0123456789".toList,
    c ∉ delimiters ∧ c ∉ "ntf\"[\x7b".toList := by
  simp [delimiters]

private theorem plain_int (n : Int) : ∀ c ∈ (toString n).toList, c ∉ delimiters :=
  fun c hc ↦ (plain_digits c (mem_digits_of_int n c hc)).1

/-! ### Kinds -/

/-- What a value begins with, by its kind. -/
def kind : Json → Nat
  | .null => 0
  | .bool _ => 1
  | .int _ => 2
  | .float _ => 2
  | .str _ => 3
  | .list _ => 4
  | .dict _ => 5

/-- The kind of the value that a text begins with. -/
def kindOf (text : List Char) : Nat :=
  match text.head? with
  | some 'n' => 0
  | some 't' => 1
  | some 'f' => 1
  | some '"' => 3
  | some '[' => 4
  | some '\x7b' => 5
  | _ => 2

private theorem kindOf_number {c : Char} (h : c ∉ "ntf\"[\x7b".toList) (rest : List Char) :
    kindOf (c :: rest) = 2 := by
  unfold kindOf
  simp only [List.head?_cons]
  split
  case h_7 => rfl
  all_goals
    next heq =>
      cases heq
      exact absurd (by decide) h

private theorem int_start (n : Int) : ∃ c rest, (toString n).toList = c :: rest ∧
    c ∉ "ntf\"[\x7b".toList := by
  have hne : (toString n).toList ≠ [] := by
    cases n with
    | ofNat n =>
      show (toString n).toList ≠ []
      rw [Nat.toString_eq_ofList_toDigits, String.toList_ofList]
      exact Nat.toDigits_ne_nil
    | negSucc n =>
      rw [toList_negSucc]
      exact List.cons_ne_nil _ _
  obtain ⟨c, rest, heq⟩ := List.exists_cons_of_ne_nil hne
  have hmem : c ∈ (toString n).toList := by
    rw [heq]
    exact List.mem_cons_self
  exact ⟨c, rest, heq, (plain_digits c (mem_digits_of_int n c hmem)).2⟩

/-- A value begins as its kind does. -/
theorem kindOf_compact {value : Json} (h : Legible value) (rest : List Char) :
    kindOf (compact value ++ rest) = kind value := by
  cases value with
  | null => rfl
  | bool b => cases b <;> rfl
  | int n =>
    obtain ⟨c, cs, heq, hc⟩ := int_start n
    rw [compact, heq, List.cons_append]
    exact kindOf_number hc _
  | float text =>
    obtain ⟨c, cs, heq, hc⟩ := (h text (by simp [floats])).start
    rw [compact, heq, List.cons_append]
    exact kindOf_number hc _
  | str s => rfl
  | list items => rfl
  | dict entries => rfl

/-! ### Values -/

/-- The items of a list after the first. -/
def moreItems : List Json → List Char
  | [] => []
  | item :: rest => ',' :: (compact item ++ moreItems rest)

/-- The entries of an object after the first. -/
def moreEntries : List (String × Json) → List Char
  | [] => []
  | (key, value) :: rest => ',' :: (quoted key ++ ':' :: (compact value ++ moreEntries rest))

private theorem compactItems_cons (item : Json) (rest : List Json) :
    compactItems (item :: rest) = compact item ++ moreItems rest := by
  induction rest generalizing item with
  | nil => simp [compactItems, moreItems]
  | cons next rest ih =>
    rw [compactItems, ih next, moreItems]
    exact List.cons_ne_nil _ _

private theorem compactEntries_cons (key : String) (value : Json) (rest : List (String × Json)) :
    compactEntries ((key, value) :: rest) =
      quoted key ++ ':' :: (compact value ++ moreEntries rest) := by
  induction rest generalizing key value with
  | nil => simp [compactEntries, moreEntries]
  | cons next rest ih =>
    obtain ⟨key', value'⟩ := next
    rw [compactEntries, ih key' value', moreEntries]
    exact List.cons_ne_nil _ _

private theorem delimited_more {c : Char} (hc : c ∈ delimiters) (x : List Char) {more : List Char}
    (h : more = [] ∨ ∃ rest, more = ',' :: rest) : Delimited (more ++ c :: x) := by
  rcases h with rfl | ⟨rest, rfl⟩
  · exact delimited_cons hc x
  · exact delimited_cons (by decide) _

private theorem moreItems_cases (items : List Json) :
    moreItems items = [] ∨ ∃ rest, moreItems items = ',' :: rest := by
  cases items with
  | nil => exact .inl rfl
  | cons item rest => exact .inr ⟨_, rfl⟩

private theorem moreEntries_cases (entries : List (String × Json)) :
    moreEntries entries = [] ∨ ∃ rest, moreEntries entries = ',' :: rest := by
  cases entries with
  | nil => exact .inl rfl
  | cons entry rest => exact .inr ⟨_, rfl⟩

private theorem legible_item {item : Json} {rest : List Json}
    (h : ∀ text ∈ floatsOfItems (item :: rest), Numeral text) :
    Legible item ∧ ∀ text ∈ floatsOfItems rest, Numeral text := by
  rw [floatsOfItems] at h
  exact ⟨fun text ht ↦ h text (List.mem_append_left _ ht),
    fun text ht ↦ h text (List.mem_append_right _ ht)⟩

private theorem legible_entry {key : String} {value : Json} {rest : List (String × Json)}
    (h : ∀ text ∈ floatsOfEntries ((key, value) :: rest), Numeral text) :
    Legible value ∧ ∀ text ∈ floatsOfEntries rest, Numeral text := by
  rw [floatsOfEntries] at h
  exact ⟨fun text ht ↦ h text (List.mem_append_left _ ht),
    fun text ht ↦ h text (List.mem_append_right _ ht)⟩

/-- No value begins with the end of a list. -/
private theorem compact_ne_close {value : Json} (h : Legible value) (x y : List Char) :
    compact value ++ x ≠ ']' :: y := by
  intro heq
  have hkind := kindOf_compact h x
  rw [heq] at hkind
  cases value with
  | int n =>
    obtain ⟨c, cs, htext, -⟩ := int_start n
    rw [compact, htext, List.cons_append] at heq
    have hmem : c ∈ (toString n).toList := by
      rw [htext]
      exact List.mem_cons_self
    rw [(List.cons.inj heq).1] at hmem
    exact plain_int n _ hmem (by decide)
  | float text =>
    have hnumeral := h text (by simp [floats])
    obtain ⟨c, cs, htext, -⟩ := hnumeral.start
    rw [compact, htext, List.cons_append] at heq
    have hmem : c ∈ text.toList := by
      rw [htext]
      exact List.mem_cons_self
    rw [(List.cons.inj heq).1] at hmem
    exact hnumeral.plain _ hmem (by decide)
  | null => cases hkind
  | bool b => cases hkind
  | str s => cases hkind
  | list items => cases hkind
  | dict entries => cases hkind

mutual

/-- Where a value ends can be read off, and which it is. -/
theorem compact_append_inj : (a b : Json) → ∀ x y : List Char, Legible a → Legible b →
    Delimited x → Delimited y → compact a ++ x = compact b ++ y → a = b ∧ x = y
  | .null, b => by
    intro x y ha hb hx hy h
    have hkind := kindOf_compact hb y
    rw [← h, kindOf_compact ha] at hkind
    cases b with
    | null => exact ⟨rfl, List.append_cancel_left h⟩
    | _ => cases hkind
  | .bool v, b => by
    intro x y ha hb hx hy h
    have hkind := kindOf_compact hb y
    rw [← h, kindOf_compact ha] at hkind
    cases b with
    | bool w =>
      cases v <;> cases w
      · exact ⟨rfl, List.append_cancel_left h⟩
      · exact absurd (List.cons.inj h).1 (by decide)
      · exact absurd (List.cons.inj h).1 (by decide)
      · exact ⟨rfl, List.append_cancel_left h⟩
    | _ => cases hkind
  | .int m, b => by
    intro x y ha hb hx hy h
    have hkind := kindOf_compact hb y
    rw [← h, kindOf_compact ha] at hkind
    cases b with
    | int n =>
      obtain ⟨htext, hxy⟩ := span_inj (plain_int m) (plain_int n) hx hy h
      exact ⟨by rw [intText_injective htext], hxy⟩
    | float text =>
      have hnumeral := hb text (by simp [floats])
      obtain ⟨htext, -⟩ := span_inj (plain_int m) hnumeral.plain hx hy h
      exact absurd (String.toList_inj.mp htext).symm (hnumeral.noInt m)
    | _ => cases hkind
  | .float text, b => by
    intro x y ha hb hx hy h
    have hkind := kindOf_compact hb y
    rw [← h, kindOf_compact ha] at hkind
    have hnumeral := ha text (by simp [floats])
    cases b with
    | int n =>
      obtain ⟨htext, -⟩ := span_inj hnumeral.plain (plain_int n) hx hy h
      exact absurd (String.toList_inj.mp htext) (hnumeral.noInt n)
    | float text' =>
      have hnumeral' := hb text' (by simp [floats])
      obtain ⟨htext, hxy⟩ := span_inj hnumeral.plain hnumeral'.plain hx hy h
      exact ⟨by rw [String.toList_inj.mp htext], hxy⟩
    | _ => cases hkind
  | .str s, b => by
    intro x y ha hb hx hy h
    have hkind := kindOf_compact hb y
    rw [← h, kindOf_compact ha] at hkind
    cases b with
    | str t =>
      obtain ⟨hst, hxy⟩ := quoted_inj h
      exact ⟨by rw [hst], hxy⟩
    | _ => cases hkind
  | .list xs, b => by
    intro x y ha hb hx hy h
    have hkind := kindOf_compact hb y
    rw [← h, kindOf_compact ha] at hkind
    cases b with
    | list ys =>
      simp only [compact, List.cons_append, List.append_assoc, List.nil_append] at h
      have hitems := compactItems_inj xs ys _ _ (by simpa [Legible, floats] using ha)
        (by simpa [Legible, floats] using hb) (List.cons.inj h).2
      exact ⟨by rw [hitems.1], hitems.2⟩
    | _ => cases hkind
  | .dict xs, b => by
    intro x y ha hb hx hy h
    have hkind := kindOf_compact hb y
    rw [← h, kindOf_compact ha] at hkind
    cases b with
    | dict ys =>
      simp only [compact, List.cons_append, List.append_assoc, List.nil_append] at h
      have hentries := compactEntries_inj xs ys _ _ (by simpa [Legible, floats] using ha)
        (by simpa [Legible, floats] using hb) (List.cons.inj h).2
      exact ⟨by rw [hentries.1], hentries.2⟩
    | _ => cases hkind

/-- So it is for the items of a list. -/
theorem compactItems_inj : (xs ys : List Json) → ∀ x y : List Char,
    (∀ text ∈ floatsOfItems xs, Numeral text) → (∀ text ∈ floatsOfItems ys, Numeral text) →
    compactItems xs ++ ']' :: x = compactItems ys ++ ']' :: y → xs = ys ∧ x = y
  | [], [] => fun _ _ _ _ h ↦ ⟨rfl, (List.cons.inj h).2⟩
  | [], b :: ys => by
    intro x y ha hb h
    rw [compactItems_cons, List.append_assoc] at h
    exact absurd h.symm (compact_ne_close (legible_item hb).1 _ _)
  | a :: xs, [] => by
    intro x y ha hb h
    rw [compactItems_cons, List.append_assoc] at h
    exact absurd h (compact_ne_close (legible_item ha).1 _ _)
  | a :: xs, b :: ys => by
    intro x y ha hb h
    rw [compactItems_cons, compactItems_cons, List.append_assoc, List.append_assoc] at h
    obtain ⟨hab, hrest⟩ := compact_append_inj a b _ _ (legible_item ha).1 (legible_item hb).1
      (delimited_more (by decide) x (moreItems_cases xs))
      (delimited_more (by decide) y (moreItems_cases ys)) h
    obtain ⟨hlist, hxy⟩ := moreItems_inj xs ys _ _ (legible_item ha).2 (legible_item hb).2 hrest
    exact ⟨by rw [hab, hlist], hxy⟩

/-- And for those after the first. -/
theorem moreItems_inj : (xs ys : List Json) → ∀ x y : List Char,
    (∀ text ∈ floatsOfItems xs, Numeral text) → (∀ text ∈ floatsOfItems ys, Numeral text) →
    moreItems xs ++ ']' :: x = moreItems ys ++ ']' :: y → xs = ys ∧ x = y
  | [], [] => fun _ _ _ _ h ↦ ⟨rfl, (List.cons.inj h).2⟩
  | [], b :: ys => fun _ _ _ _ h ↦ absurd (List.cons.inj h).1 (by decide)
  | a :: xs, [] => fun _ _ _ _ h ↦ absurd (List.cons.inj h).1 (by decide)
  | a :: xs, b :: ys => by
    intro x y ha hb h
    simp only [moreItems, List.cons_append, List.append_assoc] at h
    obtain ⟨hab, hrest⟩ := compact_append_inj a b _ _ (legible_item ha).1 (legible_item hb).1
      (delimited_more (by decide) x (moreItems_cases xs))
      (delimited_more (by decide) y (moreItems_cases ys)) (List.cons.inj h).2
    obtain ⟨hlist, hxy⟩ := moreItems_inj xs ys _ _ (legible_item ha).2 (legible_item hb).2 hrest
    exact ⟨by rw [hab, hlist], hxy⟩

/-- So it is for the entries of an object. -/
theorem compactEntries_inj : (xs ys : List (String × Json)) → ∀ x y : List Char,
    (∀ text ∈ floatsOfEntries xs, Numeral text) → (∀ text ∈ floatsOfEntries ys, Numeral text) →
    compactEntries xs ++ '\x7d' :: x = compactEntries ys ++ '\x7d' :: y → xs = ys ∧ x = y
  | [], [] => fun _ _ _ _ h ↦ ⟨rfl, (List.cons.inj h).2⟩
  | [], (k, b) :: ys => by
    intro x y ha hb h
    rw [compactEntries_cons] at h
    exact absurd (List.cons.inj h).1 (by decide)
  | (k, a) :: xs, [] => by
    intro x y ha hb h
    rw [compactEntries_cons] at h
    exact absurd (List.cons.inj h).1 (by decide)
  | (k, a) :: xs, (l, b) :: ys => by
    intro x y ha hb h
    rw [compactEntries_cons, compactEntries_cons] at h
    simp only [List.append_assoc, List.cons_append] at h
    obtain ⟨hkl, hvalue⟩ := quoted_inj h
    obtain ⟨hab, hrest⟩ := compact_append_inj a b _ _ (legible_entry ha).1 (legible_entry hb).1
      (delimited_more (by decide) x (moreEntries_cases xs))
      (delimited_more (by decide) y (moreEntries_cases ys)) (List.cons.inj hvalue).2
    obtain ⟨hlist, hxy⟩ := moreEntries_inj xs ys _ _ (legible_entry ha).2 (legible_entry hb).2 hrest
    exact ⟨by rw [hkl, hab, hlist], hxy⟩

/-- And for those after the first. -/
theorem moreEntries_inj : (xs ys : List (String × Json)) → ∀ x y : List Char,
    (∀ text ∈ floatsOfEntries xs, Numeral text) → (∀ text ∈ floatsOfEntries ys, Numeral text) →
    moreEntries xs ++ '\x7d' :: x = moreEntries ys ++ '\x7d' :: y → xs = ys ∧ x = y
  | [], [] => fun _ _ _ _ h ↦ ⟨rfl, (List.cons.inj h).2⟩
  | [], (k, b) :: ys => fun _ _ _ _ h ↦ absurd (List.cons.inj h).1 (by decide)
  | (k, a) :: xs, [] => fun _ _ _ _ h ↦ absurd (List.cons.inj h).1 (by decide)
  | (k, a) :: xs, (l, b) :: ys => by
    intro x y ha hb h
    simp only [moreEntries, List.cons_append, List.append_assoc] at h
    obtain ⟨hkl, hvalue⟩ := quoted_inj (List.cons.inj h).2
    obtain ⟨hab, hrest⟩ := compact_append_inj a b _ _ (legible_entry ha).1 (legible_entry hb).1
      (delimited_more (by decide) x (moreEntries_cases xs))
      (delimited_more (by decide) y (moreEntries_cases ys)) (List.cons.inj hvalue).2
    obtain ⟨hlist, hxy⟩ := moreEntries_inj xs ys _ _ (legible_entry ha).2 (legible_entry hb).2 hrest
    exact ⟨by rw [hkl, hab, hlist], hxy⟩

end

/-- Values with one compact encoding are one value. -/
theorem compact_injective {a b : Json} (ha : Legible a) (hb : Legible b)
    (h : compact a = compact b) : a = b :=
  (compact_append_inj a b [] [] ha hb delimited_nil delimited_nil
    (show compact a ++ [] = compact b ++ [] by rw [h])).1

end CloudWard.Json
