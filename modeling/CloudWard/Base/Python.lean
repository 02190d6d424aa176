import Mathlib.Data.List.Basic

/-!
# Texts as Python reads them

`int(text)`, `text.isspace()` and `text.isalnum()` as the Python documentation describes them.
What the Unicode character database says beyond ASCII is a parameter. `int` is the conversion
without its limit of 4300 digits; no caller in the repository accepts a number that long.
-/

namespace CloudWard.Python

/-- What the Unicode character database says of the characters beyond ASCII. -/
structure Unicode where
  alnum : Char → Bool
  decimal : Char → Option Nat

/-- A whitespace character. -/
def isSpace (c : Char) : Bool :=
  (9 ≤ c.toNat ∧ c.toNat ≤ 13) ∨ (28 ≤ c.toNat ∧ c.toNat ≤ 32) ∨
    c.toNat ∈ [0x85, 0xa0, 0x1680, 0x2028, 0x2029, 0x202f, 0x205f, 0x3000] ∨
    (0x2000 ≤ c.toNat ∧ c.toNat ≤ 0x200a)

/-- An alphanumeric character. -/
def isAlnum (u : Unicode) (c : Char) : Bool :=
  if c.toNat < 128 then c.isAlphanum else u.alnum c

/-- The value of a decimal digit. -/
def digit (u : Unicode) (c : Char) : Option Nat :=
  if c.toNat < 128 then
    if c.isDigit then some (c.toNat - '0'.toNat) else none
  else u.decimal c

/-- The digits after a digit, with single underscores between them. -/
def digitsFrom (u : Unicode) (value : Nat) : List Char → Option Nat
  | [] => some value
  | '_' :: c :: rest => do digitsFrom u (10 * value + (← digit u c)) rest
  | c :: rest => do digitsFrom u (10 * value + (← digit u c)) rest

/-- The digits of a number. -/
def digits (u : Unicode) : List Char → Option Nat
  | [] => none
  | c :: rest => do digitsFrom u (← digit u c) rest

/-- A text without the whitespace around it. -/
def strip (text : List Char) : List Char :=
  ((text.dropWhile isSpace).reverse.dropWhile isSpace).reverse

/-- `int(text)`. -/
def int (u : Unicode) (text : String) : Option Int :=
  match strip text.toList with
  | '+' :: rest => (digits u rest).map Int.ofNat
  | '-' :: rest => (digits u rest).map fun n : Nat ↦ -Int.ofNat n
  | rest => (digits u rest).map Int.ofNat

/-- `text.isalnum()`. -/
def isAlnumText (u : Unicode) (text : List Char) : Bool := text ≠ [] ∧ text.all (isAlnum u)

/-- `text.encode()`. -/
def encode (text : String) : List UInt8 := text.toList.flatMap String.utf8EncodeChar

variable {u : Unicode}

/-! ### The text of a number -/

private theorem digit_of_isDigit {c : Char} (h : c.isDigit) :
    digit u c = some (c.toNat - '0'.toNat) := by
  have hle : c.toNat ≤ 57 := by
    simp only [Char.isDigit, Bool.and_eq_true, decide_eq_true_iff] at h
    exact UInt32.le_iff_toNat_le.mp h.2
  unfold digit
  rw [if_pos (by omega), if_pos h]

private theorem digitsFrom_of_isDigit {cs : List Char} (h : ∀ c ∈ cs, c.isDigit) (value : Nat) :
    digitsFrom u value cs = some (Nat.ofDigitChars 10 cs value) := by
  induction cs generalizing value with
  | nil => simp [digitsFrom]
  | cons c rest ih =>
    have hc := h c List.mem_cons_self
    have hrest := ih fun d hd ↦ h d (List.mem_cons_of_mem c hd)
    have hne : c ≠ '_' := by
      rintro rfl
      exact absurd hc (by decide)
    rw [Nat.ofDigitChars_cons, ← hrest]
    conv_lhs => unfold digitsFrom
    split
    · next heq => cases heq
    · next heq =>
      cases heq
      exact absurd rfl hne
    · next heq =>
      cases heq
      rw [digit_of_isDigit hc]
      rfl

private theorem not_isSpace_of_isDigit {c : Char} (h : c.isDigit) : isSpace c = false := by
  simp only [Char.isDigit, Bool.and_eq_true, decide_eq_true_iff] at h
  have hge : 48 ≤ c.toNat := UInt32.le_iff_toNat_le.mp h.1
  have hle : c.toNat ≤ 57 := UInt32.le_iff_toNat_le.mp h.2
  simp only [isSpace, List.mem_cons, List.not_mem_nil, or_false, decide_eq_false_iff_not]
  omega

private theorem dropWhile_isSpace {cs : List Char} (h : ∀ c ∈ cs, c.isDigit) :
    cs.dropWhile isSpace = cs := by
  cases cs with
  | nil => rfl
  | cons c rest =>
    rw [List.dropWhile_cons_of_neg]
    simp [not_isSpace_of_isDigit (h c List.mem_cons_self)]

private theorem strip_of_isDigit {cs : List Char} (h : ∀ c ∈ cs, c.isDigit) : strip cs = cs := by
  unfold strip
  rw [dropWhile_isSpace h, dropWhile_isSpace fun c hc ↦ h c (List.mem_reverse.mp hc),
    List.reverse_reverse]

/-- `int(str(n)) == n`. -/
theorem int_toString (n : Nat) : int u (toString n) = some (n : Int) := by
  have hdigits : ∀ c ∈ Nat.toDigits 10 n, c.isDigit :=
    fun c hc ↦ Nat.isDigit_of_mem_toDigits (by omega) (by omega) hc
  have hvalue : digits u (Nat.toDigits 10 n) = some n := by
    cases hcs : Nat.toDigits 10 n with
    | nil => exact absurd hcs Nat.toDigits_ne_nil
    | cons c rest =>
      have hvalue := Nat.ofDigitChars_toDigits (b := 10) (n := n) (by omega) (by omega)
      rw [hcs] at hdigits hvalue
      rw [Nat.ofDigitChars_cons, Nat.mul_zero, Nat.zero_add] at hvalue
      simp only [digits, digit_of_isDigit (hdigits c List.mem_cons_self), bind, Option.bind]
      rw [digitsFrom_of_isDigit fun d hd ↦ hdigits d (List.mem_cons_of_mem c hd), hvalue]
  unfold int
  rw [Nat.toString_eq_ofList_toDigits, String.toList_ofList, strip_of_isDigit hdigits]
  split
  · next rest heq =>
    rw [heq] at hdigits
    exact absurd (hdigits '+' List.mem_cons_self) (by decide)
  · next rest heq =>
    rw [heq] at hdigits
    exact absurd (hdigits '-' List.mem_cons_self) (by decide)
  · rw [hvalue]
    rfl

/-! ### Texts without a character -/

private theorem mem_dropWhile {c : Char} (h : isSpace c = false) :
    ∀ {cs : List Char}, c ∈ cs → c ∈ cs.dropWhile isSpace
  | d :: rest, hmem => by
    by_cases hd : isSpace d
    · rw [List.dropWhile_cons_of_pos hd]
      rcases List.mem_cons.mp hmem with rfl | hrest
      · rw [h] at hd
        cases hd
      · exact mem_dropWhile h hrest
    · rwa [List.dropWhile_cons_of_neg hd]

private theorem mem_strip {c : Char} (h : isSpace c = false) {cs : List Char} (hmem : c ∈ cs) :
    c ∈ strip cs := by
  unfold strip
  rw [List.mem_reverse]
  exact mem_dropWhile h (List.mem_reverse.mpr (mem_dropWhile h hmem))

private theorem digits_of_digitsFrom {value n : Nat} {cs : List Char}
    (h : digitsFrom u value cs = some n) {c : Char} (hc : c ∈ cs) :
    c = '_' ∨ digit u c ≠ none := by
  induction value, cs using digitsFrom.induct generalizing n with
  | case1 value => cases hc
  | case2 value d rest ih =>
    simp only [digitsFrom, Option.bind_eq_bind, Option.bind_eq_some_iff] at h
    obtain ⟨k, hk, h⟩ := h
    rcases List.mem_cons.mp hc with rfl | hc
    · exact .inl rfl
    · rcases List.mem_cons.mp hc with rfl | hc
      · exact .inr (by rw [hk]; exact Option.some_ne_none k)
      · exact ih k h hc
  | case3 value d rest hne ih =>
    rw [digitsFrom] at h
    · simp only [Option.bind_eq_bind, Option.bind_eq_some_iff] at h
      obtain ⟨k, hk, h⟩ := h
      rcases List.mem_cons.mp hc with rfl | hc
      · exact .inr (by rw [hk]; exact Option.some_ne_none k)
      · exact ih k h hc
    · exact hne

private theorem digits_of_eq_some {n : Nat} {cs : List Char} (h : digits u cs = some n) {c : Char}
    (hc : c ∈ cs) : c = '_' ∨ digit u c ≠ none := by
  cases cs with
  | nil => cases hc
  | cons d rest =>
    simp only [digits, Option.bind_eq_bind, Option.bind_eq_some_iff] at h
    obtain ⟨k, hk, h⟩ := h
    rcases List.mem_cons.mp hc with rfl | hc
    · exact .inr (by rw [hk]; exact Option.some_ne_none k)
    · exact digits_of_digitsFrom h hc

/-- `int` reads no text with a dot. -/
theorem dot_notMem_of_int {text : String} {n : Int} (h : int u text = some n) :
    '.' ∉ text.toList := by
  intro hdot
  have hdigit : digit u '.' = none := by
    unfold digit
    rw [if_pos (by decide), if_neg (by decide)]
  have hnone {cs : List Char} {k : Nat} (hk : digits u cs = some k) (hcs : '.' ∈ cs) : False := by
    rcases digits_of_eq_some hk hcs with h | h
    · cases h
    · exact h hdigit
  have hmem := mem_strip (by decide) hdot
  unfold int at h
  split at h
  · next rest heq =>
    obtain ⟨k, hk, -⟩ := Option.map_eq_some_iff.mp h
    rw [heq] at hmem
    exact hnone hk ((List.mem_cons.mp hmem).resolve_left (by decide))
  · next rest heq =>
    obtain ⟨k, hk, -⟩ := Option.map_eq_some_iff.mp h
    rw [heq] at hmem
    exact hnone hk ((List.mem_cons.mp hmem).resolve_left (by decide))
  · obtain ⟨k, hk, -⟩ := Option.map_eq_some_iff.mp h
    exact hnone hk hmem

/-- An alphanumeric text has no dot. -/
theorem dot_notMem_of_isAlnumText {text : List Char} (h : isAlnumText u text) : '.' ∉ text := by
  intro hdot
  simp only [isAlnumText, decide_eq_true_iff] at h
  have hc := List.all_eq_true.mp h.2 '.' hdot
  unfold isAlnum at hc
  rw [if_pos (by decide)] at hc
  exact absurd hc (by decide)

/-! ### Encoded texts -/

private theorem eq_dot_of_mem {c : Char} (h : 0x2e ∈ String.utf8EncodeChar c) : c = '.' := by
  unfold String.utf8EncodeChar at h
  dsimp only at h
  split_ifs at h <;>
    simp only [List.mem_cons, List.not_mem_nil, or_false, ← UInt8.toNat_inj,
      UInt8.toNat_ofNat', UInt8.reduceToNat] at h
  · apply Char.toNat_inj.mp
    show c.val.toNat = 46
    omega
  all_goals omega

/-- The byte of a dot encodes a dot. -/
theorem dot_notMem_encode {text : String} (h : '.' ∉ text.toList) : 0x2e ∉ encode text := by
  intro hdot
  obtain ⟨c, hc, hbyte⟩ := List.mem_flatMap.mp hdot
  exact h (eq_dot_of_mem hbyte ▸ hc)

/-- Two texts with the same bytes are the same. -/
theorem encode_injective : Function.Injective encode := by
  intro s t h
  have hbytes : s.toList.utf8Encode = t.toList.utf8Encode := congrArg List.toByteArray h
  rw [← String.ofList_toList (s := s), ← String.ofList_toList (s := t), ← String.toByteArray_inj]
  simpa using hbytes

end CloudWard.Python
