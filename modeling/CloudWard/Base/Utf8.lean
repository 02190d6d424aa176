import CloudWard.Base.Python

/-!
# Bytes as text

`bytes.decode("utf-8", errors="replace")`. Bytes that are no character are replaced by U+FFFD, one
for each longest part that could have begun a character. The bytes of a text are decoded as it.
-/

namespace CloudWard.Python

/-- U+FFFD. -/
def replacement : Char := '\uFFFD'

/-- The bits of the first byte of a character of more than one byte, how many bytes follow it, and
the bounds of the next one. -/
def leading (b : Nat) : Option (Nat × Nat × Nat × Nat) :=
  if b < 0xC2 then none
  else if b ≤ 0xDF then some (b - 0xC0, 1, 0x80, 0xBF)
  -- no character has a longer encoding than it needs, none is a surrogate, none is beyond U+10FFFF
  else if b = 0xE0 then some (b - 0xE0, 2, 0xA0, 0xBF)
  else if b = 0xED then some (b - 0xE0, 2, 0x80, 0x9F)
  else if b ≤ 0xEF then some (b - 0xE0, 2, 0x80, 0xBF)
  else if b = 0xF0 then some (b - 0xF0, 3, 0x90, 0xBF)
  else if b ≤ 0xF3 then some (b - 0xF0, 3, 0x80, 0xBF)
  else if b = 0xF4 then some (b - 0xF0, 3, 0x80, 0x8F)
  else none

/-- The character that some bits and the bytes that follow them make, and the bytes after it. -/
def following (value : Nat) : Nat → Nat → Nat → List UInt8 → Char × List UInt8
  | 0, _, _, bytes => (Char.ofNat value, bytes)
  | _ + 1, _, _, [] => (replacement, [])
  | more + 1, low, high, b :: bytes =>
    if low ≤ b.toNat ∧ b.toNat ≤ high then
      following (64 * value + (b.toNat - 0x80)) more 0x80 0xBF bytes
    else (replacement, b :: bytes)

/-- The character of a byte and those after it, and the bytes that are left. -/
def character (b : UInt8) (bytes : List UInt8) : Char × List UInt8 :=
  if b.toNat < 0x80 then (Char.ofNat b.toNat, bytes)
  else
    match leading b.toNat with
    | none => (replacement, bytes)
    | some (value, more, low, high) => following value more low high bytes

/-- The characters of at most a number of bytes. -/
def characters : Nat → List UInt8 → List Char
  | 0, _ => []
  | _ + 1, [] => []
  | fuel + 1, b :: bytes => (character b bytes).1 :: characters fuel (character b bytes).2

/-- `bytes.decode("utf-8", errors="replace")`. -/
def decodeReplace (bytes : List UInt8) : String := String.ofList (characters bytes.length bytes)

/-! ### The bytes of a text -/

private theorem toNat_ofNat {n : Nat} (h : n < 256) : (UInt8.ofNat n).toNat = n := by
  rw [UInt8.toNat_ofNat']
  exact Nat.mod_eq_of_lt h

/-- A byte that follows, by its bits. -/
private theorem following_cons {value more low high n : Nat} {bytes : List UInt8}
    (hlow : low ≤ n % 64 + 0x80) (hhigh : n % 64 + 0x80 ≤ high) :
    following value (more + 1) low high (UInt8.ofNat (n % 0x40 + 0x80) :: bytes) =
      following (64 * value + n % 64) more 0x80 0xBF bytes := by
  have hbyte : (UInt8.ofNat (n % 0x40 + 0x80)).toNat = n % 64 + 0x80 := toNat_ofNat (by omega)
  rw [following, hbyte, if_pos ⟨hlow, hhigh⟩, Nat.add_sub_cancel]

/-- A character of more than one byte, by its first. -/
private theorem character_leading {first value more low high : Nat} {bytes : List UInt8}
    (hfirst : 0x80 ≤ first ∧ first < 256) (h : leading first = some (value, more, low, high)) :
    character (UInt8.ofNat first) bytes = following value more low high bytes := by
  unfold character
  rw [toNat_ofNat hfirst.2, if_neg (by omega), h]

private theorem leading_two {n : Nat} (h : 0x7f < n) (h' : n ≤ 0x7ff) :
    leading (n / 64 % 0x20 + 0xc0) = some (n / 64, 1, 0x80, 0xBF) := by
  unfold leading
  rw [if_neg (by omega), if_pos (by omega)]
  simp only [Option.some.injEq, Prod.mk.injEq, and_true]
  omega

/-- The bounds of the second of three bytes hold the bits it has. -/
private theorem leading_three {n : Nat} (h : 0x7ff < n) (h' : n ≤ 0xffff)
    (hvalid : n < 0xD800 ∨ 0xDFFF < n) :
    ∃ low high, leading (n / 4096 % 0x10 + 0xe0) = some (n / 4096, 2, low, high) ∧
      low ≤ n / 64 % 64 + 0x80 ∧ n / 64 % 64 + 0x80 ≤ high := by
  unfold leading
  rw [if_neg (by omega), if_neg (by omega)]
  by_cases hzero : n / 4096 = 0
  · rw [if_pos (by omega)]
    exact ⟨0xA0, 0xBF, by simp only [Option.some.injEq, Prod.mk.injEq, and_true]; omega, by omega,
      by omega⟩
  · rw [if_neg (by omega)]
    by_cases hsurrogate : n / 4096 = 13
    · rw [if_pos (by omega)]
      exact ⟨0x80, 0x9F, by simp only [Option.some.injEq, Prod.mk.injEq, and_true]; omega,
        by omega, by omega⟩
    · rw [if_neg (by omega), if_pos (by omega)]
      exact ⟨0x80, 0xBF, by simp only [Option.some.injEq, Prod.mk.injEq, and_true]; omega,
        by omega, by omega⟩

/-- The bounds of the second of four bytes hold the bits it has. -/
private theorem leading_four {n : Nat} (h : 0xffff < n) (h' : n < 0x110000) :
    ∃ low high, leading (n / 262144 % 0x08 + 0xf0) = some (n / 262144, 3, low, high) ∧
      low ≤ n / 4096 % 64 + 0x80 ∧ n / 4096 % 64 + 0x80 ≤ high := by
  unfold leading
  rw [if_neg (by omega), if_neg (by omega), if_neg (by omega), if_neg (by omega),
    if_neg (by omega)]
  by_cases hzero : n / 262144 = 0
  · rw [if_pos (by omega)]
    exact ⟨0x90, 0xBF, by simp only [Option.some.injEq, Prod.mk.injEq, and_true]; omega, by omega,
      by omega⟩
  · rw [if_neg (by omega)]
    by_cases hlast : n / 262144 = 4
    · rw [if_neg (by omega), if_pos (by omega)]
      exact ⟨0x80, 0x8F, by simp only [Option.some.injEq, Prod.mk.injEq, and_true]; omega,
        by omega, by omega⟩
    · rw [if_pos (by omega)]
      exact ⟨0x80, 0xBF, by simp only [Option.some.injEq, Prod.mk.injEq, and_true]; omega,
        by omega, by omega⟩

/-- The bytes of a character, by its number. -/
private def bytesOf (n : Nat) : List UInt8 :=
  if n ≤ 0x7f then [UInt8.ofNat n]
  else if n ≤ 0x7ff then [UInt8.ofNat (n / 64 % 0x20 + 0xc0), UInt8.ofNat (n % 0x40 + 0x80)]
  else if n ≤ 0xffff then
    [UInt8.ofNat (n / 4096 % 0x10 + 0xe0), UInt8.ofNat (n / 64 % 0x40 + 0x80),
      UInt8.ofNat (n % 0x40 + 0x80)]
  else
    [UInt8.ofNat (n / 262144 % 0x08 + 0xf0), UInt8.ofNat (n / 4096 % 0x40 + 0x80),
      UInt8.ofNat (n / 64 % 0x40 + 0x80), UInt8.ofNat (n % 0x40 + 0x80)]

private theorem utf8EncodeChar_eq (c : Char) : String.utf8EncodeChar c = bytesOf c.toNat := rfl

private theorem character_bytesOf {n : Nat} (hvalid : n < 0xD800 ∨ 0xDFFF < n ∧ n < 0x110000)
    (rest : List UInt8) :
    ∃ b bytes, bytesOf n = b :: bytes ∧ character b (bytes ++ rest) = (Char.ofNat n, rest) := by
  unfold bytesOf
  split
  · next h =>
    refine ⟨_, [], rfl, ?_⟩
    unfold character
    rw [toNat_ofNat (by omega), if_pos (by omega)]
    rfl
  · next h =>
    split
    · next h' =>
      refine ⟨_, _, rfl, ?_⟩
      rw [character_leading (by omega) (leading_two (by omega) h')]
      simp only [List.cons_append, List.nil_append]
      rw [following_cons (by omega) (by omega), following]
      rw [show 64 * (n / 64) + n % 64 = n by omega]
    · next h' =>
      split
      · next h'' =>
        refine ⟨_, _, rfl, ?_⟩
        obtain ⟨low, high, hleading, hlow, hhigh⟩ := leading_three (by omega) h'' (by omega)
        rw [character_leading (by omega) hleading]
        simp only [List.cons_append, List.nil_append]
        rw [following_cons hlow hhigh, following_cons (by omega) (by omega), following]
        rw [show 64 * (64 * (n / 4096) + n / 64 % 64) + n % 64 = n by omega]
      · next h'' =>
        refine ⟨_, _, rfl, ?_⟩
        obtain ⟨low, high, hleading, hlow, hhigh⟩ := leading_four (n := n) (by omega) (by omega)
        rw [character_leading (by omega) hleading]
        simp only [List.cons_append, List.nil_append]
        rw [following_cons hlow hhigh, following_cons (by omega) (by omega),
          following_cons (by omega) (by omega), following]
        have hsum : 64 * (64 * (64 * (n / 262144) + n / 4096 % 64) + n / 64 % 64) + n % 64 = n := by
          omega
        rw [hsum]

private theorem characters_encode (text : List Char) (fuel : Nat)
    (h : (text.flatMap String.utf8EncodeChar).length ≤ fuel) :
    characters fuel (text.flatMap String.utf8EncodeChar) = text := by
  induction text generalizing fuel with
  | nil => cases fuel <;> rfl
  | cons c text ih =>
    obtain ⟨b, bytes, hbytes, hchar⟩ :=
      character_bytesOf (n := c.toNat) c.valid (text.flatMap String.utf8EncodeChar)
    rw [List.flatMap_cons, utf8EncodeChar_eq, hbytes] at h ⊢
    cases fuel with
    | zero => exact absurd h (by simp)
    | succ fuel =>
      rw [List.cons_append, characters, hchar, ih fuel, Char.ofNat_toNat]
      simp only [List.cons_append, List.length_cons, List.length_append] at h
      omega

/-- The bytes of a text are decoded as it. -/
theorem decodeReplace_encode (text : String) : decodeReplace (encode text) = text := by
  unfold decodeReplace encode
  rw [characters_encode _ _ (Nat.le_refl _), String.ofList_toList]

example : decodeReplace [0xE2, 0x82, 0x41, 0xC3, 0xA9] = "\uFFFDAé" := by decide +kernel

end CloudWard.Python
