import Mathlib.Data.List.Basic

/-!
# Lines that are read piece by piece

Library `Logic`. A reader takes a text that arrives in pieces, and takes at most `size` items of a
line at once. `readLines` is what it reads of a piece, `completeLines` are the lines of a text
that are terminated. A reader that drops what is longer than a limit reads each line within the
limit once, and nothing else, if and only if all it keeps are whole lines.
-/

namespace CloudWard.Logic.Lines

variable {α β : Type} [DecidableEq α] (newline : α)

/-- A line from the start of a text, or as many items of it as may be read at once. -/
def readline : Nat → List α → List α
  | 0, _ => []
  | _ + 1, [] => []
  | n + 1, a :: rest => if a = newline then [a] else a :: readline n rest

theorem readline_ne_nil {n : Nat} {text : List α} (h : text ≠ []) :
    readline newline (n + 1) text ≠ [] := by
  cases text with
  | nil => exact absurd rfl h
  | cons a rest =>
    unfold readline
    split
    · exact List.cons_ne_nil _ _
    · exact List.cons_ne_nil _ _

/-- Read a text to its end, at most `limit + 1` items at once. -/
def readLines (limit : Nat) (text : List α) : List (List α) :=
  if h : text = [] then []
  else
    readline newline (limit + 1) text ::
      readLines limit (text.drop (readline newline (limit + 1) text).length)
termination_by text.length
decreasing_by
  have hpos := List.length_pos_iff.mpr (readline_ne_nil newline (n := limit) h)
  have htext := List.length_pos_iff.mpr h
  rw [List.length_drop]
  omega

/-- The terminated lines of a text, after what came before it of a line. -/
def completeLines : List α → List α → List (List α)
  | _, [] => []
  | carry, a :: rest =>
    if a = newline then (carry ++ [a]) :: completeLines [] rest
    else completeLines (carry ++ [a]) rest

/-- A piece ends a line. -/
def Terminated (piece : List α) : Prop := piece.getLast? = some newline

instance (piece : List α) : Decidable (Terminated newline piece) :=
  inferInstanceAs (Decidable (_ = _))

/-- The terminated lines of a text that was read in pieces. -/
def linesOf : List α → List (List α) → List (List α)
  | _, [] => []
  | carry, piece :: rest =>
    if Terminated newline piece then (carry ++ piece) :: linesOf [] rest
    else linesOf (carry ++ piece) rest

/-- Each piece within the limit is a whole line, where a line starts or not. -/
def Whole (limit : Nat) : Prop → List (List α) → Prop
  | _, [] => True
  | start, piece :: rest => (piece.length ≤ limit → start ∧ Terminated newline piece) ∧
    Whole limit (Terminated newline piece) rest

variable {newline} {limit : Nat}

/-! ### Pieces -/

theorem readline_isPrefixOf (n : Nat) (text : List α) : readline newline n text <+: text := by
  induction n generalizing text with
  | zero => exact List.nil_prefix
  | succ n ih =>
    cases text with
    | nil => exact List.nil_prefix
    | cons a rest =>
      unfold readline
      split
      · exact List.cons_prefix_cons.mpr ⟨rfl, List.nil_prefix⟩
      · exact List.cons_prefix_cons.mpr ⟨rfl, ih rest⟩

/-- What is read is the text. -/
theorem flatten_readLines (limit : Nat) (text : List α) :
    (readLines newline limit text).flatten = text := by
  induction text using readLines.induct newline limit with
  | case1 =>
    rw [readLines, dif_pos rfl]
    rfl
  | case2 text h ih =>
    rw [readLines, dif_neg h, List.flatten_cons, ih]
    exact List.prefix_iff_eq_append.mp (readline_isPrefixOf _ _)

/-- A text without a newline is read at once where there is room for it. -/
theorem readline_eq_self {n : Nat} {text : List α} (hline : newline ∉ text)
    (h : text.length ≤ n) : readline newline n text = text := by
  induction n generalizing text with
  | zero => rw [List.length_eq_zero_iff.mp (Nat.le_zero.mp h), readline]
  | succ n ih =>
    cases text with
    | nil => rfl
    | cons a rest =>
      rw [List.mem_cons, not_or] at hline
      rw [readline, if_neg fun ha ↦ hline.1 ha.symm, ih hline.2 (Nat.le_of_succ_le_succ h)]

/-- A text that is read at once. -/
theorem readLines_eq_singleton {text : List α} (hne : text ≠ [])
    (h : readline newline (limit + 1) text = text) : readLines newline limit text = [text] := by
  rw [readLines, dif_neg hne, h, List.drop_length, readLines, dif_pos rfl]

private theorem terminated_cons {a : α} (ha : a ≠ newline) (piece : List α) :
    Terminated newline (a :: piece) ↔ Terminated newline piece := by
  unfold Terminated
  cases piece with
  | nil =>
    rw [List.getLast?_singleton, List.getLast?_nil, Option.some.injEq]
    exact ⟨fun h ↦ absurd h ha, fun h ↦ by cases h⟩
  | cons b rest => rw [List.getLast?_cons_cons]

/-- What is read ends a line, or belongs to one that goes on. -/
theorem completeLines_readline (n : Nat) (carry text more : List α) :
    completeLines newline carry (readline newline n text ++ more) =
      if Terminated newline (readline newline n text) then
        (carry ++ readline newline n text) :: completeLines newline [] more
      else completeLines newline (carry ++ readline newline n text) more := by
  have hnil (carry : List α) : completeLines newline carry ([] ++ more) =
      if Terminated newline [] then (carry ++ []) :: completeLines newline [] more
      else completeLines newline (carry ++ []) more := by
    rw [if_neg (by rintro ⟨⟩), List.append_nil, List.nil_append]
  induction n generalizing carry text with
  | zero => exact hnil carry
  | succ n ih =>
    cases text with
    | nil => exact hnil carry
    | cons a rest =>
      rw [readline]
      by_cases ha : a = newline
      · rw [if_pos ha, List.singleton_append, completeLines, if_pos ha, if_pos]
        rw [ha]
        rfl
      · rw [if_neg ha, List.cons_append, completeLines, if_neg ha, ih]
        simp only [terminated_cons ha, List.append_assoc, List.singleton_append]

private theorem completeLines_append {limit : Nat} {more : List α} {pieces : List (List α)}
    (hmore : ∀ carry, completeLines newline carry more = linesOf newline carry pieces)
    (carry text : List α) :
    completeLines newline carry (text ++ more) =
      linesOf newline carry (readLines newline limit text ++ pieces) := by
  induction text using readLines.induct newline limit generalizing carry with
  | case1 =>
    rw [readLines, dif_pos rfl]
    exact hmore carry
  | case2 text h ih =>
    have htext : readline newline (limit + 1) text ++
        text.drop (readline newline (limit + 1) text).length = text :=
      List.prefix_iff_eq_append.mp (readline_isPrefixOf _ _)
    rw [readLines, dif_neg h, List.cons_append, linesOf]
    conv_lhs => rw [← htext]
    rw [List.append_assoc, completeLines_readline, ih, ih]

/-- The lines of a text that arrived in parts are the lines of what was read of each part. -/
theorem completeLines_flatten (limit : Nat) (carry : List α) (parts : List (List α)) :
    completeLines newline carry parts.flatten =
      linesOf newline carry (parts.flatMap (readLines newline limit)) := by
  induction parts generalizing carry with
  | nil => rfl
  | cons part rest ih =>
    rw [List.flatten_cons, List.flatMap_cons]
    exact completeLines_append ih carry part

/-! ### Pieces within a limit -/

/-- What is within the limit. -/
def within (limit : Nat) (pieces : List (List α)) : List (List α) :=
  pieces.filter fun piece ↦ piece.length ≤ limit

theorem within_cons_of_le {piece : List α} (h : piece.length ≤ limit) (rest : List (List α)) :
    within limit (piece :: rest) = piece :: within limit rest :=
  List.filter_cons_of_pos (decide_eq_true h)

theorem within_cons_of_lt {piece : List α} (h : limit < piece.length) (rest : List (List α)) :
    within limit (piece :: rest) = within limit rest := by
  apply List.filter_cons_of_neg
  rw [decide_eq_true_iff]
  omega

private theorem length_within_le_cons (piece : List α) (rest : List (List α)) :
    (within limit rest).length ≤ (within limit (piece :: rest)).length :=
  ((List.sublist_cons_self piece rest).filter _).length_le

/-- Each line within the limit ends with a piece within the limit. -/
private theorem length_within_linesOf (carry : List α) (pieces : List (List α)) :
    (within limit (linesOf newline carry pieces)).length ≤ (within limit pieces).length := by
  induction pieces generalizing carry with
  | nil => exact Nat.le_refl _
  | cons piece rest ih =>
    rw [linesOf]
    split
    · by_cases hline : (carry ++ piece).length ≤ limit
      · have hpiece : piece.length ≤ limit := by
          rw [List.length_append] at hline
          omega
        rw [within_cons_of_le hline, within_cons_of_le hpiece, List.length_cons, List.length_cons]
        exact Nat.succ_le_succ (ih [])
      · rw [within_cons_of_lt (by omega)]
        exact Nat.le_trans (ih []) (length_within_le_cons piece rest)
    · exact Nat.le_trans (ih (carry ++ piece)) (length_within_le_cons piece rest)

private theorem append_ne_nil {carry piece : List α} (h : limit < piece.length) :
    carry ++ piece ≠ [] := by
  apply List.append_ne_nil_of_right_ne_nil
  rintro rfl
  exact absurd h (Nat.not_lt_zero _)

private theorem lt_length_append {carry piece : List α} (h : limit < piece.length) :
    limit < (carry ++ piece).length := by
  rw [List.length_append]
  omega

/-- Where each piece within the limit is a whole line, these are the lines within the limit. -/
theorem within_eq_of_whole {carry : List α} {pieces : List (List α)}
    (hcarry : carry = [] ∨ limit < carry.length)
    (h : Whole newline limit (carry = []) pieces) :
    within limit pieces = within limit (linesOf newline carry pieces) := by
  induction pieces generalizing carry with
  | nil => rfl
  | cons piece rest ih =>
    obtain ⟨hpiece, hrest⟩ := h
    rw [linesOf]
    by_cases hlength : piece.length ≤ limit
    · obtain ⟨rfl, hends⟩ := hpiece hlength
      rw [if_pos hends, List.nil_append, within_cons_of_le hlength, within_cons_of_le hlength,
        ih (.inl rfl) (by simpa [hends] using hrest)]
    · have hlong : limit < piece.length := by omega
      rw [within_cons_of_lt hlong]
      split
      · next hends =>
        rw [within_cons_of_lt (lt_length_append hlong)]
        exact ih (.inl rfl) (by simpa [hends] using hrest)
      · next hends =>
        have hne : carry ++ piece ≠ [] := append_ne_nil hlong
        exact ih (.inr (lt_length_append hlong)) (by simpa [hends, hne] using hrest)

/-- As many pieces as lines within the limit are whole lines. -/
theorem whole_of_length_eq {carry : List α} {pieces : List (List α)}
    (hcarry : carry = [] ∨ limit < carry.length)
    (h : (within limit pieces).length = (within limit (linesOf newline carry pieces)).length) :
    Whole newline limit (carry = []) pieces := by
  induction pieces generalizing carry with
  | nil => trivial
  | cons piece rest ih =>
    rw [linesOf] at h
    by_cases hlength : piece.length ≤ limit
    · rw [within_cons_of_le hlength, List.length_cons] at h
      split at h
      · next hends =>
        rcases hcarry with rfl | hlong
        · rw [List.nil_append, within_cons_of_le hlength, List.length_cons] at h
          have hrest := ih (.inl rfl) (Nat.succ.inj h)
          exact ⟨fun _ ↦ ⟨rfl, hends⟩, by simpa [hends] using hrest⟩
        · -- the end of a line that was too long would be one piece too many
          rw [within_cons_of_lt (by rw [List.length_append]; omega)] at h
          have hle : (within limit (linesOf newline [] rest)).length ≤
              (within limit rest).length := length_within_linesOf [] rest
          omega
      · have hle : (within limit (linesOf newline (carry ++ piece) rest)).length ≤
            (within limit rest).length := length_within_linesOf (carry ++ piece) rest
        omega
    · have hlong : limit < piece.length := by omega
      rw [within_cons_of_lt hlong] at h
      refine ⟨fun hle ↦ absurd hle hlength, ?_⟩
      split at h
      · next hends =>
        rw [within_cons_of_lt (lt_length_append hlong)] at h
        simpa [hends] using ih (.inl rfl) h
      · next hends =>
        have hne : carry ++ piece ≠ [] := append_ne_nil hlong
        simpa [hends, hne] using ih (.inr (lt_length_append hlong)) h

end CloudWard.Logic.Lines
