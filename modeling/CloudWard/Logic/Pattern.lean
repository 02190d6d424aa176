import Mathlib.Data.List.Basic
import Mathlib.Tactic.Ring

/-!
# Patterns with an order of choice

Library `Logic`. A pattern leads from a position to a list of positions, the preferred one first,
in the order in which a backtracking matcher tries them. A rule takes the leftmost match and its
preferred way through it, keeps the first part of what it matched, writes a mask for the rest,
and goes on after it. What it writes a mask for are the secrets of the text.

The laws account for the length of a masked text, which need not be shorter than the text, and
say when a text has no secrets.
-/

namespace CloudWard.Logic

variable {α : Type}

/-- The character before a position, and the text after it. -/
abbrev Position (α : Type) := Option α × List α

/-- A regular expression whose repetitions are of one character. -/
inductive Pattern (α : Type)
  | empty
  | one (p : α → Bool)
  | seq (a b : Pattern α)
  | alt (a b : Pattern α)
  /-- As many as there are. -/
  | star (p : α → Bool)
  /-- As few as will do. -/
  | lazy (p : α → Bool)
  /-- Between a character of a word and one that is none. -/
  | edge (word : α → Bool)

namespace Pattern

/-- The ways to take characters of a class, the longest first. -/
def longest (p : α → Bool) : Option α → List α → List (Position α)
  | prev, [] => [(prev, [])]
  | prev, c :: rest => (if p c then longest p (some c) rest else []) ++ [(prev, c :: rest)]

/-- The ways to take characters of a class, the shortest first. -/
def shortest (p : α → Bool) : Option α → List α → List (Position α)
  | prev, [] => [(prev, [])]
  | prev, c :: rest => (prev, c :: rest) :: if p c then shortest p (some c) rest else []

/-- A position where a word begins or ends. -/
def isEdge (word : α → Bool) (s : Position α) : Bool :=
  s.1.any word != s.2.head?.any word

/-- The positions a pattern leads to, the preferred one first. -/
def ends : Pattern α → Position α → List (Position α)
  | .empty, s => [s]
  | .one p, (_, c :: rest) => if p c then [(some c, rest)] else []
  | .one _, (_, []) => []
  | .seq a b, s => (a.ends s).flatMap b.ends
  | .alt a b, s => a.ends s ++ b.ends s
  | .star p, (prev, text) => longest p prev text
  | .lazy p, (prev, text) => shortest p prev text
  | .edge word, s => if isEdge word s then [s] else []

/-- One or more. -/
def plus (p : α → Bool) : Pattern α := .seq (.one p) (.star p)

/-- A number of them. -/
def times (p : α → Bool) : Nat → Pattern α
  | 0 => .empty
  | n + 1 => .seq (.one p) (times p n)

/-- At most a number of them, as many as there are. -/
def upTo (p : α → Bool) : Nat → Pattern α
  | 0 => .empty
  | n + 1 => .alt (.seq (.one p) (upTo p n)) .empty

/-- One or none. -/
def opt (a : Pattern α) : Pattern α := .alt a .empty

/-- One pattern after the other. -/
def all : List (Pattern α) → Pattern α
  | [] => .empty
  | a :: rest => .seq a (all rest)

/-- The first pattern that goes on to a match. -/
def any : List (Pattern α) → Pattern α
  | [] => .one fun _ ↦ false
  | a :: rest => .alt a (any rest)

private theorem suffix_of_mem_longest {p : α → Bool} {stop : Position α} :
    ∀ {text : List α} {prev : Option α}, stop ∈ longest p prev text → stop.2 <:+ text
  | [], prev, h => by
    obtain rfl := List.mem_singleton.mp h
    exact List.suffix_refl []
  | c :: rest, prev, h => by
    rcases List.mem_append.mp h with hmore | hnone
    · split at hmore
      · exact (suffix_of_mem_longest hmore).trans (List.suffix_cons c rest)
      · cases hmore
    · obtain rfl := List.mem_singleton.mp hnone
      exact List.suffix_refl _

private theorem suffix_of_mem_shortest {p : α → Bool} {stop : Position α} :
    ∀ {text : List α} {prev : Option α}, stop ∈ shortest p prev text → stop.2 <:+ text
  | [], prev, h => by
    obtain rfl := List.mem_singleton.mp h
    exact List.suffix_refl []
  | c :: rest, prev, h => by
    rcases List.mem_cons.mp h with rfl | hmore
    · exact List.suffix_refl _
    · split at hmore
      · exact (suffix_of_mem_shortest hmore).trans (List.suffix_cons c rest)
      · cases hmore

/-- A pattern leads to a later position of the text. -/
theorem suffix_of_mem_ends {p : Pattern α} {s stop : Position α} (h : stop ∈ p.ends s) :
    stop.2 <:+ s.2 := by
  induction p generalizing s stop with
  | empty =>
    obtain rfl := List.mem_singleton.mp h
    exact List.suffix_refl _
  | one p =>
    rcases s with ⟨prev, _ | ⟨c, rest⟩⟩
    · cases h
    · unfold ends at h
      split at h
      · obtain rfl := List.mem_singleton.mp h
        exact List.suffix_cons c rest
      · cases h
  | seq a b iha ihb =>
    obtain ⟨mid, hmid, hstop⟩ := List.mem_flatMap.mp h
    exact (ihb hstop).trans (iha hmid)
  | alt a b iha ihb =>
    rcases List.mem_append.mp h with ha | hb
    · exact iha ha
    · exact ihb hb
  | star p => exact suffix_of_mem_longest h
  | lazy p => exact suffix_of_mem_shortest h
  | edge word =>
    unfold ends at h
    split at h
    · obtain rfl := List.mem_singleton.mp h
      exact List.suffix_refl _
    · cases h

/-- A match has a character of a class. -/
def Needs (q : α → Bool) : Pattern α → Prop
  | .one p => ∀ c, p c → q c
  | .seq a b => a.Needs q ∨ b.Needs q
  | .alt a b => a.Needs q ∧ b.Needs q
  | _ => False

theorem needs_all {q : α → Bool} {p : Pattern α} (hp : p.Needs q) :
    ∀ {parts : List (Pattern α)}, p ∈ parts → (all parts).Needs q
  | a :: rest, h => by
    rcases List.mem_cons.mp h with rfl | hrest
    · exact .inl hp
    · exact .inr (needs_all hp hrest)

/-- A text without the characters a pattern needs does not match. -/
theorem ends_eq_nil {q : α → Bool} {p : Pattern α} (hp : p.Needs q) {s : Position α}
    (hs : ∀ c ∈ s.2, q c = false) : p.ends s = [] := by
  induction p generalizing s with
  | one p =>
    rcases s with ⟨prev, _ | ⟨c, rest⟩⟩
    · rfl
    · have hc : ¬ p c := by
        intro h
        have htrue := hp c h
        rw [hs c List.mem_cons_self] at htrue
        cases htrue
      rw [ends, if_neg hc]
  | seq a b iha ihb =>
    rcases hp with ha | hb
    · rw [ends, iha ha hs, List.flatMap_nil]
    · rw [ends, List.flatMap_eq_nil_iff]
      intro mid hmid
      exact ihb hb fun c hc ↦ hs c ((suffix_of_mem_ends hmid).subset hc)
  | alt a b iha ihb => rw [ends, iha hp.1 hs, ihb hp.2 hs, List.append_nil]
  | empty => exact hp.elim
  | star p => exact hp.elim
  | lazy p => exact hp.elim
  | edge word => exact hp.elim

/-- Whether a match has a character that is none of some letters. -/
def needsOther (letters : List α) : Pattern α → Bool
  | .one p => letters.all fun c ↦ !p c
  | .seq a b => a.needsOther letters || b.needsOther letters
  | .alt a b => a.needsOther letters && b.needsOther letters
  | _ => false

theorem needs_of_needsOther [DecidableEq α] {letters : List α} {p : Pattern α}
    (h : p.needsOther letters) : p.Needs fun c ↦ decide (c ∉ letters) := by
  induction p with
  | one p =>
    intro c hc
    rw [decide_eq_true_iff]
    intro hmem
    have hnot := List.all_eq_true.mp h c hmem
    rw [hc] at hnot
    cases hnot
  | seq a b iha ihb =>
    rcases Bool.or_eq_true_iff.mp h with ha | hb
    · exact .inl (iha ha)
    · exact .inr (ihb hb)
  | alt a b iha ihb =>
    obtain ⟨ha, hb⟩ := Bool.and_eq_true_iff.mp h
    exact ⟨iha ha, ihb hb⟩
  | empty => cases h
  | star p => cases h
  | lazy p => cases h
  | edge word => cases h

/-- A match starts with a character of a class. -/
def Starts (q : α → Bool) : Pattern α → Prop
  | .one p => ∀ c, p c → q c
  | .seq (.edge _) b => b.Starts q
  | .seq a _ => a.Starts q
  | .alt a b => a.Starts q ∧ b.Starts q
  | _ => False

theorem starts_any {q : α → Bool} :
    ∀ {parts : List (Pattern α)}, (∀ p ∈ parts, p.Starts q) → (any parts).Starts q
  | [], _ => fun _ h ↦ absurd h Bool.false_ne_true
  | a :: _, h =>
    ⟨h a List.mem_cons_self, starts_any fun p hp ↦ h p (List.mem_cons_of_mem a hp)⟩

/-- A pattern does not match where no match starts. -/
theorem ends_cons_eq_nil {q : α → Bool} {c : α} (hc : q c = false) {p : Pattern α}
    (hp : p.Starts q) {prev : Option α} {rest : List α} : p.ends (prev, c :: rest) = [] := by
  induction p generalizing prev with
  | one p =>
    have hpc : ¬ p c := by
      intro h
      rw [hp c h] at hc
      cases hc
    rw [ends, if_neg hpc]
  | seq a b iha ihb =>
    cases a with
    | edge word =>
      rw [ends, ends]
      split
      · rw [List.flatMap_singleton, ihb hp]
      · rfl
    | empty => exact hp.elim
    | star p => exact hp.elim
    | lazy p => exact hp.elim
    | one p => rw [ends, iha hp, List.flatMap_nil]
    | seq d e => rw [ends, iha hp, List.flatMap_nil]
    | alt d e => rw [ends, iha hp, List.flatMap_nil]
  | alt a b iha ihb => rw [ends, iha hp.1, ihb hp.2, List.append_nil]
  | empty => exact hp.elim
  | star p => exact hp.elim
  | lazy p => exact hp.elim
  | edge word => exact hp.elim

/-! ### Matches whatever the edges are -/

/-- What the repetitions of a character leave of a text. -/
def repeated (p : α → Bool) : List α → List (List α)
  | [] => [[]]
  | c :: rest => (c :: rest) :: if p c then repeated p rest else []

/-- What the matches of a pattern leave of a text, if every place were an edge. -/
def rests : Pattern α → List α → List (List α)
  | .empty, text => [text]
  | .one p, c :: rest => if p c then [rest] else []
  | .one _, [] => []
  | .seq a b, text => (a.rests text).flatMap b.rests
  | .alt a b, text => a.rests text ++ b.rests text
  | .star p, text => repeated p text
  | .lazy p, text => repeated p text
  | .edge _, text => [text]

private theorem mem_repeated_of_longest {p : α → Bool} {stop : Position α} :
    ∀ {text : List α} {prev : Option α}, stop ∈ longest p prev text → stop.2 ∈ repeated p text
  | [], prev, h => by
    obtain rfl := List.mem_singleton.mp h
    exact List.mem_singleton_self _
  | c :: rest, prev, h => by
    rcases List.mem_append.mp h with hmore | hnone
    · split at hmore
      · next hc =>
        rw [repeated, if_pos hc]
        exact List.mem_cons_of_mem _ (mem_repeated_of_longest hmore)
      · cases hmore
    · obtain rfl := List.mem_singleton.mp hnone
      exact List.mem_cons_self

private theorem mem_repeated_of_shortest {p : α → Bool} {stop : Position α} :
    ∀ {text : List α} {prev : Option α}, stop ∈ shortest p prev text → stop.2 ∈ repeated p text
  | [], prev, h => by
    obtain rfl := List.mem_singleton.mp h
    exact List.mem_singleton_self _
  | c :: rest, prev, h => by
    rcases List.mem_cons.mp h with rfl | hmore
    · exact List.mem_cons_self
    · split at hmore
      · next hc =>
        rw [repeated, if_pos hc]
        exact List.mem_cons_of_mem _ (mem_repeated_of_shortest hmore)
      · cases hmore

/-- What a match leaves does not depend on the edges. -/
theorem mem_rests {p : Pattern α} {s stop : Position α} (h : stop ∈ p.ends s) :
    stop.2 ∈ p.rests s.2 := by
  induction p generalizing s stop with
  | empty =>
    obtain rfl := List.mem_singleton.mp h
    exact List.mem_singleton_self _
  | one p =>
    rcases s with ⟨prev, _ | ⟨c, rest⟩⟩
    · cases h
    · rw [ends] at h
      split at h
      · next hc =>
        obtain rfl := List.mem_singleton.mp h
        rw [rests, if_pos hc]
        exact List.mem_singleton_self _
      · cases h
  | seq a b iha ihb =>
    obtain ⟨mid, hmid, hstop⟩ := List.mem_flatMap.mp h
    exact List.mem_flatMap.mpr ⟨mid.2, iha hmid, ihb hstop⟩
  | alt a b iha ihb =>
    rcases List.mem_append.mp h with ha | hb
    · exact List.mem_append_left _ (iha ha)
    · exact List.mem_append_right _ (ihb hb)
  | star p => exact mem_repeated_of_longest h
  | lazy p => exact mem_repeated_of_shortest h
  | edge word =>
    rw [ends] at h
    split at h
    · obtain rfl := List.mem_singleton.mp h
      exact List.mem_singleton_self _
    · cases h

end Pattern

/-- A rule: what it keeps of a match, and the secret after it. -/
structure Rule (α : Type) where
  kept : Pattern α := .empty
  secret : Pattern α

namespace Rule

variable (rule : Rule α)

/-- The lengths of the parts of the preferred match at a position. -/
def find (s : Position α) : Option (Nat × Nat) :=
  ((rule.kept.ends s).flatMap fun mid ↦ (rule.secret.ends mid).map fun stop ↦
    (s.2.length - mid.2.length, mid.2.length - stop.2.length)).head?

/-- Mask the secrets of a text, from a position on and after some characters of a match. -/
def scan (mask : List α) : Option α → Nat → List α → List α
  | _, _, [] => []
  | _, skip + 1, c :: rest => scan mask (some c) skip rest
  | prev, 0, c :: rest =>
    match rule.find (prev, c :: rest) with
    | some (kept, n + 1) =>
      (c :: rest).take kept ++ mask ++ scan mask (some c) (kept + n) rest
    | _ => c :: scan mask (some c) 0 rest

/-- The secrets of a text, from a position on and after some characters of a match. -/
def secretsFrom : Option α → Nat → List α → List (List α)
  | _, _, [] => []
  | _, skip + 1, c :: rest => secretsFrom (some c) skip rest
  | prev, 0, c :: rest =>
    match rule.find (prev, c :: rest) with
    | some (kept, n + 1) =>
      ((c :: rest).drop kept).take (n + 1) :: secretsFrom (some c) (kept + n) rest
    | _ => secretsFrom (some c) 0 rest

variable {rule} {mask text : List α}

/-- The parts of a match are in the text. -/
theorem le_length_of_find {s : Position α} {kept secret : Nat}
    (h : rule.find s = some (kept, secret)) : kept + secret ≤ s.2.length := by
  obtain ⟨mid, hmid, hstop⟩ := List.mem_flatMap.mp (List.mem_of_head? h)
  obtain ⟨stop, hstop, heq⟩ := List.mem_map.mp hstop
  cases heq
  have hmid := (Pattern.suffix_of_mem_ends hmid).length_le
  omega

/-- Masking adds a mask and takes a secret away, for each of the secrets. -/
theorem length_scan (prev : Option α) (skip : Nat) (h : skip ≤ text.length) :
    (rule.scan mask prev skip text).length +
        ((rule.secretsFrom prev skip text).map List.length).sum + skip =
      text.length + mask.length * (rule.secretsFrom prev skip text).length := by
  induction text generalizing prev skip with
  | nil =>
    have hskip : skip = 0 := Nat.le_zero.mp h
    subst hskip
    rfl
  | cons c rest ih =>
    cases skip with
    | succ skip =>
      have hrest := ih (some c) skip (Nat.le_of_succ_le_succ h)
      simp only [scan, secretsFrom, List.length_cons] at hrest ⊢
      omega
    | zero =>
      rw [scan, secretsFrom]
      split
      · next kept n hfind =>
        have hle : kept + (n + 1) ≤ rest.length + 1 := le_length_of_find hfind
        have hrest := ih (some c) (kept + n) (by omega)
        simp only [List.length_append, List.length_take, List.length_cons, List.map_cons,
          List.sum_cons, List.length_drop, Nat.mul_add] at hrest ⊢
        omega
      · have hrest := ih (some c) 0 (Nat.zero_le _)
        simp only [List.length_cons] at hrest ⊢
        omega

/-- A text without secrets stays as it is. -/
theorem scan_eq_self {prev : Option α} (h : rule.secretsFrom prev 0 text = []) :
    rule.scan mask prev 0 text = text := by
  induction text generalizing prev with
  | nil => rfl
  | cons c rest ih =>
    rw [secretsFrom] at h
    rw [scan]
    split at h
    · cases h
    · rw [ih h]

/-- Masking leaves something of a text. -/
theorem scan_ne_nil {prev : Option α} (hmask : mask ≠ []) (h : text ≠ []) :
    rule.scan mask prev 0 text ≠ [] := by
  cases text with
  | nil => exact absurd rfl h
  | cons c rest =>
    rw [scan]
    split
    · simp [hmask]
    · exact List.cons_ne_nil _ _

/-- A rule that matches nowhere in a text. -/
def Silent (rule : Rule α) (text : List α) : Prop :=
  ∀ prev suffix, suffix <:+ text → rule.find (prev, suffix) = none

/-- A rule that matches nowhere finds no secrets. -/
theorem Silent.secretsFrom (h : rule.Silent text) (prev : Option α) :
    rule.secretsFrom prev 0 text = [] := by
  induction text generalizing prev with
  | nil => rfl
  | cons c rest ih =>
    rw [Rule.secretsFrom, h prev _ List.suffix_rfl]
    exact ih (fun prev suffix hsuffix ↦ h prev suffix (hsuffix.trans (List.suffix_cons c rest))) _

/-- A rule matches nowhere in a text without the characters a secret needs. -/
theorem silent_of_needs {q : α → Bool} (hneeds : rule.kept.Needs q ∨ rule.secret.Needs q)
    (h : ∀ c ∈ text, q c = false) : rule.Silent text := by
  intro prev suffix hsuffix
  have hq : ∀ c ∈ suffix, q c = false := fun c hc ↦ h c (hsuffix.subset hc)
  unfold find
  rw [List.head?_eq_none_iff]
  rcases hneeds with hkept | hsecret
  · rw [Pattern.ends_eq_nil hkept hq, List.flatMap_nil]
  · rw [List.flatMap_eq_nil_iff]
    intro mid hmid
    rw [Pattern.ends_eq_nil hsecret fun d hd ↦
      hq d ((Pattern.suffix_of_mem_ends hmid).subset hd), List.map_nil]

/-- A rule whose secrets need other letters matches nowhere in a text of some letters. -/
theorem silent_of_needsOther [DecidableEq α] {letters : List α}
    (hneeds : rule.kept.needsOther letters || rule.secret.needsOther letters)
    (h : ∀ c ∈ text, c ∈ letters) : rule.Silent text := by
  apply silent_of_needs (q := fun c ↦ decide (c ∉ letters))
  · rcases Bool.or_eq_true_iff.mp hneeds with hkept | hsecret
    · exact .inl (Pattern.needs_of_needsOther hkept)
    · exact .inr (Pattern.needs_of_needsOther hsecret)
  · intro c hc
    rw [decide_eq_false_iff_not, not_not]
    exact h c hc

/-- A rule that leaves no text does not match, whatever the edges are. -/
theorem find_eq_none (h : (rule.kept.rests text).flatMap rule.secret.rests = [])
    (prev : Option α) : rule.find (prev, text) = none := by
  unfold find
  rw [List.head?_eq_none_iff, List.flatMap_eq_nil_iff]
  intro mid hmid
  rw [List.map_eq_nil_iff, List.eq_nil_iff_forall_not_mem]
  intro stop hstop
  have hmem : stop.2 ∈ (rule.kept.rests text).flatMap rule.secret.rests :=
    List.mem_flatMap.mpr ⟨mid.2, Pattern.mem_rests hmid, Pattern.mem_rests hstop⟩
  rw [h] at hmem
  cases hmem

/-- Where no match starts, masking goes on. -/
theorem scan_cons {q : α → Bool} {c : α} (hc : q c = false)
    (hrule : rule.kept.Starts q ∨ rule.kept = .empty ∧ rule.secret.Starts q) {prev : Option α}
    {rest : List α} :
    rule.scan mask prev 0 (c :: rest) = c :: rule.scan mask (some c) 0 rest := by
  have hfind : rule.find (prev, c :: rest) = none := by
    unfold find
    rw [List.head?_eq_none_iff]
    rcases hrule with hkept | ⟨hkept, hsecret⟩
    · rw [Pattern.ends_cons_eq_nil hc hkept, List.flatMap_nil]
    · rw [hkept, Pattern.ends, List.flatMap_singleton, Pattern.ends_cons_eq_nil hc hsecret,
        List.map_nil]
  rw [scan, hfind]

end Rule

/-! ### One rule after the other -/

/-- Mask the secrets each rule finds in what the rules before it left. -/
def maskAll (mask : List α) (prev : Option α) : List (Rule α) → List α → List α
  | [], text => text
  | rule :: rest, text => maskAll mask prev rest (rule.scan mask prev 0 text)

/-- The secrets that are masked. -/
def secretsOf (mask : List α) (prev : Option α) : List (Rule α) → List α → List (List α)
  | [], _ => []
  | rule :: rest, text =>
    rule.secretsFrom prev 0 text ++ secretsOf mask prev rest (rule.scan mask prev 0 text)

variable {mask text : List α} {prev : Option α} {rules : List (Rule α)}

/-- The length of a masked text. -/
theorem length_maskAll :
    (maskAll mask prev rules text).length +
        ((secretsOf mask prev rules text).map List.length).sum =
      text.length + mask.length * (secretsOf mask prev rules text).length := by
  induction rules generalizing text with
  | nil => rfl
  | cons rule rest ih =>
    have hrule := @Rule.length_scan _ rule mask text prev 0 (Nat.zero_le text.length)
    have hrest := @ih (rule.scan mask prev 0 text)
    simp only [maskAll, secretsOf, List.map_append, List.sum_append, List.length_append,
      Nat.mul_add] at hrule hrest ⊢
    omega

theorem maskAll_append {more : List (Rule α)} :
    maskAll mask prev (rules ++ more) text =
      maskAll mask prev more (maskAll mask prev rules text) := by
  induction rules generalizing text with
  | nil => rfl
  | cons rule rest ih => exact ih

/-- A text without secrets stays as it is. -/
theorem maskAll_eq_self (h : secretsOf mask prev rules text = []) :
    maskAll mask prev rules text = text := by
  induction rules with
  | nil => rfl
  | cons rule rest ih =>
    obtain ⟨hrule, hrest⟩ := List.append_eq_nil_iff.mp h
    rw [Rule.scan_eq_self hrule] at hrest
    rw [maskAll, Rule.scan_eq_self hrule]
    exact ih hrest

/-- Masking leaves something of a text. -/
theorem maskAll_ne_nil (hmask : mask ≠ []) (h : text ≠ []) :
    maskAll mask prev rules text ≠ [] := by
  induction rules generalizing text with
  | nil => exact h
  | cons rule rest ih => exact ih (Rule.scan_ne_nil hmask h)

/-- A text in which no rule matches has no secrets. -/
theorem secretsOf_eq_nil_of_silent (h : ∀ rule ∈ rules, rule.Silent text) :
    secretsOf mask prev rules text = [] := by
  induction rules with
  | nil => rfl
  | cons rule rest ih =>
    have hrule := (h rule List.mem_cons_self).secretsFrom prev
    rw [secretsOf, hrule, Rule.scan_eq_self hrule]
    exact ih fun other hother ↦ h other (List.mem_cons_of_mem rule hother)

/-- A text without the characters the secrets need has no secrets. -/
theorem secretsOf_eq_nil {q : α → Bool}
    (hneeds : ∀ rule ∈ rules, rule.kept.Needs q ∨ rule.secret.Needs q)
    (h : ∀ c ∈ text, q c = false) : secretsOf mask prev rules text = [] :=
  secretsOf_eq_nil_of_silent fun rule hrule ↦ Rule.silent_of_needs (hneeds rule hrule) h

/-- Characters no match starts with stay where they are. -/
theorem maskAll_replicate {q : α → Bool} {c : α} (hc : q c = false)
    (hrules : ∀ rule ∈ rules,
      rule.kept.Starts q ∨ rule.kept = .empty ∧ rule.secret.Starts q) (n : Nat) :
    maskAll mask prev rules (List.replicate (n + 1) c ++ text) =
      List.replicate (n + 1) c ++ maskAll mask (some c) rules text := by
  have hcons (prev : Option α) (rest : List α) :
      maskAll mask prev rules (c :: rest) = c :: maskAll mask (some c) rules rest := by
    induction rules generalizing rest with
    | nil => rfl
    | cons rule others ih =>
      rw [maskAll, Rule.scan_cons hc (hrules rule List.mem_cons_self)]
      exact ih (fun other hother ↦ hrules other (List.mem_cons_of_mem rule hother)) _
  induction n generalizing prev with
  | zero => exact hcons prev text
  | succ n ih =>
    rw [List.replicate_succ, List.cons_append, hcons, ih]
    rfl

end CloudWard.Logic
