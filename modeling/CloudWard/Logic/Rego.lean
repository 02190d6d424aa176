import Mathlib.Data.Rat.Defs
import Mathlib.Algebra.Order.Ring.Rat

/-!
# Documents and rules of a policy language

Library `Logic`. The part of Rego that a decision over one JSON document uses. A reference
is undefined where a key is missing, and a test of an undefined term does not hold. The
order compares values of different types by their type, so a comparison with a number
holds of some values that are no numbers. A complete rule is a chain of bodies with values:
the first body that holds gives the value, and the default is left for when none does.
-/

namespace CloudWard.Logic.Rego

/-- A JSON document. A key of an object that is repeated has its first value. -/
inductive Value
  | null
  | bool (b : Bool)
  | num (q : ℚ)
  | str (s : String)
  | arr (items : List Value)
  | obj (fields : List (String × Value))

/-- A term: the value of a reference, or undefined. -/
abbrev Term : Type := Option Value

/-- `t.key`. -/
def get : Term → String → Term
  | some (.obj fields), key => fields.lookup key
  | _, _ => none

/-- The document with one key set, if it is an object. -/
def Value.set (v : Value) (key : String) (x : Value) : Value :=
  match v with
  | .obj fields => .obj ((key, x) :: fields)
  | v => v

/-! ### Tests -/

/-- `is_string`. -/
def isString : Term → Bool
  | some (.str _) => true
  | _ => false

/-- `is_number`. -/
def isNumber : Term → Bool
  | some (.num _) => true
  | _ => false

/-- `is_boolean`. -/
def isBoolean : Term → Bool
  | some (.bool _) => true
  | _ => false

/-- `is_object`. -/
def isObject : Term → Bool
  | some (.obj _) => true
  | _ => false

/-- `t == "s"`. -/
def eqString (t : Term) (s : String) : Bool :=
  match t with
  | some (.str s') => s' = s
  | _ => false

/-- `t != "s"`: it does not hold of an undefined term. -/
def neString (t : Term) (s : String) : Bool := t.isSome && ! eqString t s

/-- `t == b`. -/
def eqBool (t : Term) (b : Bool) : Bool :=
  match t with
  | some (.bool b') => b' = b
  | _ => false

/-- `t == q`. -/
def eqNumber (t : Term) (q : ℚ) : Bool :=
  match t with
  | some (.num p) => p = q
  | _ => false

/-- `t in {...}`, for a set of strings. -/
def inStrings (t : Term) (set : List String) : Bool := set.any (eqString t ·)

/-- `t % 1 == 0`: the remainder is defined for integers only. -/
def isIntegral : Term → Bool
  | some (.num q) => q.den = 1
  | _ => false

/-- The order of a value and a number: null, then booleans, then numbers, then the rest. -/
def Value.lessThan : Value → ℚ → Bool
  | .null, _ => true
  | .bool _, _ => true
  | .num p, q => p < q
  | _, _ => false

/-- The order of a number and a value. -/
def Value.moreThan : Value → ℚ → Bool
  | .null, _ => false
  | .bool _, _ => false
  | .num p, q => q < p
  | _, _ => true

/-- `t >= q`. -/
def ge (t : Term) (q : ℚ) : Bool := t.any fun v ↦ ! v.lessThan q

/-- `t <= q`. -/
def le (t : Term) (q : ℚ) : Bool := t.any fun v ↦ ! v.moreThan q

/-- `t < q`. -/
def lt (t : Term) (q : ℚ) : Bool := t.any fun v ↦ v.lessThan q

/-- `object.keys(t) == {...}`. -/
def keysAre (t : Term) (keys : List String) : Bool :=
  match t with
  | some (.obj fields) => (fields.map (·.1)).all (· ∈ keys) && keys.all (· ∈ fields.map (·.1))
  | _ => false

/-- The number a term is; the built-in functions that use it ask for numbers. -/
def number : Term → ℚ
  | some (.num q) => q
  | _ => 0

/-! ### Complete rules -/

section Rules

variable {α : Type}

/-- The value of a complete rule: that of its first body that holds, else its default. -/
def rule (default : α) : List (Bool × α) → α
  | [] => default
  | (body, value) :: rest => if body then value else rule default rest

/-- What a complete rule yields, read off its bodies one after the other. -/
inductive Yields (default : α) : List (Bool × α) → α → Prop
  | first (value : α) (rest : List (Bool × α)) : Yields default ((true, value) :: rest) value
  | next {value : α} (skipped : α) {rest : List (Bool × α)} (h : Yields default rest value) :
      Yields default ((false, skipped) :: rest) value
  | default : Yields default [] default

/-- A rule yields its value and nothing else. -/
theorem yields_iff {default value : α} {clauses : List (Bool × α)} :
    Yields default clauses value ↔ rule default clauses = value := by
  induction clauses with
  | nil =>
    constructor
    · intro h
      cases h
      rfl
    · rintro rfl
      exact .default
  | cons clause rest ih =>
    obtain ⟨body, value'⟩ := clause
    cases body with
    | true =>
      constructor
      · intro h
        cases h
        rfl
      · rintro rfl
        exact .first value' rest
    | false =>
      constructor
      · intro h
        cases h with
        | next _ h => exact ih.mp h
      · intro h
        exact .next value' (ih.mpr h)

/-- Exactly one value is yielded. -/
theorem existsUnique_yields (default : α) (clauses : List (Bool × α)) :
    ∃! value, Yields default clauses value := by
  refine ⟨rule default clauses, yields_iff.mpr rfl, ?_⟩
  intro value h
  exact (yields_iff.mp h).symm

theorem rule_cons_true {default value : α} {body : Bool} {rest : List (Bool × α)}
    (h : body = true) : rule default ((body, value) :: rest) = value := by
  rw [h]
  rfl

theorem rule_cons_false {default value : α} {body : Bool} {rest : List (Bool × α)}
    (h : body = false) : rule default ((body, value) :: rest) = rule default rest := by
  rw [h]
  rfl

/-- A rule starts with the values of bodies that do not hold. -/
theorem rule_append {default : α} {clauses rest : List (Bool × α)}
    (h : ∀ c ∈ clauses, c.1 = false) :
    rule default (clauses ++ rest) = rule default rest := by
  induction clauses with
  | nil => rfl
  | cons c clauses ih =>
    obtain ⟨body, value⟩ := c
    rw [List.cons_append, rule_cons_false (h _ List.mem_cons_self)]
    exact ih fun c hc ↦ h c (List.mem_cons_of_mem _ hc)

/-- Where some body of the beginning holds, the rest is not reached. -/
theorem rule_append_of_any {default : α} {clauses rest : List (Bool × α)}
    (h : ∃ c ∈ clauses, c.1 = true) :
    rule default (clauses ++ rest) = rule default clauses := by
  induction clauses with
  | nil =>
    obtain ⟨c, hc, -⟩ := h
    cases hc
  | cons c clauses ih =>
    obtain ⟨body, value⟩ := c
    rw [List.cons_append]
    cases body with
    | true => rfl
    | false =>
      rw [rule_cons_false rfl, rule_cons_false rfl]
      apply ih
      obtain ⟨c, hc, htrue⟩ := h
      rcases List.mem_cons.mp hc with rfl | hc
      · cases htrue
      · exact ⟨c, hc, htrue⟩

/-- What all values of a rule and its default have, its value has. -/
theorem rule_mem {default : α} {clauses : List (Bool × α)} {p : α → Prop}
    (hdefault : p default) (hp : ∀ c ∈ clauses, p c.2) : p (rule default clauses) := by
  induction clauses with
  | nil => exact hdefault
  | cons c clauses ih =>
    unfold rule
    split
    · exact hp _ List.mem_cons_self
    · exact ih fun c hc ↦ hp c (List.mem_cons_of_mem _ hc)

end Rules

/-! ### What the tests say -/

section Tests

variable {t : Term} {q : ℚ} {s : String}

theorem isString_iff : isString t ↔ ∃ s, t = some (.str s) := by
  unfold isString
  split <;> simp_all

theorem isNumber_iff : isNumber t ↔ ∃ q, t = some (.num q) := by
  unfold isNumber
  split <;> simp_all

theorem isBoolean_iff : isBoolean t ↔ ∃ b, t = some (.bool b) := by
  unfold isBoolean
  split <;> simp_all

theorem eqString_iff : eqString t s ↔ t = some (.str s) := by
  unfold eqString
  split <;> simp_all

theorem eqBool_iff {b : Bool} : eqBool t b ↔ t = some (.bool b) := by
  unfold eqBool
  split
  · simp
  · next h =>
    constructor
    · intro hb
      cases hb
    · intro ht
      exact (h b ht).elim

theorem inStrings_iff {set : List String} :
    inStrings t set ↔ ∃ s ∈ set, t = some (.str s) := by
  simp only [inStrings, List.any_eq_true, eqString_iff]

theorem inStrings_str {s : String} {set : List String} :
    inStrings (some (.str s)) set ↔ s ∈ set := by
  rw [inStrings_iff]
  constructor
  · rintro ⟨s', hmem, heq⟩
    cases heq
    exact hmem
  · exact fun h ↦ ⟨s, h, rfl⟩

@[simp] theorem ge_num {p : ℚ} : ge (some (.num p)) q = decide (q ≤ p) := by
  simp [ge, Value.lessThan, ← decide_not]

@[simp] theorem le_num {p : ℚ} : le (some (.num p)) q = decide (p ≤ q) := by
  simp [le, Value.moreThan, ← decide_not]

@[simp] theorem lt_num {p : ℚ} : lt (some (.num p)) q = decide (p < q) := by
  simp [lt, Value.lessThan]

/-- A term between two numbers is a number: what is not is below both or above both. -/
theorem isNumber_of_between {p : ℚ} (hge : ge t p) (hle : le t q) : isNumber t := by
  cases t with
  | none => cases hge
  | some v => cases v <;> simp_all [ge, le, Value.lessThan, Value.moreThan, isNumber]

theorem get_obj (fields : List (String × Value)) (key : String) :
    get (some (.obj fields)) key = fields.lookup key := rfl

/-- Setting one key leaves the others. -/
theorem get_set_of_ne (v : Value) {key key' : String} (x : Value) (h : key' ≠ key) :
    get (some (v.set key x)) key' = get (some v) key' := by
  cases v with
  | obj fields =>
    have hne : (key' == key) = false := by simpa using h
    rw [Value.set, get_obj, get_obj, List.lookup_cons, hne]
  | _ => rfl

/-- A key that was set has its value. -/
theorem get_set_self (fields : List (String × Value)) (key : String) (x : Value) :
    get (some ((Value.obj fields).set key x)) key = some x := by
  rw [Value.set, get_obj, List.lookup_cons, beq_self_eq_true]

end Tests

end CloudWard.Logic.Rego
