import Mathlib.Data.Countable.Basic
import Mathlib.Data.List.Infix
import Mathlib.Logic.Equiv.List
import Mathlib.Tactic.DeriveCountable

/-!
# Documents with shared parts

Library `Logic`. A document is a list of nodes; a part is a scalar or the address of a node, so
that two places may have one node, and a node may contain itself. What a reader sees of a document
are the shapes at its paths; two documents with the same shapes at the same paths are the same data.
-/

namespace CloudWard.Logic

/-- A part of a document: a scalar, or the node at an address. -/
inductive Document.Part (S : Type)
  | scalar (s : S)
  | ref (address : Nat)
deriving DecidableEq, Countable

/-- A node, with the parts that it has. -/
inductive Node (S : Type)
  | seq (items : List (Document.Part S))
  | tuple (items : List (Document.Part S))
  | set (members : Finset S)
  | map (entries : List (S × Document.Part S))
deriving DecidableEq, Countable

/-- Nodes by their address, and the part where a reader starts. -/
structure Document (S : Type) where
  nodes : List (Node S)
  root : Document.Part S
deriving DecidableEq, Countable

/-- A step into a part. -/
inductive Step (S : Type)
  | key (k : S)
  | index (i : Nat)
deriving DecidableEq

/-- What a part is, less the parts that it has. -/
inductive Shape (S : Type)
  | scalar (s : S)
  | seq
  | tuple
  | set (members : Finset S)
  | map
  | missing

variable {S : Type} [DecidableEq S] {d : Document S} {a : Nat} {path rest : List (Step S)}
  {entries entries' : List (S × Document.Part S)}

namespace Document

/-- The part at a step. -/
def child (d : Document S) (part : Document.Part S) (step : Step S) : Option (Document.Part S) :=
  match part with
  | .scalar _ => none
  | .ref a =>
    match d.nodes[a]?, step with
    | some (.seq items), .index i => items[i]?
    | some (.tuple items), .index i => items[i]?
    | some (.map entries), .key k => entries.lookup k
    | _, _ => none

/-- The part at the end of a path that starts at a part. -/
def walk (d : Document S) : Document.Part S → List (Step S) → Option (Document.Part S)
  | part, [] => some part
  | part, step :: rest => (d.child part step).bind fun next ↦ d.walk next rest

/-- The part at the end of a path. -/
def find (d : Document S) (path : List (Step S)) : Option (Document.Part S) := d.walk d.root path

/-- The shape of a part. -/
def shape (d : Document S) : Document.Part S → Shape S
  | .scalar s => .scalar s
  | .ref a =>
    match d.nodes[a]? with
    | some (.seq _) => .seq
    | some (.tuple _) => .tuple
    | some (.set members) => .set members
    | some (.map _) => .map
    | none => .missing

/-- What a reader sees at a path. -/
def view (d : Document S) (path : List (Step S)) : Option (Shape S) := (d.find path).map d.shape

/-- A document with other entries at an address. -/
def put (d : Document S) (a : Nat) (entries : List (S × Document.Part S)) : Document S :=
  { d with nodes := d.nodes.set a (.map entries) }

/-- A path takes a key, of some keys, of the node at an address. -/
def Takes (d : Document S) (a : Nat) (keys : S → Prop) (path : List (Step S)) : Prop :=
  ∃ before k rest, path = before ++ .key k :: rest ∧ keys k ∧ d.find before = some (.ref a)

/-! ### Paths -/

theorem walk_append (part : Document.Part S) (path rest : List (Step S)) :
    d.walk part (path ++ rest) = (d.walk part path).bind fun next ↦ d.walk next rest := by
  induction path generalizing part with
  | nil => rfl
  | cons step path ih =>
    simp only [List.cons_append, walk]
    cases d.child part step with
    | none => rfl
    | some next => exact ih next

theorem find_append (path rest : List (Step S)) :
    d.find (path ++ rest) = (d.find path).bind fun part ↦ d.walk part rest :=
  walk_append d.root path rest

/-- Nothing follows a scalar. -/
theorem find_append_scalar {s : S} (h : d.find path = some (.scalar s)) (hrest : rest ≠ []) :
    d.find (path ++ rest) = none := by
  rw [find_append, h, Option.bind_some]
  cases rest with
  | nil => exact absurd rfl hrest
  | cons step rest => rfl

/-- The part at a key of a node. -/
theorem find_key (hmap : d.nodes[a]? = some (.map entries)) (h : d.find path = some (.ref a))
    (k : S) : d.find (path ++ [.key k]) = entries.lookup k := by
  rw [find_append, h, Option.bind_some]
  simp only [walk, child, hmap, Option.bind_fun_some]

/-! ### Other entries -/

theorem child_put (hmap : d.nodes[a]? = some (.map entries)) {part : Document.Part S}
    {step : Step S}
    (h : ∀ k, step = .key k → part = .ref a → entries'.lookup k = entries.lookup k) :
    (d.put a entries').child part step = d.child part step := by
  cases part with
  | scalar s => rfl
  | ref b =>
    by_cases hb : b = a
    · subst hb
      have hput : (d.put b entries').nodes[b]? = some (.map entries') := by
        obtain ⟨hlt, -⟩ := List.getElem?_eq_some_iff.mp hmap
        exact List.getElem?_set_self hlt
      simp only [child, hput, hmap]
      cases step with
      | key k => exact h k rfl rfl
      | index i => rfl
    · have hput : (d.put a entries').nodes[b]? = d.nodes[b]? := List.getElem?_set_ne (Ne.symm hb)
      simp only [child, hput]

/-- Other entries show only on the paths that take one of the keys they are about. -/
theorem find_put {keys : S → Prop} (hmap : d.nodes[a]? = some (.map entries))
    (hkeys : ∀ k, ¬ keys k → entries'.lookup k = entries.lookup k) (h : ¬ d.Takes a keys path) :
    (d.put a entries').find path = d.find path := by
  induction path using List.reverseRecOn with
  | nil => rfl
  | append_singleton path step ih =>
    have hpath : ¬ d.Takes a keys path := by
      rintro ⟨before, k, rest, rfl, hk, hbefore⟩
      exact h ⟨before, k, rest ++ [step], by simp, hk, hbefore⟩
    rw [find_append, find_append, ih hpath]
    cases hfind : d.find path with
    | none => rfl
    | some part =>
      have hchild : (d.put a entries').child part step = d.child part step := by
        refine child_put hmap fun k hstep hpart ↦ hkeys k fun hk ↦ h ⟨path, k, [], ?_, hk, ?_⟩
        · rw [hstep]
        · rw [hfind, hpart]
      simp only [Option.bind_some, walk, hchild]

omit [DecidableEq S] in
/-- A node with other entries is a node as it was. -/
theorem shape_put (hmap : d.nodes[a]? = some (.map entries)) (part : Document.Part S) :
    (d.put a entries').shape part = d.shape part := by
  cases part with
  | scalar s => rfl
  | ref b =>
    by_cases hb : b = a
    · subst hb
      have hput : (d.put b entries').nodes[b]? = some (.map entries') := by
        obtain ⟨hlt, -⟩ := List.getElem?_eq_some_iff.mp hmap
        exact List.getElem?_set_self hlt
      simp only [shape, hput, hmap]
    · have hput : (d.put a entries').nodes[b]? = d.nodes[b]? := List.getElem?_set_ne (Ne.symm hb)
      simp only [shape, hput]

/-- Other entries show only on the paths that take one of the keys they are about. -/
theorem view_put {keys : S → Prop} (hmap : d.nodes[a]? = some (.map entries))
    (hkeys : ∀ k, ¬ keys k → entries'.lookup k = entries.lookup k) (h : ¬ d.Takes a keys path) :
    (d.put a entries').view path = d.view path := by
  unfold view
  rw [find_put hmap hkeys h]
  exact congrArg (Option.map · _) (funext (shape_put hmap))

/-- A path that takes a key whose new value is a scalar ends there. -/
theorem find_put_taken {s : S} {k : S} (hmap : d.nodes[a]? = some (.map entries))
    (hpath : (d.put a entries').find path = some (.ref a))
    (hk : entries'.lookup k = some (.scalar s)) :
    (d.put a entries').find (path ++ [.key k]) = some (.scalar s) := by
  have hput : (d.put a entries').nodes[a]? = some (.map entries') := by
    obtain ⟨hlt, -⟩ := List.getElem?_eq_some_iff.mp hmap
    exact List.getElem?_set_self hlt
  rw [find_key hput hpath, hk]

end Document

/-! ### Entries -/

/-- `entries[k] = part`. -/
def assign (entries : List (S × Document.Part S)) (k : S) (part : Document.Part S) :
    List (S × Document.Part S) :=
  if entries.any (·.1 = k) then entries.map fun entry ↦ if entry.1 = k then (k, part) else entry
  else entries ++ [(k, part)]

private theorem lookup_map_assign (k j : S) (part : Document.Part S) :
    (entries.map fun entry ↦ if entry.1 = k then (k, part) else entry).lookup j =
      if j = k then (entries.lookup k).map fun _ ↦ part else entries.lookup j := by
  induction entries with
  | nil => simp
  | cons entry rest ih =>
    obtain ⟨key, value⟩ := entry
    rw [List.map_cons]
    by_cases hj : j = k
    · subst hj
      by_cases hkey : key = j
      · simp [hkey]
      · have hne : (j == key) = false := beq_false_of_ne (Ne.symm hkey)
        rw [if_pos rfl] at ih ⊢
        simp only [if_neg hkey, List.lookup_cons, hne, ih]
    · rw [if_neg hj] at ih ⊢
      by_cases hkey : key = k
      · have hne : (j == k) = false := beq_false_of_ne hj
        simp only [hkey, ite_true, List.lookup_cons, hne, ih]
      · simp only [if_neg hkey, List.lookup_cons, ih]

@[simp] theorem lookup_assign (k j : S) (part : Document.Part S) :
    (assign entries k part).lookup j = if j = k then some part else entries.lookup j := by
  unfold assign
  by_cases hany : entries.any (·.1 = k)
  · rw [if_pos hany, lookup_map_assign]
    have hsome : (entries.lookup k).isSome := by
      rw [List.any_eq_true] at hany
      obtain ⟨entry, hmem, hentry⟩ := hany
      rw [List.lookup_isSome_iff]
      exact ⟨entry, hmem, by simpa using (of_decide_eq_true hentry).symm⟩
    obtain ⟨old, hold⟩ := Option.isSome_iff_exists.mp hsome
    rw [hold, Option.map_some]
  · rw [if_neg hany]
    have hnone : entries.lookup k = none := by
      rw [List.lookup_eq_none_iff]
      intro entry hentry
      simp only [List.any_eq_true, not_exists, not_and, decide_eq_true_eq] at hany
      simpa using Ne.symm (hany entry hentry)
    rw [List.lookup_append]
    by_cases hj : j = k
    · subst hj
      simp [hnone]
    · have hne : (j == k) = false := beq_false_of_ne hj
      simp [List.lookup_cons, hj, hne]

/-! ### Lists for tuples -/

/-- A shape with a list for a tuple. -/
def Shape.listed : Shape S → Shape S
  | .tuple => .seq
  | shape => shape

/-- A node with a list for a tuple. -/
def Node.listed : Node S → Node S
  | .tuple items => .seq items
  | node => node

/-- A document with lists for tuples. -/
def Document.listed (d : Document S) : Document S := { d with nodes := d.nodes.map Node.listed }

private theorem child_listed (part : Document.Part S) (step : Step S) :
    d.listed.child part step = d.child part step := by
  cases part with
  | scalar s => rfl
  | ref a =>
    simp only [Document.child, Document.listed, List.getElem?_map]
    cases d.nodes[a]? with
    | none => rfl
    | some node => cases node <;> cases step <;> rfl

private theorem walk_listed (part : Document.Part S) (path : List (Step S)) :
    d.listed.walk part path = d.walk part path := by
  induction path generalizing part with
  | nil => rfl
  | cons step path ih =>
    simp only [Document.walk, child_listed]
    exact congrArg _ (funext ih)

/-- Lists for tuples show where there were tuples. -/
theorem Document.view_listed (path : List (Step S)) :
    d.listed.view path = (d.view path).map Shape.listed := by
  unfold Document.view Document.find
  rw [walk_listed, Option.map_map]
  refine congrArg (Option.map · _) (funext fun part ↦ ?_)
  cases part with
  | scalar s => rfl
  | ref a =>
    simp only [Function.comp_apply, Document.shape, Document.listed, List.getElem?_map]
    cases d.nodes[a]? with
    | none => rfl
    | some node => cases node <;> rfl

end CloudWard.Logic
