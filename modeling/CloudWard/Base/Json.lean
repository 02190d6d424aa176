import CloudWard.Base.Python

/-!
# JSON values

The values `json.loads` returns and a `JSON` column keeps. A number that is no integer is its
text, and the entries of an object stand in their order, each key once.
-/

namespace CloudWard

/-- A JSON value. -/
inductive Json
  | null
  | bool (b : Bool)
  | int (n : Int)
  | float (text : String)
  | str (s : String)
  | list (items : List Json)
  | dict (entries : List (String × Json))

namespace Json

/-- `value.get(key)` of an object. -/
def get? : Json → String → Option Json
  | .dict entries, key => entries.lookup key
  | _, _ => none

/-- A value that counts as true. -/
def truthy : Json → Bool
  | .null => false
  | .bool b => b
  | .int n => n ≠ 0
  | .float text => text ∉ ["0.0", "-0.0"]
  | .str s => s ≠ ""
  | .list items => ¬ items.isEmpty
  | .dict entries => ¬ entries.isEmpty

/-- A text, or `null` where there is none. -/
def ofOption : Option String → Json
  | none => .null
  | some s => .str s

/-! ### Texts -/

/-- A number below 65536 by four hexadecimal digits. -/
def hex4 (n : Nat) : List Char := [n / 4096 % 16, n / 256 % 16, n / 16 % 16, n % 16].map Nat.digitChar

/-- A character of a string in `json.dumps`, which leaves printable ASCII as it is. -/
def escape (c : Char) : List Char :=
  match c with
  | '"' => ['\\', '"']
  | '\\' => ['\\', '\\']
  | '\n' => ['\\', 'n']
  | '\r' => ['\\', 'r']
  | '\t' => ['\\', 't']
  | '\u0008' => ['\\', 'b']
  | '\u000c' => ['\\', 'f']
  | c =>
    if ' ' ≤ c ∧ c ≤ '~' then [c]
    else if c.toNat < 0x10000 then '\\' :: 'u' :: hex4 c.toNat
    else
      -- beyond 16 bits a character is written as a surrogate pair
      '\\' :: 'u' :: hex4 (0xd800 + (c.toNat - 0x10000) / 0x400) ++
        '\\' :: 'u' :: hex4 (0xdc00 + (c.toNat - 0x10000) % 0x400)

/-- A string in `json.dumps`. -/
def quoted (s : String) : List Char := '"' :: s.toList.flatMap escape ++ ['"']

mutual

/-- `json.dumps(value)`. -/
def dumps : Json → List Char
  | .null => "null".toList
  | .bool b => (if b then "true" else "false").toList
  | .int n => (toString n).toList
  | .float text => text.toList
  | .str s => quoted s
  | .list items => "[".toList ++ dumpsItems items ++ "]".toList
  | .dict entries => "\x7b".toList ++ dumpsEntries entries ++ "\x7d".toList

/-- The items of a list. -/
def dumpsItems : List Json → List Char
  | [] => []
  | [item] => dumps item
  | item :: rest => dumps item ++ ", ".toList ++ dumpsItems rest

/-- The entries of an object. -/
def dumpsEntries : List (String × Json) → List Char
  | [] => []
  | [(key, value)] => quoted key ++ ": ".toList ++ dumps value
  | (key, value) :: rest =>
    quoted key ++ ": ".toList ++ dumps value ++ ", ".toList ++ dumpsEntries rest

end

end Json
end CloudWard
