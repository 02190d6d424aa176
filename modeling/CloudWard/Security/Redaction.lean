import CloudWard.Base.Json
import CloudWard.Logic.Pattern
import Mathlib.Data.List.Infix

/-!
# Redaction

`security/redaction.py`, which `app.logging.redact` is, and `redact_security_value` of
`security/normalization.py:22`. The patterns are those of the source, written as Python's `re`
reads them: `\s`, `\b` and, without regard to case, the letters beyond ASCII that match ASCII
ones.

`[REDACTED]` has ten characters, and a secret may have fewer, so redaction can lengthen a text.
-/

namespace CloudWard.Security.Redaction

open CloudWard.Logic Pattern Python

/-! ### Python's patterns -/

/-- The ASCII letter a character matches without regard to case. -/
def fold (c : Char) : Char :=
  if c = '\u0130' ∨ c = '\u0131' then 'i'
  else if c = '\u017f' then 's'
  else if c = '\u212a' then 'k'
  else c.toLower

/-- A class without regard to case. -/
def ignoreCase (p : Char → Bool) (c : Char) : Bool := p c || p (fold c)

/-- A text without regard to case; the text is in lower case. -/
def literal (text : String) : Pattern Char :=
  .all (text.toList.map fun letter ↦ .one (ignoreCase (· == letter)))

/-- A text as it is. -/
def exactly (text : String) : Pattern Char :=
  .all (text.toList.map fun letter ↦ .one (· == letter))

/-- `\b`. -/
def wordEdge (u : Unicode) : Pattern Char := .edge fun c ↦ isAlnum u c || c == '_'

/-- `\s*`. -/
def spaces : Pattern Char := .star isSpace

/-- `p{n,}`. -/
def atLeast (n : Nat) (p : Char → Bool) : Pattern Char := .seq (times p n) (.star p)

/-- `[A-Za-z0-9]` and some more characters. -/
def alnumOr (more : String) (c : Char) : Bool := c.isAlphanum || c ∈ more.toList

/-- A character that is neither whitespace nor one of some others. -/
def noneOf (others : String) (c : Char) : Bool := !(isSpace c || c ∈ others.toList)

/-- A rule that keeps nothing of its match. -/
def whole (parts : List (Pattern Char)) : Rule Char := { secret := .all parts }

/-- `(?:password|…)\s*[=:]\s*[^\s,;]+`. -/
def assignment (names : List (Pattern Char)) : List (Pattern Char) :=
  [.any names, spaces, .one fun c ↦ c == '=' || c == ':', spaces, plus (noneOf ",;")]

/-- `api[_-]?key`. -/
def apiKey : Pattern Char :=
  .all [literal "api", opt (.one fun c ↦ c == '_' || c == '-'), literal "key"]

/-- `(?:postgres(?:ql)?|mysql|…)://[^\s]+`. -/
def databaseUrl (schemes : List (Pattern Char)) : List (Pattern Char) :=
  [.any schemes, exactly "://", plus (noneOf "")]

/-- `postgres(?:ql)?`. -/
def postgres : Pattern Char := .seq (literal "postgres") (opt (literal "ql"))

/-- `mongodb(?:\+srv)?`. -/
def mongodb : Pattern Char := .seq (literal "mongodb") (opt (literal "+srv"))

/-! ### `security/redaction.py` -/

/-- `(?:RSA |EC |OPENSSH )?PRIVATE KEY-----`. -/
def keyFrame (side : String) : List (Pattern Char) :=
  [literal side, opt (.any [literal "rsa ", literal "ec ", literal "openssh "]),
    literal "private key-----"]

/-- `STRING_PATTERNS`, `security/redaction.py:29`. -/
def stringRules (u : Unicode) : List (Rule Char) :=
  [{ kept := .all [literal "authorization", spaces, .one fun c ↦ c == ':' || c == '=', spaces,
        .any [literal "bearer", literal "basic"], plus isSpace]
     secret := plus (noneOf ",;") },
    whole [wordEdge u, literal "bearer", plus isSpace, atLeast 8 (ignoreCase (alnumOr "._~+/=-"))],
    whole [wordEdge u, .any [literal "ghp", literal "gho", literal "ghu", literal "ghs",
      literal "ghr"], exactly "_", atLeast 8 (ignoreCase (alnumOr "_"))],
    whole [wordEdge u, literal "github_pat_", atLeast 8 (ignoreCase (alnumOr "_"))],
    whole [wordEdge u, literal "sk-", opt (literal "or-v1-"),
      atLeast 8 (ignoreCase (alnumOr "_-"))],
    whole [wordEdge u, .any [exactly "AKIA", exactly "ASIA"],
      times (fun c ↦ c.isDigit || c.isUpper) 12, upTo (fun c ↦ c.isDigit || c.isUpper) 8,
      wordEdge u],
    whole [wordEdge u, exactly "eyJ", atLeast 8 (alnumOr "_-"), exactly ".",
      atLeast 8 (alnumOr "_-"), exactly ".", atLeast 8 (alnumOr "_-"), wordEdge u],
    whole (keyFrame "-----begin " ++ [.lazy fun _ ↦ true] ++ keyFrame "-----end "),
    whole (wordEdge u :: databaseUrl [postgres, literal "mysql", literal "mariadb", mongodb,
      literal "redis"]),
    whole [wordEdge u, .any [.seq (literal "http") (opt (literal "s")),
      .seq (literal "amqp") (opt (literal "s")), literal "kafka"], exactly "://",
      plus (noneOf "/@:"), exactly ":", plus (noneOf "/@"), exactly "@", plus (noneOf "")],
    whole (wordEdge u :: assignment [literal "password", literal "passwd", literal "pwd", apiKey,
      literal "secret", literal "token"]),
    whole [wordEdge u, .any [literal "cookie", literal "set-cookie"], spaces, exactly ":", spaces,
      plus fun c ↦ !(c == '\r' || c == '\n')]]

/-- `REDACTED`. -/
def mask : List Char := "[REDACTED]".toList

/-- A text with the secrets masked that some rules find. -/
def masked (rules : List (Rule Char)) (text : String) : String :=
  String.ofList (maskAll mask none rules text.toList)

/-- `redact_text`, `security/redaction.py:53`. -/
def redactText (u : Unicode) (value : String) : String := masked (stringRules u) value

/-- `SENSITIVE_KEY_PARTS`, `security/redaction.py:12`. -/
def sensitiveKeyParts : List String :=
  ["authorization", "api_key", "apikey", "cookie", "credential", "database_url", "private_key",
    "password", "secret", "session", "token", "webhook_url"]

/-- `key.lower()`, as far as ASCII letters come of it. -/
def lower (key : String) : List Char :=
  key.toList.flatMap fun c ↦
    if c = '\u0130' then ['i', '\u0307'] else if c = '\u212a' then ['k'] else [c.toLower]

/-- `_sensitive_key`, `security/redaction.py:48`. -/
def sensitiveKey (key : String) : Bool :=
  let normalized := (lower key).map fun c ↦ if c = '-' ∨ c = ' ' then '_' else c
  sensitiveKeyParts.any fun part ↦ normalized.tails.any part.toList.isPrefixOf

/-- `redact_untrusted`, `security/redaction.py:63`, with the depth that is left. -/
def redactUntrusted (u : Unicode) : Nat → Json → Json
  | 0, _ => .str "[TRUNCATED_DEPTH]"
  | _ + 1, .str s => .str (redactText u s)
  | depth + 1, .dict entries => .dict (entries.map fun (key, item) ↦
      (key, if sensitiveKey key then .str "[REDACTED]" else redactUntrusted u depth item))
  | depth + 1, .list items => .list (items.map (redactUntrusted u depth))
  | _ + 1, value => value

/-- `redact`, `logging.py:24`; `MAX_REDACTION_DEPTH` is 16. -/
def redact (u : Unicode) (value : Json) : Json := redactUntrusted u 16 value

/-! ### `security/normalization.py` -/

/-- `SECRET_PATTERNS`, `security/normalization.py:14`. -/
def secretRules (u : Unicode) : List (Rule Char) :=
  [whole [wordEdge u, .any [literal "bearer", literal "basic"], plus isSpace,
      plus (ignoreCase (alnumOr "._~+/=-"))],
    whole (assignment [literal "password", literal "passwd", literal "token", literal "secret",
      apiKey]),
    whole (wordEdge u :: databaseUrl [postgres, literal "mysql", literal "redis", mongodb]),
    whole [exactly "-----BEGIN ", .star fun c ↦ c.isUpper || c == ' ', exactly "PRIVATE KEY-----",
      .lazy fun _ ↦ true, exactly "-----END ", .star fun c ↦ c.isUpper || c == ' ',
      exactly "PRIVATE KEY-----"]]

/-- `redact_security_value`, `security/normalization.py:22`. No redacted value is deeper than
the depth it starts with. -/
def redactSecurityValue (u : Unicode) : Nat → Json → Json
  | 0, value => redact u value
  | depth + 1, value =>
    match redact u value with
    | .str s => .str (masked (secretRules u) s)
    | .dict entries => .dict (entries.map fun (key, item) ↦ (key, redactSecurityValue u depth item))
    | .list items => .list (items.map (redactSecurityValue u depth))
    | redacted => redacted

/-! ### The length of a redacted text -/

/-- The secrets some rules find in a text. -/
def secretsIn (rules : List (Rule Char)) (text : String) : List (List Char) :=
  secretsOf mask none rules text.toList

/-- A text within a limit even when ten characters stand for each of its secrets. -/
def Room (limit : Nat) (rules : List (Rule Char)) (text : String) : Prop :=
  text.length + 10 * (secretsIn rules text).length ≤
    limit + ((secretsIn rules text).map List.length).sum

instance (limit : Nat) (rules : List (Rule Char)) (text : String) :
    Decidable (Room limit rules text) := Nat.decLe _ _

/-- A redacted text is within a limit where the text has room for the masks. -/
theorem length_masked_le_iff {limit : Nat} {rules : List (Rule Char)} {text : String} :
    (masked rules text).length ≤ limit ↔ Room limit rules text := by
  have hlength : (masked rules text).length + ((secretsIn rules text).map List.length).sum =
      text.length + 10 * (secretsIn rules text).length := by
    unfold masked
    rw [String.length_ofList, ← String.length_toList]
    exact length_maskAll
  unfold Room
  omega

/-- Redaction leaves something of a text. -/
theorem one_le_length_masked {rules : List (Rule Char)} {text : String} (h : 1 ≤ text.length) :
    1 ≤ (masked rules text).length := by
  unfold masked
  rw [String.length_ofList, Nat.one_le_iff_ne_zero, Ne, List.length_eq_zero_iff]
  apply maskAll_ne_nil (by decide)
  intro hnil
  rw [← String.length_toList, hnil] at h
  exact absurd h (by decide)

theorem masked_append {rules more : List (Rule Char)} {text : String} :
    masked (rules ++ more) text = masked more (masked rules text) := by
  unfold masked
  rw [maskAll_append, String.toList_ofList]

/-! ### Texts without secrets -/

/-- The characters of identifiers and protocol names. -/
def plain (c : Char) : Bool := c.isDigit || ('a' ≤ c && c ≤ 'f') || c ∈ ['-', 't', 'p', 'u']

/-- Every secret has a character that is not plain. -/
abbrev Marked (p : Pattern Char) : Prop := p.Needs fun c ↦ !plain c

private theorem toNat_le_of_plain {c : Char} (h : plain c) :
    c.toNat = 45 ∨ (48 ≤ c.toNat ∧ c.toNat ≤ 57) ∨ (97 ≤ c.toNat ∧ c.toNat ≤ 117) := by
  simp only [plain, Char.isDigit, Bool.or_eq_true, Bool.and_eq_true, decide_eq_true_iff,
    List.mem_cons, List.not_mem_nil, or_false] at h
  rcases h with (hdigit | hletter) | rfl | rfl | rfl | rfl
  · have hge : 48 ≤ c.toNat := UInt32.le_iff_toNat_le.mp hdigit.1
    have hle : c.toNat ≤ 57 := UInt32.le_iff_toNat_le.mp hdigit.2
    omega
  · have hge : 97 ≤ c.toNat := UInt32.le_iff_toNat_le.mp hletter.1
    have hle : c.toNat ≤ 102 := UInt32.le_iff_toNat_le.mp hletter.2
    omega
  · exact .inl rfl
  · exact .inr (.inr (by decide))
  · exact .inr (.inr (by decide))
  · exact .inr (.inr (by decide))

private theorem fold_of_plain {c : Char} (h : plain c) : fold c = c := by
  have hnat := toNat_le_of_plain h
  have hne (d : Char) (hd : 200 ≤ d.toNat) : c ≠ d := by
    rintro rfl
    omega
  unfold fold
  rw [if_neg, if_neg (hne '\u017f' (by decide)), if_neg (hne '\u212a' (by decide))]
  · unfold Char.toLower
    rw [dif_neg]
    rintro ⟨hge, hle⟩
    have hge : 65 ≤ c.toNat := UInt32.le_iff_toNat_le.mp hge
    have hle : c.toNat ≤ 90 := UInt32.le_iff_toNat_le.mp hle
    omega
  · rintro (hc | hc)
    · exact hne '\u0130' (by decide) hc
    · exact hne '\u0131' (by decide) hc

private theorem marked_of_not_plain {p : Char → Bool} (h : ∀ c, plain c → p c = false) :
    Marked (.one p) := by
  intro c hc
  show (!plain c) = true
  rw [Bool.not_eq_true', ← Bool.not_eq_true]
  intro hplain
  rw [h c hplain] at hc
  cases hc

private theorem marked_exactly (text : String) (letter : Char) (hmem : letter ∈ text.toList)
    (hletter : plain letter = false) : Marked (exactly text) := by
  apply Pattern.needs_all _ (List.mem_map.mpr ⟨letter, hmem, rfl⟩)
  apply marked_of_not_plain
  rintro c hc
  rw [beq_eq_false_iff_ne]
  rintro rfl
  rw [hletter] at hc
  cases hc

private theorem marked_literal (text : String) (letter : Char) (hmem : letter ∈ text.toList)
    (hletter : plain letter = false) : Marked (literal text) := by
  apply Pattern.needs_all _ (List.mem_map.mpr ⟨letter, hmem, rfl⟩)
  apply marked_of_not_plain
  intro c hc
  have hne : c ≠ letter := by
    rintro rfl
    rw [hletter] at hc
    cases hc
  simp only [ignoreCase, fold_of_plain hc, Bool.or_self, beq_eq_false_iff_ne]
  exact hne

private theorem marked_spaces : Marked (plus isSpace) := by
  apply Or.inl
  apply marked_of_not_plain
  intro c hc
  have hnat := toNat_le_of_plain hc
  simp only [isSpace, List.mem_cons, List.not_mem_nil, or_false, decide_eq_false_iff_not]
  omega

private theorem marked_sign : Marked (.one fun c ↦ c == '=' || c == ':') := by
  apply marked_of_not_plain
  intro c hc
  have hnat := toNat_le_of_plain hc
  rw [Bool.or_eq_false_iff, beq_eq_false_iff_ne, beq_eq_false_iff_ne]
  constructor <;> rintro rfl <;> revert hnat <;> decide

private theorem marked_whole {parts : List (Pattern Char)} {p : Pattern Char} (h : Marked p)
    (hmem : p ∈ parts) : Marked (whole parts).kept ∨ Marked (whole parts).secret :=
  .inr (Pattern.needs_all h hmem)

private theorem marked_assignment {names : List (Pattern Char)} :
    (Pattern.one fun c ↦ c == '=' || c == ':') ∈ assignment names := by
  simp [assignment]

theorem marked_stringRules (u : Unicode) :
    ∀ rule ∈ stringRules u, Marked rule.kept ∨ Marked rule.secret := by
  intro rule h
  simp only [stringRules, List.mem_cons, List.not_mem_nil, or_false] at h
  rcases h with rfl | rfl | rfl | rfl | rfl | rfl | rfl | rfl | rfl | rfl | rfl | rfl
  · exact .inl (Pattern.needs_all marked_spaces (by simp))
  · exact marked_whole marked_spaces (by simp)
  · exact marked_whole (marked_exactly "_" '_' (by decide) (by decide)) (by simp)
  · exact marked_whole (marked_literal "github_pat_" '_' (by decide) (by decide)) (by simp)
  · exact marked_whole (marked_literal "sk-" 's' (by decide) (by decide)) (by simp)
  · have hakia : Marked (.any [exactly "AKIA", exactly "ASIA"]) :=
      ⟨marked_exactly "AKIA" 'A' (by decide) (by decide),
        marked_exactly "ASIA" 'A' (by decide) (by decide), fun _ h ↦ absurd h Bool.false_ne_true⟩
    exact marked_whole hakia (by simp)
  · exact marked_whole (marked_exactly "eyJ" 'y' (by decide) (by decide)) (by simp)
  · exact marked_whole (marked_literal "private key-----" ' ' (by decide) (by decide))
      (by simp [keyFrame])
  · exact marked_whole (marked_exactly "://" ':' (by decide) (by decide)) (by simp [databaseUrl])
  · exact marked_whole (marked_exactly "://" ':' (by decide) (by decide)) (by simp)
  · exact marked_whole marked_sign (List.mem_cons_of_mem _ marked_assignment)
  · exact marked_whole (marked_exactly ":" ':' (by decide) (by decide)) (by simp)

theorem marked_secretRules (u : Unicode) :
    ∀ rule ∈ secretRules u, Marked rule.kept ∨ Marked rule.secret := by
  intro rule h
  simp only [secretRules, List.mem_cons, List.not_mem_nil, or_false] at h
  rcases h with rfl | rfl | rfl | rfl
  · exact marked_whole marked_spaces (by simp)
  · exact marked_whole marked_sign marked_assignment
  · exact marked_whole (marked_exactly "://" ':' (by decide) (by decide)) (by simp [databaseUrl])
  · exact marked_whole (marked_exactly "-----BEGIN " ' ' (by decide) (by decide)) (by simp)

/-- Rules that mask nothing in a plain text. -/
theorem masked_of_plain {rules : List (Rule Char)}
    (hrules : ∀ rule ∈ rules, Marked rule.kept ∨ Marked rule.secret) {text : String}
    (h : ∀ c ∈ text.toList, plain c) : masked rules text = text := by
  unfold masked
  rw [maskAll_eq_self, String.ofList_toList]
  apply secretsOf_eq_nil hrules
  intro c hc
  rw [h c hc]
  rfl

/-! ### Where no secret starts -/

/-- The letters secrets start with. -/
def starters : List Char := ['a', 'b', 'c', 'e', 'g', 'h', 'k', 'm', 'p', 'r', 's', 't', '-']

/-- A character that a secret may start with. -/
def starter (c : Char) : Bool := fold c ∈ starters

/-- Every match of a rule starts with a starter. -/
abbrev Started (rule : Rule Char) : Prop :=
  rule.kept.Starts starter ∨ rule.kept = .empty ∧ rule.secret.Starts starter

theorem starts_literal (text : String) (letter : Char) (rest : List Char)
    (htext : text.toList = letter :: rest) (hletter : letter ∈ starters)
    (hfold : fold letter = letter) : (literal text).Starts starter := by
  unfold literal
  rw [htext]
  intro c hc
  simp only [ignoreCase, Bool.or_eq_true, beq_iff_eq] at hc
  unfold starter
  rw [decide_eq_true_iff]
  rcases hc with rfl | hc
  · rwa [hfold]
  · rwa [hc]

theorem starts_exactly (text : String) (letter : Char) (rest : List Char)
    (htext : text.toList = letter :: rest) (hletter : starter letter) :
    (exactly text).Starts starter := by
  unfold exactly
  rw [htext]
  intro c hc
  rw [beq_iff_eq.mp hc]
  exact hletter

theorem starts_password : (literal "password").Starts starter :=
  starts_literal "password" 'p' _ rfl (by decide) (by decide)

theorem starts_passwd : (literal "passwd").Starts starter :=
  starts_literal "passwd" 'p' _ rfl (by decide) (by decide)

theorem starts_token : (literal "token").Starts starter :=
  starts_literal "token" 't' _ rfl (by decide) (by decide)

theorem starts_secret : (literal "secret").Starts starter :=
  starts_literal "secret" 's' _ rfl (by decide) (by decide)

theorem starts_apiKey : apiKey.Starts starter :=
  starts_literal "api" 'a' _ rfl (by decide) (by decide)

theorem starts_postgres : postgres.Starts starter :=
  starts_literal "postgres" 'p' _ rfl (by decide) (by decide)

theorem starts_mysql : (literal "mysql").Starts starter :=
  starts_literal "mysql" 'm' _ rfl (by decide) (by decide)

theorem starts_mongodb : mongodb.Starts starter :=
  starts_literal "mongodb" 'm' _ rfl (by decide) (by decide)

theorem starts_redis : (literal "redis").Starts starter :=
  starts_literal "redis" 'r' _ rfl (by decide) (by decide)

theorem starts_bearer : (literal "bearer").Starts starter :=
  starts_literal "bearer" 'b' _ rfl (by decide) (by decide)

theorem started_stringRules (u : Unicode) : ∀ rule ∈ stringRules u, Started rule := by
  intro rule h
  simp only [stringRules, List.mem_cons, List.not_mem_nil, or_false] at h
  rcases h with rfl | rfl | rfl | rfl | rfl | rfl | rfl | rfl | rfl | rfl | rfl | rfl
  · exact .inl (starts_literal "authorization" 'a' _ rfl (by decide) (by decide))
  · exact .inr ⟨rfl, starts_bearer⟩
  · refine .inr ⟨rfl, Pattern.starts_any ?_⟩
    simp only [List.forall_mem_cons, List.not_mem_nil, false_implies, implies_true, and_true]
    exact ⟨starts_literal "ghp" 'g' _ rfl (by decide) (by decide),
      starts_literal "gho" 'g' _ rfl (by decide) (by decide),
      starts_literal "ghu" 'g' _ rfl (by decide) (by decide),
      starts_literal "ghs" 'g' _ rfl (by decide) (by decide),
      starts_literal "ghr" 'g' _ rfl (by decide) (by decide)⟩
  · exact .inr ⟨rfl, starts_literal "github_pat_" 'g' _ rfl (by decide) (by decide)⟩
  · exact .inr ⟨rfl, starts_literal "sk-" 's' _ rfl (by decide) (by decide)⟩
  · refine .inr ⟨rfl, Pattern.starts_any ?_⟩
    simp only [List.forall_mem_cons, List.not_mem_nil, false_implies, implies_true, and_true]
    exact ⟨starts_exactly "AKIA" 'A' _ rfl (by decide), starts_exactly "ASIA" 'A' _ rfl (by decide)⟩
  · exact .inr ⟨rfl, starts_exactly "eyJ" 'e' _ rfl (by decide)⟩
  · exact .inr ⟨rfl, starts_literal "-----begin " '-' _ rfl (by decide) (by decide)⟩
  · refine .inr ⟨rfl, Pattern.starts_any ?_⟩
    simp only [List.forall_mem_cons, List.not_mem_nil, false_implies, implies_true, and_true]
    exact ⟨starts_postgres, starts_mysql,
      starts_literal "mariadb" 'm' _ rfl (by decide) (by decide), starts_mongodb, starts_redis⟩
  · refine .inr ⟨rfl, Pattern.starts_any ?_⟩
    simp only [List.forall_mem_cons, List.not_mem_nil, false_implies, implies_true, and_true]
    exact ⟨starts_literal "http" 'h' _ rfl (by decide) (by decide),
      starts_literal "amqp" 'a' _ rfl (by decide) (by decide),
      starts_literal "kafka" 'k' _ rfl (by decide) (by decide)⟩
  · refine .inr ⟨rfl, Pattern.starts_any ?_⟩
    simp only [List.forall_mem_cons, List.not_mem_nil, false_implies, implies_true, and_true]
    exact ⟨starts_password, starts_passwd,
      starts_literal "pwd" 'p' _ rfl (by decide) (by decide), starts_apiKey, starts_secret,
      starts_token⟩
  · refine .inr ⟨rfl, Pattern.starts_any ?_⟩
    simp only [List.forall_mem_cons, List.not_mem_nil, false_implies, implies_true, and_true]
    exact ⟨starts_literal "cookie" 'c' _ rfl (by decide) (by decide),
      starts_literal "set-cookie" 's' _ rfl (by decide) (by decide)⟩

theorem started_secretRules (u : Unicode) : ∀ rule ∈ secretRules u, Started rule := by
  intro rule h
  simp only [secretRules, List.mem_cons, List.not_mem_nil, or_false] at h
  rcases h with rfl | rfl | rfl | rfl
  · refine .inr ⟨rfl, Pattern.starts_any ?_⟩
    simp only [List.forall_mem_cons, List.not_mem_nil, false_implies, implies_true, and_true]
    exact ⟨starts_bearer, starts_literal "basic" 'b' _ rfl (by decide) (by decide)⟩
  · refine .inr ⟨rfl, Pattern.starts_any ?_⟩
    simp only [List.forall_mem_cons, List.not_mem_nil, false_implies, implies_true, and_true]
    exact ⟨starts_password, starts_passwd, starts_token, starts_secret, starts_apiKey⟩
  · refine .inr ⟨rfl, Pattern.starts_any ?_⟩
    simp only [List.forall_mem_cons, List.not_mem_nil, false_implies, implies_true, and_true]
    exact ⟨starts_postgres, starts_mysql, starts_redis, starts_mongodb⟩
  · exact .inr ⟨rfl, starts_exactly "-----BEGIN " '-' _ rfl (by decide)⟩

/-! ### Texts no rule matches in -/

/-- A text stays as it is if no rule matches in it. -/
theorem redactText_of_silent {u : Unicode} {text : String}
    (h : ∀ rule ∈ stringRules u, rule.Silent text.toList) : redactText u text = text := by
  unfold redactText masked
  rw [maskAll_eq_self (secretsOf_eq_nil_of_silent h), String.ofList_toList]

/-- What the matches of some rules leave of a text, if every place were an edge. -/
def restsOf (rules : List (Rule Char)) (text : String) : List (List Char) :=
  rules.flatMap fun rule ↦ text.toList.tails.flatMap fun suffix ↦
    (rule.kept.rests suffix).flatMap rule.secret.rests

/-- Nothing is known of a character beyond ASCII. -/
def bareTable : Unicode := ⟨fun _ ↦ false, fun _ ↦ none⟩

/-- A text in which no rule matches, whatever Unicode says of other characters, stays as it is. -/
theorem redactText_of_restsOf (u : Unicode) {text : String}
    (h : restsOf (stringRules bareTable) text = []) : redactText u text = text := by
  have hrests : restsOf (stringRules u) text = [] := h
  apply redactText_of_silent
  intro rule hrule prev suffix hsuffix
  have htails := List.flatMap_eq_nil_iff.mp hrests rule hrule
  exact Rule.find_eq_none
    (List.flatMap_eq_nil_iff.mp htails suffix ((List.mem_tails _ _).mpr hsuffix)) prev

/-- An object none of whose values is redacted for its key. -/
theorem redactUntrusted_dict {u : Unicode} {entries : List (String × Json)}
    (h : ∀ entry ∈ entries, sensitiveKey entry.1 = false) (depth : Nat) :
    redactUntrusted u (depth + 1) (.dict entries) =
      .dict (entries.map fun entry ↦ (entry.1, redactUntrusted u depth entry.2)) := by
  rw [redactUntrusted]
  refine congrArg Json.dict (List.map_congr_left fun entry hentry ↦ ?_)
  dsimp only
  rw [h entry hentry, if_neg Bool.false_ne_true]

end CloudWard.Security.Redaction
