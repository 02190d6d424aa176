import CloudWard.Base.Errors
import CloudWard.Base.Json
import CloudWard.Logic.Documents
import CloudWard.Logic.Exec

/-!
# The values of the GitOps repository

What `patch_gitops_values` of `finops/service.py:320` reads of a values file and of a
recommendation. The YAML library and the arithmetic of floats are given.
-/

namespace CloudWard.Finops

open CloudWard.Logic Python

/-! ### YAML -/

instance countableUInt8 : Countable UInt8 := ⟨⟨UInt8.toNat, fun _ _ h ↦ UInt8.toNat_inj.mp h⟩⟩

instance countableString : Countable String :=
  have : Countable Char := ⟨⟨Char.toNat, fun _ _ h ↦ Char.toNat_inj.mp h⟩⟩
  Function.Injective.countable (f := String.toList) fun _ _ h ↦ String.toList_injective h

/-- A value without parts that `yaml.safe_load` makes. -/
inductive Scalar
  | null
  | bool (b : Bool)
  | int (n : Int)
  | float (text : String)
  | str (s : String)
  | bytes (data : List UInt8)
  | time (text : String)
deriving DecidableEq, Countable

/-- The values of a file. -/
abbrev Values := Document Scalar

/-- How `yaml.safe_load` fails: with a `YAMLError`, or with another exception. -/
inductive LoadFailure
  | yamlError
  | other

/-- `yaml.safe_load` of a text and of the bytes of a file, and `yaml.safe_dump`. -/
structure Yaml where
  safeLoad : String → Except LoadFailure Values
  safeLoadBytes : List UInt8 → Except LoadFailure Values
  safeDump : Values → String

/-! ### Numbers -/

/-- How `round` fails. -/
inductive RoundFailure
  | value
  | overflow

/-- What Python computes with floats. -/
structure Floats (F : Type) where
  /-- `float(n)`, where it does not overflow. -/
  ofInt : Int → Option F
  /-- `float(text)`, where the text is a number. -/
  ofText : String → Option F
  ofBytes : List UInt8 → Option F
  /-- The float that is written so. -/
  ofRepr : String → F
  /-- `x / 1000`. -/
  milli : F → F
  /-- `abs(x - y) > 0.001`. -/
  far : F → F → Bool
  /-- `int(x)`. -/
  trunc : F → Option Int
  /-- `round(x * n)`. -/
  scale : F → Nat → Except RoundFailure Int
  /-- `math.ceil(x * 1000)`. -/
  ceilMilli : F → Option Int
  /-- `math.ceil(n / (1024 * 1024))`. -/
  ceilMebi : Int → Option Int

variable {F : Type} (floats : Floats F) (u : Unicode) (yaml : Yaml)

/-- The value, or an exception. -/
def orError {α : Type} (e : Exc) : Option α → Except Exc α
  | some a => .ok a
  | none => .error e

/-- The value, or an exception that no caller catches. -/
def orRaise {α : Type} : Option α → Except Exc α := orError .validation

/-- `float(value)` of a JSON value. -/
def floatOf : Json → Option F
  | .bool b => floats.ofInt (if b then 1 else 0)
  | .int n => floats.ofInt n
  | .float text => some (floats.ofRepr text)
  | .str s => floats.ofText s
  | _ => none

/-- `int(value)` of a JSON value. -/
def intOf : Json → Option Int
  | .bool b => some (if b then 1 else 0)
  | .int n => some n
  | .float text => floats.trunc (floats.ofRepr text)
  | .str s => Python.int u s
  | _ => none

/-- `float(requests["cpu_cores"])`. -/
def cpuCores (requests : Json) : Except Exc F :=
  orRaise ((requests.get? "cpu_cores").bind (floatOf floats))

/-- `int(requests["memory_bytes"])`. -/
def memoryBytes (requests : Json) : Except Exc Int :=
  orRaise ((requests.get? "memory_bytes").bind (intOf floats u))

/-- The CPU request of a recommendation, `finops/service.py:375`. -/
def cpuText (requests : Json) : Except Exc String := do
  let cores ← cpuCores floats requests
  let millis ← orRaise (floats.ceilMilli cores)
  return toString millis ++ "m"

/-- The memory request of a recommendation, `finops/service.py:376`. -/
def memoryText (requests : Json) : Except Exc String := do
  let bytes ← memoryBytes floats u requests
  let mebis ← orRaise (floats.ceilMebi bytes)
  return toString mebis ++ "Mi"

/-! ### Quantities -/

/-- An exception of the service, which answers 409. -/
def conflict (code message : String) : Exc := .cloudWard ⟨code, message, 409⟩

/-- A text without an ending, where it has it. -/
def dropSuffix (s ending : String) : Option String :=
  if ending.toList <:+ s.toList then
    some (String.ofList (s.toList.take (s.toList.length - ending.toList.length)))
  else none

/-- `_parse_cpu`, `finops/service.py:436`; a value that is missing is `null`. -/
def parseCpu : Document.Part Scalar → Except Exc F
  | .scalar (.bool b) => orRaise (floats.ofInt (if b then 1 else 0))
  | .scalar (.int n) => orRaise (floats.ofInt n)
  | .scalar (.float text) => .ok (floats.ofRepr text)
  | .scalar (.str s) =>
    match ((dropSuffix s "m").bind floats.ofText).map floats.milli, floats.ofText s with
    | some x, _ => .ok x
    | none, some x => .ok x
    | none, none => .error invalidCpu
  | .scalar (.bytes data) =>
    match floats.ofBytes data with
    | some x => .ok x
    | none => .error invalidCpu
  | _ => .error invalidCpu
where
  invalidCpu : Exc := conflict "FINOPS_GITOPS_QUANTITY_INVALID" "GitOps CPU request is invalid"

/-- The suffixes of a quantity of memory. -/
def units : List (String × Nat) :=
  [("Ki", 1024), ("Mi", 1024 * 1024), ("Gi", 1024 * 1024 * 1024)]

/-- `_parse_memory`, `finops/service.py:452`. -/
def parseMemory : Document.Part Scalar → Except Exc Int
  | .scalar (.bool b) => .ok (if b then 1 else 0)
  | .scalar (.int n) => .ok n
  | .scalar (.float text) => orRaise (floats.trunc (floats.ofRepr text))
  | .scalar (.str s) =>
    match units.findSome? fun unit ↦ (dropSuffix s unit.1).map (·, unit.2) with
    | none => .error invalidMemory
    | some (number, multiplier) =>
      match floats.ofText number with
      | none => .error invalidMemory
      | some x =>
        match floats.scale x multiplier with
        | .ok n => .ok n
        | .error .value => .error invalidMemory
        -- the loop catches no `OverflowError`
        | .error .overflow => .error .validation
  | _ => .error invalidMemory
where
  invalidMemory : Exc := conflict "FINOPS_GITOPS_QUANTITY_INVALID" "GitOps memory request is invalid"

/-! ### The target of a patch -/

/-- The entries of a part that is a `dict`, and its address. -/
def dict? (d : Values) (part : Option (Document.Part Scalar)) :
    Option (Nat × List (Scalar × Document.Part Scalar)) :=
  match part with
  | some (.ref a) =>
    match d.nodes[a]? with
    | some (.map entries) => some (a, entries)
    | _ => none
  | _ => none

/-- `FINOPS_GITOPS_VALUES_INVALID`. -/
def valuesInvalid (message : String) : Exc := conflict "FINOPS_GITOPS_VALUES_INVALID" message

/-- `FINOPS_GITOPS_TARGET_MISSING`. -/
def targetMissing (message : String) : Exc := conflict "FINOPS_GITOPS_TARGET_MISSING" message

/-- The values of a text, `finops/service.py:327`. -/
def loadValues (content : String) : Except Exc Values :=
  match yaml.safeLoad content with
  | .ok document => .ok document
  | .error .yamlError => .error (valuesInvalid "Allowlisted GitOps values are not valid YAML")
  | .error .other => .error .validation

/-- The values of a text and the requests in them, `finops/service.py:327`. -/
def valuesTarget (content : String) :
    Except Exc (Values × Nat × List (Scalar × Document.Part Scalar)) := do
  let document ← loadValues yaml content
  let (_, root) ← orError (valuesInvalid "Allowlisted GitOps values are not an object")
    (dict? document (some document.root))
  let (_, workload) ← orError (targetMissing "Fixed cloudward-demo values target is missing")
    (dict? document (root.lookup (.str "cloudward-demo")))
  let resources := dict? document (workload.lookup (.str "resources"))
  let (address, requests) ← orError (targetMissing "Fixed resource requests target is missing")
    (resources.bind fun found ↦ dict? document (found.2.lookup (.str "requests")))
  return (document, address, requests)

/-- The path of the requests. -/
def targetPath : List (Step Scalar) :=
  [.key (.str "cloudward-demo"), .key (.str "resources"), .key (.str "requests")]

variable {yaml}

private theorem dict?_eq_some {d : Values} {part : Option (Document.Part Scalar)} {a : Nat}
    {entries : List (Scalar × Document.Part Scalar)} (h : dict? d part = some (a, entries)) :
    part = some (.ref a) ∧ d.nodes[a]? = some (.map entries) := by
  unfold dict? at h
  split at h
  · split at h
    · next hnode =>
      cases h
      exact ⟨rfl, hnode⟩
    · cases h
  · cases h

private theorem orError_eq_ok {α : Type} {e : Exc} {x : Option α} {a : α}
    (h : orError e x = .ok a) : x = some a := by
  cases x with
  | none => cases h
  | some b => rw [Except.ok.inj h]

private theorem loadValues_eq_ok {content : String} {d : Values}
    (h : loadValues yaml content = .ok d) : yaml.safeLoad content = .ok d := by
  unfold loadValues at h
  split at h
  · next hload => rw [hload, Except.ok.inj h]
  · cases h
  · cases h

/-- The requests stand at their path. -/
theorem find_targetPath {content : String} {d : Values} {a : Nat}
    {entries : List (Scalar × Document.Part Scalar)}
    (h : valuesTarget yaml content = .ok (d, a, entries)) :
    yaml.safeLoad content = .ok d ∧ d.find targetPath = some (.ref a) ∧
      d.nodes[a]? = some (.map entries) := by
  unfold valuesTarget at h
  obtain ⟨document, hload, h⟩ := bind_eq_ok h
  obtain ⟨⟨rootAddress, root⟩, hroot, h⟩ := bind_eq_ok h
  obtain ⟨⟨workloadAddress, workload⟩, hworkload, h⟩ := bind_eq_ok h
  obtain ⟨⟨address, requests⟩, hrequests, h⟩ := bind_eq_ok h
  cases h
  obtain ⟨⟨resourcesAddress, resources⟩, hresources, hrequests⟩ :=
    Option.bind_eq_some_iff.mp (orError_eq_ok hrequests)
  obtain ⟨hroot, hrootNode⟩ := dict?_eq_some (orError_eq_ok hroot)
  obtain ⟨hworkload, hworkloadNode⟩ := dict?_eq_some (orError_eq_ok hworkload)
  obtain ⟨hresources, hresourcesNode⟩ := dict?_eq_some hresources
  obtain ⟨hrequests, hrequestsNode⟩ := dict?_eq_some hrequests
  refine ⟨loadValues_eq_ok hload, ?_, hrequestsNode⟩
  have hstart : d.find [] = some (.ref rootAddress) := hroot
  have hfirst := (Document.find_key hrootNode hstart _).trans hworkload
  have hsecond := (Document.find_key hworkloadNode hfirst _).trans hresources
  exact (Document.find_key hresourcesNode hsecond _).trans hrequests

end CloudWard.Finops
