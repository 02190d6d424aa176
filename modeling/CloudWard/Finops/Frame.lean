import CloudWard.Finops.Requests

/-!
# What a FinOps pull request changes

`create_finops_pr` writes back what it read: the bytes of a file, decoded with replacement, redacted
and parsed, with other requests, and dumped. The rest of the file is kept where the redacted text
has the data of the file, no tuple is among it, and no other place has the mapping of the requests.
-/

namespace CloudWard.Finops

open CloudWard.Logic Python

/-- What is documented of `yaml.safe_load` and `yaml.safe_dump`: the bytes of a text are loaded as
the text, and what is dumped is loaded as it, with lists for tuples. -/
structure Yaml.Lawful (yaml : Yaml) : Prop where
  bytes : ∀ text, yaml.safeLoadBytes (encode text) = yaml.safeLoad text
  dump : ∀ d, ∃ d', yaml.safeLoad (yaml.safeDump d) = .ok d' ∧
    ∀ path, d'.view path = d.listed.view path

/-- The keys of the requests. -/
def requestKeys : List Scalar := [.str "cpu", .str "memory"]

/-- A path into the CPU or the memory request of the target. -/
def OfRequest (path : List (Step Scalar)) : Prop :=
  ∃ k ∈ requestKeys, targetPath ++ [.key k] <+: path

variable {F : Type} (app : App F)

/-- A create-pr request whose file has some bytes, and which loads a document of them, proposes a
content. -/
structure Proposes (row : FinOpsRecommendation) (bytes : List UInt8) (d : Values)
    (content : String) : Prop where
  run : ∃ proposal payload document source sha request s s',
    Github.contentBytes app.lib.toCodecs document = .ok bytes ∧
    valuesSource app proposal payload (.ok document) = .ok (source, sha) ∧
    app.lib.yaml.safeLoad source.content = .ok d ∧
    (patchGitopsValues app.lib row source.content).run s = (.ok content, s') ∧
    changeRequest app row proposal payload sha content = .ok request

/-- A content has the data of a file, but for the CPU and the memory request of the target. -/
def KeepsRest (yaml : Yaml) (bytes : List UInt8) (content : String) : Prop :=
  ∃ old new, yaml.safeLoadBytes bytes = .ok old ∧ yaml.safeLoadBytes (encode content) = .ok new ∧
    ∀ path, ¬ OfRequest path → new.view path = old.view path

/-- A document has the data of a file, but for the CPU and the memory request of the target. -/
def Unaltered (yaml : Yaml) (bytes : List UInt8) (d : Values) : Prop :=
  ∃ old, yaml.safeLoadBytes bytes = .ok old ∧ ∀ path, ¬ OfRequest path → d.view path = old.view path

/-- No part of a document is a tuple. -/
def Plain (d : Values) : Prop := ∀ path, ¬ OfRequest path → d.view path ≠ some .tuple

/-- Another place has the mapping of the requests only if they are the recommended ones already. -/
def Alone (lib : Library F) (row : FinOpsRecommendation) (d : Values) : Prop :=
  ∀ path, path ≠ targetPath → d.find path = d.find targetPath →
    ∀ proposed cpu memory, requestsOf row.recommendedConfig = some proposed →
      cpuText lib.floats proposed = .ok cpu → memoryText lib.floats lib.unicode proposed = .ok memory →
        d.find (path ++ [.key (.str "cpu")]) = some (.scalar (.str cpu)) ∧
          d.find (path ++ [.key (.str "memory")]) = some (.scalar (.str memory))

/-! ### Requests of a document -/

variable {app} {row : FinOpsRecommendation} {d : Values} {a : Nat}
  {requests : List (Scalar × Document.Part Scalar)} {path : List (Step Scalar)} {cpu memory : String}

/-- What is known of a binding. -/
private structure Bound (d : Values) (a : Nat) (requests : List (Scalar × Document.Part Scalar)) : Prop where
  target : d.find targetPath = some (.ref a)
  node : d.nodes[a]? = some (.map requests)
  scalar : ∀ k ∈ requestKeys, ∃ s, requests.lookup k = some (.scalar s)

/-- The entries of the requests, with other values. -/
private def written (requests : List (Scalar × Document.Part Scalar)) (cpu memory : String) :
    List (Scalar × Document.Part Scalar) :=
  assign (assign requests (.str "cpu") (.scalar (.str cpu))) (.str "memory")
    (.scalar (.str memory))

private theorem lookup_written (k : Scalar) :
    (written requests cpu memory).lookup k =
      if k = .str "memory" then some (.scalar (.str memory))
      else if k = .str "cpu" then some (.scalar (.str cpu)) else requests.lookup k := by
  unfold written
  rw [lookup_assign, lookup_assign]

private theorem lookup_written_of_notMem {k : Scalar} (h : k ∉ requestKeys) :
    (written requests cpu memory).lookup k = requests.lookup k := by
  rw [lookup_written, if_neg, if_neg]
  · rintro rfl
    exact h (by decide)
  · rintro rfl
    exact h (by decide)

/-- Nothing is below a request. -/
private theorem find_below (h : Bound d a requests) {before rest : List (Step Scalar)} {k : Scalar}
    (hbefore : d.find before = some (.ref a)) (hk : k ∈ requestKeys) (hrest : rest ≠ []) :
    d.find (before ++ .key k :: rest) = none := by
  obtain ⟨s, hs⟩ := h.scalar k hk
  have hkey := (Document.find_key h.node hbefore k).trans hs
  rw [List.append_cons]
  exact Document.find_append_scalar hkey hrest

/-- A path to the mapping of the requests takes none of their keys. -/
private theorem not_takes_of_find (h : Bound d a requests) (hpath : d.find path = some (.ref a)) :
    ¬ d.Takes a (· ∈ requestKeys) path := by
  rintro ⟨before, k, rest, rfl, hk, hbefore⟩
  by_cases hrest : rest = []
  · subst hrest
    obtain ⟨s, hs⟩ := h.scalar k hk
    rw [Document.find_key h.node hbefore, hs] at hpath
    cases hpath
  · rw [find_below h hbefore hk hrest] at hpath
    cases hpath

/-- A request of the mapping at another place is no request of the target. -/
private theorem not_ofRequest_key (h : Bound d a requests) (hpath : d.find path = some (.ref a))
    (hne : path ≠ targetPath) (k : Scalar) : ¬ OfRequest (path ++ [.key k]) := by
  rintro ⟨j, hj, rest, hrest⟩
  rcases List.eq_nil_or_concat rest with rfl | ⟨rest, step, rfl⟩
  · rw [List.append_nil] at hrest
    exact hne (List.append_inj' hrest rfl).1.symm
  · rw [List.concat_eq_append, ← List.append_assoc] at hrest
    have hprefix := (List.append_inj' hrest rfl).1
    refine not_takes_of_find h hpath ⟨targetPath, j, rest, ?_, hj, h.target⟩
    rw [← hprefix]
    simp

/-- A path that takes a key of the requests at their own place is a path of a request. -/
private theorem ofRequest_of_takes {k : Scalar} (hk : k ∈ requestKeys) (rest : List (Step Scalar)) :
    OfRequest (targetPath ++ .key k :: rest) :=
  ⟨k, hk, rest, by simp⟩

private theorem listed_eq_self {shape : Option (Shape Scalar)} (h : shape ≠ some .tuple) :
    shape.map Shape.listed = shape := by
  cases shape with
  | none => rfl
  | some shape =>
    cases shape with
    | tuple => exact absurd rfl h
    | _ => rfl

private theorem listed_ne_tuple (shape : Option (Shape Scalar)) :
    shape.map Shape.listed ≠ some .tuple := by
  cases shape with
  | none => nofun
  | some shape => cases shape <;> nofun

private theorem eq_scalar_of_shape {part : Option (Document.Part Scalar)} {s : Scalar}
    (h : part.map d.shape = some (.scalar s)) : part = some (.scalar s) := by
  obtain ⟨part, rfl, hshape⟩ := Option.map_eq_some_iff.mp h
  cases part with
  | scalar other =>
    simp only [Document.shape, Shape.scalar.injEq] at hshape
    rw [hshape]
  | ref b =>
    simp only [Document.shape] at hshape
    split at hshape <;> cases hshape

/-- Another place of the mapping of the requests has the recommended ones. -/
private def Settled (d : Values) (a : Nat) (cpu memory : String) : Prop :=
  ∀ path, path ≠ targetPath → d.find path = some (.ref a) →
    d.find (path ++ [.key (.str "cpu")]) = some (.scalar (.str cpu)) ∧
      d.find (path ++ [.key (.str "memory")]) = some (.scalar (.str memory))

/-- What the patched document shows at a request of another place. -/
private theorem find_settled (h : Bound d a requests)
    (hkept : ∀ path, ¬ OfRequest path →
      ((d.put a (written requests cpu memory)).view path).map Shape.listed = d.view path)
    (hne : path ≠ targetPath) (hpath : d.find path = some (.ref a)) {k : Scalar} {text : String}
    (hk : (written requests cpu memory).lookup k = some (.scalar (.str text))) :
    d.find (path ++ [.key k]) = some (.scalar (.str text)) := by
  have hput : (d.put a (written requests cpu memory)).find path = some (.ref a) :=
    (Document.find_put h.node (fun k hk ↦ lookup_written_of_notMem hk)
      (not_takes_of_find h hpath)).trans hpath
  have hview := hkept _ (not_ofRequest_key h hpath hne k)
  unfold Document.view at hview
  rw [Document.find_put_taken h.node hput hk] at hview
  exact eq_scalar_of_shape hview.symm

/-- A dump of the patched document keeps the rest exactly if the document is plain and its requests
are at no other place, or there as they are recommended. -/
private theorem kept_iff (h : Bound d a requests) :
    (∀ path, ¬ OfRequest path →
      ((d.put a (written requests cpu memory)).view path).map Shape.listed = d.view path) ↔
      Plain d ∧ Settled d a cpu memory := by
  constructor
  · intro hkept
    refine ⟨fun path hpath htuple ↦ ?_, fun path hne hpath ↦ ⟨?_, ?_⟩⟩
    · have hview := hkept path hpath
      rw [htuple] at hview
      exact listed_ne_tuple _ hview
    · exact find_settled h hkept hne hpath (by rw [lookup_written]; rfl)
    · exact find_settled h hkept hne hpath (by rw [lookup_written]; rfl)
  · rintro ⟨hplain, hsettled⟩ path hpath
    -- the keys whose value is another after the patch
    let changed (k : Scalar) : Prop :=
      (written requests cpu memory).lookup k ≠ requests.lookup k
    have htakes : ¬ d.Takes a changed path := by
      rintro ⟨before, k, rest, rfl, hk, hbefore⟩
      have hmem : k ∈ requestKeys := by
        by_contra hmem
        exact hk (lookup_written_of_notMem hmem)
      by_cases htarget : before = targetPath
      · subst htarget
        exact hpath (ofRequest_of_takes hmem rest)
      · obtain ⟨hcpu, hmemory⟩ := hsettled before htarget hbefore
        rw [Document.find_key h.node hbefore] at hcpu hmemory
        refine hk ?_
        rw [lookup_written]
        split
        · next hkey => rw [hkey, hmemory]
        · split
          · next hkey => rw [hkey, hcpu]
          · rfl
    rw [Document.view_put h.node (fun k hk ↦ not_not.mp hk) htakes]
    exact listed_eq_self (hplain path hpath)

/-! ### The proposed content -/

private theorem parseCpu_scalar {floats : Floats F} {part : Document.Part Scalar} {x : F}
    (h : parseCpu floats part = .ok x) : ∃ s, part = .scalar s ∧ s ≠ .null := by
  unfold parseCpu at h
  split at h
  case h_6 => cases h
  all_goals exact ⟨_, rfl, nofun⟩

private theorem parseMemory_scalar {floats : Floats F} {part : Document.Part Scalar} {n : Int}
    (h : parseMemory floats part = .ok n) : ∃ s, part = .scalar s ∧ s ≠ .null := by
  unfold parseMemory at h
  split at h
  case h_5 => cases h
  all_goals exact ⟨_, rfl, nofun⟩

/-- A value that is read with `null` for a missing one is there. -/
private theorem lookup_of_getD {k : Scalar} {s : Scalar}
    (h : (requests.lookup k).getD (.scalar .null) = .scalar s) (hs : s ≠ .null) :
    requests.lookup k = some (.scalar s) := by
  cases hlookup : requests.lookup k with
  | none =>
    rw [hlookup] at h
    cases h
    exact absurd rfl hs
  | some part =>
    rw [hlookup] at h
    exact congrArg some h

private theorem orError_some {α : Type} {e : Exc} {x : Option α} {a : α}
    (h : orError e x = .ok a) : x = some a := by
  cases x with
  | none => cases h
  | some b => rw [Except.ok.inj h]

/-- What a binding knows. -/
private theorem bound_of_binding {lib : Library F} {content : String} {b : Binding}
    (h : binding lib row content = .ok b) :
    lib.yaml.safeLoad content = .ok b.document ∧ Bound b.document b.address b.requests ∧
      requestsOf row.recommendedConfig = some b.proposed := by
  unfold binding at h
  obtain ⟨⟨document, address, requests⟩, htarget, h⟩ := bind_eq_ok h
  obtain ⟨current, -, h⟩ := bind_eq_ok h
  obtain ⟨proposed, hproposed, h⟩ := bind_eq_ok h
  obtain ⟨currentCpu, hcpu, h⟩ := bind_eq_ok h
  obtain ⟨currentMemory, hmemory, h⟩ := bind_eq_ok h
  obtain ⟨expectedCpu, -, h⟩ := bind_eq_ok h
  obtain ⟨expectedMemory, -, h⟩ := bind_eq_ok h
  cases h
  obtain ⟨hload, hfind, hnode⟩ := find_targetPath htarget
  refine ⟨hload, ⟨hfind, hnode, ?_⟩, orError_some hproposed⟩
  intro k hk
  obtain ⟨s, hs, hne⟩ := parseCpu_scalar hcpu
  obtain ⟨t, ht, hne'⟩ := parseMemory_scalar hmemory
  rcases List.mem_pair.mp hk with rfl | rfl
  · exact ⟨s, lookup_of_getD hs hne⟩
  · exact ⟨t, lookup_of_getD ht hne'⟩

/-- The content of a pull request is the dump of the patched document. -/
private theorem dump_of_proposes {bytes : List UInt8} {content : String}
    (h : Proposes app row bytes d content) :
    ∃ a requests proposed cpu memory, Bound d a requests ∧
      requestsOf row.recommendedConfig = some proposed ∧
      cpuText app.lib.floats proposed = .ok cpu ∧
      memoryText app.lib.floats app.lib.unicode proposed = .ok memory ∧
      content = app.lib.yaml.safeDump (d.put a (written requests cpu memory)) := by
  obtain ⟨proposal, payload, document, source, sha, request, s, s', -, -, hload, hpatch, -⟩ := h.run
  obtain ⟨b, cpu, memory, hb, hcpu, hmemory, htext⟩ := patchGitopsValues_eq_ok hpatch
  obtain ⟨hdocument, hbound, hproposed⟩ := bound_of_binding hb
  rw [hload] at hdocument
  cases Except.ok.inj hdocument
  exact ⟨b.address, b.requests, b.proposed, cpu, memory, hbound, hproposed, hcpu, hmemory, htext⟩

private theorem keepsRest_iff_both (hlawful : app.lib.yaml.Lawful) {bytes : List UInt8} {content : String}
    (h : Proposes app row bytes d content) :
    (Unaltered app.lib.yaml bytes d →
      (KeepsRest app.lib.yaml bytes content ↔ Plain d ∧ Alone app.lib row d)) ∧
    (Plain d ∧ Alone app.lib row d →
      (KeepsRest app.lib.yaml bytes content ↔ Unaltered app.lib.yaml bytes d)) := by
  obtain ⟨a, requests, proposed, cpu, memory, hbound, hproposed, hcpu, hmemory, rfl⟩ :=
    dump_of_proposes h
  have halone : Alone app.lib row d ↔ Settled d a cpu memory := by
    unfold Alone Settled
    rw [hbound.target]
    constructor
    · exact fun h path hne hpath ↦ h path hne hpath proposed cpu memory hproposed hcpu hmemory
    · intro h path hne hpath proposed' cpu' memory' hproposed' hcpu' hmemory'
      cases hproposed.symm.trans hproposed'
      cases hcpu.symm.trans hcpu'
      cases hmemory.symm.trans hmemory'
      exact h path hne hpath
  obtain ⟨new, hnew, hviews⟩ := hlawful.dump (d.put a (written requests cpu memory))
  have hkeeps : KeepsRest app.lib.yaml bytes
      (app.lib.yaml.safeDump (d.put a (written requests cpu memory))) ↔
      ∃ old, app.lib.yaml.safeLoadBytes bytes = .ok old ∧ ∀ path, ¬ OfRequest path →
        ((d.put a (written requests cpu memory)).view path).map Shape.listed = old.view path := by
    unfold KeepsRest
    simp only [hlawful.bytes, hnew, Except.ok.injEq, ← Document.view_listed, ← hviews]
    constructor
    · rintro ⟨old, _, hold, rfl, hrest⟩
      exact ⟨old, hold, hrest⟩
    · rintro ⟨old, hold, hrest⟩
      exact ⟨old, new, hold, rfl, hrest⟩
  rw [hkeeps, halone, ← kept_iff hbound]
  constructor
  · rintro ⟨old, hold, hsame⟩
    rw [hold]
    constructor
    · rintro ⟨old', hold', hrest⟩ path hpath
      cases hold'
      rw [hrest path hpath, hsame path hpath]
    · exact fun hkept ↦ ⟨old, rfl, fun path hpath ↦ (hkept path hpath).trans (hsame path hpath)⟩
  · intro hkept
    constructor
    · rintro ⟨old, hold, hrest⟩
      exact ⟨old, hold, fun path hpath ↦ (hkept path hpath).symm.trans (hrest path hpath)⟩
    · rintro ⟨old, hold, hsame⟩
      exact ⟨old, hold, fun path hpath ↦ (hkept path hpath).trans (hsame path hpath)⟩

/-- A pull request keeps the rest of a file. If the read text has the data of the file, it does so
exactly if the document is plain and its requests stand alone; for such a document, exactly if the
read text has the data of the file. -/
theorem keepsRest_iff (hlawful : app.lib.yaml.Lawful) {bytes : List UInt8} {content : String}
    (h : Proposes app row bytes d content) :
    (Unaltered app.lib.yaml bytes d →
      (KeepsRest app.lib.yaml bytes content ↔ Plain d ∧ Alone app.lib row d)) ∧
    (Plain d ∧ Alone app.lib row d →
      (KeepsRest app.lib.yaml bytes content ↔ Unaltered app.lib.yaml bytes d)) :=
  keepsRest_iff_both hlawful h

/-- What a request loads is the text that is read of the bytes. -/
theorem safeLoad_of_proposes {bytes : List UInt8} {content : String}
    (h : Proposes app row bytes d content) :
    app.lib.yaml.safeLoad (Github.sourceText app.lib.toCodecs bytes) = .ok d := by
  obtain ⟨proposal, payload, document, source, sha, -, -, -, hbytes, hsource, hload, -⟩ := h.run
  obtain ⟨policy, -, hsource⟩ := bind_eq_ok hsource
  obtain ⟨read, hread, hsource⟩ := bind_eq_ok hsource
  obtain ⟨found, -, hsource⟩ := bind_eq_ok hsource
  obtain ⟨payload', bytes', hpayload, hbytes', hcontent, -⟩ := Github.content_readFile hread
  cases hpayload
  cases hbytes.symm.trans hbytes'
  split at hsource
  · cases hsource
    rw [← hcontent]
    exact hload
  · cases hsource

/-- A pull request keeps the rest of a text that redaction leaves, if it is plain and its requests
stand alone. -/
theorem keepsRest_of_redactText (hlawful : app.lib.yaml.Lawful) {text content : String}
    (h : Proposes app row (encode text) d content)
    (htext : Security.Redaction.redactText app.lib.unicode text = text) (hplain : Plain d)
    (halone : Alone app.lib row d) : KeepsRest app.lib.yaml (encode text) content := by
  have hload := safeLoad_of_proposes h
  rw [Github.sourceText_encode htext] at hload
  refine ((keepsRest_iff_both hlawful h).2 ⟨hplain, halone⟩).mpr ⟨d, ?_, fun path _ ↦ rfl⟩
  rw [hlawful.bytes, hload]

/-! ### A file with a token -/

/-- A file that sets a token. -/
private def tokenFile : String :=
  "cloudward-demo:\n  resources:\n    requests:\n      cpu: 100m\n      memory: 128Mi\n" ++
    "  env:\n    token: abc\n"

/-- Its text as it is read. -/
private def redactedFile : String :=
  "cloudward-demo:\n  resources:\n    requests:\n      cpu: 100m\n      memory: 128Mi\n" ++
    "  env:\n    [REDACTED]\n"

/-- Its content in the pull request. -/
private def patchedFile : String :=
  "cloudward-demo:\n  resources:\n    requests:\n      cpu: 50m\n      memory: 64Mi\n" ++
    "  env:\n  - REDACTED\n"

/-- The values of a file, by its requests and what `env` is. -/
private def demoValues (cpu memory : String) (env : Node Scalar) : Values where
  nodes := [.map [(.str "cloudward-demo", .ref 1)],
    .map [(.str "resources", .ref 2), (.str "env", .ref 4)],
    .map [(.str "requests", .ref 3)],
    .map [(.str "cpu", .scalar (.str cpu)), (.str "memory", .scalar (.str memory))], env]
  root := .ref 0

private def tokenValues : Values :=
  demoValues "100m" "128Mi" (.map [(.str "token", .scalar (.str "abc"))])

private def redactedValues : Values :=
  demoValues "100m" "128Mi" (.seq [.scalar (.str "REDACTED")])

private def patchedValues : Values :=
  demoValues "50m" "64Mi" (.seq [.scalar (.str "REDACTED")])

/-- Another text for each other document. -/
private theorem exists_otherText :
    ∃ f : Values → String, Function.Injective f ∧ ∀ d, 'c' ∉ (f d).toList := by
  obtain ⟨code, hcode⟩ := Countable.exists_injective_nat Values
  refine ⟨fun d ↦ String.ofList (List.replicate (code d) 'x'), fun d d' h ↦ hcode ?_, fun d h ↦ ?_⟩
  · have hlength := congrArg (fun text ↦ text.toList.length) h
    simpa using hlength
  · rw [String.toList_ofList] at h
    exact absurd (List.eq_of_mem_replicate h) (by decide)

open scoped Classical in
/-- `yaml.safe_load` on the three files, and on the texts of other documents. -/
private noncomputable def demoLoad (text : String) : Except LoadFailure Values :=
  if text = tokenFile then .ok tokenValues
  else if text = redactedFile then .ok redactedValues
  else if text = patchedFile then .ok patchedValues
  else if h : ∃ d, exists_otherText.choose d = text then .ok h.choose.listed
  else .error .yamlError

/-- A YAML library that knows the three files, and some text for each other document. -/
private noncomputable def demoYaml : Yaml where
  safeLoad := demoLoad
  safeLoadBytes bytes :=
    if encode (decodeReplace bytes) = bytes then demoLoad (decodeReplace bytes)
    else .error .yamlError
  safeDump d := if d = patchedValues then patchedFile else exists_otherText.choose d

private theorem demoLoad_tokenFile : demoLoad tokenFile = .ok tokenValues := if_pos rfl

private theorem demoLoad_redactedFile : demoLoad redactedFile = .ok redactedValues := by
  unfold demoLoad
  rw [if_neg (by decide +kernel), if_pos rfl]

private theorem demoLoad_patchedFile : demoLoad patchedFile = .ok patchedValues := by
  unfold demoLoad
  rw [if_neg (by decide +kernel), if_neg (by decide +kernel), if_pos rfl]

private theorem demoYaml_safeDump : demoYaml.safeDump patchedValues = patchedFile := by
  simp [demoYaml]

private theorem lawful_demoYaml : demoYaml.Lawful where
  bytes text := by
    unfold demoYaml
    dsimp only
    rw [decodeReplace_encode, if_pos rfl]
  dump d := by
    obtain ⟨hinjective, hc⟩ := exists_otherText.choose_spec
    unfold demoYaml
    dsimp only
    by_cases hd : d = patchedValues
    · subst hd
      rw [if_pos rfl]
      exact ⟨_, demoLoad_patchedFile, fun path ↦ rfl⟩
    · have hother (text : String) (htext : 'c' ∈ text.toList) :
          exists_otherText.choose d ≠ text := fun heq ↦ hc d (heq ▸ htext)
      have hex : ∃ d', exists_otherText.choose d' = exists_otherText.choose d := ⟨d, rfl⟩
      rw [if_neg hd]
      refine ⟨d.listed, ?_, fun path ↦ rfl⟩
      unfold demoLoad
      rw [if_neg (hother _ (by decide +kernel)), if_neg (hother _ (by decide +kernel)),
        if_neg (hother _ (by decide +kernel)), dif_pos hex, hinjective hex.choose_spec]

/-- What Python computes of the numbers in the file, in millionths. -/
private def demoFloats : Floats Nat where
  ofInt n := some (n.toNat * 1000000)
  ofText text := [("100", 100000000), ("128", 128000000)].lookup text
  ofBytes _ := none
  ofRepr text := ([("0.1", 100000), ("0.05", 50000)].lookup text).getD 0
  milli x := x / 1000
  far x y := 1000 < max x y - min x y
  trunc x := some (x / 1000000 : Nat)
  scale x n := .ok (x * n / 1000000 : Nat)
  ceilMilli x := some ((x + 999) / 1000 : Nat)
  ceilMebi n := some ((n.toNat + 1048575) / 1048576 : Nat)

/-- What `base64` makes of the file. -/
private def tokenBase64 : String :=
  "Y2xvdWR3YXJkLWRlbW86CiAgcmVzb3VyY2VzOgogICAgcmVxdWVzdHM6CiAgICAgIGNwdTogMTAwbQogICAgICBtZW1v" ++
    "cnk6IDEyOE1pCiAgZW52OgogICAgdG9rZW46IGFiYwo="

private theorem valuesUrl_ne : "https://github.com/acme/demo/pull/1" ≠ "" := by decide

private theorem valuesNumber_pos (n : Nat) : 1 ≤ n + 1 := Nat.le_add_left 1 n

private theorem valuesSha_ne : "c0ffee0" ≠ "" := by decide

private noncomputable def demoApp : App Nat where
  lib :=
    { unicode := Security.Redaction.bareTable
      b64decode text := if text = tokenBase64 then some (encode tokenFile) else none
      str _ := ""
      floats := demoFloats
      yaml := demoYaml
      sha256 text := text
      indented _ := ""
      isoformat _ := ""
      fixed2 text := text }
  settings := ⟨"acme/demo", "cloudward-gitops/environments/staging/values.yaml"⟩
  client := .ok ⟨["acme/demo"], [("acme/demo", ["cloudward-gitops/*"])]⟩
  host := ⟨fun _ _ ↦ none, fun _ ↦ "", fun _ ↦ "c0ffee0", fun n ↦
    ⟨n + 1, "https://github.com/acme/demo/pull/1", valuesNumber_pos n, valuesUrl_ne⟩, fun _ ↦ valuesSha_ne⟩

/-- The requests of a configuration. -/
private def configOf (cpuCores : String) (memoryBytes : Int) : Json :=
  .dict [("requests", .dict [("cpu_cores", .float cpuCores), ("memory_bytes", .int memoryBytes)])]

private def demoRow : FinOpsRecommendation where
  id := ⟨"6f1c2e1a-0000-4000-8000-000000000004", by decide +kernel⟩
  service := "cloudward-demo"
  recommendationType := "WORKLOAD_RIGHTSIZING"
  status := .recommended
  currentConfig := configOf "0.1" 134217728
  recommendedConfig := configOf "0.05" 67108864
  evidence := .dict []
  estimatedSavings := .dict []
  riskScore := 20
  confidence := "0.9"
  limitations := []
  evidenceWindowStart := 0
  evidenceWindowEnd := 3600
  sourceFingerprint := "f2"
  proposalVersion := 1
  expectedStateDigest := ""
  expiresAt := 90000
  prReference := none
  prUrl := none
  details := .dict []

private def demoProposal : GitOpsChangeProposal where
  repository := "acme/demo"
  branchPrefix := "cloudward/finops-6f1c2e1a0000"
  path := "cloudward-gitops/environments/staging/values.yaml"
  title := "CloudWard: rightsize cloudward-demo"
  body := ""
  content := ""
  recommendationId := demoRow.id.text
  expectedStateDigest := ""

private def demoPayload : FinOpsPullRequestRequest :=
  ⟨"0a1b2c3", none, by decide +kernel, nofun⟩

/-- What GitHub answers to the read. -/
private def demoAnswer : Json :=
  .dict [("encoding", .str "base64"), ("content", .str tokenBase64), ("sha", .str "1111111")]

private theorem sourceText_tokenFile :
    Github.sourceText demoApp.lib.toCodecs (encode tokenFile) = redactedFile := by
  unfold Github.sourceText
  rw [decodeReplace_encode]
  decide +kernel

private theorem contentBytes_demoAnswer :
    Github.contentBytes demoApp.lib.toCodecs demoAnswer = .ok (encode tokenFile) := by
  have hdecode : demoApp.lib.b64decode tokenBase64 = some (encode tokenFile) := by
    show (if tokenBase64 = tokenBase64 then some (encode tokenFile) else none) = _
    rw [if_pos rfl]
  exact Github.contentBytes_of_decode rfl rfl hdecode

private theorem valuesSource_of_readFile {app : App F} {policy : Github.GitHubAutomationPolicy}
    {proposal : GitOpsChangeProposal} {payload : FinOpsPullRequestRequest}
    {answer : Except Exc Json} {source : Github.SourceFileEvidence} {sha : String}
    (hclient : app.client = .ok policy)
    (hfile : Github.readFile app.lib.toCodecs policy answer proposal.repository proposal.path
      payload.baseCommitSha = .ok source)
    (hsha : source.sha = some sha) (hexpected : ∀ expected ∈ payload.expectedBlobSha, expected = sha) :
    valuesSource app proposal payload answer = .ok (source, sha) := by
  unfold valuesSource
  rw [hclient]
  show (Github.readFile _ _ _ _ _ _ >>= _) = _
  rw [hfile]
  show (orError blobMissing source.sha >>= _) = _
  rw [hsha]
  exact if_pos hexpected

private theorem valuesSource_demo : ∃ source,
    valuesSource demoApp demoProposal demoPayload (.ok demoAnswer) = .ok (source, "1111111") ∧
      source.content = redactedFile := by
  have hread : (⟨["acme/demo"], [("acme/demo", ["cloudward-gitops/*"])]⟩ :
      Github.GitHubAutomationPolicy).requireRead "acme/demo" = Except.ok "acme/demo" := by
    decide +kernel
  have hpath : Github.normalizePath demoProposal.path = .ok demoProposal.path := by decide +kernel
  have hlength : (encode tokenFile).length ≤ Github.maxSourceBytes := by decide +kernel
  have hcontent : (Github.sourceText demoApp.lib.toCodecs (encode tokenFile)).length ≤ 20000 := by
    rw [sourceText_tokenFile]
    decide +kernel
  have hfile := @Github.readFile_of_contentBytes _ _ _ _ demoPayload.baseCommitSha _ _ _ _ hread
    hpath contentBytes_demoAnswer hlength hcontent
  have hsha : Github.blobSha demoApp.lib.toCodecs demoAnswer = some "1111111" := rfl
  rw [hsha] at hfile
  refine ⟨⟨"acme/demo", demoProposal.path, demoPayload.baseCommitSha,
    Github.sourceText demoApp.lib.toCodecs (encode tokenFile), some "1111111", hcontent⟩, ?_,
    sourceText_tokenFile⟩
  exact valuesSource_of_readFile rfl hfile rfl nofun

private theorem binding_demoRow :
    binding demoApp.lib demoRow redactedFile =
      .ok ⟨redactedValues, 3, [(.str "cpu", .scalar (.str "100m")),
        (.str "memory", .scalar (.str "128Mi"))],
        .dict [("cpu_cores", .float "0.05"), ("memory_bytes", .int 67108864)], false⟩ := by
  have hload : loadValues demoApp.lib.yaml redactedFile = .ok redactedValues := by
    unfold loadValues
    rw [show demoApp.lib.yaml.safeLoad redactedFile = _ from demoLoad_redactedFile]
  unfold binding valuesTarget
  rw [hload]
  rfl

private theorem proposes_demo :
    Proposes demoApp demoRow (encode tokenFile) redactedValues patchedFile := by
  obtain ⟨source, hsource, hcontent⟩ := valuesSource_demo
  have hpatch : (patchGitopsValues demoApp.lib demoRow source.content).run {} =
      (.ok patchedFile, {}) := by
    unfold patchGitopsValues
    rw [hcontent, binding_demoRow]
    show (Except.ok (demoYaml.safeDump patchedValues), ({} : Store)) = _
    rw [demoYaml_safeDump]
  have hrequest : ∃ request,
      changeRequest demoApp demoRow demoProposal demoPayload "1111111" patchedFile = .ok request := by
    unfold changeRequest
    rw [dif_pos (by decide +kernel), if_pos (by decide +kernel)]
    exact ⟨_, rfl⟩
  obtain ⟨request, hrequest⟩ := hrequest
  exact ⟨demoProposal, demoPayload, demoAnswer, source, _, request, {}, {}, contentBytes_demoAnswer,
    hsource, by rw [hcontent]; exact demoLoad_redactedFile, hpatch, hrequest⟩

theorem keepsRest_iff_demo :
    (Unaltered demoYaml (encode tokenFile) redactedValues →
      (KeepsRest demoYaml (encode tokenFile) patchedFile ↔
        Plain redactedValues ∧ Alone demoApp.lib demoRow redactedValues)) ∧
    (Plain redactedValues ∧ Alone demoApp.lib demoRow redactedValues →
      (KeepsRest demoYaml (encode tokenFile) patchedFile ↔
        Unaltered demoYaml (encode tokenFile) redactedValues)) :=
  @keepsRest_iff _ demoApp _ _ lawful_demoYaml _ _ proposes_demo

/-- A pull request for a file with a token loses the token. -/
theorem not_keepsRest_tokenFile :
    Proposes demoApp demoRow (encode tokenFile) redactedValues patchedFile ∧
      ¬ KeepsRest demoYaml (encode tokenFile) patchedFile := by
  refine ⟨proposes_demo, ?_⟩
  rintro ⟨old, new, hold, hnew, hrest⟩
  rw [lawful_demoYaml.bytes] at hold hnew
  cases demoLoad_tokenFile.symm.trans hold
  cases demoLoad_patchedFile.symm.trans hnew
  have hview := hrest [.key (.str "cloudward-demo"), .key (.str "env")] (by
    rintro ⟨k, hk, hprefix⟩
    have hlength := hprefix.length_le
    simp [targetPath] at hlength)
  cases hview

end CloudWard.Finops
