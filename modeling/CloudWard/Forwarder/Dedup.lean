import CloudWard.Forwarder.Delivery

/-!
# What the deduplication drops

`_duplicate`, `security-forwarder/forwarder.py:240`, looks a document up by its fingerprint, and
the document has the number of its event in its reference. No document is ever found: of what
`normalize` makes a document of only the rate drops anything, so an event that is repeated passes
as often as it comes.
-/

namespace CloudWard.Forwarder

open CloudWard.Security Python Redaction

/-- What becomes of an event, `forwarder.py:200`. -/
inductive Fate
  | ignored
  | duplicate
  | rateLimited
  | passed (document : TetragonDocument)

/-- The document of an event that passes. -/
def Fate.document? : Fate → Option TetragonDocument
  | .passed document => some document
  | _ => none

section Fates

variable (u : Unicode) (r : Repr) (fingerprint : TetragonDocument → String)
variable (settings : ForwarderSettings)

/-- What becomes of an event, and the filter after it, `forwarder.py:198`. -/
def Filter.fate (f : Filter) (a : Arrival) : Fate × Filter :=
  let f := { f with sequence := f.sequence + 1 }
  match normalize u r a.nowText settings.nodeName f.sequence a.raw with
  | none => (.ignored, f)
  | some document =>
    match f.duplicate settings.dedupTtl a.seenAt (fingerprint document) with
    | (true, f) => (.duplicate, f)
    | (false, f) =>
      match f.withinRate settings.rate a.sentAt with
      | (false, f) => (.rateLimited, f)
      | (true, f) => (.passed document, f)

/-- What becomes of each event. -/
def Filter.fates (f : Filter) : List Arrival → List Fate
  | [] => []
  | a :: rest =>
    (f.fate u r fingerprint settings a).1 ::
      Filter.fates (f.fate u r fingerprint settings a).2 rest

/-- `normalize` makes a document of the event. -/
def Forwards (raw : Json) : Prop := (normalize u r "" settings.nodeName 0 raw).isSome

instance Forwards.decidable (raw : Json) : Decidable (Forwards u r settings raw) :=
  inferInstanceAs (Decidable (_ = true))

/-- The events that the rate alone lets through, after some that were sent. -/
def admissions (sent : List ℚ) : List Arrival → List Bool
  | [] => []
  | a :: rest =>
    if Forwards u r settings a.raw then
      let looked := Filter.withinRate { sent := sent } settings.rate a.sentAt
      looked.1 :: admissions looked.2.sent rest
    else false :: admissions sent rest

/-- The forwarded fields of an event: its document but for the reference. -/
def contentOf (a : Arrival) : Option TetragonDocument :=
  (normalize u r a.nowText settings.nodeName 0 a.raw).map ({ · with evidenceRef := "" })

/-- The second of two arrivals comes before the first expires. -/
def Within (ttl : Nat) (a b : Arrival) : Prop := b.seenAt < a.seenAt + ttl

instance Within.decidable (ttl : Nat) (a b : Arrival) : Decidable (Within ttl a b) :=
  inferInstanceAs (Decidable (_ < _))

/-- An event is not sent again within the TTL, and one that is dropped as a duplicate has the
forwarded fields of one that came within the TTL before it. -/
structure Deduplicates (arrivals : List Arrival) (fates : List Fate) : Prop where
  drops : ∀ (i j : Nat) (a b : Arrival), i < j → arrivals[i]? = some a → arrivals[j]? = some b → a.raw = b.raw →
    Within settings.dedupTtl a b → ∀ d, fates[i]? = some (.passed d) →
      ∀ d', fates[j]? ≠ some (.passed d')
  keeps : ∀ (j : Nat) (b : Arrival), arrivals[j]? = some b → fates[j]? = some .duplicate →
    ∃ i < j, ∃ a, arrivals[i]? = some a ∧ Within settings.dedupTtl a b ∧
      contentOf u r settings a = contentOf u r settings b

/-- Of two arrivals of an event within the TTL the rate alone lets at most one through. -/
def Unrepeated (arrivals : List Arrival) : Prop :=
  ∀ (i j : Nat) (a b : Arrival), i < j → arrivals[i]? = some a → arrivals[j]? = some b →
    a.raw = b.raw → Within settings.dedupTtl a b → (admissions u r settings [] arrivals)[i]? = some true →
      (admissions u r settings [] arrivals)[j]? ≠ some true

variable {u r fingerprint settings}

/-- An event that passes is one that is admitted. -/
theorem admit_eq_fate (f : Filter) (a : Arrival) :
    f.admit u r fingerprint settings a =
      ((f.fate u r fingerprint settings a).1.document?, (f.fate u r fingerprint settings a).2) := by
  unfold Filter.admit Filter.fate
  dsimp only
  cases normalize u r a.nowText settings.nodeName (f.sequence + 1) a.raw with
  | none => rfl
  | some document =>
    dsimp only
    rcases Filter.duplicate { f with sequence := f.sequence + 1 } settings.dedupTtl a.seenAt
      (fingerprint document) with ⟨_ | _, f⟩
    · dsimp only
      rcases f.withinRate settings.rate a.sentAt with ⟨_ | _, f⟩
      · rfl
      · rfl
    · rfl

/-- The documents that are delivered are those of the events that pass. -/
theorem admitted_eq_fates (f : Filter) (arrivals : List Arrival) :
    (f.admitted u r fingerprint settings arrivals).map (·.1) =
      (f.fates u r fingerprint settings arrivals).filterMap Fate.document? := by
  induction arrivals generalizing f with
  | nil => rfl
  | cons a rest ih =>
    unfold Filter.admitted Filter.fates
    rw [admit_eq_fate]
    cases hfate : (f.fate u r fingerprint settings a).1.document? with
    | none =>
      rw [List.filterMap_cons_none hfate]
      exact ih _
    | some document =>
      rw [List.filterMap_cons_some hfate, List.map_cons]
      exact congrArg _ (ih _)

end Fates

/-! ### Documents and their references -/

section References

variable {u : Unicode} {r : Repr} {nowText nodeName : String} {sequence : Nat} {raw : Json}
  {document : TetragonDocument}

/-- The reference of the document of an event, `forwarder.py:133`. -/
def referenceOf (nodeName : String) (sequence : Nat) : String :=
  "tetragon:" ++ cut 100 nodeName ++ ":" ++ toString sequence

theorem referenceOf_injective (nodeName : String) : Function.Injective (referenceOf nodeName) := by
  intro m n h
  have hdigits := congrArg String.toList h
  simp only [referenceOf, String.toList_append, List.append_cancel_left_eq,
    Nat.toString_eq_ofList_toDigits, String.toList_ofList] at hdigits
  calc
    m = Nat.ofDigitChars 10 (Nat.toDigits 10 m) 0 :=
      (Nat.ofDigitChars_toDigits (by omega) (by omega)).symm
    _ = Nat.ofDigitChars 10 (Nat.toDigits 10 n) 0 := by rw [hdigits]
    _ = n := Nat.ofDigitChars_toDigits (by omega) (by omega)

/-- A document has the reference of its event. -/
theorem evidenceRef_of_normalize
    (h : normalize u r nowText nodeName sequence raw = some document) :
    document.evidenceRef = referenceOf nodeName sequence := by
  unfold normalize CloudWard.Forwarder.document at h
  cases hobserve : observe r raw with
  | none => simp [hobserve] at h
  | some o =>
    cases hpolicy : policies o.policy with
    | none => simp [hobserve, hpolicy] at h
    | some category =>
      simp only [hobserve, hpolicy, Option.bind_eq_bind, Option.bind_some] at h
      split at h
      · cases h
      · cases h
        rfl

/-- Whether an event is forwarded depends on neither the time nor the number of the event. -/
theorem isSome_normalize (nowText' nodeName' : String) (sequence' : Nat) :
    (normalize u r nowText nodeName sequence raw).isSome =
      (normalize u r nowText' nodeName' sequence' raw).isSome := by
  unfold normalize CloudWard.Forwarder.document
  cases observe r raw with
  | none => rfl
  | some o =>
    dsimp only [Option.bind_eq_bind, Option.bind_some]
    cases policies o.policy with
    | none => rfl
    | some category =>
      dsimp only [Option.bind_some]
      split
      · rfl
      · rfl

end References

/-! ### No document is a duplicate -/

section Passes

variable {u : Unicode} {r : Repr} {fingerprint : TetragonDocument → String}
  {settings : ForwarderSettings}

/-- The fingerprints that were seen are of documents with the numbers of earlier events. -/
def Numbered (fingerprint : TetragonDocument → String) (nodeName : String) (f : Filter) : Prop :=
  ∀ entry ∈ f.seen, ∃ d, fingerprint d = entry.1 ∧
    ∃ n ≤ f.sequence, d.evidenceRef = referenceOf nodeName n

/-- Fingerprints differ where the references of the documents do. -/
def Distinguishes (fingerprint : TetragonDocument → String) : Prop :=
  ∀ d d', fingerprint d = fingerprint d' → d.evidenceRef = d'.evidenceRef

variable {f : Filter} {a : Arrival} {document : TetragonDocument}

private theorem duplicate_of_numbered (hdistinguishes : Distinguishes fingerprint)
    (hf : Numbered fingerprint settings.nodeName f)
    (hreference : document.evidenceRef = referenceOf settings.nodeName (f.sequence + 1))
    (ttl : Nat) (now : ℚ) :
    Filter.duplicate { f with sequence := f.sequence + 1 } ttl now (fingerprint document) =
      (false, { f with
        sequence := f.sequence + 1
        seen := (fingerprint document, now + ttl) ::
          f.seen.filter fun entry ↦ ¬ entry.2 ≤ now }) := by
  unfold Filter.duplicate
  dsimp only
  rw [if_neg]
  intro hany
  obtain ⟨entry, hentry, hsame⟩ := List.any_eq_true.mp hany
  obtain ⟨d, hd, n, hn, hnumber⟩ := hf entry (List.mem_of_mem_filter hentry)
  have hrefs := hdistinguishes d document (hd.trans (of_decide_eq_true hsame))
  rw [hnumber, hreference] at hrefs
  have := referenceOf_injective settings.nodeName hrefs
  omega

/-- The filter once a document has been looked up. -/
private def Filter.lookedUp (f : Filter) (ttl : Nat) (now : ℚ) (hash : String) : Filter where
  sequence := f.sequence + 1
  seen := (hash, now + ttl) :: f.seen.filter fun entry ↦ ¬ entry.2 ≤ now
  sent := f.sent

private theorem numbered_lookedUp (hf : Numbered fingerprint settings.nodeName f)
    (hreference : document.evidenceRef = referenceOf settings.nodeName (f.sequence + 1))
    (ttl : Nat) (now : ℚ) :
    Numbered fingerprint settings.nodeName (f.lookedUp ttl now (fingerprint document)) := by
  intro entry hentry
  rcases List.mem_cons.mp hentry with rfl | hold
  · exact ⟨document, rfl, f.sequence + 1, Nat.le_refl _, hreference⟩
  · obtain ⟨d, hd, n, hn, hnumber⟩ := hf entry (List.mem_of_mem_filter hold)
    exact ⟨d, hd, n, Nat.le_succ_of_le hn, hnumber⟩

/-- An event that no document is made of is ignored. -/
private theorem fate_of_none
    (h : normalize u r a.nowText settings.nodeName (f.sequence + 1) a.raw = none) :
    f.fate u r fingerprint settings a = (.ignored, { f with sequence := f.sequence + 1 }) := by
  unfold Filter.fate
  dsimp only
  rw [h]

/-- Of the documents the rate alone drops some. -/
private theorem fate_of_some (hdistinguishes : Distinguishes fingerprint)
    (hf : Numbered fingerprint settings.nodeName f)
    (h : normalize u r a.nowText settings.nodeName (f.sequence + 1) a.raw = some document) :
    f.fate u r fingerprint settings a =
      (if (Filter.withinRate { sent := f.sent } settings.rate a.sentAt).1 then .passed document
        else .rateLimited,
      { f.lookedUp settings.dedupTtl a.seenAt (fingerprint document) with
        sent := (Filter.withinRate { sent := f.sent } settings.rate a.sentAt).2.sent }) := by
  unfold Filter.fate
  dsimp only
  rw [h]
  dsimp only
  rw [duplicate_of_numbered hdistinguishes hf (evidenceRef_of_normalize h)]
  unfold Filter.withinRate Filter.lookedUp
  dsimp only
  by_cases hfull : settings.rate ≤ (f.sent.dropWhile (· ≤ a.sentAt - 60)).length
  · simp only [if_pos hfull]
    rfl
  · simp only [if_neg hfull]
    rfl

/-- An event passes where the rate alone lets it through, and is no duplicate. -/
private theorem fates_of_numbered (hdistinguishes : Distinguishes fingerprint)
    (hf : Numbered fingerprint settings.nodeName f) (arrivals : List Arrival) :
    .duplicate ∉ f.fates u r fingerprint settings arrivals ∧
      admissions u r settings f.sent arrivals =
        (f.fates u r fingerprint settings arrivals).map (·.document?.isSome) := by
  induction arrivals generalizing f with
  | nil => exact ⟨List.not_mem_nil, rfl⟩
  | cons a rest ih =>
    have hforwards : Forwards u r settings a.raw ↔
        (normalize u r a.nowText settings.nodeName (f.sequence + 1) a.raw).isSome := by
      rw [isSome_normalize "" settings.nodeName 0]
      rfl
    unfold Filter.fates admissions
    cases hdocument : normalize u r a.nowText settings.nodeName (f.sequence + 1) a.raw with
    | none =>
      have hnumbered : Numbered fingerprint settings.nodeName
          { f with sequence := f.sequence + 1 } := by
        intro entry hentry
        obtain ⟨d, hd, n, hn, hnumber⟩ := hf entry hentry
        exact ⟨d, hd, n, Nat.le_succ_of_le hn, hnumber⟩
      obtain ⟨hnone, hadmissions⟩ := ih hnumbered
      rw [fate_of_none hdocument, if_neg fun h ↦ by simp [hforwards, hdocument] at h]
      constructor
      · simpa using hnone
      · simpa [Fate.document?] using hadmissions
    | some document =>
      have hlooked := numbered_lookedUp hf (evidenceRef_of_normalize hdocument) settings.dedupTtl
        a.seenAt
      obtain ⟨hnone, hadmissions⟩ := @ih { f.lookedUp settings.dedupTtl a.seenAt
        (fingerprint document) with
          sent := (Filter.withinRate { sent := f.sent } settings.rate a.sentAt).2.sent } hlooked
      rw [fate_of_some hdistinguishes hf hdocument, if_pos (hforwards.mpr (by rw [hdocument]; rfl))]
      cases hpasses : (Filter.withinRate { sent := f.sent } settings.rate a.sentAt).1 with
      | false =>
        constructor
        · simpa using hnone
        · simpa [Fate.document?, hpasses] using hadmissions
      | true =>
        constructor
        · simpa using hnone
        · simpa [Fate.document?, hpasses] using hadmissions

end Passes

/-! ### What is dropped -/

section Dropped

variable (u : Unicode) (r : Repr) (fingerprint : TetragonDocument → String)
variable (settings : ForwarderSettings)

/-- **What the deduplication drops.** Where fingerprints differ as the references do, the forwarder
drops what it sent within the TTL and nothing else as a duplicate, if and only if the rate alone
lets no event through twice within the TTL. -/
theorem deduplicates_iff (hdistinguishes : Distinguishes fingerprint) (arrivals : List Arrival) :
    Deduplicates u r settings arrivals (Filter.fates u r fingerprint settings {} arrivals) ↔
      Unrepeated u r settings arrivals := by
  have hempty : Numbered fingerprint settings.nodeName {} := by
    intro entry hentry
    cases hentry
  obtain ⟨hnone, hadmissions⟩ := fates_of_numbered (u := u) (r := r) hdistinguishes hempty arrivals
  have hpasses (i : Nat) : (admissions u r settings [] arrivals)[i]? = some true ↔
      ∃ d, (Filter.fates u r fingerprint settings {} arrivals)[i]? = some (.passed d) := by
    rw [show admissions u r settings [] arrivals = _ from hadmissions, List.getElem?_map]
    cases (Filter.fates u r fingerprint settings {} arrivals)[i]? with
    | none => simp
    | some fate => cases fate <;> simp [Fate.document?]
  constructor
  · intro h i j a b hij ha hb hraw hwithin hi hj
    obtain ⟨d, hd⟩ := (hpasses i).mp hi
    obtain ⟨d', hd'⟩ := (hpasses j).mp hj
    exact h.drops i j a b hij ha hb hraw hwithin d hd d' hd'
  · intro h
    constructor
    · intro i j a b hij ha hb hraw hwithin d hd d' hd'
      exact h i j a b hij ha hb hraw hwithin ((hpasses i).mpr ⟨d, hd⟩) ((hpasses j).mpr ⟨d', hd'⟩)
    · intro j b _ hduplicate
      exact absurd (List.mem_of_getElem? hduplicate) hnone

end Dropped

/-- An event at a time. -/
def curlAt (seconds : ℚ) : Arrival where
  raw := rawEvent "cloudward-s2-unexpected-egress" "/usr/bin/curl"
  nowText := ""
  seenAt := seconds
  sentAt := seconds
  attempts := fun _ ↦ .response 202

private theorem distinguishes_evidenceRef : Distinguishes TetragonDocument.evidenceRef :=
  fun _ _ h ↦ h

theorem deduplicates_curl :
    Deduplicates plainUnicode plainRepr {} [curlAt 0, curlAt 300]
      (Filter.fates plainUnicode plainRepr TetragonDocument.evidenceRef {} {}
        [curlAt 0, curlAt 300]) := by
  refine (deduplicates_iff plainUnicode plainRepr TetragonDocument.evidenceRef {}
    distinguishes_evidenceRef [curlAt 0, curlAt 300]).mpr ?_
  intro i j a b hij ha hb _ hwithin
  have hj : j < 2 := (List.getElem?_eq_some_iff.mp hb).1
  obtain rfl : i = 0 := by omega
  obtain rfl : j = 1 := by omega
  cases ha
  cases hb
  exact absurd hwithin (by decide +kernel)

private theorem passes_curl (i : Nat) (hi : i < 2) :
    ∃ d, (Filter.fates plainUnicode plainRepr TetragonDocument.evidenceRef {} {}
      [curlAt 0, curlAt 1])[i]? = some (.passed d) := by
  have hpasses : (Filter.fates plainUnicode plainRepr TetragonDocument.evidenceRef {} {}
      [curlAt 0, curlAt 1]).map (·.document?.isSome) = [true, true] := by
    decide +kernel
  have hfate : ((Filter.fates plainUnicode plainRepr TetragonDocument.evidenceRef {} {}
      [curlAt 0, curlAt 1])[i]?).map (·.document?.isSome) = some true := by
    rw [← List.getElem?_map, hpasses]
    rcases (by omega : i = 0 ∨ i = 1) with rfl | rfl
    · rfl
    · rfl
  obtain ⟨fate, hfound, hpassed⟩ := Option.map_eq_some_iff.mp hfate
  cases fate with
  | passed d => exact ⟨d, hfound⟩
  | _ => cases hpassed

/-- An event that comes again after a second is sent again. -/
theorem repeated_not_dropped :
    ¬ ∀ (fingerprint : TetragonDocument → String), Distinguishes fingerprint →
      ∀ (u : Unicode) (r : Repr) (settings : ForwarderSettings) (arrivals : List Arrival),
        Deduplicates u r settings arrivals
          (Filter.fates u r fingerprint settings {} arrivals) := by
  intro h
  have hdrops := (h _ distinguishes_evidenceRef plainUnicode plainRepr {}
    [curlAt 0, curlAt 1]).drops 0 1 (curlAt 0) (curlAt 1) (by omega) rfl rfl rfl
    (by decide +kernel)
  obtain ⟨d, hd⟩ := passes_curl 0 (by omega)
  obtain ⟨d', hd'⟩ := passes_curl 1 (by omega)
  exact hdrops d hd d' hd'

end CloudWard.Forwarder
