import CloudWard.Alerts.Schemas
import CloudWard.Logic.Joined

/-!
# What a fingerprint identifies

The fingerprint of an alert hashes its stable labels joined by a unit separator,
`alerts/schemas.py:94`. Nothing keeps the separator out of a label, so two alerts that have it in
different labels may have one fingerprint, and so may two alerts of which one lacks a label that is
empty in the other.
-/

namespace CloudWard.Alerts

open CloudWard.Db CloudWard.Logic CloudWard.Security Python Redaction

/-- The separator of the joined labels. -/
def unitSeparator : Char := '\x1f'

/-- `labels.get(key, "")`. -/
def stableValue (labels : Labels) (key : String) : String := (labels.lookup key).getD ""

/-- `"\x1f".join(...)` of some values. -/
def joined (values : List String) : String :=
  String.ofList ([unitSeparator].intercalate (values.map String.toList))

/-- SHA-256, and the JSON text of a digest payload. -/
structure Sha256 where
  hexdigest : String → String
  canonical : DigestPayload → String
  hexdigest_fits : ∀ text, Column 64 (hexdigest text)

/-- The hashes of an alert, `alerts/schemas.py:94`. -/
def Sha256.hashes (sha : Sha256) : Hashes where
  fingerprint stable := sha.hexdigest (joined stable)
  payloadDigest payload := sha.hexdigest (sha.canonical payload)
  fingerprint_fits _ := sha.hexdigest_fits _
  payloadDigest_fits _ := sha.hexdigest_fits _

/-- The text that the fingerprint of an alert hashes. -/
def stableText (labels : Labels) : String := joined (stableLabels.map (stableValue labels))

/-- The pieces of a label between its separators. -/
def labelPieces (labels : Labels) (key : String) : List (List Char) :=
  (stableValue labels key).toList.splitOn unitSeparator

/-- The pieces of all stable labels, in their order. -/
def pieces (labels : Labels) : List (List Char) := stableLabels.flatMap (labelPieces labels)

/-- The stable labels of two alerts are the same. -/
def SameIdentity (a b : Labels) : Prop := ∀ key ∈ stableLabels, a.lookup key = b.lookup key

/-- A label is cut by as many separators in both alerts, and missing in both or in neither. -/
def Aligned (a b : Labels) : Prop :=
  ∀ key ∈ stableLabels, (labelPieces a key).length = (labelPieces b key).length ∧
    (a.lookup key = none ↔ b.lookup key = none)

variable {a b : Labels}

/-- The hashed texts are the same if and only if the pieces are. -/
theorem stableText_eq_iff : stableText a = stableText b ↔ pieces a = pieces b := by
  unfold stableText joined pieces
  rw [String.ofList_inj, List.map_map, List.map_map,
    intercalate_eq_iff (by simp [stableLabels]) (by simp [stableLabels]), List.flatMap_map,
    List.flatMap_map]
  rfl

/-- Aligned labels of the same pieces are the same. -/
theorem sameIdentity_of_aligned (hpieces : pieces a = pieces b) (h : Aligned a b) :
    SameIdentity a b := by
  have hvalues := eq_of_flatMap_splitOn hpieces fun key hkey ↦ (h key hkey).1
  intro key hkey
  have hvalue : stableValue a key = stableValue b key := String.toList_injective (hvalues key hkey)
  unfold stableValue at hvalue
  have hmissing := (h key hkey).2
  cases ha : a.lookup key with
  | none => rw [hmissing.mp ha]
  | some v =>
    cases hb : b.lookup key with
    | none =>
      rw [ha, hb] at hmissing
      cases hmissing.mpr rfl
    | some w =>
      rw [ha, hb] at hvalue
      exact congrArg some hvalue

theorem aligned_of_sameIdentity (h : SameIdentity a b) : Aligned a b := by
  intro key hkey
  unfold labelPieces stableValue
  rw [h key hkey]
  exact ⟨rfl, Iff.rfl⟩

/-- A label without a separator is one piece. -/
theorem length_labelPieces {key : String} (h : unitSeparator ∉ (stableValue a key).toList) :
    (labelPieces a key).length = 1 := by
  unfold labelPieces
  rw [List.splitOn_eq_singleton h]
  rfl

/-- Labels without a separator are aligned where both alerts lack the same ones. -/
theorem aligned_of_plain
    (hplain : ∀ key ∈ stableLabels, unitSeparator ∉ (stableValue a key).toList ∧
      unitSeparator ∉ (stableValue b key).toList)
    (hmissing : ∀ key ∈ stableLabels, a.lookup key = none ↔ b.lookup key = none) :
    Aligned a b := by
  intro key hkey
  rw [length_labelPieces (hplain key hkey).1, length_labelPieces (hplain key hkey).2]
  exact ⟨rfl, hmissing key hkey⟩

/-- **When fingerprints identify alerts.** Where SHA-256 tells the two texts apart, two alerts of
one fingerprint have the same stable labels if and only if they are aligned as soon as their labels
have the same pieces. -/
theorem fingerprints_identify_iff (u : Unicode) (sha : Sha256) (x y : AlertmanagerAlert)
    (hinjective : sha.hexdigest (stableText x.labels) = sha.hexdigest (stableText y.labels) →
      stableText x.labels = stableText y.labels) :
    ((fromAlertmanager u sha.hashes x).fingerprint =
        (fromAlertmanager u sha.hashes y).fingerprint → SameIdentity x.labels y.labels) ↔
      (pieces x.labels = pieces y.labels → Aligned x.labels y.labels) := by
  have hfingerprint : (fromAlertmanager u sha.hashes x).fingerprint =
      (fromAlertmanager u sha.hashes y).fingerprint ↔ pieces x.labels = pieces y.labels := by
    rw [← stableText_eq_iff]
    exact ⟨hinjective, congrArg sha.hexdigest⟩
  rw [hfingerprint]
  constructor
  · intro hsame hpieces
    exact aligned_of_sameIdentity (hsame hpieces)
  · intro haligned hpieces
    exact sameIdentity_of_aligned hpieces (haligned hpieces)

/-! ### A separator in a label -/

/-- The labels of an alert with a name and a service. -/
private def named (name service : String) : Labels :=
  ((∅ : Labels).insert "alertname" name).insert "service" service

private theorem named_entries (name service : String) :
    (named name service).entries = [⟨"service", service⟩, ⟨"alertname", name⟩] := rfl

private theorem named_card (name service : String) :
    1 ≤ (named name service).entries.length ∧ (named name service).entries.length ≤ 64 := by
  rw [named_entries, List.length_cons, List.length_singleton]
  decide

private theorem named_bounded {name service : String} (hname : name.length ≤ 2048)
    (hservice : service.length ≤ 2048) :
    ∀ entry ∈ (named name service).entries, entry.1.length ≤ 128 ∧ entry.2.length ≤ 2048 := by
  rw [named_entries]
  simp only [List.forall_mem_cons, hname, hservice, and_true, List.not_mem_nil, false_implies,
    implies_true]
  decide

private def firingAlert (name service : String) (hname : name.length ≤ 2048)
    (hservice : service.length ≤ 2048) : AlertmanagerAlert where
  status := .firing
  labels := named name service
  startsAt := { clock := 0 }
  labels_card := named_card name service
  labels_bounded := named_bounded hname hservice
  annotations_card := Nat.zero_le _
  annotations_bounded _ h := absurd h List.not_mem_nil

/-- An alert with the separator in its name. -/
private def cutName : AlertmanagerAlert :=
  firingAlert "HighCPU\x1fapi" "web" (by decide) (by decide)

/-- The alert with the separator in its service. -/
private def cutService : AlertmanagerAlert :=
  firingAlert "HighCPU" "api\x1fweb" (by decide) (by decide)

private theorem stableText_cut : stableText cutName.labels = stableText cutService.labels := by
  decide +kernel

private theorem not_sameIdentity_cut : ¬ SameIdentity cutName.labels cutService.labels := by
  intro h
  exact absurd (h "service" (by decide)) (by decide +kernel)

/-- A digest of one digit. -/
private def oneDigit : Sha256 := ⟨fun _ ↦ "0", fun _ ↦ "", fun _ ↦ by decide⟩

/-- Under every digest two alerts whose stable labels differ have one fingerprint. -/
theorem fingerprints_not_identify :
    ¬ ∃ (u : Unicode) (sha : Sha256), ∀ x y : AlertmanagerAlert,
      (sha.hexdigest (stableText x.labels) = sha.hexdigest (stableText y.labels) →
        stableText x.labels = stableText y.labels) →
      (fromAlertmanager u sha.hashes x).fingerprint =
        (fromAlertmanager u sha.hashes y).fingerprint → SameIdentity x.labels y.labels := by
  rintro ⟨u, sha, h⟩
  exact not_sameIdentity_cut
    (h cutName cutService (fun _ ↦ stableText_cut) (congrArg sha.hexdigest stableText_cut))

theorem fingerprints_identify_iff_cut :
    ((fromAlertmanager ⟨fun _ ↦ false, fun _ ↦ none⟩ oneDigit.hashes cutName).fingerprint =
        (fromAlertmanager ⟨fun _ ↦ false, fun _ ↦ none⟩ oneDigit.hashes cutService).fingerprint →
      SameIdentity cutName.labels cutService.labels) ↔
      (pieces cutName.labels = pieces cutService.labels →
        Aligned cutName.labels cutService.labels) :=
  fingerprints_identify_iff _ oneDigit cutName cutService fun _ ↦ stableText_cut

end CloudWard.Alerts
