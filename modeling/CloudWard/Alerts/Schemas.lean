import CloudWard.Alerts.Service
import CloudWard.Db.Columns
import CloudWard.Security.Redaction

/-!
# The schema of a delivered alert

`alerts/schemas.py`: what the Alertmanager webhook accepts, and the alert it makes of it. Texts
are cut to the width of their columns, but may be empty; hashes are functions.
-/

namespace CloudWard.Alerts

open CloudWard.Db CloudWard.Security CloudWard.Security.Redaction Notifications Python

/-- A datetime: the reading of its clock in microseconds since the first day of year 1, and the
offset of that clock from UTC, where it has one. -/
structure Datetime where
  clock : Nat
  utcOffset : Option Int := none
  offset_lt : ∀ offset ∈ utcOffset, |offset| < 86400000000 := by simp

/-- The moment a datetime names, in microseconds; without an offset the clock shows UTC. -/
def Datetime.instant (t : Datetime) : Int := t.clock - t.utcOffset.getD 0

/-- `AlertmanagerAlert`, `alerts/schemas.py:20`, less the fields that normalization drops. -/
structure AlertmanagerAlert where
  status : AlertStatus
  labels : Labels
  annotations : Labels := ∅
  startsAt : Datetime
  endsAt : Option Datetime := none
  labels_card : 1 ≤ labels.entries.length ∧ labels.entries.length ≤ 64
  labels_bounded : ∀ entry ∈ labels.entries, entry.1.length ≤ 128 ∧ entry.2.length ≤ 2048
  annotations_card : annotations.entries.length ≤ 32
  annotations_bounded : ∀ entry ∈ annotations.entries,
    entry.1.length ≤ 128 ∧ entry.2.length ≤ 2048

/-- `STABLE_LABELS`, `alerts/schemas.py:17`. -/
def stableLabels : List String :=
  ["alertname", "service", "environment", "namespace", "cluster", "deployment"]

/-- `text[:n]`. -/
def cut (n : Nat) (text : String) : String := String.ofList (text.toList.take n)

/-- `Environment(raw) if raw in {...} else Environment.STAGING`. -/
def environmentOf (raw : String) : Environment :=
  ([.local, .staging, .production].find? fun environment : Environment ↦
    environment.value.toList = Redaction.lower raw).getD .staging

/-- `redact` of a dictionary of texts. -/
def redactLabels (u : Unicode) (labels : Labels) : Labels :=
  ⟨labels.entries.map fun entry ↦
      ⟨entry.1, if sensitiveKey entry.1 then "[REDACTED]" else redactText u entry.2⟩, by
    have h := labels.nodupKeys
    rwa [List.NodupKeys, List.keys, List.map_map]⟩

/-- `digest_payload`, `alerts/schemas.py:97`. -/
structure DigestPayload where
  status : AlertStatus
  startsAt : Datetime
  endsAt : Option Datetime
  labels : Labels
  annotations : Labels

/-- The hashes of an alert, as hexadecimal digits. -/
structure Hashes where
  fingerprint : List String → String
  payloadDigest : DigestPayload → String
  fingerprint_fits : ∀ stable, Column 64 (fingerprint stable)
  payloadDigest_fits : ∀ payload, Column 64 (payloadDigest payload)

/-- `from_alertmanager`, `alerts/schemas.py:83`. A column of dates keeps the moment of a
datetime, counted from a day before year 1. -/
def fromAlertmanager (u : Unicode) (hashes : Hashes) (alert : AlertmanagerAlert) :
    NormalizedAlert where
  alertName := cut 128 ((alert.labels.lookup "alertname").getD "UnknownPrometheusAlert")
  status := alert.status
  severity := cut 16 ((alert.labels.lookup "severity").getD "warning")
  service := cut 255 (orElse (alert.labels.lookup "service")
    (orElse (alert.labels.lookup "job") "unknown"))
  environment := environmentOf ((alert.labels.lookup "environment").getD "staging")
  ns := ((alert.labels.lookup "namespace").filter (· ≠ "")).map (cut 253)
  startsAt := (alert.startsAt.instant + 86400000000).toNat
  endsAt := alert.endsAt.map fun t ↦ (t.instant + 86400000000).toNat
  labels := alert.labels
  annotations := redactLabels u alert.annotations
  fingerprint := hashes.fingerprint
    (stableLabels.map fun key ↦ (alert.labels.lookup key).getD "")
  payloadDigest := hashes.payloadDigest
    { status := alert.status
      startsAt := alert.startsAt
      endsAt := alert.endsAt
      labels := alert.labels
      annotations := redactLabels u alert.annotations }

/-! ### The texts of a normalized alert -/

theorem length_cut_le (n : Nat) (text : String) : (cut n text).length ≤ n := by
  rw [cut, String.length_ofList]
  exact List.length_take_le n _

/-- A cut text is empty only if the text is. -/
theorem cut_eq_empty {n : Nat} (hn : n ≠ 0) {text : String} : cut n text = "" ↔ text = "" := by
  rw [cut, ← String.toList_inj, String.toList_ofList, ← @String.toList_inj text]
  change _ = [] ↔ _ = []
  rw [List.take_eq_nil_iff, or_iff_right hn]

theorem orElse_ne_empty (text : Option String) {other : String} (h : other ≠ "") :
    orElse text other ≠ "" := by
  unfold orElse
  cases hfilter : text.filter (· ≠ "") with
  | none => exact h
  | some value => exact of_decide_eq_true (Option.filter_eq_some_iff.mp hfilter).2

variable (u : Unicode) (hashes : Hashes) (alert : AlertmanagerAlert)

/-- A normalized alert names a service. -/
theorem service_fromAlertmanager_ne_empty : (fromAlertmanager u hashes alert).service ≠ "" := by
  have hjob : orElse (alert.labels.lookup "job") "unknown" ≠ "" := orElse_ne_empty _ (by decide)
  intro h
  exact orElse_ne_empty _ hjob ((cut_eq_empty (by decide)).mp h)

/-- Its name is empty where the `alertname` label is. -/
theorem alertName_fromAlertmanager_eq_empty :
    (fromAlertmanager u hashes alert).alertName = "" ↔
      alert.labels.lookup "alertname" = some "" := by
  unfold fromAlertmanager
  rw [cut_eq_empty (by decide)]
  cases alert.labels.lookup "alertname" with
  | none => simp
  | some name => simp

end CloudWard.Alerts
