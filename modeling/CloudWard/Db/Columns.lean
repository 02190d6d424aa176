import CloudWard.Base.World

/-!
# Column types

The widths of the text and counter columns of `db/models.py` that deliveries fill. PostgreSQL
rejects a text that is longer than its column, a text with a zero character and a counter above
the largest 32-bit integer. `Stores` is a database that fails for no other reason.
-/

namespace CloudWard.Db

open CloudWard.Logic

/-- `Text`. -/
def Text (text : String) : Prop := '\x00' ∉ text.toList

/-- `String(n)`. -/
def Column (n : Nat) (text : String) : Prop := text.length ≤ n ∧ Text text

/-- `Integer`, for a counter. -/
def Counter (n : Nat) : Prop := n ≤ 2147483647

instance (text : String) : Decidable (Text text) := by
  unfold Text
  infer_instance

instance (n : Nat) (text : String) : Decidable (Column n text) := by
  unfold Column
  infer_instance

instance (n : Nat) : Decidable (Counter n) := Nat.decLe _ _

/-- A row of `incidents`, `db/models.py:203`. -/
structure Incident.Fits (row : Incident) : Prop where
  correlationId : Column 128 row.correlationId
  incidentType : Column 64 row.incidentType
  title : Column 255 row.title
  summary : ∀ text ∈ row.summary, Text text
  severity : Column 16 row.severity
  runbookId : ∀ id ∈ row.runbookId, Column 255 id

/-- A row of `alert_records`, `db/models.py:370`. -/
structure AlertRecord.Fits (row : AlertRecord) : Prop where
  source : Column 32 row.source
  fingerprint : Column 64 row.fingerprint
  payloadDigest : Column 64 row.payloadDigest
  alertName : Column 128 row.alertName
  severity : Column 16 row.severity
  service : Column 255 row.service
  ns : ∀ ns ∈ row.ns, Column 253 ns
  repeatCount : Counter row.repeatCount

/-- A row of `security_events`, `db/models.py:559`. -/
structure SecurityEvent.Fits (row : SecurityEvent) : Prop where
  source : Column 255 row.source
  fingerprint : Column 64 row.fingerprint
  severity : Column 16 row.severity
  ns : Column 253 row.ns
  pod : Column 253 row.pod
  workload : ∀ workload ∈ row.workload, Column 253 workload
  policy : Column 253 row.policy
  dedupCount : Counter row.dedupCount

instance (row : Incident) : Decidable row.Fits :=
  decidable_of_iff
    (Column 128 row.correlationId ∧ Column 64 row.incidentType ∧ Column 255 row.title ∧
      (∀ text ∈ row.summary, Text text) ∧ Column 16 row.severity ∧
      ∀ id ∈ row.runbookId, Column 255 id)
    ⟨fun ⟨h1, h2, h3, h4, h5, h6⟩ ↦ ⟨h1, h2, h3, h4, h5, h6⟩,
      fun ⟨h1, h2, h3, h4, h5, h6⟩ ↦ ⟨h1, h2, h3, h4, h5, h6⟩⟩

instance (row : AlertRecord) : Decidable row.Fits :=
  decidable_of_iff
    (Column 32 row.source ∧ Column 64 row.fingerprint ∧ Column 64 row.payloadDigest ∧
      Column 128 row.alertName ∧ Column 16 row.severity ∧ Column 255 row.service ∧
      (∀ ns ∈ row.ns, Column 253 ns) ∧ Counter row.repeatCount)
    ⟨fun ⟨h1, h2, h3, h4, h5, h6, h7, h8⟩ ↦ ⟨h1, h2, h3, h4, h5, h6, h7, h8⟩,
      fun ⟨h1, h2, h3, h4, h5, h6, h7, h8⟩ ↦ ⟨h1, h2, h3, h4, h5, h6, h7, h8⟩⟩

instance (row : SecurityEvent) : Decidable row.Fits :=
  decidable_of_iff
    (Column 255 row.source ∧ Column 64 row.fingerprint ∧ Column 16 row.severity ∧
      Column 253 row.ns ∧ Column 253 row.pod ∧ (∀ workload ∈ row.workload, Column 253 workload) ∧
      Column 253 row.policy ∧ Counter row.dedupCount)
    ⟨fun ⟨h1, h2, h3, h4, h5, h6, h7, h8⟩ ↦ ⟨h1, h2, h3, h4, h5, h6, h7, h8⟩,
      fun ⟨h1, h2, h3, h4, h5, h6, h7, h8⟩ ↦ ⟨h1, h2, h3, h4, h5, h6, h7, h8⟩⟩

/-- Every row that a delivery fills fits its columns. -/
structure Database.Fits (db : Database) : Prop where
  incidents : ∀ row ∈ db.incidents, row.Fits
  alerts : ∀ row ∈ db.alerts, row.Fits
  securityEvents : ∀ row ∈ db.securityEvents, row.Fits

instance (db : Database) : Decidable db.Fits :=
  decidable_of_iff
    ((∀ row ∈ db.incidents, row.Fits) ∧ (∀ row ∈ db.alerts, row.Fits) ∧
      ∀ row ∈ db.securityEvents, row.Fits)
    ⟨fun ⟨h1, h2, h3⟩ ↦ ⟨h1, h2, h3⟩, fun ⟨h1, h2, h3⟩ ↦ ⟨h1, h2, h3⟩⟩

/-- A database whose statements fail exactly when a row does not fit. -/
def Stores (env : Env) : Prop := ∀ w, env.database w = none ↔ w.db.Fits

/-- An environment with such a database. -/
def storing (env : Env) : Env :=
  { env with database := fun w ↦ if w.db.Fits then none else some .database }

theorem stores_storing (env : Env) : Stores (storing env) := by
  intro w
  change (if w.db.Fits then none else some Exc.database) = none ↔ w.db.Fits
  by_cases h : w.db.Fits
  · rw [if_pos h]
    exact ⟨fun _ ↦ h, fun _ ↦ rfl⟩
  · rw [if_neg h]
    exact ⟨fun hnone ↦ (nomatch hnone), fun hfits ↦ absurd hfits h⟩

theorem fits_empty : ({} : Database).Fits :=
  ⟨fun _ h ↦ absurd h List.not_mem_nil, fun _ h ↦ absurd h List.not_mem_nil,
    fun _ h ↦ absurd h List.not_mem_nil⟩

end CloudWard.Db
