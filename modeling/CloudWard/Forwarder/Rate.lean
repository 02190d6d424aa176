import CloudWard.Forwarder.Dedup
import CloudWard.Logic.Window

/-!
# The rate of the forwarder

`_within_rate`, `security-forwarder/forwarder.py:251`, is asked by `run` for the documents that are
no duplicates. In whatever sixty seconds it lets through as many as the rate and no more.
-/

namespace CloudWard.Forwarder

open CloudWard.Logic CloudWard.Security Python

/-- What the rate says of an event that it is asked for. -/
def Fate.verdict? : Fate → Option Bool
  | .rateLimited => some false
  | .passed _ => some true
  | _ => none

@[simp] theorem Fate.verdict?_ignored : Fate.ignored.verdict? = none := rfl

@[simp] theorem Fate.verdict?_duplicate : Fate.duplicate.verdict? = none := rfl

@[simp] theorem Fate.verdict?_rateLimited : Fate.rateLimited.verdict? = some false := rfl

@[simp] theorem Fate.verdict?_passed (document : TetragonDocument) :
    (Fate.passed document).verdict? = some true := rfl

/-- The rate lets an event through that passes. -/
@[simp] theorem Fate.isSome_document? (fate : Fate) :
    fate.document?.isSome = (fate.verdict? == some true) := by
  cases fate <;> rfl

/-- The events that the rate is asked for, with the times and what it says. -/
def rateLog (outcomes : List (Arrival × Fate)) : List (ℚ × Bool) :=
  outcomes.filterMap fun outcome ↦ outcome.2.verdict?.map (outcome.1.sentAt, ·)

/-- How many events pass at times of a kind. -/
def passes (outcomes : List (Arrival × Fate)) (kind : ℚ → Bool) : Nat :=
  outcomes.countP fun outcome ↦ outcome.2.document?.isSome && kind outcome.1.sentAt

/-- In every half-open window of sixty seconds at most as many events pass as the rate says, and
one that the rate drops comes after as many passed in the sixty seconds before it. -/
structure RateExact (rate : Nat) (outcomes : List (Arrival × Fate)) : Prop where
  from_start : ∀ start : ℚ, passes outcomes (fun t ↦ start ≤ t ∧ t < start + 60) ≤ rate
  to_end : ∀ start : ℚ, passes outcomes (fun t ↦ start < t ∧ t ≤ start + 60) ≤ rate
  refused : ∀ before a after, outcomes = before ++ (a, .rateLimited) :: after →
    passes before (fun t ↦ a.sentAt - 60 < t ∧ t ≤ a.sentAt) = rate

/-! ### The log of a run -/

variable {outcomes : List (Arrival × Fate)}

theorem mem_rateLog {e : ℚ × Bool} (h : e ∈ rateLog outcomes) :
    ∃ outcome ∈ outcomes, outcome.1.sentAt = e.1 := by
  obtain ⟨outcome, hmem, hlog⟩ := List.mem_filterMap.mp h
  obtain ⟨verdict, -, rfl⟩ := Option.map_eq_some_iff.mp hlog
  exact ⟨outcome, hmem, rfl⟩

theorem passes_eq_countP (outcomes : List (Arrival × Fate)) (kind : ℚ → Bool) :
    passes outcomes kind = (Window.admitted (rateLog outcomes)).countP kind := by
  induction outcomes with
  | nil => rfl
  | cons outcome rest ih =>
    unfold passes rateLog at ih ⊢
    simp only [Fate.isSome_document?] at ih ⊢
    rcases outcome with ⟨a, fate⟩
    cases fate with
    | passed document => simp [List.countP_cons, ih]
    | rateLimited => simp [ih]
    | ignored => simp [List.filterMap_cons, ih]
    | duplicate => simp [List.filterMap_cons, ih]

/-- An exact log is one of exact outcomes, where no event comes before an earlier one. -/
theorem rateExact_of_exact {rate : Nat} (h : Window.Exact rate 60 (rateLog outcomes))
    (hmono : (outcomes.map (·.1.sentAt)).Pairwise (· ≤ ·)) : RateExact rate outcomes where
  from_start start := by
    rw [passes_eq_countP]
    apply h.admits
    intro s t hs ht
    simp only [decide_eq_true_eq] at hs ht
    exact lt_of_lt_of_le (sub_lt_iff_lt_add.mpr ht.2) hs.1
  to_end start := by
    rw [passes_eq_countP]
    apply h.admits
    intro s t hs ht
    simp only [decide_eq_true_eq] at hs ht
    exact lt_of_le_of_lt (sub_le_iff_le_add.mpr ht.2) hs.1
  refused before a after houtcomes := by
    subst houtcomes
    rw [passes_eq_countP, ← h.refuses (rateLog before) a.sentAt (rateLog after)]
    · apply List.countP_congr
      intro t ht
      -- whatever passed came no later
      obtain ⟨outcome, hmem, hat⟩ := mem_rateLog (Window.mem_of_mem_admitted ht)
      rw [List.map_append, List.pairwise_append] at hmono
      have hle := hmono.2.2 _ (List.mem_map_of_mem hmem) a.sentAt (by simp)
      rw [hat] at hle
      simp [hle]
    · simp [rateLog]

/-! ### Runs -/

section Run

variable (u : Unicode) (r : Repr) (fingerprint : TetragonDocument → String)
variable (settings : ForwarderSettings)

/-- The rate asks its window. -/
theorem withinRate_eq_ask (f : Filter) (rate : Nat) (now : ℚ) :
    f.withinRate rate now =
      ((Window.ask rate 60 f.sent now).1,
        { f with sent := (Window.ask rate 60 f.sent now).2 }) := by
  unfold Filter.withinRate Window.ask
  dsimp only
  split
  · rfl
  · rfl

/-- An event keeps the queue in step with the log. -/
theorem tracks_fate {f : Filter} {log : List (ℚ × Bool)} {a : Arrival}
    (h : Window.Tracks settings.rate 60 log f.sent) (hlast : ∀ e ∈ log, e.1 ≤ a.sentAt) :
    Window.Tracks settings.rate 60
      (log ++ rateLog [(a, (f.fate u r fingerprint settings a).1)])
      (f.fate u r fingerprint settings a).2.sent := by
  have hask := h.ask hlast
  unfold Filter.fate
  dsimp only
  cases normalize u r a.nowText settings.nodeName (f.sequence + 1) a.raw with
  | none => simpa [rateLog, List.filterMap_cons] using h
  | some document =>
    unfold Filter.duplicate
    dsimp only
    split
    · next hduplicate =>
      split at hduplicate
      · cases hduplicate
        simpa [rateLog, List.filterMap_cons] using h
      · cases hduplicate
    · next hnew =>
      split at hnew
      · cases hnew
      · cases hnew
        rw [withinRate_eq_ask]
        dsimp only
        cases hverdict : (Window.ask settings.rate 60 f.sent a.sentAt).1 with
        | false => simpa [rateLog, hverdict] using hask
        | true => simpa [rateLog, hverdict] using hask

theorem length_fates (f : Filter) (arrivals : List Arrival) :
    (f.fates u r fingerprint settings arrivals).length = arrivals.length := by
  induction arrivals generalizing f with
  | nil => rfl
  | cons a rest ih =>
    unfold Filter.fates
    rw [List.length_cons, List.length_cons, ih]

/-- A run keeps the log exact. -/
theorem exact_fates (arrivals : List Arrival) {f : Filter} {log : List (ℚ × Bool)}
    (h : Window.Tracks settings.rate 60 log f.sent)
    (hlast : ∀ e ∈ log, ∀ a ∈ arrivals, e.1 ≤ a.sentAt)
    (hmono : (arrivals.map (·.sentAt)).Pairwise (· ≤ ·)) :
    Window.Exact settings.rate 60
      (log ++ rateLog (arrivals.zip (f.fates u r fingerprint settings arrivals))) := by
  induction arrivals generalizing f log with
  | nil => simpa [rateLog] using h.exact
  | cons a rest ih =>
    rw [List.map_cons, List.pairwise_cons] at hmono
    have htracks := tracks_fate u r fingerprint settings h fun e he ↦ hlast e he a (by simp)
    have hrest := ih htracks ?_ hmono.2
    · unfold Filter.fates
      rw [List.zip_cons_cons, ← List.singleton_append (l := List.zip _ _), rateLog,
        List.filterMap_append, ← List.append_assoc]
      exact hrest
    · intro e he b hb
      rcases List.mem_append.mp he with he | he
      · exact hlast e he b (List.mem_cons_of_mem a hb)
      · obtain ⟨outcome, hmem, hat⟩ := mem_rateLog he
        obtain rfl := List.mem_singleton.mp hmem
        rw [← hat]
        exact hmono.1 _ (List.mem_map_of_mem hb)

/-- **The rate is exact.** Where no event comes before an earlier one, the forwarder lets at most
as many through in any half-open window of sixty seconds as the rate says, and the rate drops an
event only after as many passed in the sixty seconds before it. -/
theorem withinRate_exact (arrivals : List Arrival)
    (hmono : (arrivals.map (·.sentAt)).Pairwise (· ≤ ·)) :
    RateExact settings.rate
      (arrivals.zip (Filter.fates u r fingerprint settings {} arrivals)) := by
  have hexact := exact_fates u r fingerprint settings arrivals
    (f := {}) (Window.tracks_nil settings.rate 60) (by simp) hmono
  have harrivals := List.map_fst_zip (length_fates u r fingerprint settings {} arrivals).ge
  have htimes : (arrivals.zip (Filter.fates u r fingerprint settings {} arrivals)).map
      (·.1.sentAt) = arrivals.map (·.sentAt) := by
    conv_rhs => rw [← harrivals, List.map_map]
    rfl
  exact rateExact_of_exact (by simpa using hexact) (htimes ▸ hmono)

end Run

/-- With a rate of one, an event fifty-nine seconds after one that passes is dropped, and one
after a whole minute is not. -/
theorem withinRate_exact_curl :
    RateExact 1 ([curlAt 0, curlAt 59, curlAt 60].zip
        (Filter.fates plainUnicode plainRepr TetragonDocument.evidenceRef { rate := 1 } {}
          [curlAt 0, curlAt 59, curlAt 60])) ∧
      (Filter.fates plainUnicode plainRepr TetragonDocument.evidenceRef { rate := 1 } {}
        [curlAt 0, curlAt 59, curlAt 60]).map Fate.verdict? =
          [some true, some false, some true] := by
  constructor
  · exact withinRate_exact plainUnicode plainRepr TetragonDocument.evidenceRef { rate := 1 }
      [curlAt 0, curlAt 59, curlAt 60] (by decide +kernel)
  · decide +kernel

end CloudWard.Forwarder
