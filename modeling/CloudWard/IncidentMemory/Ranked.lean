import CloudWard.IncidentMemory.Recall

/-!
# The order of similar incidents

`find_similar`, `incident_memory/service.py:88`, with every limit and with or without an excluded
incident. It clamps the limit to 1 to 20, so it may answer with one row where none was asked for.
What it leaves out of the rows it ranks has no higher score than what it answers with.
-/

namespace CloudWard.IncidentMemory

open CloudWard.Alerts CloudWard.Logic CloudWard.Security

/-- `min(max(limit, 1), 20)`. -/
def boundedLimit (limit : Int) : Nat := (min (max limit 1) 20).toNat

/-- The rows a query ranks, `incident_memory/service.py:97`. -/
def pool (rows : List IncidentMemoryRecord) (excluded : Option Nat) : List IncidentMemoryRecord :=
  ((rows.filter (some ·.incidentId ≠ excluded)).mergeSort newerFirst).take 500

/-- The rows of a score of 40 or more, in their order. -/
def ranking (rows : List IncidentMemoryRecord) (query : FingerprintInput) (excluded : Option Nat) :
    List RankedMemory :=
  (((pool rows excluded).map (rank · query)).filter (40 ≤ ·.score)).mergeSort rankedFirst

/-- `find_similar`, `incident_memory/service.py:88`. -/
def findAmong (rows : List IncidentMemoryRecord) (query : FingerprintInput)
    (excluded : Option Nat) (limit : Int) : Except Exc (List SimilarIncidentResponse) :=
  ((ranking rows query excluded).take (boundedLimit limit)).mapM response

/-- What is left out of a ranking: the rows of a lower score, and those beyond the limit. -/
def omitted (rows : List IncidentMemoryRecord) (query : FingerprintInput) (excluded : Option Nat)
    (limit : Int) : List RankedMemory :=
  (ranking rows query excluded).drop (boundedLimit limit) ++
    ((pool rows excluded).map (rank · query)).filter (¬ 40 ≤ ·.score)

/-- A choice of ranked rows, and what it leaves out. -/
structure Ranks (query : FingerprintInput) (limit : Nat) (chosen left : List RankedMemory) :
    Prop where
  length : chosen.length ≤ limit
  sorted : chosen.Pairwise fun a b ↦ b.score ≤ a.score
  enough : ∀ value ∈ chosen, 40 ≤ value.score
  service : ∀ value ∈ chosen, value.record.serviceKey = query.canonical.service
  first : chosen.Pairwise fun a b ↦
    b.record.fingerprint = query.canonical → a.record.fingerprint = query.canonical
  dominates : ∀ value ∈ chosen, ∀ other ∈ left, other.score ≤ value.score

variable {rows : List IncidentMemoryRecord} {query : FingerprintInput} {excluded : Option Nat}
  {limit : Int} {record : IncidentMemoryRecord}

/-- The query that the other endpoints make. -/
theorem findAmong_some (rows : List IncidentMemoryRecord) (query : FingerprintInput)
    (excluded limit : Nat) :
    findAmong rows query (some excluded) limit = findSimilar rows query excluded limit := by
  have hpool : pool rows (some excluded) = considered rows excluded := by
    simp [pool, considered]
  have hlimit : boundedLimit limit = min (max limit 1) 20 := by
    simp only [boundedLimit]
    omega
  unfold findAmong findSimilar ranking
  rw [hpool, hlimit]
  rfl

/-! ### Scores -/

/-- A row of another service has no points. -/
theorem score_of_service_ne (h : record.serviceKey ≠ query.canonical.service) :
    (rank record query).score = 0 := by
  unfold rank
  rw [if_pos h]

/-- A row of the fingerprint and the service of a query has at least 95. -/
theorem score_of_fingerprint (hservice : record.serviceKey = query.canonical.service)
    (h : record.fingerprint = query.canonical) : 95 ≤ (rank record query).score := by
  have hsignals : ∃ rest, (signals record query).filter (·.1) =
      (true, 65, "same fingerprint") :: (true, 30, "same service") :: rest := by
    unfold signals
    generalize query.canonical = canonical at *
    dsimp only
    rw [decide_eq_true h, decide_eq_true hservice]
    exact ⟨_, rfl⟩
  obtain ⟨rest, hrest⟩ := hsignals
  unfold rank
  rw [if_neg (not_not.mpr hservice), hrest]
  simp only [List.map_cons, List.sum_cons]
  omega

private theorem rank_service (h : 40 ≤ (rank record query).score) :
    record.serviceKey = query.canonical.service := by
  by_contra hservice
  rw [score_of_service_ne hservice] at h
  omega

/-- A row that has no higher score than one of the fingerprint of the query has it, if it is of
the service. -/
private theorem fingerprint_of_score_le {a b : IncidentMemoryRecord}
    (ha : 40 ≤ (rank b query).score) (hle : (rank b query).score ≤ (rank a query).score)
    (h : b.fingerprint = query.canonical) : a.fingerprint = query.canonical := by
  by_contra hne
  have hlow := (rank_of_fingerprint_ne hne).1
  have hhigh := score_of_fingerprint (rank_service ha) h
  omega

/-! ### Rankings -/

private theorem score_le_of_rankedFirst {a b : RankedMemory} (h : rankedFirst a b) :
    b.score ≤ a.score := by
  simp only [rankedFirst, decide_eq_true_iff] at h
  omega

private theorem mem_ranking {value : RankedMemory} (h : value ∈ ranking rows query excluded) :
    40 ≤ value.score ∧ ∃ record ∈ pool rows excluded, rank record query = value := by
  have hmem := (List.mergeSort_perm _ _).mem_iff.mp h
  obtain ⟨hrank, hscore⟩ := List.mem_filter.mp hmem
  exact ⟨of_decide_eq_true hscore, List.mem_map.mp hrank⟩

theorem boundedLimit_le (h : 1 ≤ limit) : (boundedLimit limit : Int) ≤ limit := by
  unfold boundedLimit
  omega

/-- The chosen rows and the others are all that is ranked. -/
theorem chosen_append_omitted (rows : List IncidentMemoryRecord) (query : FingerprintInput)
    (excluded : Option Nat) (limit : Int) :
    ((ranking rows query excluded).take (boundedLimit limit) ++
      omitted rows query excluded limit).Perm ((pool rows excluded).map (rank · query)) := by
  unfold omitted
  rw [← List.append_assoc, List.take_append_drop]
  refine ((List.mergeSort_perm _ _).append_right _).trans ?_
  have hfilter := List.filter_append_perm (fun value : RankedMemory ↦ 40 ≤ value.score)
    ((pool rows excluded).map (rank · query))
  simpa only [decide_not] using hfilter

private theorem ranks_ranking (rows : List IncidentMemoryRecord) (query : FingerprintInput)
    (excluded : Option Nat) (limit : Int) :
    Ranks query (boundedLimit limit) ((ranking rows query excluded).take (boundedLimit limit))
      (omitted rows query excluded limit) := by
  have hsorted := pairwise_take_mergeSort rankedFirst_trans rankedFirst_total
    (((pool rows excluded).map (rank · query)).filter (40 ≤ ·.score)) (boundedLimit limit)
  constructor
  · exact List.length_take_le _ _
  · exact hsorted.imp score_le_of_rankedFirst
  · intro value hvalue
    exact (mem_ranking (List.mem_of_mem_take hvalue)).1
  · intro value hvalue
    obtain ⟨hscore, record, -, rfl⟩ := mem_ranking (List.mem_of_mem_take hvalue)
    rw [record_rank]
    exact rank_service hscore
  · refine List.Pairwise.imp_of_mem (fun {a b} ha hb hfirst ↦ ?_) hsorted
    obtain ⟨-, first, -, rfl⟩ := mem_ranking (List.mem_of_mem_take ha)
    obtain ⟨hscore, second, -, rfl⟩ := mem_ranking (List.mem_of_mem_take hb)
    rw [record_rank, record_rank]
    exact fingerprint_of_score_le hscore (score_le_of_rankedFirst hfirst)
  · intro value hvalue other hother
    rcases List.mem_append.mp hother with hdrop | hlow
    · exact score_le_of_rankedFirst
        (le_of_mem_take_of_mem_drop rankedFirst_trans rankedFirst_total hvalue hdrop)
    · have hscore := (mem_ranking (List.mem_of_mem_take hvalue)).1
      have hother := of_decide_eq_true (List.mem_filter.mp hlow).2
      omega

/-- A row of the fingerprint of a query. -/
private def lone (query : FingerprintInput) : IncidentMemoryRecord where
  incidentId := 0
  fingerprint := query.canonical
  serviceKey := query.canonical.service
  incidentType := query.canonical.incidentType
  alertName := query.canonical.alertName
  ns := query.ns
  rootCauseCategory := query.rootCauseCategory
  action := none
  result := "RESOLVED"
  verificationSuccess := some true
  durationSeconds := none
  successful := true
  resolvedAt := 0
  operatorSummary := none

private theorem findAmong_lone (query : FingerprintInput) :
    findAmong [lone query] query none 0 = .ok [answer (rank (lone query) query)] := by
  have hpool : pool [lone query] none = [lone query] := by
    simp [pool]
  have hservice : (lone query).serviceKey = query.canonical.service := by
    unfold lone
    dsimp only
  have hfingerprint : (lone query).fingerprint = query.canonical := by
    unfold lone
    dsimp only
  have hscore : 40 ≤ (rank (lone query) query).score := by
    have hhigh := score_of_fingerprint hservice hfingerprint
    omega
  have hfilter : [rank (lone query) query].filter (40 ≤ ·.score) = [rank (lone query) query] :=
    List.filter_eq_self.mpr fun value hvalue ↦ by
      rw [List.mem_singleton.mp hvalue]
      exact decide_eq_true hscore
  have hranking : ranking [lone query] query none = [rank (lone query) query] := by
    unfold ranking
    rw [hpool, List.map_singleton, hfilter, List.mergeSort_singleton]
  have hknown : ∀ value ∈ [rank (lone query) query], KnownAction value.record := by
    intro value hvalue text htext
    rw [List.mem_singleton.mp hvalue, record_rank] at htext
    cases htext
  unfold findAmong
  rw [hranking]
  exact mapM_response_eq_ok.mpr ⟨hknown, rfl⟩

/-- A query for the service `api`. -/
private def apiQuery : FingerprintInput :=
  { service := "api", incidentType := "reliability.bad-deployment"
    alertName := "HighHTTPErrorRate", ns := none, labels := ∅ }

end CloudWard.IncidentMemory
