import CloudWard.Finops.Providers

/-!
# The attribution of costs

`_find_allocation`, `finops/providers.py:187`, takes an allocation whose name contains the requested
deployment and namespace. The name of another deployment may contain them too: then its cost is
taken for the requested one, or both are refused. Which names are safe is said of the names alone.
-/

namespace CloudWard.Finops

open CloudWard.Logic

/-- The components of the name of an allocation. -/
def components (name : String) : List (List Char) := name.toList.splitOn '/'

/-- The deployment of an allocation. -/
def deploymentOf (name : String) : List Char := (components name).getLastD []

/-- The allocation is of a deployment in a namespace: its name is the deployment, or a path that
ends in both. -/
def IsFor (ns deployment name : String) : Prop :=
  name = deployment ∨ [ns.toList, deployment.toList] <:+ components name

instance IsFor.decidable (ns deployment name : String) : Decidable (IsFor ns deployment name) :=
  inferInstanceAs (Decidable (_ ∨ _))

/-- The names of the allocations of a response. -/
def allocationNames (payload : Fields) : List String :=
  match allocations payload with
  | .ok entries => entries.map (·.1)
  | .error _ => []

/-- A cost that is returned is that of an allocation of the deployment, and the cost of the only
allocation of the deployment in the namespace is. -/
structure Attributed (R : Rounding) (ofString : String → Option Double) (ns deployment : String)
    (payload : Fields) : Prop where
  sound : ∀ cost, workloadAllocation R ofString ns deployment payload = .ok cost →
    ∃ entries, allocations payload = .ok entries ∧
      ∃ entry ∈ entries, deploymentOf entry.1 = deployment.toList ∧
        costOf R ofString entry.2 = .ok cost
  complete : ∀ entries entry, allocations payload = .ok entries →
    entries.filter (fun entry ↦ IsFor ns deployment entry.1) = [entry] →
      workloadAllocation R ofString ns deployment payload = costOf R ofString entry.2

/-- A name that alone contains the deployment and the namespace is of the deployment, and where
one name is of the deployment in the namespace it alone contains them. -/
structure Separable (ns deployment : String) (names : List String) : Prop where
  own : ∀ name, names.filter (Matches ns deployment ·) = [name] →
    deploymentOf name = deployment.toList
  alone : ∀ name, names.filter (IsFor ns deployment ·) = [name] →
    names.filter (Matches ns deployment ·) = [name]

variable {R : Rounding} {ofString : String → Option Double} {ns deployment : String}

/-! ### Matches -/

section Matches

variable {payload : Fields} {entries : List (String × Fields)}

theorem allocationNames_of_ok (h : allocations payload = .ok entries) :
    allocationNames payload = entries.map (·.1) := by
  unfold allocationNames
  rw [h]

/-- The names of the entries of a kind. -/
theorem map_filter_fst (p : String → Bool) (entries : List (String × Fields)) :
    (entries.filter fun entry ↦ p entry.1).map (·.1) = (entries.map (·.1)).filter p := by
  rw [List.filter_map]
  rfl

/-- An entry is the only one of a kind where its name is. -/
theorem exists_filter_of_names {p : String → Bool} {name : String}
    (h : (entries.map (·.1)).filter p = [name]) :
    ∃ entry, entries.filter (fun entry ↦ p entry.1) = [entry] ∧ entry.1 = name := by
  rw [← map_filter_fst, List.map_eq_singleton_iff] at h
  exact h

theorem filter_names_of_filter {p : String → Bool} {entry : String × Fields}
    (h : entries.filter (fun entry ↦ p entry.1) = [entry]) :
    (entries.map (·.1)).filter p = [entry.1] := by
  rw [← map_filter_fst, h]
  rfl

/-- The allocation that is found is the only match. -/
theorem findAllocation_of_filter {entry : String × Fields} (h : allocations payload = .ok entries)
    (hfilter : entries.filter (fun entry ↦ Matches ns deployment entry.1) = [entry]) :
    findAllocation ns deployment payload = .ok entry.2 := by
  unfold findAllocation
  rw [h, ok_bind, hfilter]
  rfl

theorem findAllocation_eq_ok {allocation : Fields}
    (h : findAllocation ns deployment payload = .ok allocation) :
    ∃ entries, allocations payload = .ok entries ∧
      ∃ entry, entries.filter (fun entry ↦ Matches ns deployment entry.1) = [entry] ∧
        entry.2 = allocation := by
  unfold findAllocation at h
  obtain ⟨entries, hentries, hfound⟩ := bind_eq_ok h
  refine ⟨entries, hentries, ?_⟩
  split at hfound
  · next entry hfilter =>
    cases hfound
    exact ⟨entry, hfilter, rfl⟩
  · cases hfound

/-- A cost that is returned is that of the only match. -/
theorem workloadAllocation_eq_ok {cost : CostAllocation}
    (h : workloadAllocation R ofString ns deployment payload = .ok cost) :
    ∃ entries, allocations payload = .ok entries ∧
      ∃ entry, entries.filter (fun entry ↦ Matches ns deployment entry.1) = [entry] ∧
        costOf R ofString entry.2 = .ok cost := by
  obtain ⟨allocation, hfound, hcost⟩ := bind_eq_ok h
  obtain ⟨entries, hentries, entry, hfilter, rfl⟩ := findAllocation_eq_ok hfound
  exact ⟨entries, hentries, entry, hfilter, hcost⟩

theorem workloadAllocation_of_filter {entry : String × Fields}
    (h : allocations payload = .ok entries)
    (hfilter : entries.filter (fun entry ↦ Matches ns deployment entry.1) = [entry]) :
    workloadAllocation R ofString ns deployment payload = costOf R ofString entry.2 := by
  unfold workloadAllocation
  rw [findAllocation_of_filter h hfilter, ok_bind]

/-- Where the names are separable the costs are attributed. -/
private theorem attributed_of_separable
    (h : Separable ns deployment (allocationNames payload)) :
    Attributed R ofString ns deployment payload where
  sound cost hcost := by
    obtain ⟨entries, hentries, entry, hfilter, hcost⟩ := workloadAllocation_eq_ok hcost
    rw [allocationNames_of_ok hentries] at h
    refine ⟨entries, hentries, entry, ?_, ?_, hcost⟩
    · exact List.mem_of_mem_filter (hfilter ▸ List.mem_singleton_self entry)
    · exact h.own entry.1 (filter_names_of_filter hfilter)
  complete entries entry hentries hfilter := by
    rw [allocationNames_of_ok hentries] at h
    obtain ⟨other, hmatches, hname⟩ :=
      exists_filter_of_names (h.alone entry.1 (filter_names_of_filter hfilter))
    -- the match has the name of the allocation, and no other entry of that name is for it
    have hfor : IsFor ns deployment entry.1 := by
      have hmem := hfilter ▸ List.mem_singleton_self entry
      exact of_decide_eq_true (List.mem_filter.mp hmem).2
    have hother : other ∈ entries.filter fun entry ↦ IsFor ns deployment entry.1 := by
      rw [List.mem_filter, hname]
      refine ⟨?_, decide_eq_true hfor⟩
      exact List.mem_of_mem_filter (hmatches ▸ List.mem_singleton_self other)
    rw [hfilter, List.mem_singleton] at hother
    subst hother
    exact workloadAllocation_of_filter hentries hmatches

end Matches

/-! ### Marked payloads -/

/-- An allocation that costs one, and others that cost nothing. -/
def mark (name other : String) : Fields :=
  if other = name then [("totalCost", .int 1)] else []

/-- A response of some names, one of which is marked. -/
def marked (names : List String) (name : String) : Fields :=
  [("data", .list [.object (names.map fun other ↦ (other, .object (mark name other)))])]

private theorem allocations_marked (names : List String) (name : String) :
    allocations (marked names name) = .ok (names.map fun other ↦ (other, mark name other)) := by
  show Except.ok (List.filterMap _ (names.map _)) = _
  rw [List.filterMap_map]
  exact congrArg Except.ok
    (congrFun (List.filterMap_eq_map (f := fun other ↦ (other, mark name other))) names)

private theorem allocationNames_marked (names : List String) (name : String) :
    allocationNames (marked names name) = names := by
  rw [allocationNames_of_ok (allocations_marked names name), List.map_map]
  exact List.map_id names

private theorem filter_marked {names : List String} {name : String} {p : String → Bool}
    (h : names.filter p = [name]) :
    (names.map fun other ↦ (other, mark name other)).filter (fun entry ↦ p entry.1) =
      [(name, mark name name)] := by
  rw [List.filter_map]
  show (names.filter p).map _ = _
  rw [h]
  rfl

private theorem number_null : number R ofString (.null) = .ok none := rfl

private theorem number_one : number R ofString (.int 1) = .ok (some (.finite 1)) := by
  have hone : R.ofInt 1 = .ok (.finite 1) :=
    R.fitting_eq_ok.mpr ⟨by simpa using R.round_one, 1, rfl⟩
  have hfloat : float R ofString (.int 1) = .ok (some (.finite 1)) := by
    show (R.ofInt 1).map some = _
    rw [hone]
    rfl
  unfold number
  rw [hfloat]
  simp [Except.mapError, Except.map, Double.isFinite]

/-- The costs of the marked allocation are those of no other. -/
private theorem exists_costOf_mark (R : Rounding) (ofString : String → Option Double)
    (name : String) : ∃ one, costOf R ofString (mark name name) = .ok one ∧
      ∀ other, costOf R ofString (mark name other) = .ok one → other = name := by
  have hone : ∃ one, costOf R ofString [("totalCost", .int 1)] = .ok one ∧
      one.totalCost = some (.finite 1) := by
    unfold costOf
    rw [show field [("totalCost", .int 1)] "totalCost" = .int 1 from rfl,
      show field [("totalCost", .int 1)] "cpuCost" = .null from rfl,
      show field [("totalCost", .int 1)] "ramCost" = .null from rfl, number_one, number_null]
    simp only [ok_bind, CostAllocation.create]
    rw [dif_pos (by simp [AtLeast])]
    exact ⟨_, rfl, rfl⟩
  obtain ⟨one, hcost, htotal⟩ := hone
  refine ⟨one, ?_, ?_⟩
  · unfold mark
    rw [if_pos rfl]
    exact hcost
  · intro other hother
    by_contra hne
    unfold mark at hother
    rw [if_neg hne] at hother
    have hnone : costOf R ofString [] = CostAllocation.create none none none := rfl
    rw [hnone, CostAllocation.create, dif_pos (by simp)] at hother
    cases hother
    cases htotal

/-- The only match of a response whose marked allocation is returned is the marked one. -/
private theorem filter_of_marked {names : List String} {name : String} {one : CostAllocation}
    (hmark : ∀ other, costOf R ofString (mark name other) = .ok one → other = name)
    (h : workloadAllocation R ofString ns deployment (marked names name) = .ok one) :
    names.filter (Matches ns deployment ·) = [name] := by
  obtain ⟨entries, hentries, entry, hfilter, hcost⟩ := workloadAllocation_eq_ok h
  rw [allocations_marked] at hentries
  cases hentries
  have hnames := filter_names_of_filter (p := (Matches ns deployment ·)) hfilter
  rw [List.map_map] at hnames
  have hmem := List.mem_of_mem_filter (hfilter ▸ List.mem_singleton_self entry)
  obtain ⟨other, -, rfl⟩ := List.mem_map.mp hmem
  obtain rfl := hmark other hcost
  simpa [Function.comp_def] using hnames

/-! ### Attribution -/

section Attribution

variable {names : List String} {name : String}
  (h : Attributed R ofString ns deployment (marked names name))

include h

private theorem own_of_attributed (hfilter : names.filter (Matches ns deployment ·) = [name]) :
    deploymentOf name = deployment.toList := by
  obtain ⟨one, hone, hmark⟩ := exists_costOf_mark R ofString name
  have hcost : workloadAllocation R ofString ns deployment (marked names name) = .ok one :=
    (workloadAllocation_of_filter (allocations_marked names name) (filter_marked hfilter)).trans
      hone
  obtain ⟨entries, hentries, entry, hentry, hdeployment, hcost'⟩ := h.sound one hcost
  rw [allocations_marked] at hentries
  cases hentries
  obtain ⟨other, -, rfl⟩ := List.mem_map.mp hentry
  obtain rfl := hmark other hcost'
  exact hdeployment

private theorem alone_of_attributed (hfilter : names.filter (IsFor ns deployment ·) = [name]) :
    names.filter (Matches ns deployment ·) = [name] := by
  obtain ⟨one, hone, hmark⟩ := exists_costOf_mark R ofString name
  have hcost := h.complete _ _ (allocations_marked names name) (filter_marked hfilter)
  exact filter_of_marked hmark (hcost.trans hone)

end Attribution

/-- **Costs are attributed to the right workload** if and only if the names are separable: every
response with some names, whatever its costs are, is attributed where no name of another deployment
contains the requested one so that it alone matches, or matches beside the requested one. -/
theorem workloadAllocation_attributed_iff (R : Rounding) (ofString : String → Option Double)
    (ns deployment : String) (names : List String) :
    (∀ payload, allocationNames payload = names → Attributed R ofString ns deployment payload) ↔
      Separable ns deployment names := by
  constructor
  · intro h
    constructor
    · exact fun name ↦ own_of_attributed (h _ (allocationNames_marked names name))
    · exact fun name ↦ alone_of_attributed (h _ (allocationNames_marked names name))
  · intro h payload hnames
    exact attributed_of_separable (hnames ▸ h)

/-- The cost of a gateway is taken for that of an API, and beside it the cost of the API is
refused. -/
theorem workloadAllocation_misattributed :
    ¬ Attributed exact (fun _ ↦ none) "staging" "api"
        (marked ["staging/api-gateway"] "staging/api-gateway") ∧
      ¬ Attributed exact (fun _ ↦ none) "staging" "api"
        (marked ["staging/api", "staging/api-gateway"] "staging/api") := by
  constructor
  · intro h
    exact absurd (own_of_attributed h (by decide +kernel)) (by decide +kernel)
  · intro h
    exact absurd (alone_of_attributed h (by decide +kernel)) (by decide +kernel)

end CloudWard.Finops
