import CloudWard.Security.Footprint
import CloudWard.Security.Reversible

/-!
# Quarantines of different events

`apply_quarantine_policy` and `remove_quarantine_policy`, `kubernetes/executor.py:672-872`, keep
a policy for each event, but one label for each pod. A call that patches the label of a pod leaves
the policy of every other event on that pod without a pod to select, and the record of that event
as it was.
-/

namespace CloudWard.Security

open CloudWard.Db CloudWard.Kubernetes CloudWard.Logic CloudWard.Policies Service Trace

/-- A call of one of the two services, against a cluster that is read truthfully. -/
structure ServiceCall where
  eventId : Nat
  removes : Bool
  actor : String
  settings : Settings := .standard
  env : Env
  faults : DatabaseFaults env
  truthful : Truthful env

namespace ServiceCall

/-- The call as an operation. -/
def operation (c : ServiceCall) : Operation where
  call := if c.removes then .remove c.eventId c.actor else .apply c.eventId c.actor
  settings := c.settings
  env := c.env
  faults := c.faults

/-- The world in which a call ends. -/
def ends (c : ServiceCall) (s : State) : World := c.operation.run s.world

/-- The state after a call. -/
def next (c : ServiceCall) (s : State) : State := step s c.operation

end ServiceCall

/-- Every event with a contained record is enforced. -/
def Isolated (s : State) : Prop :=
  ∀ (eventId : Nat) (event : SecurityEvent), s.rows.securityEvents[eventId]? = some event →
    (quarantines s.rows).Contains eventId → Enforced s.cluster event

/-- A call that takes no enforcement away: it patches the label of no pod of another contained
event, and does not end in between where its own is contained. -/
structure Spares (s : State) (c : ServiceCall) : Prop where
  others : ∀ (eventId : Nat) (event : SecurityEvent),
    s.rows.securityEvents[eventId]? = some event → (quarantines s.rows).Contains eventId →
      eventId ≠ c.eventId →
        ∀ value, .mutated (.patchQuarantineLabel event.ns event.pod value) ∉ (c.ends s).trace
  own : (quarantines s.rows).Contains c.eventId → ¬ Pending (c.ends s).trace

/-! ### What is about other events -/

theorem Quarantines.Beside.contains_iff {q k : Quarantines} {eventId other : Nat}
    (h : q.Beside k eventId) (hne : other ≠ eventId) : q.Contains other ↔ k.Contains other := by
  constructor
  · rintro ⟨e, he, rfl, hstatus⟩
    obtain ⟨id, hid⟩ := List.mem_iff_getElem?.mp he
    exact ⟨e, List.mem_of_getElem? ((h.others id e hne).mp hid), rfl, hstatus⟩
  · rintro ⟨e, he, rfl, hstatus⟩
    obtain ⟨id, hid⟩ := List.mem_iff_getElem?.mp he
    exact ⟨e, List.mem_of_getElem? ((h.others id e hne).mpr hid), rfl, hstatus⟩

theorem names_of_origin {event event' : SecurityEvent}
    (h : originOf event = originOf event') :
    event.ns = event'.ns ∧ event.pod = event'.pod ∧ quarantineIdOf event = quarantineIdOf event' ∧
      policyNameOf event = policyNameOf event' := by
  simp only [originOf, Origin.mk.injEq] at h
  obtain ⟨huuid, -, hns, hpod⟩ := h
  have hid : quarantineIdOf event = quarantineIdOf event' := by
    unfold quarantineIdOf
    rw [huuid]
  exact ⟨hns, hpod, hid, congrArg quarantinePolicyName hid⟩

theorem InPlace.of_origin {cluster : Cluster} {event event' : SecurityEvent}
    (h : InPlace cluster event) (horigin : originOf event = originOf event') :
    InPlace cluster event' := by
  obtain ⟨hns, hpod, hid, hname⟩ := names_of_origin horigin
  constructor
  · rw [← hns, ← hname]
    exact h.policy
  · rw [← hns, ← hpod, ← hid]
    exact h.label

theorem Enforced.of_origin {cluster : Cluster} {event event' : SecurityEvent}
    (h : Enforced cluster event) (horigin : originOf event = originOf event') :
    Enforced cluster event' := by
  obtain ⟨hns, -, hid, hname⟩ := names_of_origin horigin
  constructor
  · rw [← hns, ← hname, ← hid]
    exact h.policy
  · exact (h.inPlace.of_origin horigin).label

private theorem exists_event_of_origins {rows rows' : Database}
    (horigins : (quarantines rows).origins = (quarantines rows').origins) {id : Nat}
    {event : SecurityEvent} (hevent : rows.securityEvents[id]? = some event) :
    ∃ event', rows'.securityEvents[id]? = some event' ∧ originOf event' = originOf event := by
  have horigin : (quarantines rows').origins[id]? = some (originOf event) := by
    rw [← horigins]
    simp only [quarantines, List.getElem?_map, hevent, Option.map_some]
  simpa only [quarantines, List.getElem?_map, Option.map_eq_some_iff] using horigin

/-- What holds of an event because of its origin holds of it as long as the origins stay. -/
theorem forall_event_iff_of_origins {rows rows' : Database} {P : SecurityEvent → Prop}
    (hP : ∀ event event', P event → originOf event = originOf event' → P event')
    (horigins : (quarantines rows').origins = (quarantines rows).origins) (id : Nat) :
    (∀ event, rows'.securityEvents[id]? = some event → P event) ↔
      ∀ event, rows.securityEvents[id]? = some event → P event := by
  constructor
  · intro h event hevent
    obtain ⟨event', hevent', horigin⟩ := exists_event_of_origins horigins.symm hevent
    exact hP event' event (h event' hevent') horigin
  · intro h event hevent
    obtain ⟨event', hevent', horigin⟩ := exists_event_of_origins horigins hevent
    exact hP event' event (h event' hevent') horigin

/-- Where the events are about what they were, it is enough to look at the earlier ones. -/
private theorem isolated_iff_of_origins {s s' : State}
    (horigins : (quarantines s'.rows).origins = (quarantines s.rows).origins) :
    Isolated s' ↔ ∀ (eventId : Nat) (event : SecurityEvent),
      s.rows.securityEvents[eventId]? = some event → (quarantines s'.rows).Contains eventId →
        Enforced s'.cluster event :=
  forall_congr' fun eventId ↦ forall_event_iff_of_origins
    (P := fun event ↦ (quarantines s'.rows).Contains eventId → Enforced s'.cluster event)
    (fun _ _ h horigin hcontains ↦ (h hcontains).of_origin horigin) horigins eventId

/-! ### One call -/

/-- What a call that came to something leaves, whichever service it is of. -/
structure Leaves (s : State) (c : ServiceCall) (subject : Subject) (removes : Bool) : Prop where
  concerns : Concerns s.rows c.eventId subject
  within : Within s.cluster (quarantines s.rows) subject removes (sight (c.ends s))
  alone : Alone (quarantines s.rows) subject

section Step

variable {s : State} {c : ServiceCall} {subject : Subject} {removes : Bool} {recordId : Nat}

/-- The policy of another contained event bears another name. -/
private theorem Leaves.policyName_ne (h : Leaves s c subject removes)
    (hrows : (ledger s.rows).Consistent) {eventId : Nat} {event : SecurityEvent}
    (hevent : s.rows.securityEvents[eventId]? = some event)
    (hcontains : (quarantines s.rows).Contains eventId) (hne : eventId ≠ c.eventId) :
    policyNameOf event ≠ policyNameOf subject.event := by
  obtain ⟨e, he, rfl, -⟩ := hcontains
  obtain ⟨record, hrecord, rfl⟩ := List.mem_map.mp he
  have hagree := hrows.agrees record hrecord
  have hrecordEvent : s.rows.securityEvents[record.securityEventId]? = some event := hevent
  simp only [ledger, List.getElem?_map, hrecordEvent, Option.map_some, Option.some.injEq,
    Prod.mk.injEq] at hagree
  rw [hagree.1]
  apply h.alone _ he
  rw [h.concerns.eventId_eq]
  exact hne

/-- A call keeps the quarantines isolated exactly if it spares the others and its own. -/
private theorem Leaves.isolated_iff (h : Leaves s c subject removes)
    (hrows : (ledger s.rows).Consistent) (hisolated : Isolated s)
    (hown : ((sight (c.ends s)).committed.Contains c.eventId →
        Enforced (sight (c.ends s)).cluster subject.event) ↔
      ((quarantines s.rows).Contains c.eventId → ¬ Pending (c.ends s).trace)) :
    Isolated (c.next s) ↔ Spares s c := by
  have hbeside : (quarantines (c.next s).rows).Beside (quarantines s.rows) c.eventId := by
    rw [← h.concerns.eventId_eq]
    exact h.within.committed
  have hcluster : (c.next s).cluster = replay s.cluster (c.ends s).trace := h.within.replayed
  have hother {eventId : Nat} {event : SecurityEvent}
      (hevent : s.rows.securityEvents[eventId]? = some event)
      (hcontains : (quarantines s.rows).Contains eventId) (hne : eventId ≠ c.eventId) :
      Enforced (c.next s).cluster event ↔
        ∀ value, .mutated (.patchQuarantineLabel event.ns event.pod value) ∉ (c.ends s).trace := by
    rw [hcluster]
    exact enforced_replay_iff h.within.requests (h.policyName_ne hrows hevent hcontains hne)
      (hisolated eventId event hevent hcontains)
  rw [isolated_iff_of_origins hbeside.origins]
  constructor
  · intro hnext
    constructor
    · intro eventId event hevent hcontains hne
      rw [← hother hevent hcontains hne]
      exact hnext eventId event hevent ((hbeside.contains_iff hne).mpr hcontains)
    · exact hown.mp (hnext c.eventId subject.event h.concerns.event)
  · intro hspares eventId event hevent hcontains
    by_cases hne : eventId = c.eventId
    · subst hne
      obtain rfl : subject.event = event := by
        rw [← Option.some.injEq, ← hevent, h.concerns.event]
      exact hown.mpr hspares.own hcontains
    · rw [hbeside.contains_iff hne] at hcontains
      rw [hother hevent hcontains hne]
      exact hspares.others eventId event hevent hcontains hne

/-- A call that nothing comes of changes nothing, and spares everything. -/
private theorem isolated_iff_of_untouched
    (h : Untouched s.cluster (quarantines s.rows) (sight (c.ends s))) (hisolated : Isolated s) :
    Isolated (c.next s) ↔ Spares s c := by
  have hcommitted : quarantines (c.next s).rows = quarantines s.rows := h.committed
  have hcluster : (c.next s).cluster = s.cluster := h.cluster
  rw [isolated_iff_of_origins (congrArg Quarantines.origins hcommitted), hcommitted, hcluster]
  constructor
  · intro _
    constructor
    · exact fun _ _ _ _ _ value ↦ h.silent _
    · exact fun _ ↦ not_pending_of_silent h.silent
  · exact fun _ ↦ hisolated

/-- An application that commits its own event as contained leaves it enforced. -/
private theorem own_iff_of_covered (hfree : ¬ (quarantines s.rows).Contains subject.eventId)
    (h : Covered s.cluster (quarantines s.rows) subject recordId (sight (c.ends s))) :
    ((sight (c.ends s)).committed.Contains subject.eventId →
        Enforced (sight (c.ends s)).cluster subject.event) ↔
      ((quarantines s.rows).Contains subject.eventId → ¬ Pending (c.ends s).trace) := by
  constructor
  · exact fun _ hcontains ↦ absurd hcontains hfree
  · intro _ hcontains
    rcases h.saved with hunsaved | hsaved
    · rw [hunsaved.committed] at hcontains
      exact absurd hcontains hfree
    · exact hsaved.enforced hcontains

/-- A removal that ends in between leaves its own event contained, but not enforced. -/
private theorem own_iff_of_lifted
    (henforced : (quarantines s.rows).Contains subject.eventId → Enforced s.cluster subject.event)
    (h : Lifted s.cluster (quarantines s.rows) subject recordId (sight (c.ends s))) :
    ((sight (c.ends s)).committed.Contains subject.eventId →
        Enforced (sight (c.ends s)).cluster subject.event) ↔
      ((quarantines s.rows).Contains subject.eventId → ¬ Pending (c.ends s).trace) := by
  rcases h.saved with hunsaved | hsaved
  · rw [hunsaved.committed, h.replayed]
    constructor
    · exact fun hafter hcontains hpending ↦
        not_inPlace_of_pending h.requests hpending (hafter hcontains).inPlace
    · intro hsettled hcontains
      have hsilent := hunsaved.requests.resolve_right (hsettled hcontains)
      rw [replay_of_silent hsilent]
      exact henforced hcontains
  · constructor
    · exact fun _ _ ↦ hsaved.followed
    · exact fun _ hcontains ↦ absurd hcontains hsaved.uncontained

private theorem starts (s : State) : Starts s.rows s.cluster s.world := ⟨rfl, rfl, rfl, rfl⟩

theorem ServiceCall.appliedBy (hrows : (ledger s.rows).Consistent) (hcall : c.removes = false) :
    AppliedBy s.rows s.cluster c.eventId (sight (c.ends s)) := by
  have happly := (applyQuarantine_leaves c.settings c.truthful hrows c.eventId c.actor).state
    (starts s)
  unfold ServiceCall.ends Operation.run ServiceCall.operation
  simp only [hcall]
  exact happly

theorem ServiceCall.removedBy (hrows : (ledger s.rows).Consistent) (hcall : c.removes = true) :
    RemovedBy s.rows s.cluster c.eventId (sight (c.ends s)) := by
  have hremove := (removeQuarantine_leaves_sight c.settings c.truthful hrows c.eventId
    c.actor).state (starts s)
  unfold ServiceCall.ends Operation.run ServiceCall.operation
  simp only [hcall]
  exact hremove

/-- **A call and the quarantines**: it keeps every contained event enforced exactly if it spares
the quarantines. -/
theorem isolated_next_iff (hrows : (ledger s.rows).Consistent) (hisolated : Isolated s)
    (c : ServiceCall) : Isolated (c.next s) ↔ Spares s c := by
  cases hcall : c.removes with
  | false =>
    rcases ServiceCall.appliedBy hrows hcall with
      huntouched | ⟨subject, recordId, hconcerns, halone, hfree, hcovered⟩
    · exact isolated_iff_of_untouched huntouched hisolated
    · have hleaves : Leaves s c subject false := ⟨hconcerns, hcovered.toWithin, halone⟩
      apply hleaves.isolated_iff hrows hisolated
      rw [← hconcerns.eventId_eq] at hfree ⊢
      exact own_iff_of_covered hfree hcovered
  | true =>
    rcases ServiceCall.removedBy hrows hcall with
      huntouched | ⟨subject, recordId, hconcerns, halone, hlifted⟩
    · exact isolated_iff_of_untouched huntouched hisolated
    · have hleaves : Leaves s c subject true := ⟨hconcerns, hlifted.toWithin, halone⟩
      apply hleaves.isolated_iff hrows hisolated
      have henforced := hisolated c.eventId subject.event hconcerns.event
      rw [← hconcerns.eventId_eq] at henforced ⊢
      exact own_iff_of_lifted henforced hlifted

end Step

/-! ### Runs -/

/-- The rows of events that no quarantine was made for. -/
def unquarantined (rows : Database) (cluster : Cluster) : State where
  rows := { rows with quarantineRecords := [] }
  cluster := cluster

theorem ServiceCall.consistent_next {s : State} (h : (ledger s.rows).Consistent)
    (c : ServiceCall) : (ledger (c.next s).rows).Consistent := by
  refine (fine_step h ?_).1
  rintro ⟨x, hcall, -⟩
  unfold ServiceCall.operation at hcall
  split at hcall <;> cases hcall

/-- **Quarantines of different events** are isolated in every state of a run exactly if every
call of it spares them. -/
theorem quarantines_isolated_iff (rows : Database) (cluster : Cluster)
    (calls : List ServiceCall) :
    (∀ before, before <+: calls →
        Isolated (Runs.run (fun s c ↦ c.next s) (unquarantined rows cluster) before)) ↔
      Runs.Along (fun s c ↦ c.next s) Spares (unquarantined rows cluster) calls := by
  apply Runs.always_iff_along (J := fun s ↦ (ledger s.rows).Consistent)
  · exact fun s c h ↦ c.consistent_next h
  · exact fun s c h hisolated ↦ isolated_next_iff h hisolated c
  · exact consistent_of_empty rfl
  · rintro eventId event - ⟨e, he, -⟩
    cases he

theorem databaseFaults_reflecting : DatabaseFaults reflecting := by
  intro w e h
  cases h

theorem truthful_reflecting : Truthful reflecting where
  readPod w ns name pod h := by
    cases hpod : w.cluster.pod? ns name with
    | none =>
      simp only [reflecting, hpod, Option.elim_none] at h
      cases h
    | some pod' =>
      simp only [reflecting, hpod, Option.elim_some, Except.ok.injEq] at h
      rw [h]
  readPolicy w ns name policy h := by
    cases hpolicy : w.cluster.policy? ns name with
    | none =>
      simp only [reflecting, hpolicy, Option.elim_none] at h
      cases h
    | some policy' =>
      simp only [reflecting, hpolicy, Option.elim_some, Except.ok.injEq] at h
      rw [h]
  missing w ns name h := by
    cases hpolicy : w.cluster.policy? ns name with
    | none => rfl
    | some policy =>
      simp only [reflecting, hpolicy, Option.elim_some] at h
      cases h

/-- A call against the cluster as it is. -/
def reflected (eventId : Nat) (removes : Bool) : ServiceCall where
  eventId := eventId
  removes := removes
  actor := "operator"
  env := reflecting
  faults := databaseFaults_reflecting
  truthful := truthful_reflecting

private theorem hex_second : "fedcba9876543210fedcba9876543210".toList.length = 32 ∧
    "fedcba9876543210fedcba9876543210".toList.all isHexDigit := by
  decide

/-- A second event of the same pod. -/
def secondDelivery : Delivery :=
  ⟨unexpectedEgress, "second fingerprint", "fedcba9876543210fedcba9876543210", ∅, hex_second⟩

/-- Two events of one pod, as their ingestions leave them. -/
def sharedPodRows : Database where
  incidents :=
    [{ incidentRow delivery with state := .policyEvaluation },
      { incidentRow secondDelivery with state := .policyEvaluation }]
  proposals := [proposalRow delivery 0 0, proposalRow secondDelivery 1 1]
  securityEvents :=
    [{ eventRow delivery 0 with containmentStatus := .proposed },
      { eventRow secondDelivery 1 with containmentStatus := .proposed }]

/-- The first is contained; the quarantine of the second is not verified, and removed. -/
def sharedPodCalls : List ServiceCall :=
  [reflected 0 false, reflected 1 false, reflected 1 true]

private theorem not_isolated_of_unlabelled {s : State} (eventId : Nat) (ns pod : String)
    (hevents : s.rows.securityEvents[eventId]?.map (fun event ↦ (event.ns, event.pod)) =
      some (ns, pod))
    (hrecords : (eventId, ContainmentStatus.contained) ∈ s.rows.quarantineRecords.map
      fun record ↦ (record.securityEventId, record.status))
    (hlabel : s.cluster.quarantineIdOf ns pod = none) : ¬ Isolated s := by
  intro h
  obtain ⟨event, hevent, htarget⟩ := Option.map_eq_some_iff.mp hevents
  obtain ⟨record, hrecord, hcontained⟩ := List.mem_map.mp hrecords
  rw [Prod.mk.injEq] at htarget hcontained
  have hcontains : (quarantines s.rows).Contains eventId :=
    ⟨entryOf record, List.mem_map_of_mem hrecord, hcontained.1, hcontained.2⟩
  have hsome := (h eventId event hevent hcontains).label
  rw [htarget.1, htarget.2, hlabel] at hsome
  cases hsome

private theorem unlabelled_oneDemoPod (ns name : String) :
    oneDemoPod.quarantineIdOf ns name = none := by
  by_cases hpod : "cloudward-staging" = ns ∧ "demo" = name
  · obtain ⟨rfl, rfl⟩ := hpod
    decide +kernel
  · simp [Cluster.quarantineIdOf, Cluster.pod?, oneDemoPod, makePod, hpod]

/-- The second quarantine of a pod is not verified; its removal takes the label of the first. -/
theorem shared_pod_not_isolated :
    ¬ ∀ (rows : Database) (cluster : Cluster), cluster.policies = [] →
      (∀ ns name, cluster.quarantineIdOf ns name = none) → ∀ calls : List ServiceCall,
        Isolated (Runs.run (fun s c ↦ c.next s) (unquarantined rows cluster) calls) := by
  intro h
  have hnot : ¬ Isolated (Runs.run (fun s c ↦ c.next s)
      (unquarantined sharedPodRows oneDemoPod) sharedPodCalls) :=
    not_isolated_of_unlabelled 0 "cloudward-staging" "demo" (by decide +kernel)
      (by decide +kernel) (by decide +kernel)
  exact hnot (h sharedPodRows oneDemoPod rfl unlabelled_oneDemoPod sharedPodCalls)

end CloudWard.Security
