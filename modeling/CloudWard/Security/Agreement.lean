import CloudWard.Security.Isolation

/-!
# The database and the cluster about one quarantine

`apply_quarantine`, `security/quarantine.py:128-259`, and `remove_quarantine`, `320-399`, commit
what became of their requests at the end, or in the handler of `CloudWardError`. Another exception
that comes after a request leaves the request made, and nothing of it committed.
-/

namespace CloudWard.Security

open CloudWard.Db CloudWard.Kubernetes CloudWard.Logic CloudWard.Policies Service Trace

/-- The database and the cluster agree about the quarantine of an event. -/
structure Agrees (eventId : Nat) (s : State) : Prop where
  contained : ∀ event, s.rows.securityEvents[eventId]? = some event →
    (quarantines s.rows).Contains eventId → InPlace s.cluster event
  recorded : ∀ event, s.rows.securityEvents[eventId]? = some event →
    (s.cluster.policy? event.ns (policyNameOf event)).isSome →
      (quarantines s.rows).Present eventId

/-- A call that ends in between is of no contained event, and created no policy of an event
without a record. -/
structure Settles (s : State) (c : ServiceCall) : Prop where
  uncontained : Pending (c.ends s).trace → ¬ (quarantines s.rows).Contains c.eventId
  recorded : Pending (c.ends s).trace → ∀ policy, .mutated (.createPolicy policy) ∈
    (c.ends s).trace → (quarantines s.rows).Present c.eventId

/-- The policy of an event, where there is one, selects by the event's label. -/
def Selective (eventId : Nat) (s : State) : Prop :=
  ∀ event, s.rows.securityEvents[eventId]? = some event →
    ∀ policy, s.cluster.policy? event.ns (policyNameOf event) = some policy →
      policy.matchLabels = quarantineSelector (quarantineIdOf event)

/-- A call about an event. -/
def ServiceCall.about (c : ServiceCall) (eventId : Nat) : ServiceCall := { c with eventId }

section Step

variable {s : State} {c : ServiceCall} {subject : Subject} {recordId eventId : Nat}

private theorem agrees_iff_of_origins {s' : State}
    (horigins : (quarantines s'.rows).origins = (quarantines s.rows).origins) :
    Agrees eventId s' ↔
      (∀ event, s.rows.securityEvents[eventId]? = some event →
        (quarantines s'.rows).Contains eventId → InPlace s'.cluster event) ∧
      ∀ event, s.rows.securityEvents[eventId]? = some event →
        (s'.cluster.policy? event.ns (policyNameOf event)).isSome →
          (quarantines s'.rows).Present eventId := by
  have hcontained := forall_event_iff_of_origins
    (P := fun event ↦ (quarantines s'.rows).Contains eventId → InPlace s'.cluster event)
    (fun _ _ h horigin hcontains ↦ (h hcontains).of_origin horigin) horigins eventId
  have hrecorded := forall_event_iff_of_origins
    (P := fun event ↦ (s'.cluster.policy? event.ns (policyNameOf event)).isSome →
      (quarantines s'.rows).Present eventId)
    (fun event event' h horigin hpolicy ↦ by
      obtain ⟨hns, -, -, hname⟩ := names_of_origin horigin
      rw [← hns, ← hname] at hpolicy
      exact h hpolicy) horigins eventId
  rw [← hcontained, ← hrecorded]
  exact ⟨fun h ↦ ⟨h.contained, h.recorded⟩, fun h ↦ ⟨h.1, h.2⟩⟩

private theorem agrees_iff_of_event {s' : State} {event : SecurityEvent}
    (horigins : (quarantines s'.rows).origins = (quarantines s.rows).origins)
    (hevent : s.rows.securityEvents[eventId]? = some event) :
    Agrees eventId s' ↔
      ((quarantines s'.rows).Contains eventId → InPlace s'.cluster event) ∧
      ((s'.cluster.policy? event.ns (policyNameOf event)).isSome →
        (quarantines s'.rows).Present eventId) := by
  rw [agrees_iff_of_origins horigins]
  simp only [hevent, Option.some.injEq, forall_eq']

private theorem settles_of_not_pending (h : ¬ Pending (c.ends s).trace) : Settles s c where
  uncontained hpending := absurd hpending h
  recorded hpending := absurd hpending h

/-- A call that leaves what it found settles nothing wrongly. -/
private theorem agrees_iff_of_silent
    (hcommitted : (sight (c.ends s)).committed = quarantines s.rows)
    (hcluster : (sight (c.ends s)).cluster = s.cluster) (hsilent : Silent (c.ends s).trace)
    (hagrees : Agrees c.eventId s) : Agrees c.eventId (c.next s) ↔ Settles s c := by
  have hquarantines : quarantines (c.next s).rows = quarantines s.rows := hcommitted
  have hsame : (c.next s).cluster = s.cluster := hcluster
  constructor
  · intro _
    exact settles_of_not_pending (not_pending_of_silent hsilent)
  · intro _
    rw [agrees_iff_of_origins (congrArg Quarantines.origins hquarantines), hquarantines, hsame]
    exact ⟨hagrees.contained, hagrees.recorded⟩

private theorem agrees_iff_of_covered (hconcerns : Concerns s.rows c.eventId subject)
    (hfree : ¬ (quarantines s.rows).Contains c.eventId) (hagrees : Agrees c.eventId s)
    (h : Covered s.cluster (quarantines s.rows) subject recordId (sight (c.ends s))) :
    Agrees c.eventId (c.next s) ↔ Settles s c := by
  have horigins : (quarantines (c.next s).rows).origins = (quarantines s.rows).origins :=
    h.committed.origins
  have hcluster : (c.next s).cluster = replay s.cluster (c.ends s).trace := h.replayed
  have hrequests : ∀ m, .mutated m ∈ (c.ends s).trace → Requests subject.event false m := h.requests
  rcases h.saved with hunsaved | hsaved
  · rcases hunsaved.requests with hsilent | hpending
    · have hsame := h.replayed.trans (replay_of_silent hsilent)
      exact agrees_iff_of_silent hunsaved.committed hsame hsilent hagrees
    have hquarantines : quarantines (c.next s).rows = quarantines s.rows := hunsaved.committed
    rw [agrees_iff_of_event horigins hconcerns.event, hquarantines, hcluster]
    constructor
    · rintro ⟨-, hrecorded⟩
      constructor
      · exact fun _ ↦ hfree
      · intro _ policy hcreated
        exact hrecorded (policy?_replay_of_created hrequests hcreated)
    · intro hsettles
      constructor
      · exact fun hcontains ↦ absurd hcontains hfree
      · intro hpolicy
        by_cases hcreated : ∃ policy, .mutated (.createPolicy policy) ∈ (c.ends s).trace
        · obtain ⟨policy, hcreated⟩ := hcreated
          exact hsettles.recorded hpending policy hcreated
        · rw [policy?_replay_of_uncreated hrequests (not_exists.mp hcreated)] at hpolicy
          exact hagrees.recorded subject.event hconcerns.event hpolicy
  · constructor
    · intro _
      exact settles_of_not_pending hsaved.followed
    · intro _
      rw [agrees_iff_of_event horigins hconcerns.event, ← hconcerns.eventId_eq]
      exact ⟨fun hcontains ↦ (hsaved.enforced hcontains).inPlace, fun _ ↦ hsaved.present⟩

private theorem agrees_iff_of_lifted (hconcerns : Concerns s.rows c.eventId subject)
    (hselective : Selective c.eventId s) (hagrees : Agrees c.eventId s)
    (h : Lifted s.cluster (quarantines s.rows) subject recordId (sight (c.ends s))) :
    Agrees c.eventId (c.next s) ↔ Settles s c := by
  have horigins : (quarantines (c.next s).rows).origins = (quarantines s.rows).origins :=
    h.committed.origins
  have hcluster : (c.next s).cluster = replay s.cluster (c.ends s).trace := h.replayed
  have hrequests : ∀ m, .mutated m ∈ (c.ends s).trace → Requests subject.event true m := h.requests
  rcases h.saved with hunsaved | hsaved
  · rcases hunsaved.requests with hsilent | hpending
    · have hsame := h.replayed.trans (replay_of_silent hsilent)
      exact agrees_iff_of_silent hunsaved.committed hsame hsilent hagrees
    have hquarantines : quarantines (c.next s).rows = quarantines s.rows := hunsaved.committed
    rw [agrees_iff_of_event horigins hconcerns.event, hquarantines, hcluster]
    constructor
    · rintro ⟨hcontained, -⟩
      constructor
      · intro _ hcontains
        exact not_inPlace_of_pending hrequests hpending (hcontained hcontains)
      · intro _ policy hcreated
        cases hrequests _ hcreated
    · intro hsettles
      constructor
      · exact fun hcontains ↦ absurd hcontains (hsettles.uncontained hpending)
      · intro hpolicy
        exact hagrees.recorded subject.event hconcerns.event
          (policy?_of_replay_removal hrequests hpolicy)
  · constructor
    · intro _
      exact settles_of_not_pending hsaved.followed
    · intro _
      rw [agrees_iff_of_event horigins hconcerns.event, ← hconcerns.eventId_eq]
      constructor
      · exact fun hcontains ↦ absurd hcontains hsaved.uncontained
      · intro hpolicy
        obtain ⟨policy, hpolicy⟩ := Option.isSome_iff_exists.mp hpolicy
        apply hsaved.removed.resolve_right
        intro hunselected
        have hlabels := matchLabels_replay hrequests (hselective subject.event hconcerns.event)
        rw [← hcluster] at hlabels
        exact hunselected policy hpolicy (hlabels policy hpolicy)

/-- **A call and the agreement**: it keeps the database and the cluster in agreement exactly if
it settles what it did. -/
theorem agrees_next_iff (hrows : (ledger s.rows).Consistent) (hselective : Selective c.eventId s)
    (hagrees : Agrees c.eventId s) : Agrees c.eventId (c.next s) ↔ Settles s c := by
  cases hcall : c.removes with
  | false =>
    rcases ServiceCall.appliedBy hrows hcall with
      huntouched | ⟨subject, recordId, hconcerns, -, hfree, hcovered⟩
    · exact agrees_iff_of_silent huntouched.committed huntouched.cluster huntouched.silent hagrees
    · exact agrees_iff_of_covered hconcerns hfree hagrees hcovered
  | true =>
    rcases ServiceCall.removedBy hrows hcall with
      huntouched | ⟨subject, recordId, hconcerns, -, hlifted⟩
    · exact agrees_iff_of_silent huntouched.committed huntouched.cluster huntouched.silent hagrees
    · exact agrees_iff_of_lifted hconcerns hselective hagrees hlifted

private theorem selective_iff_of_origins {s' : State}
    (horigins : (quarantines s'.rows).origins = (quarantines s.rows).origins) :
    Selective eventId s' ↔ ∀ event, s.rows.securityEvents[eventId]? = some event →
      ∀ policy, s'.cluster.policy? event.ns (policyNameOf event) = some policy →
        policy.matchLabels = quarantineSelector (quarantineIdOf event) := by
  apply forall_event_iff_of_origins (P := fun event ↦
    ∀ policy, s'.cluster.policy? event.ns (policyNameOf event) = some policy →
      policy.matchLabels = quarantineSelector (quarantineIdOf event)) _ horigins
  intro event event' h horigin policy hpolicy
  obtain ⟨hns, -, hid, hname⟩ := names_of_origin horigin
  rw [← hns, ← hname] at hpolicy
  rw [← hid]
  exact h policy hpolicy

private theorem selective_next_of_within {removes : Bool}
    (hconcerns : Concerns s.rows c.eventId subject) (hselective : Selective c.eventId s)
    (h : Within s.cluster (quarantines s.rows) subject removes (sight (c.ends s))) :
    Selective c.eventId (c.next s) := by
  have hcluster : (c.next s).cluster = replay s.cluster (c.ends s).trace := h.replayed
  have horigins : (quarantines (c.next s).rows).origins = (quarantines s.rows).origins :=
    h.committed.origins
  rw [selective_iff_of_origins horigins, hcluster]
  intro event hevent
  obtain rfl : subject.event = event := by
    rw [← Option.some.injEq, ← hevent, hconcerns.event]
  exact matchLabels_replay h.requests (hselective subject.event hevent)

private theorem selective_next_of_untouched (hselective : Selective c.eventId s)
    (h : Untouched s.cluster (quarantines s.rows) (sight (c.ends s))) :
    Selective c.eventId (c.next s) := by
  have hcluster : (c.next s).cluster = s.cluster := h.cluster
  have hquarantines : quarantines (c.next s).rows = quarantines s.rows := h.committed
  rw [selective_iff_of_origins (congrArg Quarantines.origins hquarantines), hcluster]
  exact hselective

theorem selective_next (hrows : (ledger s.rows).Consistent)
    (hselective : Selective c.eventId s) : Selective c.eventId (c.next s) := by
  cases hcall : c.removes with
  | false =>
    rcases ServiceCall.appliedBy hrows hcall with
      huntouched | ⟨subject, recordId, hconcerns, -, -, hcovered⟩
    · exact selective_next_of_untouched hselective huntouched
    · exact selective_next_of_within hconcerns hselective hcovered.toWithin
  | true =>
    rcases ServiceCall.removedBy hrows hcall with
      huntouched | ⟨subject, recordId, hconcerns, -, hlifted⟩
    · exact selective_next_of_untouched hselective huntouched
    · exact selective_next_of_within hconcerns hselective hlifted.toWithin

end Step

/-! ### Runs -/

/-- **The database and the cluster agree** about an event in every state of a run of calls about
it exactly if every call settles what it did. -/
theorem quarantine_agreement_iff (rows : Database) (cluster : Cluster) (eventId : Nat)
    (calls : List ServiceCall) :
    (∀ before, before <+: calls → Agrees eventId (Runs.run (fun s c ↦ (c.about eventId).next s)
        (unquarantined rows { cluster with policies := [] }) before)) ↔
      Runs.Along (fun s c ↦ (c.about eventId).next s) (fun s c ↦ Settles s (c.about eventId))
        (unquarantined rows { cluster with policies := [] }) calls := by
  have hnone (ns name : String) : { cluster with policies := [] }.policy? ns name = none := by
    simp [Cluster.policy?]
  apply Runs.always_iff_along
    (J := fun s ↦ (ledger s.rows).Consistent ∧ Selective eventId s)
  · rintro s c ⟨hrows, hselective⟩
    exact ⟨(c.about eventId).consistent_next hrows,
      selective_next (c := c.about eventId) hrows hselective⟩
  · rintro s c ⟨hrows, hselective⟩ hagrees
    exact agrees_next_iff (c := c.about eventId) hrows hselective hagrees
  · constructor
    · exact consistent_of_empty rfl
    · intro event _ policy hpolicy
      simp only [unquarantined, hnone] at hpolicy
      cases hpolicy
  · constructor
    · rintro event - ⟨e, he, -⟩
      cases he
    · intro event _ hpolicy
      simp only [unquarantined, hnone, Option.isSome_none, Bool.false_eq_true] at hpolicy

/-- A cluster that refuses to take labels off. -/
def clinging : Env :=
  { reflecting with
    request := fun _ m ↦
      match m with
      | .patchQuarantineLabel _ _ none => .refused (.api 500)
      | _ => .done }

private theorem databaseFaults_clinging : DatabaseFaults clinging := by
  intro w e h
  cases h

private theorem truthful_clinging : Truthful clinging where
  readPod := truthful_reflecting.readPod
  readPolicy := truthful_reflecting.readPolicy
  missing := truthful_reflecting.missing

/-- An event is quarantined, and its release cut off between policy and label. -/
def cutOffCalls : List ServiceCall :=
  [reflected 0 false,
    { eventId := 0
      removes := true
      actor := "operator"
      env := clinging
      faults := databaseFaults_clinging
      truthful := truthful_clinging }]

private theorem not_agrees_of_missing {s : State} (eventId : Nat) (ns name : String)
    (hevents : s.rows.securityEvents[eventId]?.map (fun event ↦ (event.ns, policyNameOf event)) =
      some (ns, name))
    (hrecords : (eventId, ContainmentStatus.contained) ∈ s.rows.quarantineRecords.map
      fun record ↦ (record.securityEventId, record.status))
    (hpolicy : (s.cluster.policy? ns name).isSome = false) : ¬ Agrees eventId s := by
  intro h
  obtain ⟨event, hevent, hnames⟩ := Option.map_eq_some_iff.mp hevents
  obtain ⟨record, hrecord, hcontained⟩ := List.mem_map.mp hrecords
  rw [Prod.mk.injEq] at hnames hcontained
  have hcontains : (quarantines s.rows).Contains eventId :=
    ⟨entryOf record, List.mem_map_of_mem hrecord, hcontained.1, hcontained.2⟩
  have hsome := (h.contained event hevent hcontains).policy
  rw [hnames.1, hnames.2, hpolicy] at hsome
  exact Bool.noConfusion hsome

/-- The policy is deleted, the label patch raises, and the record stays contained. -/
theorem cut_off_release_disagrees :
    ¬ ∀ (rows : Database) (cluster : Cluster) (eventId : Nat) (calls : List ServiceCall),
      Agrees eventId (Runs.run (fun s c ↦ (c.about eventId).next s)
        (unquarantined rows { cluster with policies := [] }) calls) := by
  intro h
  have hnot : ¬ Agrees 0 (Runs.run (fun s c ↦ (c.about 0).next s)
      (unquarantined sharedPodRows { oneDemoPod with policies := [] }) cutOffCalls) :=
    not_agrees_of_missing 0 "cloudward-staging" "cloudward-quarantine-0123456789ab"
      (by decide +kernel) (by decide +kernel) (by decide +kernel)
  exact hnot (h sharedPodRows oneDemoPod 0 cutOffCalls)

end CloudWard.Security
