import CloudWard.Base.Trace
import CloudWard.Security.Quarantine

/-!
# The requests of a call on quarantines

The requests of an application or of a removal are few, and about one pod and one policy; so what
a trace of them leaves of this and of every other policy and label is known from which of them
took effect.
-/

namespace CloudWard.Security

open CloudWard.Db CloudWard.Kubernetes Trace

/-- The requests of an application or of a removal. -/
inductive Requests (event : SecurityEvent) : (removes : Bool) → Mutation → Prop
  | label : Requests event false
      (.patchQuarantineLabel event.ns event.pod (some (quarantineIdOf event)))
  | create (incidentId : String) : Requests event false
      (.createPolicy (quarantinePolicy event.ns event.pod (quarantineIdOf event) incidentId))
  | delete : Requests event true (.deletePolicy event.ns (policyNameOf event))
  | unlabel (removes : Bool) : Requests event removes
      (.patchQuarantineLabel event.ns event.pod none)

/-- The policy of the event is there, and selects its pod. -/
structure Enforced (cluster : Cluster) (event : SecurityEvent) : Prop where
  policy : ∃ policy, cluster.policy? event.ns (policyNameOf event) = some policy ∧
    policy.matchLabels = quarantineSelector (quarantineIdOf event) ∧ policy.egressDenyAll
  label : cluster.quarantineIdOf event.ns event.pod = some (quarantineIdOf event)

/-- A policy of the event is there, and its pod carries the label. -/
structure InPlace (cluster : Cluster) (event : SecurityEvent) : Prop where
  policy : (cluster.policy? event.ns (policyNameOf event)).isSome
  label : cluster.quarantineIdOf event.ns event.pod = some (quarantineIdOf event)

theorem Enforced.inPlace {cluster : Cluster} {event : SecurityEvent} (h : Enforced cluster event) :
    InPlace cluster event where
  policy := by
    obtain ⟨policy, hpolicy, -⟩ := h.policy
    rw [hpolicy]
    rfl
  label := h.label

/-- No policy of the event is there, or one that selects something else. -/
def Unselected (cluster : Cluster) (event : SecurityEvent) : Prop :=
  ∀ policy, cluster.policy? event.ns (policyNameOf event) = some policy →
    policy.matchLabels ≠ quarantineSelector (quarantineIdOf event)

section Replay

variable {cluster : Cluster} {trace : List Event} {event : SecurityEvent} {removes : Bool}
variable {ns name : String}

variable (h : ∀ m, .mutated m ∈ trace → Requests event removes m)
include h

/-- Other policies are left alone. -/
theorem policy?_replay_of_ne (hne : name ≠ policyNameOf event) :
    (replay cluster trace).policy? ns name = cluster.policy? ns name := by
  apply replay_keeps (P := fun c ↦ c.policy? ns name = cluster.policy? ns name) rfl
  intro c m hm hc
  cases h m hm with
  | label => exact hc
  | unlabel => exact hc
  | create incidentId =>
    rw [Cluster.policy?_apply_createPolicy, hc, if_neg fun heq ↦ hne heq.2.symm, Option.or_none]
  | delete =>
    rw [Cluster.policy?_apply_deletePolicy, if_neg fun heq ↦ hne heq.2, hc]

/-- A pod whose label no request patches keeps it. -/
theorem quarantineIdOf_replay_of_unpatched
    (hunpatched : ∀ value, .mutated (.patchQuarantineLabel ns name value) ∉ trace) :
    (replay cluster trace).quarantineIdOf ns name = cluster.quarantineIdOf ns name := by
  apply replay_keeps (P := fun c ↦ c.quarantineIdOf ns name = cluster.quarantineIdOf ns name) rfl
  intro c m hm hc
  have hpatch (value : Option String)
      (hmem : .mutated (.patchQuarantineLabel event.ns event.pod value) ∈ trace) :
      (c.apply (.patchQuarantineLabel event.ns event.pod value)).quarantineIdOf ns name =
        cluster.quarantineIdOf ns name := by
    rw [Cluster.quarantineIdOf_apply_patch, if_neg, hc]
    rintro ⟨rfl, rfl, -⟩
    exact hunpatched value hmem
  cases h m hm with
  | label => exact hpatch _ hm
  | unlabel => exact hpatch _ hm
  | create incidentId => exact hc
  | delete => exact hc

/-- The pod of the event carries the event's label or none, once its label is patched. -/
theorem quarantineIdOf_replay_of_patched {value : Option String}
    (hpatched : .mutated (.patchQuarantineLabel ns name value) ∈ trace) :
    (replay cluster trace).quarantineIdOf ns name = none ∨
      (replay cluster trace).quarantineIdOf ns name = some (quarantineIdOf event) := by
  have hpod : ns = event.ns ∧ name = event.pod := by
    cases h _ hpatched with
    | label => exact ⟨rfl, rfl⟩
    | unlabel => exact ⟨rfl, rfl⟩
  obtain ⟨rfl, rfl⟩ := hpod
  have hpatch (c : Cluster) (value : Option String)
      (hvalue : value = none ∨ value = some (quarantineIdOf event)) :
      (c.apply (.patchQuarantineLabel event.ns event.pod value)).quarantineIdOf event.ns
          event.pod = none ∨
        (c.apply (.patchQuarantineLabel event.ns event.pod value)).quarantineIdOf event.ns
          event.pod = some (quarantineIdOf event) := by
    rw [Cluster.quarantineIdOf_apply_patch]
    by_cases hsome : (c.pod? event.ns event.pod).isSome
    · rw [if_pos ⟨rfl, rfl, hsome⟩]
      exact hvalue
    · rw [if_neg fun hpos ↦ hsome hpos.2.2]
      rw [Option.not_isSome_iff_eq_none] at hsome
      left
      simp only [Cluster.quarantineIdOf, hsome, Option.bind_none]
  -- the newest patch decides; what came after it was no patch
  induction trace with
  | nil => cases hpatched
  | cons e rest ih =>
    have hrest : ∀ m, .mutated m ∈ rest → Requests event removes m :=
      fun m hm ↦ h m (List.mem_cons_of_mem e hm)
    have hold (hne : ∀ value, e ≠ .mutated (.patchQuarantineLabel event.ns event.pod value)) :=
      ih hrest ((List.mem_cons.mp hpatched).resolve_left (hne value).symm)
    cases e with
    | mutated m =>
      cases h m List.mem_cons_self with
      | label => exact hpatch _ _ (.inr rfl)
      | unlabel => exact hpatch _ _ (.inl rfl)
      | create incidentId => exact hold fun _ heq ↦ by cases heq
      | delete => exact hold fun _ heq ↦ by cases heq
    | _ => exact hold fun _ heq ↦ by cases heq

/-- Another event's quarantine stays enforced exactly as long as no request patches the label of
its pod. -/
theorem enforced_replay_iff {other : SecurityEvent} (hne : policyNameOf other ≠ policyNameOf event)
    (henforced : Enforced cluster other) :
    Enforced (replay cluster trace) other ↔
      ∀ value, .mutated (.patchQuarantineLabel other.ns other.pod value) ∉ trace := by
  constructor
  · intro hafter value hvalue
    rcases quarantineIdOf_replay_of_patched h hvalue with hnone | hsome
    · rw [hafter.label] at hnone
      cases hnone
    · rw [hafter.label, Option.some.injEq] at hsome
      exact hne (congrArg quarantinePolicyName hsome)
  · intro hunpatched
    constructor
    · rw [policy?_replay_of_ne h hne]
      exact henforced.policy
    · rw [quarantineIdOf_replay_of_unpatched h hunpatched]
      exact henforced.label

/-- The event's policy, where there is one, selects what the event's did. -/
theorem matchLabels_replay
    (hbase : ∀ policy, cluster.policy? event.ns (policyNameOf event) = some policy →
      policy.matchLabels = quarantineSelector (quarantineIdOf event)) :
    ∀ policy, (replay cluster trace).policy? event.ns (policyNameOf event) = some policy →
      policy.matchLabels = quarantineSelector (quarantineIdOf event) := by
  apply replay_keeps (P := fun c ↦ ∀ policy, c.policy? event.ns (policyNameOf event) =
    some policy → policy.matchLabels = quarantineSelector (quarantineIdOf event)) hbase
  intro c m hm hc policy hpolicy
  cases h m hm with
  | label => exact hc policy hpolicy
  | unlabel => exact hc policy hpolicy
  | create incidentId =>
    rw [Cluster.policy?_apply_createPolicy, Option.or_eq_some_iff] at hpolicy
    rcases hpolicy with hold | ⟨-, hnew⟩
    · exact hc policy hold
    · rw [Option.ite_none_right_eq_some, Option.some.injEq] at hnew
      rw [← hnew.2]
      rfl
  | delete =>
    rw [Cluster.policy?_apply_deletePolicy, if_pos ⟨rfl, rfl⟩] at hpolicy
    cases hpolicy

end Replay

section Kinds

variable {cluster : Cluster} {trace : List Event} {event : SecurityEvent}

/-- A policy that an application creates is there ever after. -/
theorem policy?_replay_of_created (h : ∀ m, .mutated m ∈ trace → Requests event false m)
    {policy : CiliumPolicy} (hcreated : .mutated (.createPolicy policy) ∈ trace) :
    ((replay cluster trace).policy? event.ns (policyNameOf event)).isSome := by
  induction trace with
  | nil => cases hcreated
  | cons e rest ih =>
    have hrest : ∀ m, .mutated m ∈ rest → Requests event false m :=
      fun m hm ↦ h m (List.mem_cons_of_mem e hm)
    have hold (hne : ∀ policy, e ≠ .mutated (.createPolicy policy)) :=
      ih hrest ((List.mem_cons.mp hcreated).resolve_left (hne policy).symm)
    cases e with
    | mutated m =>
      cases h m List.mem_cons_self with
      | label => exact hold fun _ heq ↦ by cases heq
      | unlabel => exact hold fun _ heq ↦ by cases heq
      | create incidentId =>
        rw [replay_mutated, Cluster.policy?_apply_createPolicy, Option.isSome_or, if_pos ⟨rfl, rfl⟩]
        exact Bool.or_true _
    | _ => exact hold fun _ heq ↦ by cases heq

/-- An application that creates no policy leaves the policies alone. -/
theorem policy?_replay_of_uncreated (h : ∀ m, .mutated m ∈ trace → Requests event false m)
    (huncreated : ∀ policy, .mutated (.createPolicy policy) ∉ trace) (ns name : String) :
    (replay cluster trace).policy? ns name = cluster.policy? ns name := by
  apply replay_keeps (P := fun c ↦ c.policy? ns name = cluster.policy? ns name) rfl
  intro c m hm hc
  cases h m hm with
  | label => exact hc
  | unlabel => exact hc
  | create incidentId => exact absurd hm (huncreated _)

/-- A removal creates no policy. -/
theorem policy?_of_replay_removal (h : ∀ m, .mutated m ∈ trace → Requests event true m)
    {ns name : String} (hsome : ((replay cluster trace).policy? ns name).isSome) :
    (cluster.policy? ns name).isSome := by
  have hkeeps : ((replay cluster trace).policy? ns name).isSome →
      (cluster.policy? ns name).isSome := by
    apply replay_keeps (P := fun c ↦ (c.policy? ns name).isSome → (cluster.policy? ns name).isSome)
      fun hbase ↦ hbase
    intro c m hm hc hafter
    cases h m hm with
    | unlabel => exact hc hafter
    | delete =>
      rw [Cluster.policy?_apply_deletePolicy] at hafter
      split at hafter
      · cases hafter
      · exact hc hafter
  exact hkeeps hsome

/-- After a request of a removal the policy or the label is gone. -/
theorem not_inPlace_of_pending (h : ∀ m, .mutated m ∈ trace → Requests event true m)
    (hpending : Pending trace) : ¬ InPlace (replay cluster trace) event := by
  obtain ⟨m, hm⟩ := hpending
  obtain ⟨rest, rfl⟩ := List.head?_eq_some_iff.mp hm
  intro hinPlace
  have hpolicy := hinPlace.policy
  have hlabel := hinPlace.label
  cases h m List.mem_cons_self with
  | delete =>
    rw [replay_mutated, Cluster.policy?_apply_deletePolicy, if_pos ⟨rfl, rfl⟩] at hpolicy
    cases hpolicy
  | unlabel =>
    rw [replay_mutated, Cluster.quarantineIdOf_apply_patch] at hlabel
    by_cases hsome : ((replay cluster rest).pod? event.ns event.pod).isSome
    · rw [if_pos ⟨rfl, rfl, hsome⟩] at hlabel
      cases hlabel
    · rw [if_neg fun hpos ↦ hsome hpos.2.2] at hlabel
      rw [Option.not_isSome_iff_eq_none] at hsome
      simp only [Cluster.quarantineIdOf, hsome, Option.bind_none] at hlabel
      cases hlabel

end Kinds

end CloudWard.Security
