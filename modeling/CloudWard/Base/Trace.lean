import CloudWard.Base.World

/-!
# The requests of a trace

The cluster is the trace, replayed. A trace whose newest event is a request that took effect is
of a call that has committed nothing since, so what the request did is in no row.
-/

namespace CloudWard.Trace

open CloudWard.Kubernetes CloudWard.Logic Service

/-- The cluster after an event of the trace. -/
def effectOn : Event → Cluster → Cluster
  | .mutated m, cluster => cluster.apply m
  | _, cluster => cluster

/-- The cluster after the events of a trace, newest first. -/
def replay (cluster : Cluster) (trace : List Event) : Cluster := trace.foldr effectOn cluster

/-- No request took effect. -/
def Silent (trace : List Event) : Prop := ∀ m, Event.mutated m ∉ trace

/-- Nothing was committed since the last request took effect. -/
def Pending (trace : List Event) : Prop := ∃ m, trace.head? = some (.mutated m)

/-- A request took effect. -/
def isRequest : Event → Bool
  | .mutated _ => true
  | _ => false

private theorem any_isRequest_iff (trace : List Event) :
    trace.head?.any isRequest = true ↔ Pending trace := by
  unfold Pending
  cases trace with
  | nil => simp
  | cons e rest => cases e <;> simp [isRequest]

instance decidablePending (trace : List Event) : Decidable (Pending trace) :=
  decidable_of_iff _ (any_isRequest_iff trace)

/-- How many requests took effect. -/
def requests (trace : List Event) : Nat := trace.countP isRequest

variable {cluster : Cluster} {trace : List Event}

/-- A request of the trace is made of the cluster after the rest. -/
theorem replay_mutated (cluster : Cluster) (m : Mutation) (rest : List Event) :
    replay cluster (.mutated m :: rest) = (replay cluster rest).apply m := rfl

theorem replay_of_silent (h : Silent trace) : replay cluster trace = cluster := by
  induction trace with
  | nil => rfl
  | cons e rest ih =>
    have hrest : Silent rest := fun m hm ↦ h m (List.mem_cons_of_mem e hm)
    cases e with
    | mutated m => exact absurd (List.mem_cons_self) (h m)
    | _ => exact ih hrest

theorem not_pending_of_silent (h : Silent trace) : ¬ Pending trace := by
  rintro ⟨m, hm⟩
  exact h m (List.mem_of_head? hm)

theorem requests_of_silent (h : Silent trace) : requests trace = 0 := by
  unfold requests
  rw [List.countP_eq_zero]
  intro e he
  cases e with
  | mutated m => exact absurd he (h m)
  | _ => exact Bool.false_ne_true

theorem requests_mutated (m : Mutation) (rest : List Event) :
    requests (.mutated m :: rest) = requests rest + 1 :=
  List.countP_cons_of_pos rfl

/-- What holds of the cluster and is kept by every request of the trace. -/
theorem replay_keeps {P : Cluster → Prop} (hbase : P cluster)
    (hstep : ∀ (c : Cluster) m, .mutated m ∈ trace → P c → P (c.apply m)) :
    P (replay cluster trace) := by
  induction trace with
  | nil => exact hbase
  | cons e rest ih =>
    have hrest := ih fun c m hm ↦ hstep c m (List.mem_cons_of_mem e hm)
    cases e with
    | mutated m => exact hstep _ m List.mem_cons_self hrest
    | _ => exact hrest

end CloudWard.Trace
