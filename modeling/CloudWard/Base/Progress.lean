import CloudWard.Base.World

/-!
# Runs that return

The other half of the program logic: where nothing outside fails, a program returns, and
what it returns and leaves is known but for the number of calls it made. The rules follow
the primitives of `Base/World.lean`; a claim that something can happen is proved by them.
-/

namespace CloudWard.Service

open CloudWard.Db CloudWard.Kubernetes CloudWard.Logic CloudWard.Policies

variable {α β : Type}

/-- From `w` the program returns `a` and leaves `w'` but for its tick. -/
def Reaches (x : Service α) (w : World) (a : α) (w' : World) : Prop :=
  ∃ n, x.run w = (.ok a, { w' with tick := n })

/-- An environment in which no statement and no validation fails. -/
structure Quiet (env : Env) : Prop where
  database : ∀ w, env.database w = none
  validation : ∀ w, env.validation w = none

section Rules

variable {x : Service α} {k : α → Service β} {w w' w'' : World} {a : α} {b : β} {env : Env}

/-- A sequence returns when its parts do, the second from any tick. -/
theorem reaches_bind (hx : Reaches x w a w')
    (hk : ∀ n, Reaches (k a) { w' with tick := n } b w'') : Reaches (x >>= k) w b w'' := by
  obtain ⟨n, hn⟩ := hx
  obtain ⟨m, hm⟩ := hk n
  use m
  rw [Exec.run_bind_of_ok hn, hm]

theorem reaches_pure (a : α) (w : World) : Reaches (pure a) w a w := ⟨w.tick, rfl⟩

theorem reaches_read (f : World → α) (w : World) : Reaches (Exec.read f) w (f w) w :=
  ⟨w.tick, rfl⟩

theorem reaches_ask (answer : World → α) (w : World) : Reaches (ask answer) w (answer w) w :=
  ⟨w.tick + 1, rfl⟩

theorem reaches_ofExcept {v : Except Exc α} (h : v = .ok a) :
    Reaches (Exec.ofExcept v) w a w := by
  use w.tick
  rw [Exec.run_ofExcept, h]

theorem reaches_faultOf {fault : Option Exc} (h : fault = none) :
    Reaches (Exec.faultOf fault) w () w := by
  use w.tick
  rw [h, Exec.run_faultOf_none]

theorem reaches_call {answer : World → Except Exc α} (h : answer w = .ok a) :
    Reaches (call answer) w a w := by
  use w.tick + 1
  rw [run_call, h]

theorem reaches_require {c : Prop} [Decidable c] {e : CloudWardError} (h : c) :
    Reaches (require c e) w () w := by
  use w.tick
  unfold require
  rw [Exec.run_require, if_pos h]

theorem reaches_exec_require {c : Prop} [Decidable c] {e : Exc} (h : c) :
    Reaches (Exec.require c e) w () w := by
  use w.tick
  rw [Exec.run_require, if_pos h]

theorem reaches_when {c : Prop} [Decidable c] {x : Service Unit} (hc : c)
    (hx : Reaches x w () w') : Reaches (Exec.when c x) w () w' := by
  obtain ⟨n, hn⟩ := hx
  use n
  rw [Exec.run_when, if_pos hc, hn]

theorem reaches_when_not {c : Prop} [Decidable c] {x : Service Unit} (hc : ¬ c) :
    Reaches (Exec.when c x) w () w := by
  use w.tick
  rw [Exec.run_when, if_neg hc]

theorem reaches_ite {c : Prop} [Decidable c] {y : Service α} (hc : c)
    (hx : Reaches x w a w') : Reaches (if c then x else y) w a w' := by
  rw [if_pos hc]
  exact hx

theorem reaches_ite_not {c : Prop} [Decidable c] {y : Service α} (hc : ¬ c)
    (hy : Reaches y w a w') : Reaches (if c then x else y) w a w' := by
  rw [if_neg hc]
  exact hy

theorem reaches_tryCatch {h : Exc → Service α} (hx : Reaches x w a w') :
    Reaches (tryCatch x h) w a w' := by
  obtain ⟨n, hn⟩ := hx
  use n
  rw [Exec.run_tryCatch, hn]

theorem reaches_wrapping {error : CloudWardError} (hx : Reaches x w a w') :
    Reaches (wrapping error x) w a w' :=
  reaches_tryCatch hx

theorem reaches_record (e : Event) (w : World) :
    Reaches (record e) w () { w with trace := e :: w.trace } := ⟨w.tick, rfl⟩

theorem reaches_write (f : Database → Database) (w : World) :
    Reaches (write f) w () { w with db := f w.db } := ⟨w.tick, rfl⟩

theorem reaches_rollback (w : World) : Reaches rollback w () { w with db := w.committed } :=
  ⟨w.tick, rfl⟩

theorem reaches_evaluate (env : Env) (input : PolicyInput) (w : World) :
    Reaches (evaluate env input) w (env.opa w input)
      { w with trace := .evaluated input (env.opa w input) :: w.trace } := ⟨w.tick + 1, rfl⟩

theorem reaches_send {m : Mutation} (h : env.request w m = .done) :
    Reaches (send env m) w ()
      { w with cluster := w.cluster.apply m, trace := .mutated m :: w.trace } := by
  apply reaches_bind (reaches_ask _ w)
  intro n
  rw [h]
  exact ⟨n, rfl⟩

theorem reaches_flush (hq : Quiet env) (w : World) : Reaches (flush env) w () w := by
  use w.tick + 1
  rw [run_flush, hq.database]

theorem reaches_query (hq : Quiet env) (f : Database → α) (w : World) :
    Reaches (query env f) w (f w.db) w := by
  apply reaches_bind (reaches_flush hq w)
  intro n
  exact reaches_read _ _

theorem reaches_commit (hq : Quiet env) (w : World) :
    Reaches (commit env) w () { w with committed := w.db, trace := .committed :: w.trace } := by
  apply reaches_bind (reaches_flush hq w)
  intro n
  exact ⟨n, rfl⟩

/-- From `w` the program returns, with a value and in a world that satisfy `Q`. -/
def Returns (x : Service α) (w : World) (Q : α → World → Prop) : Prop :=
  ∃ a w', x.run w = (.ok a, w') ∧ Q a w'

theorem Reaches.returns {Q : α → World → Prop} (h : Reaches x w a w')
    (hQ : ∀ n, Q a { w' with tick := n }) : Returns x w Q := by
  obtain ⟨n, hn⟩ := h
  exact ⟨a, _, hn, hQ n⟩

theorem returns_bind {Q : β → World → Prop} (hx : Reaches x w a w')
    (hk : ∀ n, Returns (k a) { w' with tick := n } Q) : Returns (x >>= k) w Q := by
  obtain ⟨n, hn⟩ := hx
  obtain ⟨b, w₂, hrun, hQ⟩ := hk n
  use b, w₂
  rw [Exec.run_bind_of_ok hn]
  exact ⟨hrun, hQ⟩

theorem Returns.mono {Q R : α → World → Prop} (h : Returns x w Q)
    (hqr : ∀ a w', Q a w' → R a w') : Returns x w R := by
  obtain ⟨a, w', hrun, hq⟩ := h
  exact ⟨a, w', hrun, hqr a w' hq⟩

/-- A sequence returns when its second part does from wherever the first returned. -/
theorem Returns.bind {Q : α → World → Prop} {R : β → World → Prop} (hx : Returns x w Q)
    (hk : ∀ a w', Q a w' → Returns (k a) w' R) : Returns (x >>= k) w R := by
  obtain ⟨a, w₁, hrun, hQ⟩ := hx
  obtain ⟨b, w₂, hrun', hR⟩ := hk a w₁ hQ
  use b, w₂
  rw [Exec.run_bind_of_ok hrun]
  exact ⟨hrun', hR⟩

theorem returns_when {c : Prop} [Decidable c] {x : Service Unit} {Q : Unit → World → Prop}
    (hx : c → Returns x w Q) (hn : ¬ c → Q () w) : Returns (Exec.when c x) w Q := by
  by_cases hc : c
  · obtain ⟨a, w₁, hrun, hQ⟩ := hx hc
    use a, w₁
    rw [Exec.run_when, if_pos hc]
    exact ⟨hrun, hQ⟩
  · use (), w
    rw [Exec.run_when, if_neg hc]
    exact ⟨rfl, hn hc⟩

/-- What a program returns with holds of the state its run ends in. -/
theorem Returns.state {Q : World → Prop} (h : Returns x w fun _ ↦ Q) : Q (x.run w).2 := by
  obtain ⟨a, w', hrun, hQ⟩ := h
  rw [hrun]
  exact hQ

end Rules

/-! ### Rows and traces of runs -/

/-- From the rows `d` the program returns `a` and leaves the rows `d'`. -/
def Gives (d : Database) (x : Service α) (a : α) (d' : Database) : Prop :=
  ∀ w, w.db = d → ∃ w', x.run w = (.ok a, w') ∧ w'.db = d'

/-- The run from `w` has `e` in its trace at its end. -/
def Leaves (e : Event) (x : Service α) (w : World) : Prop := e ∈ (x.run w).2.trace

section Rows

variable {x : Service α} {k : α → Service β} {w : World} {a : α} {b : β} {env : Env}
variable {d d' d'' : Database} {e : Event}

theorem gives_bind (hx : Gives d x a d') (hk : Gives d' (k a) b d'') :
    Gives d (x >>= k) b d'' := by
  intro w hw
  obtain ⟨w', hrun, hw'⟩ := hx w hw
  obtain ⟨w'', hrun', hw''⟩ := hk w' hw'
  use w''
  rw [Exec.run_bind_of_ok hrun]
  exact ⟨hrun', hw''⟩

theorem gives_of_reaches {g : World → World} (h : ∀ w, w.db = d → Reaches x w a (g w))
    (hg : ∀ w, w.db = d → (g w).db = d') : Gives d x a d' := by
  intro w hw
  obtain ⟨n, hn⟩ := h w hw
  exact ⟨_, hn, hg w hw⟩

/-- What returns from every world and leaves it alone leaves the rows. -/
theorem gives_of_reaches_self (h : ∀ w, Reaches x w a w) : Gives d x a d :=
  gives_of_reaches (fun w _ ↦ h w) fun _ hw ↦ hw

theorem gives_pure (a : α) : Gives d (pure a) a d := fun w hw ↦ ⟨w, rfl, hw⟩

theorem gives_write (f : Database → Database) : Gives d (write f) () (f d) := by
  intro w hw
  refine ⟨_, rfl, ?_⟩
  rw [← hw]

theorem gives_read (f : Database → α) : Gives d (Exec.read fun w ↦ f w.db) (f d) d := by
  intro w hw
  use w
  rw [← hw]
  exact ⟨rfl, rfl⟩

theorem gives_record (e : Event) : Gives d (record e) () d := fun _ hw ↦ ⟨_, rfl, hw⟩

theorem gives_flush (hq : Quiet env) : Gives d (flush env) () d :=
  gives_of_reaches_self (reaches_flush hq)

theorem gives_query (hq : Quiet env) (f : Database → α) : Gives d (query env f) (f d) d :=
  gives_bind (gives_flush hq) (gives_read f)

theorem gives_commit (hq : Quiet env) : Gives d (commit env) () d :=
  gives_bind (gives_flush hq) fun _ hw ↦ ⟨_, rfl, hw⟩

theorem leaves_bind (hx : Gives d x a d') (hw : w.db = d)
    (hk : ∀ w', w'.db = d' → Leaves e (k a) w') : Leaves e (x >>= k) w := by
  obtain ⟨w', hrun, hw'⟩ := hx w hw
  unfold Leaves
  rw [Exec.run_bind_of_ok hrun]
  exact hk w' hw'

/-- What the first part leaves stays where the second only adds to the trace. -/
theorem leaves_bind_left {p : Event → Prop} (hx : Leaves e x w)
    (hk : ∀ a, Exec.Emits World.trace p (k a)) : Leaves e (x >>= k) w := by
  unfold Leaves at hx ⊢
  rw [Exec.run_bind]
  rcases hrun : x.run w with ⟨e' | a, w'⟩
  · rw [hrun] at hx
    exact hx
  · rw [hrun] at hx
    exact (hk a).mem hx

theorem leaves_tryCatch {h : Exc → Service α} {p : Event → Prop} (hx : Leaves e x w)
    (hh : ∀ e, Exec.Emits World.trace p (h e)) : Leaves e (tryCatch x h) w := by
  unfold Leaves at hx ⊢
  rw [Exec.run_tryCatch]
  rcases hrun : x.run w with ⟨e' | a, w'⟩
  · rw [hrun] at hx
    exact (hh e').mem hx
  · rw [hrun] at hx
    exact hx

end Rows

/-- An environment in which nothing fails and the policy allows everything. -/
def calm : Env where
  database _ := none
  validation _ := none
  opa _ _ :=
    { allowed := true
      requiresApproval := false
      reason := "allowed"
      reason_length := by decide }
  listPods _ _ _ := .ok []
  readPod _ _ _ := .error (.api 404)
  readDeployment _ _ _ := .ok ⟨some 2, some 1, ∅, []⟩
  listEvents _ _ _ := .ok ()
  serviceHealth _ _ _ _ := .ok (.object (some "down") none)
  readPolicy _ _ _ := .error (.api 404)
  probeEgress _ _ _ := .ok true
  telemetry _ := .ok ()
  readImageTag _ := .ok "bad"
  request _ _ := .done
  polls _ := 0
  now _ := 0
  digest _ := "digest"

theorem quiet_calm : Quiet calm := ⟨fun _ ↦ rfl, fun _ ↦ rfl⟩

end CloudWard.Service
