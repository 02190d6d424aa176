import CloudWard.Lab.Owned

/-!
# Experiments are contained

In every order of starts, stops, passes and of what others do to the cluster, an experiment of the
Incident Lab is what the catalog says of it at the demo target of staging, was asked for by an
operator or an administrator and allowed by the policy; and it does not outlive its execution. Only
a start that loses an answer or its commit after it made its experiment leaves one behind.
-/

namespace CloudWard.Lab.Experiments

open CloudWard.Kubernetes CloudWard.Logic

variable {d : Deployment} {s : State} {i : Nat}

/-- A move that may leave an experiment behind: the start ends before its commit. -/
def Loses (s : State) (i : Nat) : Move → Prop
  | .create j reply => j = i ∧ reply = .lost
  | .abandon j => j = i ∧ InFlight s i
  | _ => False

/-- The state after some moves from an empty laboratory. -/
def after (d : Deployment) (moves : List Move) : State := Runs.run (step d) {} moves

/-- Only a move that loses a start adds to the lost ones. -/
theorem lost_step {m : Move} (h : i ∈ (step d s m).lost) : i ∈ s.lost ∨ Loses s i m := by
  cases m with
  | create j reply =>
    simp only [step] at h
    split at h
    · split at h
      · unfold State.create at h
        split at h
        · exact .inl h
        · split at h
          · exact .inl h
          · next hnot =>
            dsimp only at h
            split at h
            · exact .inl h
            · next haccepted =>
              rcases List.mem_cons.mp h with rfl | h
              · refine .inr ⟨rfl, ?_⟩
                cases reply with
                | accepted => exact absurd rfl haccepted
                | refused => exact absurd (.inl rfl) hnot
                | lost => rfl
              · exact .inl h
      · exact .inl h
    · exact .inl h
  | abandon j =>
    simp only [step, State.abandon] at h
    split at h
    · next scenario login kind name hold =>
      split at h
      · rcases List.mem_cons.mp h with rfl | h
        · exact .inr ⟨rfl, scenario, login, kind, name, hold⟩
        · exact .inl h
      · exact .inl h
    · exact .inl h
  | delete j reply =>
    simp only [step, State.delete] at h
    repeat' split at h
    all_goals exact .inl h
  | finish j e =>
    simp only [step, State.finish] at h
    repeat' split at h
    all_goals exact .inl h
  | cancel j now entries =>
    simp only [step, State.finish] at h
    repeat' split at h
    all_goals exact .inl h
  | _ =>
    simp only [step] at h
    repeat' split at h
    all_goals exact .inl h

/-- Each lost start was lost by a move of the run. -/
theorem lost_run (moves : List Move) (hi : i ∈ (Runs.run (step d) s moves).lost) :
    i ∈ s.lost ∨ ∃ before m rest, moves = before ++ m :: rest ∧
      Loses (Runs.run (step d) s before) i m := by
  induction moves generalizing s with
  | nil => exact .inl hi
  | cons m moves ih =>
    rcases ih hi with hlost | ⟨before, m', rest, rfl, hloses⟩
    · rcases lost_step hlost with hlost | hloses
      · exact .inl hlost
      · exact .inr ⟨[], m, moves, rfl, hloses⟩
    · exact .inr ⟨m :: before, m', rest, rfl, hloses⟩

private theorem sound_empty : Sound d {} where
  contained c hc := absurd hc List.not_mem_nil
  once := List.nodup_nil
  objects o ho := absurd ho List.not_mem_nil
  located o ho := absurd ho List.not_mem_nil
  rows x hx := absurd hx List.not_mem_nil
  named x hx := absurd hx List.not_mem_nil
  terminal x hx := absurd hx List.not_mem_nil
  bounded j hj := by
    rcases hj with ⟨c, hc, -⟩ | ⟨x, hx, -⟩ | hl
    · exact absurd hc List.not_mem_nil
    · exact absurd hx List.not_mem_nil
    · exact absurd hl List.not_mem_nil
  sessions j x hx := by
    simp at hx

/-- **No experiment outlives its execution**, whatever requests, passes and failures interleave.
Every experiment that was ever made is contained, and a start makes one at most. One that is in the
cluster is of an active execution, of a start that has not committed yet, or of a start that was
lost; none is of an execution that is over. A start is lost only by a move that loses the answer of
its creation, or ends it between its creation and its commit. -/
theorem experiments_contained (d : Deployment) (moves : List Move) :
    (∀ c ∈ (after d moves).created, Contained d c) ∧
    ((after d moves).created.map (·.start)).Nodup ∧
    (∀ o ∈ (after d moves).objects, ∀ i, o.start = some i →
      (∃ c ∈ (after d moves).created, c.object = o) ∧
      ((∃ x ∈ (after d moves).executions, x.start = i ∧ x.row.active) ∨
        InFlight (after d moves) i ∨ i ∈ (after d moves).lost)) ∧
    (∀ x ∈ (after d moves).executions, x.row.active = false → Gone (after d moves) x.start) ∧
    ∀ i ∈ (after d moves).lost, ∃ before m rest, moves = before ++ m :: rest ∧
      Loses (after d before) i m := by
  have h : Sound d (after d moves) :=
    Runs.invariant (I := Sound d) (fun _ m hs ↦ sound_step hs m) sound_empty moves
  refine ⟨h.contained, h.once, ?_, h.terminal, ?_⟩
  · intro o ho i hi
    refine ⟨h.objects o ho i hi, ?_⟩
    rcases h.located o ho i hi with ⟨x, hx, rfl⟩ | hf | hl
    · left
      refine ⟨x, hx, rfl, ?_⟩
      by_contra hover
      exact h.terminal x hx (by simpa using hover) o ho hi
    · exact .inr (.inl hf)
    · exact .inr (.inr hl)
  · intro i hi
    rcases lost_run moves hi with hnil | hmove
    · exact absurd hnil List.not_mem_nil
    · exact hmove

private theorem valid_demoExecution :
    isUuidText "01234567-89ab-cdef-0123-456789abcdef".toList := by decide

/-- A laboratory whose policy allows every start. -/
def openLab : Deployment where
  settings := .standard
  loads _ := .ok (.dict [("result", .dict [("allowed", .bool true), ("reason", .str "allowed")])])
  uuid _ := ⟨"01234567-89ab-cdef-0123-456789abcdef", valid_demoExecution⟩

/-- An operator's start of the CPU saturation. -/
def saturation : StartRequest where
  scenarioId := "reliability.cpu-saturation"
  login := "operator"
  role := .operator
  opa := .response 200 []
  pods := .ok [makePod "demo" true]

/-- Without its commit the experiment stays; with a stop it goes. -/
example :
    (after openLab [.start saturation, .create 0 .accepted, .abandon 0]).objects.length = 1 ∧
    (after openLab [.start saturation, .create 0 .accepted, .launch 0 0 false,
      .load 0 (some "operator"), .delete 1 .accepted, .cancel 1 1 []]).objects.length = 0 := by
  decide +kernel

end CloudWard.Lab.Experiments
