import Mathlib.Algebra.Order.Group.Defs
import Mathlib.Algebra.Order.Sub.Defs
import Mathlib.Data.List.TakeWhile
import Mathlib.Tactic.Abel

/-!
# Sliding windows

Library `Logic`. A queue holds the times that were admitted within a length before the last
question. A question at a time drops what is older from the front, and is admitted where fewer
than the limit are left. Asked at times that do not decrease, the queue admits as many as it may
and no more.
-/

namespace CloudWard.Logic.Window

section Logs

variable {α : Type}

/-- The times of a log that were admitted. -/
def admitted (log : List (α × Bool)) : List α := (log.filter (·.2)).map (·.1)

@[simp] theorem admitted_nil : admitted ([] : List (α × Bool)) = [] := rfl

@[simp] theorem admitted_append (xs ys : List (α × Bool)) :
    admitted (xs ++ ys) = admitted xs ++ admitted ys := by
  simp [admitted]

@[simp] theorem admitted_cons_true (t : α) (log : List (α × Bool)) :
    admitted ((t, true) :: log) = t :: admitted log := rfl

@[simp] theorem admitted_cons_false (t : α) (log : List (α × Bool)) :
    admitted ((t, false) :: log) = admitted log := rfl

theorem mem_of_mem_admitted {t : α} {log : List (α × Bool)} (h : t ∈ admitted log) :
    (t, true) ∈ log := by
  simpa [admitted] using h

end Logs

/-- What a sorted queue keeps is what is recent. -/
theorem dropWhile_eq_filter {α : Type} [LinearOrder α] {bound : α} {queue : List α}
    (h : queue.Pairwise (· ≤ ·)) : queue.dropWhile (· ≤ bound) = queue.filter (bound < ·) := by
  induction queue with
  | nil => rfl
  | cons t rest ih =>
    rw [List.pairwise_cons] at h
    by_cases ht : t ≤ bound
    · rw [List.dropWhile_cons_of_pos (by simpa using ht), ih h.2,
        List.filter_cons_of_neg (by simpa using ht)]
    · rw [List.dropWhile_cons_of_neg (by simpa using ht), eq_comm, List.filter_eq_self]
      intro s hs
      rcases List.mem_cons.mp hs with rfl | hs
      · simpa using ht
      · simpa using (lt_of_not_ge ht).trans_le (h.1 s hs)

variable {α : Type} [AddCommGroup α] [LinearOrder α]

/-- Whether a time is admitted, and the queue after it. -/
def ask (limit : Nat) (length : α) (queue : List α) (now : α) : Bool × List α :=
  let recent := queue.dropWhile (· ≤ now - length)
  if limit ≤ recent.length then (false, recent) else (true, recent ++ [now])

/-- Any two times of a kind are less than a length apart. -/
def Spans (length : α) (kind : α → Bool) : Prop := ∀ s t, kind s → kind t → t - length < s

/-- Of no kind of times that are close together more than the limit are admitted, and a time is
refused where the limit was admitted within the length before it. -/
structure Exact (limit : Nat) (length : α) (log : List (α × Bool)) : Prop where
  admits : ∀ kind, Spans length kind → (admitted log).countP kind ≤ limit
  refuses : ∀ before t after, log = before ++ (t, false) :: after →
    (admitted before).countP (t - length < ·) = limit

/-- A queue holds the last times that a log admitted: what it dropped is a length older than a
time of the log. -/
structure Tracks (limit : Nat) (length : α) (log : List (α × Bool)) (queue : List α) : Prop where
  exact : Exact limit length log
  sorted : (admitted log).Pairwise (· ≤ ·)
  length_le : queue.length ≤ limit
  split : ∃ old, admitted log = old ++ queue ∧ ∀ s ∈ old, ∃ e ∈ log, s ≤ e.1 - length

variable {limit : Nat} {length now : α} {log : List (α × Bool)} {queue : List α}

/-- An empty log and an empty queue. -/
theorem tracks_nil (limit : Nat) (length : α) : Tracks limit length [] [] where
  exact := by
    constructor
    · simp
    · intro before t after h
      simp at h
  sorted := List.Pairwise.nil
  length_le := Nat.zero_le limit
  split := ⟨[], by simp, by simp⟩

namespace Tracks

/-- What is older than what is left. -/
private theorem dropped (h : Tracks limit length log queue) (now : α) (verdict : Bool) :
    ∃ old, admitted log = old ++ queue.dropWhile (· ≤ now - length) ∧
      ∀ s ∈ old, ∃ e ∈ log ++ [(now, verdict)], s ≤ e.1 - length := by
  obtain ⟨old, hsplit, hold⟩ := h.split
  refine ⟨old ++ queue.takeWhile (· ≤ now - length), ?_, ?_⟩
  · rw [List.append_assoc, List.takeWhile_append_dropWhile, hsplit]
  · intro s hs
    rcases List.mem_append.mp hs with hs | hs
    · obtain ⟨e, he, hse⟩ := hold s hs
      exact ⟨e, List.mem_append_left _ he, hse⟩
    · exact ⟨(now, verdict), by simp, by simpa using List.mem_takeWhile_imp hs⟩

variable [IsOrderedAddMonoid α] (h : Tracks limit length log queue)

include h

/-- What is left of the queue are the recent times. -/
theorem recent (hlast : ∀ e ∈ log, e.1 ≤ now) :
    queue.dropWhile (· ≤ now - length) = (admitted log).filter (now - length < ·) := by
  obtain ⟨old, hsplit, hold⟩ := h.split
  have hsorted := h.sorted
  rw [hsplit] at hsorted ⊢
  rw [dropWhile_eq_filter (List.pairwise_append.mp hsorted).2.1, List.filter_append]
  have hnone : old.filter (now - length < ·) = [] := by
    rw [List.filter_eq_nil_iff]
    intro s hs
    obtain ⟨e, he, hse⟩ := hold s hs
    simpa using hse.trans (sub_le_sub_right (hlast e he) length)
  rw [hnone, List.nil_append]

/-- As many as the recent times are left. -/
theorem length_recent (hlast : ∀ e ∈ log, e.1 ≤ now) :
    (queue.dropWhile (· ≤ now - length)).length = (admitted log).countP (now - length < ·) := by
  rw [h.recent hlast, List.countP_eq_length_filter]

/-- A time is refused where as many as the limit are recent. -/
private theorem tracks_refused (hlast : ∀ e ∈ log, e.1 ≤ now)
    (hfull : limit ≤ (queue.dropWhile (· ≤ now - length)).length) :
    Tracks limit length (log ++ [(now, false)]) (queue.dropWhile (· ≤ now - length)) := by
  have hdrop := (List.dropWhile_sublist (l := queue) (· ≤ now - length)).length_le
  have hle := h.length_le
  constructor
  · constructor
    · intro kind hkind
      simpa using h.exact.admits kind hkind
    · intro before t after hlog
      rcases List.eq_nil_or_concat after with rfl | ⟨after, last, rfl⟩
      · obtain ⟨rfl, hpair⟩ := List.append_inj' hlog rfl
        cases hpair
        rw [← h.length_recent hlast]
        omega
      · rw [List.concat_eq_append, ← List.cons_append, ← List.append_assoc] at hlog
        exact h.exact.refuses before t after (List.append_inj' hlog rfl).1
  · simpa using h.sorted
  · omega
  · simpa using h.dropped now false

/-- A time is admitted where fewer are recent. -/
private theorem tracks_admitted (hlast : ∀ e ∈ log, e.1 ≤ now)
    (hfree : (queue.dropWhile (· ≤ now - length)).length < limit) :
    Tracks limit length (log ++ [(now, true)]) (queue.dropWhile (· ≤ now - length) ++ [now]) := by
  constructor
  · constructor
    · intro kind hkind
      rw [admitted_append, List.countP_append]
      by_cases hnow : kind now
      · -- what is of the kind is recent
        have hcount : (admitted log).countP kind ≤ (admitted log).countP (now - length < ·) :=
          List.countP_mono_left fun s _ hs ↦ by simpa using hkind s now hs hnow
        rw [← h.length_recent hlast] at hcount
        have hone := List.countP_le_length (p := kind) (l := admitted [(now, true)])
        simp only [admitted_cons_true, admitted_nil, List.length_singleton] at hone ⊢
        omega
      · simpa [hnow] using h.exact.admits kind hkind
    · intro before t after hlog
      rcases List.eq_nil_or_concat after with rfl | ⟨after, last, rfl⟩
      · have hpair := (List.append_inj' hlog rfl).2
        cases hpair
      · rw [List.concat_eq_append, ← List.cons_append, ← List.append_assoc] at hlog
        exact h.exact.refuses before t after (List.append_inj' hlog rfl).1
  · rw [admitted_append, List.pairwise_append]
    refine ⟨h.sorted, by simp, ?_⟩
    intro s hs t ht
    obtain rfl : t = now := by simpa using ht
    exact hlast _ (mem_of_mem_admitted hs)
  · rw [List.length_append, List.length_singleton]
    omega
  · obtain ⟨old, hsplit, hold⟩ := h.dropped now true
    refine ⟨old, ?_, hold⟩
    rw [admitted_append, hsplit, List.append_assoc]
    rfl

/-- A question at a time that is no earlier keeps the queue. -/
theorem ask (hlast : ∀ e ∈ log, e.1 ≤ now) :
    Tracks limit length (log ++ [(now, (ask limit length queue now).1)])
      (ask limit length queue now).2 := by
  unfold Window.ask
  dsimp only
  split
  · next hfull => exact h.tracks_refused hlast hfull
  · next hfree => exact h.tracks_admitted hlast (by omega)

end Tracks

end CloudWard.Logic.Window
