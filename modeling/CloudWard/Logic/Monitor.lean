import CloudWard.Logic.Exec

/-!
# Logs whose uses are granted

Library `Logic`. A log lists entries newest first. An entry may be a use, a grant for some
use, or a reset that voids all earlier grants. `Covered` is the monitor's state for one
use, `Guarded` says that every use in the log was covered when it was made.
-/

namespace CloudWard.Logic.Monitor

variable {κ : Type} {reset use : κ → Prop} {grants : κ → κ → Prop} {grant : κ → Prop}

/-- Some grant is newer than every reset. -/
def Covered (reset grant : κ → Prop) : List κ → Prop
  | [] => False
  | e :: t => grant e ∨ (¬ reset e ∧ Covered reset grant t)

/-- Every use was covered by a grant for it. -/
def Guarded (reset use : κ → Prop) (grants : κ → κ → Prop) : List κ → Prop
  | [] => True
  | e :: t => (use e → Covered reset (grants e) t) ∧ Guarded reset use grants t

/-- Entries that reset nothing leave a use covered. -/
theorem covered_append {added t : List κ} (h : Covered reset grant t)
    (hadded : ∀ e ∈ added, ¬ reset e) : Covered reset grant (added ++ t) := by
  induction added with
  | nil => exact h
  | cons e added ih =>
    right
    constructor
    · exact hadded e List.mem_cons_self
    · exact ih fun e' he' ↦ hadded e' (List.mem_cons_of_mem e he')

/-- A covered use has its grant in the log, with no reset after it. -/
theorem exists_of_covered {t : List κ} (h : Covered reset grant t) :
    ∃ mid e rest, t = mid ++ e :: rest ∧ grant e ∧ ∀ e' ∈ mid, ¬ reset e' := by
  induction t with
  | nil => exact h.elim
  | cons e t ih =>
    rcases h with hgrant | ⟨hreset, hcovered⟩
    · exact ⟨[], e, t, rfl, hgrant, by simp⟩
    · obtain ⟨mid, e', rest, heq, hgrant, hmid⟩ := ih hcovered
      refine ⟨e :: mid, e', rest, ?_, hgrant, ?_⟩
      · rw [heq, List.cons_append]
      · intro e'' he''
        rcases List.mem_cons.mp he'' with rfl | he''
        · exact hreset
        · exact hmid e'' he''

/-- Entries that are no use leave a log guarded. -/
theorem guarded_append {added t : List κ} (h : Guarded reset use grants t)
    (hadded : ∀ e ∈ added, ¬ use e) : Guarded reset use grants (added ++ t) := by
  induction added with
  | nil => exact h
  | cons e added ih =>
    constructor
    · intro he
      exact absurd he (hadded e List.mem_cons_self)
    · exact ih fun e' he' ↦ hadded e' (List.mem_cons_of_mem e he')

/-- Every use of a guarded log has its grant before it, with no reset in between. -/
theorem Guarded.granted {t : List κ} (h : Guarded reset use grants t) {pre post : List κ}
    {e : κ} (ht : t = pre ++ e :: post) (he : use e) :
    ∃ mid e' rest, post = mid ++ e' :: rest ∧ grants e e' ∧ ∀ e'' ∈ mid, ¬ reset e'' := by
  subst ht
  induction pre with
  | nil => exact exists_of_covered (h.1 he)
  | cons _ pre ih => exact ih h.2

end CloudWard.Logic.Monitor
