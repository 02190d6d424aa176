import CloudWard.Base.Progress
import CloudWard.Security.Counted
import Mathlib.Algebra.Order.BigOperators.Group.List

/-!
# What becomes of security jobs

In every interleaving each event that was counted has one row, rows are of one event each, and no
row counts more than was delivered: two jobs that overlap may be counted as one, as both write the
count they have loaded.
-/

namespace CloudWard.Security.Jobs

open CloudWard.Db CloudWard.Logic CloudWard.Logic.Interleave CloudWard.Policies

section Requests

variable {d : Deployment} {initial : Database} {s t : Store}

/-! ### Every request -/

private theorem told_queued {job : SecurityJobRequest} (hs : Sound d initial s)
    (hjob : job ∈ s.jobs) (hparse : ∀ time, d.parse (d.render time) = some time) :
    job.fingerprint.length = 64 ∧ ∃ event, job.event.validate d.parse = .ok event ∧
      job = d.jobOf event ∧ eventFingerprint d.sha256 d.window event = job.fingerprint := by
  obtain ⟨event, rfl⟩ := hs.jobs job hjob
  refine ⟨?_, event, validate_documentOf event (hparse event.timestamp), rfl, rfl⟩
  show (Webhook.hex _).length = 64
  rw [Webhook.length_hex, Vector.length_toList]

/-- A step that leaves the store sound with `P`, or ends with what may be told. -/
private def Ends {α : Type} (d : Deployment) (initial : Database) (P : α → Store → Prop) :
    Except Failure α → Store → Prop
  | .ok a, s => Sound d initial s ∧ P a s
  | .error e, s => Told s (.error e)

private theorem ends_require {c : Prop} [Decidable c] {e : Failure} {P : Store → Prop}
    (hs : Sound d initial s) (hok : c → ∀ t, Sound d initial t → Grows s t → P t)
    (herror : ¬ c → ∀ t, Sound d initial t → Grows s t → Told t (.error e)) :
    (Resumption.require c e : Program Unit).Safe (keeping d initial)
      (Ends d initial fun _ ↦ P) s := by
  apply Resumption.safe_require
  · intro h t ht
    obtain ⟨hsound, hgrows⟩ := ht hs
    exact ⟨hsound, hok h t hsound hgrows⟩
  · intro h t ht
    obtain ⟨hsound, hgrows⟩ := ht hs
    exact herror h t hsound hgrows

private theorem ends_bind {α : Type} {P : α → Store → Prop} {p : Program α}
    {k : α → Program Answer} (hp : p.Safe (keeping d initial) (Ends d initial P) s)
    (hk : ∀ a t, Sound d initial t → P a t →
      (k a).Safe (keeping d initial) (fun r s ↦ Told s r) t) :
    (p >>= k).Safe (keeping d initial) (fun r s ↦ Told s r) s :=
  Resumption.safe_bind hp (fun a t _ h ↦ hk a t h.1 h.2) fun _ _ _ h ↦ h

private theorem safe_webhook (document : TetragonDocument) (sending : Sending)
    (hs : Sound d initial s) :
    (tetragonWebhook d document sending).Safe (keeping d initial) (fun r s ↦ Told s r) s := by
  apply Resumption.safe_ofExcept_bind
  · intro event _
    apply ends_bind (P := fun _ s ↦ sending.queued → d.jobOf event ∈ s.jobs)
    · apply Resumption.safe_change
      · intro s' hs' _ t ht
        cases ht
        have hmay : (keeping d initial).may s'
            (if sending.queued then enqueue (d.jobOf event) s' else s') := by
          split
          · exact may_enqueue event
          · exact (keeping d initial).refl s'
        refine ⟨hmay, ?_⟩
        intro t' ht'
        obtain ⟨hsound, -⟩ := hmay (hs' hs).1
        obtain ⟨hsound', hgrows⟩ := ht' hsound
        refine ⟨hsound', ?_⟩
        intro hqueued
        apply hgrows.jobs
        rw [if_pos hqueued]
        exact List.mem_append_right _ (List.mem_singleton_self _)
      · intro s' _ e he
        cases he
    intro _ s' hsound hqueued
    apply ends_bind (P := fun _ s ↦ d.jobOf event ∈ s.jobs)
    · apply ends_require hsound
      · intro hreturned t _ hgrows
        exact hgrows.jobs (hqueued (sending.queued_of_returned hreturned))
      · intro _ t _ _
        trivial
    intro _ s'' hsound hjob
    apply Resumption.safe_pure
    intro t ht
    exact (ht hsound).2.jobs hjob
  · intro e he t _
    cases hv : document.validate d.parse with
    | ok event =>
      rw [hv] at he
      cases he
    | error e' =>
      rw [hv] at he
      cases he
      trivial

/-- What the query for the row of an event has found is still there. -/
private def Found (d : Deployment) (initial : Database) (event : AcceptedEvent) (s : Store) :
    Option (Nat × SecurityEvent) → Prop
  | none => True
  | some (id, loaded) => eventKey loaded = d.keyOf event ∧
      (∃ row, s.rows.securityEvents[id]? = some row ∧ eventKey row = eventKey loaded) ∧
      loaded.dedupCount ≤ countOf initial (d.keyOf event) + d.timesOf s.counted (d.keyOf event)

private theorem Found.grows {event : AcceptedEvent} {existing : Option (Nat × SecurityEvent)}
    (h : Found d initial event s existing) (hgrows : Grows s t) :
    Found d initial event t existing := by
  cases existing with
  | none => trivial
  | some entry =>
    obtain ⟨id, loaded⟩ := entry
    obtain ⟨hkey, ⟨row, hrow, hrowkey⟩, hcount⟩ := h
    obtain ⟨row', hrow', hrowkey'⟩ := hgrows.rows id row hrow
    exact ⟨hkey, ⟨row', hrow', hrowkey'.trans hrowkey⟩,
      hcount.trans (Nat.add_le_add_left (timesOf_le hgrows.counted _) _)⟩

private theorem found_existing {call : Call} {event : AcceptedEvent} (hs : Sound d initial s) :
    Found d initial event s ((d.deliveryOf call event).existing s.rows) := by
  cases hexisting : (d.deliveryOf call event).existing s.rows with
  | none => trivial
  | some entry =>
    obtain ⟨id, loaded⟩ := entry
    obtain ⟨hrow, hcolumns⟩ := Table.latest_eq_some hexisting
    have hcolumns := of_decide_eq_true hcolumns
    have hkey : eventKey loaded = d.keyOf event := Prod.ext hcolumns.1 hcolumns.2
    refine ⟨hkey, ⟨loaded, hrow, rfl⟩, ?_⟩
    rw [← hkey]
    exact hs.bounded loaded (List.mem_of_getElem? hrow)

private theorem safe_work (call : Call) (hs : Sound d initial s)
    (hparse : ∀ time, d.parse (d.render time) = some time)
    (hcall : call.authorization = some ("Bearer " ++ d.token) → call.job ∈ s.jobs) :
    (processSecurityEventJob d call).Safe (keeping d initial) (fun r s ↦ Told s r) s := by
  apply Resumption.safe_ofExcept_bind
  rotate_left
  · intro e he t ht
    cases hv : call.job.event.validate d.parse with
    | ok event =>
      rw [hv] at he
      cases he
    | error e' =>
      rw [hv] at he
      cases he
      intro hjob
      obtain ⟨-, event, hevent, -⟩ := told_queued (ht hs).1 hjob hparse
      rw [hv] at hevent
      cases hevent
  intro event hevent
  have hvalid : call.job.event.validate d.parse = .ok event := by
    cases hv : call.job.event.validate d.parse with
    | ok event' =>
      rw [hv] at hevent
      cases hevent
      rfl
    | error e =>
      rw [hv] at hevent
      cases hevent
  -- a job of the queue is of this event
  have hjobs (t : Store) (ht : Sound d initial t) (hjob : call.job ∈ t.jobs) :
      call.job = d.jobOf event ∧
        eventFingerprint d.sha256 d.window event = call.job.fingerprint := by
    obtain ⟨-, event', hevent', heq, hfingerprint⟩ := told_queued ht hjob hparse
    rw [hvalid] at hevent'
    cases hevent'
    exact ⟨heq, hfingerprint⟩
  apply ends_bind (P := fun _ t ↦
    call.authorization = some ("Bearer " ++ d.token) → call.job ∈ t.jobs)
  · apply ends_require hs
    · intro _ t _ hgrows hauthorized
      exact hgrows.jobs (hcall hauthorized)
    · intro hlength t ht _ hjob
      exact hlength (told_queued ht hjob hparse).1
  intro _ s₁ hs₁ hcall₁
  apply ends_bind (P := fun _ t ↦ call.job ∈ t.jobs)
  · apply ends_require hs₁
    · intro hauthorized t _ hgrows
      exact hgrows.jobs (hcall₁ hauthorized)
    · intro _ t _ _
      trivial
  intro _ s₂ hs₂ hjob₂
  apply ends_bind (P := fun _ t ↦ d.jobOf event ∈ t.jobs)
  · apply ends_require hs₂
    · intro _ t ht hgrows
      have hjob := hgrows.jobs hjob₂
      rwa [(hjobs t ht hjob).1] at hjob
    · intro hmismatch t ht _ hjob
      exact hmismatch (hjobs t ht hjob).2
  intro _ s₃ hs₃ hjob₃
  apply ends_bind (P := fun existing t ↦ d.jobOf event ∈ t.jobs ∧
    Found d initial event t existing)
  · apply Resumption.safe_read
    intro s' hs' s'' hs''
    obtain ⟨hsound', hgrows'⟩ := hs' hs₃
    obtain ⟨hsound'', hgrows''⟩ := hs'' hsound'
    cases call.selecting with
    | some e => trivial
    | none =>
      exact ⟨hsound'', hgrows''.jobs (hgrows'.jobs hjob₃), (found_existing hsound').grows hgrows''⟩
  rintro existing s₄ hs₄ ⟨hjob₄, hfound₄⟩
  apply ends_bind (P := fun _ t ↦ event ∈ t.counted)
  · apply Resumption.safe_change
    · intro s' hs' _ t ht
      obtain ⟨hsound', hgrows'⟩ := hs' hs₄
      have hmay : (keeping d initial).may s' t ∧ event ∈ t.counted := by
        cases existing with
        | none => exact may_openNew (hgrows'.jobs hjob₄) ht
        | some entry =>
          obtain ⟨id, loaded⟩ := entry
          obtain ⟨hkey, hrow, hcount⟩ := hfound₄.grows hgrows'
          simp only [countAgain] at ht
          cases hcounting : call.counting with
          | some e =>
            rw [hcounting] at ht
            cases ht
          | none =>
            rw [hcounting] at ht
            cases ht
            exact ⟨may_countAgain hkey hrow (hgrows'.jobs hjob₄) fun _ ↦ hcount,
              List.mem_cons_self⟩
      refine ⟨hmay.1, ?_⟩
      intro t' ht'
      obtain ⟨hsound, hgrows⟩ := ht' (hmay.1 hsound').1
      exact ⟨hsound, hgrows.counted.subset hmay.2⟩
    · intro s' hs' e he t ht
      cases existing with
      | none =>
        simp only [openNew] at he
        split at he
        · cases he
          trivial
        · split at he
          · cases he
          · cases he
            trivial
      | some entry =>
        simp only [countAgain] at he
        cases hcounting : call.counting with
        | none =>
          rw [hcounting] at he
          cases he
        | some fault =>
          rw [hcounting] at he
          cases he
          trivial
  intro _ s₅ hs₅ hcounted₅
  apply ends_bind (P := fun _ t ↦ event ∈ t.counted)
  · apply Resumption.safe_ofExcept
    intro t ht
    obtain ⟨hsound, hgrows⟩ := ht hs₅
    cases call.refreshing with
    | some e => trivial
    | none => exact ⟨hsound, hgrows.counted.subset hcounted₅⟩
  intro _ s₆ hs₆ hcounted₆
  apply Resumption.safe_pure
  intro t ht
  exact (ht hs₆).2.counted.subset hcounted₆

private theorem safe_spawn (hs : Sound d initial s)
    (hparse : ∀ time, d.parse (d.render time) = some time) {input : Input}
    (hmeets : d.Meets s input) :
    (d.spawn input).Safe (keeping d initial) (fun r s ↦ Told s r) s := by
  cases input with
  | webhook document sending => exact safe_webhook document sending hs
  | work call => exact safe_work call hs hparse hmeets
  | other write =>
    apply Resumption.safe_change
    · intro s' _ _ t ht
      cases ht
      exact ⟨may_other (hmeets s'.rows).1 (hmeets s'.rows).2, fun _ _ ↦ trivial⟩
    · intro s' _ e he
      cases he

private theorem sound_initial (hrows : Constrained initial)
    (hcounts : ∀ row ∈ initial.securityEvents, 1 ≤ row.dedupCount) :
    Sound d initial { rows := initial } where
  constrained := hrows
  jobs _ h := absurd h List.not_mem_nil
  queued _ h := absurd h List.not_mem_nil
  stored _ h := absurd h List.not_mem_nil
  source row hrow := .inl ⟨row, hrow, rfl⟩
  positive := hcounts
  bounded row hrow := by
    have hmem : row.dedupCount ∈ (initial.securityEvents.filter
        (eventKey · = eventKey row)).map (·.dedupCount) :=
      List.mem_map_of_mem (List.mem_filter.mpr ⟨hrow, by simp⟩)
    exact (List.single_le_sum (fun _ _ ↦ Nat.zero_le _) _ hmem).trans (Nat.le_add_right _ _)

end Requests

/-! ### Two jobs at once -/

/-- A deployment whose digest is always the same, and whose times are numbers. -/
def oneDigest : Deployment where
  sha256 _ := Vector.replicate 32 0
  parse text := (Python.int ⟨fun _ ↦ false, fun _ ↦ none⟩ text).map Int.toNat
  render time := toString time
  unicode := ⟨fun _ ↦ false, fun _ ↦ none⟩
  window := 60
  settings := .standard
  token := "token"

private theorem parse_render (time : Nat) : oneDigest.parse (oneDigest.render time) = some time := by
  show (Python.int _ (toString time)).map Int.toNat = some time
  rw [Python.int_toString]
  rfl

/-- An egress of a demo pod. -/
def egressDocument : TetragonDocument where
  source := "tetragon"
  eventType := SecurityCategory.unexpectedEgress.value
  severity := "high"
  environment := "staging"
  ns := "cloudward-staging"
  pod := "demo"
  workload := none
  container := "demo"
  process := none
  network := some ⟨"c2-simulator", 8080, "tcp"⟩
  policy := "cloudward-s2-unexpected-egress"
  timestamp := "0"
  evidenceRef := "tetragon:node:1"
  workloadLabels := (∅ : Labels).insert Kubernetes.demoTargetLabel "true"
  secretsOrDataExposure := false

private theorem queued_sending : true = true → true = true := id

/-- Its delivery. -/
def egressDelivered : Move Input := .start (.webhook egressDocument ⟨true, true, queued_sending⟩)

private theorem uuid_jobs : "0123456789abcdef0123456789abcdef".toList.length = 32 ∧
    "0123456789abcdef0123456789abcdef".toList.all isHexDigit := by decide

/-- The worker's call for it. -/
def egressWork : Move Input := .start (.work {
  authorization := some "Bearer token"
  job := ⟨String.ofList (List.replicate 64 '0'), egressDocument⟩
  uuid := "0123456789abcdef0123456789abcdef"
  env := Service.calm
  selecting := none
  counting := none
  refreshing := none
  uuid_hex := uuid_jobs })

/-- A job opens the row, and two more that overlap. -/
def overlapping : List (Move Input) :=
  [egressDelivered, .advance 0, egressWork, .advance 1, .advance 1, egressWork, egressWork,
    .advance 2, .advance 3, .advance 2, .advance 3]

/-- They count as one. -/
example : ((oneDigest.after {} overlapping).store.rows.securityEvents.map (·.dedupCount),
    (oneDigest.after {} overlapping).store.counted.length) = ([2], 3) := by
  decide +kernel

end CloudWard.Security.Jobs
