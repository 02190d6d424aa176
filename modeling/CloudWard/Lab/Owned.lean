import CloudWard.Lab.Experiments

/-!
# Whose an experiment is

The invariant of the machine of `Lab/Experiments.lean`: each object that a start made is what its
scenario says, and belongs to a row, to a start before its commit, or to a lost start; a pass that
has cleaned up left no object of its row, and a row that is over has none. One lemma for each kind
of change, then every step.
-/

namespace CloudWard.Lab.Experiments

open CloudWard.Db CloudWard.Kubernetes CloudWard.Logic CloudWard.Policies.OPAClient CloudWard.Rbac
  CloudWard.Security

/-- A start that the gates let pass. -/
structure Admitted (d : Deployment) (request : StartRequest) (scenario : ChaosScenario) : Prop where
  scenario_mem : scenario ∈ scenarios
  role : request.role = .operator ∨ request.role = .admin
  policy : scenario.mechanism ≠ .finopsAnalysis →
    ∃ policy, evaluate d.loads request.opa = .ok policy ∧ policy.allowed

/-- An experiment at the demo target of staging, for a start that the gates let pass. -/
structure Contained (d : Deployment) (c : Creation) : Prop extends
    Admitted d c.request c.scenario where
  made : experiment c.scenario (d.uuid c.start) = .ok (c.body, c.resource)
  ns : c.body.metadata.ns = "cloudward-staging"
  ns_allowed : "cloudward-staging" ∈ d.settings.allowedNamespaces
  name : c.resource.name = c.body.metadata.name
  execution : c.body.metadata.labels.lookup "cloudward.io/execution" =
    some (d.uuid c.start).text
  mode : c.body.spec.mode = "one"
  selector : c.body.spec.selector =
    ⟨["cloudward-staging"], [("cloudward.io/demo-target", "true")]⟩
  duration : ∃ seconds, 1 ≤ seconds ∧ seconds ≤ 90 ∧
    c.body.spec.duration = toString seconds ++ "s"

/-- The start has committed its row. -/
def Committed (s : State) (i : Nat) : Prop := ∃ x ∈ s.executions, x.start = i

/-- The start has made what it needs, and has not committed yet. -/
def InFlight (s : State) (i : Nat) : Prop :=
  ∃ scenario login kind name, s.sessions[i]? = some (.prepared scenario login kind name)

/-- No object of the start is in the cluster. -/
def Gone (s : State) (i : Nat) : Prop := ∀ o ∈ s.objects, o.start ≠ some i

/-! ### Gates -/

private theorem bind_eq_ok {ε α β : Type} {x : Except ε α} {f : α → Except ε β} {b : β}
    (h : x >>= f = .ok b) : ∃ a, x = .ok a ∧ f a = .ok b := by
  cases x with
  | error e => cases h
  | ok a => exact ⟨a, rfl, h⟩

private theorem ensure_eq_ok {c : Prop} [Decidable c] {error : CloudWardError} {u : Unit}
    (h : ensure c error = .ok u) : c := by
  unfold ensure at h
  split at h
  · assumption
  · cases h

/-- What a start has passed when its session opens. -/
theorem admitted_of_gates {d : Deployment} {request : StartRequest}
    {executions : Table Execution} {scenario : ChaosScenario}
    (h : gates d request executions = .ok scenario) : Admitted d request scenario := by
  unfold gates at h
  obtain ⟨u, hrole, h⟩ := bind_eq_ok h
  obtain ⟨found, hfound, h⟩ := bind_eq_ok h
  obtain ⟨_, _, h⟩ := bind_eq_ok h
  obtain ⟨_, hpolicy, h⟩ := bind_eq_ok h
  obtain ⟨_, _, h⟩ := bind_eq_ok h
  obtain ⟨_, _, h⟩ := bind_eq_ok h
  cases h
  have hpermission := ensure_eq_ok hrole
  constructor
  · unfold getScenario at hfound
    split at hfound
    · next hfind =>
      cases hfound
      exact List.mem_of_find?_eq_some hfind
    · cases hfound
  · cases hcase : request.role with
    | viewer =>
      rw [hcase] at hpermission
      simp [hasPermission, rolePermissions] at hpermission
    | operator => exact .inl rfl
    | admin => exact .inr rfl
  · intro hasks
    unfold askPolicy at hpolicy
    rw [if_neg hasks] at hpolicy
    split at hpolicy
    · cases hpolicy
    · next policy heval =>
      split at hpolicy
      · next hallowed => exact ⟨policy, heval, hallowed⟩
      · cases hpolicy

/-- The experiment of a scenario of the catalog. -/
theorem experiment_spec {scenario : ChaosScenario} (hscenario : scenario ∈ scenarios) {id : Uuid}
    {body : Body} {resource : StartedScenarioResource}
    (h : experiment scenario id = .ok (body, resource)) :
    scenario.mechanism ∈ [.stressChaos, .podChaos] ∧
      resource.kind = resourceKind scenario.mechanism ∧
      pluralOf resource.kind = some resource.plural ∧
      resource.name = experimentName id ∧ body.metadata = metadata id scenario ∧
      body.metadata.ns = "cloudward-staging" ∧ body.spec.mode = "one" ∧
      body.spec.selector = ⟨["cloudward-staging"], [("cloudward.io/demo-target", "true")]⟩ ∧
      ∃ seconds, 1 ≤ seconds ∧ seconds ≤ 90 ∧ body.spec.duration = toString seconds ++ "s" := by
  simp only [scenarios, List.mem_cons, List.not_mem_nil, or_false] at hscenario
  rcases hscenario with rfl | rfl | rfl | rfl | rfl | rfl | rfl | rfl | rfl
  · cases h
  · simp [experiment, stressors, selector, demoNamespace, demoSelector, bind, Except.bind, pure,
      Except.pure] at h
    obtain ⟨rfl, rfl⟩ := h
    exact ⟨by simp, rfl, rfl, rfl, rfl, rfl, rfl, rfl, 90, by omega, by omega, rfl⟩
  · simp [experiment, stressors, selector, demoNamespace, demoSelector, bind, Except.bind, pure,
      Except.pure] at h
    obtain ⟨rfl, rfl⟩ := h
    exact ⟨by simp, rfl, rfl, rfl, rfl, rfl, rfl, rfl, 60, by omega, by omega, rfl⟩
  · simp [experiment, selector, demoNamespace, demoSelector, bind, Except.bind, pure,
      Except.pure] at h
    obtain ⟨rfl, rfl⟩ := h
    exact ⟨by simp, rfl, rfl, rfl, rfl, rfl, rfl, rfl, 30, by omega, by omega, rfl⟩
  all_goals cases h

/-! ### The invariant -/

/-- The columns that a clean-up reads, which no write changes. -/
structure SameTarget (a b : ChaosExecution) : Prop where
  kind : a.resourceKind = b.resourceKind
  name : a.resourceName = b.resourceName
  scenarioId : a.scenarioId = b.scenarioId
  ns : a.targetNamespace = b.targetNamespace

theorem SameTarget.refl (a : ChaosExecution) : SameTarget a a := ⟨rfl, rfl, rfl, rfl⟩

theorem SameTarget.trans {a b c : ChaosExecution} (h : SameTarget a b) (h' : SameTarget b c) :
    SameTarget a c :=
  ⟨h.kind.trans h'.kind, h.name.trans h'.name, h.scenarioId.trans h'.scenarioId,
    h.ns.trans h'.ns⟩

/-- The start has left a trace. -/
def Used (s : State) (i : Nat) : Prop :=
  (∃ c ∈ s.created, c.start = i) ∨ Committed s i ∨ i ∈ s.lost

/-- A row is one of the catalog. -/
def Cataloged (x : ChaosExecution) : Prop :=
  ∃ scenario ∈ scenarios, x.scenarioId = scenario.id ∧
    x.resourceKind = some (resourceKind scenario.mechanism) ∧
    x.targetNamespace = "cloudward-staging"

/-- What a session knows. -/
def SessionSound (d : Deployment) (s : State) (i : Nat) : Session → Prop
  | .admitted request scenario => Admitted d request scenario ∧ ¬ Used s i
  | .prepared scenario _ kind name => scenario ∈ scenarios ∧
      kind = resourceKind scenario.mechanism ∧ ¬ Committed s i ∧ i ∉ s.lost ∧
      ∀ c ∈ s.created, c.start = i → c.resource.kind = kind ∧ c.resource.name = name
  | .passing pass => ∃ x, s.executions[pass.id]? = some x ∧ SameTarget x.row pass.loaded ∧
      (pass.cleaned → Gone s x.start)
  | _ => True

/-- The invariant. -/
structure Sound (d : Deployment) (s : State) : Prop where
  contained : ∀ c ∈ s.created, Contained d c
  once : (s.created.map (·.start)).Nodup
  objects : ∀ o ∈ s.objects, ∀ i, o.start = some i → ∃ c ∈ s.created, c.object = o
  located : ∀ o ∈ s.objects, ∀ i, o.start = some i → Committed s i ∨ InFlight s i ∨ i ∈ s.lost
  rows : ∀ x ∈ s.executions, Cataloged x.row
  named : ∀ x ∈ s.executions, ∀ c ∈ s.created, c.start = x.start →
    x.row.resourceKind = some c.resource.kind ∧ x.row.resourceName = some c.resource.name
  terminal : ∀ x ∈ s.executions, x.row.active = false → Gone s x.start
  bounded : ∀ i, Used s i → i < s.sessions.length
  sessions : ∀ (i : Nat) (x : Session), s.sessions[i]? = some x → SessionSound d s i x

variable {d : Deployment} {s : State} {i : Nat}

/-- The start of an object is that of its creation. -/
theorem Sound.creation (h : Sound d s) {o : Object} (ho : o ∈ s.objects)
    (hi : o.start = some i) : ∃ c ∈ s.created, c.object = o ∧ c.start = i := by
  obtain ⟨c, hc, hco⟩ := h.objects o ho i hi
  refine ⟨c, hc, hco, ?_⟩
  rw [← hco] at hi
  exact Option.some.inj hi

/-- The mechanism of a creation has experiments. -/
theorem Contained.kind {c : Creation} (h : Contained d c) :
    pluralOf c.resource.kind = some c.resource.plural :=
  (experiment_spec h.scenario_mem h.made).2.2.1

private theorem Contained.name_ne {c : Creation} (h : Contained d c) : c.resource.name ≠ "" := by
  rw [(experiment_spec h.scenario_mem h.made).2.2.2.1]
  intro hempty
  have hlength := congrArg String.length hempty
  simp [experimentName] at hlength

private theorem kind_ne {kind plural : String} (h : pluralOf kind = some plural) : kind ≠ "" := by
  rintro rfl
  simp [pluralOf, List.lookup_cons] at h

/-- A scenario without experiments leaves a row with no plural. -/
private theorem pluralOf_resourceKind {scenario : ChaosScenario} (hscenario : scenario ∈ scenarios)
    (h : scenario.id ∈ finopsScenarios ∨ scenario.id ∈ securityScenarios) :
    pluralOf (resourceKind scenario.mechanism) = none := by
  simp only [scenarios, List.mem_cons, List.not_mem_nil, or_false] at hscenario
  rcases hscenario with rfl | rfl | rfl | rfl | rfl | rfl | rfl | rfl | rfl
  all_goals first
    | rfl
    | simp [finopsScenarios, securityScenarios] at h

/-- No object is of a row of such a scenario. -/
private theorem Sound.gone_of_scenario (h : Sound d s) {x : Execution} (hx : x ∈ s.executions)
    (hscenario : x.row.scenarioId ∈ finopsScenarios ∨ x.row.scenarioId ∈ securityScenarios) :
    Gone s x.start := by
  intro o ho hstart
  obtain ⟨c, hc, -, hcstart⟩ := h.creation ho hstart
  obtain ⟨scenario, hmem, hid, hkind, -⟩ := h.rows x hx
  obtain ⟨hnamed, -⟩ := h.named x hx c hc hcstart
  have hplural := (h.contained c hc).kind
  rw [hkind, Option.some.injEq] at hnamed
  rw [hid] at hscenario
  rw [← hnamed, pluralOf_resourceKind hmem hscenario] at hplural
  cases hplural

/-- What a pass deletes is the object of its row. -/
private theorem Sound.target_eq (h : Sound d s) {x : Execution} (hx : x ∈ s.executions)
    {pass : Pass} (hsame : SameTarget x.row pass.loaded) {o : Object} (ho : o ∈ s.objects)
    (hstart : o.start = some x.start) :
    pass.target.map (fun t ↦ (pass.loaded.targetNamespace, t.1, t.2)) = some o.place := by
  obtain ⟨c, hc, hco, hcstart⟩ := h.creation ho hstart
  obtain ⟨hkind, hname⟩ := h.named x hx c hc hcstart
  obtain ⟨scenario, hmem, hid, hrowkind, hns⟩ := h.rows x hx
  have hcontained := h.contained c hc
  have hplural := hcontained.kind
  have hsecurity : pass.loaded.scenarioId ∉ securityScenarios := by
    intro hin
    rw [← hsame.scenarioId] at hin
    exact h.gone_of_scenario hx (.inr hin) o ho hstart
  have hresource : pass.loaded.resource = some (c.resource.kind, c.resource.name) := by
    unfold ChaosExecution.resource
    rw [← hsame.kind, ← hsame.name, hkind, hname]
    simp [kind_ne hplural, hcontained.name_ne]
  have htarget : pass.target = some (c.resource.plural, c.resource.name) := by
    unfold Pass.target
    rw [if_neg (fun hc ↦ hsecurity hc.2), hresource]
    simp [hplural]
  rw [htarget, ← hco, ← hsame.ns, hns]
  simp [Object.place, Creation.object, hcontained.ns, hcontained.name]

/-! ### Steps -/

variable {sessions : Table Session} {session x : Session} {j : Nat}

/-- The changed session, or another. -/
private theorem session_of_update (h : (sessions.update i fun _ ↦ session)[j]? = some x) :
    j = i ∧ x = session ∨ j ≠ i ∧ sessions[j]? = some x := by
  by_cases hij : i = j
  · subst hij
    rw [Table.getElem?_update_self] at h
    obtain ⟨old, -, rfl⟩ := Option.map_eq_some_iff.mp h
    exact .inl ⟨rfl, rfl⟩
  · rw [Table.getElem?_update_of_ne _ _ hij] at h
    exact .inr ⟨Ne.symm hij, h⟩

private theorem InFlight.update {s' : State} (h : InFlight s j) (hij : i ≠ j)
    (hs : s'.sessions = s.sessions.update i fun _ ↦ session) : InFlight s' j := by
  obtain ⟨scenario, login, kind, name, hf⟩ := h
  refine ⟨scenario, login, kind, name, ?_⟩
  rw [hs, Table.getElem?_update_of_ne _ _ hij, hf]

/-- What a session knows stays true where the rows keep what a clean-up reads, and no trace or
object of another start appears. -/
private theorem SessionSound.transfer {s' : State} (h : SessionSound d s j x)
    (hcreated : ∀ c ∈ s'.created, c.start = j → c ∈ s.created)
    (hcommitted : Committed s' j → Committed s j) (hlost : j ∈ s'.lost → j ∈ s.lost)
    (hrows : ∀ (id : Nat) (row : Execution), s.executions[id]? = some row →
      ∃ row', s'.executions[id]? = some row' ∧ SameTarget row'.row row.row ∧
        (Gone s row.start → Gone s' row'.start)) : SessionSound d s' j x := by
  cases x with
  | admitted request scenario =>
    refine ⟨h.1, ?_⟩
    rintro (⟨c, hc, hstart⟩ | hc | hl)
    · exact h.2 (.inl ⟨c, hcreated c hc hstart, hstart⟩)
    · exact h.2 (.inr (.inl (hcommitted hc)))
    · exact h.2 (.inr (.inr (hlost hl)))
  | prepared scenario login kind name =>
    obtain ⟨hmem, hkind, hnot, hnotLost, hmade⟩ := h
    refine ⟨hmem, hkind, fun hc ↦ hnot (hcommitted hc), fun hl ↦ hnotLost (hlost hl), ?_⟩
    intro c hc hstart
    exact hmade c (hcreated c hc hstart) hstart
  | passing pass =>
    obtain ⟨row, hrow, hsame, hcleaned⟩ := h
    obtain ⟨row', hrow', hsame', hgone⟩ := hrows pass.id row hrow
    exact ⟨row', hrow', hsame'.trans hsame, fun hc ↦ hgone (hcleaned hc)⟩
  | recording id loaded => trivial
  | ended => trivial

/-- Rows that stay. -/
private theorem rows_refl {s' : State} (hs : s'.executions = s.executions)
    (hgone : ∀ row ∈ s.executions, Gone s row.start → Gone s' row.start) :
    ∀ (id : Nat) (row : Execution), s.executions[id]? = some row →
      ∃ row', s'.executions[id]? = some row' ∧ SameTarget row'.row row.row ∧
        (Gone s row.start → Gone s' row'.start) := by
  intro id row hrow
  exact ⟨row, by rw [hs, hrow], SameTarget.refl _, hgone row (List.mem_of_getElem? hrow)⟩

/-- A session changes. -/
private theorem Sound.goOn (h : Sound d s) {old : Session} (hold : s.sessions[i]? = some old)
    (hsession : SessionSound d s i session)
    (hkeeps : ∀ o ∈ s.objects, o.start = some i → Committed s i ∨ i ∈ s.lost ∨
      ∃ scenario login kind name, session = .prepared scenario login kind name) :
    Sound d (s.goOn i session) := by
  refine ⟨h.contained, h.once, h.objects, ?_, h.rows, h.named, h.terminal, ?_, ?_⟩
  · intro o ho j hj
    by_cases hij : i = j
    · subst hij
      rcases hkeeps o ho hj with hc | hl | ⟨scenario, login, kind, name, rfl⟩
      · exact .inl hc
      · exact .inr (.inr hl)
      · refine .inr (.inl ⟨scenario, login, kind, name, ?_⟩)
        show (s.sessions.update i fun _ ↦ _)[i]? = _
        rw [Table.getElem?_update_self, hold]
        rfl
    · rcases h.located o ho j hj with hc | hf | hl
      · exact .inl hc
      · exact .inr (.inl (hf.update hij rfl))
      · exact .inr (.inr hl)
  · intro j hj
    show j < (s.sessions.update i fun _ ↦ session).length
    rw [Table.length_update]
    exact h.bounded j hj
  · intro j x hx
    rcases session_of_update hx with ⟨rfl, rfl⟩ | ⟨-, hx⟩
    · exact hsession
    · exact h.sessions j x hx

/-- A session that is not between its object and its commit has no object of its own. -/
private theorem Sound.keeps (h : Sound d s) {old : Session} (hold : s.sessions[i]? = some old)
    (hnot : ∀ scenario login kind name, old ≠ .prepared scenario login kind name) :
    ∀ o ∈ s.objects, o.start = some i → Committed s i ∨ i ∈ s.lost ∨
      ∃ scenario login kind name, session = .prepared scenario login kind name := by
  intro o ho hi
  rcases h.located o ho i hi with hc | ⟨scenario, login, kind, name, hf⟩ | hl
  · exact .inl hc
  · rw [hold] at hf
    exact absurd (Option.some.inj hf) (hnot scenario login kind name)
  · exact .inr (.inl hl)

/-- A session starts. -/
private theorem Sound.insert (h : Sound d s)
    (hsession : SessionSound d s s.sessions.length session) :
    Sound d { s with sessions := s.sessions.insert session } := by
  refine ⟨h.contained, h.once, h.objects, ?_, h.rows, h.named, h.terminal, ?_, ?_⟩
  · intro o ho j hj
    rcases h.located o ho j hj with hc | ⟨scenario, login, kind, name, hf⟩ | hl
    · exact .inl hc
    · exact .inr (.inl ⟨scenario, login, kind, name, Table.getElem?_insert_of_some hf⟩)
    · exact .inr (.inr hl)
  · intro j hj
    have hlt := h.bounded j hj
    show j < (s.sessions.insert session).length
    rw [Table.length_insert]
    omega
  · intro j x hx
    rcases Table.getElem?_insert_eq_some.mp hx with hx | ⟨rfl, rfl⟩
    · exact h.sessions j x hx
    · exact hsession

/-- A row changes, but not what a clean-up reads of it; it may end where no object is of it. -/
private theorem Sound.write (h : Sound d s) {id : Nat} {f : ChaosExecution → ChaosExecution}
    (hsame : ∀ row, SameTarget (f row) row)
    (hends : ∀ x, s.executions[id]? = some x → (f x.row).active = false → Gone s x.start) :
    Sound d (s.write id f) := by
  -- each row after is one before, changed or not
  have hback : ∀ x ∈ (s.write id f).executions, ∃ old ∈ s.executions, old.start = x.start ∧
      SameTarget x.row old.row ∧ (x.row.active = false → Gone s x.start) := by
    intro x hx
    obtain ⟨j, hj⟩ := List.mem_iff_getElem?.mp hx
    change (s.executions.update id _)[j]? = some x at hj
    rw [Table.getElem?_update] at hj
    split at hj
    · next hid =>
      subst hid
      cases hold : s.executions[id]? with
      | none =>
        rw [hold] at hj
        cases hj
      | some old =>
        rw [hold] at hj
        cases hj
        exact ⟨old, List.mem_of_getElem? hold, rfl, hsame old.row, hends old hold⟩
    · have hmem := List.mem_of_getElem? hj
      exact ⟨x, hmem, rfl, SameTarget.refl _, h.terminal x hmem⟩
  have hcommitted (j : Nat) : Committed (s.write id f) j ↔ Committed s j := by
    constructor
    · rintro ⟨x, hx, rfl⟩
      obtain ⟨old, hold, hstart, -⟩ := hback x hx
      exact ⟨old, hold, hstart⟩
    · rintro ⟨x, hx, rfl⟩
      obtain ⟨j, hj⟩ := List.mem_iff_getElem?.mp hx
      by_cases hid : id = j
      · subst hid
        refine ⟨{ x with row := f x.row }, List.mem_of_getElem? (i := id) ?_, rfl⟩
        show (s.executions.update id _)[id]? = _
        rw [Table.getElem?_update_self, hj]
        rfl
      · refine ⟨x, List.mem_of_getElem? (i := j) ?_, rfl⟩
        show (s.executions.update id _)[j]? = _
        rw [Table.getElem?_update_of_ne _ _ hid, hj]
  refine ⟨h.contained, h.once, h.objects, ?_, ?_, ?_, ?_, ?_, ?_⟩
  · intro o ho j hj
    rcases h.located o ho j hj with hc | hf | hl
    · exact .inl ((hcommitted j).mpr hc)
    · exact .inr (.inl hf)
    · exact .inr (.inr hl)
  · intro x hx
    obtain ⟨old, hold, -, htarget, -⟩ := hback x hx
    obtain ⟨scenario, hmem, hid, hkind, hns⟩ := h.rows old hold
    exact ⟨scenario, hmem, htarget.scenarioId.trans hid, htarget.kind.trans hkind,
      htarget.ns.trans hns⟩
  · intro x hx c hc hstart
    obtain ⟨old, hold, holdstart, htarget, -⟩ := hback x hx
    obtain ⟨hkind, hname⟩ := h.named old hold c hc (hstart.trans holdstart.symm)
    exact ⟨htarget.kind.trans hkind, htarget.name.trans hname⟩
  · intro x hx hactive
    obtain ⟨-, -, -, -, hgone⟩ := hback x hx
    exact hgone hactive
  · intro j hj
    apply h.bounded j
    rcases hj with hc | hx | hl
    · exact .inl hc
    · exact .inr (.inl ((hcommitted j).mp hx))
    · exact .inr (.inr hl)
  · intro j x hx
    refine (h.sessions j x hx).transfer (fun _ hc _ ↦ hc) (hcommitted j).mp (fun hl ↦ hl) ?_
    intro k row hrow
    by_cases hid : id = k
    · subst hid
      refine ⟨{ row with row := f row.row }, ?_, hsame row.row, fun hg ↦ hg⟩
      show (s.executions.update id _)[id]? = _
      rw [Table.getElem?_update_self, hrow]
      rfl
    · refine ⟨row, ?_, SameTarget.refl _, fun hg ↦ hg⟩
      show (s.executions.update id _)[k]? = _
      rw [Table.getElem?_update_of_ne _ _ hid, hrow]

/-- Objects disappear, and others make some. -/
private theorem Sound.others (h : Sound d s) {objects : List Object}
    (hothers : ∀ o ∈ objects, o ∈ s.objects ∨ o.start = none) : Sound d { s with objects } := by
  have hown {o : Object} {j : Nat} (ho : o ∈ objects) (hj : o.start = some j) : o ∈ s.objects := by
    rcases hothers o ho with ho | hnone
    · exact ho
    · rw [hnone] at hj
      cases hj
  have hgone (j : Nat) (hj : Gone s j) : Gone { s with objects } j :=
    fun o ho hstart ↦ hj o (hown ho hstart) hstart
  refine ⟨h.contained, h.once, ?_, ?_, h.rows, h.named, ?_, h.bounded, ?_⟩
  · intro o ho j hj
    exact h.objects o (hown ho hj) j hj
  · intro o ho j hj
    exact h.located o (hown ho hj) j hj
  · intro x hx hactive
    exact hgone _ (h.terminal x hx hactive)
  · intro j x hx
    exact (h.sessions j x hx).transfer (fun _ hc _ ↦ hc) (fun hc ↦ hc) (fun hl ↦ hl)
      (rows_refl rfl fun _ _ ↦ hgone _)

private theorem Sound.filter (h : Sound d s) (p : Object → Bool) :
    Sound d { s with objects := s.objects.filter p } :=
  h.others fun _ ho ↦ .inl (List.mem_of_mem_filter ho)

/-- An experiment is made. -/
private theorem Sound.make (h : Sound d s) {c : Creation} {old : Session} {lost : List Nat}
    (hold : s.sessions[c.start]? = some old) (hc : Contained d c)
    (hunused : ¬ Used s c.start) (hmore : ∀ j, j ∈ lost ↔ j ∈ s.lost ∨ j = c.start ∧ c.start ∈ lost)
    (hplace : c.start ∈ lost ∨
      ∃ scenario login kind name, session = .prepared scenario login kind name)
    (hsession : SessionSound d
      { s with objects := c.object :: s.objects, created := c :: s.created, lost } c.start session) :
    Sound d { executions := s.executions, objects := c.object :: s.objects,
              sessions := s.sessions.update c.start fun _ ↦ session,
              created := c :: s.created, lost } := by
  have hcommitted : ¬ Committed s c.start := fun hx ↦ hunused (.inr (.inl hx))
  have hgone (j : Nat) (hne : j ≠ c.start) (hj : Gone s j) :
      ∀ o ∈ c.object :: s.objects, o.start ≠ some j := by
    intro o ho
    rcases List.mem_cons.mp ho with rfl | ho
    · exact fun heq ↦ hne (Option.some.inj heq).symm
    · exact hj o ho
  have hother {x : Execution} (hx : x ∈ s.executions) : x.start ≠ c.start :=
    fun heq ↦ hcommitted ⟨x, hx, heq⟩
  constructor
  · intro c' hc'
    rcases List.mem_cons.mp hc' with rfl | hc'
    · exact hc
    · exact h.contained c' hc'
  · show ((c :: s.created).map (·.start)).Nodup
    rw [List.map_cons, List.nodup_cons]
    refine ⟨?_, h.once⟩
    intro hin
    obtain ⟨c', hc', heq⟩ := List.mem_map.mp hin
    exact hunused (.inl ⟨c', hc', heq⟩)
  · intro o ho j hj
    rcases List.mem_cons.mp ho with rfl | ho
    · exact ⟨c, List.mem_cons_self, rfl⟩
    · obtain ⟨c', hc', heq⟩ := h.objects o ho j hj
      exact ⟨c', List.mem_cons_of_mem _ hc', heq⟩
  · intro o ho j hj
    rcases List.mem_cons.mp ho with rfl | ho
    · have hstart : c.start = j := Option.some.inj hj
      subst hstart
      rcases hplace with hl | ⟨scenario, login, kind, name, rfl⟩
      · exact .inr (.inr hl)
      · refine .inr (.inl ⟨scenario, login, kind, name, ?_⟩)
        show (s.sessions.update c.start fun _ ↦ _)[c.start]? = _
        rw [Table.getElem?_update_self, hold]
        rfl
    · obtain ⟨c', hc', -, hstart⟩ := h.creation ho hj
      have hne : j ≠ c.start := by
        rintro rfl
        exact hunused (.inl ⟨c', hc', hstart⟩)
      rcases h.located o ho j hj with hx | hf | hl
      · exact .inl hx
      · exact .inr (.inl (hf.update (Ne.symm hne) rfl))
      · exact .inr (.inr ((hmore j).mpr (.inl hl)))
  · exact h.rows
  · intro x hx c' hc' hstart
    rcases List.mem_cons.mp hc' with rfl | hc'
    · exact absurd hstart.symm (hother hx)
    · exact h.named x hx c' hc' hstart
  · intro x hx hactive
    exact hgone _ (hother hx) (h.terminal x hx hactive)
  · have hlt : c.start < s.sessions.length := (List.getElem?_eq_some_iff.mp hold).1
    intro j hj
    show j < (s.sessions.update c.start fun _ ↦ session).length
    rw [Table.length_update]
    rcases hj with ⟨c', hc', rfl⟩ | hx | hl
    · rcases List.mem_cons.mp hc' with rfl | hc'
      · exact hlt
      · exact h.bounded _ (.inl ⟨c', hc', rfl⟩)
    · exact h.bounded j (.inr (.inl hx))
    · rcases (hmore j).mp hl with hl | ⟨rfl, -⟩
      · exact h.bounded j (.inr (.inr hl))
      · exact hlt
  · intro j x hx
    rcases session_of_update hx with ⟨rfl, rfl⟩ | ⟨hne, hx⟩
    · exact hsession.transfer (fun _ hc _ ↦ hc) (fun hc ↦ hc) (fun hl ↦ hl)
        (rows_refl rfl fun _ _ hg ↦ hg)
    · refine (h.sessions j x hx).transfer ?_ (fun hx ↦ hx) ?_
        (rows_refl rfl fun _ hrow ↦ hgone _ (hother hrow))
      · intro c' hc' heq
        rcases List.mem_cons.mp hc' with rfl | hc'
        · exact absurd heq.symm hne
        · exact hc'
      · intro hl
        rcases (hmore j).mp hl with hl | ⟨heq, -⟩
        · exact hl
        · exact absurd heq hne

/-- A start commits its row. -/
private theorem Sound.commit (h : Sound d s) {scenario : ChaosScenario}
    {login kind name : String} {row : ChaosExecution}
    (hold : s.sessions[i]? = some (.prepared scenario login kind name))
    (hcataloged : Cataloged row) (hactive : row.active) (hkind : row.resourceKind = some kind)
    (hname : row.resourceName = some name)
    (hsession : session = .ended ∨ ∃ id loaded, session = .recording id loaded) :
    Sound d { s with executions := s.executions.insert ⟨row, i⟩,
                     sessions := s.sessions.update i fun _ ↦ session } := by
  obtain ⟨-, -, hnot, hlost, hcreated⟩ := h.sessions i _ hold
  have hcommitted {j : Nat} (hj : Committed s j) :
      Committed { s with executions := s.executions.insert ⟨row, i⟩,
                         sessions := s.sessions.update i fun _ ↦ session } j := by
    obtain ⟨x, hx, hstart⟩ := hj
    exact ⟨x, List.mem_append_left _ hx, hstart⟩
  have hback {x : Execution} (hx : x ∈ s.executions.insert ⟨row, i⟩) :
      x ∈ s.executions ∨ x = ⟨row, i⟩ := by
    rcases List.mem_append.mp hx with hx | hx
    · exact .inl hx
    · exact .inr (List.mem_singleton.mp hx)
  have hused {j : Nat} (hne : j ≠ i)
      (hj : Used { s with executions := s.executions.insert ⟨row, i⟩,
                          sessions := s.sessions.update i fun _ ↦ session } j) : Used s j := by
    rcases hj with hc | ⟨x, hx, rfl⟩ | hl
    · exact .inl hc
    · rcases hback hx with hx | rfl
      · exact .inr (.inl ⟨x, hx, rfl⟩)
      · exact absurd rfl hne
    · exact .inr (.inr hl)
  refine ⟨h.contained, h.once, h.objects, ?_, ?_, ?_, ?_, ?_, ?_⟩
  · intro o ho j hj
    by_cases hij : i = j
    · subst hij
      exact .inl ⟨_, List.mem_append_right _ (List.mem_singleton_self _), rfl⟩
    · rcases h.located o ho j hj with hx | hf | hl
      · exact .inl (hcommitted hx)
      · exact .inr (.inl (hf.update hij rfl))
      · exact .inr (.inr hl)
  · intro x hx
    rcases hback hx with hx | rfl
    · exact h.rows x hx
    · exact hcataloged
  · intro x hx c hc hstart
    rcases hback hx with hx | rfl
    · exact h.named x hx c hc hstart
    · obtain ⟨hck, hcn⟩ := hcreated c hc hstart
      rw [hck, hcn]
      exact ⟨hkind, hname⟩
  · intro x hx hover
    rcases hback hx with hx | rfl
    · exact h.terminal x hx hover
    · rw [hactive] at hover
      cases hover
  · have hlt : i < s.sessions.length := (List.getElem?_eq_some_iff.mp hold).1
    intro j hj
    show j < (s.sessions.update i fun _ ↦ session).length
    rw [Table.length_update]
    by_cases hij : j = i
    · rw [hij]
      exact hlt
    · exact h.bounded j (hused hij hj)
  · intro j x hx
    rcases session_of_update hx with ⟨rfl, rfl⟩ | ⟨hij, hx⟩
    · rcases hsession with rfl | ⟨id, loaded, rfl⟩
      · trivial
      · trivial
    · refine (h.sessions j x hx).transfer (fun _ hc _ ↦ hc) ?_ (fun hl ↦ hl) ?_
      · rintro ⟨y, hy, hstart⟩
        rcases hback hy with hy | rfl
        · exact ⟨y, hy, hstart⟩
        · exact absurd hstart.symm hij
      · intro id y hy
        exact ⟨y, Table.getElem?_insert_of_some hy, SameTarget.refl _, fun hg ↦ hg⟩

/-- A start ends before its commit. -/
private theorem Sound.lose (h : Sound d s) {scenario : ChaosScenario} {login kind name : String}
    (hold : s.sessions[i]? = some (.prepared scenario login kind name)) :
    Sound d { s.close i with lost := i :: s.lost } := by
  have hused {j : Nat} (hne : j ≠ i) (hj : Used { s.close i with lost := i :: s.lost } j) :
      Used s j := by
    rcases hj with hc | hx | hl
    · exact .inl hc
    · exact .inr (.inl hx)
    · rcases List.mem_cons.mp hl with rfl | hl
      · exact absurd rfl hne
      · exact .inr (.inr hl)
  refine ⟨h.contained, h.once, h.objects, ?_, h.rows, h.named, h.terminal, ?_, ?_⟩
  · intro o ho j hj
    by_cases hij : i = j
    · subst hij
      exact .inr (.inr List.mem_cons_self)
    · rcases h.located o ho j hj with hx | hf | hl
      · exact .inl hx
      · exact .inr (.inl (hf.update hij rfl))
      · exact .inr (.inr (List.mem_cons_of_mem _ hl))
  · have hlt : i < s.sessions.length := (List.getElem?_eq_some_iff.mp hold).1
    intro j hj
    show j < (s.sessions.update i fun _ ↦ .ended).length
    rw [Table.length_update]
    by_cases hij : j = i
    · rw [hij]
      exact hlt
    · exact h.bounded j (hused hij hj)
  · intro j x hx
    rcases session_of_update hx with ⟨rfl, rfl⟩ | ⟨hij, hx⟩
    · trivial
    · refine (h.sessions j x hx).transfer (fun _ hc _ ↦ hc) (fun hx ↦ hx) ?_
        (rows_refl rfl fun _ _ hg ↦ hg)
      intro hl
      rcases List.mem_cons.mp hl with rfl | hl
      · exact absurd rfl hij
      · exact hl

private theorem targetNamespace_eq {scenario : ChaosScenario} (h : scenario ∈ scenarios) :
    scenario.targetNamespace = "cloudward-staging" := by
  simp only [scenarios, List.mem_cons, List.not_mem_nil, or_false] at h
  rcases h with rfl | rfl | rfl | rfl | rfl | rfl | rfl | rfl | rfl <;> rfl

private theorem resourceKind_injective : Function.Injective resourceKind := by
  intro a b h
  cases a <;> cases b <;> first | rfl | simp [resourceKind] at h

private theorem contained_of_admitted {request : StartRequest} {scenario : ChaosScenario}
    {body : Body} {resource : StartedScenarioResource} (h : Admitted d request scenario)
    (hmade : experiment scenario (d.uuid i) = .ok (body, resource))
    (hallowed : allowsNamespace d.settings body.metadata.ns) :
    Contained d ⟨i, request, scenario, body, resource⟩ := by
  obtain ⟨-, -, -, hname, hmetadata, hns, hmode, hselector, hduration⟩ :=
    experiment_spec h.scenario_mem hmade
  refine ⟨h, hmade, hns, ?_, ?_, ?_, hmode, hselector, hduration⟩
  · rw [hns] at hallowed
    exact (of_decide_eq_true hallowed).2
  · show resource.name = body.metadata.name
    rw [hname, hmetadata]
    rfl
  · show body.metadata.labels.lookup _ = _
    rw [hmetadata]
    simp [metadata, List.lookup_cons]

private theorem Sound.close (h : Sound d s) {old : Session} (hold : s.sessions[i]? = some old)
    (hnot : ∀ scenario login kind name, old ≠ .prepared scenario login kind name) :
    Sound d (s.close i) :=
  h.goOn hold trivial (h.keeps hold hnot)

private theorem Sound.create (h : Sound d s) {request : StartRequest} {scenario : ChaosScenario}
    {body : Body} {resource : StartedScenarioResource}
    (hold : s.sessions[i]? = some (.admitted request scenario))
    (hmade : experiment scenario (d.uuid i) = .ok (body, resource)) (reply : Reply) :
    Sound d (s.create d ⟨i, request, scenario, body, resource⟩ reply) := by
  obtain ⟨hadmitted, hunused⟩ := h.sessions i _ hold
  have hclosed : Sound d (s.close i) := h.close hold fun _ _ _ _ h ↦ by cases h
  unfold State.create
  split
  · exact hclosed
  · next hallowed =>
    split
    · exact hclosed
    · have hc := contained_of_admitted (i := i) hadmitted hmade (not_not.mp hallowed)
      obtain ⟨-, hkind, -⟩ := experiment_spec hadmitted.scenario_mem hmade
      dsimp only
      split
      · apply h.make hold hc hunused
        · intro j
          constructor
          · exact .inl
          · rintro (hl | ⟨rfl, hl⟩)
            · exact hl
            · exact hl
        · exact .inr ⟨_, _, _, _, rfl⟩
        · refine ⟨hadmitted.scenario_mem, hkind, fun hx ↦ hunused (.inr (.inl hx)),
            fun hl ↦ hunused (.inr (.inr hl)), ?_⟩
          intro c' hc' hstart
          rcases List.mem_cons.mp hc' with rfl | hc'
          · exact ⟨rfl, rfl⟩
          · exact absurd (.inl ⟨c', hc', hstart⟩) hunused
      · apply h.make hold hc hunused
        · intro j
          constructor
          · intro hl
            rcases List.mem_cons.mp hl with rfl | hl
            · exact .inr ⟨rfl, List.mem_cons_self⟩
            · exact .inl hl
          · rintro (hl | ⟨rfl, -⟩)
            · exact List.mem_cons_of_mem _ hl
            · exact List.mem_cons_self
        · exact .inl List.mem_cons_self
        · trivial

private theorem Sound.delete (h : Sound d s) {pass : Pass}
    (hold : s.sessions[i]? = some (.passing pass)) (reply : Reply) :
    Sound d (s.delete d i pass reply) := by
  obtain ⟨x, hx, hsame, hcleaned⟩ := h.sessions i _ hold
  have hnot : ∀ scenario login kind name,
      Session.passing pass ≠ .prepared scenario login kind name := fun _ _ _ _ h ↦ by cases h
  unfold State.delete
  split
  · exact h
  · next plural name htarget =>
    dsimp only
    have hrest := h.filter fun o ↦ decide (o.place ≠ (pass.loaded.targetNamespace, plural, name))
    split
    · exact h.close hold hnot
    · split
      · refine hrest.goOn hold ⟨x, hx, hsame, ?_⟩ (hrest.keeps hold hnot)
        intro _ o ho hstart
        have hmem := List.mem_filter.mp ho
        have hplace := h.target_eq (List.mem_of_getElem? hx) hsame hmem.1 hstart
        rw [htarget, Option.map_some, Option.some.injEq] at hplace
        exact of_decide_eq_true hmem.2 hplace.symm
      · exact hrest.close hold hnot

private theorem Sound.finish (h : Sound d s) {pass : Pass}
    (hold : s.sessions[i]? = some (.passing pass)) (e : Ending) :
    Sound d (s.finish i pass e) := by
  obtain ⟨x, hx, hsame, hcleaned⟩ := h.sessions i _ hold
  unfold State.finish
  split
  · next hready =>
    have hclosed := h.close hold fun _ _ _ _ h ↦ by cases h
    apply hclosed.write
    · exact fun _ ↦ ⟨rfl, rfl, rfl, rfl⟩
    · intro y hy _
      change s.executions[pass.id]? = some y at hy
      rw [hx] at hy
      cases hy
      rcases hready with hclean | hnone
      · exact hcleaned hclean
      · intro o ho hstart
        have hplace := h.target_eq (List.mem_of_getElem? hx) hsame ho hstart
        rw [hnone] at hplace
        cases hplace
  · exact h

/-- Every step keeps the invariant. -/
theorem sound_step (h : Sound d s) (m : Move) : Sound d (step d s m) := by
  cases m with
  | start request =>
    simp only [step]
    split
    · next scenario hgates =>
      apply h.insert
      exact ⟨admitted_of_gates hgates, fun hu ↦ Nat.lt_irrefl _ (h.bounded _ hu)⟩
    · exact h
  | create i reply =>
    simp only [step]
    split
    · next request scenario hold =>
      split
      · next body resource hmade => exact h.create hold hmade reply
      · exact h.close hold fun _ _ _ _ h ↦ by cases h
    · exact h
  | prepare i name =>
    simp only [step]
    split
    · next request scenario hold =>
      split
      · exact h
      · obtain ⟨hadmitted, hunused⟩ := h.sessions i _ hold
        refine h.goOn hold ⟨hadmitted.scenario_mem, rfl, fun hx ↦ hunused (.inr (.inl hx)),
          fun hl ↦ hunused (.inr (.inr hl)), ?_⟩ (h.keeps hold fun _ _ _ _ h ↦ by cases h)
        intro c hc hstart
        exact absurd (.inl ⟨c, hc, hstart⟩) hunused
    · exact h
  | launch i now sent =>
    simp only [step]
    split
    · next scenario login kind name hold =>
      obtain ⟨hmem, hkind, -⟩ := h.sessions i _ hold
      have hcataloged : Cataloged
          { started d.settings scenario login name now with resourceKind := some kind } := by
        refine ⟨scenario, hmem, rfl, ?_, targetNamespace_eq hmem⟩
        rw [hkind]
      split
      · exact h.commit hold hcataloged rfl rfl rfl (.inr ⟨_, _, rfl⟩)
      · exact h.commit hold hcataloged rfl rfl rfl (.inl rfl)
    · exact h
  | record i taskId =>
    simp only [step]
    split
    · next id loaded hold =>
      apply (h.close hold fun _ _ _ _ h ↦ by cases h).write
      · exact fun _ ↦ ⟨rfl, rfl, rfl, rfl⟩
      · intro x hx hover
        exact h.terminal x (List.mem_of_getElem? hx) hover
    · exact h
  | load id stopper =>
    simp only [step]
    split
    · next x hx =>
      split
      · apply h.insert
        exact ⟨x, hx, SameTarget.refl _, fun hc ↦ by cases hc⟩
      · exact h
    · exact h
  | delete i reply =>
    simp only [step]
    split
    · next pass hold => exact h.delete hold reply
    · exact h
  | commitDetails i entries goesOn =>
    simp only [step]
    split
    · next pass hold =>
      obtain ⟨x, hx, hsame, hcleaned⟩ := h.sessions i _ hold
      have hwritten : Sound d (s.write pass.id (pass.noted entries)) := by
        apply h.write
        · exact fun _ ↦ ⟨rfl, rfl, rfl, rfl⟩
        · intro y hy hover
          by_cases hc : pass.stopper.isSome ∧ pass.locked
          · simp [Pass.noted, ChaosExecution.active, isActive, hc] at hover
          · refine h.terminal y (List.mem_of_getElem? hy) ?_
            simpa [Pass.noted, note, ChaosExecution.active, hc] using hover
      have hnot : ∀ scenario login kind name,
          Session.passing pass ≠ .prepared scenario login kind name := fun _ _ _ _ h ↦ by cases h
      obtain ⟨y, hy, hsame', hcleaned'⟩ := hwritten.sessions i _ hold
      split
      · refine hwritten.goOn hold ⟨y, hy, ?_, hcleaned'⟩ (hwritten.keeps hold hnot)
        exact hsame'.trans ⟨rfl, rfl, rfl, rfl⟩
      · exact hwritten.close hold hnot
    · exact h
  | finish i e =>
    simp only [step]
    split
    · next pass hold =>
      split
      · exact h.finish hold e
      · exact h
    · exact h
  | cancel i now entries =>
    simp only [step]
    split
    · next pass hold =>
      split
      · exact h.finish hold _
      · exact h
    · exact h
  | analyse id e =>
    simp only [step]
    split
    · next x hx =>
      split
      · next hc =>
        apply h.write
        · exact fun _ ↦ ⟨rfl, rfl, rfl, rfl⟩
        · intro y hy _
          rw [hx] at hy
          cases hy
          exact h.gone_of_scenario (List.mem_of_getElem? hx) (.inl hc.1)
      · exact h
    · exact h
  | abandon i =>
    simp only [step, State.abandon]
    split
    · next scenario login kind name hold =>
      split
      · exact h.lose hold
      · next hmechanism =>
        obtain ⟨hmem, hkind, -, -, hcreated⟩ := h.sessions i _ hold
        refine (show Sound d (s.goOn i .ended) from h.goOn hold trivial ?_)
        intro o ho hstart
        obtain ⟨c, hc, -, hcstart⟩ := h.creation ho hstart
        exfalso
        have hcontained := h.contained c hc
        obtain ⟨hchaos, hckind, -⟩ := experiment_spec hcontained.scenario_mem hcontained.made
        have heq := (hcreated c hc hcstart).1
        rw [hckind, hkind] at heq
        apply hmechanism
        rwa [resourceKind_injective heq] at hchaos
    · next hnone =>
      cases hold : s.sessions[i]? with
      | none =>
        have hsame : s.close i = s := by
          unfold State.close Table.update
          rw [List.modify_eq_self (by simpa using hold)]
        rw [hsame]
        exact h
      | some old =>
        exact h.close hold fun scenario login kind name heq ↦
          hnone scenario login kind name (hold.trans (congrArg some heq))
  | foreignCreate body plural =>
    simp only [step]
    split
    · exact h
    · apply h.others
      intro o ho
      rcases List.mem_cons.mp ho with rfl | ho
      · exact .inr rfl
      · exact .inl ho
  | foreignDelete place =>
    exact h.filter fun o ↦ decide (o.place ≠ place)

end CloudWard.Lab.Experiments
