import CloudWard.Auth.Routes

/-!
# Where a role comes from

Roles are set by `update_role_mapping` (`api/roles.py:53`), whose principal's role is read from
the rows and not from its cookie (`auth/dependencies.py:54`), and by development logins. So in
every interleaving of requests each role traces back, grant by grant, to an administrator that
was there from the start, and where there is none and no development login nobody is ever more
than a viewer.
-/

namespace CloudWard.Auth

open CloudWard.Logic CloudWard.Logic.Interleave CloudWard.Rbac

/-- What a role that is set rests on: an administrator, or a development login that is enabled. -/
def Authorises (settings : AuthSettings) (administrator : Nat → Prop) : Authority → Prop
  | .principal p => if p.persisted then administrator p.userId else settings.DevAuth
  | .developmentLogin => settings.DevAuth

/-- A role that a user has by the initial rows, as every new user does, or by a grant that was
authorised by what was granted before. -/
def Entitled (settings : AuthSettings) (initial : Rows) : List Grant → Nat → Role → Prop
  | [], userId, role => role = .viewer ∨
      ∃ mapping ∈ initial.mappings, isGlobal userId mapping ∧ mapping.role = role
  | grant :: earlier, userId, role => Entitled settings initial earlier userId role ∨
      grant.userId = userId ∧ grant.role = role ∧
        Authorises settings (Entitled settings initial earlier · .admin) grant.authority

section Entitlement

variable {settings : AuthSettings} {initial : Rows} {userId : Nat} {role : Role}

theorem entitled_viewer (grants : List Grant) (userId : Nat) :
    Entitled settings initial grants userId .viewer := by
  induction grants with
  | nil => exact .inl rfl
  | cons grant earlier ih => exact .inl ih

/-- What a user is entitled to stays. -/
theorem Entitled.later {grants later : List Grant} (h : Entitled settings initial grants userId role)
    (hlater : grants <:+ later) : Entitled settings initial later userId role := by
  obtain ⟨added, rfl⟩ := hlater
  induction added with
  | nil => exact h
  | cons grant added ih => exact .inl ih

/-- Without an administrator and without development logins no grant is authorised. -/
theorem Entitled.initially {grants : List Grant} (h : Entitled settings initial grants userId role)
    (hdev : ¬ settings.DevAuth)
    (hadmin : ∀ mapping ∈ initial.mappings, mapping.scope = "global" → mapping.role ≠ .admin) :
    role = .viewer ∨ ∃ mapping ∈ initial.mappings, isGlobal userId mapping ∧ mapping.role = role := by
  induction grants generalizing userId role with
  | nil => exact h
  | cons grant earlier ih =>
    rcases h with h | ⟨-, -, h⟩
    · exact ih h
    · cases hauthority : grant.authority with
      | developmentLogin =>
        rw [hauthority] at h
        exact absurd h hdev
      | principal p =>
        rw [hauthority] at h
        simp only [Authorises] at h
        split at h
        · rcases ih h with h | ⟨mapping, hmapping, hglobal, h⟩
          · cases h
          · simp only [isGlobal, decide_eq_true_eq] at hglobal
            exact absurd h (hadmin mapping hmapping hglobal.2)
        · exact absurd h hdev

end Entitlement

/-! ### Rows -/

/-- Every role that counts is one its user is entitled to. -/
def AllEntitled (settings : AuthSettings) (initial : Rows) (s : Store) : Prop :=
  ∀ mapping ∈ s.rows.mappings, mapping.scope = "global" →
    Entitled settings initial s.grants mapping.userId mapping.role

/-- What may become of the rows: grants are added, mappings keep their user, and every role
stays one its user is entitled to. -/
def authority (settings : AuthSettings) (initial : Rows) : Rely Store where
  may s s' := s.grants <:+ s'.grants ∧ mappingKeys s.rows <+: mappingKeys s'.rows ∧
    (AllEntitled settings initial s → AllEntitled settings initial s')
  refl _ := ⟨List.suffix_rfl, List.prefix_rfl, id⟩
  trans h h' := ⟨h.1.trans h'.1, h.2.1.trans h'.2.1, h'.2.2 ∘ h.2.2⟩

/-- What a principal acts with. -/
def Acts (settings : AuthSettings) (initial : Rows) (p : Principal) (s : Store) : Prop :=
  if p.persisted then Entitled settings initial s.grants p.userId p.role else settings.DevAuth

/-- What a response says of roles. -/
def Served (settings : AuthSettings) (initial : Rows) : Response → Store → Prop
  | .session p, s => Acts settings initial p s
  | .principal p, s => Acts settings initial p s
  | .mapping m, s => m.scope = "global" → Entitled settings initial s.grants m.userId m.role

section Requests

variable {settings : AuthSettings} {initial : Rows} {s s' : Store} {answers : Answers}
variable {userId : Nat} {role : Role}

private theorem Acts.later {p : Principal} (h : Acts settings initial p s)
    (hs : (authority settings initial).may s s') : Acts settings initial p s' := by
  unfold Acts at h ⊢
  split
  · next hp =>
    rw [if_pos hp] at h
    exact h.later hs.1
  · next hp =>
    rw [if_neg hp] at h
    exact h

/-- The mapping a request has read is its user's. -/
private def Loaded (userId : Nat) (loaded : Option (Nat × RoleMapping)) (s : Store) : Prop :=
  ∀ e ∈ loaded, (mappingKeys s.rows)[e.1]? = some (userId, "global")

private theorem Loaded.later {loaded : Option (Nat × RoleMapping)} (h : Loaded userId loaded s)
    (hs : (authority settings initial).may s s') : Loaded userId loaded s' := by
  intro e he
  obtain ⟨added, hadded⟩ := hs.2.1
  have hkey := h e he
  rw [← hadded, List.getElem?_append_left (List.getElem?_eq_some_iff.mp hkey).1, hkey]

private theorem Loaded.key {loaded : Option (Nat × RoleMapping)} (h : Loaded userId loaded s)
    {e : Nat × RoleMapping} (he : e ∈ loaded) {current : RoleMapping}
    (hcurrent : s.rows.mappings[e.1]? = some current) :
    current.userId = userId ∧ current.scope = "global" := by
  have hkey := h e he
  rw [mappingKeys, List.getElem?_map, hcurrent, Option.map_some, Option.some.injEq,
    Prod.mk.injEq] at hkey
  exact hkey

/-- A new mapping of a role that its user is entitled to. -/
private theorem allEntitled_insert (h : AllEntitled settings initial s) {mapping : RoleMapping}
    {t : Store} (hmappings : t.rows.mappings = s.rows.mappings.insert mapping)
    (hgrants : s.grants <:+ t.grants)
    (hentitled : Entitled settings initial t.grants mapping.userId mapping.role) :
    AllEntitled settings initial t := by
  intro m hm hscope
  rw [hmappings] at hm
  rcases List.mem_append.mp hm with hold | hnew
  · exact (h m hold hscope).later hgrants
  · rw [List.mem_singleton.mp hnew]
    exact hentitled

/-- A role that is set by who may set it. -/
private theorem may_granted {by' : Authority} {grantedBy : Option (Option Nat)}
    {loaded : Option (Nat × RoleMapping)} {id : Nat} {t : Store}
    (h : granted by' userId role grantedBy loaded s = .ok (id, t))
    (hloaded : Loaded userId loaded s)
    (hby : Authorises settings (Entitled settings initial s.grants · .admin) by') :
    (authority settings initial).may s t := by
  obtain ⟨rows, -, -, hmappings, hr⟩ := commit_map_eq_ok h
  cases hr
  have hnew : Entitled settings initial (⟨by', userId, role⟩ :: s.grants) userId role :=
    .inr ⟨rfl, rfl, hby⟩
  have hgrants : s.grants <:+ ⟨by', userId, role⟩ :: s.grants := List.suffix_cons _ _
  cases loaded with
  | none => exact ⟨hgrants, prefix_keys_insert hmappings,
      fun hall ↦ allEntitled_insert hall hmappings hgrants hnew⟩
  | some e =>
    refine ⟨hgrants, ?_, ?_⟩
    · show mappingKeys s.rows <+: mappingKeys rows
      have hkeys : mappingKeys rows = mappingKeys s.rows := by
        unfold mappingKeys
        rw [hmappings, withMapping, Table.map_update _ _ (f := withRole role grantedBy e.2) fun _ ↦ rfl]
      exact hkeys ▸ List.prefix_rfl
    · intro hall m hm hscope
      rw [hmappings] at hm
      obtain ⟨i, hi⟩ := List.mem_iff_getElem?.mp hm
      rw [withMapping, Table.getElem?_update] at hi
      split at hi
      · next hid =>
        subst hid
        obtain ⟨current, hcurrent, rfl⟩ := Option.map_eq_some_iff.mp hi
        obtain ⟨huser, hglobal⟩ := hloaded.key rfl hcurrent
        show Entitled settings initial _ current.userId (written e.2.role role current.role)
        unfold written
        split
        · exact (hall current (List.mem_of_getElem? hcurrent) hglobal).later hgrants
        · rw [huser]
          exact hnew
      · exact (hall m (List.mem_of_getElem? hi) hscope).later hgrants

/-- A first login adds a viewer. -/
private theorem may_registered {github : GitHubIdentity} {id : Nat} {t : Store}
    (h : registered github s = .ok (id, t)) : (authority settings initial).may s t := by
  obtain ⟨rows, -, -, hmappings, hr⟩ := commit_map_eq_ok h
  cases hr
  exact ⟨List.suffix_rfl, prefix_keys_insert hmappings,
    fun hall ↦ allEntitled_insert hall hmappings List.suffix_rfl (entitled_viewer _ _)⟩

private theorem may_refreshed {github : GitHubIdentity} {loaded : User} {id : Nat} {t : Store}
    (h : refreshed github userId loaded s = .ok (id, t)) :
    (authority settings initial).may s t := by
  obtain ⟨rows, -, -, hmappings, hr⟩ := commit_map_eq_ok h
  cases hr
  refine ⟨List.suffix_rfl, ?_, ?_⟩
  · unfold mappingKeys
    exact hmappings ▸ List.prefix_rfl
  · intro hall m hm
    rw [hmappings] at hm
    exact hall m hm

private theorem may_devRegistered {login : String} {id : Nat} {t : Store}
    (h : devRegistered login role s = .ok (id, t)) (hdev : settings.DevAuth) :
    (authority settings initial).may s t ∧
      Entitled settings initial t.grants id role := by
  obtain ⟨rows, -, -, hmappings, hr⟩ := commit_map_eq_ok h
  cases hr
  have hnew : Entitled settings initial (⟨.developmentLogin, s.rows.users.fresh, role⟩ :: s.grants)
      s.rows.users.fresh role := .inr ⟨rfl, rfl, hdev⟩
  have hgrants : s.grants <:+ ⟨.developmentLogin, s.rows.users.fresh, role⟩ :: s.grants :=
    List.suffix_cons _ _
  exact ⟨⟨hgrants, prefix_keys_insert hmappings,
    fun hall ↦ allEntitled_insert hall hmappings hgrants hnew⟩, hnew⟩

/-! ### Endpoints -/

/-- A request that is safe whatever it fails with. -/
private abbrev SafeFor {α : Type} (settings : AuthSettings) (initial : Rows)
    (P : α → Store → Prop) (p : Program α) (s : Store) : Prop :=
  p.Safe (authority settings initial) (Ends (fun _ ↦ True) P) s

private theorem acts_storedPrincipal {p : Principal} (hall : AllEntitled settings initial s)
    (h : storedPrincipal s.rows userId = some p) : Acts settings initial p s := by
  obtain ⟨user, -, h⟩ := Option.bind_eq_some_iff.mp h
  obtain ⟨mapping, hmapping, rfl⟩ := Option.map_eq_some_iff.mp h
  have hglobal := List.find?_some hmapping
  simp only [isGlobal, decide_eq_true_eq] at hglobal
  have hentitled := hall mapping (List.mem_of_find?_eq_some hmapping) hglobal.2
  rw [hglobal.1] at hentitled
  exact hentitled

/-- A principal acts with a role it is entitled to, whatever its cookie says. -/
private theorem safe_getCurrentPrincipal (hall : AllEntitled settings initial s)
    (credentials : Credentials) :
    SafeFor settings initial (Acts settings initial)
      (getCurrentPrincipal settings answers credentials) s := by
  unfold getCurrentPrincipal
  split
  · unfold devPrincipal
    split
    · next hdev =>
      split
      · exact ends_throw trivial
      · exact ends_pure fun _ _ ↦ hdev
    · exact ends_throw trivial
  · split
    · exact ends_throw trivial
    · apply ends_bind (P := fun _ _ ↦ True)
      · exact ends_answered (fun _ ↦ trivial) fun _ _ _ _ ↦ trivial
      intro signed s₁ h₁ _
      apply ends_bind (P := fun row s' ↦ ∀ p, row = some p → Acts settings initial p s')
      · apply ends_select trivial fun _ _ _ _ ↦ trivial
        intro s₂ h₂ row hrow s₃ h₃ p hp
        cases hrow
        have hall₂ := h₂.2.2 (h₁.2.2 hall)
        exact (acts_storedPrincipal hall₂ hp).later h₃
      intro row s₂ h₂ hrow
      cases row with
      | none => exact ends_throw trivial
      | some p => exact ends_pure fun s₃ h₃ ↦ (hrow p rfl).later h₃

private theorem safe_requirePermission (hall : AllEntitled settings initial s)
    (credentials : Credentials) (permission : Permission) :
    SafeFor settings initial
      (fun p s' ↦ Acts settings initial p s' ∧ hasPermission p.role permission)
      (requirePermission settings answers credentials permission) s := by
  apply ends_bind (safe_getCurrentPrincipal hall credentials)
  intro p s₁ h₁ hp
  apply Resumption.safe_ite
  · intro hpermission
    exact ends_pure fun s₂ h₂ ↦ ⟨hp.later h₂, hpermission⟩
  · intro _
    exact ends_throw trivial

private theorem safe_setSessionCookie {p : Principal} {externalId : Option String}
    (hp : Acts settings initial p s) :
    SafeFor settings initial (Served settings initial) (setSessionCookie answers p externalId) s := by
  apply Resumption.safe_change
  · intro s₁ h₁ r t ht
    cases ht
    refine ⟨⟨List.suffix_rfl, List.prefix_rfl, id⟩, ?_⟩
    intro s₂ h₂
    exact (hp.later h₁).later h₂
  · intro s₁ h₁ e he
    cases he

private theorem safe_selectMapping (n : Nat) :
    SafeFor settings initial (Loaded userId)
      (select answers n fun rows ↦ scalarOneOrNone (rowsWhere rows.mappings (isGlobal userId)))
      s := by
  apply ends_select trivial fun _ _ _ _ ↦ trivial
  intro s₁ h₁ loaded hloaded s₂ h₂
  have hread : Loaded userId loaded s₁ := by
    rintro e rfl
    obtain ⟨hrow, hglobal⟩ := of_mem_rowsWhere (mem_of_scalarOneOrNone hloaded)
    simp only [isGlobal, decide_eq_true_eq] at hglobal
    rw [mappingKeys, List.getElem?_map, hrow, Option.map_some, hglobal.1, hglobal.2]
  exact hread.later h₂

private theorem safe_granted (n : Nat) {by' : Authority} {grantedBy : Option (Option Nat)}
    {loaded : Option (Nat × RoleMapping)} (hloaded : Loaded userId loaded s)
    (hby : ∀ s', (authority settings initial).may s s' →
      Authorises settings (Entitled settings initial s'.grants · .admin) by') :
    SafeFor settings initial (fun _ s' ↦ Entitled settings initial s'.grants userId role)
      (commit answers n (granted by' userId role grantedBy loaded)) s := by
  apply ends_commit trivial fun _ _ _ _ ↦ trivial
  intro s₁ h₁ id t ht
  refine ⟨may_granted ht (hloaded.later h₁) (hby s₁ h₁), ?_⟩
  intro s₂ h₂
  obtain ⟨rows, -, -, -, hr⟩ := commit_map_eq_ok ht
  cases hr
  have hnew : Entitled settings initial (⟨by', userId, role⟩ :: s₁.grants) userId role :=
    .inr ⟨rfl, rfl, hby s₁ h₁⟩
  exact hnew.later h₂.1

/-- Only an administrator manages roles. -/
private theorem authorises_principal {p : Principal} (hp : Acts settings initial p s)
    (hpermission : hasPermission p.role .roleManage) :
    Authorises settings (Entitled settings initial s.grants · .admin) (.principal p) := by
  have hadmin : p.role = .admin := by
    cases hrole : p.role with
    | admin => rfl
    | viewer => simp [hrole, hasPermission, rolePermissions] at hpermission
    | operator => simp [hrole, hasPermission, rolePermissions] at hpermission
  unfold Acts at hp
  rw [hadmin] at hp
  exact hp

private theorem safe_githubCallback (hall : AllEntitled settings initial s) (code state : String)
    (stateCookie : Option String) :
    SafeFor settings initial (Served settings initial)
      (githubCallback answers code state stateCookie) s := by
  apply ends_bind (P := fun _ _ ↦ True)
  · exact ends_require trivial fun _ _ _ ↦ trivial
  intro _ s₁ h₁ _
  apply ends_bind (P := fun _ _ ↦ True)
  · exact ends_answered (fun _ ↦ trivial) fun _ _ _ _ ↦ trivial
  intro _ s₂ h₂ _
  apply ends_bind (P := fun _ _ ↦ True)
  · exact ends_answered (fun _ ↦ trivial) fun _ _ _ _ ↦ trivial
  intro github s₃ h₃ _
  apply ends_bind (P := fun _ _ ↦ True)
  · apply ends_bind (P := fun _ _ ↦ True)
    · exact ends_select trivial (fun _ _ _ _ ↦ trivial) fun _ _ _ _ _ _ ↦ trivial
    intro identity s₄ h₄ _
    cases identity with
    | none =>
      exact ends_commit trivial (fun _ _ _ _ ↦ trivial)
        fun _ _ _ _ h ↦ ⟨may_registered h, fun _ _ ↦ trivial⟩
    | some e =>
      apply ends_bind (P := fun _ _ ↦ True)
      · exact ends_select trivial (fun _ _ _ _ ↦ trivial) fun _ _ _ _ _ _ ↦ trivial
      intro user s₅ h₅ _
      cases user with
      | none => exact ends_throw trivial
      | some loaded =>
        exact ends_commit trivial (fun _ _ _ _ ↦ trivial)
          fun _ _ _ _ h ↦ ⟨may_refreshed h, fun _ _ ↦ trivial⟩
  intro userId s₄ h₄ _
  have hall₄ := h₄.2.2 (h₃.2.2 (h₂.2.2 (h₁.2.2 hall)))
  apply ends_bind (P := fun e s' ↦ Entitled settings initial s'.grants userId e.2.role)
  · apply ends_select trivial fun _ _ _ _ ↦ trivial
    intro s₅ h₅ e he s₆ h₆
    obtain ⟨hrow, hglobal⟩ := of_mem_rowsWhere (mem_of_scalarOne he)
    simp only [isGlobal, decide_eq_true_eq] at hglobal
    have hentitled := h₅.2.2 hall₄ e.2 (List.mem_of_getElem? hrow) hglobal.2
    rw [hglobal.1] at hentitled
    exact hentitled.later h₆.1
  intro e s₅ h₅ he
  exact safe_setSessionCookie he

private theorem safe_developmentLogin (login : String) (role : Role) :
    SafeFor settings initial (Served settings initial)
      (developmentLogin settings answers login role) s := by
  apply ends_bind (P := fun _ _ ↦ settings.DevAuth)
  · exact ends_require trivial fun hdev _ _ ↦ hdev
  intro _ s₁ h₁ hdev
  apply ends_bind (P := fun _ _ ↦ True)
  · exact ends_select trivial (fun _ _ _ _ ↦ trivial) fun _ _ _ _ _ _ ↦ trivial
  intro user s₂ h₂ _
  cases user with
  | none =>
    apply ends_bind (P := fun id s' ↦ Entitled settings initial s'.grants id role)
    · apply ends_commit trivial fun _ _ _ _ ↦ trivial
      intro s₃ h₃ id t ht
      obtain ⟨hmay, hentitled⟩ := may_devRegistered ht hdev
      exact ⟨hmay, fun _ h ↦ hentitled.later h.1⟩
    intro id s₃ h₃ hid
    exact safe_setSessionCookie hid
  | some e =>
    apply ends_bind (safe_selectMapping 2)
    intro loaded s₃ h₃ hloaded
    apply ends_bind (P := fun _ s' ↦ Entitled settings initial s'.grants e.1 role)
    · exact safe_granted 3 hloaded fun _ _ ↦ hdev
    intro id s₄ h₄ hid
    exact safe_setSessionCookie hid

/-- The principal's role is what the rows said when the request was authenticated. -/
private theorem safe_updateRoleMapping (hall : AllEntitled settings initial s)
    (credentials : Credentials) (userId : Nat) (role : Role) :
    SafeFor settings initial (Served settings initial)
      (updateRoleMapping settings answers credentials userId role) s := by
  apply ends_bind (safe_requirePermission hall credentials .roleManage)
  rintro p s₁ h₁ ⟨hp, hpermission⟩
  apply ends_bind (P := fun _ _ ↦ True)
  · exact ends_select trivial (fun _ _ _ _ ↦ trivial) fun _ _ _ _ _ _ ↦ trivial
  intro user s₂ h₂ _
  cases user with
  | none => exact ends_throw trivial
  | some user =>
    apply ends_bind (safe_selectMapping 2)
    intro loaded s₃ h₃ hloaded
    apply ends_bind (P := fun _ s' ↦ Entitled settings initial s'.grants userId role)
    · apply safe_granted 3 hloaded
      intro s₄ h₄
      exact authorises_principal (((hp.later h₂).later h₃).later h₄) hpermission
    intro id s₄ h₄ _
    have hall₄ := h₄.2.2 (h₃.2.2 (h₂.2.2 (h₁.2.2 hall)))
    apply ends_bind (P := fun row s' ↦ ∀ m, row = some m → m.scope = "global" →
      Entitled settings initial s'.grants m.userId m.role)
    · apply ends_select trivial fun _ _ _ _ ↦ trivial
      intro s₅ h₅ row hrow s₆ h₆ m hm hscope
      cases hrow
      exact (h₅.2.2 hall₄ m (List.mem_of_getElem? hm) hscope).later h₆.1
    intro row s₅ h₅ hrow
    cases row with
    | none => exact ends_throw trivial
    | some m => exact ends_pure fun s₆ h₆ hscope ↦ (hrow m rfl hscope).later h₆.1

private theorem safe_program (hall : AllEntitled settings initial s) (call : Call) :
    SafeFor settings initial (Served settings initial) (program settings call) s := by
  unfold program
  cases call.request with
  | githubCallback code state stateCookie => exact safe_githubCallback hall code state stateCookie
  | developmentLogin login role => exact safe_developmentLogin login role
  | currentUser credentials =>
    apply ends_bind (safe_getCurrentPrincipal hall credentials)
    intro p s₁ h₁ hp
    exact ends_pure fun s₂ h₂ ↦ hp.later h₂
  | guarded credentials permission =>
    apply ends_bind (safe_requirePermission hall credentials permission)
    intro p s₁ h₁ hp
    exact ends_pure fun s₂ h₂ ↦ hp.1.later h₂
  | updateRoleMapping credentials userId role =>
    exact safe_updateRoleMapping hall credentials userId role

end Requests

/-! ### Runs -/

private theorem allEntitled_initial (settings : AuthSettings) (initial : Rows) :
    AllEntitled settings initial { rows := initial } := by
  intro mapping hmapping hscope
  exact .inr ⟨mapping, hmapping, by simp [isGlobal, hscope], rfl⟩

/-- Whatever is served, the rows become what they may. -/
private theorem safe_serve (settings : AuthSettings) (initial : Rows) (moves : List (Move Call)) :
    AllEntitled settings initial (serve settings initial moves).store ∧
      Pool.AllSafe (authority settings initial)
        (Ends (fun _ ↦ True) (Served settings initial)) (serve settings initial moves) := by
  have hstart : Pool.AllSafe (authority settings initial)
      (Ends (fun _ ↦ True) (Served settings initial))
      (⟨{ rows := initial }, []⟩ : Server) := fun _ h ↦ absurd h List.not_mem_nil
  have hinitial := allEntitled_initial settings initial
  obtain ⟨hmay, hsafe⟩ := hstart.run (C := fun _ _ ↦ True)
    (fun s hs call _ ↦ safe_program (hs.2.2 hinitial) call) moves
    (Runs.along_of_forall (fun _ m ↦ by cases m <;> trivial) moves)
  exact ⟨hmay.2.2 hinitial, hsafe⟩

/-- **Every role traces back to an administrator**: in every interleaving of requests, whatever
their cookies say and whatever fails, each role that counts is the viewer's of a new user, was
there from the start, or was set by a development login that the settings enable or by an
administrator whose own role traces back in the same way; and no request is served as a user
with any other role. -/
theorem roles_entitled (settings : AuthSettings) (initial : Rows) (moves : List (Move Call)) :
    AllEntitled settings initial (serve settings initial moves).store ∧
      ∀ response, .done (.ok response) ∈ (serve settings initial moves).threads →
        Served settings initial response (serve settings initial moves).store := by
  obtain ⟨hrows, hsafe⟩ := safe_serve settings initial moves
  exact ⟨hrows, fun response hresponse ↦ hsafe.result hresponse⟩

/-- Where nobody was an administrator and development logins are off, no role was ever set. -/
theorem roles_unchanged (settings : AuthSettings) (initial : Rows) (moves : List (Move Call))
    (hdev : ¬ settings.DevAuth)
    (hadmin : ∀ mapping ∈ initial.mappings, mapping.scope = "global" → mapping.role ≠ .admin)
    {mapping : RoleMapping} (hmapping : mapping ∈ (serve settings initial moves).store.rows.mappings)
    (hscope : mapping.scope = "global") :
    mapping.role = .viewer ∨ ∃ before ∈ initial.mappings,
      isGlobal mapping.userId before ∧ before.role = mapping.role :=
  ((safe_serve settings initial moves).1 mapping hmapping hscope).initially hdev hadmin

end CloudWard.Auth
