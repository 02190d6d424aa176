import CloudWard.Auth.Routes

/-!
# One account for each user

A first login creates its user, its identity and its mapping in one commit (`auth/routes.py:81`),
so every user has a role and no two GitHub accounts share a user, in every interleaving of
requests; the lookups that expect one row find one, and a session cookie that is not forged is of
the user whose GitHub account logged in.
-/

namespace CloudWard.Auth

open CloudWard.Logic CloudWard.Logic.Interleave CloudWard.Rbac

/-- Every user has a role, and every identity a user of its own. -/
structure Linked (rows : Rows) : Prop where
  mapped : ∀ userId < rows.users.length, (userId, "global") ∈ mappingKeys rows
  owners : (rows.identities.map (·.userId)).Nodup

/-- The GitHub account of an identity row. -/
def LinkedTo (rows : Rows) (externalId : String) (userId : Nat) : Prop :=
  ∃ identity ∈ rows.identities, identity.provider = "github" ∧
    identity.externalUserId = externalId ∧ identity.userId = userId

/-- Every session cookie is of the user whose GitHub account logged in, or of a development
login. -/
def Vouched (settings : AuthSettings) (s : Store) : Prop :=
  ∀ issue ∈ s.issued, settings.DevAuth ∨
    ∃ externalId, issue.externalId = some externalId ∧
      LinkedTo s.rows externalId issue.principal.userId

/-- A cookie was set for the user. -/
def LoggedIn (userId : Nat) (s : Store) : Prop := ∃ issue ∈ s.issued, issue.principal.userId = userId

/-- The credentials of a request. -/
def Request.credentials : Request → Credentials
  | .githubCallback .. => {}
  | .developmentLogin .. => {}
  | .currentUser credentials => credentials
  | .guarded credentials _ => credentials
  | .updateRoleMapping credentials .. => credentials

/-- A cookie that is read as a principal was set for it: nobody else can sign one. -/
def Unforged (s : Store) (call : Call) : Prop :=
  ∀ cookie ∈ call.request.credentials.sessionCookie, ∀ principal,
    call.answers.readPrincipal cookie = .ok principal →
    ∃ issue ∈ s.issued, issue.cookie = cookie ∧ issue.principal = principal

/-- A failure that the code takes for impossible. -/
def Failure.Internal : Failure → Prop
  | .cloudWard error => error.statusCode = 500
  | .database => False
  | .multipleResults => True
  | .noResult => True

/-- What may become of the rows: nothing is removed, mappings keep their user, and what was
linked and vouched for stays so. -/
structure Advances (settings : AuthSettings) (s s' : Store) : Prop where
  users : s.rows.users.length ≤ s'.rows.users.length
  identities : s.rows.identities <+: s'.rows.identities
  keys : mappingKeys s.rows <+: mappingKeys s'.rows
  issued : s.issued <:+ s'.issued
  linked : Linked s.rows → Linked s'.rows
  vouched : Vouched settings s → Vouched settings s'

/-- The accounts, as requests leave them to one another. -/
def accounts (settings : AuthSettings) : Rely Store where
  may := Advances settings
  refl _ := ⟨Nat.le_refl _, List.prefix_rfl, List.prefix_rfl, List.suffix_rfl, id, id⟩
  trans h h' := ⟨Nat.le_trans h.users h'.users, h.identities.trans h'.identities, h.keys.trans h'.keys,
    h.issued.trans h'.issued, h'.linked ∘ h.linked, h'.vouched ∘ h.vouched⟩

section Commits

variable {settings : AuthSettings} {s s' t : Store} {userId : Nat} {role : Role}

theorem LinkedTo.later {externalId : String} (h : LinkedTo s.rows externalId userId)
    (hs : s.rows.identities <+: s'.rows.identities) : LinkedTo s'.rows externalId userId := by
  obtain ⟨identity, hidentity, hrest⟩ := h
  exact ⟨identity, hs.subset hidentity, hrest⟩

theorem LoggedIn.later (h : LoggedIn userId s) (hs : s.issued <:+ s'.issued) :
    LoggedIn userId s' := by
  obtain ⟨issue, hissue, huser⟩ := h
  exact ⟨issue, hs.subset hissue, huser⟩

/-- A commit that sets no cookie. -/
private theorem advances_commit (husers : s.rows.users.length ≤ t.rows.users.length)
    (hidentities : s.rows.identities <+: t.rows.identities)
    (hkeys : mappingKeys s.rows <+: mappingKeys t.rows) (hissued : t.issued = s.issued)
    (hlinked : Linked s.rows → Linked t.rows) : Advances settings s t where
  users := husers
  identities := hidentities
  keys := hkeys
  issued := hissued ▸ List.suffix_rfl
  linked := hlinked
  vouched := by
    intro h issue hissue
    rw [hissued] at hissue
    rcases h issue hissue with hdev | ⟨externalId, hexternal, hlink⟩
    · exact .inl hdev
    · exact .inr ⟨externalId, hexternal, hlink.later hidentities⟩

/-- A user who is created with a mapping. -/
private theorem mapped_insert {rows rows' : Rows} {user : User} {mapping : RoleMapping}
    (h : Linked rows) (husers : rows'.users = rows.users.insert user)
    (hmappings : rows'.mappings = rows.mappings.insert mapping)
    (hmapping : (mapping.userId, mapping.scope) = (rows.users.fresh, "global")) :
    ∀ id < rows'.users.length, (id, "global") ∈ mappingKeys rows' := by
  intro id hid
  rw [mappingKeys, hmappings, Table.insert, List.map_append, List.mem_append]
  rw [husers, Table.length_insert] at hid
  by_cases hlt : id < rows.users.length
  · exact .inl (h.mapped id hlt)
  · right
    have hfresh : id = rows.users.fresh := by
      unfold Table.fresh
      omega
    rw [List.map_singleton, hmapping, hfresh]
    exact List.mem_singleton_self _

private theorem advances_registered {github : GitHubIdentity} {id : Nat}
    (h : registered github s = .ok (id, t)) :
    Advances settings s t ∧ LinkedTo t.rows github.externalId id ∧ id < t.rows.users.length := by
  obtain ⟨rows, husers, hidentities, hmappings, hr⟩ := commit_map_eq_ok h
  cases hr
  refine ⟨advances_commit ?_ ?_ (prefix_keys_insert hmappings) rfl ?_, ?_, ?_⟩
  · show s.rows.users.length ≤ rows.users.length
    rw [husers, Table.length_insert]
    omega
  · show s.rows.identities <+: rows.identities
    rw [hidentities]
    exact List.prefix_append _ _
  · intro hlinked
    constructor
    · exact mapped_insert hlinked husers hmappings rfl
    · show (rows.identities.map (·.userId)).Nodup
      rw [hidentities, Table.insert, List.map_append, List.nodup_append]
      refine ⟨hlinked.owners, by simp, ?_⟩
      intro a ha b hb
      obtain ⟨identity, hidentity, rfl⟩ := List.mem_map.mp ha
      rw [List.map_singleton, List.mem_singleton] at hb
      have hlt := s.rows.constrained.identityUsers identity hidentity
      rw [hb]
      exact Nat.ne_of_lt hlt
  · refine ⟨⟨s.rows.users.fresh, "github", github.externalId, github.login⟩, ?_, rfl, rfl, rfl⟩
    show _ ∈ rows.identities
    rw [hidentities]
    exact List.mem_append_right _ (List.mem_singleton_self _)
  · show s.rows.users.fresh < rows.users.length
    rw [husers, Table.length_insert]
    exact Nat.lt_succ_self _

private theorem advances_refreshed {github : GitHubIdentity} {loaded : User} {id : Nat}
    (h : refreshed github userId loaded s = .ok (id, t)) : Advances settings s t ∧ id = userId := by
  obtain ⟨rows, husers, hidentities, hmappings, hr⟩ := commit_map_eq_ok h
  cases hr
  have hkeys : mappingKeys rows = mappingKeys s.rows := by
    unfold mappingKeys
    rw [hmappings]
  have hlength : rows.users.length = s.rows.users.length := by
    rw [husers, Table.length_update]
  refine ⟨advances_commit (Nat.le_of_eq hlength.symm) ?_ ?_ rfl ?_, rfl⟩
  · show s.rows.identities <+: rows.identities
    exact hidentities ▸ List.prefix_rfl
  · show mappingKeys s.rows <+: mappingKeys rows
    exact hkeys ▸ List.prefix_rfl
  · intro hlinked
    constructor
    · intro id hid
      show (id, "global") ∈ mappingKeys rows
      rw [hkeys]
      exact hlinked.mapped id (hlength ▸ hid)
    · show (rows.identities.map (·.userId)).Nodup
      rw [hidentities]
      exact hlinked.owners

private theorem advances_granted (settings : AuthSettings) {authority : Authority}
    {grantedBy : Option (Option Nat)} {loaded : Option (Nat × RoleMapping)} {id : Nat}
    (h : granted authority userId role grantedBy loaded s = .ok (id, t)) :
    Advances settings s t ∧
      ((∀ e ∈ loaded, e.1 < (mappingKeys s.rows).length) → id < (mappingKeys t.rows).length) := by
  obtain ⟨rows, husers, hidentities, hmappings, hr⟩ := commit_map_eq_ok h
  cases hr
  have hkeys : mappingKeys s.rows <+: mappingKeys rows ∧
      ((∀ e ∈ loaded, e.1 < (mappingKeys s.rows).length) →
        (loaded.map (·.1)).getD s.rows.mappings.fresh < (mappingKeys rows).length) := by
    cases loaded with
    | none =>
      refine ⟨prefix_keys_insert hmappings, fun _ ↦ ?_⟩
      rw [mappingKeys, hmappings, List.length_map, withMapping, Table.length_insert]
      exact Nat.lt_succ_self _
    | some e =>
      have hsame : mappingKeys rows = mappingKeys s.rows := by
        unfold mappingKeys
        rw [hmappings, withMapping, Table.map_update _ _ (f := withRole role grantedBy e.2) fun _ ↦ rfl]
      rw [hsame]
      exact ⟨List.prefix_rfl, fun he ↦ he e rfl⟩
  refine ⟨advances_commit ?_ ?_ hkeys.1 rfl ?_, hkeys.2⟩
  · show s.rows.users.length ≤ rows.users.length
    exact Nat.le_of_eq (congrArg List.length husers).symm
  · show s.rows.identities <+: rows.identities
    exact hidentities ▸ List.prefix_rfl
  · intro hlinked
    constructor
    · intro id hid
      change id < rows.users.length at hid
      rw [husers] at hid
      exact hkeys.1.subset (hlinked.mapped id hid)
    · show (rows.identities.map (·.userId)).Nodup
      rw [hidentities]
      exact hlinked.owners

private theorem advances_devRegistered {login : String} {id : Nat}
    (h : devRegistered login role s = .ok (id, t)) : Advances settings s t := by
  obtain ⟨rows, husers, hidentities, hmappings, hr⟩ := commit_map_eq_ok h
  cases hr
  refine advances_commit ?_ ?_ (prefix_keys_insert hmappings) rfl ?_
  · show s.rows.users.length ≤ rows.users.length
    rw [husers, Table.length_insert]
    omega
  · show s.rows.identities <+: rows.identities
    exact hidentities ▸ List.prefix_rfl
  · intro hlinked
    constructor
    · exact mapped_insert hlinked husers hmappings rfl
    · show (rows.identities.map (·.userId)).Nodup
      rw [hidentities]
      exact hlinked.owners

end Commits

/-! ### Lookups -/

section Lookups

variable {rows : Rows}

/-- A unique key finds one row at most. -/
private theorem scalarOneOrNone_of_nodup {α κ : Type} {t : Table α} {p : α → Bool} {key : α → κ}
    {k : κ} (h : (t.map key).Nodup) (hp : ∀ a, p a → key a = k) {e : Failure} :
    scalarOneOrNone (rowsWhere t p) ≠ .error e := by
  rcases rowsWhere_of_nodup h hp with hrows | ⟨row, hrows⟩
  · rw [hrows]
    rintro ⟨⟩
  · rw [hrows]
    rintro ⟨⟩

private theorem key_of_isGlobal {userId : Nat} {mapping : RoleMapping}
    (h : isGlobal userId mapping) : (mapping.userId, mapping.scope) = (userId, "global") := by
  simp only [isGlobal, decide_eq_true_eq] at h
  rw [h.1, h.2]

/-- Every user's role is found. -/
private theorem scalarOne_mapping (h : Linked rows) {userId : Nat}
    (huser : userId < rows.users.length) {e : Failure} :
    scalarOne (rowsWhere rows.mappings (isGlobal userId)) ≠ .error e := by
  rcases rowsWhere_of_nodup rows.constrained.scopes
    fun m (hm : isGlobal userId m) ↦ key_of_isGlobal hm with hrows | ⟨row, hrows⟩
  · obtain ⟨mapping, hmapping, hkey⟩ := List.mem_map.mp (h.mapped userId huser)
    obtain ⟨i, hi⟩ := List.mem_iff_getElem?.mp hmapping
    simp only [Prod.mk.injEq] at hkey
    have hmem : (i, mapping) ∈ rowsWhere rows.mappings (isGlobal userId) := by
      apply List.mem_map.mpr
      refine ⟨(mapping, i), List.mem_filter.mpr ⟨List.mem_zipIdx_iff_getElem?.mpr hi, ?_⟩, rfl⟩
      simp [isGlobal, hkey.1, hkey.2]
    rw [hrows] at hmem
    exact absurd hmem List.not_mem_nil
  · rw [hrows]
    rintro ⟨⟩

end Lookups

/-! ### Endpoints -/

section Requests

variable {settings : AuthSettings} {s s' : Store} {answers : Answers} {userId : Nat}

/-- A request that fails only as it may. -/
private abbrev SafeIn {α : Type} (settings : AuthSettings) (P : α → Store → Prop) (p : Program α)
    (s : Store) : Prop :=
  p.Safe (accounts settings) (Ends (fun e ↦ ¬ e.Internal) P) s

private theorem not_internal_database : ¬ Failure.Internal .database := id

private theorem not_internal_refusal (e : Refusal) : ¬ Failure.Internal (.cloudWard e.1) := by
  intro h
  have hmem := e.2
  rw [show e.1.statusCode = 500 from h] at hmem
  simp at hmem

/-- What is known of a principal: where no cookie is forged, one was set for it. -/
private def Known (unforged : Prop) (p : Principal) (s : Store) : Prop :=
  unforged → p.persisted → LoggedIn p.userId s

private theorem userId_storedPrincipal {rows : Rows} {p : Principal}
    (h : storedPrincipal rows userId = some p) : p.userId = userId := by
  obtain ⟨user, -, h⟩ := Option.bind_eq_some_iff.mp h
  obtain ⟨mapping, -, rfl⟩ := Option.map_eq_some_iff.mp h
  rfl

private theorem safeIn_getCurrentPrincipal (unforged : Prop) (credentials : Credentials)
    (hunforged : unforged → ∀ cookie ∈ credentials.sessionCookie, ∀ principal,
      answers.readPrincipal cookie = .ok principal →
      ∃ issue ∈ s.issued, issue.cookie = cookie ∧ issue.principal = principal) :
    SafeIn settings (Known unforged) (getCurrentPrincipal settings answers credentials) s := by
  unfold getCurrentPrincipal
  split
  · unfold devPrincipal
    split
    · split
      · exact ends_throw (by simp [Failure.Internal])
      · exact ends_pure fun _ _ _ h ↦ absurd h Bool.false_ne_true
    · exact ends_throw (by simp [Failure.Internal])
  · split
    · exact ends_throw (by simp [Failure.Internal])
    · next cookie hcookie =>
      have hsent := (Option.filter_eq_some_iff.mp hcookie).1
      apply ends_bind (P := fun signed _ ↦ answers.readPrincipal cookie = .ok signed)
      · exact ends_answered not_internal_refusal fun _ h _ _ ↦ h
      intro signed s₁ h₁ hsigned
      apply ends_bind (P := fun row _ ↦ ∀ p, row = some p → p.userId = signed.userId)
      · apply ends_select not_internal_database
        · intro _ _ e he
          cases he
        · intro s₂ h₂ row hrow s₃ h₃ p hp
          cases hrow
          exact userId_storedPrincipal hp
      intro row s₂ h₂ hrow
      cases row with
      | none => exact ends_throw (by simp [Failure.Internal])
      | some p =>
        apply ends_pure
        intro s₃ h₃ h _
        obtain ⟨issue, hissue, -, hprincipal⟩ := hunforged h cookie hsent signed hsigned
        have hlogged : LoggedIn p.userId s := by
          refine ⟨issue, hissue, ?_⟩
          rw [hprincipal, hrow p rfl]
        exact ((hlogged.later h₁.issued).later h₂.issued).later h₃.issued

private theorem safeIn_requirePermission (unforged : Prop) (credentials : Credentials)
    (permission : Permission)
    (hunforged : unforged → ∀ cookie ∈ credentials.sessionCookie, ∀ principal,
      answers.readPrincipal cookie = .ok principal →
      ∃ issue ∈ s.issued, issue.cookie = cookie ∧ issue.principal = principal) :
    SafeIn settings (Known unforged) (requirePermission settings answers credentials permission)
      s := by
  apply ends_bind (safeIn_getCurrentPrincipal unforged credentials hunforged)
  intro p s₁ h₁ hp
  apply Resumption.safe_ite
  · intro _
    exact ends_pure fun s₂ h₂ h hpersisted ↦ (hp h hpersisted).later h₂.issued
  · intro _
    exact ends_throw (by simp [Failure.Internal])

/-- A cookie is set for a user who is linked, or by a development login. -/
private theorem safeIn_setSessionCookie {p : Principal} {externalId : Option String}
    (h : settings.DevAuth ∨ ∃ external, externalId = some external ∧
      LinkedTo s.rows external p.userId) :
    SafeIn settings (fun r _ ↦ ∃ p, r = .session p) (setSessionCookie answers p externalId) s := by
  apply Resumption.safe_change
  · intro s₁ h₁ r t ht
    cases ht
    refine ⟨?_, fun _ _ ↦ ⟨p, rfl⟩⟩
    constructor
    · exact Nat.le_refl _
    · exact List.prefix_rfl
    · exact List.prefix_rfl
    · exact List.suffix_cons _ _
    · exact id
    · intro hvouched issue hissue
      rcases List.mem_cons.mp hissue with rfl | hold
      · rcases h with hdev | ⟨external, hexternal, hlink⟩
        · exact .inl hdev
        · exact .inr ⟨external, hexternal, hlink.later h₁.identities⟩
      · exact hvouched issue hold
  · intro s₁ h₁ e he
    cases he

private theorem safeIn_selectMapping (n : Nat) :
    SafeIn settings (fun loaded s' ↦ ∀ e ∈ loaded, e.1 < (mappingKeys s'.rows).length)
      (select answers n fun rows ↦ scalarOneOrNone (rowsWhere rows.mappings (isGlobal userId)))
      s := by
  apply ends_select not_internal_database
  · intro s₁ _ e he
    exact absurd he (scalarOneOrNone_of_nodup s₁.rows.constrained.scopes
      fun m (hm : isGlobal userId m) ↦ key_of_isGlobal hm)
  · rintro s₁ h₁ loaded hloaded s₂ h₂ e rfl
    have hrow := (of_mem_rowsWhere (mem_of_scalarOneOrNone hloaded)).1
    have hlt : e.1 < s₁.rows.mappings.length := (List.getElem?_eq_some_iff.mp hrow).1
    have hlength := h₂.keys.length_le
    simp only [mappingKeys, List.length_map] at hlength ⊢
    omega

private theorem safeIn_accountOf (github : GitHubIdentity) :
    SafeIn settings (fun id s' ↦ LinkedTo s'.rows github.externalId id ∧
      id < s'.rows.users.length) (accountOf answers github) s := by
  apply ends_bind (P := fun found s' ↦ ∀ e ∈ found,
    LinkedTo s'.rows github.externalId e.2.userId ∧ e.2.userId < s'.rows.users.length)
  · apply ends_select not_internal_database
    · intro s₁ _ e he
      refine absurd he (scalarOneOrNone_of_nodup s₁.rows.constrained.externals
        (k := ("github", github.externalId)) ?_)
      intro i hi
      simp only [decide_eq_true_eq] at hi
      rw [hi.1, hi.2]
    · rintro s₁ h₁ found hfound s₂ h₂ e rfl
      obtain ⟨hrow, he⟩ := of_mem_rowsWhere (mem_of_scalarOneOrNone hfound)
      simp only [decide_eq_true_eq] at he
      have hmem := List.mem_of_getElem? hrow
      have hlink : LinkedTo s₁.rows github.externalId e.2.userId := ⟨e.2, hmem, he.1, he.2, rfl⟩
      exact ⟨hlink.later h₂.identities,
        Nat.lt_of_lt_of_le (s₁.rows.constrained.identityUsers e.2 hmem) h₂.users⟩
  intro found s₁ h₁ hfound
  have hcommits {f : Store → Except Failure (Nat × Store)} (n : Nat)
      (herror : ∀ s e, f s = .error e → e = .database)
      (h : ∀ s', Advances settings s₁ s' → ∀ id t, f s' = .ok (id, t) → Advances settings s' t ∧
        LinkedTo t.rows github.externalId id ∧ id < t.rows.users.length) :
      SafeIn settings (fun id s' ↦ LinkedTo s'.rows github.externalId id ∧
        id < s'.rows.users.length) (commit answers n f) s₁ := by
    apply ends_commit not_internal_database
    · intro s' _ e he
      rw [herror s' e he]
      exact not_internal_database
    · intro s' hs' id t ht
      obtain ⟨hadvances, hlink, hlt⟩ := h s' hs' id t ht
      exact ⟨hadvances, fun t' ht' ↦ ⟨hlink.later ht'.identities, Nat.lt_of_lt_of_le hlt ht'.users⟩⟩
  cases found with
  | none =>
    exact hcommits 1 (fun _ _ he ↦ commit_map_eq_error he) fun _ _ _ _ ht ↦ advances_registered ht
  | some e =>
    obtain ⟨hlink, hlt⟩ := hfound e rfl
    apply ends_bind (P := fun user s' ↦ user.isSome ∧ Advances settings s₁ s')
    · apply ends_select not_internal_database
      · intro _ _ _ he
        cases he
      · intro s₂ h₂ user huser s₃ h₃
        cases huser
        have hlt₂ : e.2.userId < s₂.rows.users.length := Nat.lt_of_lt_of_le hlt h₂.users
        refine ⟨?_, (accounts settings).trans h₂ h₃⟩
        rw [List.getElem?_eq_getElem hlt₂]
        rfl
    rintro user s₂ h₂ ⟨huser, h₁₂⟩
    cases user with
    | none => cases huser
    | some loaded =>
      apply (hcommits 3 (fun _ _ he ↦ commit_map_eq_error he) ?_).later h₁₂
      intro s₃ h₃ id t ht
      obtain ⟨hadvances, rfl⟩ := advances_refreshed ht
      have hmay := (accounts settings).trans h₃ hadvances
      exact ⟨hadvances, hlink.later hmay.identities, Nat.lt_of_lt_of_le hlt hmay.users⟩

private theorem safeIn_githubCallback (hlinked : Linked s.rows) (code state : String)
    (stateCookie : Option String) :
    SafeIn settings (fun r _ ↦ ∃ p, r = .session p)
      (githubCallback answers code state stateCookie) s := by
  apply ends_bind (P := fun _ _ ↦ True)
  · exact ends_require (by simp [Failure.Internal]) fun _ _ _ ↦ trivial
  intro _ s₁ h₁ _
  apply ends_bind (P := fun _ _ ↦ True)
  · exact ends_answered not_internal_refusal fun _ _ _ _ ↦ trivial
  intro _ s₂ h₂ _
  apply ends_bind (P := fun _ _ ↦ True)
  · exact ends_answered not_internal_refusal fun _ _ _ _ ↦ trivial
  intro github s₃ h₃ _
  apply ends_bind (safeIn_accountOf github)
  rintro id s₄ h₄ ⟨hlink, hlt⟩
  have hlinked₄ := h₄.linked (h₃.linked (h₂.linked (h₁.linked hlinked)))
  apply ends_bind (P := fun _ s' ↦ LinkedTo s'.rows github.externalId id)
  · apply ends_select not_internal_database
    · intro s₅ h₅ e he
      exact absurd he (scalarOne_mapping (h₅.linked hlinked₄) (Nat.lt_of_lt_of_le hlt h₅.users))
    · intro s₅ h₅ _ _ s₆ h₆
      exact (hlink.later h₅.identities).later h₆.identities
  intro mapping s₅ h₅ hlink₅
  exact safeIn_setSessionCookie (.inr ⟨github.externalId, rfl, hlink₅⟩)

private theorem safeIn_granted (n : Nat) {authority : Authority} {role : Role}
    {grantedBy : Option (Option Nat)} {loaded : Option (Nat × RoleMapping)}
    (hloaded : ∀ e ∈ loaded, e.1 < (mappingKeys s.rows).length) :
    SafeIn settings (fun id s' ↦ id < (mappingKeys s'.rows).length)
      (commit answers n (granted authority userId role grantedBy loaded)) s := by
  apply ends_commit not_internal_database
  · intro s₁ _ e he
    rw [commit_map_eq_error he]
    exact not_internal_database
  · intro s₁ h₁ id t ht
    obtain ⟨hadvances, hid⟩ := advances_granted settings ht
    refine ⟨hadvances, ?_⟩
    intro s₂ h₂
    have hlt := hid fun e he ↦ Nat.lt_of_lt_of_le (hloaded e he) h₁.keys.length_le
    exact Nat.lt_of_lt_of_le hlt h₂.keys.length_le

private theorem safeIn_developmentLogin (login : String) (role : Role) :
    SafeIn settings (fun r _ ↦ ∃ p, r = .session p)
      (developmentLogin settings answers login role) s := by
  apply ends_bind (P := fun _ _ ↦ settings.DevAuth)
  · exact ends_require (by simp [Failure.Internal]) fun hdev _ _ ↦ hdev
  intro _ s₁ h₁ hdev
  apply ends_bind (P := fun _ _ ↦ True)
  · apply ends_select not_internal_database
    · intro s₂ _ e he
      refine absurd he (scalarOneOrNone_of_nodup s₂.rows.constrained.logins (k := login) ?_)
      intro user huser
      exact of_decide_eq_true huser
    · exact fun _ _ _ _ _ _ ↦ trivial
  intro user s₂ h₂ _
  cases user with
  | none =>
    apply ends_bind (P := fun _ _ ↦ True)
    · apply ends_commit not_internal_database
      · intro s₃ _ e he
        rw [commit_map_eq_error he]
        exact not_internal_database
      · exact fun _ _ _ _ ht ↦ ⟨advances_devRegistered ht, fun _ _ ↦ trivial⟩
    intro id s₃ h₃ _
    exact safeIn_setSessionCookie (.inl hdev)
  | some e =>
    apply ends_bind (safeIn_selectMapping 2)
    intro loaded s₃ h₃ hloaded
    apply ends_bind (safeIn_granted 3 hloaded)
    intro id s₄ h₄ _
    exact safeIn_setSessionCookie (.inl hdev)

private theorem safeIn_updateRoleMapping (credentials : Credentials) (userId : Nat) (role : Role) :
    SafeIn settings (fun r _ ↦ ∃ m, r = .mapping m)
      (updateRoleMapping settings answers credentials userId role) s := by
  apply ends_bind (safeIn_requirePermission False credentials .roleManage False.elim)
  intro p s₁ h₁ _
  apply ends_bind (P := fun _ _ ↦ True)
  · apply ends_select not_internal_database
    · intro _ _ _ he
      cases he
    · exact fun _ _ _ _ _ _ ↦ trivial
  intro user s₂ h₂ _
  cases user with
  | none => exact ends_throw (by simp [Failure.Internal])
  | some user =>
    apply ends_bind (safeIn_selectMapping 2)
    intro loaded s₃ h₃ hloaded
    apply ends_bind (safeIn_granted 3 hloaded)
    intro id s₄ h₄ hid
    apply ends_bind (P := fun row _ ↦ row.isSome)
    · apply ends_select not_internal_database
      · intro _ _ _ he
        cases he
      · intro s₅ h₅ row hrow _ _
        cases hrow
        have hlt : id < s₅.rows.mappings.length := by
          have hlt := Nat.lt_of_lt_of_le hid h₅.keys.length_le
          rwa [mappingKeys, List.length_map] at hlt
        rw [List.getElem?_eq_getElem hlt]
        rfl
    intro row s₅ h₅ hrow
    cases row with
    | none => cases hrow
    | some m => exact ends_pure fun _ _ ↦ ⟨m, rfl⟩

/-- What a response says of its user. -/
private def Answered (unforged : Prop) : Response → Store → Prop
  | .principal p, s => Known unforged p s
  | _, _ => True

private theorem safeIn_program (unforged : Prop) (hlinked : Linked s.rows) (call : Call)
    (hunforged : unforged → Unforged s call) :
    SafeIn settings (Answered unforged) (program settings call) s := by
  have hsession {p : Program Response} (h : SafeIn settings (fun r _ ↦ ∃ p, r = .session p) p s) :
      SafeIn settings (Answered unforged) p s := by
    apply h.mono
    intro r s' _ hr
    cases r with
    | error e => exact hr
    | ok r =>
      obtain ⟨p, rfl⟩ := hr
      trivial
  rcases call with ⟨request, answers⟩
  cases request with
  | githubCallback code state stateCookie =>
    exact hsession (safeIn_githubCallback hlinked code state stateCookie)
  | developmentLogin login role => exact hsession (safeIn_developmentLogin login role)
  | currentUser credentials =>
    apply ends_bind (safeIn_getCurrentPrincipal unforged credentials hunforged)
    intro p s₁ h₁ hp
    exact ends_pure fun s₂ h₂ h hpersisted ↦ (hp h hpersisted).later h₂.issued
  | guarded credentials permission =>
    apply ends_bind (safeIn_requirePermission unforged credentials permission hunforged)
    intro p s₁ h₁ hp
    exact ends_pure fun s₂ h₂ h hpersisted ↦ (hp h hpersisted).later h₂.issued
  | updateRoleMapping credentials userId role =>
    apply (safeIn_updateRoleMapping credentials userId role).mono
    intro r s' _ hr
    cases r with
    | error e => exact hr
    | ok r =>
      obtain ⟨m, rfl⟩ := hr
      trivial

end Requests

/-! ### Runs -/

/-- The answers to the requests of one GitHub account. -/
def octocat : Answers where
  exchange _ := .ok ⟨"583231", "octocat", none, none, none⟩
  readOauthState _ := .ok ()
  readPrincipal cookie :=
    if cookie = "signed" then .ok ⟨0, "octocat", .viewer, true⟩
    else .error ⟨⟨"INVALID_SESSION", "Authentication session is invalid or expired", 401⟩,
      by simp⟩
  signPrincipal _ := "signed"
  uuid5 _ := 0

/-- A first login, and a request with its cookie. -/
def firstLogin : List (Move Call) :=
  [.start ⟨.githubCallback "code" "state" (some "state"), octocat⟩, .advance 0, .advance 0,
    .advance 0, .advance 0, .start ⟨.currentUser { sessionCookie := some "signed" }, octocat⟩,
    .advance 1]

private theorem linked_nil : Linked .empty where
  mapped _ h := absurd h (Nat.not_lt_zero _)
  owners := List.nodup_nil

private theorem served_firstLogin :
    (serve {} .empty firstLogin).threads[1]? =
      some (.done (.ok (.principal ⟨0, "octocat", .viewer, true⟩))) := by
  rfl

private theorem unforged_firstLogin :
    Runs.Along (Pool.move (program {})) (Admits Unforged) ⟨{ rows := .empty }, []⟩ firstLogin := by
  refine ⟨?_, trivial, trivial, trivial, trivial, ?_, trivial, trivial⟩
  · rintro cookie ⟨⟩
  · rintro cookie hcookie principal hprincipal
    cases hcookie
    cases hprincipal
    exact ⟨⟨"signed", ⟨0, "octocat", .viewer, true⟩, some "583231"⟩, List.mem_singleton_self _,
      rfl, rfl⟩

end CloudWard.Auth
