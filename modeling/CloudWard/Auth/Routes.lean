import CloudWard.Base.Errors
import CloudWard.Logic.Interleave
import CloudWard.Rbac.Policy

/-!
# Users, sessions and roles

`auth/dependencies.py`, `auth/routes.py`, `api/roles.py` and the tables they write,
`db/models.py:130`. A request is a program over the committed rows whose statements interleave
with those of other requests; the rows carry the constraints of the schema, and a commit that
would break one fails. `grants` and `issued` record who set which role and which session cookies
were set; no request reads them. Tokens are signed outside this code and the OAuth exchange is
the provider's, so both are answers to a request.
-/

namespace CloudWard.Auth

open CloudWard.Logic CloudWard.Logic.Interleave CloudWard.Rbac

/-! ### Rows -/

/-- `User`, `db/models.py:130`; its identity is its position. -/
structure User where
  githubLogin : String
  displayName : Option String := none
  email : Option String := none
  avatarUrl : Option String := none
  active : Bool := true
deriving DecidableEq

/-- `OAuthIdentity`, `db/models.py:145`. -/
structure OAuthIdentity where
  userId : Nat
  provider : String
  externalUserId : String
  providerLogin : String
deriving DecidableEq

/-- `RoleMapping`, `db/models.py:159`. -/
structure RoleMapping where
  userId : Nat
  role : Role
  scope : String := "global"
  grantedBy : Option Nat := none
deriving DecidableEq

/-- The unique constraints and the foreign keys of the three tables. -/
structure Constrained (users : Table User) (identities : Table OAuthIdentity)
    (mappings : Table RoleMapping) : Prop where
  logins : (users.map (·.githubLogin)).Nodup
  externals : (identities.map fun i ↦ (i.provider, i.externalUserId)).Nodup
  scopes : (mappings.map fun m ↦ (m.userId, m.scope)).Nodup
  identityUsers : ∀ i ∈ identities, i.userId < users.length
  mappingUsers : ∀ m ∈ mappings, m.userId < users.length
  granters : ∀ m ∈ mappings, ∀ granter ∈ m.grantedBy, granter < users.length

private theorem constrained_iff (users : Table User) (identities : Table OAuthIdentity)
    (mappings : Table RoleMapping) :
    ((users.map (·.githubLogin)).Nodup ∧
      (identities.map fun i ↦ (i.provider, i.externalUserId)).Nodup ∧
      (mappings.map fun m ↦ (m.userId, m.scope)).Nodup ∧
      (∀ i ∈ identities, i.userId < users.length) ∧
      (∀ m ∈ mappings, m.userId < users.length) ∧
      ∀ m ∈ mappings, ∀ granter ∈ m.grantedBy, granter < users.length) ↔
      Constrained users identities mappings := by
  constructor
  · rintro ⟨h1, h2, h3, h4, h5, h6⟩
    exact ⟨h1, h2, h3, h4, h5, h6⟩
  · intro h
    exact ⟨h.logins, h.externals, h.scopes, h.identityUsers, h.mappingUsers, h.granters⟩

instance decidableConstrained (users : Table User) (identities : Table OAuthIdentity)
    (mappings : Table RoleMapping) : Decidable (Constrained users identities mappings) :=
  decidable_of_iff _ (constrained_iff users identities mappings)

private theorem constrained_nil : Constrained [] [] [] where
  logins := List.nodup_nil
  externals := List.nodup_nil
  scopes := List.nodup_nil
  identityUsers _ h := absurd h List.not_mem_nil
  mappingUsers _ h := absurd h List.not_mem_nil
  granters _ h := absurd h List.not_mem_nil

/-- The committed rows, which meet the constraints. -/
structure Rows where
  users : Table User
  identities : Table OAuthIdentity
  mappings : Table RoleMapping
  constrained : Constrained users identities mappings

/-- No rows. -/
def Rows.empty : Rows := ⟨[], [], [], constrained_nil⟩

/-- What a request can end with instead of a response. -/
inductive Failure
  | cloudWard (error : CloudWardError)
  | database
  | multipleResults
  | noResult
deriving DecidableEq

/-- The rows of a commit, if they meet the constraints. -/
def Rows.commit (users : Table User) (identities : Table OAuthIdentity)
    (mappings : Table RoleMapping) : Except Failure Rows :=
  if h : Constrained users identities mappings then .ok ⟨users, identities, mappings, h⟩
  else .error .database

/-- What a commit that succeeds leaves. -/
theorem commit_map_eq_ok {β : Type} {users : Table User} {identities : Table OAuthIdentity}
    {mappings : Table RoleMapping} {f : Rows → β} {b : β}
    (h : (Rows.commit users identities mappings).map f = .ok b) :
    ∃ rows : Rows, rows.users = users ∧ rows.identities = identities ∧ rows.mappings = mappings ∧
      b = f rows := by
  unfold Rows.commit at h
  split at h
  · next hvalid =>
    cases h
    exact ⟨⟨users, identities, mappings, hvalid⟩, rfl, rfl, rfl, rfl⟩
  · cases h

/-- A commit that fails is a failure of the database. -/
theorem commit_map_eq_error {β : Type} {users : Table User} {identities : Table OAuthIdentity}
    {mappings : Table RoleMapping} {f : Rows → β} {e : Failure}
    (h : (Rows.commit users identities mappings).map f = .error e) : e = .database := by
  unfold Rows.commit at h
  split at h
  · cases h
  · cases h
    rfl

/-! ### Requests -/

/-- The fields of `Settings`, `config.py:69`, that authentication reads. -/
structure AuthSettings where
  appEnv : String := "development"
  devAuthEnabled : Bool := false
  validated : appEnv ∈ ["staging", "production"] → devAuthEnabled = false := by decide

/-- `settings.dev_auth_enabled and settings.app_env in {"development", "test"}`. -/
def AuthSettings.DevAuth (settings : AuthSettings) : Prop :=
  settings.devAuthEnabled ∧ settings.appEnv ∈ ["development", "test"]

instance AuthSettings.decidableDevAuth (settings : AuthSettings) : Decidable settings.DevAuth :=
  inferInstanceAs (Decidable (_ ∧ _))

/-- `Principal`, `auth/schemas.py:10`. -/
structure Principal where
  userId : Nat
  login : String
  role : Role
  persisted : Bool := true
deriving DecidableEq

/-- `GitHubIdentity`, `github/oauth.py:20`. -/
structure GitHubIdentity where
  externalId : String
  login : String
  name : Option String
  email : Option String
  avatarUrl : Option String
deriving DecidableEq

/-- The cookie and the headers of a request. -/
structure Credentials where
  sessionCookie : Option String := none
  devUser : Option String := none
  devRole : Option String := none

/-- The modelled endpoints; `guarded` is any endpoint behind `require_permission`. -/
inductive Request
  | githubCallback (code state : String) (stateCookie : Option String)
  | developmentLogin (login : String) (role : Role)
  | currentUser (credentials : Credentials)
  | guarded (credentials : Credentials) (permission : Permission)
  | updateRoleMapping (credentials : Credentials) (userId : Nat) (role : Role)

/-- The errors of `github/oauth.py` and `auth/session.py`. -/
abbrev Refusal : Type := { error : CloudWardError // error.statusCode ∈ [400, 401, 503] }

/-- What a request is answered by outside this code. -/
structure Answers where
  /-- Whether the n-th statement of the request fails. -/
  database : Nat → Bool := fun _ ↦ false
  /-- `GitHubOAuthClient.exchange`. -/
  exchange : String → Except Refusal GitHubIdentity
  readOauthState : String → Except Refusal Unit
  readPrincipal : String → Except Refusal Principal
  signPrincipal : Principal → String
  /-- `uuid.uuid5` of a development user. -/
  uuid5 : String → Nat

/-- A request with its answers. -/
structure Call where
  request : Request
  answers : Answers

/-- What a request answers. -/
inductive Response
  | session (principal : Principal)
  | principal (principal : Principal)
  | mapping (mapping : RoleMapping)
deriving DecidableEq

/-! ### The store -/

/-- By what a role is set. -/
inductive Authority
  | principal (principal : Principal)
  | developmentLogin

/-- A role that was set. -/
structure Grant where
  authority : Authority
  userId : Nat
  role : Role

/-- A session cookie that was set, for the account that a provider vouched for. -/
structure Issue where
  cookie : String
  principal : Principal
  externalId : Option String

/-- The committed rows, and what was granted and issued, newest first. -/
structure Store where
  rows : Rows
  grants : List Grant := []
  issued : List Issue := []

/-- A request in flight. -/
abbrev Program : Type → Type := Resumption Store Failure

/-! ### Statements -/

/-- `result.scalar_one_or_none()`. -/
def scalarOneOrNone {α : Type} : List α → Except Failure (Option α)
  | [] => .ok none
  | [a] => .ok (some a)
  | _ => .error .multipleResults

/-- `result.scalar_one()`. -/
def scalarOne {α : Type} : List α → Except Failure α
  | [] => .error .noResult
  | [a] => .ok a
  | _ => .error .multipleResults

/-- The rows of a kind, with their identities. -/
def rowsWhere {α : Type} (t : Table α) (p : α → Bool) : List (Nat × α) :=
  (t.zipIdx.filter fun e ↦ p e.1).map fun e ↦ (e.2, e.1)

/-- The n-th statement of a request reads the committed rows. -/
def select {α : Type} (answers : Answers) (n : Nat) (f : Rows → Except Failure α) :
    Program α :=
  .read fun s ↦ if answers.database n then .error .database else f s.rows

/-- The n-th statement of a request, a commit of what its session holds. -/
def commit {α : Type} (answers : Answers) (n : Nat) (f : Store → Except Failure (α × Store)) :
    Program α :=
  .change fun s ↦ if answers.database n then .error .database else f s

/-- The value of a column after `UPDATE`: only a value other than the loaded one is written. -/
def written {α : Type} [DecidableEq α] (loaded new current : α) : α :=
  if new = loaded then current else new

/-- `raise CloudWardError(...)`. -/
def raise {α : Type} (error : CloudWardError) : Program α := .throw (.cloudWard error)

/-- Continue with an answer, or raise its error. -/
def answered {α : Type} (x : Except Refusal α) : Program α :=
  .ofExcept (x.mapError fun e ↦ .cloudWard e.1)

/-! ### Principals -/

/-- The values of `Role`, `rbac/policy.py:13`. -/
def roleValue : Role → String
  | .viewer => "Viewer"
  | .operator => "Operator"
  | .admin => "Admin"

/-- `Role(value)`. -/
def roleOfValue (value : String) : Option Role :=
  [Role.viewer, .operator, .admin].find? (roleValue · = value)

/-- The values of `Permission`, `rbac/policy.py:19`. -/
def permissionValue : Permission → String
  | .platformRead => "platform:read"
  | .incidentRead => "incident:read"
  | .auditRead => "audit:read"
  | .incidentCreate => "incident:create"
  | .actionApproveStandard => "action:approve-standard"
  | .actionReject => "action:reject"
  | .demoTrigger => "demo:trigger"
  | .roleManage => "role:manage"
  | .settingsManage => "settings:manage"
  | .policyManage => "policy:manage"
  | .actionApproveHigherRisk => "action:approve-higher-risk"

/-- The mappings that count for a user. -/
def isGlobal (userId : Nat) (mapping : RoleMapping) : Bool :=
  mapping.userId = userId ∧ mapping.scope = "global"

/-- The row of the join in `get_current_principal`, `auth/dependencies.py:54`, as a principal. -/
def storedPrincipal (rows : Rows) (userId : Nat) : Option Principal :=
  (rows.users[userId]?.filter (·.active)).bind fun user ↦
    (rows.mappings.find? (isGlobal userId)).map fun mapping ↦
      { userId, login := user.githubLogin, role := mapping.role }

/-- The principal of the development headers, `auth/dependencies.py:27`. -/
def devPrincipal (settings : AuthSettings) (answers : Answers) (credentials : Credentials)
    (login : String) : Program Principal :=
  if settings.DevAuth then
    match roleOfValue ((credentials.devRole.filter (· ≠ "")).getD (roleValue .operator)) with
    | none => raise ⟨"INVALID_ROLE", "Unknown development role", 401⟩
    | some role => pure { userId := answers.uuid5 login, login, role, persisted := false }
  else raise ⟨"DEV_AUTH_DISABLED", "Development authentication is disabled", 401⟩

/-- `get_current_principal`, `auth/dependencies.py:19`. -/
def getCurrentPrincipal (settings : AuthSettings) (answers : Answers)
    (credentials : Credentials) : Program Principal :=
  match credentials.devUser with
  | some login => devPrincipal settings answers credentials login
  | none =>
    match credentials.sessionCookie.filter (· ≠ "") with
    | none => raise ⟨"AUTHENTICATION_REQUIRED", "Authentication is required", 401⟩
    | some cookie => do
      let signed ← answered (answers.readPrincipal cookie)
      let row ← select answers 0 fun rows ↦ .ok (storedPrincipal rows signed.userId)
      match row with
      | none => raise ⟨"INVALID_SESSION", "User or role mapping no longer exists", 401⟩
      | some principal => pure principal

/-- `require_permission`, `rbac/policy.py:57`. -/
def requirePermission (settings : AuthSettings) (answers : Answers) (credentials : Credentials)
    (permission : Permission) : Program Principal := do
  let principal ← getCurrentPrincipal settings answers credentials
  if hasPermission principal.role permission then pure principal
  else raise ⟨"FORBIDDEN", s!"Role {roleValue principal.role} lacks permission " ++
    permissionValue permission, 403⟩

/-! ### Endpoints -/

/-- The session cookie of a response, `auth/routes.py:27`. -/
def setSessionCookie (answers : Answers) (principal : Principal) (externalId : Option String) :
    Program Response :=
  .change fun s ↦ .ok (.session principal,
    { s with issued := ⟨answers.signPrincipal principal, principal, externalId⟩ :: s.issued })

/-- A first login, `auth/routes.py:81`, with the identity of the new user. -/
def registered (github : GitHubIdentity) (s : Store) : Except Failure (Nat × Store) :=
  let userId := s.rows.users.fresh
  (Rows.commit
    (s.rows.users.insert
      { githubLogin := github.login, displayName := github.name, email := github.email,
        avatarUrl := github.avatarUrl })
    (s.rows.identities.insert ⟨userId, "github", github.externalId, github.login⟩)
    (s.rows.mappings.insert { userId, role := .viewer })).map fun rows ↦
  (userId, { s with rows })

/-- The profile columns of a later login, `auth/routes.py:102`. -/
def withProfile (github : GitHubIdentity) (loaded user : User) : User :=
  { user with
    githubLogin := written loaded.githubLogin github.login user.githubLogin
    displayName := written loaded.displayName github.name user.displayName
    email := written loaded.email github.email user.email
    avatarUrl := written loaded.avatarUrl github.avatarUrl user.avatarUrl }

/-- A later login, `auth/routes.py:98`. -/
def refreshed (github : GitHubIdentity) (userId : Nat) (loaded : User) (s : Store) :
    Except Failure (Nat × Store) :=
  (Rows.commit (s.rows.users.update userId (withProfile github loaded))
    s.rows.identities s.rows.mappings).map fun rows ↦ (userId, { s with rows })

/-- The account of a GitHub identity, `auth/routes.py:73` to `106`. -/
def accountOf (answers : Answers) (github : GitHubIdentity) : Program Nat := do
  let identity ← select answers 0 fun rows ↦ scalarOneOrNone <| rowsWhere rows.identities
    fun i ↦ i.provider = "github" ∧ i.externalUserId = github.externalId
  match identity with
  | none => commit answers 1 (registered github)
  | some (_, identity) => do
    let user ← select answers 2 fun rows ↦ .ok rows.users[identity.userId]?
    match user with
    | none => raise ⟨"INVALID_IDENTITY", "OAuth identity has no user", 500⟩
    | some loaded => commit answers 3 (refreshed github identity.userId loaded)

/-- `github_callback`, `auth/routes.py:61`. -/
def githubCallback (answers : Answers) (code state : String) (stateCookie : Option String) :
    Program Response := do
  Resumption.require (stateCookie = some state)
    (.cloudWard ⟨"INVALID_OAUTH_STATE", "OAuth state does not match", 401⟩)
  answered (answers.readOauthState state)
  let github ← answered (answers.exchange code)
  let userId ← accountOf answers github
  let mapping ← select answers 4 fun rows ↦ scalarOne (rowsWhere rows.mappings (isGlobal userId))
  setSessionCookie answers { userId, login := github.login, role := mapping.2.role }
    (some github.externalId)

/-- The columns of a mapping that a request sets; a development login leaves the granter. -/
def withRole (role : Role) (grantedBy : Option (Option Nat)) (loaded mapping : RoleMapping) :
    RoleMapping :=
  { mapping with
    role := written loaded.role role mapping.role
    grantedBy := match grantedBy with
      | none => mapping.grantedBy
      | some granter => written loaded.grantedBy granter mapping.grantedBy }

/-- The mapping that a request sets, `auth/routes.py:149` and `api/roles.py:61`; `loaded` is what
its session has read. -/
def withMapping (userId : Nat) (role : Role) (grantedBy : Option (Option Nat))
    (loaded : Option (Nat × RoleMapping)) (mappings : Table RoleMapping) : Table RoleMapping :=
  match loaded with
  | none => mappings.insert { userId, role, grantedBy := grantedBy.join }
  | some (id, loaded) => mappings.update id (withRole role grantedBy loaded)

/-- The commit of a mapping, with the identity of its row. -/
def granted (authority : Authority) (userId : Nat) (role : Role)
    (grantedBy : Option (Option Nat)) (loaded : Option (Nat × RoleMapping)) (s : Store) :
    Except Failure (Nat × Store) :=
  (Rows.commit s.rows.users s.rows.identities
    (withMapping userId role grantedBy loaded s.rows.mappings)).map fun rows ↦
  ((loaded.map (·.1)).getD s.rows.mappings.fresh,
    { s with rows, grants := ⟨authority, userId, role⟩ :: s.grants })

/-- The first development login of a name, `auth/routes.py:140`. -/
def devRegistered (login : String) (role : Role) (s : Store) : Except Failure (Nat × Store) :=
  let userId := s.rows.users.fresh
  (Rows.commit
    (s.rows.users.insert { githubLogin := login, displayName := some login })
    s.rows.identities (s.rows.mappings.insert { userId, role })).map fun rows ↦
  (userId, { s with rows, grants := ⟨.developmentLogin, userId, role⟩ :: s.grants })

/-- `development_login`, `auth/routes.py:122`. -/
def developmentLogin (settings : AuthSettings) (answers : Answers) (login : String)
    (role : Role) : Program Response := do
  Resumption.require settings.DevAuth
    (.cloudWard ⟨"DEV_AUTH_DISABLED", "Development authentication is disabled", 404⟩)
  let user ← select answers 0 fun rows ↦ scalarOneOrNone <| rowsWhere rows.users
    fun user ↦ user.githubLogin = login
  match user with
  | none => do
    let userId ← commit answers 1 (devRegistered login role)
    setSessionCookie answers { userId, login, role } none
  | some (userId, _) => do
    let loaded ← select answers 2 fun rows ↦
      scalarOneOrNone (rowsWhere rows.mappings (isGlobal userId))
    let _ ← commit answers 3 (granted .developmentLogin userId role none loaded)
    setSessionCookie answers { userId, login, role } none

/-- `update_role_mapping`, `api/roles.py:58`. -/
def updateRoleMapping (settings : AuthSettings) (answers : Answers) (credentials : Credentials)
    (userId : Nat) (role : Role) : Program Response := do
  let principal ← requirePermission settings answers credentials .roleManage
  let user ← select answers 1 fun rows ↦ .ok rows.users[userId]?
  match user with
  | none => raise ⟨"USER_NOT_FOUND", "User was not found", 404⟩
  | some _ => do
    let loaded ← select answers 2 fun rows ↦
      scalarOneOrNone (rowsWhere rows.mappings (isGlobal userId))
    -- the audit row's flush and the commit
    let id ← commit answers 3 (granted (.principal principal) userId role
      (some (if principal.persisted then some principal.userId else none)) loaded)
    let mapping ← select answers 4 fun rows ↦ .ok rows.mappings[id]?
    match mapping with
    | none => .throw .noResult
    | some mapping => pure (.mapping mapping)

/-- The program of a request. -/
def program (settings : AuthSettings) (call : Call) : Program Response :=
  match call.request with
  | .githubCallback code state stateCookie => githubCallback call.answers code state stateCookie
  | .developmentLogin login role => developmentLogin settings call.answers login role
  | .currentUser credentials => do
    return .principal (← getCurrentPrincipal settings call.answers credentials)
  | .guarded credentials permission => do
    return .principal (← requirePermission settings call.answers credentials permission)
  | .updateRoleMapping credentials userId role =>
    updateRoleMapping settings call.answers credentials userId role

/-- The requests that are served, in flight at the same time. -/
abbrev Server : Type := Pool Store Failure Response

/-- A schedule of requests and their statements. -/
def serve (settings : AuthSettings) (initial : Rows) (moves : List (Move Call)) : Server :=
  Runs.run (Pool.move (program settings)) ⟨{ rows := initial }, []⟩ moves

/-! ### What a statement finds -/

/-- Whose mapping a row is, and in which scope. -/
def mappingKeys (rows : Rows) : List (Nat × String) := rows.mappings.map fun m ↦ (m.userId, m.scope)

theorem prefix_keys_insert {rows rows' : Rows} {mapping : RoleMapping}
    (hmappings : rows'.mappings = rows.mappings.insert mapping) :
    mappingKeys rows <+: mappingKeys rows' := by
  unfold mappingKeys
  rw [hmappings, Table.insert, List.map_append]
  exact List.prefix_append _ _

theorem of_mem_rowsWhere {α : Type} {t : Table α} {p : α → Bool} {e : Nat × α}
    (h : e ∈ rowsWhere t p) : t[e.1]? = some e.2 ∧ p e.2 := by
  obtain ⟨e', he', rfl⟩ := List.mem_map.mp h
  obtain ⟨hmem, hp⟩ := List.mem_filter.mp he'
  exact ⟨List.mem_zipIdx_iff_getElem?.mp hmem, hp⟩

theorem mem_of_scalarOneOrNone {α : Type} {as : List α} {a : α}
    (h : scalarOneOrNone as = .ok (some a)) : a ∈ as := by
  cases as with
  | nil => cases h
  | cons b rest =>
    cases rest with
    | nil =>
      cases h
      exact List.mem_singleton_self a
    | cons c rest => cases h

theorem mem_of_scalarOne {α : Type} {as : List α} {a : α}
    (h : scalarOne as = .ok a) : a ∈ as := by
  cases as with
  | nil => cases h
  | cons b rest =>
    cases rest with
    | nil =>
      cases h
      exact List.mem_singleton_self a
    | cons c rest => cases h

/-- Rows that a unique key distinguishes. -/
theorem rowsWhere_of_nodup {α κ : Type} {t : Table α} {p : α → Bool} {key : α → κ} {k : κ}
    (h : (t.map key).Nodup) (hp : ∀ a, p a → key a = k) :
    rowsWhere t p = [] ∨ ∃ e, rowsWhere t p = [e] := by
  have hrows : (rowsWhere t p).map (·.2) = t.filter p := by
    rw [rowsWhere, List.map_map]
    have hfst : (t.zipIdx.map Prod.fst).filter p = t.filter p := by
      rw [List.zipIdx_map_fst]
    rw [← hfst, List.filter_map]
    rfl
  have hnodup : ((t.filter p).map key).Nodup :=
    (List.filter_sublist.map key).nodup h
  have hall : ∀ a ∈ (t.filter p).map key, a = k := by
    intro a ha
    obtain ⟨b, hb, rfl⟩ := List.mem_map.mp ha
    exact hp b (List.mem_filter.mp hb).2
  have hlength : (rowsWhere t p).length ≤ 1 := by
    have hsame : (rowsWhere t p).length = ((t.filter p).map key).length := by
      rw [List.length_map, ← hrows, List.length_map]
    rw [hsame]
    generalize (t.filter p).map key = keys at hnodup hall
    cases keys with
    | nil => exact Nat.zero_le 1
    | cons a rest =>
      cases rest with
      | nil => exact Nat.le_refl 1
      | cons b rest =>
        have hab : a = b := (hall a (by simp)).trans (hall b (by simp)).symm
        have hne : a ≠ b := fun h ↦ (List.nodup_cons.mp hnodup).1 (by simp [h])
        exact absurd hab hne
  rcases hr : rowsWhere t p with _ | ⟨e, rest⟩
  · exact .inl rfl
  · right
    rw [hr, List.length_cons] at hlength
    have hrest : rest = [] := List.length_eq_zero_iff.mp (by omega)
    exact ⟨e, by rw [hrest]⟩

/-! ### Reasoning about requests -/

section Rules

variable {α β : Type} {R : Rely Store} {E : Failure → Prop} {P : α → Store → Prop}
variable {P' : β → Store → Prop} {s : Store}

/-- A result that satisfies `P`, or a failure that satisfies `E`. -/
def Ends (E : Failure → Prop) (P : α → Store → Prop) : Except Failure α → Store → Prop
  | .ok a, s => P a s
  | .error e, _ => E e

theorem ends_pure {a : α} (h : ∀ s', R.may s s' → P a s') :
    (pure a : Program α).Safe R (Ends E P) s := h

theorem ends_throw {e : Failure} (h : E e) :
    (Resumption.throw e : Program α).Safe R (Ends E P) s := fun _ _ ↦ h

theorem ends_bind {p : Program α} {k : α → Program β} (hp : p.Safe R (Ends E P) s)
    (hk : ∀ a s', R.may s s' → P a s' → (k a).Safe R (Ends E P') s') :
    (p >>= k).Safe R (Ends E P') s :=
  Resumption.safe_bind hp hk fun _ _ _ h ↦ h

theorem ends_answered {x : Except Refusal α} (hE : ∀ e : Refusal, E (.cloudWard e.1))
    (h : ∀ a, x = .ok a → ∀ s', R.may s s' → P a s') :
    (answered x).Safe R (Ends E P) s := by
  intro s' hs
  cases x with
  | ok a => exact h a rfl s' hs
  | error e => exact hE e

theorem ends_require {c : Prop} [Decidable c] {e : Failure} {P : Unit → Store → Prop}
    (hE : E e) (h : c → ∀ s', R.may s s' → P () s') :
    (Resumption.require c e : Program Unit).Safe R (Ends E P) s :=
  Resumption.safe_require h fun _ _ _ ↦ hE

/-- What is read may be used as long as it cannot change. -/
theorem ends_select {answers : Answers} {n : Nat} {f : Rows → Except Failure α}
    (hE : E .database) (herror : ∀ s', R.may s s' → ∀ e, f s'.rows = .error e → E e)
    (h : ∀ s', R.may s s' → ∀ a, f s'.rows = .ok a → ∀ s'', R.may s' s'' → P a s'') :
    (select answers n f).Safe R (Ends E P) s := by
  apply Resumption.safe_read
  intro s' hs s'' hs'
  split
  · exact hE
  · cases hf : f s'.rows with
    | error e => exact herror s' hs e hf
    | ok a => exact h s' hs a hf s'' hs'

/-- A commit has to be allowed where it succeeds. -/
theorem ends_commit {answers : Answers} {n : Nat} {f : Store → Except Failure (α × Store)}
    (hE : E .database) (herror : ∀ s', R.may s s' → ∀ e, f s' = .error e → E e)
    (h : ∀ s', R.may s s' → ∀ a t, f s' = .ok (a, t) →
      R.may s' t ∧ ∀ t', R.may t t' → P a t') :
    (commit answers n f).Safe R (Ends E P) s := by
  apply Resumption.safe_change
  · intro s' hs a t ht
    by_cases hfault : answers.database n
    · simp [hfault] at ht
    · rw [if_neg hfault] at ht
      exact h s' hs a t ht
  · intro s' hs e he t' ht'
    by_cases hfault : answers.database n
    · rw [if_pos hfault] at he
      cases he
      exact hE
    · rw [if_neg hfault] at he
      exact herror s' hs e he

end Rules

end CloudWard.Auth
