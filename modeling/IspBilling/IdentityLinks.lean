import IspBilling.ProvisioningCallbacks
import IspBilling.Runs

/-! # The links of organizations and users to the central identity service

Tenants and users are owned by auth-api.  `handle_auth_tenant` (`app/events/consumer.py`) mirrors a
tenant into an organization that carries its id in `auth_tenant_id`, and `provision_sso_user`
(`app/core/sso.py`) mirrors a user into a local one that carries the subject in
`auth_service_user_id`; it runs on every SSO login and, through `handle_auth_user`, on every user
event.

Both look for the row by the id first and then by other keys: the uuid and the slug of an
organization, the email of a user.  The fallbacks are there to adopt a row that has no link yet,
but neither checks that it has none.  `identity_links_stable_iff` says which runs keep all links.

`str.strip`, `str.lower` and `uuid.UUID` are parameters: the results hold for all functions. -/

namespace IspBilling

open Rows Runs

/-! ### Rows -/

/-- `UserRole`. -/
inductive UserRole where
  | platformOwner | ispAdmin | ispTechnician | customer
deriving DecidableEq, Repr

/-- The columns of `organizations` that the mirror of a tenant uses. -/
structure TenantOrganization where
  id : ℕ
  uuid : ℕ
  authTenantId : Option String
  name : String
  slug : String
  email : String
  phone : Option String
deriving DecidableEq, Repr

/-- The columns of `users` that the mirror of a user uses. -/
structure LocalUser where
  id : ℕ
  organizationId : Option ℕ
  username : String
  email : String
  firstName : String
  lastName : String
  authServiceUserId : Option String
  authSyncedAt : Option ℤ
  role : UserRole
  /-- The RBAC role. -/
  roleId : Option ℕ
deriving DecidableEq, Repr

/-- A row of `roles`. -/
structure RbacRole where
  id : ℕ
  name : String
deriving DecidableEq, Repr

structure Directory where
  organizations : Table TenantOrganization.id
  users : Table LocalUser.id
  roles : List RbacRole

/-- `str.strip`, `str.lower`, and `uuid.UUID(s)` as a number, if `s` is one. -/
structure IdentityText where
  strip : String → String
  lower : String → String
  uuid : String → Option ℕ

/-- `s.strip().lower()`. -/
def IdentityText.normalize (txt : IdentityText) (s : String) : String := txt.lower (txt.strip s)

/-! ### Requests -/

/-- What a tenant event says; `envelopeTenantId` and `aggregateId` stand outside the payload. -/
structure TenantPayload where
  tenantId : Option String
  id : Option String
  envelopeTenantId : Option String
  aggregateId : Option String
  name : Option String
  tenantName : Option String
  slug : Option String
  tenantSlug : Option String
  useCase : Option String
  contactEmail : Option String
  contactPhone : Option String
deriving DecidableEq, Repr

structure SsoClaims where
  sub : Option String
  email : Option String
  fullName : Option String
  roles : List String
  tenantId : Option String
  tenantSlug : Option String
  isPlatformOwner : Bool
deriving DecidableEq, Repr

/-- What a user event says. -/
structure UserPayload where
  userId : Option String
  id : Option String
  aggregateId : Option String
  email : Option String
  fullName : Option String
  name : Option String
  roles : List String
  tenantId : Option String
  envelopeTenantId : Option String
  tenantSlug : Option String
  isPlatformOwner : Bool
deriving DecidableEq, Repr

/-- What the environment adds to a request: the clock, the id of a new row, and whether the database
takes the commit (it may be away, or a text too long for its column). -/
structure CommitContext where
  now : ℤ
  newId : ℕ
  taken : Bool
deriving DecidableEq, Repr

inductive IdentityEvent where
  /-- `handle_auth_tenant`. -/
  | authTenant (p : TenantPayload) (ctx : CommitContext)
  /-- `handle_auth_user`. -/
  | authUser (p : UserPayload) (ctx : CommitContext)
  /-- `provision_sso_user` on a login. -/
  | ssoLogin (claims : SsoClaims) (ctx : CommitContext)
deriving DecidableEq, Repr

/-- The first name in `base, base-1, base-2, …` (each cut to `limit`) that is free.  A name is free
among the first `fuel + 1`, unless the cut makes them equal; then the loop does not end. -/
def firstFree (sep : String) (limit : ℕ) (isTaken : String → Bool) (base : String) (fuel : ℕ) :
    Option String :=
  (base :: (List.range fuel).map fun i =>
    String.ofList ((base ++ sep ++ toString (i + 1)).toList.take limit)).find?
    (fun name => !isTaken name)

/-! ### Tenants -/

/-- The use cases that are mirrored; none at all counts as one. -/
def ispUseCases : List String :=
  ["", "isp", "isp_billing", "ispbilling", "internet", "hotspot", "hotspot_business", "pppoe"]

namespace TenantPayload

def authTenantId (p : TenantPayload) : Option String :=
  (given p.tenantId).or ((given p.id).or ((given p.envelopeTenantId).or (given p.aggregateId)))

def nameOf (p : TenantPayload) : String :=
  ((given p.name).or (given p.tenantName)).getD "ISP Provider"

def slugOf (txt : IdentityText) (p : TenantPayload) : Option String :=
  given (some (txt.normalize (((given p.slug).or (given p.tenantSlug)).getD "")))

/-- The tenant that is mirrored: its id and its uuid. -/
def tenant (txt : IdentityText) (p : TenantPayload) : Option (String × ℕ) :=
  p.authTenantId.bind fun t =>
    if txt.normalize (p.useCase.getD "") ∈ ispUseCases then (txt.uuid t).map (fun u => (t, u))
    else none

end TenantPayload

namespace Directory

variable (txt : IdentityText)

/-- The organization that satisfies `p`, for a unique column. -/
def organizationWhere (s : Directory) (p : TenantOrganization → Prop) [DecidablePred p] :
    Option TenantOrganization :=
  s.organizations.rows.find? (fun o => decide (p o))

/-- The organization of a tenant: by its id, by its uuid, by its slug. -/
def organizationOf (s : Directory) (t : String) (u : ℕ) (slug : Option String) :
    Option TenantOrganization :=
  (s.organizationWhere (fun o => o.authTenantId = some t)).or
    ((s.organizationWhere (fun o => o.uuid = u)).or
      (slug.bind fun slug => s.organizationWhere (fun o => o.slug = slug)))

/-- The organization after it has been linked to the tenant; a slug that another organization has is
not adopted. -/
def linked (s : Directory) (t : String) (u : ℕ) (name : String) (slug : Option String)
    (o : TenantOrganization) : TenantOrganization :=
  { o with
    authTenantId := some t
    uuid := u
    name := name
    slug :=
      match slug with
      | some slug =>
          if s.organizations.rows.all (fun x => decide (x.slug = slug → x.id = o.id)) then slug
          else o.slug
      | none => o.slug }

def newOrganization (s : Directory) (p : TenantPayload) (t : String) (u : ℕ) (id : ℕ) :
    Option TenantOrganization :=
  let base := (p.slugOf txt).getD ("isp-" ++ String.ofList (t.toList.take 8))
  let isTaken := fun name => s.organizations.rows.any (fun o => decide (o.slug = name))
  (firstFree "-" 100 isTaken base s.organizations.rows.length).map fun slug =>
    { id := id
      uuid := u
      authTenantId := some t
      name := p.nameOf
      slug := slug
      email := (given p.contactEmail).getD (slug ++ "@sso.local")
      phone := p.contactPhone }

@[simp] theorem linked_id (s : Directory) (t : String) (u : ℕ) (name : String)
    (slug : Option String) (o : TenantOrganization) : (s.linked t u name slug o).id = o.id := rfl

/-- `handle_auth_tenant`. -/
def handleAuthTenant (s : Directory) (p : TenantPayload) (ctx : CommitContext) : Directory :=
  match p.tenant txt with
  | none => s
  | some (t, u) =>
      if ctx.taken = false then s
      else
        match s.organizationOf t u (p.slugOf txt) with
        | some o =>
            { s with
              organizations := s.organizations.update o.id
                (s.linked t u p.nameOf (p.slugOf txt)) (s.linked_id t u p.nameOf (p.slugOf txt)) }
        | none =>
            match s.newOrganization txt p t u ctx.newId with
            | none => s
            | some o => { s with organizations := s.organizations.insert o }

end Directory

/-! ### Users -/

/-- `map_global_roles_to_isp_role`. -/
def mapGlobalRolesToIspRole (txt : IdentityText) (roles : List String) (isPlatformOwner : Bool) :
    UserRole :=
  let normalized := roles.map txt.normalize
  if isPlatformOwner = true ∨ "platform_owner" ∈ normalized then .platformOwner
  else if ∃ r ∈ normalized, r ∈ ["superuser", "admin", "isp_admin", "owner"] then .ispAdmin
  else if ∃ r ∈ normalized, r ∈ ["technician", "isp_technician", "staff", "support"] then
    .ispTechnician
  else .customer

namespace UserRole

/-- `_isp_role_to_rbac_role_name`. -/
def rbacRoleName : UserRole → String
  | .platformOwner => "superuser"
  | .ispAdmin => "admin"
  | .ispTechnician => "technician"
  | .customer => "customer"

/-- The rank of a role in a role sync. -/
def rank : UserRole → ℕ
  | .customer => 0
  | .ispTechnician => 1
  | .ispAdmin => 2
  | .platformOwner => 3

/-- The role after a sync with claims that have `incoming`: claims without roles change nothing, and
nothing is demoted to a customer. -/
def synced (role incoming : UserRole) (hasRoles : Bool) : UserRole :=
  if hasRoles = true ∧ (role.rank ≤ incoming.rank ∨ incoming ≠ .customer) then incoming else role

end UserRole

/-- `_split_name`: the first and the last name. -/
def splitName (txt : IdentityText) (fullName : Option String) (email : String) :
    String × String :=
  match given ((given fullName).map txt.strip) with
  | some name =>
      let first := String.ofList (name.toList.takeWhile (· ≠ ' '))
      let last := String.ofList (name.toList.drop (first.length + 1))
      (first, (given (some last)).getD first)
  | none =>
      let name := String.ofList (((given (some email)).getD "user").toList.takeWhile (· ≠ '@'))
      (name, name)

namespace SsoClaims

def emailOf (txt : IdentityText) (c : SsoClaims) : String :=
  txt.normalize ((given c.email).getD "")

/-- The first username that is tried for a new user. -/
def baseUsername (txt : IdentityText) (c : SsoClaims) : String :=
  let fallback := "sso_" ++ c.sub.getD "None"
  let name := if c.emailOf txt = "" then fallback.toList
    else (c.emailOf txt).toList.takeWhile (· ≠ '@')
  (given (some (String.ofList (name.take 40)))).getD fallback

def ispRole (txt : IdentityText) (c : SsoClaims) : UserRole :=
  mapGlobalRolesToIspRole txt c.roles c.isPlatformOwner

end SsoClaims

/-- The claims that `handle_auth_user` builds; an event without id and email is skipped. -/
def UserPayload.claims (txt : IdentityText) (p : UserPayload) : Option SsoClaims :=
  let sub := (given p.userId).or ((given p.id).or (given p.aggregateId))
  let email := given (some (txt.normalize ((given p.email).getD "")))
  if sub = none ∧ email = none then none
  else
    some {
      sub := sub
      email := email
      fullName := (given p.fullName).or p.name
      roles := p.roles
      tenantId := (given p.tenantId).or p.envelopeTenantId
      tenantSlug := p.tenantSlug
      isPlatformOwner := p.isPlatformOwner }

namespace Directory

variable (txt : IdentityText)

/-- The user that satisfies `p`, for a unique column. -/
def userWhere (s : Directory) (p : LocalUser → Prop) [DecidablePred p] : Option LocalUser :=
  s.users.rows.find? (fun u => decide (p u))

/-- The user of the claims: by the subject, by the email. -/
def userOf (s : Directory) (sub : Option String) (email : String) : Option LocalUser :=
  (sub.bind fun sub => s.userWhere (fun u => u.authServiceUserId = some sub)).or
    ((given (some email)).bind fun email => s.userWhere (fun u => u.email = email))

/-- `_resolve_organization_id`: by the slug, by the uuid. -/
def resolveOrganizationId (s : Directory) (c : SsoClaims) : Option ℕ :=
  (((given c.tenantSlug).bind fun slug => s.organizationWhere (fun o => o.slug = slug)).or
    (((given c.tenantId).bind txt.uuid).bind fun u =>
      s.organizationWhere (fun o => o.uuid = u))).map TenantOrganization.id

/-- `_sync_role_obj`: the id of the RBAC role for a role, if it has been seeded. -/
def roleIdOf (s : Directory) (role : UserRole) : Option ℕ :=
  (s.roles.find? (fun r => decide (r.name = role.rbacRoleName))).map RbacRole.id

/-- The user after the link has been set and the rest refreshed. -/
def refreshed (s : Directory) (c : SsoClaims) (orgId : Option ℕ) (now : ℤ) (u : LocalUser) :
    LocalUser :=
  let role := u.role.synced (c.ispRole txt) (!c.roles.isEmpty || c.isPlatformOwner)
  { u with
    authServiceUserId := (given c.sub).or u.authServiceUserId
    authSyncedAt := some now
    role := role
    organizationId :=
      if c.isPlatformOwner then u.organizationId else u.organizationId.or orgId
    roleId := (s.roleIdOf role).or u.roleId }

@[simp] theorem refreshed_id (s : Directory) (c : SsoClaims) (orgId : Option ℕ) (now : ℤ)
    (u : LocalUser) : (s.refreshed txt c orgId now u).id = u.id := rfl

def newUser (s : Directory) (c : SsoClaims) (orgId : Option ℕ) (ctx : CommitContext) :
    Option LocalUser :=
  let isTaken := fun name => s.users.rows.any (fun u => decide (u.username = name))
  let name := splitName txt c.fullName (c.emailOf txt)
  (firstFree "_" 50 isTaken (c.baseUsername txt) s.users.rows.length).map fun username =>
    { id := ctx.newId
      organizationId := if c.isPlatformOwner then none else orgId
      username := username
      email := (given (some (c.emailOf txt))).getD (username ++ "@sso.local")
      firstName := name.1
      lastName := name.2
      authServiceUserId := given c.sub
      authSyncedAt := some ctx.now
      role := c.ispRole txt
      roleId := s.roleIdOf (c.ispRole txt) }

/-- `provision_sso_user`.  Claims without subject and email are refused; so is, by the unique index,
a new user whose email is taken. -/
def provisionSsoUser (s : Directory) (c : SsoClaims) (ctx : CommitContext) : Directory :=
  if (given c.sub = none ∧ c.emailOf txt = "") ∨ ctx.taken = false then s
  else
    let orgId := s.resolveOrganizationId txt c
    match s.userOf (given c.sub) (c.emailOf txt) with
    | some u =>
        { s with
          users := s.users.update u.id (s.refreshed txt c orgId ctx.now)
            (s.refreshed_id txt c orgId ctx.now) }
    | none =>
        match s.newUser txt c orgId ctx with
        | none => s
        | some u =>
            if s.users.rows.any (fun x => decide (x.email = u.email)) then s
            else { s with users := s.users.insert u }

/-! ### Runs -/

def step (s : Directory) : IdentityEvent → Directory
  | .authTenant p ctx => s.handleAuthTenant txt p ctx
  | .authUser p ctx =>
      match p.claims txt with
      | some c => s.provisionSsoUser txt c ctx
      | none => s
  | .ssoLogin c ctx => s.provisionSsoUser txt c ctx

end Directory

/-- The tenant that an id names: ids that read as the same uuid name the same tenant. -/
def IdentityText.tenantKey (txt : IdentityText) (t : String) : ℕ ⊕ String :=
  match txt.uuid t with
  | some u => .inl u
  | none => .inr t

namespace Directory

variable (txt : IdentityText)

/-- The tenant that an organization is linked to. -/
def tenantOf (s : Directory) (id : ℕ) : Option (ℕ ⊕ String) :=
  s.organizations.column (fun o => o.authTenantId.map txt.tenantKey) id

/-- The subject that a user is linked to. -/
def subjectOf (s : Directory) (id : ℕ) : Option String :=
  s.users.column LocalUser.authServiceUserId id

/-- No organization that is linked to a tenant, and no user that is linked to a subject, is linked
to another one, or to none, later in the run. -/
def LinksKept (s : Directory) (es : List IdentityEvent) : Prop :=
  (∀ id k, Stays (step txt) (fun s => s.tenantOf txt id = some k) s es) ∧
    ∀ id sub, Stays (step txt) (fun s => s.subjectOf id = some sub) s es

/-- The organization that a tenant event finds has no link, or the link to this tenant. -/
def FindsOwnOrganization (s : Directory) (p : TenantPayload) (ctx : CommitContext) : Prop :=
  ctx.taken = true → ∀ t u, p.tenant txt = some (t, u) →
    ∀ o, s.organizationOf t u (p.slugOf txt) = some o →
      ∀ t' ∈ o.authTenantId, txt.tenantKey t' = .inl u

/-- The user that the claims find has no link, or the link to this subject. -/
def FindsOwnUser (s : Directory) (c : SsoClaims) (ctx : CommitContext) : Prop :=
  ctx.taken = true → ∀ sub, given c.sub = some sub →
    ∀ u, s.userOf (some sub) (c.emailOf txt) = some u →
      ∀ sub' ∈ u.authServiceUserId, sub' = sub

/-- The row that an event finds has no link, or the link that the event sets. -/
def FindsOwn (s : Directory) : IdentityEvent → Prop
  | .authTenant p ctx => s.FindsOwnOrganization txt p ctx
  | .authUser p ctx => ∀ c, p.claims txt = some c → s.FindsOwnUser txt c ctx
  | .ssoLogin c ctx => s.FindsOwnUser txt c ctx

variable {txt}

theorem organizationWhere_mem {s : Directory} {p : TenantOrganization → Prop} [DecidablePred p]
    {o : TenantOrganization} (h : s.organizationWhere p = some o) : o ∈ s.organizations.rows :=
  List.mem_of_find?_eq_some h

theorem organizationOf_mem {s : Directory} {t : String} {u : ℕ} {slug : Option String}
    {o : TenantOrganization} (h : s.organizationOf t u slug = some o) :
    o ∈ s.organizations.rows := by
  rcases Option.or_eq_some_iff.mp h with h | ⟨-, h⟩
  · exact organizationWhere_mem h
  · rcases Option.or_eq_some_iff.mp h with h | ⟨-, h⟩
    · exact organizationWhere_mem h
    · obtain ⟨_, -, h⟩ := Option.bind_eq_some_iff.mp h
      exact organizationWhere_mem h

theorem userOf_mem {s : Directory} {sub : Option String} {email : String} {u : LocalUser}
    (h : s.userOf sub email = some u) : u ∈ s.users.rows := by
  rcases Option.or_eq_some_iff.mp h with h | ⟨-, h⟩
  · obtain ⟨_, -, h⟩ := Option.bind_eq_some_iff.mp h
    exact List.mem_of_find?_eq_some h
  · obtain ⟨_, -, h⟩ := Option.bind_eq_some_iff.mp h
    exact List.mem_of_find?_eq_some h

variable (txt) in
/-- **What a tenant event can do**: nothing, a new organization, or the link of the one it finds. -/
theorem handleAuthTenant_cases (s : Directory) (p : TenantPayload) (ctx : CommitContext) :
    (∃ o t u, ctx.taken = true ∧ p.tenant txt = some (t, u) ∧
        s.organizationOf t u (p.slugOf txt) = some o ∧
        s.handleAuthTenant txt p ctx = { s with
          organizations := s.organizations.update o.id (s.linked t u p.nameOf (p.slugOf txt))
            (s.linked_id t u p.nameOf (p.slugOf txt)) }) ∨
      s.FindsOwnOrganization txt p ctx ∧
        (s.handleAuthTenant txt p ctx = s ∨
          ∃ o, s.handleAuthTenant txt p ctx = { s with organizations := s.organizations.insert o }) := by
  unfold handleAuthTenant FindsOwnOrganization
  cases hp : p.tenant txt with
  | none => simp
  | some tu =>
      obtain ⟨t, u⟩ := tu
      by_cases hc : ctx.taken = false
      · simp [hc]
      · simp only [Bool.not_eq_false] at hc
        cases ho : s.organizationOf t u (p.slugOf txt) with
        | some o => exact Or.inl ⟨o, t, u, hc, rfl, ho, by simp [hc, ho]⟩
        | none =>
            right
            refine ⟨by simp [ho], ?_⟩
            cases hn : s.newOrganization txt p t u ctx.newId with
            | none => simp [hc, ho, hn]
            | some o => exact Or.inr ⟨o, by simp [hc, ho, hn]⟩

variable (txt) in
/-- **What claims can do**: nothing, a new user, or the link of the one they find. -/
theorem provisionSsoUser_cases (s : Directory) (c : SsoClaims) (ctx : CommitContext) :
    (∃ u, ctx.taken = true ∧ s.userOf (given c.sub) (c.emailOf txt) = some u ∧
        s.provisionSsoUser txt c ctx = { s with
          users := s.users.update u.id
            (s.refreshed txt c (s.resolveOrganizationId txt c) ctx.now)
            (s.refreshed_id txt c (s.resolveOrganizationId txt c) ctx.now) }) ∨
      s.FindsOwnUser txt c ctx ∧
        (s.provisionSsoUser txt c ctx = s ∨
          ∃ u, s.provisionSsoUser txt c ctx = { s with users := s.users.insert u }) := by
  unfold provisionSsoUser FindsOwnUser
  by_cases hc : (given c.sub = none ∧ c.emailOf txt = "") ∨ ctx.taken = false
  · right
    rw [if_pos hc]
    refine ⟨?_, Or.inl rfl⟩
    intro ht sub hsub
    rcases hc with ⟨hnone, -⟩ | hc
    · rw [hnone] at hsub
      cases hsub
    · rw [hc] at ht
      cases ht
  · rw [if_neg hc]
    simp only [not_or, Bool.not_eq_false] at hc
    cases hu : s.userOf (given c.sub) (c.emailOf txt) with
    | some u => exact Or.inl ⟨u, hc.2, rfl, rfl⟩
    | none =>
        right
        constructor
        · intro _ sub hsub u hu'
          rw [← hsub, hu] at hu'
          cases hu'
        · cases hn : s.newUser txt c (s.resolveOrganizationId txt c) ctx with
          | none => exact Or.inl (by simp [hn])
          | some u =>
              simp only [hn]
              split
              · exact Or.inl rfl
              · exact Or.inr ⟨u, rfl⟩

theorem TenantPayload.tenantKey_of_tenant {p : TenantPayload} {t : String} {u : ℕ}
    (h : p.tenant txt = some (t, u)) : txt.tenantKey t = .inl u := by
  obtain ⟨t₀, -, h⟩ := Option.bind_eq_some_iff.mp h
  split at h
  · obtain ⟨u₀, hu, heq⟩ := Option.map_eq_some_iff.mp h
    obtain ⟨rfl, rfl⟩ := Prod.mk.inj heq
    simp [IdentityText.tenantKey, hu]
  · cases h

theorem tenantOf_kept_iff (s : Directory) (p : TenantPayload) (ctx : CommitContext) :
    (∀ id k, s.tenantOf txt id = some k → (s.handleAuthTenant txt p ctx).tenantOf txt id = some k) ↔
      s.FindsOwnOrganization txt p ctx := by
  rcases s.handleAuthTenant_cases txt p ctx with
    ⟨o, t, u, hc, hp, ho, hnew⟩ | ⟨hown, hnew | ⟨o, hnew⟩⟩
  · have hlink : (s.linked t u p.nameOf (p.slugOf txt) o).authTenantId.map txt.tenantKey =
        some (.inl u) := by
      simp [linked, TenantPayload.tenantKey_of_tenant hp]
    have hown : s.FindsOwnOrganization txt p ctx ↔
        ∀ t' ∈ o.authTenantId, txt.tenantKey t' = .inl u := by
      simp [FindsOwnOrganization, hc, hp, ho]
    rw [hnew, hown]
    unfold tenantOf
    rw [Table.column_kept_update_iff (organizationOf_mem ho), hlink]
    simp only [Option.mem_map, forall_exists_index, and_imp, forall_apply_eq_imp_iff₂,
      Option.some.injEq, @eq_comm _ (Sum.inl u)]
  · rw [hnew]
    exact ⟨fun _ => hown, fun _ _ _ hk => hk⟩
  · rw [hnew]
    exact ⟨fun _ => hown, fun _ _ _ hk => Table.column_kept_insert hk⟩

theorem subjectOf_kept_iff (s : Directory) (c : SsoClaims) (ctx : CommitContext) :
    (∀ id sub, s.subjectOf id = some sub →
        (s.provisionSsoUser txt c ctx).subjectOf id = some sub) ↔ s.FindsOwnUser txt c ctx := by
  rcases s.provisionSsoUser_cases txt c ctx with ⟨u, hc, hu, hnew⟩ | ⟨hown, hnew | ⟨u, hnew⟩⟩
  · rw [hnew]
    unfold subjectOf
    rw [Table.column_kept_update_iff (userOf_mem hu)]
    simp only [refreshed, FindsOwnUser, hc, true_imp_iff]
    cases hsub : given c.sub with
    | none => simp
    | some sub =>
        rw [hsub] at hu
        simp [hu, eq_comm]
  · rw [hnew]
    exact ⟨fun _ => hown, fun _ _ _ hk => hk⟩
  · rw [hnew]
    exact ⟨fun _ => hown, fun _ _ _ hk => Table.column_kept_insert hk⟩

@[simp] theorem users_handleAuthTenant (s : Directory) (p : TenantPayload) (ctx : CommitContext) :
    (s.handleAuthTenant txt p ctx).users = s.users := by
  rcases s.handleAuthTenant_cases txt p ctx with ⟨o, t, u, -, -, -, h⟩ | ⟨-, h | ⟨o, h⟩⟩ <;> rw [h]

@[simp] theorem organizations_provisionSsoUser (s : Directory) (c : SsoClaims)
    (ctx : CommitContext) : (s.provisionSsoUser txt c ctx).organizations = s.organizations := by
  rcases s.provisionSsoUser_cases txt c ctx with ⟨u, -, -, h⟩ | ⟨-, h | ⟨u, h⟩⟩ <;> rw [h]

/-- One event keeps all links exactly if it finds its own row. -/
theorem findsOwn_iff (s : Directory) (e : IdentityEvent) :
    ((∀ id k, s.tenantOf txt id = some k → (s.step txt e).tenantOf txt id = some k) ∧
        ∀ id sub, s.subjectOf id = some sub → (s.step txt e).subjectOf id = some sub) ↔
      s.FindsOwn txt e := by
  -- claims do not touch organizations, tenant events do not touch users
  have hclaims : ∀ c ctx, ((∀ id k, s.tenantOf txt id = some k →
        (s.provisionSsoUser txt c ctx).tenantOf txt id = some k) ∧
      ∀ id sub, s.subjectOf id = some sub →
        (s.provisionSsoUser txt c ctx).subjectOf id = some sub) ↔ s.FindsOwnUser txt c ctx := by
    intro c ctx
    rw [subjectOf_kept_iff]
    simp [tenantOf]
  cases e with
  | authTenant p ctx =>
      simp only [step, FindsOwn]
      rw [tenantOf_kept_iff]
      simp [subjectOf]
  | authUser p ctx =>
      simp only [step, FindsOwn]
      cases p.claims txt with
      | none => simp
      | some c => simpa using hclaims c ctx
  | ssoLogin c ctx => exact hclaims c ctx

variable (txt) in
/-- **The links of organizations and users are stable exactly in the runs in which every event finds
a row without link or with its own**: the lookups by uuid, slug and email do not ask whether the
row they find belongs to somebody else already. -/
theorem identity_links_stable_iff (s : Directory) (es : List IdentityEvent) :
    s.LinksKept txt es ↔ Along (step txt) (FindsOwn txt) s es := by
  unfold LinksKept
  simp only [stays_iff_along, ← along_forall]
  rw [along_and]
  exact Along.congr findsOwn_iff

end Directory

/-- The value of 32 hexadecimal digits, with hyphens between them. -/
def hexUuid (s : String) : Option ℕ :=
  let digits := s.toList.filter (· ≠ '-')
  if digits.length = 32 ∧ digits.all (fun c => c.isDigit || ('a' ≤ c && c ≤ 'f')) then
    some (digits.foldl (fun n c => n * 16 + (c.toNat - if c.isDigit then 48 else 87)) 0)
  else none

/-- The text functions on ASCII. -/
def asciiText : IdentityText where
  strip s := String.ofList
    ((s.toList.dropWhile Char.isWhitespace).reverse.dropWhile Char.isWhitespace).reverse
  lower s := String.ofList (s.toList.map Char.toLower)
  uuid := hexUuid

namespace Directory

/-- An organization and a user, both linked. -/
def linkedDirectory : Directory where
  organizations := ⟨[{
    id := 1
    uuid := 1
    authTenantId := some "00000000-0000-0000-0000-000000000001"
    name := "Acme"
    slug := "acme"
    email := "acme@sso.local"
    phone := none }], by decide⟩
  users := ⟨[{
    id := 1
    organizationId := some 1
    username := "jane"
    email := "jane@acme.example"
    firstName := "Jane"
    lastName := "Doe"
    authServiceUserId := some "subject-1"
    authSyncedAt := some 0
    role := .ispAdmin
    roleId := none }], by decide⟩
  roles := []

/-- Another tenant with the same slug. -/
def sameSlug : IdentityEvent :=
  .authTenant {
    tenantId := some "00000000-0000-0000-0000-000000000002"
    id := none
    envelopeTenantId := none
    aggregateId := none
    name := some "Acme Two"
    tenantName := none
    slug := some "acme"
    tenantSlug := none
    useCase := some "isp"
    contactEmail := none
    contactPhone := none } ⟨1, 2, true⟩

/-- Another subject with the same email. -/
def sameEmail : IdentityEvent :=
  .ssoLogin {
    sub := some "subject-2"
    email := some "Jane@Acme.example"
    fullName := none
    roles := []
    tenantId := none
    tenantSlug := none
    isPlatformOwner := false } ⟨1, 2, true⟩

/-- A tenant with the slug of an organization of another tenant takes it over, and so does a subject
with the email of another subject's user. -/
theorem identity_links_move :
    ¬ linkedDirectory.LinksKept asciiText [sameSlug] ∧
      ¬ linkedDirectory.LinksKept asciiText [sameEmail] := by
  constructor
  · intro h
    have hlater := h.1 1 (.inl 1) 0 1 (by decide) (by decide) (by decide)
    exact absurd hlater (by decide)
  · intro h
    have hlater := h.2 1 "subject-1" 0 1 (by decide) (by decide) (by decide)
    exact absurd hlater (by decide)

end Directory

end IspBilling
