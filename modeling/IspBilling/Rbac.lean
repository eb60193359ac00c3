import IspBilling.Rows
import IspBilling.Runs

/-! # Roles, permissions and overrides

`RBACService` (`app/modules/auth/rbac.py`) answers two questions about a user: whether he has one
permission (`has_permission`), and which permissions he has (`get_user_permissions`).  Both start
from the permissions of the user's role and let an override that has not expired win, a grant or a
denial for this user alone.

`get_user_permissions` walks over the role's permissions and then over the overrides.
`has_permission` asks the database for the override of one permission, and its filter on the
resource is `(Permission.resource == resource) if resource else None`: without a resource it is
`None`, which no row satisfies, so the overrides of such permissions are never found.
`permission_answers_agree_iff` says when the two answers are the same. -/

namespace IspBilling

open Rows Runs

/-! ### Tables -/

/-- `PermissionModule`; `SYSTEM_CONFIG` and `LICENCE_MANAGEMENT` are other names of
`platformConfig` and `platformTiers`. -/
inductive PermissionModule where
  | platformOrganizations | platformBilling | platformAnalytics | platformConfig | platformTiers
  | platformIntegrations | platformIntegrationsSecrets | platformIntegrationsUrls
  | platformPaymentGateways | platformSmsGateways | platformEmailGateways
  | dashboard | users | customers | packages | routers | provisioning | payments | paymentGateways
  | sms | vouchers | settings | reports | notifications | support
  | billing | subscriptions | analytics | branding | auditLogs | backupRestore
  | tenantPaymentConfig | tenantSmsConfig | tenantPayoutConfig
  | customerDashboard | customerPackages | customerPayments | customerUsage | customerProfile
deriving DecidableEq, Repr

/-- `PermissionAction`. -/
inductive PermissionAction where
  | create | read | update | delete | manage
deriving DecidableEq, Repr

/-- A row of `permissions`. -/
structure Permission where
  id : ℕ
  module : PermissionModule
  action : PermissionAction
  resource : Option String
deriving DecidableEq, Repr

/-- What a permission is about. -/
def Permission.subject (p : Permission) : PermissionModule × PermissionAction × Option String :=
  (p.module, p.action, p.resource)

/-- A row of `roles`, with the ids of its permissions. -/
structure Role where
  id : ℕ
  name : String
  isSystemRole : Bool
  permissions : List ℕ
deriving DecidableEq, Repr

/-- The columns of `users` that are read here. -/
structure RoleUser where
  id : ℕ
  roleId : Option ℕ
deriving DecidableEq, Repr

/-- A row of `user_permissions`. -/
structure UserPermission where
  userId : ℕ
  permissionId : ℕ
  isGranted : Bool
  reason : Option String
  expiresAt : Option ℤ
deriving DecidableEq, Repr

namespace UserPermission

/-- The unique key of an override. -/
def key (o : UserPermission) : ℕ × ℕ := (o.userId, o.permissionId)

/-- `override.expires_at and override.expires_at < datetime.utcnow()`. -/
def Expired (now : ℤ) (o : UserPermission) : Prop := ∃ t ∈ o.expiresAt, t < now

instance (now : ℤ) : DecidablePred (Expired now) := fun o =>
  inferInstanceAs (Decidable (∃ t ∈ o.expiresAt, t < now))

end UserPermission

/-- The tables.  No two permissions are about the same. -/
structure Rbac where
  users : Table RoleUser.id
  roles : Table Role.id
  permissions : Table Permission.id
  overrides : Table UserPermission.key
  distinct : Keyed Permission.subject permissions.rows

namespace Rbac

/-! ### The two answers -/

def rolePermissions (s : Rbac) (userId : ℕ) : List Permission :=
  match ((s.users.get userId).bind RoleUser.roleId).bind s.roles.get with
  | some role => role.permissions.filterMap s.permissions.get
  | none => []

/-- The override that the query of `has_permission` finds. -/
def overrideOf (s : Rbac) (userId : ℕ) (module : PermissionModule) (action : PermissionAction)
    (resource : Option String) : Option UserPermission :=
  match resource with
  | some r =>
      if r = "" then none
      else s.overrides.rows.find? fun o =>
        decide (o.userId = userId ∧
          ∃ p ∈ s.permissions.get o.permissionId, p.subject = (module, action, some r))
  | none => none

def deleteOverride (s : Rbac) (k : ℕ × ℕ) : Rbac := { s with overrides := s.overrides.delete k }

/-- `resource if resource else None`. -/
def resourceOrNone (resource : Option String) : Option String :=
  resource.filter (fun r => decide (r ≠ ""))

def RoleHas (s : Rbac) (userId : ℕ) (module : PermissionModule) (action : PermissionAction)
    (resource : Option String) : Prop :=
  ∃ p ∈ s.rolePermissions userId, p.subject = (module, action, resource)

instance (s : Rbac) (userId : ℕ) (module : PermissionModule) (action : PermissionAction)
    (resource : Option String) : Decidable (s.RoleHas userId module action resource) :=
  inferInstanceAs (Decidable (∃ p ∈ s.rolePermissions userId,
    p.subject = (module, action, resource)))

/-- `has_permission`: the answer, and the tables after it, without an override that it has found
expired. -/
def hasPermission (s : Rbac) (now : ℤ) (userId : ℕ) (module : PermissionModule)
    (action : PermissionAction) (resource : Option String) : Bool × Rbac :=
  match s.users.get userId with
  | none => (false, s)
  | some _ =>
      let fromRole := decide (s.RoleHas userId module action (resourceOrNone resource))
      match s.overrideOf userId module action resource with
      | some o => if o.Expired now then (fromRole, s.deleteOverride o.key) else (o.isGranted, s)
      | none => (fromRole, s)

/-- One override in the loop of `get_user_permissions`. -/
def applyOverride (s : Rbac) (now : ℤ) (ps : List Permission) (o : UserPermission) :
    List Permission :=
  if o.Expired now then ps
  else
    match s.permissions.get o.permissionId with
    | some p => if o.isGranted then ps.insert p else ps.filter (fun q => decide (q ≠ p))
    | none => ps

/-- `get_user_permissions`. -/
def getUserPermissions (s : Rbac) (now : ℤ) (userId : ℕ) : List Permission :=
  match s.users.get userId with
  | none => []
  | some _ =>
      (s.overrides.rows.filter (fun o => decide (o.userId = userId))).foldl (s.applyOverride now)
        (s.rolePermissions userId)

/-! ### Histories -/

/-- Set an override, or rewrite the one that is there. -/
def setOverride (s : Rbac) (isGranted : Bool) (userId permissionId : ℕ) (reason : Option String)
    (expiresAt : Option ℤ) : Rbac :=
  match s.users.get userId, s.permissions.get permissionId with
  | some _, some _ =>
      match s.overrides.get (userId, permissionId) with
      | some _ =>
          { s with
            overrides := s.overrides.update (userId, permissionId)
              (fun o => { o with
                isGranted := isGranted
                reason := reason
                expiresAt := expiresAt }) (fun _ => rfl) }
      | none =>
          { s with
            overrides := s.overrides.insert ⟨userId, permissionId, isGranted, reason, expiresAt⟩ }
  | _, _ => s

/-- `grant_user_permission`. -/
def grantUserPermission (s : Rbac) : ℕ → ℕ → Option String → Option ℤ → Rbac := s.setOverride true

/-- `deny_user_permission`. -/
def denyUserPermission (s : Rbac) : ℕ → ℕ → Option String → Option ℤ → Rbac := s.setOverride false

/-- Rewrite the permissions of a role, if the role and the permission exist. -/
def editRole (s : Rbac) (edit : List ℕ → List ℕ) (roleId permissionId : ℕ) : Rbac :=
  match s.permissions.get permissionId with
  | some _ =>
      { s with
        roles := s.roles.update roleId (fun r => { r with permissions := edit r.permissions })
          (fun _ => rfl) }
  | none => s

/-- `assign_permission_to_role`. -/
def assignPermissionToRole (s : Rbac) (roleId permissionId : ℕ) : Rbac :=
  s.editRole (fun ps => if permissionId ∈ ps then ps else ps ++ [permissionId]) roleId permissionId

/-- `remove_permission_from_role`. -/
def removePermissionFromRole (s : Rbac) (roleId permissionId : ℕ) : Rbac :=
  s.editRole (fun ps => ps.filter (fun i => decide (i ≠ permissionId))) roleId permissionId

/-- `assign_role_to_user`. -/
def assignRoleToUser (s : Rbac) (userId roleId : ℕ) : Rbac :=
  match s.roles.get roleId with
  | some _ =>
      { s with
        users := s.users.update userId (fun u => { u with roleId := some roleId }) (fun _ => rfl) }
  | none => s

/-- `create_role`; the names of roles are unique. -/
def createRole (s : Rbac) (id : ℕ) (name : String) (isSystemRole : Bool) : Rbac :=
  if s.roles.rows.any (fun r => decide (r.name = name)) then s
  else { s with roles := s.roles.insert ⟨id, name, isSystemRole, []⟩ }

/-- `delete_role`: system roles stay; the users of a deleted role have none. -/
def deleteRole (s : Rbac) (roleId : ℕ) : Rbac :=
  match s.roles.get roleId with
  | some role =>
      if role.isSystemRole then s
      else
        { s with
          users := ⟨updateWhere (fun u => decide (u.roleId = some roleId))
            (fun u => { u with roleId := none }) s.users.rows, s.users.keyed.updateWhere (fun _ => rfl)⟩
          roles := s.roles.delete roleId }
  | none => s

/-- `create_permission`; a second permission about the same is refused. -/
def createPermission (s : Rbac) (p : Permission) : Rbac :=
  if h : p.subject ∉ s.permissions.rows.map Permission.subject ∧
      p.id ∉ s.permissions.rows.map Permission.id then
    { s with
      permissions := ⟨s.permissions.rows ++ [p], s.permissions.keyed.append_singleton h.2⟩
      distinct := s.distinct.append_singleton h.1 }
  else s

/-- The calls of the service that change something. -/
inductive Call where
  | createRole (id : ℕ) (name : String) (isSystemRole : Bool)
  | deleteRole (roleId : ℕ)
  | createPermission (p : Permission)
  | assignPermissionToRole (roleId permissionId : ℕ)
  | removePermissionFromRole (roleId permissionId : ℕ)
  | assignRoleToUser (userId roleId : ℕ)
  | grantUserPermission (userId permissionId : ℕ) (reason : Option String) (expiresAt : Option ℤ)
  | denyUserPermission (userId permissionId : ℕ) (reason : Option String) (expiresAt : Option ℤ)
  | removeUserPermissionOverride (userId permissionId : ℕ)
  | hasPermission (now : ℤ) (userId : ℕ) (module : PermissionModule) (action : PermissionAction)
      (resource : Option String)
deriving DecidableEq, Repr

def step (s : Rbac) : Call → Rbac
  | .createRole id name isSystemRole => s.createRole id name isSystemRole
  | .deleteRole roleId => s.deleteRole roleId
  | .createPermission p => s.createPermission p
  | .assignPermissionToRole roleId permissionId => s.assignPermissionToRole roleId permissionId
  | .removePermissionFromRole roleId permissionId => s.removePermissionFromRole roleId permissionId
  | .assignRoleToUser userId roleId => s.assignRoleToUser userId roleId
  | .grantUserPermission userId permissionId reason expiresAt =>
      s.grantUserPermission userId permissionId reason expiresAt
  | .denyUserPermission userId permissionId reason expiresAt =>
      s.denyUserPermission userId permissionId reason expiresAt
  | .removeUserPermissionOverride userId permissionId => s.deleteOverride (userId, permissionId)
  | .hasPermission now userId module action resource =>
      (s.hasPermission now userId module action resource).2

/-! ### What a user may do -/

/-- An override of the user for the permission about `subject`. -/
def Overrides (s : Rbac) (userId : ℕ) (subject : PermissionModule × PermissionAction × Option String)
    (o : UserPermission) : Prop :=
  o ∈ s.overrides.rows ∧ o.userId = userId ∧
    ∃ p ∈ s.permissions.get o.permissionId, p.subject = subject

/-- The user may do what `subject` says: an override that has not expired grants it, or the role has
it and no such override denies it. -/
def Effective (s : Rbac) (now : ℤ) (userId : ℕ)
    (subject : PermissionModule × PermissionAction × Option String) : Prop :=
  (∃ o, s.Overrides userId subject o ∧ ¬ o.Expired now ∧ o.isGranted = true) ∨
    s.RoleHas userId subject.1 subject.2.1 subject.2.2 ∧
      ∀ o, s.Overrides userId subject o → ¬ o.Expired now → o.isGranted = true

variable {s : Rbac} {now : ℤ} {userId : ℕ}
  {subject : PermissionModule × PermissionAction × Option String}

theorem Overrides.unique {o o' : UserPermission} (h : s.Overrides userId subject o)
    (h' : s.Overrides userId subject o') : o = o' := by
  obtain ⟨ho, huser, p, hp, hsub⟩ := h
  obtain ⟨ho', huser', p', hp', hsub'⟩ := h'
  obtain ⟨hmem, hid⟩ := Table.get_eq_some.mp hp
  obtain ⟨hmem', hid'⟩ := Table.get_eq_some.mp hp'
  have hpp : p = p' := s.distinct.eq_of_key hmem hmem' (hsub.trans hsub'.symm)
  have hkey : o.key = o'.key := by
    unfold UserPermission.key
    rw [huser, huser', ← hid, ← hid', hpp]
  exact s.overrides.keyed.eq_of_key ho ho' hkey

/-- A live override decides. -/
theorem effective_iff_isGranted {o : UserPermission} (ho : s.Overrides userId subject o)
    (hlive : ¬ o.Expired now) : s.Effective now userId subject ↔ o.isGranted = true := by
  constructor
  · rintro (⟨o', ho', -, hgranted⟩ | ⟨-, hall⟩)
    · rwa [ho.unique ho']
    · exact hall o ho hlive
  · intro hgranted
    exact Or.inl ⟨o, ho, hlive, hgranted⟩

/-- Without a live override the role decides. -/
theorem effective_iff_roleHas (h : ∀ o, s.Overrides userId subject o → o.Expired now) :
    s.Effective now userId subject ↔ s.RoleHas userId subject.1 subject.2.1 subject.2.2 := by
  constructor
  · rintro (⟨o, ho, hlive, -⟩ | ⟨hrole, -⟩)
    · exact absurd (h o ho) hlive
    · exact hrole
  · intro hrole
    exact Or.inr ⟨hrole, fun o ho hlive => absurd (h o ho) hlive⟩

/-- The override has not expired, and is for this permission. -/
def Decides (s : Rbac) (now : ℤ) (p : Permission) (o : UserPermission) : Prop :=
  ¬ o.Expired now ∧ s.permissions.get o.permissionId = some p

theorem mem_applyOverride {ps : List Permission} {o : UserPermission} {p : Permission} :
    (s.Decides now p o → (p ∈ s.applyOverride now ps o ↔ o.isGranted = true)) ∧
      (¬ s.Decides now p o → (p ∈ s.applyOverride now ps o ↔ p ∈ ps)) := by
  unfold applyOverride Decides
  by_cases hexp : o.Expired now
  · simp [hexp]
  · cases hp : s.permissions.get o.permissionId with
    | none => simp [hexp]
    | some q =>
        by_cases hq : q = p
        · subst hq
          cases o.isGranted <;> simp [hexp]
        · have hne : p ≠ q := Ne.symm hq
          cases o.isGranted <;> simp [hexp, hq, hne]

/-- The loop of `get_user_permissions`, over overrides for distinct permissions: the override of a
permission decides, whatever the order. -/
theorem mem_foldl_applyOverride {os : List UserPermission} {ps : List Permission} {p : Permission}
    (hos : (os.map UserPermission.permissionId).Nodup) :
    p ∈ os.foldl (s.applyOverride now) ps ↔
      (∃ o ∈ os, s.Decides now p o ∧ o.isGranted = true) ∨
        p ∈ ps ∧ ∀ o ∈ os, s.Decides now p o → o.isGranted = true := by
  induction os generalizing ps with
  | nil => simp
  | cons o os ih =>
      obtain ⟨hfresh, hos⟩ := List.nodup_cons.mp hos
      rw [List.foldl_cons, ih hos]
      by_cases ho : s.Decides now p o
      · -- no later override is for the same permission
        have hrest : ∀ o' ∈ os, ¬ s.Decides now p o' := by
          rintro o' ho' ⟨-, hp'⟩
          have hid := (Table.get_eq_some.mp ho.2).2
          have hid' := (Table.get_eq_some.mp hp').2
          exact hfresh (List.mem_map.mpr ⟨o', ho', hid'.symm.trans hid⟩)
        rw [mem_applyOverride.1 ho, List.exists_mem_cons_iff, List.forall_mem_cons]
        constructor
        · rintro (⟨o', ho', hp', -⟩ | ⟨hgranted, -⟩)
          · exact absurd hp' (hrest o' ho')
          · exact Or.inl (Or.inl ⟨ho, hgranted⟩)
        · rintro ((⟨-, hgranted⟩ | ⟨o', ho', hp', -⟩) | ⟨-, hgranted, -⟩)
          · exact Or.inr ⟨hgranted, fun o' ho' hp' => absurd hp' (hrest o' ho')⟩
          · exact absurd hp' (hrest o' ho')
          · exact Or.inr ⟨hgranted ho, fun o' ho' hp' => absurd hp' (hrest o' ho')⟩
      · rw [mem_applyOverride.2 ho]
        simp [ho]

theorem nodup_permissionIds (s : Rbac) (userId : ℕ) :
    ((s.overrides.rows.filter (fun o => decide (o.userId = userId))).map
      UserPermission.permissionId).Nodup := by
  have hkeys := s.overrides.keyed.sublist
    ((List.filter_sublist (p := fun o => decide (o.userId = userId))).map UserPermission.key)
  refine List.Nodup.map_on ?_ hkeys.of_map
  intro o ho o' ho' hid
  have huser : o.userId = userId := by simpa using (List.mem_filter.mp ho).2
  have huser' : o'.userId = userId := by simpa using (List.mem_filter.mp ho').2
  refine s.overrides.keyed.eq_of_key (List.mem_of_mem_filter ho) (List.mem_of_mem_filter ho') ?_
  unfold UserPermission.key
  rw [huser, huser', hid]

theorem mem_permissions_of_mem_role {p : Permission} (h : p ∈ s.rolePermissions userId) :
    p ∈ s.permissions.rows := by
  unfold rolePermissions at h
  split at h
  · obtain ⟨_, -, hp⟩ := List.mem_filterMap.mp h
    exact (Table.get_eq_some.mp hp).1
  · cases h

theorem exists_mem_getUserPermissions {u : RoleUser} (hu : s.users.get userId = some u) :
    (∃ p ∈ s.getUserPermissions now userId, p.subject = subject) ↔
      s.Effective now userId subject := by
  simp only [getUserPermissions, hu, mem_foldl_applyOverride (s.nodup_permissionIds userId),
    List.mem_filter, decide_eq_true_eq]
  constructor
  · rintro ⟨p, ⟨o, ⟨ho, huser⟩, ⟨hlive, hp⟩, hgranted⟩ | ⟨hrole, hall⟩, rfl⟩
    · exact Or.inl ⟨o, ⟨ho, huser, p, hp, rfl⟩, hlive, hgranted⟩
    · refine Or.inr ⟨⟨p, hrole, rfl⟩, ?_⟩
      rintro o ⟨ho, huser, q, hq, hsub⟩ hlive
      obtain rfl : q = p := s.distinct.eq_of_key (Table.get_eq_some.mp hq).1
        (mem_permissions_of_mem_role hrole) hsub
      exact hall o ⟨ho, huser⟩ ⟨hlive, hq⟩
  · rintro (⟨o, ⟨ho, huser, p, hp, rfl⟩, hlive, hgranted⟩ | ⟨⟨p, hrole, hsub⟩, hall⟩)
    · exact ⟨p, Or.inl ⟨o, ⟨ho, huser⟩, ⟨hlive, hp⟩, hgranted⟩, rfl⟩
    · refine ⟨p, Or.inr ⟨hrole, ?_⟩, hsub⟩
      rintro o ⟨ho, huser⟩ ⟨hlive, hp⟩
      exact hall o ⟨ho, huser, p, hp, hsub⟩ hlive

theorem overrideOf_resource (s : Rbac) (userId : ℕ) (module : PermissionModule)
    (action : PermissionAction) {r : String} (hr : r ≠ "") :
    match s.overrideOf userId module action (some r) with
    | some o => s.Overrides userId (module, action, some r) o
    | none => ∀ o, ¬ s.Overrides userId (module, action, some r) o := by
  simp only [overrideOf, hr, ite_false]
  split
  · next o ho =>
      have hmatch := List.find?_some ho
      simp only [decide_eq_true_eq] at hmatch
      exact ⟨List.mem_of_find?_eq_some ho, hmatch⟩
  · next ho =>
      rintro o ⟨hmem, hmatch⟩
      exact absurd (decide_eq_true hmatch) (List.find?_eq_none.mp ho o hmem)

theorem hasPermission_resource {u : RoleUser} (hu : s.users.get userId = some u)
    (module : PermissionModule) (action : PermissionAction) {r : String} (hr : r ≠ "") :
    (s.hasPermission now userId module action (some r)).1 = true ↔
      s.Effective now userId (module, action, some r) := by
  have hres : resourceOrNone (some r) = some r := by simp [resourceOrNone, hr]
  have hquery := s.overrideOf_resource userId module action hr
  cases ho : s.overrideOf userId module action (some r) with
  | none =>
      rw [ho] at hquery
      rw [effective_iff_roleHas (fun o hover => absurd hover (hquery o))]
      simp [hasPermission, hu, ho, hres]
  | some o =>
      rw [ho] at hquery
      by_cases hexp : o.Expired now
      · rw [effective_iff_roleHas (fun o' ho' => hquery.unique ho' ▸ hexp)]
        simp [hasPermission, hu, ho, hres, hexp]
      · rw [effective_iff_isGranted hquery hexp]
        simp [hasPermission, hu, ho, hexp]

/-- Without a resource `has_permission` looks at the role only. -/
theorem hasPermission_none {u : RoleUser} (hu : s.users.get userId = some u)
    (module : PermissionModule) (action : PermissionAction) {resource : Option String}
    (hr : resourceOrNone resource = none) :
    (s.hasPermission now userId module action resource).1 = true ↔
      s.RoleHas userId module action none := by
  have hover : s.overrideOf userId module action resource = none := by
    cases resource with
    | none => rfl
    | some r =>
        have hempty : r = "" := by simpa [resourceOrNone] using hr
        simp [overrideOf, hempty]
  simp [hasPermission, hu, hover, hr]

/-- When `has_permission` without a resource is right all the same: the overrides say what the role
says.  With an empty text it answers for the permission without resource. -/
def Agreeing (s : Rbac) (now : ℤ) (userId : ℕ) (module : PermissionModule)
    (action : PermissionAction) : Option String → Prop
  | none => ∀ o, s.Overrides userId (module, action, none) o → ¬ o.Expired now →
      (o.isGranted = true ↔ s.RoleHas userId module action none)
  | some r => r = "" →
      (s.RoleHas userId module action none ↔ s.Effective now userId (module, action, some ""))

theorem roleHas_iff_effective (s : Rbac) (now : ℤ) (userId : ℕ) (module : PermissionModule)
    (action : PermissionAction) :
    (s.RoleHas userId module action none ↔ s.Effective now userId (module, action, none)) ↔
      s.Agreeing now userId module action none := by
  constructor
  · intro h o ho hlive
    rw [h, effective_iff_isGranted ho hlive]
  · intro h
    by_cases hex : ∃ o, s.Overrides userId (module, action, none) o ∧ ¬ o.Expired now
    · obtain ⟨o, ho, hlive⟩ := hex
      rw [effective_iff_isGranted ho hlive, h o ho hlive]
    · rw [effective_iff_roleHas]
      intro o ho
      by_contra hlive
      exact hex ⟨o, ho, hlive⟩

/-- The two functions give the same answer. -/
def SameAnswer (s : Rbac) (now : ℤ) (userId : ℕ) (module : PermissionModule)
    (action : PermissionAction) (resource : Option String) : Prop :=
  (s.hasPermission now userId module action resource).1 = true ↔
    ∃ p ∈ s.getUserPermissions now userId, p.subject = (module, action, resource)

/-- **After every history, the two answers agree on all permissions with a resource, and on one
without exactly if the user's overrides of it say what his role says.** -/
theorem permission_answers_agree_iff (s : Rbac) (history : List Call) (now : ℤ) (userId : ℕ)
    (module : PermissionModule) (action : PermissionAction) (resource : Option String) :
    (exec step s history).SameAnswer now userId module action resource ↔
      ((exec step s history).users.get userId ≠ none →
        (exec step s history).Agreeing now userId module action resource) := by
  generalize exec step s history = s'
  unfold SameAnswer
  cases hu : s'.users.get userId with
  | none => simp [hasPermission, getUserPermissions, hu]
  | some u =>
      simp only [ne_eq, reduceCtorEq, not_false_eq_true, true_imp_iff]
      rw [exists_mem_getUserPermissions hu]
      cases resource with
      | none =>
          rw [hasPermission_none hu module action rfl]
          exact s'.roleHas_iff_effective now userId module action
      | some r =>
          by_cases hr : r = ""
          · subst hr
            rw [hasPermission_none hu module action (by simp [resourceOrNone])]
            simp [Agreeing]
          · rw [hasPermission_resource hu module action hr]
            simp [Agreeing, hr]

/-- A user without role, and one permission without resource. -/
def oneUser : Rbac where
  users := ⟨[⟨1, none⟩], by decide⟩
  roles := ⟨[], by decide⟩
  permissions := ⟨[⟨1, .routers, .read, none⟩], by decide⟩
  overrides := ⟨[], by decide⟩
  distinct := by decide

/-- The permission is granted to the user for good; the list has it, and the check denies it. -/
theorem permission_answers_differ :
    ¬ (exec step oneUser [.grantUserPermission 1 1 none none]).SameAnswer 0 1 .routers .read none := by
  unfold SameAnswer
  decide

end Rbac

end IspBilling
