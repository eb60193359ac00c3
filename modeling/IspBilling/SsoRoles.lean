import IspBilling.IdentityLinks

/-! # The roles of SSO users

`provision_sso_user` maps the roles of the claims to a role of the user and links the RBAC role of that
name, which carries the permissions.  Claims without roles are to leave both alone.  An existing user
gets the mapped role unless it is `CUSTOMER` and his own is not: the test is meant for claims without
roles, which have been excluded already, and it excludes a demotion to customer.

`rolesFollow_iff` lists the runs in which every user has what his last claims with roles say. -/

namespace IspBilling

open Rows Runs

/-! ### Calls -/

/-- The claims carry role information. -/
def SsoClaims.hasRoles (c : SsoClaims) : Bool := !c.roles.isEmpty || c.isPlatformOwner

/-- A call of `provision_sso_user`. -/
structure SsoCall where
  claims : SsoClaims
  ctx : CommitContext
deriving DecidableEq, Repr

namespace Directory

variable (txt : IdentityText)

/-- The user that a call returns: the one that it finds, or creates. -/
def ssoUser (s : Directory) (call : SsoCall) : Option ℕ :=
  if (given call.claims.sub = none ∧ call.claims.emailOf txt = "") ∨ call.ctx.taken = false then none
  else
    match s.userOf (given call.claims.sub) (call.claims.emailOf txt) with
    | some u => some u.id
    | none =>
        (s.newUser txt call.claims (s.resolveOrganizationId txt call.claims) call.ctx).bind fun u =>
          if s.users.rows.any (fun x => decide (x.email = u.email)) then none
          else if u.id ∈ s.users.rows.map LocalUser.id then none
          else some u.id

/-- The user has the role, and the RBAC role of its name. -/
def HasRole (s : Directory) (id : ℕ) (role : UserRole) : Prop :=
  ∃ u, s.users.get id = some u ∧ u.role = role ∧
    ∃ roleId, s.roleIdOf role = some roleId ∧ u.roleId = some roleId

/-- All users of `s` have their role and their RBAC role in `t`. -/
def RolesKept (s t : Directory) : Prop :=
  ∀ id u, s.users.get id = some u →
    ∃ u', t.users.get id = some u' ∧ u'.role = u.role ∧ u'.roleId = u.roleId

end Directory

/-! ### Runs -/

/-- The tables, and for each user the role that his last claims with role information say. -/
structure SsoHistory where
  directory : Directory
  last : ℕ → Option UserRole

namespace SsoHistory

variable (txt : IdentityText)

def step (h : SsoHistory) (call : SsoCall) : SsoHistory where
  directory := h.directory.provisionSsoUser txt call.claims call.ctx
  last := fun id =>
    if call.claims.hasRoles = true ∧ h.directory.ssoUser txt call = some id then
      some (call.claims.ispRole txt)
    else h.last id

/-- Every user has what his last claims with role information say. -/
def InStep (h : SsoHistory) : Prop :=
  ∀ id role, h.last id = some role → h.directory.HasRole id role

/-- A call without role information changes no roles. -/
def KeepsRoles (h : SsoHistory) (call : SsoCall) : Prop :=
  call.claims.hasRoles = false → h.directory.RolesKept (h.step txt call).directory

/-- Claims with roles find the RBAC role in the table and demote nobody to a customer; claims without
find a user whose RBAC role is that of his role, if there is one. -/
def Follows (h : SsoHistory) (call : SsoCall) : Prop :=
  ∀ id, h.directory.ssoUser txt call = some id →
    (call.claims.hasRoles = true → h.directory.roleIdOf (call.claims.ispRole txt) ≠ none ∧
      ∀ u, h.directory.users.get id = some u → call.claims.ispRole txt = .customer →
        u.role = .customer) ∧
    (call.claims.hasRoles = false → ∀ u, h.directory.users.get id = some u →
      h.directory.roleIdOf u.role = none ∨ h.directory.roleIdOf u.role = u.roleId)

end SsoHistory

/-! ### One call -/

section Call

variable {txt : IdentityText}

/-- The three things that a call does: nothing, a refreshed user, or a new one. -/
theorem provisionSsoUser_user (s : Directory) (call : SsoCall) :
    (s.ssoUser txt call = none ∧ s.provisionSsoUser txt call.claims call.ctx = s) ∨
      (∃ u ∈ s.users.rows, s.ssoUser txt call = some u.id ∧
        s.provisionSsoUser txt call.claims call.ctx = { s with
          users := s.users.update u.id (s.refreshed txt call.claims
            (s.resolveOrganizationId txt call.claims) call.ctx.now)
            (s.refreshed_id txt call.claims (s.resolveOrganizationId txt call.claims)
              call.ctx.now) }) ∨
      ∃ u, u.id ∉ s.users.rows.map LocalUser.id ∧ u.role = call.claims.ispRole txt ∧
        u.roleId = s.roleIdOf (call.claims.ispRole txt) ∧ s.ssoUser txt call = some u.id ∧
        s.provisionSsoUser txt call.claims call.ctx = { s with users := s.users.insert u } := by
  unfold Directory.ssoUser Directory.provisionSsoUser
  by_cases hrefused :
      (given call.claims.sub = none ∧ call.claims.emailOf txt = "") ∨ call.ctx.taken = false
  · exact Or.inl ⟨if_pos hrefused, if_pos hrefused⟩
  rw [if_neg hrefused, if_neg hrefused]
  dsimp only
  cases hfound : s.userOf (given call.claims.sub) (call.claims.emailOf txt) with
  | some u => exact Or.inr (Or.inl ⟨u, Directory.userOf_mem hfound, rfl, rfl⟩)
  | none =>
      cases hnew : s.newUser txt call.claims (s.resolveOrganizationId txt call.claims) call.ctx with
      | none => exact Or.inl ⟨rfl, rfl⟩
      | some u =>
          dsimp only [Option.bind_some]
          by_cases hemail : s.users.rows.any (fun x => decide (x.email = u.email)) = true
          · exact Or.inl ⟨if_pos hemail, if_pos hemail⟩
          rw [if_neg hemail, if_neg hemail]
          by_cases hid : u.id ∈ s.users.rows.map LocalUser.id
          · refine Or.inl ⟨if_pos hid, ?_⟩
            unfold Table.insert
            rw [dif_pos hid]
          · rw [if_neg hid]
            obtain ⟨username, _, hu⟩ := Option.map_eq_some_iff.mp hnew
            refine Or.inr (Or.inr ⟨u, hid, ?_, ?_, rfl, rfl⟩)
            · rw [← hu]
            · rw [← hu]

theorem synced_eq_incoming_iff {role incoming : UserRole} :
    role.synced incoming true = incoming ↔ (incoming = .customer → role = .customer) := by
  cases role <;> cases incoming <;> decide

theorem synced_without (role incoming : UserRole) : role.synced incoming false = role := rfl

theorem roleIdOf_provisionSsoUser (s : Directory) (call : SsoCall) (role : UserRole) :
    (s.provisionSsoUser txt call.claims call.ctx).roleIdOf role = s.roleIdOf role := by
  rcases provisionSsoUser_user s call with ⟨_, h⟩ | ⟨u, _, _, h⟩ | ⟨u, _, _, _, _, h⟩
  · rw [h]
  · rw [h]
    rfl
  · rw [h]
    rfl

namespace SsoHistory

variable {h : SsoHistory} {call : SsoCall}

theorem get_ssoUser {id : ℕ} (hid : h.directory.ssoUser txt call = some id) :
    ∃ u', (h.step txt call).directory.users.get id = some u' ∧
      ((∃ u, h.directory.users.get id = some u ∧
          u'.role = u.role.synced (call.claims.ispRole txt) call.claims.hasRoles ∧
          u'.roleId = (h.directory.roleIdOf u'.role).or u.roleId) ∨
        h.directory.users.get id = none ∧ u'.role = call.claims.ispRole txt ∧
          u'.roleId = h.directory.roleIdOf u'.role) := by
  unfold step
  dsimp only
  rcases provisionSsoUser_user h.directory call with
    ⟨hnone, _⟩ | ⟨u, hu, hfound, hstep⟩ | ⟨u, hfresh, hrole, hroleId, hcreated, hstep⟩
  · rw [hnone] at hid
    cases hid
  · rw [hfound] at hid
    obtain rfl := Option.some.inj hid
    rw [hstep]
    dsimp only
    rw [Table.get_update_of_mem hu, if_pos rfl]
    exact ⟨_, rfl, Or.inl ⟨u, Table.get_key hu, rfl, rfl⟩⟩
  · rw [hcreated] at hid
    obtain rfl := Option.some.inj hid
    rw [hstep]
    refine ⟨u, ?_, Or.inr ⟨?_, hrole, by rw [hrole, hroleId]⟩⟩
    · have hmem : u ∈ (h.directory.users.insert u).rows := by
        rw [Table.rows_insert hfresh]
        exact List.mem_append_right _ (List.mem_singleton_self u)
      exact Table.get_key hmem
    · cases hget : h.directory.users.get u.id with
      | none => rfl
      | some u₀ =>
          obtain ⟨hmem, hkey⟩ := Table.get_eq_some.mp hget
          exact absurd (List.mem_map.mpr ⟨u₀, hmem, hkey⟩) hfresh

theorem get_other {id : ℕ} (hid : h.directory.ssoUser txt call ≠ some id) {u : LocalUser}
    (hu : h.directory.users.get id = some u) :
    (h.step txt call).directory.users.get id = some u := by
  unfold step
  dsimp only
  rcases provisionSsoUser_user h.directory call with
    ⟨_, hstep⟩ | ⟨u₀, hmem, hfound, hstep⟩ | ⟨u₀, _, _, _, _, hstep⟩
  · rw [hstep]
    exact hu
  · rw [hstep]
    dsimp only
    rw [Table.get_update_of_mem hmem, if_neg]
    · exact hu
    · rintro rfl
      exact hid hfound
  · rw [hstep]
    exact Table.get_insert_of_some hu

theorem hasRole_iff_of_hasRoles (hroles : call.claims.hasRoles = true) {id : ℕ}
    (hid : h.directory.ssoUser txt call = some id) :
    (h.step txt call).directory.HasRole id (call.claims.ispRole txt) ↔
      h.directory.roleIdOf (call.claims.ispRole txt) ≠ none ∧
        ∀ u, h.directory.users.get id = some u → call.claims.ispRole txt = .customer →
          u.role = .customer := by
  have hroleIdOf : (h.step txt call).directory.roleIdOf (call.claims.ispRole txt) =
      h.directory.roleIdOf (call.claims.ispRole txt) := roleIdOf_provisionSsoUser ..
  obtain ⟨u', hu', hcases⟩ := get_ssoUser hid
  unfold Directory.HasRole
  rw [hroleIdOf]
  rcases hcases with ⟨u, hu, hrole, hroleId⟩ | ⟨hnone, hrole, hroleId⟩
  · rw [hroles] at hrole
    constructor
    · rintro ⟨v, hv, hvrole, roleId, hroleIdSome, -⟩
      obtain rfl : u' = v := Option.some.inj (hu'.symm.trans hv)
      refine ⟨by simp [hroleIdSome], ?_⟩
      intro v hv hcustomer
      obtain rfl : u = v := Option.some.inj (hu.symm.trans hv)
      exact synced_eq_incoming_iff.mp (hrole.symm.trans hvrole) hcustomer
    · rintro ⟨hsome, hdemote⟩
      obtain ⟨roleId, hroleIdSome⟩ := Option.ne_none_iff_exists'.mp hsome
      have hrole' : u'.role = call.claims.ispRole txt :=
        hrole.trans (synced_eq_incoming_iff.mpr (hdemote u hu))
      refine ⟨u', hu', hrole', roleId, hroleIdSome, ?_⟩
      rw [hroleId, hrole', hroleIdSome]
      rfl
  · constructor
    · rintro ⟨_, _, _, roleId, hroleIdSome, -⟩
      refine ⟨by simp [hroleIdSome], ?_⟩
      intro v hv
      rw [hnone] at hv
      cases hv
    · rintro ⟨hsome, -⟩
      obtain ⟨roleId, hroleIdSome⟩ := Option.ne_none_iff_exists'.mp hsome
      exact ⟨u', hu', hrole, roleId, hroleIdSome, by rw [hroleId, hrole, hroleIdSome]⟩

theorem kept_iff_of_not_hasRoles (hroles : call.claims.hasRoles = false) {id : ℕ} {u : LocalUser}
    (hid : h.directory.ssoUser txt call = some id) (hu : h.directory.users.get id = some u) :
    (∃ u', (h.step txt call).directory.users.get id = some u' ∧ u'.role = u.role ∧
        u'.roleId = u.roleId) ↔
      h.directory.roleIdOf u.role = none ∨ h.directory.roleIdOf u.role = u.roleId := by
  obtain ⟨u', hu', hcases⟩ := get_ssoUser hid
  rcases hcases with ⟨v, hv, hrole, hroleId⟩ | ⟨hnone, _, _⟩
  · obtain rfl : u = v := Option.some.inj (hu.symm.trans hv)
    rw [hroles, synced_without] at hrole
    rw [hrole] at hroleId
    simp only [hu', Option.some.injEq, exists_eq_left', hrole, true_and, hroleId]
    cases h.directory.roleIdOf u.role with
    | none => simp
    | some roleId => simp
  · rw [hnone] at hu
    cases hu

/-- **One call** keeps all users in step exactly if its claims have no roles, or find the RBAC role and
demote nobody to a customer. -/
theorem inStep_step_iff (hstep : h.InStep) : (h.step txt call).InStep ↔
    ∀ id, h.directory.ssoUser txt call = some id → call.claims.hasRoles = true →
      h.directory.roleIdOf (call.claims.ispRole txt) ≠ none ∧
        ∀ u, h.directory.users.get id = some u → call.claims.ispRole txt = .customer →
          u.role = .customer := by
  constructor
  · intro hnext id hid hroles
    rw [← hasRole_iff_of_hasRoles hroles hid]
    refine hnext id _ ?_
    simp [step, hroles, hid]
  · intro hok id role hlast
    by_cases hid : h.directory.ssoUser txt call = some id
    · by_cases hroles : call.claims.hasRoles = true
      · have hrole : call.claims.ispRole txt = role := by simpa [step, hroles, hid] using hlast
        rw [← hrole]
        exact (hasRole_iff_of_hasRoles hroles hid).mpr (hok id hid hroles)
      · -- Claims without roles find the user in step, and leave him so.
        have hold : h.last id = some role := by simpa [step, hroles] using hlast
        obtain ⟨u, hu, rfl, roleId, hroleId, hlink⟩ := hstep id role hold
        obtain ⟨u', hu', hrole', hlink'⟩ :=
          (kept_iff_of_not_hasRoles (by simpa using hroles) hid hu).mpr
            (Or.inr (hroleId.trans hlink.symm))
        refine ⟨u', hu', hrole', roleId, ?_, hlink'.trans hlink⟩
        exact (roleIdOf_provisionSsoUser ..).trans hroleId
    · have hold : h.last id = some role := by simpa [step, hid] using hlast
      obtain ⟨u, hu, hrole, roleId, hroleId, hlink⟩ := hstep id role hold
      refine ⟨u, get_other hid hu, hrole, roleId, ?_, hlink⟩
      exact (roleIdOf_provisionSsoUser ..).trans hroleId

theorem keepsRoles_iff : h.KeepsRoles txt call ↔
    ∀ id, h.directory.ssoUser txt call = some id → call.claims.hasRoles = false →
      ∀ u, h.directory.users.get id = some u →
        h.directory.roleIdOf u.role = none ∨ h.directory.roleIdOf u.role = u.roleId := by
  constructor
  · intro hkeeps id hid hroles u hu
    exact (kept_iff_of_not_hasRoles hroles hid hu).mp (hkeeps hroles id u hu)
  · intro hok hroles id u hu
    by_cases hid : h.directory.ssoUser txt call = some id
    · exact (kept_iff_of_not_hasRoles hroles hid hu).mpr (hok id hid hroles u hu)
    · exact ⟨u, get_other hid hu, rfl, rfl⟩

end SsoHistory

end Call

/-! ### Runs -/

namespace Directory

variable (txt : IdentityText)

/-- In every state of the run each user has what his last claims with roles say, and no call without
roles changes any. -/
def RolesFollow (s : Directory) (calls : List SsoCall) : Prop :=
  Always (SsoHistory.step txt) SsoHistory.InStep ⟨s, fun _ => none⟩ calls ∧
    Along (SsoHistory.step txt) (SsoHistory.KeepsRoles txt) ⟨s, fun _ => none⟩ calls

/-- For every sequence of calls: the roles follow the claims exactly if no call demotes a user to a
customer, and the RBAC roles are as the calls need them. -/
theorem rolesFollow_iff (s : Directory) (calls : List SsoCall) : s.RolesFollow txt calls ↔
    Along (SsoHistory.step txt) (SsoHistory.Follows txt) ⟨s, fun _ => none⟩ calls := by
  have hstart : SsoHistory.InStep ⟨s, fun _ => none⟩ := fun _ _ hlast => absurd hlast (by simp)
  have hin : Always (SsoHistory.step txt) SsoHistory.InStep ⟨s, fun _ => none⟩ calls ↔ _ :=
    always_iff_along (J := fun _ => True) (fun _ _ _ => trivial)
      (fun h call _ hstep => SsoHistory.inStep_step_iff hstep) trivial hstart
  unfold RolesFollow
  rw [hin, along_and]
  refine Along.congr fun h call => ?_
  rw [SsoHistory.keepsRoles_iff]
  unfold SsoHistory.Follows
  constructor
  · rintro ⟨hroles, hnone⟩ id hid
    exact ⟨hroles id hid, hnone id hid⟩
  · intro hall
    exact ⟨fun id hid => (hall id hid).1, fun id hid => (hall id hid).2⟩

/-- An admin whose only role is `customer` by now. -/
def demoted : SsoCall :=
  ⟨{ sub := some "subject-1"
     email := some "jane@acme.example"
     fullName := none
     roles := ["customer"]
     tenantId := none
     tenantSlug := none
     isPlatformOwner := false }, ⟨1, 2, true⟩⟩

/-- The tables of `linkedDirectory`, with the RBAC roles. -/
def seededDirectory : Directory :=
  { linkedDirectory with roles := [⟨1, "superuser"⟩, ⟨2, "admin"⟩, ⟨3, "technician"⟩, ⟨4, "customer"⟩] }

/-- The claims say customer, and the user stays an admin, with the admin's permissions. -/
theorem demotion_ignored :
    demoted.claims.ispRole asciiText = .customer ∧
      (seededDirectory.provisionSsoUser asciiText demoted.claims demoted.ctx).HasRole 1 .ispAdmin ∧
      ¬ seededDirectory.RolesFollow asciiText [demoted] := by
  refine ⟨by decide, ?_, ?_⟩
  · obtain ⟨u, hu⟩ : ∃ u, (seededDirectory.provisionSsoUser asciiText demoted.claims
        demoted.ctx).users.get 1 = some u ∧ u.role = .ispAdmin ∧ u.roleId = some 2 :=
      ⟨_, rfl, by decide, by decide⟩
    exact ⟨u, hu.1, hu.2.1, 2, by decide, hu.2.2⟩
  · rw [rolesFollow_iff]
    rintro ⟨hfollows, _⟩
    have hid : seededDirectory.ssoUser asciiText demoted = some 1 := by decide
    obtain ⟨u, hu, hrole⟩ : ∃ u, seededDirectory.users.get 1 = some u ∧ u.role = .ispAdmin :=
      ⟨_, rfl, rfl⟩
    have hcustomer := ((hfollows 1 hid).1 rfl).2 u hu (by decide)
    rw [hrole] at hcustomer
    cases hcustomer

end Directory

end IspBilling
