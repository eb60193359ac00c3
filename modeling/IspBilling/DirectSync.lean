import IspBilling.AgentScript
import IspBilling.Subscription

/-! # Two ways to synchronise a subscription

`sync_subscription_to_router` (`app/modules/subscriptions/router_sync.py`) has two
implementations.  On a router with an agent it queues a command, and the RouterOS script
executes it; any other router is called at once through its API.  `agentSync` is the first way,
with all queued commands executed, and `directSync` the second one, without failures.

What the two leave for the user of the subscription is its `RouterEntry`.  They treat lapsed
subscriptions alike, but not active ones: only the API path enables a disabled user and sets the
limits of a new one, and only the script updates the password.  `direct_agent_agree_iff` lists
exactly when none of this makes a difference. -/

namespace IspBilling

open Rows

/-- What the router keeps for a user, with the rate limit of its profile. -/
structure RouterEntry where
  disabled : Bool
  password : String
  profile : String
  rateLimit : Option String
  limitUptime : String
  limitBytesTotal : String
deriving DecidableEq, Repr

def profileRate (profiles : List RouterProfile) (name : String) : Option String :=
  (profiles.find? (fun p => decide (p.name = name))).map RouterProfile.rateLimit

namespace RouterState

def profiles (r : RouterState) : UserType → List RouterProfile
  | .hotspot => r.hotspotProfiles
  | .pppoe => r.pppProfiles

def users (r : RouterState) : UserType → UserTable
  | .hotspot => r.hotspotUsers
  | .pppoe => r.pppSecrets

def entry (r : RouterState) (type : UserType) (name : String) : Option RouterEntry :=
  (r.lookup type name).map (fun u =>
    ⟨u.disabled, u.password, u.profile, profileRate (r.profiles type) u.profile, u.limitUptime,
      u.limitBytesTotal⟩)

def mapUsers (type : UserType) (f : UserTable → UserTable) (r : RouterState) : RouterState :=
  match type with
  | .hotspot => { r with hotspotUsers := f r.hotspotUsers }
  | .pppoe => { r with pppSecrets := f r.pppSecrets }

def mapProfiles (type : UserType) (f : List RouterProfile → List RouterProfile)
    (r : RouterState) : RouterState :=
  match type with
  | .hotspot => { r with hotspotProfiles := f r.hotspotProfiles }
  | .pppoe => { r with pppProfiles := f r.pppProfiles }

end RouterState

/-! ### The API path -/

/-- `_ensure_hotspot_profile_exists` and `_ensure_ppp_profile_exists`: the rate limit is written
also when it is empty. -/
def ensureProfileExists (name rateLimit : String) (profiles : List RouterProfile) :
    List RouterProfile :=
  if name ∈ profiles.map RouterProfile.name then
    updateWhere (fun p => decide (p.name = name)) (fun p => { p with rateLimit := rateLimit })
      profiles
  else profiles ++ [⟨name, rateLimit⟩]

/-- The limits of a new user; a PPP secret gets none. -/
def userLimits (s : Subscription) (plan : ServicePlan) : String × String :=
  match s.subscriptionType with
  | .hotspot => (plan.limitUptimeStr, plan.limitBytesStr)
  | .pppoe => ("", "")

/-- The user that `_create_hotspot_user_with_limits` or `_create_pppoe_user_with_limits` adds. -/
def newUserWithLimits (s : Subscription) (plan : ServicePlan) : RouterUser :=
  { RouterUser.new s.username s.password plan.profileName with
    limitUptime := (userLimits s plan).1
    limitBytesTotal := (userLimits s plan).2 }

/-- `_create_hotspot_user_with_limits` and `_create_pppoe_user_with_limits`. -/
def createUserWithLimits (s : Subscription) (plan : ServicePlan) (r : RouterState) : RouterState :=
  let type := s.subscriptionType.userType
  (r.mapProfiles type (ensureProfileExists plan.profileName plan.buildRateLimit)).mapUsers type
    (fun t => t.add (newUserWithLimits s plan))

/-- `_update_user_profile`. -/
def updateUserProfile (s : Subscription) (plan : ServicePlan) (r : RouterState) : RouterState :=
  let type := s.subscriptionType.userType
  (r.mapProfiles type (ensureProfileExists plan.profileName plan.buildRateLimit)).mapUsers type
    (fun t => t.set s.username (fun u => { u with profile := plan.profileName, disabled := false })
      (fun _ => rfl))

/-- `_ensure_user_on_router`. -/
def ensureUserOnRouter (s : Subscription) (plan : ServicePlan) (forceCreate : Bool)
    (r : RouterState) : RouterState :=
  let type := s.subscriptionType.userType
  match r.lookup type s.username with
  | some _ =>
      if forceCreate then
        createUserWithLimits s plan (r.mapUsers type (fun t => t.remove s.username))
      else updateUserProfile s plan r
  | none => createUserWithLimits s plan r

/-- `_disable_user_on_router`: cookies and hosts stay. -/
def disableUserOnRouter (s : Subscription) (r : RouterState) : RouterState :=
  match s.subscriptionType with
  | .hotspot =>
      RouterState.setDisabled .hotspot s.username true
        { r with hotspotActive := dropUser s.username r.hotspotActive }
  | .pppoe => (r.cutPpp s.username).setDisabled .pppoe s.username true

/-- `sync_subscription_to_router` through the API. -/
def directSync (s : Subscription) (plan : ServicePlan) (forceCreate : Bool) (r : RouterState) :
    RouterState :=
  match s.status with
  | .active => ensureUserOnRouter s plan forceCreate r
  | .expired | .suspended | .cancelled => disableUserOnRouter s r
  | .inactive | .pending => r

/-! ### The agent path -/

section Agent

variable (settings : AgentSettings) (importScript : String → RouterState → RouterState)

/-- `sync_subscription_to_router` through the agent: the commands that it queues, executed in
order. -/
def agentSync (now : ℤ) (id : String) (router : Router) (s : Subscription) (plan : ServicePlan)
    (r : RouterState) : RouterState :=
  (syncViaAgentQueue settings now id s router plan []).foldl
    (fun r c => r.execute importScript c.action) r

theorem agentSync_eq (now : ℤ) (id : String) (router : Router) (s : Subscription)
    (plan : ServicePlan) (r : RouterState) :
    agentSync settings importScript now id router s plan r =
      match s.status with
      | .active => r.execute importScript (s.createUser plan)
      | .expired | .suspended | .cancelled => r.execute importScript s.disableUser
      | .inactive | .pending => r := by
  unfold agentSync syncViaAgentQueue Subscription.syncAction
  cases s.status <;> rfl

end Agent

/-! ### What the two leave for the user -/

namespace RouterState

theorem lookup_eq (r : RouterState) (type : UserType) (name : String) :
    r.lookup type name = (r.users type).lookup name := by
  cases type <;> rfl

@[simp] theorem users_mapUsers (r : RouterState) (type : UserType) (f : UserTable → UserTable) :
    (r.mapUsers type f).users type = f (r.users type) := by
  cases type <;> rfl

@[simp] theorem profiles_mapUsers (r : RouterState) (type : UserType)
    (f : UserTable → UserTable) : (r.mapUsers type f).profiles type = r.profiles type := by
  cases type <;> rfl

@[simp] theorem users_mapProfiles (r : RouterState) (type : UserType)
    (f : List RouterProfile → List RouterProfile) :
    (r.mapProfiles type f).users type = r.users type := by
  cases type <;> rfl

@[simp] theorem profiles_mapProfiles (r : RouterState) (type : UserType)
    (f : List RouterProfile → List RouterProfile) :
    (r.mapProfiles type f).profiles type = f (r.profiles type) := by
  cases type <;> rfl

@[simp] theorem profiles_createUser (importScript : String → RouterState → RouterState)
    (r : RouterState) (name password profile rateLimit : String) (type : UserType) :
    (r.execute importScript (.createUser name password type profile rateLimit)).profiles type =
      ensureProfile profile rateLimit (r.profiles type) := by
  cases type <;> rfl

end RouterState

theorem profileRate_isSome {profiles : List RouterProfile} {name : String} :
    (profileRate profiles name).isSome ↔ name ∈ profiles.map RouterProfile.name := by
  simp [profileRate, List.find?_isSome, List.mem_map]

theorem profileRate_set (profiles : List RouterProfile) (name rateLimit : String)
    (h : name ∈ profiles.map RouterProfile.name) :
    profileRate (updateWhere (fun p => decide (p.name = name))
      (fun p => { p with rateLimit := rateLimit }) profiles) name = some rateLimit := by
  obtain ⟨old, hold⟩ := Option.isSome_iff_exists.mp (profileRate_isSome.mpr h)
  obtain ⟨p, hp, _⟩ := Option.map_eq_some_iff.mp hold
  have hname : p.name = name := by simpa using List.find?_some hp
  have hkey : ∀ p : RouterProfile,
      RouterProfile.name { p with rateLimit := rateLimit } = p.name := fun _ => rfl
  have hfind := find?_updateWhere (p := fun p => decide (p.name = name)) hkey profiles name
  rw [profileRate, hfind, hp]
  simp [hname]

theorem profileRate_add (profiles : List RouterProfile) (name rateLimit : String)
    (h : name ∉ profiles.map RouterProfile.name) :
    profileRate (profiles ++ [⟨name, rateLimit⟩]) name = some rateLimit := by
  have hnone : profiles.find? (fun p => decide (p.name = name)) = none := by
    simpa [List.find?_eq_none, List.mem_map] using h
  simp [profileRate, List.find?_append, hnone]

/-- The API path always writes the rate limit. -/
theorem profileRate_ensureProfileExists (profiles : List RouterProfile) (name rateLimit : String) :
    profileRate (ensureProfileExists name rateLimit profiles) name = some rateLimit := by
  unfold ensureProfileExists
  split
  · exact profileRate_set profiles name rateLimit ‹_›
  · exact profileRate_add profiles name rateLimit ‹_›

/-- The script leaves the rate limit of a present profile alone when the new one is empty. -/
theorem profileRate_ensureProfile (profiles : List RouterProfile) (name rateLimit : String) :
    profileRate (ensureProfile name rateLimit profiles) name =
      some (if rateLimit = "" then (profileRate profiles name).getD "" else rateLimit) := by
  unfold ensureProfile
  split
  · rename_i hmem
    split
    · obtain ⟨old, hold⟩ := Option.isSome_iff_exists.mp (profileRate_isSome.mpr hmem)
      rw [hold]
      rfl
    · exact profileRate_set profiles name rateLimit hmem
  · rename_i hmem
    have hnone : profileRate profiles name = none := by
      rw [← Option.not_isSome_iff_eq_none, profileRate_isSome]
      exact hmem
    rw [profileRate_add profiles name rateLimit hmem, hnone]
    split
    · rename_i hempty
      rw [hempty]
      rfl
    · rfl

section Entries

variable (s : Subscription) (plan : ServicePlan) (forceCreate : Bool) (r : RouterState)

theorem entry_createUserWithLimits (h : r.lookup s.subscriptionType.userType s.username = none) :
    (createUserWithLimits s plan r).entry s.subscriptionType.userType s.username =
      some ⟨false, s.password, plan.profileName, some plan.buildRateLimit, (userLimits s plan).1,
        (userLimits s plan).2⟩ := by
  rw [RouterState.lookup_eq] at h
  simp [createUserWithLimits, RouterState.entry, RouterState.lookup_eq, h, newUserWithLimits,
    RouterUser.new, profileRate_ensureProfileExists]

theorem entry_ensureUserOnRouter :
    (ensureUserOnRouter s plan forceCreate r).entry s.subscriptionType.userType s.username =
      match r.lookup s.subscriptionType.userType s.username with
      | some u =>
          if forceCreate then
            some ⟨false, s.password, plan.profileName, some plan.buildRateLimit,
              (userLimits s plan).1, (userLimits s plan).2⟩
          else some ⟨false, u.password, plan.profileName, some plan.buildRateLimit, u.limitUptime,
            u.limitBytesTotal⟩
      | none => some ⟨false, s.password, plan.profileName, some plan.buildRateLimit,
          (userLimits s plan).1, (userLimits s plan).2⟩ := by
  unfold ensureUserOnRouter
  cases h : r.lookup s.subscriptionType.userType s.username with
  | none =>
      simp only [h]
      exact entry_createUserWithLimits s plan r h
  | some u =>
      simp only [h]
      cases forceCreate with
      | true =>
          apply entry_createUserWithLimits
          rw [RouterState.lookup_eq, RouterState.users_mapUsers, UserTable.lookup_remove, if_pos rfl]
      | false =>
          rw [RouterState.lookup_eq] at h
          simp [updateUserProfile, RouterState.entry, RouterState.lookup_eq, h,
            profileRate_ensureProfileExists]

theorem entry_createUser (importScript : String → RouterState → RouterState) :
    (r.execute importScript (s.createUser plan)).entry s.subscriptionType.userType s.username =
      some ⟨((r.lookup s.subscriptionType.userType s.username).map RouterUser.disabled).getD false,
        s.password, plan.profileName,
        some (if plan.buildRateLimit = "" then
          (profileRate (r.profiles s.subscriptionType.userType) plan.profileName).getD ""
          else plan.buildRateLimit),
        ((r.lookup s.subscriptionType.userType s.username).map RouterUser.limitUptime).getD "",
        ((r.lookup s.subscriptionType.userType s.username).map
          RouterUser.limitBytesTotal).getD ""⟩ := by
  have hact : ∀ url, s.createUser plan ≠ .fetchImport url := by
    intro url
    simp [Subscription.createUser]
  rw [RouterState.entry, execute_lookup hact]
  simp only [Subscription.createUser, userEffect, and_self, if_true, Option.map_some,
    RouterState.profiles_createUser]
  cases r.lookup s.subscriptionType.userType s.username with
  | none => simp [RouterUser.new, profileRate_ensureProfile]
  | some u => simp [profileRate_ensureProfile]

theorem entry_disableUser (importScript : String → RouterState → RouterState) :
    (disableUserOnRouter s r).entry s.subscriptionType.userType s.username =
      (r.execute importScript s.disableUser).entry s.subscriptionType.userType s.username := by
  unfold disableUserOnRouter Subscription.disableUser
  cases s.subscriptionType <;> rfl

/-- The two paths agree on an active subscription: an empty rate limit does not meet a profile
that has one; a new user has no limits to set; and a present one is enabled and has the password,
or, if it is created again, the limits. -/
def Agree : Prop :=
  (plan.buildRateLimit = "" →
    ∀ old ∈ profileRate (r.profiles s.subscriptionType.userType) plan.profileName, old = "") ∧
  match r.lookup s.subscriptionType.userType s.username with
  | none => userLimits s plan = ("", "")
  | some u =>
      u.disabled = false ∧
        if forceCreate then (u.limitUptime, u.limitBytesTotal) = userLimits s plan
        else u.password = s.password

instance : Decidable (Agree s plan forceCreate r) :=
  match h : r.lookup s.subscriptionType.userType s.username with
  | none => decidable_of_iff ((plan.buildRateLimit = "" →
      ∀ old ∈ profileRate (r.profiles s.subscriptionType.userType) plan.profileName, old = "") ∧
      userLimits s plan = ("", "")) (by simp only [Agree, h])
  | some u => decidable_of_iff ((plan.buildRateLimit = "" →
      ∀ old ∈ profileRate (r.profiles s.subscriptionType.userType) plan.profileName, old = "") ∧
      u.disabled = false ∧
        if forceCreate then (u.limitUptime, u.limitBytesTotal) = userLimits s plan
        else u.password = s.password) (by simp only [Agree, h])

/-- The rate limits agree unless an empty one meets a profile that has one. -/
theorem rateLimit_agree_iff {rateLimit : String} {old : Option String} :
    rateLimit = (if rateLimit = "" then old.getD "" else rateLimit) ↔
      (rateLimit = "" → ∀ x ∈ old, x = "") := by
  by_cases h : rateLimit = ""
  · cases old with
    | none => simp [h]
    | some x => simp [h, eq_comm]
  · simp [h]

theorem active_agree_iff (importScript : String → RouterState → RouterState) :
    (ensureUserOnRouter s plan forceCreate r).entry s.subscriptionType.userType s.username =
        (r.execute importScript (s.createUser plan)).entry s.subscriptionType.userType
          s.username ↔ Agree s plan forceCreate r := by
  rw [entry_ensureUserOnRouter, entry_createUser]
  cases h : r.lookup s.subscriptionType.userType s.username with
  | none =>
      simp only [Agree, h, Option.some.injEq, RouterEntry.mk.injEq, Option.map_none,
        Option.getD_none, true_and, rateLimit_agree_iff, Prod.ext_iff]
  | some u =>
      cases forceCreate with
      | true =>
          simp only [Agree, h, if_true, Option.some.injEq, RouterEntry.mk.injEq, Option.map_some,
            Option.getD_some, true_and, rateLimit_agree_iff, Prod.ext_iff]
          constructor
          · rintro ⟨hdis, hrate, hup, hbytes⟩
            exact ⟨hrate, hdis.symm, hup.symm, hbytes.symm⟩
          · rintro ⟨hrate, hdis, hup, hbytes⟩
            exact ⟨hdis.symm, hrate, hup.symm, hbytes.symm⟩
      | false =>
          simp only [Agree, h, if_false, Bool.false_eq_true, Option.some.injEq,
            RouterEntry.mk.injEq, Option.map_some, Option.getD_some, true_and, and_true,
            rateLimit_agree_iff]
          constructor
          · rintro ⟨hdis, hpw, hrate⟩
            exact ⟨hrate, hdis.symm, hpw⟩
          · rintro ⟨hrate, hdis, hpw⟩
            exact ⟨hdis.symm, hpw, hrate⟩

end Entries

/-- **When the two paths agree**: for every subscription, plan and router, the API path and the
agent path leave the same entry for the user if and only if the subscription is not active or
`Agree` holds of the router before. -/
theorem direct_agent_agree_iff (settings : AgentSettings)
    (importScript : String → RouterState → RouterState) (now : ℤ) (id : String) (router : Router)
    (s : Subscription) (plan : ServicePlan) (forceCreate : Bool) (r : RouterState) :
    (directSync s plan forceCreate r).entry s.subscriptionType.userType s.username =
        (agentSync settings importScript now id router s plan r).entry
          s.subscriptionType.userType s.username ↔
      (s.status = .active → Agree s plan forceCreate r) := by
  rw [agentSync_eq, directSync]
  cases s.status with
  | active =>
      rw [forall_prop_of_true rfl]
      exact active_agree_iff s plan forceCreate r importScript
  | expired | suspended | cancelled =>
      simp only [reduceCtorEq, false_implies, iff_true]
      exact entry_disableUser s r importScript
  | inactive | pending => simp

/-- A router without users and profiles. -/
def RouterState.blank : RouterState where
  hotspotUsers := ⟨[], List.nodup_nil⟩
  pppSecrets := ⟨[], List.nodup_nil⟩
  hotspotProfiles := []
  pppProfiles := []
  hotspotActive := []
  pppActive := []
  hotspotCookies := []
  hotspotHosts := []

/-- An active subscription to the package of one hour. -/
def hourlySubscription : Subscription :=
  ⟨1, some 1, 1, 1, .hotspot, .active, "alice", "pw", 0, none, false, none⟩

/-- On a blank router the API path caps the new user at one hour, and the agent path does not. -/
theorem new_user_uncapped_by_agent :
    ((directSync hourlySubscription .hourly false .blank).entry .hotspot "alice").map
        RouterEntry.limitUptime = some "3600s" ∧
      ((agentSync .default (fun _ r => r) 0 "a" ⟨1, 1, true, true, some "hash"⟩
        hourlySubscription .hourly .blank).entry .hotspot "alice").map
          RouterEntry.limitUptime = some "" ∧
      (directSync hourlySubscription .hourly false .blank).entry .hotspot "alice" ≠
        (agentSync .default (fun _ r => r) 0 "a" ⟨1, 1, true, true, some "hash"⟩
          hourlySubscription .hourly .blank).entry .hotspot "alice" := by
  decide

end IspBilling
