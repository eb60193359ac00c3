import IspBilling.CommandQueue

/-! # The agent script on the router

The command handlers of the RouterOS script that `app/api/v1/router_agent.py` generates, over
the tables of the router they touch: hotspot users and PPP secrets, their profiles, the active
sessions, the MAC cookies and the hosts.

A user table has at most one user of a name, which the router enforces; `UserTable` carries
this.  `set [find name=…]` without a match does nothing.  An imported script (`fetch_import`)
may do anything and is a parameter.  `execute_lookup` is the spec of all handlers: what a
command does to one user, as a function of that user alone. -/

namespace IspBilling

open Rows

structure RouterUser where
  name : String
  password : String
  profile : String
  disabled : Bool
  /-- Accumulated connection time. -/
  uptime : ℕ
  limitUptime : String
  limitBytesTotal : String
deriving DecidableEq, Repr

/-- `user/add name=… password=… profile=…`: an enabled user without limits. -/
def RouterUser.new (name password profile : String) : RouterUser :=
  ⟨name, password, profile, false, 0, "", ""⟩

/-- A user table of the router: names are unique. -/
structure UserTable where
  rows : List RouterUser
  keyed : Keyed RouterUser.name rows
deriving DecidableEq

namespace UserTable

/-- `get [find name=…]`. -/
def lookup (t : UserTable) (name : String) : Option RouterUser :=
  t.rows.find? (fun u => decide (u.name = name))

/-- `set [find name=…] …`. -/
def set (t : UserTable) (name : String) (f : RouterUser → RouterUser)
    (hf : ∀ u, (f u).name = u.name) : UserTable :=
  ⟨updateWhere (fun u => decide (u.name = name)) f t.rows, t.keyed.updateWhere hf⟩

/-- `add`: a taken name is refused. -/
def add (t : UserTable) (u : RouterUser) : UserTable :=
  if h : u.name ∈ t.rows.map RouterUser.name then t
  else ⟨t.rows ++ [u], t.keyed.append_singleton h⟩

/-- `remove [find name=…]`. -/
def remove (t : UserTable) (name : String) : UserTable :=
  ⟨t.rows.filter (fun u => decide (u.name ≠ name)),
    t.keyed.sublist (List.filter_sublist.map RouterUser.name)⟩

theorem lookup_name {t : UserTable} {name : String} {u : RouterUser}
    (h : t.lookup name = some u) : u.name = name := (t.keyed.find?_eq_some.mp h).2

theorem lookup_eq_none {t : UserTable} {name : String} :
    t.lookup name = none ↔ name ∉ t.rows.map RouterUser.name := by
  simp [lookup, List.find?_eq_none]

@[simp] theorem lookup_set (t : UserTable) (name : String) (f : RouterUser → RouterUser)
    (hf : ∀ u, (f u).name = u.name) (m : String) :
    (t.set name f hf).lookup m = if m = name then (t.lookup m).map f else t.lookup m := by
  have hfind : (t.set name f hf).lookup m =
      (t.lookup m).map (fun u => if decide (u.name = name) = true then f u else u) :=
    find?_updateWhere hf t.rows m
  rw [hfind]
  cases hl : t.lookup m with
  | none => simp
  | some u =>
      have hu : u.name = m := lookup_name hl
      by_cases h : m = name
      · simp [hu, h]
      · simp [hu, h]

@[simp] theorem lookup_add (t : UserTable) (u : RouterUser) (m : String) :
    (t.add u).lookup m = if m = u.name then some ((t.lookup m).getD u) else t.lookup m := by
  unfold add
  split
  · rename_i hmem
    split
    · rename_i hm
      subst hm
      have hne : t.lookup u.name ≠ none := fun h => lookup_eq_none.mp h hmem
      obtain ⟨v, hv⟩ := Option.ne_none_iff_exists'.mp hne
      rw [hv]
      rfl
    · rfl
  · rename_i hnew
    have happ : UserTable.lookup ⟨t.rows ++ [u], t.keyed.append_singleton hnew⟩ m =
        (t.lookup m).or (if u.name = m then some u else none) := by
      simp only [lookup, List.find?_append, List.find?_singleton, decide_eq_true_eq]
    rw [happ]
    by_cases hm : m = u.name
    · subst hm
      rw [lookup_eq_none.mpr hnew]
      simp
    · have hne : ¬ u.name = m := fun h => hm h.symm
      simp [hm, hne]

@[simp] theorem lookup_remove (t : UserTable) (name m : String) :
    (t.remove name).lookup m = if m = name then none else t.lookup m := by
  unfold lookup remove
  rw [List.find?_filter]
  by_cases h : m = name
  · rw [if_pos h, List.find?_eq_none]
    intro u _
    simp only [decide_eq_true_eq, ne_eq]
    rintro ⟨hne, hu⟩
    exact hne (hu.trans h)
  · rw [if_neg h]
    congr 1
    funext u
    by_cases hu : u.name = m
    · simp [hu, h]
    · simp [hu]

end UserTable

structure RouterProfile where
  name : String
  rateLimit : String
deriving DecidableEq, Repr

/-- The tables that the script works on; sessions, cookies and hosts are listed by user. -/
structure RouterState where
  hotspotUsers : UserTable
  pppSecrets : UserTable
  hotspotProfiles : List RouterProfile
  pppProfiles : List RouterProfile
  hotspotActive : List String
  pppActive : List String
  hotspotCookies : List String
  hotspotHosts : List String
deriving DecidableEq

/-- A missing profile is added, and a present one gets the rate limit unless it is empty. -/
def ensureProfile (name rateLimit : String) (profiles : List RouterProfile) :
    List RouterProfile :=
  if name ∈ profiles.map RouterProfile.name then
    if rateLimit = "" then profiles
    else updateWhere (fun p => decide (p.name = name)) (fun p => { p with rateLimit := rateLimit })
      profiles
  else profiles ++ [⟨name, rateLimit⟩]

/-- `remove [find user=…]` on a list of sessions. -/
def dropUser (name : String) (l : List String) : List String := l.filter (fun u => decide (u ≠ name))

/-- Add the user if absent; otherwise set password and profile in place, where they differ. -/
def provisionUser (name password profile : String) (t : UserTable) : UserTable :=
  match t.lookup name with
  | none => t.add (.new name password profile)
  | some u =>
      let t := if u.password ≠ password then
        t.set name (fun u => { u with password := password }) (fun _ => rfl) else t
      if u.profile ≠ profile then
        t.set name (fun u => { u with profile := profile }) (fun _ => rfl) else t

namespace RouterState

/-- The user `name` of the given type. -/
def lookup (r : RouterState) (type : UserType) (name : String) : Option RouterUser :=
  match type with
  | .hotspot => r.hotspotUsers.lookup name
  | .pppoe => r.pppSecrets.lookup name

/-- Cut the hotspot sessions of a user: active entry, MAC cookie and host. -/
def cutHotspot (name : String) (r : RouterState) : RouterState :=
  { r with
    hotspotActive := dropUser name r.hotspotActive
    hotspotCookies := dropUser name r.hotspotCookies
    hotspotHosts := dropUser name r.hotspotHosts }

def cutPpp (name : String) (r : RouterState) : RouterState :=
  { r with pppActive := dropUser name r.pppActive }

/-- The `disabled` flag of a user, set in place. -/
def setDisabled (type : UserType) (name : String) (flag : Bool) (r : RouterState) : RouterState :=
  match type with
  | .hotspot =>
      { r with
        hotspotUsers := r.hotspotUsers.set name (fun u => { u with disabled := flag }) (fun _ => rfl) }
  | .pppoe =>
      { r with
        pppSecrets := r.pppSecrets.set name (fun u => { u with disabled := flag }) (fun _ => rfl) }

/-- The handlers of the script.  Actions it does not know are skipped. -/
def execute (importScript : String → RouterState → RouterState) (a : Action) (r : RouterState) :
    RouterState :=
  match a with
  | .disconnect name => (r.cutPpp name).cutHotspot name
  | .disableUser name .hotspot => (r.setDisabled .hotspot name true).cutHotspot name
  | .disableUser name .pppoe => (r.setDisabled .pppoe name true).cutPpp name
  | .enableUser name type => r.setDisabled type name false
  | .removeUser name .hotspot =>
      let r := r.cutHotspot name
      { r with hotspotUsers := r.hotspotUsers.remove name }
  | .removeUser name .pppoe =>
      let r := r.cutPpp name
      { r with pppSecrets := r.pppSecrets.remove name }
  | .createUser name password .hotspot profile rateLimit =>
      { r with
        hotspotProfiles := ensureProfile profile rateLimit r.hotspotProfiles
        hotspotUsers := provisionUser name password profile r.hotspotUsers }
  | .createUser name password .pppoe profile rateLimit =>
      { r with
        pppProfiles := ensureProfile profile rateLimit r.pppProfiles
        pppSecrets := provisionUser name password profile r.pppSecrets }
  | .fetchImport url => importScript url r
  | .setQueue .. => r
  | .runScript _ => r

end RouterState

/-! ### What a command does to one user -/

/-- The effect of a command on the user `name` of type `type`. -/
def userEffect (type : UserType) (name : String) (a : Action) (x : Option RouterUser) :
    Option RouterUser :=
  match a with
  | .disableUser n t => if name = n ∧ type = t then x.map (fun u => { u with disabled := true }) else x
  | .enableUser n t => if name = n ∧ type = t then x.map (fun u => { u with disabled := false }) else x
  | .removeUser n t => if name = n ∧ type = t then none else x
  | .createUser n password t profile _ =>
      if name = n ∧ type = t then
        some ((x.map (fun u => { u with password := password, profile := profile })).getD
          (.new n password profile))
      else x
  | .disconnect _ | .setQueue .. | .fetchImport _ | .runScript _ => x

theorem lookup_provisionUser (t : UserTable) (n password profile m : String) :
    (provisionUser n password profile t).lookup m =
      if m = n then
        some (((t.lookup m).map (fun u => { u with password := password, profile := profile })).getD
          (.new n password profile))
      else t.lookup m := by
  unfold provisionUser
  cases hl : t.lookup n with
  | none =>
      simp only [UserTable.lookup_add, RouterUser.new]
      by_cases hm : m = n
      · subst hm
        simp [hl]
      · simp [hm]
  | some u =>
      simp only
      by_cases hm : m = n
      · subst hm
        -- a column that already has its value is written without effect
        by_cases hpw : u.password = password
        · by_cases hpr : u.profile = profile
          · subst hpw hpr
            simp [hl]
          · simp [hl, hpw, hpr]
        · by_cases hpr : u.profile = profile
          · simp [hl, hpw, hpr]
          · simp [hl, hpw, hpr]
      · by_cases hpw : u.password = password <;> by_cases hpr : u.profile = profile <;>
          simp [hm, hpw, hpr]

/-- **Spec of the handlers**: a command changes every user by its effect, and no other. -/
theorem execute_lookup {importScript : String → RouterState → RouterState} {a : Action}
    (ha : ∀ url, a ≠ .fetchImport url) (r : RouterState) (type : UserType) (name : String) :
    (r.execute importScript a).lookup type name = userEffect type name a (r.lookup type name) := by
  cases a with
  | disconnect n => rfl
  | setQueue target maxLimit => rfl
  | runScript script => rfl
  | fetchImport url => exact absurd rfl (ha url)
  | enableUser n t =>
      cases t <;> cases type <;>
        simp [RouterState.execute, RouterState.setDisabled, RouterState.lookup, userEffect]
  | disableUser n t =>
      cases t <;> cases type <;>
        simp [RouterState.execute, RouterState.setDisabled, RouterState.cutHotspot,
          RouterState.cutPpp, RouterState.lookup, userEffect]
  | removeUser n t =>
      cases t <;> cases type <;>
        simp [RouterState.execute, RouterState.cutHotspot, RouterState.cutPpp, RouterState.lookup,
          userEffect]
  | createUser n password t profile rateLimit =>
      cases t <;> cases type <;>
        simp [RouterState.execute, RouterState.lookup, userEffect, lookup_provisionUser]

end IspBilling
