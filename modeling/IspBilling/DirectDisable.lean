import IspBilling.Subscription

/-! # Disabling a user through the API of the router

A router without an agent is called through the RouterOS API.  `_expire_hotspot_user_on_router`
(`app/modules/subscriptions/expiry_manager.py`) and `_disable_user_on_router`
(`app/modules/subscriptions/router_sync.py`) read the table of the users and that of the active
sessions, and change the rows of the username by their identifiers.  Both look for the identifier under
the key `.id`; the client of the repository reads it under `id` (`disable_user` and `execute_command` in
`app/integrations/mikrotik/client.py`).

`RouterOsClient` is the client with its connection: the key of the identifiers, which calls pass, and
what a write without identifier does.  `expireHotspotUserDirectly_of_dotId` says that the expiry keeps
its word when the key is the one it looks for, and `direct_disable_iff` what success means when the key
is `id`. -/

namespace IspBilling

open Rows

/-! ### The router and its client -/

/-- A row of `/ip/hotspot/user` or `/ppp/secret`. -/
structure RouterOsUser where
  id : String
  name : String
  disabled : Bool
deriving DecidableEq, Repr

/-- A row of `/ip/hotspot/active` or `/ppp/active`. -/
structure RouterOsSession where
  id : String
  user : String
deriving DecidableEq, Repr

/-- The tables of the router, by the type of the users. -/
structure RouterOsTables where
  users : UserType → List RouterOsUser
  active : UserType → List RouterOsSession

/-- A row as the API returns it. -/
abbrev ApiRow := List (String × String)

/-- The key of the username in the active table. -/
def UserType.sessionKey : UserType → String
  | .hotspot => "user"
  | .pppoe => "name"

def RouterOsUser.row (idKey : String) (u : RouterOsUser) : ApiRow :=
  [(idKey, u.id), ("name", u.name), ("disabled", if u.disabled then "true" else "false")]

def RouterOsSession.row (idKey : String) (type : UserType) (x : RouterOsSession) : ApiRow :=
  [(idKey, x.id), (type.sessionKey, x.user)]

/-- The client, connected to a router. -/
structure RouterOsClient where
  /-- The key of the identifier of a row. -/
  idKey : String
  /-- The calls that pass; the others raise. -/
  connects : Bool
  readsUsers : Bool
  readsActive : Bool
  writes : String → Bool
  /-- A write with `id=None`; `none` when it raises. -/
  setWithoutId : UserType → RouterOsTables → Option RouterOsTables
  removeWithoutId : UserType → RouterOsTables → Option RouterOsTables

/-- Code that calls the router: it may raise, and what it has written stays. -/
abbrev ApiM := OptionT (StateM RouterOsTables)

namespace RouterOsClient

variable (c : RouterOsClient)

def connect : ApiM Unit := if c.connects then pure () else failure

/-- `execute_command(…, method="get")` on the table of the users. -/
def getUsers (type : UserType) : ApiM (List ApiRow) := do
  if c.readsUsers then
    let tables ← get
    pure ((tables.users type).map (RouterOsUser.row c.idKey))
  else failure

/-- `execute_command(…, method="get")` on the table of the sessions. -/
def getActive (type : UserType) : ApiM (List ApiRow) := do
  if c.readsActive then
    let tables ← get
    pure ((tables.active type).map (RouterOsSession.row c.idKey type))
  else failure

/-- Store the tables of a write, or raise. -/
def store : Option RouterOsTables → ApiM Unit
  | some tables => set tables
  | none => failure

/-- `execute_command(…, method="set", id=id, disabled="yes")`. -/
def setDisabled (type : UserType) (id : Option String) : ApiM Unit := do
  let tables ← get
  match id with
  | none => store (c.setWithoutId type tables)
  | some id =>
      if c.writes id ∧ id ∈ (tables.users type).map RouterOsUser.id then
        set { tables with
          users := Function.update tables.users type
            (updateWhere (fun u => decide (u.id = id)) (fun u => { u with disabled := true })
              (tables.users type)) }
      else failure

/-- `execute_command(…, method="remove", id=id)` on the table of the sessions. -/
def remove (type : UserType) (id : Option String) : ApiM Unit := do
  let tables ← get
  match id with
  | none => store (c.removeWithoutId type tables)
  | some id =>
      if c.writes id ∧ id ∈ (tables.active type).map RouterOsSession.id then
        set { tables with
          active := Function.update tables.active type
            ((tables.active type).filter fun x => decide (x.id ≠ id)) }
      else failure

/-! ### The two ways to disable a user -/

/-- The row is of the username. -/
def isOf (key username : String) (row : ApiRow) : Bool := row.lookup key == some username

/-- The row has a nonempty value for the key `.id`. -/
def hasDotId (row : ApiRow) : Bool := ((row.lookup ".id").filter fun id => decide (id ≠ "")).isSome

/-- The loop of the expiry over the users, for one row. -/
def disableRow (username : String) (u : ApiRow) : ApiM Unit := do
  if isOf "name" username u && hasDotId u then c.setDisabled .hotspot (u.lookup ".id")

/-- The loop of the expiry over the sessions, for one row. -/
def removeRow (username : String) (a : ApiRow) : ApiM Unit := do
  if isOf "user" username a && hasDotId a then c.remove .hotspot (a.lookup ".id")

/-- The API path of `_expire_hotspot_user_on_router`; it raises where the source returns `False`. -/
def expireHotspotUser (username : String) : ApiM Unit := do
  c.connect
  let users ← c.getUsers .hotspot
  users.forM (c.disableRow username)
  let actives ← c.getActive .hotspot
  actives.forM (c.removeRow username)

/-- `_disconnect_active_session`: an exception only makes it return `False`. -/
def disconnectActiveSession (username : String) (type : UserType) : ApiM Bool :=
  (do
    let active ← c.getActive type
    active.forM fun session => do
      if isOf type.sessionKey username session then c.remove type (session.lookup ".id")
    pure true) <|> pure false

/-- `_disable_user_on_router`; it raises where the source returns no success. -/
def disableUserOnRouter (s : Subscription) : ApiM Unit := do
  let type := s.subscriptionType.userType
  let _ ← c.disconnectActiveSession s.username type
  let users ← c.getUsers type
  match users.find? (isOf "name" s.username) with
  | some user => c.setDisabled type (user.lookup ".id")
  | none => pure ()

end RouterOsClient

def ApiM.exec {α : Type} (x : ApiM α) (t : RouterOsTables) : Option α × RouterOsTables := x.run t

/-- `_expire_hotspot_user_on_router` on a router without agent: its answer and the tables after it. -/
def expireHotspotUserDirectly (c : RouterOsClient) (username : String) (t : RouterOsTables) :
    Bool × RouterOsTables :=
  let result := (c.expireHotspotUser username).exec t
  (result.1.isSome, result.2)

/-- The success of `_disable_user_on_router` and the tables after it. -/
def disableUserDirectly (c : RouterOsClient) (s : Subscription) (t : RouterOsTables) :
    Bool × RouterOsTables :=
  let result := (c.disableUserOnRouter s).exec t
  (result.1.isSome, result.2)

/-- Every row of the username is disabled, and it has no session. -/
def RouterOsTables.Barred (t : RouterOsTables) (type : UserType) (username : String) : Prop :=
  (∀ u ∈ t.users type, u.name = username → u.disabled = true) ∧
    ∀ x ∈ t.active type, x.user ≠ username

/-- A write with `id=None` raises. -/
def RouterOsClient.RefusesMissingId (c : RouterOsClient) : Prop :=
  ∀ type t, c.setWithoutId type t = none ∧ c.removeWithoutId type t = none

/-! ### Running the calls -/

namespace ApiM

variable {α β : Type} (t : RouterOsTables)

@[simp] theorem exec_pure (a : α) : (pure a : ApiM α).exec t = (some a, t) := rfl

@[simp] theorem exec_failure : (failure : ApiM α).exec t = (none, t) := rfl

@[simp] theorem exec_get : (get : ApiM RouterOsTables).exec t = (some t, t) := rfl

theorem exec_bind (x : ApiM α) (f : α → ApiM β) :
    (x >>= f).exec t =
      match x.exec t with
      | (some a, t') => (f a).exec t'
      | (none, t') => (none, t') := by
  simp only [exec, OptionT.run, bind, OptionT.bind, OptionT.mk, StateT.bind]
  rcases x t with ⟨_ | a, t'⟩
  · rfl
  · rfl

theorem exec_bind_eq_some {x : ApiM α} {f : α → ApiM β} {t t' : RouterOsTables} {b : β}
    (h : (x >>= f).exec t = (some b, t')) :
    ∃ a t₁, x.exec t = (some a, t₁) ∧ (f a).exec t₁ = (some b, t') := by
  rw [exec_bind] at h
  split at h
  · rename_i a t₁ hx
    exact ⟨a, t₁, hx, h⟩
  · cases h

theorem exec_orElse (x y : ApiM α) :
    (x <|> y).exec t =
      match x.exec t with
      | (some a, t') => (some a, t')
      | (none, t') => y.exec t' := by
  simp only [exec, OptionT.run, HOrElse.hOrElse, OrElse.orElse, Alternative.orElse, OptionT.orElse,
    OptionT.mk, bind, StateT.bind]
  rcases x t with ⟨_ | a, t'⟩
  · rfl
  · rfl

theorem exec_forM_of_pure {rows : List α} {f : α → ApiM Unit} (h : ∀ row ∈ rows, f row = pure ()) :
    (rows.forM f).exec t = (some (), t) := by
  induction rows with
  | nil => rfl
  | cons row rest ih =>
      obtain ⟨hrow, hrest⟩ := List.forall_mem_cons.mp h
      rw [List.forM, hrow, exec_bind, exec_pure]
      exact ih hrest

theorem exec_forM_of_same {rows : List α} {f : α → ApiM Unit}
    (h : ∀ row ∈ rows, ∃ o, (f row).exec t = (o, t)) : ∃ o, (rows.forM f).exec t = (o, t) := by
  induction rows with
  | nil => exact ⟨some (), rfl⟩
  | cons row rest ih =>
      obtain ⟨⟨o, hrow⟩, hrest⟩ := List.forall_mem_cons.mp h
      rw [List.forM, exec_bind, hrow]
      cases o with
      | none => exact ⟨none, rfl⟩
      | some _ => exact ih hrest

end ApiM

namespace RouterOsClient

variable (c : RouterOsClient) (t : RouterOsTables)

@[simp] theorem exec_connect : c.connect.exec t = (if c.connects then some () else none, t) := by
  unfold connect
  split <;> rfl

@[simp] theorem exec_getUsers (type : UserType) :
    (c.getUsers type).exec t =
      (if c.readsUsers then some ((t.users type).map (RouterOsUser.row c.idKey)) else none, t) := by
  unfold getUsers
  split <;> rfl

@[simp] theorem exec_getActive (type : UserType) :
    (c.getActive type).exec t =
      (if c.readsActive then some ((t.active type).map (RouterOsSession.row c.idKey type)) else none,
        t) := by
  unfold getActive
  split <;> rfl

/-! ### Rows with the key `id` -/

theorem lookup_dotId_user (u : RouterOsUser) : (u.row "id").lookup ".id" = none := by
  simp [RouterOsUser.row, List.lookup_cons]

theorem lookup_dotId_session (type : UserType) (x : RouterOsSession) :
    (x.row "id" type).lookup ".id" = none := by
  cases type <;> simp [RouterOsSession.row, UserType.sessionKey, List.lookup_cons]

theorem isOf_user {u : RouterOsUser} {username : String} :
    isOf "name" username (u.row "id") = true ↔ u.name = username := by
  simp [isOf, RouterOsUser.row, List.lookup_cons]

variable {c}

theorem exec_setDisabled_none (h : c.RefusesMissingId) (type : UserType) :
    (c.setDisabled type none).exec t = (none, t) := by
  have hset := (h type t).1
  rw [setDisabled, ApiM.exec_bind, ApiM.exec_get]
  simp only [hset, store, ApiM.exec_failure]

theorem exec_remove_none (h : c.RefusesMissingId) (type : UserType) :
    (c.remove type none).exec t = (none, t) := by
  have hremove := (h type t).2
  rw [remove, ApiM.exec_bind, ApiM.exec_get]
  simp only [hremove, store, ApiM.exec_failure]

/-- The expiry finds no row with the key `.id`, so it reads the tables and writes nothing. -/
theorem exec_expireHotspotUser (hkey : c.idKey = "id") (username : String) :
    (c.expireHotspotUser username).exec t =
      (if c.connects ∧ c.readsUsers ∧ c.readsActive then some () else none, t) := by
  have husers : ∀ row ∈ (t.users .hotspot).map (RouterOsUser.row "id"), hasDotId row = false := by
    intro row hrow
    obtain ⟨u, -, rfl⟩ := List.mem_map.mp hrow
    rw [hasDotId, lookup_dotId_user]
    rfl
  have hactive : ∀ row ∈ (t.active .hotspot).map (RouterOsSession.row "id" .hotspot),
      hasDotId row = false := by
    intro row hrow
    obtain ⟨x, -, rfl⟩ := List.mem_map.mp hrow
    rw [hasDotId, lookup_dotId_session]
    rfl
  unfold expireHotspotUser
  rw [ApiM.exec_bind, exec_connect]
  cases c.connects with
  | false => simp
  | true =>
      simp only [if_true, true_and]
      rw [ApiM.exec_bind, exec_getUsers, hkey]
      cases c.readsUsers with
      | false => simp
      | true =>
          simp only [if_true, true_and]
          rw [ApiM.exec_bind, ApiM.exec_forM_of_pure t (fun row hrow => by simp [disableRow, husers row hrow])]
          simp only
          rw [ApiM.exec_bind, exec_getActive, hkey]
          cases c.readsActive with
          | false => simp
          | true =>
              simp only [if_true]
              exact ApiM.exec_forM_of_pure t (fun row hrow => by simp [removeRow, hactive row hrow])

/-- A session of the username is removed by `id=None`: the exception is swallowed. -/
theorem exec_disconnectActiveSession (hkey : c.idKey = "id") (href : c.RefusesMissingId)
    (username : String) (type : UserType) :
    ∃ b, (c.disconnectActiveSession username type).exec t = (some b, t) := by
  unfold disconnectActiveSession
  rw [ApiM.exec_orElse, ApiM.exec_bind, exec_getActive, hkey]
  cases c.readsActive with
  | false => exact ⟨false, rfl⟩
  | true =>
      simp only [if_true]
      have hbody : ∀ row ∈ (t.active type).map (RouterOsSession.row "id" type), ∃ o,
          ApiM.exec (if isOf type.sessionKey username row then c.remove type (row.lookup ".id")
            else pure ()) t = (o, t) := by
        intro row hrow
        obtain ⟨x, -, rfl⟩ := List.mem_map.mp hrow
        rw [lookup_dotId_session]
        split
        · exact ⟨none, exec_remove_none t href type⟩
        · exact ⟨some (), rfl⟩
      obtain ⟨o, ho⟩ := ApiM.exec_forM_of_same t hbody
      rw [ApiM.exec_bind, ho]
      cases o with
      | none => exact ⟨false, rfl⟩
      | some _ => exact ⟨true, rfl⟩

/-- The disabling writes nothing either: it succeeds when there is no row of the username. -/
theorem exec_disableUserOnRouter (hkey : c.idKey = "id") (href : c.RefusesMissingId)
    (s : Subscription) :
    (c.disableUserOnRouter s).exec t =
      (if c.readsUsers ∧ ∀ u ∈ t.users s.subscriptionType.userType, u.name ≠ s.username then some ()
        else none, t) := by
  obtain ⟨b, hb⟩ := exec_disconnectActiveSession t hkey href s.username s.subscriptionType.userType
  unfold disableUserOnRouter
  rw [ApiM.exec_bind, hb]
  simp only
  rw [ApiM.exec_bind, exec_getUsers, hkey]
  cases c.readsUsers with
  | false => simp
  | true =>
      simp only [if_true, true_and]
      cases hfind : ((t.users s.subscriptionType.userType).map (RouterOsUser.row "id")).find?
          (isOf "name" s.username) with
      | none =>
          have hnone : ∀ u ∈ t.users s.subscriptionType.userType, u.name ≠ s.username := by
            intro u hu hname
            have hrow := List.find?_eq_none.mp hfind (u.row "id") (List.mem_map_of_mem hu)
            exact hrow (isOf_user.mpr hname)
          rw [if_pos hnone]
          rfl
      | some row =>
          have hof := List.find?_some hfind
          obtain ⟨u, hu, rfl⟩ := List.mem_map.mp (List.mem_of_find?_eq_some hfind)
          have hsome : ¬ ∀ u ∈ t.users s.subscriptionType.userType, u.name ≠ s.username :=
            fun h => h u hu (isOf_user.mp hof)
          rw [if_neg hsome]
          simp only [lookup_dotId_user]
          exact exec_setDisabled_none t href _

end RouterOsClient

/-! ### Rows with the key `.id` -/

namespace RouterOsClient

variable {c : RouterOsClient} {t t' : RouterOsTables} {username : String}

theorem connect_of_success (h : c.connect.exec t = (some (), t')) : t = t' := by
  rw [exec_connect] at h
  exact (Prod.mk.inj h).2

theorem getUsers_of_success {type : UserType} {rows : List ApiRow}
    (h : (c.getUsers type).exec t = (some rows, t')) :
    t = t' ∧ (t.users type).map (RouterOsUser.row c.idKey) = rows := by
  rw [exec_getUsers] at h
  obtain ⟨hrows, hsame⟩ := Prod.mk.inj h
  refine ⟨hsame, ?_⟩
  split at hrows
  · exact Option.some.inj hrows
  · cases hrows

theorem getActive_of_success {type : UserType} {rows : List ApiRow}
    (h : (c.getActive type).exec t = (some rows, t')) :
    t = t' ∧ (t.active type).map (RouterOsSession.row c.idKey type) = rows := by
  rw [exec_getActive] at h
  obtain ⟨hrows, hsame⟩ := Prod.mk.inj h
  refine ⟨hsame, ?_⟩
  split at hrows
  · exact Option.some.inj hrows
  · cases hrows

theorem setDisabled_of_success {type : UserType} {id : String}
    (h : (c.setDisabled type (some id)).exec t = (some (), t')) :
    t' = { t with
      users := Function.update t.users type
        (updateWhere (fun u => decide (u.id = id)) (fun u => { u with disabled := true })
          (t.users type)) } := by
  rw [setDisabled, ApiM.exec_bind, ApiM.exec_get] at h
  simp only at h
  split at h
  · exact (Prod.mk.inj h).2.symm
  · exact absurd (Prod.mk.inj h).1 (by simp)

theorem remove_of_success {type : UserType} {id : String}
    (h : (c.remove type (some id)).exec t = (some (), t')) :
    t' = { t with
      active := Function.update t.active type
        ((t.active type).filter fun x => decide (x.id ≠ id)) } := by
  rw [remove, ApiM.exec_bind, ApiM.exec_get] at h
  simp only at h
  split at h
  · exact (Prod.mk.inj h).2.symm
  · exact absurd (Prod.mk.inj h).1 (by simp)

theorem disableRow_row {v : RouterOsUser} (hv : v.id ≠ "") :
    c.disableRow username (v.row ".id") =
      if v.name = username then c.setDisabled .hotspot (some v.id) else pure () := by
  simp [disableRow, isOf, hasDotId, RouterOsUser.row, List.lookup_cons, hv]

theorem removeRow_row {v : RouterOsSession} (hv : v.id ≠ "") :
    c.removeRow username (v.row ".id" .hotspot) =
      if v.user = username then c.remove .hotspot (some v.id) else pure () := by
  simp [removeRow, isOf, hasDotId, RouterOsSession.row, UserType.sessionKey, List.lookup_cons, hv]

theorem forM_disableRow {vs : List RouterOsUser} (hid : ∀ v ∈ vs, v.id ≠ "")
    (h : ((vs.map (RouterOsUser.row ".id")).forM (c.disableRow username)).exec t = (some (), t')) :
    t'.active = t.active ∧ ∀ u' ∈ t'.users .hotspot, ∃ u ∈ t.users .hotspot,
      u'.name = u.name ∧ (u.disabled = true → u'.disabled = true) ∧
        ∀ v ∈ vs, v.name = username → v.id = u.id → u'.disabled = true := by
  induction vs generalizing t with
  | nil =>
      obtain rfl : t = t' := (Prod.mk.inj h).2
      exact ⟨rfl, fun u hu => ⟨u, hu, rfl, id, by simp⟩⟩
  | cons v rest ih =>
      obtain ⟨hv, hrest⟩ := List.forall_mem_cons.mp hid
      rw [List.map_cons, List.forM, disableRow_row hv] at h
      obtain ⟨_, t₁, hbody, hloop⟩ := ApiM.exec_bind_eq_some h
      obtain ⟨hactive, husers⟩ := ih hrest hloop
      split at hbody
      · obtain rfl := setDisabled_of_success hbody
        refine ⟨hactive, fun u' hu' => ?_⟩
        obtain ⟨u₁, hu₁, hname, hstays, hdone⟩ := husers u' hu'
        simp only [Function.update_self] at hu₁
        obtain ⟨u, hu, rfl⟩ := mem_updateWhere.mp hu₁
        by_cases hsame : u.id = v.id
        · -- the row of this round is disabled from now on
          simp only [hsame, decide_true, if_true] at hname hstays
          exact ⟨u, hu, hname, fun _ => hstays trivial, fun _ _ _ _ => hstays trivial⟩
        · simp only [hsame, decide_false, Bool.false_eq_true, if_false] at hname hstays hdone
          refine ⟨u, hu, hname, hstays, ?_⟩
          rintro w hw hwname hwid
          rcases List.mem_cons.mp hw with rfl | hw
          · exact absurd hwid.symm hsame
          · exact hdone w hw hwname hwid
      · rename_i hother
        obtain rfl : t = t₁ := (Prod.mk.inj hbody).2
        refine ⟨hactive, fun u' hu' => ?_⟩
        obtain ⟨u, hu, hname, hstays, hdone⟩ := husers u' hu'
        refine ⟨u, hu, hname, hstays, ?_⟩
        rintro w hw hwname hwid
        rcases List.mem_cons.mp hw with rfl | hw
        · exact absurd hwname hother
        · exact hdone w hw hwname hwid

theorem forM_removeRow {vs : List RouterOsSession} (hid : ∀ v ∈ vs, v.id ≠ "")
    (h : ((vs.map (RouterOsSession.row ".id" .hotspot)).forM (c.removeRow username)).exec t =
      (some (), t')) :
    t'.users = t.users ∧ ∀ x ∈ t'.active .hotspot, x ∈ t.active .hotspot ∧
      ∀ v ∈ vs, v.user = username → x.id ≠ v.id := by
  induction vs generalizing t with
  | nil =>
      obtain rfl : t = t' := (Prod.mk.inj h).2
      exact ⟨rfl, fun x hx => ⟨hx, by simp⟩⟩
  | cons v rest ih =>
      obtain ⟨hv, hrest⟩ := List.forall_mem_cons.mp hid
      rw [List.map_cons, List.forM, removeRow_row hv] at h
      obtain ⟨_, t₁, hbody, hloop⟩ := ApiM.exec_bind_eq_some h
      obtain ⟨husers, hactive⟩ := ih hrest hloop
      split at hbody
      · obtain rfl := remove_of_success hbody
        refine ⟨husers, fun x hx => ?_⟩
        obtain ⟨hx₁, hgone⟩ := hactive x hx
        simp only [Function.update_self, List.mem_filter, decide_eq_true_eq] at hx₁
        refine ⟨hx₁.1, ?_⟩
        rintro w hw hwname
        rcases List.mem_cons.mp hw with rfl | hw
        · exact hx₁.2
        · exact hgone w hw hwname
      · rename_i hother
        obtain rfl : t = t₁ := (Prod.mk.inj hbody).2
        refine ⟨husers, fun x hx => ?_⟩
        obtain ⟨hx₁, hgone⟩ := hactive x hx
        refine ⟨hx₁, ?_⟩
        rintro w hw hwname
        rcases List.mem_cons.mp hw with rfl | hw
        · exact absurd hwname hother
        · exact hgone w hw hwname

end RouterOsClient

/-- With the key that it looks for, the expiry keeps its word on every router. -/
theorem expireHotspotUserDirectly_of_dotId {c : RouterOsClient} (hkey : c.idKey = ".id")
    {t : RouterOsTables} (husers : ∀ u ∈ t.users .hotspot, u.id ≠ "")
    (hactive : ∀ x ∈ t.active .hotspot, x.id ≠ "") (username : String)
    (h : (expireHotspotUserDirectly c username t).1 = true) :
    (expireHotspotUserDirectly c username t).2.Barred .hotspot username := by
  obtain ⟨_, hsome⟩ := Option.isSome_iff_exists.mp h
  have hexec : (c.expireHotspotUser username).exec t =
      (some (), (expireHotspotUserDirectly c username t).2) := Prod.ext hsome rfl
  generalize (expireHotspotUserDirectly c username t).2 = t' at hexec
  obtain ⟨_, t₁, hconnect, hexec⟩ := ApiM.exec_bind_eq_some hexec
  obtain rfl := RouterOsClient.connect_of_success hconnect
  obtain ⟨_, t₁, hread, hexec⟩ := ApiM.exec_bind_eq_some hexec
  obtain ⟨rfl, rfl⟩ := RouterOsClient.getUsers_of_success hread
  obtain ⟨_, t₂, hdisable, hexec⟩ := ApiM.exec_bind_eq_some hexec
  rw [hkey] at hdisable
  obtain ⟨hsame, hdisabled⟩ := RouterOsClient.forM_disableRow husers hdisable
  obtain ⟨_, t₃, hread, hremove⟩ := ApiM.exec_bind_eq_some hexec
  obtain ⟨rfl, rfl⟩ := RouterOsClient.getActive_of_success hread
  rw [hkey, hsame] at hremove
  obtain ⟨hkept, hgone⟩ := RouterOsClient.forM_removeRow hactive hremove
  constructor
  · intro u' hu' hname
    rw [hkept] at hu'
    obtain ⟨u, hu, hsamename, -, hdone⟩ := hdisabled u' hu'
    exact hdone u hu (hsamename.symm.trans hname) rfl
  · intro x hx huser
    obtain ⟨hx₁, hne⟩ := hgone x hx
    rw [hsame] at hx₁
    exact hne x hx₁ huser rfl

/-! ### What success means -/

section
variable {c : RouterOsClient} (hkey : c.idKey = "id")

include hkey

theorem expireHotspotUserDirectly_spec (username : String) (t : RouterOsTables) :
    ((expireHotspotUserDirectly c username t).1 = true ↔
      c.connects ∧ c.readsUsers ∧ c.readsActive) ∧
    (expireHotspotUserDirectly c username t).2 = t := by
  simp only [expireHotspotUserDirectly, RouterOsClient.exec_expireHotspotUser t hkey,
    Option.isSome_ite, and_true]

theorem disableUserDirectly_spec (href : c.RefusesMissingId) (s : Subscription) (t : RouterOsTables) :
    ((disableUserDirectly c s t).1 = true ↔
      c.readsUsers ∧ ∀ u ∈ t.users s.subscriptionType.userType, u.name ≠ s.username) ∧
    (disableUserDirectly c s t).2 = t := by
  simp only [disableUserDirectly, RouterOsClient.exec_disableUserOnRouter t hkey href,
    Option.isSome_ite, and_true]

end

/-- With the identifiers under the key `id` neither path writes anything.  The expiry keeps its word
exactly if it cannot read the tables or nothing was to be done; the disabling exactly if it cannot read
the users, or there is a row of the username (and no success), or no session. -/
theorem direct_disable_iff (c : RouterOsClient) (hkey : c.idKey = "id") (href : c.RefusesMissingId)
    (t : RouterOsTables) (username : String) (s : Subscription) :
    (((expireHotspotUserDirectly c username t).1 = true →
        (expireHotspotUserDirectly c username t).2.Barred .hotspot username) ↔
      (c.connects ∧ c.readsUsers ∧ c.readsActive → t.Barred .hotspot username)) ∧
    (((disableUserDirectly c s t).1 = true →
        (disableUserDirectly c s t).2.Barred s.subscriptionType.userType s.username) ↔
      (c.readsUsers → (∃ u ∈ t.users s.subscriptionType.userType, u.name = s.username) ∨
        ∀ x ∈ t.active s.subscriptionType.userType, x.user ≠ s.username)) := by
  constructor
  · obtain ⟨hanswer, hsame⟩ := expireHotspotUserDirectly_spec hkey username t
    rw [hanswer, hsame]
  · obtain ⟨hanswer, hsame⟩ := disableUserDirectly_spec hkey href s t
    rw [hanswer, hsame]
    constructor
    · intro h hreads
      by_cases hrow : ∃ u ∈ t.users s.subscriptionType.userType, u.name = s.username
      · exact Or.inl hrow
      · exact Or.inr (h ⟨hreads, fun u hu hname => hrow ⟨u, hu, hname⟩⟩).2
    · rintro h ⟨hreads, hnone⟩
      rcases h hreads with ⟨u, hu, hname⟩ | hactive
      · exact absurd hname (hnone u hu)
      · exact ⟨fun u hu hname => absurd hname (hnone u hu), hactive⟩

/-- A client whose rows have the key `id`, with all calls passing. -/
def steadyClient : RouterOsClient where
  idKey := "id"
  connects := true
  readsUsers := true
  readsActive := true
  writes := fun _ => true
  setWithoutId := fun _ _ => none
  removeWithoutId := fun _ _ => none

/-- A hotspot user who is online, and one who is disabled. -/
def annOnline : RouterOsTables where
  users := fun
    | .hotspot => [⟨"*1", "ann", false⟩, ⟨"*2", "bob", true⟩]
    | .pppoe => []
  active := fun
    | .hotspot => [⟨"*9", "ann"⟩, ⟨"*a", "guest"⟩]
    | .pppoe => []

/-- A lapsed subscription. -/
def lapsedGuest (username : String) : Subscription :=
  ⟨1, some 7, 1, 1, .hotspot, .expired, username, "pw", 0, some 5, true, none⟩

/-- The user who is disabled already is reported as such, and the one who is online is not. -/
theorem direct_disable_of_bob :
    ((expireHotspotUserDirectly steadyClient "bob" annOnline).1 = true →
      (expireHotspotUserDirectly steadyClient "bob" annOnline).2.Barred .hotspot "bob") ∧
    ((disableUserDirectly steadyClient (lapsedGuest "ann") annOnline).1 = true →
      (disableUserDirectly steadyClient (lapsedGuest "ann") annOnline).2.Barred .hotspot "ann") := by
  have h := direct_disable_iff steadyClient rfl (fun _ _ => ⟨rfl, rfl⟩) annOnline "bob"
    (lapsedGuest "ann")
  refine ⟨h.1.mpr (fun _ => ?_), h.2.mpr (fun _ => Or.inl ?_)⟩
  · unfold RouterOsTables.Barred
    decide
  · decide

/-- The expiry of a user who is online returns `True` and changes nothing; the disabling of a user
without a row succeeds and leaves the session. -/
theorem ann_stays_online :
    ((expireHotspotUserDirectly steadyClient "ann" annOnline).1 = true ∧
      ¬ (expireHotspotUserDirectly steadyClient "ann" annOnline).2.Barred .hotspot "ann") ∧
    ((disableUserDirectly steadyClient (lapsedGuest "guest") annOnline).1 = true ∧
      ¬ (disableUserDirectly steadyClient (lapsedGuest "guest") annOnline).2.Barred .hotspot
        "guest") := by
  unfold RouterOsTables.Barred
  decide

end IspBilling
