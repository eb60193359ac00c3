import IspBilling.HotspotLogin
import IspBilling.Rows
import IspBilling.Subscription

/-! # The clean-up of orphaned router users

`cleanup_orphaned_router_users` (`app/tasks/subscription_tasks.py`) removes from a router the hotspot
users without a subscription.  It looks for a subscription of that username on the same router, of
any status; a lookup that finds two rows raises, and the clean-up of that router ends there.

Customers of the hotspot are vouchers first: the dashboard bridge mirrors a voucher into a
subscription on one router of the organization, and may skip or fail.  `orphan_cleanup_safe_iff` says
for which databases and router tables no paying user is removed. -/

namespace IspBilling

open Rows

/-! ### Databases and routers -/

/-- The columns of `routers` that the clean-up reads. -/
structure CleanupRouter where
  id : ℕ
  organizationId : Option ℕ
  /-- The answer of the database to `status == "online"`. -/
  online : Bool
deriving DecidableEq, Repr

structure CleanupDb where
  routers : List CleanupRouter
  subscriptions : List Subscription
  vouchers : List VoucherCode
  plans : List ServicePlan
  settings : List OrganizationSettings
deriving DecidableEq, Repr

/-- A row of `/ip/hotspot/user`, as the API returns it. -/
structure ApiUser where
  /-- The key `.id`. -/
  id : String
  name : Option String
deriving DecidableEq, Repr

/-- How a router answers. -/
structure RouterAnswers where
  /-- The hotspot users; nothing when the router is not reached or the command fails. -/
  users : Option (List ApiUser)
  /-- Whether the removal of an id succeeds. -/
  removes : String → Bool

/-- The users that the clean-up looks at: those with a name, except two. -/
def ApiUser.login (u : ApiUser) : Option String :=
  u.name.filter (fun name => decide (name ≠ "" ∧ name ∉ ["default", "admin"]))

/-! ### The task -/

namespace CleanupDb

/-- The routers that a run visits. -/
def selected (db : CleanupDb) (routerId : Option ℕ) : List CleanupRouter :=
  match routerId.filter (fun i => decide (i ≠ 0)) with
  | some i => db.routers.filter (fun r => decide (r.id = i))
  | none => db.routers.filter CleanupRouter.online

def subscriptionsOn (db : CleanupDb) (router : CleanupRouter) (username : String) :
    List Subscription :=
  db.subscriptions.filter (fun x => decide (x.username = username ∧ x.routerId = router.id))

/-- The loop over the users of a router: those that are removed. -/
def removals (db : CleanupDb) (router : CleanupRouter) (removes : String → Bool) :
    List ApiUser → List ApiUser
  | [] => []
  | u :: us =>
      match u.login with
      | none => db.removals router removes us
      | some username =>
          match oneOrNone (db.subscriptionsOn router username) with
          -- the exception leaves the loop
          | none => []
          | some (some _) => db.removals router removes us
          | some none =>
              if removes u.id then u :: db.removals router removes us
              else db.removals router removes us

/-- The users that a run of `cleanup_orphaned_router_users` removes, each with its router. -/
def cleanupOrphanedRouterUsers (db : CleanupDb) (routerId : Option ℕ)
    (answers : CleanupRouter → RouterAnswers) : List (CleanupRouter × ApiUser) :=
  (db.selected routerId).flatMap fun router =>
    (db.removals router (answers router).removes ((answers router).users.getD [])).map
      (fun u => (router, u))

/-! ### Paying users -/

/-- The voucher of a username is in use and inside its access window. -/
def HasVoucher (db : CleanupDb) (now : ℤ) (organizationId : Option ℕ) (username : String) : Prop :=
  ∃ v ∈ db.vouchers, v.hotspotUsername = some username ∧ organizationId = some v.organizationId ∧
    v.status = .used ∧ ∃ plan ∈ v.plan? db.plans,
      ∃ e ∈ v.accessExpiry plan (churnDaysForOrg db.settings organizationId), now ≤ e

instance (db : CleanupDb) (now : ℤ) (organizationId : Option ℕ) (username : String) :
    Decidable (db.HasVoucher now organizationId username) :=
  inferInstanceAs (Decidable (∃ v ∈ db.vouchers, v.hotspotUsername = some username ∧
    organizationId = some v.organizationId ∧ v.status = .used ∧ ∃ plan ∈ v.plan? db.plans,
      ∃ e ∈ v.accessExpiry plan (churnDaysForOrg db.settings organizationId), now ≤ e))

/-- The username belongs to someone who pays: a voucher of the router's organization or an active
subscription. -/
def Paying (db : CleanupDb) (now : ℤ) (router : CleanupRouter) (username : String) : Prop :=
  db.HasVoucher now router.organizationId username ∨
    ∃ x ∈ db.subscriptions, x.username = username ∧ x.status = .active

instance (db : CleanupDb) (now : ℤ) (router : CleanupRouter) (username : String) :
    Decidable (db.Paying now router username) :=
  inferInstanceAs (Decidable (_ ∨ ∃ x ∈ db.subscriptions, x.username = username ∧ x.status = .active))

/-- No paying user is removed. -/
def CleansUpSafely (db : CleanupDb) (now : ℤ) (routerId : Option ℕ)
    (answers : CleanupRouter → RouterAnswers) : Prop :=
  ∀ x ∈ db.cleanupOrphanedRouterUsers routerId answers, ∀ username ∈ x.2.name,
    ¬ db.Paying now x.1 username

instance (db : CleanupDb) (now : ℤ) (routerId : Option ℕ) (answers : CleanupRouter → RouterAnswers) :
    Decidable (db.CleansUpSafely now routerId answers) :=
  inferInstanceAs (Decidable (∀ x ∈ db.cleanupOrphanedRouterUsers routerId answers,
    ∀ username ∈ x.2.name, ¬ db.Paying now x.1 username))

/-- The lookup of a user raises: two subscriptions of that username on the router. -/
def Ambiguous (db : CleanupDb) (router : CleanupRouter) (u : ApiUser) : Prop :=
  ∃ username ∈ u.login, 1 < (db.subscriptionsOn router username).length

instance (db : CleanupDb) (router : CleanupRouter) : DecidablePred (db.Ambiguous router) := fun u =>
  inferInstanceAs (Decidable (∃ username ∈ u.login, 1 < (db.subscriptionsOn router username).length))

/-- The users that the loop reaches: those listed before the first ambiguous one. -/
def reached (db : CleanupDb) (router : CleanupRouter) (users : List ApiUser) : List ApiUser :=
  users.takeWhile (fun u => decide (¬ db.Ambiguous router u))

/-- Every paying user that the loop reaches and the router would remove has a subscription on this
router. -/
def Covered (db : CleanupDb) (now : ℤ) (router : CleanupRouter) (answers : RouterAnswers) : Prop :=
  ∀ u ∈ db.reached router (answers.users.getD []), answers.removes u.id = true →
    ∀ username ∈ u.login, db.Paying now router username →
      ∃ x ∈ db.subscriptions, x.username = username ∧ x.routerId = router.id

instance (db : CleanupDb) (now : ℤ) (router : CleanupRouter) (answers : RouterAnswers) :
    Decidable (db.Covered now router answers) :=
  inferInstanceAs (Decidable (∀ u ∈ db.reached router (answers.users.getD []),
    answers.removes u.id = true → ∀ username ∈ u.login, db.Paying now router username →
      ∃ x ∈ db.subscriptions, x.username = username ∧ x.routerId = router.id))

variable {db : CleanupDb} {router : CleanupRouter} {removes : String → Bool} {u : ApiUser}

theorem subscriptionsOn_eq_nil {username : String} :
    db.subscriptionsOn router username = [] ↔
      ¬ ∃ x ∈ db.subscriptions, x.username = username ∧ x.routerId = router.id := by
  simp only [subscriptionsOn, List.filter_eq_nil_iff, decide_eq_true_eq, not_exists, not_and]

theorem reached_of_ambiguous {us : List ApiUser} (h : db.Ambiguous router u) :
    db.reached router (u :: us) = [] := by
  unfold reached
  rw [List.takeWhile_cons_of_neg]
  simpa using h

theorem reached_of_not_ambiguous {us : List ApiUser} (h : ¬ db.Ambiguous router u) :
    db.reached router (u :: us) = u :: db.reached router us := by
  unfold reached
  rw [List.takeWhile_cons_of_pos]
  simpa using h

theorem not_ambiguous {username : String} (hlogin : u.login = some username)
    (hlen : (db.subscriptionsOn router username).length ≤ 1) : ¬ db.Ambiguous router u := by
  rintro ⟨username', hlogin', hlt⟩
  obtain rfl := Option.some.inj (hlogin.symm.trans hlogin')
  omega

/-- What the loop removes: the users it reaches, without a subscription here, whose removal
succeeds. -/
theorem removals_eq (users : List ApiUser) :
    db.removals router removes users =
      (db.reached router users).filter
        (fun u => decide ((∃ username ∈ u.login, db.subscriptionsOn router username = []) ∧
          removes u.id = true)) := by
  induction users with
  | nil => rfl
  | cons u us ih =>
      cases hlogin : u.login with
      | none =>
          have hnot : ¬ db.Ambiguous router u := by simp [Ambiguous, hlogin]
          rw [reached_of_not_ambiguous hnot, List.filter_cons_of_neg (by simp [hlogin]), ← ih]
          simp only [removals, hlogin]
      | some username =>
          simp only [removals, hlogin]
          cases hone : oneOrNone (db.subscriptionsOn router username) with
          | none => simp [reached_of_ambiguous ⟨username, hlogin, oneOrNone_eq_none.mp hone⟩]
          | some found =>
              cases found with
              | some x =>
                  have hsub := oneOrNone_eq_some_some.mp hone
                  rw [reached_of_not_ambiguous (not_ambiguous hlogin (by simp [hsub])),
                    List.filter_cons_of_neg (by simp [hlogin, hsub]), ← ih]
              | none =>
                  have hsub := oneOrNone_eq_some_none.mp hone
                  rw [reached_of_not_ambiguous (not_ambiguous hlogin (by simp [hsub])), ih,
                    List.filter_cons]
                  simp [hlogin, hsub]

theorem mem_removals {users : List ApiUser} :
    u ∈ db.removals router removes users ↔
      u ∈ db.reached router users ∧ removes u.id = true ∧
        ∃ username ∈ u.login, db.subscriptionsOn router username = [] := by
  rw [removals_eq, List.mem_filter, decide_eq_true_eq, and_comm (a := ∃ _, _)]

theorem name_of_login {username : String} (h : username ∈ u.login) : u.name = some username :=
  (Option.mem_filter_iff.mp h).1

theorem removals_safe_iff {now : ℤ} {answers : RouterAnswers} :
    (∀ u ∈ db.removals router answers.removes (answers.users.getD []), ∀ username ∈ u.name,
      ¬ db.Paying now router username) ↔ db.Covered now router answers := by
  unfold Covered
  constructor
  · intro h u hu hr username hlogin hpay
    by_contra hsub
    have hmem := mem_removals.mpr ⟨hu, hr, username, hlogin, subscriptionsOn_eq_nil.mpr hsub⟩
    exact h u hmem username (name_of_login hlogin) hpay
  · intro h u hu username hname hpay
    obtain ⟨hreach, hr, username', hlogin, hnil⟩ := mem_removals.mp hu
    obtain rfl := Option.mem_unique (name_of_login hlogin) hname
    exact subscriptionsOn_eq_nil.mp hnil (h u hreach hr _ hlogin hpay)

/-- **The clean-up removes no paying user exactly if every one of them that it reaches has a
subscription on the very router**, active or not.  A voucher that was not mirrored, or was mirrored
on another router, is not enough. -/
theorem orphan_cleanup_safe_iff (db : CleanupDb) (now : ℤ) (routerId : Option ℕ)
    (answers : CleanupRouter → RouterAnswers) :
    db.CleansUpSafely now routerId answers ↔
      ∀ router ∈ db.selected routerId, db.Covered now router (answers router) := by
  simp only [← removals_safe_iff, CleansUpSafely, cleanupOrphanedRouterUsers, List.mem_flatMap,
    List.mem_map]
  constructor
  · intro h router hrouter u hu
    exact h (router, u) ⟨router, hrouter, u, hu, rfl⟩
  · rintro h x ⟨router, hrouter, u, hu, rfl⟩
    exact h router hrouter u hu

/-- A voucher of one hour in use, whose customer the bridge has not mirrored. -/
def unmirrored : CleanupDb where
  routers := [⟨1, some 1, true⟩]
  subscriptions := []
  vouchers := [{
    id := 1
    organizationId := 1
    code := "ABC123"
    planId := 1
    status := .used
    isUsed := true
    usedAt := some 0
    usedMacAddress := none
    expiresAt := none
    validFrom := none
    value := none
    hotspotUsername := some "254700000001"
    hotspotPassword := some "254700000001"
    createdAt := 0 }]
  plans := [.hourly]
  settings := []

/-- The same customer with an active subscription, on router 2. -/
def mirroredElsewhere : CleanupDb :=
  { unmirrored with
    subscriptions := [{
      id := 1
      organizationId := some 1
      planId := 1
      routerId := 2
      subscriptionType := .hotspot
      status := .active
      username := "254700000001"
      password := "254700000001"
      startDate := 0
      endDate := some (hours 1)
      isRouterSynced := true
      lastRouterSync := none }]
    vouchers := [] }

/-- A router that lists the customer and carries out every removal. -/
def oneUserListed : RouterAnswers := ⟨some [⟨"*1", some "254700000001"⟩], fun _ => true⟩

/-- The customer is removed after a minute of the hour, from the router that he uses. -/
theorem orphan_cleanup_removes_paying :
    ¬ unmirrored.CleansUpSafely (minutes 1) (some 1) (fun _ => oneUserListed) ∧
      ¬ mirroredElsewhere.CleansUpSafely (minutes 1) (some 1) (fun _ => oneUserListed) := by
  decide

end CleanupDb

end IspBilling
