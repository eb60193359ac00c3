import IspBilling.AgentReport
import IspBilling.HotspotExpiry

/-! # The passes that queue router commands

`process_expired_subscriptions` and `_expire_hotspot_user_on_router`
(`app/modules/subscriptions/expiry_manager.py`) mark an account as `EXPIRED` and queue the command
that cuts it off; `sync_all_unsynced_subscriptions` (`router_sync.py`) queues the commands of the
active subscriptions whose last sync has not been confirmed.

A pass takes what the environment decides as arguments: the identifiers of the new commands (by
subscription, or by position in the list of users to cut off) and the outcome of every direct call
of a router without agent, `none` when it cannot be reached.  The rows that a `LIMIT` without
`ORDER BY` picks are the first ones of the table.

A pass serves each of its rows: `exists_disable_of_expired` and `exists_disable_of_cutOff` say when
a row leaves a pending `disable_user` behind. -/

namespace IspBilling

open Rows

/-! ### Subscriptions -/

namespace Subscription

variable (now : ℤ) (routers : List Router) (plans : List ServicePlan)

/-- What a direct call writes to the row. -/
def recordSync (outcome : Option Bool) (s : Subscription) : Subscription :=
  match outcome with
  | none => s
  | some ok => { s with isRouterSynced := ok, lastRouterSync := some now }

/-- The sync calls the router at once: router and plan exist, and there is no agent. -/
def CalledDirectly (s : Subscription) : Prop :=
  (∃ r ∈ routers.find? (fun r => r.id = s.routerId), ¬ r.AgentMode) ∧
    ∃ p, plans.find? (fun p => p.id = s.planId) = some p

instance (s : Subscription) : Decidable (s.CalledDirectly routers plans) :=
  @instDecidableAnd _ _ (inferInstanceAs (Decidable (∃ r ∈ routers.find? (fun r => r.id = s.routerId),
    ¬ r.AgentMode))) (decidable_of_iff _ Option.isSome_iff_exists)

/-- The row after `sync_subscription_to_router`; an agent confirms only later. -/
def afterSync (direct : ℕ → Option Bool) (s : Subscription) : Subscription :=
  if s.CalledDirectly routers plans then s.recordSync now (direct s.id) else s

/-- **Frame rule**: a sync writes the two sync columns and nothing else. -/
theorem afterSync_eq (direct : ℕ → Option Bool) (s : Subscription) : ∃ synced last,
    s.afterSync now routers plans direct =
      { s with isRouterSynced := synced, lastRouterSync := last } := by
  unfold afterSync recordSync
  split
  · split
    · exact ⟨s.isRouterSynced, s.lastRouterSync, rfl⟩
    · exact ⟨_, _, rfl⟩
  · exact ⟨s.isRouterSynced, s.lastRouterSync, rfl⟩

/-- The row after the loop body of `process_expired_subscriptions`. -/
def expire (direct : ℕ → Option Bool) (s : Subscription) : Subscription :=
  { s with status := .expired }.afterSync now routers plans direct

end Subscription

section Passes

variable (agent : AgentSettings) (now : ℤ) (plans : List ServicePlan) (ids : ℕ → String)
variable (direct : ℕ → Option Bool)

def syncRows (routers : List Router) (rows : List Subscription) (q : List RouterCommand) :
    List RouterCommand :=
  rows.foldl (fun q s => syncSubscriptionToRouter agent now (ids s.id) routers plans s q) q

/-- The rows that `sync_all_unsynced_subscriptions` selects. -/
def unsyncedRows (limit : ℕ) (subs : List Subscription) : List Subscription :=
  (subs.filter (fun s => decide (s.isRouterSynced = false ∧ s.status = .active))).take limit

/-- `sync_all_unsynced_subscriptions`. -/
def syncAllUnsyncedSubscriptions (limit : ℕ) (db : AgentTables) : AgentTables :=
  let rows := unsyncedRows limit db.subscriptions
  { db with
    subscriptions := updateWhere (fun s => decide (s.id ∈ rows.map Subscription.id))
      (Subscription.afterSync now db.routers plans direct) db.subscriptions
    commands := syncRows agent now plans ids db.routers rows db.commands }

/-- The end dates that `process_expired_subscriptions` fills in: the churn window of the
organization, from the start. -/
def backfillEndDates (orgs : List OrganizationSettings) (batchSize : ℕ)
    (subs : List Subscription) : List Subscription :=
  let perpetual := (subs.filter (fun s => decide (s.status = .active ∧ s.endDate = none))).take batchSize
  updateWhere (fun s => decide (s.id ∈ perpetual.map Subscription.id))
    (fun s => { s with
      endDate := some (s.startDate + days (churnDaysForOrg orgs s.organizationId)) }) subs

/-- The active rows whose end date has passed, with the grace period. -/
def overdueRows (gracePeriodMinutes batchSize : ℕ) (subs : List Subscription) : List Subscription :=
  (subs.filter (fun s => decide (s.status = .active ∧
    ∃ e ∈ s.endDate, e ≤ now - minutes gracePeriodMinutes))).take batchSize

/-- The rows that a run of `process_expired_subscriptions` marks. -/
def expiredRows (orgs : List OrganizationSettings) (gracePeriodMinutes batchSize : ℕ)
    (db : AgentTables) : List Subscription :=
  overdueRows now gracePeriodMinutes batchSize (backfillEndDates orgs batchSize db.subscriptions)

/-- `process_expired_subscriptions`.  Without a row to mark nothing is committed, not even the end
dates. -/
def processExpiredSubscriptions (orgs : List OrganizationSettings)
    (gracePeriodMinutes batchSize : ℕ) (db : AgentTables) : AgentTables :=
  let rows := expiredRows now orgs gracePeriodMinutes batchSize db
  if rows = [] then db
  else
    { db with
      subscriptions := updateWhere (fun s => decide (s.id ∈ rows.map Subscription.id))
        (Subscription.expire now db.routers plans direct)
        (backfillEndDates orgs batchSize db.subscriptions)
      commands := syncRows agent now plans ids db.routers
        (rows.map (fun s => { s with status := .expired })) db.commands }

/-! ### Hotspot users -/

/-- The router that `_expire_hotspot_user_on_router` picks: the first active one. -/
def activeRouter (routers : List Router) (organizationId : ℕ) : Option Router :=
  routers.find? (fun r => decide (r.organizationId = organizationId ∧ r.isActive = true))

/-- `_expire_hotspot_user_on_router`, as far as the command queue goes. -/
def expireHotspotUserOnRouter (id id' : String) (routers : List Router) (organizationId : ℕ)
    (username : String) (q : List RouterCommand) : List RouterCommand :=
  match activeRouter routers organizationId with
  | none => q
  | some router =>
      if router.AgentMode then
        queueCommand agent now id' router.id (.disconnect username) 2 (some "hotspot_expiry")
          (some username) none
          (queueCommand agent now id router.id (.disableUser username .hotspot) 2
            (some "hotspot_expiry") (some username) none q)
      else q

/-- The identifiers of the two commands of the `i`-th user. -/
def userIds (i : ℕ) : List String := [ids (2 * i), ids (2 * i + 1)]

/-- The commands of all users that a run of `process_expired_hotspot_users` cuts off. -/
def cutOffUsers (routers : List Router) (cut : List (ℕ × String)) (q : List RouterCommand) :
    List RouterCommand :=
  cut.zipIdx.foldl (fun q x => expireHotspotUserOnRouter agent now (ids (2 * x.2)) (ids (2 * x.2 + 1))
    routers x.1.1 x.1.2 q) q

/-- The identifiers are new and distinct. -/
def FreshIds (new : List String) (q : List RouterCommand) : Prop :=
  new.Nodup ∧ ∀ id ∈ new, id ∉ q.map RouterCommand.id

instance (new : List String) (q : List RouterCommand) : Decidable (FreshIds new q) :=
  inferInstanceAs (Decidable (new.Nodup ∧ ∀ id ∈ new, id ∉ q.map RouterCommand.id))

/-- A waiting `disable_user` as the passes queue it. -/
def QueuedDisable (r : ℕ) (type : UserType) (name : String) (c : RouterCommand) : Prop :=
  c.routerId = r ∧ c.action = .disableUser name type ∧ c.status = .pending ∧
    c.expiresAt = some (now + seconds (agent.commandExpiryHours * 3600))

end Passes

/-! ### What a pass leaves in the queue -/

section Served

variable {agent : AgentSettings} {now : ℤ} {plans : List ServicePlan} {ids : ℕ → String}
variable {routers : List Router} {q : List RouterCommand}

/-- **Inversion**: a sync queues one command or none. -/
theorem syncSubscriptionToRouter_cases (agent : AgentSettings) (now : ℤ) (id : String)
    (routers : List Router) (plans : List ServicePlan) (s : Subscription) (q : List RouterCommand) :
    syncSubscriptionToRouter agent now id routers plans s q = q ∨
      ∃ r a p, syncSubscriptionToRouter agent now id routers plans s q =
        queueCommand agent now id r a p (some "subscription_sync") (some (toString s.id)) none q := by
  unfold syncSubscriptionToRouter
  split
  · split
    · unfold syncViaAgentQueue
      split
      · exact Or.inr ⟨_, _, _, rfl⟩
      · exact Or.inl rfl
    · exact Or.inl rfl
  · exact Or.inl rfl

theorem mem_syncSubscriptionToRouter {id : String} {s : Subscription} {c : RouterCommand}
    (h : c ∈ q) : c ∈ syncSubscriptionToRouter agent now id routers plans s q := by
  rcases syncSubscriptionToRouter_cases agent now id routers plans s q with heq | ⟨r, a, p, heq⟩
  · rw [heq]
    exact h
  · rw [heq]
    exact mem_queueCommand h

theorem of_mem_syncSubscriptionToRouter {id : String} {s : Subscription} {c : RouterCommand}
    (h : c ∈ syncSubscriptionToRouter agent now id routers plans s q) : c ∈ q ∨ c.id = id := by
  rcases syncSubscriptionToRouter_cases agent now id routers plans s q with heq | ⟨r, a, p, heq⟩
  · rw [heq] at h
    exact Or.inl h
  · rw [heq] at h
    exact (of_mem_queueCommand h).imp_right And.left

theorem mem_syncRows {rows : List Subscription} {c : RouterCommand} (h : c ∈ q) :
    c ∈ syncRows agent now plans ids routers rows q :=
  mem_foldl (fun _ _ _ hc => mem_syncSubscriptionToRouter hc) h

theorem keyed_syncRows {rows : List Subscription} (h : Keyed RouterCommand.id q) :
    Keyed RouterCommand.id (syncRows agent now plans ids routers rows q) := by
  apply keyed_foldl _ h
  intro q s hq
  rcases syncSubscriptionToRouter_cases agent now (ids s.id) routers plans s q with
    heq | ⟨r, a, p, heq⟩
  · rw [heq]
    exact hq
  · rw [heq]
    exact keyed_queueCommand hq

/-- An expired row whose router has an agent and whose plan exists leaves a `disable_user`. -/
theorem exists_disable_of_expired {rows : List Subscription} {s : Subscription} (hs : s ∈ rows)
    (hst : s.status = .expired) {router : Router}
    (hrouter : routers.find? (fun r => r.id = s.routerId) = some router) (hagent : router.AgentMode)
    {plan : ServicePlan} (hplan : plans.find? (fun p => p.id = s.planId) = some plan)
    (hfresh : FreshIds (rows.map (fun s => ids s.id)) q) :
    ∃ c ∈ syncRows agent now plans ids routers rows q, c.id ∉ q.map RouterCommand.id ∧
      QueuedDisable agent now router.id s.subscriptionType.userType s.username c := by
  rw [List.map_eq_flatMap] at hfresh
  obtain ⟨q', hnew, hsub⟩ := foldl_serves RouterCommand.id (fun s : Subscription => [ids s.id])
    (f := fun q s => syncSubscriptionToRouter agent now (ids s.id) routers plans s q)
    (fun _ _ _ hc => mem_syncSubscriptionToRouter hc)
    (fun _ _ _ hc => (of_mem_syncSubscriptionToRouter hc).imp_right List.mem_singleton.mpr)
    hfresh.1 hfresh.2 hs
  obtain ⟨c, hq, hid, hr, ha, _, hpend, hexp⟩ := queueCommand_of_fresh agent now router.id
    s.disableUser 2 (some "subscription_sync") (some (toString s.id)) none
    (hnew (ids s.id) (List.mem_singleton_self _))
  have hold : c.id ∉ q.map RouterCommand.id :=
    hid ▸ hfresh.2 _ (List.mem_flatMap.mpr ⟨s, hs, List.mem_singleton_self _⟩)
  refine ⟨c, hsub c ?_, hold, hr, ha, hpend, hexp⟩
  have hsync : syncSubscriptionToRouter agent now (ids s.id) routers plans s q' = q' ++ [c] := by
    simp only [syncSubscriptionToRouter, hrouter, hplan, hagent, if_true, syncViaAgentQueue,
      Subscription.syncAction, hst]
    exact hq
  rw [hsync]
  exact List.mem_append_right _ (List.mem_singleton_self c)

/-- **Inversion**: cutting a user off queues its two commands or none. -/
theorem expireHotspotUserOnRouter_cases (agent : AgentSettings) (now : ℤ) (id id' : String)
    (routers : List Router) (organizationId : ℕ) (username : String) (q : List RouterCommand) :
    expireHotspotUserOnRouter agent now id id' routers organizationId username q = q ∨
      ∃ r, expireHotspotUserOnRouter agent now id id' routers organizationId username q =
        queueCommand agent now id' r (.disconnect username) 2 (some "hotspot_expiry")
          (some username) none (queueCommand agent now id r (.disableUser username .hotspot) 2
            (some "hotspot_expiry") (some username) none q) := by
  unfold expireHotspotUserOnRouter
  split
  · exact Or.inl rfl
  · split
    · exact Or.inr ⟨_, rfl⟩
    · exact Or.inl rfl

theorem mem_expireHotspotUserOnRouter {id id' : String} {organizationId : ℕ} {username : String}
    {c : RouterCommand} (h : c ∈ q) :
    c ∈ expireHotspotUserOnRouter agent now id id' routers organizationId username q := by
  rcases expireHotspotUserOnRouter_cases agent now id id' routers organizationId username q with
    heq | ⟨r, heq⟩
  · rw [heq]
    exact h
  · rw [heq]
    exact mem_queueCommand (mem_queueCommand h)

theorem of_mem_expireHotspotUserOnRouter {id id' : String} {organizationId : ℕ}
    {username : String} {c : RouterCommand}
    (h : c ∈ expireHotspotUserOnRouter agent now id id' routers organizationId username q) :
    c ∈ q ∨ c.id ∈ [id, id'] := by
  rcases expireHotspotUserOnRouter_cases agent now id id' routers organizationId username q with
    heq | ⟨r, heq⟩
  · rw [heq] at h
    exact Or.inl h
  · rw [heq] at h
    rcases of_mem_queueCommand h with h | ⟨hid', _⟩
    · rcases of_mem_queueCommand h with h | ⟨hid, _⟩
      · exact Or.inl h
      · exact Or.inr (by simp [hid])
    · exact Or.inr (by simp [hid'])

theorem mem_cutOffUsers {cut : List (ℕ × String)} {c : RouterCommand} (h : c ∈ q) :
    c ∈ cutOffUsers agent now ids routers cut q :=
  mem_foldl (fun _ _ _ hc => mem_expireHotspotUserOnRouter hc) h

theorem keyed_cutOffUsers {cut : List (ℕ × String)} (h : Keyed RouterCommand.id q) :
    Keyed RouterCommand.id (cutOffUsers agent now ids routers cut q) := by
  apply keyed_foldl _ h
  intro q x hq
  rcases expireHotspotUserOnRouter_cases agent now (ids (2 * x.2)) (ids (2 * x.2 + 1)) routers
    x.1.1 x.1.2 q with heq | ⟨r, heq⟩
  · rw [heq]
    exact hq
  · rw [heq]
    exact keyed_queueCommand (keyed_queueCommand hq)

theorem exists_disable_of_cutOff {cut : List (ℕ × String)} {organizationId : ℕ} {username : String}
    (hcut : (organizationId, username) ∈ cut) {router : Router}
    (hrouter : activeRouter routers organizationId = some router) (hagent : router.AgentMode)
    (hfresh : FreshIds (cut.zipIdx.flatMap (fun x => userIds ids x.2)) q) :
    ∃ c ∈ cutOffUsers agent now ids routers cut q, c.id ∉ q.map RouterCommand.id ∧
      QueuedDisable agent now router.id .hotspot username c := by
  obtain ⟨i, hi⟩ := List.mem_iff_getElem?.mp hcut
  have hx : ((organizationId, username), i) ∈ cut.zipIdx := List.mk_mem_zipIdx_iff_getElem?.mpr hi
  obtain ⟨q', hnew, hsub⟩ := foldl_serves RouterCommand.id
    (fun x : (ℕ × String) × ℕ => userIds ids x.2)
    (f := fun q x => expireHotspotUserOnRouter agent now (ids (2 * x.2)) (ids (2 * x.2 + 1)) routers
      x.1.1 x.1.2 q)
    (fun _ _ _ hc => mem_expireHotspotUserOnRouter hc)
    (fun _ _ _ hc => of_mem_expireHotspotUserOnRouter hc) hfresh.1 hfresh.2 hx
  obtain ⟨c, hq, hid, hr, ha, _, hpend, hexp⟩ := queueCommand_of_fresh agent now router.id
    (.disableUser username .hotspot) 2 (some "hotspot_expiry") (some username) none
    (hnew (ids (2 * i)) List.mem_cons_self)
  have hold : c.id ∉ q.map RouterCommand.id :=
    hid ▸ hfresh.2 _ (List.mem_flatMap.mpr ⟨_, hx, List.mem_cons_self⟩)
  refine ⟨c, hsub c ?_, hold, hr, ha, hpend, hexp⟩
  simp only [expireHotspotUserOnRouter, hrouter, hagent, if_true, hq]
  exact mem_queueCommand (List.mem_append_right _ (List.mem_singleton_self c))

end Served

end IspBilling
