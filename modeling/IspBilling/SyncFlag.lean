import IspBilling.ExpiryPasses
import IspBilling.Runs

/-! # What the sync flag says

`is_router_synced` of a subscription on a router with an agent is to say that the router has
what the subscription needs: the last sync command that the router has executed is the one
that `_sync_via_agent_queue` would queue now.  Two things can break this.  The flag is set by
the success of any sync command of the subscription, found by its `source_id` alone, however
late the report comes; and not every change of the subscription or of its plan clears it.

`SyncFlag` are the tables, the commands on their way to the routers, the sync commands of one
subscription that were executed, and those that were queued since its last change; `Edit` are the
writers of the row, with what each of them clears.  `Ordered` is the order of events under which the
flag is right: the writers that do not clear it act only while it is not set, and a command that was
queued before the last change is neither executed while the flag is set nor the last one executed when
a success is reported.  `flag_sound_always` is the result for every such run. -/

namespace IspBilling

open Rows Runs

/-- The writers of a subscription row, besides the report and the direct sync. -/
inductive Edit where
  /-- `activate_subscription` and `_activate_subscription_on_payment`. -/
  | activate
  /-- `suspend_subscription`. -/
  | suspend
  /-- `cancel_subscription`. -/
  | cancel
  /-- `delete_subscription`. -/
  | delete
  /-- `renew_subscription` of the service and of the expiry manager. -/
  | renew (newEndDate : ℤ)
  /-- `update_subscription`: the given fields; a status key may carry no value. -/
  | update (status : Option (Option SubscriptionStatus)) (planId routerId : Option ℕ)
      (subscriptionType : Option SubscriptionType) (username password : Option String)
      (startDate endDate : Option ℤ)
  /-- The loop body of `process_expired_subscriptions`. -/
  | expire
  /-- The loop body of `process_churn_mark`. -/
  | churn
  /-- `_upsert_subscription` of the dashboard bridge. -/
  | bridge (planId organizationId : ℕ) (username password : String) (now expiresAt : ℤ)
  /-- `_process_pppoe_subscription_renewal` of an active subscription. -/
  | extend (endDate : ℤ)
deriving DecidableEq, Repr

namespace Edit

/-- The writers that do not set `is_router_synced` to false; `update_subscription` is one of them when
it is given no new status. -/
def unguarded (x : Subscription) : Edit → Bool
  | .activate | .suspend | .cancel | .renew _ => false
  | .update status .. => decide (status = none ∨ status = some (some x.status))
  | .delete | .expire | .churn | .bridge .. | .extend _ => true

def apply (x : Subscription) : Edit → Subscription
  | .activate => { x with status := .active, isRouterSynced := false }
  | .suspend => { x with status := .suspended, isRouterSynced := false }
  | .cancel => { x with status := .cancelled, isRouterSynced := false }
  | .delete => { x with status := .cancelled }
  | .renew newEndDate =>
      { x with status := .active, endDate := some newEndDate, isRouterSynced := false }
  | .update status planId routerId subscriptionType username password startDate endDate =>
      { x with
        status := (status.bind id).getD x.status
        planId := planId.getD x.planId
        routerId := routerId.getD x.routerId
        subscriptionType := subscriptionType.getD x.subscriptionType
        username := username.getD x.username
        password := password.getD x.password
        startDate := startDate.getD x.startDate
        endDate := endDate.or x.endDate
        isRouterSynced := if status ≠ none ∧ status ≠ some (some x.status) then false
          else x.isRouterSynced }
  | .expire => { x with status := .expired }
  | .churn => { x with status := .inactive }
  | .bridge planId organizationId username password now expiresAt =>
      { x with
        planId := planId
        organizationId := some organizationId
        status := .active
        startDate := now
        endDate := some expiresAt
        username := username
        password := password }
  | .extend endDate => { x with endDate := some endDate }

theorem apply_id (x : Subscription) (e : Edit) : (e.apply x).id = x.id := by
  cases e <;> rfl

theorem apply_isRouterSynced (x : Subscription) (e : Edit) :
    (e.apply x).isRouterSynced = true ↔ x.isRouterSynced = true ∧ e.unguarded x = true := by
  cases e with
  | update status planId routerId subscriptionType username password startDate endDate =>
      simp only [apply, unguarded, decide_eq_true_eq]
      by_cases h : status = none ∨ status = some (some x.status)
      · rw [if_neg (fun hne => h.elim hne.1 hne.2)]
        simp [h]
      · rw [if_pos (not_or.mp h)]
        simp [h]
  | activate => simp [apply, unguarded]
  | suspend => simp [apply, unguarded]
  | cancel => simp [apply, unguarded]
  | delete => simp [apply, unguarded]
  | renew newEndDate => simp [apply, unguarded]
  | expire => simp [apply, unguarded]
  | churn => simp [apply, unguarded]
  | bridge planId organizationId username password now expiresAt => simp [apply, unguarded]
  | extend endDate => simp [apply, unguarded]

end Edit

/-- The columns that decide about the access of the user. -/
def Subscription.SameAccess (x y : Subscription) : Prop :=
  y.status = x.status ∧ y.planId = x.planId ∧ y.routerId = x.routerId ∧
    y.subscriptionType = x.subscriptionType ∧ y.username = x.username ∧ y.password = x.password

instance (x y : Subscription) : Decidable (x.SameAccess y) :=
  inferInstanceAs (Decidable (_ ∧ _ ∧ _ ∧ _ ∧ _ ∧ _))

theorem Subscription.SameAccess.refl (x : Subscription) : x.SameAccess x :=
  ⟨rfl, rfl, rfl, rfl, rfl, rfl⟩

def Subscription.planIn (x : Subscription) (plans : List ServicePlan) : Option ServicePlan :=
  plans.find? (fun p => p.id = x.planId)

/-- The tables, the commands that are delivered and not executed yet, the executed sync commands of the
subscription, the newest first, and the identifiers of those that were queued since its last change. -/
structure SyncFlag where
  db : AgentTables
  plans : List ServicePlan
  delivered : List RouterCommand
  executed : List RouterCommand
  current : List String

namespace SyncFlag

/-- The moves of the backend and of the agents. -/
inductive Event where
  | edit (n : ℕ) (e : Edit)
  /-- The plan row is replaced. -/
  | editPlan (plan : ServicePlan)
  | sync (now : ℤ) (id : String) (n : ℕ) (direct : ℕ → Option Bool)
  | poll (now : ℤ) (routerId : ℕ)
  /-- An agent executes the `i`-th delivered command. -/
  | execute (i : ℕ)
  /-- The `i`-th delivered command fails or is lost. -/
  | drop (i : ℕ)
  | report (now : ℤ) (results : List CommandResult)
  | cleanup (now : ℤ)
  | resetStale (now : ℤ) (staleThresholdMinutes : ℤ)

variable (agent : AgentSettings) (k : ℕ)

/-- The rows of the subscription `k` have the same access after the edit. -/
def Unchanged (s : SyncFlag) (e : Edit) : Prop :=
  ∀ x ∈ s.db.subscriptions, x.id = k → x.SameAccess (e.apply x)

instance (s : SyncFlag) (e : Edit) : Decidable (s.Unchanged k e) :=
  inferInstanceAs (Decidable (∀ x ∈ s.db.subscriptions, x.id = k → x.SameAccess (e.apply x)))

/-- The plans after one row is replaced. -/
def editedPlans (s : SyncFlag) (plan : ServicePlan) : List ServicePlan :=
  updateWhere (fun p => decide (p.id = plan.id)) (fun _ => plan) s.plans

/-- The plan of the subscription `k` is the same after the edit of a plan. -/
def SamePlan (s : SyncFlag) (plan : ServicePlan) : Prop :=
  ∀ x ∈ s.db.subscriptions, x.id = k → x.planIn (s.editedPlans plan) = x.planIn s.plans

instance (s : SyncFlag) (plan : ServicePlan) : Decidable (s.SamePlan k plan) :=
  inferInstanceAs (Decidable (∀ x ∈ s.db.subscriptions, x.id = k →
    x.planIn (s.editedPlans plan) = x.planIn s.plans))

def newIds (q q' : List RouterCommand) : List String :=
  (q'.map RouterCommand.id).filter (fun id => decide (id ∉ q.map RouterCommand.id))

/-- One move; `k` is the subscription whose sync commands are recorded. -/
def step (s : SyncFlag) : Event → SyncFlag
  | .edit n e =>
      { s with
        db := { s.db with
          subscriptions := updateWhere (fun x => decide (x.id = n)) e.apply s.db.subscriptions }
        current := if n = k ∧ ¬ s.Unchanged k e then [] else s.current }
  | .editPlan plan =>
      { s with
        plans := s.editedPlans plan
        current := if s.SamePlan k plan then s.current else [] }
  | .sync now id n direct =>
      match s.db.subscriptions.find? (fun x => decide (x.id = n)) with
      | none => s
      | some x =>
          let commands := syncSubscriptionToRouter agent now id s.db.routers s.plans x s.db.commands
          { s with
            db := { s.db with
              subscriptions := updateWhere (fun x => decide (x.id = n))
                (Subscription.afterSync now s.db.routers s.plans direct) s.db.subscriptions
              commands := commands }
            current := if n = k then newIds s.db.commands commands ++ s.current else s.current }
  | .poll now routerId =>
      let batch := getPendingCommands agent routerId now none s.db.commands
      { s with
        db := { s.db with
          commands := markCommandsSent now (batch.map RouterCommand.id) s.db.commands }
        delivered := s.delivered ++ batch }
  | .execute i =>
      match s.delivered[i]? with
      | none => s
      | some c =>
          { s with
            delivered := s.delivered.eraseIdx i
            executed := if c.Syncs k then c :: s.executed else s.executed }
  | .drop i => { s with delivered := s.delivered.eraseIdx i }
  | .report now results => { s with db := (s.db.handleReport now results).getD s.db }
  | .cleanup now =>
      { s with db := { s.db with commands := cleanupExpiredCommands now s.db.commands } }
  | .resetStale now threshold =>
      { s with db := { s.db with commands := resetStaleSentCommands now threshold s.db.commands } }

/-! ### The property -/

/-- The last sync command executed on the router. -/
def lastOn (s : SyncFlag) (routerId : ℕ) : Option RouterCommand :=
  s.executed.find? (fun c => decide (c.routerId = routerId))

/-- The router of the row has an agent. -/
def OnAgent (s : SyncFlag) (x : Subscription) : Prop :=
  ∃ r ∈ s.db.routers.find? (fun r => r.id = x.routerId), r.AgentMode

instance (s : SyncFlag) (x : Subscription) : Decidable (s.OnAgent x) :=
  inferInstanceAs (Decidable (∃ r ∈ s.db.routers.find? (fun r => r.id = x.routerId), r.AgentMode))

/-- The router of the row, if it has an agent, has executed last what a sync of the row would
queue. -/
def UpToDate (s : SyncFlag) (x : Subscription) : Prop :=
  s.OnAgent x → (s.lastOn x.routerId).map RouterCommand.action =
    (x.queuedSync s.db.routers s.plans).map Prod.fst

instance (s : SyncFlag) (x : Subscription) : Decidable (s.UpToDate x) :=
  inferInstanceAs (Decidable (s.OnAgent x → _ = _))

/-- The flag of the subscription `k` is right. -/
def Sound (s : SyncFlag) : Prop :=
  ∀ x ∈ s.db.subscriptions, x.id = k → x.isRouterSynced = true → s.UpToDate x

instance (s : SyncFlag) : Decidable (s.Sound k) :=
  inferInstanceAs (Decidable (∀ x ∈ s.db.subscriptions, x.id = k → x.isRouterSynced = true →
    s.UpToDate x))

/-! ### The order of events -/

/-- The flag of the subscription `k` is set. -/
def Flagged (s : SyncFlag) : Prop :=
  ∃ x ∈ s.db.subscriptions, x.id = k ∧ x.isRouterSynced = true

instance (s : SyncFlag) : Decidable (s.Flagged k) :=
  inferInstanceAs (Decidable (∃ x ∈ s.db.subscriptions, x.id = k ∧ x.isRouterSynced = true))

/-- While the flag is set, none of the writers that leave it alone changes the access of the user, and
the plan stays the same; and the sync commands that are executed then were queued since the last change.
When a success of a sync command is reported, the one executed last on the router of the subscription
was queued since the last change. -/
def Ordered (s : SyncFlag) : Event → Prop
  | .edit n e => n = k → ∀ x ∈ s.db.subscriptions, x.id = k → x.isRouterSynced = true →
      e.unguarded x = true → x.SameAccess (e.apply x)
  | .editPlan plan => s.Flagged k → s.SamePlan k plan
  | .execute i => s.Flagged k → ∀ c ∈ s.delivered[i]?, c.Syncs k → c.id ∈ s.current
  | .report _ results => ∀ x ∈ s.db.subscriptions, x.id = k →
      (∃ res ∈ results, s.db.SyncTarget res x) → s.OnAgent x →
        ∃ c ∈ s.lastOn x.routerId, c.id ∈ s.current
  | .sync .. | .poll .. | .drop _ | .cleanup _ | .resetStale .. => True

instance (db : AgentTables) (res : CommandResult) (x : Subscription) :
    Decidable (db.SyncTarget res x) :=
  inferInstanceAs (Decidable (res.status = "success" ∧ ∃ c ∈ db.commands, c.id = res.id ∧
    c.Syncs x.id))

instance (s : SyncFlag) (e : Event) : Decidable (s.Ordered k e) :=
  match e with
  | .edit n e =>
      inferInstanceAs (Decidable (n = k → ∀ x ∈ s.db.subscriptions, x.id = k →
        x.isRouterSynced = true → e.unguarded x = true → x.SameAccess (e.apply x)))
  | .editPlan plan => inferInstanceAs (Decidable (s.Flagged k → s.SamePlan k plan))
  | .execute i =>
      inferInstanceAs (Decidable (s.Flagged k → ∀ c ∈ s.delivered[i]?, c.Syncs k →
        c.id ∈ s.current))
  | .report _ results =>
      inferInstanceAs (Decidable (∀ x ∈ s.db.subscriptions, x.id = k →
        (∃ res ∈ results, s.db.SyncTarget res x) → s.OnAgent x →
          ∃ c ∈ s.lastOn x.routerId, c.id ∈ s.current))
  | .sync .. | .poll .. | .drop _ | .cleanup _ | .resetStale .. => isTrue trivial

/-- The keys of the tables; and what was delivered or executed is in the table of the commands. -/
structure WellFormed (s : SyncFlag) : Prop where
  commands : Keyed RouterCommand.id s.db.commands
  subscriptions : Keyed Subscription.id s.db.subscriptions
  backups : (s.db.backups.filterMap RouterBackup.commandId).Nodup
  delivered : CommandsKept s.delivered s.db.commands
  executed : CommandsKept s.executed s.db.commands

/-- The command is the one that a sync of the subscription `k` would queue, on its router. -/
def Right (s : SyncFlag) (c : RouterCommand) : Prop :=
  ∀ x ∈ s.db.subscriptions, x.id = k →
    c.routerId = x.routerId ∧ (x.queuedSync s.db.routers s.plans).map Prod.fst = some c.action

/-- The invariant: what was queued since the last change is right. -/
structure Tracked (s : SyncFlag) : Prop where
  known : ∀ id ∈ s.current, id ∈ s.db.commands.map RouterCommand.id
  right : ∀ c ∈ s.db.commands, c.id ∈ s.current → s.Right k c

/-! ### What a sync would queue -/

theorem queuedSync_congr {x y : Subscription} (h : x.SameAccess y) (routers : List Router)
    (plans : List ServicePlan) : y.queuedSync routers plans = x.queuedSync routers plans := by
  obtain ⟨hst, hplan, hrouter, htype, hname, hpw⟩ := h
  unfold Subscription.queuedSync Subscription.syncAction Subscription.createUser
    Subscription.disableUser
  rw [hst, hplan, hrouter, htype, hname, hpw]

theorem queuedSync_plans {x : Subscription} {plans plans' : List ServicePlan}
    (h : x.planIn plans' = x.planIn plans) (routers : List Router) :
    x.queuedSync routers plans' = x.queuedSync routers plans := by
  unfold Subscription.planIn at h
  unfold Subscription.queuedSync
  rw [h]

section Moves

variable {agent k} {s t : SyncFlag} {x y : Subscription}

theorem onAgent_congr (hdb : t.db.routers = s.db.routers) (h : y.routerId = x.routerId) :
    t.OnAgent y ↔ s.OnAgent x := by
  unfold OnAgent
  rw [hdb, h]

/-- **Frame rule**: a row with the same access and the same plan is up to date as before, while nothing
is executed. -/
theorem upToDate_congr (hdb : t.db.routers = s.db.routers) (hexec : t.executed = s.executed)
    (hacc : x.SameAccess y) (hplan : x.planIn t.plans = x.planIn s.plans) :
    t.UpToDate y ↔ s.UpToDate x := by
  unfold UpToDate lastOn
  rw [onAgent_congr hdb hacc.2.2.1, hexec, hacc.2.2.1, hdb, queuedSync_congr hacc,
    queuedSync_plans hplan]

theorem Right.congr {c : RouterCommand} (h : s.Right k c) (hdb : t.db.routers = s.db.routers)
    (hrows : ∀ y ∈ t.db.subscriptions, y.id = k → ∃ x ∈ s.db.subscriptions, x.id = k ∧
      x.SameAccess y ∧ x.planIn t.plans = x.planIn s.plans) : t.Right k c := by
  intro y hy hid
  obtain ⟨x, hx, hidx, hacc, hplan⟩ := hrows y hy hid
  obtain ⟨hr, hq⟩ := h x hx hidx
  refine ⟨hr.trans hacc.2.2.1.symm, ?_⟩
  rw [hdb, queuedSync_congr hacc, queuedSync_plans hplan]
  exact hq

/-- A command that is known to the table and was queued since the last change is right. -/
theorem Tracked.right_of_kept (ht : s.Tracked k) {l : List RouterCommand}
    (hl : CommandsKept l s.db.commands) {c : RouterCommand} (hc : c ∈ l) (hcur : c.id ∈ s.current) :
    s.Right k c := by
  obtain ⟨c', hc', hid, hr, ha⟩ := hl c hc
  intro x hx hidx
  obtain ⟨hr', ha'⟩ := ht.right c' hc' (hid ▸ hcur) x hx hidx
  exact ⟨hr.symm.trans hr', ha ▸ ha'⟩

theorem afterSync_sameAccess (now : ℤ) (routers : List Router) (plans : List ServicePlan)
    (direct : ℕ → Option Bool) (x : Subscription) :
    x.SameAccess (x.afterSync now routers plans direct) := by
  obtain ⟨synced, last, h⟩ := x.afterSync_eq now routers plans direct
  rw [h]
  exact ⟨rfl, rfl, rfl, rfl, rfl, rfl⟩

theorem afterSync_id (now : ℤ) (routers : List Router) (plans : List ServicePlan)
    (direct : ℕ → Option Bool) (x : Subscription) : (x.afterSync now routers plans direct).id = x.id := by
  obtain ⟨synced, last, h⟩ := x.afterSync_eq now routers plans direct
  rw [h]

/-! ### What the moves keep -/

theorem commandsKept_step (hw : s.WellFormed) (e : Event) :
    CommandsKept s.db.commands (s.step agent k e).db.commands := by
  cases e with
  | edit n e => exact .refl _
  | editPlan plan => exact .refl _
  | sync now id n direct =>
      simp only [step]
      split
      · exact .refl _
      · exact .of_mem (fun _ hc => mem_syncSubscriptionToRouter hc)
  | poll now routerId =>
      refine .updateWhere ?_ _
      exact fun _ => ⟨rfl, rfl, rfl⟩
  | execute i =>
      simp only [step]
      split
      · exact .refl _
      · exact .refl _
  | drop i => exact .refl _
  | report now results =>
      obtain ⟨db', hreport, h⟩ :=
        AgentTables.handleReport_commandsKept now results hw.commands hw.backups
      simpa only [step, hreport, Option.getD_some] using h
  | cleanup now =>
      refine .updateWhere ?_ _
      exact fun _ => ⟨rfl, rfl, rfl⟩
  | resetStale now threshold =>
      refine .updateWhere ?_ _
      exact fun _ => ⟨rfl, rfl, rfl⟩

theorem kept_step (hw : s.WellFormed) (e : Event) :
    CommandsKept (s.step agent k e).delivered s.db.commands ∧
      CommandsKept (s.step agent k e).executed s.db.commands := by
  obtain ⟨_, _, _, hd, he⟩ := hw
  cases e with
  | edit n e => exact ⟨hd, he⟩
  | editPlan plan => exact ⟨hd, he⟩
  | sync now id n direct =>
      simp only [step]
      split
      · exact ⟨hd, he⟩
      · exact ⟨hd, he⟩
  | poll now routerId =>
      refine ⟨?_, he⟩
      intro c hc
      rcases List.mem_append.mp hc with hc | hc
      · exact hd c hc
      · have hpending := mem_pendingFor_of_mem_getPendingCommands hc
        exact ⟨c, (mem_pendingFor.mp hpending).1, rfl, rfl, rfl⟩
  | execute i =>
      cases hc : s.delivered[i]? with
      | none => simpa only [step, hc] using ⟨hd, he⟩
      | some c =>
          simp only [step, hc]
          refine ⟨fun d hmem => hd d (List.mem_of_mem_eraseIdx hmem), ?_⟩
          split
          · intro d hmem
            rcases List.mem_cons.mp hmem with rfl | hmem
            · exact hd d (List.mem_of_getElem? hc)
            · exact he d hmem
          · exact he
  | drop i => exact ⟨fun d hmem => hd d (List.mem_of_mem_eraseIdx hmem), he⟩
  | report now results => exact ⟨hd, he⟩
  | cleanup now => exact ⟨hd, he⟩
  | resetStale now threshold => exact ⟨hd, he⟩

theorem wellFormed_step (hw : s.WellFormed) (e : Event) : (s.step agent k e).WellFormed := by
  have hdelivered : CommandsKept (s.step agent k e).delivered s.db.commands := (kept_step hw e).1
  have hexecuted : CommandsKept (s.step agent k e).executed s.db.commands := (kept_step hw e).2
  have hkept : CommandsKept s.db.commands (s.step agent k e).db.commands := commandsKept_step hw e
  obtain ⟨hc, hs, hb, _, _⟩ := hw
  suffices h : Keyed RouterCommand.id (s.step agent k e).db.commands ∧
      Keyed Subscription.id (s.step agent k e).db.subscriptions ∧
      ((s.step agent k e).db.backups.filterMap RouterBackup.commandId).Nodup from
    ⟨h.1, h.2.1, h.2.2, hdelivered.trans hkept, hexecuted.trans hkept⟩
  cases e with
  | edit n e => exact ⟨hc, hs.updateWhere e.apply_id, hb⟩
  | editPlan plan => exact ⟨hc, hs, hb⟩
  | sync now id n direct =>
      simp only [step]
      split
      · exact ⟨hc, hs, hb⟩
      · rename_i x _
        refine ⟨?_, hs.updateWhere (afterSync_id now s.db.routers s.plans direct), hb⟩
        rcases syncSubscriptionToRouter_cases agent now id s.db.routers s.plans x s.db.commands with
          heq | ⟨r, a, p, heq⟩
        · simp only [heq]
          exact hc
        · simp only [heq]
          exact keyed_queueCommand hc
  | poll now routerId => exact ⟨keyed_markCommandsSent hc, hs, hb⟩
  | execute i =>
      simp only [step]
      split
      · exact ⟨hc, hs, hb⟩
      · exact ⟨hc, hs, hb⟩
  | drop i => exact ⟨hc, hs, hb⟩
  | report now results =>
      obtain ⟨db', hreport, _, hc', hb', p, _, hsub⟩ :=
        s.db.handleReport_subscriptions now results hc hb
      simp only [step, hreport, Option.getD_some, hsub]
      exact ⟨hc', hs.updateWhere (fun _ => rfl), hb'⟩
  | cleanup now => exact ⟨hc.updateWhere (fun _ => rfl), hs, hb⟩
  | resetStale now threshold => exact ⟨hc.updateWhere (fun _ => rfl), hs, hb⟩

/-- **Frame rule**: a move that queues nothing for the subscription and leaves its access and its plan
alone keeps what is right. -/
theorem Tracked.of_kept (ht : s.Tracked k) (hkeyed : Keyed RouterCommand.id t.db.commands)
    (hkept : CommandsKept s.db.commands t.db.commands) (hcur : t.current = s.current)
    (hdb : t.db.routers = s.db.routers)
    (hrows : ∀ y ∈ t.db.subscriptions, y.id = k → ∃ x ∈ s.db.subscriptions, x.id = k ∧
      x.SameAccess y ∧ x.planIn t.plans = x.planIn s.plans) : t.Tracked k := by
  constructor
  · intro id hid
    obtain ⟨c, hc, rfl⟩ := List.mem_map.mp (ht.known id (hcur ▸ hid))
    obtain ⟨c', hc', hid', _⟩ := hkept c hc
    exact List.mem_map.mpr ⟨c', hc', hid'⟩
  · intro c' hc' hmem
    rw [hcur] at hmem
    obtain ⟨c, hc, hid⟩ := List.mem_map.mp (ht.known _ hmem)
    obtain ⟨c₁, hc₁, hid₁, hr₁, ha₁⟩ := hkept c hc
    obtain rfl := hkeyed.eq_of_key hc₁ hc' (hid₁.trans hid)
    refine Right.congr ?_ hdb hrows
    intro x hx hidx
    obtain ⟨hr, ha⟩ := ht.right c hc (hid ▸ hmem) x hx hidx
    exact ⟨hr₁.trans hr, ha₁ ▸ ha⟩

theorem Tracked.of_nil (h : s.current = []) : s.Tracked k :=
  ⟨fun _ hid => absurd (h ▸ hid) List.not_mem_nil, fun _ _ hid => absurd (h ▸ hid) List.not_mem_nil⟩

theorem rows_of_unchanged {n : ℕ} {e : Edit} (h : n = k → s.Unchanged k e) :
    ∀ y ∈ updateWhere (fun x => decide (x.id = n)) e.apply s.db.subscriptions, y.id = k →
      ∃ x ∈ s.db.subscriptions, x.id = k ∧ x.SameAccess y := by
  intro y hy hid
  obtain ⟨x, hx, rfl⟩ := mem_updateWhere.mp hy
  split at hid
  · rename_i hn
    have hidx : x.id = k := (e.apply_id x).symm.trans hid
    have hacc := h ((of_decide_eq_true hn).symm.trans hidx) x hx hidx
    refine ⟨x, hx, hidx, ?_⟩
    rw [if_pos hn]
    exact hacc
  · rename_i hn
    refine ⟨x, hx, hid, ?_⟩
    rw [if_neg hn]
    exact .refl x

theorem rows_of_sync {n : ℕ} (now : ℤ) (direct : ℕ → Option Bool) :
    ∀ y ∈ updateWhere (fun x => decide (x.id = n)) (Subscription.afterSync now s.db.routers s.plans direct)
      s.db.subscriptions, y.id = k → ∃ x ∈ s.db.subscriptions, x.id = k ∧ x.SameAccess y := by
  intro y hy hid
  obtain ⟨x, hx, rfl⟩ := mem_updateWhere.mp hy
  split at hid
  · rename_i hn
    refine ⟨x, hx, (afterSync_id _ _ _ _ x).symm.trans hid, ?_⟩
    rw [if_pos hn]
    exact afterSync_sameAccess _ _ _ _ x
  · rename_i hn
    refine ⟨x, hx, hid, ?_⟩
    rw [if_neg hn]
    exact .refl x

/-- **A sync queues what is right**: the command that is new in the table, if there is one, is the one
that a sync of the row queues. -/
theorem sync_new {now : ℤ} {id : String} {x : Subscription} {c : RouterCommand}
    (hc : c ∈ syncSubscriptionToRouter agent now id s.db.routers s.plans x s.db.commands)
    (hnew : c.id ∉ s.db.commands.map RouterCommand.id) :
    c.routerId = x.routerId ∧ (x.queuedSync s.db.routers s.plans).map Prod.fst = some c.action := by
  rw [syncSubscriptionToRouter_eq] at hc
  cases hq : x.queuedSync s.db.routers s.plans with
  | none =>
      rw [hq] at hc
      exact absurd (List.mem_map_of_mem hc) hnew
  | some ap =>
      obtain ⟨action, priority⟩ := ap
      rw [hq] at hc
      simp only at hc
      by_cases hid : id ∈ s.db.commands.map RouterCommand.id
      · rw [queueCommand, if_pos hid] at hc
        exact absurd (List.mem_map_of_mem hc) hnew
      · obtain ⟨c₀, heq, _, hr, ha, _⟩ := queueCommand_of_fresh agent now x.routerId action priority
          (some "subscription_sync") (some (toString x.id)) none hid
        rw [heq] at hc
        rcases List.mem_append.mp hc with hc | hc
        · exact absurd (List.mem_map_of_mem hc) hnew
        · obtain rfl := List.mem_singleton.mp hc
          exact ⟨hr, congrArg some ha.symm⟩

theorem tracked_sync (hw : s.WellFormed) (ht : s.Tracked k) (now : ℤ) (id : String) (n : ℕ)
    (direct : ℕ → Option Bool) : (s.step agent k (.sync now id n direct)).Tracked k := by
  have hkeyed : Keyed RouterCommand.id (s.step agent k (.sync now id n direct)).db.commands :=
    (wellFormed_step hw _).commands
  cases hx : s.db.subscriptions.find? (fun x => decide (x.id = n)) with
  | none => simpa only [step, hx] using ht
  | some x =>
      have hmem : x ∈ s.db.subscriptions := List.mem_of_find?_eq_some hx
      have hid : x.id = n := by simpa using List.find?_some hx
      simp only [step, hx] at hkeyed ⊢
      constructor
      · intro i hi
        have hold : i ∈ s.current → i ∈ (syncSubscriptionToRouter agent now id s.db.routers s.plans x
            s.db.commands).map RouterCommand.id := by
          intro hi
          obtain ⟨c, hc, rfl⟩ := List.mem_map.mp (ht.known i hi)
          exact List.mem_map_of_mem (mem_syncSubscriptionToRouter hc)
        split at hi
        · rcases List.mem_append.mp hi with hi | hi
          · exact (List.mem_filter.mp hi).1
          · exact hold hi
        · exact hold hi
      · intro c hc hcur
        refine Right.congr (s := s) ?_ rfl ?_
        · by_cases hold : c.id ∈ s.db.commands.map RouterCommand.id
          · -- the command was there before
            have hcur' : c.id ∈ s.current := by
              split at hcur
              · rcases List.mem_append.mp hcur with hi | hi
                · exact absurd hold (of_decide_eq_true (List.mem_filter.mp hi).2)
                · exact hi
              · exact hcur
            obtain ⟨c₀, hc₀, hid₀⟩ := List.mem_map.mp hold
            obtain rfl := hkeyed.eq_of_key (mem_syncSubscriptionToRouter hc₀) hc hid₀
            exact ht.right c₀ hc₀ hcur'
          · have hn : n = k := by
              by_contra hne
              rw [if_neg hne] at hcur
              exact hold (ht.known _ hcur)
            intro x' hx' hidx'
            obtain rfl := hw.subscriptions.eq_of_key hmem hx' (hid.trans (hn.trans hidx'.symm))
            exact sync_new hc hold
        · intro y hy hidy
          obtain ⟨x', hx', hidx', hacc⟩ := rows_of_sync now direct y hy hidy
          exact ⟨x', hx', hidx', hacc, rfl⟩

/-- **Step lemma**: what was queued since the last change is right. -/
theorem tracked_step (hw : s.WellFormed) (ht : s.Tracked k) (e : Event) :
    (s.step agent k e).Tracked k := by
  have hkeyed : Keyed RouterCommand.id (s.step agent k e).db.commands :=
    (wellFormed_step hw e).commands
  have hkept : CommandsKept s.db.commands (s.step agent k e).db.commands := commandsKept_step hw e
  have hsame : ∀ y ∈ s.db.subscriptions, y.id = k → ∃ x ∈ s.db.subscriptions, x.id = k ∧
      x.SameAccess y ∧ x.planIn s.plans = x.planIn s.plans :=
    fun y hy hid => ⟨y, hy, hid, .refl y, rfl⟩
  cases e with
  | edit n e =>
      by_cases hchange : n = k ∧ ¬ s.Unchanged k e
      · exact .of_nil (if_pos hchange)
      · refine ht.of_kept hkeyed hkept (if_neg hchange) rfl ?_
        intro y hy hid
        obtain ⟨x, hx, hidx, hacc⟩ :=
          rows_of_unchanged (fun hn => not_not.mp (not_and.mp hchange hn)) y hy hid
        exact ⟨x, hx, hidx, hacc, rfl⟩
  | editPlan plan =>
      by_cases hplan : s.SamePlan k plan
      · exact ht.of_kept hkeyed hkept (if_pos hplan) rfl
          (fun y hy hid => ⟨y, hy, hid, .refl y, hplan y hy hid⟩)
      · exact .of_nil (if_neg hplan)
  | sync now id n direct => exact tracked_sync hw ht now id n direct
  | poll now routerId => exact ht.of_kept hkeyed hkept rfl rfl hsame
  | execute i =>
      cases hc : s.delivered[i]? with
      | none => simpa only [step, hc] using ht
      | some c =>
          simp only [step, hc] at hkeyed hkept ⊢
          exact ht.of_kept hkeyed hkept rfl rfl hsame
  | drop i => exact ht.of_kept hkeyed hkept rfl rfl hsame
  | report now results =>
      obtain ⟨db', hreport, hr, _, _, p, _, hsub⟩ :=
        s.db.handleReport_subscriptions now results hw.commands hw.backups
      simp only [step, hreport, Option.getD_some] at hkeyed hkept ⊢
      refine ht.of_kept hkeyed hkept rfl hr ?_
      intro y hy hid
      simp only [hsub] at hy
      obtain ⟨x, hx, rfl⟩ := mem_updateWhere.mp hy
      split at hid
      · rename_i hp
        refine ⟨x, hx, hid, ?_, rfl⟩
        rw [if_pos hp]
        exact ⟨rfl, rfl, rfl, rfl, rfl, rfl⟩
      · rename_i hp
        refine ⟨x, hx, hid, ?_, rfl⟩
        rw [if_neg hp]
        exact .refl x
  | cleanup now => exact ht.of_kept hkeyed hkept rfl rfl hsame
  | resetStale now threshold => exact ht.of_kept hkeyed hkept rfl rfl hsame

/-! ### The flag -/

/-- A row that was called directly is not on a router with an agent. -/
theorem upToDate_afterSync {now : ℤ} {direct : ℕ → Option Bool}
    (h : x.isRouterSynced = true → s.UpToDate x)
    (hflag : (x.afterSync now s.db.routers s.plans direct).isRouterSynced = true) :
    s.UpToDate (x.afterSync now s.db.routers s.plans direct) := by
  by_cases hcall : x.CalledDirectly s.db.routers s.plans
  · obtain ⟨⟨r, hr, hno⟩, _⟩ := hcall
    rintro ⟨r', hr', hagent⟩
    obtain ⟨synced, last, hsync⟩ := x.afterSync_eq now s.db.routers s.plans direct
    rw [hsync] at hr'
    obtain rfl := Option.some.inj (hr.symm.trans hr')
    exact absurd hagent hno
  · have hsame : x.afterSync now s.db.routers s.plans direct = x := if_neg hcall
    rw [hsame] at hflag ⊢
    exact h hflag

theorem upToDate_of_current (hw : s.WellFormed) (ht : s.Tracked k) (hx : x ∈ s.db.subscriptions)
    (hid : x.id = k) {c : RouterCommand} (hlast : s.lastOn x.routerId = some c)
    (hcur : c.id ∈ s.current) : s.UpToDate x := by
  intro _
  have hmem : c ∈ s.executed := List.mem_of_find?_eq_some hlast
  rw [hlast, (ht.right_of_kept hw.executed hmem hcur x hx hid).2]
  rfl

theorem sound_execute (hw : s.WellFormed) (ht : s.Tracked k) (hs : s.Sound k) {i : ℕ}
    (ho : s.Ordered k (.execute i)) : (s.step agent k (.execute i)).Sound k := by
  cases hc : s.delivered[i]? with
  | none => simpa only [step, hc] using hs
  | some c =>
      by_cases hk : c.Syncs k
      · simp only [step, hc, hk, if_true]
        intro x hx hid hflag hagent
        have hcur : c.id ∈ s.current := ho ⟨x, hx, hid, hflag⟩ c hc hk
        obtain ⟨hr, hq⟩ :=
          ht.right_of_kept hw.delivered (List.mem_of_getElem? hc) hcur x hx hid
        have hlast : (c :: s.executed).find? (fun d => decide (d.routerId = x.routerId)) = some c :=
          List.find?_cons_of_pos (decide_eq_true hr)
        unfold lastOn
        simp only [hlast]
        exact hq.symm
      · simp only [step, hc, hk, if_false]
        exact hs

theorem sound_report (hw : s.WellFormed) (ht : s.Tracked k) (hs : s.Sound k) {now : ℤ}
    {results : List CommandResult} (ho : s.Ordered k (.report now results)) :
    (s.step agent k (.report now results)).Sound k := by
  obtain ⟨db', hreport, hr, _, _, p, hp, hsub⟩ :=
    s.db.handleReport_subscriptions now results hw.commands hw.backups
  simp only [step, hreport, Option.getD_some]
  intro y hy hid hflag
  simp only [hsub] at hy
  obtain ⟨x, hx, rfl⟩ := mem_updateWhere.mp hy
  split at hid
  · rename_i htarget
    rw [if_pos htarget]
    suffices h : s.UpToDate x from
      (upToDate_congr (t := { s with db := db' }) (y := { x with isRouterSynced := true }) hr rfl
        ⟨rfl, rfl, rfl, rfl, rfl, rfl⟩ rfl).mpr h
    intro hagent
    obtain ⟨c, hlast, hcur⟩ := ho x hx hid ((hp x).mp htarget) hagent
    exact upToDate_of_current hw ht hx hid hlast hcur hagent
  · rename_i hother
    rw [if_neg hother] at hflag ⊢
    exact (upToDate_congr (t := { s with db := db' }) hr rfl (.refl x) rfl).mpr (hs x hx hid hflag)

/-- **Step lemma**: an event in order keeps the flag right. -/
theorem sound_step (hw : s.WellFormed) (ht : s.Tracked k) (hs : s.Sound k) {e : Event}
    (ho : s.Ordered k e) : (s.step agent k e).Sound k := by
  cases e with
  | edit n e =>
      intro y hy hid hflag
      obtain ⟨x, hx, rfl⟩ := mem_updateWhere.mp hy
      split at hid
      · rename_i hn
        rw [if_pos hn] at hflag ⊢
        have hidx : x.id = k := (e.apply_id x).symm.trans hid
        obtain ⟨hset, hunguarded⟩ := (e.apply_isRouterSynced x).mp hflag
        have hacc := ho ((of_decide_eq_true hn).symm.trans hidx) x hx hidx hset hunguarded
        exact (upToDate_congr (s := s) rfl rfl hacc rfl).mpr (hs x hx hidx hset)
      · rename_i hn
        rw [if_neg hn] at hflag ⊢
        exact hs x hx hid hflag
  | editPlan plan =>
      intro x hx hid hflag
      have hplan := ho ⟨x, hx, hid, hflag⟩ x hx hid
      exact (upToDate_congr (s := s) (t := s.step agent k (.editPlan plan)) rfl rfl (.refl x) hplan).mpr
        (hs x hx hid hflag)
  | sync now id n direct =>
      simp only [step]
      split
      · exact hs
      · refine (forall_updateWhere (fun x hx _ => hs x hx)).mpr ?_
        intro x hx _ hid
        exact upToDate_afterSync (hs x hx ((afterSync_id _ _ _ _ x).symm.trans hid))
  | poll now routerId => exact hs
  | execute i => exact sound_execute hw ht hs ho
  | drop i => exact hs
  | report now results => exact sound_report hw ht hs ho
  | cleanup now => exact hs
  | resetStale now threshold => exact hs

end Moves

/-- **When the sync flag is sound**: in every run whose events come in this order, the flag of the
subscription `k` is right in every state. -/
theorem flag_sound_always (agent : AgentSettings) (k : ℕ) (s : SyncFlag) (hw : s.WellFormed)
    (hs : s.Sound k) (hnew : s.current = []) (es : List Event)
    (ho : Along (step agent k) (Ordered k) s es) : Always (step agent k) (Sound k) s es := by
  refine always_of_along (I := fun s => s.WellFormed ∧ s.Tracked k ∧ s.Sound k) ?_ (fun s h => h.2.2)
    ⟨hw, .of_nil hnew, hs⟩ ho
  rintro s e ⟨hw, ht, hs⟩ he
  exact ⟨wellFormed_step hw e, tracked_step hw ht e, sound_step hw ht hs he⟩

/-- The `create_user` of a subscription, executed and reported. -/
def executedCreate : RouterCommand :=
  ⟨"c", 1, .createUser "alice" "pw" .hotspot "plan_1" "5M/5M", 3, .success, 0, none, some 0, none, none,
    0, 3, some "subscription_sync", some "1"⟩

/-- A subscription whose `create_user` has been executed and reported. -/
def connected : SyncFlag where
  db :=
    { routers := [⟨1, 1, true, true, some "hash"⟩]
      commands := [executedCreate]
      subscriptions :=
        [⟨1, some 1, 1, 1, .hotspot, .active, "alice", "pw", 0, some (days 30), true, none⟩]
      backups := [] }
  plans := [.hourly]
  delivered := []
  executed := [executedCreate]
  current := []

/-- Suspended, and activated again before the execution of the `disable_user` is reported. -/
def suspendedInBetween : List Event :=
  [.edit 1 .suspend, .sync 0 "a" 1 (fun _ => none), .poll 1 1, .execute 0,
    .edit 1 .activate, .report 2 [⟨"a", "success", ""⟩]]

/-- A late report: the subscription is active and marked as synced, but the router has executed
its `disable_user` last.  A soft delete does the same without any report. -/
theorem flag_unsound :
    connected.Sound 1 ∧
      ¬ (exec (step .default 1) connected suspendedInBetween).Sound 1 ∧
      ¬ (exec (step .default 1) connected [.edit 1 .delete]).Sound 1 := by
  decide

/-- A suspension that is executed and then reported leaves the flag right all along. -/
theorem flag_sound_suspension : Always (step .default 1) (Sound 1) connected
    [.edit 1 .suspend, .sync 0 "a" 1 (fun _ => none), .poll 1 1, .execute 0,
      .report 2 [⟨"a", "success", ""⟩]] :=
  flag_sound_always .default 1 connected
    ⟨by decide, by decide, by decide, .of_mem (fun _ h => by cases h), .of_mem (fun _ h => h)⟩
    (by decide) rfl _ (by decide)

end SyncFlag

end IspBilling
