import IspBilling.CommandQueue

/-! # Subscriptions and their agent sync

The columns of `subscriptions` (`app/models/subscription.py`) that the router sync and the
expiry passes use, and `SubscriptionRouterSyncService` on a router with a polling agent
(`app/modules/subscriptions/router_sync.py`): nothing is sent to the router at once, the sync
queues one command, `create_user` for an active subscription and `disable_user` for an
expired, suspended or cancelled one. -/

namespace IspBilling

/-- `SubscriptionStatus`. -/
inductive SubscriptionStatus where
  | active
  | inactive
  | suspended
  | expired
  | cancelled
  | pending
deriving DecidableEq, Repr

/-- `SubscriptionType`. -/
inductive SubscriptionType where
  | hotspot
  | pppoe
deriving DecidableEq, Repr

/-- The user type of a command, from the subscription's type. -/
def SubscriptionType.userType : SubscriptionType → UserType
  | .hotspot => .hotspot
  | .pppoe => .pppoe

/-- A row of `subscriptions`. -/
structure Subscription where
  id : ℕ
  organizationId : Option ℕ
  planId : ℕ
  routerId : ℕ
  subscriptionType : SubscriptionType
  status : SubscriptionStatus
  username : String
  password : String
  startDate : ℤ
  endDate : Option ℤ
  isRouterSynced : Bool
  lastRouterSync : Option ℤ
deriving DecidableEq, Repr

/-- The columns of `routers` that decide how a router is reached. -/
structure Router where
  id : ℕ
  organizationId : ℕ
  isActive : Bool
  agentInstalled : Bool
  /-- Hash of the agent token. -/
  agentToken : Option String
deriving DecidableEq, Repr

/-- `router.agent_installed and router.agent_token`. -/
def Router.AgentMode (r : Router) : Prop :=
  r.agentInstalled = true ∧ ∃ t ∈ r.agentToken, t ≠ ""

instance : DecidablePred Router.AgentMode :=
  fun r => inferInstanceAs (Decidable (r.agentInstalled = true ∧ ∃ t ∈ r.agentToken, t ≠ ""))

/-- The `create_user` of an active subscription. -/
def Subscription.createUser (s : Subscription) (plan : ServicePlan) : Action :=
  .createUser s.username s.password s.subscriptionType.userType plan.profileName
    plan.buildRateLimit

/-- The `disable_user` of a lapsed subscription. -/
def Subscription.disableUser (s : Subscription) : Action :=
  .disableUser s.username s.subscriptionType.userType

/-- The command that `_sync_via_agent_queue` queues, with its priority; a pending or inactive
subscription queues none. -/
def Subscription.syncAction (s : Subscription) (plan : ServicePlan) : Option (Action × ℤ) :=
  match s.status with
  | .active => some (s.createUser plan, 3)
  | .expired => some (s.disableUser, 2)
  | .suspended => some (s.disableUser, 2)
  | .cancelled => some (s.disableUser, 2)
  | .inactive => none
  | .pending => none

/-- `_sync_via_agent_queue`. -/
def syncViaAgentQueue (settings : AgentSettings) (now : ℤ) (id : String) (s : Subscription)
    (router : Router) (plan : ServicePlan) (q : List RouterCommand) : List RouterCommand :=
  match s.syncAction plan with
  | some (action, priority) =>
      queueCommand settings now id router.id action priority (some "subscription_sync")
        (some (toString s.id)) none q
  | none => q

/-- `sync_subscription_to_router`, as far as the command queue goes: without its router or its
plan the sync stops with an error, and a router without agent is called directly. -/
def syncSubscriptionToRouter (settings : AgentSettings) (now : ℤ) (id : String)
    (routers : List Router) (plans : List ServicePlan) (s : Subscription)
    (q : List RouterCommand) : List RouterCommand :=
  match routers.find? (fun r => r.id = s.routerId), plans.find? (fun p => p.id = s.planId) with
  | some router, some plan =>
      if router.AgentMode then syncViaAgentQueue settings now id s router plan q else q
  | _, _ => q

/-- The command that a sync of the subscription queues, if its router has an agent. -/
def Subscription.queuedSync (routers : List Router) (plans : List ServicePlan)
    (s : Subscription) : Option (Action × ℤ) :=
  match routers.find? (fun r => r.id = s.routerId), plans.find? (fun p => p.id = s.planId) with
  | some router, some plan => if router.AgentMode then s.syncAction plan else none
  | _, _ => none

/-- A sync queues `queuedSync` for the router of the subscription, and nothing else. -/
theorem syncSubscriptionToRouter_eq (settings : AgentSettings) (now : ℤ) (id : String)
    (routers : List Router) (plans : List ServicePlan) (s : Subscription)
    (q : List RouterCommand) :
    syncSubscriptionToRouter settings now id routers plans s q =
      match s.queuedSync routers plans with
      | some (action, priority) =>
          queueCommand settings now id s.routerId action priority (some "subscription_sync")
            (some (toString s.id)) none q
      | none => q := by
  unfold syncSubscriptionToRouter Subscription.queuedSync
  cases hr : routers.find? (fun r => r.id = s.routerId) with
  | none => rfl
  | some router =>
      have hid : router.id = s.routerId := by simpa using List.find?_some hr
      cases plans.find? (fun p => p.id = s.planId) with
      | none => rfl
      | some plan =>
          by_cases hagent : router.AgentMode
          · simp only [hagent, if_true, syncViaAgentQueue, hid]
          · simp only [hagent, if_false]

end IspBilling
