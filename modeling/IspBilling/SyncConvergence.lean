import IspBilling.AgentScript
import IspBilling.Runs
import IspBilling.Subscription

/-! # Convergence of the agent path

A subscription on a router with a polling agent: every change of its status queues a command
(`syncSubscriptionToRouter`), the agent fetches batches of commands, executes them in the order
of delivery and reports them.  When everything queued for the user has been executed and
reported, is the user enabled exactly if the subscription is active?

The commands that are under way decide what the user will be.  `ahead` is the `disabled` flag of
the user once the delivered commands are executed; of the commands that still wait in the queue,
every `disable_user` (priority 2) is delivered before every `create_user` (priority 3), whatever
the order in which they were queued, so that `forecast` can settle them in this order.  Polls,
executions and reports do not change the forecast (`step_poll_inv`, `step_execute_inv`,
`step_report_inv`), unless a waiting command has passed its expiry and will never be delivered
(`Stuck`).

A status change moves the forecast, and not always to where it should be: `create_user` leaves
the flag of an existing user alone, and a `disable_user` overtakes a waiting `create_user`.
`ChangeOk` is the exact condition under which the change queues what its status needs. -/

namespace IspBilling

open Rows Runs

/-! ### Commands and the flag of a user -/

namespace Action

/-- The command may touch the user `name` of type `type`. -/
def Concerns (type : UserType) (name : String) : Action → Prop
  | .createUser n _ t _ _ | .disableUser n t | .enableUser n t | .removeUser n t =>
      n = name ∧ t = type
  | .fetchImport _ => True
  | .disconnect _ | .setQueue .. | .runScript _ => False

instance (type : UserType) (name : String) : DecidablePred (Concerns type name)
  | .createUser n _ t _ _ | .disableUser n t | .enableUser n t | .removeUser n t =>
      inferInstanceAs (Decidable (n = name ∧ t = type))
  | .fetchImport _ => isTrue trivial
  | .disconnect _ | .setQueue .. | .runScript _ => isFalse id

/-- A `create_user` of the user. -/
def creates (type : UserType) (name : String) : Action → Bool
  | .createUser n _ t _ _ => decide (n = name ∧ t = type)
  | _ => false

/-- A `disable_user` of the user. -/
def disables (type : UserType) (name : String) : Action → Bool
  | .disableUser n t => decide (n = name ∧ t = type)
  | _ => false

theorem concerns_of_creates {type : UserType} {name : String} {a : Action}
    (h : a.creates type name = true) : a.Concerns type name := by
  cases a <;> first | exact of_decide_eq_true h | cases h

theorem concerns_of_disables {type : UserType} {name : String} {a : Action}
    (h : a.disables type name = true) : a.Concerns type name := by
  cases a <;> first | exact of_decide_eq_true h | cases h

theorem disables_eq_false_of_creates {type : UserType} {name : String} {a : Action}
    (h : a.creates type name = true) : a.disables type name = false := by
  cases a <;> first | rfl | cases h

end Action

/-- The flag of a user after a disable, if `d`, and then a create, if `c`: a create adds a
missing user enabled and leaves the flag of an existing one alone. -/
def settle (d c : Bool) (x : Option Bool) : Option Bool :=
  let y := if d then x.map (fun _ => true) else x
  if c then some (y.getD false) else y

@[simp] theorem settle_false_false (x : Option Bool) : settle false false x = x := rfl

/-- A create enables a user that is missing, or that is enabled and not disabled before. -/
theorem settle_create {d : Bool} {x : Option Bool} (h : x = none ∨ (x = some false ∧ d = false)) :
    settle d true x = some false := by
  rcases h with rfl | ⟨rfl, rfl⟩
  · cases d <;> rfl
  · rfl

/-- A disable leaves no enabled user, unless a create brings one in. -/
theorem settle_disable {c : Bool} {x : Option Bool} (h : x ≠ none ∨ c = false) :
    settle true c x ≠ some false := by
  cases x with
  | none =>
      rcases h with h | rfl
      · exact absurd rfl h
      · simp [settle]
  | some b => cases c <;> simp [settle]

/-- Two rounds are one, if no disable of the second comes after a create of the first. -/
theorem settle_settle (d₁ c₁ d₂ c₂ : Bool) (x : Option Bool) (h : c₁ = true → d₂ = false) :
    settle d₂ c₂ (settle d₁ c₁ x) = settle (d₁ || d₂) (c₁ || c₂) x := by
  cases c₁ with
  | false =>
      cases d₁ <;> cases d₂ <;> cases c₂ <;> cases x <;> rfl
  | true =>
      rw [h rfl]
      cases d₁ <;> cases c₂ <;> cases x <;> rfl

section Flags

variable (type : UserType) (name : String)

/-- The list has a `disable_user` of the user. -/
def hasDisable (l : List RouterCommand) : Bool := l.any (fun c => c.action.disables type name)

/-- The list has a `create_user` of the user. -/
def hasCreate (l : List RouterCommand) : Bool := l.any (fun c => c.action.creates type name)

theorem hasDisable_eq_false {l : List RouterCommand}
    (h : ∀ c ∈ l, ¬ c.action.Concerns type name) : hasDisable type name l = false := by
  rw [hasDisable, List.any_eq_false]
  intro c hc hd
  exact h c hc (Action.concerns_of_disables hd)

theorem hasCreate_eq_false {l : List RouterCommand}
    (h : ∀ c ∈ l, ¬ c.action.Concerns type name) : hasCreate type name l = false := by
  rw [hasCreate, List.any_eq_false]
  intro c hc hd
  exact h c hc (Action.concerns_of_creates hd)

/-- The flag after the commands of the list, in order. -/
def runFlags (l : List RouterCommand) (x : Option Bool) : Option Bool :=
  l.foldl (fun x c => settle (c.action.disables type name) (c.action.creates type name) x) x

/-- A list without a disable after a create acts as one round. -/
theorem runFlags_eq_settle {l : List RouterCommand}
    (h : l.Pairwise (fun c d => c.action.creates type name = true →
      d.action.disables type name = false)) (x : Option Bool) :
    runFlags type name l x = settle (hasDisable type name l) (hasCreate type name l) x := by
  induction l generalizing x with
  | nil => rfl
  | cons c l ih =>
      obtain ⟨hc, hl⟩ := List.pairwise_cons.mp h
      have htail : c.action.creates type name = true → hasDisable type name l = false := by
        intro hcreate
        rw [hasDisable, List.any_eq_false]
        intro d hd
        simp [hc d hd hcreate]
      show runFlags type name l (settle _ _ x) = _
      rw [ih hl, settle_settle _ _ _ _ _ htail]
      rfl

theorem runFlags_of_not_concerns {l : List RouterCommand}
    (h : ∀ c ∈ l, ¬ c.action.Concerns type name) (x : Option Bool) : runFlags type name l x = x := by
  induction l generalizing x with
  | nil => rfl
  | cons c l ih =>
      have hc := h c List.mem_cons_self
      have hd : c.action.disables type name = false := by
        by_contra hd
        exact hc (Action.concerns_of_disables (by simpa using hd))
      have hcr : c.action.creates type name = false := by
        by_contra hcr
        exact hc (Action.concerns_of_creates (by simpa using hcr))
      show runFlags type name l (settle _ _ x) = x
      rw [hd, hcr, settle_false_false]
      exact ih (fun c' hc' => h c' (List.mem_cons_of_mem c hc')) x

theorem execute_flag {importScript : String → RouterState → RouterState} {a : Action}
    (ha : a.disables type name = true ∨ a.creates type name = true ∨ ¬ a.Concerns type name)
    (r : RouterState) :
    ((r.execute importScript a).lookup type name).map RouterUser.disabled =
      settle (a.disables type name) (a.creates type name)
        ((r.lookup type name).map RouterUser.disabled) := by
  have himport : ∀ url, a ≠ .fetchImport url := by
    rintro url rfl
    rcases ha with h | h | h
    · cases h
    · cases h
    · exact h trivial
  have hflip : ∀ {n t}, ¬ (n = name ∧ t = type) → ¬ (name = n ∧ type = t) :=
    fun h he => h ⟨he.1.symm, he.2.symm⟩
  rw [execute_lookup himport]
  cases a with
  | disableUser n t =>
      rcases ha with h | h | h
      · obtain ⟨rfl, rfl⟩ : n = name ∧ t = type := of_decide_eq_true h
        cases r.lookup t n <;> simp [userEffect, settle, Action.disables, Action.creates]
      · cases h
      · have hne : ¬ (n = name ∧ t = type) := h
        simp [userEffect, settle, Action.disables, Action.creates, hne, hflip hne]
  | createUser n password t profile rateLimit =>
      rcases ha with h | h | h
      · cases h
      · obtain ⟨rfl, rfl⟩ : n = name ∧ t = type := of_decide_eq_true h
        cases r.lookup t n <;>
          simp [userEffect, settle, Action.disables, Action.creates, RouterUser.new]
      · have hne : ¬ (n = name ∧ t = type) := h
        simp [userEffect, settle, Action.disables, Action.creates, hne, hflip hne]
  | enableUser n t =>
      have hne : ¬ (name = n ∧ type = t) := by
        rcases ha with h | h | h
        · cases h
        · cases h
        · exact hflip h
      simp [userEffect, settle, Action.disables, Action.creates, hne]
  | removeUser n t =>
      have hne : ¬ (name = n ∧ type = t) := by
        rcases ha with h | h | h
        · cases h
        · cases h
        · exact hflip h
      simp [userEffect, settle, Action.disables, Action.creates, hne]
  | fetchImport url => exact absurd rfl (himport url)
  | disconnect n => rfl
  | setQueue target maxLimit => rfl
  | runScript script => rfl

end Flags

/-! ### The system -/

/-- The changes of a subscription's status. -/
inductive StatusChange where
  | activate
  | suspend
  | cancel
  | expire
  | renew
deriving DecidableEq, Repr

def StatusChange.status : StatusChange → SubscriptionStatus
  | .activate | .renew => .active
  | .suspend => .suspended
  | .cancel => .cancelled
  | .expire => .expired

/-- The subscription's status, the queue, the commands delivered and not executed, the commands
executed, and the router. -/
structure Convergence where
  status : SubscriptionStatus
  clock : ℤ
  commands : List RouterCommand
  delivered : List RouterCommand
  executed : List String
  router : RouterState

namespace Convergence

/-- The moves; `dt` is the time that has passed since the last one. -/
inductive Event where
  | change (change : StatusChange) (dt : ℕ) (id : String)
  /-- Some other part of the backend queues a command. -/
  | other (dt : ℕ) (id : String) (routerId : ℕ) (action : Action) (priority : ℤ)
  | poll (dt : ℕ)
  /-- The agent executes the next command delivered to it. -/
  | execute
  /-- The agent reports the success of a command it has executed. -/
  | report (dt : ℕ) (id message : String)
deriving DecidableEq, Repr

variable (settings : AgentSettings) (routers : List Router) (plans : List ServicePlan)
variable (importScript : String → RouterState → RouterState) (sub : Subscription)

def step (s : Convergence) : Event → Convergence
  | .change change dt id =>
      { s with
        status := change.status
        clock := s.clock + dt
        commands := syncSubscriptionToRouter settings (s.clock + dt) id routers plans
          { sub with status := change.status } s.commands }
  | .other dt id routerId action priority =>
      { s with
        clock := s.clock + dt
        commands := queueCommand settings (s.clock + dt) id routerId action priority none none none
          s.commands }
  | .poll dt =>
      let batch := getPendingCommands settings sub.routerId (s.clock + dt) none s.commands
      { s with
        clock := s.clock + dt
        commands := markCommandsSent (s.clock + dt) (batch.map RouterCommand.id) s.commands
        delivered := s.delivered ++ batch }
  | .execute =>
      match s.delivered with
      | [] => s
      | c :: rest =>
          { s with
            delivered := rest
            executed := c.id :: s.executed
            router := s.router.execute importScript c.action }
  | .report dt id message =>
      if id ∈ s.executed then
        { s with
          clock := s.clock + dt
          commands := updateWhere (fun c => decide (c.id = id))
            (RouterCommand.applyResult (s.clock + dt) "success" message) s.commands }
      else s

def userType : UserType := sub.subscriptionType.userType

/-- The command may touch the subscription's user. -/
def Own (c : RouterCommand) : Prop :=
  c.routerId = sub.routerId ∧ c.action.Concerns (userType sub) sub.username

instance : DecidablePred (Own sub) := fun c =>
  inferInstanceAs (Decidable (c.routerId = sub.routerId ∧
    c.action.Concerns (userType sub) sub.username))

/-- Everything queued for the user has been executed and reported as a success. -/
def Drained (s : Convergence) : Prop := ∀ c ∈ s.commands, Own sub c → c.status = .success

instance (s : Convergence) : Decidable (s.Drained sub) :=
  inferInstanceAs (Decidable (∀ c ∈ s.commands, Own sub c → c.status = .success))

/-- The `disabled` flag of the user on the router. -/
def userFlag (s : Convergence) : Option Bool :=
  (s.router.lookup (userType sub) sub.username).map RouterUser.disabled

/-- Once drained, the user is enabled exactly if the subscription is active. -/
def Converged (s : Convergence) : Prop :=
  s.Drained sub → (s.userFlag sub = some false ↔ s.status = .active)

instance (s : Convergence) : Decidable (s.Converged sub) :=
  inferInstanceAs (Decidable (s.Drained sub → (s.userFlag sub = some false ↔ s.status = .active)))

/-! ### The forecast -/

/-- The flag of the user once the delivered commands are executed. -/
def ahead (s : Convergence) : Option Bool :=
  runFlags (userType sub) sub.username s.delivered (s.userFlag sub)

def waiting (s : Convergence) : List RouterCommand :=
  s.commands.filter (fun c => decide (c.routerId = sub.routerId ∧ c.status = .pending))

/-- The flag of the user once the waiting commands are executed too. -/
def forecast (s : Convergence) : Option Bool :=
  settle (hasDisable (userType sub) sub.username (s.waiting sub))
    (hasCreate (userType sub) sub.username (s.waiting sub)) (s.ahead sub)

/-- A command of the user waits past its expiry: no poll will hand it out any more. -/
def Stuck (s : Convergence) : Prop := ∃ c ∈ s.waiting sub, Own sub c ∧ c.PastExpiry s.clock

/-- The commands of the user are those of the sync, with their priorities. -/
def Known (c : RouterCommand) : Prop :=
  ¬ c.action.Concerns (userType sub) sub.username ∨
    (c.action.disables (userType sub) sub.username = true ∧ c.priority = 2) ∨
    (c.action.creates (userType sub) sub.username = true ∧ c.priority = 3)

/-- The condition under which a change queues what its status needs.  An activation: the user
will not exist, or will be enabled with no disable waiting.  Any other change: the user will
exist, or no create is waiting. -/
def ChangeOk (s : Convergence) (change : StatusChange) : Prop :=
  if change.status = .active then
    s.ahead sub = none ∨
      (s.ahead sub = some false ∧ hasDisable (userType sub) sub.username (s.waiting sub) = false)
  else s.ahead sub ≠ none ∨ hasCreate (userType sub) sub.username (s.waiting sub) = false

instance (s : Convergence) (change : StatusChange) : Decidable (s.ChangeOk sub change) :=
  inferInstanceAs (Decidable (if change.status = .active then
    s.ahead sub = none ∨
      (s.ahead sub = some false ∧ hasDisable (userType sub) sub.username (s.waiting sub) = false)
    else s.ahead sub ≠ none ∨ hasCreate (userType sub) sub.username (s.waiting sub) = false))

/-- The runs considered: identifiers are fresh, other commands do not touch the user, and every
change meets its condition. -/
def Admitted (s : Convergence) : Event → Prop
  | .change change _ id => id ∉ s.commands.map RouterCommand.id ∧ s.ChangeOk sub change
  | .other _ id routerId action _ => id ∉ s.commands.map RouterCommand.id ∧
      (routerId = sub.routerId → ¬ action.Concerns (userType sub) sub.username)
  | .poll _ | .execute | .report .. => True

instance (s : Convergence) (e : Event) : Decidable (s.Admitted sub e) :=
  match e with
  | .change change _ id => inferInstanceAs (Decidable (id ∉ s.commands.map RouterCommand.id ∧
      s.ChangeOk sub change))
  | .other _ id routerId action _ => inferInstanceAs (Decidable (
      id ∉ s.commands.map RouterCommand.id ∧
      (routerId = sub.routerId → ¬ action.Concerns (userType sub) sub.username)))
  | .poll _ | .execute | .report .. => isTrue trivial

/-- What every admitted run keeps. -/
structure Inv (s : Convergence) : Prop where
  keyed : Keyed RouterCommand.id s.commands
  known : ∀ c ∈ s.commands, c.routerId = sub.routerId → Known sub c
  deliveredOnce : Keyed RouterCommand.id s.delivered
  sent : ∀ d ∈ s.delivered, d.id ∉ s.executed ∧ ∃ c ∈ s.commands, c.id = d.id ∧
    c.status = .sent ∧ c.action = d.action ∧ c.routerId = sub.routerId
  done : ∀ id ∈ s.executed, ∃ c ∈ s.commands, c.id = id ∧ c.status ≠ .pending
  settled : s.Stuck sub ∨ (s.forecast sub = some false ↔ s.status = .active)

variable {settings routers plans importScript sub}

theorem mem_waiting {s : Convergence} {c : RouterCommand} :
    c ∈ s.waiting sub ↔ c ∈ s.commands ∧ c.routerId = sub.routerId ∧ c.status = .pending := by
  simp [waiting]

/-- **Soundness of the forecast**: in a drained state the user is what was forecast. -/
theorem Inv.converged {s : Convergence} (h : s.Inv sub) : s.Converged sub := by
  intro hdrained
  have hnone : ∀ c ∈ s.waiting sub, ¬ c.action.Concerns (userType sub) sub.username := by
    intro c hc hconcerns
    obtain ⟨hmem, hr, hst⟩ := mem_waiting.mp hc
    have hsuccess := hdrained c hmem ⟨hr, hconcerns⟩
    rw [hst] at hsuccess
    cases hsuccess
  have hstuck : ¬ s.Stuck sub := by
    rintro ⟨c, hc, hown, _⟩
    exact hnone c hc hown.2
  have hdelivered : ∀ d ∈ s.delivered, ¬ d.action.Concerns (userType sub) sub.username := by
    intro d hd hconcerns
    obtain ⟨_, c, hc, _, hst, hact, hr⟩ := h.sent d hd
    have hsuccess := hdrained c hc ⟨hr, hact ▸ hconcerns⟩
    rw [hst] at hsuccess
    cases hsuccess
  have hforecast : s.forecast sub = s.userFlag sub := by
    rw [forecast, hasDisable_eq_false _ _ hnone, hasCreate_eq_false _ _ hnone, settle_false_false,
      ahead, runFlags_of_not_concerns _ _ hdelivered]
  rw [← hforecast]
  exact h.settled.resolve_left hstuck

theorem forecast_congr {s t : Convergence} (hw : ∀ c, c ∈ t.waiting sub ↔ c ∈ s.waiting sub)
    (hahead : t.ahead sub = s.ahead sub) : t.forecast sub = s.forecast sub := by
  have hany : ∀ p : RouterCommand → Bool, (t.waiting sub).any p = (s.waiting sub).any p := by
    intro p
    rw [Bool.eq_iff_iff, List.any_eq_true, List.any_eq_true]
    simp only [hw]
  rw [forecast, forecast, hahead, hasDisable, hasDisable, hasCreate, hasCreate, hany, hany]

theorem Stuck.mono {s t : Convergence} (h : s.Stuck sub)
    (hw : ∀ c ∈ s.waiting sub, c ∈ t.waiting sub) (hclock : s.clock ≤ t.clock) : t.Stuck sub := by
  obtain ⟨c, hc, hown, hpast⟩ := h
  exact ⟨c, hw c hc, hown, hpast.mono hclock⟩

theorem waiting_append (sub : Subscription) {s t : Convergence} {c : RouterCommand}
    (ht : t.commands = s.commands ++ [c]) (hst : c.status = .pending) :
    t.waiting sub = s.waiting sub ++ if c.routerId = sub.routerId then [c] else [] := by
  rw [waiting, ht, List.filter_append]
  congr 1
  by_cases hr : c.routerId = sub.routerId
  · simp [hr, hst]
  · simp [hr]

theorem Inv.of_queue {s t : Convergence} {c : RouterCommand} (h : s.Inv sub)
    (hfresh : c.id ∉ s.commands.map RouterCommand.id) (ht : t.commands = s.commands ++ [c])
    (hknown : c.routerId = sub.routerId → Known sub c) (hdel : t.delivered = s.delivered)
    (hexec : t.executed = s.executed)
    (hset : t.Stuck sub ∨ (t.forecast sub = some false ↔ t.status = .active)) : t.Inv sub := by
  refine ⟨?_, ?_, hdel ▸ h.deliveredOnce, ?_, ?_, hset⟩
  · rw [ht]
    exact h.keyed.append_singleton hfresh
  · intro c' hc' hr
    rw [ht] at hc'
    rcases List.mem_append.mp hc' with hc' | hc'
    · exact h.known c' hc' hr
    · obtain rfl := List.mem_singleton.mp hc'
      exact hknown hr
  · intro d hd
    rw [hdel] at hd
    obtain ⟨hne, c', hc', hrest⟩ := h.sent d hd
    rw [hexec, ht]
    exact ⟨hne, c', List.mem_append_left _ hc', hrest⟩
  · intro id hid
    rw [hexec] at hid
    obtain ⟨c', hc', hrest⟩ := h.done id hid
    rw [ht]
    exact ⟨c', List.mem_append_left _ hc', hrest⟩

theorem forecast_append_other {s t : Convergence} {c : RouterCommand}
    (hwait : t.waiting sub = s.waiting sub ++ if c.routerId = sub.routerId then [c] else [])
    (hother : c.routerId = sub.routerId → ¬ c.action.Concerns (userType sub) sub.username)
    (hahead : t.ahead sub = s.ahead sub) : t.forecast sub = s.forecast sub := by
  rw [forecast, forecast, hahead, hwait]
  by_cases hr : c.routerId = sub.routerId
  · have hd : c.action.disables (userType sub) sub.username = false := by
      by_contra hd
      exact hother hr (Action.concerns_of_disables (by simpa using hd))
    have hcr : c.action.creates (userType sub) sub.username = false := by
      by_contra hcr
      exact hother hr (Action.concerns_of_creates (by simpa using hcr))
    simp [hasDisable, hasCreate, hr, hd, hcr]
  · simp [hr]

/-- The sync of a status change queues a create for `ACTIVE` and a disable otherwise. -/
theorem sync_queues (settings : AgentSettings) {router : Router} {plan : ServicePlan}
    (hrouter : routers.find? (fun r => r.id = sub.routerId) = some router)
    (hagent : router.AgentMode) (hplan : plans.find? (fun p => p.id = sub.planId) = some plan)
    (change : StatusChange) (now : ℤ) {id : String} {q : List RouterCommand}
    (hfresh : id ∉ q.map RouterCommand.id) :
    ∃ c, syncSubscriptionToRouter settings now id routers plans
        { sub with status := change.status } q = q ++ [c] ∧ c.id = id ∧
      c.routerId = sub.routerId ∧ c.status = .pending ∧
      (if change.status = .active then
        c.action.creates (userType sub) sub.username = true ∧ c.priority = 3
      else c.action.disables (userType sub) sub.username = true ∧ c.priority = 2) := by
  have hid : router.id = sub.routerId := by simpa using List.find?_some hrouter
  unfold syncSubscriptionToRouter
  rw [hrouter, hplan]
  simp only [hagent, if_true]
  cases change with
  | activate | renew =>
      obtain ⟨c, hq, hcid, hr, ha, hp, hst, _⟩ := queueCommand_of_fresh settings now router.id
        (sub.createUser plan) 3 (some "subscription_sync") (some (toString sub.id)) none hfresh
      exact ⟨c, hq, hcid, hr.trans hid, hst, by
        simp [StatusChange.status, ha, hp, Subscription.createUser, Action.creates, userType]⟩
  | suspend | cancel | expire =>
      obtain ⟨c, hq, hcid, hr, ha, hp, hst, _⟩ := queueCommand_of_fresh settings now router.id
        sub.disableUser 2 (some "subscription_sync") (some (toString sub.id)) none hfresh
      exact ⟨c, hq, hcid, hr.trans hid, hst, by
        simp [StatusChange.status, ha, hp, Subscription.disableUser, Action.disables, userType]⟩

section Steps

variable {s : Convergence}

theorem step_change_inv {router : Router} {plan : ServicePlan}
    (hrouter : routers.find? (fun r => r.id = sub.routerId) = some router)
    (hagent : router.AgentMode) (hplan : plans.find? (fun p => p.id = sub.planId) = some plan)
    (h : s.Inv sub) (change : StatusChange) (dt : ℕ) (id : String)
    (hok : s.Admitted sub (.change change dt id)) :
    (s.step settings routers plans importScript sub (.change change dt id)).Inv sub := by
  obtain ⟨hfresh, hcond⟩ := hok
  obtain ⟨c, hq, hid, hr, hst, haction⟩ :=
    sync_queues settings hrouter hagent hplan change (s.clock + dt) hfresh
  set t := s.step settings routers plans importScript sub (.change change dt id) with ht
  have hcommands : t.commands = s.commands ++ [c] := hq
  have hwait : t.waiting sub = s.waiting sub ++ [c] := by
    rw [waiting_append sub hcommands hst, if_pos hr]
  have hahead : t.ahead sub = s.ahead sub := rfl
  have hstatus : t.status = change.status := rfl
  unfold ChangeOk at hcond
  by_cases hact : change.status = .active
  · rw [if_pos hact] at haction hcond
    have hdis : c.action.disables (userType sub) sub.username = false :=
      Action.disables_eq_false_of_creates haction.1
    refine h.of_queue (c := c) (hid ▸ hfresh) hcommands (fun _ => Or.inr (Or.inr haction)) rfl rfl
      (Or.inr ?_)
    rw [hstatus, hact, forecast, hwait, hahead]
    simp only [hasDisable, hasCreate, List.any_append, List.any_cons, List.any_nil, haction.1, hdis,
      Bool.or_false, Bool.or_true, iff_true]
    exact settle_create hcond
  · rw [if_neg hact] at haction hcond
    have hcre : c.action.creates (userType sub) sub.username = false := by
      by_contra hcre
      have hno := Action.disables_eq_false_of_creates
        (show c.action.creates (userType sub) sub.username = true by simpa using hcre)
      rw [haction.1] at hno
      cases hno
    refine h.of_queue (c := c) (hid ▸ hfresh) hcommands (fun _ => Or.inr (Or.inl haction)) rfl rfl
      (Or.inr ?_)
    rw [hstatus, forecast, hwait, hahead]
    simp only [hasDisable, hasCreate, List.any_append, List.any_cons, List.any_nil, haction.1, hcre,
      Bool.or_false, Bool.or_true, hact, iff_false]
    exact settle_disable hcond

theorem step_other_inv (h : s.Inv sub) (dt : ℕ) (id : String) (routerId : ℕ) (action : Action)
    (priority : ℤ) (hok : s.Admitted sub (.other dt id routerId action priority)) :
    (s.step settings routers plans importScript sub (.other dt id routerId action priority)).Inv
      sub := by
  obtain ⟨hfresh, hother⟩ := hok
  obtain ⟨c, hq, hid, hr, ha, _, hst, _⟩ := queueCommand_of_fresh settings (s.clock + dt) routerId
    action priority none none none hfresh
  set t := s.step settings routers plans importScript sub (.other dt id routerId action priority)
  have hcommands : t.commands = s.commands ++ [c] := hq
  have hwait := waiting_append sub hcommands hst
  have hforeign : c.routerId = sub.routerId →
      ¬ c.action.Concerns (userType sub) sub.username := by
    rw [hr, ha]
    exact hother
  refine h.of_queue (c := c) (hid ▸ hfresh) hcommands (fun hrc => Or.inl (hforeign hrc)) rfl rfl ?_
  rcases h.settled with hstuck | hset
  · left
    refine hstuck.mono ?_ (show s.clock ≤ s.clock + dt by omega)
    intro c' hc'
    rw [hwait]
    exact List.mem_append_left _ hc'
  · right
    rw [forecast_append_other hwait hforeign rfl]
    exact hset

/-- A disable of the user never comes after a create in the order of the queue. -/
theorem Inv.not_disables_of_before (h : s.Inv sub) {c d : RouterCommand} (hc : c ∈ s.waiting sub)
    (hd : d ∈ s.waiting sub) (hbefore : c.Before d)
    (hcreate : c.action.creates (userType sub) sub.username = true) :
    d.action.disables (userType sub) sub.username = false := by
  obtain ⟨hcm, hcr, _⟩ := mem_waiting.mp hc
  obtain ⟨hdm, hdr, _⟩ := mem_waiting.mp hd
  by_contra hdis
  have hdis' : d.action.disables (userType sub) sub.username = true := by simpa using hdis
  have h3 : c.priority = 3 := by
    rcases h.known c hcm hcr with hno | ⟨hcd, _⟩ | ⟨_, hp⟩
    · exact absurd (Action.concerns_of_creates hcreate) hno
    · rw [Action.disables_eq_false_of_creates hcreate] at hcd
      cases hcd
    · exact hp
  have h2 : d.priority = 2 := by
    rcases h.known d hdm hdr with hno | ⟨_, hp⟩ | ⟨hdc, _⟩
    · exact absurd (Action.concerns_of_disables hdis') hno
    · exact hp
    · rw [Action.disables_eq_false_of_creates hdc] at hdis'
      cases hdis'
  unfold RouterCommand.Before at hbefore
  omega

/-- The commands that a poll at `now` hands out. -/
def batchAt (settings : AgentSettings) (sub : Subscription) (s : Convergence) (now : ℤ) :
    List RouterCommand :=
  getPendingCommands settings sub.routerId now none s.commands

theorem mem_waiting_of_mem_batchAt {now : ℤ} {c : RouterCommand}
    (hc : c ∈ s.batchAt settings sub now) : c ∈ s.waiting sub ∧ ¬ c.PastExpiry now := by
  obtain ⟨h1, h2, h3, h4⟩ := mem_pendingFor.mp (mem_pendingFor_of_mem_getPendingCommands hc)
  exact ⟨mem_waiting.mpr ⟨h1, h2, h3⟩, h4⟩

theorem mem_commands_poll (h : s.Inv sub) (dt : ℕ) {c : RouterCommand} :
    c ∈ (s.step settings routers plans importScript sub (.poll dt)).commands ↔
      (c ∈ s.commands ∧ c ∉ s.batchAt settings sub (s.clock + dt)) ∨
        ∃ b ∈ s.batchAt settings sub (s.clock + dt), b.markSent (s.clock + dt) = c :=
  mem_markCommandsSent_iff h.keyed
    (fun _ hb => (mem_waiting.mp (mem_waiting_of_mem_batchAt hb).1).1)

theorem mem_waiting_poll (h : s.Inv sub) (dt : ℕ) {c : RouterCommand} :
    c ∈ (s.step settings routers plans importScript sub (.poll dt)).waiting sub ↔
      c ∈ s.waiting sub ∧ c ∉ s.batchAt settings sub (s.clock + dt) := by
  rw [mem_waiting, mem_waiting, mem_commands_poll h]
  constructor
  · rintro ⟨⟨hc, hnot⟩ | ⟨b, _, rfl⟩, hr, hst⟩
    · exact ⟨⟨hc, hr, hst⟩, hnot⟩
    · cases hst
  · rintro ⟨⟨hc, hr, hst⟩, hnot⟩
    exact ⟨Or.inl ⟨hc, hnot⟩, hr, hst⟩

theorem any_waiting_poll (h : s.Inv sub) (dt : ℕ) (p : RouterCommand → Bool) :
    (s.waiting sub).any p = ((s.batchAt settings sub (s.clock + dt)).any p ||
      ((s.step settings routers plans importScript sub (.poll dt)).waiting sub).any p) := by
  rw [Bool.eq_iff_iff, Bool.or_eq_true, List.any_eq_true, List.any_eq_true, List.any_eq_true]
  constructor
  · rintro ⟨c, hc, hp⟩
    by_cases hb : c ∈ s.batchAt settings sub (s.clock + dt)
    · exact Or.inl ⟨c, hb, hp⟩
    · exact Or.inr ⟨c, (mem_waiting_poll h dt).mpr ⟨hc, hb⟩, hp⟩
  · rintro (⟨c, hc, hp⟩ | ⟨c, hc, hp⟩)
    · exact ⟨c, (mem_waiting_of_mem_batchAt hc).1, hp⟩
    · exact ⟨c, ((mem_waiting_poll h dt).mp hc).1, hp⟩

/-- A poll that leaves no command of the user past its expiry keeps the forecast: what it hands
out comes before what it leaves behind. -/
theorem forecast_poll (h : s.Inv sub) (dt : ℕ)
    (hlive : ¬ (s.step settings routers plans importScript sub (.poll dt)).Stuck sub) :
    (s.step settings routers plans importScript sub (.poll dt)).forecast sub = s.forecast sub := by
  set batch := s.batchAt settings sub (s.clock + dt) with hbatch
  set t := s.step settings routers plans importScript sub (.poll dt)
  have hsorted : batch.Pairwise (fun c d => c.action.creates (userType sub) sub.username = true →
      d.action.disables (userType sub) sub.username = false) := by
    refine (getPendingCommands_pairwise settings sub.routerId (s.clock + dt) none
      s.commands).imp_of_mem ?_
    intro c d hc hd hbefore
    exact h.not_disables_of_before (mem_waiting_of_mem_batchAt hc).1
      (mem_waiting_of_mem_batchAt hd).1 hbefore
  have hahead : t.ahead sub = settle (hasDisable (userType sub) sub.username batch)
      (hasCreate (userType sub) sub.username batch) (s.ahead sub) := by
    rw [← runFlags_eq_settle _ _ hsorted]
    show runFlags _ _ (s.delivered ++ batch) _ = _
    rw [runFlags, List.foldl_append]
    rfl
  have hlater : hasCreate (userType sub) sub.username batch = true →
      hasDisable (userType sub) sub.username (t.waiting sub) = false := by
    intro hcreate
    obtain ⟨c, hc, hcc⟩ := List.any_eq_true.mp hcreate
    rw [hasDisable, List.any_eq_false]
    intro d hd hdis
    obtain ⟨hdw, hdb⟩ := (mem_waiting_poll h dt).mp hd
    obtain ⟨hdm, hdr, hdst⟩ := mem_waiting.mp hdw
    have hdlive : ¬ d.PastExpiry (s.clock + dt) := by
      intro hpast
      exact hlive ⟨d, hd, ⟨hdr, Action.concerns_of_disables hdis⟩, hpast⟩
    have hbefore := before_of_mem_getPendingCommands hc
      (mem_pendingFor.mpr ⟨hdm, hdr, hdst, hdlive⟩) hdb
    have hno := h.not_disables_of_before (mem_waiting_of_mem_batchAt hc).1 hdw hbefore hcc
    rw [hdis] at hno
    cases hno
  rw [forecast, forecast, hahead, settle_settle _ _ _ _ _ hlater]
  simp only [hasDisable, hasCreate]
  rw [any_waiting_poll h dt, any_waiting_poll h dt]

theorem step_poll_inv (h : s.Inv sub) (dt : ℕ) :
    (s.step settings routers plans importScript sub (.poll dt)).Inv sub := by
  have hmem : ∀ c, c ∈ (s.step settings routers plans importScript sub (.poll dt)).commands ↔
      (c ∈ s.commands ∧ c ∉ s.batchAt settings sub (s.clock + dt)) ∨
        ∃ b ∈ s.batchAt settings sub (s.clock + dt), b.markSent (s.clock + dt) = c :=
    fun c => mem_commands_poll h dt
  have hpending : ∀ b ∈ s.batchAt settings sub (s.clock + dt), b ∈ s.commands ∧
      b.routerId = sub.routerId ∧ b.status = .pending :=
    fun b hb => mem_waiting.mp (mem_waiting_of_mem_batchAt hb).1
  -- a row that does not wait is not handed out
  have hkeep : ∀ c ∈ s.commands, c.status ≠ .pending →
      c ∈ (s.step settings routers plans importScript sub (.poll dt)).commands := by
    intro c hc hne
    exact (hmem c).mpr (Or.inl ⟨hc, fun hb => hne (hpending c hb).2.2⟩)
  refine ⟨keyed_markCommandsSent h.keyed, ?_, ?_, ?_, ?_, ?_⟩
  · intro c hc hr
    rcases (hmem c).mp hc with ⟨hc', _⟩ | ⟨b, hb, rfl⟩
    · exact h.known c hc' hr
    · exact h.known b (hpending b hb).1 hr
  · show Keyed RouterCommand.id (s.delivered ++ s.batchAt settings sub (s.clock + dt))
    unfold Keyed
    rw [List.map_append, List.nodup_append]
    refine ⟨h.deliveredOnce, keyed_getPendingCommands h.keyed, ?_⟩
    intro i hi j hj hij
    obtain ⟨d, hd, rfl⟩ := List.mem_map.mp hi
    obtain ⟨b, hb, rfl⟩ := List.mem_map.mp hj
    obtain ⟨_, c, hc, hcid, hst, _⟩ := h.sent d hd
    rw [h.keyed.eq_of_key hc (hpending b hb).1 (hcid.trans hij), (hpending b hb).2.2] at hst
    cases hst
  · intro d hd
    rcases List.mem_append.mp hd with hd | hd
    · obtain ⟨hne, c, hc, hcid, hst, hrest⟩ := h.sent d hd
      exact ⟨hne, c, hkeep c hc (by rw [hst]; decide), hcid, hst, hrest⟩
    · refine ⟨?_, d.markSent (s.clock + dt), (hmem _).mpr (Or.inr ⟨d, hd, rfl⟩), rfl, rfl, rfl,
        (hpending d hd).2.1⟩
      intro hexec
      obtain ⟨c, hc, hid, hne⟩ := h.done d.id hexec
      exact hne (h.keyed.eq_of_key hc (hpending d hd).1 hid ▸ (hpending d hd).2.2)
  · intro id hid
    obtain ⟨c, hc, hcid, hne⟩ := h.done id hid
    exact ⟨c, hkeep c hc hne, hcid, hne⟩
  · by_cases hstuck : (s.step settings routers plans importScript sub (.poll dt)).Stuck sub
    · exact Or.inl hstuck
    · right
      rw [forecast_poll h dt hstuck]
      refine h.settled.resolve_left ?_
      rintro ⟨c, hc, hown, hpast⟩
      have hpast' : c.PastExpiry (s.clock + dt) := hpast.mono (by omega)
      exact hstuck ⟨c, (mem_waiting_poll h dt).mpr
        ⟨hc, fun hb => (mem_waiting_of_mem_batchAt hb).2 hpast'⟩, hown, hpast'⟩

/-- The agent executes a command: the flag moves to where it was ahead. -/
theorem step_execute_inv (h : s.Inv sub) :
    (s.step settings routers plans importScript sub .execute).Inv sub := by
  cases hdel : s.delivered with
  | nil => simpa only [step, hdel] using h
  | cons c rest =>
      simp only [step, hdel]
      have hc : c ∈ s.delivered := by
        rw [hdel]
        exact List.mem_cons_self
      have hrest : ∀ d ∈ rest, d ∈ s.delivered := by
        intro d hd
        rw [hdel]
        exact List.mem_cons_of_mem c hd
      obtain ⟨_, row, hrow, hrid, hrst, hract, hrr⟩ := h.sent c hc
      have honce := h.deliveredOnce
      rw [hdel] at honce
      obtain ⟨hnot, hnodup⟩ := List.nodup_cons.mp honce
      have hkind : c.action.disables (userType sub) sub.username = true ∨
          c.action.creates (userType sub) sub.username = true ∨
          ¬ c.action.Concerns (userType sub) sub.username := by
        rw [← hract]
        rcases h.known row hrow hrr with hno | ⟨hd, _⟩ | ⟨hd, _⟩
        · exact Or.inr (Or.inr hno)
        · exact Or.inl hd
        · exact Or.inr (Or.inl hd)
      refine ⟨h.keyed, h.known, hnodup, ?_, ?_, ?_⟩
      · intro d hd
        obtain ⟨hne, hsent⟩ := h.sent d (hrest d hd)
        refine ⟨?_, hsent⟩
        intro hmem
        rcases List.mem_cons.mp hmem with heq | hmem
        · exact hnot (heq ▸ List.mem_map_of_mem hd)
        · exact hne hmem
      · intro id hid
        rcases List.mem_cons.mp hid with rfl | hid
        · exact ⟨row, hrow, hrid, by rw [hrst]; decide⟩
        · exact h.done id hid
      · rcases h.settled with hstuck | hset
        · exact Or.inl hstuck
        · right
          have hahead : ahead sub { s with
              delivered := rest, executed := c.id :: s.executed
              router := s.router.execute importScript c.action } = s.ahead sub := by
            rw [ahead, ahead, hdel, userFlag, execute_flag _ _ hkind]
            rfl
          rw [forecast, hahead]
          exact hset

/-- The table after a success report of the command `id`. -/
def reported (s : Convergence) (now : ℤ) (id message : String) : List RouterCommand :=
  updateWhere (fun c => decide (c.id = id)) (RouterCommand.applyResult now "success" message)
    s.commands

theorem mem_reported_of_ne {c : RouterCommand} {now : ℤ} {id message : String}
    (hc : c ∈ s.commands) (hne : c.id ≠ id) : c ∈ s.reported now id message :=
  mem_updateWhere.mpr ⟨c, hc, by simp [hne]⟩

theorem of_mem_reported {c : RouterCommand} {now : ℤ} {id message : String}
    (h : c ∈ s.reported now id message) : (c ∈ s.commands ∧ c.id ≠ id) ∨
      ∃ c₀ ∈ s.commands, c₀.id = id ∧ c.id = id ∧ c.status = .success ∧ c.routerId = c₀.routerId ∧
        c.action = c₀.action ∧ c.priority = c₀.priority := by
  obtain ⟨c₀, hc₀, rfl⟩ := mem_updateWhere.mp h
  by_cases hid : c₀.id = id
  · obtain ⟨hid', hr, ha, hp, _⟩ := c₀.applyResult_frame now "success" message
    right
    rw [if_pos (decide_eq_true hid)]
    exact ⟨c₀, hc₀, hid, hid'.trans hid, by simp [RouterCommand.applyResult], hr, ha, hp⟩
  · left
    rw [if_neg (by simp [hid])]
    exact ⟨hc₀, hid⟩

theorem mem_waiting_reported {t : Convergence} {now : ℤ} {id message : String}
    (ht : t.commands = s.reported now id message)
    (hclosed : ∀ c ∈ s.commands, c.id = id → c.status ≠ .pending) (c : RouterCommand) :
    c ∈ t.waiting sub ↔ c ∈ s.waiting sub := by
  rw [mem_waiting, mem_waiting, ht]
  constructor
  · rintro ⟨hc, hr, hst⟩
    rcases of_mem_reported hc with ⟨hc, _⟩ | ⟨_, _, _, _, hsuccess, _⟩
    · exact ⟨hc, hr, hst⟩
    · rw [hsuccess] at hst
      cases hst
  · rintro ⟨hc, hr, hst⟩
    exact ⟨mem_reported_of_ne hc (fun hid => hclosed c hc hid hst), hr, hst⟩

theorem step_report_inv (h : s.Inv sub) (dt : ℕ) (id message : String) :
    (s.step settings routers plans importScript sub (.report dt id message)).Inv sub := by
  simp only [step]
  split
  · rename_i hexec
    obtain ⟨row, hrow, hrid, hrne⟩ := h.done id hexec
    have hclosed : ∀ c ∈ s.commands, c.id = id → c.status ≠ .pending := by
      intro c hc hcid
      rw [h.keyed.eq_of_key hc hrow (hcid.trans hrid.symm)]
      exact hrne
    set t : Convergence := { s with
      clock := s.clock + dt
      commands := s.reported (s.clock + dt) id message }
    have hwait : ∀ c, c ∈ t.waiting sub ↔ c ∈ s.waiting sub := mem_waiting_reported rfl hclosed
    show t.Inv sub
    refine ⟨h.keyed.updateWhere (fun c => c.applyResult_id _ _ _), ?_, h.deliveredOnce, ?_, ?_, ?_⟩
    · intro c hc hr
      rcases of_mem_reported hc with ⟨hc, _⟩ | ⟨c₀, hc₀, _, _, _, hr₀, ha, hp⟩
      · exact h.known c hc hr
      · have hk := h.known c₀ hc₀ (hr₀ ▸ hr)
        unfold Known at hk ⊢
        rw [ha, hp]
        exact hk
    · intro d hd
      obtain ⟨hne, c, hc, hcid, hrest⟩ := h.sent d hd
      refine ⟨hne, c, mem_reported_of_ne hc ?_, hcid, hrest⟩
      rintro rfl
      exact hne (hcid ▸ hexec)
    · intro id' hid'
      obtain ⟨c, hc, hcid, hne⟩ := h.done id' hid'
      by_cases hcmd : c.id = id
      · refine ⟨c.applyResult (s.clock + dt) "success" message,
          mem_updateWhere.mpr ⟨c, hc, if_pos (decide_eq_true hcmd)⟩,
          (c.applyResult_id _ _ _).trans hcid, ?_⟩
        simp [RouterCommand.applyResult]
      · exact ⟨c, mem_reported_of_ne hc hcmd, hcid, hne⟩
    · rcases h.settled with hstuck | hset
      · refine Or.inl (hstuck.mono (fun c hc => (hwait c).mpr hc) ?_)
        show s.clock ≤ s.clock + dt
        omega
      · right
        rw [forecast_congr hwait rfl]
        exact hset
  · exact h

end Steps

/-- A state in which nothing is under way. -/
def idle (status : SubscriptionStatus) (clock : ℤ) (commands : List RouterCommand)
    (router : RouterState) : Convergence :=
  ⟨status, clock, commands, [], [], router⟩

/-- **Convergence of the agent path**: from a consistent state with nothing queued for the user,
in every run whose status changes all meet `ChangeOk`, whatever the polls, executions, reports
and other commands in between, the user is enabled exactly if the subscription is active
whenever everything queued for the user has been executed and reported. -/
theorem converged_always (settings : AgentSettings) (routers : List Router)
    (plans : List ServicePlan) (importScript : String → RouterState → RouterState)
    (sub : Subscription) (router : Router)
    (hrouter : routers.find? (fun r => r.id = sub.routerId) = some router)
    (hagent : router.AgentMode) (plan : ServicePlan)
    (hplan : plans.find? (fun p => p.id = sub.planId) = some plan) (status : SubscriptionStatus)
    (clock : ℤ) (commands : List RouterCommand) (state : RouterState)
    (hkeyed : Keyed RouterCommand.id commands) (hnone : ∀ c ∈ commands, ¬ Own sub c)
    (hstart : (idle status clock commands state).userFlag sub = some false ↔ status = .active)
    (es : List Event)
    (hok : Along (step settings routers plans importScript sub) (Admitted sub)
      (idle status clock commands state) es) :
    Always (step settings routers plans importScript sub) (Converged sub)
      (idle status clock commands state) es := by
  have hwait : ∀ c ∈ (idle status clock commands state).waiting sub,
      ¬ c.action.Concerns (userType sub) sub.username := by
    intro c hc hconcerns
    obtain ⟨hmem, hr, _⟩ := mem_waiting.mp hc
    exact hnone c hmem ⟨hr, hconcerns⟩
  have hforecast : (idle status clock commands state).forecast sub =
      (idle status clock commands state).userFlag sub := by
    rw [forecast, hasDisable_eq_false _ _ hwait, hasCreate_eq_false _ _ hwait, settle_false_false]
    rfl
  have hinv : (idle status clock commands state).Inv sub := by
    refine ⟨hkeyed, ?_, List.nodup_nil, ?_, ?_, Or.inr ?_⟩
    · intro c hc hr
      exact Or.inl (fun hconcerns => hnone c hc ⟨hr, hconcerns⟩)
    · intro d hd
      cases hd
    · intro id hid
      cases hid
    · rw [hforecast]
      exact hstart
  refine always_of_along (I := Inv sub) ?_ (fun s h => h.converged) hinv hok
  intro s e h he
  cases e with
  | change change dt id => exact step_change_inv hrouter hagent hplan h change dt id he
  | other dt id routerId action priority => exact step_other_inv h dt id routerId action priority he
  | poll dt => exact step_poll_inv h dt
  | execute => exact step_execute_inv h
  | report dt id message => exact step_report_inv h dt id message

/-- A hotspot subscription of the hourly plan on router `1`. -/
def aliceSub : Subscription :=
  ⟨1, some 1, 1, 1, .hotspot, .pending, "alice", "pw", 0, none, false, none⟩

/-- Router `1`, with an agent. -/
def agentRouter : Router := ⟨1, 1, true, true, some "hash"⟩

def emptyRouter : RouterState :=
  ⟨⟨[], List.nodup_nil⟩, ⟨[], List.nodup_nil⟩, [], [], [], [], [], []⟩

/-- The moves that deliver, execute and report one command. -/
def carryOut (id : String) : List Event := [.poll 1, .execute, .report 1 id ""]

/-- A renewal after a suspension leaves the user disabled; and a suspension that overtakes the
activation leaves the user enabled. -/
theorem renewal_stays_disabled :
    (¬ Always (step .default [agentRouter] [.hourly] (fun _ r => r) aliceSub) (Converged aliceSub)
      (idle .pending 0 [] emptyRouter)
      ([.change .activate 0 "c1"] ++ carryOut "c1" ++ [.change .suspend 0 "c2"] ++ carryOut "c2" ++
        [.change .renew 0 "c3"] ++ carryOut "c3")) ∧
    ¬ Always (step .default [agentRouter] [.hourly] (fun _ r => r) aliceSub) (Converged aliceSub)
      (idle .pending 0 [] emptyRouter)
      [.change .activate 0 "c1", .change .suspend 1 "c2", .poll 1, .execute, .execute,
        .report 1 "c1" "", .report 1 "c2" ""] := by
  decide

/-- An activation and a suspension, each carried out, with another user's command in between. -/
theorem converged_always_alice :
    Along (step .default [agentRouter] [.hourly] (fun _ r => r) aliceSub) (Admitted aliceSub)
        (idle .pending 0 [] emptyRouter)
        ([.change .activate 0 "c1", .other 0 "o1" 1 (.disconnect "bob") 1, .poll 1, .execute, .execute,
          .report 1 "c1" "", .change .suspend 0 "c2"] ++ carryOut "c2") ∧
      Always (step .default [agentRouter] [.hourly] (fun _ r => r) aliceSub) (Converged aliceSub)
        (idle .pending 0 [] emptyRouter)
        ([.change .activate 0 "c1", .other 0 "o1" 1 (.disconnect "bob") 1, .poll 1, .execute, .execute,
          .report 1 "c1" "", .change .suspend 0 "c2"] ++ carryOut "c2") :=
  ⟨by decide, converged_always .default [agentRouter] [.hourly] (fun _ r => r) aliceSub agentRouter
    rfl (by decide) .hourly rfl .pending 0 [] emptyRouter (by decide) (by decide) (by decide) _
    (by decide)⟩

end Convergence

end IspBilling
