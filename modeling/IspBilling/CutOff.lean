import IspBilling.AgentScript
import IspBilling.ExpiryPasses

/-! # Expired means cut off

An account that expires is marked at once, but its user is cut off only when the agent executes the
`disable_user` that the pass has queued.  The system of this module is one router `r` with its
agent: the passes mark rows and queue commands, polls hand commands out, the agent executes them or
loses them, reports close them, and time passes.

The question is whether every expired account whose user is on the router has been cut off since or
is still going to be (`AllCutOff`).  Nothing queues a lost `disable_user` again, the sync of unsynced
subscriptions looks at active ones only.  So everything depends on the one command that the pass has
queued, and on when the agent gets round to it.  `Timely` is the schedule under which it does: the
passes mark only accounts whose router they find, the agent executes a `disable_user` before it expires
and before it has failed `max_retries` times, and nobody creates the missing user of an expired account
again.  `allCutOff_always` is the result for every run on this schedule. -/

namespace IspBilling

open Rows Runs

/-- What may expire. -/
inductive AccountKey where
  | subscription (id : ℕ)
  | voucher (id : ℕ)
deriving DecidableEq, Repr

/-- A subscription or a voucher, with its user on the router. -/
structure Account where
  key : AccountKey
  type : UserType
  name : String
deriving DecidableEq, Repr

def Subscription.account (s : Subscription) : Account :=
  ⟨.subscription s.id, s.subscriptionType.userType, s.username⟩

/-- The account of a voucher with credentials. -/
def VoucherCode.account (v : VoucherCode) : Option Account :=
  v.hotspotUsername.map (fun name => ⟨.voucher v.id, .hotspot, name⟩)

/-- What the history of the system records. -/
inductive Entry where
  | expired (key : AccountKey)
  | disabled (type : UserType) (name : String)
  | executed (id : String)
deriving DecidableEq, Repr

/-- The entries of an executed command. -/
def RouterCommand.entries (c : RouterCommand) : List Entry :=
  match c.action with
  | .disableUser name type => [.executed c.id, .disabled type name]
  | _ => [.executed c.id]

/-- The tables, the commands delivered to the agent and not executed, the router and the history,
latest entry first. -/
structure CutOff where
  clock : ℤ
  db : AgentTables
  hotspot : HotspotTables
  delivered : List RouterCommand
  router : RouterState
  log : List Entry

namespace CutOff

/-- The moves; what the environment decides is in the arguments. -/
inductive Event where
  | tick (dt : ℕ)
  | expireSubscriptions (gracePeriodMinutes batchSize : ℕ) (ids : ℕ → String)
      (direct : ℕ → Option Bool)
  | expireHotspotUsers (gracePeriodMinutes batchSize : ℕ) (ids : ℕ → String)
  | syncUnsynced (limit : ℕ) (ids : ℕ → String) (direct : ℕ → Option Bool)
  | poll (routerId : ℕ)
  /-- The agent of `r` executes the next command delivered to it. -/
  | execute
  /-- The next command delivered to the agent of `r` fails or is lost. -/
  | drop
  | report (results : List CommandResult)
  | cleanup
  | resetStale (staleThresholdMinutes : ℤ)

variable (agent : AgentSettings) (importScript : String → RouterState → RouterState) (r : ℕ)

/-- The candidates that a run of `process_expired_hotspot_users` marks. -/
def dueVouchers (s : CutOff) (gracePeriodMinutes batchSize : ℕ) : List (VoucherCode × ℤ) :=
  (s.hotspot.candidates batchSize).filter
    (fun c => decide (s.hotspot.Due s.clock gracePeriodMinutes c))

def step (s : CutOff) : Event → CutOff
  | .tick dt => { s with clock := s.clock + dt }
  | .expireSubscriptions grace batch ids direct =>
      { s with
        db := processExpiredSubscriptions agent s.clock s.hotspot.plans ids direct
          s.hotspot.settings grace batch s.db
        log := (expiredRows s.clock s.hotspot.settings grace batch s.db).map
          (fun x => .expired (.subscription x.id)) ++ s.log }
  | .expireHotspotUsers grace batch ids =>
      let (hotspot, cut) := s.hotspot.processExpiredHotspotUsers s.clock grace batch
      { s with
        hotspot := hotspot
        db := { s.db with
          commands := cutOffUsers agent s.clock ids s.db.routers cut s.db.commands }
        log := (s.dueVouchers grace batch).map (fun c => .expired (.voucher c.1.id)) ++ s.log }
  | .syncUnsynced limit ids direct =>
      { s with
        db := syncAllUnsyncedSubscriptions agent s.clock s.hotspot.plans ids direct limit s.db }
  | .poll routerId =>
      let batch := getPendingCommands agent routerId s.clock none s.db.commands
      { s with
        db := { s.db with
          commands := markCommandsSent s.clock (batch.map RouterCommand.id) s.db.commands }
        delivered := if routerId = r then s.delivered ++ batch else s.delivered }
  | .execute =>
      match s.delivered with
      | [] => s
      | c :: rest =>
          { s with
            delivered := rest
            router := s.router.execute importScript c.action
            log := c.entries ++ s.log }
  | .drop => { s with delivered := s.delivered.tail }
  | .report results => { s with db := (s.db.handleReport s.clock results).getD s.db }
  | .cleanup => { s with db := { s.db with commands := cleanupExpiredCommands s.clock s.db.commands } }
  | .resetStale threshold =>
      { s with db := { s.db with commands := resetStaleSentCommands s.clock threshold s.db.commands } }

/-! ### The property -/

/-- The accounts with status `EXPIRED`. -/
def expiredAccounts (s : CutOff) : List Account :=
  (s.db.subscriptions.filter (fun x => decide (x.status = .expired))).map Subscription.account ++
    (s.hotspot.vouchers.filter (fun v => decide (v.status = .expired))).filterMap VoucherCode.account

/-- The user of the account exists on the router. -/
def Present (s : CutOff) (a : Account) : Prop := (s.router.lookup a.type a.name).isSome = true

instance (s : CutOff) (a : Account) : Decidable (s.Present a) :=
  inferInstanceAs (Decidable ((s.router.lookup a.type a.name).isSome = true))

/-- A `disable_user` for the account has been executed since it expired. -/
def CutSince (s : CutOff) (a : Account) : Prop :=
  .disabled a.type a.name ∈ s.log.takeWhile (fun x => decide (x ≠ .expired a.key))

instance (s : CutOff) (a : Account) : Decidable (s.CutSince a) :=
  inferInstanceAs (Decidable (_ ∈ s.log.takeWhile _))

/-- The command is a `disable_user` for the account on router `r`. -/
def Guards (a : Account) (c : RouterCommand) : Prop :=
  c.routerId = r ∧ c.action = .disableUser a.name a.type

instance (a : Account) : DecidablePred (Guards r a) := fun c =>
  inferInstanceAs (Decidable (c.routerId = r ∧ c.action = .disableUser a.name a.type))

/-- `PENDING` or `SENT`. -/
def Opened (c : RouterCommand) : Prop := c.status = .pending ∨ c.status = .sent

instance : DecidablePred Opened := fun c =>
  inferInstanceAs (Decidable (c.status = .pending ∨ c.status = .sent))

/-- A live command for the account is queued. -/
def Armed (s : CutOff) (a : Account) : Prop :=
  ∃ c ∈ s.db.commands, Guards r a c ∧ Opened c ∧ ¬ c.PastExpiry s.clock

instance (s : CutOff) (a : Account) : Decidable (s.Armed r a) :=
  inferInstanceAs (Decidable (∃ c ∈ s.db.commands, Guards r a c ∧ Opened c ∧ ¬ c.PastExpiry s.clock))

/-- Every expired account whose user is on the router has been cut off or is still going to be. -/
def AllCutOff (s : CutOff) : Prop :=
  ∀ a ∈ s.expiredAccounts, s.Present a → s.CutSince a ∨ s.Armed r a

instance (s : CutOff) : Decidable (s.AllCutOff r) :=
  inferInstanceAs (Decidable (∀ a ∈ s.expiredAccounts, s.Present a → s.CutSince a ∨ s.Armed r a))

/-! ### The schedule -/

def Executed (s : CutOff) (c : RouterCommand) : Prop := .executed c.id ∈ s.log

instance (s : CutOff) (c : RouterCommand) : Decidable (s.Executed c) :=
  inferInstanceAs (Decidable (_ ∈ s.log))

/-- A live `disable_user` of router `r` that the agent has not executed yet. -/
def Waiting (s : CutOff) (c : RouterCommand) : Prop :=
  c.routerId = r ∧ (∃ name type, c.action = .disableUser name type) ∧ Opened c ∧
    ¬ c.PastExpiry s.clock ∧ ¬ s.Executed c

instance (c : RouterCommand) : Decidable (∃ name type, c.action = .disableUser name type) :=
  match h : c.action with
  | .disableUser name type => isTrue ⟨name, type, rfl⟩
  | .disconnect _ | .enableUser _ _ | .removeUser _ _ | .createUser .. | .fetchImport _ | .setQueue ..
  | .runScript _ => isFalse (by rintro ⟨name, type, h'⟩; cases h')

instance (s : CutOff) (c : RouterCommand) : Decidable (s.Waiting r c) :=
  inferInstanceAs (Decidable (c.routerId = r ∧ (∃ name type, c.action = .disableUser name type) ∧
    Opened c ∧ ¬ c.PastExpiry s.clock ∧ ¬ s.Executed c))

/-- The results close the command: one is a success, or the failures use up the retries. -/
def Closes (results : List CommandResult) (c : RouterCommand) : Prop :=
  (∃ res ∈ results, res.id = c.id ∧ res.status = "success") ∨
    (∃ res ∈ results, res.id = c.id ∧ res.status = "failed") ∧
      c.maxRetries ≤ c.retryCount +
        results.countP (fun res => decide (res.id = c.id ∧ res.status = "failed"))

instance (results : List CommandResult) : DecidablePred (Closes results) := fun c =>
  inferInstanceAs (Decidable ((∃ res ∈ results, res.id = c.id ∧ res.status = "success") ∨
    (∃ res ∈ results, res.id = c.id ∧ res.status = "failed") ∧
      c.maxRetries ≤ c.retryCount +
        results.countP (fun res => decide (res.id = c.id ∧ res.status = "failed"))))

/-- The user of the account is missing, and the command creates it. -/
def Creates (s : CutOff) (c : RouterCommand) (a : Account) : Prop :=
  ¬ s.Present a ∧ ((s.router.execute importScript c.action).lookup a.type a.name).isSome = true

instance (s : CutOff) (c : RouterCommand) (a : Account) : Decidable (s.Creates importScript c a) :=
  inferInstanceAs (Decidable (¬ s.Present a ∧ _ = true))

/-- A pass finds the router: the row is on `r` with a plan that exists, or `r` is the active router of
the organization of the voucher.  The agent executes a `disable_user` before its time runs out, reports
no success for one that it has not executed, and fails less than `max_retries` times before it does.
No command creates the missing user of an expired account. -/
def Timely (s : CutOff) : Event → Prop
  | .tick dt => ∀ c ∈ s.db.commands, s.Waiting r c → ¬ c.PastExpiry (s.clock + dt)
  | .report results => ∀ c ∈ s.db.commands, s.Waiting r c → ¬ Closes results c
  | .execute => ∀ c ∈ s.delivered.head?, ∀ a ∈ s.expiredAccounts, ¬ s.Creates importScript c a
  | .expireSubscriptions grace batch ids _ =>
      FreshIds ((expiredRows s.clock s.hotspot.settings grace batch s.db).map (fun x => ids x.id))
          s.db.commands ∧
        ∀ x ∈ expiredRows s.clock s.hotspot.settings grace batch s.db, s.Present x.account →
          0 < agent.commandExpiryHours ∧ x.routerId = r ∧
            (s.hotspot.plans.find? (fun p => p.id = x.planId)).isSome = true
  | .expireHotspotUsers grace batch ids =>
      FreshIds ((s.hotspot.processExpiredHotspotUsers s.clock grace batch).2.zipIdx.flatMap
          (fun x => userIds ids x.2)) s.db.commands ∧
        ∀ c ∈ s.dueVouchers grace batch, ∀ a ∈ c.1.account, s.Present a →
          0 < agent.commandExpiryHours ∧
            ∃ router ∈ activeRouter s.db.routers c.1.organizationId, router.id = r
  | .syncUnsynced .. | .poll _ | .drop | .cleanup | .resetStale _ => True

instance (s : CutOff) (e : Event) : Decidable (s.Timely agent importScript r e) :=
  match e with
  | .tick dt =>
      inferInstanceAs (Decidable (∀ c ∈ s.db.commands, s.Waiting r c → ¬ c.PastExpiry (s.clock + dt)))
  | .report results =>
      inferInstanceAs (Decidable (∀ c ∈ s.db.commands, s.Waiting r c → ¬ Closes results c))
  | .execute =>
      inferInstanceAs (Decidable (∀ c ∈ s.delivered.head?, ∀ a ∈ s.expiredAccounts,
        ¬ s.Creates importScript c a))
  | .expireSubscriptions grace batch ids _ =>
      inferInstanceAs (Decidable (
        FreshIds ((expiredRows s.clock s.hotspot.settings grace batch s.db).map (fun x => ids x.id))
          s.db.commands ∧
        ∀ x ∈ expiredRows s.clock s.hotspot.settings grace batch s.db, s.Present x.account →
          0 < agent.commandExpiryHours ∧ x.routerId = r ∧
            (s.hotspot.plans.find? (fun p => p.id = x.planId)).isSome = true))
  | .expireHotspotUsers grace batch ids =>
      inferInstanceAs (Decidable (
        FreshIds ((s.hotspot.processExpiredHotspotUsers s.clock grace batch).2.zipIdx.flatMap
          (fun x => userIds ids x.2)) s.db.commands ∧
        ∀ c ∈ s.dueVouchers grace batch, ∀ a ∈ c.1.account, s.Present a →
          0 < agent.commandExpiryHours ∧
            ∃ router ∈ activeRouter s.db.routers c.1.organizationId, router.id = r))
  | .syncUnsynced .. | .poll _ | .drop | .cleanup | .resetStale _ => isTrue trivial

/-- The keys of the tables, and the router: it is there, and it has an agent. -/
structure WellFormed (s : CutOff) : Prop where
  commandsKeyed : Keyed RouterCommand.id s.db.commands
  subscriptionsKeyed : Keyed Subscription.id s.db.subscriptions
  backupsKeyed : (s.db.backups.filterMap RouterBackup.commandId).Nodup
  vouchersKeyed : Keyed VoucherCode.id s.hotspot.vouchers
  routersKeyed : Keyed Router.id s.db.routers
  agentMode : ∃ router ∈ s.db.routers, router.id = r ∧ router.AgentMode

/-- What has been delivered or executed is in the table of the commands. -/
structure Recorded (s : CutOff) : Prop where
  delivered : ∀ d ∈ s.delivered, ∃ c ∈ s.db.commands, c.id = d.id ∧ c.action = d.action
  executed : ∀ id, .executed id ∈ s.log → id ∈ s.db.commands.map RouterCommand.id

/-- The account has been cut off since it expired, or the command that does it is waiting. -/
def Guarded (s : CutOff) (a : Account) : Prop :=
  s.CutSince a ∨ ∃ c ∈ s.db.commands, c.action = .disableUser a.name a.type ∧ s.Waiting r c

/-- The invariant: every expired account whose user is on the router is guarded. -/
def AllGuarded (s : CutOff) : Prop := ∀ a ∈ s.expiredAccounts, s.Present a → s.Guarded r a

/-! ### Live commands stay live -/

section Frame

variable {agent importScript r} {s t : CutOff} {a : Account} {c : RouterCommand}

theorem mem_expiredAccounts : a ∈ s.expiredAccounts ↔
    (∃ x ∈ s.db.subscriptions, x.status = .expired ∧ x.account = a) ∨
      ∃ v ∈ s.hotspot.vouchers, v.status = .expired ∧ v.account = some a := by
  simp [expiredAccounts, and_assoc]

/-- The invariant gives the property. -/
theorem AllGuarded.allCutOff (h : s.AllGuarded r) : s.AllCutOff r := by
  intro a ha hp
  refine (h a ha hp).imp_right ?_
  rintro ⟨c, hc, hact, hr, _, ho, hlive, _⟩
  exact ⟨c, hc, ⟨hr, hact⟩, ho, hlive⟩

/-- As long as nothing has been executed, the property gives the invariant. -/
theorem AllCutOff.allGuarded (h : s.AllCutOff r) (hnew : ∀ c ∈ s.db.commands, ¬ s.Executed c) :
    s.AllGuarded r := by
  intro a ha hp
  refine (h a ha hp).imp_right ?_
  rintro ⟨c, hc, ⟨hr, hact⟩, ho, hlive⟩
  exact ⟨c, hc, hact, hr, ⟨_, _, hact⟩, ho, hlive, hnew c hc⟩

/-- The command is still open, under whatever status. -/
def Carried (c : RouterCommand) (q : List RouterCommand) : Prop :=
  ∃ c' ∈ q, c'.id = c.id ∧ c'.routerId = c.routerId ∧ c'.action = c.action ∧
    c'.expiresAt = c.expiresAt ∧ Opened c'

theorem carried_of_mem {q : List RouterCommand} (hc : c ∈ q) (ho : Opened c) : Carried c q :=
  ⟨c, hc, rfl, rfl, rfl, rfl, ho⟩

theorem carried_updateWhere {p : RouterCommand → Bool} {f : RouterCommand → RouterCommand}
    {q : List RouterCommand} (hf : ∀ c, (f c).id = c.id ∧ (f c).routerId = c.routerId ∧
      (f c).action = c.action ∧ (f c).expiresAt = c.expiresAt) (hc : c ∈ q) (ho : Opened c)
    (hopen : p c = true → Opened (f c)) : Carried c (updateWhere p f q) := by
  refine ⟨_, mem_updateWhere.mpr ⟨c, hc, rfl⟩, ?_⟩
  split
  · obtain ⟨hid, hr, ha, hx⟩ := hf c
    exact ⟨hid, hr, ha, hx, hopen ‹_›⟩
  · exact ⟨rfl, rfl, rfl, rfl, ho⟩

theorem waiting_of_carried (hw : s.Waiting r c) (hlive : ¬ c.PastExpiry t.clock)
    (hlog : .executed c.id ∉ t.log) (hc : Carried c t.db.commands) :
    ∃ c' ∈ t.db.commands, c'.action = c.action ∧ t.Waiting r c' := by
  obtain ⟨hr, ⟨name, type, hact⟩, _⟩ := hw
  obtain ⟨c', hc', hid, hr', ha, hx, ho⟩ := hc
  refine ⟨c', hc', ha, hr'.trans hr, ⟨name, type, ha.trans hact⟩, ho, ?_, ?_⟩
  · rintro ⟨x, hx', hle⟩
    exact hlive ⟨x, hx ▸ hx', hle⟩
  · unfold Executed
    rwa [hid]

theorem waiting_of_queuedDisable (hhours : 0 < agent.commandExpiryHours)
    (hnew : c.id ∉ s.db.commands.map RouterCommand.id) (hrec : s.Recorded) (hclock : t.clock = s.clock)
    (hlog : ∀ id, .executed id ∈ t.log → .executed id ∈ s.log)
    (h : QueuedDisable agent s.clock r a.type a.name c) : t.Waiting r c := by
  obtain ⟨hr, ha, hst, hx⟩ := h
  refine ⟨hr, ⟨_, _, ha⟩, Or.inl hst, ?_, fun hex => hnew (hrec.executed _ (hlog _ hex))⟩
  rintro ⟨x, hx', hle⟩
  rw [hx] at hx'
  obtain rfl := Option.some.inj hx'
  rw [hclock] at hle
  unfold seconds at hle
  omega

theorem cutSince_append {l : List Entry} (hlog : t.log = l ++ s.log)
    (hl : ∀ x ∈ l, x ≠ .expired a.key) (h : s.CutSince a) : t.CutSince a := by
  unfold CutSince at *
  rw [hlog, List.takeWhile_append_of_pos (fun x hx => decide_eq_true (hl x hx))]
  exact List.mem_append_right _ h

/-- **Frame rule**: a move that neither touches the router and the history nor expires an account
only has to carry the waiting commands over. -/
theorem AllGuarded.of_frame (hs : s.AllGuarded r)
    (hacc : ∀ a ∈ t.expiredAccounts, a ∈ s.expiredAccounts) (hrouter : t.router = s.router)
    (hlog : t.log = s.log)
    (hcarry : ∀ c ∈ s.db.commands, s.Waiting r c →
      Carried c t.db.commands ∧ ¬ c.PastExpiry t.clock) : t.AllGuarded r := by
  intro a ha hp
  have hpres : s.Present a := by
    unfold Present at *
    rwa [← hrouter]
  rcases hs a (hacc a ha) hpres with hcut | ⟨c, hc, hact, hw⟩
  · left
    unfold CutSince at *
    rwa [hlog]
  · right
    obtain ⟨hcar, hlive⟩ := hcarry c hc hw
    obtain ⟨c', hc', hact', hw'⟩ := waiting_of_carried hw hlive (hlog ▸ hw.2.2.2.2) hcar
    exact ⟨c', hc', hact'.trans hact, hw'⟩

/-- **Pass rule**: a pass that queues a command for every account it marks, and records those
accounts only. -/
theorem AllGuarded.of_pass (hs : s.AllGuarded r) (keys : List AccountKey) (hclock : t.clock = s.clock)
    (hrouter : t.router = s.router) (hlog : t.log = keys.map Entry.expired ++ s.log)
    (hq : ∀ c ∈ s.db.commands, c ∈ t.db.commands)
    (hacc : ∀ a ∈ t.expiredAccounts, (a ∈ s.expiredAccounts ∧ a.key ∉ keys) ∨
      (s.Present a → t.Guarded r a)) : t.AllGuarded r := by
  intro a ha hp
  have hpres : s.Present a := by
    unfold Present at *
    rwa [← hrouter]
  rcases hacc a ha with ⟨hold, hkey⟩ | hnew
  · refine (hs a hold hpres).imp (cutSince_append hlog ?_) ?_
    · intro x hx heq
      obtain ⟨key, hmem, rfl⟩ := List.mem_map.mp hx
      exact hkey (Entry.expired.inj heq ▸ hmem)
    · rintro ⟨c, hc, hact, hr, hdis, ho, hlive, hex⟩
      refine ⟨c, hq c hc, hact, hr, hdis, ho, by rwa [hclock], ?_⟩
      unfold Executed at *
      rw [hlog]
      simpa using hex
  · exact hnew hpres

end Frame

/-! ### What the moves do to the accounts -/

section Rows

variable (now : ℤ) (routers : List Router) (plans : List ServicePlan) (direct : ℕ → Option Bool)

theorem afterSync_frame (x : Subscription) :
    (x.afterSync now routers plans direct).id = x.id ∧
      (x.afterSync now routers plans direct).status = x.status ∧
      (x.afterSync now routers plans direct).account = x.account := by
  obtain ⟨synced, last, h⟩ := x.afterSync_eq now routers plans direct
  rw [h]
  exact ⟨rfl, rfl, rfl⟩

theorem expire_frame (x : Subscription) : (x.expire now routers plans direct).id = x.id ∧
    (x.expire now routers plans direct).account = x.account := by
  obtain ⟨hid, _, hacc⟩ := afterSync_frame now routers plans direct { x with status := .expired }
  exact ⟨hid, hacc⟩

end Rows

section Backfill

variable {orgs : List OrganizationSettings} {grace batch : ℕ} {now : ℤ} {db : AgentTables}

theorem of_mem_backfillEndDates {subs : List Subscription} {x : Subscription}
    (h : x ∈ backfillEndDates orgs batch subs) :
    ∃ y ∈ subs, y.id = x.id ∧ y.status = x.status ∧ y.account = x.account := by
  obtain ⟨y, hy, rfl⟩ := mem_updateWhere.mp h
  refine ⟨y, hy, ?_⟩
  split <;> exact ⟨rfl, rfl, rfl⟩

theorem keyed_backfillEndDates {subs : List Subscription} (h : Keyed Subscription.id subs) :
    Keyed Subscription.id (backfillEndDates orgs batch subs) :=
  h.updateWhere (fun _ => rfl)

theorem of_mem_expiredRows {x : Subscription} (h : x ∈ expiredRows now orgs grace batch db) :
    x ∈ backfillEndDates orgs batch db.subscriptions ∧ x.status = .active := by
  obtain ⟨hx, hcond⟩ := List.mem_filter.mp (List.mem_of_mem_take h)
  exact ⟨hx, (of_decide_eq_true hcond).1⟩

end Backfill

theorem status_of_mem_candidates {hs : HotspotTables} {batch : ℕ} {c : VoucherCode × ℤ}
    (h : c ∈ hs.candidates batch) : c.1.status ≠ .expired := by
  rcases List.mem_append.mp h with h | h
  · have hmem := (List.mem_insertionSort _).mp (List.mem_of_mem_take h)
    obtain ⟨v, _, hc⟩ := List.mem_filterMap.mp hmem
    split at hc
    · rename_i hcond
      obtain ⟨u, _, rfl⟩ := Option.map_eq_some_iff.mp hc
      rw [hcond.2]
      decide
    · cases hc
  · obtain ⟨v, _, hp⟩ := List.mem_flatMap.mp (List.mem_of_mem_take h)
    obtain ⟨p, _, hc⟩ := List.mem_filterMap.mp hp
    split at hc
    · rename_i hcond
      obtain rfl := Option.some.inj hc
      rw [hcond.2.2.1]
      decide
    · cases hc

/-- Spec of the reconciler: it marks the vouchers that are due and names their users. -/
theorem processExpiredHotspotUsers_eq (s : CutOff) (grace batch : ℕ) :
    s.hotspot.processExpiredHotspotUsers s.clock grace batch =
      ({ s.hotspot with vouchers := updateWhere (fun v => (s.dueVouchers grace batch).any
          (fun c => decide (v.id = c.1.id))) VoucherCode.expire s.hotspot.vouchers },
        (s.dueVouchers grace batch).map
          (fun c => (c.1.organizationId, c.1.hotspotUsername.getD ""))) := by
  unfold HotspotTables.processExpiredHotspotUsers dueVouchers
  rw [HotspotTables.foldl_expireCandidate]
  simp [List.any_filter]

section Steps

variable {agent importScript r} {s : CutOff}

theorem handleReport_frame (hw : s.WellFormed r) (results : List CommandResult) :
    ∃ db', s.db.handleReport s.clock results = some db' ∧ db'.routers = s.db.routers ∧
      Keyed RouterCommand.id db'.commands ∧ Keyed Subscription.id db'.subscriptions ∧
      (db'.backups.filterMap RouterBackup.commandId).Nodup ∧
      ∀ a, (∃ x ∈ db'.subscriptions, x.status = .expired ∧ x.account = a) ↔
        ∃ x ∈ s.db.subscriptions, x.status = .expired ∧ x.account = a := by
  refine AgentTables.handleReport_invariant (I := fun db => db.routers = s.db.routers ∧
    Keyed RouterCommand.id db.commands ∧ Keyed Subscription.id db.subscriptions ∧
    (db.backups.filterMap RouterBackup.commandId).Nodup ∧
    ∀ a, (∃ x ∈ db.subscriptions, x.status = .expired ∧ x.account = a) ↔
      ∃ x ∈ s.db.subscriptions, x.status = .expired ∧ x.account = a) ?_ results hw.commandsKeyed
    hw.backupsKeyed
    ⟨rfl, hw.commandsKeyed, hw.subscriptionsKeyed, hw.backupsKeyed, fun _ => Iff.rfl⟩
  rintro res db db' hp ⟨hr, hc, hs, hb, hacc⟩
  refine ⟨hp.routers.trans hr, hp.commandsKeyed hc, hp.subscriptionsKeyed hs, hp.backupsKeyed hb, ?_⟩
  intro a
  obtain ⟨p, -, hsub⟩ := hp.subscriptions
  rw [hsub]
  refine Iff.trans (exists_updateWhere ?_) (hacc a)
  intro x
  rfl

/-- A result that is not the last of a command: the row stays open, and the rest of the report does
not close it either. -/
theorem applyResult_open {now : ℤ} {res : CommandResult} {rest : List CommandResult}
    {c : RouterCommand} (ho : Opened c) (hid : res.id = c.id) (hnot : ¬ Closes (res :: rest) c) :
    Opened (c.applyResult now res.status res.message) ∧
      ¬ Closes rest (c.applyResult now res.status res.message) := by
  unfold Closes at hnot ⊢
  rw [not_or, not_and_or] at hnot
  obtain ⟨hsuccess, hfailed⟩ := hnot
  have hns : res.status ≠ "success" := fun h => hsuccess ⟨res, List.mem_cons_self, hid, h⟩
  have hrest : ¬ ∃ res' ∈ rest, res'.id = c.id ∧ res'.status = "success" := by
    rintro ⟨res', hmem, h⟩
    exact hsuccess ⟨res', List.mem_cons_of_mem _ hmem, h⟩
  by_cases hf : res.status = "failed"
  · -- one failure more, but not the last one that counts
    have hcount : c.retryCount + 1 + rest.countP (fun res => decide (res.id = c.id ∧
        res.status = "failed")) < c.maxRetries := by
      have h := hfailed.resolve_left (not_not.mpr ⟨res, List.mem_cons_self, hid, hf⟩)
      rw [List.countP_cons_of_pos (by simp [hid, hf])] at h
      omega
    have happ : c.applyResult now res.status res.message = { c with
        retryCount := c.retryCount + 1, resultMessage := some res.message
        status := .pending, sentAt := none } := by
      have hmore : ¬ c.maxRetries ≤ c.retryCount + 1 := by omega
      simp [RouterCommand.applyResult, hf, hmore]
    rw [happ]
    refine ⟨Or.inl rfl, ?_⟩
    rintro (h | ⟨_, h⟩)
    · exact hrest h
    · simp only at h
      omega
  · rw [RouterCommand.applyResult_of_other hns hf]
    refine ⟨ho, ?_⟩
    rintro (h | ⟨⟨res', hmem, h⟩, hle⟩)
    · exact hrest h
    · rw [List.countP_cons_of_neg (by simp [hf])] at hfailed
      rcases hfailed with hno | hlt
      · exact hno ⟨res', List.mem_cons_of_mem _ hmem, h⟩
      · exact hlt hle

theorem not_closes_of_ne {res : CommandResult} {rest : List CommandResult} {c : RouterCommand}
    (hid : res.id ≠ c.id) (hnot : ¬ Closes (res :: rest) c) : ¬ Closes rest c := by
  rintro (⟨res', hmem, h⟩ | ⟨⟨res', hmem, h⟩, hle⟩)
  · exact hnot (Or.inl ⟨res', List.mem_cons_of_mem _ hmem, h⟩)
  · refine hnot (Or.inr ⟨⟨res', List.mem_cons_of_mem _ hmem, h⟩, ?_⟩)
    rw [List.countP_cons_of_neg (by simp [hid])]
    exact hle

theorem handleReport_carries {now : ℤ} (results : List CommandResult) {db : AgentTables}
    (hk : Keyed RouterCommand.id db.commands)
    (hb : (db.backups.filterMap RouterBackup.commandId).Nodup) {c : RouterCommand}
    (hc : c ∈ db.commands) (ho : Opened c) (hnot : ¬ Closes results c) :
    ∃ db', db.handleReport now results = some db' ∧ Carried c db'.commands := by
  induction results generalizing db c with
  | nil => exact ⟨db, rfl, carried_of_mem hc ho⟩
  | cons res rest ih =>
      obtain ⟨db₁, h₁, hp⟩ := AgentTables.processCommandResult_spec now res hk hb
      obtain ⟨c₁, hc₁, hid, hr, ha, hx, ho₁, hnot₁⟩ : ∃ c₁ ∈ db₁.commands, c₁.id = c.id ∧
          c₁.routerId = c.routerId ∧ c₁.action = c.action ∧ c₁.expiresAt = c.expiresAt ∧
          Opened c₁ ∧ ¬ Closes rest c₁ := by
        rw [hp.commands]
        refine ⟨_, mem_updateWhere.mpr ⟨c, hc, rfl⟩, ?_⟩
        by_cases hid : c.id = res.id
        · obtain ⟨hid', hr, ha, _, _, hx, _⟩ := c.applyResult_frame now res.status res.message
          rw [if_pos (decide_eq_true hid)]
          exact ⟨hid', hr, ha, hx, applyResult_open ho hid.symm hnot⟩
        · rw [if_neg (by simp [hid])]
          exact ⟨rfl, rfl, rfl, rfl, ho, not_closes_of_ne (fun h => hid h.symm) hnot⟩
      obtain ⟨db₂, h₂, c₂, hc₂, hid₂, hr₂, ha₂, hx₂, ho₂⟩ :=
        ih (hp.commandsKeyed hk) (hp.backupsKeyed hb) hc₁ ho₁ hnot₁
      refine ⟨db₂, ?_, c₂, hc₂, hid₂.trans hid, hr₂.trans hr, ha₂.trans ha, hx₂.trans hx, ho₂⟩
      simp only [AgentTables.handleReport, h₁, Option.bind_some]
      exact h₂

theorem step_wellFormed (hw : s.WellFormed r) (e : Event) :
    (s.step agent importScript r e).WellFormed r := by
  obtain ⟨hc, hs, hb, hv, hr, hagent⟩ := hw
  cases e with
  | tick dt => exact ⟨hc, hs, hb, hv, hr, hagent⟩
  | drop => exact ⟨hc, hs, hb, hv, hr, hagent⟩
  | cleanup => exact ⟨hc.updateWhere (fun _ => rfl), hs, hb, hv, hr, hagent⟩
  | resetStale threshold => exact ⟨hc.updateWhere (fun _ => rfl), hs, hb, hv, hr, hagent⟩
  | poll routerId => exact ⟨keyed_markCommandsSent hc, hs, hb, hv, hr, hagent⟩
  | syncUnsynced limit ids direct =>
      refine ⟨keyed_syncRows hc, hs.updateWhere ?_, hb, hv, hr, hagent⟩
      intro x
      exact (afterSync_frame _ _ _ _ x).1
  | execute =>
      cases hdel : s.delivered with
      | nil => simpa only [step, hdel] using ⟨hc, hs, hb, hv, hr, hagent⟩
      | cons c rest => simpa only [step, hdel] using ⟨hc, hs, hb, hv, hr, hagent⟩
  | report results =>
      obtain ⟨db', hrep, hrouters, hc', hs', hb', _⟩ :=
        handleReport_frame ⟨hc, hs, hb, hv, hr, hagent⟩ results
      simp only [step, hrep, Option.getD_some]
      exact ⟨hc', hs', hb', hv, hrouters ▸ hr, hrouters ▸ hagent⟩
  | expireSubscriptions grace batch ids direct =>
      simp only [step, processExpiredSubscriptions]
      split
      · exact ⟨hc, hs, hb, hv, hr, hagent⟩
      · refine ⟨keyed_syncRows hc, (keyed_backfillEndDates hs).updateWhere ?_, hb, hv, hr, hagent⟩
        intro x
        exact (expire_frame _ _ _ _ x).1
  | expireHotspotUsers grace batch ids =>
      simp only [step, processExpiredHotspotUsers_eq]
      exact ⟨keyed_cutOffUsers hc, hs, hb, hv.updateWhere (fun _ => rfl), hr, hagent⟩

/-- What a pass over the subscriptions leaves expired: what was, and the rows it marks. -/
theorem expired_of_processExpiredSubscriptions (hk : Keyed Subscription.id s.db.subscriptions)
    {grace batch : ℕ} {ids : ℕ → String} {direct : ℕ → Option Bool} {x : Subscription}
    (hx : x ∈ (processExpiredSubscriptions agent s.clock s.hotspot.plans ids direct
      s.hotspot.settings grace batch s.db).subscriptions) (hst : x.status = .expired) :
    (∃ y ∈ s.db.subscriptions, y.status = .expired ∧ y.account = x.account) ∨
      ∃ y ∈ expiredRows s.clock s.hotspot.settings grace batch s.db, y.account = x.account := by
  unfold processExpiredSubscriptions at hx
  simp only at hx
  split at hx
  · exact Or.inl ⟨x, hx, hst, rfl⟩
  · obtain ⟨y, hy, rfl⟩ := mem_updateWhere.mp hx
    split at hst
    · rename_i hmem
      obtain ⟨z, hz, hid⟩ := List.mem_map.mp (of_decide_eq_true hmem)
      obtain rfl := (keyed_backfillEndDates hk).eq_of_key (of_mem_expiredRows hz).1 hy hid
      rw [if_pos hmem]
      exact Or.inr ⟨z, hz, (expire_frame s.clock s.db.routers s.hotspot.plans direct z).2.symm⟩
    · rename_i hmem
      obtain ⟨z, hz, _, hzst, hzacc⟩ := of_mem_backfillEndDates hy
      rw [if_neg hmem]
      exact Or.inl ⟨z, hz, hzst.trans hst, hzacc⟩

theorem key_notMem_expiredRows (hk : Keyed Subscription.id s.db.subscriptions)
    {grace batch : ℕ} {a : Account} (ha : a ∈ s.expiredAccounts) :
    a.key ∉ (expiredRows s.clock s.hotspot.settings grace batch s.db).map
      (fun x => AccountKey.subscription x.id) := by
  intro he
  obtain ⟨x, hx, hkey⟩ := List.mem_map.mp he
  obtain ⟨hmem, hactive⟩ := of_mem_expiredRows hx
  obtain ⟨y, hy, hyid, hyst, _⟩ := of_mem_backfillEndDates hmem
  rcases mem_expiredAccounts.mp ha with ⟨z, hz, hzst, rfl⟩ | ⟨v, _, _, hv⟩
  · have hid : z.id = y.id := (AccountKey.subscription.inj hkey).symm.trans hyid.symm
    rw [hk.eq_of_key hz hy hid, hyst, hactive] at hzst
    cases hzst
  · obtain ⟨name, _, rfl⟩ := Option.map_eq_some_iff.mp hv
    cases hkey

theorem guarded_of_mem_expiredRows (hw : s.WellFormed r) (hrec : s.Recorded) {grace batch : ℕ}
    {ids : ℕ → String} {direct : ℕ → Option Bool}
    (hfresh : FreshIds ((expiredRows s.clock s.hotspot.settings grace batch s.db).map
      (fun x => ids x.id)) s.db.commands) {x : Subscription}
    (hx : x ∈ expiredRows s.clock s.hotspot.settings grace batch s.db)
    (hhours : 0 < agent.commandExpiryHours) (hrouter : x.routerId = r)
    (hplan : (s.hotspot.plans.find? (fun p => p.id = x.planId)).isSome = true) :
    (s.step agent importScript r (.expireSubscriptions grace batch ids direct)).Guarded r x.account := by
  obtain ⟨router, hmem, hid, hagent⟩ := hw.agentMode
  obtain ⟨plan, hplan⟩ := Option.isSome_iff_exists.mp hplan
  have hfind : s.db.routers.find? (fun r => r.id = x.routerId) = some router :=
    hw.routersKeyed.find?_eq_some.mpr ⟨hmem, hid.trans hrouter.symm⟩
  set rows := expiredRows s.clock s.hotspot.settings grace batch s.db with hrows
  obtain ⟨c, hc, hnew, hqd⟩ : ∃ c ∈ syncRows agent s.clock s.hotspot.plans ids s.db.routers
      (rows.map (fun x => { x with status := .expired })) s.db.commands,
      c.id ∉ s.db.commands.map RouterCommand.id ∧
        QueuedDisable agent s.clock router.id x.account.type x.account.name c := by
    refine exists_disable_of_expired (List.mem_map_of_mem hx) rfl hfind hagent hplan ?_
    rw [List.map_map]
    exact hfresh
  have hcommands : (s.step agent importScript r
      (.expireSubscriptions grace batch ids direct)).db.commands =
      syncRows agent s.clock s.hotspot.plans ids s.db.routers
        (rows.map (fun x => { x with status := .expired })) s.db.commands := by
    simp only [step, processExpiredSubscriptions, ← hrows, List.ne_nil_of_mem hx, if_false]
  refine Or.inr ⟨c, hcommands ▸ hc, hqd.2.1, ?_⟩
  refine waiting_of_queuedDisable hhours hnew hrec rfl ?_ (hid ▸ hqd)
  intro id hex
  simpa [step] using hex

theorem step_expireSubscriptions_allGuarded (hw : s.WellFormed r) (hrec : s.Recorded)
    (hs : s.AllGuarded r) {grace batch : ℕ} {ids : ℕ → String} {direct : ℕ → Option Bool}
    (ht : s.Timely agent importScript r (.expireSubscriptions grace batch ids direct)) :
    (s.step agent importScript r (.expireSubscriptions grace batch ids direct)).AllGuarded r := by
  obtain ⟨hfresh, hreach⟩ := ht
  refine hs.of_pass ((expiredRows s.clock s.hotspot.settings grace batch s.db).map
    (fun x => AccountKey.subscription x.id)) rfl rfl (by simp [step, Function.comp_def]) ?_ ?_
  · intro c hc
    simp only [step, processExpiredSubscriptions]
    split
    · exact hc
    · exact mem_syncRows hc
  intro a ha
  rcases mem_expiredAccounts.mp ha with ⟨x, hx, hst, rfl⟩ | hvoucher
  · rcases expired_of_processExpiredSubscriptions hw.subscriptionsKeyed hx hst with
      hold | ⟨y, hy, hyacc⟩
    · have hold := mem_expiredAccounts.mpr (Or.inl hold)
      exact Or.inl ⟨hold, key_notMem_expiredRows hw.subscriptionsKeyed hold⟩
    · right
      rw [← hyacc]
      intro hp
      obtain ⟨hhours, hrouter, hplan⟩ := hreach y hy hp
      exact guarded_of_mem_expiredRows hw hrec hfresh hy hhours hrouter hplan
  · have hold : a ∈ s.expiredAccounts := mem_expiredAccounts.mpr (Or.inr hvoucher)
    exact Or.inl ⟨hold, key_notMem_expiredRows hw.subscriptionsKeyed hold⟩

theorem expired_of_processExpiredHotspotUsers (hk : Keyed VoucherCode.id s.hotspot.vouchers)
    {grace batch : ℕ} {v : VoucherCode}
    (hv : v ∈ (s.hotspot.processExpiredHotspotUsers s.clock grace batch).1.vouchers)
    (hst : v.status = .expired) :
    (v ∈ s.hotspot.vouchers ∧ v.status = .expired) ∨
      ∃ c ∈ s.dueVouchers grace batch, c.1.account = v.account := by
  rw [processExpiredHotspotUsers_eq] at hv
  obtain ⟨w, hw, rfl⟩ := mem_updateWhere.mp hv
  split at hst
  · rename_i hdue
    obtain ⟨c, hc, hid⟩ := List.any_eq_true.mp hdue
    have hcand := (List.mem_filter.mp hc).1
    obtain rfl := hk.eq_of_key hw (HotspotTables.of_mem_candidates hcand).1 (of_decide_eq_true hid)
    rw [if_pos hdue]
    exact Or.inr ⟨c, hc, rfl⟩
  · rename_i hdue
    rw [if_neg hdue]
    exact Or.inl ⟨hw, hst⟩

theorem key_notMem_dueVouchers (hk : Keyed VoucherCode.id s.hotspot.vouchers)
    {grace batch : ℕ} {a : Account} (ha : a ∈ s.expiredAccounts) :
    a.key ∉ (s.dueVouchers grace batch).map (fun c => AccountKey.voucher c.1.id) := by
  intro he
  obtain ⟨c, hc, hkey⟩ := List.mem_map.mp he
  have hcand := (List.mem_filter.mp hc).1
  rcases mem_expiredAccounts.mp ha with ⟨z, _, _, rfl⟩ | ⟨v, hv, hvst, hacc⟩
  · cases hkey
  · obtain ⟨name, _, rfl⟩ := Option.map_eq_some_iff.mp hacc
    have hid : c.1.id = v.id := AccountKey.voucher.inj hkey
    rw [← hk.eq_of_key (HotspotTables.of_mem_candidates hcand).1 hv hid] at hvst
    exact status_of_mem_candidates hcand hvst

theorem guarded_of_mem_dueVouchers (hw : s.WellFormed r) (hrec : s.Recorded) {grace batch : ℕ}
    {ids : ℕ → String}
    (hfresh : FreshIds ((s.hotspot.processExpiredHotspotUsers s.clock grace batch).2.zipIdx.flatMap
      (fun x => userIds ids x.2)) s.db.commands) {c : VoucherCode × ℤ}
    (hc : c ∈ s.dueVouchers grace batch) {a : Account} (ha : c.1.account = some a)
    (hhours : 0 < agent.commandExpiryHours) {router : Router}
    (hrouter : activeRouter s.db.routers c.1.organizationId = some router) (hid : router.id = r) :
    (s.step agent importScript r (.expireHotspotUsers grace batch ids)).Guarded r a := by
  obtain ⟨name, hname, rfl⟩ := Option.map_eq_some_iff.mp ha
  obtain ⟨router', hmem', hid', hagent⟩ := hw.agentMode
  obtain rfl := hw.routersKeyed.eq_of_key hmem' (List.mem_of_find?_eq_some hrouter)
    (hid'.trans hid.symm)
  have hcut : (c.1.organizationId, name) ∈
      (s.hotspot.processExpiredHotspotUsers s.clock grace batch).2 := by
    rw [processExpiredHotspotUsers_eq]
    exact List.mem_map.mpr ⟨c, hc, by rw [hname]; rfl⟩
  obtain ⟨d, hd, hnew, hqd⟩ : ∃ d ∈ cutOffUsers agent s.clock ids s.db.routers
      (s.hotspot.processExpiredHotspotUsers s.clock grace batch).2 s.db.commands,
      d.id ∉ s.db.commands.map RouterCommand.id ∧
        QueuedDisable agent s.clock router'.id .hotspot name d :=
    exists_disable_of_cutOff hcut hrouter hagent hfresh
  have hqd' : QueuedDisable agent s.clock r .hotspot name d := hid ▸ hqd
  refine Or.inr ⟨d, hd, hqd.2.1,
    waiting_of_queuedDisable (a := ⟨.voucher c.1.id, .hotspot, name⟩) hhours hnew hrec rfl ?_ hqd'⟩
  intro id hex
  simpa [step] using hex

theorem step_expireHotspotUsers_allGuarded (hw : s.WellFormed r) (hrec : s.Recorded)
    (hs : s.AllGuarded r) {grace batch : ℕ} {ids : ℕ → String}
    (ht : s.Timely agent importScript r (.expireHotspotUsers grace batch ids)) :
    (s.step agent importScript r (.expireHotspotUsers grace batch ids)).AllGuarded r := by
  obtain ⟨hfresh, hreach⟩ := ht
  refine hs.of_pass ((s.dueVouchers grace batch).map (fun c => AccountKey.voucher c.1.id)) rfl
    rfl (by simp [step, Function.comp_def]) (fun c hc => mem_cutOffUsers hc) ?_
  intro a ha
  rcases mem_expiredAccounts.mp ha with hsub | ⟨v, hv, hst, hacc⟩
  · have hold : a ∈ s.expiredAccounts := mem_expiredAccounts.mpr (Or.inl hsub)
    exact Or.inl ⟨hold, key_notMem_dueVouchers hw.vouchersKeyed hold⟩
  · rcases expired_of_processExpiredHotspotUsers hw.vouchersKeyed hv hst with
      ⟨hmem, hst⟩ | ⟨c, hc, hcacc⟩
    · have hold := mem_expiredAccounts.mpr (Or.inr ⟨v, hmem, hst, hacc⟩)
      exact Or.inl ⟨hold, key_notMem_dueVouchers hw.vouchersKeyed hold⟩
    · right
      intro hp
      have hca := hcacc.trans hacc
      obtain ⟨hhours, router, hrouter, hid⟩ := hreach c hc a hca hp
      exact guarded_of_mem_dueVouchers hw hrec hfresh hc hca hhours hrouter hid

theorem ne_expired_of_mem_entries {c : RouterCommand} {key : AccountKey} :
    ∀ x ∈ c.entries, x ≠ .expired key := by
  intro x hx
  unfold RouterCommand.entries at hx
  split at hx <;> simp at hx <;> grind

theorem executed_of_mem_entries {c : RouterCommand} {id : String} (h : .executed id ∈ c.entries) :
    id = c.id := by
  unfold RouterCommand.entries at h
  split at h <;> simpa using h

/-- The agent executes a command: either it is the one that an account has waited for, or that one
still waits. -/
theorem step_execute_allGuarded (hw : s.WellFormed r) (hrec : s.Recorded) (hs : s.AllGuarded r)
    (ht : s.Timely agent importScript r .execute) :
    (s.step agent importScript r .execute).AllGuarded r := by
  cases hdel : s.delivered with
  | nil => simpa only [step, hdel] using hs
  | cons d rest =>
      obtain ⟨c', hc', hid', hact'⟩ := hrec.delivered d (by rw [hdel]; exact List.mem_cons_self)
      simp only [step, hdel]
      intro a ha hp
      have hpres : s.Present a := by
        by_contra hnot
        exact ht d (by rw [hdel]; rfl) a ha ⟨hnot, hp⟩
      rcases hs a ha hpres with hcut | ⟨c, hc, hact, hr, hdis, ho, hlive, hex⟩
      · exact Or.inl (cutSince_append rfl ne_expired_of_mem_entries hcut)
      · by_cases hid : c.id = d.id
        · left
          obtain rfl := hw.commandsKeyed.eq_of_key hc hc' (hid.trans hid'.symm)
          have hentries : d.entries = [.executed d.id, .disabled a.type a.name] := by
            unfold RouterCommand.entries
            rw [← hact', hact]
          unfold CutSince
          simp [hentries]
        · refine Or.inr ⟨c, hc, hact, hr, hdis, ho, hlive, ?_⟩
          intro hmem
          rcases List.mem_append.mp hmem with hmem | hmem
          · exact hid (executed_of_mem_entries hmem)
          · exact hex hmem

/-- **Step lemma**: a timely move keeps every expired account guarded. -/
theorem step_allGuarded (hw : s.WellFormed r) (hrec : s.Recorded) (hs : s.AllGuarded r) {e : Event}
    (ht : s.Timely agent importScript r e) : (s.step agent importScript r e).AllGuarded r := by
  cases e with
  | expireSubscriptions grace batch ids direct =>
      exact step_expireSubscriptions_allGuarded hw hrec hs ht
  | expireHotspotUsers grace batch ids => exact step_expireHotspotUsers_allGuarded hw hrec hs ht
  | execute => exact step_execute_allGuarded hw hrec hs ht
  | tick dt =>
      refine hs.of_frame (fun _ ha => ha) rfl rfl ?_
      intro c hc hwait
      exact ⟨carried_of_mem hc hwait.2.2.1, ht c hc hwait⟩
  | drop =>
      refine hs.of_frame (fun _ ha => ha) rfl rfl ?_
      rintro c hc ⟨_, _, ho, hlive, _⟩
      exact ⟨carried_of_mem hc ho, hlive⟩
  | cleanup =>
      refine hs.of_frame (fun _ ha => ha) rfl rfl ?_
      rintro c hc ⟨_, _, ho, hlive, _⟩
      refine ⟨carried_updateWhere (fun _ => ⟨rfl, rfl, rfl, rfl⟩) hc ho ?_, hlive⟩
      intro hp
      obtain ⟨_, x, hx, hlt⟩ := of_decide_eq_true hp
      exact absurd ⟨x, hx, hlt.le⟩ hlive
  | resetStale threshold =>
      refine hs.of_frame (fun _ ha => ha) rfl rfl ?_
      rintro c hc ⟨_, _, ho, hlive, _⟩
      exact ⟨carried_updateWhere (fun _ => ⟨rfl, rfl, rfl, rfl⟩) hc ho (fun _ => Or.inl rfl), hlive⟩
  | poll routerId =>
      refine hs.of_frame (fun _ ha => ha) rfl rfl ?_
      rintro c hc ⟨_, _, ho, hlive, _⟩
      exact ⟨carried_updateWhere (fun _ => ⟨rfl, rfl, rfl, rfl⟩) hc ho (fun _ => Or.inr rfl), hlive⟩
  | syncUnsynced limit ids direct =>
      refine hs.of_frame ?_ rfl rfl ?_
      · intro a ha
        rw [mem_expiredAccounts] at ha ⊢
        refine ha.imp_left (exists_updateWhere ?_).mp
        intro x
        obtain ⟨_, hst, hacc⟩ := afterSync_frame s.clock s.db.routers s.hotspot.plans direct x
        rw [hst, hacc]
      · rintro c hc ⟨_, _, ho, hlive, _⟩
        exact ⟨carried_of_mem (mem_syncRows hc) ho, hlive⟩
  | report results =>
      obtain ⟨db', hrep, _, _, _, _, hacc⟩ := handleReport_frame hw results
      simp only [step, hrep, Option.getD_some]
      refine hs.of_frame ?_ rfl rfl ?_
      · intro a ha
        rw [mem_expiredAccounts] at ha ⊢
        exact ha.imp_left (hacc a).mp
      · intro c hc hwait
        obtain ⟨db₁, hrep₁, hcar⟩ := handleReport_carries results hw.commandsKeyed hw.backupsKeyed hc
          hwait.2.2.1 (ht c hc hwait)
        obtain rfl := Option.some.inj (hrep.symm.trans hrep₁)
        exact ⟨hcar, hwait.2.2.2.1⟩

/-! ### What was delivered stays in the table -/

theorem commandsKept_step (hw : s.WellFormed r) (e : Event) :
    CommandsKept s.db.commands (s.step agent importScript r e).db.commands := by
  cases e with
  | tick dt => exact .refl _
  | drop => exact .refl _
  | cleanup =>
      refine .updateWhere ?_ _
      exact fun _ => ⟨rfl, rfl, rfl⟩
  | resetStale threshold =>
      refine .updateWhere ?_ _
      exact fun _ => ⟨rfl, rfl, rfl⟩
  | poll routerId =>
      refine .updateWhere ?_ _
      exact fun _ => ⟨rfl, rfl, rfl⟩
  | syncUnsynced limit ids direct => exact .of_mem (fun _ hc => mem_syncRows hc)
  | execute =>
      cases hdel : s.delivered with
      | nil => simpa only [step, hdel] using .refl _
      | cons d rest => simpa only [step, hdel] using .refl _
  | expireHotspotUsers grace batch ids => exact .of_mem (fun _ hc => mem_cutOffUsers hc)
  | expireSubscriptions grace batch ids direct =>
      simp only [step, processExpiredSubscriptions]
      split
      · exact .refl _
      · exact .of_mem (fun _ hc => mem_syncRows hc)
  | report results =>
      obtain ⟨db', hrep, h⟩ := AgentTables.handleReport_commandsKept s.clock results hw.commandsKeyed
        hw.backupsKeyed
      simpa only [step, hrep, Option.getD_some] using h

theorem mem_delivered_step (e : Event) {d : RouterCommand}
    (hd : d ∈ (s.step agent importScript r e).delivered) : d ∈ s.delivered ∨ d ∈ s.db.commands := by
  cases e with
  | poll routerId =>
      simp only [step] at hd
      split at hd
      · rcases List.mem_append.mp hd with hd | hd
        · exact Or.inl hd
        · exact Or.inr (mem_pendingFor.mp (mem_pendingFor_of_mem_getPendingCommands hd)).1
      · exact Or.inl hd
  | execute =>
      cases hdel : s.delivered with
      | nil => rw [step, hdel] at hd; exact Or.inl (hdel ▸ hd)
      | cons d' rest =>
          simp only [step, hdel] at hd
          exact Or.inl (List.mem_cons_of_mem _ hd)
  | drop => exact Or.inl (List.mem_of_mem_tail hd)
  | tick dt => exact Or.inl hd
  | expireSubscriptions grace batch ids direct => exact Or.inl hd
  | expireHotspotUsers grace batch ids => exact Or.inl hd
  | syncUnsynced limit ids direct => exact Or.inl hd
  | report results => exact Or.inl hd
  | cleanup => exact Or.inl hd
  | resetStale threshold => exact Or.inl hd

theorem executed_step (e : Event) {id : String}
    (h : .executed id ∈ (s.step agent importScript r e).log) :
    .executed id ∈ s.log ∨ ∃ d ∈ s.delivered, d.id = id := by
  cases e with
  | execute =>
      cases hdel : s.delivered with
      | nil => rw [step, hdel] at h; exact Or.inl h
      | cons d rest =>
          simp only [step, hdel] at h
          rcases List.mem_append.mp h with h | h
          · exact Or.inr ⟨d, List.mem_cons_self, (executed_of_mem_entries h).symm⟩
          · exact Or.inl h
  | expireSubscriptions grace batch ids direct => exact Or.inl (by simpa [step] using h)
  | expireHotspotUsers grace batch ids => exact Or.inl (by simpa [step] using h)
  | tick dt => exact Or.inl h
  | syncUnsynced limit ids direct => exact Or.inl h
  | poll routerId => exact Or.inl h
  | drop => exact Or.inl h
  | report results => exact Or.inl h
  | cleanup => exact Or.inl h
  | resetStale threshold => exact Or.inl h

theorem step_recorded (hw : s.WellFormed r) (hrec : s.Recorded) (e : Event) :
    (s.step agent importScript r e).Recorded := by
  constructor
  · intro d hd
    obtain ⟨c, hc, hid, hact⟩ : ∃ c ∈ s.db.commands, c.id = d.id ∧ c.action = d.action :=
      (mem_delivered_step e hd).elim (hrec.delivered d) (fun hmem => ⟨d, hmem, rfl, rfl⟩)
    obtain ⟨c', hc', hid', _, hact'⟩ := commandsKept_step hw e c hc
    exact ⟨c', hc', hid'.trans hid, hact'.trans hact⟩
  · intro id h
    obtain ⟨c, hc, rfl⟩ : ∃ c ∈ s.db.commands, c.id = id := by
      rcases executed_step e h with h | ⟨d, hd, rfl⟩
      · exact List.mem_map.mp (hrec.executed id h)
      · obtain ⟨c, hc, hid, _⟩ := hrec.delivered d hd
        exact ⟨c, hc, hid⟩
    obtain ⟨c', hc', hid', _⟩ := commandsKept_step hw e c hc
    exact List.mem_map.mpr ⟨c', hc', hid'⟩

end Steps

/-- **Expired means cut off**: on a router with an agent, in every timely run every expired account
whose user is on the router has in every state been cut off since it expired or has a live
`disable_user` queued. -/
theorem allCutOff_always (s : CutOff) (hw : s.WellFormed r) (hrec : s.Recorded) (hs : s.AllCutOff r)
    (hnew : ∀ c ∈ s.db.commands, ¬ s.Executed c) (es : List Event)
    (hok : Along (step agent importScript r) (Timely agent importScript r) s es) :
    Always (step agent importScript r) (AllCutOff r) s es := by
  refine always_of_along (I := fun s => s.WellFormed r ∧ s.Recorded ∧ s.AllGuarded r) ?_
    (fun s h => h.2.2.allCutOff) ⟨hw, hrec, hs.allGuarded hnew⟩ hok
  rintro s e ⟨hw, hrec, hs⟩ he
  exact ⟨step_wellFormed hw e, step_recorded hw hrec e, step_allGuarded hw hrec hs he⟩

/-- Router `1` with an agent and the hotspot user of one subscription that has run out. -/
def overdue : CutOff where
  clock := days 2
  db :=
    { routers := [⟨1, 1, true, true, some "hash"⟩]
      commands := []
      subscriptions := [⟨1, some 1, 1, 1, .hotspot, .active, "alice", "pw", 0, some (days 1), true,
        some 0⟩]
      backups := [] }
  hotspot := ⟨[], [], [.hourly], []⟩
  delivered := []
  router := ⟨⟨[.new "alice" "pw" "plan_1"], by decide⟩, ⟨[], by decide⟩, [], [], [], [], [], []⟩
  log := []

/-- Three polls whose `disable_user` fails, and a sync of everything unsynced. -/
def threeFailures : List Event :=
  [.expireSubscriptions 5 100 (fun _ => "c1") (fun _ => none)] ++
    (List.replicate 3 [.poll 1, .drop, .report [⟨"c1", "failed", "timeout"⟩]]).flatten ++
      [.syncUnsynced 100 (fun _ => "c2") (fun _ => none)]

/-- After three failures the command is given up, the subscription is `EXPIRED`, the user is still
enabled, and nothing queues the command again; nor does it after an hour without a poll. -/
theorem expired_stays_connected :
    (¬ Always (step .default (fun _ r => r) 1) (AllCutOff 1) overdue threeFailures) ∧
      (((exec (step .default (fun _ r => r) 1) overdue threeFailures).router.lookup .hotspot
        "alice").map RouterUser.disabled = some false) ∧
      ¬ Always (step .default (fun _ r => r) 1) (AllCutOff 1) overdue
        [.expireSubscriptions 5 100 (fun _ => "c1") (fun _ => none), .tick 3600000000, .cleanup,
          .syncUnsynced 100 (fun _ => "c2") (fun _ => none), .poll 1, .execute] := by
  decide

/-- One failure and a retry: the user is cut off in the end. -/
theorem allCutOff_always_retry :
    Along (step .default (fun _ r => r) 1) (Timely .default (fun _ r => r) 1) overdue
        [.expireSubscriptions 5 100 (fun _ => "c1") (fun _ => none), .poll 1, .drop,
          .report [⟨"c1", "failed", "timeout"⟩], .tick 60000000, .poll 1, .execute,
          .report [⟨"c1", "success", ""⟩], .tick 3600000000, .cleanup] ∧
      Always (step .default (fun _ r => r) 1) (AllCutOff 1) overdue
        [.expireSubscriptions 5 100 (fun _ => "c1") (fun _ => none), .poll 1, .drop,
          .report [⟨"c1", "failed", "timeout"⟩], .tick 60000000, .poll 1, .execute,
          .report [⟨"c1", "success", ""⟩], .tick 3600000000, .cleanup] :=
  ⟨by decide, allCutOff_always .default (fun _ r => r) 1 overdue
    ⟨by decide, by decide, by decide, by decide, by decide, by decide⟩
    ⟨by decide, (fun _ h => by cases h)⟩ (by decide) (by decide) _ (by decide)⟩

end CutOff

end IspBilling
