import IspBilling.ExpiryPasses
import IspBilling.Runs

/-! # Renewals while the expiry pass is running

`process_expired_subscriptions` reads its batch once and then marks the loaded rows one by one,
with a commit after each.  The sessions use `expire_on_commit=False`, so a row is written as it
was loaded: between the read and the write a renewal can commit a new end date, and the pass
then marks the renewed subscription as `EXPIRED` and queues its `disable_user`.

`RenewalRace` is the committed table together with what the pass and the open renewals hold in
memory.  The four renewals of the code are here: the dashboard bridge, which runs after its
caller has queued the `create_user`, the PPPoE renewal, and `renew_subscription` of the expiry
manager and of the subscription service, which queue their `create_user` after the commit.  A
flush writes the columns that differ from the loaded ones, so a renewal that has read the row
as active does not write the status.

`renewal_survives_iff` is the exact condition: what the pass marks is still past due in the
database and has no `create_user` behind it, and a renewal that leaves the status alone does
not meet an expired row. -/

namespace IspBilling

open Rows Runs

/-- The flush of a changed object: the columns that differ from the loaded ones are written. -/
def Subscription.flush (loaded changed row : Subscription) : Subscription :=
  { row with
    organizationId := if changed.organizationId = loaded.organizationId then row.organizationId
      else changed.organizationId
    planId := if changed.planId = loaded.planId then row.planId else changed.planId
    status := if changed.status = loaded.status then row.status else changed.status
    username := if changed.username = loaded.username then row.username else changed.username
    password := if changed.password = loaded.password then row.password else changed.password
    startDate := if changed.startDate = loaded.startDate then row.startDate
      else changed.startDate
    endDate := if changed.endDate = loaded.endDate then row.endDate else changed.endDate
    isRouterSynced := if changed.isRouterSynced = loaded.isRouterSynced then row.isRouterSynced
      else changed.isRouterSynced
    lastRouterSync := if changed.lastRouterSync = loaded.lastRouterSync then row.lastRouterSync
      else changed.lastRouterSync }

/-- The ways to renew a subscription. -/
inductive Renewal where
  /-- `_upsert_subscription` of the dashboard bridge, in place. -/
  | bridge (planId organizationId : ℕ) (username password : String) (expiresAt : ℤ)
  /-- `_process_pppoe_subscription_renewal`. -/
  | pppoe
  /-- `SubscriptionExpiryManager.renew_subscription`. -/
  | manager (newEndDate : ℤ)
  /-- `SubscriptionService.renew_subscription`. -/
  | service (newEndDate : ℤ)
deriving DecidableEq, Repr

/-- The row as the renewal changes it in memory.  The PPPoE renewal of a subscription that is not
active adds a new row and leaves this one alone. -/
def Renewal.apply (now : ℤ) (plans : List ServicePlan) (x : Subscription) :
    Renewal → Option Subscription
  | .bridge planId organizationId username password expiresAt =>
      some { x with
        planId := planId
        organizationId := some organizationId
        status := .active
        startDate := now
        endDate := some expiresAt
        username := username
        password := password }
  | .pppoe =>
      match plans.find? (fun p => p.id = x.planId) with
      | none => none
      | some plan =>
          if x.status = .active then
            some { x with endDate := some (x.endDate.getD now + days plan.validityDays) }
          else none
  | .manager newEndDate | .service newEndDate =>
      some { x with status := .active, endDate := some newEndDate, isRouterSynced := false }

/-- How far a renewal has come. -/
inductive RenewalStage where
  | loaded
  | committed
  | refreshed
  | closed
deriving DecidableEq, Repr

/-- An open renewal: the row as it was loaded and as it is in memory. -/
structure RenewalSession where
  renewal : Renewal
  loaded : Subscription
  current : Subscription
  stage : RenewalStage
deriving DecidableEq, Repr

/-- The renewal queues a command next: the manager after its commit, the service after its
refresh and only if the row was not active before. -/
def RenewalSession.Syncs (r : RenewalSession) : Prop :=
  match r.renewal with
  | .manager _ => r.stage = .committed
  | .service _ => r.stage = .refreshed ∧ r.loaded.status ≠ .active
  | .bridge .. | .pppoe => False

instance (r : RenewalSession) : Decidable r.Syncs :=
  match h : r.renewal with
  | .manager _ => decidable_of_iff (r.stage = .committed) (by simp only [RenewalSession.Syncs, h])
  | .service _ => decidable_of_iff (r.stage = .refreshed ∧ r.loaded.status ≠ .active)
      (by simp only [RenewalSession.Syncs, h])
  | .bridge .. | .pppoe => isFalse (by simp only [RenewalSession.Syncs, h, not_false_eq_true])

/-- The committed rows, the pass, the open renewals and the queued sync commands. -/
structure RenewalRace where
  clock : ℤ
  routers : List Router
  plans : List ServicePlan
  subscriptions : List Subscription
  /-- The rows that the pass has loaded and not marked yet; `none` before its query. -/
  batch : Option (List Subscription)
  /-- End dates that the pass has flushed and not committed: the rows are locked. -/
  flushed : List (ℕ × ℤ)
  renewals : List RenewalSession
  /-- The commands queued for each subscription, the newest first. -/
  log : List (ℕ × Action)
deriving DecidableEq, Repr

/-- A `create_user`. -/
def Action.isCreate : Action → Bool
  | .createUser .. => true
  | _ => false

/-- A `disable_user`. -/
def Action.isDisable : Action → Bool
  | .disableUser .. => true
  | _ => false

namespace RenewalRace

inductive Event where
  | tick (dt : ℕ)
  /-- The queries of the pass. -/
  | select (orgs : List OrganizationSettings) (gracePeriodMinutes batchSize : ℕ)
  /-- The pass marks its next row, syncs it and commits. -/
  | expireNext (direct : ℕ → Option Bool)
  /-- The pass fails and rolls back; the expired objects stop the loop. -/
  | abort
  /-- The caller of the bridge queues and commits the `create_user` of its customer. -/
  | provision (k : ℕ) (username password profile rateLimit : String)
  | read (k : ℕ) (renewal : Renewal)
  | commit (n : ℕ)
  /-- `db.refresh(subscription)`. -/
  | refresh (n : ℕ)
  | sync (n : ℕ) (direct : ℕ → Option Bool)

/-- The end dates that the pass fills in. -/
def backfilled (orgs : List OrganizationSettings) (batchSize : ℕ) (subs : List Subscription) :
    List (ℕ × ℤ) :=
  ((subs.filter (fun x => decide (x.status = .active ∧ x.endDate = none))).take batchSize).map
    (fun x => (x.id, x.startDate + days (churnDaysForOrg orgs x.organizationId)))

/-- The commit of the flushed end dates. -/
def writeEndDates (flushed : List (ℕ × ℤ)) (subs : List Subscription) : List Subscription :=
  subs.map (fun x =>
    match flushed.find? (fun p => decide (p.1 = x.id)) with
    | some p => { x with endDate := some p.2 }
    | none => x)

/-- Another session waits for the row. -/
def Locked (s : RenewalRace) (k : ℕ) : Prop := k ∈ s.flushed.map Prod.fst

instance (s : RenewalRace) (k : ℕ) : Decidable (s.Locked k) :=
  inferInstanceAs (Decidable (k ∈ s.flushed.map Prod.fst))

/-- The command that a sync of the row `x` queues. -/
def queued (s : RenewalRace) (x : Subscription) : List (ℕ × Action) :=
  ((x.queuedSync s.routers s.plans).map (fun c => (x.id, c.1))).toList

def step (s : RenewalRace) : Event → RenewalRace
  | .tick dt => { s with clock := s.clock + dt }
  | .select orgs grace size =>
      match s.batch with
      | some _ => s
      | none =>
          let rows := overdueRows s.clock grace size (backfillEndDates orgs size s.subscriptions)
          { s with
            batch := some rows
            flushed := if rows = [] then [] else backfilled orgs size s.subscriptions }
  | .expireNext direct =>
      match s.batch with
      | some (r :: rest) =>
          { s with
            batch := some rest
            flushed := []
            subscriptions := updateWhere (fun x => decide (x.id = r.id))
              (Subscription.flush r (r.expire s.clock s.routers s.plans direct))
              (writeEndDates s.flushed s.subscriptions)
            log := s.queued { r with status := .expired } ++ s.log }
      | _ => s
  | .abort => { s with batch := some [], flushed := [] }
  | .provision k username password profile rateLimit =>
      { s with log := (k, .createUser username password .hotspot profile rateLimit) :: s.log }
  | .read k renewal =>
      match s.subscriptions.find? (fun x => decide (x.id = k)) with
      | none => s
      | some x =>
          match renewal.apply s.clock s.plans x with
          | none => s
          | some y => { s with renewals := s.renewals ++ [⟨renewal, x, y, .loaded⟩] }
  | .commit n =>
      match s.renewals[n]? with
      | none => s
      | some r =>
          if r.stage = .loaded ∧ ¬ s.Locked r.loaded.id then
            { s with
              subscriptions := updateWhere (fun x => decide (x.id = r.loaded.id))
                (Subscription.flush r.loaded r.current) s.subscriptions
              renewals := s.renewals.set n { r with stage := .committed } }
          else s
  | .refresh n =>
      match s.renewals[n]? with
      | none => s
      | some r =>
          match s.subscriptions.find? (fun x => decide (x.id = r.loaded.id)) with
          | none => s
          | some x =>
              if r.stage = .committed then
                { s with renewals := s.renewals.set n { r with current := x, stage := .refreshed } }
              else s
  | .sync n direct =>
      match s.renewals[n]? with
      | none => s
      | some r =>
          if r.Syncs then
            { s with
              subscriptions := updateWhere (fun x => decide (x.id = r.current.id))
                (Subscription.flush r.current
                  (r.current.afterSync s.clock s.routers s.plans direct)) s.subscriptions
              renewals := s.renewals.set n { r with stage := .closed }
              log := s.queued r.current ++ s.log }
          else s

/-! ### The property -/

/-- An expired row has its end date behind it. -/
def Lapsed (now : ℤ) (x : Subscription) : Prop :=
  x.status = .expired → ∀ e ∈ x.endDate, e ≤ now

instance (now : ℤ) (x : Subscription) : Decidable (Lapsed now x) :=
  inferInstanceAs (Decidable (x.status = .expired → ∀ e ∈ x.endDate, e ≤ now))

/-- The later command does not disable the user that the earlier one creates. -/
def Undisturbed (later earlier : ℕ × Action) : Prop :=
  later.1 = earlier.1 → later.2.isDisable = true → earlier.2.isCreate = false

instance (later earlier : ℕ × Action) : Decidable (Undisturbed later earlier) :=
  inferInstanceAs (Decidable (_ → _ → _))

/-- No row is expired with its end date ahead, and no `disable_user` was queued for a
subscription after its `create_user`. -/
def Survives (s : RenewalRace) : Prop :=
  (∀ x ∈ s.subscriptions, Lapsed s.clock x) ∧ s.log.Pairwise Undisturbed

instance (s : RenewalRace) : Decidable s.Survives :=
  inferInstanceAs (Decidable ((∀ x ∈ s.subscriptions, Lapsed s.clock x) ∧
    s.log.Pairwise Undisturbed))

/-- The pass marks a row that is past due in the database too and has no `create_user` behind it;
a renewal that does not write the status does not move the end date of an expired row ahead; the
sync of a renewal does not disable what a renewal has created. -/
def Checked (s : RenewalRace) : Event → Prop
  | .expireNext _ =>
      ∀ rows ∈ s.batch, ∀ r ∈ rows.head?,
        (∀ x ∈ writeEndDates s.flushed s.subscriptions, x.id = r.id →
          ∀ e ∈ x.endDate, e ≤ s.clock) ∧
        ∀ a ∈ s.queued { r with status := .expired }, ∀ b ∈ s.log, Undisturbed a b
  | .commit n =>
      ∀ r ∈ s.renewals[n]?, r.stage = .loaded → ¬ s.Locked r.loaded.id →
        r.loaded.status = .active → ∀ x ∈ s.subscriptions, x.id = r.loaded.id →
          x.status = .expired → r.current.endDate ≠ r.loaded.endDate →
            ∀ e ∈ r.current.endDate, e ≤ s.clock
  | .sync n _ =>
      ∀ r ∈ s.renewals[n]?, r.Syncs → ∀ a ∈ s.queued r.current, ∀ b ∈ s.log, Undisturbed a b
  | .tick _ | .select .. | .abort | .provision .. | .read .. | .refresh _ => True

instance (s : RenewalRace) (e : Event) : Decidable (s.Checked e) :=
  match e with
  | .expireNext _ =>
      inferInstanceAs (Decidable (∀ rows ∈ s.batch, ∀ r ∈ rows.head?,
        (∀ x ∈ writeEndDates s.flushed s.subscriptions, x.id = r.id →
          ∀ e ∈ x.endDate, e ≤ s.clock) ∧
        ∀ a ∈ s.queued { r with status := .expired }, ∀ b ∈ s.log, Undisturbed a b))
  | .commit n =>
      inferInstanceAs (Decidable (∀ r ∈ s.renewals[n]?, r.stage = .loaded →
        ¬ s.Locked r.loaded.id → r.loaded.status = .active → ∀ x ∈ s.subscriptions,
          x.id = r.loaded.id → x.status = .expired → r.current.endDate ≠ r.loaded.endDate →
            ∀ e ∈ r.current.endDate, e ≤ s.clock))
  | .sync n _ =>
      inferInstanceAs (Decidable (∀ r ∈ s.renewals[n]?, r.Syncs →
        ∀ a ∈ s.queued r.current, ∀ b ∈ s.log, Undisturbed a b))
  | .tick _ | .select .. | .abort | .provision .. | .read .. | .refresh _ => isTrue trivial

/-- What holds in every state of a run. -/
structure WellFormed (s : RenewalRace) : Prop where
  keyed : Keyed Subscription.id s.subscriptions
  /-- The pass loads active rows. -/
  batch : ∀ rows ∈ s.batch, ∀ r ∈ rows, r.status = .active
  /-- Locked rows stay active. -/
  flushed : ∀ x ∈ s.subscriptions, s.Locked x.id → x.status = .active
  /-- A renewal is about to commit an active row. -/
  renewals : ∀ r ∈ s.renewals, r.stage = .loaded → r.current.status = .active

/-! ### Rows and their flush -/

section Rows

variable (now : ℤ) (routers : List Router) (plans : List ServicePlan) (direct : ℕ → Option Bool)

theorem afterSync_dates (x : Subscription) :
    (x.afterSync now routers plans direct).status = x.status ∧
      (x.afterSync now routers plans direct).endDate = x.endDate := by
  obtain ⟨synced, last, h⟩ := x.afterSync_eq now routers plans direct
  rw [h]
  exact ⟨rfl, rfl⟩

theorem flush_expire {r : Subscription} (hr : r.status = .active) (x : Subscription) :
    (Subscription.flush r (r.expire now routers plans direct) x).status = .expired ∧
      (Subscription.flush r (r.expire now routers plans direct) x).endDate = x.endDate := by
  obtain ⟨hst, hend⟩ := afterSync_dates now routers plans direct { r with status := .expired }
  have hexp : (r.expire now routers plans direct).status = .expired := hst
  constructor
  · rw [Subscription.flush, hexp, hr]
    rfl
  · rw [Subscription.flush]
    exact if_pos hend

theorem flush_afterSync (r x : Subscription) :
    (Subscription.flush r (r.afterSync now routers plans direct) x).status = x.status ∧
      (Subscription.flush r (r.afterSync now routers plans direct) x).endDate = x.endDate := by
  obtain ⟨hst, hend⟩ := afterSync_dates now routers plans direct r
  exact ⟨if_pos hst, if_pos hend⟩

/-- The flush of a renewal: an expired row stays expired exactly if the renewal has read it as
active. -/
theorem lapsed_flush_iff {loaded current x : Subscription} (hcur : current.status = .active)
    (hx : Lapsed now x) : Lapsed now (Subscription.flush loaded current x) ↔
      (loaded.status = .active → x.status = .expired → current.endDate ≠ loaded.endDate →
        ∀ e ∈ current.endDate, e ≤ now) := by
  unfold Lapsed Subscription.flush
  simp only [hcur]
  by_cases hst : SubscriptionStatus.active = loaded.status
  · rw [if_pos hst]
    by_cases hend : current.endDate = loaded.endDate
    · simp only [hend, ne_eq, not_true_eq_false, false_implies, implies_true, iff_true, if_true]
      exact hx
    · simp only [hend, hst.symm, if_false, ne_eq, not_false_eq_true, true_implies]
  · rw [if_neg hst]
    constructor
    · intro _ hact
      exact absurd hact.symm hst
    · intro _ hexp
      cases hexp

end Rows

theorem Renewal.apply_status {now : ℤ} {plans : List ServicePlan} {x y : Subscription}
    {renewal : Renewal} (h : renewal.apply now plans x = some y) : y.status = .active := by
  cases renewal with
  | bridge planId organizationId username password expiresAt =>
      obtain rfl := Option.some.inj h
      rfl
  | pppoe =>
      simp only [Renewal.apply] at h
      split at h
      · cases h
      · split at h
        · rename_i hst
          obtain rfl := Option.some.inj h
          exact hst
        · cases h
  | manager newEndDate =>
      obtain rfl := Option.some.inj h
      rfl
  | service newEndDate =>
      obtain rfl := Option.some.inj h
      rfl

/-! ### The invariant -/

variable {s : RenewalRace}

theorem of_mem_writeEndDates {flushed : List (ℕ × ℤ)} {subs : List Subscription}
    {x : Subscription} (h : x ∈ writeEndDates flushed subs) :
    ∃ y ∈ subs, y.id = x.id ∧ y.status = x.status ∧ (y = x ∨ y.id ∈ flushed.map Prod.fst) := by
  obtain ⟨y, hy, rfl⟩ := List.mem_map.mp h
  refine ⟨y, hy, ?_⟩
  split
  · rename_i p hp
    have hid : p.1 = y.id := by simpa using List.find?_some hp
    exact ⟨rfl, rfl, Or.inr (List.mem_map.mpr ⟨p, List.mem_of_find?_eq_some hp, hid⟩)⟩
  · exact ⟨rfl, rfl, Or.inl rfl⟩

theorem keyed_writeEndDates {flushed : List (ℕ × ℤ)} {subs : List Subscription}
    (h : Keyed Subscription.id subs) : Keyed Subscription.id (writeEndDates flushed subs) := by
  have hids : (writeEndDates flushed subs).map Subscription.id = subs.map Subscription.id := by
    rw [writeEndDates, List.map_map]
    apply List.map_congr_left
    intro x _
    simp only [Function.comp]
    split <;> rfl
  unfold Keyed
  rw [hids]
  exact h

theorem active_of_backfilled {orgs : List OrganizationSettings} {size : ℕ}
    {subs : List Subscription} (hkeyed : Keyed Subscription.id subs) {x : Subscription}
    (hx : x ∈ subs) (h : x.id ∈ (backfilled orgs size subs).map Prod.fst) :
    x.status = .active := by
  obtain ⟨p, hp, hid⟩ := List.mem_map.mp h
  obtain ⟨y, hy, rfl⟩ := List.mem_map.mp hp
  obtain ⟨hmem, hcond⟩ := List.mem_filter.mp (List.mem_of_mem_take hy)
  obtain rfl := hkeyed.eq_of_key hmem hx hid
  exact (of_decide_eq_true hcond).1

theorem WellFormed.set (hw : s.WellFormed) {n : ℕ} {r : RenewalSession}
    (hr : r.stage ≠ .loaded) :
    ∀ r' ∈ s.renewals.set n r, r'.stage = .loaded → r'.current.status = .active := by
  intro r' hr' hstage
  rcases List.mem_or_eq_of_mem_set hr' with hmem | rfl
  · exact hw.renewals r' hmem hstage
  · exact absurd hstage hr

/-- Locked rows stay active under an update that gives none of them another status. -/
theorem WellFormed.flushed_updateWhere (hw : s.WellFormed) {p : Subscription → Bool}
    {f : Subscription → Subscription} (hid : ∀ x, (f x).id = x.id)
    (hf : ∀ x ∈ s.subscriptions, p x = true → s.Locked x.id → (f x).status = .active) :
    ∀ x ∈ updateWhere p f s.subscriptions, s.Locked x.id → x.status = .active := by
  rw [forall_updateWhere (fun x hx _ => hw.flushed x hx)]
  intro x hx hp hlock
  rw [hid] at hlock
  exact hf x hx hp hlock

theorem wellFormed_select (hw : s.WellFormed) (orgs : List OrganizationSettings) (grace size : ℕ) :
    (s.step (.select orgs grace size)).WellFormed := by
  simp only [step]
  split
  · exact hw
  · refine ⟨hw.keyed, ?_, ?_, hw.renewals⟩
    · intro rows hrows r hr
      obtain rfl := Option.some.inj hrows
      obtain ⟨_, hcond⟩ := List.mem_filter.mp (List.mem_of_mem_take hr)
      exact (of_decide_eq_true hcond).1
    · intro x hx hlock
      simp only [Locked] at hlock
      split at hlock
      · cases hlock
      · exact active_of_backfilled hw.keyed hx hlock

theorem wellFormed_expireNext (hw : s.WellFormed) (direct : ℕ → Option Bool) :
    (s.step (.expireNext direct)).WellFormed := by
  simp only [step]
  split
  · rename_i r rest hbatch
    refine ⟨(keyed_writeEndDates hw.keyed).updateWhere (fun _ => rfl), ?_, ?_, hw.renewals⟩
    · intro rows hrows r' hr'
      obtain rfl := Option.some.inj hrows
      exact hw.batch _ hbatch r' (List.mem_cons_of_mem r hr')
    · intro x _ hlock
      cases hlock
  · exact hw

theorem wellFormed_read (hw : s.WellFormed) (k : ℕ) (renewal : Renewal) :
    (s.step (.read k renewal)).WellFormed := by
  simp only [step]
  split
  · exact hw
  · split
    · exact hw
    · rename_i y hy
      refine ⟨hw.keyed, hw.batch, hw.flushed, ?_⟩
      intro r hr hstage
      rcases List.mem_append.mp hr with hr | hr
      · exact hw.renewals r hr hstage
      · obtain rfl := List.mem_singleton.mp hr
        exact Renewal.apply_status hy

theorem wellFormed_commit (hw : s.WellFormed) (n : ℕ) : (s.step (.commit n)).WellFormed := by
  simp only [step]
  split
  · exact hw
  · split
    · rename_i r _ hcond
      refine ⟨hw.keyed.updateWhere (fun _ => rfl), hw.batch,
        hw.flushed_updateWhere (fun _ => rfl) ?_, hw.set (by simp)⟩
      -- the row of the renewal is not locked
      intro x _ hid hlock
      exact absurd (of_decide_eq_true hid ▸ hlock) hcond.2
    · exact hw

theorem wellFormed_sync (hw : s.WellFormed) (n : ℕ) (direct : ℕ → Option Bool) :
    (s.step (.sync n direct)).WellFormed := by
  simp only [step]
  split
  · exact hw
  · split
    · refine ⟨hw.keyed.updateWhere (fun _ => rfl), hw.batch,
        hw.flushed_updateWhere (fun _ => rfl) ?_, hw.set (by simp)⟩
      intro x hx _ hlock
      exact (flush_afterSync _ _ _ _ _ x).1.trans (hw.flushed x hx hlock)
    · exact hw

theorem wellFormed_step (hw : s.WellFormed) (e : Event) : (s.step e).WellFormed := by
  cases e with
  | tick dt => exact ⟨hw.keyed, hw.batch, hw.flushed, hw.renewals⟩
  | select orgs grace size => exact wellFormed_select hw orgs grace size
  | expireNext direct => exact wellFormed_expireNext hw direct
  | abort =>
      refine ⟨hw.keyed, ?_, ?_, hw.renewals⟩
      · intro rows hrows r hr
        obtain rfl := Option.some.inj hrows
        cases hr
      · intro x _ hlock
        cases hlock
  | provision k username password profile rateLimit =>
      exact ⟨hw.keyed, hw.batch, hw.flushed, hw.renewals⟩
  | read k renewal => exact wellFormed_read hw k renewal
  | commit n => exact wellFormed_commit hw n
  | refresh n =>
      simp only [step]
      split
      · exact hw
      · split
        · exact hw
        · split
          · exact ⟨hw.keyed, hw.batch, hw.flushed, hw.set (by simp)⟩
          · exact hw
  | sync n direct => exact wellFormed_sync hw n direct

/-! ### The moves and the property -/

theorem pairwise_queued_append (s : RenewalRace) (x : Subscription)
    (h : s.log.Pairwise Undisturbed) : (s.queued x ++ s.log).Pairwise Undisturbed ↔
      ∀ a ∈ s.queued x, ∀ b ∈ s.log, Undisturbed a b := by
  have hone : (s.queued x).Pairwise Undisturbed := by
    unfold queued
    cases x.queuedSync s.routers s.plans with
    | none => exact List.Pairwise.nil
    | some c => exact List.pairwise_singleton _ _
  rw [List.pairwise_append]
  exact ⟨fun hp => hp.2.2, fun hp => ⟨hone, h, hp⟩⟩

theorem lapsed_writeEndDates (hw : s.WellFormed) (hs : s.Survives) {x : Subscription}
    (hx : x ∈ writeEndDates s.flushed s.subscriptions) : Lapsed s.clock x := by
  obtain ⟨y, hy, _, hst, hsame | hlock⟩ := of_mem_writeEndDates hx
  · exact hsame ▸ hs.1 y hy
  · intro hexp
    rw [← hst, hw.flushed y hy hlock] at hexp
    cases hexp

theorem survives_expireNext_iff (hw : s.WellFormed) (hs : s.Survives) {r : Subscription}
    {rest : List Subscription} (hbatch : s.batch = some (r :: rest)) (direct : ℕ → Option Bool) :
    (s.step (.expireNext direct)).Survives ↔ s.Checked (.expireNext direct) := by
  have hact : r.status = .active := hw.batch _ hbatch r List.mem_cons_self
  have hrows : (∀ x ∈ updateWhere (fun x => decide (x.id = r.id))
      (Subscription.flush r (r.expire s.clock s.routers s.plans direct))
      (writeEndDates s.flushed s.subscriptions), Lapsed s.clock x) ↔
      ∀ x ∈ writeEndDates s.flushed s.subscriptions, x.id = r.id →
        ∀ e ∈ x.endDate, e ≤ s.clock := by
    rw [forall_updateWhere (fun x hx _ => lapsed_writeEndDates hw hs hx)]
    refine forall₂_congr (fun x _ => ?_)
    obtain ⟨hst, hend⟩ := flush_expire s.clock s.routers s.plans direct hact x
    rw [decide_eq_true_eq, Lapsed, hst, hend]
    simp only [true_implies]
  simp only [step, Checked, hbatch, Survives, Option.mem_some_iff, forall_eq', List.head?_cons]
  rw [hrows, pairwise_queued_append s _ hs.2]

theorem survives_commit_iff (hw : s.WellFormed) (hs : s.Survives) {n : ℕ} {r : RenewalSession}
    (hr : s.renewals[n]? = some r) :
    (s.step (.commit n)).Survives ↔ s.Checked (.commit n) := by
  simp only [step, Checked, hr, Option.mem_some_iff, forall_eq']
  by_cases hcond : r.stage = .loaded ∧ ¬ s.Locked r.loaded.id
  · have hcur := hw.renewals r (List.mem_of_getElem? hr) hcond.1
    rw [if_pos hcond, Survives, and_iff_left hs.2,
      forall_updateWhere (fun x hx _ => hs.1 x hx)]
    constructor
    · intro h _ _ hst x hx hid
      exact (lapsed_flush_iff s.clock hcur (hs.1 x hx)).mp (h x hx (decide_eq_true hid)) hst
    · intro h x hx hid
      refine (lapsed_flush_iff s.clock hcur (hs.1 x hx)).mpr ?_
      intro hst
      exact h hcond.1 hcond.2 hst x hx (of_decide_eq_true hid)
  · rw [if_neg hcond]
    refine iff_of_true hs ?_
    intro hstage hfree
    exact absurd ⟨hstage, hfree⟩ hcond

theorem survives_sync_iff (hs : s.Survives) {n : ℕ} {r : RenewalSession}
    (hr : s.renewals[n]? = some r) (direct : ℕ → Option Bool) :
    (s.step (.sync n direct)).Survives ↔ s.Checked (.sync n direct) := by
  simp only [step, Checked, hr, Option.mem_some_iff, forall_eq']
  by_cases hcond : r.Syncs
  · have hrows : ∀ x ∈ updateWhere (fun x => decide (x.id = r.current.id))
        (Subscription.flush r.current (r.current.afterSync s.clock s.routers s.plans direct))
        s.subscriptions, Lapsed s.clock x := by
      rw [forall_updateWhere (fun x hx _ => hs.1 x hx)]
      intro x hx _
      obtain ⟨hst, hend⟩ := flush_afterSync s.clock s.routers s.plans direct r.current x
      rw [Lapsed, hst, hend]
      exact hs.1 x hx
    rw [if_pos hcond, Survives, and_iff_right hrows, pairwise_queued_append s _ hs.2]
    exact ⟨fun h _ => h, fun h => h hcond⟩
  · rw [if_neg hcond]
    exact iff_of_true hs (fun h => absurd h hcond)

theorem survives_step_iff (hw : s.WellFormed) (hs : s.Survives) (e : Event) :
    (s.step e).Survives ↔ s.Checked e := by
  cases e with
  | tick dt =>
      refine iff_of_true ⟨?_, hs.2⟩ trivial
      intro x hx hexp e he
      have := hs.1 x hx hexp e he
      show e ≤ s.clock + dt
      omega
  | select orgs grace size =>
      refine iff_of_true ?_ trivial
      simp only [step]
      split
      · exact hs
      · exact hs
  | expireNext direct =>
      cases hbatch : s.batch with
      | none => simp [step, Checked, hbatch, hs]
      | some rows =>
          cases rows with
          | nil => simp [step, Checked, hbatch, hs]
          | cons r rest => exact survives_expireNext_iff hw hs hbatch direct
  | abort => exact iff_of_true hs trivial
  | provision k username password profile rateLimit =>
      refine iff_of_true ⟨hs.1, List.pairwise_cons.mpr ⟨?_, hs.2⟩⟩ trivial
      intro b _ _ hdis
      cases hdis
  | read k renewal =>
      refine iff_of_true ?_ trivial
      simp only [step]
      split
      · exact hs
      · split <;> exact hs
  | commit n =>
      cases hr : s.renewals[n]? with
      | none => simp [step, Checked, hr, hs]
      | some r => exact survives_commit_iff hw hs hr
  | refresh n =>
      refine iff_of_true ?_ trivial
      simp only [step]
      split
      · exact hs
      · split
        · exact hs
        · split <;> exact hs
  | sync n direct =>
      cases hr : s.renewals[n]? with
      | none => simp [step, Checked, hr, hs]
      | some r => exact survives_sync_iff hs hr direct

/-- **When renewals survive the expiry pass**: in every interleaving of the pass with renewals, no
row is ever expired with its end date ahead and no `disable_user` follows the `create_user` of a
renewal, if and only if every move of the run is checked. -/
theorem renewal_survives_iff (s : RenewalRace) (hw : s.WellFormed) (hs : s.Survives)
    (es : List Event) : Always step Survives s es ↔ Along step Checked s es :=
  always_iff_along (fun _ e h => wellFormed_step h e)
    (fun _ e hw hs => survives_step_iff hw hs e) hw hs

/-- A hotspot subscription that ended a day ago, on a router with an agent. -/
def dayLate : RenewalRace where
  clock := days 1
  routers := [⟨1, 1, true, true, some "hash"⟩]
  plans := [.hourly]
  subscriptions := [⟨1, some 1, 1, 1, .hotspot, .active, "alice", "pw", 0, some 0, true, none⟩]
  batch := none
  flushed := []
  renewals := []
  log := []

/-- The subscription is renewed for thirty days between the read and the write of the pass. -/
def renewedInBetween : List Event :=
  [.select [] 5 100, .read 1 (.manager (days 31)), .commit 0, .sync 0 (fun _ => none),
    .expireNext (fun _ => none)]

/-- The renewal has committed the status `ACTIVE` and an end date ahead and has queued its
`create_user`; the pass then leaves the row expired, thirty days early, and disables the user. -/
theorem renewal_overwritten :
    dayLate.Survives ∧
      ((exec step dayLate (renewedInBetween.take 4)).subscriptions.map
        (fun x => (x.status, x.endDate)) = [(.active, some (days 31))]) ∧
      ((exec step dayLate renewedInBetween).subscriptions.map
        (fun x => (x.status, x.endDate)) = [(.expired, some (days 31))]) ∧
      (exec step dayLate renewedInBetween).log = [(1, .disableUser "alice" .hotspot),
        (1, .createUser "alice" "pw" .hotspot "plan_1" "5M/5M")] ∧
      ¬ (exec step dayLate renewedInBetween).Survives := by
  decide

/-- A renewal after the pass has marked the row survives. -/
theorem renewal_survives_after_pass : Always step Survives dayLate
    [.select [] 5 100, .expireNext (fun _ => none), .read 1 (.manager (days 31)), .commit 0,
      .sync 0 (fun _ => none)] :=
  (renewal_survives_iff dayLate
    ⟨by decide, (fun _ h => by cases h), (fun _ _ h => by cases h), (fun _ h => by cases h)⟩
    (by decide) _).mpr (by decide)

end RenewalRace

end IspBilling
