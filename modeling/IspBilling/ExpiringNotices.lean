import IspBilling.Subscription
import IspBilling.ProvisioningCallbacks
import IspBilling.PythonText

/-! # Notices about expiring subscriptions

Every half hour the beat schedule runs `process_expiring_soon_notifications`.  A run looks, for each
of three numbers of hours, for the ACTIVE subscriptions that end in that many hours, half an hour
more or less, and records a `subscription.expiring` event for each of them.  Nothing marks a
subscription as notified.

A subscription is in the window of a threshold for an hour, ends included, so two runs of any schedule
find it there (`two_runs`).  The limit on the rows of a run does not change this for the first row of
the table (`first_row_found`). -/

namespace IspBilling

open PythonText Rows

/-! ### The tables -/

/-- The columns of `subscriptions` that the notices read. -/
structure NoticeSubscription where
  id : ℕ
  userId : ℕ
  planId : ℕ
  organizationId : Option ℕ
  status : SubscriptionStatus
  endDate : Option ℤ
deriving DecidableEq, Repr

/-- The columns of `users` that the notices read. -/
structure NoticeUser where
  id : ℕ
  firstName : Option String
  lastName : Option String
  email : Option String
  username : Option String
  phone : Option String
deriving DecidableEq, Repr

/-- The tables that the notices read. -/
structure NoticeTables where
  subscriptions : Table NoticeSubscription.id
  users : Table NoticeUser.id
  /-- The names of the plans, by their identifiers. -/
  planNames : Table (Prod.fst : ℕ × String → ℕ)
  /-- The UUIDs of the organizations, by their identifiers. -/
  organizationUuids : Table (Prod.fst : ℕ × Option String → ℕ)

/-- The `subscription.expiring` event of a subscription. -/
structure ExpiringEvent where
  tenantId : Option String
  subscriptionId : ℕ
  customerName : Option String
  phone : Option String
  email : Option String
  packageName : String
  expiryAt : Option ℤ
  daysRemaining : ℤ
  hoursRemaining : ℤ
deriving DecidableEq, Repr

/-- The result of a run, with the events that it recorded. -/
structure ExpiringRun where
  checked : ℕ
  notificationsSent : ℕ
  byHours : List (ℤ × ℕ)
  events : List ExpiringEvent
deriving DecidableEq, Repr

/-! ### A run -/

/-- The name in an event: the full name, else the email, else the username. -/
def NoticeUser.customerName (user : NoticeUser) : Option String :=
  let names := [given user.firstName, given user.lastName].reduceOption
  let full := String.ofList (strip (" ".intercalate names).toList)
  ((given (some full)).or (given user.email)).or user.username

/-- `_send_expiring_soon_notification`: the event it records, if the user exists. -/
def sendExpiringSoonNotification (db : NoticeTables) (hoursRemaining : ℤ) (s : NoticeSubscription) :
    Option ExpiringEvent :=
  (db.users.get s.userId).map fun user =>
    { tenantId := (s.organizationId.bind db.organizationUuids.get).bind Prod.snd
      subscriptionId := s.id
      customerName := user.customerName
      phone := user.phone
      email := user.email
      packageName := ((db.planNames.get s.planId).map Prod.snd).getD "Unknown"
      expiryAt := s.endDate
      daysRemaining := if 24 ≤ hoursRemaining then max 1 (hoursRemaining / 24) else 0
      hoursRemaining := hoursRemaining }

/-- The subscription ends in so many hours, half an hour more or less. -/
def NoticeSubscription.EndsIn (now n : ℤ) (s : NoticeSubscription) : Prop :=
  s.status = .active ∧ ∃ endDate ∈ s.endDate,
    now + hours n - minutes 30 ≤ endDate ∧ endDate ≤ now + hours n + minutes 30

instance (now n : ℤ) : DecidablePred (NoticeSubscription.EndsIn now n) :=
  fun s => inferInstanceAs (Decidable (s.status = .active ∧ ∃ endDate ∈ s.endDate,
    now + hours n - minutes 30 ≤ endDate ∧ endDate ≤ now + hours n + minutes 30))

/-- The rows of one threshold. -/
def expiringRows (now n : ℤ) (batchSize : ℕ) (rows : List NoticeSubscription) :
    List NoticeSubscription :=
  (rows.filter fun s => decide (s.EndsIn now n)).take batchSize

/-- One turn of the loop over the thresholds. -/
def expiringTurn (db : NoticeTables) (now : ℤ) (batchSize : ℕ) (run : ExpiringRun) (n : ℤ) :
    ExpiringRun :=
  let rows := expiringRows now n batchSize db.subscriptions.rows
  let events := rows.filterMap (sendExpiringSoonNotification db n)
  { checked := run.checked + rows.length
    notificationsSent := run.notificationsSent + events.length
    byHours := run.byHours ++ [(n, rows.length)]
    events := run.events ++ events }

/-- `process_expiring_soon_notifications`. -/
def processExpiringSoonNotifications (db : NoticeTables) (now : ℤ) (hoursBefore : List ℤ)
    (batchSize : ℕ) : ExpiringRun :=
  hoursBefore.foldl (expiringTurn db now batchSize) ⟨0, 0, [], []⟩

/-- The thresholds of the task. -/
def defaultHoursBefore : List ℤ := [24, 6, 1]

theorem events_processExpiring (db : NoticeTables) (now : ℤ) (hoursBefore : List ℤ) (batchSize : ℕ) :
    (processExpiringSoonNotifications db now hoursBefore batchSize).events =
      hoursBefore.flatMap fun n => (expiringRows now n batchSize db.subscriptions.rows).filterMap
        (sendExpiringSoonNotification db n) := by
  have hloop : ∀ (l : List ℤ) (run : ExpiringRun),
      (l.foldl (expiringTurn db now batchSize) run).events = run.events ++
        l.flatMap fun n => (expiringRows now n batchSize db.subscriptions.rows).filterMap
          (sendExpiringSoonNotification db n) := by
    intro l
    induction l with
    | nil => simp
    | cons n l ih =>
        intro run
        rw [List.foldl_cons, ih, List.flatMap_cons, ← List.append_assoc]
        rfl
  exact hloop hoursBefore _

/-! ### A schedule -/

/-- The table at an instant, when the subscriptions of `rows` stay as they are until their end dates;
`later` is what becomes of them. -/
def rowsAt (later : ℤ → NoticeSubscription → SubscriptionStatus) (now : ℤ)
    (t : Table NoticeSubscription.id) : Table NoticeSubscription.id :=
  t.map (fun s => if ∃ endDate ∈ s.endDate, endDate < now then { s with status := later now s } else s)
    (by intro s; split <;> rfl)

/-- The `k`-th run of a schedule with a run every half hour. -/
def scheduledRun (db : NoticeTables) (later : ℤ → NoticeSubscription → SubscriptionStatus)
    (phase k : ℤ) : ExpiringRun :=
  let now := phase + minutes 30 * k
  processExpiringSoonNotifications { db with subscriptions := rowsAt later now db.subscriptions } now
    defaultHoursBefore 100

/-- The number of notices for a subscription and a threshold in a run. -/
def notices (db : NoticeTables) (later : ℤ → NoticeSubscription → SubscriptionStatus)
    (phase : ℤ) (s : NoticeSubscription) (n k : ℤ) : ℕ :=
  (scheduledRun db later phase k).events.countP fun e =>
    decide (e.subscriptionId = s.id ∧ e.hoursRemaining = n)

/-- Each ACTIVE subscription yields one event for each threshold, over all runs of the schedule. -/
def NotifiedOnce (db : NoticeTables) (later : ℤ → NoticeSubscription → SubscriptionStatus)
    (phase : ℤ) : Prop :=
  ∀ s ∈ db.subscriptions.rows, s.status = .active → s.endDate.isSome = true →
    ∀ n ∈ defaultHoursBefore, ∃ k, notices db later phase s n k = 1 ∧
      ∀ k' ≠ k, notices db later phase s n k' = 0

/-! ### Which runs find a subscription -/

/-- The window of a threshold is an hour with both ends, so two runs of every schedule fall into it. -/
theorem two_runs (phase n endDate : ℤ) : ∃ k k', k ≠ k' ∧ ∀ j ∈ [k, k'],
    phase + minutes 30 * j + hours n - minutes 30 ≤ endDate ∧
      endDate ≤ phase + minutes 30 * j + hours n + minutes 30 := by
  -- the first run that is not more than half an hour too early
  refine ⟨-((phase + hours n + minutes 30 - endDate) / minutes 30),
    -((phase + hours n + minutes 30 - endDate) / minutes 30) + 1, by omega, ?_⟩
  intro j hj
  simp only [List.mem_cons, List.not_mem_nil, or_false] at hj
  unfold minutes seconds at *
  rcases hj with rfl | rfl <;> omega

section Runs

variable (db : NoticeTables) (later : ℤ → NoticeSubscription → SubscriptionStatus)

theorem filter_rowsAt {now n : ℤ} (hn : 1 ≤ n) (t : Table NoticeSubscription.id) :
    (rowsAt later now t).rows.filter (fun s => decide (s.EndsIn now n)) =
      t.rows.filter fun s => decide (s.EndsIn now n) := by
  have hover : ∀ s : NoticeSubscription, (∃ endDate ∈ s.endDate, endDate < now) →
      ∀ status, ¬ NoticeSubscription.EndsIn now n { s with status := status } := by
    rintro s ⟨endDate, hend, hlt⟩ status ⟨-, endDate', hend', hle, -⟩
    dsimp only at hend'
    obtain rfl : endDate = endDate' := Option.mem_unique hend hend'
    unfold hours minutes seconds at hle
    omega
  unfold rowsAt Table.map
  dsimp only
  induction t.rows with
  | nil => rfl
  | cons s rows ih =>
      rw [List.map_cons]
      by_cases h : ∃ endDate ∈ s.endDate, endDate < now
      · rw [if_pos h, List.filter_cons_of_neg (by simpa using hover s h _),
          List.filter_cons_of_neg (by simpa using hover s h s.status), ih]
      · rw [if_neg h, List.filter_cons, List.filter_cons, ih]

theorem first_row_found {now n : ℤ} (hn : 1 ≤ n) {t : Table NoticeSubscription.id}
    {before after : List NoticeSubscription} {s : NoticeSubscription}
    (hrows : t.rows = before ++ s :: after)
    (hbefore : ∀ r ∈ before, ¬ (r.status = .active ∧ r.endDate.isSome = true))
    (hin : s.EndsIn now n) : s ∈ expiringRows now n 100 (rowsAt later now t).rows := by
  have hnone : before.filter (fun s => decide (s.EndsIn now n)) = [] := by
    rw [List.filter_eq_nil_iff]
    intro r hr hends
    rw [decide_eq_true_eq] at hends
    obtain ⟨hactive, endDate, hend, -⟩ := hends
    exact hbefore r hr ⟨hactive, Option.isSome_of_mem hend⟩
  unfold expiringRows
  rw [filter_rowsAt later hn, hrows, List.filter_append, hnone, List.nil_append,
    List.filter_cons_of_pos (by simpa using hin)]
  exact List.mem_cons_self

theorem user_of_notices {phase n k : ℤ} {s : NoticeSubscription} (hs : s ∈ db.subscriptions.rows)
    (h : notices db later phase s n k ≠ 0) : (db.users.get s.userId).isSome = true := by
  obtain ⟨e, he, hid⟩ := List.countP_pos_iff.mp (Nat.pos_of_ne_zero h)
  rw [decide_eq_true_eq] at hid
  unfold scheduledRun at he
  dsimp only at he
  rw [events_processExpiring, List.mem_flatMap] at he
  obtain ⟨n', -, he⟩ := he
  obtain ⟨r, hr, hsend⟩ := List.mem_filterMap.mp he
  obtain ⟨user, huser, rfl⟩ := Option.map_eq_some_iff.mp hsend
  have hr := List.mem_of_mem_filter (List.mem_of_mem_take hr)
  obtain ⟨r₀, hr₀, hrow⟩ := List.mem_map.mp hr
  have hsame : r.id = r₀.id ∧ r.userId = r₀.userId := by
    rw [← hrow]
    split <;> exact ⟨rfl, rfl⟩
  obtain rfl : r₀ = s := db.subscriptions.keyed.eq_of_key hr₀ hs (hsame.1.symm.trans hid.1)
  rw [← hsame.2, huser]
  rfl

theorem send_of_user (db : NoticeTables) (n : ℤ) {s : NoticeSubscription}
    (huser : (db.users.get s.userId).isSome = true) :
    ∃ e, sendExpiringSoonNotification db n s = some e ∧ e.subscriptionId = s.id ∧
      e.hoursRemaining = n := by
  obtain ⟨user, huser⟩ := Option.isSome_iff_exists.mp huser
  exact ⟨_, Option.map_eq_some_iff.mpr ⟨user, huser, rfl⟩, rfl, rfl⟩

theorem notices_pos {phase n k : ℤ} {s : NoticeSubscription} (hn : n ∈ defaultHoursBefore)
    (hfound : s ∈ expiringRows (phase + minutes 30 * k) n 100
      (rowsAt later (phase + minutes 30 * k) db.subscriptions).rows)
    (huser : (db.users.get s.userId).isSome = true) : 0 < notices db later phase s n k := by
  unfold notices scheduledRun
  dsimp only
  rw [events_processExpiring, List.countP_pos_iff]
  obtain ⟨e, hsend, hid, hhours⟩ := send_of_user
    { db with subscriptions := rowsAt later (phase + minutes 30 * k) db.subscriptions } n huser
  refine ⟨e, List.mem_flatMap.mpr ⟨n, hn, List.mem_filterMap.mpr ⟨s, hfound, hsend⟩⟩, ?_⟩
  rw [decide_eq_true_eq]
  exact ⟨hid, hhours⟩

/-- The first ACTIVE row with an end date is not notified once: its two runs send two notices if its
user exists, and none if not. -/
theorem not_notifiedOnce {phase : ℤ} {before after : List NoticeSubscription} {s : NoticeSubscription}
    (hrows : db.subscriptions.rows = before ++ s :: after)
    (hbefore : ∀ r ∈ before, ¬ (r.status = .active ∧ r.endDate.isSome = true))
    (hactive : s.status = .active) (hend : s.endDate.isSome = true) {n : ℤ}
    (hn : n ∈ defaultHoursBefore) (hpos : 1 ≤ n) :
    ¬ ∃ k, notices db later phase s n k = 1 ∧ ∀ k' ≠ k, notices db later phase s n k' = 0 := by
  rintro ⟨k, hone, hzero⟩
  have hs : s ∈ db.subscriptions.rows := by
    rw [hrows]
    exact List.mem_append_right _ List.mem_cons_self
  have huser := user_of_notices db later hs (by rw [hone]; exact one_ne_zero)
  obtain ⟨endDate, hend⟩ := Option.isSome_iff_exists.mp hend
  obtain ⟨j, j', hne, hwindow⟩ := two_runs phase n endDate
  have hnotice : ∀ i ∈ [j, j'], 0 < notices db later phase s n i := by
    intro i hi
    have hin : s.EndsIn (phase + minutes 30 * i) n := ⟨hactive, endDate, hend, hwindow i hi⟩
    exact notices_pos db later hn (first_row_found later hpos hrows hbefore hin) huser
  have hj : j = k := by
    by_contra hjk
    have := hnotice j List.mem_cons_self
    rw [hzero j hjk] at this
    exact lt_irrefl 0 this
  have hj' : j' ≠ k := fun h => hne (hj.trans h.symm)
  have := hnotice j' (List.mem_cons_of_mem _ List.mem_cons_self)
  rw [hzero j' hj'] at this
  exact lt_irrefl 0 this

end Runs

/-! ### Notified once -/

theorem exists_not_notifiedOnce (db : NoticeTables)
    (later : ℤ → NoticeSubscription → SubscriptionStatus) (phase : ℤ) {s : NoticeSubscription}
    (hs : s ∈ db.subscriptions.rows) (hactive : s.status = .active)
    (hend : s.endDate.isSome = true) : ¬ NotifiedOnce db later phase := by
  intro honce
  have hsome : (db.subscriptions.rows.find? fun r =>
      decide (r.status = .active) && r.endDate.isSome).isSome = true := by
    rw [List.find?_isSome]
    exact ⟨s, hs, by simp [hactive, hend]⟩
  obtain ⟨r, hr⟩ := Option.isSome_iff_exists.mp hsome
  obtain ⟨hr', before, after, hrows, hbefore⟩ := List.find?_eq_some_iff_append.mp hr
  rw [Bool.and_eq_true, decide_eq_true_eq] at hr'
  have hmem : r ∈ db.subscriptions.rows := List.mem_of_find?_eq_some hr
  have hn : (24 : ℤ) ∈ defaultHoursBefore := by decide
  apply not_notifiedOnce db later hrows _ hr'.1 hr'.2 hn (by decide) (honce r hmem hr'.1 hr'.2 24 hn)
  intro x hx hboth
  have hnot := hbefore x hx
  simp [hboth.1, hboth.2] at hnot

/-- Exactly one notice for each threshold: only when no subscription is ACTIVE with an end date. -/
theorem notified_once_iff (db : NoticeTables)
    (later : ℤ → NoticeSubscription → SubscriptionStatus) (phase : ℤ) :
    NotifiedOnce db later phase ↔
      ∀ s ∈ db.subscriptions.rows, ¬ (s.status = .active ∧ s.endDate.isSome = true) := by
  constructor
  · rintro honce s hs ⟨hactive, hend⟩
    exact exists_not_notifiedOnce db later phase hs hactive hend honce
  · intro hnone s hs hactive hend
    exact absurd ⟨hactive, hend⟩ (hnone s hs)

/-- One subscription with its user. -/
def oneSubscriber : NoticeTables where
  subscriptions := ⟨[⟨7, 1, 1, none, .active, some (hours 100)⟩], by decide⟩
  users := ⟨[⟨1, some "Asha", none, none, none, none⟩], by decide⟩
  planNames := ⟨[], by decide⟩
  organizationUuids := ⟨[], by decide⟩

/-- With runs at the full and the half hours it gets three notices for the 24 hours. -/
theorem oneSubscriber_notified_three_times :
    (∀ k ∈ [151, 152, 153], notices oneSubscriber (fun _ _ => .expired) 0
      ⟨7, 1, 1, none, .active, some (hours 100)⟩ 24 k = 1) ∧
    ¬ NotifiedOnce oneSubscriber (fun _ _ => .expired) 0 :=
  ⟨by decide +kernel, exists_not_notifiedOnce oneSubscriber _ 0 List.mem_cons_self rfl rfl⟩

end IspBilling
