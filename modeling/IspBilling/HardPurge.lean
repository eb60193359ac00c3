import IspBilling.DashboardBridge
import IspBilling.Rows
import IspBilling.Voucher

/-! # The hard purge of churned customers

`process_hard_purge` (`app/modules/subscriptions/churn_manager.py`) deletes the footprint of hotspot
customers who have been inactive for 90 days.  It selects their subscriptions once and then goes
through them one by one: it queues a `remove_user`, deletes the purchases with this `subscription_id`,
the sessions that those purchases name, and the subscription itself, and commits.  What the database
refuses because of a foreign key is rolled back.

Two things are not under its control.  The purchases and sessions of a customer are tied to him in
several ways, of which the purge follows one: a purchase leads to the customer through its voucher, or
carries his phone number, his e-mail or the address of his device, as a failed purchase does that has no
voucher, and a session leads to him through the device.  And between the selection and the deletion the customer may come
back: the dashboard bridge finds the subscription and reactivates it.

`hard_purge_iff` says which runs are complete and safe. -/

namespace IspBilling

open Rows Runs

/-! ### Rows -/

/-- The contact columns of `users`. -/
structure UserContact where
  id : ℕ
  email : String
  phone : Option String
deriving DecidableEq, Repr

/-- The columns of `customer_purchases` that tie a purchase to a customer. -/
structure PurchaseRecord where
  id : ℕ
  userId : Option ℕ
  phoneNumber : String
  email : Option String
  macAddress : Option String
  voucherCodeId : Option ℕ
  subscriptionId : Option ℕ
  sessionId : Option ℕ
deriving DecidableEq, Repr

/-- The columns of `customer_sessions` that tie a session to a customer. -/
structure SessionRecord where
  id : ℕ
  userId : Option ℕ
  subscriptionId : Option ℕ
  macAddress : String
deriving DecidableEq, Repr

/-- A subscription that the pass has selected, and whether it was renewed since. -/
structure SelectedSubscription where
  row : DashboardSubscription
  renewed : Bool
deriving DecidableEq, Repr

/-- A call of the bridge after its lookup of the subscription. -/
structure PendingRenewal where
  call : BridgeCall
  userId : ℕ
  routerId : ℕ
  found : Option ℕ
deriving DecidableEq, Repr

/-- The tables, the rest of the pass, and the calls of the bridge. -/
structure PurgeSystem where
  subscriptions : Table DashboardSubscription.id
  users : List UserContact
  purchases : List PurchaseRecord
  sessions : List SessionRecord
  vouchers : List VoucherCode
  routers : List Router
  commands : List RouterCommand
  selected : List SelectedSubscription
  renewals : List PendingRenewal

inductive PurgeEvent where
  /-- `process_hard_purge` selects. -/
  | select (now : ℤ) (hardPurgeDays : ℤ)
  /-- The next subscription of the pass; `blocked` when the transaction fails for another reason
  than the tables here, such as a row of another table that refers to the subscription. -/
  | purge (now : ℤ) (commandId : String) (blocked : Bool)
  /-- The bridge looks up the subscription of a user on a router. -/
  | find (call : BridgeCall) (userId routerId : ℕ)
  /-- The bridge commits; a new subscription gets the id. -/
  | renew (renewal : ℕ) (now : ℤ) (id : ℕ)
deriving DecidableEq, Repr

/-- The subscriptions that the purge selects. -/
def DashboardSubscription.Purgeable (cutoff : ℤ) (x : DashboardSubscription) : Prop :=
  x.subscriptionType = .hotspot ∧ x.status ∈ [.inactive, .expired, .cancelled] ∧ x.endDate < cutoff

instance (cutoff : ℤ) : DecidablePred (DashboardSubscription.Purgeable cutoff) := fun x =>
  inferInstanceAs (Decidable (x.subscriptionType = .hotspot ∧
    x.status ∈ [.inactive, .expired, .cancelled] ∧ x.endDate < cutoff))

namespace PurgeSystem

/-! ### The purge -/

/-- `_queue_remove_user`: for the first active router, if it has an agent. -/
def queueRemoveUser (settings : AgentSettings) (s : PurgeSystem) (now : ℤ) (commandId : String)
    (x : DashboardSubscription) : List RouterCommand :=
  match s.routers.find? (fun r => decide (some r.organizationId = x.organizationId ∧
      r.isActive = true)) with
  | some router =>
      if x.username ≠ "" ∧ router.AgentMode then
        queueCommand settings now commandId router.id (.removeUser x.username .hotspot) 3
          (some "hard_purge") (some (toString x.id)) none s.commands
      else s.commands
  | none => s.commands

/-- The sessions that the purchases of a subscription name. -/
def sessionIds (s : PurgeSystem) (subscriptionId : ℕ) : List ℕ :=
  (s.purchases.filter (fun p => decide (p.subscriptionId = some subscriptionId))).filterMap
    PurchaseRecord.sessionId

/-- The purchases after the purge of a subscription. -/
def purgedPurchases (s : PurgeSystem) (subscriptionId : ℕ) : List PurchaseRecord :=
  s.purchases.filter (fun p => decide (p.subscriptionId ≠ some subscriptionId))

/-- The sessions after the purge of a subscription. -/
def purgedSessions (s : PurgeSystem) (subscriptionId : ℕ) : List SessionRecord :=
  s.sessions.filter (fun q => decide (q.id ∉ s.sessionIds subscriptionId))

/-- The foreign keys let the purge of a subscription through: no other purchase names one of the
sessions, and no other session the subscription. -/
def Unreferenced (s : PurgeSystem) (subscriptionId : ℕ) : Prop :=
  (∀ p ∈ s.purgedPurchases subscriptionId, ∀ i ∈ p.sessionId, i ∉ s.sessionIds subscriptionId) ∧
    ∀ q ∈ s.purgedSessions subscriptionId, q.subscriptionId ≠ some subscriptionId

instance (s : PurgeSystem) (subscriptionId : ℕ) : Decidable (s.Unreferenced subscriptionId) :=
  inferInstanceAs (Decidable ((∀ p ∈ s.purgedPurchases subscriptionId, ∀ i ∈ p.sessionId,
    i ∉ s.sessionIds subscriptionId) ∧
      ∀ q ∈ s.purgedSessions subscriptionId, q.subscriptionId ≠ some subscriptionId))

/-- The subscription whose purge an event commits. -/
def purgedBy (s : PurgeSystem) : PurgeEvent → Option SelectedSubscription
  | .purge _ _ blocked =>
      s.selected.head?.filter (fun x => decide (s.Unreferenced x.row.id ∧ blocked = false))
  | _ => none

/-! ### Runs -/

/-- The bridge's lookup by user, router and type. -/
def subscriptionOf (s : PurgeSystem) (userId routerId : ℕ) : Option ℕ :=
  (s.subscriptions.rows.find? (fun x => decide (x.key = (userId, routerId, .hotspot)))).map
    DashboardSubscription.id

/-- The subscriptions after the commit of the bridge: the row is renewed if it is still there, and a
new one is refused if the user has one by now. -/
def renewed (s : PurgeSystem) (r : PendingRenewal) (now : ℤ) (id : ℕ) :
    Table DashboardSubscription.id :=
  match r.found with
  | some subscriptionId => s.subscriptions.update subscriptionId (r.call.renew now) (fun _ => rfl)
  | none =>
      if (s.subscriptionOf r.userId r.routerId).isSome then s.subscriptions
      else s.subscriptions.insert (r.call.subscription id r.userId r.routerId now)

def step (settings : AgentSettings) (s : PurgeSystem) (e : PurgeEvent) : PurgeSystem :=
  match e with
  | .select now hardPurgeDays =>
      { s with
        selected := (s.subscriptions.rows.filter
          (fun x => decide (x.Purgeable (now - days hardPurgeDays)))).map (fun x => ⟨x, false⟩) }
  | .purge now commandId _ =>
      match s.purgedBy e with
      | some x =>
          { s with
            subscriptions := s.subscriptions.delete x.row.id
            purchases := s.purgedPurchases x.row.id
            sessions := s.purgedSessions x.row.id
            commands := s.queueRemoveUser settings now commandId x.row
            selected := s.selected.tail }
      | none => { s with selected := s.selected.tail }
  | .find call userId routerId =>
      { s with renewals := s.renewals ++ [⟨call, userId, routerId, s.subscriptionOf userId routerId⟩] }
  | .renew i now id =>
      match s.renewals[i]? with
      | some r =>
          { s with
            subscriptions := s.renewed r now id
            selected := s.selected.map
              (fun x => { x with renewed := x.renewed || decide (some x.row.id = r.found) })
            renewals := s.renewals.eraseIdx i }
      | none => s

/-! ### Complete and safe -/

def VoucherOf (x : DashboardSubscription) (v : VoucherCode) : Prop :=
  some v.organizationId = x.organizationId ∧ v.hotspotUsername = some x.username

instance (x : DashboardSubscription) : DecidablePred (VoucherOf x) := fun v =>
  inferInstanceAs (Decidable (some v.organizationId = x.organizationId ∧
    v.hotspotUsername = some x.username))

/-- The purchase is linked to the customer: by subscription, by user, or by a voucher of his. -/
def Linked (s : PurgeSystem) (x : DashboardSubscription) (p : PurchaseRecord) : Prop :=
  p.subscriptionId = some x.id ∨ p.userId = some x.userId ∨
    ∃ v ∈ s.vouchers, VoucherOf x v ∧ p.voucherCodeId = some v.id

instance (s : PurgeSystem) (x : DashboardSubscription) : DecidablePred (s.Linked x) := fun p =>
  inferInstanceAs (Decidable (p.subscriptionId = some x.id ∨ p.userId = some x.userId ∨
    ∃ v ∈ s.vouchers, VoucherOf x v ∧ p.voucherCodeId = some v.id))

/-- The phone numbers of a customer: of his user, and on the purchases linked to him. -/
def phonesOf (s : PurgeSystem) (x : DashboardSubscription) : List String :=
  (s.users.filter (fun u => decide (u.id = x.userId))).filterMap UserContact.phone ++
    (s.purchases.filter (fun p => decide (s.Linked x p))).map PurchaseRecord.phoneNumber

def emailsOf (s : PurgeSystem) (x : DashboardSubscription) : List String :=
  (s.users.filter (fun u => decide (u.id = x.userId))).map UserContact.email ++
    (s.purchases.filter (fun p => decide (s.Linked x p))).filterMap PurchaseRecord.email

/-- What the portal stores for a device that it does not know. -/
def unknownDevice : String := "00:00:00:00:00:00"

/-- The devices of a customer: of his vouchers, and on the purchases linked to him. -/
def devicesOf (s : PurgeSystem) (x : DashboardSubscription) : List String :=
  ((s.vouchers.filter (fun v => decide (VoucherOf x v))).filterMap VoucherCode.usedMacAddress ++
    (s.purchases.filter (fun p => decide (s.Linked x p))).filterMap PurchaseRecord.macAddress).filter
      (fun mac => decide (mac ≠ unknownDevice))

/-- The purchases with the personal data of a customer: linked to him, or with a phone number, an e-mail
address or a device of his. -/
def PurchaseOf (s : PurgeSystem) (x : DashboardSubscription) (p : PurchaseRecord) : Prop :=
  s.Linked x p ∨ p.phoneNumber ∈ s.phonesOf x ∨ (∃ email ∈ p.email, email ∈ s.emailsOf x) ∨
    ∃ mac ∈ p.macAddress, mac ∈ s.devicesOf x

instance (s : PurgeSystem) (x : DashboardSubscription) : DecidablePred (s.PurchaseOf x) := fun p =>
  inferInstanceAs (Decidable (s.Linked x p ∨ p.phoneNumber ∈ s.phonesOf x ∨
    (∃ email ∈ p.email, email ∈ s.emailsOf x) ∨ ∃ mac ∈ p.macAddress, mac ∈ s.devicesOf x))

/-- The sessions of a customer: by subscription, by user, by a purchase of his, or by a device. -/
def SessionOf (s : PurgeSystem) (x : DashboardSubscription) (q : SessionRecord) : Prop :=
  q.subscriptionId = some x.id ∨ q.userId = some x.userId ∨
    (∃ p ∈ s.purchases, s.PurchaseOf x p ∧ p.sessionId = some q.id) ∨ q.macAddress ∈ s.devicesOf x

instance (s : PurgeSystem) (x : DashboardSubscription) : DecidablePred (s.SessionOf x) := fun q =>
  inferInstanceAs (Decidable (q.subscriptionId = some x.id ∨ q.userId = some x.userId ∨
    (∃ p ∈ s.purchases, s.PurchaseOf x p ∧ p.sessionId = some q.id) ∨
      q.macAddress ∈ s.devicesOf x))

/-- A purge that commits leaves no purchase and no session of the customer, and if the subscription is
active at that time it is not deleted and no command is queued. -/
def PurgesSafely (settings : AgentSettings) (s : PurgeSystem) (e : PurgeEvent) : Prop :=
  ∀ x ∈ s.purgedBy e,
    (∀ p ∈ (s.step settings e).purchases, ¬ s.PurchaseOf x.row p) ∧
      (∀ q ∈ (s.step settings e).sessions, ¬ s.SessionOf x.row q) ∧
      ∀ row ∈ s.subscriptions.get x.row.id, row.status = .active →
        row ∈ (s.step settings e).subscriptions.rows ∧ (s.step settings e).commands = s.commands

instance (settings : AgentSettings) (s : PurgeSystem) (e : PurgeEvent) :
    Decidable (s.PurgesSafely settings e) :=
  inferInstanceAs (Decidable (∀ x ∈ s.purgedBy e,
    (∀ p ∈ (s.step settings e).purchases, ¬ s.PurchaseOf x.row p) ∧
      (∀ q ∈ (s.step settings e).sessions, ¬ s.SessionOf x.row q) ∧
      ∀ row ∈ s.subscriptions.get x.row.id, row.status = .active →
        row ∈ (s.step settings e).subscriptions.rows ∧
          (s.step settings e).commands = s.commands))

/-- All purchases of the customer carry the subscription, all his sessions are named by them, and he
was not renewed since the selection. -/
def PurgeCovered (s : PurgeSystem) (e : PurgeEvent) : Prop :=
  ∀ x ∈ s.purgedBy e,
    (∀ p ∈ s.purchases, s.PurchaseOf x.row p → p.subscriptionId = some x.row.id) ∧
      (∀ q ∈ s.sessions, s.SessionOf x.row q → q.id ∈ s.sessionIds x.row.id) ∧
      x.renewed = false

instance (s : PurgeSystem) (e : PurgeEvent) : Decidable (s.PurgeCovered e) :=
  inferInstanceAs (Decidable (∀ x ∈ s.purgedBy e,
    (∀ p ∈ s.purchases, s.PurchaseOf x.row p → p.subscriptionId = some x.row.id) ∧
      (∀ q ∈ s.sessions, s.SessionOf x.row q → q.id ∈ s.sessionIds x.row.id) ∧
      x.renewed = false))

/-! ### Selected subscriptions -/

/-- The selected subscriptions are there, once each, and those are active that were renewed since. -/
structure Tracks (s : PurgeSystem) : Prop where
  nodup : (s.selected.map (fun x => x.row.id)).Nodup
  current : ∀ x ∈ s.selected, ∃ row, s.subscriptions.get x.row.id = some row ∧
    (row.status = .active ↔ x.renewed = true)

variable {settings : AgentSettings} {s : PurgeSystem}

theorem purgedBy_eq_some {e : PurgeEvent} {x : SelectedSubscription} (h : s.purgedBy e = some x) :
    ∃ now commandId blocked, e = .purge now commandId blocked ∧ s.selected = x :: s.selected.tail := by
  cases e with
  | purge now commandId blocked =>
      refine ⟨now, commandId, blocked, rfl, ?_⟩
      obtain ⟨hhead, -⟩ := Option.filter_eq_some_iff.mp h
      exact (List.cons_head?_tail (Option.mem_def.mpr hhead)).symm
  | _ => cases h

theorem tracks_select (s : PurgeSystem) (now hardPurgeDays : ℤ) :
    (s.step settings (.select now hardPurgeDays)).Tracks := by
  constructor
  · simp only [step, List.map_map]
    exact s.subscriptions.keyed.sublist (List.filter_sublist.map _)
  · intro x hx
    obtain ⟨row, hrow, rfl⟩ := List.mem_map.mp hx
    obtain ⟨hmem, hpurge⟩ := List.mem_filter.mp hrow
    refine ⟨row, Table.get_key hmem, ?_⟩
    have hstatus := (of_decide_eq_true hpurge).2.1
    constructor
    · intro hactive
      rw [hactive] at hstatus
      simp at hstatus
    · intro h
      cases h

theorem tracks_purge (h : s.Tracks) (now : ℤ) (commandId : String) (blocked : Bool) :
    (s.step settings (.purge now commandId blocked)).Tracks := by
  have htail : (s.selected.tail.map (fun x => x.row.id)).Nodup :=
    h.nodup.sublist ((List.tail_sublist _).map _)
  simp only [step]
  split
  · next x hx =>
      refine ⟨htail, ?_⟩
      intro y hy
      obtain ⟨row, hget, hactive⟩ := h.current y (List.mem_of_mem_tail hy)
      refine ⟨row, ?_, hactive⟩
      obtain ⟨-, -, -, -, hcons⟩ := purgedBy_eq_some hx
      -- the ids of the pass are distinct, so the others are still there
      have hne : y.row.id ≠ x.row.id := by
        have hnodup := h.nodup
        rw [hcons, List.map_cons, List.nodup_cons] at hnodup
        intro heq
        exact hnodup.1 (heq ▸ List.mem_map_of_mem hy)
      simpa only [Table.get_delete_of_ne hne] using hget
  · refine ⟨htail, ?_⟩
    intro y hy
    exact h.current y (List.mem_of_mem_tail hy)

theorem get_renewed {r : PendingRenewal} {now : ℤ} {id k : ℕ} {row : DashboardSubscription}
    (hget : s.subscriptions.get k = some row) :
    (s.renewed r now id).get k = some (if some k = r.found then r.call.renew now row else row) := by
  obtain ⟨-, hk⟩ := Table.get_eq_some.mp hget
  unfold renewed
  split
  · next subscriptionId hfound =>
      refine (Table.get_update ..).trans ?_
      simp [hget, hk, hfound]
  · next hfound =>
      simp only [hfound, reduceCtorEq, if_false]
      split
      · exact hget
      · exact Table.get_insert_of_some hget

theorem tracks_renew (h : s.Tracks) (i : ℕ) (now : ℤ) (id : ℕ) :
    (s.step settings (.renew i now id)).Tracks := by
  simp only [step]
  split
  · next r hr =>
      refine ⟨?_, ?_⟩
      · simpa only [List.map_map, Function.comp_def] using h.nodup
      · intro y hy
        obtain ⟨x, hx, rfl⟩ := List.mem_map.mp hy
        obtain ⟨row, hget, hactive⟩ := h.current x hx
        refine ⟨_, get_renewed hget, ?_⟩
        by_cases hfound : some x.row.id = r.found
        · simp [hfound, BridgeCall.renew]
        · simpa [hfound] using hactive
  · exact h

theorem tracks_step (s : PurgeSystem) (e : PurgeEvent) (h : s.Tracks) :
    (s.step settings e).Tracks := by
  cases e with
  | select now hardPurgeDays => exact tracks_select s now hardPurgeDays
  | purge now commandId blocked => exact tracks_purge h now commandId blocked
  | find call userId routerId => exact ⟨h.nodup, h.current⟩
  | renew i now id => exact tracks_renew h i now id

/-! ### What a purge leaves behind -/

theorem step_of_purgedBy {e : PurgeEvent} {x : SelectedSubscription} (h : s.purgedBy e = some x) :
    (s.step settings e).purchases = s.purgedPurchases x.row.id ∧
      (s.step settings e).sessions = s.purgedSessions x.row.id ∧
      (s.step settings e).subscriptions = s.subscriptions.delete x.row.id := by
  obtain ⟨now, commandId, blocked, rfl, -⟩ := purgedBy_eq_some h
  simp only [step, h, and_self]

/-- No purchase of the customer is left exactly if all of them carry the subscription. -/
theorem purchases_gone_iff {x : DashboardSubscription} :
    (∀ p ∈ s.purgedPurchases x.id, ¬ s.PurchaseOf x p) ↔
      ∀ p ∈ s.purchases, s.PurchaseOf x p → p.subscriptionId = some x.id := by
  simp only [purgedPurchases, List.mem_filter, decide_eq_true_eq, and_imp]
  constructor
  · intro h p hp hof
    by_contra hne
    exact h p hp hne hof
  · intro h p hp hne hof
    exact hne (h p hp hof)

theorem sessions_gone_iff {x : DashboardSubscription} :
    (∀ q ∈ s.purgedSessions x.id, ¬ s.SessionOf x q) ↔
      ∀ q ∈ s.sessions, s.SessionOf x q → q.id ∈ s.sessionIds x.id := by
  simp only [purgedSessions, List.mem_filter, decide_eq_true_eq, and_imp]
  constructor
  · intro h q hq hof
    by_contra hne
    exact h q hq hne hof
  · intro h q hq hne hof
    exact hne (h q hq hof)

/-- A deletion spares an active subscription exactly if there was no renewal. -/
theorem active_spared_iff (hs : s.Tracks) {e : PurgeEvent} {x : SelectedSubscription}
    (h : s.purgedBy e = some x) :
    (∀ row ∈ s.subscriptions.get x.row.id, row.status = .active →
      row ∈ (s.step settings e).subscriptions.rows ∧ (s.step settings e).commands = s.commands) ↔
      x.renewed = false := by
  obtain ⟨-, -, -, -, hcons⟩ := purgedBy_eq_some h
  have hx : x ∈ s.selected := by rw [hcons]; exact List.mem_cons_self
  obtain ⟨row, hget, hactive⟩ := hs.current x hx
  obtain ⟨-, hid⟩ := Table.get_eq_some.mp hget
  rw [(step_of_purgedBy h).2.2]
  constructor
  · intro hall
    by_contra hrenewed
    have hstatus := hactive.mpr (by simpa using hrenewed)
    obtain ⟨hmem, -⟩ := hall row hget hstatus
    have hkept := of_decide_eq_true (List.mem_filter.mp hmem).2
    exact hkept hid
  · intro hrenewed row' hget' hstatus
    obtain rfl := Option.mem_unique hget' hget
    rw [hactive.mp hstatus] at hrenewed
    cases hrenewed

theorem purgesSafely_iff (hs : s.Tracks) (e : PurgeEvent) :
    s.PurgesSafely settings e ↔ s.PurgeCovered e := by
  unfold PurgesSafely PurgeCovered
  refine forall₂_congr fun x hx => ?_
  rw [active_spared_iff hs hx, (step_of_purgedBy hx).1, (step_of_purgedBy hx).2.1,
    purchases_gone_iff, sessions_gone_iff]

/-- **The purge is complete and safe exactly if, for every customer whose purge commits, all his
purchases carry the subscription, all his sessions are named by them, and no renewal came between the
selection and the deletion.** -/
theorem hard_purge_iff (settings : AgentSettings) {s : PurgeSystem} (hs : s.selected = [])
    (es : List PurgeEvent) :
    Along (step settings) (PurgesSafely settings) s es ↔ Along (step settings) PurgeCovered s es := by
  have htracks : s.Tracks := ⟨by simp [hs], by simp [hs]⟩
  exact along_congr_of_invariant tracks_step (fun s e h => purgesSafely_iff h e) htracks

/-- A customer whose subscription expired long ago, with purchases and a session. -/
def churnedCustomer (purchases : List PurchaseRecord) : PurgeSystem where
  subscriptions := ⟨[⟨1, some 1, 1, 1, 1, .hotspot, .expired, "C001", 0, hours 1⟩], by decide⟩
  users := [⟨1, "c001@hotspot.acme.local", none⟩]
  purchases := purchases
  sessions := [⟨1, none, none, "AA:BB:CC:00:00:01"⟩]
  vouchers := [{
    id := 1
    organizationId := 1
    code := "ABC123"
    planId := 1
    status := .expired
    isUsed := true
    usedAt := some 0
    usedMacAddress := some "AA:BB:CC:00:00:01"
    expiresAt := none
    validFrom := none
    value := none
    hotspotUsername := some "C001"
    hotspotPassword := some "pw"
    createdAt := 0 }]
  routers := [⟨1, 1, true, true, some "token"⟩]
  commands := []
  selected := []
  renewals := []

/-- A purchase with its subscription and its session. -/
def linkedPurchase : PurchaseRecord :=
  ⟨1, none, "254700000001", none, none, some 1, some 1, some 1⟩

/-- A purchase as the portal writes it: with its voucher only. -/
def portalPurchase : PurchaseRecord :=
  ⟨1, none, "254700000001", none, none, some 1, none, none⟩

def failedPurchase : PurchaseRecord := ⟨2, none, "254700000001", none, none, none, none, none⟩

theorem hard_purge_linked :
    Along (step .default) (PurgesSafely .default) (churnedCustomer [linkedPurchase])
      [.select (days 100) 90, .purge (days 100) "c1" false] :=
  (hard_purge_iff .default rfl _).mpr (by decide)

/-- The purchase that names no subscription stays, and so does the session; a failed purchase with the
phone number stays; and a customer who comes back after the selection is deleted. -/
theorem hard_purge_fails :
    ¬ Along (step .default) (PurgesSafely .default) (churnedCustomer [portalPurchase])
        [.select (days 100) 90, .purge (days 100) "c1" false] ∧
      ¬ Along (step .default) (PurgesSafely .default) (churnedCustomer [linkedPurchase, failedPurchase])
        [.select (days 100) 90, .purge (days 100) "c1" false] ∧
      ¬ Along (step .default) (PurgesSafely .default) (churnedCustomer [linkedPurchase])
        [.select (days 100) 90,
          .find ⟨1, "acme", 1, "C001", days 101, some 100, some "R1", false⟩ 1 1,
          .renew 0 (days 100) 2, .purge (days 100) "c1" false] := by
  decide

end PurgeSystem

end IspBilling
