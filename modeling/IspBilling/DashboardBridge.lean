import IspBilling.ProvisioningCallbacks
import IspBilling.Runs
import IspBilling.Subscription
import IspBilling.Transactions

/-! # The bridge from hotspot purchases to the dashboard

`bridge_hotspot_purchase_to_dashboard` (`app/services/hotspot_dashboard_bridge.py`) mirrors a hotspot
purchase or the redeem of a voucher into the rows that the dashboard reads: a `User` of the customer,
a `Subscription` on the organization's router and, for a direct purchase, a `Payment`.

Each of the three is looked up first and inserted when it is missing, in one transaction per call.
The keys of the lookups are not those of the unique constraints: a user is looked up by organization
and username, but usernames and e-mail addresses are unique over all organizations; a payment is
looked up by organization and reference, but its number, the reference, is unique over all of them.
And calls overlap.  An insert that a constraint refuses ends the call; only the one of the user is
followed by a second lookup.  All errors are swallowed.

`bridge_one_record` says that every call leaves exactly one row of each kind, provided that no insert
is refused by a row that is not the very one it wanted to insert. -/

namespace IspBilling

open Runs Transactions

/-! ### Rows and calls -/

/-- The columns of `users` that the bridge reads and writes. -/
structure DashboardUser where
  id : ℕ
  organizationId : Option ℕ
  username : String
  email : String
deriving DecidableEq, Repr

/-- The columns of `subscriptions` that the bridge reads and writes. -/
structure DashboardSubscription where
  id : ℕ
  organizationId : Option ℕ
  userId : ℕ
  planId : ℕ
  routerId : ℕ
  subscriptionType : SubscriptionType
  status : SubscriptionStatus
  username : String
  startDate : ℤ
  endDate : ℤ
deriving DecidableEq, Repr

/-- The constraint `uq_user_router_type`. -/
def DashboardSubscription.key (x : DashboardSubscription) : ℕ × ℕ × SubscriptionType :=
  (x.userId, x.routerId, x.subscriptionType)

/-- The columns of `payments` that the bridge reads and writes. -/
structure DashboardPayment where
  id : ℕ
  organizationId : Option ℕ
  userId : ℕ
  paymentNumber : String
  amount : ℤ
  referenceNumber : Option String
deriving DecidableEq, Repr

/-- The columns of `routers` that `_resolve_router_id` reads. -/
structure DashboardRouter where
  id : ℕ
  organizationId : Option ℕ
  isActive : Bool
deriving DecidableEq, Repr

structure BridgeCall where
  organizationId : ℕ
  /-- The slug of the organization. -/
  slug : String
  planId : ℕ
  hotspotUsername : String
  expiresAt : ℤ
  amount : Option ℤ
  paymentReference : Option String
  isVoucherRedeem : Bool
deriving DecidableEq, Repr

namespace BridgeCall

/-- The amount of a direct purchase. -/
def paid (c : BridgeCall) : Option ℤ := if c.isVoucherRedeem then none else c.amount

/-- The placeholder address of the customer. -/
def syntheticEmail (lower : String → String) (c : BridgeCall) : String :=
  lower c.hotspotUsername ++ "@hotspot." ++ c.slug ++ ".local"

def user (lower : String → String) (c : BridgeCall) (id : ℕ) : DashboardUser :=
  ⟨id, some c.organizationId, c.hotspotUsername, c.syntheticEmail lower⟩

def subscription (c : BridgeCall) (id userId routerId : ℕ) (now : ℤ) : DashboardSubscription :=
  ⟨id, some c.organizationId, userId, c.planId, routerId, .hotspot, .active, c.hotspotUsername, now,
    c.expiresAt⟩

def renew (c : BridgeCall) (now : ℤ) (x : DashboardSubscription) : DashboardSubscription :=
  { x with
    organizationId := some c.organizationId
    planId := c.planId
    status := .active
    username := c.hotspotUsername
    startDate := now
    endDate := c.expiresAt }

/-- The number of a new payment: the reference, or one made of the time in seconds. -/
def paymentNumber (c : BridgeCall) (now : ℤ) : String :=
  (given c.paymentReference).getD
    ("HSP-" ++ toString c.organizationId ++ "-" ++ toString (now / seconds 1))

def payment (c : BridgeCall) (id userId : ℕ) (amount now : ℤ) : DashboardPayment :=
  ⟨id, some c.organizationId, userId, c.paymentNumber now, amount, c.paymentReference⟩

/-- The user that the call looks up. -/
def IsUser (c : BridgeCall) (u : DashboardUser) : Prop :=
  u.organizationId = some c.organizationId ∧ u.username = c.hotspotUsername

instance (c : BridgeCall) : DecidablePred c.IsUser := fun u =>
  inferInstanceAs (Decidable (u.organizationId = some c.organizationId ∧
    u.username = c.hotspotUsername))

/-- The payment that the call looks up; without a reference it looks for none. -/
def IsPayment (c : BridgeCall) (p : DashboardPayment) : Prop :=
  (given c.paymentReference).isSome ∧ p.referenceNumber = c.paymentReference ∧
    p.organizationId = some c.organizationId

instance (c : BridgeCall) : DecidablePred c.IsPayment := fun p =>
  inferInstanceAs (Decidable ((given c.paymentReference).isSome ∧
    p.referenceNumber = c.paymentReference ∧ p.organizationId = some c.organizationId))

end BridgeCall

/-! ### Calls in flight -/

inductive BridgePhase where
  /-- The user has been looked up. -/
  | user (found : Option ℕ)
  /-- The user is there, and the subscription has been looked up. -/
  | subscription (userId : ℕ) (found : Option ℕ)
  /-- The subscription is inserted, or will be renewed, and the payment has been looked up. -/
  | payment (userId : ℕ) (renews : Option ℕ) (recorded : Bool)
  /-- All rows are there. -/
  | commit (renews : Option ℕ)
deriving DecidableEq, Repr

/-- A call in flight, with the router it has found. -/
structure BridgeTask where
  call : BridgeCall
  routerId : ℕ
  phase : BridgePhase
deriving DecidableEq, Repr

/-- The tables, the calls in flight by transaction, and the calls that have returned, each with its
router. -/
structure Dashboard where
  routers : List DashboardRouter
  users : List (Stored DashboardUser)
  subscriptions : List (Stored DashboardSubscription)
  payments : List (Stored DashboardPayment)
  tasks : ℕ → Option BridgeTask
  returned : List (BridgeCall × ℕ)

inductive BridgeEvent where
  /-- A call begins, in a transaction of its own: it looks up the router and the user. -/
  | call (tx : ℕ) (c : BridgeCall)
  /-- A call goes on: it inserts a row, under a new id, and looks up the next one.  `refetched` tells
  whether the lookup after a rollback goes through, which reads the expired organization again. -/
  | advance (tx : ℕ) (id : ℕ) (now : ℤ) (refetched : Bool)
deriving DecidableEq, Repr

/-- An insert, with the unique columns in `conflicts`; an id that is taken is not drawn, and values
that are too long for their columns are refused. -/
def insertOutcome {α : Type} (ident : α → ℕ) (tx : ℕ) (row : α) (fits : Bool) (conflicts : α → Bool)
    (t : List (Stored α)) : Outcome :=
  if ∃ x ∈ t, ident x.row = ident row then .waits
  else if fits then tryInsert tx conflicts t
  else .refused

namespace Dashboard

def insertUser (s : Dashboard) (tx : ℕ) (row : DashboardUser) : Outcome :=
  insertOutcome DashboardUser.id tx row
    (decide (row.username.length ≤ 50 ∧ row.email.length ≤ 100))
    (fun u => decide (u.username = row.username ∨ u.email = row.email)) s.users

def insertSubscription (s : Dashboard) (tx : ℕ) (row : DashboardSubscription) : Outcome :=
  insertOutcome DashboardSubscription.id tx row (decide (row.username.length ≤ 50))
    (fun x => decide (x.key = row.key)) s.subscriptions

def insertPayment (s : Dashboard) (tx : ℕ) (row : DashboardPayment) : Outcome :=
  insertOutcome DashboardPayment.id tx row
    (decide (row.paymentNumber.length ≤ 50 ∧ ∀ r ∈ row.referenceNumber, r.length ≤ 100))
    (fun p => decide (p.paymentNumber = row.paymentNumber)) s.payments

/-- `_resolve_router_id`. -/
def routerOf (s : Dashboard) (c : BridgeCall) : Option ℕ :=
  (s.routers.find? (fun r => decide (r.organizationId = some c.organizationId ∧ r.isActive = true))).map
    DashboardRouter.id

def userOf (s : Dashboard) (tx : ℕ) (c : BridgeCall) : Option ℕ :=
  (find tx (fun u => decide (c.IsUser u)) s.users).map DashboardUser.id

def subscriptionOf (s : Dashboard) (tx userId routerId : ℕ) : Option ℕ :=
  (find tx (fun x => decide (x.key = (userId, routerId, .hotspot))) s.subscriptions).map
    DashboardSubscription.id

def recorded (s : Dashboard) (tx : ℕ) (c : BridgeCall) : Bool :=
  (find tx (fun p => decide (c.IsPayment p)) s.payments).isSome

/-- The call goes on in another phase. -/
def goOn (s : Dashboard) (tx : ℕ) (t : BridgeTask) (phase : BridgePhase) : Dashboard :=
  { s with tasks := Function.update s.tasks tx (some { t with phase := phase }) }

/-- The call returns without a commit. -/
def giveUp (s : Dashboard) (tx : ℕ) (t : BridgeTask) : Dashboard :=
  { s with
    users := rollback tx s.users
    subscriptions := rollback tx s.subscriptions
    payments := rollback tx s.payments
    tasks := Function.update s.tasks tx none
    returned := s.returned ++ [(t.call, t.routerId)] }

/-- The subscription of a user is looked up. -/
def toSubscription (s : Dashboard) (tx : ℕ) (t : BridgeTask) (userId : ℕ) : Dashboard :=
  s.goOn tx t (.subscription userId (s.subscriptionOf tx userId t.routerId))

/-- The payment is looked up. -/
def toPayment (s : Dashboard) (tx : ℕ) (t : BridgeTask) (userId : ℕ) (renews : Option ℕ) :
    Dashboard :=
  s.goOn tx t (.payment userId renews (s.recorded tx t.call))

/-- `_upsert_customer_user` after its first lookup. -/
def upsertCustomerUser (lower : String → String) (s : Dashboard) (tx id : ℕ) (refetched : Bool)
    (t : BridgeTask) : Option ℕ → Dashboard
  | some userId => s.toSubscription tx t userId
  | none =>
      let row := t.call.user lower id
      match s.insertUser tx row with
      | .waits => s
      | .inserted => { s with users := add tx row s.users }.toSubscription tx t id
      | .refused =>
          match if refetched then s.userOf tx t.call else none with
          | some userId => s.toSubscription tx t userId
          | none => s.giveUp tx t

/-- `_upsert_subscription` after its lookup. -/
def upsertSubscription (s : Dashboard) (tx id : ℕ) (now : ℤ) (t : BridgeTask) (userId : ℕ) :
    Option ℕ → Dashboard
  | some subscriptionId => s.toPayment tx t userId (some subscriptionId)
  | none =>
      let row := t.call.subscription id userId t.routerId now
      match s.insertSubscription tx row with
      | .waits => s
      | .inserted =>
          { s with subscriptions := add tx row s.subscriptions }.toPayment tx t userId none
      | .refused => s.giveUp tx t

/-- `_maybe_create_payment` after its lookup. -/
def maybeCreatePayment (s : Dashboard) (tx id : ℕ) (now : ℤ) (t : BridgeTask) (userId : ℕ)
    (renews : Option ℕ) (recorded : Bool) : Dashboard :=
  match t.call.paid, recorded with
  | some amount, false =>
      let row := t.call.payment id userId amount now
      match s.insertPayment tx row with
      | .waits => s
      | .inserted => { s with payments := add tx row s.payments }.goOn tx t (.commit renews)
      | .refused => s.giveUp tx t
  | _, _ => s.goOn tx t (.commit renews)

def commitCall (s : Dashboard) (tx : ℕ) (now : ℤ) (t : BridgeTask) (renews : Option ℕ) : Dashboard :=
  { s with
    users := commit tx s.users
    subscriptions := commit tx
      (rewrite (fun x => decide (some x.id = renews)) (t.call.renew now) s.subscriptions)
    payments := commit tx s.payments
    tasks := Function.update s.tasks tx none
    returned := s.returned ++ [(t.call, t.routerId)] }

def step (lower : String → String) (s : Dashboard) : BridgeEvent → Dashboard
  | .call tx c =>
      match s.tasks tx, s.routerOf c with
      | none, some routerId =>
          { s with
            tasks := Function.update s.tasks tx (some ⟨c, routerId, .user (s.userOf tx c)⟩) }
      | _, _ => s
  | .advance tx id now refetched =>
      match s.tasks tx with
      | none => s
      | some t =>
          match t.phase with
          | .user found => s.upsertCustomerUser lower tx id refetched t found
          | .subscription userId found => s.upsertSubscription tx id now t userId found
          | .payment userId renews recorded =>
              s.maybeCreatePayment tx id now t userId renews recorded
          | .commit renews => s.commitCall tx now t renews

/-! ### One record of each kind -/

/-- Exactly one user, one subscription and, for a direct purchase with a reference, one payment. -/
def OneRecord (s : Dashboard) (c : BridgeCall) (routerId : ℕ) : Prop :=
  (rowsWhere c.IsUser s.users).length = 1 ∧
    (∀ u ∈ rowsWhere c.IsUser s.users,
      (rowsWhere (fun x => x.key = (u.id, routerId, .hotspot)) s.subscriptions).length = 1) ∧
    (c.paid.isSome → (given c.paymentReference).isSome →
      (rowsWhere c.IsPayment s.payments).length = 1)

instance (s : Dashboard) (c : BridgeCall) (routerId : ℕ) : Decidable (s.OneRecord c routerId) :=
  inferInstanceAs (Decidable (_ ∧ (∀ u ∈ rowsWhere c.IsUser s.users, _) ∧ (_ → _ → _)))

/-- Every call that has returned has left one record of each kind. -/
def OneRecordEach (s : Dashboard) : Prop := ∀ x ∈ s.returned, s.OneRecord x.1 x.2

instance : DecidablePred OneRecordEach := fun s =>
  inferInstanceAs (Decidable (∀ x ∈ s.returned, s.OneRecord x.1 x.2))

/-- No call is under way, and all rows are committed; the constraints hold, and no reference has
two payments in an organization. -/
structure AtRest (s : Dashboard) : Prop where
  usernames : Indexed DashboardUser.username s.users
  keys : Indexed DashboardSubscription.key s.subscriptions
  numbers : Indexed DashboardPayment.paymentNumber s.payments
  references : ∀ c : BridgeCall, AtMostOne c.IsPayment s.payments
  committed : ∀ x ∈ s.payments, x.owner = none
  idle : ∀ tx, s.tasks tx = none
  returned : s.returned = []

/-- The insert of a phase is refused, and the call gives up; a refused user is looked up again. -/
def RefusesIn (lower : String → String) (s : Dashboard) (tx id : ℕ) (now : ℤ) (refetched : Bool)
    (c : BridgeCall) (routerId : ℕ) : BridgePhase → Prop
  | .user none =>
      s.insertUser tx (c.user lower id) = .refused ∧
        ¬ (refetched = true ∧ (s.userOf tx c).isSome)
  | .subscription userId none =>
      s.insertSubscription tx (c.subscription id userId routerId now) = .refused
  | .payment userId _ false =>
      ∃ amount ∈ c.paid, s.insertPayment tx (c.payment id userId amount now) = .refused
  | _ => False

instance (lower : String → String) (s : Dashboard) (tx id : ℕ) (now : ℤ) (refetched : Bool)
    (c : BridgeCall) (routerId : ℕ) :
    DecidablePred (s.RefusesIn lower tx id now refetched c routerId)
  | .user none =>
      inferInstanceAs (Decidable (s.insertUser tx (c.user lower id) = .refused ∧
        ¬ (refetched = true ∧ (s.userOf tx c).isSome)))
  | .user (some _) => instDecidableFalse
  | .subscription userId none =>
      inferInstanceAs
        (Decidable (s.insertSubscription tx (c.subscription id userId routerId now) = .refused))
  | .subscription _ (some _) => instDecidableFalse
  | .payment userId _ false =>
      inferInstanceAs (Decidable
        (∃ amount ∈ c.paid, s.insertPayment tx (c.payment id userId amount now) = .refused))
  | .payment _ _ true => instDecidableFalse
  | .commit _ => instDecidableFalse

/-- The next insert of a call is refused, and it gives up. -/
def Refuses (lower : String → String) (s : Dashboard) (tx id : ℕ) (now : ℤ) (refetched : Bool)
    (t : BridgeTask) : Prop :=
  s.RefusesIn lower tx id now refetched t.call t.routerId t.phase

instance (lower : String → String) (s : Dashboard) (tx id : ℕ) (now : ℤ) (refetched : Bool) :
    DecidablePred (s.Refuses lower tx id now refetched) := fun t =>
  inferInstanceAs (Decidable (s.RefusesIn lower tx id now refetched t.call t.routerId t.phase))

/-- A call whose insert is refused finds all its rows there already. -/
def RefusesMirrored (lower : String → String) (s : Dashboard) : BridgeEvent → Prop
  | .call _ _ => True
  | .advance tx id now refetched =>
      ∀ t ∈ s.tasks tx, s.Refuses lower tx id now refetched t → s.OneRecord t.call t.routerId

instance (lower : String → String) (s : Dashboard) : DecidablePred (s.RefusesMirrored lower)
  | .call _ _ => instDecidableTrue
  | .advance tx id now refetched =>
      inferInstanceAs (Decidable (∀ t ∈ s.tasks tx,
        s.Refuses lower tx id now refetched t → s.OneRecord t.call t.routerId))

/-! ### Unique rows -/

/-- The payment carries the reference of the call as its number. -/
def Numbered (c : BridgeCall) (p : DashboardPayment) : Prop :=
  c.IsPayment p → some p.paymentNumber = given c.paymentReference

/-- The constraints hold and references occur once; uncommitted payments are numbered by their
references, and so are those of a reference for which a call has found no payment. -/
structure Unique (s : Dashboard) : Prop where
  usernames : Indexed DashboardUser.username s.users
  keys : Indexed DashboardSubscription.key s.subscriptions
  numbers : Indexed DashboardPayment.paymentNumber s.payments
  references : ∀ c : BridgeCall, AtMostOne c.IsPayment s.payments
  uncommitted : ∀ c : BridgeCall, ∀ x ∈ s.payments, x.owner ≠ none → Numbered c x.row
  missing : ∀ tx t userId renews, s.tasks tx = some t → t.phase = .payment userId renews false →
    ∀ x ∈ s.payments, Numbered t.call x.row

variable {lower : String → String} {s : Dashboard} {tx : ℕ} {t : BridgeTask}

theorem not_conflicts_of_insertOutcome {α : Type} {ident : α → ℕ} {row : α} {fits : Bool}
    {conflicts : α → Bool} {l : List (Stored α)}
    (h : insertOutcome ident tx row fits conflicts l = .inserted) {x : Stored α} (hx : x ∈ l) :
    conflicts x.row = false := by
  unfold insertOutcome at h
  split at h
  · cases h
  · split at h
    · exact not_conflicts_of_inserted h hx
    · cases h

theorem numbered_payment (c c' : BridgeCall) (id userId : ℕ) (amount now : ℤ) :
    Numbered c' (c.payment id userId amount now) := by
  rintro ⟨hsome, href, -⟩
  have href' : c.paymentReference = c'.paymentReference := href
  obtain ⟨r, hr⟩ := Option.isSome_iff_exists.mp hsome
  simp [BridgeCall.payment, BridgeCall.paymentNumber, href', hr]

theorem unique_goOn {phase : BridgePhase} (h : s.Unique)
    (hphase : ∀ userId renews, phase = .payment userId renews false →
      ∀ x ∈ s.payments, Numbered t.call x.row) : (s.goOn tx t phase).Unique := by
  refine ⟨h.usernames, h.keys, h.numbers, h.references, h.uncommitted, ?_⟩
  intro tx' t' userId renews ht' hp'
  simp only [goOn, Function.update_apply] at ht'
  split at ht'
  · cases ht'
    exact hphase userId renews hp'
  · exact h.missing tx' t' userId renews ht' hp'

theorem unique_toSubscription {userId : ℕ} (h : s.Unique) : (s.toSubscription tx t userId).Unique :=
  unique_goOn h (fun _ _ hp => by cases hp)

theorem unique_toPayment {userId : ℕ} {renews : Option ℕ} (h : s.Unique) :
    (s.toPayment tx t userId renews).Unique := by
  refine unique_goOn h ?_
  intro _ _ hp x hx
  have hnone : find tx (fun p => decide (t.call.IsPayment p)) s.payments = none := by
    have hrec : s.recorded tx t.call = false := by
      injection hp
    simpa [recorded] using hrec
  by_cases hv : x.Visible tx
  · intro hpay
    have hnot := find_eq_none hnone hx hv
    exact absurd hpay (of_decide_eq_false hnot)
  · exact h.uncommitted t.call x hx (fun ho => hv (Or.inl ho))

theorem unique_giveUp (h : s.Unique) : (s.giveUp tx t).Unique := by
  refine ⟨h.usernames.rollback tx, h.keys.rollback tx, h.numbers.rollback tx,
    fun c => (h.references c).rollback tx, ?_, ?_⟩
  · intro c x hx
    exact h.uncommitted c x (List.mem_filter.mp hx).1
  · intro tx' t' userId renews ht' hp' x hx
    simp only [giveUp, Function.update_apply] at ht'
    split at ht'
    · cases ht'
    · exact h.missing tx' t' userId renews ht' hp' x (List.mem_filter.mp hx).1

theorem unique_upsertCustomerUser {id : ℕ} {refetched : Bool} {found : Option ℕ} (h : s.Unique) :
    (s.upsertCustomerUser lower tx id refetched t found).Unique := by
  cases found with
  | some userId => exact unique_toSubscription h
  | none =>
      simp only [upsertCustomerUser]
      split
      · exact h
      · next hins =>
          apply unique_toSubscription
          refine ⟨?_, h.keys, h.numbers, h.references, h.uncommitted, h.missing⟩
          refine h.usernames.add tx ?_
          intro x hx heq
          have hnot := not_conflicts_of_insertOutcome hins hx
          simp [heq] at hnot
      · split
        · exact unique_toSubscription h
        · exact unique_giveUp h

theorem unique_upsertSubscription {id userId : ℕ} {now : ℤ} {found : Option ℕ} (h : s.Unique) :
    (s.upsertSubscription tx id now t userId found).Unique := by
  cases found with
  | some subscriptionId => exact unique_toPayment h
  | none =>
      simp only [upsertSubscription]
      split
      · exact h
      · next hins =>
          apply unique_toPayment
          refine ⟨h.usernames, ?_, h.numbers, h.references, h.uncommitted, h.missing⟩
          refine h.keys.add tx ?_
          intro x hx heq
          have hnot := not_conflicts_of_insertOutcome hins hx
          simp [heq] at hnot
      · exact unique_giveUp h

theorem unique_addPayment {id userId : ℕ} {amount now : ℤ} (h : s.Unique)
    (hmissing : ∀ x ∈ s.payments, Numbered t.call x.row)
    (hins : s.insertPayment tx (t.call.payment id userId amount now) = .inserted) :
    { s with payments := add tx (t.call.payment id userId amount now) s.payments }.Unique := by
  have hfree : ∀ x ∈ s.payments,
      x.row.paymentNumber ≠ (t.call.payment id userId amount now).paymentNumber := by
    intro x hx heq
    have hnot := not_conflicts_of_insertOutcome hins hx
    simp [heq] at hnot
  have hnew : ∀ c : BridgeCall, ∀ x ∈ add tx (t.call.payment id userId amount now) s.payments,
      x ∈ s.payments ∨ Numbered c x.row := by
    intro c x hx
    rcases List.mem_append.mp hx with hx | hx
    · exact Or.inl hx
    · rw [List.mem_singleton.mp hx]
      exact Or.inr (numbered_payment _ _ _ _ _ _)
  refine ⟨h.usernames, h.keys, h.numbers.add tx hfree, ?_, ?_, ?_⟩
  · intro c
    refine (h.references c).add tx ?_
    rintro hrow x hx hpay
    -- both calls look for the same payments
    have hpay' : t.call.IsPayment x.row := by
      obtain ⟨hsome, href, horg⟩ := hrow
      have href' : t.call.paymentReference = c.paymentReference := href
      have horg' : some t.call.organizationId = some c.organizationId := horg
      exact ⟨href' ▸ hsome, href' ▸ hpay.2.1, horg' ▸ hpay.2.2⟩
    have hnum := hmissing x hx hpay'
    have hnum' := numbered_payment t.call t.call id userId amount now
      ⟨hpay'.1, rfl, rfl⟩
    exact hfree x hx (Option.some.inj (hnum.trans hnum'.symm))
  · intro c x hx ho
    rcases hnew c x hx with hx | hx
    · exact h.uncommitted c x hx ho
    · exact hx
  · intro tx' t' userId' renews ht' hp' x hx
    rcases hnew t'.call x hx with hx | hx
    · exact h.missing tx' t' userId' renews ht' hp' x hx
    · exact hx

theorem unique_maybeCreatePayment {id userId : ℕ} {now : ℤ} {renews : Option ℕ} {known : Bool}
    (h : s.Unique) (ht : s.tasks tx = some t) (hp : t.phase = .payment userId renews known) :
    (s.maybeCreatePayment tx id now t userId renews known).Unique := by
  unfold maybeCreatePayment
  split
  · next amount hpaid =>
      simp only
      split
      · exact h
      · next hins =>
          refine unique_goOn (unique_addPayment h ?_ hins) (fun _ _ hp => by cases hp)
          exact h.missing tx t userId renews ht hp
      · exact unique_giveUp h
  · exact unique_goOn h (fun _ _ hp => by cases hp)

theorem unique_commitCall {now : ℤ} {renews : Option ℕ} (h : s.Unique) :
    (s.commitCall tx now t renews).Unique := by
  have hkeys : Indexed DashboardSubscription.key (s.commitCall tx now t renews).subscriptions := by
    apply Indexed.commit
    apply h.keys.rewrite
    intro x
    rfl
  refine ⟨h.usernames.commit tx, hkeys, h.numbers.commit tx,
    fun c => (h.references c).commit tx, ?_, ?_⟩
  · intro c x hx ho
    obtain ⟨y, hy, rfl⟩ := List.mem_map.mp hx
    split at ho
    · exact absurd rfl ho
    · next hne =>
        rw [if_neg hne]
        exact h.uncommitted c y hy ho
  · intro tx' t' userId renews ht' hp' x hx
    simp only [commitCall, Function.update_apply] at ht'
    split at ht'
    · cases ht'
    · obtain ⟨y, hy, hrow⟩ := mem_commit_row hx
      rw [← hrow]
      exact h.missing tx' t' userId renews ht' hp' y hy

variable (lower) in
/-- **Step lemma**: whatever happens, no row is there twice. -/
theorem unique_step (e : BridgeEvent) (h : s.Unique) : (s.step lower e).Unique := by
  cases e with
  | call tx c =>
      simp only [step]
      split
      · refine ⟨h.usernames, h.keys, h.numbers, h.references, h.uncommitted, ?_⟩
        intro tx' t' userId renews ht' hp'
        simp only [Function.update_apply] at ht'
        split at ht'
        · cases ht'
          cases hp'
        · exact h.missing tx' t' userId renews ht' hp'
      · exact h
  | advance tx id now refetched =>
      simp only [step]
      split
      · exact h
      · next t ht =>
          split
          · exact unique_upsertCustomerUser h
          · exact unique_upsertSubscription h
          · next hp => exact unique_maybeCreatePayment h ht hp
          · exact unique_commitCall h

/-! ### Calls are served -/

/-- What a call has made sure of so far. -/
def Prepared (s : Dashboard) (tx : ℕ) (t : BridgeTask) : Prop :=
  match t.phase with
  | .user found => ∀ userId ∈ found, Sees tx (fun u => t.call.IsUser u ∧ u.id = userId) s.users
  | .subscription userId found =>
      Sees tx (fun u => t.call.IsUser u ∧ u.id = userId) s.users ∧
        (found.isSome → Sees tx (fun x => x.key = (userId, t.routerId, .hotspot)) s.subscriptions)
  | .payment userId _ recorded =>
      Sees tx (fun u => t.call.IsUser u ∧ u.id = userId) s.users ∧
        Sees tx (fun x => x.key = (userId, t.routerId, .hotspot)) s.subscriptions ∧
        (recorded = true → Sees tx t.call.IsPayment s.payments)
  | .commit _ =>
      ∃ userId, Sees tx (fun u => t.call.IsUser u ∧ u.id = userId) s.users ∧
        Sees tx (fun x => x.key = (userId, t.routerId, .hotspot)) s.subscriptions ∧
        (t.call.paid.isSome → (given t.call.paymentReference).isSome →
          Sees tx t.call.IsPayment s.payments)

/-- What a call has left behind when it has returned. -/
def Mirrored (s : Dashboard) (c : BridgeCall) (routerId : ℕ) : Prop :=
  ∃ userId, Holds (fun u => c.IsUser u ∧ u.id = userId) s.users ∧
    Holds (fun x => x.key = (userId, routerId, .hotspot)) s.subscriptions ∧
    (c.paid.isSome → (given c.paymentReference).isSome → Holds c.IsPayment s.payments)

/-- Every call is on its way, or has left its rows behind. -/
structure Served (s : Dashboard) : Prop where
  tasks : ∀ tx t, s.tasks tx = some t → s.Prepared tx t
  returned : ∀ x ∈ s.returned, s.Mirrored x.1 x.2

/-- A transaction leaves alone what the others see. -/
structure Frame (tx : ℕ) (s s' : Dashboard) : Prop where
  users : ∀ P, Keeps tx P s.users s'.users
  subscriptions : ∀ k, Keeps tx (fun x => DashboardSubscription.key x = k) s.subscriptions
    s'.subscriptions
  payments : ∀ P, Keeps tx P s.payments s'.payments

theorem Prepared.frame {s' : Dashboard} {tx' : ℕ} (h : s.Prepared tx' t) (hf : Frame tx s s')
    (hne : tx' ≠ tx) : s'.Prepared tx' t := by
  unfold Prepared at h ⊢
  split at h
  · intro userId hfound
    exact (hf.users _).1 tx' hne (h userId hfound)
  · exact ⟨(hf.users _).1 tx' hne h.1, fun hs => (hf.subscriptions _).1 tx' hne (h.2 hs)⟩
  · exact ⟨(hf.users _).1 tx' hne h.1, (hf.subscriptions _).1 tx' hne h.2.1,
      fun hr => (hf.payments _).1 tx' hne (h.2.2 hr)⟩
  · obtain ⟨userId, hu, hx, hp⟩ := h
    exact ⟨userId, (hf.users _).1 tx' hne hu, (hf.subscriptions _).1 tx' hne hx,
      fun ha hr => (hf.payments _).1 tx' hne (hp ha hr)⟩

theorem Mirrored.frame {s' : Dashboard} {c : BridgeCall} {routerId : ℕ} (h : s.Mirrored c routerId)
    (hf : Frame tx s s') : s'.Mirrored c routerId := by
  obtain ⟨userId, hu, hx, hp⟩ := h
  exact ⟨userId, (hf.users _).2 hu, (hf.subscriptions _).2 hx,
    fun ha hr => (hf.payments _).2 (hp ha hr)⟩

/-- A transaction goes on, or returns, under the frame rule. -/
theorem Served.advance {s' : Dashboard} {o : Option BridgeTask} {l : List (BridgeCall × ℕ)}
    (h : s.Served) (hf : Frame tx s s') (htasks : s'.tasks = Function.update s.tasks tx o)
    (hreturned : s'.returned = s.returned ++ l) (ho : ∀ t ∈ o, s'.Prepared tx t)
    (hl : ∀ x ∈ l, s'.Mirrored x.1 x.2) : s'.Served := by
  constructor
  · intro tx' t' ht'
    rw [htasks, Function.update_apply] at ht'
    split at ht'
    · next heq =>
        subst heq
        exact ho t' ht'
    · next hne => exact (h.tasks tx' t' ht').frame hf hne
  · intro x hx
    rw [hreturned] at hx
    rcases List.mem_append.mp hx with hx | hx
    · exact (h.returned x hx).frame hf
    · exact hl x hx

theorem served_goOn {s' : Dashboard} {phase : BridgePhase} (h : s.Served) (hf : Frame tx s s')
    (htasks : s'.tasks = s.tasks) (hreturned : s'.returned = s.returned)
    (hp : s'.Prepared tx { t with phase := phase }) : (s'.goOn tx t phase).Served := by
  have hf' : Frame tx s (s'.goOn tx t phase) := ⟨hf.users, hf.subscriptions, hf.payments⟩
  refine h.advance hf' (o := some { t with phase := phase }) (l := []) ?_ ?_ ?_ ?_
  · simp [goOn, htasks]
  · simp [goOn, hreturned]
  · rintro t' ht'
    obtain rfl := Option.mem_some_iff.mp ht'
    exact hp
  · simp

theorem Frame.refl (tx : ℕ) (s : Dashboard) : Frame tx s s :=
  ⟨fun P => Keeps.refl tx P _, fun _ => Keeps.refl tx _ _, fun P => Keeps.refl tx P _⟩

theorem userOf_sees {c : BridgeCall} {userId : ℕ} (h : s.userOf tx c = some userId) :
    Sees tx (fun u => c.IsUser u ∧ u.id = userId) s.users := by
  obtain ⟨u, hu, rfl⟩ := Option.map_eq_some_iff.mp h
  obtain ⟨x, hx, hv, hrow, hp⟩ := find_eq_some hu
  exact ⟨x, hx, hv, of_decide_eq_true hp, by rw [hrow]⟩

theorem served_toSubscription {s' : Dashboard} {userId : ℕ} (h : s.Served) (hf : Frame tx s s')
    (htasks : s'.tasks = s.tasks) (hreturned : s'.returned = s.returned)
    (hu : Sees tx (fun u => t.call.IsUser u ∧ u.id = userId) s'.users) :
    (s'.toSubscription tx t userId).Served := by
  refine served_goOn h hf htasks hreturned ⟨hu, fun hs => ?_⟩
  obtain ⟨subscriptionId, hsub⟩ := Option.isSome_iff_exists.mp hs
  obtain ⟨x, hx, -⟩ := Option.map_eq_some_iff.mp hsub
  obtain ⟨y, hy, hv, -, hp⟩ := find_eq_some hx
  exact ⟨y, hy, hv, of_decide_eq_true hp⟩

theorem served_toPayment {s' : Dashboard} {userId : ℕ} {renews : Option ℕ} (h : s.Served)
    (hf : Frame tx s s') (htasks : s'.tasks = s.tasks) (hreturned : s'.returned = s.returned)
    (hu : Sees tx (fun u => t.call.IsUser u ∧ u.id = userId) s'.users)
    (hx : Sees tx (fun x => x.key = (userId, t.routerId, .hotspot)) s'.subscriptions) :
    (s'.toPayment tx t userId renews).Served := by
  refine served_goOn h hf htasks hreturned ⟨hu, hx, fun hrec => ?_⟩
  obtain ⟨p, hp⟩ := Option.isSome_iff_exists.mp hrec
  obtain ⟨y, hy, hv, -, hpay⟩ := find_eq_some hp
  exact ⟨y, hy, hv, of_decide_eq_true hpay⟩

theorem served_upsertCustomerUser {id : ℕ} {refetched : Bool} {found : Option ℕ} (h : s.Served)
    (ht : s.tasks tx = some t) (hp : t.phase = .user found)
    (hok : found = none → s.insertUser tx (t.call.user lower id) = .refused →
      refetched = true ∧ (s.userOf tx t.call).isSome) :
    (s.upsertCustomerUser lower tx id refetched t found).Served := by
  cases found with
  | some userId =>
      have hprep := h.tasks tx t ht
      simp only [Prepared, hp] at hprep
      exact served_toSubscription h (Frame.refl tx s) rfl rfl (hprep userId rfl)
  | none =>
      simp only [upsertCustomerUser]
      split
      · exact h
      · refine served_toSubscription h ?_ rfl rfl (sees_add ⟨⟨rfl, rfl⟩, rfl⟩)
        exact ⟨fun P => keeps_add tx P _ _, fun _ => Keeps.refl tx _ _, fun P => Keeps.refl tx P _⟩
      · next hins =>
          obtain ⟨hre, hsome⟩ := hok rfl hins
          obtain ⟨userId, huser⟩ := Option.isSome_iff_exists.mp hsome
          simp only [hre, if_true, huser]
          exact served_toSubscription h (Frame.refl tx s) rfl rfl (userOf_sees huser)

theorem served_upsertSubscription {id userId : ℕ} {now : ℤ} {found : Option ℕ} (h : s.Served)
    (ht : s.tasks tx = some t) (hp : t.phase = .subscription userId found)
    (hok : found = none →
      s.insertSubscription tx (t.call.subscription id userId t.routerId now) ≠ .refused) :
    (s.upsertSubscription tx id now t userId found).Served := by
  have hprep := h.tasks tx t ht
  simp only [Prepared, hp] at hprep
  cases found with
  | some subscriptionId =>
      exact served_toPayment h (Frame.refl tx s) rfl rfl hprep.1 (hprep.2 rfl)
  | none =>
      simp only [upsertSubscription]
      split
      · exact h
      · refine served_toPayment h ?_ rfl rfl hprep.1 (sees_add rfl)
        exact ⟨fun P => Keeps.refl tx P _, fun _ => keeps_add tx _ _ _, fun P => Keeps.refl tx P _⟩
      · next hins => exact absurd hins (hok rfl)

theorem served_maybeCreatePayment {id userId : ℕ} {now : ℤ} {renews : Option ℕ} {known : Bool}
    (h : s.Served) (ht : s.tasks tx = some t) (hp : t.phase = .payment userId renews known)
    (hok : known = false → ∀ amount ∈ t.call.paid,
      s.insertPayment tx (t.call.payment id userId amount now) ≠ .refused) :
    (s.maybeCreatePayment tx id now t userId renews known).Served := by
  have hprep := h.tasks tx t ht
  simp only [Prepared, hp] at hprep
  obtain ⟨hu, hx, hrec⟩ := hprep
  unfold maybeCreatePayment
  split
  · next amount hpaid =>
      simp only
      split
      · exact h
      · refine served_goOn h ?_ rfl rfl ⟨userId, hu, hx, fun _ hr => ?_⟩
        · exact ⟨fun P => Keeps.refl tx P _, fun _ => Keeps.refl tx _ _, fun P => keeps_add tx P _ _⟩
        · exact sees_add ⟨hr, rfl, rfl⟩
      · next hins => exact absurd hins (hok rfl amount hpaid)
  · next hskip =>
      refine served_goOn h (Frame.refl tx s) rfl rfl ⟨userId, hu, hx, fun ha _ => ?_⟩
      obtain ⟨amount, hpaid⟩ := Option.isSome_iff_exists.mp ha
      apply hrec
      by_contra hknown
      exact hskip amount hpaid (by simpa using hknown)

theorem served_commitCall {now : ℤ} {renews : Option ℕ} (h : s.Served) (ht : s.tasks tx = some t)
    (hp : t.phase = .commit renews) : (s.commitCall tx now t renews).Served := by
  have hprep := h.tasks tx t ht
  simp only [Prepared, hp] at hprep
  obtain ⟨userId, hu, hx, hpay⟩ := hprep
  have hf : Frame tx s (s.commitCall tx now t renews) := by
    refine ⟨fun P => keeps_commit tx P _, fun k => ?_, fun P => keeps_commit tx P _⟩
    refine (keeps_rewrite tx _ ?_ _).trans (keeps_commit tx _ _)
    intro x hk
    exact hk
  refine h.advance (o := none) (l := [(t.call, t.routerId)]) hf rfl rfl (by simp) ?_
  intro y hy
  rw [List.mem_singleton.mp hy]
  refine ⟨userId, hu.holds_commit, ?_, fun ha hr => (hpay ha hr).holds_commit⟩
  refine Sees.holds_commit (hx.rewrite _ ?_)
  intro x hk
  exact hk

theorem served_giveUp (h : s.Served) (hm : s.Mirrored t.call t.routerId) : (s.giveUp tx t).Served := by
  have hf : Frame tx s (s.giveUp tx t) :=
    ⟨fun P => keeps_rollback tx P _, fun _ => keeps_rollback tx _ _, fun P => keeps_rollback tx P _⟩
  refine h.advance (o := none) (l := [(t.call, t.routerId)]) hf rfl rfl (by simp) ?_
  intro x hx
  rw [List.mem_singleton.mp hx]
  exact hm.frame hf

theorem served_of_not_refuses {id : ℕ} {now : ℤ} {refetched : Bool} (h : s.Served)
    (ht : s.tasks tx = some t) (hok : ¬ s.Refuses lower tx id now refetched t) :
    (s.step lower (.advance tx id now refetched)).Served := by
  simp only [step, ht]
  unfold Refuses RefusesIn at hok
  split
  · next found hp =>
      refine served_upsertCustomerUser h ht hp ?_
      rintro rfl hins
      simp only [hp] at hok
      by_contra hnot
      exact hok ⟨hins, hnot⟩
  · next userId found hp =>
      refine served_upsertSubscription h ht hp ?_
      rintro rfl
      simpa only [hp] using hok
  · next userId renews known hp =>
      refine served_maybeCreatePayment h ht hp ?_
      rintro rfl amount hpaid hins
      simp only [hp] at hok
      exact hok ⟨amount, hpaid, hins⟩
  · next renews hp => exact served_commitCall h ht hp

theorem step_of_refuses {id : ℕ} {now : ℤ} {refetched : Bool} (ht : s.tasks tx = some t)
    (hrefuses : s.Refuses lower tx id now refetched t) :
    s.step lower (.advance tx id now refetched) = s.giveUp tx t := by
  simp only [step, ht]
  unfold Refuses RefusesIn at hrefuses
  split at hrefuses
  · next hp =>
      have hnone : (if refetched = true then s.userOf tx t.call else none) = none := by
        by_contra hne
        split at hne
        · next hre => exact hrefuses.2 ⟨hre, Option.isSome_iff_ne_none.mpr hne⟩
        · exact hne rfl
      simp only [hp, upsertCustomerUser, hrefuses.1, hnone]
  · next hp => simp only [hp, upsertSubscription, hrefuses]
  · next hp =>
      obtain ⟨amount, hpaid, hins⟩ := hrefuses
      simp only [hp, maybeCreatePayment, Option.mem_def.mp hpaid, hins]
  · exact hrefuses.elim

theorem served_call {c : BridgeCall} (h : s.Served) : (s.step lower (.call tx c)).Served := by
  simp only [step]
  split
  · next routerId hfree hrouter =>
      refine served_goOn (t := ⟨c, routerId, .user none⟩) h (Frame.refl tx s) rfl rfl ?_
      intro userId hfound
      exact userOf_sees hfound
  · exact h

theorem oneRecord_iff (hs : s.Unique) {c : BridgeCall} {routerId : ℕ} :
    s.OneRecord c routerId ↔ s.Mirrored c routerId := by
  constructor
  · rintro ⟨hone, hsub, hpay⟩
    obtain ⟨u, hrows⟩ := List.length_eq_one_iff.mp hone
    have hu : u ∈ rowsWhere c.IsUser s.users := by simp [hrows]
    refine ⟨u.id, ?_, holds_of_rowsWhere (hsub u hu), fun ha hr => holds_of_rowsWhere (hpay ha hr)⟩
    obtain ⟨y, hy, hrow⟩ := List.mem_map.mp hu
    obtain ⟨hmem, hyp⟩ := List.mem_filter.mp hy
    obtain ⟨ho, hp⟩ := of_decide_eq_true hyp
    exact ⟨y, hmem, ho, hp, by rw [hrow]⟩
  · rintro ⟨userId, hu, hsub, hpay⟩
    have huser : Holds c.IsUser s.users := by
      obtain ⟨y, hy, ho, hp⟩ := hu
      exact ⟨y, hy, ho, hp.1⟩
    have honly : AtMostOne c.IsUser s.users :=
      hs.usernames.atMostOne (k := c.hotspotUsername) fun _ hr => hr.2
    refine ⟨length_rowsWhere honly huser, ?_, fun ha hr =>
      length_rowsWhere (hs.references c) (hpay ha hr)⟩
    intro u hmem
    -- the user of the subscription is the one there is
    obtain rfl : u.id = userId := by
      obtain ⟨y, hy, ho, hp, rfl⟩ := hu
      have hy' : y.row ∈ rowsWhere c.IsUser s.users :=
        List.mem_map_of_mem (List.mem_filter.mpr ⟨hy, by simp [ho, hp]⟩)
      obtain ⟨u', hrows⟩ := List.length_eq_one_iff.mp (length_rowsWhere honly huser)
      rw [hrows, List.mem_singleton] at hmem hy'
      rw [hmem, hy']
    have hkey := hs.keys.atMostOne (P := fun y => y.key = (u.id, routerId, .hotspot)) fun _ hr => hr
    exact length_rowsWhere hkey hsub

theorem AtRest.unique (h : s.AtRest) : s.Unique := by
  refine ⟨h.usernames, h.keys, h.numbers, h.references, ?_, ?_⟩
  · intro c x hx ho
    exact absurd (h.committed x hx) ho
  · intro tx t userId renews ht
    rw [h.idle tx] at ht
    cases ht

theorem AtRest.served (h : s.AtRest) : s.Served := by
  refine ⟨?_, by simp [h.returned]⟩
  intro tx t ht
  rw [h.idle tx] at ht
  cases ht

/-- **Step lemma**: a step whose refused call is mirrored keeps all calls served. -/
theorem served_step (hs : s.Unique) (h : s.Served) {e : BridgeEvent}
    (hok : s.RefusesMirrored lower e) : (s.step lower e).Served := by
  cases e with
  | call tx c => exact served_call h
  | advance tx id now refetched =>
      cases ht : s.tasks tx with
      | none => simpa only [step, ht] using h
      | some t =>
          by_cases hrefuses : s.Refuses lower tx id now refetched t
          · rw [step_of_refuses ht hrefuses]
            exact served_giveUp h ((oneRecord_iff hs).mp (hok t ht hrefuses))
          · exact served_of_not_refuses h ht hrefuses

/-- A call that gives up without its rows leaves the dashboard without them. -/
theorem not_oneRecordEach_step (hs : s.Unique) {e : BridgeEvent}
    (hbad : ¬ s.RefusesMirrored lower e) : ¬ (s.step lower e).OneRecordEach := by
  cases e with
  | call tx c => exact absurd trivial hbad
  | advance tx id now refetched =>
      simp only [RefusesMirrored, not_forall] at hbad
      obtain ⟨t, ht, hrefuses, hone⟩ := hbad
      intro hall
      have hunique := unique_step lower (.advance tx id now refetched) hs
      rw [step_of_refuses ht hrefuses] at hall hunique
      have hgiven := hall (t.call, t.routerId) (List.mem_append_right _ (List.mem_singleton_self _))
      obtain ⟨userId, hu, hsub, hpay⟩ := (oneRecord_iff hunique).mp hgiven
      refine hone ((oneRecord_iff hs).mpr ⟨userId, hu.of_rollback, hsub.of_rollback, ?_⟩)
      intro ha hr
      exact (hpay ha hr).of_rollback

/-- **The bridge leaves one record per purchase exactly if every call whose insert is refused finds
its rows there already.**  A username taken in another organization, an address taken by another
user, a reference that is the number of another payment, and a subscription that an overlapping call
has just inserted all refuse an insert, and then whatever the call was to record is missing. -/
theorem bridge_one_record_iff (lower : String → String) {s : Dashboard} (hs : s.AtRest)
    (es : List BridgeEvent) :
    Always (step lower) OneRecordEach s es ↔ Along (step lower) (RefusesMirrored lower) s es := by
  refine always_iff_along_invariant (G := fun s => s.Unique ∧ s.Served) ?_ ?_ ?_
    ⟨hs.unique, hs.served⟩
  · rintro s ⟨hu, hv⟩ x hx
    exact (oneRecord_iff hu).mpr (hv.returned x hx)
  · rintro s e ⟨hu, hv⟩ hok
    exact ⟨unique_step lower e hu, served_step hu hv hok⟩
  · rintro s e ⟨hu, -⟩ hbad
    exact not_oneRecordEach_step hu hbad

/-- Lower case of ASCII letters. -/
def asciiLower (s : String) : String := String.ofList (s.toList.map Char.toLower)

/-- Two organizations with a router each, and the customer `254700000001` of the first. -/
def twoOrganizations : Dashboard where
  routers := [⟨1, some 1, true⟩, ⟨2, some 2, true⟩]
  users := [⟨⟨1, some 1, "254700000001", "254700000001@hotspot.acme.local"⟩, none⟩]
  subscriptions := []
  payments := []
  tasks := fun _ => none
  returned := []

/-- A purchase of the customer. -/
def purchaseOf (reference : String) : BridgeCall :=
  ⟨1, "acme", 1, "254700000001", hours 1, some 100, some reference, false⟩

/-- The four statements of a call. -/
def completes (tx id : ℕ) : List BridgeEvent := List.replicate 4 (.advance tx id 0 true)

theorem twoOrganizations_atRest : twoOrganizations.AtRest := by
  refine ⟨by decide, by decide, by decide, ?_, by decide, fun _ => rfl, rfl⟩
  intro c
  exact Nat.zero_le 1

/-- A purchase, its redelivery, and another purchase of the same customer. -/
theorem bridge_one_record_repeated :
    Always (step asciiLower) OneRecordEach twoOrganizations
      (.call 0 (purchaseOf "R1") :: completes 0 2 ++ .call 0 (purchaseOf "R1") :: completes 0 3 ++
        .call 0 (purchaseOf "R2") :: completes 0 4) :=
  (bridge_one_record_iff asciiLower twoOrganizations_atRest _).mpr (by decide)

/-- A purchase under the same username in the other organization; two overlapping purchases of one
customer; and two usernames that differ in case. -/
theorem bridge_records_missing :
    ¬ Always (step asciiLower) OneRecordEach twoOrganizations
        (.call 0 { purchaseOf "R1" with organizationId := 2, slug := "globex" } :: completes 0 2) ∧
      ¬ Always (step asciiLower) OneRecordEach twoOrganizations
        ([.call 0 (purchaseOf "R1"), .call 1 (purchaseOf "R2"), .advance 0 2 0 true,
          .advance 1 3 0 true] ++ List.replicate 3 (.advance 0 2 0 true) ++
          [.advance 1 3 0 true]) ∧
      ¬ Always (step asciiLower) OneRecordEach twoOrganizations
        (.call 0 { purchaseOf "R1" with hotspotUsername := "jane" } :: completes 0 2 ++
          .call 0 { purchaseOf "R2" with hotspotUsername := "Jane" } :: completes 0 3) := by
  decide

end Dashboard

end IspBilling
