import IspBilling.DocumentNumbers
import IspBilling.Ledger
import IspBilling.Subscription

/-! # The billing cycle

`generate_billing_cycle_invoices` (`app/modules/billing/service.py`) goes through the ACTIVE
subscriptions with automatic renewal and lets `generate_subscription_invoice` bill those that have no
open or paid invoice.

The plan of a subscription is read with `self.db.get(subscription.plan_id, subscription.plan_id)`,
where every other call of the service passes the mapped class first.  What `AsyncSession.get` does with
a number in the place of the class is a parameter of the model (`sessionGet`); it refuses it
(`RefusesNumbers`), so no subscription is ever billed (`cycle_keeps`). -/

namespace IspBilling

open Runs Rows

/-! ### The tables -/

/-- The columns of `subscriptions` that the cycle reads. -/
structure CycleSubscription where
  id : ℕ
  userId : ℕ
  planId : ℕ
  organizationId : Option ℕ
  status : SubscriptionStatus
  isAutoRenewal : Bool
  startDate : ℤ
  endDate : ℤ
deriving DecidableEq, Repr

/-- The columns of `service_plans` that the cycle reads; the price is in cents. -/
structure CyclePlan where
  name : String
  price : ℤ
  billingCycle : String
deriving DecidableEq, Repr

/-- A row of `invoices`, the amounts in cents. -/
structure CycleInvoice where
  id : ℕ
  userId : ℕ
  subscriptionId : Option ℕ
  invoiceNumber : String
  status : InvoiceStatus
  subtotal : ℤ
  taxAmount : ℤ
  discountAmount : ℤ
  totalAmount : ℤ
  balance : ℤ
  issueDate : ℤ
  dueDate : ℤ
  billingPeriodStart : Option ℤ
  billingPeriodEnd : Option ℤ
  notes : Option String
deriving DecidableEq, Repr

/-- A row of `invoice_items`. -/
structure CycleItem where
  invoiceId : ℕ
  description : String
  quantity : ℤ
  unitPrice : ℤ
  totalPrice : ℤ
  itemType : String
deriving DecidableEq, Repr

structure CycleTables where
  subscriptions : Table CycleSubscription.id
  /-- The identifiers of the users. -/
  users : List ℕ
  invoices : List CycleInvoice
  items : List CycleItem
  nextInvoiceId : ℕ

/-! ### Creating an invoice -/

/-- What a statement of the session raises. -/
inductive CycleError where
  /-- `AsyncSession.get` refuses its first argument. -/
  | notMapped (message : String)
  /-- The number is taken; the session must be rolled back before it is used again. -/
  | integrity
  | pendingRollback
  | multipleResults
deriving DecidableEq, Repr

/-- `str(e)`. -/
def CycleError.text : CycleError → String
  | .notMapped message => message
  | .integrity => "UNIQUE constraint failed: invoices.invoice_number"
  | .pendingRollback => "This Session's transaction has been rolled back due to a previous exception"
  | .multipleResults => "Multiple rows were found when one or none was required"

/-- The row that `create_invoice` inserts, without tax and discount. -/
def CycleTables.newInvoice (db : CycleTables) (now : ℤ) (number : String) (s : CycleSubscription)
    (plan : CyclePlan) : CycleInvoice where
  id := db.nextInvoiceId
  userId := s.userId
  subscriptionId := some s.id
  invoiceNumber := number
  status := .draft
  subtotal := plan.price
  taxAmount := 0
  discountAmount := 0
  totalAmount := plan.price
  balance := plan.price
  issueDate := now
  dueDate := now + days 30
  billingPeriodStart := some s.startDate
  billingPeriodEnd := some s.endDate
  notes := some ("Subscription invoice for " ++ plan.name)

/-- `create_invoice` with the item of `generate_subscription_invoice`, for a user and a subscription
that exist and belong together.  The item has the price of the plan, so the totals stay. -/
def CycleTables.createInvoice (db : CycleTables) (now : ℤ) (yearMonth : String)
    (s : CycleSubscription) (plan : CyclePlan) : Except CycleError CycleTables :=
  let numbers := db.invoices.map CycleInvoice.invoiceNumber
  let number := (generateNumber (DocumentKind.invoice.monthFront yearMonth) numbers).2
  if number ∈ numbers then .error .integrity
  else .ok { db with
    invoices := db.invoices ++ [db.newInvoice now number s plan]
    items := db.items ++ [{
      invoiceId := db.nextInvoiceId, description := plan.name ++ " - " ++ plan.billingCycle
      quantity := 1, unitPrice := plan.price, totalPrice := plan.price, itemType := "subscription" }]
    nextInvoiceId := db.nextInvoiceId + 1 }

section Cycle

-- `AsyncSession.get(entity, ident)` with a number for `entity`.
variable (sessionGet : ℕ → ℕ → Except CycleError (Option CyclePlan))

/-- `generate_subscription_invoice`; without a subscription, a user or a plan it returns `None`. -/
def generateSubscriptionInvoice (now : ℤ) (yearMonth : String) (subscriptionId : ℕ)
    (db : CycleTables) : Except CycleError CycleTables :=
  match db.subscriptions.get subscriptionId with
  | none => .ok db
  | some s =>
      if s.userId ∉ db.users then .ok db
      else
        match sessionGet s.planId s.planId with
        | .error e => .error e
        | .ok none => .ok db
        | .ok (some plan) => db.createInvoice now yearMonth s plan

/-! ### The pass -/

structure CyclePass where
  db : CycleTables
  /-- The session must be rolled back. -/
  broken : Bool
  invoicesCreated : ℕ
  errors : List String

/-- The invoices of a subscription that keep it from being billed. -/
def billedInvoices (subscriptionId : ℕ) (db : CycleTables) : List CycleInvoice :=
  db.invoices.filter fun inv => decide (inv.subscriptionId = some subscriptionId) &&
    decide (inv.status ∈ [InvoiceStatus.draft, .pending, .paid])

/-- What a turn of the loop raises or does. -/
def billSubscription (now : ℤ) (yearMonth : String) (s : CycleSubscription) (db : CycleTables) :
    Except CycleError (Option CycleTables) :=
  match oneOrNone (billedInvoices s.id db) with
  | none => .error .multipleResults
  | some (some _) => .ok none
  | some none =>
      match generateSubscriptionInvoice sessionGet now yearMonth s.id db with
      | .error e => .error e
      | .ok db => .ok (some db)

def cycleTurn (now : ℤ) (yearMonth : String) (pass : CyclePass) (s : CycleSubscription) :
    CyclePass :=
  let failed := fun (e : CycleError) => { pass with
    broken := pass.broken || decide (e = .integrity)
    errors := pass.errors ++ ["Subscription " ++ toString s.id ++ ": " ++ e.text] }
  if pass.broken then failed .pendingRollback
  else
    match billSubscription sessionGet now yearMonth s pass.db with
    | .error e => failed e
    | .ok none => pass
    | .ok (some db) => { pass with db := db, invoicesCreated := pass.invoicesCreated + 1 }

/-- The subscriptions of a pass. -/
def CycleSubscription.Due (organizationId : Option ℕ) (s : CycleSubscription) : Prop :=
  s.status = .active ∧ s.isAutoRenewal = true ∧ ∀ org ∈ organizationId, s.organizationId = some org

instance (organizationId : Option ℕ) : DecidablePred (CycleSubscription.Due organizationId) :=
  fun s => inferInstanceAs (Decidable (s.status = .active ∧ s.isAutoRenewal = true ∧
    ∀ org ∈ organizationId, s.organizationId = some org))

/-- A run of `generate_billing_cycle_invoices`: its clock, the month of that and the organization of
the service. -/
structure CycleRun where
  now : ℤ
  yearMonth : String
  organizationId : Option ℕ
deriving DecidableEq, Repr

/-- `generate_billing_cycle_invoices`. -/
def generateBillingCycleInvoices (run : CycleRun) (db : CycleTables) : CyclePass :=
  (db.subscriptions.rows.filter fun s => decide (s.Due run.organizationId)).foldl
    (cycleTurn sessionGet run.now run.yearMonth) ⟨db, false, 0, []⟩

/-- The tables after a run. -/
def cycleStep (db : CycleTables) (run : CycleRun) : CycleTables :=
  (generateBillingCycleInvoices sessionGet run db).db

end Cycle

/-! ### What is meant to hold -/

/-- The invoices of a subscription for its current period, without the cancelled ones. -/
def periodInvoices (s : CycleSubscription) (db : CycleTables) : List CycleInvoice :=
  db.invoices.filter fun inv => decide (inv.subscriptionId = some s.id ∧ inv.status ≠ .cancelled ∧
    inv.billingPeriodStart = some s.startDate ∧ inv.billingPeriodEnd = some s.endDate)

/-- Each subscription of the pass has one invoice for its current period. -/
def BilledOnce (organizationId : Option ℕ) (db : CycleTables) : Prop :=
  ∀ s ∈ db.subscriptions.rows, s.Due organizationId → (periodInvoices s db).length = 1

/-- The tables with one subscription only. -/
def CycleTables.only (db : CycleTables) (s : CycleSubscription) : CycleTables :=
  { db with subscriptions := ⟨[s], by simp [Keyed]⟩ }

/-- `AsyncSession.get` raises for a number in the place of a mapped class. -/
def RefusesNumbers (sessionGet : ℕ → ℕ → Except CycleError (Option CyclePlan)) : Prop :=
  ∀ entity ident, ∃ message, sessionGet entity ident = .error (.notMapped message)

section Results

variable {sessionGet : ℕ → ℕ → Except CycleError (Option CyclePlan)}

/-- A subscription is either left alone or its turn raises. -/
theorem generateSubscriptionInvoice_keeps (hget : RefusesNumbers sessionGet) {now : ℤ}
    {yearMonth : String} {subscriptionId : ℕ} {db db' : CycleTables}
    (h : generateSubscriptionInvoice sessionGet now yearMonth subscriptionId db = .ok db') :
    db' = db := by
  unfold generateSubscriptionInvoice at h
  split at h
  · exact (Except.ok.inj h).symm
  · next s _ =>
      split at h
      · exact (Except.ok.inj h).symm
      · obtain ⟨message, hmessage⟩ := hget s.planId s.planId
        rw [hmessage] at h
        cases h

theorem cycleTurn_keeps (hget : RefusesNumbers sessionGet) {now : ℤ} {yearMonth : String}
    (pass : CyclePass) (s : CycleSubscription) :
    (cycleTurn sessionGet now yearMonth pass s).db = pass.db := by
  unfold cycleTurn
  dsimp only
  split
  · rfl
  · cases hbill : billSubscription sessionGet now yearMonth s pass.db with
    | error e => rfl
    | ok outcome =>
        cases outcome with
        | none => rfl
        | some db =>
            unfold billSubscription at hbill
            split at hbill
            · cases hbill
            · cases hbill
            · split at hbill
              · cases hbill
              · next hmade =>
                  obtain rfl := Option.some.inj (Except.ok.inj hbill)
                  exact generateSubscriptionInvoice_keeps hget hmade

theorem cycle_keeps (hget : RefusesNumbers sessionGet) (db : CycleTables) (run : CycleRun) :
    cycleStep sessionGet db run = db := by
  have hloop : ∀ (l : List CycleSubscription) (pass : CyclePass),
      (l.foldl (cycleTurn sessionGet run.now run.yearMonth) pass).db = pass.db := by
    intro l
    induction l with
    | nil => intro pass; rfl
    | cons s l ih =>
        intro pass
        rw [List.foldl_cons, ih, cycleTurn_keeps hget]
  exact hloop _ _

theorem cycles_keep (hget : RefusesNumbers sessionGet) (db : CycleTables) (runs : List CycleRun) :
    exec (cycleStep sessionGet) db runs = db :=
  exec_of_invariant (I := fun db' => db' = db)
    (fun db' run h => (cycle_keeps hget db' run).trans h) rfl runs

/-- Any number of runs leaves each subscription with one invoice for its period exactly when each has
one before, and what a run does for one subscription does not depend on the others. -/
theorem billing_cycle_iff (hget : RefusesNumbers sessionGet) (organizationId : Option ℕ)
    (db : CycleTables) (runs : List CycleRun) :
    (BilledOnce organizationId (exec (cycleStep sessionGet) db runs) ∧
      ∀ s ∈ db.subscriptions.rows, periodInvoices s (exec (cycleStep sessionGet) db runs) =
        periodInvoices s (exec (cycleStep sessionGet) (db.only s) runs)) ↔
      BilledOnce organizationId db := by
  have hisolated : ∀ s, periodInvoices s (exec (cycleStep sessionGet) db runs) =
      periodInvoices s (exec (cycleStep sessionGet) (db.only s) runs) := by
    intro s
    rw [cycles_keep hget, cycles_keep hget]
    rfl
  rw [cycles_keep hget]
  constructor
  · rintro ⟨hbilled, -⟩
    exact hbilled
  · intro hbilled
    refine ⟨hbilled, ?_⟩
    intro s _
    have h := hisolated s
    rwa [cycles_keep hget db] at h

end Results

/-- `AsyncSession.get` of SQLAlchemy. -/
def refusingGet : ℕ → ℕ → Except CycleError (Option CyclePlan) :=
  fun _ _ => .error (.notMapped "No inspection system is available for object of type <class 'int'>")

/-- One active subscription that is renewed automatically, with its user. -/
def oneDue : CycleTables where
  subscriptions := ⟨[⟨1, 1, 1, none, .active, true, 0, days 30⟩], by decide⟩
  users := [1]
  invoices := []
  items := []
  nextInvoiceId := 1

/-- The same with an invoice for the period. -/
def oneBilled : CycleTables :=
  { oneDue with invoices := [⟨1, 1, some 1, "INV-202601-0001", .pending, 100, 0, 0, 100, 100, 0,
      days 30, some 0, some (days 30), none⟩] }

theorem billing_cycle_oneBilled :
    BilledOnce none (exec (cycleStep refusingGet) oneBilled [⟨0, "202601", none⟩]) :=
  ((billing_cycle_iff (fun _ _ => ⟨_, rfl⟩) none oneBilled [⟨0, "202601", none⟩]).mpr
    (by unfold BilledOnce; decide)).1

/-- A subscription without an invoice stays without one, and the run reports an error. -/
theorem oneDue_never_billed :
    (generateBillingCycleInvoices refusingGet ⟨0, "202601", none⟩ oneDue).errors =
      ["Subscription 1: No inspection system is available for object of type <class 'int'>"] ∧
    ¬ BilledOnce none (exec (cycleStep refusingGet) oneDue [⟨0, "202601", none⟩]) := by
  constructor
  · decide
  · unfold BilledOnce
    decide

end IspBilling
