import IspBilling.PythonText
import IspBilling.Traces
import IspBilling.TreasuryAnswers

/-! # Buying a package on the portal

`purchase_package` (`app/api/v1/portal/hotspot.py`) commits a pending purchase with a fresh reference,
asks the treasury for a payment intent under this reference, commits the id of the intent, and hands the
customer the page where he pays.  Every call can fail or be late, and the backend can stop anywhere in
between.  The confirmation comes later, by an event (`PaidPurchases`) or by the poll
`get_payment_status`, which holds the row that it has read while it asks the treasury.

`Checkout` are the purchases, the intents of the treasury, and the requests and polls under way; its
steps cut the requests at their commits and calls.  The treasury is outside: it may give an intent any
status at any time. -/

namespace IspBilling

open Rows Runs

/-! ### The parties -/

/-- The organization that sells, as `resolve_provider_access` reads it. -/
structure Provider where
  id : ℕ
  suspended : Bool
  authTenantId : Option String
deriving DecidableEq, Repr

/-- `resolve_provider_access`, with the `access_status` that the subscriptions service answers: `none`
when it cannot be reached, and `some none` without a subscription. -/
def providerActive (o : Provider) (answer : Option (Option String)) : Bool :=
  if o.suspended then false
  else if o.authTenantId.getD "" = "" then true
  else
    match answer with
    | some (some access) =>
        decide (TreasuryIntent.lower (String.ofList (PythonText.strip access.toList)) ≠ "blocked")
    | _ => true

/-- A row of `service_plans`, as the portal sells it; the price is in cents. -/
structure SoldPlan where
  id : ℕ
  organizationId : ℕ
  active : Bool
  price : ℤ
deriving DecidableEq, Repr

/-- A row of `customer_purchases` with its `payment_reference`. -/
structure PortalPurchase extends CustomerPurchase where
  paymentReference : String
deriving DecidableEq, Repr

inductive IntentState where
  | pending | succeeded | failed
deriving DecidableEq, Repr

/-- Its `status`. -/
def IntentState.text : IntentState → String
  | .pending => "pending"
  | .succeeded => "succeeded"
  | .failed => "failed"

/-- What the poll makes of the status, which the treasury writes under `Status`. -/
def IntentState.answer (state : IntentState) : TreasuryAnswer :=
  TreasuryIntent.hotspotAnswer ⟨none, some (.str state.text)⟩

/-- A payment intent; `purchaseId` is in its metadata. -/
structure Intent where
  id : String
  referenceId : String
  amount : ℤ
  purchaseId : Option ℕ
  state : IntentState
deriving DecidableEq, Repr

/-- The intent is the one of the purchase. -/
structure Intent.Of (i : Intent) (p : PortalPurchase) : Prop where
  reference : i.referenceId = p.paymentReference
  purchase : i.purchaseId = some p.id
  amount : i.amount = p.amount

instance (i : Intent) (p : PortalPurchase) : Decidable (i.Of p) :=
  decidable_of_iff (i.referenceId = p.paymentReference ∧ i.purchaseId = some p.id ∧ i.amount = p.amount)
    ⟨fun h => ⟨h.1, h.2.1, h.2.2⟩, fun h => ⟨h.1, h.2, h.3⟩⟩

/-- A request of `purchase_package` that has committed its purchase. -/
structure CheckoutRequest where
  purchase : PortalPurchase
  closed : Bool
deriving DecidableEq, Repr

/-- A poll that waits for the treasury, or has its answer. -/
structure PurchasePoll where
  purchase : PortalPurchase
  answer : Option TreasuryAnswer
deriving DecidableEq, Repr

/-- The purchases, the intents, and what is under way. -/
structure Checkout where
  purchases : List PortalPurchase
  intents : List Intent
  request : ℕ → Option CheckoutRequest
  poll : ℕ → Option PurchasePoll

inductive CheckoutEvent where
  | purchase (r : ℕ) (provider : Provider) (access : Option (Option String)) (plan : SoldPlan) (id : ℕ)
      (reference : String)
  /-- The call for an intent arrives at the treasury. -/
  | arrive (r : ℕ) (intentId : String)
  /-- The answer of the treasury arrives at the request. -/
  | respond (r : ℕ)
  /-- The call fails for the request, or its answer is none. -/
  | refuse (r : ℕ)
  | crash (r : ℕ)
  /-- An intent of another product. -/
  | foreign (intentId reference : String) (amount : ℤ)
  /-- The treasury gives an intent a status. -/
  | settle (intentId : String) (state : IntentState)
  | ask (k organizationId : ℕ) (reference : String)
  | answer (k : ℕ)
  | conclude (k : ℕ) (now : ℤ)
  /-- The poll fails, or its call does. -/
  | drop (k : ℕ)
  | webhook (organizationId : ℕ) (reference : String) (success : Bool) (now : ℤ)
deriving DecidableEq, Repr

/-- The columns that `_process_successful_payment` commits in any case, over the row as it is then. -/
def PortalPurchase.complete (loaded : PortalPurchase) (now : ℤ) (row : PortalPurchase) : PortalPurchase :=
  { row with
    paymentStatus := writeColumn loaded.paymentStatus .completed row.paymentStatus
    completedAt := writeColumn loaded.completedAt (some now) row.completedAt }

/-- The commit of a failure. -/
def PortalPurchase.fail (loaded row : PortalPurchase) : PortalPurchase :=
  { row with paymentStatus := writeColumn loaded.paymentStatus .failed row.paymentStatus }

/-- The commit of the id of the intent. -/
def PortalPurchase.process (loaded : PortalPurchase) (intentId : String) (row : PortalPurchase) :
    PortalPurchase :=
  { row with
    paymentStatus := writeColumn loaded.paymentStatus .processing row.paymentStatus
    treasuryPaymentIntentId :=
      writeColumn loaded.treasuryPaymentIntentId (some intentId) row.treasuryPaymentIntentId }

namespace Checkout

/-- Rewrite the purchase with an id. -/
def setRow (s : Checkout) (id : ℕ) (f : PortalPurchase → PortalPurchase) : Checkout :=
  { s with purchases := updateWhere (fun p => decide (p.id = id)) f s.purchases }

def setRequest (s : Checkout) (r : ℕ) (x : CheckoutRequest) : Checkout :=
  { s with request := Function.update s.request r (some x) }

def setPoll (s : Checkout) (k : ℕ) (y : Option PurchasePoll) : Checkout :=
  { s with poll := Function.update s.poll k y }

/-- The purchase with a reference in an organization; several raise. -/
def purchaseOf (s : Checkout) (organizationId : ℕ) (reference : String) : Option PortalPurchase :=
  scalarOne (s.purchases.filter fun p =>
    decide (p.paymentReference = reference ∧ p.organizationId = organizationId))

/-- The first commit of `_purchase_via_treasury`. -/
def newPurchase (plan : SoldPlan) (provider : Provider) (id : ℕ) (reference : String) : PortalPurchase where
  id := id
  organizationId := provider.id
  planId := plan.id
  amount := plan.price
  paymentStatus := .pending
  treasuryPaymentIntentId := none
  voucherCodeId := none
  completedAt := none
  paymentReference := reference

/-- The second commit: the answer of the treasury names an intent, or nothing that counts. -/
def respondTo (s : Checkout) (r : ℕ) (x : CheckoutRequest) (i : Intent) : Checkout :=
  (s.setRow x.purchase.id
    (if i.id = "" then x.purchase.fail else x.purchase.process i.id)).setRequest r { x with closed := true }

/-- What the poll does with an answer. -/
def concludeWith (s : Checkout) (k : ℕ) (p : PortalPurchase) (answer : TreasuryAnswer) (now : ℤ) : Checkout :=
  match answer with
  | .succeeded => (s.setRow p.id (p.complete now)).setPoll k none
  | .failed => (s.setRow p.id p.fail).setPoll k none
  | .other => s.setPoll k none

def step (s : Checkout) : CheckoutEvent → Checkout
  | .purchase r provider access plan id reference =>
      -- 403, 404, or the id is not the next one
      if s.request r = none ∧ providerActive provider access = true ∧ plan.organizationId = provider.id ∧
          plan.active = true ∧ id ∉ s.purchases.map fun p => p.id then
        let p := newPurchase plan provider id reference
        { s with purchases := s.purchases ++ [p] }.setRequest r ⟨p, false⟩
      else s
  | .arrive r intentId =>
      match s.request r with
      | none => s
      | some x =>
          -- the request calls once
          if intentId ∉ s.intents.map Intent.id ∧
              x.purchase.paymentReference ∉ s.intents.map Intent.referenceId then
            { s with
              intents := s.intents ++
                [⟨intentId, x.purchase.paymentReference, x.purchase.amount, some x.purchase.id, .pending⟩] }
          else s
  | .respond r =>
      match s.request r with
      | none => s
      | some x =>
          if x.closed = true then s
          else
            match s.intents.find? fun i => decide (i.referenceId = x.purchase.paymentReference) with
            | none => s
            | some i => s.respondTo r x i
  | .refuse r =>
      match s.request r with
      | none => s
      | some x =>
          if x.closed = true then s
          else (s.setRow x.purchase.id x.purchase.fail).setRequest r { x with closed := true }
  | .crash r =>
      match s.request r with
      | none => s
      | some x => s.setRequest r { x with closed := true }
  | .foreign intentId reference amount =>
      if intentId ∉ s.intents.map Intent.id then
        { s with intents := s.intents ++ [⟨intentId, reference, amount, none, .pending⟩] }
      else s
  | .settle intentId state =>
      { s with
        intents := updateWhere (fun i => decide (i.id = intentId)) (fun i => { i with state := state })
          s.intents }
  | .ask k organizationId reference =>
      match s.purchaseOf organizationId reference with
      | none => s
      | some p =>
          if p.paymentStatus = .processing ∧ p.treasuryPaymentIntentId.getD "" ≠ "" then
            s.setPoll k (some ⟨p, none⟩)
          else s
  | .answer k =>
      match s.poll k with
      | none => s
      | some y =>
          match s.intents.find? fun i => decide (some i.id = y.purchase.treasuryPaymentIntentId) with
          | none => s
          | some i => s.setPoll k (some { y with answer := some i.state.answer })
  | .conclude k now =>
      match s.poll k with
      | some ⟨p, some answer⟩ => s.concludeWith k p answer now
      | _ => s
  | .drop k => s.setPoll k none
  | .webhook organizationId reference success now =>
      match s.purchaseOf organizationId reference with
      | none => s
      | some p => s.setRow p.id (if success then p.complete now else p.fail)

end Checkout
end IspBilling
