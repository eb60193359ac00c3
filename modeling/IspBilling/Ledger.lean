import IspBilling.Rows
import IspBilling.Runs

/-! # The invoice ledger

Payments, invoices and gateway transactions (`app/models/billing.py`,
`app/models/payment_gateway.py`) under the operations that credit an invoice: `create_payment`,
`handle_mpesa_callback` and `_process_paystack_success` (`app/modules/billing/service.py`),
`verify_payment`, `bulk_verify_payments` and `bulk_update_payment_status`
(`app/modules/billing/payments.py`) and the task `process_payment`
(`app/tasks/billing_tasks.py`).  Amounts are in cents.

`Ledger.Balanced` is the meaning of `paid_amount`: the total of the linked payments that are
`COMPLETED` or `CHECKED`.  Every operation is of one of two shapes.  It inserts a payment and
credits it if it counts (`insert`), which keeps the balance; or it gives some payments a new
status and credits them or not (`post`), which keeps the balance exactly when what it credits
is what the change of status is worth (`balanced_post_iff`).  `Admissible` reads this condition
off every operation, and `balanced_always_iff` is the exact statement about runs. -/

namespace IspBilling

open Rows Runs

/-- `PaymentStatus`. -/
inductive PaymentStatus where
  | pending
  | completed
  | failed
  | cancelled
  | refunded
  | checked
  | unchecked
deriving DecidableEq, Repr

def PaymentStatus.Counted (s : PaymentStatus) : Prop := s = .completed ∨ s = .checked

instance : DecidablePred PaymentStatus.Counted :=
  fun s => inferInstanceAs (Decidable (s = .completed ∨ s = .checked))

/-- `PaymentMethod`. -/
inductive PaymentMethod where
  | mpesa
  | bankTransfer
  | cash
  | card
  | other
deriving DecidableEq, Repr

/-- `InvoiceStatus`. -/
inductive InvoiceStatus where
  | draft
  | pending
  | paid
  | overdue
  | cancelled
  | refunded
deriving DecidableEq, Repr

/-- A row of `payments`. -/
structure Payment where
  id : ℕ
  invoiceId : Option ℕ
  amount : ℕ
  paymentMethod : PaymentMethod
  status : PaymentStatus
  referenceNumber : Option String
  isManualPayment : Bool
deriving DecidableEq, Repr

/-- A row of `invoices`. -/
structure Invoice where
  id : ℕ
  subscriptionId : Option ℕ
  totalAmount : ℤ
  paidAmount : ℕ
  balance : ℤ
  status : InvoiceStatus
deriving DecidableEq, Repr

/-- A row of `payment_transactions`; the customer may be unknown. -/
structure PaymentTransaction where
  transactionReference : String
  userId : Option ℕ
  invoiceId : Option ℕ
  subscriptionId : Option ℕ
  status : String
deriving DecidableEq, Repr

/-- The tables of the ledger, and the subscriptions whose activation was asked for. -/
structure Ledger where
  payments : List Payment
  invoices : List Invoice
  transactions : List PaymentTransaction
  activated : List ℕ
deriving DecidableEq, Repr

/-- Credit an invoice: the amount is added, the balance recomputed, and a settled invoice is
marked as paid. -/
def Invoice.receive (amount : ℕ) (inv : Invoice) : Invoice :=
  let paidAmount := inv.paidAmount + amount
  let balance := inv.totalAmount - paidAmount
  { inv with
    paidAmount := paidAmount
    balance := balance
    status := if balance ≤ 0 then .paid else inv.status }

/-- The credit of one payment, if it is linked. -/
def creditInvoice (invoices : List Invoice) (p : Payment) : List Invoice :=
  match p.invoiceId with
  | none => invoices
  | some i => updateWhere (fun inv => decide (inv.id = i)) (Invoice.receive p.amount) invoices

/-- Cash, bank transfers and manual reconciliations are recorded after the money came in. -/
def isOffline (isManual : Bool) (method : PaymentMethod) : Bool :=
  isManual || decide (method = .cash ∨ method = .bankTransfer)

/-- The row that `create_payment` adds. -/
def createdPayment (id amount : ℕ) (method : PaymentMethod) (invoiceId : Option ℕ)
    (referenceNumber : Option String) (isManual : Bool) : Payment where
  id := id
  invoiceId := invoiceId
  amount := amount
  paymentMethod := method
  status := if isOffline isManual method = true then .completed else .pending
  referenceNumber := referenceNumber
  isManualPayment := isOffline isManual method

theorem createdPayment_counted_iff {id amount : ℕ} {method : PaymentMethod} {invoiceId : Option ℕ}
    {ref : Option String} {isManual : Bool} :
    (createdPayment id amount method invoiceId ref isManual).status.Counted ↔
      isOffline isManual method = true := by
  by_cases h : isOffline isManual method = true
  · simp [createdPayment, PaymentStatus.Counted, h]
  · simp [createdPayment, PaymentStatus.Counted, h]

/-- The answer of `MpesaService.handle_payment_callback`.  The class has no such method at
present: the call raises, and the answer is `none` below. -/
structure MpesaAnswer where
  success : Bool
  paymentSuccessful : Bool
  checkoutRequestId : Option String
deriving DecidableEq, Repr

namespace Ledger

/-- `_apply_payment_to_invoice`, with the activation of a settled invoice's subscription. -/
def applyPaymentToInvoice (invoiceId amount : ℕ) (s : Ledger) : Ledger :=
  match s.invoices.find? (fun inv => decide (inv.id = invoiceId)) with
  | none => s
  | some inv =>
      { s with
        invoices := updateWhere (fun inv => decide (inv.id = invoiceId)) (Invoice.receive amount)
          s.invoices
        activated := if (inv.receive amount).balance ≤ 0 then s.activated ++ inv.subscriptionId.toList
          else s.activated }

/-- The credit of a payment through `_apply_payment_to_invoice`, if it is linked. -/
def applyPayment (p : Payment) (s : Ledger) : Ledger :=
  match p.invoiceId with
  | none => s
  | some i => s.applyPaymentToInvoice i p.amount

/-- `payment.status = status` for the rows `q`. -/
def setStatus (q : Payment → Bool) (status : PaymentStatus) (s : Ledger) : Ledger :=
  { s with payments := updateWhere q (fun p => { p with status := status }) s.payments }

/-- `create_payment`: the row is added, and credited at once when it is received offline.  A
taken identifier or an unknown invoice violates a key, and the insert fails. -/
def createPayment (id amount : ℕ) (method : PaymentMethod) (invoiceId : Option ℕ)
    (referenceNumber : Option String) (isManual : Bool) (s : Ledger) : Ledger :=
  if id ∈ s.payments.map Payment.id ∨ ∃ i ∈ invoiceId, i ∉ s.invoices.map Invoice.id then s
  else
    let p := createdPayment id amount method invoiceId referenceNumber isManual
    let s := { s with payments := s.payments ++ [p] }
    if isOffline isManual method = true then s.applyPayment p else s

/-- `verify_payment`. -/
def verifyPayment (id : ℕ) (status : PaymentStatus) (s : Ledger) : Ledger :=
  match s.payments.find? (fun p => decide (p.id = id)) with
  | none => s
  | some p =>
      let s := s.setStatus (fun p => decide (p.id = id)) status
      if status = .checked then s.applyPayment p else s

/-- `bulk_verify_payments`. -/
def bulkVerifyPayments (ids : List ℕ) (status : PaymentStatus) (s : Ledger) : Ledger :=
  ids.foldl (fun s id => s.verifyPayment id status) s

/-- The rows that `bulk_update_payment_status` finds. -/
def listedPayments (ids : List ℕ) (s : Ledger) : List Payment :=
  s.payments.filter (fun p => decide (p.id ∈ ids))

/-- `bulk_update_payment_status`: it raises unless every listed identifier brings a row of its
own, and unlike the others it activates no subscription. -/
def bulkUpdatePaymentStatus (ids : List ℕ) (status : PaymentStatus) (s : Ledger) : Ledger :=
  let payments := s.listedPayments ids
  if payments.length ≠ ids.length then s
  else
    let s := s.setStatus (fun p => decide (p.id ∈ ids)) status
    if status = .checked then { s with invoices := payments.foldl creditInvoice s.invoices } else s

/-- The task `process_payment`. -/
def processPayment (id : ℕ) (s : Ledger) : Ledger :=
  match s.payments.find? (fun p => decide (p.id = id)) with
  | none => s
  | some p => (s.setStatus (fun p => decide (p.id = id)) .completed).applyPayment p

/-- The payment that a callback confirms; the query raises when several payments share the
reference. -/
def confirmedPayment (answer : Option MpesaAnswer) (s : Ledger) : Option Payment :=
  match answer with
  | some ⟨true, true, some checkoutRequestId⟩ =>
      if checkoutRequestId = "" then none
      else
        match s.payments.filter (fun p => decide (p.referenceNumber = some checkoutRequestId)) with
        | [p] => some p
        | _ => none
  | _ => none

/-- `handle_mpesa_callback`. -/
def handleMpesaCallback (answer : Option MpesaAnswer) (s : Ledger) : Ledger :=
  match s.confirmedPayment answer with
  | some p => (s.setStatus (fun x => decide (x.id = p.id)) .completed).applyPayment p
  | none => s

/-- `_process_paystack_success`, for the transaction the webhook names.  A payment needs a user: without
one the insert fails, and everything is rolled back. -/
def processPaystackSuccess (reference : String) (paymentId amount : ℕ) (s : Ledger) : Ledger :=
  match s.transactions.filter (fun t => decide (t.transactionReference = reference)) with
  | [t] =>
      let p : Payment := {
        id := paymentId, invoiceId := t.invoiceId, amount := amount, paymentMethod := .card
        status := .completed, referenceNumber := some reference, isManualPayment := false }
      if t.userId = none ∨ paymentId ∈ s.payments.map Payment.id then s
      else
        let s := { s with
          transactions := updateWhere (fun t => decide (t.transactionReference = reference))
            (fun t => { t with status := "completed" }) s.transactions
          payments := s.payments ++ [p] }
        let s := s.applyPayment p
        { s with activated := s.activated ++ t.subscriptionId.toList }
  | _ => s

inductive Operation where
  | createPayment (id amount : ℕ) (method : PaymentMethod) (invoiceId : Option ℕ)
      (referenceNumber : Option String) (isManual : Bool)
  | verifyPayment (id : ℕ) (status : PaymentStatus)
  | bulkUpdatePaymentStatus (ids : List ℕ) (status : PaymentStatus)
  | processPayment (id : ℕ)
  | handleMpesaCallback (answer : Option MpesaAnswer)
  | processPaystackSuccess (reference : String) (paymentId amount : ℕ)
deriving DecidableEq, Repr

def step (s : Ledger) : Operation → Ledger
  | .createPayment id amount method invoiceId ref isManual =>
      s.createPayment id amount method invoiceId ref isManual
  | .verifyPayment id status => s.verifyPayment id status
  | .bulkUpdatePaymentStatus ids status => s.bulkUpdatePaymentStatus ids status
  | .processPayment id => s.processPayment id
  | .handleMpesaCallback answer => s.handleMpesaCallback answer
  | .processPaystackSuccess ref paymentId amount => s.processPaystackSuccess ref paymentId amount

inductive Call where
  | single (op : Operation)
  | bulkVerifyPayments (ids : List ℕ) (status : PaymentStatus)
deriving DecidableEq, Repr

/-- The operations of a call: `bulk_verify_payments` commits after every payment. -/
def Call.operations : Call → List Operation
  | .single op => [op]
  | .bulkVerifyPayments ids status => ids.map (fun id => .verifyPayment id status)

def operationsOf (calls : List Call) : List Operation := calls.flatMap Call.operations

theorem exec_bulkVerifyPayments (s : Ledger) (ids : List ℕ) (status : PaymentStatus) :
    exec step s (Call.bulkVerifyPayments ids status).operations =
      s.bulkVerifyPayments ids status := by
  simp only [exec, Call.operations, bulkVerifyPayments, List.foldl_map]
  rfl

/-! ### The balance -/

/-- What a payment contributes to the invoice `i`. -/
def contribution (i : ℕ) (p : Payment) : ℕ :=
  if p.invoiceId = some i ∧ p.status.Counted then p.amount else 0

/-- The money received for the invoice `i`. -/
def settled (s : Ledger) (i : ℕ) : ℕ := (s.payments.map (contribution i)).sum

/-- Every invoice's `paid_amount` is the money received for it. -/
def Balanced (s : Ledger) : Prop := ∀ inv ∈ s.invoices, inv.paidAmount = s.settled inv.id

instance : DecidablePred Balanced := fun s =>
  inferInstanceAs (Decidable (∀ inv ∈ s.invoices, inv.paidAmount = s.settled inv.id))

/-- What a payment adds to the invoice `i` when it is credited. -/
def credit (i : ℕ) (p : Payment) : ℕ := if p.invoiceId = some i then p.amount else 0

/-- The identifiers and paid amounts of the invoices. -/
def paidAmounts (invoices : List Invoice) : List (ℕ × ℕ) :=
  invoices.map (fun inv => (inv.id, inv.paidAmount))

theorem paidAmounts_creditInvoice (p : Payment) (invoices : List Invoice) :
    paidAmounts (creditInvoice invoices p) =
      invoices.map (fun inv => (inv.id, inv.paidAmount + credit inv.id p)) := by
  unfold creditInvoice paidAmounts
  cases hp : p.invoiceId with
  | none => simp [credit, hp]
  | some i =>
      simp only [updateWhere, List.map_map]
      apply List.map_congr_left
      intro inv _
      by_cases h : inv.id = i
      · simp [h, credit, hp, Invoice.receive]
      · have hne : ¬ i = inv.id := fun heq => h heq.symm
        simp [h, hne, credit, hp]

theorem paidAmounts_foldl_creditInvoice (ps : List Payment) (invoices : List Invoice) :
    paidAmounts (ps.foldl creditInvoice invoices) =
      invoices.map (fun inv => (inv.id, inv.paidAmount + (ps.map (credit inv.id)).sum)) := by
  induction ps generalizing invoices with
  | nil => simp [paidAmounts]
  | cons p ps ih =>
      rw [List.foldl_cons, ih]
      have hone := paidAmounts_creditInvoice p invoices
      have hmap := congrArg (List.map
        (fun x : ℕ × ℕ => (x.1, x.2 + (ps.map (credit x.1)).sum))) hone
      simp only [paidAmounts, List.map_map, Function.comp_def] at hmap
      rw [hmap]
      simp only [List.map_cons, List.sum_cons, Nat.add_assoc]

theorem balanced_iff_of_paidAmounts {s t : Ledger} {g : ℕ → ℕ}
    (h : paidAmounts t.invoices = s.invoices.map (fun inv => (inv.id, inv.paidAmount + g inv.id))) :
    t.Balanced ↔ ∀ inv ∈ s.invoices, inv.paidAmount + g inv.id = t.settled inv.id := by
  have hpairs : t.Balanced ↔ ∀ x ∈ paidAmounts t.invoices, x.2 = t.settled x.1 := by
    simp only [paidAmounts, List.forall_mem_map]
    rfl
  rw [hpairs, h]
  simp only [List.forall_mem_map]

/-- The new status `status` of the payment `p` is worth what is credited for it. -/
def Worth (credited : Bool) (status : PaymentStatus) (p : Payment) : Prop :=
  p.amount = 0 ∨
    if credited = true then ¬ p.status.Counted else (status.Counted ↔ p.status.Counted)

instance (credited : Bool) (status : PaymentStatus) : DecidablePred (Worth credited status) :=
  fun p => inferInstanceAs (Decidable (p.amount = 0 ∨
    if credited = true then ¬ p.status.Counted else (status.Counted ↔ p.status.Counted)))

/-- What the invoice `i` holds for `p` after the posting: its old contribution and the credit. -/
def booked (q : Payment → Bool) (credited : Bool) (i : ℕ) (p : Payment) : ℕ :=
  contribution i p + if q p = true then (if credited = true then credit i p else 0) else 0

/-- What `p` contributes to the invoice `i` with its new status. -/
def due (q : Payment → Bool) (status : PaymentStatus) (i : ℕ) (p : Payment) : ℕ :=
  if q p = true then contribution i { p with status := status } else contribution i p

theorem booked_eq_due_iff {q : Payment → Bool} {credited : Bool} {status : PaymentStatus} {i : ℕ}
    {p : Payment} (hst : credited = true → status.Counted) :
    booked q credited i p = due q status i p ↔
      (q p = true → p.invoiceId = some i → Worth credited status p) := by
  unfold booked due contribution credit Worth
  by_cases hq : q p = true
  · by_cases hi : p.invoiceId = some i
    · cases credited with
      | true =>
          have hc := hst rfl
          by_cases hp : p.status.Counted <;> simp [hq, hi, hc, hp]
      | false =>
          by_cases hc : status.Counted <;> by_cases hp : p.status.Counted <;>
            simp [hq, hi, hc, hp, eq_comm]
    · simp [hq, hi]
  · simp [hq]

/-- A posting errs in one direction only, over all the payments it touches. -/
theorem booked_le_due_or (q : Payment → Bool) (credited : Bool) (status : PaymentStatus) (i : ℕ) :
    (∀ p, booked q credited i p ≤ due q status i p) ∨
      ∀ p, due q status i p ≤ booked q credited i p := by
  by_cases hc : credited = false ∧ status.Counted
  · left
    intro p
    unfold booked due contribution credit
    by_cases hq : q p = true
    · by_cases hi : p.invoiceId = some i
      · by_cases hp : p.status.Counted <;> simp [hq, hi, hc, hp]
      · simp [hq, hi]
    · simp [hq]
  · right
    intro p
    unfold booked due contribution credit
    by_cases hq : q p = true
    · by_cases hi : p.invoiceId = some i
      · cases credited with
        | true =>
            by_cases hs : status.Counted <;> by_cases hp : p.status.Counted <;>
              simp [hq, hi, hs, hp]
        | false =>
            have hs : ¬ status.Counted := fun h => hc ⟨rfl, h⟩
            simp [hq, hi, hs]
      · simp [hq, hi]
    · simp [hq]

/-- **Posting**: an operation that gives the payments `q` a new status, and credits them or not,
keeps the balance exactly when the new status of each is worth what is credited for it. -/
theorem balanced_post_iff {s t : Ledger} (q : Payment → Bool) (status : PaymentStatus)
    (credited : Bool) (hs : s.Balanced) (hst : credited = true → status.Counted)
    (hpay : t.payments = (s.setStatus q status).payments)
    (hinv : paidAmounts t.invoices = paidAmounts
      (if credited = true then (s.payments.filter q).foldl creditInvoice s.invoices else s.invoices)) :
    t.Balanced ↔ ∀ inv ∈ s.invoices, ∀ p ∈ s.payments, q p = true → p.invoiceId = some inv.id →
      Worth credited status p := by
  have hadd : paidAmounts t.invoices = s.invoices.map (fun inv => (inv.id, inv.paidAmount +
      (s.payments.map (fun p => if q p = true then
        (if credited = true then credit inv.id p else 0) else 0)).sum)) := by
    rw [hinv]
    cases credited with
    | true => simp only [if_true, paidAmounts_foldl_creditInvoice, sum_map_filter]
    | false => simp [paidAmounts]
  rw [balanced_iff_of_paidAmounts (g := fun i => (s.payments.map (fun p => if q p = true then
        (if credited = true then credit i p else 0) else 0)).sum) hadd]
  apply forall₂_congr
  intro inv hmem
  have hbooked : inv.paidAmount + (s.payments.map (fun p => if q p = true then
      (if credited = true then credit inv.id p else 0) else 0)).sum =
      (s.payments.map (booked q credited inv.id)).sum := by
    rw [hs inv hmem, settled, ← List.sum_map_add]
    rfl
  have hdue : t.settled inv.id = (s.payments.map (due q status inv.id)).sum := by
    rw [settled, hpay, setStatus, sum_map_updateWhere]
    rfl
  rw [hbooked, hdue]
  have hrows : (s.payments.map (booked q credited inv.id)).sum =
      (s.payments.map (due q status inv.id)).sum ↔
      ∀ p ∈ s.payments, booked q credited inv.id p = due q status inv.id p := by
    rcases booked_le_due_or q credited status inv.id with h | h
    · exact sum_map_eq_iff_of_le (fun p _ => h p)
    · rw [eq_comm, sum_map_eq_iff_of_le (fun p _ => h p)]
      exact forall₂_congr (fun p _ => eq_comm)
  rw [hrows]
  exact forall₂_congr (fun p _ => booked_eq_due_iff hst)

/-- **Insertion**: a new payment that is credited if and only if it counts keeps the balance. -/
theorem balanced_insert {s t : Ledger} {p : Payment} (hs : s.Balanced)
    (hpay : t.payments = s.payments ++ [p])
    (hinv : paidAmounts t.invoices =
      paidAmounts (if p.status.Counted then creditInvoice s.invoices p else s.invoices)) :
    t.Balanced := by
  have hadd : paidAmounts t.invoices =
      s.invoices.map (fun inv => (inv.id, inv.paidAmount + contribution inv.id p)) := by
    rw [hinv]
    by_cases hp : p.status.Counted
    · rw [if_pos hp, paidAmounts_creditInvoice]
      simp [contribution, credit, hp]
    · rw [if_neg hp]
      simp [contribution, hp, paidAmounts]
  rw [balanced_iff_of_paidAmounts (g := fun i => contribution i p) hadd]
  intro inv hmem
  rw [hs inv hmem, settled, settled, hpay]
  simp

/-! ### The operations as postings -/

@[simp] theorem applyPayment_payments (p : Payment) (s : Ledger) :
    (s.applyPayment p).payments = s.payments := by
  unfold applyPayment applyPaymentToInvoice
  split
  · rfl
  · split <;> rfl

@[simp] theorem applyPayment_transactions (p : Payment) (s : Ledger) :
    (s.applyPayment p).transactions = s.transactions := by
  unfold applyPayment applyPaymentToInvoice
  split
  · rfl
  · split <;> rfl

theorem applyPayment_invoices (p : Payment) (s : Ledger) :
    (s.applyPayment p).invoices = creditInvoice s.invoices p := by
  unfold applyPayment creditInvoice
  cases p.invoiceId with
  | none => rfl
  | some i =>
      simp only [applyPaymentToInvoice]
      split
      · rename_i hnone
        have hskip : ∀ inv ∈ s.invoices, ¬ inv.id = i := by
          intro inv hinv heq
          exact absurd (decide_eq_true heq) (List.find?_eq_none.mp hnone inv hinv)
        rw [updateWhere_eq_self fun inv hinv => decide_eq_false (hskip inv hinv)]
      · rfl

/-- The posting of a single payment `p`, credited through `_apply_payment_to_invoice`. -/
theorem balanced_applyPayment_iff {s : Ledger} (hk : Keyed Payment.id s.payments)
    (hs : s.Balanced) {p : Payment} (hp : p ∈ s.payments) {status : PaymentStatus}
    (hst : status.Counted) :
    ((s.setStatus (fun x => decide (x.id = p.id)) status).applyPayment p).Balanced ↔
      ∀ inv ∈ s.invoices, p.invoiceId = some inv.id → Worth true status p := by
  rw [balanced_post_iff (fun x => decide (x.id = p.id)) status true hs (fun _ => hst) (by simp)
    (by simp [applyPayment_invoices, setStatus, hk.filter_key hp])]
  simp only [decide_eq_true_eq, hk.forall_key_iff hp]

/-- The operation credits what it should: a payment that `verify_payment` or the bulk update
turns `CHECKED`, that `process_payment` processes or that a callback confirms does not count
yet, and any other new status counts exactly if the old one did.  Payments without invoice or
amount are free. -/
def Admissible (s : Ledger) : Operation → Prop
  | .createPayment .. => True
  | .verifyPayment id status => ∀ inv ∈ s.invoices, ∀ p ∈ s.payments, p.id = id →
      p.invoiceId = some inv.id → Worth (decide (status = .checked)) status p
  | .bulkUpdatePaymentStatus ids status => (s.listedPayments ids).length = ids.length →
      ∀ inv ∈ s.invoices, ∀ p ∈ s.payments, p.id ∈ ids → p.invoiceId = some inv.id →
        Worth (decide (status = .checked)) status p
  | .processPayment id => ∀ inv ∈ s.invoices, ∀ p ∈ s.payments, p.id = id →
      p.invoiceId = some inv.id → Worth true .completed p
  | .handleMpesaCallback answer => ∀ inv ∈ s.invoices, ∀ p ∈ s.confirmedPayment answer,
      p.invoiceId = some inv.id → Worth true .completed p
  | .processPaystackSuccess .. => True

instance (s : Ledger) (op : Operation) : Decidable (s.Admissible op) :=
  match op with
  | .createPayment .. | .processPaystackSuccess .. => isTrue trivial
  | .verifyPayment id status => inferInstanceAs (Decidable (∀ inv ∈ s.invoices, ∀ p ∈ s.payments,
      p.id = id → p.invoiceId = some inv.id → Worth (decide (status = .checked)) status p))
  | .bulkUpdatePaymentStatus ids status => inferInstanceAs (Decidable (
      (s.listedPayments ids).length = ids.length → ∀ inv ∈ s.invoices, ∀ p ∈ s.payments, p.id ∈ ids →
        p.invoiceId = some inv.id → Worth (decide (status = .checked)) status p))
  | .processPayment id => inferInstanceAs (Decidable (∀ inv ∈ s.invoices, ∀ p ∈ s.payments,
      p.id = id → p.invoiceId = some inv.id → Worth true .completed p))
  | .handleMpesaCallback answer => inferInstanceAs (Decidable (∀ inv ∈ s.invoices,
      ∀ p ∈ s.confirmedPayment answer, p.invoiceId = some inv.id → Worth true .completed p))

theorem step_keyed {s : Ledger} (op : Operation) (hk : Keyed Payment.id s.payments) :
    Keyed Payment.id (s.step op).payments := by
  have hset : ∀ (q : Payment → Bool) (status : PaymentStatus),
      Keyed Payment.id (s.setStatus q status).payments :=
    fun q status => hk.updateWhere (fun _ => rfl)
  cases op with
  | createPayment id amount method invoiceId ref isManual =>
      simp only [step, createPayment]
      split
      · exact hk
      · rename_i hfresh
        have hnew := hk.append_singleton
          (r := createdPayment id amount method invoiceId ref isManual) (not_or.mp hfresh).1
        split
        · simpa using hnew
        · exact hnew
  | verifyPayment id status =>
      simp only [step, verifyPayment]
      split
      · exact hk
      · split
        · simpa using hset _ status
        · exact hset _ status
  | bulkUpdatePaymentStatus ids status =>
      simp only [step, bulkUpdatePaymentStatus]
      split
      · exact hk
      · split
        · exact hset _ status
        · exact hset _ status
  | processPayment id =>
      simp only [step, processPayment]
      split
      · exact hk
      · simpa using hset _ .completed
  | handleMpesaCallback answer =>
      simp only [step, handleMpesaCallback]
      split
      · simpa using hset _ .completed
      · exact hk
  | processPaystackSuccess ref paymentId amount =>
      simp only [step, processPaystackSuccess]
      split
      · split
        · exact hk
        · rename_i hnew
          simpa using hk.append_singleton (not_or.mp hnew).2
      · exact hk

theorem confirmedPayment_mem {s : Ledger} {answer : Option MpesaAnswer} {p : Payment}
    (h : s.confirmedPayment answer = some p) : p ∈ s.payments := by
  unfold confirmedPayment at h
  split at h
  · split at h
    · cases h
    · split at h
      · rename_i p' hp'
        obtain rfl := Option.some.inj h
        exact List.mem_of_mem_filter (hp' ▸ List.mem_singleton_self p')
      · cases h
  · cases h

theorem balanced_createPayment {s : Ledger} (hs : s.Balanced) (id amount : ℕ)
    (method : PaymentMethod) (invoiceId : Option ℕ) (ref : Option String) (isManual : Bool) :
    (s.createPayment id amount method invoiceId ref isManual).Balanced := by
  unfold createPayment
  split
  · exact hs
  · simp only
    split
    · rename_i hoff
      refine balanced_insert hs (p := createdPayment id amount method invoiceId ref isManual)
        (by simp) ?_
      rw [if_pos (createdPayment_counted_iff.mpr hoff), applyPayment_invoices]
    · rename_i hoff
      refine balanced_insert hs (p := createdPayment id amount method invoiceId ref isManual)
        rfl ?_
      rw [if_neg (fun h => hoff (createdPayment_counted_iff.mp h))]

theorem balanced_processPaystackSuccess {s : Ledger} (hs : s.Balanced) (ref : String)
    (paymentId amount : ℕ) : (s.processPaystackSuccess ref paymentId amount).Balanced := by
  unfold processPaystackSuccess
  split
  · rename_i t _
    simp only
    split
    · exact hs
    · refine balanced_insert hs
        (p := ⟨paymentId, t.invoiceId, amount, .card, .completed, some ref, false⟩) (by simp) ?_
      simp [applyPayment_invoices, PaymentStatus.Counted]
  · exact hs

theorem forall_of_find?_eq_none {s : Ledger} {id : ℕ}
    (h : s.payments.find? (fun p => decide (p.id = id)) = none) {Q : Invoice → Payment → Prop} :
    ∀ inv ∈ s.invoices, ∀ p ∈ s.payments, p.id = id → Q inv p := by
  intro inv _ p hp hid
  exact absurd (decide_eq_true hid) (List.find?_eq_none.mp h p hp)

theorem balanced_verifyPayment_iff {s : Ledger} (hk : Keyed Payment.id s.payments)
    (hs : s.Balanced) (id : ℕ) (status : PaymentStatus) :
    (s.verifyPayment id status).Balanced ↔ s.Admissible (.verifyPayment id status) := by
  simp only [verifyPayment, Admissible]
  cases hf : s.payments.find? (fun p => decide (p.id = id)) with
  | none => exact iff_of_true hs (forall_of_find?_eq_none hf)
  | some p =>
      obtain ⟨hp, hid⟩ := hk.find?_eq_some.mp hf
      subst hid
      simp only [hk.forall_key_iff hp]
      by_cases hc : status = .checked
      · subst hc
        simpa using balanced_applyPayment_iff hk hs hp (Or.inr rfl)
      · simp only [hc, if_false, decide_false]
        refine (balanced_post_iff (fun x => decide (x.id = p.id)) status false hs (by simp) rfl
          (by simp [setStatus])).trans ?_
        simp only [decide_eq_true_eq, hk.forall_key_iff hp]

theorem balanced_bulkUpdatePaymentStatus_iff {s : Ledger} (hs : s.Balanced) (ids : List ℕ)
    (status : PaymentStatus) :
    (s.bulkUpdatePaymentStatus ids status).Balanced ↔
      s.Admissible (.bulkUpdatePaymentStatus ids status) := by
  simp only [bulkUpdatePaymentStatus, Admissible]
  by_cases hlen : (s.listedPayments ids).length = ids.length
  · simp only [hlen, ne_eq, not_true_eq_false, if_false, forall_const]
    by_cases hc : status = .checked
    · subst hc
      simp only [if_true, decide_true]
      have hpost := balanced_post_iff
        (t := { s.setStatus (fun p => decide (p.id ∈ ids)) .checked with
          invoices := (s.listedPayments ids).foldl creditInvoice
            (s.setStatus (fun p => decide (p.id ∈ ids)) .checked).invoices })
        (fun x => decide (x.id ∈ ids)) .checked true hs (fun _ => Or.inr rfl) rfl rfl
      simpa only [decide_eq_true_eq] using hpost
    · simp only [hc, if_false, decide_false]
      refine (balanced_post_iff (fun x => decide (x.id ∈ ids)) status false hs (by simp) rfl
        (by simp [setStatus])).trans ?_
      simp only [decide_eq_true_eq]
  · simp [hlen, hs]

theorem balanced_processPayment_iff {s : Ledger} (hk : Keyed Payment.id s.payments)
    (hs : s.Balanced) (id : ℕ) :
    (s.processPayment id).Balanced ↔ s.Admissible (.processPayment id) := by
  simp only [processPayment, Admissible]
  cases hf : s.payments.find? (fun p => decide (p.id = id)) with
  | none => exact iff_of_true hs (forall_of_find?_eq_none hf)
  | some p =>
      obtain ⟨hp, hid⟩ := hk.find?_eq_some.mp hf
      subst hid
      simp only [hk.forall_key_iff hp]
      exact balanced_applyPayment_iff hk hs hp (Or.inl rfl)

theorem balanced_handleMpesaCallback_iff {s : Ledger} (hk : Keyed Payment.id s.payments)
    (hs : s.Balanced) (answer : Option MpesaAnswer) :
    (s.handleMpesaCallback answer).Balanced ↔ s.Admissible (.handleMpesaCallback answer) := by
  simp only [handleMpesaCallback, Admissible]
  cases hf : s.confirmedPayment answer with
  | none => simp [hs]
  | some p =>
      simp only [Option.mem_some_iff, forall_eq']
      exact balanced_applyPayment_iff hk hs (confirmedPayment_mem hf) (Or.inl rfl)

/-- **Step lemma**: an operation keeps the balance exactly when it is admissible. -/
theorem step_balanced_iff {s : Ledger} (op : Operation) (hk : Keyed Payment.id s.payments)
    (hs : s.Balanced) : (s.step op).Balanced ↔ s.Admissible op := by
  cases op with
  | createPayment id amount method invoiceId ref isManual =>
      exact iff_of_true (balanced_createPayment hs id amount method invoiceId ref isManual) trivial
  | verifyPayment id status => exact balanced_verifyPayment_iff hk hs id status
  | bulkUpdatePaymentStatus ids status => exact balanced_bulkUpdatePaymentStatus_iff hs ids status
  | processPayment id => exact balanced_processPayment_iff hk hs id
  | handleMpesaCallback answer => exact balanced_handleMpesaCallback_iff hk hs answer
  | processPaystackSuccess ref paymentId amount =>
      exact iff_of_true (balanced_processPaystackSuccess hs ref paymentId amount) trivial

/-- An invoice of 100 with a cash payment of 100 on it. -/
def cashInvoice : Ledger where
  payments := [⟨1, some 1, 10000, .cash, .completed, none, true⟩]
  invoices := [⟨1, some 5, 10000, 10000, 0, .paid⟩]
  transactions := []
  activated := [5]

end Ledger

end IspBilling
