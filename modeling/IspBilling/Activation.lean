import IspBilling.Ledger
import IspBilling.Subscription

/-! # Activation on payment

A settled invoice should activate the subscription it is linked to.  `_apply_payment_to_invoice`
(`app/modules/billing/service.py`) does so through `_activate_subscription_on_payment`, and
`verify_payment` calls the same method; `bulk_update_payment_status` credits invoices by itself
and `update_invoice_status` marks an invoice as paid without a payment, and neither activates.

`Billing` is the ledger with the subscriptions.  The ledger logs the calls of
`_activate_subscription_on_payment` in `activated`; a step of `Billing` is a step of the ledger
followed by the calls it has logged.  All operations credit a list of payments
(`Ledger.credited`, `Ledger.step_invoices`), so the invoices they mark as paid are known from the
inputs (`Billing.Pays`).  `Billing.parity_always_iff` says which runs keep every paid invoice's
subscription active and asked to sync. -/

namespace IspBilling

open Rows Runs

/-! ### Invoices under a list of credits -/

/-- The credits of the payments `ps` that are linked to the invoice. -/
def Invoice.receiveAll (ps : List Payment) (inv : Invoice) : Invoice :=
  ps.foldl (fun inv p => if p.invoiceId = some inv.id then inv.receive p.amount else inv) inv

/-- The payments `ps` settle the invoice: one of them is linked to it, and together they cover
what is due. -/
def Invoice.SettledBy (ps : List Payment) (inv : Invoice) : Prop :=
  (∃ p ∈ ps, p.invoiceId = some inv.id) ∧
    inv.totalAmount ≤ inv.paidAmount + ((ps.map (Ledger.credit inv.id)).sum : ℕ)

instance (ps : List Payment) (inv : Invoice) : Decidable (inv.SettledBy ps) :=
  inferInstanceAs (Decidable ((∃ p ∈ ps, p.invoiceId = some inv.id) ∧
    inv.totalAmount ≤ inv.paidAmount + ((ps.map (Ledger.credit inv.id)).sum : ℕ)))

theorem creditInvoice_eq_map (invoices : List Invoice) (p : Payment) :
    creditInvoice invoices p =
      invoices.map (fun inv => if p.invoiceId = some inv.id then inv.receive p.amount else inv) := by
  unfold creditInvoice
  cases hp : p.invoiceId with
  | none => simp
  | some i =>
      unfold updateWhere
      apply List.map_congr_left
      intro inv _
      simp [eq_comm]

theorem foldl_creditInvoice (ps : List Payment) (invoices : List Invoice) :
    ps.foldl creditInvoice invoices = invoices.map (Invoice.receiveAll ps) := by
  induction ps generalizing invoices with
  | nil => exact (List.map_id invoices).symm
  | cons p ps ih =>
      rw [List.foldl_cons, ih, creditInvoice_eq_map, List.map_map]
      rfl

theorem Invoice.receiveAll_link (ps : List Payment) (inv : Invoice) :
    (inv.receiveAll ps).id = inv.id ∧ (inv.receiveAll ps).subscriptionId = inv.subscriptionId := by
  induction ps generalizing inv with
  | nil => exact ⟨rfl, rfl⟩
  | cons p ps ih =>
      unfold Invoice.receiveAll
      rw [List.foldl_cons]
      have h := ih (if p.invoiceId = some inv.id then inv.receive p.amount else inv)
      by_cases hp : p.invoiceId = some inv.id
      · simpa [hp, Invoice.receiveAll, Invoice.receive] using h
      · simpa [hp, Invoice.receiveAll] using h

theorem sum_credit_eq_zero {ps : List Payment} {i : ℕ} (h : ¬ ∃ p ∈ ps, p.invoiceId = some i) :
    (ps.map (Ledger.credit i)).sum = 0 := by
  rw [List.sum_eq_zero_iff]
  intro x hx
  obtain ⟨p, hp, rfl⟩ := List.mem_map.mp hx
  have hne : ¬ p.invoiceId = some i := fun heq => h ⟨p, hp, heq⟩
  simp [Ledger.credit, hne]

theorem Invoice.receive_paid_iff (amount : ℕ) (inv : Invoice) :
    (inv.receive amount).status = .paid ↔
      inv.status = .paid ∨ inv.totalAmount ≤ inv.paidAmount + amount := by
  have hle : inv.totalAmount - ((inv.paidAmount + amount : ℕ) : ℤ) ≤ 0 ↔
      inv.totalAmount ≤ inv.paidAmount + amount := by
    push_cast
    omega
  simp only [Invoice.receive, hle]
  split
  · rename_i h
    exact iff_of_true rfl (Or.inr h)
  · rename_i h
    exact ⟨Or.inl, fun hor => hor.resolve_right h⟩

/-- After the credit of one payment the others settle the invoice, or that payment did, exactly
when all of them do. -/
theorem Invoice.settledBy_cons {p : Payment} {inv : Invoice} (hp : p.invoiceId = some inv.id)
    (ps : List Payment) :
    inv.SettledBy (p :: ps) ↔
      inv.totalAmount ≤ inv.paidAmount + p.amount ∨ (inv.receive p.amount).SettledBy ps := by
  have hsum : ((p :: ps).map (Ledger.credit inv.id)).sum =
      p.amount + (ps.map (Ledger.credit inv.id)).sum := by
    simp [Ledger.credit, hp]
  have hfirst : ∃ q ∈ p :: ps, q.invoiceId = some inv.id := ⟨p, List.mem_cons_self, hp⟩
  have hrest : (inv.receive p.amount).SettledBy ps ↔ (∃ q ∈ ps, q.invoiceId = some inv.id) ∧
      inv.totalAmount ≤ inv.paidAmount + p.amount + ((ps.map (Ledger.credit inv.id)).sum : ℕ) := by
    simp [SettledBy, Invoice.receive]
  rw [hrest, SettledBy, hsum, Nat.cast_add]
  by_cases hmore : ∃ q ∈ ps, q.invoiceId = some inv.id
  · constructor
    · rintro ⟨_, h⟩
      exact Or.inr ⟨hmore, by omega⟩
    · rintro (h | ⟨_, h⟩)
      · exact ⟨hfirst, by omega⟩
      · exact ⟨hfirst, by omega⟩
  · -- no further payment of this invoice: nothing is added
    rw [sum_credit_eq_zero hmore]
    constructor
    · rintro ⟨_, h⟩
      exact Or.inl (by omega)
    · rintro (h | ⟨h, _⟩)
      · exact ⟨hfirst, by omega⟩
      · exact absurd h hmore

/-- **Spec of the credits**: the invoice is paid afterwards if it was paid before or the payments
settle it. -/
theorem Invoice.receiveAll_paid_iff (ps : List Payment) (inv : Invoice) :
    (inv.receiveAll ps).status = .paid ↔ inv.status = .paid ∨ inv.SettledBy ps := by
  induction ps generalizing inv with
  | nil => simp [Invoice.receiveAll, SettledBy]
  | cons p ps ih =>
      have hcons : inv.receiveAll (p :: ps) =
          (if p.invoiceId = some inv.id then inv.receive p.amount else inv).receiveAll ps := rfl
      rw [hcons, ih]
      by_cases hp : p.invoiceId = some inv.id
      · rw [if_pos hp, Invoice.receive_paid_iff, Invoice.settledBy_cons hp, or_assoc]
      · simp [hp, SettledBy, Ledger.credit]

/-! ### What an operation credits -/

namespace Ledger

def credited (s : Ledger) : Operation → List Payment
  | .createPayment id amount method invoiceId ref isManual =>
      if id ∈ s.payments.map Payment.id ∨ ∃ i ∈ invoiceId, i ∉ s.invoices.map Invoice.id then []
      else if isOffline isManual method = true then
        [createdPayment id amount method invoiceId ref isManual]
      else []
  | .verifyPayment id status =>
      if status = .checked then (s.payments.find? (fun p => decide (p.id = id))).toList else []
  | .bulkUpdatePaymentStatus ids status =>
      if (s.listedPayments ids).length ≠ ids.length then []
      else if status = .checked then s.listedPayments ids else []
  | .processPayment id => (s.payments.find? (fun p => decide (p.id = id))).toList
  | .handleMpesaCallback answer => (s.confirmedPayment answer).toList
  | .processPaystackSuccess ref paymentId amount =>
      match s.transactions.filter (fun t => decide (t.transactionReference = ref)) with
      | [t] =>
          if t.userId = none ∨ paymentId ∈ s.payments.map Payment.id then []
          else [⟨paymentId, t.invoiceId, amount, .card, .completed, some ref, false⟩]
      | _ => []

/-- The subscription of an invoice that the payment settles. -/
def settledSubscription (s : Ledger) (p : Payment) : List ℕ :=
  match p.invoiceId with
  | none => []
  | some i =>
      match s.invoices.find? (fun inv => decide (inv.id = i)) with
      | none => []
      | some inv => if (inv.receive p.amount).balance ≤ 0 then inv.subscriptionId.toList else []

/-- The operation credits through the shared helper, which activates: all but the bulk update. -/
def Operation.Activates : Operation → Prop
  | .bulkUpdatePaymentStatus .. => False
  | _ => True

instance : DecidablePred Operation.Activates
  | .bulkUpdatePaymentStatus .. => isFalse id
  | .createPayment .. | .verifyPayment .. | .processPayment _ | .handleMpesaCallback _ |
    .processPaystackSuccess .. => isTrue trivial

theorem applyPayment_activated (p : Payment) (s : Ledger) :
    (s.applyPayment p).activated = s.activated ++ s.settledSubscription p := by
  unfold applyPayment settledSubscription
  cases p.invoiceId with
  | none => simp
  | some i =>
      simp only [applyPaymentToInvoice]
      cases s.invoices.find? (fun inv => decide (inv.id = i)) with
      | none => simp
      | some inv =>
          simp only
          split
          · rfl
          · simp

/-- From `s` to `s'` the payments `ps` are posted, at most one: it is applied to the invoices of `s`,
and further calls may follow. -/
inductive Posts (s : Ledger) : List Payment → Ledger → Prop
  | nothing {s' : Ledger} (hinv : s'.invoices = s.invoices) (hact : s'.activated = s.activated) :
      Posts s [] s'
  | payment {s' : Ledger} (t : Ledger) (p : Payment) (more : List ℕ) (hinv : t.invoices = s.invoices)
      (hact : t.activated = s.activated) (hinv' : s'.invoices = (t.applyPayment p).invoices)
      (hact' : s'.activated = (t.applyPayment p).activated ++ more) : Posts s [p] s'

theorem Posts.applied {s t : Ledger} (p : Payment) (hinv : t.invoices = s.invoices)
    (hact : t.activated = s.activated) : Posts s [p] (t.applyPayment p) :=
  .payment t p [] hinv hact rfl (List.append_nil _).symm

/-- **Inversion**: every operation but the bulk update posts one payment at most. -/
theorem posts_of_activates (s : Ledger) {op : Operation} (hop : op.Activates) :
    Posts s (s.credited op) (s.step op) := by
  cases op with
  | createPayment id amount method invoiceId ref isManual =>
      simp only [step, createPayment, credited]
      split
      · exact .nothing rfl rfl
      · split
        · exact .applied _ rfl rfl
        · exact .nothing rfl rfl
  | verifyPayment id status =>
      simp only [step, verifyPayment, credited]
      cases s.payments.find? (fun p => decide (p.id = id)) with
      | none =>
          rw [Option.toList_none, ite_self]
          exact .nothing rfl rfl
      | some p =>
          simp only
          split
          · exact .applied p rfl rfl
          · exact .nothing rfl rfl
  | bulkUpdatePaymentStatus ids status => exact absurd hop id
  | processPayment id =>
      simp only [step, processPayment, credited]
      cases s.payments.find? (fun p => decide (p.id = id)) with
      | none => exact .nothing rfl rfl
      | some p => exact .applied p rfl rfl
  | handleMpesaCallback answer =>
      simp only [step, handleMpesaCallback, credited]
      cases s.confirmedPayment answer with
      | none => exact .nothing rfl rfl
      | some p => exact .applied p rfl rfl
  | processPaystackSuccess ref paymentId amount =>
      simp only [step, processPaystackSuccess, credited]
      generalize s.transactions.filter (fun t => decide (t.transactionReference = ref)) = ts
      rcases ts with _ | ⟨t, _ | ⟨u, ts⟩⟩
      · exact .nothing rfl rfl
      · simp only
        split
        · exact .nothing rfl rfl
        · -- the transaction's own subscription is activated as well
          exact .payment
            { s with
              transactions := updateWhere (fun t => decide (t.transactionReference = ref))
                (fun t => { t with status := "completed" }) s.transactions
              payments := s.payments ++
                [⟨paymentId, t.invoiceId, amount, .card, .completed, some ref, false⟩] }
            _ t.subscriptionId.toList rfl rfl rfl rfl
      · exact .nothing rfl rfl

/-- The bulk update credits its payments and calls nothing. -/
theorem step_of_not_activates (s : Ledger) {op : Operation} (hop : ¬ op.Activates) :
    (s.step op).invoices = (s.credited op).foldl creditInvoice s.invoices ∧
      (s.step op).activated = s.activated := by
  cases op with
  | bulkUpdatePaymentStatus ids status =>
      simp only [step, bulkUpdatePaymentStatus, credited]
      split
      · exact ⟨rfl, rfl⟩
      · split
        · exact ⟨rfl, rfl⟩
        · exact ⟨rfl, rfl⟩
  | createPayment | verifyPayment | processPayment | handleMpesaCallback | processPaystackSuccess =>
      exact absurd trivial hop

/-- **Inversion**: an operation credits the payments `credited` and nothing else. -/
theorem step_invoices (s : Ledger) (op : Operation) :
    (s.step op).invoices = (s.credited op).foldl creditInvoice s.invoices := by
  by_cases hop : op.Activates
  · have hposts := s.posts_of_activates hop
    generalize s.credited op = ps at hposts
    cases hposts with
    | nothing hinv hact => exact hinv
    | payment t p more hinv hact hinv' hact' =>
        rw [hinv', applyPayment_invoices, hinv]
        rfl
  · exact (s.step_of_not_activates hop).1

/-- **Inversion**: the calls of `_activate_subscription_on_payment` that an operation makes.  They
include the subscription of every invoice it settles, unless it is the bulk update. -/
theorem step_activated (s : Ledger) (op : Operation) :
    ∃ calls, (s.step op).activated = s.activated ++ calls ∧
      (op.Activates → ∀ p ∈ s.credited op, ∀ k ∈ s.settledSubscription p, k ∈ calls) ∧
      (¬ op.Activates → calls = []) := by
  by_cases hop : op.Activates
  · have hposts := s.posts_of_activates hop
    generalize s.credited op = ps at hposts
    cases hposts with
    | nothing hinv hact => exact ⟨[], by simp [hact], by simp, by simp⟩
    | payment t p more hinv hact hinv' hact' =>
        have hsettled : t.settledSubscription p = s.settledSubscription p := by
          simp only [settledSubscription, hinv]
        refine ⟨s.settledSubscription p ++ more, ?_, ?_, fun h => absurd hop h⟩
        · rw [hact', applyPayment_activated, hact, hsettled, List.append_assoc]
        · intro _ q hq k hk
          obtain rfl := List.mem_singleton.mp hq
          exact List.mem_append_left _ hk
  · exact ⟨[], by simp [(s.step_of_not_activates hop).2], fun h => absurd h hop, fun _ => rfl⟩

theorem mem_settledSubscription {s : Ledger} (hk : Keyed Invoice.id s.invoices) {inv : Invoice}
    (hinv : inv ∈ s.invoices) {p : Payment} (hp : p.invoiceId = some inv.id)
    (hle : inv.totalAmount ≤ inv.paidAmount + p.amount) {k : ℕ} (hsub : inv.subscriptionId = some k) :
    k ∈ s.settledSubscription p := by
  have hfind : s.invoices.find? (fun x => decide (x.id = inv.id)) = some inv :=
    hk.find?_eq_some.mpr ⟨hinv, rfl⟩
  have hbalance : (inv.receive p.amount).balance ≤ 0 := by
    simp only [Invoice.receive]
    push_cast
    omega
  simp [settledSubscription, hp, hfind, hbalance, hsub]

theorem credited_of_activates (s : Ledger) {op : Operation} (hop : op.Activates) :
    s.credited op = [] ∨ ∃ p, s.credited op = [p] := by
  have hposts := s.posts_of_activates hop
  generalize s.credited op = ps at hposts
  cases hposts with
  | nothing => exact Or.inl rfl
  | payment t p => exact Or.inr ⟨p, rfl⟩

end Ledger

/-! ### The subscriptions -/

/-- The ledger and the subscriptions that its invoices are linked to. -/
structure Billing where
  ledger : Ledger
  subscriptions : List Subscription
  /-- The subscriptions that `sync_subscription_to_router` was called for. -/
  syncRequested : List ℕ
deriving DecidableEq, Repr

namespace Billing

/-- The status of subscription `k`. -/
def subscriptionStatus (s : Billing) (k : ℕ) : Option SubscriptionStatus :=
  (s.subscriptions.find? (fun x => decide (x.id = k))).map Subscription.status

/-- `_activate_subscription_on_payment`: an active subscription is left alone, any other becomes
active and is synced.  What the sync does on the router is not part of this state. -/
def activateSubscriptionOnPayment (s : Billing) (k : ℕ) : Billing :=
  match s.subscriptions.find? (fun x => decide (x.id = k)) with
  | none => s
  | some subscription =>
      if subscription.status = .active then s
      else
        { s with
          subscriptions := updateWhere (fun x => decide (x.id = k))
            (fun x => { x with status := .active, isRouterSynced := false }) s.subscriptions
          syncRequested := s.syncRequested ++ [k] }

/-- `update_invoice_status`: an invoice that is marked as paid keeps its `paid_amount`, and its
balance is cleared. -/
def updateInvoiceStatus (s : Billing) (invoiceId : ℕ) (status : InvoiceStatus) : Billing :=
  { s with
    ledger := { s.ledger with
      invoices := updateWhere (fun inv => decide (inv.id = invoiceId))
        (fun inv => { inv with
          status := status, balance := if status = .paid then 0 else inv.balance })
        s.ledger.invoices } }

inductive Operation where
  | payment (op : Ledger.Operation)
  | updateInvoiceStatus (invoiceId : ℕ) (status : InvoiceStatus)
deriving DecidableEq, Repr

/-- One operation: a step of the ledger, and the activations that it calls for. -/
def step (s : Billing) : Operation → Billing
  | .payment op =>
      let ledger := s.ledger.step op
      (ledger.activated.drop s.ledger.activated.length).foldl activateSubscriptionOnPayment
        { s with ledger := ledger }
  | .updateInvoiceStatus invoiceId status => s.updateInvoiceStatus invoiceId status

/-- A call of one of the operations; `bulk_verify_payments` commits after every payment. -/
inductive Call where
  | ledger (call : Ledger.Call)
  | updateInvoiceStatus (invoiceId : ℕ) (status : InvoiceStatus)
deriving DecidableEq, Repr

/-- The operations of a sequence of calls. -/
def operationsOf (calls : List Call) : List Operation :=
  calls.flatMap (fun
    | .ledger call => call.operations.map .payment
    | .updateInvoiceStatus invoiceId status => [.updateInvoiceStatus invoiceId status])

/-- The subscription is active, and its sync was requested. -/
def Served (s : Billing) (k : ℕ) : Prop :=
  s.subscriptionStatus k = some .active ∧ k ∈ s.syncRequested

instance (s : Billing) (k : ℕ) : Decidable (s.Served k) :=
  inferInstanceAs (Decidable (s.subscriptionStatus k = some .active ∧ k ∈ s.syncRequested))

/-- The subscription of every paid invoice is active, and its sync was requested. -/
def Parity (s : Billing) : Prop :=
  ∀ inv ∈ s.ledger.invoices, inv.status = .paid → ∀ k ∈ inv.subscriptionId, s.Served k

instance : DecidablePred Parity := fun s =>
  inferInstanceAs (Decidable (∀ inv ∈ s.ledger.invoices, inv.status = .paid →
    ∀ k ∈ inv.subscriptionId, s.Served k))

/-- The operation marks the invoice as paid. -/
def Pays (s : Billing) (inv : Invoice) : Operation → Prop
  | .payment op => inv.SettledBy (s.ledger.credited op)
  | .updateInvoiceStatus invoiceId status => inv.id = invoiceId ∧ status = .paid

instance (s : Billing) (inv : Invoice) (op : Operation) : Decidable (s.Pays inv op) :=
  match op with
  | .payment op => inferInstanceAs (Decidable (inv.SettledBy (s.ledger.credited op)))
  | .updateInvoiceStatus invoiceId status =>
      inferInstanceAs (Decidable (inv.id = invoiceId ∧ status = .paid))

/-- The operation activates the subscriptions of the invoices it settles. -/
def Operation.Activates : Operation → Prop
  | .payment op => op.Activates
  | .updateInvoiceStatus .. => False

instance : DecidablePred Operation.Activates
  | .payment op => inferInstanceAs (Decidable op.Activates)
  | .updateInvoiceStatus .. => isFalse id

/-- Where an operation marks an invoice as paid, the invoice's subscription is served: either it
was served before, or the operation activates and the subscription is not active yet. -/
def Serves (s : Billing) (op : Operation) : Prop :=
  ∀ inv ∈ s.ledger.invoices, s.Pays inv op → ∀ k ∈ inv.subscriptionId,
    s.Served k ∨ op.Activates ∧ s.subscriptionStatus k ≠ some .active

instance (s : Billing) (op : Operation) : Decidable (s.Serves op) :=
  inferInstanceAs (Decidable (∀ inv ∈ s.ledger.invoices, s.Pays inv op → ∀ k ∈ inv.subscriptionId,
    s.Served k ∨ op.Activates ∧ s.subscriptionStatus k ≠ some .active))

/-- The keys of the schema: the invoices have distinct identifiers, and the linked subscriptions
exist. -/
structure WellFormed (s : Billing) : Prop where
  keyed : Keyed Invoice.id s.ledger.invoices
  linked : ∀ inv ∈ s.ledger.invoices, ∀ k ∈ inv.subscriptionId, s.subscriptionStatus k ≠ none

/-! ### The effect of the activations -/

@[simp] theorem activate_ledger (s : Billing) (k : ℕ) :
    (s.activateSubscriptionOnPayment k).ledger = s.ledger := by
  unfold activateSubscriptionOnPayment
  split
  · rfl
  · split
    · rfl
    · rfl

theorem foldl_activate_ledger (calls : List ℕ) (s : Billing) :
    (calls.foldl activateSubscriptionOnPayment s).ledger = s.ledger := by
  induction calls generalizing s with
  | nil => rfl
  | cons k calls ih => rw [List.foldl_cons, ih, activate_ledger]

theorem find?_activated (subscriptions : List Subscription) (j k : ℕ) :
    (updateWhere (fun x => decide (x.id = j))
        (fun x => { x with status := .active, isRouterSynced := false }) subscriptions).find?
      (fun x => decide (x.id = k)) =
    (subscriptions.find? (fun x => decide (x.id = k))).map (fun x =>
      if decide (x.id = j) then { x with status := .active, isRouterSynced := false } else x) := by
  apply find?_updateWhere
  intro x
  rfl

theorem activate_subscriptionStatus (s : Billing) (j k : ℕ) :
    (s.activateSubscriptionOnPayment j).subscriptionStatus k =
      if j = k then (s.subscriptionStatus k).map (fun _ => .active) else s.subscriptionStatus k := by
  unfold activateSubscriptionOnPayment subscriptionStatus
  by_cases hjk : j = k
  · subst hjk
    cases hf : s.subscriptions.find? (fun x => decide (x.id = j)) with
    | none => simp [hf]
    | some x =>
        have hx : x.id = j := by simpa using List.find?_some hf
        by_cases ha : x.status = .active
        · simp [hf, ha]
        · simp [ha, find?_activated, hf, hx]
  · rw [if_neg hjk]
    split
    · rfl
    · split
      · rfl
      · rw [find?_activated]
        cases hf : s.subscriptions.find? (fun x => decide (x.id = k)) with
        | none => rfl
        | some x =>
            have hx : x.id = k := by simpa using List.find?_some hf
            have hne : ¬ x.id = j := fun h => hjk (h.symm.trans hx)
            simp [hne]

/-- A call requests a sync only for a subscription that exists and is not active. -/
theorem mem_activate_syncRequested (s : Billing) (j k : ℕ) :
    k ∈ (s.activateSubscriptionOnPayment j).syncRequested ↔ k ∈ s.syncRequested ∨
      j = k ∧ s.subscriptionStatus k ≠ none ∧ s.subscriptionStatus k ≠ some .active := by
  unfold activateSubscriptionOnPayment subscriptionStatus
  by_cases hjk : j = k
  · subst hjk
    cases s.subscriptions.find? (fun x => decide (x.id = j)) with
    | none => simp
    | some x =>
        by_cases ha : x.status = .active
        · simp [ha]
        · simp [ha]
  · have hne : ¬ k = j := fun h => hjk h.symm
    split
    · simp [hjk]
    · split
      · simp [hjk]
      · simp [hjk, hne]

theorem activate_served_iff (s : Billing) (j k : ℕ) :
    (s.activateSubscriptionOnPayment j).Served k ↔ s.Served k ∨
      j = k ∧ s.subscriptionStatus k ≠ none ∧ s.subscriptionStatus k ≠ some .active := by
  unfold Served
  rw [activate_subscriptionStatus, mem_activate_syncRequested]
  by_cases hjk : j = k
  · cases hst : s.subscriptionStatus k with
    | none => simp [hjk]
    | some status =>
        by_cases ha : status = .active
        · simp [hjk, ha]
        · simp [hjk, ha]
  · simp [hjk]

/-- **Spec of the activations**: after a list of calls a subscription is served if it was before,
or if it is called, exists and was not active. -/
theorem foldl_activate_served_iff (calls : List ℕ) (s : Billing) (k : ℕ) :
    (calls.foldl activateSubscriptionOnPayment s).Served k ↔ s.Served k ∨
      k ∈ calls ∧ s.subscriptionStatus k ≠ none ∧ s.subscriptionStatus k ≠ some .active := by
  induction calls generalizing s with
  | nil => simp
  | cons j calls ih =>
      rw [List.foldl_cons, ih, activate_served_iff, activate_subscriptionStatus]
      by_cases hjk : j = k
      · -- the first call leaves nothing to do for the others
        cases hst : s.subscriptionStatus k with
        | none => simp [hjk]
        | some status => simp [hjk]
      · have hne : ¬ k = j := fun h => hjk h.symm
        simp [hjk, hne]

theorem foldl_activate_subscriptionStatus (calls : List ℕ) (s : Billing) (k : ℕ) :
    (calls.foldl activateSubscriptionOnPayment s).subscriptionStatus k = none ↔
      s.subscriptionStatus k = none := by
  induction calls generalizing s with
  | nil => rfl
  | cons j calls ih =>
      rw [List.foldl_cons, ih, activate_subscriptionStatus]
      split
      · simp
      · rfl

/-! ### One operation -/

theorem step_payment (s : Billing) (op : Ledger.Operation) :
    ∃ calls, s.step (.payment op) =
        calls.foldl activateSubscriptionOnPayment { s with ledger := s.ledger.step op } ∧
      (op.Activates → ∀ p ∈ s.ledger.credited op, ∀ k ∈ s.ledger.settledSubscription p, k ∈ calls) ∧
      (¬ op.Activates → calls = []) := by
  obtain ⟨calls, hact, hcalls, hnone⟩ := s.ledger.step_activated op
  refine ⟨calls, ?_, hcalls, hnone⟩
  simp only [step, hact, List.drop_left]

theorem step_payment_invoices (s : Billing) (op : Ledger.Operation) :
    (s.step (.payment op)).ledger.invoices =
      s.ledger.invoices.map (Invoice.receiveAll (s.ledger.credited op)) := by
  obtain ⟨calls, hstep, _⟩ := s.step_payment op
  rw [hstep, foldl_activate_ledger, s.ledger.step_invoices, foldl_creditInvoice]

theorem step_wellFormed {s : Billing} (op : Operation) (h : s.WellFormed) :
    (s.step op).WellFormed := by
  cases op with
  | payment op =>
      have hinv := s.step_payment_invoices op
      refine ⟨?_, ?_⟩
      · have hids : (s.step (.payment op)).ledger.invoices.map Invoice.id =
            s.ledger.invoices.map Invoice.id := by
          rw [hinv, List.map_map]
          exact List.map_congr_left (fun inv _ => (inv.receiveAll_link _).1)
        unfold Keyed
        rw [hids]
        exact h.keyed
      · rw [hinv, List.forall_mem_map]
        intro inv hmem k hk
        rw [(inv.receiveAll_link _).2] at hk
        obtain ⟨calls, hstep, _⟩ := s.step_payment op
        rw [hstep, Ne, foldl_activate_subscriptionStatus]
        exact h.linked inv hmem k hk
  | updateInvoiceStatus invoiceId status =>
      refine ⟨h.keyed.updateWhere (fun _ => rfl), ?_⟩
      exact (forall_updateWhere (fun inv hinv _ => h.linked inv hinv)).mpr
        (fun inv hinv _ => h.linked inv hinv)

/-- A payment operation keeps the parity exactly when it serves the invoices it settles. -/
theorem parity_payment_iff {s : Billing} (h : s.WellFormed) (hs : s.Parity)
    (op : Ledger.Operation) :
    (s.step (.payment op)).Parity ↔ s.Serves (.payment op) := by
  obtain ⟨calls, hstep, hcalls, hnone⟩ := s.step_payment op
  have hserved : ∀ k, (s.step (.payment op)).Served k ↔ s.Served k ∨
      k ∈ calls ∧ s.subscriptionStatus k ≠ none ∧ s.subscriptionStatus k ≠ some .active := by
    intro k
    rw [hstep]
    exact foldl_activate_served_iff calls _ k
  unfold Parity Serves
  rw [s.step_payment_invoices, List.forall_mem_map]
  refine forall₂_congr (fun inv hinv => ?_)
  rw [Invoice.receiveAll_paid_iff, (inv.receiveAll_link _).2]
  constructor
  · intro hpaid hpays k hk
    rcases (hserved k).mp (hpaid (Or.inr hpays) k hk) with hold | ⟨hcall, _, hne⟩
    · exact Or.inl hold
    · refine Or.inr ⟨?_, hne⟩
      by_contra hop
      rw [hnone hop] at hcall
      cases hcall
  · rintro hserves (hpaid | hpays) k hk
    · exact (hserved k).mpr (Or.inl (hs inv hinv hpaid k hk))
    · rcases hserves hpays k hk with hold | ⟨hop, hne⟩
      · exact (hserved k).mpr (Or.inl hold)
      · refine (hserved k).mpr (Or.inr ⟨?_, h.linked inv hinv k hk, hne⟩)
        -- the one payment that is credited settles the invoice
        obtain ⟨⟨p, hp, hlink⟩, hle⟩ := hpays
        rcases s.ledger.credited_of_activates hop with hnil | ⟨q, hq⟩
        · rw [hnil] at hp
          cases hp
        · rw [hq] at hp hle
          obtain rfl := List.mem_singleton.mp hp
          have hamount : (([p].map (Ledger.credit inv.id)).sum : ℕ) = p.amount := by
            simp [Ledger.credit, hlink]
          rw [hamount] at hle
          exact hcalls hop p (by rw [hq]; exact List.mem_singleton_self p) k
            (Ledger.mem_settledSubscription h.keyed hinv hlink hle hk)

/-- A change of status keeps the parity exactly when an invoice it marks as paid is served. -/
theorem parity_updateInvoiceStatus_iff {s : Billing} (hs : s.Parity) (invoiceId : ℕ)
    (status : InvoiceStatus) :
    (s.step (.updateInvoiceStatus invoiceId status)).Parity ↔
      s.Serves (.updateInvoiceStatus invoiceId status) := by
  have hrows : (s.step (.updateInvoiceStatus invoiceId status)).Parity ↔
      ∀ inv ∈ s.ledger.invoices, decide (inv.id = invoiceId) = true → status = .paid →
        ∀ k ∈ inv.subscriptionId, s.Served k :=
    forall_updateWhere (fun inv hinv _ => hs inv hinv)
  rw [hrows]
  refine forall₂_congr (fun inv hinv => ?_)
  simp only [Pays, Operation.Activates, decide_eq_true_eq, false_and, or_false, and_imp]

/-- **Step lemma**: an operation keeps the parity exactly when it serves. -/
theorem step_parity_iff {s : Billing} (op : Operation) (h : s.WellFormed) (hs : s.Parity) :
    (s.step op).Parity ↔ s.Serves op := by
  cases op with
  | payment op => exact parity_payment_iff h hs op
  | updateInvoiceStatus invoiceId status => exact parity_updateInvoiceStatus_iff hs invoiceId status

/-- **Exact condition**: for every sequence of calls, the subscription of every paid invoice is
active with its sync requested in all states of the run, if and only if this holds at the start
and every operation of the run serves the invoices it marks as paid. -/
theorem parity_always_iff (s : Billing) (h : s.WellFormed) (calls : List Call) :
    Always step Parity s (operationsOf calls) ↔
      s.Parity ∧ Along step Serves s (operationsOf calls) := by
  constructor
  · intro halways
    have hs := halways.head
    exact ⟨hs, (always_iff_along (J := WellFormed) (fun _ op hw => step_wellFormed op hw)
      (fun _ op hw hp => step_parity_iff op hw hp) h hs).mp halways⟩
  · rintro ⟨hs, halong⟩
    exact (always_iff_along (J := WellFormed) (fun _ op hw => step_wellFormed op hw)
      (fun _ op hw hp => step_parity_iff op hw hp) h hs).mpr halong

/-- An invoice of 100 for a pending subscription, with an unchecked manual payment of 100. -/
def awaitingCheck : Billing where
  ledger := {
    payments := [⟨1, some 1, 10000, .cash, .unchecked, none, true⟩]
    invoices := [⟨1, some 5, 10000, 0, 10000, .pending⟩]
    transactions := []
    activated := [] }
  subscriptions := [⟨5, some 1, 1, 1, .pppoe, .pending, "alice", "secret", 0, none, true, none⟩]
  syncRequested := []

/-- Checking the payment through the bulk update pays the invoice and leaves the subscription
pending, and so does marking the invoice as paid. -/
theorem paid_not_activated :
    awaitingCheck.Parity ∧
      (¬ Always step Parity awaitingCheck
        (operationsOf [.ledger (.single (.bulkUpdatePaymentStatus [1] .checked))])) ∧
      ¬ Always step Parity awaitingCheck (operationsOf [.updateInvoiceStatus 1 .paid]) := by
  decide

/-- Part of the invoice is paid in cash, the rest is checked by `bulk_verify_payments`, and the
invoice is marked as paid once more. -/
theorem parity_always_awaitingCheck :
    awaitingCheck.WellFormed ∧
      Always step Parity awaitingCheck (operationsOf
        [.ledger (.single (.createPayment 2 4000 .cash (some 1) none false)),
          .ledger (.bulkVerifyPayments [1] .checked), .updateInvoiceStatus 1 .paid]) := by
  have hwell : awaitingCheck.WellFormed := ⟨by decide, by decide⟩
  exact ⟨hwell, (parity_always_iff awaitingCheck hwell _).mpr (by decide)⟩

end Billing

end IspBilling
