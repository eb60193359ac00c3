import IspBilling.Ledger
import IspBilling.Runs

/-! # Callbacks of the payment gateways

A gateway delivers its callbacks at least once and in any order.  `handle_paystack_webhook` and
`handle_mpesa_callback` (`app/modules/billing/service.py`) credit the linked invoice on every
success that they are told of: neither looks at the status that the transaction or the payment
has already, and `charge.failed` overwrites `completed`.  Nor does a success always get through: a
payment needs a user, which a transaction may lack, and a number that is not taken; otherwise the insert
fails and the delivery is rolled back.

`CreditedOnce` and `NeverReverts` say what a sequence of deliveries of one charge should do.
The credits add up (`chargeRun_spec`, `mpesaRun_spec`), so `callbacks_credit_once_iff` can count:
one success must get through, and no failure come after it.  The M-PESA handler depends on what the
M-PESA service makes of a callback; as the service has no such method, it makes nothing of it,
and no callback is credited at all. -/

namespace IspBilling

open Rows Runs

inductive PaystackEvent where
  | chargeSuccess
  | chargeFailed
  | transferSuccess
  | transferFailed
  | other
deriving DecidableEq, Repr

/-- The callbacks of a Paystack charge; at a success the payment number that
`_generate_payment_number` counts out may be taken. -/
inductive ChargeCallback where
  | success (numberTaken : Bool)
  | failed
deriving DecidableEq, Repr

namespace ChargeCallback

def isSuccess : ChargeCallback → Bool
  | .success _ => true
  | .failed => false

/-- The payment of a success gets through: the transaction has a user, and the number is free. -/
def inserts (t : PaymentTransaction) (d : ChargeCallback) : Bool :=
  decide (t.userId ≠ none ∧ d = .success false)

/-- The status that a callback gives the transaction. -/
def status (t : PaymentTransaction) (d : ChargeCallback) : String :=
  if d = .failed then "failed" else if d.inserts t = true then "completed" else t.status

end ChargeCallback

namespace Ledger

/-- The transaction that a webhook names; the query raises when several carry the reference. -/
def transactionOf (reference : String) (s : Ledger) : Option PaymentTransaction :=
  scalarOne (s.transactions.filter (fun t => decide (t.transactionReference = reference)))

/-- `transaction.status = status`. -/
def setTransactionStatus (reference status : String) (s : Ledger) : Ledger :=
  { s with
    transactions := updateWhere (fun t => decide (t.transactionReference = reference))
      (fun t => { t with status := status }) s.transactions }

/-- `handle_paystack_webhook`; the amount is that of the charge. -/
def handlePaystackWebhook (event : PaystackEvent) (reference : String) (paymentId amount : ℕ)
    (s : Ledger) : Ledger :=
  if reference = "" ∨ s.transactionOf reference = none then s
  else
    match event with
    | .chargeSuccess => s.processPaystackSuccess reference paymentId amount
    | .chargeFailed | .transferFailed => s.setTransactionStatus reference "failed"
    | .transferSuccess => s.setTransactionStatus reference "completed"
    | .other => s

def nextPaymentId (s : Ledger) : ℕ := (s.payments.map Payment.id).max?.getD 0 + 1

/-- A callback of the charge is delivered.  A taken number fails the insert of the payment. -/
def deliverCharge (reference : String) (amount : ℕ) (s : Ledger) : ChargeCallback → Ledger
  | .success true => s
  | .success false => s.handlePaystackWebhook .chargeSuccess reference s.nextPaymentId amount
  | .failed => s.handlePaystackWebhook .chargeFailed reference s.nextPaymentId amount

/-- An M-PESA callback is delivered, with the answer of the M-PESA service to it. -/
def deliverMpesa (s : Ledger) (answer : Option MpesaAnswer) : Ledger := s.handleMpesaCallback answer

/-! ### What the deliveries should do -/

/-- `paid_amount` of an invoice. -/
def paidOf (invoiceId : ℕ) (s : Ledger) : Option ℕ :=
  (s.invoices.find? (fun inv => decide (inv.id = invoiceId))).map Invoice.paidAmount

def transactionStatus (reference : String) (s : Ledger) : Option String :=
  (s.transactionOf reference).map PaymentTransaction.status

def paymentStatus (id : ℕ) (s : Ledger) : Option PaymentStatus :=
  (s.payments.find? (fun p => decide (p.id = id))).map Payment.status

/-- The linked invoice exists. -/
def Linked (invoiceId : Option ℕ) (s : Ledger) : Prop := ∃ i ∈ invoiceId, s.paidOf i ≠ none

instance (invoiceId : Option ℕ) (s : Ledger) : Decidable (s.Linked invoiceId) :=
  inferInstanceAs (Decidable (∃ i ∈ invoiceId, s.paidOf i ≠ none))

/-- Between the two states the amount is added to the linked invoice once, if there was a success,
and not at all otherwise. -/
def CreditedOnce (invoiceId : Option ℕ) (amount : ℕ) (success : Prop) [Decidable success]
    (s s' : Ledger) : Prop :=
  ∀ i ∈ invoiceId, s'.paidOf i = (s.paidOf i).map (fun n => n + if success then amount else 0)

instance (invoiceId : Option ℕ) (amount : ℕ) (success : Prop) [Decidable success]
    (s s' : Ledger) : Decidable (CreditedOnce invoiceId amount success s s') :=
  inferInstanceAs (Decidable (∀ i ∈ invoiceId,
    s'.paidOf i = (s.paidOf i).map (fun n => n + if success then amount else 0)))

def NeverReverts {ε τ : Type} (deliver : Ledger → ε → Ledger) (status : Ledger → Option τ)
    (completed failed : τ) (s : Ledger) (es : List ε) : Prop :=
  ∀ m n, m ≤ n → n ≤ es.length → status (exec deliver s (es.take m)) = some completed →
    status (exec deliver s (es.take n)) ≠ some failed

/-- The payment that the gateway knows under the checkout request, if there is just one. -/
def paymentUnder (checkoutRequestId : String) (s : Ledger) : Option Payment :=
  if checkoutRequestId = "" then none
  else scalarOne (s.payments.filter (fun p => decide (p.referenceNumber = some checkoutRequestId)))

/-- The M-PESA service reports a successful payment of the checkout request. -/
def Confirms (checkoutRequestId : String) (answer : Option MpesaAnswer) : Bool :=
  decide (answer = some ⟨true, true, some checkoutRequestId⟩)

/-! ### Counting credits -/

theorem paidOf_applyPayment (p : Payment) (s : Ledger) (i : ℕ) :
    (s.applyPayment p).paidOf i = (s.paidOf i).map (fun n => n + credit i p) := by
  unfold paidOf credit
  rw [applyPayment_invoices, creditInvoice]
  have hkey : ∀ inv : Invoice, (inv.receive p.amount).id = inv.id := fun _ => rfl
  cases p.invoiceId with
  | none => simp [Function.comp_def]
  | some j =>
      simp only [Option.some.injEq]
      rw [find?_updateWhere hkey]
      cases hinv : s.invoices.find? (fun inv => decide (inv.id = i)) with
      | none => rfl
      | some inv =>
          have hid : inv.id = i := by simpa using List.find?_some hinv
          by_cases hj : j = i
          · simp [hid, hj, Invoice.receive]
          · have hj' : ¬ i = j := fun h => hj h.symm
            simp [hid, hj, hj']

theorem map_add_mul (paid : Option ℕ) (m n amount : ℕ) :
    (paid.map (fun x => x + m * amount)).map (fun x => x + n * amount) =
      paid.map (fun x => x + (m + n) * amount) := by
  rw [Option.map_map]
  congr 1
  funext x
  simp only [Function.comp]
  rw [Nat.add_mul, Nat.add_assoc]

theorem creditedOnce_iff {invoiceId : Option ℕ} {amount n : ℕ} {success : Prop}
    [Decidable success] {s s' : Ledger}
    (h : ∀ i ∈ invoiceId, s'.paidOf i = (s.paidOf i).map (fun x => x + n * amount)) :
    CreditedOnce invoiceId amount success s s' ↔
      (amount ≠ 0 → s.Linked invoiceId → n = if success then 1 else 0) := by
  constructor
  · rintro honce hne ⟨i, hi, hsome⟩
    obtain ⟨paid, hpaid⟩ := Option.ne_none_iff_exists'.mp hsome
    have heq := (h i hi).symm.trans (honce i hi)
    rw [hpaid, Option.map_some, Option.map_some, Option.some.injEq, Nat.add_left_cancel_iff] at heq
    split at heq
    · rw [if_pos ‹_›]
      exact Nat.eq_of_mul_eq_mul_right (Nat.pos_of_ne_zero hne) (heq.trans (Nat.one_mul amount).symm)
    · rw [if_neg ‹_›]
      exact (Nat.mul_eq_zero.mp heq).resolve_right hne
  · intro hn i hi
    rw [h i hi]
    cases hpaid : s.paidOf i with
    | none => rfl
    | some paid =>
        by_cases hne : amount = 0
        · simp [hne]
        · rw [hn hne ⟨i, hi, by simp [hpaid]⟩]
          split
          · simp
          · simp

/-! ### Paystack -/

section Charge

variable {reference : String}

theorem transactionOf_reference {s : Ledger} {t : PaymentTransaction}
    (h : s.transactionOf reference = some t) : t.transactionReference = reference := by
  have hmem : t ∈ s.transactions.filter (fun t => decide (t.transactionReference = reference)) := by
    rw [scalarOne_eq_some.mp h]
    exact List.mem_singleton_self t
  exact of_decide_eq_true (List.mem_filter.mp hmem).2

theorem transactionOf_setTransactionStatus {s : Ledger} {t : PaymentTransaction}
    (h : s.transactionOf reference = some t) (status : String) :
    (s.setTransactionStatus reference status).transactionOf reference =
      some { t with status := status } := by
  have hkey : ∀ x : PaymentTransaction,
      decide (({ x with status := status } : PaymentTransaction).transactionReference = reference) =
        decide (x.transactionReference = reference) := fun _ => rfl
  have ht := transactionOf_reference h
  unfold transactionOf at h ⊢
  rw [setTransactionStatus, filter_updateWhere hkey, scalarOne_updateWhere, h]
  simp [ht]

theorem nextPaymentId_not_mem (s : Ledger) : s.nextPaymentId ∉ s.payments.map Payment.id := by
  intro h
  have hle : s.nextPaymentId ≤ (s.payments.map Payment.id).max?.getD 0 := List.le_max?_getD_of_mem h
  exact absurd hle (Nat.not_succ_le_self _)

/-- The transaction after some callbacks. -/
def afterCallbacks (t : PaymentTransaction) (ds : List ChargeCallback) : PaymentTransaction :=
  ds.foldl (fun t d => { t with status := d.status t }) t

/-- A success for a transaction with a user, when the generated number is free: the payment is inserted
and credited. -/
theorem deliverCharge_success {s : Ledger} {t : PaymentTransaction} (hne : reference ≠ "")
    (ht : s.transactionOf reference = some t) (huser : t.userId ≠ none) (amount : ℕ) :
    ∃ p : Payment, p.invoiceId = t.invoiceId ∧ p.amount = amount ∧
      deliverCharge reference amount s (.success false) =
        { (({ s.setTransactionStatus reference "completed" with
            payments := s.payments ++ [p] } : Ledger).applyPayment p) with
          activated := (({ s.setTransactionStatus reference "completed" with
            payments := s.payments ++ [p] } : Ledger).applyPayment p).activated ++
              t.subscriptionId.toList } := by
  have hguard : ¬ (reference = "" ∨ s.transactionOf reference = none) := by simp [hne, ht]
  have hrows := scalarOne_eq_some.mp ht
  refine ⟨⟨s.nextPaymentId, t.invoiceId, amount, .card, .completed, some reference, false⟩, rfl, rfl, ?_⟩
  refine (if_neg hguard).trans ?_
  simp only [processPaystackSuccess, hrows]
  rw [if_neg (by simp [huser, s.nextPaymentId_not_mem])]
  rfl

/-- **Spec of one delivery**: the transaction gets the status of the callback, and a success that gets
through is credited. -/
theorem deliverCharge_spec {s : Ledger} {t : PaymentTransaction} (hne : reference ≠ "")
    (ht : s.transactionOf reference = some t) (amount : ℕ) (d : ChargeCallback) :
    (deliverCharge reference amount s d).transactionOf reference =
        some { t with status := d.status t } ∧
      ∀ i ∈ t.invoiceId, (deliverCharge reference amount s d).paidOf i =
        (s.paidOf i).map (fun n => n + [d].countP (ChargeCallback.inserts t) * amount) := by
  have hguard : ¬ (reference = "" ∨ s.transactionOf reference = none) := by simp [hne, ht]
  have hrows := scalarOne_eq_some.mp ht
  have hsame : d ≠ .failed → d.inserts t = false → deliverCharge reference amount s d = s →
      (deliverCharge reference amount s d).transactionOf reference =
          some { t with status := d.status t } ∧
        ∀ i ∈ t.invoiceId, (deliverCharge reference amount s d).paidOf i =
          (s.paidOf i).map (fun n => n + [d].countP (ChargeCallback.inserts t) * amount) := by
    intro hd hins hrun
    rw [hrun]
    exact ⟨by simp [ht, ChargeCallback.status, hd, hins], fun i _ => by simp [hins]⟩
  match d with
  | .failed =>
      have hrun : deliverCharge reference amount s .failed =
          s.setTransactionStatus reference "failed" := if_neg hguard
      rw [hrun]
      refine ⟨transactionOf_setTransactionStatus ht "failed", fun i _ => ?_⟩
      simp [paidOf, setTransactionStatus, Function.comp_def, ChargeCallback.inserts]
  | .success true => exact hsame (by simp) (by simp [ChargeCallback.inserts]) rfl
  | .success false =>
      by_cases huser : t.userId = none
      · refine hsame (by simp) (by simp [ChargeCallback.inserts, huser]) ((if_neg hguard).trans ?_)
        simp only [processPaystackSuccess, hrows, huser, true_or, if_true]
      · have hins : (ChargeCallback.success false).inserts t = true := by
          simp [ChargeCallback.inserts, huser]
        obtain ⟨p, hlink, hamount, hrun⟩ := deliverCharge_success hne ht huser amount
        rw [hrun]
        constructor
        · have hset := transactionOf_setTransactionStatus ht "completed"
          have hstatus : (ChargeCallback.success false).status t = "completed" := by
            simp [ChargeCallback.status, hins]
          rw [hstatus]
          simp only [transactionOf, applyPayment_transactions] at hset ⊢
          exact hset
        · intro i hi
          refine (paidOf_applyPayment p _ i).trans ?_
          rw [credit, if_pos (hlink.trans hi), hamount]
          simp [paidOf, setTransactionStatus, hins]

/-- **Run lemma**: the callbacks give the status one after the other, and the successes that get through
add up. -/
theorem chargeRun_spec {s : Ledger} {t : PaymentTransaction} (hne : reference ≠ "")
    (ht : s.transactionOf reference = some t) (amount : ℕ) (ds : List ChargeCallback) :
    (exec (deliverCharge reference amount) s ds).transactionOf reference =
        some (afterCallbacks t ds) ∧
      ∀ i ∈ t.invoiceId, (exec (deliverCharge reference amount) s ds).paidOf i =
        (s.paidOf i).map (fun n => n + ds.countP (ChargeCallback.inserts t) * amount) := by
  induction ds generalizing s t with
  | nil => exact ⟨ht, fun i _ => by simp⟩
  | cons d ds ih =>
      obtain ⟨hstatus, hpaid⟩ := deliverCharge_spec hne ht amount d
      obtain ⟨hstatus', hpaid'⟩ := ih hstatus
      refine ⟨hstatus', fun i hi => ?_⟩
      have hcount : (d :: ds).countP (ChargeCallback.inserts t) =
          [d].countP (ChargeCallback.inserts t) + ds.countP (ChargeCallback.inserts t) := by
        rw [← List.countP_append, List.singleton_append]
      rw [exec_cons, hpaid' i hi, hpaid i hi, map_add_mul, hcount]
      rfl

theorem afterCallbacks_userId (t : PaymentTransaction) (ds : List ChargeCallback) :
    (afterCallbacks t ds).userId = t.userId := by
  induction ds generalizing t with
  | nil => rfl
  | cons d ds ih => exact ih _

theorem afterCallbacks_concat (t : PaymentTransaction) (ds : List ChargeCallback)
    (d : ChargeCallback) :
    (afterCallbacks t (ds ++ [d])).status = d.status (afterCallbacks t ds) := by
  rw [afterCallbacks, List.foldl_append]
  rfl

theorem exists_inserts_of_completed {t : PaymentTransaction} {ds : List ChargeCallback}
    (h : (afterCallbacks t ds).status = "completed") :
    t.status = "completed" ∨ ∃ d ∈ ds, d.inserts t = true := by
  induction ds generalizing t with
  | nil => exact Or.inl h
  | cons d ds ih =>
      rcases ih h with hstatus | ⟨d', hd', hins⟩
      · simp only [ChargeCallback.status] at hstatus
        split at hstatus
        · exact absurd hstatus (by decide)
        · split at hstatus
          · exact Or.inr ⟨d, List.mem_cons_self, ‹_›⟩
          · exact Or.inl hstatus
      · exact Or.inr ⟨d', List.mem_cons_of_mem d hd', hins⟩

theorem failed_mem_of_failed {t : PaymentTransaction} {ds : List ChargeCallback}
    (h : (afterCallbacks t ds).status = "failed") : t.status = "failed" ∨ .failed ∈ ds := by
  induction ds generalizing t with
  | nil => exact Or.inl h
  | cons d ds ih =>
      rcases ih h with hstatus | hmem
      · simp only [ChargeCallback.status] at hstatus
        split at hstatus
        · rename_i hd
          exact Or.inr (hd ▸ List.mem_cons_self)
        · split at hstatus
          · exact absurd hstatus (by decide)
          · exact Or.inl hstatus
      · exact Or.inr (List.mem_cons_of_mem d hmem)

theorem transactionStatus_exec {s : Ledger} {t : PaymentTransaction} (hne : reference ≠ "")
    (ht : s.transactionOf reference = some t) (amount : ℕ) (ds : List ChargeCallback) :
    transactionStatus reference (exec (deliverCharge reference amount) s ds) =
      some (afterCallbacks t ds).status := by
  rw [transactionStatus, (chargeRun_spec hne ht amount ds).1]
  rfl

/-- A completed transaction stays so exactly when no failure comes after a success that gets through, nor
at all if it was completed from the start. -/
theorem neverReverts_charge_iff {s : Ledger} {t : PaymentTransaction} (hne : reference ≠ "")
    (ht : s.transactionOf reference = some t) (amount : ℕ) (ds : List ChargeCallback) :
    NeverReverts (deliverCharge reference amount) (transactionStatus reference) "completed" "failed"
        s ds ↔
      (t.status = "completed" → .failed ∉ ds) ∧
        ds.Pairwise (fun d d' => d.inserts t = true → d' ≠ .failed) := by
  have hstatus := fun l => transactionStatus_exec hne ht amount l
  have hfailed : ∀ k (hk : k < ds.length), ds[k] = .failed →
      (afterCallbacks t (ds.take (k + 1))).status = "failed" := by
    intro k hk hd
    rw [← List.take_append_getElem hk, afterCallbacks_concat, hd]
    rfl
  constructor
  · intro h
    constructor
    · intro hstart hmem
      obtain ⟨k, hk, hd⟩ := List.mem_iff_getElem.mp hmem
      refine h 0 (k + 1) (Nat.zero_le _) hk ?_ ?_
      · rw [hstatus, List.take_zero]
        exact congrArg some hstart
      · rw [hstatus, hfailed k hk hd]
    · rw [List.pairwise_iff_getElem]
      intro i j hi hj hij hd hd'
      refine h (i + 1) (j + 1) (Nat.succ_le_succ hij.le) hj ?_ ?_
      · rw [hstatus, ← List.take_append_getElem hi, afterCallbacks_concat]
        have hins : ds[i].inserts (afterCallbacks t (ds.take i)) = true := by
          rw [← hd, ChargeCallback.inserts, ChargeCallback.inserts, afterCallbacks_userId]
        have hne : ds[i] ≠ .failed := by
          rintro heq
          simp [heq, ChargeCallback.inserts] at hd
        simp [ChargeCallback.status, hins, hne]
      · rw [hstatus, hfailed j hj hd']
  · rintro ⟨hstart, hpair⟩ m n hmn _ hc hf
    rw [hstatus, Option.some.injEq] at hc hf
    have hsplit : ds.take n = ds.take m ++ (ds.take n).drop m := by
      conv_lhs =>
        rw [← List.take_append_drop m (ds.take n), List.take_take, Nat.min_eq_left hmn]
    have hlate : .failed ∈ (ds.take n).drop m := by
      rw [hsplit, afterCallbacks, List.foldl_append] at hf
      rcases failed_mem_of_failed (t := afterCallbacks t (ds.take m)) hf with hbefore | hmem
      · exact absurd (hc.symm.trans hbefore) (by decide)
      · exact hmem
    rcases exists_inserts_of_completed hc with hdone | ⟨d, hd, hins⟩
    · exact hstart hdone (List.mem_of_mem_take (List.mem_of_mem_drop hlate))
    · have htake := hpair.sublist (List.take_sublist n ds)
      rw [hsplit] at htake
      exact (List.pairwise_append.mp htake).2.2 d hd .failed hlate hins rfl

theorem charge_credits_once_iff {s : Ledger} {t : PaymentTransaction}
    (hkeyed : Keyed PaymentTransaction.transactionReference s.transactions)
    (ht : t ∈ s.transactions) (hne : t.transactionReference ≠ "") (amount : ℕ)
    (ds : List ChargeCallback) :
    (CreditedOnce t.invoiceId amount (∃ d ∈ ds, d.isSuccess = true) s
          (exec (deliverCharge t.transactionReference amount) s ds) ∧
        NeverReverts (deliverCharge t.transactionReference amount)
          (transactionStatus t.transactionReference) "completed" "failed" s ds) ↔
      (amount ≠ 0 → s.Linked t.invoiceId → (∃ d ∈ ds, d.isSuccess = true) →
          t.userId ≠ none ∧ ds.count (.success false) = 1) ∧
        (t.status = "completed" → .failed ∉ ds) ∧
        ds.Pairwise (fun d d' => t.userId ≠ none ∧ d = .success false → d' ≠ .failed) := by
  have hfind : s.transactionOf t.transactionReference = some t :=
    scalarOne_eq_some.mpr (hkeyed.filter_key ht)
  have hrevert := neverReverts_charge_iff hne hfind amount ds
  simp only [ChargeCallback.inserts, decide_eq_true_eq] at hrevert
  refine and_congr ?_ hrevert
  rw [creditedOnce_iff (chargeRun_spec hne hfind amount ds).2]
  refine forall₂_congr (fun _ _ => ?_)
  have hcount : ds.countP (ChargeCallback.inserts t) =
      if t.userId ≠ none then ds.count (.success false) else 0 := by
    split
    · rename_i huser
      exact List.countP_congr fun d _ => by simp [ChargeCallback.inserts, huser]
    · rename_i huser
      exact List.countP_eq_zero.mpr fun d _ => by simp [ChargeCallback.inserts, huser]
  rw [hcount]
  by_cases hsuccess : ∃ d ∈ ds, d.isSuccess = true
  · by_cases huser : t.userId ≠ none
    · simp [hsuccess, huser]
    · simp [hsuccess, huser]
  · have hnone : ds.count (.success false) = 0 :=
      List.count_eq_zero.mpr fun hmem => hsuccess ⟨_, hmem, rfl⟩
    simp [hsuccess, hnone]

end Charge

/-! ### M-PESA -/

section Mpesa

variable {checkoutRequestId : String}

theorem confirmedPayment_eq (s : Ledger) {answer : Option MpesaAnswer}
    (hown : ∀ x ∈ answer, x.checkoutRequestId = some checkoutRequestId) :
    s.confirmedPayment answer =
      if Confirms checkoutRequestId answer = true then s.paymentUnder checkoutRequestId else none := by
  cases answer with
  | none => rfl
  | some x =>
      obtain ⟨success, paymentSuccessful, id⟩ := x
      have hid : id = some checkoutRequestId := hown _ rfl
      subst hid
      cases success with
      | false => rfl
      | true =>
          cases paymentSuccessful with
          | false => rfl
          | true =>
              simp only [confirmedPayment, Confirms, paymentUnder, decide_true, if_true]
              split
              · rfl
              · unfold scalarOne
                split <;> simp_all

/-- A payment that cannot be told by its reference is never credited. -/
theorem deliverMpesa_of_none {s : Ledger} (h : s.paymentUnder checkoutRequestId = none)
    {answer : Option MpesaAnswer}
    (hown : ∀ x ∈ answer, x.checkoutRequestId = some checkoutRequestId) :
    s.deliverMpesa answer = s := by
  have hnone : s.confirmedPayment answer = none := by
    rw [confirmedPayment_eq s hown, h, ite_self]
  simp only [deliverMpesa, handleMpesaCallback, hnone]

theorem mpesaRun_of_none {s : Ledger} (h : s.paymentUnder checkoutRequestId = none)
    {answers : List (Option MpesaAnswer)}
    (hown : ∀ a ∈ answers, ∀ x ∈ a, x.checkoutRequestId = some checkoutRequestId) :
    exec deliverMpesa s answers = s := by
  induction answers with
  | nil => rfl
  | cons a answers ih =>
      rw [exec_cons, deliverMpesa_of_none h (hown a List.mem_cons_self)]
      exact ih (fun b hb => hown b (List.mem_cons_of_mem a hb))

theorem paymentUnder_setStatus {s : Ledger} {p : Payment}
    (h : s.paymentUnder checkoutRequestId = some p) (status : PaymentStatus) :
    (s.setStatus (fun x => decide (x.id = p.id)) status).paymentUnder checkoutRequestId =
      some { p with status := status } := by
  have hkey : ∀ x : Payment,
      decide (({ x with status := status } : Payment).referenceNumber = some checkoutRequestId) =
        decide (x.referenceNumber = some checkoutRequestId) := fun _ => rfl
  unfold paymentUnder at h ⊢
  split at h
  · cases h
  · rw [if_neg ‹_›, setStatus, filter_updateWhere hkey, scalarOne_updateWhere, h]
    simp

/-- **Spec of one delivery**: a confirming answer is credited. -/
theorem deliverMpesa_spec {s : Ledger} {p : Payment}
    (h : s.paymentUnder checkoutRequestId = some p) {answer : Option MpesaAnswer}
    (hown : ∀ x ∈ answer, x.checkoutRequestId = some checkoutRequestId) :
    (∃ status, (s.deliverMpesa answer).paymentUnder checkoutRequestId =
        some { p with status := status }) ∧
      ∀ i ∈ p.invoiceId, (s.deliverMpesa answer).paidOf i =
        (s.paidOf i).map (fun n => n + [answer].countP (Confirms checkoutRequestId) * p.amount) := by
  have hconf := confirmedPayment_eq s hown
  by_cases hc : Confirms checkoutRequestId answer = true
  · rw [if_pos hc, h] at hconf
    have hrun : s.deliverMpesa answer =
        (s.setStatus (fun x => decide (x.id = p.id)) .completed).applyPayment p := by
      simp only [deliverMpesa, handleMpesaCallback, hconf]
    rw [hrun]
    constructor
    · refine ⟨.completed, ?_⟩
      have hset := paymentUnder_setStatus h .completed
      simp only [paymentUnder, applyPayment_payments] at hset ⊢
      exact hset
    · intro i hi
      rw [paidOf_applyPayment, credit, if_pos (Option.mem_def.mp hi)]
      simp [hc, paidOf, setStatus]
  · rw [if_neg hc] at hconf
    have hrun : s.deliverMpesa answer = s := by
      simp only [deliverMpesa, handleMpesaCallback, hconf]
    rw [hrun]
    exact ⟨⟨p.status, h⟩, fun i _ => by simp [hc]⟩

/-- **Run lemma**: the confirming answers add up. -/
theorem mpesaRun_spec {s : Ledger} {p : Payment}
    (h : s.paymentUnder checkoutRequestId = some p) {answers : List (Option MpesaAnswer)}
    (hown : ∀ a ∈ answers, ∀ x ∈ a, x.checkoutRequestId = some checkoutRequestId) :
    ∀ i ∈ p.invoiceId, (exec deliverMpesa s answers).paidOf i =
      (s.paidOf i).map (fun n => n + answers.countP (Confirms checkoutRequestId) * p.amount) := by
  induction answers generalizing s p with
  | nil => exact fun i _ => by simp
  | cons a answers ih =>
      intro i hi
      obtain ⟨⟨status, hnext⟩, hpaid⟩ := deliverMpesa_spec h (hown a List.mem_cons_self)
      have hrest := ih hnext (fun b hb => hown b (List.mem_cons_of_mem a hb)) i hi
      have hcount : (a :: answers).countP (Confirms checkoutRequestId) =
          [a].countP (Confirms checkoutRequestId) + answers.countP (Confirms checkoutRequestId) := by
        rw [← List.countP_append, List.singleton_append]
      rw [exec_cons, hrest, hpaid i hi, map_add_mul, hcount]

theorem paymentStatus_deliverMpesa {s : Ledger} {id : ℕ} (h : s.paymentStatus id = some .completed)
    (answer : Option MpesaAnswer) : (s.deliverMpesa answer).paymentStatus id = some .completed := by
  unfold deliverMpesa handleMpesaCallback
  split
  · have hkey : ∀ x : Payment, ({ x with status := .completed } : Payment).id = x.id := fun _ => rfl
    unfold paymentStatus at h ⊢
    rw [applyPayment_payments, setStatus, find?_updateWhere hkey]
    obtain ⟨x, hx, hstatus⟩ := Option.map_eq_some_iff.mp h
    rw [hx, Option.map_some, Option.map_some, Option.some.injEq]
    split
    · rfl
    · exact hstatus
  · exact h

theorem neverReverts_mpesa (s : Ledger) (id : ℕ) (answers : List (Option MpesaAnswer)) :
    NeverReverts deliverMpesa (paymentStatus id) .completed .failed s answers := by
  intro m n hmn _ hc hf
  have hsplit : answers.take n = answers.take m ++ (answers.take n).drop m := by
    conv_lhs => rw [← List.take_append_drop m (answers.take n), List.take_take, Nat.min_eq_left hmn]
  rw [hsplit, exec_append] at hf
  have hkeep := exec_of_invariant (I := fun s => paymentStatus id s = some .completed)
    (fun _ a h => paymentStatus_deliverMpesa h a) hc ((answers.take n).drop m)
  exact absurd (hkeep.symm.trans hf) (by decide)

theorem mpesa_credits_once_iff {s : Ledger} {p : Payment} (hp : p ∈ s.payments)
    (href : p.referenceNumber = some checkoutRequestId) {answers : List (Option MpesaAnswer)}
    (hown : ∀ a ∈ answers, ∀ x ∈ a, x.checkoutRequestId = some checkoutRequestId) :
    (CreditedOnce p.invoiceId p.amount (answers ≠ []) s (exec deliverMpesa s answers) ∧
        NeverReverts deliverMpesa (paymentStatus p.id) .completed .failed s answers) ↔
      (p.amount ≠ 0 → s.Linked p.invoiceId → answers ≠ [] →
        s.paymentUnder checkoutRequestId = some p ∧
          answers.countP (Confirms checkoutRequestId) = 1) := by
  rw [and_iff_left (neverReverts_mpesa s p.id answers)]
  cases hunder : s.paymentUnder checkoutRequestId with
  | none =>
      have hrun := mpesaRun_of_none hunder hown
      rw [creditedOnce_iff (n := 0) (fun i _ => by simp [hrun])]
      refine forall₂_congr (fun _ _ => ?_)
      by_cases hnil : answers = []
      · simp [hnil]
      · simp [hnil]
  | some q =>
      have hpq : p = q := by
        have hrows : s.payments.filter
            (fun p => decide (p.referenceNumber = some checkoutRequestId)) = [q] := by
          unfold paymentUnder at hunder
          split at hunder
          · cases hunder
          · exact scalarOne_eq_some.mp hunder
        have hmem : p ∈ s.payments.filter
            (fun p => decide (p.referenceNumber = some checkoutRequestId)) :=
          List.mem_filter.mpr ⟨hp, decide_eq_true href⟩
        rw [hrows] at hmem
        exact List.mem_singleton.mp hmem
      subst hpq
      rw [creditedOnce_iff (mpesaRun_spec hunder hown)]
      refine forall₂_congr (fun _ _ => ?_)
      by_cases hnil : answers = []
      · simp [hnil]
      · simp [hnil]

end Mpesa

/-- An invoice of 10.00 with two Paystack transactions, one of them without a user, and a pending M-PESA
payment over all of it. -/
def twoCharges : Ledger where
  payments := [⟨1, some 1, 1000, .mpesa, .pending, some "ws_1", false⟩]
  invoices := [⟨1, none, 1000, 0, 1000, .pending⟩]
  transactions := [⟨"ref-1", some 7, some 1, none, "pending"⟩, ⟨"ref-2", none, some 1, none, "pending"⟩]
  activated := []

end Ledger

end IspBilling
