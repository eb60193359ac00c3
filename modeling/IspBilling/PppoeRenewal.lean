import IspBilling.Ledger
import IspBilling.Plan
import IspBilling.Subscription

/-! # Renewing a PPPoE subscription

A customer chooses a plan in `renew_subscription` (`app/api/v1/portal/pppoe.py`), which records a
pending payment and hands the customer to the treasury; `verify_pppoe_payment` asks the treasury
and, once the payment is confirmed, marks it as completed and runs
`_process_pppoe_subscription_renewal`.

The renewal does not know the chosen plan: it takes the plan of the user's most recent
subscription.  It extends that subscription if it is active.  Otherwise it adds a new one without
a `router_id`; the column is not nullable, so the insert fails, and the request with it.  Without
a user, a subscription or a plan the renewal returns silently, and the payment is committed as
completed.

`PppoePortal.renewal_buys_iff` says when the payment buys the chosen plan.  `PppoeRace` lets any
number of verifications of one payment overlap: each reads the payment without a lock, and
concludes later.  The flush of the new status locks the payment row until the commit, so what
follows the treasury's answer is one step; but no status is read again after the lock. -/

namespace IspBilling

open Rows Runs

/-! ### The portal of an organization -/

/-- The columns of `service_plans` that the portal reads. -/
structure RenewalPlan where
  id : ℕ
  organizationId : ℕ
  name : String
  price : ℤ
  currency : String
  validityDays : ℤ
deriving DecidableEq, Repr

/-- The columns of `subscriptions` that the renewal reads. -/
structure PppoeSubscription where
  id : ℕ
  organizationId : Option ℕ
  userId : ℕ
  planId : ℕ
  status : SubscriptionStatus
  endDate : Option ℤ
  createdAt : ℤ
deriving DecidableEq, Repr

/-- The columns of `payments` of a renewal. -/
structure PppoePayment where
  id : ℕ
  organizationId : ℕ
  userId : ℕ
  amount : ℤ
  currency : String
  referenceNumber : String
  status : PaymentStatus
  notes : String
  /-- The treasury's payment intent. -/
  transactionId : Option String
  paymentDate : Option ℤ
deriving DecidableEq, Repr

/-- The tables of one organization. -/
structure PppoePortal where
  organizationId : ℕ
  /-- The organization's UUID, under which the treasury knows it. -/
  tenantUuid : Option String
  users : List ℕ
  plans : List RenewalPlan
  subscriptions : List PppoeSubscription
  payments : List PppoePayment
deriving DecidableEq, Repr

/-- `SUCCESS_STATUSES`. -/
def successStatuses : List String := ["succeeded", "success", "completed", "paid"]

/-- `FAILURE_STATUSES`. -/
def failureStatuses : List String := ["failed", "cancelled", "canceled", "expired"]

/-- The answer of `renew_subscription`. -/
inductive RenewalResponse where
  | success (reference : String) (message : String)
  | error (statusCode : ℕ) (detail : String)
deriving DecidableEq, Repr

/-- The answer of `verify_pppoe_payment`; `data` are the reference, the amount and the
currency. -/
structure VerifyResponse where
  success : Bool
  status : String
  message : String
  data : Option (String × ℤ × String)
deriving DecidableEq, Repr

/-- The payment that `renew_subscription` records for the plan. -/
def renewalPayment (plan : RenewalPlan) (organizationId userId paymentId : ℕ) (reference : String) :
    PppoePayment where
  id := paymentId
  organizationId := organizationId
  userId := userId
  amount := plan.price
  currency := plan.currency
  referenceNumber := reference
  status := .pending
  notes := "PPPoE Subscription Renewal - " ++ plan.name
  transactionId := none
  paymentDate := none

/-- The reference, amount and currency of a response. -/
def PppoePayment.data (p : PppoePayment) : String × ℤ × String :=
  (p.referenceNumber, p.amount, p.currency)

namespace PppoePortal

/-- `renew_subscription`, with the intent that the treasury answers. -/
def renewSubscription (s : PppoePortal) (planId userId paymentId : ℕ) (reference : String)
    (intent : Option String) : PppoePortal × RenewalResponse :=
  match s.plans.find? (fun p => decide (p.id = planId ∧ p.organizationId = s.organizationId)) with
  | none => (s, .error 404 "Package not found")
  | some plan =>
      if s.tenantUuid = none then
        (s, .error 400 "Unable to resolve billing tenant for this organization")
      else
        let payment := renewalPayment plan s.organizationId userId paymentId reference
        match intent with
        | none =>
            ({ s with payments := s.payments ++ [{ payment with status := .failed }] },
              .error 502 "Payment service is temporarily unavailable. Please try again.")
        | some intentId =>
            ({ s with payments := s.payments ++ [{ payment with transactionId := some intentId }] },
              .success reference "Choose a payment method to complete your renewal.")

def ownedBy (s : PppoePortal) (userId : ℕ) (x : PppoeSubscription) : Prop :=
  x.userId = userId ∧ x.organizationId = some s.organizationId

instance (s : PppoePortal) (userId : ℕ) : DecidablePred (s.ownedBy userId) := fun x =>
  inferInstanceAs (Decidable (x.userId = userId ∧ x.organizationId = some s.organizationId))

def existingSubscription (s : PppoePortal) (userId : ℕ) : Option PppoeSubscription :=
  latest PppoeSubscription.createdAt (s.subscriptions.filter (fun x => decide (s.ownedBy userId x)))

/-- What `_process_pppoe_subscription_renewal` does. -/
inductive Renewal where
  /-- A silent return. -/
  | skipped
  /-- The subscription is extended. -/
  | extended (subscriptionId : ℕ) (endDate : ℤ)
  /-- The insert of a subscription without router fails. -/
  | raised
deriving DecidableEq, Repr

/-- `_process_pppoe_subscription_renewal`. -/
def processRenewal (s : PppoePortal) (payment : PppoePayment) (now : ℤ) : Renewal :=
  if payment.userId ∉ s.users then .skipped
  else
    match s.existingSubscription payment.userId with
    | none => .skipped
    | some existing =>
        match s.plans.find? (fun p => decide (p.id = existing.planId)) with
        | none => .skipped
        | some plan =>
            if existing.status = .active then
              match existing.endDate with
              | some endDate => .extended existing.id (endDate + days plan.validityDays)
              | none => .extended existing.id (now + days plan.validityDays)
            else .raised

def extend (s : PppoePortal) (subscriptionId : ℕ) (endDate : ℤ) : PppoePortal :=
  { s with
    subscriptions := updateWhere (fun x => decide (x.id = subscriptionId))
      (fun x => { x with endDate := some endDate }) s.subscriptions }

def setPaymentStatus (s : PppoePortal) (paymentId : ℕ) (status : PaymentStatus)
    (paymentDate : Option ℤ) : PppoePortal :=
  { s with
    payments := updateWhere (fun p => decide (p.id = paymentId))
      (fun p => { p with status := status, paymentDate := paymentDate.or p.paymentDate })
      s.payments }

/-- The rest of `verify_pppoe_payment` after the treasury's answer, for the payment as it was
loaded.  No response means that the request fails and is rolled back. -/
def conclude (s : PppoePortal) (loaded : PppoePayment) (answer : Option String) (now : ℤ) :
    PppoePortal × Option VerifyResponse :=
  match answer with
  | none => (s, some ⟨false, "error", "Unable to verify payment with treasury. Please try again.", none⟩)
  | some treasuryStatus =>
      if treasuryStatus ∈ failureStatuses then
        (if loaded.status = .failed then s else s.setPaymentStatus loaded.id .failed none,
          some ⟨false, treasuryStatus, "Payment " ++ treasuryStatus, none⟩)
      else if treasuryStatus ∉ successStatuses then
        (s, some ⟨false, "pending", "Payment is still pending", none⟩)
      else
        let t := s.setPaymentStatus loaded.id .completed (some now)
        let response : VerifyResponse := ⟨true, "success",
          "Payment verified and subscription renewed", some loaded.data⟩
        match s.processRenewal loaded now with
        | .skipped => (t, some response)
        | .extended subscriptionId endDate => (t.extend subscriptionId endDate, some response)
        | .raised => (s, none)

/-- `verify_pppoe_payment` up to the question to the treasury: the payment to ask about, or the
response.  The query fails when several payments share the reference. -/
def lookupPayment (s : PppoePortal) (reference : String) : PppoePayment ⊕ Option VerifyResponse :=
  match s.payments.filter (fun p => decide (p.referenceNumber = reference ∧
      p.organizationId = s.organizationId)) with
  | [] => .inr (some ⟨false, "not_found", "Payment not found for this reference", none⟩)
  | [p] =>
      if p.status = .completed then
        .inr (some ⟨true, "success", "Payment already processed", some p.data⟩)
      else if p.transactionId.getD "" = "" then
        .inr (some ⟨false, "error", "No treasury payment intent associated with this payment", none⟩)
      else .inl p
  | _ => .inr none

/-- `verify_pppoe_payment`; without a tenant UUID the treasury is not asked. -/
def verifyPppoePayment (s : PppoePortal) (reference : String) (answer : Option String) (now : ℤ) :
    PppoePortal × Option VerifyResponse :=
  match s.lookupPayment reference with
  | .inr response => (s, response)
  | .inl p => s.conclude p (if s.tenantUuid = none then none else answer) now

/-! ### What a payment buys -/

def activeSubscription (s : PppoePortal) (userId : ℕ) : Option PppoeSubscription :=
  latest PppoeSubscription.createdAt
    ((s.subscriptions.filter (fun x => decide (s.ownedBy userId x))).filter
      (fun x => decide (x.status = .active)))

/-- The end date that a payment for the plan should give: the plan's validity, from now or from
the end of the active subscription, whichever is later. -/
def paidUntil (s : PppoePortal) (userId : ℕ) (plan : RenewalPlan) (now : ℤ) : ℤ :=
  (match (s.activeSubscription userId).bind PppoeSubscription.endDate with
    | some endDate => max now endDate
    | none => now) + days plan.validityDays

/-- The subscription is the user's, active, on the plan, and ends at `until`. -/
def Covers (s : PppoePortal) (userId : ℕ) (plan : RenewalPlan) (endDate : ℤ)
    (x : PppoeSubscription) : Prop :=
  s.ownedBy userId x ∧ x.status = .active ∧ x.planId = plan.id ∧ x.endDate = some endDate

instance (s : PppoePortal) (userId : ℕ) (plan : RenewalPlan) (endDate : ℤ) :
    DecidablePred (s.Covers userId plan endDate) := fun x =>
  inferInstanceAs (Decidable (s.ownedBy userId x ∧ x.status = .active ∧ x.planId = plan.id ∧
    x.endDate = some endDate))

/-- The user has an active subscription on the plan that ends at `endDate`. -/
def Bought (s : PppoePortal) (userId : ℕ) (plan : RenewalPlan) (endDate : ℤ) : Prop :=
  ∃ x ∈ s.subscriptions, s.Covers userId plan endDate x

instance (s : PppoePortal) (userId : ℕ) (plan : RenewalPlan) (endDate : ℤ) :
    Decidable (s.Bought userId plan endDate) :=
  inferInstanceAs (Decidable (∃ x ∈ s.subscriptions, s.Covers userId plan endDate x))

def paymentStatus (s : PppoePortal) (paymentId : ℕ) : Option PaymentStatus :=
  (s.payments.find? (fun p => decide (p.id = paymentId))).map PppoePayment.status

/-- The subscription `x` is the one that a payment of the user extends. -/
def Renews (s : PppoePortal) (userId : ℕ) (x : PppoeSubscription) : Prop :=
  userId ∈ s.users ∧ s.existingSubscription userId = some x ∧ x.status = .active ∧
    ∃ q ∈ s.plans, q.id = x.planId

instance (s : PppoePortal) (userId : ℕ) : DecidablePred (s.Renews userId) := fun x =>
  inferInstanceAs (Decidable (userId ∈ s.users ∧ s.existingSubscription userId = some x ∧
    x.status = .active ∧ ∃ q ∈ s.plans, q.id = x.planId))

/-- The user's most recent subscription is active, on the chosen plan and not past its end date;
or another subscription of the user happens to be what was paid for already. -/
def RenewsChosen (s : PppoePortal) (userId : ℕ) (plan : RenewalPlan) (now : ℤ) : Prop :=
  (∃ x ∈ s.subscriptions, s.Renews userId x ∧ x.planId = plan.id ∧ ∀ e ∈ x.endDate, now ≤ e) ∨
    ∃ y ∈ s.subscriptions, s.Covers userId plan (s.paidUntil userId plan now) y ∧
      ∀ x ∈ s.subscriptions, s.Renews userId x → y.id ≠ x.id

instance (s : PppoePortal) (userId : ℕ) (plan : RenewalPlan) (now : ℤ) :
    Decidable (s.RenewsChosen userId plan now) :=
  inferInstanceAs (Decidable ((∃ x ∈ s.subscriptions, s.Renews userId x ∧ x.planId = plan.id ∧
      ∀ e ∈ x.endDate, now ≤ e) ∨
    ∃ y ∈ s.subscriptions, s.Covers userId plan (s.paidUntil userId plan now) y ∧
      ∀ x ∈ s.subscriptions, s.Renews userId x → y.id ≠ x.id))

theorem mem_of_existingSubscription {s : PppoePortal} {userId : ℕ} {x : PppoeSubscription}
    (h : s.existingSubscription userId = some x) : x ∈ s.subscriptions ∧ s.ownedBy userId x := by
  have hmem := (latest_spec h).1
  rw [List.mem_filter, decide_eq_true_eq] at hmem
  exact hmem

theorem activeSubscription_eq {s : PppoePortal} {userId : ℕ} {x : PppoeSubscription}
    (h : s.existingSubscription userId = some x) (hx : x.status = .active) :
    s.activeSubscription userId = some x :=
  latest_filter h (decide_eq_true hx)

/-- **Inversion of the renewal**: it extends the subscription that the payment renews, by the
validity of that subscription's plan, and nothing else. -/
theorem processRenewal_cases (s : PppoePortal) (p : PppoePayment) (now : ℤ) :
    ((∀ x, ¬ s.Renews p.userId x) ∧ ∀ i e, s.processRenewal p now ≠ .extended i e) ∨
      ∃ x q, s.Renews p.userId x ∧ q ∈ s.plans ∧ q.id = x.planId ∧
        s.processRenewal p now = .extended x.id (x.endDate.getD now + days q.validityDays) := by
  unfold processRenewal
  by_cases huser : p.userId ∈ s.users
  · cases hexisting : s.existingSubscription p.userId with
    | none =>
        left
        refine ⟨?_, by simp [huser]⟩
        rintro x ⟨_, hx, _⟩
        rw [hexisting] at hx
        cases hx
    | some x =>
        cases hplan : s.plans.find? (fun q => decide (q.id = x.planId)) with
        | none =>
            left
            refine ⟨?_, by simp [huser, hplan]⟩
            rintro y ⟨_, hy, _, q, hq, hid⟩
            rw [hexisting] at hy
            obtain rfl := Option.some.inj hy
            exact absurd (decide_eq_true hid) (List.find?_eq_none.mp hplan q hq)
        | some q =>
            have hq := List.mem_of_find?_eq_some hplan
            have hid : q.id = x.planId := by simpa using List.find?_some hplan
            by_cases hactive : x.status = .active
            · right
              refine ⟨x, q, ⟨huser, hexisting, hactive, q, hq, hid⟩, hq, hid, ?_⟩
              cases hend : x.endDate with
              | none => simp [huser, hplan, hactive, hend]
              | some e => simp [huser, hplan, hactive, hend]
            · left
              refine ⟨?_, by simp [huser, hplan, hactive]⟩
              rintro y ⟨_, hy, hyactive, _⟩
              rw [hexisting] at hy
              obtain rfl := Option.some.inj hy
              exact hactive hyactive
  · left
    refine ⟨?_, by simp [huser]⟩
    rintro x ⟨hmem, _⟩
    exact huser hmem

theorem not_mem_failureStatuses {answer : String} (h : answer ∈ successStatuses) :
    answer ∉ failureStatuses := by
  revert h
  simp only [successStatuses, failureStatuses, List.mem_cons, List.not_mem_nil, or_false]
  rintro (rfl | rfl | rfl | rfl) <;> decide

theorem conclude_success (s : PppoePortal) (p : PppoePayment) {answer : String}
    (hanswer : answer ∈ successStatuses) (now : ℤ) :
    (s.conclude p (some answer) now).1.organizationId = s.organizationId ∧
      (s.conclude p (some answer) now).1.subscriptions =
        match s.processRenewal p now with
        | .extended i e => (s.extend i e).subscriptions
        | _ => s.subscriptions := by
  simp only [conclude, not_mem_failureStatuses hanswer, hanswer, if_false, not_true_eq_false]
  cases s.processRenewal p now with
  | skipped => exact ⟨rfl, rfl⟩
  | extended i e => exact ⟨rfl, rfl⟩
  | raised => exact ⟨rfl, rfl⟩

/-- The extension of `x` to `e` gives what was paid for if `x` is on the plan and `e` the right
date, or if another subscription was that already. -/
theorem bought_extend_iff {s t : PppoePortal} (hsubs : Keyed PppoeSubscription.id s.subscriptions)
    {userId : ℕ} {x : PppoeSubscription} (hx : x ∈ s.subscriptions) (howned : s.ownedBy userId x)
    (hactive : x.status = .active) {e : ℤ} (horg : t.organizationId = s.organizationId)
    (ht : t.subscriptions = (s.extend x.id e).subscriptions) (plan : RenewalPlan) (endDate : ℤ) :
    t.Bought userId plan endDate ↔ (x.planId = plan.id ∧ e = endDate) ∨
      ∃ y ∈ s.subscriptions, s.Covers userId plan endDate y ∧ y.id ≠ x.id := by
  have hcovers : ∀ y, t.Covers userId plan endDate y ↔ s.Covers userId plan endDate y := by
    intro y
    unfold Covers ownedBy
    rw [horg]
  unfold Bought
  simp only [hcovers, ht]
  constructor
  · rintro ⟨z, hz, hcov⟩
    obtain ⟨y, hy, rfl⟩ := mem_updateWhere.mp hz
    by_cases hid : y.id = x.id
    · obtain rfl := hsubs.eq_of_key hy hx hid
      simp only [decide_true, if_true] at hcov
      exact Or.inl ⟨hcov.2.2.1, Option.some.inj hcov.2.2.2⟩
    · simp only [hid, decide_false, Bool.false_eq_true, if_false] at hcov
      exact Or.inr ⟨y, hy, hcov, hid⟩
  · rintro (⟨hplan, rfl⟩ | ⟨y, hy, hcov, hid⟩)
    · refine ⟨{ x with endDate := some e }, mem_updateWhere.mpr ⟨x, hx, by simp⟩, ?_⟩
      exact ⟨howned, hactive, hplan, rfl⟩
    · exact ⟨y, mem_updateWhere.mpr ⟨y, hy, by simp [hid]⟩, hcov⟩

/-- The extension runs from the end date, so it reaches the date that was paid for exactly if the
end date is not past. -/
theorem extension_eq_paidUntil_iff {s : PppoePortal} {userId : ℕ} {x : PppoeSubscription}
    (hx : s.Renews userId x) (plan : RenewalPlan) (now : ℤ) :
    x.endDate.getD now + days plan.validityDays = s.paidUntil userId plan now ↔
      ∀ e ∈ x.endDate, now ≤ e := by
  unfold paidUntil
  rw [activeSubscription_eq hx.2.1 hx.2.2.1, Option.bind_some]
  cases x.endDate with
  | none => simp
  | some e => simp

/-- The payment was recorded by `renew_subscription` for the plan, and has only been confirmed or
refused since. -/
def RecordedFor (p : PppoePayment) (plan : RenewalPlan) (organizationId userId paymentId : ℕ)
    (reference : String) : Prop :=
  p = { renewalPayment plan organizationId userId paymentId reference with
    status := p.status, transactionId := p.transactionId, paymentDate := p.paymentDate }

theorem bought_unchanged_iff {s t : PppoePortal} {userId : ℕ} {plan : RenewalPlan} {now : ℤ}
    (hnone : ∀ x, ¬ s.Renews userId x) (horg : t.organizationId = s.organizationId)
    (hsame : t.subscriptions = s.subscriptions) :
    t.Bought userId plan (s.paidUntil userId plan now) ↔ s.RenewsChosen userId plan now := by
  unfold RenewsChosen Bought Covers ownedBy
  rw [hsame, horg]
  constructor
  · rintro ⟨y, hy, hcov⟩
    exact Or.inr ⟨y, hy, hcov, fun x _ hx => absurd hx (hnone x)⟩
  · rintro (⟨x, _, hx, _⟩ | ⟨y, hy, hcov, _⟩)
    · exact absurd hx (hnone x)
    · exact ⟨y, hy, hcov⟩

theorem renewsChosen_extended_iff {s : PppoePortal} {userId : ℕ} {plan q : RenewalPlan}
    {x : PppoeSubscription} {now : ℤ} (hplans : Keyed RenewalPlan.id s.plans)
    (hplan : plan ∈ s.plans) (hmem : x ∈ s.subscriptions) (hx : s.Renews userId x)
    (hq : q ∈ s.plans) (hid : q.id = x.planId) :
    (x.planId = plan.id ∧
          x.endDate.getD now + days q.validityDays = s.paidUntil userId plan now ∨
        ∃ y ∈ s.subscriptions, s.Covers userId plan (s.paidUntil userId plan now) y ∧ y.id ≠ x.id) ↔
      s.RenewsChosen userId plan now := by
  have honly : ∀ y, s.Renews userId y → y = x := by
    intro y hy
    exact Option.some.inj (hy.2.1.symm.trans hx.2.1)
  unfold RenewsChosen
  refine or_congr ?_ ?_
  · constructor
    · rintro ⟨hchosen, heq⟩
      obtain rfl := hplans.eq_of_key hq hplan (hid.trans hchosen)
      exact ⟨x, hmem, hx, hchosen, (extension_eq_paidUntil_iff hx q now).mp heq⟩
    · rintro ⟨y, _, hy, hchosen, hdate⟩
      obtain rfl := honly y hy
      obtain rfl := hplans.eq_of_key hq hplan (hid.trans hchosen)
      exact ⟨hchosen, (extension_eq_paidUntil_iff hx q now).mpr hdate⟩
  · refine exists_congr (fun y => and_congr_right (fun _ => and_congr_right (fun _ => ?_)))
    constructor
    · intro hne z _ hz
      rw [honly z hz]
      exact hne
    · intro hall
      exact hall x hmem hx

/-- **Exact condition**: when the treasury confirms the payment that was recorded for `plan`, the
user has an active subscription on `plan` until the date that was paid for, and the payment is
completed only then, if and only if the user's most recent subscription is active, on this plan
and not past its end, or another subscription was that already. -/
theorem renewal_buys_iff (s : PppoePortal) (hplans : Keyed RenewalPlan.id s.plans)
    (hsubs : Keyed PppoeSubscription.id s.subscriptions) {plan : RenewalPlan} (hplan : plan ∈ s.plans)
    {userId paymentId : ℕ} {reference : String} {p : PppoePayment}
    (hp : RecordedFor p plan s.organizationId userId paymentId reference)
    (hopen : s.lookupPayment reference = .inl p) (htenant : s.tenantUuid ≠ none) {answer : String}
    (hanswer : answer ∈ successStatuses) (now : ℤ) :
    let t := (s.verifyPppoePayment reference (some answer) now).1
    (t.Bought userId plan (s.paidUntil userId plan now) ∧
        (t.paymentStatus paymentId = some .completed →
          t.Bought userId plan (s.paidUntil userId plan now))) ↔
      s.RenewsChosen userId plan now := by
  intro t
  have huser : p.userId = userId := by rw [hp]; rfl
  have ht : t = (s.conclude p (some answer) now).1 := by
    simp only [t, verifyPppoePayment, hopen, if_neg htenant]
  obtain ⟨horg, hleft⟩ := s.conclude_success p hanswer now
  rw [← ht] at horg hleft
  rw [and_iff_left_of_imp (fun h _ => h)]
  rcases s.processRenewal_cases p now with ⟨hnone, hskip⟩ | ⟨x, q, hx, hq, hid, hextended⟩
  · -- nothing is extended: the payment buys only what was there
    have hsame : t.subscriptions = s.subscriptions := by
      rw [hleft]
      cases hr : s.processRenewal p now with
      | skipped => rfl
      | extended i e => exact absurd hr (hskip i e)
      | raised => rfl
    rw [huser] at hnone
    exact bought_unchanged_iff hnone horg hsame
  · rw [huser] at hx
    obtain ⟨hmem, howned⟩ := mem_of_existingSubscription hx.2.1
    rw [hextended] at hleft
    rw [bought_extend_iff hsubs hmem howned hx.2.2.1 horg hleft]
    exact renewsChosen_extended_iff hplans hplan hmem hx hq hid

/-- A successful request of a renewal leaves an open payment that was recorded for its plan. -/
theorem renewSubscription_recorded {s t : PppoePortal} {planId userId paymentId : ℕ}
    {reference intentId message : String}
    (hfresh : ∀ p ∈ s.payments, p.referenceNumber ≠ reference) (hintent : intentId ≠ "")
    (h : s.renewSubscription planId userId paymentId reference (some intentId) =
      (t, .success reference message)) :
    ∃ plan ∈ s.plans, plan.id = planId ∧ ∃ p, t.lookupPayment reference = .inl p ∧
      RecordedFor p plan t.organizationId userId paymentId reference := by
  unfold renewSubscription at h
  split at h
  · simp at h
  · rename_i plan hfind
    have hmem := List.mem_of_find?_eq_some hfind
    have hid := List.find?_some hfind
    simp only [decide_eq_true_eq] at hid
    split at h
    · simp at h
    · obtain rfl := (Prod.mk.inj h).1
      have hold : s.payments.filter (fun p => decide (p.referenceNumber = reference ∧
          p.organizationId = s.organizationId)) = [] := by
        rw [List.filter_eq_nil_iff]
        intro p hp
        simp [hfresh p hp]
      refine ⟨plan, hmem, hid.1,
        { renewalPayment plan s.organizationId userId paymentId reference with
          transactionId := some intentId }, ?_, rfl⟩
      simp only [lookupPayment]
      rw [List.filter_append, hold]
      simp [renewalPayment, hintent]

/-- The portal of an organization with two plans of thirty days and one customer. -/
def twoPlans (subscriptions : List PppoeSubscription) : PppoePortal where
  organizationId := 1
  tenantUuid := some "uuid-1"
  users := [7]
  plans := [⟨1, 1, "Home", 200000, "KES", 30⟩, ⟨2, 1, "Fast", 400000, "KES", 30⟩]
  subscriptions := subscriptions
  payments := []

/-- The customer asks for a renewal with the plan, and the treasury confirms the payment. -/
def renewed (s : PppoePortal) (planId : ℕ) (now : ℤ) : PppoePortal :=
  ((s.renewSubscription planId 7 1 "PPP-1" (some "intent-1")).1.verifyPppoePayment "PPP-1"
    (some "succeeded") now).1

/-- A payment for another plan than the current one extends the current one; an active
subscription that has run out is extended from its old end; without a subscription the payment is
completed and buys nothing; an expired subscription makes the request fail. -/
theorem renewal_misses :
    (¬ (renewed (twoPlans [⟨5, some 1, 7, 1, .active, some (days 10), 0⟩]) 2 (days 5)).Bought 7
        ⟨2, 1, "Fast", 400000, "KES", 30⟩ (days 40)) ∧
    (¬ (renewed (twoPlans [⟨5, some 1, 7, 1, .active, some (days 10), 0⟩]) 1 (days 20)).Bought 7
        ⟨1, 1, "Home", 200000, "KES", 30⟩ (days 50)) ∧
    ((renewed (twoPlans []) 1 0).paymentStatus 1 = some .completed ∧
      (renewed (twoPlans []) 1 0).subscriptions = []) ∧
    (renewed (twoPlans [⟨5, some 1, 7, 1, .expired, some (days 10), 0⟩]) 1 (days 20)).paymentStatus 1 =
        some .pending ∧
      ¬ (renewed (twoPlans [⟨5, some 1, 7, 1, .expired, some (days 10), 0⟩]) 1 (days 20)).Bought 7
        ⟨1, 1, "Home", 200000, "KES", 30⟩ (days 50) := by
  decide

/-- The current plan is renewed in time. -/
theorem renewal_buys_home :
    let s := ((twoPlans [⟨5, some 1, 7, 1, .active, some (days 10), 0⟩]).renewSubscription 1 7 1
      "PPP-1" (some "intent-1")).1
    s.RenewsChosen 7 ⟨1, 1, "Home", 200000, "KES", 30⟩ (days 5) ∧
      ((s.verifyPppoePayment "PPP-1" (some "succeeded") (days 5)).1).Bought 7
        ⟨1, 1, "Home", 200000, "KES", 30⟩ (s.paidUntil 7 ⟨1, 1, "Home", 200000, "KES", 30⟩ (days 5)) := by
  intro s
  have hchosen : s.RenewsChosen 7 ⟨1, 1, "Home", 200000, "KES", 30⟩ (days 5) := by decide
  have hrecorded : RecordedFor { renewalPayment ⟨1, 1, "Home", 200000, "KES", 30⟩ 1 7 1 "PPP-1" with
      transactionId := some "intent-1" } ⟨1, 1, "Home", 200000, "KES", 30⟩ s.organizationId 7 1
      "PPP-1" := rfl
  have hanswer : "succeeded" ∈ successStatuses := by decide
  have hbuys := renewal_buys_iff s (by decide) (by decide) (by decide) hrecorded (by decide)
    (by decide) hanswer (days 5)
  exact ⟨hchosen, (hbuys.mpr hchosen).1⟩

end PppoePortal

/-! ### Overlapping verifications of one payment -/

/-- The portal with the verifications of one payment that are under way: each holds the payment
as it has loaded it. -/
structure PppoeRace where
  portal : PppoePortal
  reference : String
  sessions : List (Option PppoePayment)
  /-- The committed extensions for the payment: subscription and new end date. -/
  renewals : List (ℕ × ℤ)
deriving DecidableEq, Repr

namespace PppoeRace

inductive Event where
  /-- A verification reads the payment. -/
  | verify
  /-- The treasury answers a verification, which concludes. -/
  | conclude (i : ℕ) (answer : Option String) (now : ℤ)
  /-- A verification is cut off. -/
  | stop (i : ℕ)
  /-- Other requests change what the renewal reads. -/
  | edit (users : List ℕ) (plans : List RenewalPlan) (subscriptions : List PppoeSubscription)
deriving DecidableEq, Repr

/-- The treasury's answer as the verification sees it. -/
def heard (s : PppoeRace) (answer : Option String) : Option String :=
  if s.portal.tenantUuid = none then none else answer

/-- The extension that a conclusion commits. -/
def extension (s : PppoeRace) (p : PppoePayment) (answer : Option String) (now : ℤ) :
    List (ℕ × ℤ) :=
  if ∃ a ∈ s.heard answer, a ∈ successStatuses then
    match s.portal.processRenewal p now with
    | .extended subscriptionId endDate => [(subscriptionId, endDate)]
    | _ => []
  else []

/-- The conclusion of verification `i`, which has loaded `p`. -/
def concluded (s : PppoeRace) (i : ℕ) (p : PppoePayment) (answer : Option String) (now : ℤ) :
    PppoeRace :=
  { s with
    portal := (s.portal.conclude p (s.heard answer) now).1
    sessions := s.sessions.set i none
    renewals := s.renewals ++ s.extension p answer now }

def step (s : PppoeRace) : Event → PppoeRace
  | .verify =>
      match s.portal.lookupPayment s.reference with
      | .inl p => { s with sessions := s.sessions ++ [some p] }
      | .inr _ => s
  | .conclude i answer now =>
      match s.sessions[i]? with
      | some (some p) => s.concluded i p answer now
      | _ => s
  | .stop i => { s with sessions := s.sessions.set i none }
  | .edit users plans subscriptions =>
      { s with
        portal := { s.portal with users := users, plans := plans, subscriptions := subscriptions } }

/-- Nothing is under way. -/
def quiet (portal : PppoePortal) (reference : String) : PppoeRace := ⟨portal, reference, [], []⟩

/-- A verification alone does what `verify_pppoe_payment` does. -/
theorem exec_verify (portal : PppoePortal) (reference : String) (answer : Option String) (now : ℤ) :
    (exec step (quiet portal reference) [.verify, .conclude 0 answer now]).portal =
      (portal.verifyPppoePayment reference answer now).1 := by
  simp only [exec_cons, exec_nil, step, quiet, PppoePortal.verifyPppoePayment]
  cases portal.lookupPayment reference with
  | inl p => rfl
  | inr response => rfl

def RenewedOnce (s : PppoeRace) : Prop := s.renewals.length ≤ 1

instance : DecidablePred RenewedOnce := fun s =>
  inferInstanceAs (Decidable (s.renewals.length ≤ 1))

/-- The conclusion writes the status of the payment. -/
def Writes (s : PppoeRace) (p : PppoePayment) (answer : Option String) : Prop :=
  ∃ a ∈ s.heard answer, a ∈ successStatuses ∨ a ∈ failureStatuses ∧ p.status ≠ .failed

instance (s : PppoeRace) (p : PppoePayment) (answer : Option String) :
    Decidable (s.Writes p answer) :=
  inferInstanceAs (Decidable (∃ a ∈ s.heard answer,
    a ∈ successStatuses ∨ a ∈ failureStatuses ∧ p.status ≠ .failed))

/-- The check that `verify_pppoe_payment` lacks: a conclusion that writes the status finds the
payment not completed. -/
def Rechecked (s : PppoeRace) : Event → Prop
  | .conclude i answer _ => ∀ p ∈ s.sessions[i]?.join, s.Writes p answer →
      ∀ row ∈ s.portal.payments, row.id = p.id → row.status ≠ .completed
  | _ => True

instance (s : PppoeRace) (e : Event) : Decidable (s.Rechecked e) :=
  match e with
  | .conclude i answer _ => inferInstanceAs (Decidable (∀ p ∈ s.sessions[i]?.join,
      s.Writes p answer → ∀ row ∈ s.portal.payments, row.id = p.id → row.status ≠ .completed))
  | .verify | .stop _ | .edit .. => isTrue trivial

/-- The rows that the verification looks up. -/
def rows (s : PppoeRace) : List PppoePayment :=
  s.portal.payments.filter (fun p => decide (p.referenceNumber = s.reference ∧
    p.organizationId = s.portal.organizationId))

/-- What rechecked verifications keep: they hold the one payment of the reference, and once it has
renewed it is completed. -/
structure Inv (s : PppoeRace) : Prop where
  loaded : ∀ p, some p ∈ s.sessions → ∃ row, s.rows = [row] ∧ row.id = p.id
  renewed : s.renewals ≠ [] → ∃ row, s.rows = [row] ∧ row.status = .completed
  once : s.RenewedOnce

theorem rows_of_write {s t : PppoeRace} {id : ℕ} {status : PaymentStatus} {date : Option ℤ}
    (href : t.reference = s.reference) (horg : t.portal.organizationId = s.portal.organizationId)
    (hpay : t.portal.payments = (s.portal.setPaymentStatus id status date).payments) :
    t.rows = updateWhere (fun p => decide (p.id = id))
      (fun p => { p with status := status, paymentDate := date.or p.paymentDate }) s.rows := by
  unfold rows
  rw [hpay, horg, href]
  exact filter_updateWhere (f := fun p : PppoePayment =>
    { p with status := status, paymentDate := date.or p.paymentDate }) (fun _ => rfl) _

/-- **Inversion of a conclusion**: it leaves the payments alone, records a failure, or records the
success with at most one extension. -/
theorem conclude_cases (s : PppoeRace) (p : PppoePayment) (answer : Option String) (now : ℤ) :
    (s.portal.conclude p (s.heard answer) now).1.organizationId = s.portal.organizationId ∧
      ((s.portal.conclude p (s.heard answer) now).1.payments = s.portal.payments ∧
          s.extension p answer now = [] ∨
        s.Writes p answer ∧ (s.portal.conclude p (s.heard answer) now).1.payments =
            (s.portal.setPaymentStatus p.id .failed none).payments ∧
          s.extension p answer now = [] ∨
        s.Writes p answer ∧ (s.portal.conclude p (s.heard answer) now).1.payments =
            (s.portal.setPaymentStatus p.id .completed (some now)).payments ∧
          (s.extension p answer now).length ≤ 1) := by
  unfold extension Writes
  cases hheard : s.heard answer with
  | none => simp [PppoePortal.conclude]
  | some a =>
      by_cases hsuccess : a ∈ successStatuses
      · have hfail := PppoePortal.not_mem_failureStatuses hsuccess
        cases hr : s.portal.processRenewal p now with
        | skipped =>
            refine ⟨by simp [PppoePortal.conclude, hfail, hsuccess, hr, PppoePortal.setPaymentStatus],
              Or.inr (Or.inr ⟨⟨a, rfl, Or.inl hsuccess⟩, ?_, by simp [hsuccess]⟩)⟩
            simp [PppoePortal.conclude, hfail, hsuccess, hr]
        | extended i e =>
            refine ⟨by simp [PppoePortal.conclude, hfail, hsuccess, hr, PppoePortal.setPaymentStatus,
              PppoePortal.extend], Or.inr (Or.inr ⟨⟨a, rfl, Or.inl hsuccess⟩, ?_, by simp [hsuccess]⟩)⟩
            simp [PppoePortal.conclude, hfail, hsuccess, hr, PppoePortal.extend]
        | raised =>
            refine ⟨by simp [PppoePortal.conclude, hfail, hsuccess, hr], Or.inl ⟨?_, by simp [hsuccess]⟩⟩
            simp [PppoePortal.conclude, hfail, hsuccess, hr]
      · by_cases hfail : a ∈ failureStatuses
        · by_cases hloaded : p.status = .failed
          · exact ⟨by simp [PppoePortal.conclude, hfail, hloaded],
              Or.inl ⟨by simp [PppoePortal.conclude, hfail, hloaded], by simp [hsuccess]⟩⟩
          · exact ⟨by simp [PppoePortal.conclude, hfail, hloaded, PppoePortal.setPaymentStatus],
              Or.inr (Or.inl ⟨⟨a, rfl, Or.inr ⟨hfail, hloaded⟩⟩,
                by simp [PppoePortal.conclude, hfail, hloaded], by simp [hsuccess]⟩)⟩
        · exact ⟨by simp [PppoePortal.conclude, hfail, hsuccess],
            Or.inl ⟨by simp [PppoePortal.conclude, hfail, hsuccess], by simp [hsuccess]⟩⟩

theorem rows_of_lookup {s : PppoeRace} {p : PppoePayment}
    (h : s.portal.lookupPayment s.reference = .inl p) : s.rows = [p] := by
  unfold PppoePortal.lookupPayment at h
  unfold rows
  split at h
  · cases h
  · rename_i q hq
    split at h
    · cases h
    · split at h
      · cases h
      · obtain rfl := Sum.inl.inj h
        exact hq
  · cases h

theorem mem_of_mem_set_none {ts : List (Option PppoePayment)} {i : ℕ} {p : PppoePayment}
    (h : some p ∈ ts.set i none) : some p ∈ ts := by
  rcases List.mem_or_eq_of_mem_set h with h | h
  · exact h
  · cases h

/-- A rechecked conclusion that writes is the first one to do so. -/
theorem Inv.renewals_eq_nil {s : PppoeRace} (h : Inv s) {p row : PppoePayment}
    (hrows : s.rows = [row]) (hid : row.id = p.id)
    (hopen : ∀ row ∈ s.portal.payments, row.id = p.id → row.status ≠ .completed) :
    s.renewals = [] := by
  by_contra hne
  obtain ⟨row', hrows', hcompleted⟩ := h.renewed hne
  rw [hrows] at hrows'
  obtain rfl : row = row' := by simpa using hrows'
  have hmem : row ∈ s.rows := by rw [hrows]; exact List.mem_singleton_self row
  exact hopen row (List.mem_of_mem_filter hmem) hid hcompleted

theorem Inv.loaded_of_write {s t : PppoeRace} (h : Inv s) {id : ℕ} {status : PaymentStatus}
    {date : Option ℤ} (hrows : t.rows = updateWhere (fun x => decide (x.id = id))
      (fun x => { x with status := status, paymentDate := date.or x.paymentDate }) s.rows)
    (hsessions : ∀ q, some q ∈ t.sessions → some q ∈ s.sessions) :
    ∀ q, some q ∈ t.sessions → ∃ row, t.rows = [row] ∧ row.id = q.id := by
  intro q hq
  obtain ⟨row, hrow, hid⟩ := h.loaded q (hsessions q hq)
  rw [hrows, hrow]
  refine ⟨_, rfl, ?_⟩
  by_cases hx : row.id = id
  · simpa [hx] using hid
  · simpa [hx] using hid

theorem Inv.conclude {s : PppoeRace} (h : Inv s) {i : ℕ} {p : PppoePayment}
    (hp : s.sessions[i]? = some (some p)) {answer : Option String} {now : ℤ}
    (hchecked : s.Writes p answer → ∀ row ∈ s.portal.payments, row.id = p.id →
      row.status ≠ .completed) :
    Inv (s.concluded i p answer now) := by
  obtain ⟨row, hrows, hid⟩ := h.loaded p (List.mem_of_getElem? hp)
  have hfirst := fun hwrites => h.renewals_eq_nil hrows hid (hchecked hwrites)
  have hsessions : ∀ q, some q ∈ (s.concluded i p answer now).sessions → some q ∈ s.sessions :=
    fun q hq => mem_of_mem_set_none hq
  have hsilent : s.extension p answer now = [] →
      (s.concluded i p answer now).renewals = s.renewals := by
    intro hext
    show s.renewals ++ s.extension p answer now = s.renewals
    rw [hext, List.append_nil]
  obtain ⟨horg, hcases⟩ := s.conclude_cases p answer now
  rcases hcases with ⟨hpay, hext⟩ | ⟨hwrites, hpay, hext⟩ | ⟨hwrites, hpay, hext⟩
  · have hsame : (s.concluded i p answer now).rows = s.rows := by
      unfold rows concluded
      rw [hpay, horg]
    refine ⟨?_, ?_, ?_⟩
    · intro q hq
      rw [hsame]
      exact h.loaded q (hsessions q hq)
    · rw [hsame, hsilent hext]
      exact h.renewed
    · unfold RenewedOnce
      rw [hsilent hext]
      exact h.once
  · refine ⟨h.loaded_of_write (rows_of_write rfl horg hpay) hsessions, ?_, ?_⟩
    · rw [hsilent hext, hfirst hwrites]
      exact fun hne => absurd rfl hne
    · unfold RenewedOnce
      rw [hsilent hext]
      exact h.once
  · have hwritten := rows_of_write (s := s) (t := s.concluded i p answer now) rfl horg hpay
    refine ⟨h.loaded_of_write hwritten hsessions, ?_, ?_⟩
    · intro _
      rw [hwritten, hrows]
      exact ⟨_, rfl, by simp [hid]⟩
    · show (s.renewals ++ s.extension p answer now).length ≤ 1
      rw [hfirst hwrites, List.nil_append]
      exact hext

/-- **Step lemma**: a rechecked move keeps the invariant. -/
theorem step_inv {s : PppoeRace} {e : Event} (h : Inv s) (hchecked : s.Rechecked e) :
    Inv (s.step e) := by
  cases e with
  | verify =>
      simp only [step]
      split
      · rename_i p hlookup
        refine ⟨?_, h.renewed, h.once⟩
        intro q hq
        rcases List.mem_append.mp hq with hq | hq
        · exact h.loaded q hq
        · obtain rfl : q = p := by simpa using hq
          exact ⟨q, rows_of_lookup hlookup, rfl⟩
      · exact h
  | conclude i answer now =>
      simp only [step]
      split
      · rename_i p hp
        exact h.conclude hp (hchecked p (by rw [hp]; rfl))
      · exact h
  | stop i => exact ⟨fun q hq => h.loaded q (mem_of_mem_set_none hq), h.renewed, h.once⟩
  | edit users plans subscriptions => exact ⟨h.loaded, h.renewed, h.once⟩

/-- **One renewal under the missing check**: in every interleaving of verifications of a payment,
with any answers of the treasury, in which every verification that writes the status finds the
payment not completed, the payment renews a subscription at most once. -/
theorem renewed_once (portal : PppoePortal) (reference : String) (es : List Event)
    (hchecked : Along step Rechecked (quiet portal reference) es) :
    Always step RenewedOnce (quiet portal reference) es := by
  refine always_of_along (I := Inv) (fun _ _ h hok => step_inv h hok) (fun _ h => h.once) ?_ hchecked
  refine ⟨?_, fun hne => absurd rfl hne, Nat.zero_le 1⟩
  intro p hp
  cases hp

/-- The customer's renewal of the current plan, waiting for its payment. -/
def awaitingPayment : PppoePortal :=
  ((PppoePortal.twoPlans [⟨5, some 1, 7, 1, .active, some (days 10), 0⟩]).renewSubscription 1 7 1
    "PPP-1" (some "intent-1")).1

/-- Two verifications that read the payment before either concludes extend the subscription
twice. -/
theorem renewed_twice :
    ¬ Always step RenewedOnce (quiet awaitingPayment "PPP-1")
      [.verify, .verify, .conclude 0 (some "succeeded") (days 5),
        .conclude 1 (some "succeeded") (days 5)] := by
  decide

/-- A pending answer, a success, a second look at the completed payment, and a verification that
overlaps and is cut off. -/
theorem renewed_once_awaitingPayment :
    Along step Rechecked (quiet awaitingPayment "PPP-1")
        [.verify, .conclude 0 (some "processing") 0, .verify, .verify,
          .conclude 1 (some "succeeded") (days 5), .stop 2, .verify] ∧
      Always step RenewedOnce (quiet awaitingPayment "PPP-1")
        [.verify, .conclude 0 (some "processing") 0, .verify, .verify,
          .conclude 1 (some "succeeded") (days 5), .stop 2, .verify] := by
  have hchecked : Along step Rechecked (quiet awaitingPayment "PPP-1")
      [.verify, .conclude 0 (some "processing") 0, .verify, .verify,
        .conclude 1 (some "succeeded") (days 5), .stop 2, .verify] := by
    decide
  exact ⟨hchecked, renewed_once awaitingPayment "PPP-1" _ hchecked⟩

end PppoeRace

end IspBilling
