import IspBilling.CheckoutOrder
import IspBilling.Deliveries

/-! # The confirmation of purchases

The treasury publishes `treasury.payment.succeeded`, and the replicas of the consumer
(`app/events/consumer.py`) treat it: `handle_treasury_payment_succeeded` looks for the purchase by the id
of the intent and then by the reference, and hands it to `_process_successful_payment`.  What that does
for the customer is in `Fulfilment`; in any case it commits the payment as completed, or it raises.

A `PaymentFeed` is the stream with its replicas over a `Checkout`, so that purchases, polls and the
treasury go on between any two steps of a replica.  `purchases_paid` is the safety of the whole: a purchase
is completed only if it was paid, and stays so, and no event is acknowledged before its purchase is
completed.  `paid_purchase_completes` says that nothing is stuck. -/

namespace IspBilling

open Rows Runs Deliveries

/-! ### Messages -/

/-- What an event says, as text; absent and empty values are `none`, and `aggregateId` stands outside the
payload. -/
structure PaymentPayload where
  intentId : Option String
  id : Option String
  aggregateId : Option String
  referenceId : Option String
  reference : Option String
deriving DecidableEq, Repr

/-- What `_decode` makes of a message. -/
inductive PaymentMessage where
  | unreadable
  | notObject
  | event (p : PaymentPayload)
deriving DecidableEq, Repr

namespace PaymentMessage

/-- What the handler reads of the envelope; `envelope.get` raises without an object. -/
def payload : PaymentMessage → Option PaymentPayload
  | .unreadable => some ⟨none, none, none, none, none⟩
  | .notObject => none
  | .event p => some p

def intent (m : PaymentMessage) : Option String :=
  m.payload.bind fun p => p.intentId.or (p.id.or p.aggregateId)

def reference (m : PaymentMessage) : Option String := m.payload.bind fun p => p.referenceId.or p.reference

def About (m : PaymentMessage) (i : Intent) : Prop := m.intent = some i.id ∧ m.reference = some i.referenceId

instance (m : PaymentMessage) (i : Intent) : Decidable (m.About i) := inferInstanceAs (Decidable (_ ∧ _))

end PaymentMessage

/-! ### The handler in two halves -/

/-- What the queries find: no purchase, one that is completed, or one to complete. -/
inductive PaymentRead where
  | ignored
  | skipped
  | found (p : PortalPurchase)
deriving DecidableEq, Repr

/-- The clock, whether one of the commits of the status goes through, and whether the handler returns. -/
structure PaymentCommit where
  now : ℤ
  committed : Bool
  answered : Bool
deriving DecidableEq, Repr

namespace Checkout

/-- The purchase with a value in a column; several raise. -/
def purchaseWhere (s : Checkout) (column : PortalPurchase → Option String) (value : Option String) :
    Option (Option PortalPurchase) :=
  match value with
  | none => some none
  | some x => oneOrNone (s.purchases.filter fun p => decide (column p = some x))

/-- The queries of `handle_treasury_payment_succeeded`: by the intent, then by the reference. -/
def purchaseFor (s : Checkout) (m : PaymentMessage) : Option (Option PortalPurchase) :=
  match s.purchaseWhere (fun p => p.treasuryPaymentIntentId) m.intent with
  | some none => s.purchaseWhere (fun p => some p.paymentReference) m.reference
  | found => found

/-- `handle_treasury_payment_succeeded` up to `_process_successful_payment`; the organization of a purchase
is there, because of its foreign key. -/
def readPayment (m : PaymentMessage) (s : Checkout) : Option PaymentRead :=
  m.payload.bind fun _ =>
    (s.purchaseFor m).map fun
      | none => .ignored
      | some p => if p.paymentStatus = .completed then .skipped else .found p

/-- `_process_successful_payment`, as far as the payment is concerned. -/
def finishPayment (r : PaymentRead) (c : PaymentCommit) (s : Checkout) : Checkout × Bool :=
  match r with
  | .ignored => (s, true)
  | .skipped => (s, true)
  | .found p => if c.committed then (s.setRow p.id (p.complete c.now), c.answered) else (s, false)

end Checkout

/-- `handle_treasury_payment_succeeded`, as the callback of `_make_cb` runs it. -/
def paymentHandler : Handler PaymentMessage Checkout PaymentRead PaymentCommit where
  read := Checkout.readPayment
  finish := Checkout.finishPayment

/-! ### What the handler guarantees -/

namespace Checkout

/-- The treasury has the right to publish the message. -/
def Announces (m : PaymentMessage) (s : Checkout) : Prop :=
  ∃ i ∈ s.intents, i.state = .succeeded ∧ m.About i

instance (m : PaymentMessage) (s : Checkout) : Decidable (s.Announces m) :=
  inferInstanceAs (Decidable (∃ i ∈ s.intents, i.state = .succeeded ∧ m.About i))

/-- The purchase of the message is completed. -/
def Confirmed (m : PaymentMessage) (s : Checkout) : Prop :=
  ∀ p ∈ s.purchases, m.reference = some p.paymentReference → p.paymentStatus = .completed

/-- What was read is still right. -/
def Awaits (m : PaymentMessage) (r : PaymentRead) (s : Checkout) : Prop :=
  match r with
  | .ignored => ∀ p ∈ s.purchases, m.reference ≠ some p.paymentReference
  | .skipped => s.Confirmed m
  | .found p => p.paymentStatus ≠ .completed ∧ m.reference = some p.paymentReference ∧
      ∃ row ∈ s.purchases, row.id = p.id ∧ row.paymentReference = p.paymentReference

variable {s : Checkout} {m : PaymentMessage}

/-- What was read and what was confirmed stands as long as everybody respects the purchases. -/
theorem Respects.keeps {s' : Checkout} (h : s.Respects s') : Keeps Announces Awaits Confirmed s s' := by
  have hvalid : ∀ m, s.Announces m → s'.Announces m := by
    rintro m ⟨i, hi, hpaid, habout⟩
    exact ⟨i, h.intents i hi hpaid, hpaid, habout⟩
  -- a purchase with the reference of a message is not new
  have hold : ∀ m, s.Announces m → ∀ p' ∈ s'.purchases, m.reference = some p'.paymentReference →
      ∃ p ∈ s.purchases, m.reference = some p.paymentReference ∧
        (p.paymentStatus = .completed → p'.paymentStatus = .completed) := by
    rintro m ⟨i, hi, -, -, hreference⟩ p' hp' href
    rcases h.new p' hp' with ⟨p, hp, -, heq, hdone⟩ | hnew
    · exact ⟨p, hp, by rw [heq, href], hdone⟩
    · have hsame : i.referenceId = p'.paymentReference := Option.some.inj (hreference.symm.trans href)
      exact absurd (List.mem_map.mpr ⟨i, hi, hsame⟩) hnew
  have hconfirmed : ∀ m, s.Announces m → s.Confirmed m → s'.Confirmed m := by
    intro m hm hc p' hp' href
    obtain ⟨p, hp, href', hdone⟩ := hold m hm p' hp' href
    exact hdone (hc p hp href')
  refine ⟨hvalid, ?_, hconfirmed⟩
  intro m r hm hr
  cases r with
  | ignored =>
      intro p' hp' href
      obtain ⟨p, hp, href', -⟩ := hold m hm p' hp' href
      exact hr p hp href'
  | skipped => exact hconfirmed m hm hr
  | found p =>
      obtain ⟨hopen, href, row, hrow, hid, hsame⟩ := hr
      obtain ⟨row', hrow', hid', hsame'⟩ := h.old row hrow
      exact ⟨hopen, href, row', hrow', hid'.trans hid, hsame'.trans hsame⟩

/-- What is true of purchases in order stays true as long as everybody respects them. -/
def Stable (D : Checkout → Prop) : Prop := ∀ {s s' : Checkout}, s.InOrder → s.Respects s' → D s → D s'

def Done (id : ℕ) (s : Checkout) : Prop := ∃ p ∈ s.purchases, p.id = id ∧ p.paymentStatus = .completed

theorem stable_done (id : ℕ) : Stable (Done id) := by
  rintro s s' horder hrespects ⟨p, hp, rfl, hdone⟩
  obtain ⟨p', hp', hid, href⟩ := hrespects.old p hp
  refine ⟨p', hp', hid, ?_⟩
  rcases hrespects.new p' hp' with ⟨q, hq, hqid, -, hstays⟩ | hnew
  · obtain rfl := horder.ids.eq_of_key hq hp (hqid.trans hid)
    exact hstays hdone
  · -- a purchase that is completed has an intent, and is not new
    obtain ⟨i, hi, -, hof, -⟩ := (horder.rows p hp).paid hdone
    exact absurd (List.mem_map.mpr ⟨i, hi, hof.reference.trans href.symm⟩) hnew

/-! ### The queries -/

theorem purchaseWhere_mem {column : PortalPurchase → Option String} {value : Option String}
    {p : PortalPurchase} (h : s.purchaseWhere column value = some (some p)) :
    p ∈ s.purchases ∧ column p = value := by
  cases value with
  | none => cases h
  | some x =>
      obtain ⟨hmem, hp⟩ := List.mem_filter.mp (mem_of_oneOrNone h)
      exact ⟨hmem, of_decide_eq_true hp⟩

theorem purchaseWhere_none {column : PortalPurchase → Option String} {x : String}
    (h : s.purchaseWhere column (some x) = some none) : ∀ p ∈ s.purchases, column p ≠ some x := by
  intro p hp hx
  have hempty := oneOrNone_eq_some_none.mp h
  exact absurd (decide_eq_true hx) (List.filter_eq_nil_iff.mp hempty p hp)

theorem exists_purchaseWhere {column : PortalPurchase → Option String}
    (h : (s.purchases.filterMap column).Nodup) (value : Option String) :
    ∃ o, s.purchaseWhere column value = some o := by
  cases value with
  | none => exact ⟨none, rfl⟩
  | some x =>
      rcases filter_of_nodup_filterMap h x with hnone | ⟨p, -, hone⟩
      · exact ⟨none, oneOrNone_eq_some_none.mpr hnone⟩
      · exact ⟨some p, oneOrNone_eq_some_some.mpr hone⟩

theorem InOrder.named (h : s.InOrder) :
    (s.purchases.filterMap fun p => p.treasuryPaymentIntentId).Nodup := by
  rw [List.Nodup, List.pairwise_filterMap]
  refine List.Pairwise.imp_of_mem ?_ (List.pairwise_map.mp h.references)
  rintro p q hp hq hne x hx y hy rfl
  obtain ⟨i, hi, rfl, hof⟩ := (h.rows p hp).linked x hx
  obtain ⟨j, hj, hid, hof'⟩ := (h.rows q hq).linked _ hy
  obtain rfl := h.intentIds.eq_of_key hj hi hid
  exact hne (hof.reference.symm.trans hof'.reference)

theorem InOrder.referenced (h : s.InOrder) :
    (s.purchases.filterMap fun p => some p.paymentReference).Nodup := by
  rw [List.filterMap_eq_map']
  exact h.references

/-- **The queries never raise.** -/
theorem InOrder.exists_purchaseFor (h : s.InOrder) (m : PaymentMessage) : ∃ o, s.purchaseFor m = some o := by
  obtain ⟨o, ho⟩ := exists_purchaseWhere h.named m.intent
  obtain ⟨o', ho'⟩ := exists_purchaseWhere h.referenced m.reference
  cases o with
  | none => exact ⟨o', by simp only [purchaseFor, ho, ho']⟩
  | some p => exact ⟨some p, by simp only [purchaseFor, ho]⟩

/-- **The queries agree**: none of them finds two rows, and the reference finds what the intent does. -/
theorem InOrder.queries_agree (h : s.InOrder) (hm : s.Announces m) :
    ∃ o o', s.purchaseWhere (fun p => p.treasuryPaymentIntentId) m.intent = some o ∧
      s.purchaseWhere (fun p => some p.paymentReference) m.reference = some o' ∧ ∀ p ∈ o, o' = some p := by
  obtain ⟨o, ho⟩ := exists_purchaseWhere h.named m.intent
  obtain ⟨o', ho'⟩ := exists_purchaseWhere h.referenced m.reference
  refine ⟨o, o', ho, ho', ?_⟩
  rintro p rfl
  obtain ⟨i, hi, -, hintent, hreference⟩ := hm
  obtain ⟨hp, hlink⟩ := purchaseWhere_mem ho
  obtain ⟨j, hj, hid, hof⟩ := (h.rows p hp).linked i.id (hlink.trans hintent)
  obtain rfl := h.intentIds.eq_of_key hj hi hid
  cases o' with
  | none =>
      rw [hreference] at ho'
      exact absurd (congrArg some hof.reference.symm) (purchaseWhere_none ho' p hp)
  | some q =>
      obtain ⟨hq, href⟩ := purchaseWhere_mem ho'
      have hsame : q.paymentReference = p.paymentReference :=
        Option.some.inj (href.trans (hreference.trans (congrArg some hof.reference)))
      rw [h.references.eq_of_key hq hp hsame]

/-- **The queries find the purchase of the message**, if there is one. -/
theorem InOrder.purchaseFor_spec (h : s.InOrder) (hm : s.Announces m) {o : Option PortalPurchase}
    (ho : s.purchaseFor m = some o) :
    (∀ p ∈ o, p ∈ s.purchases ∧ m.reference = some p.paymentReference) ∧
      (o = none → ∀ p ∈ s.purchases, m.reference ≠ some p.paymentReference) := by
  obtain ⟨i, hi, -, hintent, hreference⟩ := hm
  rw [purchaseFor] at ho
  split at ho
  · rw [hreference] at ho
    constructor
    · rintro p rfl
      obtain ⟨hp, href⟩ := purchaseWhere_mem ho
      exact ⟨hp, hreference.trans href.symm⟩
    · rintro rfl p hp href
      exact purchaseWhere_none ho p hp (href.symm.trans hreference)
  · next hfound =>
      cases o with
      | none => exact absurd ho hfound
      | some p =>
          obtain ⟨hp, hlink⟩ := purchaseWhere_mem ho
          obtain ⟨j, hj, hid, hof⟩ := (h.rows p hp).linked i.id (hlink.trans hintent)
          obtain rfl := h.intentIds.eq_of_key hj hi hid
          refine ⟨?_, nofun⟩
          rintro q ⟨⟩
          exact ⟨hp, hreference.trans (congrArg some hof.reference)⟩

theorem InOrder.awaits (h : s.InOrder) (hm : s.Announces m) {r : PaymentRead}
    (hr : readPayment m s = some r) : Awaits m r s := by
  obtain ⟨-, -, hr⟩ := Option.bind_eq_some_iff.mp hr
  obtain ⟨o, ho, rfl⟩ := Option.map_eq_some_iff.mp hr
  obtain ⟨hsome, hnone⟩ := h.purchaseFor_spec hm ho
  cases o with
  | none => exact hnone rfl
  | some p =>
      obtain ⟨hp, href⟩ := hsome p rfl
      simp only
      split
      · next hdone =>
          intro q hq href'
          have hsame : q.paymentReference = p.paymentReference :=
            Option.some.inj (href'.symm.trans href)
          rw [h.references.eq_of_key hq hp hsame]
          exact hdone
      · next hopen => exact ⟨hopen, href, p, hp, rfl, rfl⟩

/-- **The commit** completes the purchase that was found. -/
theorem InOrder.finish (h : s.InOrder) (hm : s.Announces m) {p : PortalPurchase}
    (hp : Awaits m (.found p) s) (now : ℤ) :
    (s.setRow p.id (p.complete now)).InOrder ∧ s.Respects (s.setRow p.id (p.complete now)) ∧
      Confirmed m (s.setRow p.id (p.complete now)) := by
  obtain ⟨i, hi, hpaid, -, hreference⟩ := hm
  obtain ⟨hopen, href, row, hrow, hid, hsame⟩ := hp
  have hrowref : i.referenceId = row.paymentReference :=
    (Option.some.inj (hreference.symm.trans href)).trans hsame.symm
  have hlink := (h.rows row hrow).known i hi hrowref hpaid
  obtain ⟨horder, hrespects⟩ := h.complete hrow hi hlink hpaid hopen now
  rw [← hid]
  refine ⟨horder, hrespects, ?_⟩
  intro q hq hqref
  rcases (mem_setRow h.ids hrow).mp hq with ⟨hq, hne⟩ | rfl
  · have hqsame : q.paymentReference = row.paymentReference :=
      Option.some.inj (hqref.symm.trans (href.trans (congrArg some hsame.symm)))
    exact absurd (congrArg (fun x : PortalPurchase => x.id) (h.references.eq_of_key hq hrow hqsame)) hne
  · exact writeColumn_of_ne (Ne.symm hopen) _

theorem InOrder.finishPayment (h : s.InOrder) (hm : s.Announces m) {r : PaymentRead} (hr : Awaits m r s)
    (c : PaymentCommit) :
    (finishPayment r c s).1.InOrder ∧ s.Respects (finishPayment r c s).1 := by
  cases r with
  | ignored => exact ⟨h, Respects.refl s⟩
  | skipped => exact ⟨h, Respects.refl s⟩
  | found p =>
      simp only [Checkout.finishPayment]
      split
      · obtain ⟨horder, hrespects, -⟩ := h.finish hm hr c.now
        exact ⟨horder, hrespects⟩
      · exact ⟨h, Respects.refl s⟩

theorem treats_payments {D : Checkout → Prop} (hD : Stable D) :
    Treats paymentHandler (fun s => s.InOrder ∧ D s) Announces Awaits Confirmed (fun _ _ _ _ => True) where
  read := fun h hm hr => h.1.awaits hm hr
  invariant := by
    intro m r c s h hm hr _
    obtain ⟨horder, hrespects⟩ := h.1.finishPayment hm hr c
    exact ⟨horder, hD h.1 hrespects h.2⟩
  purpose := by
    intro m r c s h hm hr _ hdone
    cases r with
    | ignored => exact fun p hp href => absurd href (hr p hp)
    | skipped => exact hr
    | found p =>
        simp only [paymentHandler, finishPayment] at hdone ⊢
        split
        · exact (h.1.finish hm hr c.now).2.2
        · next hnot =>
            rw [if_neg hnot] at hdone
            cases hdone
  keeps := fun h hm hr _ => (h.1.finishPayment hm hr _).2.keeps

end Checkout

/-! ### The whole system -/

/-- The portal, the treasury, the stream and the replicas of the consumer. -/
abbrev PaymentFeed := Feed PaymentMessage Checkout PaymentRead

/-- What can happen: to the purchases, or to the stream and its replicas. -/
inductive PortalEvent where
  | checkout (e : CheckoutEvent)
  | publish (m : PaymentMessage)
  | deliver (w n : ℕ)
  | read (w : ℕ)
  | finish (w : ℕ) (c : PaymentCommit)
  | ack (w : ℕ)
  | drop (w : ℕ)
deriving DecidableEq, Repr

namespace PaymentFeed

/-- The event, as one of the stream. -/
def feedEvent (s : PaymentFeed) : PortalEvent → Event PaymentMessage Checkout PaymentCommit
  | .checkout e => .outside (s.store.step e)
  | .publish m => .publish m
  | .deliver w n => .deliver w n
  | .read w => .read w
  | .finish w c => .finish w c
  | .ack w => .ack w
  | .drop w => .drop w

def step (s : PaymentFeed) (e : PortalEvent) : PaymentFeed := Feed.step paymentHandler s (feedEvent s e)

/-- The outside world is fair, and the treasury announces only intents that have succeeded. -/
def Fair (s : PaymentFeed) : PortalEvent → Prop
  | .checkout e => s.store.Fair e
  | .publish m => s.store.Announces m
  | _ => True

instance (s : PaymentFeed) : DecidablePred (Fair s)
  | .checkout e => inferInstanceAs (Decidable (s.store.Fair e))
  | .publish m => inferInstanceAs (Decidable (s.store.Announces m))
  | .deliver _ _ | .read _ | .finish _ _ | .ack _ | .drop _ => isTrue trivial

/-- Everything is in order, and nothing has been handed out yet. -/
structure Starts (s : PaymentFeed) : Prop where
  store : s.store.InOrder
  messages : ∀ m ∈ s.messages, s.store.Announces m
  job : ∀ w, s.job w = none
  settled : s.settled = []

/-- The invariant of the stream over the portal, with what stays true of the purchases. -/
abbrev Sound (D : Checkout → Prop) (s : PaymentFeed) : Prop :=
  Feed.Sound (fun c => c.InOrder ∧ D c) Checkout.Announces Checkout.Awaits Checkout.Confirmed s

variable {D : Checkout → Prop}

theorem Sound.step (hD : Checkout.Stable D) {s : PaymentFeed} (h : Sound D s) {e : PortalEvent}
    (hfair : Fair s e) : Sound D (step s e) := by
  refine Feed.Sound.move (Checkout.treats_payments hD) h ?_ (Feed.moves_step paymentHandler s (feedEvent s e))
  cases e with
  | checkout e =>
      obtain ⟨horder, hrespects⟩ := Checkout.inOrder_step h.store.1 hfair
      exact ⟨⟨horder, hD h.store.1 hrespects h.store.2⟩, hrespects.keeps⟩
  | publish m => exact hfair
  | finish w c => exact fun _ _ _ _ _ => trivial
  | _ => trivial

theorem Sound.exec (hD : Checkout.Stable D) {s : PaymentFeed} (h : Sound D s) {es : List PortalEvent}
    (hes : Along PaymentFeed.step Fair s es) : Sound D (Runs.exec PaymentFeed.step s es) :=
  exec_of_along (fun _ _ h he => h.step hD he) h hes

theorem Starts.sound {s : PaymentFeed} (hs : Starts s) {es : List PortalEvent}
    (hes : Along step Fair s es) : Sound (fun _ => True) (exec step s es) :=
  Sound.exec (fun _ _ => id)
    ⟨⟨hs.store, trivial⟩, hs.messages, fun w j hj => absurd hj (by simp [hs.job w]), by simp [hs.settled]⟩ hes

theorem Sound.done_exec {s : PaymentFeed} (h : Sound (fun _ => True) s) {id : ℕ} (hid : s.store.Done id)
    {es : List PortalEvent} (hes : Along PaymentFeed.step Fair s es) :
    (Runs.exec PaymentFeed.step s es).store.Done id := by
  have hsound : Sound (Checkout.Done id) s := ⟨⟨h.store.1, hid⟩, h.messages, h.job, h.settled⟩
  exact (hsound.exec (Checkout.stable_done id) hes).store.2

theorem Sound.acknowledged {s : PaymentFeed} (h : Sound D s) {n : ℕ} (hn : n ∈ s.settled) :
    ∃ m, s.messages[n]? = some m ∧ ∃ i ∈ s.store.intents, m.About i ∧ i.state = .succeeded ∧
      ∀ k ∈ i.purchaseId, ∃ p ∈ s.store.purchases, p.id = k ∧ i.Of p ∧ p.paymentStatus = .completed := by
  obtain ⟨m, hm, hconfirmed⟩ := h.settled n hn
  obtain ⟨i, hi, hpaid, habout⟩ := h.messages m (List.mem_of_getElem? hm)
  refine ⟨m, hm, i, hi, habout, hpaid, ?_⟩
  intro k hk
  obtain ⟨p, hp, hid, href⟩ := h.store.1.own i hi k hk
  exact ⟨p, hp, hid, h.store.1.intents i hi p hp href.symm,
    hconfirmed p hp (habout.2.trans (congrArg some href.symm))⟩

/-- **A purchase is completed only if it was paid, and stays so; and an event is acknowledged only when its
purchase is completed.**  For every run of any number of purchases, polls and replicas, in any
interleaving, with calls and answers that are lost, requests and replicas that crash, intents that fail
and are tried again, and events that are delivered again. -/
theorem purchases_paid {s : PaymentFeed} (hs : Starts s) {es : List PortalEvent}
    (hes : Along step Fair s es) {t : PaymentFeed} (ht : t = exec step s es) :
    (∀ p ∈ t.store.purchases, p.paymentStatus = .completed →
      (∃ i ∈ t.store.intents, p.treasuryPaymentIntentId = some i.id ∧ i.Of p ∧ i.state = .succeeded) ∧
      ∀ es', Along step Fair t es' →
        ∃ p' ∈ (exec step t es').store.purchases, p'.id = p.id ∧ p'.paymentStatus = .completed) ∧
    ∀ n ∈ t.settled, ∃ m, t.messages[n]? = some m ∧ ∃ i ∈ t.store.intents, m.About i ∧
      i.state = .succeeded ∧
        ∀ k ∈ i.purchaseId, ∃ p ∈ t.store.purchases, p.id = k ∧ i.Of p ∧ p.paymentStatus = .completed := by
  have hsound : Sound (fun _ => True) t := ht ▸ hs.sound hes
  refine ⟨fun p hp hdone => ⟨(hsound.store.1.rows p hp).paid hdone, ?_⟩, fun n hn => hsound.acknowledged hn⟩
  intro es' hes'
  exact hsound.done_exec ⟨p, hp, rfl, hdone⟩ hes'

/-- Nothing has been sold yet. -/
def emptyFeed : PaymentFeed := ⟨⟨[], [], fun _ => none, fun _ => none⟩, [], [], fun _ => none⟩

theorem emptyFeed_starts : Starts emptyFeed := by
  refine ⟨?_, by simp [emptyFeed], fun _ => rfl, rfl⟩
  exact ⟨List.nodup_nil, List.nodup_nil, List.nodup_nil, by simp [emptyFeed], by simp [emptyFeed],
    by simp [emptyFeed], by simp [emptyFeed], by simp [emptyFeed], by simp [emptyFeed], by simp [emptyFeed]⟩

/-- Two customers buy.  The call for the first arrives late, and the request has given up; the second fails,
tries again and pays, the poll is on its way when the event comes, and a replica crashes before it
acknowledges. -/
def twoCustomers : List PortalEvent :=
  [.checkout (.purchase 0 ⟨7, false, none⟩ none ⟨1, 7, true, 5000⟩ 10 "HS-A"),
    .checkout (.purchase 1 ⟨7, false, none⟩ none ⟨1, 7, true, 5000⟩ 11 "HS-B"),
    .checkout (.refuse 0), .checkout (.arrive 0 "pi_0"), .checkout (.arrive 1 "pi_1"),
    .checkout (.respond 1), .checkout (.settle "pi_0" .failed), .checkout (.settle "pi_1" .failed),
    .checkout (.ask 5 7 "HS-B"), .checkout (.settle "pi_1" .succeeded), .publish (.event ⟨some "pi_1", none, none, some "HS-B", none⟩), .deliver 0 0,
    .read 0, .checkout (.answer 5), .finish 0 ⟨100, true, false⟩, .checkout (.conclude 5 101), .deliver 1 0, .read 1,
    .finish 1 ⟨102, true, true⟩, .ack 1]

theorem purchases_paid_two_customers :
    ((exec step emptyFeed twoCustomers).store.purchases.map fun p => (p.id, p.paymentStatus)) =
        [(10, .failed), (11, .completed)] ∧
      (exec step emptyFeed twoCustomers).settled = [0] ∧
      (∀ p ∈ (exec step emptyFeed twoCustomers).store.purchases, p.paymentStatus = .completed →
        (∃ i ∈ (exec step emptyFeed twoCustomers).store.intents, p.treasuryPaymentIntentId = some i.id ∧
          i.Of p ∧ i.state = .succeeded) ∧
        ∀ es', Along step Fair (exec step emptyFeed twoCustomers) es' →
          ∃ p' ∈ (exec step (exec step emptyFeed twoCustomers) es').store.purchases,
            p'.id = p.id ∧ p'.paymentStatus = .completed) := by
  have hrun : Along step Fair emptyFeed twoCustomers := by decide
  exact ⟨by decide, by decide, (purchases_paid emptyFeed_starts hrun rfl).1⟩

/-- A poll is told of a failure, and writes it when the customer has tried again and paid: the event is
acknowledged, and the purchase is not completed. -/
example :
    let s := exec step emptyFeed [
      .checkout (.purchase 1 ⟨7, false, none⟩ none ⟨1, 7, true, 5000⟩ 11 "HS-B"),
      .checkout (.arrive 1 "pi_1"), .checkout (.respond 1), .checkout (.settle "pi_1" .failed),
      .checkout (.ask 5 7 "HS-B"), .checkout (.answer 5), .checkout (.settle "pi_1" .succeeded),
      .publish (.event ⟨some "pi_1", none, none, some "HS-B", none⟩), .deliver 0 0, .read 0,
      .finish 0 ⟨100, true, true⟩, .ack 0, .checkout (.conclude 5 101)]
    s.settled = [0] ∧ s.store.purchases.map (fun p => p.paymentStatus) = [.failed] := by
  decide

/-- **Nothing is stuck**: whatever has happened, the queries for an event find one row each at most, the
same, and one more delivery of an event that is not acknowledged, to a replica whose commit goes through,
ends with the purchase completed and the event acknowledged. -/
theorem paid_purchase_completes {s : PaymentFeed} (hs : Starts s) {es : List PortalEvent}
    (hes : Along step Fair s es) {t : PaymentFeed} (ht : t = exec step s es) {w n : ℕ} {m : PaymentMessage}
    (hidle : t.job w = none) (hm : t.messages[n]? = some m) (hn : n ∉ t.settled) (now : ℤ) :
    let t' := exec step t [.deliver w n, .read w, .finish w ⟨now, true, true⟩, .ack w]
    (∃ o o', t.store.purchaseWhere (fun p => p.treasuryPaymentIntentId) m.intent = some o ∧
      t.store.purchaseWhere (fun p => some p.paymentReference) m.reference = some o' ∧
        ∀ p ∈ o, o' = some p) ∧
    t'.settled = n :: t.settled ∧ ∃ i ∈ t'.store.intents, m.About i ∧ i.state = .succeeded ∧
      ∀ k ∈ i.purchaseId, ∃ p ∈ t'.store.purchases, p.id = k ∧ i.Of p ∧ p.paymentStatus = .completed := by
  have hsound : Sound (fun _ => True) t := ht ▸ hs.sound hes
  have hvalid := hsound.messages m (List.mem_of_getElem? hm)
  -- the queries find something, and the commit goes through
  have hread : (paymentHandler.read m t.store).isSome := by
    obtain ⟨o, ho⟩ := hsound.store.1.exists_purchaseFor m
    obtain ⟨p, hp⟩ : ∃ p, m.payload = some p := by
      obtain ⟨i, -, -, hintent, -⟩ := hvalid
      obtain ⟨p, hp, -⟩ := Option.bind_eq_some_iff.mp hintent
      exact ⟨p, hp⟩
    simp [paymentHandler, Checkout.readPayment, hp, ho]
  obtain ⟨r, hr⟩ := Option.isSome_iff_exists.mp hread
  have hfinish : (paymentHandler.finish r ⟨now, true, true⟩ t.store).2 = true := by
    cases r <;> rfl
  have hexec := Feed.exec_undisturbed (h := paymentHandler) (c := ⟨now, true, true⟩) hidle hm hn hr hfinish
  have hfeed : exec step t [.deliver w n, .read w, .finish w ⟨now, true, true⟩, .ack w] =
      exec (Feed.step paymentHandler) t [.deliver w n, .read w, .finish w ⟨now, true, true⟩, .ack w] := rfl
  intro t'
  have ht' : t' = { t with
      store := (paymentHandler.finish r ⟨now, true, true⟩ t.store).1, settled := n :: t.settled } :=
    hfeed.trans hexec
  have hsettled : t'.settled = n :: t.settled := by
    rw [ht']
  -- the four steps are fair, and leave everything in order
  have hrun : Along step Fair t [.deliver w n, .read w, .finish w ⟨now, true, true⟩, .ack w] :=
    ⟨trivial, trivial, trivial, trivial, trivial⟩
  have hsound' : Sound (fun _ => True) t' := hsound.exec (fun _ _ => id) hrun
  obtain ⟨m', hm', hrest⟩ := hsound'.acknowledged (hsettled ▸ List.mem_cons_self)
  rw [ht'] at hm'
  obtain rfl := Option.some.inj (hm.symm.trans hm')
  exact ⟨hsound.store.1.queries_agree hvalid, hsettled, hrest⟩

/-- The second customer has paid, and the replica has crashed. -/
theorem paid_purchase_completes_crashed :
    let m := PaymentMessage.event ⟨some "pi_1", none, none, some "HS-B", none⟩
    let t := exec step emptyFeed (twoCustomers.take 13)
    let t' := exec step t [.deliver 1 0, .read 1, .finish 1 ⟨200, true, true⟩, .ack 1]
    (∃ o o', t.store.purchaseWhere (fun p => p.treasuryPaymentIntentId) m.intent = some o ∧
      t.store.purchaseWhere (fun p => some p.paymentReference) m.reference = some o' ∧
        ∀ p ∈ o, o' = some p) ∧
    t'.settled = [0] ∧ ∃ i ∈ t'.store.intents, m.About i ∧ i.state = .succeeded ∧
      ∀ k ∈ i.purchaseId, ∃ p ∈ t'.store.purchases, p.id = k ∧ i.Of p ∧ p.paymentStatus = .completed :=
  have hrun : Along step Fair emptyFeed (twoCustomers.take 13) := by
    decide
  paid_purchase_completes emptyFeed_starts hrun rfl (by decide) (by decide) (by decide) 200

end PaymentFeed
end IspBilling
