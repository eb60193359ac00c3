import IspBilling.Checkout

/-! # Purchases and their intents

`InOrder` says how the purchases, the intents of the treasury, the requests and the polls of `Checkout`
fit together: a purchase is completed only if its intent has succeeded, an intent that has succeeded is
known to its purchase, and a request that is open has its purchase to itself.

`inOrder_step` is the step lemma, for steps that are `Fair`: references that are drawn differ, customers
pay only on a page that they have got, the treasury takes no success back, a poll that was told of a
failure has written it before the intent succeeds, and nobody calls the retired `payment_webhook`, which
takes anybody's word.  Of a failure the treasury may say what it likes: customers try again.  What such a
step does not take back is `Respects`. -/

namespace IspBilling

open Rows Runs

namespace Checkout

/-! ### How the parties fit together -/

/-- What a purchase says of its intent. -/
structure RowOk (intents : List Intent) (p : PortalPurchase) : Prop where
  linked : ∀ x ∈ p.treasuryPaymentIntentId, ∃ i ∈ intents, i.id = x ∧ i.Of p
  paid : p.paymentStatus = .completed →
    ∃ i ∈ intents, p.treasuryPaymentIntentId = some i.id ∧ i.Of p ∧ i.state = .succeeded
  known : ∀ i ∈ intents, i.referenceId = p.paymentReference → i.state = .succeeded →
    p.treasuryPaymentIntentId = some i.id

/-- What an open request says of its purchase: nobody has touched it. -/
structure RequestOk (purchases : List PortalPurchase) (x : CheckoutRequest) : Prop where
  kept : ∃ p ∈ purchases, p.id = x.purchase.id ∧ p.paymentReference = x.purchase.paymentReference ∧
    p.amount = x.purchase.amount
  untouched : x.closed = false → x.purchase ∈ purchases ∧ x.purchase.paymentStatus = .pending ∧
    x.purchase.treasuryPaymentIntentId = none

structure PollOk (purchases : List PortalPurchase) (intents : List Intent) (y : PurchasePoll) : Prop where
  kept : ∃ p ∈ purchases, p.id = y.purchase.id ∧
    p.treasuryPaymentIntentId = y.purchase.treasuryPaymentIntentId
  processing : y.purchase.paymentStatus = .processing
  named : y.purchase.treasuryPaymentIntentId ≠ none
  answered : ∀ a ∈ y.answer, ∃ i ∈ intents, y.purchase.treasuryPaymentIntentId = some i.id ∧
    (a = .succeeded → i.state = .succeeded)

/-- **The invariant.** -/
structure InOrder (s : Checkout) : Prop where
  ids : Keyed (fun p : PortalPurchase => p.id) s.purchases
  references : Keyed PortalPurchase.paymentReference s.purchases
  intentIds : Keyed Intent.id s.intents
  rows : ∀ p ∈ s.purchases, RowOk s.intents p
  intents : ∀ i ∈ s.intents, ∀ p ∈ s.purchases, i.referenceId = p.paymentReference → i.Of p
  one : ∀ i ∈ s.intents, ∀ j ∈ s.intents, ∀ p ∈ s.purchases, i.referenceId = p.paymentReference →
    j.referenceId = p.paymentReference → i = j
  own : ∀ i ∈ s.intents, ∀ k ∈ i.purchaseId, ∃ p ∈ s.purchases, p.id = k ∧
    p.paymentReference = i.referenceId
  requests : ∀ r x, s.request r = some x → RequestOk s.purchases x
  apart : ∀ r r' x x', s.request r = some x → s.request r' = some x' → x.purchase.id = x'.purchase.id →
    r = r'
  polls : ∀ k y, s.poll k = some y → PollOk s.purchases s.intents y

/-- The poll was told of a failure, and the intent has succeeded since then. -/
def Stale (s : Checkout) (y : PurchasePoll) : Prop :=
  y.answer = some .failed ∧
    ∃ i ∈ s.intents, y.purchase.treasuryPaymentIntentId = some i.id ∧ i.state = .succeeded

instance (s : Checkout) (y : PurchasePoll) : Decidable (s.Stale y) :=
  inferInstanceAs (Decidable (_ ∧ ∃ i ∈ s.intents, _))

/-- The steps that the outside world takes fairly. -/
def Fair (s : Checkout) : CheckoutEvent → Prop
  | .purchase _ _ _ _ _ reference =>
      reference ∉ s.purchases.map PortalPurchase.paymentReference ∧
        reference ∉ s.intents.map Intent.referenceId
  | .foreign _ reference _ => reference ∉ s.purchases.map PortalPurchase.paymentReference
  -- nobody pays for a purchase without the page, which names the intent
  | .settle intentId state => ∀ i ∈ s.intents, i.id = intentId →
      if state = .succeeded then ∀ p ∈ s.purchases, i.referenceId = p.paymentReference →
        p.treasuryPaymentIntentId = some intentId
      else i.state ≠ .succeeded
  | .conclude k _ => ∀ y ∈ s.poll k, ¬ s.Stale y
  | .webhook _ _ _ _ => False
  | _ => True

instance (s : Checkout) : DecidablePred s.Fair
  | .purchase _ _ _ _ _ reference => inferInstanceAs (Decidable
      (reference ∉ s.purchases.map PortalPurchase.paymentReference ∧
        reference ∉ s.intents.map Intent.referenceId))
  | .foreign _ reference _ =>
      inferInstanceAs (Decidable (reference ∉ s.purchases.map PortalPurchase.paymentReference))
  | .settle intentId state => inferInstanceAs (Decidable (∀ i ∈ s.intents, i.id = intentId →
      if state = .succeeded then ∀ p ∈ s.purchases, i.referenceId = p.paymentReference →
        p.treasuryPaymentIntentId = some intentId
      else i.state ≠ .succeeded))
  | .conclude k _ => inferInstanceAs (Decidable (∀ y ∈ s.poll k, ¬ s.Stale y))
  | .webhook _ _ _ _ => isFalse id
  | .arrive _ _ | .respond _ | .refuse _ | .crash _ | .ask _ _ _ | .answer _ | .drop _ => isTrue trivial

/-- What nobody takes back: intents that have succeeded, purchases and their references, and completed
purchases; and new purchases have new references. -/
structure Respects (s s' : Checkout) : Prop where
  intents : ∀ i ∈ s.intents, i.state = .succeeded → i ∈ s'.intents
  old : ∀ p ∈ s.purchases, ∃ p' ∈ s'.purchases, p'.id = p.id ∧ p'.paymentReference = p.paymentReference
  new : ∀ p' ∈ s'.purchases,
    (∃ p ∈ s.purchases, p.id = p'.id ∧ p.paymentReference = p'.paymentReference ∧
      (p.paymentStatus = .completed → p'.paymentStatus = .completed)) ∨
    p'.paymentReference ∉ s.intents.map Intent.referenceId

theorem Respects.refl (s : Checkout) : s.Respects s where
  intents := fun _ hi _ => hi
  old := fun p hp => ⟨p, hp, rfl, rfl⟩
  new := fun p hp => .inl ⟨p, hp, rfl, rfl, id⟩

variable {s : Checkout}

/-! ### Rewriting a purchase -/

theorem mem_setRow (hids : Keyed (fun p : PortalPurchase => p.id) s.purchases) {p₀ : PortalPurchase}
    (hp₀ : p₀ ∈ s.purchases) {f : PortalPurchase → PortalPurchase} {p : PortalPurchase} :
    p ∈ (s.setRow p₀.id f).purchases ↔ p ∈ s.purchases ∧ p.id ≠ p₀.id ∨ p = f p₀ := by
  unfold setRow
  rw [mem_updateWhere]
  constructor
  · rintro ⟨q, hq, rfl⟩
    split
    · next hid =>
        obtain rfl := hids.eq_of_key hq hp₀ (of_decide_eq_true hid)
        exact .inr rfl
    · next hid => exact .inl ⟨hq, by simpa using hid⟩
  · rintro (⟨hp, hne⟩ | rfl)
    · exact ⟨p, hp, by simp [hne]⟩
    · exact ⟨p₀, hp₀, by simp⟩

theorem exists_setRow (hids : Keyed (fun p : PortalPurchase => p.id) s.purchases) {p₀ : PortalPurchase}
    (hp₀ : p₀ ∈ s.purchases) {f : PortalPurchase → PortalPurchase} {P : PortalPurchase → Prop}
    (hf : P p₀ → P (f p₀)) (h : ∃ p ∈ s.purchases, P p) : ∃ p ∈ (s.setRow p₀.id f).purchases, P p := by
  obtain ⟨p, hp, hP⟩ := h
  by_cases hid : p.id = p₀.id
  · obtain rfl := hids.eq_of_key hp hp₀ hid
    exact ⟨f p, (mem_setRow hids hp).mpr (.inr rfl), hf hP⟩
  · exact ⟨p, (mem_setRow hids hp₀).mpr (.inl ⟨hp, hid⟩), hP⟩

structure Same (f : PortalPurchase → PortalPurchase) : Prop where
  id : ∀ p, (f p).id = p.id
  reference : ∀ p, (f p).paymentReference = p.paymentReference
  amount : ∀ p, (f p).amount = p.amount

theorem same_complete (p : PortalPurchase) (now : ℤ) : Same (p.complete now) :=
  ⟨fun _ => rfl, fun _ => rfl, fun _ => rfl⟩

theorem same_fail (p : PortalPurchase) : Same p.fail := ⟨fun _ => rfl, fun _ => rfl, fun _ => rfl⟩

theorem same_process (p : PortalPurchase) (intentId : String) : Same (p.process intentId) :=
  ⟨fun _ => rfl, fun _ => rfl, fun _ => rfl⟩

/-- **A commit**: what it leaves is in order, it takes no intent away, and no open request has the row. -/
theorem InOrder.setRow (h : s.InOrder) {p₀ : PortalPurchase} (hp₀ : p₀ ∈ s.purchases)
    {f : PortalPurchase → PortalPurchase} (hf : Same f) (hrow : RowOk s.intents (f p₀))
    (hlink : ∀ x ∈ p₀.treasuryPaymentIntentId, (f p₀).treasuryPaymentIntentId = some x)
    (hclosed : ∀ r x, s.request r = some x → x.purchase.id = p₀.id → x.closed = true) :
    (s.setRow p₀.id f).InOrder where
  ids := h.ids.updateWhere hf.id
  references := h.references.updateWhere hf.reference
  intentIds := h.intentIds
  rows := by
    intro p hp
    rcases (mem_setRow h.ids hp₀).mp hp with ⟨hp, -⟩ | rfl
    · exact h.rows p hp
    · exact hrow
  intents := by
    intro i hi p hp href
    rcases (mem_setRow h.ids hp₀).mp hp with ⟨hp, -⟩ | rfl
    · exact h.intents i hi p hp href
    · have hof := h.intents i hi p₀ hp₀ (href.trans (hf.reference p₀))
      exact ⟨href, hof.purchase.trans (congrArg some (hf.id p₀).symm), hof.amount.trans (hf.amount p₀).symm⟩
  one := by
    intro i hi j hj p hp
    rcases (mem_setRow h.ids hp₀).mp hp with ⟨hp, -⟩ | rfl
    · exact h.one i hi j hj p hp
    · rw [hf.reference]
      exact h.one i hi j hj p₀ hp₀
  own := by
    intro i hi k hk
    refine exists_setRow h.ids hp₀ ?_ (h.own i hi k hk)
    rw [hf.id, hf.reference]
    exact id
  requests := by
    intro r x hx
    have hold := h.requests r x hx
    refine ⟨exists_setRow h.ids hp₀ ?_ hold.kept, ?_⟩
    · rw [hf.id, hf.reference, hf.amount]
      exact id
    · intro hopen
      obtain ⟨hmem, hrest⟩ := hold.untouched hopen
      refine ⟨(mem_setRow h.ids hp₀).mpr (.inl ⟨hmem, ?_⟩), hrest⟩
      intro hid
      have hfalse := hclosed r x hx hid
      rw [hopen] at hfalse
      cases hfalse
  apart := h.apart
  polls := by
    intro k y hy
    have hold := h.polls k y hy
    refine ⟨exists_setRow h.ids hp₀ ?_ hold.kept, hold.processing, hold.named, hold.answered⟩
    rintro ⟨hid, htpi⟩
    refine ⟨(hf.id p₀).trans hid, ?_⟩
    cases hname : y.purchase.treasuryPaymentIntentId with
    | none => exact absurd hname hold.named
    | some x => exact hlink x (htpi.trans hname)

theorem respects_setRow (h : s.InOrder) {p₀ : PortalPurchase} (hp₀ : p₀ ∈ s.purchases)
    {f : PortalPurchase → PortalPurchase} (hf : Same f)
    (hdone : p₀.paymentStatus = .completed → (f p₀).paymentStatus = .completed) :
    s.Respects (s.setRow p₀.id f) where
  intents := fun _ hi _ => hi
  old := by
    intro p hp
    refine exists_setRow h.ids hp₀ ?_ ⟨p, hp, rfl, rfl⟩
    rw [hf.id, hf.reference]
    exact id
  new := by
    intro p hp
    rcases (mem_setRow h.ids hp₀).mp hp with ⟨hp, -⟩ | rfl
    · exact .inl ⟨p, hp, rfl, rfl, id⟩
    · exact .inl ⟨p₀, hp₀, (hf.id p₀).symm, (hf.reference p₀).symm, hdone⟩

theorem InOrder.closed (h : s.InOrder) {p : PortalPurchase} (hp : p ∈ s.purchases) {x : String}
    (hlink : p.treasuryPaymentIntentId = some x) {r : ℕ} {y : CheckoutRequest} (hy : s.request r = some y)
    (hid : y.purchase.id = p.id) : y.closed = true := by
  by_contra hopen
  obtain ⟨hmem, -, hnone⟩ := (h.requests r y hy).untouched (by simpa using hopen)
  obtain rfl := h.ids.eq_of_key hmem hp hid
  rw [hlink] at hnone
  cases hnone

/-- **A purchase that has been paid is completed**: by the event or by the poll. -/
theorem InOrder.complete (h : s.InOrder) {p₀ : PortalPurchase} (hp₀ : p₀ ∈ s.purchases) {i : Intent}
    (hi : i ∈ s.intents) (hlink : p₀.treasuryPaymentIntentId = some i.id) (hpaid : i.state = .succeeded)
    {loaded : PortalPurchase} (hloaded : loaded.paymentStatus ≠ .completed) (now : ℤ) :
    (s.setRow p₀.id (loaded.complete now)).InOrder ∧ s.Respects (s.setRow p₀.id (loaded.complete now)) := by
  have hstatus : (loaded.complete now p₀).paymentStatus = .completed :=
    writeColumn_of_ne (Ne.symm hloaded) _
  have hrow := h.rows p₀ hp₀
  obtain ⟨j, hj, hid, hof⟩ := hrow.linked i.id hlink
  obtain rfl := h.intentIds.eq_of_key hj hi hid
  have hof' : j.Of (loaded.complete now p₀) := ⟨hof.reference, hof.purchase, hof.amount⟩
  constructor
  · refine h.setRow hp₀ (same_complete loaded now) ⟨?_, ?_, hrow.known⟩ ?_ ?_
    · intro x hx
      obtain rfl := Option.some.inj (hlink.symm.trans hx)
      exact ⟨j, hj, rfl, hof'⟩
    · exact fun _ => ⟨j, hj, hlink, hof', hpaid⟩
    · exact fun x hx => hx
    · exact fun r y hy hy' => h.closed hp₀ hlink hy hy'
  · exact respects_setRow h hp₀ (same_complete loaded now) fun _ => hstatus

theorem InOrder.fail (h : s.InOrder) {p₀ : PortalPurchase} (hp₀ : p₀ ∈ s.purchases) {i : Intent}
    (hi : i ∈ s.intents) (hlink : p₀.treasuryPaymentIntentId = some i.id) (hfailed : i.state ≠ .succeeded)
    (loaded : PortalPurchase) :
    (s.setRow p₀.id loaded.fail).InOrder ∧ s.Respects (s.setRow p₀.id loaded.fail) := by
  have hrow := h.rows p₀ hp₀
  have hnot : p₀.paymentStatus ≠ .completed := by
    intro hdone
    obtain ⟨j, hj, hlink', -, hpaid⟩ := hrow.paid hdone
    obtain rfl := h.intentIds.eq_of_key hj hi (Option.some.inj (hlink'.symm.trans hlink))
    exact hfailed hpaid
  have hstatus : (loaded.fail p₀).paymentStatus ≠ .completed := by
    show writeColumn loaded.paymentStatus .failed p₀.paymentStatus ≠ .completed
    unfold writeColumn
    split
    · exact hnot
    · decide
  constructor
  · refine h.setRow hp₀ (same_fail loaded) ⟨?_, ?_, hrow.known⟩ ?_ ?_
    · intro x hx
      obtain ⟨j, hj, hid, hof⟩ := hrow.linked x hx
      exact ⟨j, hj, hid, hof.reference, hof.purchase, hof.amount⟩
    · exact fun hdone => absurd hdone hstatus
    · exact fun x hx => hx
    · exact fun r y hy hy' => h.closed hp₀ hlink hy hy'
  · exact respects_setRow h hp₀ (same_fail loaded) fun hdone => absurd hdone hnot

/-! ### The requests -/

theorem setRequest_request (s : Checkout) (r r' : ℕ) (x : CheckoutRequest) :
    (s.setRequest r x).request r' = if r' = r then some x else s.request r' :=
  Function.update_apply ..

theorem setPoll_poll (s : Checkout) (k k' : ℕ) (y : Option PurchasePoll) :
    (s.setPoll k y).poll k' = if k' = k then y else s.poll k' :=
  Function.update_apply ..

theorem InOrder.close (h : s.InOrder) {r : ℕ} {x : CheckoutRequest} (hx : s.request r = some x) :
    (s.setRequest r { x with closed := true }).InOrder where
  ids := h.ids
  references := h.references
  intentIds := h.intentIds
  rows := h.rows
  intents := h.intents
  one := h.one
  own := h.own
  requests := by
    intro r' x' hx'
    rw [setRequest_request] at hx'
    split at hx'
    · obtain rfl := Option.some.inj hx'
      exact ⟨(h.requests r x hx).kept, nofun⟩
    · exact h.requests r' x' hx'
  apart := by
    intro r₁ r₂ x₁ x₂ h₁ h₂
    have hback : ∀ r' x', (s.setRequest r { x with closed := true }).request r' = some x' →
        ∃ y, s.request r' = some y ∧ y.purchase = x'.purchase := by
      intro r' x' hx'
      rw [setRequest_request] at hx'
      split at hx'
      · next heq =>
          subst heq
          obtain rfl := Option.some.inj hx'
          exact ⟨x, hx, rfl⟩
      · exact ⟨x', hx', rfl⟩
    obtain ⟨y₁, hy₁, hp₁⟩ := hback r₁ x₁ h₁
    obtain ⟨y₂, hy₂, hp₂⟩ := hback r₂ x₂ h₂
    rw [← hp₁, ← hp₂]
    exact h.apart r₁ r₂ y₁ y₂ hy₁ hy₂
  polls := h.polls

/-- The commit with which a request ends: its purchase is as the request has made it. -/
theorem InOrder.commit (h : s.InOrder) {r : ℕ} {x : CheckoutRequest} (hx : s.request r = some x)
    (hopen : x.closed = false) {f : PortalPurchase → PortalPurchase} (hf : Same f)
    (hrow : RowOk s.intents (f x.purchase)) :
    ((s.setRow x.purchase.id f).setRequest r { x with closed := true }).InOrder ∧
      s.Respects ((s.setRow x.purchase.id f).setRequest r { x with closed := true }) := by
  obtain ⟨hmem, hpending, hnone⟩ := (h.requests r x hx).untouched hopen
  constructor
  · refine (h.close hx).setRow hmem hf hrow ?_ ?_
    · intro y hy
      rw [hnone] at hy
      cases hy
    · intro r' x' hx' hid
      rw [setRequest_request] at hx'
      split at hx'
      · obtain rfl := Option.some.inj hx'
        rfl
      · next hne => exact absurd (h.apart r' r x' x hx' hx hid) hne
  · have hrespects := respects_setRow h hmem hf (f := f) (by
      rw [hpending]
      exact nofun)
    exact ⟨hrespects.intents, hrespects.old, hrespects.new⟩

theorem InOrder.refusal (h : s.InOrder) {r : ℕ} {x : CheckoutRequest} (hx : s.request r = some x)
    (hopen : x.closed = false) :
    ((s.setRow x.purchase.id x.purchase.fail).setRequest r { x with closed := true }).InOrder ∧
      s.Respects ((s.setRow x.purchase.id x.purchase.fail).setRequest r { x with closed := true }) := by
  obtain ⟨hmem, hpending, hnone⟩ := (h.requests r x hx).untouched hopen
  have hrow := h.rows x.purchase hmem
  have hstatus : (x.purchase.fail x.purchase).paymentStatus = .failed := writeColumn_current _ _
  refine h.commit hx hopen (same_fail x.purchase) ⟨?_, ?_, hrow.known⟩
  · intro y hy
    rw [show (x.purchase.fail x.purchase).treasuryPaymentIntentId = none from hnone] at hy
    cases hy
  · intro hdone
    rw [hstatus] at hdone
    cases hdone

theorem InOrder.respondTo (h : s.InOrder) {r : ℕ} {x : CheckoutRequest} (hx : s.request r = some x)
    (hopen : x.closed = false) {i : Intent} (hi : i ∈ s.intents)
    (href : i.referenceId = x.purchase.paymentReference) :
    (s.respondTo r x i).InOrder ∧ s.Respects (s.respondTo r x i) := by
  obtain ⟨hmem, hpending, hnone⟩ := (h.requests r x hx).untouched hopen
  have hrow := h.rows x.purchase hmem
  have hof := h.intents i hi x.purchase hmem href
  unfold Checkout.respondTo
  split
  · exact h.refusal hx hopen
  · refine h.commit hx hopen (same_process x.purchase i.id) ?_
    have hstatus : (x.purchase.process i.id x.purchase).paymentStatus = .processing :=
      writeColumn_current _ _
    have hname : (x.purchase.process i.id x.purchase).treasuryPaymentIntentId = some i.id :=
      writeColumn_current _ _
    refine ⟨?_, ?_, ?_⟩
    · intro y hy
      obtain rfl := Option.some.inj (hname.symm.trans hy)
      exact ⟨i, hi, rfl, hof.reference, hof.purchase, hof.amount⟩
    · intro hdone
      rw [hstatus] at hdone
      cases hdone
    · intro j hj href' _
      rw [hname, h.one i hi j hj x.purchase hmem href href']

theorem InOrder.purchase (h : s.InOrder) (r : ℕ) {p : PortalPurchase}
    (hid : p.id ∉ s.purchases.map fun q => q.id)
    (href : p.paymentReference ∉ s.purchases.map PortalPurchase.paymentReference)
    (hapart : p.paymentReference ∉ s.intents.map Intent.referenceId) (hpending : p.paymentStatus = .pending)
    (hnone : p.treasuryPaymentIntentId = none) :
    ({ s with purchases := s.purchases ++ [p] }.setRequest r ⟨p, false⟩).InOrder ∧
      s.Respects ({ s with purchases := s.purchases ++ [p] }.setRequest r ⟨p, false⟩) := by
  -- no intent is about the new purchase
  have hnew : ∀ i ∈ s.intents, i.referenceId ≠ p.paymentReference :=
    fun i hi heq => hapart (List.mem_map.mpr ⟨i, hi, heq⟩)
  have hcases : ∀ {q}, q ∈ s.purchases ++ [p] → q ∈ s.purchases ∨ q = p := by
    intro q hq
    simpa using hq
  have hkept : ∀ {P : PortalPurchase → Prop}, (∃ q ∈ s.purchases, P q) → ∃ q ∈ s.purchases ++ [p], P q :=
    fun ⟨q, hq, hP⟩ => ⟨q, List.mem_append_left _ hq, hP⟩
  constructor
  · refine ⟨h.ids.append_singleton hid, h.references.append_singleton href, h.intentIds, ?_, ?_, ?_,
      fun i hi k hk => hkept (h.own i hi k hk), ?_, ?_, ?_⟩
    · intro q hq
      rcases hcases hq with hq | rfl
      · exact h.rows q hq
      · refine ⟨?_, ?_, fun i hi heq => absurd heq (hnew i hi)⟩
        · intro x hx
          rw [hnone] at hx
          cases hx
        · intro hdone
          rw [hpending] at hdone
          cases hdone
    · intro i hi q hq heq
      rcases hcases hq with hq | rfl
      · exact h.intents i hi q hq heq
      · exact absurd heq (hnew i hi)
    · intro i hi j hj q hq heq
      rcases hcases hq with hq | rfl
      · exact h.one i hi j hj q hq heq
      · exact absurd heq (hnew i hi)
    · intro r' x hx
      rw [setRequest_request] at hx
      split at hx
      · obtain rfl := Option.some.inj hx
        have hmem : p ∈ s.purchases ++ [p] := List.mem_append_right _ (List.mem_singleton_self p)
        exact ⟨⟨p, hmem, rfl, rfl, rfl⟩, fun _ => ⟨hmem, hpending, hnone⟩⟩
      · have hold := h.requests r' x hx
        refine ⟨hkept hold.kept, fun hopen => ?_⟩
        obtain ⟨hmem, hrest⟩ := hold.untouched hopen
        exact ⟨List.mem_append_left _ hmem, hrest⟩
    · -- the requests before this one have other purchases
      have hother : ∀ r' x, s.request r' = some x → x.purchase.id ≠ p.id := by
        intro r' x hx heq
        obtain ⟨q, hq, hqid, -⟩ := (h.requests r' x hx).kept
        exact hid (List.mem_map.mpr ⟨q, hq, hqid.trans heq⟩)
      intro r₁ r₂ x₁ x₂ h₁ h₂ heq
      rw [setRequest_request] at h₁ h₂
      split at h₁
      · obtain rfl := Option.some.inj h₁
        split at h₂
        · next h₁' h₂' => exact h₁'.trans h₂'.symm
        · exact absurd heq.symm (hother r₂ x₂ h₂)
      · split at h₂
        · obtain rfl := Option.some.inj h₂
          exact absurd heq (hother r₁ x₁ h₁)
        · exact h.apart r₁ r₂ x₁ x₂ h₁ h₂ heq
    · intro k y hy
      have hold := h.polls k y hy
      exact ⟨hkept hold.kept, hold.processing, hold.named, hold.answered⟩
  · refine ⟨fun _ hi _ => hi, fun q hq => hkept ⟨q, hq, rfl, rfl⟩, ?_⟩
    intro q hq
    rcases hcases hq with hq | rfl
    · exact .inl ⟨q, hq, rfl, rfl, id⟩
    · exact .inr hapart

/-! ### The treasury -/

/-- An intent that nobody has paid yet changes nothing for the purchases. -/
theorem RowOk.append {intents : List Intent} {p : PortalPurchase} (h : RowOk intents p) {i : Intent}
    (hpending : i.state = .pending) : RowOk (intents ++ [i]) p where
  linked := by
    intro x hx
    obtain ⟨j, hj, hrest⟩ := h.linked x hx
    exact ⟨j, List.mem_append_left _ hj, hrest⟩
  paid := by
    intro hdone
    obtain ⟨j, hj, hrest⟩ := h.paid hdone
    exact ⟨j, List.mem_append_left _ hj, hrest⟩
  known := by
    intro j hj href hpaid
    rcases List.mem_append.mp hj with hj | hj
    · exact h.known j hj href hpaid
    · obtain rfl := List.mem_singleton.mp hj
      rw [hpending] at hpaid
      cases hpaid

theorem InOrder.intent (h : s.InOrder) {i : Intent} (hid : i.id ∉ s.intents.map Intent.id)
    (hpending : i.state = .pending)
    (hof : ∀ p ∈ s.purchases, i.referenceId = p.paymentReference →
      i.Of p ∧ p.paymentReference ∉ s.intents.map Intent.referenceId)
    (hown : ∀ k ∈ i.purchaseId, ∃ p ∈ s.purchases, p.id = k ∧ p.paymentReference = i.referenceId) :
    ({ s with intents := s.intents ++ [i] } : Checkout).InOrder ∧
      s.Respects { s with intents := s.intents ++ [i] } := by
  have hcases : ∀ {j}, j ∈ s.intents ++ [i] → j ∈ s.intents ∨ j = i := by
    intro j hj
    simpa using hj
  constructor
  · refine ⟨h.ids, h.references, h.intentIds.append_singleton hid, fun p hp => (h.rows p hp).append hpending,
      ?_, ?_, ?_, h.requests, h.apart, ?_⟩
    · intro j hj p hp href
      rcases hcases hj with hj | rfl
      · exact h.intents j hj p hp href
      · exact (hof p hp href).1
    · -- the purchase of the new intent has no other one
      have hone : ∀ j ∈ s.intents, ∀ p ∈ s.purchases, i.referenceId = p.paymentReference →
          j.referenceId ≠ p.paymentReference :=
        fun j hj p hp href href' => (hof p hp href).2 (List.mem_map.mpr ⟨j, hj, href'⟩)
      intro j hj j' hj' p hp href href'
      rcases hcases hj with hold | hnew
      · rcases hcases hj' with hold' | hnew'
        · exact h.one j hold j' hold' p hp href href'
        · exact absurd href (hone j hold p hp (hnew' ▸ href'))
      · rcases hcases hj' with hold' | hnew'
        · exact absurd href' (hone j' hold' p hp (hnew ▸ href))
        · exact hnew.trans hnew'.symm
    · intro j hj
      rcases hcases hj with hold | rfl
      · exact h.own j hold
      · exact hown
    · intro k y hy
      have hold := h.polls k y hy
      refine ⟨hold.kept, hold.processing, hold.named, ?_⟩
      intro a ha
      obtain ⟨j, hj, hrest⟩ := hold.answered a ha
      exact ⟨j, List.mem_append_left _ hj, hrest⟩
  · exact ⟨fun j hj _ => List.mem_append_left _ hj, fun p hp => ⟨p, hp, rfl, rfl⟩,
      fun p hp => .inl ⟨p, hp, rfl, rfl, id⟩⟩

/-- A success stands. -/
theorem paid_settle {intentId : String} {state : IntentState} (hfair : s.Fair (.settle intentId state))
    {i : Intent} (hi : i ∈ s.intents) (hsucceeded : i.state = .succeeded) :
    i ∈ (s.step (.settle intentId state)).intents := by
  refine mem_updateWhere.mpr ⟨i, hi, ?_⟩
  split
  · next hid =>
      have hstands := hfair i hi (of_decide_eq_true hid)
      split at hstands
      · next hstate => rw [hstate, ← hsucceeded]
      · exact absurd hsucceeded hstands
  · rfl

/-- An intent is as before, but for its status. -/
theorem of_mem_settle {intentId : String} {state : IntentState} {j : Intent}
    (hj : j ∈ (s.step (.settle intentId state)).intents) :
    ∃ i ∈ s.intents, j.id = i.id ∧ (∀ p, j.Of p ↔ i.Of p) ∧
      (j.referenceId = i.referenceId ∧ j.purchaseId = i.purchaseId) ∧
        (j = i ∨ i.id = intentId ∧ j.state = state) := by
  obtain ⟨i, hi, rfl⟩ := mem_updateWhere.mp hj
  refine ⟨i, hi, ?_⟩
  split
  · next hid =>
      exact ⟨rfl, fun p => ⟨fun ho => ⟨ho.1, ho.2, ho.3⟩, fun ho => ⟨ho.1, ho.2, ho.3⟩⟩, ⟨rfl, rfl⟩,
        .inr ⟨of_decide_eq_true hid, rfl⟩⟩
  · exact ⟨rfl, fun _ => Iff.rfl, ⟨rfl, rfl⟩, .inl rfl⟩

theorem exists_mem_settle (intentId : String) (state : IntentState) {i : Intent} (hi : i ∈ s.intents) :
    ∃ j ∈ (s.step (.settle intentId state)).intents, j.id = i.id ∧ ∀ p, i.Of p → j.Of p := by
  refine ⟨_, mem_updateWhere.mpr ⟨i, hi, rfl⟩, ?_⟩
  split
  · exact ⟨rfl, fun p ho => ⟨ho.1, ho.2, ho.3⟩⟩
  · exact ⟨rfl, fun _ => id⟩

/-- The treasury gives an intent a status: a success stands, and the purchase knows of it. -/
theorem InOrder.settle (h : s.InOrder) {intentId : String} {state : IntentState}
    (hfair : s.Fair (.settle intentId state)) :
    (s.step (.settle intentId state)).InOrder ∧ s.Respects (s.step (.settle intentId state)) := by
  have hkeyed : Keyed Intent.id (s.step (.settle intentId state)).intents := by
    refine h.intentIds.updateWhere ?_
    intro i
    rfl
  constructor
  · refine ⟨h.ids, h.references, hkeyed, ?_, ?_, ?_, ?_, h.requests, h.apart, ?_⟩
    · intro p hp
      have hrow := h.rows p hp
      refine ⟨?_, ?_, ?_⟩
      · intro x hx
        obtain ⟨i, hi, rfl, hof⟩ := hrow.linked x hx
        obtain ⟨j, hj, hid, hforth⟩ := exists_mem_settle intentId state hi
        exact ⟨j, hj, hid, hforth p hof⟩
      · intro hdone
        obtain ⟨i, hi, hlink, hof, hsucceeded⟩ := hrow.paid hdone
        exact ⟨i, paid_settle hfair hi hsucceeded, hlink, hof, hsucceeded⟩
      · intro j hj href hsucceeded
        obtain ⟨i, hi, hid, -, ⟨href', -⟩, rfl | ⟨hthis, hstate⟩⟩ := of_mem_settle hj
        · exact hrow.known j hi href hsucceeded
        · have hknown := hfair i hi hthis
          rw [if_pos (hstate.symm.trans hsucceeded)] at hknown
          rw [hid, hthis]
          exact hknown p hp (href'.symm.trans href)
    · intro j hj p hp href
      obtain ⟨i, hi, -, hof, ⟨href', -⟩, -⟩ := of_mem_settle hj
      exact (hof p).mpr (h.intents i hi p hp (href'.symm.trans href))
    · intro j hj j' hj' p hp href href'
      obtain ⟨i, hi, hid, -, ⟨hsame, -⟩, -⟩ := of_mem_settle hj
      obtain ⟨i', hi', hid', -, ⟨hsame', -⟩, -⟩ := of_mem_settle hj'
      have heq := h.one i hi i' hi' p hp (hsame.symm.trans href) (hsame'.symm.trans href')
      exact hkeyed.eq_of_key hj hj' (hid.trans ((congrArg Intent.id heq).trans hid'.symm))
    · intro j hj
      obtain ⟨i, hi, -, -, ⟨href, howner⟩, -⟩ := of_mem_settle hj
      rw [href, howner]
      exact h.own i hi
    · intro k y hy
      have hold := h.polls k y hy
      refine ⟨hold.kept, hold.processing, hold.named, ?_⟩
      intro a ha
      obtain ⟨i, hi, hlink, hsucceeded⟩ := hold.answered a ha
      obtain ⟨j, hj, hid, -⟩ := exists_mem_settle intentId state hi
      refine ⟨j, hj, hlink.trans (congrArg some hid.symm), ?_⟩
      intro ha
      rw [hkeyed.eq_of_key hj (paid_settle hfair hi (hsucceeded ha)) hid]
      exact hsucceeded ha
  · exact ⟨fun _ => paid_settle hfair, fun p hp => ⟨p, hp, rfl, rfl⟩, fun p hp => .inl ⟨p, hp, rfl, rfl, id⟩⟩

/-! ### The polls -/

theorem succeeded_of_answer (state : IntentState) : state.answer = .succeeded → state = .succeeded := by
  cases state <;> decide

theorem purchaseOf_mem {organizationId : ℕ} {reference : String} {p : PortalPurchase}
    (h : s.purchaseOf organizationId reference = some p) : p ∈ s.purchases := by
  have hfilter := scalarOne_eq_some.mp h
  exact (List.mem_filter.mp (hfilter ▸ List.mem_singleton_self p)).1

theorem InOrder.setPoll (h : s.InOrder) (k : ℕ) {y : Option PurchasePoll}
    (hy : ∀ y' ∈ y, PollOk s.purchases s.intents y') :
    (s.setPoll k y).InOrder ∧ s.Respects (s.setPoll k y) := by
  constructor
  · refine ⟨h.ids, h.references, h.intentIds, h.rows, h.intents, h.one, h.own, h.requests, h.apart, ?_⟩
    intro k' y' hy'
    rw [setPoll_poll] at hy'
    split at hy'
    · exact hy y' hy'
    · exact h.polls k' y' hy'
  · exact ⟨fun _ hi _ => hi, fun p hp => ⟨p, hp, rfl, rfl⟩, fun p hp => .inl ⟨p, hp, rfl, rfl, id⟩⟩

theorem InOrder.endPoll {t : Checkout} (h : t.InOrder ∧ s.Respects t) (k : ℕ) :
    (t.setPoll k none).InOrder ∧ s.Respects (t.setPoll k none) :=
  ⟨(h.1.setPoll k (by simp)).1, h.2.intents, h.2.old, h.2.new⟩

theorem InOrder.concludeWith (h : s.InOrder) {k : ℕ} {p : PortalPurchase} {answer : TreasuryAnswer}
    (hk : s.poll k = some ⟨p, some answer⟩) (hfair : ¬ s.Stale ⟨p, some answer⟩) (now : ℤ) :
    (s.concludeWith k p answer now).InOrder ∧ s.Respects (s.concludeWith k p answer now) := by
  have hpoll := h.polls k _ hk
  obtain ⟨q, hq, hid, hlink⟩ := hpoll.kept
  obtain ⟨i, hi, hname, hsucceeded⟩ := hpoll.answered answer rfl
  have hloaded : p.paymentStatus ≠ .completed := by
    rw [hpoll.processing]
    decide
  cases answer with
  | succeeded =>
      have hdone := h.complete hq hi (hlink.trans hname) (hsucceeded rfl) hloaded now
      rw [hid] at hdone
      exact InOrder.endPoll hdone k
  | failed =>
      have hfailed : i.state ≠ .succeeded := fun hpaid => hfair ⟨rfl, i, hi, hname, hpaid⟩
      have hdone := h.fail hq hi (hlink.trans hname) hfailed p
      rw [hid] at hdone
      exact InOrder.endPoll hdone k
  | other => exact h.setPoll k (by simp)

/-! ### All steps -/

/-- **A fair step** keeps everything in order, and takes nothing back. -/
theorem inOrder_step (h : s.InOrder) {e : CheckoutEvent} (hfair : s.Fair e) :
    (s.step e).InOrder ∧ s.Respects (s.step e) := by
  have hidle : s.InOrder ∧ s.Respects s := ⟨h, Respects.refl s⟩
  cases e with
  | purchase r provider access plan id reference =>
      simp only [step]
      split
      · next hguard => exact h.purchase r hguard.2.2.2.2 hfair.1 hfair.2 rfl rfl
      · exact hidle
  | arrive r intentId =>
      simp only [step]
      split
      · exact hidle
      · next x hx =>
          split
          · next hnew =>
              obtain ⟨q, hq, hid, href', hamount⟩ := (h.requests r x hx).kept
              refine h.intent hnew.1 rfl ?_ ?_
              · intro p hp href
                obtain rfl := h.references.eq_of_key hp hq (href.symm.trans href'.symm)
                exact ⟨⟨href, congrArg some hid.symm, hamount.symm⟩, href ▸ hnew.2⟩
              · intro k hk
                exact ⟨q, hq, hid.trans (Option.some.inj hk), href'⟩
          · exact hidle
  | respond r =>
      simp only [step]
      split
      · exact hidle
      · next x hx =>
          split
          · exact hidle
          · next hopen =>
              split
              · exact hidle
              · next i hi =>
                  exact h.respondTo hx (by simpa using hopen) (List.mem_of_find?_eq_some hi)
                    (by simpa using List.find?_some hi)
  | refuse r =>
      simp only [step]
      split
      · exact hidle
      · next x hx =>
          split
          · exact hidle
          · next hopen => exact h.refusal hx (by simpa using hopen)
  | crash r =>
      simp only [step]
      split
      · exact hidle
      · next x hx =>
          have hsame := Respects.refl s
          exact ⟨h.close hx, hsame.intents, hsame.old, hsame.new⟩
  | foreign intentId reference amount =>
      simp only [step]
      split
      · next hnew =>
          refine h.intent hnew rfl ?_ nofun
          intro p hp href
          exact absurd (List.mem_map.mpr ⟨p, hp, href.symm⟩) hfair
      · exact hidle
  | settle intentId state => exact h.settle hfair
  | ask k organizationId reference =>
      simp only [step]
      split
      · exact hidle
      · next p hp =>
          split
          · next hready =>
              refine h.setPoll k ?_
              rintro y ⟨⟩
              refine ⟨⟨p, purchaseOf_mem hp, rfl, rfl⟩, hready.1, ?_, nofun⟩
              intro hnone
              have hnone' : p.treasuryPaymentIntentId = none := hnone
              exact hready.2 (by rw [hnone', Option.getD_none])
          · exact hidle
  | answer k =>
      simp only [step]
      split
      · exact hidle
      · next y hy =>
          split
          · exact hidle
          · next i hi =>
              have hpoll := h.polls k y hy
              refine h.setPoll k ?_
              rintro y' ⟨⟩
              refine ⟨hpoll.kept, hpoll.processing, hpoll.named, ?_⟩
              rintro a ⟨⟩
              have hname : some i.id = y.purchase.treasuryPaymentIntentId := by
                simpa using List.find?_some hi
              exact ⟨i, List.mem_of_find?_eq_some hi, hname.symm, succeeded_of_answer i.state⟩
  | conclude k now =>
      simp only [step]
      split
      · next p answer hk => exact h.concludeWith hk (hfair _ hk) now
      · exact hidle
  | drop k => exact h.setPoll k (by simp)
  | webhook organizationId reference success now => exact absurd hfair id

end Checkout
end IspBilling
