import IspBilling.InvoiceBalance

/-! # Payments that meet on one invoice

A payment is applied in memory: the session reads the invoice, adds the amount to `paid_amount`,
recomputes the balance and commits (`_apply_payment_to_invoice` in
`app/modules/billing/service.py`, `verify_payment` and the bulk operations in
`app/modules/billing/payments.py`).  There is no row lock, and the flush writes the value that
was computed; the column rounds it to cents.  With `expire_on_commit=False` a session goes on with the
object that it has written, unrounded, so its next payment does not read the row again.

`PaymentRace` is the committed row with the sessions that hold it; any number of sessions read,
receive, commit and close in any order.  `no_lost_payment_iff` is the exact condition: the
committed payments are all in `paid_amount`, in every state of the run, if and only if every commit that
adds something adds whole cents and found the amount in the database that its session had read.  When
all amounts are whole cents, that is exact for the last state alone: a payment that is overwritten once is
never found again (`Behind`). -/

namespace IspBilling

open Runs Rounding

/-- The invoice in the memory of a session, where nothing is rounded. -/
structure InvoiceObject where
  totalAmount : ℤ
  paidAmount : ℚ≥0
  balance : ℚ
  status : InvoiceStatus
deriving DecidableEq

/-- The object that is loaded from a row. -/
def Invoice.load (inv : Invoice) : InvoiceObject :=
  ⟨inv.totalAmount, inv.paidAmount, inv.balance, inv.status⟩

/-- The assignments of a payment. -/
def InvoiceObject.receive (amount : ℚ≥0) (inv : InvoiceObject) : InvoiceObject :=
  let paidAmount := inv.paidAmount + amount
  let balance : ℚ := inv.totalAmount - paidAmount
  { inv with
    paidAmount := paidAmount
    balance := balance
    status := if balance ≤ 0 then .paid else inv.status }

/-- The flush of a changed invoice: the columns that differ from the loaded ones are written. -/
def Invoice.flush (loaded changed : InvoiceObject) (row : Invoice) : Invoice :=
  { row with
    paidAmount := if changed.paidAmount = loaded.paidAmount then row.paidAmount
      else roundNat changed.paidAmount
    balance := if changed.balance = loaded.balance then row.balance
      else roundHalfAway changed.balance
    status := if changed.status = loaded.status then row.status else changed.status }

/-- A session: the invoice as it was loaded or last written, and the amounts added since. -/
structure PaymentSession where
  loaded : InvoiceObject
  pending : List ℚ≥0
deriving DecidableEq

def PaymentSession.current (x : PaymentSession) : InvoiceObject :=
  x.pending.foldl (fun inv amount => inv.receive amount) x.loaded

/-- The committed row, the open sessions and the amounts that were committed. -/
structure PaymentRace where
  invoice : Invoice
  sessions : List PaymentSession
  applied : List ℚ≥0
deriving DecidableEq

namespace PaymentRace

inductive Event where
  /-- A session reads the invoice. -/
  | load
  /-- The `i`-th session adds a payment. -/
  | receive (i : ℕ) (amount : ℚ≥0)
  /-- The `i`-th session commits. -/
  | commit (i : ℕ)
  /-- The `i`-th session ends; what it has not committed is rolled back. -/
  | close (i : ℕ)

def step (s : PaymentRace) : Event → PaymentRace
  | .load => { s with sessions := s.sessions ++ [⟨s.invoice.load, []⟩] }
  | .receive i amount =>
      { s with sessions := s.sessions.modify i (fun x => { x with pending := x.pending ++ [amount] }) }
  | .commit i =>
      match s.sessions[i]? with
      | none => s
      | some x =>
          { invoice := s.invoice.flush x.loaded x.current
            sessions := s.sessions.set i ⟨x.current, []⟩
            applied := s.applied ++ x.pending }
  | .close i => { s with sessions := s.sessions.eraseIdx i }

/-- A commit that adds something adds whole cents, and finds the amount that its session has read. -/
def ReadIsCurrent (s : PaymentRace) : Event → Prop
  | .commit i => ∀ x ∈ s.sessions[i]?, x.pending.sum ≠ 0 →
      Whole x.pending.sum ∧ (s.invoice.paidAmount : ℚ≥0) = x.loaded.paidAmount
  | .load | .receive .. | .close _ => True

instance (s : PaymentRace) (e : Event) : Decidable (s.ReadIsCurrent e) :=
  match e with
  | .commit i => inferInstanceAs (Decidable (∀ x ∈ s.sessions[i]?, x.pending.sum ≠ 0 →
      Whole x.pending.sum ∧ (s.invoice.paidAmount : ℚ≥0) = x.loaded.paidAmount))
  | .load | .receive .. | .close _ => isTrue trivial

/-- The payments of the event are whole cents. -/
def Event.InCents : Event → Prop
  | .receive _ amount => Whole amount
  | .load | .commit _ | .close _ => True

/-! ### What is in `paid_amount` -/

section Amounts

variable (initial : ℕ) (s : PaymentRace)

/-- `paid_amount` is its initial value plus the committed payments. -/
def AllPaid : Prop := (s.invoice.paidAmount : ℚ≥0) = initial + s.applied.sum

instance : Decidable (AllPaid initial s) := inferInstanceAs (Decidable (_ = _))

/-- All committed payments are there, and no session has read more. -/
structure Settled : Prop where
  paid : AllPaid initial s
  loaded : ∀ x ∈ s.sessions, Whole x.loaded.paidAmount ∧
    x.loaded.paidAmount ≤ initial + s.applied.sum

/-- A payment is lost: neither the row nor a session has all of them. -/
structure Behind : Prop where
  paid : (s.invoice.paidAmount : ℚ≥0) < initial + s.applied.sum
  loaded : ∀ x ∈ s.sessions, Whole x.loaded.paidAmount ∧
    x.loaded.paidAmount < initial + s.applied.sum

/-- What the sessions have added is whole cents. -/
def CentsPending : Prop := ∀ x ∈ s.sessions, Whole x.pending.sum

end Amounts

theorem paidAmount_current (x : PaymentSession) :
    x.current.paidAmount = x.loaded.paidAmount + x.pending.sum := by
  obtain ⟨inv, pending⟩ := x
  show (pending.foldl _ inv).paidAmount = _
  induction pending generalizing inv with
  | nil => simp
  | cons a pending ih =>
      rw [List.foldl_cons, ih, List.sum_cons, ← add_assoc]
      rfl

theorem paidAmount_flush (x : PaymentSession) (row : Invoice) :
    (row.flush x.loaded x.current).paidAmount =
      if x.pending.sum = 0 then row.paidAmount
      else roundNat (x.loaded.paidAmount + x.pending.sum) := by
  simp only [Invoice.flush, paidAmount_current, add_eq_left]

/-- A move that is no commit writes nothing, and what holds of the row and of what the sessions
have read still holds of what they have read. -/
theorem step_of_ne_commit {s : PaymentRace} {e : Event} (he : ∀ i, e ≠ .commit i) :
    (s.step e).invoice = s.invoice ∧ (s.step e).applied = s.applied ∧
      ∀ Q : ℚ≥0 → Prop, Q s.invoice.paidAmount → (∀ x ∈ s.sessions, Q x.loaded.paidAmount) →
        ∀ x ∈ (s.step e).sessions, Q x.loaded.paidAmount := by
  cases e with
  | load =>
      refine ⟨rfl, rfl, ?_⟩
      intro Q hrow hsess x hx
      rcases List.mem_append.mp hx with hold | hnew
      · exact hsess x hold
      · rw [List.mem_singleton.mp hnew]
        exact hrow
  | receive i amount =>
      refine ⟨rfl, rfl, ?_⟩
      intro Q _ hsess x hx
      obtain ⟨j, hj⟩ := List.mem_iff_getElem?.mp hx
      rw [show (s.step (.receive i amount)).sessions = s.sessions.modify i _ from rfl,
        List.getElem?_modify] at hj
      obtain ⟨y, hy, rfl⟩ := Option.map_eq_some_iff.mp hj
      have hy := hsess y (List.mem_of_getElem? hy)
      split
      · exact hy
      · exact hy
  | commit i => exact absurd rfl (he i)
  | close i =>
      refine ⟨rfl, rfl, ?_⟩
      exact fun Q _ hsess x hx => hsess x (List.mem_of_mem_eraseIdx hx)

theorem step_commit {s : PaymentRace} {i : ℕ} {x : PaymentSession} (hx : s.sessions[i]? = some x) :
    (s.step (.commit i)).invoice.paidAmount = (if x.pending.sum = 0 then s.invoice.paidAmount
        else roundNat (x.loaded.paidAmount + x.pending.sum)) ∧
      (s.step (.commit i)).applied.sum = s.applied.sum + x.pending.sum ∧
      ∀ y ∈ (s.step (.commit i)).sessions,
        y ∈ s.sessions ∨ y.loaded.paidAmount = x.loaded.paidAmount + x.pending.sum := by
  simp only [PaymentRace.step, hx]
  refine ⟨paidAmount_flush x s.invoice, List.sum_append, fun y hy => ?_⟩
  rcases List.mem_or_eq_of_mem_set hy with hold | rfl
  · exact Or.inl hold
  · exact Or.inr (paidAmount_current x)

theorem step_commit_none {s : PaymentRace} {i : ℕ} (hx : s.sessions[i]? = none) :
    s.step (.commit i) = s := by
  simp only [PaymentRace.step, hx]

theorem CentsPending.step {s : PaymentRace} (h : s.CentsPending) {e : Event} (he : e.InCents) :
    (s.step e).CentsPending := by
  intro x hx
  cases e with
  | load =>
      rcases List.mem_append.mp hx with hold | hnew
      · exact h x hold
      · rw [List.mem_singleton.mp hnew]
        exact whole_natCast 0
  | receive i amount =>
      obtain ⟨j, hj⟩ := List.mem_iff_getElem?.mp hx
      rw [show (s.step (.receive i amount)).sessions = s.sessions.modify i _ from rfl,
        List.getElem?_modify] at hj
      obtain ⟨y, hy, rfl⟩ := Option.map_eq_some_iff.mp hj
      have hwhole := h y (List.mem_of_getElem? hy)
      split
      · rw [List.sum_append, List.sum_singleton]
        exact hwhole.add he
      · exact hwhole
  | commit i =>
      cases hi : s.sessions[i]? with
      | none => exact h x (step_commit_none hi ▸ hx)
      | some y =>
          simp only [PaymentRace.step, hi] at hx
          rcases List.mem_or_eq_of_mem_set hx with hold | rfl
          · exact h x hold
          · exact whole_natCast 0
  | close i => exact h x (List.mem_of_mem_eraseIdx hx)

section Steps

variable {initial : ℕ} {s : PaymentRace} {e : Event}

theorem Settled.step (h : s.Settled initial) (hok : s.ReadIsCurrent e) :
    (s.step e).Settled initial := by
  by_cases hcommit : ∃ i, e = .commit i
  · obtain ⟨i, rfl⟩ := hcommit
    cases hx : s.sessions[i]? with
    | none => exact (step_commit_none hx).symm ▸ h
    | some x =>
        obtain ⟨hpaid, happ, hsess⟩ := step_commit hx
        obtain ⟨hwhole, hread⟩ := h.loaded x (List.mem_of_getElem? hx)
        have hpending : Whole x.pending.sum := by
          by_cases hzero : x.pending.sum = 0
          · exact hzero ▸ whole_natCast 0
          · exact (hok x hx hzero).1
        refine ⟨?_, fun y hy => ?_⟩
        · unfold AllPaid
          rw [hpaid, happ, ← add_assoc, ← show (_ : ℚ≥0) = _ from h.paid]
          split
          · rename_i hzero
            rw [hzero, add_zero]
          · rename_i hne
            rw [(hwhole.add hpending).roundNat, (hok x hx hne).2]
        · rw [happ, ← add_assoc]
          rcases hsess y hy with hold | hnew
          · obtain ⟨hy, hle⟩ := h.loaded y hold
            exact ⟨hy, hle.trans le_self_add⟩
          · rw [hnew]
            exact ⟨hwhole.add hpending, add_le_add_left hread _⟩
  · obtain ⟨hinv, happ, hsess⟩ := step_of_ne_commit (s := s) (fun i heq => hcommit ⟨i, heq⟩)
    refine ⟨?_, ?_⟩
    · unfold AllPaid
      rw [hinv, happ]
      exact h.paid
    · rw [happ]
      exact hsess (fun paid => Whole paid ∧ paid ≤ initial + s.applied.sum)
        ⟨whole_natCast _, (show (_ : ℚ≥0) = _ from h.paid).le⟩ h.loaded

/-- Any other commit is off: fractions of a cent cannot be stored, and what was read before another
commit lacks that one. -/
theorem Settled.not_allPaid (h : s.Settled initial) (hbad : ¬ s.ReadIsCurrent e) :
    ¬ AllPaid initial (s.step e) := by
  cases e with
  | load => exact absurd trivial hbad
  | receive i amount => exact absurd trivial hbad
  | close i => exact absurd trivial hbad
  | commit i =>
      simp only [ReadIsCurrent, not_forall] at hbad
      obtain ⟨x, hx, hne, hbad⟩ := hbad
      obtain ⟨hpaid, happ, _⟩ := step_commit hx
      obtain ⟨hwhole, _⟩ := h.loaded x (List.mem_of_getElem? hx)
      unfold AllPaid
      rw [hpaid, happ, if_neg hne, ← add_assoc, ← show (_ : ℚ≥0) = _ from h.paid]
      intro heq
      have hpending : Whole x.pending.sum :=
        (whole_natCast s.invoice.paidAmount).of_add (heq ▸ whole_natCast _)
      rw [(hwhole.add hpending).roundNat] at heq
      exact hbad ⟨hpending, (add_right_cancel heq).symm⟩

theorem Settled.behind (h : s.Settled initial) (hcents : s.CentsPending)
    (hbad : ¬ s.ReadIsCurrent e) : (s.step e).Behind initial := by
  cases e with
  | load => exact absurd trivial hbad
  | receive i amount => exact absurd trivial hbad
  | close i => exact absurd trivial hbad
  | commit i =>
      simp only [ReadIsCurrent, not_forall] at hbad
      obtain ⟨x, hx, hne, hbad⟩ := hbad
      obtain ⟨hpaid, happ, hsess⟩ := step_commit hx
      obtain ⟨hwhole, hread⟩ := h.loaded x (List.mem_of_getElem? hx)
      have hpending := hcents x (List.mem_of_getElem? hx)
      have hlt : x.loaded.paidAmount < initial + s.applied.sum :=
        hread.lt_of_ne (fun heq => hbad ⟨hpending, (show (_ : ℚ≥0) = _ from h.paid).trans heq.symm⟩)
      refine ⟨?_, fun y hy => ?_⟩
      · rw [hpaid, if_neg hne, happ, (hwhole.add hpending).roundNat, ← add_assoc]
        exact add_lt_add_left hlt _
      · rw [happ, ← add_assoc]
        rcases hsess y hy with hold | hnew
        · obtain ⟨hy, hle⟩ := h.loaded y hold
          exact ⟨hy, hle.trans_lt (lt_add_of_pos_right _ (pos_iff_ne_zero.mpr hne))⟩
        · rw [hnew]
          exact ⟨hwhole.add hpending, add_lt_add_left hlt _⟩

theorem Behind.step (h : s.Behind initial) (hcents : s.CentsPending) :
    (s.step e).Behind initial := by
  by_cases hcommit : ∃ i, e = .commit i
  · obtain ⟨i, rfl⟩ := hcommit
    cases hx : s.sessions[i]? with
    | none => exact (step_commit_none hx).symm ▸ h
    | some x =>
        obtain ⟨hpaid, happ, hsess⟩ := step_commit hx
        obtain ⟨hwhole, hread⟩ := h.loaded x (List.mem_of_getElem? hx)
        have hpending := hcents x (List.mem_of_getElem? hx)
        refine ⟨?_, fun y hy => ?_⟩
        · rw [hpaid, happ, ← add_assoc]
          split
          · rename_i hzero
            rw [hzero, add_zero]
            exact h.paid
          · rw [(hwhole.add hpending).roundNat]
            exact add_lt_add_left hread _
        · rw [happ, ← add_assoc]
          rcases hsess y hy with hold | hnew
          · obtain ⟨hy, hlt⟩ := h.loaded y hold
            exact ⟨hy, hlt.trans_le le_self_add⟩
          · rw [hnew]
            exact ⟨hwhole.add hpending, add_lt_add_left hread _⟩
  · obtain ⟨hinv, happ, hsess⟩ := step_of_ne_commit (s := s) (fun i heq => hcommit ⟨i, heq⟩)
    refine ⟨?_, ?_⟩
    · rw [hinv, happ]
      exact h.paid
    · rw [happ]
      exact hsess (fun paid => Whole paid ∧ paid < initial + s.applied.sum)
        ⟨whole_natCast _, h.paid⟩ h.loaded

end Steps

theorem exec_alone (invoice : BilledInvoice) (amount : ℚ≥0) :
    (exec step ⟨invoice.toInvoice, [], []⟩ [.load, .receive 0 amount, .commit 0]).invoice =
      (invoice.applyPayment amount).toInvoice := by
  have hbalance : ∀ (b : ℚ) (n : ℤ) [Decidable (b = n)],
      (if b = n then n else roundHalfAway b) = roundHalfAway b := by
    intro b n _
    split
    · rename_i h
      rw [h, roundHalfAway_intCast]
    · rfl
  have hpaid : ∀ (a : ℚ≥0) (n : ℕ) [Decidable (a = n)],
      (if a = n then n else roundNat a) = roundNat a := by
    intro a n _
    split
    · rename_i h
      rw [h, roundNat_natCast]
    · rfl
  have hstatus : ∀ (a b : InvoiceStatus) [Decidable (a = b)], (if a = b then b else a) = a := by
    intro a b _
    split
    · exact Eq.symm ‹_›
    · rfl
  obtain ⟨⟨id, subscriptionId, totalAmount, paidAmount, balance, status⟩, _⟩ := invoice
  set rest : ℚ := totalAmount - (paidAmount + amount)
  set newStatus : InvoiceStatus := if rest ≤ 0 then .paid else status
  show (⟨id, subscriptionId, totalAmount,
    if (paidAmount : ℚ≥0) + amount = paidAmount then paidAmount else roundNat (paidAmount + amount),
    if rest = balance then balance else roundHalfAway rest,
    if newStatus = status then status else newStatus⟩ : Invoice) = _
  rw [hpaid, hbalance, hstatus]
  rfl

/-- **No payment is lost, exactly when**: in every interleaving of sessions that apply payments
to an invoice, `paid_amount` is in every state its initial value plus the committed payments if and only
if every commit that adds something adds whole cents and found `paid_amount` as its session had read it.
When all payments are whole cents, so is it in the last state. -/
theorem no_lost_payment_iff (invoice : Invoice) (es : List Event) :
    (Always step (AllPaid invoice.paidAmount) ⟨invoice, [], []⟩ es ↔
      Along step ReadIsCurrent ⟨invoice, [], []⟩ es) ∧
    ((∀ e ∈ es, e.InCents) →
      (AllPaid invoice.paidAmount (exec step ⟨invoice, [], []⟩ es) ↔
        Along step ReadIsCurrent ⟨invoice, [], []⟩ es)) := by
  have hstart : Settled invoice.paidAmount ⟨invoice, [], []⟩ :=
    ⟨(add_zero _).symm, fun _ hx => by cases hx⟩
  constructor
  · exact always_iff_along_invariant (G := Settled invoice.paidAmount) (fun _ h => h.paid)
      (fun _ _ h hok => h.step hok) (fun _ _ h hbad => h.not_allPaid hbad) hstart
  · intro hcents
    refine exec_iff_along_of (E := Event.InCents)
      (G := fun s => s.Settled invoice.paidAmount ∧ s.CentsPending)
      (B := fun s => s.Behind invoice.paidAmount ∧ s.CentsPending) ?_ ?_ ?_ (fun _ h => h.1.paid)
      (fun _ h => h.1.paid.ne) hcents ⟨hstart, fun _ hx => by cases hx⟩
    · exact fun _ _ he h hok => ⟨h.1.step hok, h.2.step he⟩
    · exact fun _ _ he h hbad => ⟨h.1.behind h.2 hbad, h.2.step he⟩
    · exact fun _ _ he h => ⟨h.1.step h.2, h.2.step he⟩

/-- Two sessions read the invoice before either commits: the payment of 4.00 is lost.  Half a cent
twice, one session after the other, counts for two cents. -/
theorem second_commit_overwrites :
    let s := exec step ⟨⟨1, none, 1000, 0, 1000, .pending⟩, [], []⟩
      [.load, .load, .receive 0 400, .receive 1 300, .commit 0, .commit 1]
    let t := exec step ⟨⟨1, none, 1000, 0, 1000, .pending⟩, [], []⟩
      [.load, .receive 0 (1 / 2), .commit 0, .close 0, .load, .receive 0 (1 / 2), .commit 0]
    (s.applied = [400, 300] ∧ s.invoice = ⟨1, none, 1000, 300, 700, .pending⟩ ∧ ¬ AllPaid 0 s) ∧
      t.applied = [1 / 2, 1 / 2] ∧ t.invoice.paidAmount = 2 ∧ ¬ AllPaid 0 t := by
  decide +kernel

end PaymentRace

end IspBilling
