import IspBilling.Runs
import IspBilling.Voucher

/-! # The fulfilment of a purchase

A paid purchase is fulfilled by `_process_successful_payment` (`app/api/v1/portal/hotspot.py`):
it records the payment, generates hotspot credentials, creates a voucher and provisions the
router.  Three handlers call it, each with a guard of its own: the treasury event
(`handle_treasury_payment_succeeded` in `app/events/consumer.py`) skips a completed purchase,
the poll (`get_payment_status`) asks the treasury only for a purchase that is `processing`, and
`payment_webhook` does not look at the status.

`Fulfilment` is the committed state of one purchase together with the database sessions of the
handlers that are under way; `step` lets one session do its next database operation.  A
session holds the purchase as it read it, without a row lock, and a commit writes the columns
that the session has changed.  Where the routine commits matters:

* `lookupPlan` commits the payment status at once when the plan is gone;
* `generate` is the commit inside `generate_hotspot_credentials`: it consumes a username, and
  it commits the payment status along with it;
* `commitVoucher` commits the voucher and its link;
* `raise` is the catch-all handler, which tries to commit the payment status once more. -/

namespace IspBilling

open Rows Runs

/-- The decimal digits of `n`, padded with zeros to width `w`. -/
def zeroPad (w n : ℕ) : String :=
  String.ofList (List.replicate (w - (toString n).length) '0') ++ toString n

/-- The hotspot username for a prefix and a counter. -/
def hotspotUsername (usernamePrefix : String) (counter : ℕ) : String :=
  usernamePrefix ++
    if counter < 1000 then zeroPad 3 counter
    else if counter < 10000 then zeroPad 4 counter
    else zeroPad 5 counter

/-- The settings that `generate_hotspot_credentials` creates when there are none. -/
def OrganizationSettings.initial (organizationId : ℕ) : OrganizationSettings :=
  ⟨organizationId, 14, "C", 1⟩

inductive Phase where
  /-- The poll waits for the answer of the treasury. -/
  | asking
  /-- The payment failed; the status is assigned and not committed. -/
  | failing
  /-- `_process_successful_payment` has begun: the status is assigned and not committed. -/
  | started
  | planned (plan : ServicePlan)
  /-- `generate_hotspot_credentials` has read the settings. -/
  | settingsRead (plan : ServicePlan) (settings : Option OrganizationSettings)
  /-- The credentials are committed. -/
  | generated (plan : ServicePlan) (username password : String)
  /-- The voucher is added and linked, not committed. -/
  | added (voucher : VoucherCode)
  /-- The voucher is committed. -/
  | stored
  | closed
deriving DecidableEq, Repr

structure FulfilmentSession where
  /-- The purchase as the session knows it to be committed. -/
  loaded : CustomerPurchase
  completedAt : ℤ
  phase : Phase
deriving DecidableEq, Repr

/-- What the session knows after it has committed the status and the time. -/
def FulfilmentSession.synced (t : FulfilmentSession) (phase : Phase) : FulfilmentSession :=
  { t with
    loaded := { t.loaded with paymentStatus := .completed, completedAt := some t.completedAt }
    phase := phase }

/-- The session has passed its guard and not yet committed. -/
def Phase.Open : Phase → Prop
  | .asking | .started | .planned _ | .settingsRead .. => True
  | .failing | .generated .. | .added _ | .stored | .closed => False

instance : DecidablePred Phase.Open
  | .asking | .started | .planned _ | .settingsRead .. => isTrue trivial
  | .failing | .generated .. | .added _ | .stored | .closed => isFalse id

/-- The session has consumed a username, and its voucher is not committed. -/
def Phase.Owing : Phase → Prop
  | .generated .. | .added _ => True
  | .asking | .failing | .started | .planned _ | .settingsRead .. | .stored | .closed => False

instance : DecidablePred Phase.Owing
  | .generated .. | .added _ => isTrue trivial
  | .asking | .failing | .started | .planned _ | .settingsRead .. | .stored | .closed => isFalse id

/-- The committed state of a purchase, the sessions on it, and what has been done for it. -/
structure Fulfilment where
  purchase : CustomerPurchase
  plans : List ServicePlan
  settings : Option OrganizationSettings
  vouchers : List VoucherCode
  sessions : List FulfilmentSession
  /-- The usernames consumed for the purchase. -/
  consumed : List String
  /-- The vouchers created for the purchase. -/
  created : List ℕ
  /-- A fulfilment found no plan and committed the payment status. -/
  planMissing : Bool
  /-- The catch-all handler committed the payment status. -/
  handlerRecorded : Bool
deriving DecidableEq, Repr

/-- The answers of the treasury to a poll, as far as the poll tells them apart. -/
inductive TreasuryAnswer where
  | succeeded
  | failed
  | other
deriving DecidableEq, Repr

namespace Fulfilment

inductive Event where
  | treasuryEvent (now : ℤ)
  | webhook (success : Bool) (now : ℤ)
  | poll
  | answer (i : ℕ) (answer : TreasuryAnswer) (now : ℤ)
  | commitFailed (i : ℕ)
  | lookupPlan (i : ℕ)
  | readSettings (i : ℕ)
  | generate (i : ℕ) (password : String)
  | addVoucher (i : ℕ) (now : ℤ) (code : String) (voucherId : ℕ)
  | commitVoucher (i : ℕ)
  | provision (i : ℕ)
  | raise (i : ℕ) (now : ℤ) (commits : Bool)
  | stop (i : ℕ)
  /-- Other requests change the settings or the plans. -/
  | editSettings (settings : Option OrganizationSettings)
  | editPlans (plans : List ServicePlan)
deriving DecidableEq, Repr

/-- The assigned columns of a session that has begun to fulfil, written over `row`: a column
whose value equals the loaded one is not written. -/
def writeCompleted (t : FulfilmentSession) (row : CustomerPurchase) : CustomerPurchase :=
  { row with
    paymentStatus := if t.loaded.paymentStatus = .completed then row.paymentStatus else .completed
    completedAt := if t.loaded.completedAt = some t.completedAt then row.completedAt
      else some t.completedAt }

/-- The committed purchase when the session marks the payment as failed. -/
def writeFailed (t : FulfilmentSession) (row : CustomerPurchase) : CustomerPurchase :=
  { row with
    paymentStatus := if t.loaded.paymentStatus = .failed then row.paymentStatus else .failed }

def openSession (s : Fulfilment) (now : ℤ) (phase : Phase) : Fulfilment :=
  { s with sessions := s.sessions ++ [⟨s.purchase, now, phase⟩] }

/-- Move session `i`. -/
def setPhase (s : Fulfilment) (i : ℕ) (t : FulfilmentSession) (phase : Phase) : Fulfilment :=
  { s with sessions := s.sessions.set i { t with phase := phase } }

/-- The commit of the voucher of session `i`, with the link from the purchase. -/
def storeVoucher (s : Fulfilment) (i : ℕ) (t : FulfilmentSession) (voucher : VoucherCode)
    (phase : Phase) : Fulfilment :=
  { s with
    purchase := { s.purchase with voucherCodeId := some voucher.id }
    vouchers := s.vouchers ++ [voucher]
    created := s.created ++ [voucher.id]
    sessions := s.sessions.set i { t with phase := phase } }

/-- The catch-all handler of `_process_successful_payment` in session `t`: it assigns the status
and the time again and commits whatever the session has pending. -/
def recordCompleted (s : Fulfilment) (i : ℕ) (t : FulfilmentSession) (now : ℤ) : Fulfilment :=
  match t.phase with
  | .added voucher =>
      let s := s.storeVoucher i t voucher .closed
      { s with purchase := writeCompleted { t with completedAt := now } s.purchase }
  | .stored =>
      { s.setPhase i t .closed with
        purchase := writeCompleted { t with completedAt := now } s.purchase }
  | _ =>
      { s.setPhase i t .closed with
        purchase := writeCompleted { t with completedAt := now } s.purchase, handlerRecorded := true }

/-- The voucher of an online purchase: already in use, from `now` on. -/
def purchasedVoucher (purchase : CustomerPurchase) (plan : ServicePlan) (username password : String)
    (now : ℤ) (code : String) (voucherId : ℕ) : VoucherCode where
  id := voucherId
  organizationId := purchase.organizationId
  code := code
  planId := plan.id
  status := .used
  isUsed := true
  usedAt := some now
  usedMacAddress := none
  expiresAt := some (now + days 30)
  validFrom := none
  value := some purchase.amount
  hotspotUsername := some username
  hotspotPassword := some password
  createdAt := now

/-- The next database operation of session `t`, number `i`. -/
def advance (s : Fulfilment) (i : ℕ) (t : FulfilmentSession) : Event → Fulfilment
  | .answer _ answer now =>
      match t.phase, answer with
      | .asking, .succeeded => s.setPhase i { t with completedAt := now } .started
      | .asking, .failed => s.setPhase i t .failing
      | .asking, .other => s.setPhase i t .closed
      | _, _ => s
  | .commitFailed _ =>
      match t.phase with
      | .failing => { s.setPhase i t .closed with purchase := writeFailed t s.purchase }
      | _ => s
  | .lookupPlan _ =>
      match t.phase with
      | .started =>
          match s.plans.find? (fun p => decide (p.id = t.loaded.planId)) with
          | some plan => s.setPhase i t (.planned plan)
          | none =>
              { s.setPhase i t .closed with
                purchase := writeCompleted t s.purchase, planMissing := true }
      | _ => s
  | .readSettings _ =>
      match t.phase with
      | .planned plan => s.setPhase i t (.settingsRead plan s.settings)
      | _ => s
  | .generate _ password =>
      match t.phase with
      | .settingsRead plan loaded =>
          let settings := loaded.getD (.initial t.loaded.organizationId)
          let username := hotspotUsername settings.hotspotUsernamePrefix settings.hotspotUsernameCounter
          -- a second default row violates the unique key, and the request ends
          if loaded = none ∧ s.settings ≠ none then s.setPhase i t .closed
          else
            { s with
              purchase := writeCompleted t s.purchase
              settings := some { s.settings.getD settings with
                hotspotUsernameCounter := settings.hotspotUsernameCounter + 1 }
              consumed := s.consumed ++ [username]
              sessions := s.sessions.set i (t.synced (.generated plan username password)) }
      | _ => s
  | .addVoucher _ now code voucherId =>
      match t.phase with
      | .generated plan username password =>
          s.setPhase i t (.added (purchasedVoucher t.loaded plan username password now code voucherId))
      | _ => s
  | .commitVoucher _ =>
      match t.phase with
      | .added voucher => s.storeVoucher i t voucher .stored
      | _ => s
  | .provision _ =>
      match t.phase with
      | .stored => s.setPhase i t .closed
      | _ => s
  | .raise _ now commits =>
      match t.phase with
      | .asking | .failing | .closed => s.setPhase i t .closed
      | _ => if commits = true then s.recordCompleted i t now else s.setPhase i t .closed
  | .stop _ => s.setPhase i t .closed
  | _ => s

def Event.session : Event → Option ℕ
  | .answer i .. | .commitFailed i | .lookupPlan i | .readSettings i | .generate i .. |
    .addVoucher i .. | .commitVoucher i | .provision i | .raise i .. | .stop i => some i
  | .treasuryEvent _ | .webhook .. | .poll | .editSettings _ | .editPlans _ => none

def step (s : Fulfilment) (e : Event) : Fulfilment :=
  match e with
  | .treasuryEvent now =>
      if s.purchase.paymentStatus = .completed then s else s.openSession now .started
  | .webhook true now => s.openSession now .started
  | .webhook false now => s.openSession now .failing
  | .poll =>
      if s.purchase.paymentStatus = .processing ∧
          s.purchase.treasuryPaymentIntentId.getD "" ≠ "" then s.openSession 0 .asking
      else s
  | .editSettings settings => { s with settings := settings }
  | .editPlans plans => { s with plans := plans }
  | e =>
      match e.session.bind (fun i => s.sessions[i]?.map (fun t => (i, t))) with
      | some (i, t) => s.advance i t e
      | none => s

/-! ### What a session can do -/

/-- A delivery of a successful payment: it does not say that the payment failed. -/
def Succeeds : Event → Prop
  | .webhook false _ | .answer _ .failed _ => False
  | _ => True

instance : DecidablePred Succeeds
  | .webhook false _ | .answer _ .failed _ => isFalse id
  | .webhook true _ | .answer _ .succeeded _ | .answer _ .other _ | .treasuryEvent _ | .poll |
    .commitFailed _ | .lookupPlan _ | .readSettings _ | .generate .. | .addVoucher .. |
    .commitVoucher _ | .provision _ | .raise .. | .stop _ | .editSettings _ | .editPlans _ =>
      isTrue trivial

/-- The outcomes of the move `e` of session `t`, number `i`. -/
inductive Moves (s : Fulfilment) (i : ℕ) (t : FulfilmentSession) (e : Event) : Fulfilment → Prop
  | stay : Moves s i t e s
  | shift (now : ℤ) (phase : Phase) (hopen : phase.Open → t.phase.Open)
      (howing : phase.Owing → t.phase.Owing) (hfail : Succeeds e → phase ≠ .failing)
      (hstored : phase ≠ .stored) : Moves s i t e (s.setPhase i { t with completedAt := now } phase)
  | fail (hphase : t.phase = .failing) :
      Moves s i t e { s.setPhase i t .closed with purchase := writeFailed t s.purchase }
  | missing (hphase : t.phase = .started) :
      Moves s i t e { s.setPhase i t .closed with
        purchase := writeCompleted t s.purchase, planMissing := true }
  | consume (plan : ServicePlan) (loaded : Option OrganizationSettings)
      (settings : OrganizationSettings) (username password : String)
      (hphase : t.phase = .settingsRead plan loaded) :
      Moves s i t e { s with
        purchase := writeCompleted t s.purchase
        settings := some settings
        consumed := s.consumed ++ [username]
        sessions := s.sessions.set i (t.synced (.generated plan username password)) }
  | store (voucher : VoucherCode) (hphase : t.phase = .added voucher) :
      Moves s i t e (s.storeVoucher i t voucher .stored)
  | rescue (voucher : VoucherCode) (now : ℤ) (hphase : t.phase = .added voucher) :
      Moves s i t e { s.storeVoucher i t voucher .closed with
        purchase := writeCompleted { t with completedAt := now }
          (s.storeVoucher i t voucher .closed).purchase }
  | touch (now : ℤ) (hphase : t.phase = .stored) :
      Moves s i t e { s.setPhase i t .closed with
        purchase := writeCompleted { t with completedAt := now } s.purchase }
  | record (now : ℤ) :
      Moves s i t e { s.setPhase i t .closed with
        purchase := writeCompleted { t with completedAt := now } s.purchase, handlerRecorded := true }

theorem Moves.close (s : Fulfilment) (i : ℕ) (t : FulfilmentSession) (e : Event) :
    Moves s i t e (s.setPhase i t .closed) :=
  .shift t.completedAt .closed False.elim False.elim (by simp) (by simp)

/-- **Inversion**: every move of a session has one of these outcomes. -/
theorem advance_moves (s : Fulfilment) (i : ℕ) (t : FulfilmentSession) (e : Event) :
    Moves s i t e (s.advance i t e) := by
  cases e with
  | answer _ answer now =>
      simp only [advance]
      split
      · rename_i h
        exact .shift now .started (by simp [h, Phase.Open]) False.elim (by simp) (by simp)
      · exact .shift t.completedAt .failing False.elim False.elim False.elim (by simp)
      · exact .close s i t _
      · exact .stay
  | commitFailed _ =>
      simp only [advance]
      split
      · rename_i h
        exact .fail h
      · exact .stay
  | lookupPlan _ =>
      simp only [advance]
      split
      · rename_i h
        split
        · rename_i plan _
          exact .shift t.completedAt (.planned plan) (by simp [h, Phase.Open]) False.elim (by simp)
            (by simp)
        · exact .missing h
      · exact .stay
  | readSettings _ =>
      simp only [advance]
      split
      · rename_i plan h
        exact .shift t.completedAt (.settingsRead plan s.settings) (by simp [h, Phase.Open])
          False.elim (by simp) (by simp)
      · exact .stay
  | generate _ password =>
      simp only [advance]
      split
      · rename_i plan loaded h
        split
        · exact .close s i t _
        · exact .consume plan loaded _ _ password h
      · exact .stay
  | addVoucher _ now code voucherId =>
      simp only [advance]
      split
      · rename_i plan username password h
        exact .shift t.completedAt (.added _) False.elim (by simp [h, Phase.Owing]) (by simp)
          (by simp)
      · exact .stay
  | commitVoucher _ =>
      simp only [advance]
      split
      · rename_i voucher h
        exact .store voucher h
      · exact .stay
  | provision _ =>
      simp only [advance]
      split
      · exact .close s i t _
      · exact .stay
  | raise _ now commits =>
      simp only [advance]
      split
      · exact .close s i t _
      · exact .close s i t _
      · exact .close s i t _
      · split
        · unfold recordCompleted
          split
          · rename_i voucher h
            exact .rescue voucher now h
          · rename_i h
            exact .touch now h
          · exact .record now
        · exact .close s i t _
  | stop _ => exact .close s i t _
  | treasuryEvent now => exact .stay
  | webhook success now => exact .stay
  | poll => exact .stay
  | editSettings settings => exact .stay
  | editPlans plans => exact .stay

/-- What a move does that belongs to no session. -/
inductive Opens (s : Fulfilment) : Event → Fulfilment → Prop
  | stay (e : Event) : Opens s e s
  | treasury (now : ℤ) (h : s.purchase.paymentStatus ≠ .completed) :
      Opens s (.treasuryEvent now) (s.openSession now .started)
  | webhook (now : ℤ) : Opens s (.webhook true now) (s.openSession now .started)
  | failed (now : ℤ) : Opens s (.webhook false now) (s.openSession now .failing)
  | poll (h : s.purchase.paymentStatus = .processing) : Opens s .poll (s.openSession 0 .asking)
  | settings (settings : Option OrganizationSettings) :
      Opens s (.editSettings settings) { s with settings := settings }
  | plans (plans : List ServicePlan) : Opens s (.editPlans plans) { s with plans := plans }

/-- **Inversion**: a move opens a session, edits what the sessions read, or moves a session. -/
theorem step_cases (s : Fulfilment) (e : Event) :
    Opens s e (s.step e) ∨ ∃ i t, s.sessions[i]? = some t ∧ s.step e = s.advance i t e ∧
      Moves s i t e (s.step e) := by
  have hsession : ∀ i, e.session = some i →
      (match e.session.bind (fun i => s.sessions[i]?.map (fun t => (i, t))) with
        | some (i, t) => s.advance i t e
        | none => s) = s.step e →
      Opens s e (s.step e) ∨ ∃ i t, s.sessions[i]? = some t ∧ s.step e = s.advance i t e ∧
        Moves s i t e (s.step e) := by
    intro i hi hstep
    rw [← hstep, hi, Option.bind_some]
    cases ht : s.sessions[i]? with
    | none => exact Or.inl (.stay e)
    | some t => exact Or.inr ⟨i, t, ht, rfl, s.advance_moves i t e⟩
  cases e with
  | treasuryEvent now =>
      left
      simp only [step]
      split
      · exact .stay _
      · exact .treasury now ‹_›
  | webhook success now =>
      left
      cases success with
      | true => exact .webhook now
      | false => exact .failed now
  | poll =>
      left
      simp only [step]
      split
      · rename_i h
        exact .poll h.1
      · exact .stay _
  | editSettings settings => exact Or.inl (.settings settings)
  | editPlans plans => exact Or.inl (.plans plans)
  | answer i answer now => exact hsession i rfl rfl
  | commitFailed i => exact hsession i rfl rfl
  | lookupPlan i => exact hsession i rfl rfl
  | readSettings i => exact hsession i rfl rfl
  | generate i password => exact hsession i rfl rfl
  | addVoucher i now code voucherId => exact hsession i rfl rfl
  | commitVoucher i => exact hsession i rfl rfl
  | provision i => exact hsession i rfl rfl
  | raise i now commits => exact hsession i rfl rfl
  | stop i => exact hsession i rfl rfl

/-- The state of a purchase that nobody has paid yet. -/
def placed (purchase : CustomerPurchase) (plans : List ServicePlan)
    (settings : Option OrganizationSettings) (vouchers : List VoucherCode) : Fulfilment :=
  ⟨purchase, plans, settings, vouchers, [], [], [], false, false⟩

/-! ### One fulfilment -/

/-- The number of sessions that have passed their guard and not committed. -/
def openCount (s : Fulfilment) : ℕ := s.sessions.countP (fun t => decide t.phase.Open)

/-- The number of sessions that have consumed a username and not committed their voucher. -/
def owingCount (s : Fulfilment) : ℕ := s.sessions.countP (fun t => decide t.phase.Owing)

/-- At most one voucher has been created and at most one username consumed. -/
def FulfilledOnce (s : Fulfilment) : Prop := s.created.length ≤ 1 ∧ s.consumed.length ≤ 1

instance : DecidablePred FulfilledOnce := fun s =>
  inferInstanceAs (Decidable (s.created.length ≤ 1 ∧ s.consumed.length ≤ 1))

/-- The guard that the handlers lack: a handler goes ahead only with a purchase that is not
completed and that no other handler is fulfilling. -/
def Exclusive (s : Fulfilment) : Event → Prop
  | .treasuryEvent _ => s.purchase.paymentStatus ≠ .completed → s.openCount = 0
  | .webhook true _ => s.purchase.paymentStatus ≠ .completed ∧ s.openCount = 0
  | .poll => s.purchase.paymentStatus = .processing → s.openCount = 0
  | _ => True

instance (s : Fulfilment) (e : Event) : Decidable (s.Exclusive e) :=
  match e with
  | .treasuryEvent _ =>
      inferInstanceAs (Decidable (s.purchase.paymentStatus ≠ .completed → s.openCount = 0))
  | .webhook true _ =>
      inferInstanceAs (Decidable (s.purchase.paymentStatus ≠ .completed ∧ s.openCount = 0))
  | .poll => inferInstanceAs (Decidable (s.purchase.paymentStatus = .processing → s.openCount = 0))
  | .webhook false _ | .answer .. | .commitFailed _ | .lookupPlan _ | .readSettings _ |
    .generate .. | .addVoucher .. | .commitVoucher _ | .provision _ | .raise .. | .stop _ |
    .editSettings _ | .editPlans _ => isTrue trivial

/-- What exclusive handlers keep. -/
structure OnceInv (s : Fulfilment) : Prop where
  one : s.openCount + s.consumed.length ≤ 1
  paid : s.consumed ≠ [] → s.purchase.paymentStatus = .completed
  owed : s.created.length + s.owingCount ≤ s.consumed.length
  unpaid : ∀ t ∈ s.sessions, t.phase.Open → t.loaded.paymentStatus ≠ .completed
  noFailing : ∀ t ∈ s.sessions, t.phase ≠ .failing

section Counts

variable {s s' : Fulfilment} {i : ℕ} {t t' : FulfilmentSession}

theorem openCount_of_set (ht : s.sessions[i]? = some t) (hs' : s'.sessions = s.sessions.set i t') :
    s'.openCount + (if t.phase.Open then 1 else 0) =
      s.openCount + (if t'.phase.Open then 1 else 0) := by
  have hcount := countP_set_add (p := fun t => decide t.phase.Open) (b := t') ht
  simp only [decide_eq_true_eq] at hcount
  rw [openCount, hs']
  exact hcount

theorem owingCount_of_set (ht : s.sessions[i]? = some t) (hs' : s'.sessions = s.sessions.set i t') :
    s'.owingCount + (if t.phase.Owing then 1 else 0) =
      s.owingCount + (if t'.phase.Owing then 1 else 0) := by
  have hcount := countP_set_add (p := fun t => decide t.phase.Owing) (b := t') ht
  simp only [decide_eq_true_eq] at hcount
  rw [owingCount, hs']
  exact hcount

theorem forall_sessions_of_set {Q : FulfilmentSession → Prop}
    (hs' : s'.sessions = s.sessions.set i t') (hall : ∀ x ∈ s.sessions, Q x) (hnew : Q t') :
    ∀ x ∈ s'.sessions, Q x := by
  intro x hx
  rw [hs'] at hx
  rcases List.mem_or_eq_of_mem_set hx with hx | rfl
  · exact hall x hx
  · exact hnew

/-- The invariant survives when session `i` moves to a phase that is neither newly open nor newly
owing, and a completed purchase stays completed. -/
theorem OnceInv.of_set (h : OnceInv s) (ht : s.sessions[i]? = some t)
    (hs' : s'.sessions = s.sessions.set i t') (hopen : t'.phase.Open → t.phase.Open)
    (howing : t'.phase.Owing → t.phase.Owing) (hloaded : t'.loaded = t.loaded)
    (hfail : t'.phase ≠ .failing) (hconsumed : s'.consumed = s.consumed)
    (hcreated : s'.created = s.created)
    (hstatus : s.purchase.paymentStatus = .completed → s'.purchase.paymentStatus = .completed) :
    OnceInv s' := by
  have hmem := List.mem_of_getElem? ht
  have hcount := openCount_of_set ht hs'
  have hcount' := owingCount_of_set ht hs'
  have hle : (if t'.phase.Open then 1 else 0) ≤ if t.phase.Open then 1 else 0 := by
    by_cases ho : t'.phase.Open
    · simp [ho, hopen ho]
    · simp [ho]
  have hle' : (if t'.phase.Owing then 1 else 0) ≤ if t.phase.Owing then 1 else 0 := by
    by_cases ho : t'.phase.Owing
    · simp [ho, howing ho]
    · simp [ho]
  have hone := h.one
  have howed := h.owed
  refine ⟨by rw [hconsumed]; omega, ?_, by rw [hconsumed, hcreated]; omega,
    forall_sessions_of_set hs' h.unpaid ?_, forall_sessions_of_set hs' h.noFailing hfail⟩
  · rw [hconsumed]
    exact fun hc => hstatus (h.paid hc)
  · intro hxopen
    rw [hloaded]
    exact h.unpaid t hmem (hopen hxopen)

theorem OnceInv.of_store (h : OnceInv s) (ht : s.sessions[i]? = some t)
    (hs' : s'.sessions = s.sessions.set i t') (howing : t.phase.Owing) (hopen : ¬ t'.phase.Open)
    (howing' : ¬ t'.phase.Owing) (hfail : t'.phase ≠ .failing) (hconsumed : s'.consumed = s.consumed)
    {id : ℕ} (hcreated : s'.created = s.created ++ [id])
    (hstatus : s.purchase.paymentStatus = .completed → s'.purchase.paymentStatus = .completed) :
    OnceInv s' := by
  have hcount := openCount_of_set ht hs'
  have hcount' := owingCount_of_set ht hs'
  rw [if_neg hopen] at hcount
  rw [if_pos howing, if_neg howing'] at hcount'
  have hone := h.one
  have howed := h.owed
  refine ⟨by rw [hconsumed]; omega, ?_, ?_,
    forall_sessions_of_set hs' h.unpaid (fun hxopen => absurd hxopen hopen),
    forall_sessions_of_set hs' h.noFailing hfail⟩
  · rw [hconsumed]
    exact fun hc => hstatus (h.paid hc)
  · rw [hconsumed, hcreated, List.length_append, List.length_singleton]
    omega

theorem OnceInv.of_consume (h : OnceInv s) (ht : s.sessions[i]? = some t)
    (hs' : s'.sessions = s.sessions.set i t') (hopen : t.phase.Open) (howing : ¬ t.phase.Owing)
    (hopen' : ¬ t'.phase.Open) (howing' : t'.phase.Owing) (hfail : t'.phase ≠ .failing)
    {username : String} (hconsumed : s'.consumed = s.consumed ++ [username])
    (hcreated : s'.created = s.created) (hstatus : s'.purchase.paymentStatus = .completed) :
    OnceInv s' := by
  have hcount := openCount_of_set ht hs'
  have hcount' := owingCount_of_set ht hs'
  rw [if_pos hopen, if_neg hopen'] at hcount
  rw [if_neg howing, if_pos howing'] at hcount'
  have hlen : s'.consumed.length = s.consumed.length + 1 := by
    rw [hconsumed, List.length_append, List.length_singleton]
  have hone := h.one
  have howed := h.owed
  refine ⟨by omega, fun _ => hstatus, ?_,
    forall_sessions_of_set hs' h.unpaid (fun hxopen => absurd hxopen hopen'),
    forall_sessions_of_set hs' h.noFailing hfail⟩
  rw [hcreated]
  omega

end Counts

theorem writeCompleted_completed {t : FulfilmentSession} {row : CustomerPurchase}
    (h : row.paymentStatus = .completed ∨ t.loaded.paymentStatus ≠ .completed) :
    (writeCompleted t row).paymentStatus = .completed := by
  simp only [writeCompleted]
  split
  · rename_i hl
    exact h.resolve_right (fun hne => hne hl)
  · rfl

theorem Moves.onceInv {s s' : Fulfilment} {i : ℕ} {t : FulfilmentSession} {e : Event}
    (hm : Moves s i t e s') (ht : s.sessions[i]? = some t) (he : Succeeds e) (h : OnceInv s) :
    OnceInv s' := by
  have hmem := List.mem_of_getElem? ht
  cases hm with
  | stay => exact h
  | shift now phase hopen howing hfail hstored =>
      exact h.of_set ht rfl hopen howing rfl (hfail he) rfl rfl id
  | fail hphase => exact absurd hphase (h.noFailing t hmem)
  | missing hphase =>
      exact h.of_set ht rfl False.elim False.elim rfl (by simp) rfl rfl
        (fun hc => writeCompleted_completed (Or.inl hc))
  | consume plan loaded settings username password hphase =>
      have hopen : t.phase.Open := by rw [hphase]; trivial
      have howing : ¬ t.phase.Owing := by rw [hphase]; exact id
      exact h.of_consume ht rfl hopen howing id trivial (by simp [FulfilmentSession.synced]) rfl rfl
        (writeCompleted_completed (Or.inr (h.unpaid t hmem hopen)))
  | store voucher hphase =>
      have howing : t.phase.Owing := by rw [hphase]; trivial
      exact h.of_store ht rfl howing id id (by simp) rfl rfl id
  | rescue voucher now hphase =>
      have howing : t.phase.Owing := by rw [hphase]; trivial
      exact h.of_store ht rfl howing id id (by simp) rfl rfl
        (fun hc => writeCompleted_completed (Or.inl hc))
  | touch now hphase =>
      exact h.of_set ht rfl False.elim False.elim rfl (by simp) rfl rfl
        (fun hc => writeCompleted_completed (Or.inl hc))
  | record now =>
      exact h.of_set ht rfl False.elim False.elim rfl (by simp) rfl rfl
        (fun hc => writeCompleted_completed (Or.inl hc))

theorem OnceInv.openSession {s : Fulfilment} (h : OnceInv s) (hnone : s.openCount = 0)
    (hunpaid : s.purchase.paymentStatus ≠ .completed) (now : ℤ) {phase : Phase}
    (hopen : phase.Open) : OnceInv (s.openSession now phase) := by
  have howing : ¬ phase.Owing := by
    cases phase <;> first | exact id | exact absurd hopen id
  have hfail : phase ≠ .failing := by
    rintro rfl
    exact hopen
  have hnil : s.consumed = [] := by
    by_contra hc
    exact hunpaid (h.paid hc)
  have hcount : (s.openSession now phase).openCount = s.openCount + 1 := by
    simp [Fulfilment.openSession, openCount, hopen]
  have hcount' : (s.openSession now phase).owingCount = s.owingCount := by
    simp [Fulfilment.openSession, owingCount, howing]
  have howed := h.owed
  refine ⟨?_, h.paid, ?_, ?_, ?_⟩
  · rw [hcount, hnone]
    show 0 + 1 + s.consumed.length ≤ 1
    simp [hnil]
  · rw [hcount']
    exact howed
  · intro x hx hxopen
    rcases List.mem_append.mp hx with hx | hx
    · exact h.unpaid x hx hxopen
    · obtain rfl := List.mem_singleton.mp hx
      exact hunpaid
  · intro x hx
    rcases List.mem_append.mp hx with hx | hx
    · exact h.noFailing x hx
    · obtain rfl := List.mem_singleton.mp hx
      exact hfail

/-- **Step lemma**: an exclusive move of the success handlers keeps the invariant. -/
theorem step_onceInv {s : Fulfilment} {e : Event} (h : OnceInv s)
    (hok : Succeeds e ∧ s.Exclusive e) : OnceInv (s.step e) := by
  obtain ⟨he, hex⟩ := hok
  rcases s.step_cases e with hopens | ⟨i, t, ht, _, hmoves⟩
  · generalize s.step e = s' at hopens
    cases hopens with
    | stay => exact h
    | treasury now hne => exact h.openSession (hex hne) hne now trivial
    | webhook now => exact h.openSession hex.2 hex.1 now trivial
    | failed now => exact absurd he id
    | poll hproc => exact h.openSession (hex hproc) (by rw [hproc]; decide) 0 trivial
    | settings settings => exact ⟨h.one, h.paid, h.owed, h.unpaid, h.noFailing⟩
    | plans plans => exact ⟨h.one, h.paid, h.owed, h.unpaid, h.noFailing⟩
  · exact hmoves.onceInv ht he h

/-- **One fulfilment under the missing guard**: in every interleaving of the success handlers in
which each goes ahead only with a purchase that is neither completed nor being fulfilled, at
most one voucher is created and at most one username consumed. -/
theorem fulfilled_once (purchase : CustomerPurchase) (plans : List ServicePlan)
    (settings : Option OrganizationSettings) (vouchers : List VoucherCode) (es : List Event)
    (hok : Along step (fun s e => Succeeds e ∧ s.Exclusive e)
      (placed purchase plans settings vouchers) es) :
    Always step FulfilledOnce (placed purchase plans settings vouchers) es := by
  refine always_of_along (I := OnceInv) (fun s e h he => step_onceInv h he) ?_ ?_ hok
  · intro s h
    have hone := h.one
    have howed := h.owed
    exact ⟨by omega, by omega⟩
  · exact ⟨by simp [placed, openCount], by simp [placed], by simp [placed, owingCount],
      by simp [placed], by simp [placed]⟩

/-- A purchase of the hourly plan that waits for its payment. -/
def processingPurchase : CustomerPurchase :=
  ⟨1, 1, 1, 5000, .processing, some "intent-1", none, none⟩

/-- A whole fulfilment by session `i`, with voucher `voucherId`. -/
def fulfilBy (i voucherId : ℕ) : List Event :=
  [.lookupPlan i, .readSettings i, .generate i "123", .addVoucher i 5 "AAAA-BBBB-CCCC" voucherId,
    .commitVoucher i, .provision i]

/-- A webhook after the treasury event fulfils the purchase a second time, and so does a poll
that was waiting for its answer while the event was handled. -/
theorem fulfilled_twice :
    (¬ Always step FulfilledOnce (placed processingPurchase [.hourly] none [])
      ([.treasuryEvent 0] ++ fulfilBy 0 7 ++ [.webhook true 9] ++ fulfilBy 1 8)) ∧
    ¬ Always step FulfilledOnce (placed processingPurchase [.hourly] none [])
      ([.poll, .treasuryEvent 0] ++ fulfilBy 1 7 ++ [.answer 0 .succeeded 9] ++ fulfilBy 0 8) := by
  decide

/-- A delivery that is stopped on the way, its redelivery, and a poll afterwards. -/
theorem fulfilled_once_redelivery :
    Along step (fun s e => Succeeds e ∧ s.Exclusive e) (placed processingPurchase [.hourly] none [])
        ([.treasuryEvent 0, .lookupPlan 0, .stop 0, .treasuryEvent 3] ++ fulfilBy 1 7 ++ [.poll]) ∧
      Always step FulfilledOnce (placed processingPurchase [.hourly] none [])
        ([.treasuryEvent 0, .lookupPlan 0, .stop 0, .treasuryEvent 3] ++ fulfilBy 1 7 ++ [.poll]) :=
  ⟨by decide, fulfilled_once processingPurchase [.hourly] none [] _ (by decide)⟩

/-! ### A completed purchase has its voucher -/

/-- The purchase is linked to a voucher. -/
def Linked (s : Fulfilment) : Prop := ∃ v ∈ s.vouchers, s.purchase.voucherCodeId = some v.id

instance : DecidablePred Linked := fun s =>
  inferInstanceAs (Decidable (∃ v ∈ s.vouchers, s.purchase.voucherCodeId = some v.id))

/-- A completed purchase is linked to its voucher, unless a fulfilment found no plan, the
catch-all handler recorded the payment, or a username is consumed without its voucher. -/
def CompletedLinked (s : Fulfilment) : Prop :=
  s.purchase.paymentStatus = .completed → s.planMissing = false → s.handlerRecorded = false →
    s.consumed.length ≤ s.created.length → s.Linked

instance : DecidablePred CompletedLinked := fun s =>
  inferInstanceAs (Decidable (s.purchase.paymentStatus = .completed → s.planMissing = false →
    s.handlerRecorded = false → s.consumed.length ≤ s.created.length → s.Linked))

/-- Why a purchase is completed. -/
structure LinkInv (s : Fulfilment) : Prop where
  created : s.created ≠ [] → s.Linked
  completed : s.purchase.paymentStatus = .completed →
    s.Linked ∨ s.planMissing = true ∨ s.handlerRecorded = true ∨ s.consumed ≠ []
  stored : ∀ t ∈ s.sessions, t.phase = .stored → s.created ≠ []

theorem LinkInv.of_frame {s s' : Fulfilment} (h : LinkInv s)
    (hlink : s'.purchase.voucherCodeId = s.purchase.voucherCodeId) (hvouchers : s'.vouchers = s.vouchers)
    (hcreated : s'.created = s.created)
    (hstored : ∀ t ∈ s'.sessions, t.phase = .stored → t ∈ s.sessions)
    (hcompleted : s'.purchase.paymentStatus = .completed →
      (s.purchase.paymentStatus = .completed ∧ (s.planMissing = true → s'.planMissing = true) ∧
        (s.handlerRecorded = true → s'.handlerRecorded = true) ∧ (s.consumed ≠ [] → s'.consumed ≠ [])) ∨
      s.Linked ∨ s'.planMissing = true ∨ s'.handlerRecorded = true ∨ s'.consumed ≠ []) :
    LinkInv s' := by
  have hiff : s'.Linked ↔ s.Linked := by
    unfold Linked
    rw [hvouchers, hlink]
  refine ⟨?_, ?_, ?_⟩
  · rw [hcreated, hiff]
    exact h.created
  · intro hc
    rw [hiff]
    rcases hcompleted hc with ⟨hold, hp, hh, hcons⟩ | hnew
    · rcases h.completed hold with h1 | h1 | h1 | h1
      · exact Or.inl h1
      · exact Or.inr (Or.inl (hp h1))
      · exact Or.inr (Or.inr (Or.inl (hh h1)))
      · exact Or.inr (Or.inr (Or.inr (hcons h1)))
    · exact hnew
  · intro t ht hphase
    rw [hcreated]
    exact h.stored t (hstored t ht hphase) hphase

theorem LinkInv.of_store {s' : Fulfilment} (voucher : VoucherCode)
    (hlink : s'.purchase.voucherCodeId = some voucher.id) (hmem : voucher ∈ s'.vouchers)
    (hcreated : s'.created ≠ []) : LinkInv s' :=
  ⟨fun _ => ⟨voucher, hmem, hlink⟩, fun _ => Or.inl ⟨voucher, hmem, hlink⟩, fun _ _ _ => hcreated⟩

theorem mem_of_stored_of_set {ts : List FulfilmentSession} {i : ℕ} {t' : FulfilmentSession}
    (hne : t'.phase ≠ .stored) : ∀ t ∈ ts.set i t', t.phase = .stored → t ∈ ts := by
  intro t ht hphase
  rcases List.mem_or_eq_of_mem_set ht with ht | rfl
  · exact ht
  · exact absurd hphase hne

theorem Moves.linkInv {s s' : Fulfilment} {i : ℕ} {t : FulfilmentSession} {e : Event}
    (hm : Moves s i t e s') (ht : s.sessions[i]? = some t) (h : LinkInv s) : LinkInv s' := by
  cases hm with
  | stay => exact h
  | shift now phase hopen howing hfail hstored =>
      exact h.of_frame rfl rfl rfl (mem_of_stored_of_set hstored)
        (fun hc => Or.inl ⟨hc, id, id, id⟩)
  | fail hphase =>
      refine h.of_frame rfl rfl rfl (mem_of_stored_of_set (by simp)) ?_
      intro hc
      left
      refine ⟨?_, id, id, id⟩
      simp only [writeFailed] at hc
      split at hc
      · exact hc
      · cases hc
  | missing hphase =>
      exact h.of_frame rfl rfl rfl (mem_of_stored_of_set (by simp))
        (fun _ => Or.inr (Or.inr (Or.inl rfl)))
  | consume plan loaded settings username password hphase =>
      refine h.of_frame rfl rfl rfl (mem_of_stored_of_set (by simp [FulfilmentSession.synced]))
        (fun _ => Or.inr (Or.inr (Or.inr (Or.inr ?_))))
      simp
  | store voucher hphase =>
      exact .of_store voucher rfl (by simp [storeVoucher]) (by simp [storeVoucher])
  | rescue voucher now hphase =>
      exact .of_store voucher rfl (by simp [storeVoucher]) (by simp [storeVoucher])
  | touch now hphase =>
      have hlinked : s.Linked := h.created (h.stored t (List.mem_of_getElem? ht) hphase)
      exact h.of_frame rfl rfl rfl (mem_of_stored_of_set (by simp)) (fun _ => Or.inr (Or.inl hlinked))
  | record now =>
      exact h.of_frame rfl rfl rfl (mem_of_stored_of_set (by simp))
        (fun _ => Or.inr (Or.inr (Or.inr (Or.inl rfl))))

/-- **Step lemma**: every move keeps the reasons. -/
theorem step_linkInv {s : Fulfilment} (e : Event) (h : LinkInv s) : LinkInv (s.step e) := by
  have hopen : ∀ (now : ℤ) (phase : Phase), phase ≠ .stored → LinkInv (s.openSession now phase) := by
    intro now phase hne
    refine h.of_frame rfl rfl rfl ?_ (fun hc => Or.inl ⟨hc, id, id, id⟩)
    intro t ht hphase
    rcases List.mem_append.mp ht with ht | ht
    · exact ht
    · obtain rfl := List.mem_singleton.mp ht
      exact absurd hphase hne
  rcases s.step_cases e with hopens | ⟨i, t, ht, _, hmoves⟩
  · generalize s.step e = s' at hopens
    cases hopens with
    | stay => exact h
    | treasury now hne => exact hopen now .started (by simp)
    | webhook now => exact hopen now .started (by simp)
    | failed now => exact hopen now .failing (by simp)
    | poll hproc => exact hopen 0 .asking (by simp)
    | settings settings => exact ⟨h.created, h.completed, h.stored⟩
    | plans plans => exact ⟨h.created, h.completed, h.stored⟩
  · exact hmoves.linkInv ht h

/-- **A completed purchase has its voucher**: in every state of every run of all handlers, with
failures and stops at any point, a completed purchase is linked to a voucher unless a
fulfilment found no plan, the catch-all handler recorded the payment, or a username is consumed
whose voucher is not committed. -/
theorem completed_linked_always (purchase : CustomerPurchase) (plans : List ServicePlan)
    (settings : Option OrganizationSettings) (vouchers : List VoucherCode)
    (hunpaid : purchase.paymentStatus ≠ .completed) (es : List Event) :
    Always step CompletedLinked (placed purchase plans settings vouchers) es := by
  refine always_of_invariant (I := LinkInv) (fun s e h => step_linkInv e h) ?_ ?_
  · intro s h hcompleted hplan hhandler hlen
    rcases h.completed hcompleted with hl | hp | hh | hc
    · exact hl
    · rw [hplan] at hp
      cases hp
    · rw [hhandler] at hh
      cases hh
    · apply h.created
      intro hnil
      rw [hnil, List.length_nil] at hlen
      exact hc (List.length_eq_zero_iff.mp (Nat.le_zero.mp hlen))
  · exact ⟨fun hne => absurd rfl hne, fun hc => absurd hc hunpaid, fun t ht => by cases ht⟩

/-- A purchase whose plan is gone, and one whose fulfilment raises, are recorded as completed
without a voucher. -/
theorem completed_without_voucher :
    ((exec step (placed processingPurchase [] none [])
        [.treasuryEvent 0, .lookupPlan 0]).purchase.paymentStatus = .completed ∧
      ¬ (exec step (placed processingPurchase [] none [])
        [.treasuryEvent 0, .lookupPlan 0]).Linked) ∧
    ((exec step (placed processingPurchase [.hourly] none [])
        [.treasuryEvent 0, .lookupPlan 0, .raise 0 5 true]).purchase.paymentStatus = .completed ∧
      ¬ (exec step (placed processingPurchase [.hourly] none [])
        [.treasuryEvent 0, .lookupPlan 0, .raise 0 5 true]).Linked) := by
  decide

/-- A stopped and a complete fulfilment, with a failed webhook after them. -/
theorem completed_linked_redelivery :
    processingPurchase.paymentStatus ≠ .completed ∧
      Always step CompletedLinked (placed processingPurchase [.hourly] none [])
        ([.treasuryEvent 0, .lookupPlan 0, .stop 0, .treasuryEvent 3] ++ fulfilBy 1 7 ++
          [.webhook false 20, .commitFailed 2]) :=
  ⟨by decide, completed_linked_always processingPurchase [.hourly] none [] (by decide) _⟩

/-! ### A completed purchase stays completed -/

/-- The payment is committed as completed. -/
def Completed (s : Fulfilment) : Prop := s.purchase.paymentStatus = .completed

instance : DecidablePred Completed := fun s =>
  inferInstanceAs (Decidable (s.purchase.paymentStatus = .completed))

/-- The check that the failure branches of `payment_webhook` and `get_payment_status` lack: a
failure is not committed over a completed purchase.  A session that has loaded the purchase as
failed already writes nothing. -/
def SparesCompleted (s : Fulfilment) : Event → Prop
  | .commitFailed i => ∀ t ∈ s.sessions[i]?, t.phase = .failing → s.Completed →
      t.loaded.paymentStatus = .failed
  | _ => True

instance (s : Fulfilment) (e : Event) : Decidable (s.SparesCompleted e) :=
  match e with
  | .commitFailed i => inferInstanceAs (Decidable (∀ t ∈ s.sessions[i]?, t.phase = .failing →
      s.Completed → t.loaded.paymentStatus = .failed))
  | .treasuryEvent _ | .webhook .. | .poll | .answer .. | .lookupPlan _ | .readSettings _ |
    .generate .. | .addVoucher .. | .commitVoucher _ | .provision _ | .raise .. | .stop _ |
    .editSettings _ | .editPlans _ => isTrue trivial

/-- A failure leaves a completed row completed only if the session had loaded a failed one. -/
theorem writeFailed_completed_iff {t : FulfilmentSession} {row : CustomerPurchase}
    (hrow : row.paymentStatus = .completed) :
    (writeFailed t row).paymentStatus = .completed ↔ t.loaded.paymentStatus = .failed := by
  simp only [writeFailed]
  split
  · rename_i h
    simp [h, hrow]
  · rename_i h
    simp [h]

/-- Of the moves of a session only the commit of a failure can undo a completed purchase. -/
theorem Moves.completed {s s' : Fulfilment} {i : ℕ} {t : FulfilmentSession} {e : Event}
    (hm : Moves s i t e s') (hs : s.Completed) :
    s'.Completed ∨ t.phase = .failing ∧ s' = { s.setPhase i t .closed with
      purchase := writeFailed t s.purchase } := by
  cases hm with
  | stay => exact Or.inl hs
  | shift now phase hopen howing hfail hstored => exact Or.inl hs
  | fail hphase => exact Or.inr ⟨hphase, rfl⟩
  | missing hphase => exact Or.inl (writeCompleted_completed (Or.inl hs))
  | consume plan loaded settings username password hphase =>
      exact Or.inl (writeCompleted_completed (Or.inl hs))
  | store voucher hphase => exact Or.inl hs
  | rescue voucher now hphase => exact Or.inl (writeCompleted_completed (Or.inl hs))
  | touch now hphase => exact Or.inl (writeCompleted_completed (Or.inl hs))
  | record now => exact Or.inl (writeCompleted_completed (Or.inl hs))

theorem advance_failing (s : Fulfilment) (i : ℕ) {t : FulfilmentSession} (hphase : t.phase = .failing)
    {e : Event} (he : ∀ j, e ≠ .commitFailed j) : (s.advance i t e).purchase = s.purchase := by
  cases e with
  | commitFailed j => exact absurd rfl (he j)
  | _ => simp [advance, hphase, setPhase]

theorem step_commitFailed {s : Fulfilment} {i : ℕ} {t : FulfilmentSession}
    (ht : s.sessions[i]? = some t) (hphase : t.phase = .failing) :
    s.step (.commitFailed i) =
      { s.setPhase i t .closed with purchase := writeFailed t s.purchase } := by
  simp [step, Event.session, ht, advance, hphase]

theorem step_completed_of_ne {s : Fulfilment} {e : Event} (he : ∀ j, e ≠ .commitFailed j)
    (hs : s.Completed) : (s.step e).Completed := by
  rcases s.step_cases e with hopens | ⟨i, t, ht, hstep, hmoves⟩
  · generalize s.step e = s' at hopens
    cases hopens <;> exact hs
  · rcases hmoves.completed hs with h | ⟨hphase, _⟩
    · exact h
    · unfold Completed
      rw [hstep, s.advance_failing i hphase he]
      exact hs

/-- **Step lemma**: a move keeps a completed purchase exactly when it does not commit a failure
over it. -/
theorem step_completed_iff (s : Fulfilment) (e : Event) :
    (s.Completed → (s.step e).Completed) ↔ s.SparesCompleted e := by
  by_cases he : ∃ j, e = .commitFailed j
  · obtain ⟨i, rfl⟩ := he
    constructor
    · intro h t ht hphase hs
      have hnext := h hs
      rw [step_commitFailed ht hphase] at hnext
      exact (writeFailed_completed_iff hs).mp hnext
    · intro h hs
      cases ht : s.sessions[i]? with
      | none => simpa [step, Event.session, ht] using hs
      | some t =>
          by_cases hphase : t.phase = .failing
          · rw [step_commitFailed ht hphase]
            exact (writeFailed_completed_iff hs).mpr (h t ht hphase hs)
          · have hstay : s.step (.commitFailed i) = s := by
              simp [step, Event.session, ht, advance]
            rwa [hstay]
  · have hne : ∀ j, e ≠ .commitFailed j := fun j hj => he ⟨j, hj⟩
    refine ⟨fun _ => ?_, fun _ hs => step_completed_of_ne hne hs⟩
    cases e with
    | commitFailed j => exact absurd rfl (hne j)
    | _ => trivial

/-- **Exact condition**: in every interleaving of the handlers, from every state, a purchase that
is committed as completed stays so if and only if no handler commits a failure over a completed
purchase. -/
theorem completed_stays_iff (s : Fulfilment) (es : List Event) :
    Stays step Completed s es ↔ Along step SparesCompleted s es := by
  rw [stays_iff_along]
  exact Along.congr (fun s e => s.step_completed_iff e)

/-- A failed webhook after the fulfilment, and a poll that was waiting for its answer while the
treasury event was handled, take a completed purchase back. -/
theorem completed_reverts :
    (¬ Stays step Completed (placed processingPurchase [.hourly] none [])
      ([.treasuryEvent 0] ++ fulfilBy 0 7 ++ [.webhook false 9, .commitFailed 1])) ∧
    ¬ Stays step Completed (placed processingPurchase [.hourly] none [])
      ([.poll, .treasuryEvent 0] ++ fulfilBy 1 7 ++ [.answer 0 .failed 9, .commitFailed 0]) := by
  simp only [stays_iff_along]
  decide

end Fulfilment

end IspBilling
