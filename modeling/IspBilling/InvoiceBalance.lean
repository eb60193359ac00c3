import IspBilling.Ledger
import IspBilling.Rounding
import Mathlib.Data.NNRat.Defs

/-! # The columns of an invoice

`subtotal`, `total_amount`, `paid_amount`, `balance` and `status` of an invoice are derived from
each other, and six operations (`app/modules/billing/service.py`) write overlapping parts of
them: `create_invoice`, `add_invoice_item`, `update_invoice_item`, `delete_invoice_item`,
`update_invoice_status` and `_apply_payment_to_invoice`.  `Sound` is what the columns are meant
to satisfy.

The requests carry decimals of any length, the columns have two places: a request is a rational
number of cents, a column an integer, and what is stored is rounded (`Rounding`).

`invoices_sound_iff` is the exact statement about runs: `Admissible` lists what every operation
must find.  An item added to a paid invoice must be covered by what was paid, since the status
stays; the status may be set to paid only if the total was paid, since `paid_amount` stays; and
half a cent can be lost on the way into the columns. -/

namespace IspBilling

open Rows Runs Rounding

/-- A row of `invoices` with the columns that its totals are computed from, in cents. -/
structure BilledInvoice extends Invoice where
  subtotal : ℤ
  taxAmount : ℤ
  discountAmount : ℤ
deriving DecidableEq, Repr

/-- A row of `invoice_items`; the quantity is in hundredths, the prices in cents. -/
structure InvoiceItem where
  id : ℕ
  invoiceId : ℕ
  quantity : ℤ
  unitPrice : ℤ
  totalPrice : ℤ
deriving DecidableEq, Repr

/-- An item as `create_invoice` is given it: quantity and unit price may be missing. -/
structure ItemData where
  quantity : Option ℚ
  unitPrice : Option ℚ
deriving DecidableEq

/-- The fields that `update_invoice_item` sets; those without a value are left alone. -/
structure ItemUpdate where
  invoiceId : Option ℕ
  quantity : Option ℚ
  unitPrice : Option ℚ
  totalPrice : Option ℚ
deriving DecidableEq

/-- The tables of the invoices and of their items, with the sequences of their keys. -/
structure InvoiceTables where
  invoices : List BilledInvoice
  items : List InvoiceItem
  nextInvoiceId : ℕ
  nextItemId : ℕ
deriving DecidableEq

namespace BilledInvoice

/-- What the columns are meant to satisfy. -/
structure Sound (inv : BilledInvoice) : Prop where
  balance : inv.balance = inv.totalAmount - inv.paidAmount
  total : inv.totalAmount = inv.subtotal + inv.taxAmount - inv.discountAmount
  paid : inv.status = .paid → inv.balance ≤ 0

instance (inv : BilledInvoice) : Decidable inv.Sound :=
  decidable_of_iff (inv.balance = inv.totalAmount - inv.paidAmount ∧
      inv.totalAmount = inv.subtotal + inv.taxAmount - inv.discountAmount ∧
      (inv.status = .paid → inv.balance ≤ 0))
    ⟨fun h => ⟨h.1, h.2.1, h.2.2⟩, fun h => ⟨h.balance, h.total, h.paid⟩⟩

/-- The row that `create_invoice` inserts. -/
def created (id : ℕ) (subscriptionId : Option ℕ) (subtotal taxAmount discountAmount : ℚ) :
    BilledInvoice where
  id := id
  subscriptionId := subscriptionId
  totalAmount := roundHalfAway (subtotal + taxAmount - discountAmount)
  paidAmount := 0
  balance := roundHalfAway (subtotal + taxAmount - discountAmount)
  status := .draft
  subtotal := roundHalfAway subtotal
  taxAmount := roundHalfAway taxAmount
  discountAmount := roundHalfAway discountAmount

/-- The assignments of `_update_invoice_totals`; all the values are whole cents. -/
def retotal (subtotal : ℤ) (inv : BilledInvoice) : BilledInvoice :=
  let totalAmount := subtotal + inv.taxAmount - inv.discountAmount
  { inv with
    subtotal := subtotal
    totalAmount := totalAmount
    balance := totalAmount - inv.paidAmount }

/-- The assignments of `update_invoice_status`. -/
def setStatus (status : InvoiceStatus) (inv : BilledInvoice) : BilledInvoice :=
  { inv with status := status, balance := if status = .paid then 0 else inv.balance }

/-- The assignments of `_apply_payment_to_invoice`; the balance is tested before it is stored. -/
def applyPayment (amount : ℚ≥0) (inv : BilledInvoice) : BilledInvoice :=
  let paidAmount : ℚ := inv.paidAmount + amount
  let balance := inv.totalAmount - paidAmount
  { inv with
    paidAmount := (roundHalfAway paidAmount).toNat
    balance := roundHalfAway balance
    status := if balance ≤ 0 then .paid else inv.status }

end BilledInvoice

/-- The assignments of `update_invoice_item`. -/
def InvoiceItem.update (u : ItemUpdate) (item : InvoiceItem) : InvoiceItem :=
  { item with
    invoiceId := u.invoiceId.getD item.invoiceId
    quantity := (u.quantity.map (fun q => roundHalfAway (100 * q))).getD item.quantity
    unitPrice := (u.unitPrice.map roundHalfAway).getD item.unitPrice
    totalPrice := (u.totalPrice.map roundHalfAway).getD item.totalPrice }

namespace InvoiceTables

def itemsTotal (invoiceId : ℕ) (s : InvoiceTables) : ℤ :=
  ((s.items.filter (fun item => decide (item.invoiceId = invoiceId))).map InvoiceItem.totalPrice).sum

def setInvoice (invoiceId : ℕ) (f : BilledInvoice → BilledInvoice) (s : InvoiceTables) :
    InvoiceTables :=
  { s with invoices := updateWhere (fun inv => decide (inv.id = invoiceId)) f s.invoices }

/-- `_update_invoice_totals`. -/
def updateInvoiceTotals (invoiceId : ℕ) (s : InvoiceTables) : InvoiceTables :=
  s.setInvoice invoiceId (BilledInvoice.retotal (s.itemsTotal invoiceId))

/-- The insert of `add_invoice_item`. -/
def insertItem (invoiceId : ℕ) (quantity unitPrice : ℚ) (s : InvoiceTables) : InvoiceTables :=
  { s with
    items := s.items ++ [{
      id := s.nextItemId, invoiceId := invoiceId, quantity := roundHalfAway (100 * quantity)
      unitPrice := roundHalfAway unitPrice, totalPrice := roundHalfAway (quantity * unitPrice) }]
    nextItemId := s.nextItemId + 1 }

/-- `add_invoice_item`; an item of an unknown invoice violates a key, and the insert fails. -/
def addInvoiceItem (invoiceId : ℕ) (quantity unitPrice : ℚ) (s : InvoiceTables) : InvoiceTables :=
  if invoiceId ∉ s.invoices.map (fun inv => inv.id) then s
  else (s.insertItem invoiceId quantity unitPrice).updateInvoiceTotals invoiceId

/-- The items of `create_invoice`, one after the other. -/
def addItems (invoiceId : ℕ) (items : List ItemData) (s : InvoiceTables) : InvoiceTables :=
  items.foldl (fun s d => s.addInvoiceItem invoiceId (d.quantity.getD 1) (d.unitPrice.getD 0)) s

/-- The insert of `create_invoice`. -/
def insertInvoice (subscriptionId : Option ℕ) (subtotal taxAmount discountAmount : ℚ)
    (s : InvoiceTables) : InvoiceTables :=
  { s with
    invoices := s.invoices ++
      [.created s.nextInvoiceId subscriptionId subtotal taxAmount discountAmount]
    nextInvoiceId := s.nextInvoiceId + 1 }

/-- `create_invoice`, when user and subscription are valid. -/
def createInvoice (subscriptionId : Option ℕ) (subtotal taxAmount discountAmount : ℚ)
    (items : List ItemData) (s : InvoiceTables) : InvoiceTables :=
  (s.insertInvoice subscriptionId subtotal taxAmount discountAmount).addItems s.nextInvoiceId items

/-- `update_invoice_item`: the totals of the invoice are not touched.  Moving the item to an
unknown invoice violates a key. -/
def updateInvoiceItem (itemId : ℕ) (u : ItemUpdate) (s : InvoiceTables) : InvoiceTables :=
  if ∃ i ∈ u.invoiceId, i ∉ s.invoices.map (fun inv => inv.id) then s
  else
    { s with
      items := updateWhere (fun item => decide (item.id = itemId)) (InvoiceItem.update u) s.items }

/-- `delete_invoice_item`: the totals of the invoice are not touched. -/
def deleteInvoiceItem (itemId : ℕ) (s : InvoiceTables) : InvoiceTables :=
  { s with items := s.items.filter (fun item => decide (item.id ≠ itemId)) }

inductive Op where
  | createInvoice (subscriptionId : Option ℕ) (subtotal taxAmount discountAmount : ℚ)
      (items : List ItemData)
  | addInvoiceItem (invoiceId : ℕ) (quantity unitPrice : ℚ)
  | updateInvoiceItem (itemId : ℕ) (u : ItemUpdate)
  | deleteInvoiceItem (itemId : ℕ)
  | updateInvoiceStatus (invoiceId : ℕ) (status : InvoiceStatus)
  | applyPayment (invoiceId : ℕ) (amount : ℚ≥0)

def step (s : InvoiceTables) : Op → InvoiceTables
  | .createInvoice subscriptionId subtotal taxAmount discountAmount items =>
      s.createInvoice subscriptionId subtotal taxAmount discountAmount items
  | .addInvoiceItem invoiceId quantity unitPrice => s.addInvoiceItem invoiceId quantity unitPrice
  | .updateInvoiceItem itemId u => s.updateInvoiceItem itemId u
  | .deleteInvoiceItem itemId => s.deleteInvoiceItem itemId
  | .updateInvoiceStatus invoiceId status => s.setInvoice invoiceId (BilledInvoice.setStatus status)
  | .applyPayment invoiceId amount => s.setInvoice invoiceId (BilledInvoice.applyPayment amount)

def AllSound (s : InvoiceTables) : Prop := ∀ inv ∈ s.invoices, inv.Sound

instance (s : InvoiceTables) : Decidable s.AllSound :=
  inferInstanceAs (Decidable (∀ inv ∈ s.invoices, inv.Sound))

def FreshKey (s : InvoiceTables) : Prop := ∀ inv ∈ s.invoices, inv.id < s.nextInvoiceId

instance (s : InvoiceTables) : Decidable s.FreshKey :=
  inferInstanceAs (Decidable (∀ inv ∈ s.invoices, inv.id < s.nextInvoiceId))

/-- What an operation must find to leave the invoices sound. -/
def Admissible (s : InvoiceTables) : Op → Prop
  | .createInvoice _ subtotal taxAmount discountAmount items =>
      items ≠ [] ∨ roundHalfAway (subtotal + taxAmount - discountAmount) =
        roundHalfAway subtotal + roundHalfAway taxAmount - roundHalfAway discountAmount
  | .addInvoiceItem invoiceId quantity unitPrice =>
      ∀ inv ∈ s.invoices, inv.id = invoiceId → inv.status = .paid →
        s.itemsTotal invoiceId + roundHalfAway (quantity * unitPrice) + inv.taxAmount -
          inv.discountAmount ≤ inv.paidAmount
  | .updateInvoiceItem .. | .deleteInvoiceItem _ => True
  | .updateInvoiceStatus invoiceId status =>
      ∀ inv ∈ s.invoices, inv.id = invoiceId → status = .paid → inv.totalAmount = inv.paidAmount
  | .applyPayment invoiceId amount =>
      ∀ inv ∈ s.invoices, inv.id = invoiceId → Half amount →
        (inv.totalAmount : ℚ) < inv.paidAmount + amount

instance (s : InvoiceTables) (op : Op) : Decidable (s.Admissible op) :=
  match op with
  | .createInvoice _ subtotal taxAmount discountAmount items =>
      inferInstanceAs (Decidable (items ≠ [] ∨
        roundHalfAway (subtotal + taxAmount - discountAmount) =
          roundHalfAway subtotal + roundHalfAway taxAmount - roundHalfAway discountAmount))
  | .addInvoiceItem invoiceId quantity unitPrice =>
      inferInstanceAs (Decidable (∀ inv ∈ s.invoices, inv.id = invoiceId → inv.status = .paid →
        s.itemsTotal invoiceId + roundHalfAway (quantity * unitPrice) + inv.taxAmount -
          inv.discountAmount ≤ inv.paidAmount))
  | .updateInvoiceItem .. | .deleteInvoiceItem _ => isTrue trivial
  | .updateInvoiceStatus invoiceId status =>
      inferInstanceAs (Decidable (∀ inv ∈ s.invoices, inv.id = invoiceId → status = .paid →
        inv.totalAmount = inv.paidAmount))
  | .applyPayment invoiceId amount =>
      inferInstanceAs (Decidable (∀ inv ∈ s.invoices, inv.id = invoiceId → Half amount →
        (inv.totalAmount : ℚ) < inv.paidAmount + amount))

end InvoiceTables

/-! ### One invoice -/

namespace BilledInvoice

theorem applyPayment_natCast (amount : ℕ) (inv : BilledInvoice) :
    (inv.applyPayment amount).toInvoice = inv.toInvoice.receive amount := by
  have hpaid : ((inv.paidAmount : ℚ) + ((amount : ℚ≥0) : ℚ)) = ((inv.paidAmount + amount : ℕ) : ℚ) := by
    push_cast
    rfl
  have hbalance : (inv.totalAmount : ℚ) - ((inv.paidAmount + amount : ℕ) : ℚ) =
      ((inv.totalAmount - (inv.paidAmount + amount : ℕ) : ℤ) : ℚ) := by
    push_cast
    rfl
  unfold applyPayment Invoice.receive
  simp only [hpaid, hbalance, roundHalfAway_natCast, roundHalfAway_intCast, Int.toNat_natCast,
    Int.cast_nonpos]

theorem sound_created_iff (id : ℕ) (subscriptionId : Option ℕ) (subtotal tax discount : ℚ) :
    (created id subscriptionId subtotal tax discount).Sound ↔
      roundHalfAway (subtotal + tax - discount) =
        roundHalfAway subtotal + roundHalfAway tax - roundHalfAway discount := by
  constructor
  · intro h
    exact h.total
  · intro h
    exact ⟨by simp [created], h, by simp [created]⟩

theorem sound_retotal_iff {subtotal : ℤ} {inv : BilledInvoice} :
    (inv.retotal subtotal).Sound ↔ (inv.status = .paid →
      subtotal + inv.taxAmount - inv.discountAmount ≤ inv.paidAmount) := by
  constructor
  · intro h hpaid
    exact sub_nonpos.mp (h.paid hpaid)
  · intro h
    exact ⟨rfl, rfl, fun hpaid => sub_nonpos.mpr (h hpaid)⟩

theorem sound_setStatus_iff {status : InvoiceStatus} {inv : BilledInvoice} (hs : inv.Sound) :
    (inv.setStatus status).Sound ↔ (status = .paid → inv.totalAmount = inv.paidAmount) := by
  by_cases hpaid : status = .paid
  · subst hpaid
    constructor
    · intro h _
      have hbal : (0 : ℤ) = inv.totalAmount - inv.paidAmount := h.balance
      omega
    · intro h
      have htotal := h rfl
      exact ⟨by simp [setStatus, htotal], hs.total, by simp [setStatus]⟩
  · constructor
    · intro _ h
      exact absurd h hpaid
    · intro _
      exact ⟨by simp [setStatus, hpaid, hs.balance], hs.total, fun h => absurd h hpaid⟩

theorem sound_applyPayment_iff {amount : ℚ≥0} {inv : BilledInvoice} (hs : inv.Sound) :
    (inv.applyPayment amount).Sound ↔
      (Half amount → (inv.totalAmount : ℚ) < inv.paidAmount + amount) := by
  have hx : (0 : ℚ) ≤ inv.paidAmount + amount :=
    add_nonneg (Nat.cast_nonneg _) amount.coe_nonneg
  have hhalf : Half ((inv.paidAmount : ℚ) + amount) ↔ Half amount := by
    rw [Half, Half, Int.fract_natCast_add]
  have hsplit := roundHalfAway_add_sub_iff hx inv.totalAmount
  rw [hhalf, not_and, not_le] at hsplit
  have hstored : (((inv.applyPayment amount).paidAmount : ℕ) : ℤ) =
      roundHalfAway (inv.paidAmount + amount) :=
    Int.toNat_of_nonneg (roundHalfAway_nonneg hx)
  have hbalance : (inv.applyPayment amount).balance =
      roundHalfAway (inv.totalAmount - (inv.paidAmount + amount)) := rfl
  rw [← hsplit]
  constructor
  · intro h
    have hb := h.balance
    rw [hstored, hbalance] at hb
    have htotal : (inv.applyPayment amount).totalAmount = inv.totalAmount := rfl
    omega
  · intro h
    refine ⟨?_, hs.total, ?_⟩
    · rw [hstored, hbalance]
      show _ = inv.totalAmount - _
      omega
    · intro hpaid
      rw [hbalance]
      refine roundHalfAway_nonpos (not_lt.mp (fun hpos => ?_))
      -- an open balance leaves the status, and a paid invoice has none
      have hstatus : inv.status = .paid := by
        have hkeep : (inv.applyPayment amount).status = inv.status := if_neg (not_le.mpr hpos)
        exact hkeep ▸ hpaid
      have hcovered : (inv.totalAmount : ℚ) - inv.paidAmount ≤ 0 := by
        have := hs.balance ▸ hs.paid hstatus
        exact_mod_cast this
      have hamount : (0 : ℚ) ≤ amount := amount.coe_nonneg
      linarith

end BilledInvoice

/-! ### The operations -/

namespace InvoiceTables

theorem allSound_setInvoice_iff {s : InvoiceTables} (hs : s.AllSound) {invoiceId : ℕ}
    {f : BilledInvoice → BilledInvoice} : (s.setInvoice invoiceId f).AllSound ↔
      ∀ inv ∈ s.invoices, inv.id = invoiceId → (f inv).Sound := by
  refine (forall_updateWhere (fun inv hinv _ => hs inv hinv)).trans ?_
  simp only [decide_eq_true_eq]

theorem itemsTotal_insertItem (s : InvoiceTables) (invoiceId : ℕ) (quantity unitPrice : ℚ) :
    (s.insertItem invoiceId quantity unitPrice).itemsTotal invoiceId =
      s.itemsTotal invoiceId + roundHalfAway (quantity * unitPrice) := by
  simp [itemsTotal, insertItem]

theorem addInvoiceItem_of_mem {s : InvoiceTables} {invoiceId : ℕ}
    (h : invoiceId ∈ s.invoices.map (fun inv => inv.id)) (quantity unitPrice : ℚ) :
    s.addInvoiceItem invoiceId quantity unitPrice =
      (s.insertItem invoiceId quantity unitPrice).setInvoice invoiceId
        (.retotal (s.itemsTotal invoiceId + roundHalfAway (quantity * unitPrice))) := by
  rw [addInvoiceItem, if_neg (not_not.mpr h), updateInvoiceTotals, itemsTotal_insertItem]

theorem allSound_addInvoiceItem_iff {s : InvoiceTables} (hs : s.AllSound) (invoiceId : ℕ)
    (quantity unitPrice : ℚ) : (s.addInvoiceItem invoiceId quantity unitPrice).AllSound ↔
      s.Admissible (.addInvoiceItem invoiceId quantity unitPrice) := by
  by_cases hknown : invoiceId ∈ s.invoices.map (fun inv => inv.id)
  · have hinsert : (s.insertItem invoiceId quantity unitPrice).AllSound := hs
    rw [addInvoiceItem_of_mem hknown, allSound_setInvoice_iff hinsert]
    refine forall₃_congr (fun inv _ _ => ?_)
    rw [BilledInvoice.sound_retotal_iff]
  · rw [addInvoiceItem, if_pos hknown]
    refine ⟨fun _ inv hinv hid => ?_, fun _ => hs⟩
    exact absurd (List.mem_map.mpr ⟨inv, hinv, hid⟩) hknown

/-! ### A new invoice -/

/-- All invoices but a draft are sound. -/
structure SoundBut (invoiceId : ℕ) (s : InvoiceTables) : Prop where
  known : invoiceId ∈ s.invoices.map (fun inv => inv.id)
  draft : ∀ inv ∈ s.invoices, inv.id = invoiceId → inv.status = .draft
  others : ∀ inv ∈ s.invoices, inv.id ≠ invoiceId → inv.Sound

theorem SoundBut.addInvoiceItem {invoiceId : ℕ} {s : InvoiceTables} (h : s.SoundBut invoiceId)
    (quantity unitPrice : ℚ) :
    (s.addInvoiceItem invoiceId quantity unitPrice).SoundBut invoiceId ∧
      (s.addInvoiceItem invoiceId quantity unitPrice).AllSound := by
  rw [addInvoiceItem_of_mem h.known]
  set subtotal := s.itemsTotal invoiceId + roundHalfAway (quantity * unitPrice)
  have hkeys : ∀ inv, (BilledInvoice.retotal subtotal inv).id = inv.id := fun _ => rfl
  have hall : ∀ inv ∈ ((s.insertItem invoiceId quantity unitPrice).setInvoice invoiceId
      (.retotal subtotal)).invoices, inv.Sound ∧ (inv.id = invoiceId → inv.status = .draft) := by
    intro inv hinv
    obtain ⟨inv₀, hinv₀, rfl⟩ := mem_updateWhere.mp hinv
    split
    · rename_i hid
      have hdraft := h.draft inv₀ hinv₀ (of_decide_eq_true hid)
      refine ⟨BilledInvoice.sound_retotal_iff.mpr (fun hpaid => ?_), fun _ => hdraft⟩
      rw [hdraft] at hpaid
      cases hpaid
    · rename_i hid
      have hne : inv₀.id ≠ invoiceId := by simpa using hid
      exact ⟨h.others inv₀ hinv₀ hne, fun heq => absurd heq hne⟩
  refine ⟨⟨?_, fun inv hinv => (hall inv hinv).2, fun inv hinv _ => (hall inv hinv).1⟩,
    fun inv hinv => (hall inv hinv).1⟩
  show invoiceId ∈ (updateWhere _ _ _).map (fun inv : BilledInvoice => inv.id)
  rw [map_key_updateWhere hkeys]
  exact h.known

/-- The items of a draft keep the other invoices sound, and make it sound if there are any. -/
theorem SoundBut.addItems {invoiceId : ℕ} {items : List ItemData} {s : InvoiceTables}
    (h : s.SoundBut invoiceId) (hs : items ≠ [] ∨ s.AllSound) :
    (s.addItems invoiceId items).AllSound := by
  induction items generalizing s with
  | nil => exact hs.resolve_left (fun hne => hne rfl)
  | cons d items ih =>
      obtain ⟨hbut, hall⟩ := h.addInvoiceItem (d.quantity.getD 1) (d.unitPrice.getD 0)
      exact ih hbut (Or.inr hall)

theorem soundBut_insertInvoice {s : InvoiceTables} (hf : s.FreshKey) (hs : s.AllSound)
    (subscriptionId : Option ℕ) (subtotal taxAmount discountAmount : ℚ) :
    (s.insertInvoice subscriptionId subtotal taxAmount discountAmount).SoundBut
      s.nextInvoiceId := by
  refine ⟨by simp [insertInvoice, BilledInvoice.created], ?_, ?_⟩
  · intro inv hinv hid
    rcases List.mem_append.mp hinv with hold | hnew
    · exact absurd hid (hf inv hold).ne
    · rw [List.mem_singleton.mp hnew]
      rfl
  · intro inv hinv hid
    rcases List.mem_append.mp hinv with hold | hnew
    · exact hs inv hold
    · rw [List.mem_singleton.mp hnew] at hid
      exact absurd rfl hid

theorem allSound_createInvoice_iff {s : InvoiceTables} (hf : s.FreshKey) (hs : s.AllSound)
    (subscriptionId : Option ℕ) (subtotal taxAmount discountAmount : ℚ) (items : List ItemData) :
    (s.createInvoice subscriptionId subtotal taxAmount discountAmount items).AllSound ↔
      s.Admissible (.createInvoice subscriptionId subtotal taxAmount discountAmount items) := by
  have hbut := soundBut_insertInvoice hf hs subscriptionId subtotal taxAmount discountAmount
  have hinsert : (s.insertInvoice subscriptionId subtotal taxAmount discountAmount).AllSound ↔
      roundHalfAway (subtotal + taxAmount - discountAmount) =
        roundHalfAway subtotal + roundHalfAway taxAmount - roundHalfAway discountAmount := by
    rw [← BilledInvoice.sound_created_iff s.nextInvoiceId subscriptionId]
    unfold AllSound insertInvoice
    simp only [List.forall_mem_append, List.forall_mem_singleton]
    exact and_iff_right hs
  show _ ↔ items ≠ [] ∨ _
  rw [← hinsert]
  constructor
  · intro h
    cases items with
    | nil => exact Or.inr h
    | cons d items => exact Or.inl (List.cons_ne_nil d items)
  · exact hbut.addItems

/-! ### Runs -/

theorem freshKey_setInvoice {s : InvoiceTables} (hf : s.FreshKey) {invoiceId : ℕ}
    {f : BilledInvoice → BilledInvoice} (hid : ∀ inv, (f inv).id = inv.id) :
    (s.setInvoice invoiceId f).FreshKey := by
  refine (forall_updateWhere (fun inv hinv _ => hf inv hinv)).mpr ?_
  intro inv hinv _
  rw [hid]
  exact hf inv hinv

theorem freshKey_addInvoiceItem {s : InvoiceTables} (hf : s.FreshKey) (invoiceId : ℕ)
    (quantity unitPrice : ℚ) : (s.addInvoiceItem invoiceId quantity unitPrice).FreshKey := by
  by_cases hknown : invoiceId ∈ s.invoices.map (fun inv => inv.id)
  · rw [addInvoiceItem_of_mem hknown]
    exact freshKey_setInvoice hf (fun _ => rfl)
  · rw [addInvoiceItem, if_pos hknown]
    exact hf

theorem freshKey_addItems {s : InvoiceTables} (hf : s.FreshKey) (invoiceId : ℕ)
    (items : List ItemData) : (s.addItems invoiceId items).FreshKey := by
  induction items generalizing s with
  | nil => exact hf
  | cons d items ih => exact ih (freshKey_addInvoiceItem hf invoiceId _ _)

theorem freshKey_step {s : InvoiceTables} (hf : s.FreshKey) (op : Op) : (s.step op).FreshKey := by
  cases op with
  | createInvoice subscriptionId subtotal taxAmount discountAmount items =>
      refine freshKey_addItems ?_ _ _
      intro inv hinv
      rcases List.mem_append.mp hinv with hold | hnew
      · exact Nat.lt_succ_of_lt (hf inv hold)
      · rw [List.mem_singleton.mp hnew]
        exact Nat.lt_succ_self _
  | addInvoiceItem invoiceId quantity unitPrice => exact freshKey_addInvoiceItem hf _ _ _
  | updateInvoiceItem itemId u =>
      simp only [step, updateInvoiceItem]
      split
      · exact hf
      · exact hf
  | deleteInvoiceItem itemId => exact hf
  | updateInvoiceStatus invoiceId status => exact freshKey_setInvoice hf (fun _ => rfl)
  | applyPayment invoiceId amount => exact freshKey_setInvoice hf (fun _ => rfl)

/-- **Step lemma**: an operation leaves sound invoices sound exactly when it is admissible. -/
theorem allSound_step_iff {s : InvoiceTables} (hf : s.FreshKey) (hs : s.AllSound) (op : Op) :
    (s.step op).AllSound ↔ s.Admissible op := by
  cases op with
  | createInvoice subscriptionId subtotal taxAmount discountAmount items =>
      exact allSound_createInvoice_iff hf hs _ _ _ _ _
  | addInvoiceItem invoiceId quantity unitPrice => exact allSound_addInvoiceItem_iff hs _ _ _
  | updateInvoiceItem itemId u =>
      refine ⟨fun _ => trivial, fun _ => ?_⟩
      simp only [step, updateInvoiceItem]
      split
      · exact hs
      · exact hs
  | deleteInvoiceItem itemId => exact ⟨fun _ => trivial, fun _ => hs⟩
  | updateInvoiceStatus invoiceId status =>
      refine (allSound_setInvoice_iff hs).trans (forall₃_congr (fun inv hinv _ => ?_))
      exact BilledInvoice.sound_setStatus_iff (hs inv hinv)
  | applyPayment invoiceId amount =>
      refine (allSound_setInvoice_iff hs).trans (forall₃_congr (fun inv hinv _ => ?_))
      exact BilledInvoice.sound_applyPayment_iff (hs inv hinv)

/-- **Exact condition**: from sound invoices, all invoices are sound throughout a run of the
operations if and only if every operation is admissible. -/
theorem invoices_sound_iff (s : InvoiceTables) (hf : s.FreshKey) (hs : s.AllSound)
    (ops : List Op) : Always step AllSound s ops ↔ Along step Admissible s ops :=
  always_iff_along (fun _ op hf => freshKey_step hf op)
    (fun _ op hf hs => allSound_step_iff hf hs op) hf hs

def empty : InvoiceTables := ⟨[], [], 1, 1⟩

/-- An invoice over one item of 10.00 that is marked as paid has nothing left to pay and was not
paid; an item added to an invoice that was paid leaves it in status `PAID` with an open balance;
and half a cent paid counts on both sides. -/
theorem invoice_unsound :
    ((exec step empty [.createInvoice none 1000 0 0 [⟨some 1, some 1000⟩],
        .updateInvoiceStatus 1 .paid]).invoices =
      [⟨⟨1, none, 1000, 0, 0, .paid⟩, 1000, 0, 0⟩]) ∧
    ((exec step empty [.createInvoice none 1000 0 0 [⟨some 1, some 1000⟩], .applyPayment 1 1000,
        .addInvoiceItem 1 1 500]).invoices =
      [⟨⟨1, none, 1500, 1000, 500, .paid⟩, 1500, 0, 0⟩]) ∧
    ((exec step empty [.createInvoice none 1000 0 0 [⟨some 1, some 1000⟩],
        .applyPayment 1 (1 / 2)]).invoices =
      [⟨⟨1, none, 1000, 1, 1000, .draft⟩, 1000, 0, 0⟩]) ∧
    ¬ Always step AllSound empty [.createInvoice none 1000 0 0 [⟨some 1, some 1000⟩],
      .updateInvoiceStatus 1 .paid] ∧
    ¬ Always step AllSound empty [.createInvoice none 1000 0 0 [⟨some 1, some 1000⟩],
      .applyPayment 1 1000, .addInvoiceItem 1 1 500] := by
  decide +kernel

/-- All six operations, in an order that keeps the invoice sound. -/
theorem invoices_sound_six_operations :
    Always step AllSound empty
      [.createInvoice none 1000 160 60 [⟨some 2, some 500⟩, ⟨none, none⟩], .addInvoiceItem 1 (1 / 2) 201,
        .updateInvoiceItem 3 ⟨none, some 1, none, none⟩, .applyPayment 1 1000,
        .deleteInvoiceItem 3, .applyPayment 1 201, .updateInvoiceStatus 1 .paid] :=
  (invoices_sound_iff empty (by decide) (by decide) _).mpr (by decide +kernel)

end InvoiceTables

end IspBilling
