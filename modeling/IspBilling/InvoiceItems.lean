import IspBilling.InvoiceBalance

/-! # The items of an invoice

The total of an item is its quantity times its unit price, and the subtotal of an invoice the total of
its items.  `add_invoice_item` computes both.  `update_invoice_item` sets the fields it is given and
nothing else, and `delete_invoice_item` only deletes: `_update_invoice_totals`, which the addition
calls, is not called by them.

`AddsUp` is about one invoice.  Its two halves are `ItemsExact` for the items and `SubtotalFits` for
the invoice; an addition repairs the second one (`subtotalFits_addInvoiceItem`). -/

namespace IspBilling

open Rows Runs Rounding

/-- The total is the product; the quantity is in hundredths. -/
def InvoiceItem.Exact (item : InvoiceItem) : Prop :=
  100 * item.totalPrice = item.quantity * item.unitPrice

instance : DecidablePred InvoiceItem.Exact :=
  fun item => inferInstanceAs (Decidable (100 * item.totalPrice = item.quantity * item.unitPrice))

/-- What the item adds to the total of an invoice. -/
def InvoiceItem.share (invoiceId : ℕ) (item : InvoiceItem) : ℤ :=
  if item.invoiceId = invoiceId then item.totalPrice else 0

/-- Quantity, unit price and product go into their columns without loss. -/
def ExactProduct (quantity unitPrice : ℚ) : Prop :=
  100 * roundHalfAway (quantity * unitPrice) = roundHalfAway (100 * quantity) * roundHalfAway unitPrice

instance (quantity unitPrice : ℚ) : Decidable (ExactProduct quantity unitPrice) :=
  inferInstanceAs (Decidable (_ = _))

namespace InvoiceTables

/-- The items of the invoice are exact. -/
def ItemsExact (invoiceId : ℕ) (s : InvoiceTables) : Prop :=
  ∀ item ∈ s.items, item.invoiceId = invoiceId → item.Exact

/-- The subtotal of the invoice is the total of its items. -/
def SubtotalFits (invoiceId : ℕ) (s : InvoiceTables) : Prop :=
  ∀ inv ∈ s.invoices, inv.id = invoiceId → inv.subtotal = s.itemsTotal invoiceId

/-- The items of the invoice add up. -/
def AddsUp (invoiceId : ℕ) (s : InvoiceTables) : Prop :=
  s.ItemsExact invoiceId ∧ s.SubtotalFits invoiceId

instance (invoiceId : ℕ) (s : InvoiceTables) : Decidable (s.AddsUp invoiceId) :=
  inferInstanceAs (Decidable ((∀ item ∈ s.items, item.invoiceId = invoiceId → item.Exact) ∧
    ∀ inv ∈ s.invoices, inv.id = invoiceId → inv.subtotal = s.itemsTotal invoiceId))

/-- The keys of the tables: the items have distinct ones, and the next keys are new. -/
structure Keys (s : InvoiceTables) : Prop where
  keyed : Keyed InvoiceItem.id s.items
  items : ∀ item ∈ s.items, item.id < s.nextItemId ∧ item.invoiceId < s.nextInvoiceId
  invoices : s.FreshKey

/-- The keys of the tables, with an invoice that exists. -/
structure Linked (invoiceId : ℕ) (s : InvoiceTables) : Prop extends Keys s where
  known : invoiceId ∈ s.invoices.map fun inv => inv.id

/-- What an operation must find so that the items of the invoice add up behind it.  Nothing recomputes
the totals after an update or a deletion: an updated item must keep its product and what it adds to
the invoice, and a deleted one must have added nothing. -/
def KeepsTotals (invoiceId : ℕ) (s : InvoiceTables) : Op → Prop
  | .addInvoiceItem target quantity unitPrice =>
      target = invoiceId → ExactProduct quantity unitPrice
  | .updateInvoiceItem itemId u =>
      (∀ i ∈ u.invoiceId, i ∈ s.invoices.map fun inv => inv.id) →
      ∀ item ∈ s.items, item.id = itemId →
        ((item.update u).invoiceId = invoiceId → (item.update u).Exact) ∧
          (item.update u).share invoiceId = item.share invoiceId
  | .deleteInvoiceItem itemId => ∀ item ∈ s.items, item.id = itemId → item.share invoiceId = 0
  | .createInvoice .. | .updateInvoiceStatus .. | .applyPayment .. => True

/-! ### Additions -/

section Additions

variable {invoiceId : ℕ} {s : InvoiceTables}

theorem itemsTotal_eq_sum (invoiceId : ℕ) (s : InvoiceTables) :
    s.itemsTotal invoiceId = (s.items.map (InvoiceItem.share invoiceId)).sum := by
  unfold itemsTotal
  induction s.items with
  | nil => rfl
  | cons item items ih =>
      by_cases h : item.invoiceId = invoiceId
      · simp [InvoiceItem.share, h, ih]
      · simp [InvoiceItem.share, h, ih]

theorem subtotalFits_updateInvoiceTotals (invoiceId : ℕ) (s : InvoiceTables) :
    (s.updateInvoiceTotals invoiceId).SubtotalFits invoiceId := by
  intro inv hinv hid
  obtain ⟨inv₀, -, rfl⟩ := mem_updateWhere.mp hinv
  split at hid
  · next h =>
      rw [if_pos h]
      rfl
  · next h => exact absurd (decide_eq_true hid) h

theorem subtotalFits_addInvoiceItem (hknown : invoiceId ∈ s.invoices.map fun inv => inv.id)
    (quantity unitPrice : ℚ) :
    (s.addInvoiceItem invoiceId quantity unitPrice).SubtotalFits invoiceId := by
  rw [addInvoiceItem, if_neg (not_not.mpr hknown)]
  exact subtotalFits_updateInvoiceTotals _ _

theorem itemsExact_addInvoiceItem_iff (hknown : invoiceId ∈ s.invoices.map fun inv => inv.id)
    (quantity unitPrice : ℚ) :
    (s.addInvoiceItem invoiceId quantity unitPrice).ItemsExact invoiceId ↔
      s.ItemsExact invoiceId ∧ ExactProduct quantity unitPrice := by
  rw [addInvoiceItem, if_neg (not_not.mpr hknown)]
  unfold ItemsExact updateInvoiceTotals setInvoice insertItem
  dsimp only
  rw [List.forall_mem_append, List.forall_mem_singleton]
  simp only [forall_const, InvoiceItem.Exact, ExactProduct]

theorem known_setInvoice (hknown : invoiceId ∈ s.invoices.map fun inv => inv.id) (target : ℕ)
    (f : BilledInvoice → BilledInvoice) (hid : ∀ inv, (f inv).id = inv.id) :
    invoiceId ∈ (s.setInvoice target f).invoices.map fun inv => inv.id := by
  unfold setInvoice
  dsimp only
  rw [map_key_updateWhere hid]
  exact hknown

theorem known_addInvoiceItem {target : ℕ} (hknown : invoiceId ∈ s.invoices.map fun inv => inv.id)
    (quantity unitPrice : ℚ) : invoiceId ∈
      (s.addInvoiceItem target quantity unitPrice).invoices.map fun inv => inv.id := by
  unfold addInvoiceItem
  split
  · exact hknown
  · have hinsert : invoiceId ∈
        (s.insertItem target quantity unitPrice).invoices.map fun inv => inv.id := hknown
    exact known_setInvoice hinsert target (.retotal _) fun _ => rfl

theorem itemsExact_addItems_iff (hknown : invoiceId ∈ s.invoices.map fun inv => inv.id)
    (items : List ItemData) : (s.addItems invoiceId items).ItemsExact invoiceId ↔
      s.ItemsExact invoiceId ∧ ∀ d ∈ items, ExactProduct (d.quantity.getD 1) (d.unitPrice.getD 0) := by
  induction items generalizing s with
  | nil => simp [addItems]
  | cons d items ih =>
      have hstep : s.addItems invoiceId (d :: items) =
          (s.addInvoiceItem invoiceId (d.quantity.getD 1) (d.unitPrice.getD 0)).addItems invoiceId
            items := rfl
      rw [hstep, ih (known_addInvoiceItem hknown _ _), itemsExact_addInvoiceItem_iff hknown,
        List.forall_mem_cons, and_assoc]

theorem subtotalFits_addItems (hknown : invoiceId ∈ s.invoices.map fun inv => inv.id)
    {items : List ItemData} (hs : items ≠ [] ∨ s.SubtotalFits invoiceId) :
    (s.addItems invoiceId items).SubtotalFits invoiceId := by
  induction items generalizing s with
  | nil => exact hs.resolve_left fun hne => hne rfl
  | cons d items ih =>
      exact ih (known_addInvoiceItem hknown _ _)
        (Or.inr (subtotalFits_addInvoiceItem hknown _ _))

end Additions

/-! ### One step -/

section Steps

variable {invoiceId : ℕ} {s : InvoiceTables}

/-- The columns of one invoice that count: its subtotal and its items. -/
def view (invoiceId : ℕ) (s : InvoiceTables) : List ℤ × List InvoiceItem :=
  ((s.invoices.filter fun inv => decide (inv.id = invoiceId)).map fun inv => inv.subtotal,
    s.items.filter fun item => decide (item.invoiceId = invoiceId))

theorem addsUp_iff_view : s.AddsUp invoiceId ↔
    (∀ item ∈ (s.view invoiceId).2, item.Exact) ∧
      ∀ subtotal ∈ (s.view invoiceId).1,
        subtotal = ((s.view invoiceId).2.map InvoiceItem.totalPrice).sum := by
  unfold AddsUp ItemsExact SubtotalFits itemsTotal view
  rw [List.forall_mem_map]
  simp only [List.mem_filter, decide_eq_true_eq, and_imp]

theorem addsUp_congr {s' : InvoiceTables} (h : s'.view invoiceId = s.view invoiceId) :
    s'.AddsUp invoiceId ↔ s.AddsUp invoiceId := by
  rw [addsUp_iff_view, addsUp_iff_view, h]

theorem view_setInvoice (s : InvoiceTables) (target : ℕ) (f : BilledInvoice → BilledInvoice)
    (hid : ∀ inv, (f inv).id = inv.id)
    (hsubtotal : target = invoiceId → ∀ inv, (f inv).subtotal = inv.subtotal) :
    (s.setInvoice target f).view invoiceId = s.view invoiceId := by
  unfold view setInvoice
  dsimp only
  congr 1
  rw [filter_updateWhere fun inv => by rw [hid]]
  by_cases htarget : target = invoiceId
  · exact map_key_updateWhere (hsubtotal htarget) _
  · congr 1
    apply updateWhere_eq_self
    intro inv hinv
    have heq := of_decide_eq_true (List.mem_filter.mp hinv).2
    rw [decide_eq_false_iff_not, heq]
    exact fun h => htarget h.symm

theorem view_addInvoiceItem_other {target : ℕ} (htarget : target ≠ invoiceId)
    (quantity unitPrice : ℚ) :
    (s.addInvoiceItem target quantity unitPrice).view invoiceId = s.view invoiceId := by
  unfold addInvoiceItem
  split
  · rfl
  · have hinsert : (s.insertItem target quantity unitPrice).view invoiceId = s.view invoiceId := by
      unfold view insertItem
      dsimp only
      rw [List.filter_append, List.filter_cons_of_neg (by simpa using htarget), List.filter_nil,
        List.append_nil]
    have htotals : (s.insertItem target quantity unitPrice).view invoiceId =
        ((s.insertItem target quantity unitPrice).updateInvoiceTotals target).view invoiceId :=
      (view_setInvoice _ target (.retotal _) (fun _ => rfl) fun h => absurd h htarget).symm
    rw [← htotals, hinsert]

theorem view_addItems_other {target : ℕ} (htarget : target ≠ invoiceId) (items : List ItemData) :
    (s.addItems target items).view invoiceId = s.view invoiceId := by
  induction items generalizing s with
  | nil => rfl
  | cons d items ih => exact ih.trans (view_addInvoiceItem_other htarget _ _)

theorem view_createInvoice (hne : s.nextInvoiceId ≠ invoiceId) (subscriptionId : Option ℕ)
    (subtotal taxAmount discountAmount : ℚ) (items : List ItemData) :
    (s.createInvoice subscriptionId subtotal taxAmount discountAmount items).view invoiceId =
      s.view invoiceId := by
  rw [createInvoice, view_addItems_other hne]
  unfold view insertInvoice
  dsimp only
  rw [List.filter_append, List.filter_cons_of_neg, List.filter_nil, List.append_nil]
  rw [decide_eq_true_eq]
  exact hne

theorem subtotalFits_items_iff (hknown : invoiceId ∈ s.invoices.map fun inv => inv.id)
    (h : s.SubtotalFits invoiceId) {items : List InvoiceItem} :
    ({ s with items := items } : InvoiceTables).SubtotalFits invoiceId ↔
      (items.map (InvoiceItem.share invoiceId)).sum =
        (s.items.map (InvoiceItem.share invoiceId)).sum := by
  have htotal := itemsTotal_eq_sum invoiceId { s with items := items }
  obtain ⟨inv, hinv, hid⟩ := List.mem_map.mp hknown
  rw [← itemsTotal_eq_sum, ← htotal]
  constructor
  · intro hfits
    rw [← hfits inv hinv hid, h inv hinv hid]
  · intro heq inv' hinv' hid'
    rw [heq]
    exact h inv' hinv' hid'

theorem addsUp_updateInvoiceItem_iff (hl : s.Linked invoiceId) (h : s.AddsUp invoiceId) (itemId : ℕ)
    (u : ItemUpdate) : (s.updateInvoiceItem itemId u).AddsUp invoiceId ↔
      s.KeepsTotals invoiceId (.updateInvoiceItem itemId u) := by
  unfold updateInvoiceItem KeepsTotals
  dsimp only
  split
  · -- the statement fails
    next hunknown =>
      obtain ⟨i, hi, hnot⟩ := hunknown
      exact iff_of_true h fun hall => absurd (hall i hi) hnot
  · next hknown =>
      have hall : ∀ i ∈ u.invoiceId, i ∈ s.invoices.map fun inv => inv.id := by
        intro i hi
        by_contra hnot
        exact hknown ⟨i, hi, hnot⟩
      rw [forall_prop_of_true hall]
      unfold AddsUp
      rw [subtotalFits_items_iff hl.known h.2]
      unfold ItemsExact
      dsimp only
      by_cases hitem : ∃ item ∈ s.items, item.id = itemId
      · obtain ⟨item, hitem, rfl⟩ := hitem
        rw [sum_map_updateWhere_key hl.keyed hitem, hl.keyed.forall_key_iff hitem]
        refine and_congr ?_ (by omega)
        rw [forall_updateWhere fun x hx _ => h.1 x hx]
        simp only [decide_eq_true_eq]
        exact hl.keyed.forall_key_iff hitem
      · have hkeep : updateWhere (fun item => decide (item.id = itemId)) (InvoiceItem.update u)
            s.items = s.items := by
          apply updateWhere_eq_self
          intro item hmem
          exact decide_eq_false fun heq => hitem ⟨item, hmem, heq⟩
        rw [hkeep]
        exact iff_of_true ⟨h.1, rfl⟩ fun item hmem heq => absurd ⟨item, hmem, heq⟩ hitem

theorem addsUp_deleteInvoiceItem_iff (hl : s.Linked invoiceId) (h : s.AddsUp invoiceId) (itemId : ℕ) :
    (s.deleteInvoiceItem itemId).AddsUp invoiceId ↔
      s.KeepsTotals invoiceId (.deleteInvoiceItem itemId) := by
  have hexact : (s.deleteInvoiceItem itemId).ItemsExact invoiceId := by
    intro item hitem
    exact h.1 item (List.mem_of_mem_filter hitem)
  unfold AddsUp
  rw [and_iff_right hexact]
  unfold KeepsTotals deleteInvoiceItem
  rw [subtotalFits_items_iff hl.known h.2]
  dsimp only
  by_cases hitem : ∃ item ∈ s.items, item.id = itemId
  · obtain ⟨item, hitem, rfl⟩ := hitem
    rw [sum_map_filter_ne hl.keyed hitem, hl.keyed.forall_key_iff hitem]
    omega
  · have hkeep : s.items.filter (fun item => decide (item.id ≠ itemId)) = s.items := by
      rw [List.filter_eq_self]
      intro item hmem
      exact decide_eq_true fun heq => hitem ⟨item, hmem, heq⟩
    rw [hkeep]
    exact iff_of_true rfl fun item hmem heq => absurd ⟨item, hmem, heq⟩ hitem

/-- **Step lemma**: an operation leaves items that add up so exactly when it keeps the totals. -/
theorem addsUp_step_iff (hl : s.Linked invoiceId) (h : s.AddsUp invoiceId) (op : Op) :
    (s.step op).AddsUp invoiceId ↔ s.KeepsTotals invoiceId op := by
  cases op with
  | createInvoice subscriptionId subtotal taxAmount discountAmount items =>
      have hne : s.nextInvoiceId ≠ invoiceId := by
        obtain ⟨inv, hinv, hid⟩ := List.mem_map.mp hl.known
        have hlt := hl.invoices inv hinv
        omega
      exact (addsUp_congr (view_createInvoice hne _ _ _ _ _)).trans (iff_of_true h trivial)
  | addInvoiceItem target quantity unitPrice =>
      by_cases htarget : target = invoiceId
      · subst htarget
        have hfits := subtotalFits_addInvoiceItem hl.known quantity unitPrice
        have hexact := itemsExact_addInvoiceItem_iff hl.known quantity unitPrice
        constructor
        · intro hadds _
          exact (hexact.mp hadds.1).2
        · intro hproduct
          exact ⟨hexact.mpr ⟨h.1, hproduct rfl⟩, hfits⟩
      · exact (addsUp_congr (view_addInvoiceItem_other htarget _ _)).trans
          (iff_of_true h fun heq => absurd heq htarget)
  | updateInvoiceItem itemId u => exact addsUp_updateInvoiceItem_iff hl h itemId u
  | deleteInvoiceItem itemId => exact addsUp_deleteInvoiceItem_iff hl h itemId
  | updateInvoiceStatus target status =>
      exact (addsUp_congr (view_setInvoice s target (.setStatus status) (fun _ => rfl)
        fun _ _ => rfl)).trans (iff_of_true h trivial)
  | applyPayment target amount =>
      exact (addsUp_congr (view_setInvoice s target (.applyPayment amount) (fun _ => rfl)
        fun _ _ => rfl)).trans (iff_of_true h trivial)

end Steps

/-! ### Runs -/

section Runs

variable {invoiceId : ℕ} {s : InvoiceTables}

theorem keys_addInvoiceItem (h : s.Keys) (target : ℕ) (quantity unitPrice : ℚ) :
    (s.addInvoiceItem target quantity unitPrice).Keys := by
  have hfresh := freshKey_addInvoiceItem h.invoices target quantity unitPrice
  unfold addInvoiceItem at hfresh ⊢
  split
  · exact h
  · next hknown =>
      rw [not_not] at hknown
      rw [if_neg (not_not.mpr hknown)] at hfresh
      obtain ⟨inv, hinv, hid⟩ := List.mem_map.mp hknown
      have hlt : target < s.nextInvoiceId := hid ▸ h.invoices inv hinv
      have hnew : s.nextItemId ∉ s.items.map InvoiceItem.id := by
        intro hmem
        obtain ⟨item, hitem, heq⟩ := List.mem_map.mp hmem
        exact absurd heq (Nat.ne_of_lt (h.items item hitem).1)
      refine ⟨h.keyed.append_singleton hnew, ?_, hfresh⟩
      intro item hitem
      rcases List.mem_append.mp hitem with hold | hnew
      · exact ⟨Nat.lt_succ_of_lt (h.items item hold).1, (h.items item hold).2⟩
      · rw [List.mem_singleton.mp hnew]
        exact ⟨Nat.lt_succ_self _, hlt⟩

theorem keys_addItems (h : s.Keys) (target : ℕ) (items : List ItemData) :
    (s.addItems target items).Keys := by
  induction items generalizing s with
  | nil => exact h
  | cons d items ih => exact ih (keys_addInvoiceItem h target _ _)

theorem keys_insertInvoice (h : s.Keys) (subscriptionId : Option ℕ)
    (subtotal taxAmount discountAmount : ℚ) :
    (s.insertInvoice subscriptionId subtotal taxAmount discountAmount).Keys := by
  refine ⟨h.keyed, ?_, ?_⟩
  · intro item hitem
    exact ⟨(h.items item hitem).1, Nat.lt_succ_of_lt (h.items item hitem).2⟩
  · intro inv hinv
    rcases List.mem_append.mp hinv with hold | hnew
    · exact Nat.lt_succ_of_lt (h.invoices inv hold)
    · rw [List.mem_singleton.mp hnew]
      exact Nat.lt_succ_self _

theorem keys_createInvoice (h : s.Keys) (subscriptionId : Option ℕ)
    (subtotal taxAmount discountAmount : ℚ) (items : List ItemData) :
    (s.createInvoice subscriptionId subtotal taxAmount discountAmount items).Keys :=
  keys_addItems (keys_insertInvoice h _ _ _ _) _ _

theorem keys_updateInvoiceItem (h : s.Keys) (itemId : ℕ) (u : ItemUpdate) :
    (s.updateInvoiceItem itemId u).Keys := by
  unfold updateInvoiceItem
  split
  · exact h
  · next hknown =>
      refine ⟨h.keyed.updateWhere fun _ => rfl, ?_, h.invoices⟩
      intro item hitem
      obtain ⟨item₀, hitem₀, rfl⟩ := mem_updateWhere.mp hitem
      split
      · refine ⟨(h.items item₀ hitem₀).1, ?_⟩
        show u.invoiceId.getD item₀.invoiceId < s.nextInvoiceId
        cases hmoved : u.invoiceId with
        | none => exact (h.items item₀ hitem₀).2
        | some i =>
            have hi : i ∈ s.invoices.map fun inv => inv.id := by
              by_contra hnot
              exact hknown ⟨i, hmoved, hnot⟩
            obtain ⟨inv, hinv, hid⟩ := List.mem_map.mp hi
            exact hid ▸ h.invoices inv hinv
      · exact h.items item₀ hitem₀

theorem keys_step (h : s.Keys) (op : Op) : (s.step op).Keys := by
  have hfresh := freshKey_step h.invoices op
  cases op with
  | createInvoice subscriptionId subtotal taxAmount discountAmount items =>
      exact keys_createInvoice h _ _ _ _ _
  | addInvoiceItem target quantity unitPrice => exact keys_addInvoiceItem h _ _ _
  | updateInvoiceItem itemId u => exact keys_updateInvoiceItem h _ _
  | deleteInvoiceItem itemId =>
      refine ⟨h.keyed.sublist (List.filter_sublist.map _), ?_, h.invoices⟩
      intro item hitem
      exact h.items item (List.mem_of_mem_filter hitem)
  | updateInvoiceStatus target status => exact ⟨h.keyed, h.items, hfresh⟩
  | applyPayment target amount => exact ⟨h.keyed, h.items, hfresh⟩

theorem known_addItems {target : ℕ} (hknown : invoiceId ∈ s.invoices.map fun inv => inv.id)
    (items : List ItemData) :
    invoiceId ∈ (s.addItems target items).invoices.map fun inv => inv.id := by
  induction items generalizing s with
  | nil => exact hknown
  | cons d items ih => exact ih (known_addInvoiceItem hknown _ _)

theorem known_insertInvoice (hknown : invoiceId ∈ s.invoices.map fun inv => inv.id)
    (subscriptionId : Option ℕ) (subtotal taxAmount discountAmount : ℚ) :
    invoiceId ∈ (s.insertInvoice subscriptionId subtotal taxAmount discountAmount).invoices.map
      fun inv => inv.id := by
  unfold insertInvoice
  rw [List.map_append]
  exact List.mem_append_left _ hknown

theorem known_step (hknown : invoiceId ∈ s.invoices.map fun inv => inv.id) (op : Op) :
    invoiceId ∈ (s.step op).invoices.map fun inv => inv.id := by
  cases op with
  | createInvoice subscriptionId subtotal taxAmount discountAmount items =>
      exact known_addItems (known_insertInvoice hknown _ _ _ _) items
  | addInvoiceItem target quantity unitPrice => exact known_addInvoiceItem hknown _ _
  | updateInvoiceItem itemId u =>
      simp only [step, updateInvoiceItem]
      split <;> exact hknown
  | deleteInvoiceItem itemId => exact hknown
  | updateInvoiceStatus target status =>
      exact known_setInvoice hknown target (.setStatus status) fun _ => rfl
  | applyPayment target amount =>
      exact known_setInvoice hknown target (.applyPayment amount) fun _ => rfl

theorem linked_step (h : s.Linked invoiceId) (op : Op) : (s.step op).Linked invoiceId :=
  ⟨keys_step h.toKeys op, known_step h.known op⟩

theorem linked_createInvoice (h : s.Keys) (subscriptionId : Option ℕ)
    (subtotal taxAmount discountAmount : ℚ) (items : List ItemData) :
    (s.createInvoice subscriptionId subtotal taxAmount discountAmount items).Linked
      s.nextInvoiceId := by
  refine ⟨keys_createInvoice h _ _ _ _ _, known_addItems ?_ items⟩
  simp [insertInvoice, BilledInvoice.created]

/-- The items of a new invoice add up exactly when their products are exact. -/
theorem addsUp_createInvoice_iff (h : s.Keys) (subscriptionId : Option ℕ)
    (subtotal taxAmount discountAmount : ℚ) {items : List ItemData} (hitems : items ≠ []) :
    (s.createInvoice subscriptionId subtotal taxAmount discountAmount items).AddsUp
        s.nextInvoiceId ↔
      ∀ d ∈ items, ExactProduct (d.quantity.getD 1) (d.unitPrice.getD 0) := by
  have hknown : s.nextInvoiceId ∈
      (s.insertInvoice subscriptionId subtotal taxAmount discountAmount).invoices.map
        fun inv => inv.id := by
    simp [insertInvoice, BilledInvoice.created]
  have hnone : (s.insertInvoice subscriptionId subtotal taxAmount discountAmount).ItemsExact
      s.nextInvoiceId := by
    intro item hitem hid
    exact absurd hid (Nat.ne_of_lt (h.items item hitem).2)
  unfold AddsUp createInvoice
  rw [itemsExact_addItems_iff hknown, and_iff_right hnone]
  exact and_iff_left (subtotalFits_addItems hknown (Or.inl hitems))

theorem keys_empty : empty.Keys :=
  ⟨by decide, fun _ h => absurd h List.not_mem_nil, fun _ h => absurd h List.not_mem_nil⟩

end Runs

end InvoiceTables

end IspBilling
