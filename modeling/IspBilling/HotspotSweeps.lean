import IspBilling.HotspotExpiry
import IspBilling.Sweep

/-! # Does the hotspot reconciler reach every expired user?

`process_expired_hotspot_users` reads at most `batch_size` redeemed vouchers, oldest first, and
at most `batch_size` vouchers of completed purchases, and only then asks which of them are
past their access window.  A voucher of a long package stays in the list until its own window
has passed, so long packages can hold the whole batch while expired users wait behind them.

Each of the two lists is swept in the sense of `Sweep` (`usedRows_reconcile`,
`purchasedRows_reconcile`).  `reconciles_iff` is the exact condition on the tables under which
finitely many runs at one time leave no overdue voucher. -/

namespace IspBilling

open Rows Runs Sweep

namespace HotspotTables

variable (now : ℤ) (gracePeriodMinutes batchSize : ℕ)

/-- All redeemed vouchers with their first use, oldest first. -/
def usedRows (db : HotspotTables) : List (VoucherCode × ℤ) :=
  (db.vouchers.filterMap (fun v =>
    if v.hotspotUsername ≠ none ∧ v.status = .used then v.usedAt.map (fun u => (v, u))
    else none)).insertionSort (fun a b => a.2 ≤ b.2)

/-- All active vouchers of completed purchases, with the time of the purchase. -/
def purchasedRows (db : HotspotTables) : List (VoucherCode × ℤ) :=
  db.vouchers.flatMap (fun v => db.purchases.filterMap (fun p =>
    if p.voucherCodeId = some v.id ∧ v.hotspotUsername ≠ none ∧ v.status = .active ∧
        p.paymentStatus = .completed then
      some (v, p.completedAt.getD v.createdAt)
    else none))

theorem candidates_eq (db : HotspotTables) : db.candidates batchSize =
    db.usedRows.take batchSize ++ db.purchasedRows.take batchSize := rfl

/-- The voucher is in use under a username, or active and bought, and its access window has
passed with the grace period. -/
def Overdue (db : HotspotTables) (v : VoucherCode) : Prop :=
  (v.status = .used ∧ v.hotspotUsername ≠ none ∧
    ∃ u ∈ v.usedAt, db.Due now gracePeriodMinutes (v, u)) ∨
  (v.status = .active ∧ ∃ p ∈ db.purchases, p.voucherCodeId = some v.id ∧
    p.paymentStatus = .completed ∧
    db.Due now gracePeriodMinutes (v, p.completedAt.getD v.createdAt))

instance (db : HotspotTables) (v : VoucherCode) :
    Decidable (db.Overdue now gracePeriodMinutes v) :=
  inferInstanceAs (Decidable ((v.status = .used ∧ v.hotspotUsername ≠ none ∧
    ∃ u ∈ v.usedAt, db.Due now gracePeriodMinutes (v, u)) ∨
  (v.status = .active ∧ ∃ p ∈ db.purchases, p.voucherCodeId = some v.id ∧
    p.paymentStatus = .completed ∧
    db.Due now gracePeriodMinutes (v, p.completedAt.getD v.createdAt))))

/-- No voucher is overdue. -/
def Reconciled (db : HotspotTables) : Prop :=
  ∀ v ∈ db.vouchers, ¬ db.Overdue now gracePeriodMinutes v

instance (db : HotspotTables) : Decidable (db.Reconciled now gracePeriodMinutes) :=
  inferInstanceAs (Decidable (∀ v ∈ db.vouchers, ¬ db.Overdue now gracePeriodMinutes v))

/-- Some overdue voucher has no username, so the reconciler does not read it. -/
def Unreadable (db : HotspotTables) : Prop :=
  ∃ v ∈ db.vouchers, v.hotspotUsername = none ∧ db.Overdue now gracePeriodMinutes v

instance (db : HotspotTables) : Decidable (db.Unreadable now gracePeriodMinutes) :=
  inferInstanceAs (Decidable (∃ v ∈ db.vouchers, v.hotspotUsername = none ∧
    db.Overdue now gracePeriodMinutes v))

variable {now gracePeriodMinutes batchSize}

/-! ### The two lists -/

theorem mem_usedRows {db : HotspotTables} {c : VoucherCode × ℤ} : c ∈ db.usedRows ↔
    c.1 ∈ db.vouchers ∧ c.1.hotspotUsername ≠ none ∧ c.1.status = .used ∧
      c.1.usedAt = some c.2 := by
  rw [usedRows, List.mem_insertionSort, List.mem_filterMap]
  constructor
  · rintro ⟨v, hv, hc⟩
    split at hc
    · rename_i hcond
      obtain ⟨u, hu, rfl⟩ := Option.map_eq_some_iff.mp hc
      exact ⟨hv, hcond.1, hcond.2, hu⟩
    · cases hc
  · rintro ⟨hv, hname, hst, hu⟩
    exact ⟨c.1, hv, by rw [if_pos ⟨hname, hst⟩, hu]; rfl⟩

theorem mem_purchasedRows {db : HotspotTables} {c : VoucherCode × ℤ} : c ∈ db.purchasedRows ↔
    c.1 ∈ db.vouchers ∧ c.1.hotspotUsername ≠ none ∧ c.1.status = .active ∧
      ∃ p ∈ db.purchases, p.voucherCodeId = some c.1.id ∧ p.paymentStatus = .completed ∧
        p.completedAt.getD c.1.createdAt = c.2 := by
  rw [purchasedRows, List.mem_flatMap]
  constructor
  · rintro ⟨v, hv, hc⟩
    obtain ⟨p, hp, hrow⟩ := List.mem_filterMap.mp hc
    split at hrow
    · rename_i hcond
      obtain rfl := Option.some.inj hrow
      exact ⟨hv, hcond.2.1, hcond.2.2.1, p, hp, hcond.1, hcond.2.2.2, rfl⟩
    · cases hrow
  · rintro ⟨hv, hname, hst, p, hp, hlink, hdone, hat⟩
    refine ⟨c.1, hv, List.mem_filterMap.mpr ⟨p, hp, ?_⟩⟩
    rw [if_pos ⟨hlink, hname, hst, hdone⟩, hat]

theorem reconciled_iff {db : HotspotTables} : db.Reconciled now gracePeriodMinutes ↔
    (∀ c ∈ db.usedRows, ¬ db.Due now gracePeriodMinutes c) ∧
      (∀ c ∈ db.purchasedRows, ¬ db.Due now gracePeriodMinutes c) ∧
      ¬ db.Unreadable now gracePeriodMinutes := by
  constructor
  · intro h
    refine ⟨?_, ?_, ?_⟩
    · intro c hc hdue
      obtain ⟨hv, hname, hst, hu⟩ := mem_usedRows.mp hc
      exact h c.1 hv (Or.inl ⟨hst, hname, c.2, hu, hdue⟩)
    · intro c hc hdue
      obtain ⟨hv, hname, hst, p, hp, hlink, hdone, hat⟩ := mem_purchasedRows.mp hc
      exact h c.1 hv (Or.inr ⟨hst, p, hp, hlink, hdone, hat ▸ hdue⟩)
    · rintro ⟨v, hv, _, hover⟩
      exact h v hv hover
  · rintro ⟨hused, hpurchased, hread⟩ v hv hover
    have hname : v.hotspotUsername ≠ none := fun hnone => hread ⟨v, hv, hnone, hover⟩
    rcases hover with ⟨hst, _, u, hu, hdue⟩ | ⟨hst, p, hp, hlink, hdone, hdue⟩
    · exact hused (v, u) (mem_usedRows.mpr ⟨hv, hname, hst, hu⟩) hdue
    · exact hpurchased _ (mem_purchasedRows.mpr ⟨hv, hname, hst, p, hp, hlink, hdone, rfl⟩) hdue

theorem usedRows_mark (db : HotspotTables) (m : ℕ → Bool) :
    ({ db with vouchers := updateWhere (fun v => m v.id) VoucherCode.expire db.vouchers } :
      HotspotTables).usedRows = db.usedRows.filter (fun c => !m c.1.id) := by
  have htotal : Std.Total (fun a b : VoucherCode × ℤ => a.2 ≤ b.2) :=
    ⟨fun a b => le_total a.2 b.2⟩
  have htrans : IsTrans (VoucherCode × ℤ) (fun a b => a.2 ≤ b.2) :=
    ⟨fun _ _ _ hab hbc => le_trans hab hbc⟩
  rw [usedRows, usedRows, Sweep.filter_insertionSort]
  congr 1
  simp only [updateWhere, List.filterMap_map, List.filter_filterMap]
  apply List.filterMap_congr
  intro v _
  simp only [Function.comp]
  by_cases hm : m v.id = true
  · rw [if_pos hm]
    by_cases hcond : v.hotspotUsername ≠ none ∧ v.status = .used
    · cases hu : v.usedAt <;> simp [hcond, hm, VoucherCode.expire, Option.filter]
    · simp [hcond, VoucherCode.expire]
  · rw [if_neg hm]
    by_cases hcond : v.hotspotUsername ≠ none ∧ v.status = .used
    · cases hu : v.usedAt <;> simp [hcond, hm, Option.filter]
    · simp [hcond]

theorem purchasedRows_mark (db : HotspotTables) (m : ℕ → Bool) :
    ({ db with vouchers := updateWhere (fun v => m v.id) VoucherCode.expire db.vouchers } :
      HotspotTables).purchasedRows = db.purchasedRows.filter (fun c => !m c.1.id) := by
  simp only [purchasedRows, updateWhere, List.flatMap_map, List.filter_flatMap,
    List.filter_filterMap]
  apply List.flatMap_congr
  intro v _
  apply List.filterMap_congr
  intro p _
  by_cases hm : m v.id = true
  · rw [if_pos hm, if_neg (by simp [VoucherCode.expire])]
    split <;> simp [hm, Option.filter]
  · rw [if_neg hm]
    split <;> simp [hm, Option.filter]

/-! ### A run of the reconciler is a sweep of both lists -/

theorem reconcile_eq (db : HotspotTables) :
    db.step (.reconcile now gracePeriodMinutes batchSize) =
      { db with
        vouchers := updateWhere (fun v => decide (Calls (fun c => c.1.id)
          (db.Due now gracePeriodMinutes) (db.candidates batchSize) v.id))
            VoucherCode.expire db.vouchers } := by
  obtain ⟨p, hp, hstep⟩ := db.step_eq (.reconcile now gracePeriodMinutes batchSize)
  have hmark : p = fun v => decide (Calls (fun c => c.1.id)
      (db.Due now gracePeriodMinutes) (db.candidates batchSize) v.id) := by
    funext v
    rw [Bool.eq_iff_iff, hp v, decide_eq_true_eq]
    simp only [Marks, Calls, eq_comm]
  rw [hstep, hmark]

theorem calls_candidates_used {db : HotspotTables} (hkeyed : Keyed VoucherCode.id db.vouchers)
    {c : VoucherCode × ℤ} (hc : c ∈ db.usedRows) :
    Calls (fun c => c.1.id) (db.Due now gracePeriodMinutes) (db.candidates batchSize) c.1.id ↔
      Calls (fun c => c.1.id) (db.Due now gracePeriodMinutes) (db.usedRows.take batchSize)
        c.1.id := by
  rw [candidates_eq, calls_append, or_iff_left]
  rintro ⟨x, hx, _, hid⟩
  obtain ⟨hxv, _, hxst, _⟩ := mem_purchasedRows.mp (List.mem_of_mem_take hx)
  obtain ⟨hcv, _, hcst, _⟩ := mem_usedRows.mp hc
  rw [hkeyed.eq_of_key hxv hcv hid, hcst] at hxst
  cases hxst

theorem calls_candidates_purchased {db : HotspotTables}
    (hkeyed : Keyed VoucherCode.id db.vouchers) {c : VoucherCode × ℤ}
    (hc : c ∈ db.purchasedRows) :
    Calls (fun c => c.1.id) (db.Due now gracePeriodMinutes) (db.candidates batchSize) c.1.id ↔
      Calls (fun c => c.1.id) (db.Due now gracePeriodMinutes) (db.purchasedRows.take batchSize)
        c.1.id := by
  rw [candidates_eq, calls_append, or_iff_right]
  rintro ⟨x, hx, _, hid⟩
  obtain ⟨hxv, _, hxst, _⟩ := mem_usedRows.mp (List.mem_of_mem_take hx)
  obtain ⟨hcv, _, hcst, _⟩ := mem_purchasedRows.mp hc
  rw [hkeyed.eq_of_key hxv hcv hid, hcst] at hxst
  cases hxst

section Times

variable (now gracePeriodMinutes batchSize)

/-- The tables after `n` runs of the reconciler. -/
def reconcileTimes (db : HotspotTables) (n : ℕ) : HotspotTables :=
  exec step db (List.replicate n (.reconcile now gracePeriodMinutes batchSize))

/-- One sweep of a list of candidates. -/
def sweepRows (db : HotspotTables) : List (VoucherCode × ℤ) → List (VoucherCode × ℤ) :=
  sweep (fun c => c.1.id) (db.Due now gracePeriodMinutes) batchSize

/-- What `n` runs make of the tables: both lists are swept `n` times, and the overdue vouchers
without a username stay. -/
structure Swept (db : HotspotTables) (n : ℕ) (db' : HotspotTables) : Prop where
  due : db'.Due now gracePeriodMinutes = db.Due now gracePeriodMinutes
  used : db'.usedRows = (db.sweepRows now gracePeriodMinutes batchSize)^[n] db.usedRows
  purchased :
    db'.purchasedRows = (db.sweepRows now gracePeriodMinutes batchSize)^[n] db.purchasedRows
  unreadable : db'.Unreadable now gracePeriodMinutes ↔ db.Unreadable now gracePeriodMinutes

end Times

theorem usedRows_reconcile {db : HotspotTables} (hkeyed : Keyed VoucherCode.id db.vouchers) :
    (db.step (.reconcile now gracePeriodMinutes batchSize)).usedRows =
      db.sweepRows now gracePeriodMinutes batchSize db.usedRows := by
  rw [reconcile_eq, usedRows_mark db (fun k => decide (Calls (fun c => c.1.id)
    (db.Due now gracePeriodMinutes) (db.candidates batchSize) k)), sweepRows, sweep]
  apply List.filter_congr
  intro c hc
  rw [decide_not, decide_eq_decide.mpr (calls_candidates_used hkeyed hc)]

theorem purchasedRows_reconcile {db : HotspotTables}
    (hkeyed : Keyed VoucherCode.id db.vouchers) :
    (db.step (.reconcile now gracePeriodMinutes batchSize)).purchasedRows =
      db.sweepRows now gracePeriodMinutes batchSize db.purchasedRows := by
  rw [reconcile_eq, purchasedRows_mark db (fun k => decide (Calls (fun c => c.1.id)
    (db.Due now gracePeriodMinutes) (db.candidates batchSize) k)), sweepRows, sweep]
  apply List.filter_congr
  intro c hc
  rw [decide_not, decide_eq_decide.mpr (calls_candidates_purchased hkeyed hc)]

/-- The reconciler neither serves nor adds a voucher without a username. -/
theorem unreadable_reconcile {db : HotspotTables} (hkeyed : Keyed VoucherCode.id db.vouchers) :
    (db.step (.reconcile now gracePeriodMinutes batchSize)).Unreadable now gracePeriodMinutes ↔
      db.Unreadable now gracePeriodMinutes := by
  have hmem : ∀ v : VoucherCode, v.hotspotUsername = none →
      (v ∈ (db.step (.reconcile now gracePeriodMinutes batchSize)).vouchers ↔
        v ∈ db.vouchers) := by
    intro v hname
    rw [reconcile_eq]
    refine mem_updateWhere_of_fixed (P := fun v : VoucherCode => v.hotspotUsername = none)
      (f := VoucherCode.expire) (fun _ => Iff.rfl) ?_ hname
    intro w hw hnone hcall
    obtain ⟨c, hc, _, hid⟩ := of_decide_eq_true hcall
    have hnamed : c.1 ∈ db.vouchers ∧ c.1.hotspotUsername ≠ none := by
      rw [candidates_eq] at hc
      rcases List.mem_append.mp hc with hc | hc
      · obtain ⟨hv, hne, _⟩ := mem_usedRows.mp (List.mem_of_mem_take hc)
        exact ⟨hv, hne⟩
      · obtain ⟨hv, hne, _⟩ := mem_purchasedRows.mp (List.mem_of_mem_take hc)
        exact ⟨hv, hne⟩
    rw [hkeyed.eq_of_key hnamed.1 hw hid] at hnamed
    exact absurd hnone hnamed.2
  have hover : ∀ v, (db.step (.reconcile now gracePeriodMinutes batchSize)).Overdue now
      gracePeriodMinutes v ↔ db.Overdue now gracePeriodMinutes v := by
    intro v
    rw [reconcile_eq]
    rfl
  constructor
  · rintro ⟨v, hv, hname, h⟩
    exact ⟨v, (hmem v hname).mp hv, hname, (hover v).mp h⟩
  · rintro ⟨v, hv, hname, h⟩
    exact ⟨v, (hmem v hname).mpr hv, hname, (hover v).mpr h⟩

variable (now gracePeriodMinutes batchSize) in
theorem swept_reconcileTimes {db : HotspotTables} (hkeyed : Keyed VoucherCode.id db.vouchers)
    (n : ℕ) : Swept now gracePeriodMinutes batchSize db n
      (db.reconcileTimes now gracePeriodMinutes batchSize n) := by
  induction n generalizing db with
  | zero => exact ⟨rfl, rfl, rfl, Iff.rfl⟩
  | succ n ih =>
      have hdue : (db.step (.reconcile now gracePeriodMinutes batchSize)).Due now
          gracePeriodMinutes = db.Due now gracePeriodMinutes := by
        rw [reconcile_eq]
        rfl
      have hkeyed' : Keyed VoucherCode.id
          (db.step (.reconcile now gracePeriodMinutes batchSize)).vouchers := by
        rw [reconcile_eq]
        exact hkeyed.updateWhere (fun _ => rfl)
      have h := ih hkeyed'
      have hsweep : (db.step (.reconcile now gracePeriodMinutes batchSize)).sweepRows now
          gracePeriodMinutes batchSize = db.sweepRows now gracePeriodMinutes batchSize := by
        rw [reconcile_eq]
        rfl
      rw [reconcileTimes, List.replicate_succ, exec_cons]
      refine ⟨h.due.trans hdue, ?_, ?_, h.unreadable.trans (unreadable_reconcile hkeyed)⟩
      · rw [Function.iterate_succ_apply, ← usedRows_reconcile hkeyed, ← hsweep]
        exact h.used
      · rw [Function.iterate_succ_apply, ← purchasedRows_reconcile hkeyed, ← hsweep]
        exact h.purchased

/-- **When the reconciler does not starve**: finitely many runs at one time leave no overdue
voucher if and only if nothing blocks a due row of either list and every overdue voucher has a
username. -/
theorem reconciles_iff (db : HotspotTables) (hkeyed : Keyed VoucherCode.id db.vouchers)
    (now : ℤ) (gracePeriodMinutes batchSize : ℕ) :
    (∃ n, (db.reconcileTimes now gracePeriodMinutes batchSize n).Reconciled now
        gracePeriodMinutes) ↔
      Unblocked (fun c => c.1.id) (db.Due now gracePeriodMinutes) batchSize db.usedRows ∧
        Unblocked (fun c => c.1.id) (db.Due now gracePeriodMinutes) batchSize db.purchasedRows ∧
        ¬ db.Unreadable now gracePeriodMinutes := by
  rw [← exists_served_iff, ← exists_served_iff]
  constructor
  · rintro ⟨n, hn⟩
    have h := swept_reconcileTimes now gracePeriodMinutes batchSize hkeyed n
    obtain ⟨hused, hpurchased, hread⟩ := reconciled_iff.mp hn
    rw [h.used, h.due] at hused
    rw [h.purchased, h.due] at hpurchased
    exact ⟨⟨n, hused⟩, ⟨n, hpurchased⟩, fun hu => hread (h.unreadable.mpr hu)⟩
  · rintro ⟨⟨m, hm⟩, ⟨n, hn⟩, hread⟩
    have h := swept_reconcileTimes now gracePeriodMinutes batchSize hkeyed (max m n)
    refine ⟨max m n, reconciled_iff.mpr ⟨?_, ?_, fun hu => hread (h.unreadable.mp hu)⟩⟩
    · rw [h.used, h.due]
      exact served_of_le (le_max_left m n) hm
    · rw [h.purchased, h.due]
      exact served_of_le (le_max_right m n) hn

/-- Two customers of one organization: the older one has a package of sixty days, the other one
had an hour. -/
def twoCustomers : HotspotTables where
  vouchers :=
    [⟨1, 1, "AAAA-AAAA-AAAA", 2, .used, true, some 0, none, none, none, none, some "C001",
        some "111", 0⟩,
      ⟨2, 1, "BBBB-BBBB-BBBB", 1, .used, true, some 1, none, none, none, none, some "C002",
        some "222", 0⟩]
  purchases := []
  plans := [.hourly, ⟨2, "Long", 5, 5, -1, -1, 60, none, false, none, none, none, none⟩]
  settings := []

/-- With batches of one row no number of runs, on day two, cuts off the customer whose hour has
passed. -/
theorem reconciler_starves :
    ¬ ∃ n, (twoCustomers.reconcileTimes (days 2) 2 1 n).Reconciled (days 2) 2 := by
  rintro ⟨n, hn⟩
  have hstep : twoCustomers.step (.reconcile (days 2) 2 1) = twoCustomers := by decide
  rw [reconcileTimes, exec_replicate hstep] at hn
  exact absurd hn (by decide)

/-- With batches of two rows both are read, and the second one is cut off. -/
theorem reconciles_two : ∃ n, (twoCustomers.reconcileTimes (days 2) 2 2 n).Reconciled (days 2) 2 :=
  (reconciles_iff twoCustomers (by decide) (days 2) 2 2).mpr (by decide)

end HotspotTables

end IspBilling
