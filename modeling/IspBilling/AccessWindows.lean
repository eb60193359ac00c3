import IspBilling.HotspotLogin

/-! # Five ways to end an access

The end of a hotspot customer's access is computed in five places: the session of `redeem_voucher`,
the session of `hotspot_login`, the `expiry_at` of the subscriber event, the `expires_at` that the
dashboard bridge stores (all in `app/api/v1/portal/hotspot.py`), and `access_expiry_from`, by which
the expiry reconciler cuts the customer off.

Three of them add `access_window_hours` to the clock, also when the plan has no finite window.  The
login prefers the deadline before use of the voucher, and its own window does not know
`duration_minutes`.  `paidMinutes` is the window that the columns of the plan promise, and
`access_windows_agree_iff` states in these columns when the five places name one instant. -/

namespace IspBilling

namespace ServicePlan

variable (p : ServicePlan)

/-! ### The five places -/

/-- The session expiry of `redeem_voucher` at `u`, which it also hands to the dashboard bridge. -/
def redeemExpiry (u : ℤ) : ℤ := u + p.accessWindow

/-- The session expiry of `hotspot_login` at `u`, for a voucher with the deadline before use. -/
def loginExpiry (deadline : Option ℤ) (u : ℤ) : ℤ := deadline.getD (u + hours p.loginWindowHours)

/-- The `expiry_at` of the subscriber event of `_process_successful_payment` at `u`. -/
def eventExpiry (u : ℤ) : ℤ := u + p.accessWindow

/-- The `expires_at` that `_process_successful_payment` hands to the dashboard bridge at `u`. -/
def bridgeExpiry (u : ℤ) : ℤ := u + p.accessWindow

/-- The five places name one instant. -/
def AccessWindowsAgree (deadline : Option ℤ) (u : ℤ) (churnDays : Option ℤ) : Prop :=
  ∃ e, p.accessExpiryFrom u churnDays = some e ∧ p.redeemExpiry u = e ∧
    p.loginExpiry deadline u = e ∧ p.eventExpiry u = e ∧ p.bridgeExpiry u = e

instance (deadline : Option ℤ) (u : ℤ) (churnDays : Option ℤ) :
    Decidable (p.AccessWindowsAgree deadline u churnDays) :=
  match h : p.accessExpiryFrom u churnDays with
  | none => isFalse (by rintro ⟨e, he, _⟩; rw [h] at he; cases he)
  | some e => decidable_of_iff (p.redeemExpiry u = e ∧ p.loginExpiry deadline u = e ∧
      p.eventExpiry u = e ∧ p.bridgeExpiry u = e)
      ⟨fun hall => ⟨e, h, hall⟩,
        fun ⟨x, hx, hall⟩ => by rw [h] at hx; cases hx; exact hall⟩

theorem hotspotLogin_expiresAt {plans : List ServicePlan} {now : ℤ} {delay : ℕ} {v : VoucherCode}
    (h : (hotspotLogin plans now delay v).2.success = true) : ∃ plan, v.plan? plans = some plan ∧
      (hotspotLogin plans now delay v).2.expiresAt =
        some (plan.loginExpiry v.expiresAt (now + delay)) := by
  obtain ⟨_, _, plan, hplan, hend⟩ := hotspotLogin_success_iff.mp h
  exact ⟨plan, hplan, hend⟩

/-! ### What the plan promises -/

/-- The calendar window in minutes: `validity_days` and `time_limit`, whichever is set, and the
shorter one when both are. -/
def calendarMinutes : Option ℤ :=
  if 0 < p.validityDays then
    if 0 < p.timeLimit then some (min (p.validityDays * 1440) (p.timeLimit * 60))
    else some (p.validityDays * 1440)
  else if 0 < p.timeLimit then some (p.timeLimit * 60)
  else none

/-- The window in minutes that the columns promise: `duration_minutes` when set, otherwise the
calendar window. -/
def paidMinutes : Option ℤ :=
  if 0 < p.durationMinutes.getD 0 then p.durationMinutes else p.calendarMinutes

/-- The window of the login is the promised one: without `duration_minutes` there are
`validity_days`; with it they come, capped by `time_limit`, to the same time. -/
def LoginMeets (m : ℤ) : Prop :=
  if 0 < p.durationMinutes.getD 0 then
    m = if 0 < p.timeLimit then min (p.validityDays * 1440) (p.timeLimit * 60)
      else p.validityDays * 1440
  else 0 < p.validityDays

/-- The plan promises a finite window; a deadline before use falls on its end, and without one the
window of the login is the promised one. -/
def PromisesOneWindow (deadline : Option ℤ) (u : ℤ) : Prop :=
  ∃ m, p.paidMinutes = some m ∧
    match deadline with
    | some d => d = u + minutes m
    | none => p.LoginMeets m

theorem calendarMinutes_eq : p.calendarMinutes =
    if 0 < p.legacyWindowHours * 60 then some (p.legacyWindowHours * 60) else none := by
  unfold calendarMinutes legacyWindowHours
  by_cases hv : 0 < p.validityDays
  · have hpos : 0 < p.validityDays * 24 := by omega
    by_cases ht : 0 < p.timeLimit
    · have hmin : min (p.validityDays * 24) p.timeLimit * 60 =
          min (p.validityDays * 1440) (p.timeLimit * 60) := by omega
      have hpos' : 0 < min (p.validityDays * 1440) (p.timeLimit * 60) := by omega
      simp only [hv, ht, hpos, hmin, hpos', ite_true]
    · have heq : p.validityDays * 24 * 60 = p.validityDays * 1440 := by ring
      have hpos' : 0 < p.validityDays * 1440 := by omega
      simp only [hv, ht, heq, hpos', ite_true, ite_false]
  · have hnpos : ¬ 0 < p.validityDays * 24 := by omega
    by_cases ht : 0 < p.timeLimit
    · have hpos' : 0 < p.timeLimit * 60 := by omega
      simp only [hv, ht, hnpos, hpos', ite_true, ite_false]
    · have hnpos' : ¬ 0 < p.validityDays * 24 * 60 := by omega
      simp only [hv, ht, hnpos', ite_false]

/-- **The helper of the plan keeps the promise**: `access_window_hours` is positive exactly when the
columns promise a window, and is then that window. -/
theorem paidMinutes_eq : p.paidMinutes =
    if 0 < p.accessWindowMinutes then some p.accessWindowMinutes else none := by
  unfold paidMinutes accessWindowMinutes
  cases hd : p.durationMinutes with
  | none => simpa using p.calendarMinutes_eq
  | some m =>
      by_cases hm : 0 < m
      · simp [hm]
      · simpa [hm] using p.calendarMinutes_eq

/-- A finite window has an end; otherwise the reconciler waits for the churn window or for ever. -/
theorem accessExpiryFrom_eq_iff {u e : ℤ} {churnDays : Option ℤ} (he : e = u + p.accessWindow) :
    p.accessExpiryFrom u churnDays = some e ↔ 0 < p.accessWindowMinutes := by
  constructor
  · intro h
    by_contra hw
    have hlt := p.lt_accessExpiryFrom h
    have hnonpos : p.accessWindow ≤ 0 := by
      unfold accessWindow minutes seconds
      omega
    omega
  · intro hw
    unfold accessExpiryFrom
    rw [if_pos hw, he]

theorem loginWindow_eq_iff {m : ℤ} (h : p.paidMinutes = some m) :
    hours p.loginWindowHours = minutes m ↔ p.LoginMeets m := by
  have hscale : hours p.loginWindowHours = minutes m ↔ p.loginWindowHours * 60 = m := by
    unfold hours minutes seconds
    omega
  rw [hscale]
  unfold LoginMeets loginWindowHours
  by_cases hd : 0 < p.durationMinutes.getD 0
  · rw [if_pos hd]
    by_cases ht : 0 < p.timeLimit
    · simp only [ht, ite_true]
      omega
    · simp only [ht, ite_false]
      omega
  · rw [if_neg hd]
    rw [paidMinutes, if_neg hd] at h
    unfold calendarMinutes at h
    by_cases hv : 0 < p.validityDays
    · by_cases ht : 0 < p.timeLimit
      · simp only [hv, ht, ite_true, Option.some.injEq, iff_true] at h ⊢
        omega
      · simp only [hv, ht, ite_true, ite_false, Option.some.injEq, iff_true] at h ⊢
        omega
    · -- the plan has a time limit only, and the login opens an empty window
      by_cases ht : 0 < p.timeLimit
      · simp only [hv, ht, ite_true, ite_false, Option.some.injEq, iff_false] at h ⊢
        omega
      · simp only [hv, ht, ite_false, reduceCtorEq] at h

/-- **When the access windows agree**: for every plan, voucher deadline, activation time and churn
window, the five places name one instant exactly when the plan promises a finite window and the
login meets it: the deadline of the voucher falls on its end, or there is no deadline and the window
of the login is the promised one. -/
theorem access_windows_agree_iff (deadline : Option ℤ) (u : ℤ) (churnDays : Option ℤ) :
    p.AccessWindowsAgree deadline u churnDays ↔ p.PromisesOneWindow deadline u := by
  have hagree : p.AccessWindowsAgree deadline u churnDays ↔
      0 < p.accessWindowMinutes ∧ p.loginExpiry deadline u = u + p.accessWindow := by
    constructor
    · rintro ⟨e, he, hredeem, hlogin, _, _⟩
      have heq : e = u + p.accessWindow := hredeem.symm
      exact ⟨(p.accessExpiryFrom_eq_iff heq).mp he, hlogin.trans heq⟩
    · rintro ⟨hw, hlogin⟩
      exact ⟨_, (p.accessExpiryFrom_eq_iff rfl).mpr hw, rfl, hlogin, rfl, rfl⟩
  rw [hagree, PromisesOneWindow, p.paidMinutes_eq]
  by_cases hw : 0 < p.accessWindowMinutes
  · simp only [hw, true_and, ite_true, Option.some.injEq, exists_eq_left']
    cases deadline with
    | some d => exact Iff.rfl
    | none =>
        have hpaid : p.paidMinutes = some p.accessWindowMinutes := by
          rw [p.paidMinutes_eq, if_pos hw]
        rw [← p.loginWindow_eq_iff hpaid]
        exact add_right_inj u
  · simp [hw]

/-- The package of half an hour: `duration_minutes` is 30, and the calendar window one day. -/
def halfHour : ServicePlan :=
  ⟨2, "30 minutes", 5, 5, -1, 0, 1, some 30, false, none, none, none, none⟩

/-- A voucher for half an hour gets a day from the login. -/
theorem login_outlasts_half_hour :
    ¬ halfHour.AccessWindowsAgree none 0 (some 14) ∧
      halfHour.loginExpiry none 0 = days 1 ∧
      halfHour.accessExpiryFrom 0 (some 14) = some (minutes 30) := by
  decide

end ServicePlan

end IspBilling
