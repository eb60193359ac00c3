import IspBilling.Voucher

/-! # The captive login

The voucher branch of `hotspot_login` (`app/api/v1/portal/hotspot.py`): a returning customer
whose credentials match a voucher is refused when the voucher is expired or past its deadline
before use, and otherwise gets a session that ends at that deadline, or after a window that
the login computes from `validity_days` and `time_limit` on its own.

The expiry reconciler ends the access of the same voucher at `VoucherCode.accessExpiry`.
`hotspotLogin_grantsPaidTime_iff` states for which vouchers and login times the two agree. -/

namespace IspBilling

/-- `HotspotLoginResponse`, without the token and the redirect. -/
structure HotspotLoginResponse where
  success : Bool
  message : String
  planName : Option String
  expiresAt : Option ℤ
  isActive : Bool
deriving DecidableEq, Repr

/-- The window of a login session, in hours. -/
def ServicePlan.loginWindowHours (p : ServicePlan) : ℤ :=
  let validityHours := p.validityDays * 24
  if 0 < p.timeLimit then min validityHours p.timeLimit else validityHours

def VoucherCode.plan? (plans : List ServicePlan) (v : VoucherCode) : Option ServicePlan :=
  plans.find? (fun p => decide (p.id = v.planId))

/-- `hotspot_login` on the voucher with the customer's credentials: the row after the request
and the answer.  `now` is the clock at the expiry check, `delay` the time until the session is
created. -/
def hotspotLogin (plans : List ServicePlan) (now : ℤ) (delay : ℕ) (v : VoucherCode) :
    VoucherCode × HotspotLoginResponse :=
  if v.status = .expired ∨ v.PastDeadline now then
    ({ v with status := .expired },
      ⟨false, "Your package has expired. Please purchase a new package.", none, none, false⟩)
  else
    match v.plan? plans with
    | none => (v, ⟨false, "Associated package not found.", none, none, false⟩)
    | some plan =>
        let expiresAt := v.expiresAt.getD (now + delay + hours plan.loginWindowHours)
        (v, ⟨true, "Connected successfully.", some plan.name, some expiresAt, true⟩)

/-- A login succeeds exactly for a voucher that is not expired, before its deadline, with its
plan; it ends at the deadline, or else after the window of the login. -/
theorem hotspotLogin_success_iff {plans : List ServicePlan} {now : ℤ} {delay : ℕ}
    {v : VoucherCode} : (hotspotLogin plans now delay v).2.success = true ↔
      v.status ≠ .expired ∧ ¬ v.PastDeadline now ∧ ∃ plan, v.plan? plans = some plan ∧
        (hotspotLogin plans now delay v).2.expiresAt =
          some (v.expiresAt.getD (now + delay + hours plan.loginWindowHours)) := by
  unfold hotspotLogin
  by_cases h : v.status = .expired ∨ v.PastDeadline now
  · rw [if_pos h]
    constructor
    · intro hs
      cases hs
    · rintro ⟨hst, hdl, _⟩
      exact absurd h (not_or.mpr ⟨hst, hdl⟩)
  · rw [if_neg h]
    obtain ⟨hst, hdl⟩ := not_or.mp h
    cases v.plan? plans with
    | none => simp
    | some plan => simp [hst, hdl]

/-- Only paid time is granted: a successful login has a status that grants access, happens
before the access expiry of the voucher and ends before it. -/
def GrantsPaidTime (plans : List ServicePlan) (churnDays : ℤ) (now : ℤ) (v : VoucherCode)
    (answer : HotspotLoginResponse) : Prop :=
  answer.success = true → v.status ≠ .cancelled ∧ v.status ≠ .expired ∧
    ∀ plan ∈ v.plan? plans, ∀ e ∈ v.accessExpiry plan churnDays,
      now ≤ e ∧ ∀ x ∈ answer.expiresAt, x ≤ e

instance (plans : List ServicePlan) (churnDays now : ℤ) (v : VoucherCode)
    (answer : HotspotLoginResponse) : Decidable (GrantsPaidTime plans churnDays now v answer) :=
  inferInstanceAs (Decidable (answer.success = true → v.status ≠ .cancelled ∧
    v.status ≠ .expired ∧ ∀ plan ∈ v.plan? plans, ∀ e ∈ v.accessExpiry plan churnDays,
      now ≤ e ∧ ∀ x ∈ answer.expiresAt, x ≤ e))

/-- The deadlines agree: the deadline before use does not outlast the access, and where there is
none, the access covers the window that a login at `now` opens. -/
def DeadlinesAgree (plans : List ServicePlan) (churnDays : ℤ) (now : ℤ) (delay : ℕ)
    (v : VoucherCode) : Prop :=
  ∀ plan ∈ v.plan? plans, ∀ e ∈ v.accessExpiry plan churnDays,
    (∀ d ∈ v.expiresAt, d ≤ e) ∧
      (v.expiresAt = none → now ≤ e ∧ now + delay + hours plan.loginWindowHours ≤ e)

theorem hotspotLogin_success_iff_not_refused {plans : List ServicePlan} {now : ℤ} {delay : ℕ}
    {v : VoucherCode} : (hotspotLogin plans now delay v).2.success = true ↔
      ¬ (v.status = .expired ∨ v.PastDeadline now ∨ v.plan? plans = none) := by
  rw [hotspotLogin_success_iff, not_or, not_or]
  constructor
  · rintro ⟨hst, hdl, plan, hplan, _⟩
    exact ⟨hst, hdl, by simp [hplan]⟩
  · rintro ⟨hst, hdl, hplan⟩
    obtain ⟨plan, hplan⟩ := Option.ne_none_iff_exists'.mp hplan
    exact ⟨hst, hdl, plan, hplan, by simp [hotspotLogin, hst, hdl, hplan]⟩

theorem grantsPaidTime_iff_of_success {plans : List ServicePlan} {churn now : ℤ} {delay : ℕ}
    {v : VoucherCode} (hs : (hotspotLogin plans now delay v).2.success = true) :
    GrantsPaidTime plans churn now v (hotspotLogin plans now delay v).2 ↔
      v.status ≠ .cancelled ∧ DeadlinesAgree plans churn now delay v := by
  obtain ⟨hst, hdl, plan, hplan, hend⟩ := hotspotLogin_success_iff.mp hs
  constructor
  · intro h
    obtain ⟨hcan, _, hpaid⟩ := h hs
    refine ⟨hcan, ?_⟩
    intro plan' hplan' e he
    obtain rfl : plan = plan' := Option.some.inj (hplan.symm.trans hplan')
    obtain ⟨hnow, hx⟩ := hpaid plan hplan e he
    have hle := hx _ hend
    constructor
    · intro d hd
      rw [Option.mem_def.mp hd] at hle
      exact hle
    · intro hnone
      rw [hnone] at hle
      exact ⟨hnow, hle⟩
  · rintro ⟨hcan, hagree⟩ _
    refine ⟨hcan, hst, ?_⟩
    intro plan' hplan' e he
    obtain rfl : plan = plan' := Option.some.inj (hplan.symm.trans hplan')
    obtain ⟨hd, hnone⟩ := hagree plan hplan e he
    rw [hend]
    cases hexp : v.expiresAt with
    | none =>
        obtain ⟨hnow, hwin⟩ := hnone hexp
        refine ⟨hnow, ?_⟩
        intro x hx
        obtain rfl := Option.mem_some_iff.mp hx
        exact hwin
    | some d =>
        have hde := hd d hexp
        have hnd : now ≤ d := by
          by_contra hlt
          exact hdl ⟨d, hexp, not_le.mp hlt⟩
        refine ⟨hnd.trans hde, ?_⟩
        intro x hx
        obtain rfl := Option.mem_some_iff.mp hx
        exact hde

/-- **When a login grants only paid time**: exactly when it is refused (the voucher is expired,
past its deadline or without plan), or the voucher is not cancelled and its deadlines agree. -/
theorem hotspotLogin_grantsPaidTime_iff (plans : List ServicePlan)
    (settings : List OrganizationSettings) (now : ℤ) (delay : ℕ) (v : VoucherCode) :
    GrantsPaidTime plans (churnDaysForOrg settings (some v.organizationId)) now v
        (hotspotLogin plans now delay v).2 ↔
      (v.status = .expired ∨ v.PastDeadline now ∨ v.plan? plans = none) ∨
        (v.status ≠ .cancelled ∧
          DeadlinesAgree plans (churnDaysForOrg settings (some v.organizationId)) now delay v) := by
  by_cases hs : (hotspotLogin plans now delay v).2.success = true
  · rw [grantsPaidTime_iff_of_success hs, or_iff_right (hotspotLogin_success_iff_not_refused.mp hs)]
  · -- a refused login grants nothing
    have hrefused := not_not.mp (mt hotspotLogin_success_iff_not_refused.mpr hs)
    exact iff_of_true (fun h => absurd h hs) (Or.inl hrefused)

/-- A one-hour package bought online at time `0`: the deadline before use is a month away. -/
def boughtVoucher : VoucherCode :=
  ⟨7, 1, "AAAA-BBBB-CCCC", 1, .used, true, some 0, none, some (days 30), none, some 5000,
    some "C001", some "123", 0⟩

/-- Two hours after the purchase of one hour the login still succeeds, with a session that ends
after thirty days; and a cancelled voucher logs in as well. -/
theorem hotspotLogin_extends_paid_time :
    ¬ GrantsPaidTime [.hourly] (churnDaysForOrg [] (some 1)) (hours 2) boughtVoucher
        (hotspotLogin [.hourly] (hours 2) 0 boughtVoucher).2 ∧
      ¬ GrantsPaidTime [.hourly] (churnDaysForOrg [] (some 1)) 0
        { boughtVoucher with status := .cancelled }
        (hotspotLogin [.hourly] 0 0 { boughtVoucher with status := .cancelled }).2 := by
  decide

end IspBilling
