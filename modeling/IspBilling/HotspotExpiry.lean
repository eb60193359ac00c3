import IspBilling.HotspotLogin
import IspBilling.Runs
import Mathlib.Data.List.Sort

/-! # The expiry of hotspot access

`process_expired_hotspot_users` (`app/modules/subscriptions/expiry_manager.py`) marks the
vouchers whose access window has passed as `EXPIRED` and cuts their users off; `hotspot_login`
marks a voucher as `EXPIRED` too, but by the deadline before use.  `HotspotTables.step` is one
call of either, at any time.

A call marks rows and does nothing else to them (`step_eq`).  From this follows the exact
condition under which a customer is never cut off early, `never_cut_early_iff`: no login finds
the voucher, or its deadline before use does not come before the end of its access. -/

namespace IspBilling

open Rows Runs

structure HotspotTables where
  vouchers : List VoucherCode
  purchases : List CustomerPurchase
  plans : List ServicePlan
  settings : List OrganizationSettings
deriving DecidableEq, Repr

/-- `voucher.status = VoucherStatus.EXPIRED`. -/
def VoucherCode.expire (v : VoucherCode) : VoucherCode := { v with status := .expired }

namespace HotspotTables

variable (now : ℤ) (gracePeriodMinutes batchSize : ℕ)

/-- The redeemed vouchers with their first use, oldest first. -/
def usedCandidates (db : HotspotTables) : List (VoucherCode × ℤ) :=
  ((db.vouchers.filterMap (fun v =>
    if v.hotspotUsername ≠ none ∧ v.status = .used then v.usedAt.map (fun u => (v, u))
    else none)).insertionSort (fun a b => a.2 ≤ b.2)).take batchSize

/-- The vouchers of completed purchases that were left active. -/
def purchasedCandidates (db : HotspotTables) : List (VoucherCode × ℤ) :=
  (db.vouchers.flatMap (fun v => db.purchases.filterMap (fun p =>
    if p.voucherCodeId = some v.id ∧ v.hotspotUsername ≠ none ∧ v.status = .active ∧
        p.paymentStatus = .completed then
      some (v, p.completedAt.getD v.createdAt)
    else none))).take batchSize

/-- All vouchers that a run of the reconciler looks at. -/
def candidates (db : HotspotTables) : List (VoucherCode × ℤ) :=
  db.usedCandidates batchSize ++ db.purchasedCandidates batchSize

/-- The loop body of the reconciler: the vouchers so far and the users to cut off. -/
def expireCandidate (db : HotspotTables) (acc : List VoucherCode × List (ℕ × String))
    (c : VoucherCode × ℤ) : List VoucherCode × List (ℕ × String) :=
  match c.1.plan? db.plans with
  | none => acc
  | some plan =>
      match plan.accessExpiryFrom c.2
          (some (churnDaysForOrg db.settings (some c.1.organizationId))) with
      | none => acc
      | some expiry =>
          if now ≤ expiry + minutes gracePeriodMinutes then acc
          else
            (updateWhere (fun v => decide (v.id = c.1.id)) VoucherCode.expire acc.1,
              acc.2 ++ [(c.1.organizationId, c.1.hotspotUsername.getD "")])

/-- `process_expired_hotspot_users`: the new tables, and organization and name of every user
that `_expire_hotspot_user_on_router` is called for. -/
def processExpiredHotspotUsers (db : HotspotTables) : HotspotTables × List (ℕ × String) :=
  let (vouchers, cut) :=
    (db.candidates batchSize).foldl (db.expireCandidate now gracePeriodMinutes) (db.vouchers, [])
  ({ db with vouchers := vouchers }, cut)

/-- The vouchers with the given credentials. -/
def findByCredentials (db : HotspotTables) (orgId : ℕ) (username password : String) :
    List VoucherCode :=
  db.vouchers.filter (fun v => decide (v.organizationId = orgId ∧
    v.hotspotUsername = some username ∧ v.hotspotPassword = some password))

/-- A login.  Empty credentials do not pass the schema, credentials that no voucher has are
looked up among the subscriptions, and credentials that several vouchers share make the query
raise; none of these touches a voucher. -/
def login (orgId : ℕ) (username password : String) (delay : ℕ) (db : HotspotTables) :
    HotspotTables :=
  if username = "" ∨ password = "" then db
  else
    match db.findByCredentials orgId username password with
    | [v] =>
        { db with
          vouchers := updateWhere (fun w => decide (w.id = v.id))
            (fun w => (hotspotLogin db.plans now delay w).1) db.vouchers }
    | _ => db

inductive Event where
  | login (now : ℤ) (orgId : ℕ) (username password : String) (delay : ℕ)
  | reconcile (now : ℤ) (gracePeriodMinutes batchSize : ℕ)
deriving DecidableEq, Repr

def Event.time : Event → ℤ
  | .login now .. => now
  | .reconcile now .. => now

def step (db : HotspotTables) : Event → HotspotTables
  | .login now orgId username password delay => db.login now orgId username password delay
  | .reconcile now grace batch => (db.processExpiredHotspotUsers now grace batch).1

/-! ### What a call marks -/

/-- The access window of a candidate has passed, with the grace period. -/
def Due (db : HotspotTables) (c : VoucherCode × ℤ) : Prop :=
  ∃ plan ∈ c.1.plan? db.plans, ∃ e ∈ plan.accessExpiryFrom c.2
    (some (churnDaysForOrg db.settings (some c.1.organizationId))),
    e + minutes gracePeriodMinutes < now

instance (db : HotspotTables) (c : VoucherCode × ℤ) :
    Decidable (db.Due now gracePeriodMinutes c) :=
  inferInstanceAs (Decidable (∃ plan ∈ c.1.plan? db.plans, ∃ e ∈ plan.accessExpiryFrom c.2
    (some (churnDaysForOrg db.settings (some c.1.organizationId))),
    e + minutes gracePeriodMinutes < now))

theorem expireCandidate_eq (db : HotspotTables) (acc : List VoucherCode × List (ℕ × String))
    (c : VoucherCode × ℤ) : db.expireCandidate now gracePeriodMinutes acc c =
      if db.Due now gracePeriodMinutes c then
        (updateWhere (fun v => decide (v.id = c.1.id)) VoucherCode.expire acc.1,
          acc.2 ++ [(c.1.organizationId, c.1.hotspotUsername.getD "")])
      else acc := by
  cases hp : c.1.plan? db.plans with
  | none =>
      have hno : ¬ db.Due now gracePeriodMinutes c := by
        rintro ⟨plan, hplan, _⟩
        rw [hp] at hplan
        cases hplan
      rw [if_neg hno]
      simp only [expireCandidate, hp]
  | some plan =>
      cases he : plan.accessExpiryFrom c.2
          (some (churnDaysForOrg db.settings (some c.1.organizationId))) with
      | none =>
          have hno : ¬ db.Due now gracePeriodMinutes c := by
            rintro ⟨plan', hplan', e, hmem, _⟩
            obtain rfl : plan = plan' := Option.some.inj (hp.symm.trans hplan')
            rw [he] at hmem
            cases hmem
          rw [if_neg hno]
          simp only [expireCandidate, hp, he]
      | some e =>
          have hdue : db.Due now gracePeriodMinutes c ↔ e + minutes gracePeriodMinutes < now := by
            constructor
            · rintro ⟨plan', hplan', e', he', hlt⟩
              obtain rfl : plan = plan' := Option.some.inj (hp.symm.trans hplan')
              obtain rfl : e = e' := Option.some.inj (he.symm.trans he')
              exact hlt
            · intro hlt
              exact ⟨plan, hp, e, he, hlt⟩
          simp only [expireCandidate, hp, he]
          by_cases h : now ≤ e + minutes gracePeriodMinutes
          · rw [if_pos h, if_neg (fun hd => absurd (hdue.mp hd) (not_lt.mpr h))]
          · rw [if_neg h, if_pos (hdue.mpr (not_le.mp h))]

theorem foldl_expireCandidate (db : HotspotTables) (cs : List (VoucherCode × ℤ))
    (acc : List VoucherCode × List (ℕ × String)) :
    cs.foldl (db.expireCandidate now gracePeriodMinutes) acc =
      (updateWhere (fun v => cs.any (fun c => decide (db.Due now gracePeriodMinutes c) &&
          decide (v.id = c.1.id))) VoucherCode.expire acc.1,
        acc.2 ++ (cs.filter (fun c => decide (db.Due now gracePeriodMinutes c))).map
          (fun c => (c.1.organizationId, c.1.hotspotUsername.getD ""))) := by
  induction cs generalizing acc with
  | nil => simp [updateWhere]
  | cons c cs ih =>
      rw [List.foldl_cons, ih, expireCandidate_eq]
      by_cases hdue : db.Due now gracePeriodMinutes c
      · rw [if_pos hdue]
        have hidem : ∀ v : VoucherCode, v.expire.expire = v.expire := fun _ => rfl
        refine Prod.ext ((updateWhere_updateWhere hidem (fun _ => rfl) acc.1).trans ?_)
          (by simp [hdue])
        simp [hdue]
      · rw [if_neg hdue]
        simp [hdue]

/-- What the call `e` marks as expired. -/
def Marks (db : HotspotTables) (v : VoucherCode) : Event → Prop
  | .login now orgId username password _ =>
      ¬ (username = "" ∨ password = "") ∧
        ∃ v₀, db.findByCredentials orgId username password = [v₀] ∧ v.id = v₀.id ∧
          (v.status = .expired ∨ v.PastDeadline now)
  | .reconcile now grace batch =>
      ∃ c ∈ db.candidates batch, db.Due now grace c ∧ v.id = c.1.id

/-- **Inversion**: a call marks some vouchers as expired and changes nothing else. -/
theorem step_eq (db : HotspotTables) (e : Event) : ∃ p : VoucherCode → Bool,
    (∀ v, p v = true ↔ db.Marks v e) ∧
      db.step e = { db with vouchers := updateWhere p VoucherCode.expire db.vouchers } := by
  cases e with
  | login now orgId username password delay =>
      have hskip : (∀ v, ¬ db.Marks v (.login now orgId username password delay)) →
          ∃ p : VoucherCode → Bool, (∀ v, p v = true ↔
            db.Marks v (.login now orgId username password delay)) ∧
            db = { db with vouchers := updateWhere p VoucherCode.expire db.vouchers } := by
        intro h
        exact ⟨fun _ => false, by simpa using h, by simp [updateWhere]⟩
      simp only [step, login]
      split
      · rename_i hempty
        exact hskip (fun v hm => hm.1 hempty)
      · rename_i hne
        split
        · rename_i v₀ hv₀
          refine ⟨fun v => decide (v.id = v₀.id) &&
            decide (v.status = .expired ∨ v.PastDeadline now), ?_, ?_⟩
          · intro v
            simp [Marks, hv₀, hne]
          · congr 1
            apply List.map_congr_left
            intro v _
            by_cases hid : v.id = v₀.id
            · by_cases hexp : v.status = .expired ∨ v.PastDeadline now
              · simp [hid, hexp, hotspotLogin, VoucherCode.expire]
              · simp only [hid, hexp, decide_true, decide_false, Bool.and_false, if_true,
                  hotspotLogin, if_false, Bool.false_eq_true]
                split <;> rfl
            · simp [hid]
        · rename_i hno
          refine hskip ?_
          rintro v ⟨_, v₀, hv₀, _⟩
          exact hno v₀ hv₀
  | reconcile now grace batch =>
      refine ⟨fun v => (db.candidates batch).any (fun c => decide (db.Due now grace c) &&
        decide (v.id = c.1.id)), ?_, ?_⟩
      · intro v
        simp [Marks]
      · simp only [step, processExpiredHotspotUsers, foldl_expireCandidate]

/-! ### Access is not cut early -/

def card (v : VoucherCode) : VoucherCode := { v with status := .active }

theorem of_card_eq {v w : VoucherCode} (h : card w = card v) : w.id = v.id ∧
    w.organizationId = v.organizationId ∧ w.planId = v.planId ∧ w.usedAt = v.usedAt ∧
    w.expiresAt = v.expiresAt := by
  simp only [card, VoucherCode.mk.injEq] at h
  exact ⟨h.1, h.2.1, h.2.2.2.1, h.2.2.2.2.2.2.1, h.2.2.2.2.2.2.2.2.1⟩

/-- The voucher `k` turns expired in this call. -/
def BecomesExpired (k : ℕ) (db : HotspotTables) (e : Event) : Prop :=
  (∃ v ∈ db.vouchers, v.id = k ∧ v.status ≠ .expired) ∧
    ∃ v ∈ (db.step e).vouchers, v.id = k ∧ v.status = .expired

instance (k : ℕ) (db : HotspotTables) (e : Event) : Decidable (db.BecomesExpired k e) :=
  inferInstanceAs (Decidable ((∃ v ∈ db.vouchers, v.id = k ∧ v.status ≠ .expired) ∧
    ∃ v ∈ (db.step e).vouchers, v.id = k ∧ v.status = .expired))

/-- The voucher `k` does not turn expired before `t` has passed. -/
def NotBefore (k : ℕ) (t : ℤ) (db : HotspotTables) (e : Event) : Prop :=
  db.BecomesExpired k e → t < e.time

instance (k : ℕ) (t : ℤ) (db : HotspotTables) (e : Event) : Decidable (NotBefore k t db e) :=
  inferInstanceAs (Decidable (db.BecomesExpired k e → t < e.time))

/-- A state reached from `db₀`: only statuses differ, and `k` is used or expired. -/
structure Follows (db₀ : HotspotTables) (k : ℕ) (db : HotspotTables) : Prop where
  plans : db.plans = db₀.plans
  settings : db.settings = db₀.settings
  cards : db.vouchers.map card = db₀.vouchers.map card
  status : ∀ v ∈ db.vouchers, v.id = k → v.status = .used ∨ v.status = .expired

theorem Follows.step {db₀ db : HotspotTables} {k : ℕ} (h : Follows db₀ k db) (e : Event) :
    Follows db₀ k (db.step e) := by
  obtain ⟨p, _, hstep⟩ := db.step_eq e
  rw [hstep]
  refine ⟨h.plans, h.settings, ?_, ?_⟩
  · rw [← h.cards]
    have hmark : ∀ v : VoucherCode, card v.expire = card v := fun _ => rfl
    exact map_key_updateWhere hmark _
  · intro v hv hk
    obtain ⟨v₀, hv₀, rfl⟩ := mem_updateWhere.mp hv
    split
    · exact Or.inr rfl
    · rename_i hp
      rw [if_neg hp] at hk
      exact h.status v₀ hv₀ hk

/-- Logins find the same voucher in every state of a run. -/
theorem Follows.findByCredentials {db₀ db : HotspotTables} {k : ℕ} (h : Follows db₀ k db)
    (orgId : ℕ) (username password : String) :
    (db.findByCredentials orgId username password).map card =
      (db₀.findByCredentials orgId username password).map card := by
  have hcomm : ∀ t : List VoucherCode,
      (t.filter (fun v => decide (v.organizationId = orgId ∧ v.hotspotUsername = some username ∧
        v.hotspotPassword = some password))).map card =
      (t.map card).filter (fun v => decide (v.organizationId = orgId ∧
        v.hotspotUsername = some username ∧ v.hotspotPassword = some password)) := by
    intro t
    rw [List.filter_map]
    rfl
  rw [HotspotTables.findByCredentials, HotspotTables.findByCredentials, hcomm, hcomm, h.cards]

theorem Follows.keyed {db₀ db : HotspotTables} {k : ℕ} (h : Follows db₀ k db)
    (hkeyed : Keyed VoucherCode.id db₀.vouchers) : Keyed VoucherCode.id db.vouchers := by
  have hids : ∀ t : List VoucherCode, t.map VoucherCode.id = (t.map card).map VoucherCode.id := by
    intro t
    rw [List.map_map]
    rfl
  unfold Keyed at *
  rw [hids, h.cards, ← hids]
  exact hkeyed

/-- The row of a voucher during a run differs from its first row in the status only. -/
theorem Follows.card_eq {db₀ db : HotspotTables} {k : ℕ} (h : Follows db₀ k db)
    (hkeyed : Keyed VoucherCode.id db₀.vouchers) {v w : VoucherCode} (hv : v ∈ db₀.vouchers)
    (hw : w ∈ db.vouchers) (hid : w.id = v.id) : card w = card v := by
  have hmem : card w ∈ db₀.vouchers.map card := h.cards ▸ List.mem_map_of_mem hw
  obtain ⟨v', hv', hcard⟩ := List.mem_map.mp hmem
  have hid' : v'.id = v.id := (of_card_eq hcard).1.trans hid
  rw [← hcard, hkeyed.eq_of_key hv' hv hid']

theorem of_mem_candidates {batch : ℕ} {db : HotspotTables} {c : VoucherCode × ℤ}
    (h : c ∈ db.candidates batch) :
    c.1 ∈ db.vouchers ∧ (c.1.usedAt = some c.2 ∨ c.1.status = .active) := by
  rcases List.mem_append.mp h with h | h
  · have hmem := (List.mem_insertionSort _).mp (List.mem_of_mem_take h)
    obtain ⟨v, hv, hc⟩ := List.mem_filterMap.mp hmem
    split at hc
    · obtain ⟨u, hu, rfl⟩ := Option.map_eq_some_iff.mp hc
      exact ⟨hv, Or.inl hu⟩
    · cases hc
  · obtain ⟨v, hv, hp⟩ := List.mem_flatMap.mp (List.mem_of_mem_take h)
    obtain ⟨p, _, hc⟩ := List.mem_filterMap.mp hp
    split at hc
    · rename_i hcond
      obtain rfl := Option.some.inj hc
      exact ⟨hv, Or.inr hcond.2.2.1⟩
    · cases hc

/-- Some login finds the voucher `v` and no other. -/
def Findable (db : HotspotTables) (v : VoucherCode) : Prop :=
  ∃ username password, ¬ (username = "" ∨ password = "") ∧
    db.findByCredentials v.organizationId username password = [v]

theorem becomesExpired_of_findable {db : HotspotTables} {v : VoucherCode} (hv : v ∈ db.vouchers)
    (hst : v.status = .used) {username password : String} (hne : ¬ (username = "" ∨ password = ""))
    (hfind : db.findByCredentials v.organizationId username password = [v]) {d : ℤ}
    (hd : d ∈ v.expiresAt) :
    db.BecomesExpired v.id (.login (d + 1) v.organizationId username password 0) := by
  have hmarks : db.Marks v (.login (d + 1) v.organizationId username password 0) :=
    ⟨hne, v, hfind, rfl, Or.inr ⟨d, hd, by omega⟩⟩
  obtain ⟨p, hp, hstep⟩ := db.step_eq (.login (d + 1) v.organizationId username password 0)
  refine ⟨⟨v, hv, rfl, by rw [hst]; decide⟩, v.expire, ?_, rfl, rfl⟩
  rw [hstep]
  exact mem_updateWhere.mpr ⟨v, hv, by rw [if_pos ((hp v).mpr hmarks)]⟩

theorem marks_of_becomesExpired {db : HotspotTables} (hkeyed : Keyed VoucherCode.id db.vouchers)
    {k : ℕ} {e : Event} (h : db.BecomesExpired k e) :
    ∃ w ∈ db.vouchers, w.id = k ∧ w.status ≠ .expired ∧ db.Marks w e := by
  obtain ⟨⟨w, hw, hwid, hwne⟩, w', hw', hid', hexp'⟩ := h
  obtain ⟨p, hp, hstep⟩ := db.step_eq e
  rw [hstep] at hw'
  obtain ⟨w₀, hw₀, rfl⟩ := mem_updateWhere.mp hw'
  have hid₀ : w₀.id = w.id := by
    rw [hwid, ← hid']
    split <;> rfl
  obtain rfl := hkeyed.eq_of_key hw₀ hw hid₀
  refine ⟨w₀, hw, hwid, hwne, (hp w₀).mp ?_⟩
  by_contra hno
  rw [if_neg hno] at hexp'
  exact hwne hexp'

theorem Follows.findable_of_login {db db₀ : HotspotTables} {v w : VoucherCode}
    (h : Follows db₀ v.id db) (hkeyed : Keyed VoucherCode.id db₀.vouchers) (hv : v ∈ db₀.vouchers)
    (hwid : w.id = v.id) {now : ℤ} {orgId : ℕ} {username password : String} {delay : ℕ}
    (hm : db.Marks w (.login now orgId username password delay)) : db₀.Findable v := by
  obtain ⟨hne, v₀, hv₀, hid, _⟩ := hm
  have hmap := h.findByCredentials orgId username password
  rw [hv₀, List.map_singleton] at hmap
  obtain ⟨v₁, hv₁, hcard₁⟩ := List.map_eq_singleton_iff.mp hmap.symm
  have hmem : v₁ ∈ db₀.findByCredentials orgId username password := by
    rw [hv₁]
    exact List.mem_singleton_self v₁
  obtain ⟨hv₁mem, hcreds⟩ := List.mem_filter.mp hmem
  have hid₁ : v₁.id = v.id := by
    rw [← hwid, hid]
    exact (of_card_eq hcard₁).1
  obtain rfl := hkeyed.eq_of_key hv₁mem hv hid₁
  have horg₁ : v₁.organizationId = orgId := (of_decide_eq_true hcreds).1
  exact ⟨username, password, hne, horg₁ ▸ hv₁⟩

/-- The reconciler marks a voucher in use only after the end of its access. -/
theorem Follows.lt_of_reconcile {db db₀ : HotspotTables} {v w : VoucherCode}
    (h : Follows db₀ v.id db) (hkeyed : Keyed VoucherCode.id db₀.vouchers) (hv : v ∈ db₀.vouchers)
    (hw : w ∈ db.vouchers) (hwid : w.id = v.id) (hwne : w.status ≠ .expired) {plan : ServicePlan}
    (hplan : v.plan? db₀.plans = some plan) {e : ℤ}
    (he : v.accessExpiry plan (churnDaysForOrg db₀.settings (some v.organizationId)) = some e)
    {now : ℤ} {grace batch : ℕ} (hm : db.Marks w (.reconcile now grace batch)) : e < now := by
  obtain ⟨c, hc, ⟨plan', hplan', e', he', hlt⟩, hid⟩ := hm
  obtain ⟨hcmem, hcuse⟩ := of_mem_candidates hc
  obtain rfl := (h.keyed hkeyed).eq_of_key hcmem hw hid.symm
  obtain ⟨_, horg, hpid, hused, _⟩ := of_card_eq (h.card_eq hkeyed hv hw hwid)
  have hstatus : c.1.status = .used := (h.status c.1 hw hwid).resolve_right hwne
  have hvat : v.usedAt = some c.2 := by
    rw [← hused]
    refine hcuse.resolve_right ?_
    rw [hstatus]
    decide
  have hsame : plan = plan' := by
    have hlook : c.1.plan? db.plans = v.plan? db₀.plans := by
      rw [VoucherCode.plan?, VoucherCode.plan?, h.plans, hpid]
    exact Option.some.inj (hplan.symm.trans (hlook.symm.trans hplan'))
  subst hsame
  rw [VoucherCode.accessExpiry, hvat, Option.bind_some] at he
  rw [h.settings, horg, he] at he'
  obtain rfl := Option.mem_some_iff.mp he'
  have hgrace : 0 ≤ minutes grace := minutes_nonneg (by omega)
  omega

/-- **When paid access is never cut early**: for a voucher in use whose access ends at `e`, in
every sequence of logins and runs of the reconciler the voucher turns expired only after `e`
if and only if no login finds it or its deadline before use, where set, is not before `e`. -/
theorem never_cut_early_iff (db : HotspotTables) (hkeyed : Keyed VoucherCode.id db.vouchers)
    (v : VoucherCode) (hv : v ∈ db.vouchers) (hst : v.status = .used) (plan : ServicePlan)
    (hplan : v.plan? db.plans = some plan) (e : ℤ)
    (he : v.accessExpiry plan (churnDaysForOrg db.settings (some v.organizationId)) = some e) :
    (∀ es, Along step (NotBefore v.id e) db es) ↔
      (db.Findable v → ∀ d ∈ v.expiresAt, e ≤ d) := by
  constructor
  · rintro h ⟨username, password, hne, hfind⟩ d hd
    by_contra hlt
    -- the first login after the deadline comes too early
    have hlate : e < d + 1 := (h [.login (d + 1) v.organizationId username password 0]).1
      (becomesExpired_of_findable hv hst hne hfind hd)
    omega
  · intro hcond es
    refine along_of_invariant (I := Follows db v.id) (fun s ev h => h.step ev) ?_ ?_
    · intro s ev hs hbecomes
      obtain ⟨w, hw, hwid, hwne, hm⟩ := marks_of_becomesExpired (hs.keyed hkeyed) hbecomes
      cases ev with
      | login now orgId username password delay =>
          have hfindable := hs.findable_of_login hkeyed hv hwid hm
          obtain ⟨_, _, _, _, hpast⟩ := hm
          obtain ⟨d, hd, hlt⟩ := hpast.resolve_left hwne
          obtain ⟨_, _, _, _, hexpires⟩ := of_card_eq (hs.card_eq hkeyed hv hw hwid)
          exact lt_of_le_of_lt (hcond hfindable d (hexpires ▸ hd)) hlt
      | reconcile now grace batch => exact hs.lt_of_reconcile hkeyed hv hw hwid hwne hplan he hm
    · refine ⟨rfl, rfl, rfl, ?_⟩
      intro w hw hwid
      exact Or.inl (hkeyed.eq_of_key hw hv hwid ▸ hst)

/-- A monthly package bought online at time `0`, with its deadline before use after thirty
days. -/
def monthlyVoucher : VoucherCode :=
  ⟨7, 1, "AAAA-BBBB-CCCC", 2, .used, true, some 0, none, some (days 30), none, some 90000,
    some "C001", some "123", 0⟩

/-- The only voucher of the tables, with a plan of `n` days. -/
def oneVoucher (n : ℤ) : HotspotTables :=
  ⟨[monthlyVoucher], [], [⟨2, "Long", 5, 5, -1, -1, n, none, false, none, none, none, none⟩], []⟩

/-- The access of `oneVoucher 60` lasts sixty days, but a login on day 31 ends it. -/
theorem login_cuts_early :
    (oneVoucher 60).plans.map (fun p => monthlyVoucher.accessExpiry p (churnDaysForOrg [] (some 1))) =
        [some (days 60)] ∧
      ¬ Along step (NotBefore 7 (days 60)) (oneVoucher 60)
        [.login (days 31) 1 "C001" "123" 0] := by
  decide

/-- A package of a week is not cut early by any sequence of calls. -/
theorem never_cut_early_week :
    (∀ es, Along step (NotBefore 7 (days 7)) (oneVoucher 7) es) ↔
      ((oneVoucher 7).Findable monthlyVoucher → ∀ d ∈ monthlyVoucher.expiresAt, days 7 ≤ d) :=
  never_cut_early_iff (oneVoucher 7) (by decide) monthlyVoucher (by decide) rfl _ rfl (days 7)
    (by decide)

end HotspotTables

end IspBilling
