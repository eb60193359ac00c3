import IspBilling.Voucher

/-! # The units of a plan's limits

`data_limit` is in gigabytes and `time_limit` in hours (`app/models/plan.py`); every module that
passes the limits on converts them by itself.  `_calculate_data_limit`
(`app/modules/subscriptions/router_sync.py`) and the hotspot provisioning
(`app/api/v1/portal/hotspot.py`) scale gigabytes, the PPPoE renewal (`app/api/v1/portal/pppoe.py`)
and the voucher listing (`app/api/v1/business/vouchers.py`) scale megabytes, and the listing shows
the hours as seconds.

`gigabyte_paths_agree` is about the first two; `limits_lose_unit` shows that no plan with a limit
gets the same limit from all of them. -/

namespace IspBilling

/-- `VoucherListItem`, without the batch. -/
structure VoucherListItem where
  id : ℕ
  code : String
  status : VoucherStatus
  planId : ℕ
  planName : Option String
  organizationId : ℕ
  hotspotUsername : Option String
  hotspotPassword : Option String
  dataLimitBytes : Option ℤ
  timeLimitSeconds : Option ℤ
  bandwidthLimit : Option String
  usedAt : Option ℤ
  expiresAt : Option ℤ
  createdAt : ℤ
deriving DecidableEq, Repr

namespace ServicePlan

variable (p : ServicePlan)

/-- `is_unlimited_data`. -/
def isUnlimitedData : Bool := decide (p.dataLimit = -1)

/-- The data limit scaled by a unit, when there is one. -/
def scaledDataLimit (unit : ℤ) : Option ℤ :=
  if 0 < p.dataLimit ∧ p.isUnlimitedData = false then some (p.dataLimit * unit) else none

/-- `_calculate_data_limit`. -/
def calculateDataLimit : Option String :=
  if p.dataLimit ≠ 0 ∧ 0 < p.dataLimit then some (toString (p.dataLimit * 1024 * 1024 * 1024))
  else none

/-- The `limit_bytes` that `_sync_hotspot_user_to_router` queues for the agent. -/
def agentLimitBytes : String :=
  if p.dataLimit ≠ 0 ∧ 0 < p.dataLimit ∧ p.isUnlimitedData = false then
    toString (p.dataLimit * 1024 * 1024 * 1024)
  else ""

/-- The `limit-bytes-total` that `_sync_hotspot_user_to_router` passes to the router's API. -/
def hotspotDataLimitBytes : Option ℤ := p.scaledDataLimit (1024 * 1024 * 1024)

/-- The `limit-bytes-total` of `_process_pppoe_subscription_renewal`. -/
def pppoeDataLimitBytes : Option ℤ := (p.scaledDataLimit (1024 * 1024)).filter (fun b => b ≠ 0)

end ServicePlan

/-- `_to_list_item`. -/
def toListItem (v : VoucherCode) (plan : Option ServicePlan) : VoucherListItem where
  id := v.id
  code := v.code
  status := v.status
  planId := v.planId
  planName := plan.map ServicePlan.name
  organizationId := v.organizationId
  hotspotUsername := v.hotspotUsername
  hotspotPassword := v.hotspotPassword
  dataLimitBytes := plan.bind (fun p =>
    if p.dataLimit ≠ 0 ∧ 0 < p.dataLimit then some (p.dataLimit * 1024 * 1024) else none)
  timeLimitSeconds := plan.bind (fun p =>
    if p.timeLimit ≠ 0 ∧ 0 < p.timeLimit then some p.timeLimit else none)
  bandwidthLimit := plan.bind (fun p =>
    if p.downloadSpeed ≠ 0 then some (toString p.downloadSpeed ++ "/" ++ toString p.uploadSpeed)
    else none)
  usedAt := v.usedAt
  expiresAt := v.expiresAt
  createdAt := v.createdAt

namespace ServicePlan

variable (p : ServicePlan)

/-! ### What the columns mean -/

def byteLimit : Option ℤ := if 0 < p.dataLimit then some (p.dataLimit * 2 ^ 30) else none

def secondLimit : Option ℤ := if 0 < p.timeLimit then some (p.timeLimit * 3600) else none

/-- All paths pass on the limits that the columns mean. -/
structure LimitsKeepUnit (v : VoucherCode) : Prop where
  sync : p.calculateDataLimit = p.byteLimit.map toString
  agent : p.agentLimitBytes = (p.byteLimit.map toString).getD ""
  hotspot : p.hotspotDataLimitBytes = p.byteLimit
  pppoe : p.pppoeDataLimitBytes = p.byteLimit
  listed : (toListItem v (some p)).dataLimitBytes = p.byteLimit
  shown : (toListItem v (some p)).timeLimitSeconds = p.secondLimit

theorem isUnlimitedData_of_pos (h : 0 < p.dataLimit) : p.isUnlimitedData = false := by
  have hne : p.dataLimit ≠ -1 := by omega
  exact decide_eq_false hne

theorem scaledDataLimit_of_pos (h : 0 < p.dataLimit) (unit : ℤ) :
    p.scaledDataLimit unit = some (p.dataLimit * unit) :=
  if_pos ⟨h, p.isUnlimitedData_of_pos h⟩

/-- The router sync and the hotspot provisioning keep the unit. -/
theorem gigabyte_paths_agree : p.calculateDataLimit = p.byteLimit.map toString ∧
    p.agentLimitBytes = (p.byteLimit.map toString).getD "" ∧
    p.hotspotDataLimitBytes = p.byteLimit := by
  unfold calculateDataLimit agentLimitBytes hotspotDataLimitBytes byteLimit
  by_cases h : 0 < p.dataLimit
  · have hne : p.dataLimit ≠ 0 := by omega
    have hscale : p.dataLimit * 1024 * 1024 * 1024 = p.dataLimit * 2 ^ 30 := by ring
    rw [p.scaledDataLimit_of_pos h]
    simp only [h, hne, p.isUnlimitedData_of_pos h, ne_eq, not_false_eq_true, and_self, ite_true,
      Option.map_some, Option.getD_some, hscale, true_and, Option.some.injEq]
    ring
  · simp [scaledDataLimit, h]

theorem pppoe_ne_byteLimit (h : 0 < p.dataLimit) : p.pppoeDataLimitBytes ≠ p.byteLimit := by
  have hne : p.dataLimit * (1024 * 1024) ≠ 0 := by omega
  rw [pppoeDataLimitBytes, p.scaledDataLimit_of_pos h, byteLimit, if_pos h,
    Option.filter_some_pos (by simpa using hne)]
  intro heq
  have := Option.some.inj heq
  omega

theorem shown_ne_secondLimit (v : VoucherCode) (h : 0 < p.timeLimit) :
    (toListItem v (some p)).timeLimitSeconds ≠ p.secondLimit := by
  have hne : p.timeLimit ≠ 0 := by omega
  have hshown : (toListItem v (some p)).timeLimitSeconds = some p.timeLimit :=
    if_pos ⟨hne, h⟩
  rw [hshown, secondLimit, if_pos h]
  intro heq
  have := Option.some.inj heq
  omega

/-- **No limit keeps its unit everywhere**: for every plan with a data limit or a time limit, and
every voucher for it, some path passes on another limit than the columns mean. -/
theorem limits_lose_unit (v : VoucherCode) (h : 0 < p.dataLimit ∨ 0 < p.timeLimit) :
    ¬ p.LimitsKeepUnit v := by
  intro hkeep
  rcases h with hdata | htime
  · exact p.pppoe_ne_byteLimit hdata hkeep.pppoe
  · exact p.shown_ne_secondLimit v htime hkeep.shown

/-- A package of two gigabytes. -/
def twoGigabytes : ServicePlan :=
  ⟨3, "2 GB", 5, 5, 2, -1, 30, none, false, none, none, none, none⟩

/-- An unused voucher for the package. -/
def twoGigabytesVoucher : VoucherCode :=
  ⟨1, 1, "AAAA-BBBB-CCCC", 3, .active, false, none, none, none, none, none, none, none, 0⟩

/-- Two gigabytes are two megabytes after a PPPoE renewal. -/
theorem renewal_shrinks_gigabytes :
    twoGigabytes.pppoeDataLimitBytes = some (2 * 2 ^ 20) ∧
      twoGigabytes.byteLimit = some (2 * 2 ^ 30) ∧
      ¬ twoGigabytes.LimitsKeepUnit twoGigabytesVoucher := by
  have hpppoe : twoGigabytes.pppoeDataLimitBytes = some (2 * 2 ^ 20) := by decide
  have hmeant : twoGigabytes.byteLimit = some (2 * 2 ^ 30) := by decide
  refine ⟨hpppoe, hmeant, ?_⟩
  intro hkeep
  have := Option.some.inj (hpppoe.symm.trans (hkeep.pppoe.trans hmeant))
  omega

/-- The plan has a data limit, so the statement is about it. -/
theorem limits_lose_unit_twoGigabytes :
    0 < twoGigabytes.dataLimit ∧ ¬ twoGigabytes.LimitsKeepUnit twoGigabytesVoucher :=
  ⟨by decide, limits_lose_unit twoGigabytes twoGigabytesVoucher (Or.inl (by decide))⟩

end ServicePlan

end IspBilling
