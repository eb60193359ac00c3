import Mathlib.Algebra.Order.Ring.Int
import Mathlib.Tactic.Ring

/-! # Service plans and their access window

Instants and durations are integers that count microseconds, the resolution of the `datetime`
values of the source, on the naive UTC axis of `datetime.utcnow()`.

`ServicePlan.accessWindowMinutes` is `ServicePlan.access_window_hours` (`app/models/plan.py`)
read in minutes: every branch of the source yields a whole number of minutes, and the only
callers pass the result through `timedelta(hours=…)`, which rounds the quotient
`duration_minutes / 60.0` back to that number of minutes.  `accessExpiryFrom` is the single
source of truth for the end of a hotspot customer's access. -/

namespace IspBilling

/-- `timedelta(seconds=n)`. -/
def seconds (n : ℤ) : ℤ := n * 1000000
/-- `timedelta(minutes=n)`. -/
def minutes (n : ℤ) : ℤ := seconds (n * 60)
/-- `timedelta(hours=n)`. -/
def hours (n : ℤ) : ℤ := minutes (n * 60)
/-- `timedelta(days=n)`. -/
def days (n : ℤ) : ℤ := hours (n * 24)

theorem minutes_pos {a : ℤ} (h : 0 < a) : 0 < minutes a := by
  unfold minutes seconds; omega

theorem minutes_nonneg {a : ℤ} (h : 0 ≤ a) : 0 ≤ minutes a := by
  unfold minutes seconds; omega

theorem days_pos {a : ℤ} (h : 0 < a) : 0 < days a := by
  unfold days hours minutes seconds; omega

/-- The columns of `service_plans` that provisioning and expiry read. -/
structure ServicePlan where
  id : ℕ
  name : String
  downloadSpeed : ℤ
  uploadSpeed : ℤ
  /-- GB, `-1` for unlimited. -/
  dataLimit : ℤ
  /-- Hours, `-1` for unlimited. -/
  timeLimit : ℤ
  validityDays : ℤ
  durationMinutes : Option ℤ
  enableBurst : Bool
  burstDownload : Option ℤ
  burstUpload : Option ℤ
  /-- Percentage of the base rate. -/
  burstThreshold : Option ℤ
  burstTime : Option ℤ
deriving DecidableEq, Repr

namespace ServicePlan

variable (p : ServicePlan)

/-- The calendar window `validity_days`, capped by `time_limit`, in hours. -/
def legacyWindowHours : ℤ :=
  let h := p.validityDays * 24
  if 0 < p.timeLimit then (if 0 < h then min h p.timeLimit else p.timeLimit) else h

/-- `access_window_hours`, in minutes. -/
def accessWindowMinutes : ℤ :=
  match p.durationMinutes with
  | some m => if 0 < m then m else p.legacyWindowHours * 60
  | none => p.legacyWindowHours * 60

/-- `timedelta(hours=plan.access_window_hours())`. -/
def accessWindow : ℤ := minutes p.accessWindowMinutes

/-- `access_expiry_from(activated_at, fallback_churn_days)`. -/
def accessExpiryFrom (activatedAt : ℤ) (fallbackChurnDays : Option ℤ) : Option ℤ :=
  if 0 < p.accessWindowMinutes then some (activatedAt + p.accessWindow)
  else match fallbackChurnDays with
    | some d => if 0 < d then some (activatedAt + days d) else none
    | none => none

theorem lt_accessExpiryFrom {u e : ℤ} {churn : Option ℤ}
    (h : p.accessExpiryFrom u churn = some e) : u < e := by
  unfold accessExpiryFrom at h
  split at h
  · have := minutes_pos ‹_›
    simp only [Option.some.injEq] at h
    rw [← h, accessWindow]
    omega
  · cases churn with
    | none => cases h
    | some d =>
        simp only at h
        split at h
        · have := days_pos ‹_›
          simp only [Option.some.injEq] at h
          omega
        · cases h

/-- `limit_uptime_seconds`. -/
def limitUptimeSeconds : ℤ := if 0 < p.accessWindowMinutes then p.accessWindowMinutes * 60 else 0

/-- `limit_uptime_str`: the router's `limit-uptime`, empty for an unlimited plan. -/
def limitUptimeStr : String :=
  if 0 < p.limitUptimeSeconds then toString p.limitUptimeSeconds ++ "s" else ""

/-- `_calculate_data_limit`: gigabytes in bytes, empty for an unlimited plan. -/
def limitBytesStr : String :=
  if 0 < p.dataLimit then toString (p.dataLimit * 1024 * 1024 * 1024) else ""

/-- `int(round(a / b))` for `0 < b`, ties to even. -/
def roundDiv (a b : ℤ) : ℤ :=
  let q := a / b
  let r := a % b
  if 2 * r < b then q else if b < 2 * r then q + 1 else if q % 2 = 0 then q else q + 1

/-- `_build_rate_limit`: the RouterOS `rate-limit` of the plan, with the optional burst. -/
def buildRateLimit : String :=
  let download := p.downloadSpeed
  let upload := p.uploadSpeed
  if download = 0 ∧ upload = 0 then ""
  else
    let base := toString download ++ "M/" ++ toString upload ++ "M"
    let bDown := p.burstDownload.getD 0
    let bUp := p.burstUpload.getD 0
    if p.enableBurst = false then base
    else if bDown = 0 ∧ bUp = 0 then base
    else
      let pct := p.burstThreshold.getD 0
      let thrDown := if 0 < pct then max 1 (roundDiv (download * pct) 100) else max 1 download
      let thrUp := if 0 < pct then max 1 (roundDiv (upload * pct) 100) else max 1 upload
      let btime := toString (p.burstTime.getD 0)
      base ++ " " ++ toString bDown ++ "M/" ++ toString bUp ++ "M " ++ toString thrDown ++ "M/" ++
        toString thrUp ++ "M " ++ btime ++ "/" ++ btime

/-- The name of the router profile of a plan, `plan_<id>`. -/
def profileName : String := "plan_" ++ toString p.id

def hourly : ServicePlan := ⟨1, "Hourly", 5, 5, -1, 1, 1, none, false, none, none, none, none⟩

end ServicePlan

end IspBilling
