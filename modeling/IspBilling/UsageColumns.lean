import IspBilling.Plan
import IspBilling.Rows
import IspBilling.Runs

/-! # Byte counts in integer columns

`subscriptions.bytes_uploaded`, `bytes_downloaded` and `total_bytes_used` and
`customer_sessions.data_limit` are `Integer` columns of four bytes (`app/models/subscription.py`,
`app/models/customer_portal.py`).  `update_usage` (`app/modules/subscriptions/service.py`) adds to the
first three without a bound, and a new session stores the data limit of its plan scaled by `2 ^ 30`.

`UsageTables` is the subscriptions' counters, the usage logs, and everything that was written to the
four columns.  A commit with a value out of range is refused by the database, which leaves the tables
as they were.  `columns_fit_iff` says in which runs no such value is written. -/

namespace IspBilling

open Rows Runs

/-- The range of an `Integer` column. -/
def FitsInteger (n : ℤ) : Prop := -2 ^ 31 ≤ n ∧ n < 2 ^ 31

instance : DecidablePred FitsInteger := fun n =>
  inferInstanceAs (Decidable (-2 ^ 31 ≤ n ∧ n < 2 ^ 31))

/-- The usage columns of a row of `subscriptions`. -/
structure Usage where
  subscriptionId : ℕ
  bytesUploaded : ℤ
  bytesDownloaded : ℤ
  totalBytesUsed : ℤ
  sessionCount : ℤ
  lastActivity : Option ℤ
deriving DecidableEq, Repr

/-- A row of `subscription_usage_logs`. -/
structure UsageLog where
  subscriptionId : ℕ
  logDate : ℤ
  bytesUploaded : ℤ
  bytesDownloaded : ℤ
  sessionDuration : ℤ
  ipAddress : Option String
  macAddress : Option String
deriving DecidableEq, Repr

/-- The arguments of `update_usage`; the schema of the request admits no negative counts. -/
structure UsageUpdate where
  subscriptionId : ℕ
  bytesUploaded : ℕ
  bytesDownloaded : ℕ
  sessionDuration : ℕ
  ipAddress : Option String
  macAddress : Option String
deriving DecidableEq, Repr

namespace Usage

/-- The assignments of `update_usage`. -/
def add (now : ℤ) (r : UsageUpdate) (u : Usage) : Usage :=
  { u with
    bytesUploaded := u.bytesUploaded + r.bytesUploaded
    bytesDownloaded := u.bytesDownloaded + r.bytesDownloaded
    totalBytesUsed := u.totalBytesUsed + (r.bytesUploaded + r.bytesDownloaded)
    sessionCount := u.sessionCount + 1
    lastActivity := some now }

/-- The values of the three byte columns. -/
def bytes (u : Usage) : List ℤ := [u.bytesUploaded, u.bytesDownloaded, u.totalBytesUsed]

def Balanced (u : Usage) : Prop := u.totalBytesUsed = u.bytesUploaded + u.bytesDownloaded

instance : DecidablePred Balanced := fun u =>
  inferInstanceAs (Decidable (u.totalBytesUsed = u.bytesUploaded + u.bytesDownloaded))

end Usage

/-- The log entry of `update_usage`. -/
def UsageUpdate.log (now : ℤ) (r : UsageUpdate) : UsageLog :=
  ⟨r.subscriptionId, now, r.bytesUploaded, r.bytesDownloaded, r.sessionDuration, r.ipAddress,
    r.macAddress⟩

/-- The database accepts the rows of an update: its integers and texts fit their columns. -/
def UsageLog.Accepted (l : UsageLog) (u : Usage) : Prop :=
  (∀ n ∈ u.bytes, FitsInteger n) ∧ FitsInteger u.sessionCount ∧ FitsInteger l.bytesUploaded ∧
    FitsInteger l.bytesDownloaded ∧ FitsInteger l.sessionDuration ∧
    (∀ ip ∈ l.ipAddress, ip.length ≤ 45) ∧ ∀ mac ∈ l.macAddress, mac.length ≤ 17

instance (l : UsageLog) (u : Usage) : Decidable (l.Accepted u) :=
  inferInstanceAs (Decidable ((∀ n ∈ u.bytes, FitsInteger n) ∧ FitsInteger u.sessionCount ∧
    FitsInteger l.bytesUploaded ∧ FitsInteger l.bytesDownloaded ∧ FitsInteger l.sessionDuration ∧
    (∀ ip ∈ l.ipAddress, ip.length ≤ 45) ∧ ∀ mac ∈ l.macAddress, mac.length ≤ 17))

/-- The `data_limit` of the session that `redeem_voucher` or `hotspot_login` inserts. -/
def ServicePlan.sessionDataLimit (p : ServicePlan) : Option ℤ :=
  if 0 < p.dataLimit then some (p.dataLimit * 1024 * 1024 * 1024) else none

/-- The counters, the logs, and the values written to the byte columns so far. -/
structure UsageTables where
  subscriptions : Table Usage.subscriptionId
  logs : List UsageLog
  written : List ℤ

namespace UsageTables

inductive Event where
  | updateUsage (now : ℤ) (r : UsageUpdate)
  | newSession (plan : ServicePlan)
deriving DecidableEq, Repr

/-- `update_usage`: the new counters are written, and kept when the database accepts the commit. -/
def updateUsage (now : ℤ) (r : UsageUpdate) (s : UsageTables) : UsageTables :=
  match s.subscriptions.get r.subscriptionId with
  | none => s
  | some u =>
      let written := s.written ++ (u.add now r).bytes
      if (r.log now).Accepted (u.add now r) then
        { subscriptions := s.subscriptions.update r.subscriptionId (Usage.add now r) (fun _ => rfl)
          logs := s.logs ++ [r.log now]
          written := written }
      else { s with written := written }

def step (s : UsageTables) : Event → UsageTables
  | .updateUsage now r => s.updateUsage now r
  | .newSession plan => { s with written := s.written ++ plan.sessionDataLimit.toList }

/-- Every value written so far fits its column, and every total is the sum of its directions. -/
def ColumnsFit (s : UsageTables) : Prop :=
  (∀ n ∈ s.written, FitsInteger n) ∧ ∀ u ∈ s.subscriptions.rows, u.Balanced

instance (s : UsageTables) : Decidable s.ColumnsFit :=
  inferInstanceAs (Decidable ((∀ n ∈ s.written, FitsInteger n) ∧
    ∀ u ∈ s.subscriptions.rows, u.Balanced))

/-- The bytes of the update fit on top of those counted before, and a session has a data limit of
at most one gigabyte. -/
def Small (s : UsageTables) : Event → Prop
  | .updateUsage _ r => ∀ u ∈ s.subscriptions.get r.subscriptionId,
      u.bytesUploaded + u.bytesDownloaded + (r.bytesUploaded + r.bytesDownloaded) < 2 ^ 31
  | .newSession plan => plan.dataLimit ≤ 1

instance (s : UsageTables) (e : Event) : Decidable (s.Small e) :=
  match e with
  | .updateUsage _ r => inferInstanceAs (Decidable (∀ u ∈ s.subscriptions.get r.subscriptionId,
      u.bytesUploaded + u.bytesDownloaded + (r.bytesUploaded + r.bytesDownloaded) < 2 ^ 31))
  | .newSession plan => inferInstanceAs (Decidable (plan.dataLimit ≤ 1))

/-- What the tables hold: balanced counters that are not negative. -/
structure Counted (s : UsageTables) : Prop where
  written : ∀ n ∈ s.written, FitsInteger n
  counters : ∀ u ∈ s.subscriptions.rows, u.Balanced ∧ 0 ≤ u.bytesUploaded ∧ 0 ≤ u.bytesDownloaded

/-! ### One write -/

/-- The new counters fit exactly when their total does. -/
theorem bytes_add_fit_iff {u : Usage} (hb : u.Balanced) (hup : 0 ≤ u.bytesUploaded)
    (hdown : 0 ≤ u.bytesDownloaded) (now : ℤ) (r : UsageUpdate) :
    (∀ n ∈ (u.add now r).bytes, FitsInteger n) ↔
      u.bytesUploaded + u.bytesDownloaded + (r.bytesUploaded + r.bytesDownloaded) < 2 ^ 31 := by
  unfold Usage.Balanced at hb
  simp only [Usage.bytes, Usage.add, List.mem_cons, List.not_mem_nil, or_false, forall_eq_or_imp,
    forall_eq, FitsInteger, hb]
  omega

theorem sessionDataLimit_fits_iff (p : ServicePlan) :
    (∀ n ∈ p.sessionDataLimit, FitsInteger n) ↔ p.dataLimit ≤ 1 := by
  unfold ServicePlan.sessionDataLimit
  split
  · simp only [Option.mem_def, Option.some.injEq, forall_eq', FitsInteger]
    omega
  · simp only [Option.mem_def, reduceCtorEq, false_implies, implies_true, true_iff]
    omega

/-- The counters stay balanced, whether the database accepts the update or not. -/
theorem counters_updateUsage {s : UsageTables}
    (h : ∀ u ∈ s.subscriptions.rows, u.Balanced ∧ 0 ≤ u.bytesUploaded ∧ 0 ≤ u.bytesDownloaded)
    (now : ℤ) (r : UsageUpdate) : ∀ u ∈ (s.updateUsage now r).subscriptions.rows,
      u.Balanced ∧ 0 ≤ u.bytesUploaded ∧ 0 ≤ u.bytesDownloaded := by
  unfold updateUsage
  split
  · exact h
  · simp only
    split
    · intro u hu
      obtain ⟨u₀, hu₀, rfl⟩ := mem_updateWhere.mp hu
      obtain ⟨hb, hup, hdown⟩ := h u₀ hu₀
      split
      · unfold Usage.Balanced at hb ⊢
        simp only [Usage.add, hb]
        omega
      · exact ⟨hb, hup, hdown⟩
    · exact h

theorem written_updateUsage (s : UsageTables) (now : ℤ) (r : UsageUpdate) :
    (s.updateUsage now r).written = s.written ++
      ((s.subscriptions.get r.subscriptionId).map (fun u => (u.add now r).bytes)).getD [] := by
  unfold updateUsage
  cases s.subscriptions.get r.subscriptionId with
  | none => simp
  | some u =>
      simp only [Option.map_some, Option.getD_some]
      split <;> rfl

/-- **Step lemma**: out of counted tables, a write fits exactly when it is small. -/
theorem step_written_iff {s : UsageTables} (h : s.Counted) (e : Event) :
    (∀ n ∈ (s.step e).written, FitsInteger n) ↔ s.Small e := by
  have happ : ∀ l : List ℤ, (∀ n ∈ s.written ++ l, FitsInteger n) ↔ ∀ n ∈ l, FitsInteger n := by
    intro l
    rw [List.forall_mem_append]
    exact and_iff_right h.written
  cases e with
  | updateUsage now r =>
      simp only [step, Small, written_updateUsage, happ]
      cases hget : s.subscriptions.get r.subscriptionId with
      | none => simp
      | some u =>
          obtain ⟨hb, hup, hdown⟩ := h.counters u (Table.get_eq_some.mp hget).1
          simpa using bytes_add_fit_iff hb hup hdown now r
  | newSession plan =>
      simp only [step, Small, happ, Option.mem_toList]
      exact sessionDataLimit_fits_iff plan

theorem counters_step {s : UsageTables} (h : s.Counted) (e : Event) :
    ∀ u ∈ (s.step e).subscriptions.rows,
      u.Balanced ∧ 0 ≤ u.bytesUploaded ∧ 0 ≤ u.bytesDownloaded := by
  cases e with
  | updateUsage now r => exact counters_updateUsage h.counters now r
  | newSession plan => exact h.counters

/-- **When the columns fit**: out of tables with balanced counters, every value written in a run fits
its column and every total is the sum of its directions exactly when all writes are small: an update
stays below `2 ^ 31` bytes for its subscription, and a session is for at most one gigabyte. -/
theorem columns_fit_iff (s : UsageTables) (hs : s.Counted) (es : List Event) :
    Always step ColumnsFit s es ↔ Along step Small s es := by
  refine always_iff_along_invariant (G := Counted) ?_ ?_ ?_ hs
  · intro s h
    exact ⟨h.written, fun u hu => (h.counters u hu).1⟩
  · intro s e h hok
    exact ⟨(step_written_iff h e).mpr hok, counters_step h e⟩
  · intro s e h hnot hfit
    exact hnot ((step_written_iff h e).mp hfit.1)

def newSubscription : UsageTables := ⟨⟨[⟨1, 0, 0, 0, 0, none⟩], by decide⟩, [], []⟩

/-- An update of one gigabyte down. -/
def oneGigabyteDown : Event := .updateUsage 0 ⟨1, 0, 2 ^ 30, 60, none, none⟩

/-- The package of two gigabytes. -/
def twoGigabytePlan : ServicePlan :=
  ⟨3, "2 GB", 5, 5, 2, -1, 30, none, false, none, none, none, none⟩

/-- Two gigabytes are too much for the counters, and for the limit of a session. -/
theorem two_gigabytes_overflow :
    ¬ Always step ColumnsFit newSubscription [oneGigabyteDown, oneGigabyteDown] ∧
      ¬ Always step ColumnsFit newSubscription [.newSession twoGigabytePlan] := by
  decide

theorem newSubscription_counted : newSubscription.Counted :=
  ⟨(fun _ h => by cases h), by decide⟩

/-- One gigabyte fits. -/
theorem columns_fit_one_gigabyte :
    newSubscription.Counted ∧ (Always step ColumnsFit newSubscription
        [oneGigabyteDown, .newSession { twoGigabytePlan with dataLimit := 1 }] ↔
      Along step Small newSubscription
        [oneGigabyteDown, .newSession { twoGigabytePlan with dataLimit := 1 }]) ∧
      Along step Small newSubscription
        [oneGigabyteDown, .newSession { twoGigabytePlan with dataLimit := 1 }] :=
  ⟨newSubscription_counted, columns_fit_iff newSubscription newSubscription_counted _, by decide⟩

end UsageTables

end IspBilling
