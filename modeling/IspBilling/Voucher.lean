import IspBilling.Plan
import IspBilling.Rows

/-! # Vouchers, purchases and the settings of an organization

The rows of `voucher_codes` and `customer_purchases` (`app/models/customer_portal.py`) and the
columns of `organization_settings` (`app/models/organization.py`) that access control reads.

Two deadlines live on a voucher.  `expiresAt` is the deadline before the first use; the access
window of a voucher that is in use runs from `usedAt` and ends at `VoucherCode.accessExpiry`,
the value of `ServicePlan.access_expiry_from` that the expiry reconciler compares with. -/

namespace IspBilling

/-- `VoucherStatus`. -/
inductive VoucherStatus where
  | active
  | used
  | expired
  | cancelled
deriving DecidableEq, Repr

/-- A row of `voucher_codes`; amounts are in cents. -/
structure VoucherCode where
  id : ℕ
  organizationId : ℕ
  code : String
  planId : ℕ
  status : VoucherStatus
  isUsed : Bool
  usedAt : Option ℤ
  usedMacAddress : Option String
  /-- Expiry before use. -/
  expiresAt : Option ℤ
  /-- Can only be used after this date. -/
  validFrom : Option ℤ
  value : Option ℤ
  hotspotUsername : Option String
  hotspotPassword : Option String
  createdAt : ℤ
deriving DecidableEq, Repr

/-- The texts of `customer_purchases.payment_status`. -/
inductive PurchaseStatus where
  | pending
  | processing
  | completed
  | failed
deriving DecidableEq, Repr

/-- A row of `customer_purchases`. -/
structure CustomerPurchase where
  id : ℕ
  organizationId : ℕ
  planId : ℕ
  amount : ℤ
  paymentStatus : PurchaseStatus
  treasuryPaymentIntentId : Option String
  voucherCodeId : Option ℕ
  completedAt : Option ℤ
deriving DecidableEq, Repr

/-- The columns of `organization_settings` that the hotspot uses. -/
structure OrganizationSettings where
  organizationId : ℕ
  autoSuspendDays : ℤ
  hotspotUsernamePrefix : String
  hotspotUsernameCounter : ℕ
deriving DecidableEq, Repr

/-- `DEFAULT_CHURN_DAYS`. -/
def defaultChurnDays : ℤ := 14

/-- `_churn_days_for_org`. -/
def churnDaysForOrg (settings : List OrganizationSettings) (orgId : Option ℕ) : ℤ :=
  match orgId with
  | none => defaultChurnDays
  | some orgId =>
      match settings.find? (fun s => decide (s.organizationId = orgId)) with
      | some s => if 0 < s.autoSuspendDays then s.autoSuspendDays else defaultChurnDays
      | none => defaultChurnDays

namespace VoucherCode

/-- The deadline before use has passed: `expires_at and now > expires_at`. -/
def PastDeadline (v : VoucherCode) (now : ℤ) : Prop := ∃ d ∈ v.expiresAt, d < now

instance (v : VoucherCode) (now : ℤ) : Decidable (v.PastDeadline now) :=
  inferInstanceAs (Decidable (∃ d ∈ v.expiresAt, d < now))

/-- The end of the access of a voucher in use: `plan.access_expiry_from(used_at, churn)`. -/
def accessExpiry (v : VoucherCode) (plan : ServicePlan) (churnDays : ℤ) : Option ℤ :=
  v.usedAt.bind (fun u => plan.accessExpiryFrom u (some churnDays))

end VoucherCode

end IspBilling
