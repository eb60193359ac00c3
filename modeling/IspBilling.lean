import IspBilling.Runs
import IspBilling.SessionFallback
import IspBilling.Rows
import IspBilling.Plan
import IspBilling.CommandQueue
import IspBilling.AgentReport
import IspBilling.BackupUpload
import IspBilling.CliRoundTrip
import IspBilling.WinboxPorts
import IspBilling.TunnelAddresses
import IspBilling.FixedWindow
import IspBilling.RateLimiter
import IspBilling.SsoRoles
import IspBilling.Base64
import IspBilling.SecretsManager
import IspBilling.BootstrapPayload
import IspBilling.UnitNotation
import IspBilling.UptimeParsers
import IspBilling.CommandLifecycle
import IspBilling.Redemption
import IspBilling.HotspotLogin
import IspBilling.HotspotExpiry
import IspBilling.Ledger
import IspBilling.Fulfilment
import IspBilling.AgentScript
import IspBilling.SyncConvergence
import IspBilling.ExpiryPasses
import IspBilling.CutOff
import IspBilling.HotspotSweeps
import IspBilling.RenewalRace
import IspBilling.SyncFlag
import IspBilling.DirectDisable
import IspBilling.DirectSync
import IspBilling.Redelivery
import IspBilling.Dispatch
import IspBilling.RouterCaps
import IspBilling.InvoiceBalance
import IspBilling.PaymentRace
import IspBilling.GatewayCallbacks
import IspBilling.Activation
import IspBilling.HotspotUsername
import IspBilling.PppoeRenewal
import IspBilling.ProvisioningCallbacks
import IspBilling.TenantIsolation
import IspBilling.ProvisioningSessions
import IspBilling.ProvisioningWorkflow
import IspBilling.IdentityLinks
import IspBilling.Rbac
import IspBilling.ConfigurationStore
import IspBilling.Outbox
import IspBilling.RouterPlanLimit
import IspBilling.Menus
import IspBilling.OrphanCleanup
import IspBilling.DashboardBridge
import IspBilling.Transactions
import IspBilling.GeneratedActs
import IspBilling.GeneratorGuarantees
import IspBilling.HardPurge
import IspBilling.PythonText
import IspBilling.RouterOsCommands
import IspBilling.CliCommands
import IspBilling.CliDelivery
import IspBilling.ProvisioningRollback
import IspBilling.AccessWindows
import IspBilling.PlanLimits
import IspBilling.Reprovisioning
import IspBilling.RetryBounds
import IspBilling.TreasuryAnswers
import IspBilling.UsageColumns
import IspBilling.UserProvisioning
import IspBilling.RouterOsRates
import IspBilling.RateLimits
import IspBilling.RouterOsText
import IspBilling.PipeProtocol
import IspBilling.Streaks
import IspBilling.CircuitBreaker
import IspBilling.PingMonitor
import IspBilling.PingSafety
import IspBilling.Ipv4
import IspBilling.Addressing
import IspBilling.NetworkPreview
import IspBilling.ConnectionStatus
import IspBilling.ExpiringNotices
import IspBilling.DocumentNumbers
import IspBilling.BillingCycle
import IspBilling.InvoiceItems
import IspBilling.VersionChecks
import IspBilling.UsernamePreview
import IspBilling.CandidateSearch
import IspBilling.SsoUsernames
import IspBilling.Traces
import IspBilling.LogFanout
import IspBilling.LogDelivery
import IspBilling.LogHistory
import IspBilling.LostUpdates
import IspBilling.UsageAccounting
import IspBilling.ScopedRows
import IspBilling.TenantScope
import IspBilling.BackOffice
import IspBilling.BackOfficeRuns
import IspBilling.Deliveries
import IspBilling.TenantMirror
import IspBilling.VoucherCodes
import IspBilling.VoucherBatches
import IspBilling.BatchCapacity
import IspBilling.Checkout
import IspBilling.CheckoutOrder
import IspBilling.PaidPurchases
