import SafariLaundry.JournalLedger
import SafariLaundry.StatusRaces
import SafariLaundry.LinkCompletion
import SafariLaundry.WalletRaces
import SafariLaundry.VerificationPaths
import SafariLaundry.SaleCorrections
import SafariLaundry.CustodyVerification
import SafariLaundry.StockReconciliation
import SafariLaundry.AuditWriters
import SafariLaundry.DebtTransferRuns
import SafariLaundry.UnpaidInvoiceFilters
import SafariLaundry.LinkCapture
import SafariLaundry.HoldStamps
import SafariLaundry.LedgerProjection
import SafariLaundry.Dispatches
import SafariLaundry.SnapshotCooldown
import SafariLaundry.EventDispatcher
import SafariLaundry.SerialGaps
import SafariLaundry.LoanDeductions
import SafariLaundry.PurchaseRuns
import SafariLaundry.FieldCash
import SafariLaundry.WalletLiability
import SafariLaundry.RefreshTokens
import SafariLaundry.Commissions
import SafariLaundry.Deliveries
import SafariLaundry.Mfa
import SafariLaundry.PortalOtp
import SafariLaundry.OfflineQueue
import SafariLaundry.TimelinePaging
import SafariLaundry.CreditTaken
import SafariLaundry.DepositHandover
import SafariLaundry.CancellationRefund
import SafariLaundry.FifoAllocation
import SafariLaundry.PrepaidPrefix
import SafariLaundry.CollectionsCockpit
import SafariLaundry.FinancialCache
import SafariLaundry.HoldReleases
import SafariLaundry.WriteOffs
import SafariLaundry.CanonicalReplay
import SafariLaundry.PosPricing
import SafariLaundry.InvoiceLines
import SafariLaundry.SettlementLinkRuns
import SafariLaundry.KuwaitPhone
import SafariLaundry.BranchCashLedger
import SafariLaundry.CashReconciliation
import SafariLaundry.CashClassifier
import SafariLaundry.Customer360
import SafariLaundry.OutstandingTotals
import SafariLaundry.FinanceMoney
import SafariLaundry.PosSession
import SafariLaundry.MirrorSafety
import SafariLaundry.FixedExpenses
import SafariLaundry.FraudSweeps
import SafariLaundry.Attendance
import SafariLaundry.LedgerStream
import SafariLaundry.CustomerPortal
import SafariLaundry.SnapshotColumns
import SafariLaundry.CircuitBreaker
import SafariLaundry.Presence
import SafariLaundry.Totp
