import SafariLaundry.Library.Bookkeeping
import SafariLaundry.Library.Table
import SafariLaundry.Library.Transaction

/-!
# The data model of the laundry back office

Orders, wallets, the double-entry journal and the audit streams, as the schema
declares them, restricted to the columns that the modelled services read or
write.  Money columns are `Decimal(19,4)`: an amount is an integer number of
minor units, one ten-thousandth of a Kuwaiti dinar each.
-/

namespace SafariLaundry

abbrev Uuid := String

abbrev Timestamp := ℕ

def minorToAmountString (minor : ℤ) : String :=
  let fraction := toString (minor.natAbs % 10000)
  (if minor < 0 then "-" else "") ++ toString (minor.natAbs / 10000) ++ "." ++
    "".pushn '0' (4 - fraction.length) ++ fraction

def invoiceRemainingTolerance : ℤ := 10

inductive OrderStatus
  | PENDING | PICKED_UP | IN_PROGRESS | OUT_FOR_DELIVERY | COMPLETED | CANCELED
  deriving DecidableEq

inductive CashStatus
  | UNPAID | PAID_TO_DRIVER | HANDED_OVER_TO_OFFICE | PAID_ONLINE
  deriving DecidableEq

inductive PosPaymentMethod
  | SUBSCRIPTION_WALLET | CASH | KNET | PAYMENT_LINK | DEBT_ON_ACCOUNT | ONLINE
  deriving DecidableEq

inductive SafariRole
  | OWNER | GENERAL_MANAGER | MANAGER | DRIVER | WORKER | CALL_CENTER
  | CALL_CENTER_SUPERVISOR | FLEET_SUPERVISOR | ACCOUNTANT | SUPERVISOR | VIEWER
  | CUSTOMER
  deriving DecidableEq

def SafariRole.name : SafariRole → String
  | .OWNER => "OWNER"
  | .GENERAL_MANAGER => "GENERAL_MANAGER"
  | .MANAGER => "MANAGER"
  | .DRIVER => "DRIVER"
  | .WORKER => "WORKER"
  | .CALL_CENTER => "CALL_CENTER"
  | .CALL_CENTER_SUPERVISOR => "CALL_CENTER_SUPERVISOR"
  | .FLEET_SUPERVISOR => "FLEET_SUPERVISOR"
  | .ACCOUNTANT => "ACCOUNTANT"
  | .SUPERVISOR => "SUPERVISOR"
  | .VIEWER => "VIEWER"
  | .CUSTOMER => "CUSTOMER"

inductive CustomerSubscriptionStatus
  | ACTIVE | EXPIRED | ROLLED_OVER | CUT_OFF | CANCELLED
  deriving DecidableEq

inductive GeneralLedgerEntryType
  | POS_SALE_COMPLETED | EXPENSE_RECORDED | WALLET_SETTLEMENT | DEBT_ADJUSTMENT
  deriving DecidableEq

inductive LedgerTransactionType
  | SUBSCRIPTION_ACTIVATION | ORDER_WALLET_SETTLEMENT | SUBSCRIPTION_CANCELLATION
  deriving DecidableEq

inductive DebtSource
  | SUBSCRIPTION_OVERUSE | INVOICE_SHORTFALL | PAYMENT

def PosPaymentMethod.name : PosPaymentMethod → String
  | .SUBSCRIPTION_WALLET => "SUBSCRIPTION_WALLET"
  | .CASH => "CASH"
  | .KNET => "KNET"
  | .PAYMENT_LINK => "PAYMENT_LINK"
  | .DEBT_ON_ACCOUNT => "DEBT_ON_ACCOUNT"
  | .ONLINE => "ONLINE"

/-- The four methods by which the money reaches the company at once. -/
def PosPaymentMethod.External (method : PosPaymentMethod) : Prop :=
  method = .CASH ∨ method = .KNET ∨ method = .ONLINE ∨ method = .PAYMENT_LINK
  deriving Decidable

def cashStatusForPaymentMethod : PosPaymentMethod → CashStatus
  | .KNET | .PAYMENT_LINK | .ONLINE | .SUBSCRIPTION_WALLET => .PAID_ONLINE
  | .CASH | .DEBT_ON_ACCOUNT => .PAID_TO_DRIVER

inductive JournalAccount
  | CASH | BANK_KNET | BANK_ONLINE | ACCOUNTS_RECEIVABLE | WALLET_LIABILITY
  | REVENUE | REVENUE_RETURNS | ADJUSTMENTS | DEBT_DISCOUNTS | PROMOTIONAL_EXPENSE
  deriving DecidableEq

def JournalAccount.code : JournalAccount → String
  | .CASH => "1100"
  | .BANK_KNET => "1200"
  | .BANK_ONLINE => "1210"
  | .ACCOUNTS_RECEIVABLE => "1300"
  | .WALLET_LIABILITY => "2100"
  | .REVENUE => "4100"
  | .REVENUE_RETURNS => "4200"
  | .ADJUSTMENTS => "5100"
  | .DEBT_DISCOUNTS => "5200"
  | .PROMOTIONAL_EXPENSE => "5300"

def JournalAccount.Asset (account : JournalAccount) : Prop :=
  account = .CASH ∨ account = .BANK_KNET ∨ account = .BANK_ONLINE
  deriving Decidable

/-- One colon-separated segment of a source reference: a fixed word of the
template, or the key of a row. -/
inductive RefSegment
  | word (text : String)
  | id (key : Uuid)
  deriving DecidableEq

/-- A journal source reference, as the segments between its colons.  Row keys
contain no colon, so the segments and the text determine each other. -/
abbrev SourceRef := List RefSegment

namespace SourceRef

def StartsWith (ref : SourceRef) (words : List String) : Prop :=
  ref.take words.length = words.map RefSegment.word ∧ words.length < ref.length
  deriving Decidable

def Includes (ref : SourceRef) (text : String) : Prop :=
  RefSegment.word text ∈ ref.tail.dropLast
  deriving Decidable

end SourceRef

abbrev JournalLine := Library.Bookkeeping.Line JournalAccount

structure JournalEntry where
  source : String
  sourceRef : SourceRef
  actorUserId : Uuid
  (customerId orderId : Option Uuid)
  lines : List JournalLine
  deriving DecidableEq

structure JournalFailure where
  (customerId orderId : Option Uuid)
  source : String
  sourceRef : SourceRef
  amount : ℤ
  errorMessage : String
  createdAt : Timestamp
  deriving DecidableEq

/-! ## Rows -/

/-- A user row; a primary key is never the empty text. -/
structure User where
  id : Uuid
  safariRole : SafariRole
  branchId : Option Uuid
  id_nonempty : id ≠ ""

structure Customer where
  id : Uuid
  phone : String
  phone2 : Option String
  originBranchId : Option Uuid

structure LaundryBranchItemPrice where
  branchId : Uuid
  (priceNormal priceUrgent pricePressOnly priceUrgentPress : Option ℤ)
  deriving DecidableEq

structure LaundryPriceListItem where
  id : Uuid
  nameAr : String
  (manualEntry isActive : Bool)
  (priceNormal priceUrgent : ℤ)
  (pricePressOnly priceUrgentPress : Option ℤ)
  branchOverrides : List LaundryBranchItemPrice
  deriving DecidableEq

structure CustomerWallet where
  (balance debt : ℤ)
  deriving DecidableEq

structure Order where
  (id customerId : Uuid)
  totalPrice : ℤ
  status : OrderStatus
  cashStatus : CashStatus
  posPaymentMethod : PosPaymentMethod
  createdAt : Timestamp
  (completedAt walletSettledAt : Option Timestamp)
  (driverId subscriptionId posPaymentBundleId : Option Uuid)
  (posHostedPaymentUrl posGatewayTrackId : Option String)
  /-- The charge amount kept in `posGatewayMetadata` when the link was made. -/
  posGatewayChargeKd : Option ℤ
  deriving DecidableEq

structure PosPaymentBundle where
  (id driverId : Uuid)
  totalAmountKd : ℤ

structure SubscriptionPlan where
  id : Uuid
  name : String
  (salePrice actualBalance validityDays : ℤ)
  isActive : Bool
  deriving DecidableEq

structure CustomerSubscription where
  (id customerId planId : Uuid)
  status : CustomerSubscriptionStatus
  (planSalePriceSnapshot planActualBalanceSnapshot carriedBalanceKd : ℤ)
  parentSubscriptionId : Option Uuid
  (activatedAt expiresAt : Timestamp)
  closedAt : Option Timestamp
  closedReason : Option String
  deriving DecidableEq

structure GeneralLedgerEntry where
  entryType : GeneralLedgerEntryType
  amount : ℤ
  memo : String
  (customerId orderId actorUserId : Option Uuid)

structure TransactionHistory where
  id : Uuid
  /-- The row's `reportingCategory` is `DEBT_INVOICE_PHYSICAL_COLLECTION`. -/
  physicalCollection : Bool
  type : LedgerTransactionType
  customerId : Uuid
  (orderId subscriptionId : Option Uuid)
  (amount balanceBefore balanceAfter debtBefore debtAfter : ℤ)
  performedById : Uuid

inductive StarchOption
  | NONE | STARCH_25
  deriving DecidableEq

structure OrderLineItem where
  (id orderId : Uuid)
  label : Option String
  starchOption : StarchOption
  stockItemId : Option Uuid
  (quantity unitPrice : ℤ)

structure StockReference where
  route : String
  orderId : Uuid

structure StockMovement where
  (stockItemId branchId : Uuid)
  quantity : ℤ
  recordedById : Uuid
  reference : StockReference

/-- The database.  A customer without a wallet row reads as the zero wallet that
`getOrCreateWalletTx` would insert.  `users` is in order of creation, and so are
`subscriptions`, `journal` and the audit streams. -/
structure Db where
  orders : Library.Table Order.id
  bundles : Library.Table PosPaymentBundle.id
  users : List User
  customers : Library.Table Customer.id
  wallets : Uuid → CustomerWallet
  plans : Library.Table SubscriptionPlan.id
  subscriptions : List CustomerSubscription
  journal : List JournalEntry
  journalFailures : List JournalFailure
  generalLedger : List GeneralLedgerEntry
  transactionHistory : List TransactionHistory
  orderLineItems : List OrderLineItem
  laundryPriceListItems : List LaundryPriceListItem
  /-- The customers whose `CustomerCollectionStatus` says blocked. -/
  (blockedCustomers stockItems branches administrativeBranches : List Uuid)
  stockLevels : Uuid → Uuid → ℤ
  stockMovements : List StockMovement

def Db.initial : Db where
  orders := .empty
  bundles := .empty
  users := []
  customers := .empty
  wallets := fun _ => ⟨0, 0⟩
  plans := .empty
  subscriptions := []
  journal := []
  journalFailures := []
  generalLedger := []
  transactionHistory := []
  orderLineItems := []
  laundryPriceListItems := []
  blockedCustomers := []
  stockItems := []
  branches := []
  administrativeBranches := []
  stockLevels := fun _ _ => 0
  stockMovements := []

/-! ## The environment of a call -/

/-- How the insert of a journal row can fail.  After a unique violation the
recovery read finds the entry of the writer that came first if that writer has
committed. -/
inductive StoreFault
  | uniqueViolation (committed : Bool)
  | failure (message : String)

structure ChartOfAccounts where
  active : List JournalAccount
  seeded : ∀ account : JournalAccount, account ∈ active

/-- What a call reads from outside the database: the feature switches, the clock,
the period guard and the outcome of journal inserts. -/
structure Env where
  (v20_4FinalLedger v20_3TrueAccounting useJournalAsSource paymentLinkImmediateDebt : Bool)
  (journalFailClosedCritical periodLockEnforce : Bool)
  /-- The label of the closed accounting period an instant falls into. -/
  closedPeriod : Timestamp → Option String
  now : Timestamp
  /-- The key `uuid()` gives the row added to a history of this many rows. -/
  (newHistoryId newSubscriptionId newLineItemId newOrderId newCustomerId newBundleId : ℕ → Uuid)
  chart : ChartOfAccounts
  journalCreateFault : SourceRef → Option StoreFault
  /-- Orders whose row another transaction holds, for `SKIP LOCKED`. -/
  orderLockedElsewhere : Uuid → Bool

/-- No statement of the call failed in the database.  PostgreSQL refuses to
commit a transaction one of whose statements failed, so every call that commits
ran in such an environment. -/
def Env.StoreHealthy (env : Env) : Prop :=
  ∀ ref, env.journalCreateFault ref = none

def isV20_4FinalLedgerEnabled (env : Env) : Bool :=
  env.v20_4FinalLedger

def isV20_3TrueAccountingEnabled (env : Env) : Bool :=
  isV20_4FinalLedgerEnabled env || env.v20_3TrueAccounting

def isJournalAsSourceEnabled (env : Env) : Bool :=
  isV20_4FinalLedgerEnabled env || env.useJournalAsSource

def seededChart : ChartOfAccounts where
  active := [.CASH, .BANK_KNET, .BANK_ONLINE, .ACCOUNTS_RECEIVABLE, .WALLET_LIABILITY,
    .REVENUE, .REVENUE_RETURNS, .ADJUSTMENTS, .DEBT_DISCOUNTS, .PROMOTIONAL_EXPENSE]
  seeded := by
    intro account
    cases account <;> decide

/-- All switches off, every period open, a healthy store. -/
def Env.default : Env where
  v20_4FinalLedger := false
  v20_3TrueAccounting := false
  useJournalAsSource := false
  paymentLinkImmediateDebt := false
  journalFailClosedCritical := false
  periodLockEnforce := false
  closedPeriod := fun _ => none
  now := 0
  newHistoryId := fun n => "history-" ++ toString n
  newSubscriptionId := fun n => "subscription-" ++ toString n
  newLineItemId := fun n => "line-" ++ toString n
  newOrderId := fun n => "order-" ++ toString n
  newCustomerId := fun n => "customer-" ++ toString n
  newBundleId := fun n => "bundle-" ++ toString n
  chart := seededChart
  journalCreateFault := fun _ => none
  orderLockedElsewhere := fun _ => false

inductive ServiceError
  | notFound (message : String)
  | forbidden (message : String)
  | badRequest (message : String)
  | conflict (message : String)
  | serviceUnavailable (message : String)
  | error (message : String)
  | periodClosed (label : String)
  | uniqueViolation (committed : Bool)
  | database (message : String)
  | criticalJournalFailure (customerId : Uuid) (recentFailureCount windowMs : ℕ)
  deriving DecidableEq

def ServiceError.message : ServiceError → String
  | .notFound message | .forbidden message | .badRequest message | .conflict message
  | .serviceUnavailable message | .error message | .database message => message
  | .periodClosed label =>
      "Financial period " ++ label ++ " is CLOSED — write rejected by PeriodLockGuard"
  | .uniqueViolation _ => "Unique constraint failed on the fields: (sourceRef)"
  | .criticalJournalFailure customerId count windowMs =>
      s!"CRITICAL_JOURNAL_FAILURE customerId={customerId} recentFailures={count} windowMs={windowMs}"

abbrev Tx (α : Type) := Library.Transaction ServiceError Db α

/-- `$transaction`: on a throw everything is rolled back except the journal
failure log, which is written on a connection of its own. -/
def transaction {α : Type} (body : Tx α) : Tx α :=
  Library.Transaction.atomically
    (fun before after => { before with journalFailures := after.journalFailures }) body

/-! ## A small shop

One owner, one customer and their orders, for concrete runs. -/

namespace Sample

def owner : User := ⟨"owner", .OWNER, none, by decide⟩

def customer : Customer := ⟨"customer", "51234567", none, none⟩

def order (id : Uuid) : Order where
  id := id
  customerId := "customer"
  totalPrice := 20000
  status := .PENDING
  cashStatus := .UNPAID
  posPaymentMethod := .ONLINE
  createdAt := 1
  completedAt := none
  walletSettledAt := none
  driverId := none
  subscriptionId := none
  posPaymentBundleId := none
  posHostedPaymentUrl := none
  posGatewayTrackId := none
  posGatewayChargeKd := none

def shop (wallet : CustomerWallet) (orders : Library.Table Order.id) : Db :=
  { Db.initial with
    users := [owner]
    customers := ⟨[customer], by decide⟩
    orders := orders
    wallets := fun id => if id = "customer" then wallet else ⟨0, 0⟩ }

def oneOrder (id : Uuid) : Library.Table Order.id :=
  ⟨[order id], List.nodup_singleton _⟩

def indebtedShop : Db :=
  shop ⟨0, 50000⟩ (oneOrder "order")

end Sample

end SafariLaundry
