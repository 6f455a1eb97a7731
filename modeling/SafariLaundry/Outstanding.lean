import SafariLaundry.CollectionsList
import SafariLaundry.CustomerBlocking
import SafariLaundry.SubscriptionState

/-!
# Outstanding customers

Open receivable orders, one row for each customer.  Filters of orders apply before the rows are
made, filters of rows after.  Where no order is left the response shows the debt of the whole
company.
-/

namespace SafariLaundry

namespace Outstanding

open Library Library.Bookkeeping Library.KeyedFold Library.Transaction

/-- `fromDate` and `toDate` stand for texts that are not blank: an instant, or none where the
text is no date. -/
structure OutstandingQuery where
  (fromDate toDate : Option (Option Timestamp))
  (branchId driverId customerId : Option Uuid)
  status : Option CustomerCollectionStatusKind
  search : Option String
  blocked : Option Bool

structure OutstandingCustomer where
  id : Uuid
  displayName : Option String
  phone : String
  phone2 : Option String
  isBlocked : Bool

structure OutstandingDriver where
  id : Uuid
  fullName : String

structure Store where
  visibility : VisibilityStore
  customers : Table OutstandingCustomer.id
  drivers : Table OutstandingDriver.id
  statuses : Table CustomerCollectionStatus.customerId
  subscriptions : SubscriptionTable
  subscriptionOrder : RowOrder SubscriptionRecord
  /-- `toLowerCase`. -/
  lower : String → String
  lower_empty : lower "" = ""
  /-- `first.localeCompare(second) <= 0`. -/
  collate : String → String → Bool

/-- The orders in which the queries of one run return orders: the two lists, and what remains on
the orders of the list, on its debts, on the rows of the report and for the whole company. -/
structure Arrival where
  (listed receivable remaining debts report company : RowOrder Order)

/-- Amounts are minor units and instants stand for their texts. -/
structure OutstandingRow where
  customerId : Uuid
  name : Option String
  phone : String
  phone2 : Option String
  driverId : Option Uuid
  driverName : Option String
  (totalDueKd remainingDueKd paidKd : ℤ)
  invoicesCount : ℕ
  (lastOrderAt earliestDueDate : Option Timestamp)
  daysLate : ℕ
  priorityScore : ℚ
  status : CustomerCollectionStatusKind
  blocked : Bool
  note : Option String
  hasActiveSubscription : Bool
  subscriptionExpiresAt : Option Timestamp

structure OutstandingDriverSummary where
  driverId : Option Uuid
  driverName : String
  (customers invoices : ℕ)
  totalRemainingKd : ℤ
  maxDaysLate : ℕ

structure OutstandingResponse where
  rows : List OutstandingRow
  (totalCustomers totalInvoices : ℕ)
  driverSummaries : Option (List OutstandingDriverSummary)
  (totalDueKd remainingDueKd : ℤ)
  source : String
  (blockedCount lateCount riskCount : ℕ)
  (generatedAt fromIso toIso : Timestamp)

structure CollectionsSnapshot where
  totalRemainingDebtKd : ℤ
  (customersWithDebt partiallyPaidInvoices unpaidInvoices overdueInvoices : ℕ)
  generatedAt : Timestamp

structure ReportingBounds where
  (fromIso toIso : Timestamp)
  createdAt : Option (Timestamp × Timestamp)
  dateLimited : Bool

def resolveReportingBounds (now : Timestamp) (fromDate toDate : Option (Option Timestamp)) :
    Except ServiceError ReportingBounds :=
  if fromDate = none ∧ toDate = none then .ok ⟨0, now, none, false⟩
  else
    match fromDate.getD (some 0), toDate.getD (some now) with
    | some start, some stop =>
        if stop < start then .error (.badRequest "\x60from\x60 must be before \x60to\x60")
        else .ok ⟨start, stop, some (start, stop), true⟩
    | _, _ => .error (.badRequest "Invalid from/to ISO date")

namespace OutstandingQuery

variable (query : OutstandingQuery)

def driver : Option Uuid := query.driverId.filter fun id => id ≠ ""

def customer : Option Uuid := query.customerId.filter fun id => id ≠ ""

def effectiveBranchId (actor : Option JwtUser) : Option Uuid :=
  if ∃ user ∈ actor, user.role = .DRIVER then none
  else
    (trimmed query.branchId).or (actor.bind fun user =>
      if user.role = .MANAGER then user.branchId.filter fun id => id ≠ "" else none)

/-- The clause `branchWhere`; the service and the read of the orders find the same branch. -/
def branchWhere (actor : Option JwtUser) : Option BranchWhere :=
  match actor.filter fun user => user.role = .DRIVER with
  | some user => some (.driver user.userId)
  | none => (query.effectiveBranchId actor).map .branch

end OutstandingQuery

/-- The clause under the key `OR`. -/
def Receivable (order : Order) : Prop :=
  order.cashStatus = .UNPAID ∨ order.posPaymentMethod = .DEBT_ON_ACCOUNT ∨
    order.posPaymentMethod = .ONLINE ∨ order.posPaymentMethod = .PAYMENT_LINK
  deriving Decidable

/-- The branch clause is spread later and has the key `OR` too. -/
def OfScope (db : Db) (scope : Option BranchWhere) (order : Order) : Prop :=
  match scope with
  | some (.branch branchId) => UnpaidInvoices.OfBranch db branchId order
  | _ => Receivable order

instance (db : Db) (scope : Option BranchWhere) : DecidablePred (OfScope db scope) := fun order =>
  match scope with
  | some (.branch branchId) =>
      inferInstanceAs (Decidable (UnpaidInvoices.OfBranch db branchId order))
  | some (.driver _) => inferInstanceAs (Decidable (Receivable order))
  | none => inferInstanceAs (Decidable (Receivable order))

def wantedDriver (scope : Option BranchWhere) (driver : Option Uuid) : Option Uuid :=
  driver.or (match scope with
    | some (.driver userId) => some userId
    | _ => none)

def CountsOpen (openDebtOrderIds : List Uuid) (r : Order) : Prop :=
  r.cashStatus = .UNPAID ∨ r.posPaymentMethod = .ONLINE ∨ r.posPaymentMethod = .PAYMENT_LINK ∨
    r.posPaymentMethod = .DEBT_ON_ACCOUNT ∧ r.id ∈ openDebtOrderIds
  deriving Decidable

structure CustomerLoop where
  (totalDue remainingDue : ℤ)
  (lastOrderAt earliestDue : Option Timestamp)

def computePriorityScore (remainingDue : ℤ) (daysLate : ℕ) : ℚ :=
  Decimal.roundHalfEven ((ofMinor remainingDue * (6 / 10) + daysLate * (4 / 10)) * 10000) / 10000

def MS_PER_DAY : ℕ := 24 * 60 * 60 * 1000

def NO_DRIVER_LABEL : String := "بدون سائق"

def driverKey (driverId : Option Uuid) : String := driverId.getD "__no_driver__"

def driverSlots : Accumulation OutstandingRow OutstandingDriverSummary where
  start := fun row =>
    { driverId := row.driverId
      driverName := (trimmed row.driverName).getD NO_DRIVER_LABEL
      customers := 1
      invoices := row.invoicesCount
      totalRemainingKd := row.totalDueKd
      maxDaysLate := row.daysLate }
  grow := fun slot row =>
    { slot with
      customers := slot.customers + 1
      invoices := slot.invoices + row.invoicesCount
      totalRemainingKd := slot.totalRemainingKd + row.totalDueKd
      maxDaysLate := max slot.maxDaysLate row.daysLate }

namespace Store

variable (store : Store)

def remaining (order : RowOrder Order) (orderIds : List Uuid) : Uuid → Option ℤ :=
  computeOrderRemainingBalancesBatch store.visibility.env (store.visibility.db.ordersAs order)
    orderIds

def openOf (order : RowOrder Order) (orderIds : List Uuid) (r : Order) : ℤ :=
  (store.remaining order orderIds r.id).getD r.totalPrice

/-- `where` of the read. -/
def Selected (scope : Option BranchWhere) (createdAt : Option (Timestamp × Timestamp))
    (driver customer : Option Uuid) (order : Order) : Prop :=
  order.status ≠ .CANCELED ∧ OfScope store.visibility.db scope order ∧
    (∀ bounds ∈ createdAt, bounds.1 ≤ order.createdAt ∧ order.createdAt ≤ bounds.2) ∧
    (∀ id ∈ wantedDriver scope driver, order.driverId = some id) ∧
    ∀ id ∈ customer, order.customerId = id
  deriving Decidable

def resolveOpenDebtOrderIds (order : RowOrder Order) (rows : List Order) : List Uuid :=
  let candidates := (rows.filter fun r => r.posPaymentMethod = .DEBT_ON_ACCOUNT).map Order.id
  candidates.filter fun id =>
    invoiceRemainingTolerance < (store.remaining order candidates id).getD 0

def stillOpen (arrival : Arrival) (rows : List Order) : List Order :=
  rows.filter fun r =>
    ¬ store.openOf arrival.remaining (rows.map Order.id) r ≤ invoiceRemainingTolerance ∧
      CountsOpen (store.resolveOpenDebtOrderIds arrival.debts rows) r

def listCollectionsReceivableAggOrders (arrival : Arrival) (scope : Option BranchWhere)
    (createdAt : Option (Timestamp × Timestamp)) (driver customer : Option Uuid) : List Order :=
  store.stillOpen arrival ((arrival.listed.arrange (store.visibility.db.orders.rows.filter
    (store.Selected scope createdAt driver customer))).insertionSort
      fun first second => second.createdAt ≤ first.createdAt)

def addCustomerDebt (debts : VisibilityStore.DebtMap) (orderRemaining : Uuid → ℤ)
    (totals : CollectionsSnapshot) (customerId : Uuid) : CollectionsSnapshot :=
  let debt := debts customerId
  let visibleRemaining := (debt.map CustomerVisibleDebt.remainingDebtKd).getD 0
  let remaining := max visibleRemaining (orderRemaining customerId)
  if remaining ≤ uiDebtConsistencyTolerance then totals
  else
    { totals with
      totalRemainingDebtKd := totals.totalRemainingDebtKd + remaining
      customersWithDebt := totals.customersWithDebt + 1
      partiallyPaidInvoices := totals.partiallyPaidInvoices +
        (debt.map CustomerVisibleDebt.partiallyPaidInvoicesCount).getD 0
      unpaidInvoices := totals.unpaidInvoices +
        (debt.map CustomerVisibleDebt.unpaidInvoicesCount).getD 0
      overdueInvoices := totals.overdueInvoices +
        (debt.map CustomerVisibleDebt.overdueInvoicesCount).getD 0 }

def getCollectionsSnapshot (arrival : Arrival) : SnapshotTx CollectionsSnapshot := do
  let snapshotCandidates ← store.visibility.readSnapshots fun table =>
    (table.rows.filter fun row => uiDebtConsistencyTolerance < row.remainingDebtKd ∨
      uiDebtConsistencyTolerance < row.journalArBalanceKd).map FinancialSnapshotRow.customerId
  let receivableOrders ← store.visibility.read .orders
    (arrival.receivable.arrange (store.visibility.db.orders.rows.filter fun order =>
      order.status ≠ .CANCELED ∧ Receivable order))
  let candidateCustomerIds :=
    (snapshotCandidates ++ receivableOrders.map Order.customerId).eraseDups
  let debts ← store.visibility.getCustomerVisibleDebtBatch candidateCustomerIds
  let orderRemainingByCustomer := KeyedFold.collect (Accumulation.sum
      (store.openOf arrival.company (receivableOrders.map Order.id))) Order.customerId
    (receivableOrders.filter fun order => ¬ store.openOf arrival.company
      (receivableOrders.map Order.id) order ≤ uiDebtConsistencyTolerance)
  pure (candidateCustomerIds.foldl
    (addCustomerDebt debts fun id => (orderRemainingByCustomer.get? id).getD 0)
    ⟨0, 0, 0, 0, 0, store.visibility.env.now⟩)

/-! ## The report -/

def addOrder (arrival : RowOrder Order) (orderIds : List Uuid) (loop : CustomerLoop)
    (order : Order) : CustomerLoop :=
  let rem := store.openOf arrival orderIds order
  { totalDue := loop.totalDue + order.totalPrice
    remainingDue :=
      if invoiceRemainingTolerance < rem then loop.remainingDue + rem else loop.remainingDue
    lastOrderAt :=
      if ∃ last ∈ loop.lastOrderAt, order.createdAt ≤ last then loop.lastOrderAt
      else some order.createdAt
    earliestDue :=
      match store.visibility.dueDate order.id with
      | none => loop.earliestDue
      | some due =>
          if ∃ earliest ∈ loop.earliestDue, earliest ≤ due then loop.earliestDue else some due }

def rowOf (arrival : RowOrder Order) (rows : List Order) (customerId : Uuid) (orders : List Order) :
    Option OutstandingRow :=
  (store.customers.find? customerId).map fun customer =>
    let status := store.statuses.find? customerId
    let driverId := orders.head?.bind Order.driverId
    let loop := orders.foldl (store.addOrder arrival (rows.map Order.id)) ⟨0, 0, none, none⟩
    let daysLate := (loop.earliestDue.map fun due =>
      (store.visibility.env.now - due) / MS_PER_DAY).getD 0
    let subState := (getCustomerSubscriptionStateBatch store.subscriptionOrder
      store.subscriptions (rows.map Order.customerId).eraseDups store.visibility.env.now).get?
        customerId
    { customerId
      name := customer.displayName
      phone := customer.phone
      phone2 := customer.phone2
      driverId
      driverName := (driverId.bind store.drivers.find?).map OutstandingDriver.fullName
      totalDueKd := loop.remainingDue
      remainingDueKd := loop.remainingDue
      paidKd := max 0 (loop.totalDue - loop.remainingDue)
      invoicesCount := orders.length
      lastOrderAt := loop.lastOrderAt
      earliestDueDate := loop.earliestDue
      daysLate
      priorityScore := computePriorityScore loop.remainingDue daysLate
      status := (status.map CustomerCollectionStatus.status).getD .NORMAL
      blocked := (status.map CustomerCollectionStatus.blocked).getD customer.isBlocked
      note := status.bind CustomerCollectionStatus.note
      hasActiveSubscription :=
        (subState.map SubscriptionStateSnapshot.isActiveSubscriber).getD false
      subscriptionExpiresAt := subState.bind SubscriptionStateSnapshot.subscriptionExpiresAtIso }

def groupByCustomer (rows : List Order) : OrderedMap Uuid (List Order) :=
  KeyedFold.collect Accumulation.rows Order.customerId rows

def allRows (arrival : RowOrder Order) (rows : List Order) : List OutstandingRow :=
  (groupByCustomer rows).rows.filterMap fun entry => store.rowOf arrival rows entry.1 entry.2

def PassesFilters (query : OutstandingQuery) (row : OutstandingRow) : Prop :=
  let search := store.lower (trim (query.search.getD ""))
  (∀ status ∈ query.status, row.status = status) ∧
    (∀ blocked ∈ query.blocked, row.blocked = blocked) ∧
    (search ≠ "" → search.toList <:+:
      (store.lower (row.name.getD "" ++ " " ++ row.phone ++ " " ++ row.phone2.getD "")).toList)
  deriving Decidable

def filteredRows (arrival : RowOrder Order) (query : OutstandingQuery) (rows : List Order) :
    List OutstandingRow :=
  ((store.allRows arrival rows).filter (store.PassesFilters query)).insertionSort
    fun a b => b.priorityScore ≤ a.priorityScore

def computeCanonicalOutstandingDriverSummaries (rows : List OutstandingRow) :
    List OutstandingDriverSummary :=
  ((KeyedFold.collect driverSlots (fun row => driverKey row.driverId) rows).rows.map
    Prod.snd).insertionSort fun a b =>
      b.totalRemainingKd < a.totalRemainingKd ∨
        a.totalRemainingKd = b.totalRemainingKd ∧ store.collate a.driverName b.driverName = true

def report (arrival : RowOrder Order) (query : OutstandingQuery) (bounds : ReportingBounds)
    (rows : List Order) : OutstandingResponse :=
  let filtered := store.filteredRows arrival query rows
  { rows := filtered
    totalCustomers := filtered.length
    totalInvoices := tally OutstandingRow.invoicesCount filtered
    driverSummaries := some (store.computeCanonicalOutstandingDriverSummaries filtered)
    totalDueKd := tally OutstandingRow.totalDueKd filtered
    remainingDueKd := tally OutstandingRow.remainingDueKd filtered
    source := "COLLECTIONS_ENGINE"
    blockedCount := (filtered.filter fun row => row.blocked = true).length
    lateCount := (filtered.filter fun row => row.status = .LATE).length
    riskCount := (filtered.filter fun row => row.status = .RISK).length
    generatedAt := store.visibility.env.now
    fromIso := bounds.fromIso
    toIso := bounds.toIso }

def emptyResponse (bounds : ReportingBounds) (totalDueKd remainingDueKd : ℤ) :
    OutstandingResponse :=
  { rows := []
    totalCustomers := 0
    totalInvoices := 0
    driverSummaries := none
    totalDueKd
    remainingDueKd
    source := "COLLECTIONS_ENGINE"
    blockedCount := 0
    lateCount := 0
    riskCount := 0
    generatedAt := store.visibility.env.now
    fromIso := bounds.fromIso
    toIso := bounds.toIso }

def aggOrders (arrival : Arrival) (query : OutstandingQuery) (actor : Option JwtUser)
    (bounds : ReportingBounds) : List Order :=
  store.listCollectionsReceivableAggOrders arrival (query.branchWhere actor) bounds.createdAt
    query.driver query.customer

def listOutstanding (arrival : Arrival) (query : OutstandingQuery)
    (actor : Option JwtUser) : SnapshotTx OutstandingResponse := do
  match resolveReportingBounds store.visibility.env.now query.fromDate query.toDate with
  | .error err => throw err
  | .ok bounds => do
      let collectionsSnapshot ← store.getCollectionsSnapshot arrival
      let aggOrders ← store.visibility.read .orders (store.aggOrders arrival query actor bounds)
      if aggOrders = [] then
        pure (store.emptyResponse bounds collectionsSnapshot.totalRemainingDebtKd
          collectionsSnapshot.totalRemainingDebtKd)
      else do
        let _ ← store.visibility.getCustomerVisibleDebtBatch (groupByCustomer aggOrders).keys
        pure (store.report arrival.report query bounds aggOrders)

end Store

end Outstanding

end SafariLaundry
