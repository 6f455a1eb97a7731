import SafariLaundry.CanonicalDebt
import SafariLaundry.Library.Decimal
import SafariLaundry.Library.OrderedMap

/-!
# The report of unpaid invoices

`getUnpaidInvoicesFromJournal` makes two passes.  The first finds invoiced orders by
their journal entries and keeps those with something open; the second adds unpaid
orders that the first did not list.  Each pass builds its where-clause out of the
filters in its own way, and the second by spreading objects over one another.
-/

namespace SafariLaundry.UnpaidInvoices

open Library Library.Bookkeeping List

inductive QueryDate
  | invalid
  | instant (time : Timestamp)
  deriving DecidableEq

structure UnpaidInvoicesQuery where
  (fromDate toDate : Option QueryDate)
  (branchId marketKpiBranchId : Option String)
  actorUserId : Option Uuid
  customerPhone : Option String

structure Books where
  db : Db
  entries : List JournalEntryRow
  entries_journal : entries.map JournalEntryRow.entry = db.journal

structure Arrival where
  orders : RowOrder Order
  entries : RowOrder JournalEntryRow
  lines : RowOrder FetchedLine

structure DateWindow where
  (since upTo : Option Timestamp)

namespace DateWindow

/-- `gte` and `lte`, each if given. -/
def Contains (window : DateWindow) (time : Timestamp) : Prop :=
  (∀ since ∈ window.since, since ≤ time) ∧ ∀ upTo ∈ window.upTo, time ≤ upTo
  deriving Decidable

/-- `from || to`. -/
def Given (window : DateWindow) : Prop := window.since ≠ none ∨ window.upTo ≠ none
  deriving Decidable

theorem contains_of_not_given {window : DateWindow} (hopen : ¬ window.Given)
    (time : Timestamp) : window.Contains time := by
  unfold Given at hopen
  rw [not_or, not_not, not_not] at hopen
  unfold Contains
  rw [hopen.1, hopen.2]
  simp

end DateWindow

def parseDate (message : String) : Option QueryDate → Except ServiceError (Option Timestamp)
  | none => .ok none
  | some .invalid => .error (.badRequest message)
  | some (.instant time) => .ok (some time)

def phoneDigits (query : UnpaidInvoicesQuery) : String :=
  trim (String.ofList ((query.customerPhone.getD "").toList.filter Char.isDigit))

def PhoneContains (phone : String) (customer : Customer) : Prop :=
  IncludesText customer.phone phone ∨ ∃ phone2 ∈ customer.phone2, IncludesText phone2 phone
  deriving Decidable

def driverOf (db : Db) (order : Order) : Option User :=
  order.driverId.bind fun id => findUser id db

def customerOf (db : Db) (order : Order) : Option Customer :=
  db.customers.find? order.customerId

/-- What may stand under the key `OR` of a clause on orders. -/
inductive OrClause
  /-- Not settled against the wallet, or on account. -/
  | unsettled
  | branch (branchId : String)
  | dated (window : DateWindow)

def OfBranch (db : Db) (branchId : String) (order : Order) : Prop :=
  (driverOf db order).bind User.branchId = some branchId ∨ order.driverId = none ∧
      (customerOf db order).bind Customer.originBranchId = some branchId
  deriving Decidable

def OrClause.Holds (db : Db) (order : Order) : OrClause → Prop
  | .unsettled => order.walletSettledAt = none ∨ order.posPaymentMethod = .DEBT_ON_ACCOUNT
  | .branch branchId => OfBranch db branchId order
  | .dated window =>
      (∃ time ∈ order.completedAt, window.Contains time) ∨
        order.completedAt = none ∧ window.Contains order.createdAt

instance (db : Db) (order : Order) (clause : OrClause) :
    Decidable (clause.Holds db order) := by
  cases clause
  · exact inferInstanceAs (Decidable (_ ∨ _))
  · exact inferInstanceAs (Decidable (OfBranch ..))
  · exact inferInstanceAs (Decidable (_ ∨ _))

/-- A where-clause on orders; keys that are absent ask for nothing. -/
structure OrderWhereInput where
  cashStatus : Option CashStatus := none
  statusNot : Option OrderStatus := none
  OR : Option OrClause := none
  customerPhone : Option String := none
  idNotIn : Option (List Uuid) := none
  driverId : Option Uuid := none

namespace OrderWhereInput

def spread (base later : OrderWhereInput) : OrderWhereInput where
  cashStatus := later.cashStatus.or base.cashStatus
  statusNot := later.statusNot.or base.statusNot
  OR := later.OR.or base.OR
  customerPhone := later.customerPhone.or base.customerPhone
  idNotIn := later.idNotIn.or base.idNotIn
  driverId := later.driverId.or base.driverId

def Matches (input : OrderWhereInput) (db : Db) (order : Order) : Prop :=
  (∀ status ∈ input.cashStatus, order.cashStatus = status) ∧
  (∀ status ∈ input.statusNot, order.status ≠ status) ∧
  (∀ clause ∈ input.OR, clause.Holds db order) ∧
  (∀ phone ∈ input.customerPhone, ∃ customer ∈ customerOf db order, PhoneContains phone customer) ∧
  (∀ ids ∈ input.idNotIn, order.id ∉ ids) ∧
  (∀ id ∈ input.driverId, order.driverId = some id)
  deriving Decidable

end OrderWhereInput

def orderBranchWhereForMarketDebt (branchId : Option String) : Option OrderWhereInput :=
  (trimmed branchId).map fun b => { OR := some (.branch b) }

def newest {α : Type} (createdAt : α → Timestamp) (order : RowOrder α) (cap : ℕ)
    (rows : List α) : List α :=
  ((order.arrange rows).insertionSort
    fun first second => createdAt second ≤ createdAt first).take cap

theorem newest_subset {α : Type} {createdAt : α → Timestamp} {order : RowOrder α} {cap : ℕ}
    {rows : List α} {row : α} (hmem : row ∈ newest createdAt order cap rows) : row ∈ rows := by
  have hsorted := mem_of_mem_take hmem
  exact (order.perm rows).subset ((perm_insertionSort _ _).subset hsorted)

theorem newest_map_nodup {α β : Type} {createdAt : α → Timestamp} {order : RowOrder α}
    {cap : ℕ} {rows : List α} (f : α → β) (hnodup : (rows.map f).Nodup) :
    ((newest createdAt order cap rows).map f).Nodup := by
  have hperm := (perm_insertionSort (fun first second => createdAt second ≤ createdAt first)
    (order.arrange rows)).trans (order.perm rows)
  exact (((take_sublist _ _).map f).nodup ((hperm.map f).nodup_iff.2 hnodup))

def customerIdFilter (phone : String) (db : Db) : Option (List Uuid) :=
  if phone = "" then none
  else some ((db.customers.rows.filter fun customer => PhoneContains phone customer).map
    Customer.id)

def branchOrderIdArray (arrival : Arrival) (query : UnpaidInvoicesQuery) (db : Db) :
    Option (List Uuid) :=
  if trimmed query.branchId = none then none
  else
    let input := (orderBranchWhereForMarketDebt query.branchId).getD {}
    some (((arrival.orders.arrange
      (db.orders.rows.filter fun order => input.Matches db order)).take 50000).map Order.id)

structure JournalEntryWhereInput where
  createdAt : DateWindow
  actorUserId : Option Uuid
  (customerIds orderIds : Option (List Uuid))

def JournalEntryWhereInput.Matches (input : JournalEntryWhereInput) (row : JournalEntryRow) :
    Prop :=
  (row.entry.source = "ORDER_INVOICE" ∨ row.entry.source = "INVOICE") ∧
  row.entry.orderId ≠ none ∧
  input.createdAt.Contains row.createdAt ∧
  (∀ actor ∈ input.actorUserId, row.entry.actorUserId = actor) ∧
  (∀ ids ∈ input.customerIds, ∃ id ∈ ids, row.entry.customerId = some id) ∧
  (∀ ids ∈ input.orderIds, ∃ id ∈ ids, row.entry.orderId = some id)
  deriving Decidable

/-- The actor asked for; the empty text asks for none. -/
def actorFilter (query : UnpaidInvoicesQuery) : Option Uuid :=
  query.actorUserId.filter fun id => id ≠ ""

def journalWhere (arrival : Arrival) (query : UnpaidInvoicesQuery) (window : DateWindow)
    (db : Db) : JournalEntryWhereInput where
  createdAt := window
  actorUserId := actorFilter query
  customerIds := customerIdFilter (phoneDigits query) db
  orderIds := branchOrderIdArray arrival query db

def rawEntries (arrival : Arrival) (query : UnpaidInvoicesQuery) (window : DateWindow)
    (books : Books) : List JournalEntryRow :=
  newest JournalEntryRow.createdAt arrival.entries 20000
    (books.entries.filter fun row => (journalWhere arrival query window books.db).Matches row)

def RefSegment.text : RefSegment → String
  | .word text => text
  | .id key => key

/-- The characters outside ASCII whose upper case is one of the letters looked for are
the long s and the dotless i. -/
def upperChar (c : Char) : Char :=
  if c.val = 0x17F then 'S' else if c.val = 0x131 then 'I' else c.toUpper

/-- The reference has the keyword in it; without a colon of its own it stands within one
segment. -/
def MentionsOveruse (ref : SourceRef) : Prop :=
  ∃ segment ∈ ref, IncludesText (String.ofList ((RefSegment.text segment).toList.map upperChar))
    "SUBSCRIPTION_OVERUSE"
  deriving Decidable

def collectEntry (map : OrderedMap Uuid JournalEntryRow) (row : JournalEntryRow) :
    OrderedMap Uuid JournalEntryRow :=
  match row.entry.orderId with
  | none => map
  | some orderId =>
      if map.get? orderId = none ∨ MentionsOveruse row.entry.sourceRef then
        map.set orderId row
      else map

def orderIdToEntry (rows : List JournalEntryRow) : OrderedMap Uuid JournalEntryRow :=
  rows.foldl collectEntry .empty

def openOrderIds (env : Env) (db : Db) (orderIds : List Uuid) : List Uuid :=
  orderIds.filter fun id => OpenIn (computeOrderRemainingBalancesBatch env db orderIds) id

/-! ## Rows -/

inductive RowDebtSource
  | INVOICE_SHORTFALL | SUBSCRIPTION_OVERUSE | OPEN_UNPAID_ORDER
  deriving DecidableEq

def RowDebtSource.sortRank : RowDebtSource → ℕ
  | .INVOICE_SHORTFALL => 0
  | .SUBSCRIPTION_OVERUSE => 1
  | .OPEN_UNPAID_ORDER => 2

inductive RowPaymentStatus
  | UNPAID | PARTIALLY_PAID | PAID

structure UnpaidInvoiceRow where
  orderId : Uuid
  issuedAt : Timestamp
  customerId : Uuid
  (customerPhone customerPhone2 : Option String)
  (branchId actorUserId : Option Uuid)
  actorUserRole : Option SafariRole
  (debtAmountKd paidKd remainingKd customerRunningRemainingKd : ℤ)
  entryCount : ℕ
  currentCustomerDebtKd : ℤ
  isOpen : Bool
  lastEntryAt : Timestamp
  debtSource : RowDebtSource
  posPaymentMethod : PosPaymentMethod
  paymentStatus : RowPaymentStatus

def rowPaymentStatus (paid remaining : ℤ) : RowPaymentStatus :=
  if remaining ≤ invoiceRemainingTolerance then .PAID
  else if invoiceRemainingTolerance < paid then .PARTIALLY_PAID
  else .UNPAID

def addArBalances (arrival : Arrival) (entries : List JournalEntryRow)
    (customerIds : List Uuid) (balances : BalanceMap) : BalanceMap :=
  ((arrival.lines.arrange (receivableLines customerIds entries)).foldl BalanceMap.collect
    balances).clamp

def journalRow (db : Db) (customerTotalAr : BalanceMap) (entry : JournalEntryRow)
    (order : Order) (remaining : ℤ) : UnpaidInvoiceRow :=
  let paid := max (order.totalPrice - remaining) 0
  let driver := driverOf db order
  let actor := driver.or (findUser entry.entry.actorUserId db)
  { orderId := order.id
    issuedAt := order.completedAt.getD order.createdAt
    customerId := order.customerId
    customerPhone := (customerOf db order).map Customer.phone
    customerPhone2 := (customerOf db order).bind Customer.phone2
    branchId := (driver.bind User.branchId).or ((customerOf db order).bind Customer.originBranchId)
    actorUserId := actor.map User.id
    actorUserRole := actor.map User.safariRole
    debtAmountKd := order.totalPrice
    paidKd := paid
    remainingKd := remaining
    customerRunningRemainingKd := 0
    entryCount := 1
    currentCustomerDebtKd := max ((customerTotalAr order.customerId).getD 0) 0
    isOpen := decide (invoiceRemainingTolerance < remaining)
    lastEntryAt := entry.createdAt
    debtSource := if MentionsOveruse entry.entry.sourceRef then .SUBSCRIPTION_OVERUSE
      else .INVOICE_SHORTFALL
    posPaymentMethod := order.posPaymentMethod
    paymentStatus := rowPaymentStatus paid remaining }

def journalRows (env : Env) (books : Books) (customerTotalAr : BalanceMap)
    (found : OrderedMap Uuid JournalEntryRow) : List UnpaidInvoiceRow :=
  let remainingByOrder := computeOrderRemainingBalancesBatch env books.db found.keys
  (openOrderIds env books.db found.keys).filterMap fun orderId => do
    let entry ← found.get? orderId
    let order ← books.db.orders.find? orderId
    some (journalRow books.db customerTotalAr entry order ((remainingByOrder orderId).getD 0))

def settlementActor (db : Db) (order : Order) : Option User :=
  if order.driverId = none then
    (db.transactionHistory.reverse.filter fun row =>
      row.orderId = some order.id ∧ row.type = .ORDER_WALLET_SETTLEMENT).findSome?
        fun row => findUser row.performedById db
  else none

def unlinkedRow (db : Db) (customerTotalAr : BalanceMap) (order : Order) :
    UnpaidInvoiceRow :=
  let driver := driverOf db order
  let actor := driver.or (settlementActor db order)
  let issued := order.completedAt.getD order.createdAt
  { orderId := order.id
    issuedAt := issued
    customerId := order.customerId
    customerPhone := (customerOf db order).map Customer.phone
    customerPhone2 := (customerOf db order).bind Customer.phone2
    branchId := ((driver.bind User.branchId).map trim).or
      ((customerOf db order).bind Customer.originBranchId)
    actorUserId := actor.map User.id
    actorUserRole := actor.map User.safariRole
    debtAmountKd := order.totalPrice
    paidKd := 0
    remainingKd := order.totalPrice
    customerRunningRemainingKd := 0
    entryCount := 0
    currentCustomerDebtKd := max ((customerTotalAr order.customerId).getD 0) 0
    isOpen := true
    lastEntryAt := issued
    debtSource := .OPEN_UNPAID_ORDER
    posPaymentMethod := order.posPaymentMethod
    paymentStatus := .UNPAID }

def listScope (query : UnpaidInvoicesQuery) : Option String :=
  (trimmed query.branchId).or (trimmed query.marketKpiBranchId)

/-- `marketBaseWhere` without its branch, and what `baseOrderUnpaid` begins with. -/
def unpaidWhere : OrderWhereInput where
  cashStatus := some .UNPAID
  statusNot := some .CANCELED
  OR := some .unsettled

def orderDateWhere (window : DateWindow) : Option OrderWhereInput :=
  if window.Given then some { OR := some (.dated window) } else none

def phoneWhere (phone : String) : Option OrderWhereInput :=
  if phone = "" then none else some { customerPhone := some phone }

def driverWhere (query : UnpaidInvoicesQuery) (db : Db) : Option OrderWhereInput :=
  match actorFilter query with
  | none => none
  | some id =>
      if (findUser id db).map User.safariRole = some .DRIVER then some { driverId := some id }
      else none

def coveredWhere (orderIdsCovered : List Uuid) : Option OrderWhereInput :=
  if orderIdsCovered = [] then none else some { idNotIn := some orderIdsCovered }

def baseOrderUnpaid (query : UnpaidInvoicesQuery) (window : DateWindow)
    (orderIdsCovered : List Uuid) (db : Db) : OrderWhereInput :=
  let spreads := [orderBranchWhereForMarketDebt (listScope query), orderDateWhere window,
    phoneWhere (phoneDigits query), coveredWhere orderIdsCovered, driverWhere query db]
  spreads.foldl (fun input later => input.spread (later.getD {})) unpaidWhere

def unlinkedUnpaid (arrival : Arrival) (query : UnpaidInvoicesQuery) (window : DateWindow)
    (orderIdsCovered : List Uuid) (db : Db) : List Order :=
  newest Order.createdAt arrival.orders 5000 (db.orders.rows.filter fun order =>
    (baseOrderUnpaid query window orderIdsCovered db).Matches db order)

def unlinkedRows (db : Db) (customerTotalAr : BalanceMap) (unlinked : List Order) :
    List UnpaidInvoiceRow :=
  (unlinked.filter fun order => 0 < order.totalPrice).map (unlinkedRow db customerTotalAr)

/-! ## The report -/

/-- `finalRows.sort`: open rows first, then the later issued; row keys are lower-case
hexadecimal, where `localeCompare` is the order of the characters. -/
def RowBefore (first second : UnpaidInvoiceRow) : Prop :=
  if first.isOpen ≠ second.isOpen then first.isOpen = true
  else if first.issuedAt ≠ second.issuedAt then second.issuedAt < first.issuedAt
  else if first.orderId ≠ second.orderId then first.orderId < second.orderId
  else first.debtSource.sortRank ≤ second.debtSource.sortRank
  deriving Decidable

def EarlierRow (first second : UnpaidInvoiceRow) : Prop :=
  if first.issuedAt ≠ second.issuedAt then first.issuedAt < second.issuedAt
  else if first.orderId ≠ second.orderId then first.orderId < second.orderId
  else first.debtSource.sortRank ≤ second.debtSource.sortRank
  deriving Decidable

def customerTimeline (rows : List UnpaidInvoiceRow) (customerId : Uuid) : List (Uuid × ℤ) :=
  running UnpaidInvoiceRow.remainingKd (fun row balance => (row.orderId, balance)) 0
    ((rows.filter fun row => row.customerId = customerId).insertionSort EarlierRow)

def attachCanonicalRunningRemaining (rows : List UnpaidInvoiceRow) : List UnpaidInvoiceRow :=
  rows.map fun row =>
    { row with
      customerRunningRemainingKd :=
        (((customerTimeline rows row.customerId).find? fun entry =>
          entry.1 = row.orderId).map Prod.snd).getD 0 }

structure ReportTotals where
  (totalDebt totalPaid openDebt openShortfallDebt openSubDebt openUnpaidOrderBalance : ℤ)
  totalInvOrderSum : ℤ
  orderInvTallied : List Uuid
  openInvoiceCount : ℕ
  openCustomers : List Uuid

namespace ReportTotals

def zero : ReportTotals := ⟨0, 0, 0, 0, 0, 0, 0, [], 0, []⟩

def addJournalRow (totals : ReportTotals) (row : UnpaidInvoiceRow) : ReportTotals :=
  let counted := if row.isOpen = true then row.remainingKd else 0
  { totals with
    totalDebt := totals.totalDebt + row.debtAmountKd
    totalPaid := totals.totalPaid + row.paidKd
    openDebt := totals.openDebt + counted
    openInvoiceCount := totals.openInvoiceCount + if row.isOpen = true then 1 else 0
    openCustomers := if row.isOpen = true then totals.openCustomers ++ [row.customerId]
      else totals.openCustomers
    openShortfallDebt := totals.openShortfallDebt +
      if row.debtSource = .INVOICE_SHORTFALL then counted else 0
    openSubDebt := totals.openSubDebt + if row.debtSource = .INVOICE_SHORTFALL then 0 else counted
    totalInvOrderSum := totals.totalInvOrderSum +
      if row.orderId ∈ totals.orderInvTallied then 0 else row.debtAmountKd
    orderInvTallied := totals.orderInvTallied ++ [row.orderId] }

def addUnlinkedRow (totals : ReportTotals) (row : UnpaidInvoiceRow) : ReportTotals :=
  { totals with
    totalDebt := totals.totalDebt + row.debtAmountKd
    totalInvOrderSum := totals.totalInvOrderSum + row.debtAmountKd
    orderInvTallied := totals.orderInvTallied ++ [row.orderId]
    openDebt := totals.openDebt + row.debtAmountKd
    openUnpaidOrderBalance := totals.openUnpaidOrderBalance + row.debtAmountKd
    openInvoiceCount := totals.openInvoiceCount + 1
    openCustomers := totals.openCustomers ++ [row.customerId] }

end ReportTotals

structure MarketUnpaidByMethod where
  (cashKd knetKd onlineKd paymentLinkKd otherKd : ℤ)

def methodTotal (method : PosPaymentMethod) (orders : List Order) : ℤ :=
  tally Order.totalPrice (orders.filter fun order => order.posPaymentMethod = method)

def foldMarketUnpaidByMethod (orders : List Order) : MarketUnpaidByMethod where
  cashKd := methodTotal .CASH orders
  knetKd := methodTotal .KNET orders
  onlineKd := methodTotal .ONLINE orders
  paymentLinkKd := methodTotal .PAYMENT_LINK orders
  otherKd := methodTotal .SUBSCRIPTION_WALLET orders + methodTotal .DEBT_ON_ACCOUNT orders

structure UnpaidInvoicesKpis where
  (invoiceCount openInvoiceCount customerCount openCustomerCount : ℕ)
  (totalInvoicesKd totalDebtKd totalPaidKd openDebtKd openShortfallDebtKd : ℤ)
  (openSubscriptionOveruseDebtKd openUnpaidOrderBalanceKd totalMarketUnpaidKd : ℤ)
  marketUnpaidByMethod : MarketUnpaidByMethod
  avgDebtPerInvoiceKd : ℤ

def marketOrders (query : UnpaidInvoicesQuery) (db : Db) : List Order :=
  let scope := (trimmed query.marketKpiBranchId).or (trimmed query.branchId)
  let input := unpaidWhere.spread ((orderBranchWhereForMarketDebt scope).getD {})
  db.orders.rows.filter fun order => input.Matches db order

def reportKpis (query : UnpaidInvoicesQuery) (db : Db) (totals : ReportTotals)
    (rows : List UnpaidInvoiceRow) : UnpaidInvoicesKpis where
  invoiceCount := rows.length
  openInvoiceCount := totals.openInvoiceCount
  customerCount := (rows.map UnpaidInvoiceRow.customerId).eraseDups.length
  openCustomerCount := totals.openCustomers.eraseDups.length
  totalInvoicesKd := totals.totalInvOrderSum
  totalDebtKd := totals.totalDebt
  totalPaidKd := totals.totalPaid
  openDebtKd := totals.openDebt
  openShortfallDebtKd := totals.openShortfallDebt
  openSubscriptionOveruseDebtKd := totals.openSubDebt
  openUnpaidOrderBalanceKd := totals.openUnpaidOrderBalance
  totalMarketUnpaidKd := tally Order.totalPrice (marketOrders query db)
  marketUnpaidByMethod := foldMarketUnpaidByMethod (marketOrders query db)
  avgDebtPerInvoiceKd :=
    if rows = [] then 0 else Decimal.roundHalfAway (totals.totalDebt / rows.length)

structure UnpaidInvoicesResponse where
  (fromDate toDate : Option Timestamp)
  kpis : UnpaidInvoicesKpis
  rows : List UnpaidInvoiceRow

def unpaidInvoicesReport (env : Env) (arrival : Arrival) (books : Books)
    (query : UnpaidInvoicesQuery) (window : DateWindow) : UnpaidInvoicesResponse :=
  let found := orderIdToEntry (rawEntries arrival query window books)
  let openCustomerIds := (openOrderIds env books.db found.keys).filterMap fun id =>
    (books.db.orders.find? id).map Order.customerId
  let customerTotalAr :=
    addArBalances arrival books.entries openCustomerIds.eraseDups .empty
  let first := journalRows env books customerTotalAr found
  let unlinked := unlinkedUnpaid arrival query window (first.map UnpaidInvoiceRow.orderId)
    books.db
  let newCustIds := ((unlinked.map Order.customerId).filter fun id =>
    customerTotalAr id = none).eraseDups
  let second := unlinkedRows books.db
    (addArBalances arrival books.entries newCustIds customerTotalAr) unlinked
  let totals := second.foldl ReportTotals.addUnlinkedRow
    (first.foldl ReportTotals.addJournalRow .zero)
  let rows := attachCanonicalRunningRemaining ((first ++ second).insertionSort RowBefore)
  ⟨window.since, window.upTo, reportKpis query books.db totals rows, rows⟩

def getUnpaidInvoicesFromJournal (env : Env) (arrival : Arrival) (books : Books)
    (query : UnpaidInvoicesQuery) : Except ServiceError UnpaidInvoicesResponse := do
  let since ← parseDate "Invalid `from` date" query.fromDate
  let upTo ← parseDate "Invalid `to` date" query.toDate
  .ok (unpaidInvoicesReport env arrival books query ⟨since, upTo⟩)

theorem mem_keys_collectEntry (map : OrderedMap Uuid JournalEntryRow) (row : JournalEntryRow)
    (orderId : Uuid) :
    orderId ∈ (collectEntry map row).keys ↔
      row.entry.orderId = some orderId ∨ orderId ∈ map.keys := by
  unfold collectEntry
  cases hrow : row.entry.orderId with
  | none => simp
  | some named =>
      dsimp only
      by_cases hset : map.get? named = none ∨ MentionsOveruse row.entry.sourceRef
      · rw [if_pos hset, OrderedMap.mem_keys_set, Option.some.injEq, eq_comm]
      · rw [if_neg hset]
        constructor
        · exact Or.inr
        · rintro (hnamed | hknown)
          · rw [not_or] at hset
            rw [← Option.some.inj hnamed]
            exact OrderedMap.get?_isSome.1 (Option.isSome_iff_ne_none.2 hset.1)
          · exact hknown

theorem mem_keys_orderIdToEntry {rows : List JournalEntryRow} {orderId : Uuid} :
    orderId ∈ (orderIdToEntry rows).keys ↔ ∃ row ∈ rows, row.entry.orderId = some orderId := by
  unfold orderIdToEntry
  rw [OrderedMap.mem_keys_foldl mem_keys_collectEntry]
  constructor
  · rintro (hnamed | hempty)
    · exact hnamed
    · cases hempty
  · exact Or.inl

theorem mem_table_of_openIn {env : Env} {db : Db} {orderIds : List Uuid} {orderId : Uuid}
    (hopen : OpenIn (computeOrderRemainingBalancesBatch env db orderIds) orderId) :
    ∃ order ∈ db.orders.rows, order.id = orderId := by
  cases hfind : (db.orders.rows.filter fun order => order.id ∈ orderIds).find?
      fun order => order.id = orderId with
  | none =>
      have hnone : computeOrderRemainingBalancesBatch env db orderIds orderId = none := by
        unfold computeOrderRemainingBalancesBatch
        rw [hfind]
      exact absurd hopen (not_openIn_of_none hnone)
  | some order =>
      have hid := List.find?_some hfind
      exact ⟨order, mem_of_mem_filter (mem_of_find?_eq_some hfind), of_decide_eq_true hid⟩

theorem journalRows_ids (env : Env) (books : Books) (customerTotalAr : BalanceMap)
    (found : OrderedMap Uuid JournalEntryRow) :
    (journalRows env books customerTotalAr found).map UnpaidInvoiceRow.orderId =
      openOrderIds env books.db found.keys := by
  unfold journalRows
  rw [map_filterMap]
  apply (filterMap_congr _).trans filterMap_some
  intro orderId hmem
  unfold openOrderIds at hmem
  obtain ⟨hkey, hopen⟩ := mem_filter.1 hmem
  obtain ⟨entry, hentry⟩ := Option.isSome_iff_exists.1 (OrderedMap.get?_isSome.2 hkey)
  obtain ⟨order, horder, hid⟩ := mem_table_of_openIn (of_decide_eq_true hopen)
  have hfind := Table.find?_of_mem horder
  rw [hid] at hfind
  rw [hentry, Option.bind_eq_bind, Option.bind_some, hfind, Option.bind_eq_bind,
    Option.bind_some, Option.map_some]
  exact congrArg some hid

theorem unlinkedRows_ids (db : Db) (customerTotalAr : BalanceMap) (unlinked : List Order) :
    (unlinkedRows db customerTotalAr unlinked).map UnpaidInvoiceRow.orderId =
      (unlinked.filter fun order => 0 < order.totalPrice).map Order.id := by
  unfold unlinkedRows
  rw [map_map]
  rfl

theorem attachCanonicalRunningRemaining_ids (rows : List UnpaidInvoiceRow) :
    (attachCanonicalRunningRemaining rows).map UnpaidInvoiceRow.orderId =
      rows.map UnpaidInvoiceRow.orderId := by
  unfold attachCanonicalRunningRemaining
  rw [map_map]
  rfl

/-! ## Which orders are listed -/

def discoveredIds (arrival : Arrival) (query : UnpaidInvoicesQuery) (window : DateWindow)
    (books : Books) : List Uuid :=
  (orderIdToEntry (rawEntries arrival query window books)).keys

def coveredIds (env : Env) (arrival : Arrival) (books : Books) (query : UnpaidInvoicesQuery)
    (window : DateWindow) : List Uuid :=
  openOrderIds env books.db (discoveredIds arrival query window books)

def addedOrders (env : Env) (arrival : Arrival) (books : Books) (query : UnpaidInvoicesQuery)
    (window : DateWindow) : List Order :=
  (unlinkedUnpaid arrival query window (coveredIds env arrival books query window)
    books.db).filter fun order => 0 < order.totalPrice

theorem report_ids_perm (env : Env) (arrival : Arrival) (books : Books)
    (query : UnpaidInvoicesQuery) (window : DateWindow) :
    ((unpaidInvoicesReport env arrival books query window).rows.map
        UnpaidInvoiceRow.orderId).Perm
      (coveredIds env arrival books query window ++
        (addedOrders env arrival books query window).map Order.id) := by
  unfold unpaidInvoicesReport
  rw [attachCanonicalRunningRemaining_ids]
  apply ((perm_insertionSort _ _).map _).trans
  rw [map_append, journalRows_ids, unlinkedRows_ids]
  exact List.Perm.refl _

/-- The clause that stands under `OR` in the end: the later key replaced the earlier. -/
def lastClause (query : UnpaidInvoicesQuery) (window : DateWindow) : OrClause :=
  if window.Given then .dated window
  else ((listScope query).map OrClause.branch).getD .unsettled

def DriverAsked (query : UnpaidInvoicesQuery) (db : Db) (order : Order) : Prop :=
  ∀ id ∈ actorFilter query, (findUser id db).map User.safariRole = some .DRIVER →
    order.driverId = some id
  deriving Decidable

def PhoneAsked (query : UnpaidInvoicesQuery) (db : Db) (order : Order) : Prop :=
  phoneDigits query ≠ "" →
    ∃ customer ∈ customerOf db order, PhoneContains (phoneDigits query) customer
  deriving Decidable

theorem trimmed_trimmed (text : Option String) : trimmed (trimmed text) = trimmed text := by
  cases text with
  | none => rfl
  | some t =>
      have hsome : ∀ u, trimmed (some u) = if trim u = "" then none else some (trim u) := by
        intro u
        unfold trimmed
        rw [Option.map_some, Option.filter_some]
        simp
      rw [hsome]
      by_cases hblank : trim t = ""
      · rw [if_pos hblank]
        rfl
      · rw [if_neg hblank, hsome, trim_trim, if_neg hblank]

theorem trimmed_listScope (query : UnpaidInvoicesQuery) :
    trimmed (listScope query) = listScope query := by
  unfold listScope
  cases hbranch : trimmed query.branchId with
  | none => rw [Option.none_or, trimmed_trimmed]
  | some b =>
      rw [Option.some_or, ← hbranch, trimmed_trimmed]

/-- After the spreading every key but `OR` holds what its own filter put there. -/
theorem baseOrderUnpaid_eq (query : UnpaidInvoicesQuery) (window : DateWindow)
    (covered : List Uuid) (db : Db) :
    baseOrderUnpaid query window covered db =
      { cashStatus := some .UNPAID
        statusNot := some .CANCELED
        OR := some (lastClause query window)
        customerPhone := if phoneDigits query = "" then none else some (phoneDigits query)
        idNotIn := if covered = [] then none else some covered
        driverId := (actorFilter query).filter fun id =>
          (findUser id db).map User.safariRole = some .DRIVER } := by
  have hbranch : (orderBranchWhereForMarketDebt (listScope query)).getD {} =
      { OR := (listScope query).map OrClause.branch } := by
    unfold orderBranchWhereForMarketDebt
    rw [trimmed_listScope]
    cases listScope query with
    | none => rfl
    | some b => rfl
  have hdates : (orderDateWhere window).getD {} =
      { OR := if window.Given then some (.dated window) else none } := by
    unfold orderDateWhere
    by_cases hgiven : window.Given
    · rw [if_pos hgiven, if_pos hgiven, Option.getD_some]
    · rw [if_neg hgiven, if_neg hgiven, Option.getD_none]
  have hphone : (phoneWhere (phoneDigits query)).getD {} =
      { customerPhone :=
          if phoneDigits query = "" then none else some (phoneDigits query) } := by
    unfold phoneWhere
    by_cases hblank : phoneDigits query = ""
    · rw [if_pos hblank, if_pos hblank, Option.getD_none]
    · rw [if_neg hblank, if_neg hblank, Option.getD_some]
  have hcovered : (coveredWhere covered).getD {} =
      { idNotIn := if covered = [] then none else some covered } := by
    unfold coveredWhere
    by_cases hnone : covered = []
    · rw [if_pos hnone, if_pos hnone, Option.getD_none]
    · rw [if_neg hnone, if_neg hnone, Option.getD_some]
  have hdriver : (driverWhere query db).getD {} =
      { driverId := (actorFilter query).filter fun id =>
          (findUser id db).map User.safariRole = some .DRIVER } := by
    unfold driverWhere
    cases actorFilter query with
    | none => rfl
    | some id =>
        rw [Option.filter_some]
        by_cases hrole : (findUser id db).map User.safariRole = some .DRIVER
        · simp [hrole]
        · simp [hrole]
  have hlast : (if window.Given then some (OrClause.dated window) else none).or
      (((listScope query).map OrClause.branch).or (some .unsettled)) =
        some (lastClause query window) := by
    unfold lastClause
    by_cases hgiven : window.Given
    · rw [if_pos hgiven, if_pos hgiven, Option.some_or]
    · rw [if_neg hgiven, if_neg hgiven, Option.none_or]
      cases listScope query with
      | none => rfl
      | some b => rfl
  unfold baseOrderUnpaid
  simp only [foldl_cons, foldl_nil, hbranch, hdates, hphone, hcovered, hdriver,
    OrderWhereInput.spread, unpaidWhere, Option.or_none, Option.none_or, hlast]

theorem matches_baseOrderUnpaid {query : UnpaidInvoicesQuery} {window : DateWindow}
    {covered : List Uuid} {db : Db} {order : Order} :
    (baseOrderUnpaid query window covered db).Matches db order ↔
      order.cashStatus = .UNPAID ∧ order.status ≠ .CANCELED ∧
        (lastClause query window).Holds db order ∧ PhoneAsked query db order ∧
        order.id ∉ covered ∧ DriverAsked query db order := by
  rw [baseOrderUnpaid_eq]
  unfold OrderWhereInput.Matches
  simp only [Option.mem_def, Option.some.injEq, forall_eq']
  apply and_congr_right'
  apply and_congr_right'
  apply and_congr_right'
  refine and_congr ?_ (and_congr ?_ ?_)
  · unfold PhoneAsked
    by_cases hblank : phoneDigits query = ""
    · simp [hblank]
    · simp [hblank]
  · by_cases hnone : covered = []
    · simp [hnone]
    · simp [hnone]
  · unfold DriverAsked
    simp [Option.filter_eq_some_iff]

def FirstPass (env : Env) (arrival : Arrival) (books : Books) (query : UnpaidInvoicesQuery)
    (window : DateWindow) (order : Order) : Prop :=
  (∃ row ∈ rawEntries arrival query window books, row.entry.orderId = some order.id) ∧
    OpenIn (computeOrderRemainingBalancesBatch env books.db
      (discoveredIds arrival query window books)) order.id

def SecondPass (env : Env) (arrival : Arrival) (books : Books) (query : UnpaidInvoicesQuery)
    (window : DateWindow) (order : Order) : Prop :=
  order ∈ unlinkedUnpaid arrival query window (coveredIds env arrival books query window)
    books.db ∧ 0 < order.totalPrice

section Listed

variable {env : Env} {arrival : Arrival} {books : Books} {query : UnpaidInvoicesQuery}
  {window : DateWindow} {order : Order}

theorem mem_coveredIds :
    order.id ∈ coveredIds env arrival books query window ↔
      FirstPass env arrival books query window order := by
  unfold coveredIds openOrderIds FirstPass
  rw [mem_filter, decide_eq_true_eq]
  unfold discoveredIds
  rw [mem_keys_orderIdToEntry]

theorem mem_unlinkedUnpaid {covered : List Uuid} {db : Db}
    (hmem : order ∈ unlinkedUnpaid arrival query window covered db) :
    order ∈ db.orders.rows ∧ order.cashStatus = .UNPAID ∧ order.status ≠ .CANCELED ∧
      (lastClause query window).Holds db order ∧ PhoneAsked query db order ∧
      order.id ∉ covered ∧ DriverAsked query db order := by
  have hasked := mem_filter.1 (newest_subset hmem)
  exact ⟨hasked.1, matches_baseOrderUnpaid.1 (of_decide_eq_true hasked.2)⟩

theorem mem_report_ids {orderId : Uuid} :
    orderId ∈ (unpaidInvoicesReport env arrival books query window).rows.map
        UnpaidInvoiceRow.orderId ↔
      ∃ order ∈ books.db.orders.rows, order.id = orderId ∧
        (FirstPass env arrival books query window order ∨
          SecondPass env arrival books query window order) := by
  rw [(report_ids_perm env arrival books query window).mem_iff, mem_append]
  constructor
  · rintro (hfirst | hsecond)
    · obtain ⟨order, horder, rfl⟩ :=
        mem_table_of_openIn (of_decide_eq_true (mem_filter.1 hfirst).2)
      exact ⟨order, horder, rfl, .inl (mem_coveredIds.1 hfirst)⟩
    · obtain ⟨order, hadded, rfl⟩ := mem_map.1 hsecond
      obtain ⟨hunlinked, hcosts⟩ := mem_filter.1 hadded
      exact ⟨order, (mem_unlinkedUnpaid hunlinked).1, rfl,
        .inr ⟨hunlinked, of_decide_eq_true hcosts⟩⟩
  · rintro ⟨order, horder, rfl, hfirst | hsecond⟩
    · exact .inl (mem_coveredIds.2 hfirst)
    · exact .inr (mem_map_of_mem (mem_filter.2 ⟨hsecond.1, decide_eq_true hsecond.2⟩))

theorem report_ids_nodup (env : Env) (arrival : Arrival) (books : Books)
    (query : UnpaidInvoicesQuery) (window : DateWindow) :
    ((unpaidInvoicesReport env arrival books query window).rows.map
      UnpaidInvoiceRow.orderId).Nodup := by
  rw [(report_ids_perm env arrival books query window).nodup_iff, nodup_append]
  refine ⟨?_, ?_, ?_⟩
  · exact List.Nodup.filter _ (OrderedMap.keys_nodup _)
  · have hrows : (((books.db.orders.rows.filter fun order =>
        (baseOrderUnpaid query window (coveredIds env arrival books query window)
          books.db).Matches books.db order)).map Order.id).Nodup :=
      (filter_sublist.map _).nodup books.db.orders.keysDistinct
    exact (filter_sublist.map _).nodup (newest_map_nodup Order.id hrows)
  · intro first hfirst second hsecond heq
    obtain ⟨order, hadded, rfl⟩ := mem_map.1 hsecond
    obtain ⟨_, _, _, _, _, huncovered, _⟩ :=
      mem_unlinkedUnpaid (mem_filter.1 hadded).1
    exact huncovered (heq ▸ hfirst)

end Listed

theorem journalRows_open {env : Env} {books : Books} {customerTotalAr : BalanceMap}
    {found : OrderedMap Uuid JournalEntryRow} {row : UnpaidInvoiceRow}
    (hrow : row ∈ journalRows env books customerTotalAr found) :
    row.isOpen = true := by
  unfold journalRows at hrow
  obtain ⟨orderId, hopen, hbuilt⟩ := mem_filterMap.1 hrow
  have hover := of_decide_eq_true (mem_filter.1 hopen).2
  obtain ⟨entry, _, hbuilt⟩ := Option.bind_eq_some_iff.1 hbuilt
  obtain ⟨order, _, hbuilt⟩ := Option.bind_eq_some_iff.1 hbuilt
  rw [← Option.some.inj hbuilt]
  exact decide_eq_true hover

theorem foldl_addJournalRow {rows : List UnpaidInvoiceRow} (totals : ReportTotals)
    (hopen : ∀ row ∈ rows, row.isOpen = true) :
    (rows.foldl ReportTotals.addJournalRow totals).openDebt =
        totals.openDebt + tally UnpaidInvoiceRow.remainingKd rows ∧
      (rows.foldl ReportTotals.addJournalRow totals).openInvoiceCount =
        totals.openInvoiceCount + rows.length := by
  induction rows generalizing totals with
  | nil => simp
  | cons row rest ih =>
      have hrow := hopen row (mem_cons_self ..)
      obtain ⟨hdebt, hcount⟩ := ih (totals.addJournalRow row)
        fun other hother => hopen other (mem_cons_of_mem row hother)
      rw [foldl_cons, hdebt, hcount, tally_cons, length_cons]
      unfold ReportTotals.addJournalRow
      simp only [hrow, if_true]
      constructor
      · ring
      · omega

theorem foldl_addUnlinkedRow {rows : List UnpaidInvoiceRow} (totals : ReportTotals)
    (hwhole : ∀ row ∈ rows, row.debtAmountKd = row.remainingKd) :
    (rows.foldl ReportTotals.addUnlinkedRow totals).openDebt =
        totals.openDebt + tally UnpaidInvoiceRow.remainingKd rows ∧
      (rows.foldl ReportTotals.addUnlinkedRow totals).openInvoiceCount =
        totals.openInvoiceCount + rows.length := by
  induction rows generalizing totals with
  | nil => simp
  | cons row rest ih =>
      have hrow := hwhole row (mem_cons_self ..)
      obtain ⟨hdebt, hcount⟩ := ih (totals.addUnlinkedRow row)
        fun other hother => hwhole other (mem_cons_of_mem row hother)
      rw [foldl_cons, hdebt, hcount, tally_cons, length_cons]
      unfold ReportTotals.addUnlinkedRow
      simp only [hrow]
      constructor
      · ring
      · omega

theorem tally_attachCanonicalRunningRemaining (rows : List UnpaidInvoiceRow) :
    tally UnpaidInvoiceRow.remainingKd (attachCanonicalRunningRemaining rows) =
      tally UnpaidInvoiceRow.remainingKd rows := by
  unfold attachCanonicalRunningRemaining
  rw [tally_map]

theorem totals_of_passes {first second : List UnpaidInvoiceRow}
    (hfirst : ∀ row ∈ first, row.isOpen = true)
    (hsecond : ∀ row ∈ second, row.debtAmountKd = row.remainingKd) :
    let totals := second.foldl ReportTotals.addUnlinkedRow
      (first.foldl ReportTotals.addJournalRow .zero)
    let rows := attachCanonicalRunningRemaining ((first ++ second).insertionSort RowBefore)
    totals.openDebt = tally UnpaidInvoiceRow.remainingKd rows ∧
      totals.openInvoiceCount = rows.length := by
  intro totals rows
  obtain ⟨hfirstDebt, hfirstCount⟩ := foldl_addJournalRow .zero hfirst
  obtain ⟨hdebt, hcount⟩ :=
    foldl_addUnlinkedRow (first.foldl ReportTotals.addJournalRow .zero) hsecond
  have hperm := perm_insertionSort RowBefore (first ++ second)
  constructor
  · rw [hdebt, hfirstDebt, tally_attachCanonicalRunningRemaining, tally_perm _ hperm, tally_append]
    exact congrArg (· + _) (zero_add _)
  · have hlength : rows.length = (first ++ second).length :=
      (length_map _).trans hperm.length_eq
    rw [hcount, hfirstCount, hlength, length_append]
    exact congrArg (· + _) (Nat.zero_add _)

theorem report_kpis (env : Env) (arrival : Arrival) (books : Books)
    (query : UnpaidInvoicesQuery) (window : DateWindow) :
    let report := unpaidInvoicesReport env arrival books query window
    report.kpis.openDebtKd = tally UnpaidInvoiceRow.remainingKd report.rows ∧
      report.kpis.openInvoiceCount = report.kpis.invoiceCount := by
  apply totals_of_passes
  · intro row hrow
    exact journalRows_open hrow
  · intro row hrow
    obtain ⟨order, _, rfl⟩ := mem_map.1 hrow
    rfl

end SafariLaundry.UnpaidInvoices
