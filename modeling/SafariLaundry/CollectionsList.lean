import SafariLaundry.CanonicalProjection
import SafariLaundry.DebtVisibility
import SafariLaundry.Library.Budgets
import SafariLaundry.UnpaidInvoices

/-!
# The list of unpaid collection orders

Open orders come from several queries, each order once.  What is open on them is shown oldest
order first, up to the debt that is visible of the customer.  Amounts are minor units, and
fils once they are texts.
-/

namespace SafariLaundry

open Library Library.Bookkeeping Library.Transaction

structure JwtUser where
  userId : Uuid
  role : SafariRole
  branchId : Option Uuid

structure CollectionsArgs where
  branchId : Option Uuid
  actor : Option JwtUser
  customerId : Option Uuid
  now : Timestamp

inductive CollectionsRead
  | listed | portal | portalRemaining | openDebt | remaining | fetchedDebt | filteredDebt
  | gap | gapRemaining | gapOpenDebt | mergedRemaining | shownDebt | linkDebt | links

/-- What is selected with an order besides its columns, by the read that fetched it. -/
structure CollectionOrderDetails where
  (serialNumber invoiceNumber displayName phone phone2 originBranchName : Option String)
  (driverFullName driverBranchName : Option String)
  reminderCount : ℕ
  lastReminderAt : Option Timestamp
  ccCollectionPaymentWaLocked : Bool
  lineItems : List OrderLineItem

inductive ChargeAmount
  | text (raw : String)
  | number (raw : ℚ)
  | other

structure LinkCharge where
  amountKd : ChargeAmount
  createdAt : Option String

structure LinkFullBalance where
  (amountKd sentAt : Option String)

structure LinkMetadata where
  fullBalance : Option LinkFullBalance
  charge : Option LinkCharge

structure LinkOrder where
  customerId : Uuid
  posHostedPaymentUrl : String
  posGatewayMetadata : Option LinkMetadata

/-- What a call works on.  No transaction holds its reads together, so each has a store of
its own. -/
structure CollectionsStore where
  seen : CollectionsRead → VisibilityStore
  arrival : RowOrder Order
  details : Uuid → CollectionOrderDetails
  linkOrders : List LinkOrder
  /-- What `new Prisma.Decimal` makes of a text, if it does not throw. -/
  decimalOf : String → Option ℚ

structure CollectionLineItem where
  label : Option String
  (quantity unitPriceKd lineTotalKd : ℤ)

structure CollectionRow where
  (orderId customerId : Uuid)
  readableId : String
  invoiceNumber : Option String
  (customerName customerPhone : String)
  /-- In fils, as `toFixed(3)` gives it. -/
  amountKd : ℤ
  paymentMethod : PosPaymentMethod
  paymentUrl : Option String
  createdAtIso : Timestamp
  (invoiceAgeDays reminderCount : ℕ)
  lastReminderAtIso : Option Timestamp
  (canRemindNow ccCollectionPaymentWaLocked canSendCollectionPaymentWa : Bool)
  (branchName driverName : Option String)
  lineItems : List CollectionLineItem
  fullBalanceLinkKd : Option ℤ
  (fullBalancePaymentUrl fullBalanceLinkSentAtIso : Option String)

structure FullBalanceLink where
  amountKd : ℤ
  url : String
  sentAtIso : Option String

def CollectionRow.withLink (links : Uuid → Option FullBalanceLink) (row : CollectionRow) :
    CollectionRow :=
  { row with
    fullBalanceLinkKd := (links row.customerId).map FullBalanceLink.amountKd
    fullBalancePaymentUrl := (links row.customerId).map FullBalanceLink.url
    fullBalanceLinkSentAtIso := (links row.customerId).bind FullBalanceLink.sentAtIso }

def toFixed3 (amount : ℚ) : ℤ := Decimal.roundHalfAway (amount * 1000)

theorem abs_toFixed3_sub_le (minor : ℤ) : |10 * toFixed3 (ofMinor minor) - minor| ≤ 5 := by
  have hscale : ofMinor minor * 1000 = minor / 10 := by
    unfold ofMinor
    ring
  have herror := Decimal.abs_roundHalfAway_sub_le (minor / 10 : ℚ)
  have hshift : ((10 * toFixed3 (ofMinor minor) - minor : ℤ) : ℚ) =
      10 * (Decimal.roundHalfAway (minor / 10 : ℚ) - minor / 10) := by
    unfold toFixed3
    rw [hscale]
    push_cast
    ring
  have hcast : ((|10 * toFixed3 (ofMinor minor) - minor| : ℤ) : ℚ) ≤ ((5 : ℤ) : ℚ) := by
    rw [Int.cast_abs, hshift, abs_mul, abs_of_nonneg (by norm_num : (0 : ℚ) ≤ 10)]
    push_cast
    linarith
  exact Int.cast_le.1 hcast

theorem toFixed3_of_dvd {minor : ℤ} (hwhole : 10 ∣ minor) : 10 * toFixed3 (ofMinor minor) = minor := by
  have herror := abs_toFixed3_sub_le minor
  rw [abs_le] at herror
  omega

/-- What the caller may see of the orders. -/
inductive BranchWhere
  | driver (userId : Uuid)
  | branch (branchId : Uuid)

namespace CollectionsArgs

variable (args : CollectionsArgs)

def customer : Option Uuid := args.customerId.filter fun id => id ≠ ""

def effectiveBranchId : Option Uuid :=
  (args.branchId.orElse fun _ => args.actor.bind fun actor =>
    if actor.role = .MANAGER then actor.branchId else none).filter fun id => id ≠ ""

def branchWhere : Option BranchWhere :=
  match args.actor.filter fun actor => actor.role = .DRIVER with
  | some driver => some (.driver driver.userId)
  | none => args.effectiveBranchId.map .branch

end CollectionsArgs

def Collectible (db : Db) (order : Order) : Prop :=
  order.cashStatus = .UNPAID ∨ order.posPaymentMethod = .DEBT_ON_ACCOUNT ∨
    order.posPaymentMethod = .ONLINE ∨ order.posPaymentMethod = .PAYMENT_LINK ∨
    order.posPaymentMethod = .SUBSCRIPTION_WALLET ∧ 0 < (db.wallets order.customerId).debt
  deriving Decidable

/-- The branch clause is spread over the others last: its key `OR` takes the place of the one
that asks for collectible orders. -/
def InScope (db : Db) (scope : Option BranchWhere) (order : Order) : Prop :=
  match scope with
  | none => Collectible db order
  | some (.driver userId) => Collectible db order ∧ order.driverId = some userId
  | some (.branch branchId) => UnpaidInvoices.OfBranch db branchId order

instance (db : Db) (scope : Option BranchWhere) : DecidablePred (InScope db scope) := fun order => by
  unfold InScope
  split <;> infer_instance

def collectibleRemaining (remainingMap : Uuid → Option ℤ) (r : Order) : ℤ :=
  let remaining := (remainingMap r.id).getD r.totalPrice
  if remaining ≤ invoiceRemainingTolerance ∧ r.status = .PENDING ∧ r.cashStatus = .UNPAID then
    r.totalPrice
  else remaining

/-- The last test of a row, by how it is paid; `otherwise` is for methods that are settled
at once. -/
def PassesMethod (openDebtOrderIds : List Uuid) (otherwise : Prop) (r : Order) : Prop :=
  r.cashStatus = .UNPAID ∨
    match r.posPaymentMethod with
    | .ONLINE | .PAYMENT_LINK | .SUBSCRIPTION_WALLET => True
    | .DEBT_ON_ACCOUNT => r.id ∈ openDebtOrderIds
    | .CASH | .KNET => otherwise

instance (openDebtOrderIds : List Uuid) (otherwise : Prop) [Decidable otherwise] (r : Order) :
    Decidable (PassesMethod openDebtOrderIds otherwise r) := by
  unfold PassesMethod
  cases r.posPaymentMethod <;> infer_instance

def customersOf (rows : List Order) : List Uuid := (rows.map Order.customerId).eraseDups

structure OpenCollections where
  rows : List Order
  remainingByOrder : Uuid → Option ℤ

namespace OpenCollections

def filterRows (passes : Order → Prop) [DecidablePred passes] (rows : List Order)
    (remainingByOrder : Uuid → Option ℤ) : OpenCollections where
  rows := rows.filter fun r =>
    ¬ collectibleRemaining remainingByOrder r ≤ invoiceRemainingTolerance ∧ passes r
  remainingByOrder := remainingByOrder

def raw (found : OpenCollections) (r : Order) : ℤ := collectibleRemaining found.remainingByOrder r

def rowSum (found : OpenCollections) (customerId : Uuid) : ℤ :=
  tally found.raw (found.rows.filter fun r => r.customerId = customerId)

def push (found : OpenCollections) (r : Order) : OpenCollections :=
  if (∃ f ∈ found.rows, f.id = r.id) ∨ found.raw r ≤ invoiceRemainingTolerance then found
  else { found with rows := found.rows ++ [r] }

def pullBack (visible : Uuid → ℤ) (rows : List Order) (found : OpenCollections) (customerId : Uuid) :
    OpenCollections :=
  if visible customerId - found.rowSum customerId ≤ invoiceRemainingTolerance then found
  else (rows.filter fun r => r.customerId = customerId).foldl push found

def gapCustomerIds (visible : Uuid → ℤ) (found : OpenCollections) : List Uuid :=
  (customersOf found.rows).filter fun id =>
    invoiceRemainingTolerance < visible id - found.rowSum id

end OpenCollections

def allocationOrder (rows : List Order) : List Order :=
  rows.insertionSort fun first second => first.createdAt ≤ second.createdAt

/-- `replace(/[\s-]/g, '').trim()`. -/
def plainPhone (phone : Option String) : Option String :=
  trimmed (phone.map fun text =>
    String.ofList (text.toList.filter fun c => ¬ (isSpace c = true ∨ c = '-')))

def CollectionOrderDetails.customerPhone (details : CollectionOrderDetails) : String :=
  ((plainPhone details.phone).or (plainPhone details.phone2)).getD ""

def CollectionOrderDetails.customerName (details : CollectionOrderDetails) : String :=
  (trimmed details.displayName).getD
    (if details.customerPhone = "" then "Customer" else details.customerPhone)

def CollectionOrderDetails.readableId (details : CollectionOrderDetails) (id : Uuid) : String :=
  ((trimmed details.serialNumber).or (trimmed details.invoiceNumber)).getD
    ("#" ++ String.ofList ((id.toList.drop (id.toList.length - 6)).map Char.toUpper))

def collectionLineItem (li : OrderLineItem) : CollectionLineItem where
  label := li.label
  quantity := li.quantity
  unitPriceKd := toFixed3 (ofMinor li.unitPrice)
  lineTotalKd := toFixed3 (ofMinor li.quantity * ofMinor li.unitPrice)

def collectionDayMs : ℕ := 24 * 60 * 60 * 1000

def orderReminderCooldownMs : ℕ := 150 * 60 * 1000

def CollectionOrderDetails.canRemindNow (details : CollectionOrderDetails) (now : Timestamp) : Bool :=
  match details.lastReminderAt with
  | none => true
  | some last => decide (last + orderReminderCooldownMs ≤ now)

/-! ## The method -/

namespace CollectionsStore

variable (store : CollectionsStore)

def newestFirst (rows : List Order) : List Order :=
  (store.arrival.arrange rows).insertionSort fun first second => second.createdAt ≤ first.createdAt

def listOrders (args : CollectionsArgs) (db : Db) : List Order :=
  let rows := store.newestFirst (db.orders.rows.filter fun order =>
    order.status ≠ .CANCELED ∧ (∀ id ∈ args.customer, order.customerId = id) ∧
      InScope db args.branchWhere order)
  if args.customer = none then rows.take 200 else rows

def remainingBatch (moment : CollectionsRead) (orderIds : List Uuid) :
    SnapshotTx (Uuid → Option ℤ) :=
  if orderIds = [] then pure fun _ => none
  else (store.seen moment).read .orders
    (computeOrderRemainingBalancesBatch (store.seen moment).env (store.seen moment).db orderIds)

def resolveOpenDebtOrderIds (moment : CollectionsRead) (rows : List Order) :
    SnapshotTx (List Uuid) := do
  let candidates := (rows.filter fun r => r.posPaymentMethod = .DEBT_ON_ACCOUNT).map Order.id
  let remainingByOrder ← store.remainingBatch moment candidates
  pure (candidates.filter fun id => invoiceRemainingTolerance < (remainingByOrder id).getD 0)

def visibleDebt (moment : CollectionsRead) (customerIds : List Uuid) : SnapshotTx (Uuid → ℤ) := do
  let debts ← (store.seen moment).getCustomerVisibleDebtBatch customerIds
  pure fun id => ((debts id).map CustomerVisibleDebt.remainingDebtKd).getD 0

def mergeCustomerOpenCollectibleRows (fetchedAt remainingAt : CollectionsRead)
    (customerIds knownIds : List Uuid) : SnapshotTx (List Order) :=
  if customerIds = [] then pure []
  else do
    let extra ← (store.seen fetchedAt).read .orders (store.newestFirst
      ((store.seen fetchedAt).db.orders.rows.filter fun order =>
        order.customerId ∈ customerIds ∧ order.id ∉ knownIds ∧ order.status ≠ .CANCELED))
    let remainingMap ← store.remainingBatch remainingAt (extra.map Order.id)
    pure (extra.filter fun r =>
      invoiceRemainingTolerance < (remainingMap r.id).getD r.totalPrice ∨
        r.status = .PENDING ∧ r.cashStatus = .UNPAID ∧ invoiceRemainingTolerance < r.totalPrice)

def customerRows (customerId : Uuid) (listed : List Order) : SnapshotTx (List Order) := do
  let merged ← store.mergeCustomerOpenCollectibleRows .portal .portalRemaining [customerId]
    (listed.map Order.id)
  pure (listed ++ merged)

def pullBackRows (rows : List Order) (found : OpenCollections) : SnapshotTx OpenCollections :=
  if rows = [] then pure found
  else do
    let visible ← store.visibleDebt .fetchedDebt (customersOf rows)
    pure ((customersOf rows).foldl (OpenCollections.pullBack visible rows) found)

/-- Older orders, beyond the two hundred, are fetched where it still does. -/
def closeGaps (rows : List Order) (found : OpenCollections) : SnapshotTx OpenCollections :=
  if found.rows = [] then pure found
  else do
    let visible ← store.visibleDebt .filteredDebt (customersOf found.rows)
    let gapCustomerIds := found.gapCustomerIds visible
    let extraRows ← store.mergeCustomerOpenCollectibleRows .gap .gapRemaining gapCustomerIds
      (rows.map Order.id)
    if extraRows = [] then pure found
    else do
      let openDebtOrderIds ← store.resolveOpenDebtOrderIds .gapOpenDebt (rows ++ extraRows)
      let remainingByOrder ← store.remainingBatch .mergedRemaining ((rows ++ extraRows).map Order.id)
      pure (OpenCollections.filterRows
        (fun r => PassesMethod openDebtOrderIds (r.customerId ∈ gapCustomerIds) r)
        (rows ++ extraRows) remainingByOrder)

def openCollections (args : CollectionsArgs) : SnapshotTx OpenCollections := do
  let listed ← (store.seen .listed).read .orders (store.listOrders args (store.seen .listed).db)
  match args.customer with
  | some customerId => do
      let rows ← store.customerRows customerId listed
      let _ ← store.resolveOpenDebtOrderIds .openDebt rows
      let remainingByOrder ← store.remainingBatch .remaining (rows.map Order.id)
      pure (OpenCollections.filterRows (fun _ => True) rows remainingByOrder)
  | none => do
      let openDebtOrderIds ← store.resolveOpenDebtOrderIds .openDebt listed
      let remainingByOrder ← store.remainingBatch .remaining (listed.map Order.id)
      let found ← store.pullBackRows listed
        (OpenCollections.filterRows (PassesMethod openDebtOrderIds False) listed remainingByOrder)
      store.closeGaps listed found

def projectRow (now : Timestamp) (r : Order) (displayRemaining : ℤ) : CollectionRow :=
  let details := store.details r.id
  { orderId := r.id
    customerId := r.customerId
    readableId := details.readableId r.id
    invoiceNumber := details.invoiceNumber
    customerName := details.customerName
    customerPhone := details.customerPhone
    amountKd := toFixed3 (ofMinor displayRemaining)
    paymentMethod := r.posPaymentMethod
    paymentUrl := r.posHostedPaymentUrl
    createdAtIso := r.createdAt
    invoiceAgeDays := (now - r.createdAt) / collectionDayMs
    reminderCount := details.reminderCount
    lastReminderAtIso := details.lastReminderAt
    canRemindNow := details.canRemindNow now
    ccCollectionPaymentWaLocked := details.ccCollectionPaymentWaLocked
    canSendCollectionPaymentWa := details.canRemindNow now
    branchName := (trimmed details.driverBranchName).or (trimmed details.originBranchName)
    driverName := trimmed details.driverFullName
    lineItems := details.lineItems.map collectionLineItem
    fullBalanceLinkKd := none
    fullBalancePaymentUrl := none
    fullBalanceLinkSentAtIso := none }

def readCollectionPaymentLinkChargeKd (charge : LinkCharge) : Option ℚ :=
  match charge.amountKd with
  | .text raw => if trim raw = "" then none else store.decimalOf raw
  | .number raw => some raw
  | .other => none

def chargeLink (visible : ℤ) (url : String) (metadata : LinkMetadata) : Option FullBalanceLink :=
  metadata.charge.bind fun charge => (store.readCollectionPaymentLinkChargeKd charge).bind fun amount =>
    if |amount - ofMinor visible| ≤ ofMinor invoiceRemainingTolerance then
      some ⟨toFixed3 amount, url, charge.createdAt⟩
    else none

def fullBalanceLink (visible : ℤ) : List LinkOrder → Except ServiceError (Option FullBalanceLink)
  | [] => .ok none
  | order :: rest =>
      match order.posGatewayMetadata.filter fun _ => order.posHostedPaymentUrl ≠ "" with
      | none => fullBalanceLink visible rest
      | some metadata =>
          match metadata.fullBalance.bind fun full =>
              (full.amountKd.filter fun raw => trim raw ≠ "").map fun raw => (raw, full.sentAt) with
          | some (raw, sentAt) =>
              match store.decimalOf raw with
              | none => .error (.error ("[DecimalError] Invalid argument: " ++ raw))
              | some amount =>
                  .ok (some ⟨toFixed3 amount, order.posHostedPaymentUrl, sentAt⟩)
          | none =>
              match store.chargeLink visible order.posHostedPaymentUrl metadata with
              | some link => .ok (some link)
              | none => fullBalanceLink visible rest

def addFullBalance (visible : Uuid → ℤ) (links : Uuid → Option FullBalanceLink) (customerId : Uuid) :
    Except ServiceError (Uuid → Option FullBalanceLink) :=
  if visible customerId ≤ invoiceRemainingTolerance then .ok links
  else do
    let link ← store.fullBalanceLink (visible customerId)
      (store.linkOrders.filter fun order => order.customerId = customerId)
    return Function.update links customerId link

def enrichCollectionRowsWithFullBalanceLinkInfo (rows : List CollectionRow) :
    SnapshotTx (List CollectionRow) :=
  if rows = [] then pure []
  else do
    let customerIds := (rows.map CollectionRow.customerId).eraseDups
    let visible ← store.visibleDebt .linkDebt customerIds
    let _ ← (store.seen .links).read .orders ()
    let links ← ofExcept (customerIds.foldlM (store.addFullBalance visible) fun _ => none)
    pure (rows.map (CollectionRow.withLink links))

def listUnpaidCollectionOrders (args : CollectionsArgs) : SnapshotTx (List CollectionRow) := do
  let found ← store.openCollections args
  let visible ← store.visibleDebt .shownDebt (customersOf found.rows)
  let shares := Budgets.share invoiceRemainingTolerance found.raw Order.customerId
    (allocationOrder found.rows) visible
  store.enrichCollectionRowsWithFullBalanceLinkInfo
    (shares.map fun share => store.projectRow args.now share.1 share.2)

end CollectionsStore

end SafariLaundry
