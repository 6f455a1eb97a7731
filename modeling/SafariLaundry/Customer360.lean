import SafariLaundry.CanonicalDebt
import SafariLaundry.NumberText
import SafariLaundry.SubscriptionState

/-!
# The financial core of a customer, alone and in a batch

The batch loads the rows of all customers at once, groups them and runs the same engine for each.
The open subscription of a customer is the one created last; between two of one instant the
database decides, and each query for itself.
-/

namespace SafariLaundry

open Library Library.Bookkeeping List

namespace Customer360

/-! ## The engine -/

inductive Customer360PaymentSource
  | CASH | KNET | ONLINE | WALLET | SUBSCRIPTION
  deriving DecidableEq

structure FinancialOrder where
  id : Uuid
  status : OrderStatus
  totalPrice : ℤ
  cashStatus : CashStatus
  posPaymentMethod : PosPaymentMethod
  paymentSource : Customer360PaymentSource
  subscriptionId : Option Uuid

structure DebtLedgerRow where
  orderId : Option Uuid
  source : String
  sourceRef : Option String
  amount : ℚ
  createdAt : Timestamp

structure ActivationDebtSettlement where
  id : Uuid
  subscriptionId : Option Uuid
  amount : String
  createdAt : Timestamp

structure CustomerFinancialInput where
  orders : List FinancialOrder
  debtLedger : List DebtLedgerRow
  subscription : Option SubscriptionRecord
  walletAbsorptionLedger : List DebtLedgerRow
  activationDebtSettlements : List ActivationDebtSettlement

structure SubscriptionAmounts where
  (value consumed remaining : String)

structure CustomerFinancialEngineResult where
  (totalInvoicesKd totalPaymentsKd totalDueKd consumedKd subscriptionRemainingKd : String)
  subscription : SubscriptionAmounts
  overpaymentBalanceKd : String

def OVERPAYMENT_TOLERANCE_KD : ℚ := 1 / 10000

/-- Halves go up, after `Number.EPSILON` is added. -/
def round (n : ℚ) : ℚ := ⌊(n + 1 / 2 ^ 52) * 10000 + 1 / 2⌋ / 10000

def fourDp (n : ℚ) : String := toFixed 4 (round n)

def money (text : String) : ℚ := (parseFloatOf text).getD 0

def moneyOf (amount : ℤ) : ℚ := amount / 10000

def dec4 (d : ℚ) : ℚ := Decimal.roundHalfEven (d * 10000) / 10000

def round4Kd (d : ℚ) : String := toFixed 4 (dec4 d)

def isPaidCashStatus : CashStatus → Bool
  | .PAID_TO_DRIVER | .PAID_ONLINE | .HANDED_OVER_TO_OFFICE => true
  | .UNPAID => false

def isPaidOrder (o : FinancialOrder) : Bool :=
  o.status ≠ .CANCELED && isPaidCashStatus o.cashStatus && o.paymentSource ≠ .WALLET &&
    o.posPaymentMethod ≠ .DEBT_ON_ACCOUNT

def isSubscriptionPaidOrder (subscriptionId : Option Uuid) (o : FinancialOrder) : Bool :=
  o.status ≠ .CANCELED && o.paymentSource = .SUBSCRIPTION &&
    (subscriptionId = none || subscriptionId = some "" || o.subscriptionId = subscriptionId)

def orderAmount (o : FinancialOrder) : ℚ := moneyOf o.totalPrice

structure SubscriptionConsumptionResult where
  (directConsumedKd absorbedConsumedKd activationDebtSettledKd consumedKd remainingKd : ℚ)
  overConsumed : Bool

def computeSubscriptionConsumption (subscriptionId : Option Uuid) (planActualBalanceKd : ℚ)
    (activatedAt : Option Timestamp) (directOrders : List FinancialOrder)
    (walletAbsorptionLedger : List DebtLedgerRow)
    (activationDebtSettlements : List ActivationDebtSettlement) : SubscriptionConsumptionResult :=
  if subscriptionId = none ∨ subscriptionId = some "" ∨ planActualBalanceKd ≤ 0 then
    { directConsumedKd := 0
      absorbedConsumedKd := 0
      activationDebtSettledKd := 0
      consumedKd := 0
      remainingKd := 0
      overConsumed := false }
  else
    let sinceActivation := fun createdAt : Timestamp => ∀ cutoff ∈ activatedAt, cutoff ≤ createdAt
    let direct := dec4 (tally orderAmount
      (directOrders.filter fun o => o.subscriptionId = none ∨ o.subscriptionId = subscriptionId))
    let absorbed := dec4 (tally (fun l : DebtLedgerRow => |l.amount|)
      (walletAbsorptionLedger.filter fun l =>
        l.source = "PAYMENT" ∧ (∃ ref ∈ l.sourceRef, "PAYMENT:WALLET:".toList <+: ref.toList) ∧
          sinceActivation l.createdAt))
    let settled := dec4 (tally (fun s : ActivationDebtSettlement => |money s.amount|)
      (activationDebtSettlements.filter fun s =>
        s.subscriptionId = subscriptionId ∧ sinceActivation s.createdAt))
    let consumed := dec4 (direct + absorbed + settled)
    let remainingRaw := planActualBalanceKd - consumed
    { directConsumedKd := direct
      absorbedConsumedKd := absorbed
      activationDebtSettledKd := settled
      consumedKd := consumed
      remainingKd := if remainingRaw < 0 then 0 else dec4 remainingRaw
      overConsumed := planActualBalanceKd + 1 / 10000 < consumed }

def computeCustomerFinancials (data : CustomerFinancialInput) : CustomerFinancialEngineResult :=
  let activeOrders := data.orders.filter fun o => o.status ≠ .CANCELED
  let paidOrderIds :=
    (activeOrders.filter fun o => o.id ≠ "" ∧ isPaidOrder o).map FinancialOrder.id
  let totalInvoicesKd := round (tally orderAmount activeOrders)
  let orderPaymentsKd := round (tally orderAmount (activeOrders.filter fun o => isPaidOrder o))
  let ledgerPaymentsKd := round (tally (fun l => |l.amount|)
    (data.debtLedger.filter fun l =>
      l.source = "PAYMENT" ∧ ∀ orderId ∈ l.orderId, orderId = "" ∨ orderId ∉ paidOrderIds))
  let totalPaymentsKd := round (orderPaymentsKd + ledgerPaymentsKd)
  let overpaymentBalanceKd :=
    if totalInvoicesKd + OVERPAYMENT_TOLERANCE_KD < totalPaymentsKd then
      round (totalPaymentsKd - totalInvoicesKd)
    else 0
  let subscriptionId := data.subscription.map fun row => row.id
  let subscriptionValueKd :=
    (data.subscription.map fun row => round (moneyOf row.planActualBalanceSnapshot)).getD 0
  let projection := computeSubscriptionConsumption subscriptionId subscriptionValueKd
    (data.subscription.map fun row => row.activatedAt)
    (activeOrders.filter fun o => isSubscriptionPaidOrder subscriptionId o)
    data.walletAbsorptionLedger data.activationDebtSettlements
  { totalInvoicesKd := fourDp totalInvoicesKd
    totalPaymentsKd := fourDp totalPaymentsKd
    totalDueKd := round4Kd (max 0 (totalInvoicesKd - totalPaymentsKd))
    consumedKd := fourDp totalInvoicesKd
    subscriptionRemainingKd := fourDp projection.remainingKd
    subscription :=
      { value := fourDp subscriptionValueKd
        consumed := fourDp projection.consumedKd
        remaining := fourDp projection.remainingKd }
    overpaymentBalanceKd := fourDp overpaymentBalanceKd }

structure CustomerBlock where
  id : Uuid
  isBlocked : Bool
  blockReason : Option String
  blockedAt : Option Timestamp

structure WalletBalance where
  customerId : Uuid
  balance : ℤ

/-- A row of the history; `debtSettled` is the text of that field of its metadata. -/
structure HistoryRow where
  (id customerId : Uuid)
  type : LedgerTransactionType
  subscriptionId : Option Uuid
  debtSettled : Option String
  createdAt : Timestamp

structure Store where
  db : Db
  subscriptions : SubscriptionTable
  wallets : Table WalletBalance.customerId
  customers : Table CustomerBlock.id
  history : Table HistoryRow.id

structure RowOrders where
  orders : RowOrder Order
  subscriptions : RowOrder SubscriptionRecord
  wallets : RowOrder WalletBalance
  customers : RowOrder CustomerBlock
  history : RowOrder HistoryRow
  debt : ScopeOrders

def CreatedLaterFirst (first second : SubscriptionRecord) : Prop :=
  second.createdAt ≤ first.createdAt
  deriving Decidable

structure Customer360FinancialBreakdownDto where
  (receivableDebtKd subscriptionRemainingKd walletPrepaidCreditKd paidTotalKd : String)
  operatorHint : String

/-- Instants stand for their texts. -/
structure Customer360FinancialsDto where
  (consumedKd totalInvoicesKd subscriptionValueKd subscriptionConsumedKd : String)
  (subscriptionRemainingKd totalPaymentsKd canonicalDebtKd : String)
  canonicalDebtSource : CanonicalDebtSource
  overpaymentBalanceKd : String
  isBlocked : Bool
  blockReason : Option String
  blockedAtIso : Option Timestamp
  breakdown : Customer360FinancialBreakdownDto

def paymentSourceForOrder (method : Option String) : Except String Customer360PaymentSource :=
  if method = some "CASH" then .ok .CASH
  else if method = some "KNET" then .ok .KNET
  else if method = some "ONLINE" ∨ method = some "PAYMENT_LINK" then .ok .ONLINE
  else if method = some "SUBSCRIPTION_WALLET" then .ok .SUBSCRIPTION
  else if method = some "DEBT_ON_ACCOUNT" then .ok .WALLET
  else .error ("Customer 360 financial engine: missing or invalid order payment method (" ++
    method.getD "null" ++ ")")

def financialOrder (order : Order) : Except String FinancialOrder := do
  let paymentSource ← paymentSourceForOrder (some order.posPaymentMethod.name)
  return { order with paymentSource }

def activationDebtSettlement (row : HistoryRow) : Option ActivationDebtSettlement :=
  row.debtSettled.map fun amount =>
    { id := row.id, subscriptionId := row.subscriptionId, amount, createdAt := row.createdAt }

def buildOperatorHint (receivableDebtKd subscriptionRemainingKd walletPrepaidCreditKd : ℚ) :
    String :=
  " · ".intercalate
    ([if 0 < receivableDebtKd then "العميل مدين بمبلغ " ++ toFixed 4 receivableDebtKd ++ " د.ك"
      else "لا توجد مديونية على العميل"] ++
    (if 0 < subscriptionRemainingKd then
      ["رصيد الباقة المتبقي " ++ toFixed 4 subscriptionRemainingKd ++ " د.ك"] else []) ++
    (if 0 < walletPrepaidCreditKd then
      ["رصيد مدفوع مسبقاً " ++ toFixed 4 walletPrepaidCreditKd ++ " د.ك"] else []))

def financialsDto (fin : CustomerFinancialEngineResult) (canonical : CanonicalDebtSnapshot)
    (wallet : Option WalletBalance) (customer : Option CustomerBlock) : Customer360FinancialsDto :=
  let walletBalanceKd := (wallet.map fun row => moneyOf row.balance).getD 0
  let subscriptionRemainingNum := money fin.subscription.remaining
  let walletPrepaidCreditKd := max (round (walletBalanceKd - subscriptionRemainingNum)) 0
  { consumedKd := fin.consumedKd
    totalInvoicesKd := fin.totalInvoicesKd
    subscriptionValueKd := fin.subscription.value
    subscriptionConsumedKd := fin.subscription.consumed
    subscriptionRemainingKd := fin.subscription.remaining
    totalPaymentsKd := fin.totalPaymentsKd
    canonicalDebtKd := minorToFixed4 canonical.canonicalDebtKd
    canonicalDebtSource := canonical.source
    overpaymentBalanceKd := fin.overpaymentBalanceKd
    isBlocked := (customer.map CustomerBlock.isBlocked).getD false
    blockReason := customer.bind CustomerBlock.blockReason
    blockedAtIso := customer.bind CustomerBlock.blockedAt
    breakdown :=
      { receivableDebtKd := minorToFixed4 canonical.canonicalDebtKd
        subscriptionRemainingKd := fin.subscription.remaining
        walletPrepaidCreditKd := fourDp walletPrepaidCreditKd
        paidTotalKd := fin.totalPaymentsKd
        operatorHint := buildOperatorHint (moneyOf canonical.canonicalDebtKd)
          subscriptionRemainingNum walletPrepaidCreditKd } }

def financialsOf (orders : List Order) (subscription : Option SubscriptionRecord)
    (activations : List HistoryRow) : Except String CustomerFinancialEngineResult := do
  let orders ← orders.mapM financialOrder
  return computeCustomerFinancials
    { orders
      debtLedger := []
      subscription
      walletAbsorptionLedger := []
      activationDebtSettlements := activations.filterMap activationDebtSettlement }

namespace Store

variable (env : Env) (rows : RowOrders) (store : Store)

def ordersOf (wanted : Uuid → Prop) [DecidablePred wanted] : List Order :=
  rows.orders.arrange
    (store.db.orders.rows.filter fun o => wanted o.customerId ∧ o.status ≠ .CANCELED)

def subscriptionsOf (wanted : Uuid → Prop) [DecidablePred wanted] : List SubscriptionRecord :=
  (rows.subscriptions.arrange (store.subscriptions.rows.filter fun row =>
    wanted row.customerId ∧ row.status = .ACTIVE)).insertionSort CreatedLaterFirst

def activationsOf (wanted : Uuid → Prop) [DecidablePred wanted] : List HistoryRow :=
  rows.history.arrange (store.history.rows.filter fun row =>
    wanted row.customerId ∧ row.type = .SUBSCRIPTION_ACTIVATION)

def computeCustomer360FinancialCore (customerId : Uuid) (journal : Option JournalReader) :
    Except String Customer360FinancialsDto := do
  let orders := store.ordersOf rows fun id => id = customerId
  let activeSub := (store.subscriptionsOf rows fun id => id = customerId).head?
  let customer := store.customers.find? customerId
  let wallet := store.wallets.find? customerId
  let activationRows := store.activationsOf rows fun id => id = customerId
  let fin ← financialsOf orders activeSub activationRows
  let canonical := computeCanonicalCustomerDebt env rows.debt store.db journal customerId
  return financialsDto fin canonical wallet customer

def noDebt (customerId : Uuid) : CanonicalDebtSnapshot :=
  { customerId
    canonicalDebtKd := 0
    remainingFromInvoicesKd := 0
    journalArKd := none
    source := .PARTIAL_PAYMENT_REMAINING
    inScopeOrderIds := ∅ }

def computeCustomer360FinancialCoreBatch (customerIds : List Uuid)
    (journalArByCustomer : Option BalanceMap) :
    Except String (OrderedMap Uuid Customer360FinancialsDto) :=
  let ids := requestedIds customerIds
  let ordersByCustomer := KeyedFold.collect KeyedFold.Accumulation.rows Order.customerId
    (store.ordersOf rows fun id => id ∈ ids)
  let walletByCustomer := KeyedFold.collect KeyedFold.Accumulation.last WalletBalance.customerId
    (rows.wallets.arrange (store.wallets.rows.filter fun row => row.customerId ∈ ids))
  let customerById := KeyedFold.collect KeyedFold.Accumulation.last CustomerBlock.id
    (rows.customers.arrange (store.customers.rows.filter fun row => row.id ∈ ids))
  let activeSubByCustomer := KeyedFold.collect KeyedFold.Accumulation.first
    (fun row : SubscriptionRecord => row.customerId) (store.subscriptionsOf rows fun id => id ∈ ids)
  let activationsByCustomer := KeyedFold.collect KeyedFold.Accumulation.rows HistoryRow.customerId
    (store.activationsOf rows fun id => id ∈ ids)
  ids.foldlM (fun out customerId => do
    let fin ← financialsOf ((ordersByCustomer.get? customerId).getD [])
      (activeSubByCustomer.get? customerId) ((activationsByCustomer.get? customerId).getD [])
    let canonical := (computeCanonicalCustomerDebtBatch env rows.debt store.db ids
      journalArByCustomer customerId).getD (noDebt customerId)
    return out.set customerId (financialsDto fin canonical (walletByCustomer.get? customerId)
      (customerById.get? customerId))) Table.empty

end Store

def SameJournal (balances : Option BalanceMap) (journal : Option JournalReader)
    (customerId : Uuid) : Prop :=
  match balances, journal with
  | none, none => True
  | some balances, some read => read customerId = .ok ((balances customerId).getD 0)
  | _, _ => False

structure Newest (store : Store) (customerId : Uuid) (row : SubscriptionRecord) : Prop where
  mem : row ∈ store.subscriptions.rows
  owner : row.customerId = customerId
  active : row.status = .ACTIVE
  latest : ∀ other ∈ store.subscriptions.rows, other.customerId = customerId →
    other.status = .ACTIVE → other.createdAt ≤ row.createdAt

/-- No two of the open subscriptions of the customer were created last. -/
def Untied (store : Store) (customerId : Uuid) : Prop :=
  ∀ first second, Newest store customerId first → Newest store customerId second → first = second

def SameAsAlone (env : Env) (rows alone : RowOrders) (store : Store) (customerIds : List Uuid)
    (balances : Option BalanceMap) : Prop :=
  ∃ out, store.computeCustomer360FinancialCoreBatch env rows customerIds balances = .ok out ∧
    ∀ customer : CustomerKey, customer.id ∈ customerIds →
      ∀ journal, SameJournal balances journal customer.id → ∃ dto, out.get? customer.id = some dto ∧
          store.computeCustomer360FinancialCore env alone customer.id journal = .ok dto

/-- What holds with ties as well: the record is one that a run for the customer alone can give,
and the only one if there is no tie and, where no journal says the debt, the customer's credits
fall the same way in every order. -/
structure BatchOfSingles (env : Env) (store : Store) (customerIds : List Uuid)
    (balances : Option BalanceMap) (out : OrderedMap Uuid Customer360FinancialsDto) : Prop where
  asked : ∀ id, (out.get? id).isSome ↔ id ∈ requestedIds customerIds
  possible : ∀ customer : CustomerKey, customer.id ∈ customerIds →
    ∀ journal, SameJournal balances journal customer.id → ∀ alone : RowOrders,
      ∃ subscriptions remaining dto, out.get? customer.id = some dto ∧
        store.computeCustomer360FinancialCore env
          { alone with subscriptions, debt := ⟨alone.debt.listed, remaining⟩ } customer.id
          journal = .ok dto
  same : ∀ customer : CustomerKey, customer.id ∈ customerIds →
    ∀ journal, SameJournal balances journal customer.id → Untied store customer.id →
      (balances = none → CreditsSettled env store.db customer.id) →
        ∀ alone : RowOrders, ∃ dto, out.get? customer.id = some dto ∧
          store.computeCustomer360FinancialCore env alone customer.id journal = .ok dto

def sourceOf : PosPaymentMethod → Customer360PaymentSource
  | .CASH => .CASH
  | .KNET => .KNET
  | .ONLINE | .PAYMENT_LINK => .ONLINE
  | .SUBSCRIPTION_WALLET => .SUBSCRIPTION
  | .DEBT_ON_ACCOUNT => .WALLET

@[simp] theorem paymentSourceForOrder_name (method : PosPaymentMethod) :
    paymentSourceForOrder (some method.name) = .ok (sourceOf method) := by
  cases method <;> decide

@[simp] theorem financialOrder_eq (order : Order) :
    financialOrder order = pure { order with paymentSource := sourceOf order.posPaymentMethod } := by
  unfold financialOrder
  rw [paymentSourceForOrder_name]
  rfl

def inputOf (orders : List Order) (subscription : Option SubscriptionRecord)
    (activations : List HistoryRow) : CustomerFinancialInput where
  orders := orders.map fun order =>
    { order with paymentSource := sourceOf order.posPaymentMethod }
  debtLedger := []
  subscription := subscription
  walletAbsorptionLedger := []
  activationDebtSettlements := activations.filterMap activationDebtSettlement

theorem financialsOf_eq (orders : List Order) (subscription : Option SubscriptionRecord)
    (activations : List HistoryRow) :
    financialsOf orders subscription activations =
      pure (computeCustomerFinancials (inputOf orders subscription activations)) := by
  have hpure : financialOrder = fun order =>
      pure { order with paymentSource := sourceOf order.posPaymentMethod } :=
    funext financialOrder_eq
  unfold financialsOf
  rw [hpure, mapM_pure, pure_bind]
  rfl

theorem computeSubscriptionConsumption_perm {subscriptionId : Option Uuid} {value : ℚ}
    {activatedAt : Option Timestamp} {orders orders' : List FinancialOrder}
    {absorbed : List DebtLedgerRow} {settlements settlements' : List ActivationDebtSettlement}
    (horders : orders.Perm orders') (hsettlements : settlements.Perm settlements') :
    computeSubscriptionConsumption subscriptionId value activatedAt orders absorbed settlements =
      computeSubscriptionConsumption subscriptionId value activatedAt orders' absorbed
        settlements' := by
  unfold computeSubscriptionConsumption
  simp only [tally_perm _ (horders.filter _), tally_perm _ (hsettlements.filter _)]

theorem computeCustomerFinancials_perm {data data' : CustomerFinancialInput}
    (horders : data.orders.Perm data'.orders) (hledger : data.debtLedger = data'.debtLedger)
    (hsubscription : data.subscription = data'.subscription)
    (habsorbed : data.walletAbsorptionLedger = data'.walletAbsorptionLedger)
    (hsettlements : data.activationDebtSettlements.Perm data'.activationDebtSettlements) :
    computeCustomerFinancials data = computeCustomerFinancials data' := by
  have hactive := horders.filter fun o => decide (o.status ≠ .CANCELED)
  have hpaid : ∀ id, id ∈ (((data.orders.filter fun o => o.status ≠ .CANCELED).filter
      fun o => o.id ≠ "" ∧ isPaidOrder o).map FinancialOrder.id) ↔
      id ∈ (((data'.orders.filter fun o => o.status ≠ .CANCELED).filter
        fun o => o.id ≠ "" ∧ isPaidOrder o).map FinancialOrder.id) := fun id =>
    ((hactive.filter _).map _).mem_iff
  have hdirect := fun subscriptionId =>
    hactive.filter fun o => isSubscriptionPaidOrder subscriptionId o
  unfold computeCustomerFinancials
  simp only [hledger, hsubscription, habsorbed, hpaid, tally_perm _ hactive,
    tally_perm _ (hactive.filter _),
    computeSubscriptionConsumption_perm (hdirect _) hsettlements]

/-! ## One customer -/

namespace Store

variable {env : Env} {store : Store}

variable {wanted : Uuid → Prop} {customerId : Uuid}

theorem owned_perm {ρ : Type} {owner : ρ → Uuid} {kept : ρ → Prop} [DecidablePred kept]
    {rows : List ρ} (order order' : RowOrder ρ) [DecidablePred wanted]
    (hwanted : wanted customerId) :
    ((order.arrange (rows.filter fun row => wanted (owner row) ∧ kept row)).filter
        fun row => owner row = customerId).Perm
      (order'.arrange (rows.filter fun row => owner row = customerId ∧ kept row)) := by
  apply RowOrder.filter_arrange_perm
  intro row
  constructor
  · rintro ⟨rfl, -, hkept⟩
    exact ⟨rfl, hkept⟩
  · rintro ⟨rfl, hkept⟩
    exact ⟨rfl, hwanted, hkept⟩

theorem mem_subscriptionsOf {rows : RowOrders} [DecidablePred wanted] {row : SubscriptionRecord} :
    row ∈ store.subscriptionsOf rows wanted ↔
      row ∈ store.subscriptions.rows ∧ wanted row.customerId ∧ row.status = .ACTIVE := by
  unfold subscriptionsOf
  rw [mem_insertionSort]
  simp

def chosen (rows : RowOrders) (store : Store) (wanted : Uuid → Prop) [DecidablePred wanted]
    (customerId : Uuid) : Option SubscriptionRecord :=
  ((store.subscriptionsOf rows wanted).filter fun row => row.customerId = customerId).head?

theorem chosen_self (rows : RowOrders) (customerId : Uuid) :
    chosen rows store (fun id => id = customerId) customerId =
      (store.subscriptionsOf rows fun id => id = customerId).head? := by
  unfold chosen
  rw [filter_eq_self.2]
  intro row hrow
  exact decide_eq_true (mem_subscriptionsOf.1 hrow).2.1

instance : Std.Total CreatedLaterFirst :=
  ⟨fun first second => le_total second.createdAt first.createdAt⟩

instance : IsTrans SubscriptionRecord CreatedLaterFirst :=
  ⟨fun _ _ _ hfirst hsecond => hsecond.trans hfirst⟩

theorem newest_of_chosen {rows : RowOrders} [DecidablePred wanted] (hwanted : wanted customerId)
    {row : SubscriptionRecord} (hchosen : chosen rows store wanted customerId = some row) :
    Newest store customerId row := by
  have hmem := mem_of_mem_head? hchosen
  obtain ⟨hrow, howner⟩ := mem_filter.1 hmem
  obtain ⟨hstored, -, hactive⟩ := mem_subscriptionsOf.1 hrow
  refine ⟨hstored, of_decide_eq_true howner, hactive, ?_⟩
  intro other hother hotherOwner hotherActive
  have hsorted := pairwise_insertionSort CreatedLaterFirst
    (rows.subscriptions.arrange (store.subscriptions.rows.filter fun row =>
      wanted row.customerId ∧ row.status = .ACTIVE))
  exact StableSort.before_of_head?_filter hsorted hchosen other
    (mem_subscriptionsOf.2 ⟨hother, hotherOwner ▸ hwanted, hotherActive⟩) hotherOwner

theorem chosen_eq_none {rows : RowOrders} [DecidablePred wanted] (hwanted : wanted customerId) :
    chosen rows store wanted customerId = none ↔
      ∀ row ∈ store.subscriptions.rows, row.customerId = customerId → row.status ≠ .ACTIVE := by
  unfold chosen
  simp only [List.head?_eq_none_iff, filter_eq_nil_iff, mem_subscriptionsOf, decide_eq_true_eq]
  constructor
  · rintro hnone row hrow rfl hactive
    exact hnone row ⟨hrow, hwanted, hactive⟩ rfl
  · intro hnone row hrow howner
    exact hnone row hrow.1 howner hrow.2.2

theorem chosen_leading {rows : RowOrders} {row : SubscriptionRecord}
    (hnewest : Newest store customerId row) :
    chosen { rows with subscriptions := .leading row } store (fun id => id = customerId)
      customerId = some row := by
  have hmem : row ∈ store.subscriptions.rows.filter fun row =>
      row.customerId = customerId ∧ row.status = .ACTIVE :=
    mem_filter.2 ⟨hnewest.mem, by simp [hnewest.owner, hnewest.active]⟩
  unfold chosen subscriptionsOf
  rw [RowOrder.leading_arrange hmem]
  have hfirst : ∀ other ∈ (store.subscriptions.rows.filter fun row =>
      row.customerId = customerId ∧ row.status = .ACTIVE).erase row,
      other.customerId = customerId → CreatedLaterFirst row other := by
    intro other hother _
    obtain ⟨hstored, hopen⟩ := mem_filter.1 (mem_of_mem_erase hother)
    have hopen := of_decide_eq_true hopen
    exact hnewest.latest other hstored hopen.1 hopen.2
  exact StableSort.head?_filter_insertionSort_cons
    (p := fun row : SubscriptionRecord => row.customerId = customerId) hnewest.owner hfirst

theorem chosen_eq_of_untied {rows rows' : RowOrders} [DecidablePred wanted]
    (hwanted : wanted customerId) (huntied : Untied store customerId) :
    chosen rows store wanted customerId =
      chosen rows' store (fun id => id = customerId) customerId := by
  cases hbatch : chosen rows store wanted customerId with
  | none =>
      exact ((chosen_eq_none (by rfl)).2 ((chosen_eq_none hwanted).1 hbatch)).symm
  | some row =>
      cases halone : chosen rows' store (fun id => id = customerId) customerId with
      | none =>
          have hnewest := newest_of_chosen hwanted hbatch
          have hnone := (chosen_eq_none (by rfl)).1 halone row hnewest.mem hnewest.owner
          exact absurd hnewest.active hnone
      | some other =>
          exact congrArg some
            (huntied row other (newest_of_chosen hwanted hbatch) (newest_of_chosen (by rfl) halone))

def coreOf (env : Env) (rows : RowOrders) (store : Store) (customerId : Uuid)
    (journal : Option JournalReader) (activeSub : Option SubscriptionRecord) :
    Customer360FinancialsDto :=
  financialsDto
    (computeCustomerFinancials (inputOf (store.ordersOf rows fun id => id = customerId) activeSub
      (store.activationsOf rows fun id => id = customerId)))
    (computeCanonicalCustomerDebt env rows.debt store.db journal customerId)
    (store.wallets.find? customerId) (store.customers.find? customerId)

theorem computeCustomer360FinancialCore_eq (env : Env) (rows : RowOrders) (customerId : Uuid)
    (journal : Option JournalReader) :
    store.computeCustomer360FinancialCore env rows customerId journal =
      .ok (coreOf env rows store customerId journal
        (chosen rows store (fun id => id = customerId) customerId)) := by
  unfold computeCustomer360FinancialCore
  simp only [financialsOf_eq, chosen_self]
  rfl

variable {fin : CustomerFinancialEngineResult} {wallet : Option WalletBalance}

theorem financialsDto_congr {canonical canonical' : CanonicalDebtSnapshot}
    {customer : Option CustomerBlock}
    (hdebt : canonical.canonicalDebtKd = canonical'.canonicalDebtKd)
    (hsource : canonical.source = canonical'.source) :
    financialsDto fin canonical wallet customer = financialsDto fin canonical' wallet customer := by
  unfold financialsDto
  rw [hdebt, hsource]

/-- With a journal the record shows its balance, without one what remains on the orders. -/
theorem financialsDto_batch {orders orders' : ScopeOrders} {db : Db} {customer : CustomerKey}
    {ids : List Uuid} {block : Option CustomerBlock} (hmem : customer.id ∈ ids)
    {balances : Option BalanceMap} {journal : Option JournalReader}
    (hjournal : SameJournal balances journal customer.id)
    (hscope : balances = none → scopeFor env orders.remaining customer.id db =
      scopeFor env orders'.remaining customer.id db) :
    financialsDto fin ((computeCanonicalCustomerDebtBatch env orders db ids balances
        customer.id).getD (noDebt customer.id)) wallet block =
      financialsDto fin (computeCanonicalCustomerDebt env orders' db journal customer.id)
        wallet block := by
  cases balances with
  | none =>
      cases journal with
      | none => rw [(canonicalBatch_of_scope hmem (hscope rfl)).1, Option.getD_some]
      | some read => exact hjournal.elim
  | some balances =>
      cases journal with
      | none => exact hjournal.elim
      | some read =>
          have hread : read customer.id = .ok ((balances customer.id).getD 0) := hjournal
          unfold computeCanonicalCustomerDebtBatch computeCanonicalCustomerDebt
          simp only [if_pos (mem_requestedIds hmem), hread, Option.getD_some]
          exact financialsDto_congr rfl rfl

end Store

theorem get?_collect_last {κ ρ : Type} [DecidableEq κ] {key : ρ → κ} (table : Table key)
    (order : RowOrder ρ) {ids : List κ} {k : κ} (hk : k ∈ ids) :
    (KeyedFold.collect KeyedFold.Accumulation.last key
      (order.arrange (table.rows.filter fun row => key row ∈ ids))).get? k = table.find? k := by
  have hperm : ((order.arrange (table.rows.filter fun row => key row ∈ ids)).filter
      fun row => key row = k).Perm (table.find? k).toList := by
    rw [← Table.filter_key_eq_toList]
    refine (RowOrder.filter_arrange_perm order order fun row => ?_).trans (order.perm _)
    exact ⟨And.left, fun hrow => ⟨hrow, hrow ▸ hk⟩⟩
  rw [KeyedFold.get?_collect, KeyedFold.Accumulation.made_last]
  cases hfound : table.find? k with
  | none =>
      rw [hfound] at hperm
      rw [perm_nil.1 hperm]
      rfl
  | some row =>
      rw [hfound] at hperm
      rw [perm_singleton.1 hperm]
      rfl

/-! ## The batch -/

open Store

def batchEntry (env : Env) (rows : RowOrders) (store : Store) (customerIds : List Uuid)
    (balances : Option BalanceMap) (customerId : Uuid) : Customer360FinancialsDto :=
  let ids := requestedIds customerIds
  financialsDto
    (computeCustomerFinancials (inputOf
      ((store.ordersOf rows fun id => id ∈ ids).filter fun o => o.customerId = customerId)
      (chosen rows store (fun id => id ∈ ids) customerId)
      ((store.activationsOf rows fun id => id ∈ ids).filter fun row =>
        row.customerId = customerId)))
    ((computeCanonicalCustomerDebtBatch env rows.debt store.db ids balances customerId).getD
      (noDebt customerId))
    ((KeyedFold.collect KeyedFold.Accumulation.last WalletBalance.customerId
      (rows.wallets.arrange (store.wallets.rows.filter fun row => row.customerId ∈ ids))).get?
        customerId)
    ((KeyedFold.collect KeyedFold.Accumulation.last CustomerBlock.id
      (rows.customers.arrange (store.customers.rows.filter fun row => row.id ∈ ids))).get?
        customerId)

theorem batch_eq (env : Env) (rows : RowOrders) (store : Store) (customerIds : List Uuid)
    (balances : Option BalanceMap) :
    store.computeCustomer360FinancialCoreBatch env rows customerIds balances =
      .ok ((requestedIds customerIds).foldl
        (fun out id => out.set id (batchEntry env rows store customerIds balances id))
        Table.empty) := by
  unfold computeCustomer360FinancialCoreBatch
  simp only [financialsOf_eq, pure_bind, foldlM_pure, KeyedFold.get?_collect,
    KeyedFold.Accumulation.getD_made_rows, KeyedFold.Accumulation.made_first]
  simp only [batchEntry, chosen, KeyedFold.get?_collect]
  rfl

theorem batchEntry_eq {env : Env} {rows : RowOrders} {store : Store} {customerIds : List Uuid}
    {balances : Option BalanceMap} {customer : CustomerKey} (hmem : customer.id ∈ customerIds)
    {journal : Option JournalReader} (hjournal : SameJournal balances journal customer.id)
    (alone : RowOrders)
    (hscope : balances = none → scopeFor env rows.debt.remaining customer.id store.db =
      scopeFor env alone.debt.remaining customer.id store.db) :
    batchEntry env rows store customerIds balances customer.id =
      coreOf env alone store customer.id journal
        (chosen rows store (fun id => id ∈ requestedIds customerIds) customer.id) := by
  have hrequested := mem_requestedIds hmem
  have horders : ((store.ordersOf rows fun id => id ∈ requestedIds customerIds).filter
      fun o => o.customerId = customer.id).Perm (store.ordersOf alone fun id => id = customer.id) :=
    owned_perm rows.orders alone.orders hrequested
  have hactivations : ((store.activationsOf rows fun id => id ∈ requestedIds customerIds).filter
      fun row => row.customerId = customer.id).Perm
        (store.activationsOf alone fun id => id = customer.id) :=
    owned_perm rows.history alone.history hrequested
  unfold batchEntry coreOf
  dsimp only
  rw [financialsDto_batch hrequested hjournal hscope, get?_collect_last _ _ hrequested,
    get?_collect_last _ _ hrequested]
  congr 1
  exact computeCustomerFinancials_perm (horders.map _) rfl rfl rfl (hactivations.filterMap _)

theorem batchOfSingles (env : Env) (rows : RowOrders) (store : Store) (customerIds : List Uuid)
    (balances : Option BalanceMap) :
    ∃ out, store.computeCustomer360FinancialCoreBatch env rows customerIds balances = .ok out ∧
      BatchOfSingles env store customerIds balances out := by
  refine ⟨_, batch_eq env rows store customerIds balances, ?_⟩
  have hget : ∀ id, OrderedMap.get? ((requestedIds customerIds).foldl
      (fun out id => out.set id (batchEntry env rows store customerIds balances id)) Table.empty)
        id = if id ∈ requestedIds customerIds then
          some (batchEntry env rows store customerIds balances id) else none :=
    fun id => OrderedMap.get?_foldl_set _ _ _ id
  have hentry : ∀ customer : CustomerKey, customer.id ∈ customerIds → ∀ journal,
      SameJournal balances journal customer.id → ∀ alone : RowOrders,
        (balances = none → scopeFor env rows.debt.remaining customer.id store.db =
          scopeFor env alone.debt.remaining customer.id store.db) →
        OrderedMap.get? ((requestedIds customerIds).foldl
          (fun out id => out.set id (batchEntry env rows store customerIds balances id))
            Table.empty) customer.id =
          some (coreOf env alone store customer.id journal
            (chosen rows store (fun id => id ∈ requestedIds customerIds) customer.id)) := by
    intro customer hmem journal hjournal alone hscope
    rw [hget, if_pos (mem_requestedIds hmem), batchEntry_eq hmem hjournal alone hscope]
  constructor
  case asked =>
    intro id
    rw [hget]
    split_ifs with hrequested
    · simp [hrequested]
    · simp [hrequested]
  case possible =>
    intro customer hmem journal hjournal alone
    have hout := hentry customer hmem journal hjournal
      { alone with debt := ⟨alone.debt.listed, rows.debt.remaining⟩ } fun _ => rfl
    cases hchosen : chosen rows store (fun id => id ∈ requestedIds customerIds) customer.id with
    | none =>
        have hnone := (chosen_eq_none (mem_requestedIds hmem)).1 hchosen
        refine ⟨alone.subscriptions, rows.debt.remaining, _, hout, ?_⟩
        rw [computeCustomer360FinancialCore_eq, hchosen, (chosen_eq_none (by rfl)).2 hnone]
    | some row =>
        have hnewest := newest_of_chosen (mem_requestedIds hmem) hchosen
        refine ⟨.leading row, rows.debt.remaining, _, hout, ?_⟩
        rw [computeCustomer360FinancialCore_eq, hchosen, @chosen_leading store customer.id
          { alone with debt := ⟨alone.debt.listed, rows.debt.remaining⟩ } row hnewest]
        rfl
  case same =>
    intro customer hmem journal hjournal huntied hsettled alone
    have hout := hentry customer hmem journal hjournal alone fun hnone =>
      scopeFor_of_settled (hsettled hnone) _ _
    have hsame : chosen rows store (fun id => id ∈ requestedIds customerIds) customer.id =
        chosen alone store (fun id => id = customer.id) customer.id :=
      chosen_eq_of_untied (mem_requestedIds hmem) huntied
    rw [hsame] at hout
    exact ⟨_, hout, computeCustomer360FinancialCore_eq env alone customer.id journal⟩

namespace Sample

/-- A package of this many ten-thousandths, opened at one instant with every other. -/
def package (id : Uuid) (balance : ℤ) : SubscriptionRecord :=
  { id, customerId := "customer", planId := "plan", status := .ACTIVE
    planSalePriceSnapshot := balance, planActualBalanceSnapshot := balance
    carriedBalanceKd := 0, parentSubscriptionId := none, activatedAt := 1, expiresAt := 9
    closedAt := none, closedReason := none, createdAt := 1, planNameSnapshot := "" }

def twoPackages : Store where
  db := Db.initial
  subscriptions := ⟨[package "small" 100000, package "large" 200000], by decide⟩
  wallets := ⟨[], nodup_nil⟩
  customers := ⟨[], nodup_nil⟩
  history := ⟨[], nodup_nil⟩

def asStored : RowOrders :=
  ⟨SafariLaundry.Sample.asStored _, SafariLaundry.Sample.asStored _,
    SafariLaundry.Sample.asStored _, SafariLaundry.Sample.asStored _,
    SafariLaundry.Sample.asStored _,
    ⟨SafariLaundry.Sample.asStored _, SafariLaundry.Sample.asStored _⟩⟩

def largeFirst : RowOrders :=
  { asStored with subscriptions := .leading (package "large" 200000) }

end Sample

theorem sameAsAlone_fails :
    ¬ SameAsAlone Env.default Sample.asStored Sample.largeFirst Sample.twoPackages ["customer"]
      none := by
  rintro ⟨out, hbatch, hall⟩
  obtain ⟨dto, hdto, halone⟩ := hall SafariLaundry.Sample.customerKey (by decide) none trivial
  have hsmall : (batchEntry Env.default Sample.asStored Sample.twoPackages ["customer"] none
      "customer").subscriptionValueKd = "10.0000" := by decide +kernel
  have hlarge : (coreOf Env.default Sample.largeFirst Sample.twoPackages "customer" none
      (chosen Sample.largeFirst Sample.twoPackages (fun id => id = "customer")
        "customer")).subscriptionValueKd = "20.0000" := by decide +kernel
  rw [batch_eq] at hbatch
  rw [computeCustomer360FinancialCore_eq] at halone
  cases hbatch
  cases halone
  rw [OrderedMap.get?_foldl_set, if_pos (by decide)] at hdto
  have hsame := congrArg Customer360FinancialsDto.subscriptionValueKd (Option.some.inj hdto)
  exact absurd (hsmall.symm.trans (hsame.trans hlarge)) (by decide)

end Customer360

end SafariLaundry
