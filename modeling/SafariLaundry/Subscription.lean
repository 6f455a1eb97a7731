import SafariLaundry.DebtCollection
import SafariLaundry.PrepaidReconcile

/-!
# Subscription activation

Selling a plan funds the wallet by one journal entry, pays old debt out of the
new credit by payment rows mirrored against the collection method, and lets the
remaining credit settle open invoices.  The repayment of old debt is therefore
counted twice: the funding entry credits the liability with the whole plan, and
the payment rows debit an asset account with money nobody paid in.
-/

namespace SafariLaundry

open Library Library.Bookkeeping Library.Transaction Library.Allocation List

def subscriptionActivationPaymentMethods : List PosPaymentMethod :=
  [.CASH, .KNET, .PAYMENT_LINK, .ONLINE, .DEBT_ON_ACCOUNT]

structure ActivateSubscriptionParams where
  (customerId planId performedByUserId : Uuid)
  autoCloseInvoices : Bool
  paymentMethod : PosPaymentMethod
  skipPrepaidAutoReconcile : Bool
  companySupportAmountKd : Option ℤ

structure Activation where
  params : ActivateSubscriptionParams
  plan : SubscriptionPlan
  wallet : CustomerWallet
  operationalDebt : ℤ
  subscriptionId : Uuid

namespace Activation

def debtPaid (activation : Activation) : ℤ :=
  if activation.operationalDebt < activation.plan.actualBalance then
    activation.operationalDebt
  else activation.plan.actualBalance

def AccrueSaleOnAccount (activation : Activation) : Prop :=
  0 < activation.plan.salePrice ∧ activation.params.paymentMethod = .DEBT_ON_ACCOUNT
  deriving Decidable

def newDebt (activation : Activation) : ℤ :=
  let reduced := activation.wallet.debt -
    (if activation.debtPaid < activation.wallet.debt then activation.debtPaid
     else activation.wallet.debt)
  if activation.AccrueSaleOnAccount then reduced + activation.plan.salePrice else reduced

def balanceIncrease (activation : Activation) : ℤ :=
  let rawCredit := activation.plan.actualBalance - activation.debtPaid
  if 0 < rawCredit then rawCredit else 0

def newBalance (activation : Activation) : ℤ :=
  activation.wallet.balance + activation.balanceIncrease

def companySupport (activation : Activation) : ℤ :=
  activation.params.companySupportAmountKd.getD
    (if activation.plan.salePrice < activation.plan.actualBalance then
      activation.plan.actualBalance - activation.plan.salePrice
     else 0)

def totalFunding (activation : Activation) : ℤ :=
  activation.plan.salePrice + activation.companySupport

def paymentAccount (activation : Activation) : JournalAccount :=
  match activation.params.paymentMethod with
  | .CASH => .CASH
  | .KNET => .BANK_KNET
  | .ONLINE | .PAYMENT_LINK => .BANK_ONLINE
  | .SUBSCRIPTION_WALLET | .DEBT_ON_ACCOUNT => .ACCOUNTS_RECEIVABLE

def walletFundingRef (subscriptionId : Uuid) : SourceRef :=
  [.word "WALLET_FUNDING", .word "SUBSCRIPTION", .id subscriptionId]

def fundingLines (activation : Activation) : List JournalLine :=
  (if 0 < activation.plan.salePrice then
    [debitLine activation.paymentAccount activation.plan.salePrice] else []) ++
  (if 0 < activation.companySupport then
    [debitLine .PROMOTIONAL_EXPENSE activation.companySupport] else []) ++
  [creditLine .WALLET_LIABILITY activation.totalFunding]

def fundingInput (activation : Activation) : AppendJournalInput where
  source := "PROCESS_TRANSACTION"
  sourceRef := walletFundingRef activation.subscriptionId
  actorUserId := activation.params.performedByUserId
  customerId := some activation.params.customerId
  orderId := none
  lines := activation.fundingLines

/-- The candidates of the FIFO walk; an invoice the batch does not know counts in
full. -/
def queue (env : Env) (activation : Activation) (db : Db) : List (Uuid × ℤ) :=
  let candidates := openInvoices activation.params.customerId db
  let remaining := computeOrderRemainingBalancesBatch env db (candidates.map Order.id)
  candidates.map fun order => (order.id, (remaining order.id).getD order.totalPrice)

def slices (env : Env) (activation : Activation) (db : Db) : List (Slice Uuid) :=
  if activation.params.autoCloseInvoices = true ∧ 0 < activation.debtPaid then
    allocate invoiceRemainingTolerance (activation.queue env db) activation.debtPaid
  else []

def closedInvoiceIds (slices : List (Slice Uuid)) : List Uuid :=
  (slices.filter fun slice => slice.clears = true).map Slice.item

def repayment (activation : Activation) : DebtCollection where
  route := "SUBSCRIPTION_ACTIVATION"
  keyId := activation.subscriptionId
  customerId := activation.params.customerId
  actorUserId := activation.params.performedByUserId
  paymentMethod := activation.params.paymentMethod
  sliceNote := "Invoice closed by subscription activation (FIFO)"
  residualNote := "Residual debt cleared by subscription activation"

def ledgerRow (activation : Activation) : GeneralLedgerEntry where
  entryType := .DEBT_ADJUSTMENT
  amount := -activation.debtPaid
  memo := "Subscription activation settled existing debt"
  customerId := some activation.params.customerId
  orderId := none
  actorUserId := some activation.params.performedByUserId

def historyRow (activation : Activation) (id : Uuid) : TransactionHistory where
  id := id
  physicalCollection := false
  type := .SUBSCRIPTION_ACTIVATION
  customerId := activation.params.customerId
  orderId := none
  subscriptionId := some activation.subscriptionId
  amount := activation.plan.actualBalance
  balanceBefore := activation.wallet.balance
  balanceAfter := activation.newBalance
  debtBefore := activation.wallet.debt
  debtAfter := activation.newDebt
  performedById := activation.params.performedByUserId

end Activation

/-! ## The service method -/

def previousSubscription (customerId : Uuid) (db : Db) : Option CustomerSubscription :=
  (db.subscriptions.filter fun subscription =>
    subscription.customerId = customerId ∧
      (subscription.status = .ACTIVE ∨ subscription.status = .EXPIRED)).getLast?

def dayMs : ℕ := 24 * 60 * 60 * 1000

def subscriptionExpiresAt (plan : SubscriptionPlan) (activatedAt : Timestamp) : Timestamp :=
  activatedAt + (if 0 < plan.validityDays then plan.validityDays.toNat else 30) * dayMs

def newSubscription (env : Env) (activation : Activation)
    (previous : Option CustomerSubscription) : CustomerSubscription where
  id := activation.subscriptionId
  customerId := activation.params.customerId
  planId := activation.plan.id
  status := .ACTIVE
  planSalePriceSnapshot := activation.plan.salePrice
  planActualBalanceSnapshot := activation.plan.actualBalance
  carriedBalanceKd := activation.wallet.balance - activation.wallet.debt
  parentSubscriptionId := previous.map CustomerSubscription.id
  activatedAt := env.now
  expiresAt := subscriptionExpiresAt activation.plan env.now
  closedAt := none
  closedReason := none

def rolledOver (env : Env) (previous : Option CustomerSubscription)
    (subscription : CustomerSubscription) : CustomerSubscription :=
  if previous.map CustomerSubscription.id = some subscription.id then
    { subscription with
      status := .ROLLED_OVER
      closedAt := some env.now
      closedReason := some "ROLLOVER" }
  else subscription

def rollSubscription (env : Env) (activation : Activation)
    (previous : Option CustomerSubscription) : Tx Unit :=
  modify fun db => { db with
    subscriptions := (db.subscriptions ++ [newSubscription env activation previous]).map
      (rolledOver env previous) }

def processWalletFundingTransaction (env : Env) (activation : Activation) : Tx Unit := do
  require (¬ 10 < |activation.totalFunding -
      (activation.plan.salePrice + activation.companySupport)|)
    (.error "WALLET_FUNDING_UNBALANCED")
  require (0 < activation.totalFunding) (.error "WALLET_FUNDING_AMOUNT_MUST_BE_POSITIVE")
  require (¬ 10 < |totalDebit activation.fundingLines - totalCredit activation.fundingLines|)
    (.error "PROCESS_TRANSACTION_UNBALANCED")
  appendBalanced env activation.fundingInput

def paidToDriver (order : Order) : Order :=
  { order with cashStatus := .PAID_TO_DRIVER }

theorem paidToDriver_id (order : Order) : (paidToDriver order).id = order.id := rfl

def closeClearedInvoices (customerId : Uuid) (slices : List (Slice Uuid)) : Tx Unit :=
  modify fun db => { db with
    orders := db.orders.updateWhere
      (fun order => order.customerId = customerId ∧ order.id ∈ Activation.closedInvoiceIds slices)
      paidToDriver paidToDriver_id }

def recordRepayment (env : Env) (activation : Activation) (slices : List (Slice Uuid)) :
    Tx Unit := do
  generalLedgerAppend activation.ledgerRow
  let sliceRows := activation.repayment.rows slices 0
  sliceRows.forM fun row => assertDebtLedgerPaymentWrite row.actorUserId row.sourceRef
  sliceRows.forM (mirrorDebtLedgerEntrySafe env)
  let residual := activation.debtPaid - allocated slices
  (activation.repayment.rows [] residual).forM (mirrorPaymentRow env)

structure SubscriptionActivationSettlement where
  (totalCollected debtSettled creditedToBalance previousBalance previousDebt newBalance : ℤ)
  (newDebt totalFundingKd companySupportAmountKd : ℤ)
  subscriptionId : Uuid
  rolledOverFromSubscriptionId : Option Uuid
  carriedBalanceKd : ℤ
  (closedInvoiceIds prepaidAutoReconciledOrderIds : List Uuid)
  deriving DecidableEq

def writeActivation (env : Env) (activation : Activation) : Tx (List (Slice Uuid)) := do
  require (0 ≤ activation.companySupport) (.badRequest "companySupportAmountKd cannot be negative")
  require (activation.companySupport ≤ activation.plan.actualBalance)
    (.badRequest ("companySupportAmountKd (" ++
      minorToAmountString activation.companySupport ++ ") cannot exceed plan actualBalance (" ++
      minorToAmountString activation.plan.actualBalance ++ " KD)"))
  createTransactionHistory env activation.historyRow
  whenever (0 < activation.totalFunding) (processWalletFundingTransaction env activation)
  let slices ← reads (activation.slices env)
  closeClearedInvoices activation.params.customerId slices
  whenever (0 < activation.debtPaid) (recordRepayment env activation slices)
  return slices

def prepaidReconciled (env : Env) (params : ActivateSubscriptionParams) : Tx (List Uuid) :=
  if params.skipPrepaidAutoReconcile = true then pure [] else
    autoReconcileUnpaidInvoicesFromPrepaidBalanceTx env params.customerId
      (some params.performedByUserId)

def prepareLocked (env : Env) (params : ActivateSubscriptionParams)
    (plan : SubscriptionPlan) (wallet : CustomerWallet) : Tx Activation := do
  let actor ← fetch (findUser params.performedByUserId) (.notFound "Performing user not found")
  ensureCustomerOriginBranchTx params.customerId actor.branchId
  let operational ← reads (operationalDebt params.customerId)
  require (¬ (plan.salePrice < 0 ∨ plan.actualBalance < 0))
    (.badRequest "Plan price and credit amount must be non-negative")
  require (¬ (plan.salePrice = 0 ∧ plan.actualBalance = 0))
    (.badRequest ("Subscription plan \"" ++ plan.name ++ "\" is misconfigured: both sale " ++
      "price and credit amount are 0. Ask the Owner to set them in Subscription Plans " ++
      "before activating."))
  require (params.paymentMethod ∈ subscriptionActivationPaymentMethods)
    (.badRequest "Invalid paymentMethod for subscription activation")
  let subscriptionId ← reads fun db => env.newSubscriptionId db.subscriptions.length
  return ⟨params, plan, wallet, operational, subscriptionId⟩

def prepareWith (env : Env) (params : ActivateSubscriptionParams)
    (readWallet : Tx CustomerWallet) : Tx Activation := do
  let plan ← fetch (fun db => db.plans.find? params.planId)
    (.notFound "Subscription plan not found")
  require (plan.isActive = true) (.badRequest "This subscription plan is not active")
  let _ ← fetch (fun db => db.customers.find? params.customerId) (.notFound "Customer not found")
  let wallet ← readWallet
  prepareLocked env params plan wallet

def prepareActivation (env : Env) (params : ActivateSubscriptionParams) : Tx Activation :=
  prepareWith env params (reads fun db => db.wallets params.customerId)

def completeActivation (env : Env) (params : ActivateSubscriptionParams)
    (activation : Activation) : Tx SubscriptionActivationSettlement := do
  let previous ← reads (previousSubscription params.customerId)
  rollSubscription env activation previous
  updateWallet params.customerId ⟨activation.newBalance, activation.newDebt⟩
  let slices ← writeActivation env activation
  let paid ← prepaidReconciled env params
  let final ← reads fun db => db.wallets params.customerId
  return {
    totalCollected := activation.plan.salePrice
    debtSettled := activation.debtPaid
    creditedToBalance := activation.balanceIncrease
    previousBalance := activation.wallet.balance
    previousDebt := activation.wallet.debt
    newBalance := final.balance
    newDebt := final.debt
    totalFundingKd := activation.totalFunding
    companySupportAmountKd := activation.companySupport
    subscriptionId := activation.subscriptionId
    rolledOverFromSubscriptionId := previous.map CustomerSubscription.id
    carriedBalanceKd := activation.wallet.balance - activation.wallet.debt
    closedInvoiceIds := Activation.closedInvoiceIds slices
    prepaidAutoReconciledOrderIds := paid }

/-- Sell a plan: roll the old subscription over, pay old debt out of the credit,
fund the wallet, and let the credit settle open invoices. -/
def activateSubscriptionPlan (env : Env) (params : ActivateSubscriptionParams) :
    Tx SubscriptionActivationSettlement := do
  let activation ← prepareActivation env params
  completeActivation env params activation

namespace Activation

variable {activation : Activation}

def fundingEntries (activation : Activation) : List JournalEntry :=
  if 0 < activation.totalFunding then [activation.fundingInput.entry] else []

def repaymentEntries (activation : Activation) (slices : List (Slice Uuid)) :
    List JournalEntry :=
  if 0 < activation.debtPaid then
    activation.repayment.entries slices (activation.debtPaid - allocated slices)
  else []

def entries (activation : Activation) (slices : List (Slice Uuid)) : List JournalEntry :=
  activation.fundingEntries ++ activation.repaymentEntries slices

theorem repayment_plainRoute (activation : Activation) :
    activation.repayment.PlainRoute := by
  simp [DebtCollection.PlainRoute, repayment]

theorem repaymentEntries_eq (slices : List (Slice Uuid)) (residual : ℤ) :
    (activation.repayment.rows slices 0).flatMap mirrorEntries ++
        (activation.repayment.rows [] residual).flatMap mirrorEntries =
      activation.repayment.entries slices residual := by
  unfold DebtCollection.entries DebtCollection.rows
  simp

end Activation

theorem commits_recordRepayment {env : Env} {activation : Activation}
    {slices : List (Slice Uuid)} {db db' : Db} (henv : env.StoreHealthy)
    (hactor : activation.params.performedByUserId ≠ "")
    (hcommits : (recordRepayment env activation slices).Commits db () db') :
    ∃ rows, Booked (activation.repayment.entries slices
      (activation.debtPaid - allocated slices)) rows db db' := by
  have hrows : ∀ slices residual, ∀ row ∈ activation.repayment.rows slices residual,
      row.actorUserId ≠ "" ∧ row.sourceRef ≠ [] := by
    intro slices residual row hrow
    obtain ⟨tail, href, hshape⟩ := DebtCollection.sourceRef_of_mem_rows hrow
    refine ⟨?_, by simp [href, DebtCollection.paymentRef]⟩
    rcases hshape with ⟨slice, _, _, rfl⟩ | ⟨_, _, rfl⟩
    · exact hactor
    · exact hactor
  unfold recordRepayment at hcommits
  simp only [commits_bind] at hcommits
  obtain ⟨_, _, hledger, ⟨⟩, _, hchecks, ⟨⟩, _, hslices, hresidual⟩ := hcommits
  have hbooked := commits_generalLedgerAppend hledger
  have hsame := commits_checks hchecks
  subst hsame
  have hposted := (wrote_forM (fun row hmem db db' hrow =>
    commits_mirrorDebtLedgerEntrySafe henv (hrows _ _ row hmem).1 (hrows _ _ row hmem).2 hrow)
      hslices).booked
  have hrest := (commits_mirrorPaymentRows henv (hrows _ _) hresidual).booked
  have hall := (hbooked.trans hposted).trans hrest
  rw [nil_append, Activation.repaymentEntries_eq] at hall
  exact ⟨_, hall⟩

structure ActivationWritten (env : Env) (activation : Activation)
    (slices : List (Slice Uuid)) (db db' : Db) : Prop where
  support_nonneg : 0 ≤ activation.companySupport
  reads : ∃ read, read.orders = db.orders ∧
    read.journal = postAll JournalEntry.sourceRef db.journal activation.fundingEntries ∧
    slices = activation.slices env read
  wallets : db'.wallets = db.wallets
  orders : db'.orders = db.orders.updateWhere
    (fun order => order.customerId = activation.params.customerId ∧
      order.id ∈ Activation.closedInvoiceIds slices) paidToDriver paidToDriver_id
  journal : db'.journal = postAll JournalEntry.sourceRef db.journal (activation.entries slices)

theorem commits_writeActivation {env : Env} {activation : Activation}
    {slices : List (Slice Uuid)} {db db' : Db} (henv : env.StoreHealthy)
    (hactor : activation.params.performedByUserId ≠ "")
    (hcommits : (writeActivation env activation).Commits db slices db') :
    ActivationWritten env activation slices db db' := by
  unfold writeActivation at hcommits
  simp only [commits_bind, commits_require, createTransactionHistory, commits_modify,
    commits_whenever, commits_reads, closeClearedInvoices, commits_pure] at hcommits
  obtain ⟨_, _, ⟨hsupport, rfl⟩, _, _, ⟨_, rfl⟩, _, _, rfl, _, funded, hfund, read, _,
    ⟨hread, rfl⟩, _, _, rfl, _, repaid, hrepay, rfl, rfl⟩ := hcommits
  have hfunded : ∃ failures, funded = { db with
      transactionHistory := db.transactionHistory ++
        [activation.historyRow (env.newHistoryId db.transactionHistory.length)]
      journal := postAll JournalEntry.sourceRef db.journal activation.fundingEntries
      journalFailures := failures } := by
    unfold Activation.fundingEntries
    rcases hfund with ⟨hpos, hfund⟩ | ⟨hnone, rfl⟩
    · unfold processWalletFundingTransaction at hfund
      simp only [commits_bind, commits_require] at hfund
      obtain ⟨_, _, ⟨_, rfl⟩, _, _, ⟨_, rfl⟩, _, _, ⟨_, rfl⟩, hwrite⟩ := hfund
      rw [if_pos hpos]
      exact ⟨_, commits_appendBalanced hwrite⟩
    · rw [if_neg hnone]
      exact ⟨_, rfl⟩
  obtain ⟨failures, rfl⟩ := hfunded
  rcases hrepay with ⟨hpaid, hrepay⟩ | ⟨hnone, rfl⟩
  · obtain ⟨_, _, rfl⟩ := commits_recordRepayment henv hactor hrepay
    refine ⟨hsupport, ⟨_, ?_, ?_, hread.symm⟩, rfl, rfl, ?_⟩
    · rfl
    · rfl
    · simp only [Activation.entries, Activation.repaymentEntries, if_pos hpaid, postAll_append]
  · refine ⟨hsupport, ⟨_, ?_, ?_, hread.symm⟩, rfl, rfl, ?_⟩
    · rfl
    · rfl
    · simp only [Activation.entries, Activation.repaymentEntries, if_neg hnone, append_nil]

/-! ## What the entries add up to -/

namespace Activation

variable {activation : Activation}

theorem debtPaid_eq :
    activation.debtPaid = min activation.operationalDebt activation.plan.actualBalance := by
  unfold debtPaid
  split_ifs <;> omega

theorem companySupport_eq :
    activation.companySupport = activation.params.companySupportAmountKd.getD
      (max 0 (activation.plan.actualBalance - activation.plan.salePrice)) := by
  unfold companySupport
  congr 1
  split_ifs <;> omega

theorem debtPaid_le_credit : activation.debtPaid ≤ activation.plan.actualBalance := by
  rw [debtPaid_eq]
  exact min_le_right _ _

theorem newBalance_eq :
    activation.newBalance = activation.wallet.balance +
      (activation.plan.actualBalance - activation.debtPaid) := by
  have hle := @debtPaid_le_credit activation
  unfold newBalance balanceIncrease
  simp only
  split_ifs <;> omega

theorem debtPaid_nonneg (hdebt : 0 ≤ activation.operationalDebt)
    (hcredit : 0 ≤ activation.plan.actualBalance) :
    0 ≤ activation.debtPaid := by
  rw [debtPaid_eq]
  exact le_min hdebt hcredit

theorem slices_pos (env : Env) (activation : Activation) (db : Db) :
    ∀ slice ∈ activation.slices env db, 0 < slice.amount := by
  intro slice hmem
  unfold slices at hmem
  split_ifs at hmem
  · exact allocate_pos hmem
  · cases hmem

theorem allocated_slices_le (env : Env) (db : Db) (hpaid : 0 ≤ activation.debtPaid) :
    allocated (activation.slices env db) ≤ activation.debtPaid := by
  unfold slices
  split_ifs
  · rw [allocated_allocate hpaid]
    exact min_le_left _ _
  · exact hpaid

theorem slices_items_nodup (env : Env) (activation : Activation) (db : Db) :
    ((activation.slices env db).map Slice.item).Nodup := by
  have hqueue : (activation.queue env db).map Prod.fst =
      (openInvoices activation.params.customerId db).map Order.id := by
    simp [queue]
  have hsublist := allocate_items_sublist invoiceRemainingTolerance activation.debtPaid
    (activation.queue env db)
  rw [hqueue] at hsublist
  unfold slices
  split_ifs
  · exact hsublist.nodup (openInvoices_ids_nodup activation.params.customerId db)
  · exact nodup_nil

theorem ref_of_mem_entries {slices : List (Slice Uuid)} {entry : JournalEntry}
    (hmem : entry ∈ activation.entries slices) :
    entry.sourceRef = walletFundingRef activation.subscriptionId ∨
      ∃ tail, entry.sourceRef = activation.repayment.paymentRef tail := by
  unfold entries at hmem
  rcases mem_append.1 hmem with hfunding | hrepayment
  · unfold fundingEntries at hfunding
    split_ifs at hfunding
    · rw [mem_singleton] at hfunding
      exact .inl (hfunding ▸ rfl)
    · cases hfunding
  · unfold repaymentEntries at hrepayment
    split_ifs at hrepayment
    · exact .inr (DebtCollection.ref_of_mem_entries hrepayment)
    · cases hrepayment

theorem key_mem_ref {slices : List (Slice Uuid)} {entry : JournalEntry}
    (hmem : entry ∈ activation.entries slices) :
    RefSegment.id activation.subscriptionId ∈ entry.sourceRef := by
  rcases ref_of_mem_entries hmem with href | ⟨tail, href⟩
  · simp [href, walletFundingRef]
  · simp [href, DebtCollection.paymentRef, repayment]

theorem not_settlementRef {slices : List (Slice Uuid)} {entry : JournalEntry}
    (hmem : entry ∈ activation.entries slices) (orderId : Uuid) :
    ¬ SettlementRef orderId entry.sourceRef := by
  intro hsettles
  rcases ref_of_mem_entries hmem with href | ⟨tail, href⟩
  · rw [href] at hsettles
    obtain ⟨call, _, hstage⟩ := hsettles
    rcases @SettlementCall.absorption_ref_cases call with habsorption | habsorption <;>
      simp [SettlementCall.stageRefs, habsorption, walletFundingRef, invoiceIssuedRef,
        SettlementCall.shortfallRef, walletAbsorptionV3Ref, walletAbsorptionRef,
        SettlementCall.externalRef, externalPaymentRef, SettlementCall.paydownRef] at hstage
  · rw [href] at hsettles
    obtain ⟨call, horigin⟩ := hsettles.payment
    rcases call.origin_cases with ⟨method, hmethod⟩ | hother | hother | hother
    · rw [hmethod] at horigin
      cases method <;> simp [repayment, PosPaymentMethod.name] at horigin
    · simp [repayment, hother] at horigin
    · simp [repayment, hother] at horigin
    · simp [repayment, hother] at horigin

theorem entries_refs_nodup {slices : List (Slice Uuid)} (hitems : (slices.map Slice.item).Nodup) :
    ((activation.entries slices).map JournalEntry.sourceRef).Nodup := by
  have hrepayment : ((activation.repaymentEntries slices).map
      JournalEntry.sourceRef).Nodup := by
    unfold repaymentEntries
    split_ifs
    · exact DebtCollection.entries_refs_nodup hitems _
    · exact nodup_nil
  unfold entries fundingEntries
  split_ifs
  · rw [singleton_append, map_cons, nodup_cons]
    refine ⟨?_, hrepayment⟩
    intro hmem
    obtain ⟨entry, hentry, hsame⟩ := mem_map.1 hmem
    unfold repaymentEntries at hentry
    split_ifs at hentry
    · obtain ⟨tail, href⟩ := DebtCollection.ref_of_mem_entries hentry
      rw [href] at hsame
      simp [DebtCollection.paymentRef, fundingInput, AppendJournalInput.entry,
        walletFundingRef] at hsame
    · cases hentry
  · exact hrepayment

def collected (activation : Activation) : ℤ :=
  if activation.params.paymentMethod = .DEBT_ON_ACCOUNT then 0
  else activation.plan.salePrice

/-- The price as a receivable: nothing for money in hand. -/
def deferred (activation : Activation) : ℤ :=
  if activation.params.paymentMethod = .DEBT_ON_ACCOUNT then activation.plan.salePrice
  else 0

theorem newDebt_eq (hprice : 0 ≤ activation.plan.salePrice) :
    activation.newDebt = activation.wallet.debt -
      min activation.debtPaid activation.wallet.debt + activation.deferred := by
  unfold newDebt deferred AccrueSaleOnAccount
  simp only
  by_cases haccount : activation.params.paymentMethod = .DEBT_ON_ACCOUNT
  · simp only [haccount, and_true, if_true]
    split_ifs <;> omega
  · simp only [haccount, and_false, if_false]
    split_ifs <;> omega

theorem figures_fundingEntries
    (hmethod : activation.params.paymentMethod ∈ subscriptionActivationPaymentMethods)
    (hprice : 0 ≤ activation.plan.salePrice) (hsupport : 0 ≤ activation.companySupport) :
    receivable activation.params.customerId activation.fundingEntries = activation.deferred ∧
      customerNet .WALLET_LIABILITY activation.params.customerId
        activation.fundingEntries = -activation.totalFunding ∧
      assetDebits activation.fundingEntries = activation.collected := by
  unfold fundingEntries collected deferred
  by_cases hfunded : 0 < activation.totalFunding
  · have hlines : activation.fundingInput.entry.lines = activation.fundingLines := rfl
    have hcustomer : activation.fundingInput.entry.customerId =
        some activation.params.customerId := rfl
    rw [if_pos hfunded]
    unfold receivable customerNet assetDebits
    simp only [tally_cons, tally_nil, hlines, hcustomer, if_true, add_zero]
    unfold fundingLines
    simp only [subscriptionActivationPaymentMethods, mem_cons, not_mem_nil,
      or_false] at hmethod
    rcases hmethod with hm | hm | hm | hm | hm <;>
      by_cases hpaid : 0 < activation.plan.salePrice <;>
      by_cases hgiven : 0 < activation.companySupport <;>
      simp [hm, hpaid, hgiven, paymentAccount, debitLine, creditLine, JournalAccount.Asset] <;>
      omega
  · have hnothing : activation.plan.salePrice = 0 ∧ activation.totalFunding = 0 := by
      unfold totalFunding at hfunded ⊢
      omega
    rw [if_neg hfunded, hnothing.1, hnothing.2]
    simp [receivable]

theorem figures_repaymentEntries (env : Env) (db : Db)
    (hmethod : activation.params.paymentMethod ∈ subscriptionActivationPaymentMethods)
    (hpaid : 0 ≤ activation.debtPaid) :
    receivable activation.params.customerId
        (activation.repaymentEntries (activation.slices env db)) =
        (if activation.params.paymentMethod = .DEBT_ON_ACCOUNT then 0
         else -activation.debtPaid) ∧
      customerNet .WALLET_LIABILITY activation.params.customerId
        (activation.repaymentEntries (activation.slices env db)) = 0 ∧
      assetDebits (activation.repaymentEntries (activation.slices env db)) =
        (if activation.params.paymentMethod = .DEBT_ON_ACCOUNT then 0
         else activation.debtPaid) := by
  have hallocated := allocated_slices_le env db hpaid
  unfold repaymentEntries
  by_cases hpos : 0 < activation.debtPaid
  · rw [if_pos hpos]
    by_cases haccount : activation.params.paymentMethod = .DEBT_ON_ACCOUNT
    · have hexternal : ¬ activation.repayment.paymentMethod.External := by
        change ¬ activation.params.paymentMethod.External
        rw [haccount]
        decide
      have hsliceNote : ¬ (IncludesText (lower activation.repayment.sliceNote) "void" ∨
          IncludesText (lower activation.repayment.sliceNote) "edit") := by
        change ¬ (IncludesText (lower "Invoice closed by subscription activation (FIFO)")
          "void" ∨ IncludesText (lower "Invoice closed by subscription activation (FIFO)")
          "edit")
        decide
      have hresidualNote : ¬ (IncludesText (lower activation.repayment.residualNote) "void" ∨
          IncludesText (lower activation.repayment.residualNote) "edit") := by
        change ¬ (IncludesText (lower "Residual debt cleared by subscription activation")
          "void" ∨ IncludesText (lower "Residual debt cleared by subscription activation")
          "edit")
        decide
      rw [DebtCollection.entries_of_not_external activation.repayment_plainRoute hexternal
        hsliceNote hresidualNote, if_pos haccount, if_pos haccount]
      simp [receivable]
    · have hexternal : activation.repayment.paymentMethod.External := by
        change activation.params.paymentMethod.External
        unfold PosPaymentMethod.External
        simp only [subscriptionActivationPaymentMethods, mem_cons, not_mem_nil,
          or_false] at hmethod
        tauto
      have hfigures := DebtCollection.figures_rows activation.repayment_plainRoute
        hexternal (activation.slices env db) (slices_pos env activation db)
        (activation.debtPaid - allocated (activation.slices env db))
      rw [if_neg haccount, if_neg haccount, hfigures.2.2]
      refine ⟨hfigures.1.trans ?_, hfigures.2.1, ?_⟩
      · omega
      · omega
  · have hzero : activation.debtPaid = 0 := by omega
    rw [if_neg hpos, hzero]
    simp [receivable]

end Activation

/-! ## Wallet against journal -/

namespace ActivationWritten

variable {env : Env} {activation : Activation} {slices : List (Slice Uuid)} {db db' : Db}

theorem journal_append (hwritten : ActivationWritten env activation slices db db')
    (hfresh : Unmentioned activation.subscriptionId db.journal) :
    db'.journal = db.journal ++ activation.entries slices := by
  obtain ⟨before, -, -, rfl⟩ := hwritten.reads
  rw [hwritten.journal]
  apply postAll_eq_append_of_fresh
  · exact Activation.entries_refs_nodup (Activation.slices_items_nodup env activation before)
  · intro entry hmem
    exact hfresh.not_recorded (Activation.key_mem_ref hmem)

theorem consistent (hwritten : ActivationWritten env activation slices db db')
    (hconsistent : SettlementConsistent db) :
    SettlementConsistent db' := by
  intro order hmem _ hunsettled hopen ref href
  rw [hwritten.orders] at hmem
  obtain ⟨old, hold, hrow⟩ := Table.mem_updateWhere.1 hmem
  have hsame : order.id = old.id ∧ order.walletSettledAt = old.walletSettledAt ∧
      order.status = old.status := by
    rw [← hrow]
    split_ifs
    · exact ⟨rfl, rfl, rfl⟩
    · exact ⟨rfl, rfl, rfl⟩
  rw [hsame.1] at href
  rw [hsame.2.1] at hunsettled
  rw [hsame.2.2] at hopen
  rw [hwritten.journal]
  unfold Recorded
  rw [posted_postAll]
  rintro (hbefore | ⟨entry, hentry, rfl⟩)
  · exact hconsistent old hold not_false hunsettled hopen ref href hbefore
  · exact Activation.not_settlementRef hentry old.id href

end ActivationWritten

/-- What the checks of an activation accepted; they change nothing but the
customer's origin branch. -/
structure Prepared (env : Env) (params : ActivateSubscriptionParams)
    (activation : Activation) (db db' : Db) : Prop where
  plan_found : db.plans.find? params.planId = some activation.plan
  activation_eq : activation = ⟨params, activation.plan, db.wallets params.customerId,
    operationalDebt params.customerId db, env.newSubscriptionId db.subscriptions.length⟩
  actor : params.performedByUserId ≠ ""
  price_nonneg : 0 ≤ activation.plan.salePrice
  credit_nonneg : 0 ≤ activation.plan.actualBalance
  method_allowed : params.paymentMethod ∈ subscriptionActivationPaymentMethods
  same : ∃ branchId, db' = originBranched params.customerId branchId db

variable {params : ActivateSubscriptionParams}

theorem commits_prepareActivation {env : Env} {activation : Activation} {db db' : Db}
    (hcommits : (prepareActivation env params).Commits db activation db') :
    Prepared env params activation db db' := by
  unfold prepareActivation prepareWith prepareLocked at hcommits
  simp only [commits_bind, commits_fetch, commits_require, commits_reads,
    ensureCustomerOriginBranchTx, commits_modify, commits_pure] at hcommits
  obtain ⟨plan, _, ⟨hplan, rfl⟩, _, _, ⟨_, rfl⟩, _, _, ⟨_, rfl⟩, wallet, _, ⟨rfl, rfl⟩, hrest⟩ :=
    hcommits
  obtain ⟨actor, _, ⟨hactor, rfl⟩, _, branched, hbranched, hrest⟩ := hrest
  obtain ⟨operational, _, ⟨hoperational, rfl⟩, _, _, ⟨hsigns, rfl⟩, _, _, ⟨_, rfl⟩, hrest⟩ := hrest
  obtain ⟨_, _, ⟨hmethod, rfl⟩, subscriptionId, _, ⟨hsubscription, rfl⟩, rfl, rfl⟩ := hrest
  have hdebt : operationalDebt params.customerId branched =
      operationalDebt params.customerId db := by
    rw [hbranched]
    cases actor.branchId <;> rfl
  have hsubscriptions : branched.subscriptions = db.subscriptions := by
    rw [hbranched]
    cases actor.branchId <;> rfl
  have hprice : 0 ≤ plan.salePrice := by omega
  have hcredit : 0 ≤ plan.actualBalance := by omega
  refine ⟨hplan, ?_, ne_empty_of_findUser hactor, hprice, hcredit, hmethod, _, hbranched⟩
  rw [← hoperational, ← hsubscription, hdebt, hsubscriptions]

/-- Everything a committed activation went through before the reconciliation. -/
structure Activated (env : Env) (params : ActivateSubscriptionParams)
    (result : SubscriptionActivationSettlement) (activation : Activation) (db mid : Db) :
    Prop where
  prepared : ∃ branched, Prepared env params activation db branched
  written : ∃ opened slices, ActivationWritten env activation slices opened mid ∧
      result.closedInvoiceIds = Activation.closedInvoiceIds slices ∧
      opened.orders = db.orders ∧ opened.journal = db.journal ∧
      opened.wallets = Function.update db.wallets params.customerId
        ⟨activation.newBalance, activation.newDebt⟩
  debtSettled : result.debtSettled = activation.debtPaid

theorem commits_activateSubscriptionPlan {env : Env} {result : SubscriptionActivationSettlement}
    {db db' : Db} (henv : env.StoreHealthy)
    (hcommits : (activateSubscriptionPlan env params).Commits db result db') :
    ∃ activation mid, Activated env params result activation db mid ∧
      (db' = mid ∨ ∃ paid, (autoReconcileUnpaidInvoicesFromPrepaidBalanceTx env
        params.customerId (some params.performedByUserId)).Commits mid paid db') := by
  unfold activateSubscriptionPlan completeActivation at hcommits
  simp only [commits_bind, commits_reads, rollSubscription, updateWallet, commits_modify,
    commits_pure] at hcommits
  obtain ⟨activation, branched, hprepare, previous, _, ⟨_, rfl⟩, _, _, rfl, _, _, rfl,
    slices, mid, hwrite, paid, final, hreconcile, _, _, ⟨_, rfl⟩, rfl, rfl⟩ := hcommits
  have hprepared := commits_prepareActivation hprepare
  have hparams : activation.params = params := by
    rw [hprepared.activation_eq]
  have hwritten := commits_writeActivation henv (hparams ▸ hprepared.actor) hwrite
  obtain ⟨branchId, hsame⟩ := hprepared.same
  have hcolumns : branched.orders = db.orders ∧ branched.journal = db.journal ∧
      branched.wallets = db.wallets := by
    rw [hsame]
    cases branchId <;> exact ⟨rfl, rfl, rfl⟩
  refine ⟨activation, mid, ⟨⟨branched, hprepared⟩, ⟨_, slices, hwritten, rfl, hcolumns.1,
    hcolumns.2.1, ?_⟩, rfl⟩, ?_⟩
  · simp only [hcolumns.2.2]
  · unfold prepaidReconciled at hreconcile
    by_cases hskip : params.skipPrepaidAutoReconcile = true
    · rw [if_pos hskip, commits_pure] at hreconcile
      exact .inl hreconcile.2.symm
    · rw [if_neg hskip] at hreconcile
      exact .inr ⟨paid, hreconcile⟩

/-- The activations whose journal matches the wallet: no old debt is repaid out of
the credit, and price and support make up the credit. -/
def ActivateSubscriptionParams.Exact (params : ActivateSubscriptionParams)
    (plan : SubscriptionPlan) (db : Db) : Prop :=
  let repaid := min (operationalDebt params.customerId db) plan.actualBalance
  plan.salePrice + params.companySupportAmountKd.getD
      (max 0 (plan.actualBalance - plan.salePrice)) = plan.actualBalance - repaid ∧
    min repaid (db.wallets params.customerId).debt = 0 ∧
    (params.paymentMethod ≠ .DEBT_ON_ACCOUNT → repaid = 0)
  deriving Decidable

def ActivateSubscriptionParams.priceCollected (params : ActivateSubscriptionParams)
    (plan : SubscriptionPlan) : ℤ :=
  if params.paymentMethod = .DEBT_ON_ACCOUNT then 0 else plan.salePrice

/-- The three figures of an activation agree with its wallet arithmetic exactly in
`Exact`: what is repaid comes off the wallet debt but not off the liability, and
goes through an asset account. -/
theorem activationArithmetic_exact_iff {plan : SubscriptionPlan} {db : Db} (subscriptionId : Uuid)
    (hprice : 0 ≤ plan.salePrice) :
    let activation : Activation := ⟨params, plan, db.wallets params.customerId,
      operationalDebt params.customerId db, subscriptionId⟩
    (activation.totalFunding = activation.newBalance - activation.wallet.balance ∧
      activation.deferred + (if params.paymentMethod = .DEBT_ON_ACCOUNT then 0
        else -activation.debtPaid) = activation.newDebt - activation.wallet.debt ∧
      activation.collected + (if params.paymentMethod = .DEBT_ON_ACCOUNT then 0
        else activation.debtPaid) = params.priceCollected plan) ↔
    params.Exact plan db := by
  intro activation
  have hpaid : activation.debtPaid =
      min (operationalDebt params.customerId db) plan.actualBalance := Activation.debtPaid_eq
  have hsupport : activation.companySupport = params.companySupportAmountKd.getD
      (max 0 (plan.actualBalance - plan.salePrice)) := Activation.companySupport_eq
  have hbalance : activation.newBalance = (db.wallets params.customerId).balance +
      (plan.actualBalance - activation.debtPaid) := Activation.newBalance_eq
  have hnew : activation.newDebt = (db.wallets params.customerId).debt -
      min activation.debtPaid (db.wallets params.customerId).debt + activation.deferred :=
    Activation.newDebt_eq hprice
  have hfunding : activation.totalFunding = plan.salePrice + activation.companySupport := rfl
  have hbefore : activation.wallet = db.wallets params.customerId := rfl
  have hcollected : activation.collected = params.priceCollected plan := rfl
  unfold ActivateSubscriptionParams.Exact
  rw [hfunding, hbalance, hnew, hsupport, hcollected, hbefore, ← hpaid]
  by_cases haccount : params.paymentMethod = .DEBT_ON_ACCOUNT
  · simp only [haccount, if_true, ne_eq, not_true_eq_false, false_implies, and_true]
    constructor
    · rintro ⟨h₁, h₂⟩
      exact ⟨by omega, by omega⟩
    · rintro ⟨h₁, h₂⟩
      exact ⟨by omega, by omega⟩
  · simp only [haccount, if_false, ne_eq, not_false_eq_true, true_implies]
    constructor
    · rintro ⟨h₁, h₂, h₃⟩
      exact ⟨by omega, by omega, by omega⟩
    · rintro ⟨h₁, h₂, h₃⟩
      exact ⟨by omega, by omega, by omega⟩

/-- In a committed activation the prepaid liability moves with the balance, the
receivable with the debt, and the asset accounts receive the price collected if
and only if the activation is in `Exact`. -/
theorem subscriptionActivation_exact_iff {env : Env} {params : ActivateSubscriptionParams}
    {plan : SubscriptionPlan} {result : SubscriptionActivationSettlement} {db db' : Db}
    (henv : env.StoreHealthy) (hconsistent : SettlementConsistent db)
    (hfresh : Unmentioned (env.newSubscriptionId db.subscriptions.length) db.journal)
    (hplan : db.plans.find? params.planId = some plan)
    (hcommits : (activateSubscriptionPlan env params).Commits db result db') :
    (walletLiability params.customerId db'.journal - walletLiability params.customerId db.journal =
        (db'.wallets params.customerId).balance - (db.wallets params.customerId).balance ∧
      receivable params.customerId db'.journal - receivable params.customerId db.journal =
        (db'.wallets params.customerId).debt - (db.wallets params.customerId).debt ∧
      assetDebits db'.journal - assetDebits db.journal = params.priceCollected plan) ↔
    params.Exact plan db := by
  obtain ⟨activation, mid, hactivated, hreconcile⟩ :=
    commits_activateSubscriptionPlan henv hcommits
  obtain ⟨branched, hprepared⟩ := hactivated.prepared
  have hfound := hprepared.plan_found
  rw [hplan] at hfound
  have hsamePlan : activation.plan = plan := (Option.some.inj hfound).symm
  have hactivation := hprepared.activation_eq
  rw [hsamePlan] at hactivation
  subst hactivation
  obtain ⟨opened, slices, hwritten, -, horders, hjournal, hwallets⟩ := hactivated.written
  have hopened : SettlementConsistent opened := by
    unfold SettlementConsistent FreshExcept
    rw [horders, hjournal]
    exact hconsistent
  have hkeeps : KeepsFigures params.customerId mid db' := by
    rcases hreconcile with rfl | ⟨paid, hrun⟩
    · exact KeepsFigures.refl _ _
    · exact (commits_autoReconcile henv (hwritten.consistent hopened) hrun).1
  have hmid := hwritten.journal_append (hjournal ▸ hfresh)
  rw [hjournal] at hmid
  have hmidWallet := congrFun (hwritten.wallets.trans hwallets) params.customerId
  rw [Function.update_self] at hmidWallet
  have hdebt := operationalDebt_nonneg params.customerId db
  have hexact := @activationArithmetic_exact_iff params plan db
    (env.newSubscriptionId db.subscriptions.length) hprepared.price_nonneg
  simp only at hexact
  obtain ⟨before, -, -, hslices⟩ := hwritten.reads
  obtain ⟨hfunded, hfundedLiability, hfundedAssets⟩ := Activation.figures_fundingEntries
    hprepared.method_allowed hprepared.price_nonneg hwritten.support_nonneg
  obtain ⟨hrepaid, hrepaidLiability, hrepaidAssets⟩ :=
    Activation.figures_repaymentEntries env before hprepared.method_allowed
      (Activation.debtPaid_nonneg hdebt hprepared.credit_nonneg)
  rw [← hslices] at hrepaid hrepaidLiability hrepaidAssets
  have hliability := hkeeps.liability
  have hreceivable := hkeeps.receivable
  have hassets := hkeeps.assets
  unfold walletLiability receivable at *
  rw [hmidWallet, hmid] at hliability hreceivable
  rw [hmid] at hassets
  simp only at hliability hreceivable
  unfold Activation.entries at hliability hreceivable hassets
  rw [customerNet_append, customerNet_append] at hliability hreceivable
  rw [assetDebits_append, assetDebits_append] at hassets
  rw [hfundedLiability, hrepaidLiability] at hliability
  rw [hfunded, hrepaid] at hreceivable
  rw [hfundedAssets, hrepaidAssets] at hassets
  simp only at hreceivable hassets
  refine Iff.trans ?_ hexact
  generalize (if params.paymentMethod = .DEBT_ON_ACCOUNT then (0 : ℤ) else
    -Activation.debtPaid _) = credited at hreceivable ⊢
  generalize (if params.paymentMethod = .DEBT_ON_ACCOUNT then (0 : ℤ) else
    Activation.debtPaid _) = debited at hassets ⊢
  constructor
  · rintro ⟨h₁, h₂, h₃⟩
    exact ⟨by omega, by omega, by omega⟩
  · rintro ⟨h₁, h₂, h₃⟩
    exact ⟨by omega, by omega, by omega⟩

def Sample.plan : SubscriptionPlan :=
  ⟨"plan", "Twenty for twenty-five", 200000, 250000, 30, true⟩

def Sample.planShop (wallet : CustomerWallet) : Db :=
  { Sample.shop wallet (Sample.oneOrder "order") with
    plans := ⟨[Sample.plan], by decide⟩ }

def Sample.planSale : ActivateSubscriptionParams where
  customerId := "customer"
  planId := "plan"
  performedByUserId := "owner"
  autoCloseInvoices := false
  paymentMethod := .KNET
  skipPrepaidAutoReconcile := false
  companySupportAmountKd := none

def Sample.debtFreeSale : Except ServiceError SubscriptionActivationSettlement × Db :=
  (activateSubscriptionPlan Env.default Sample.planSale).outcome (Sample.planShop ⟨0, 0⟩)

theorem subscriptionActivation_exact_iff_sample :
    (walletLiability "customer" Sample.debtFreeSale.2.journal -
          walletLiability "customer" (Sample.planShop ⟨0, 0⟩).journal =
        (Sample.debtFreeSale.2.wallets "customer").balance -
          ((Sample.planShop ⟨0, 0⟩).wallets "customer").balance ∧
      receivable "customer" Sample.debtFreeSale.2.journal -
          receivable "customer" (Sample.planShop ⟨0, 0⟩).journal =
        (Sample.debtFreeSale.2.wallets "customer").debt -
          ((Sample.planShop ⟨0, 0⟩).wallets "customer").debt ∧
      assetDebits Sample.debtFreeSale.2.journal - assetDebits (Sample.planShop ⟨0, 0⟩).journal =
        Sample.planSale.priceCollected Sample.plan) ↔
    Sample.planSale.Exact Sample.plan (Sample.planShop ⟨0, 0⟩) :=
  @subscriptionActivation_exact_iff Env.default Sample.planSale Sample.plan
    ⟨200000, 0, 250000, 0, 0, 230000, 0, 250000, 50000, "subscription-0", none, 0, [],
      ["order"]⟩ (Sample.planShop ⟨0, 0⟩) Sample.debtFreeSale.2
    (fun _ => rfl) (settlementConsistent_of_no_journal rfl)
    (by unfold Unmentioned; decide +kernel) (by decide)
    (commits_of_returns (by decide +kernel))

theorem subscriptionActivation_fails :
    ¬ ∀ (env : Env) (params : ActivateSubscriptionParams) (plan : SubscriptionPlan)
        (result : SubscriptionActivationSettlement) (db db' : Db),
      env.StoreHealthy → SettlementConsistent db →
      Unmentioned (env.newSubscriptionId db.subscriptions.length) db.journal →
      db.plans.find? params.planId = some plan →
      (activateSubscriptionPlan env params).Commits db result db' →
      walletLiability params.customerId db'.journal - walletLiability params.customerId db.journal =
          (db'.wallets params.customerId).balance - (db.wallets params.customerId).balance ∧
        receivable params.customerId db'.journal - receivable params.customerId db.journal =
          (db'.wallets params.customerId).debt - (db.wallets params.customerId).debt ∧
        assetDebits db'.journal - assetDebits db.journal = params.priceCollected plan := by
  intro hexact
  have hsample := hexact Env.default Sample.planSale Sample.plan
    ⟨200000, 50000, 200000, 0, 50000, 180000, 0, 250000, 50000, "subscription-0", none,
      -50000, [], ["order"]⟩ (Sample.planShop ⟨0, 50000⟩)
    ((activateSubscriptionPlan Env.default Sample.planSale).outcome (Sample.planShop ⟨0, 50000⟩)).2
    (fun _ => rfl) (settlementConsistent_of_no_journal rfl)
    (by unfold Unmentioned; decide +kernel) (by decide)
    (commits_of_returns (by decide +kernel))
  revert hsample
  decide +kernel

end SafariLaundry
