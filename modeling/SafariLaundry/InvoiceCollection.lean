import SafariLaundry.Library.History
import SafariLaundry.RemainingBalances

/-!
# Collecting a debt invoice at the call center

`recordDebtInvoiceCollectedAtCallCenter` takes the money for an order that was sold
on account.  The order, what is open on it and an earlier collection are read before
the wallet lock, the wallet is read again under it; the part under the lock is
therefore a function of its own of what was read before.
-/

namespace SafariLaundry

open Library Library.Bookkeeping Library.Transaction

/-! ## The service method -/

structure DebtInvoiceCollection where
  orderId : Uuid
  confirmedMethod : PosPaymentMethod
  performedByUserId : Uuid
  external : confirmedMethod.External

namespace DebtInvoiceCollection

def sourceRef (params : DebtInvoiceCollection) : SourceRef :=
  [.word "PAYMENT", .word "CC_DEBT_INVOICE_PHYSICAL", .id params.orderId,
    .word params.confirmedMethod.name]

def paymentRef (params : DebtInvoiceCollection) : SourceRef :=
  [.id params.orderId, .word params.confirmedMethod.name, .word "CC_DEBT_INVOICE_PHYSICAL"]

def externalArgs (params : DebtInvoiceCollection) (customerId : Uuid) (paydown : ℤ) :
    ExternalPaymentArgs where
  customerId := customerId
  orderId := some params.orderId
  actorUserId := params.performedByUserId
  amount := paydown
  paymentMethod := params.confirmedMethod
  paymentRef := params.paymentRef

def mirror (params : DebtInvoiceCollection) (customerId : Uuid) (paydown : ℤ) :
    MirrorDebtLedgerInput where
  source := .PAYMENT
  amount := paydown
  sourceRef := params.sourceRef
  actorUserId := params.performedByUserId
  customerId := customerId
  orderId := some params.orderId
  paymentMethod := some params.confirmedMethod
  note := "Debt-on-account invoice collected at Call Center"

def ledgerRow (params : DebtInvoiceCollection) (customerId : Uuid) (paydown : ℤ) :
    GeneralLedgerEntry where
  entryType := .DEBT_ADJUSTMENT
  amount := -paydown
  memo := "Debt-on-account invoice collected via Call Center"
  customerId := some customerId
  orderId := some params.orderId
  actorUserId := some params.performedByUserId

def historyRow (params : DebtInvoiceCollection) (customerId : Uuid) (paydown : ℤ)
    (wallet : CustomerWallet) (id : Uuid) : TransactionHistory where
  id := id
  physicalCollection := true
  type := .ORDER_WALLET_SETTLEMENT
  customerId := customerId
  orderId := some params.orderId
  subscriptionId := none
  amount := paydown
  balanceBefore := wallet.balance
  balanceAfter := wallet.balance
  debtBefore := wallet.debt
  debtAfter := wallet.debt - paydown
  performedById := params.performedByUserId

end DebtInvoiceCollection

def IsCollection (orderId : Uuid) (entry : JournalEntry) : Prop :=
  entry.orderId = some orderId ∧ entry.source = "PAYMENT" ∧
    entry.sourceRef.StartsWith ["PAYMENT", "CC_DEBT_INVOICE_PHYSICAL"]
  deriving Decidable

inductive CollectionKind
  | applied | already_cleared

/-- What the reads before the lock decided: nothing is open, or this much of this
customer's. -/
inductive CollectionPlan
  | clear
  | collect (customerId : Uuid) (remaining : ℤ)

/-- The states of the database that the reads before the lock saw. -/
structure CollectionReads where
  (order remaining journal : Db)

def planCollection (env : Env) (params : DebtInvoiceCollection) (reads : CollectionReads) :
    Tx CollectionPlan := do
  let order ← fetch (fun _ => reads.order.orders.find? params.orderId) (.notFound "Order not found")
  require (order.status ≠ .CANCELED) (.badRequest "Order is canceled — cannot record collection")
  require (order.posPaymentMethod = .DEBT_ON_ACCOUNT)
    (.badRequest "This path only applies to invoices that were sold as debt-on-account")
  require (order.walletSettledAt ≠ none) (.badRequest
    "Invoice has no ledger booking yet — use the standard manual mark flow")
  let remaining := computeOrderRemainingBalance env reads.remaining params.orderId
  if remaining ≤ 0 then pure .clear else do
    require (¬ ∃ entry ∈ reads.journal.journal, IsCollection params.orderId entry)
      (.conflict ("Order " ++ params.orderId ++ " already has a CC collection journal " ++
        "entry. No duplicate settlement permitted."))
    pure (.collect order.customerId remaining)

def collectedByMethod (method : PosPaymentMethod) (order : Order) : Order :=
  { order with
    posPaymentMethod := method
    cashStatus := cashStatusForPaymentMethod method }

theorem collectedByMethod_id (method : PosPaymentMethod) (order : Order) :
    (collectedByMethod method order).id = order.id := rfl

def markCollected (params : DebtInvoiceCollection) : Tx Unit :=
  updateOrder params.orderId (collectedByMethod params.confirmedMethod)
    (collectedByMethod_id params.confirmedMethod)

def journalCollection (env : Env) (params : DebtInvoiceCollection) (customerId : Uuid)
    (paydown : ℤ) : Tx Unit :=
  if isV20_3TrueAccountingEnabled env = true then
    appendExternalPaymentEntrySafe env (params.externalArgs customerId paydown)
  else mirrorDebtLedgerEntrySafe env (params.mirror customerId paydown)

def collectLocked (env : Env) (params : DebtInvoiceCollection) (customerId : Uuid)
    (remaining : ℤ) : Tx Unit := do
  let wallet ← reads fun db => db.wallets customerId
  let paydown := min remaining wallet.debt
  require (0 < paydown) (.badRequest
    ("Aggregate wallet debt is zero while this invoice still carries an open balance " ++
      "— contact accounting"))
  updateWallet customerId { wallet with debt := wallet.debt - paydown }
  let _ ← fetch (findUser params.performedByUserId) (.notFound "Performing user not found")
  createTransactionHistory env (params.historyRow customerId paydown wallet)
  assertDebtLedgerPaymentWrite params.performedByUserId params.sourceRef
  journalCollection env params customerId paydown
  generalLedgerAppend (params.ledgerRow customerId paydown)
  whenever (remaining ≤ paydown) (markCollected params)

def followPlan (env : Env) (params : DebtInvoiceCollection) :
    CollectionPlan → Tx CollectionKind
  | .clear => do
      markCollected params
      return .already_cleared
  | .collect customerId remaining => do
      collectLocked env params customerId remaining
      return .applied

def collectInvoiceSeeing (env : Env) (params : DebtInvoiceCollection)
    (reads : CollectionReads) : Tx CollectionKind := do
  let plan ← planCollection env params reads
  followPlan env params plan

def recordDebtInvoiceCollectedAtCallCenter (env : Env) (params : DebtInvoiceCollection) :
    Tx CollectionKind := do
  let db ← get
  collectInvoiceSeeing env params ⟨db, db, db⟩

/-! ## What a committed collection leaves behind -/

namespace DebtInvoiceCollection

variable (params : DebtInvoiceCollection)

def postedRef (trueAccounting : Bool) : SourceRef :=
  if trueAccounting = true then externalPaymentRef params.paymentRef else params.sourceRef

def entries (trueAccounting : Bool) (customerId : Uuid) (paydown : ℤ) : List JournalEntry :=
  if trueAccounting = true then externalPaymentEntries (params.externalArgs customerId paydown)
  else mirrorEntries (params.mirror customerId paydown)

theorem asset_mirror (customerId : Uuid) (paydown : ℤ) :
    ∃ asset : JournalAccount, asset.Asset ∧
      paymentAssetAccount (params.mirror customerId paydown) = some asset := by
  rcases params with ⟨orderId, method, performer, hexternal⟩
  rcases hexternal with rfl | rfl | rfl | rfl
  · exact ⟨.CASH, by decide, by
      simp [paymentAssetAccount, mirror, sourceRef, SourceRef.Includes]⟩
  · exact ⟨.BANK_KNET, by decide, by
      simp [paymentAssetAccount, mirror]⟩
  · exact ⟨.BANK_ONLINE, by decide, by
      simp [paymentAssetAccount, mirror, sourceRef, SourceRef.Includes]⟩
  · exact ⟨.BANK_ONLINE, by decide, by
      simp [paymentAssetAccount, mirror, sourceRef, SourceRef.Includes]⟩

theorem entries_eq (trueAccounting : Bool) (customerId : Uuid) {paydown : ℤ}
    (hpaydown : 0 < paydown) :
    ∃ posting : PairPosting,
      params.entries trueAccounting customerId paydown = [posting.input.entry] ∧
      posting.sourceRef = params.postedRef trueAccounting ∧
      posting.customerId = customerId ∧ posting.orderId = some params.orderId ∧
      posting.debited.Asset ∧ posting.credited = .ACCOUNTS_RECEIVABLE ∧
      posting.amount = paydown := by
  unfold entries postedRef
  by_cases htrue : trueAccounting = true
  · rw [if_pos htrue, if_pos htrue]
    obtain ⟨asset, hasset⟩ := Option.isSome_iff_exists.1
      (externalPaymentAssetAccount_isSome.2 params.external)
    have hmethod : externalPaymentAssetAccount
        (params.externalArgs customerId paydown).paymentMethod = some asset := hasset
    unfold externalPaymentEntries
    rw [hmethod]
    refine ⟨externalPaymentEntry (params.externalArgs customerId paydown) asset,
      PairPosting.entries_of_pos hpaydown, rfl, rfl, rfl, ?_, rfl, rfl⟩
    exact externalPaymentAssetAccount_asset hasset
  · rw [if_neg htrue, if_neg htrue]
    obtain ⟨asset, hassets, hasset⟩ := params.asset_mirror customerId paydown
    have hwallet : ¬ (params.mirror customerId paydown).sourceRef.StartsWith
        ["PAYMENT", "WALLET"] := by
      simp [mirror, sourceRef, SourceRef.StartsWith]
    have hentries : mirrorEntries (params.mirror customerId paydown) =
        (mirrorPaymentEntry (params.mirror customerId paydown) asset).entries := by
      unfold mirrorEntries
      change (if _ then _ else _) = _
      rw [if_neg hwallet, hasset]
    refine ⟨mirrorPaymentEntry (params.mirror customerId paydown) asset, ?_, rfl, rfl, rfl,
      hassets, rfl, rfl⟩
    rw [hentries]
    exact PairPosting.entries_of_pos hpaydown

end DebtInvoiceCollection

variable {env : Env} {customerId : Uuid} {paydown : ℤ} {db' : Db}

theorem commits_journalCollection {params : DebtInvoiceCollection} {db : Db}
    (henv : env.StoreHealthy) (hactor : params.performedByUserId ≠ "")
    (hcommits : (journalCollection env params customerId paydown).Commits db () db') :
    Wrote (params.entries (isV20_3TrueAccountingEnabled env) customerId paydown) db db' := by
  unfold journalCollection at hcommits
  unfold DebtInvoiceCollection.entries
  by_cases htrue : isV20_3TrueAccountingEnabled env = true
  · rw [if_pos htrue] at hcommits ⊢
    exact commits_appendExternalPaymentEntrySafe henv hactor
      (by simp [DebtInvoiceCollection.externalArgs, DebtInvoiceCollection.paymentRef]) hcommits
  · rw [if_neg htrue] at hcommits ⊢
    exact commits_mirrorDebtLedgerEntrySafe henv hactor
      (by simp [DebtInvoiceCollection.mirror, DebtInvoiceCollection.sourceRef]) hcommits

theorem commits_markCollected {params : DebtInvoiceCollection} {db : Db}
    (hcommits : (markCollected params).Commits db () db') :
    db' = { db with
      orders := db.orders.update params.orderId (collectedByMethod params.confirmedMethod)
        (collectedByMethod_id params.confirmedMethod) } := by
  unfold markCollected updateOrder at hcommits
  simp only [commits_bind, commits_fetch, commits_modify] at hcommits
  obtain ⟨_, _, ⟨_, rfl⟩, hmodified⟩ := hcommits
  exact hmodified

def OrdersCollected (params : DebtInvoiceCollection) (orders orders' : Table Order.id) :
    Prop :=
  orders' = orders ∨
    orders' = orders.update params.orderId (collectedByMethod params.confirmedMethod)
      (collectedByMethod_id params.confirmedMethod)

structure InvoiceCollected (env : Env) (params : DebtInvoiceCollection) (customerId : Uuid)
    (paydown : ℤ) (db db' : Db) : Prop where
  positive : 0 < paydown
  wallets : db'.wallets = Function.update db.wallets customerId
    { db.wallets customerId with debt := (db.wallets customerId).debt - paydown }
  journal : db'.journal = postAll JournalEntry.sourceRef db.journal
    (params.entries (isV20_3TrueAccountingEnabled env) customerId paydown)
  transactionHistory : db'.transactionHistory = db.transactionHistory ++
    [params.historyRow customerId paydown (db.wallets customerId)
      (env.newHistoryId db.transactionHistory.length)]
  generalLedger : db'.generalLedger = db.generalLedger ++ [params.ledgerRow customerId paydown]
  stockMovements : db'.stockMovements = db.stockMovements
  orders : OrdersCollected params db.orders db'.orders

theorem commits_collectLocked {params : DebtInvoiceCollection} {remaining : ℤ} {db : Db}
    (henv : env.StoreHealthy)
    (hcommits : (collectLocked env params customerId remaining).Commits db () db') :
    InvoiceCollected env params customerId (min remaining (db.wallets customerId).debt) db db' := by
  unfold collectLocked at hcommits
  simp only [commits_bind, commits_reads, commits_require, updateWallet, commits_modify,
    commits_fetch, createTransactionHistory, commits_whenever] at hcommits
  obtain ⟨wallet, _, ⟨rfl, rfl⟩, _, _, ⟨hpositive, rfl⟩, _, db₁, rfl, actor, _,
    ⟨hactor, rfl⟩, _, db₂, rfl, hrest⟩ := hcommits
  obtain ⟨_, db₃, hassert, _, db₄, hjournal, _, db₅, hledger, hclose⟩ := hrest
  have hsame := commits_assertDebtLedgerPaymentWrite hassert
  subst hsame
  have hperformer : params.performedByUserId ≠ "" := ne_empty_of_findUser hactor
  obtain ⟨_, rfl⟩ := commits_journalCollection henv hperformer hjournal
  obtain ⟨_, rfl⟩ := commits_generalLedgerAppend hledger
  rcases hclose with ⟨_, hclose⟩ | ⟨_, rfl⟩
  · obtain rfl := commits_markCollected hclose
    exact ⟨hpositive, rfl, rfl, rfl, rfl, rfl, .inr rfl⟩
  · exact ⟨hpositive, rfl, rfl, rfl, rfl, rfl, .inl rfl⟩

structure CollectionCall where
  env : Env
  params : DebtInvoiceCollection
  reads : CollectionReads

namespace CollectionCall

def run (call : CollectionCall) : Tx CollectionKind :=
  transaction (collectInvoiceSeeing call.env call.params call.reads)

def Plans (call : CollectionCall) (db : Db) (customerId : Uuid) (remaining : ℤ) : Prop :=
  (planCollection call.env call.params call.reads).Commits db (.collect customerId remaining) db

end CollectionCall

def collections : Calls Db CollectionCall where
  step := fun call db => (call.run.outcome db).2
  seen := fun call => [call.reads.order, call.reads.remaining, call.reads.journal]

theorem planCollection_cases {params : DebtInvoiceCollection} {reads : CollectionReads}
    {plan : CollectionPlan} {db : Db}
    (hcommits : (planCollection env params reads).Commits db plan db') :
    db = db' ∧ ∃ order, reads.order.orders.find? params.orderId = some order ∧
      order.status ≠ .CANCELED ∧
      (plan = .clear ∨ (0 < computeOrderRemainingBalance env reads.remaining params.orderId ∧
          plan = .collect order.customerId
            (computeOrderRemainingBalance env reads.remaining params.orderId))) := by
  unfold planCollection at hcommits
  simp only [commits_bind, commits_fetch, commits_require] at hcommits
  obtain ⟨order, _, ⟨horder, rfl⟩, _, _, ⟨hopen, rfl⟩, _, _, ⟨_, rfl⟩, _, _, ⟨_, rfl⟩,
    hrest⟩ := hcommits
  by_cases hnone : computeOrderRemainingBalance env reads.remaining params.orderId ≤ 0
  · rw [if_pos hnone, commits_pure] at hrest
    exact ⟨hrest.2, order, horder, hopen, .inl hrest.1.symm⟩
  · rw [if_neg hnone] at hrest
    simp only [commits_bind, commits_require, commits_pure] at hrest
    obtain ⟨_, _, ⟨_, rfl⟩, hplan, rfl⟩ := hrest
    exact ⟨rfl, order, horder, hopen, .inr ⟨by omega, hplan.symm⟩⟩

/-- What one call does: nothing but to log, to close an invoice on which nothing is
open, or to collect. -/
inductive CollectionResult (call : CollectionCall) (db db' : Db) : Prop
  | refused (hsame : ∃ failures, db' = { db with journalFailures := failures })
  | cleared (hclosed : ∃ orders, OrdersCollected call.params db.orders orders ∧
      db' = { db with orders := orders })
  | collected (customerId : Uuid) (remaining : ℤ) (hplan : call.Plans db customerId remaining)
      (hdone : InvoiceCollected call.env call.params customerId
        (min remaining (db.wallets customerId).debt) db db')

theorem commits_collectInvoiceSeeing {call : CollectionCall} {kind : CollectionKind}
    {db db' : Db} (henv : call.env.StoreHealthy)
    (hcommits : (collectInvoiceSeeing call.env call.params call.reads).Commits db kind db') :
    CollectionResult call db db' := by
  unfold collectInvoiceSeeing at hcommits
  obtain ⟨plan, mid, hplan, hfollow⟩ := commits_bind.1 hcommits
  obtain ⟨rfl, _⟩ := planCollection_cases hplan
  cases plan with
  | clear =>
      simp only [followPlan, commits_bind, commits_pure] at hfollow
      obtain ⟨_, _, hclose, _, rfl⟩ := hfollow
      exact .cleared ⟨_, .inr rfl, commits_markCollected hclose⟩
  | collect customerId remaining =>
      simp only [followPlan, commits_bind, commits_pure] at hfollow
      obtain ⟨_, _, hcollect, _, rfl⟩ := hfollow
      exact .collected customerId remaining hplan (commits_collectLocked henv hcollect)

theorem collections_step (call : CollectionCall) (henv : call.env.StoreHealthy) (db : Db) :
    CollectionResult call db (collections.step call db) := by
  have hkeeps : KeepsAt (CollectionResult call) db call.run := by
    apply keepsAt_atomically
    · intro kind db' hcommits
      exact commits_collectInvoiceSeeing henv hcommits
    · intro after
      exact .refused ⟨_, rfl⟩
  exact hkeeps

def collectedOn (orderId : Uuid) (db : Db) : ℤ :=
  tally (fun row : TransactionHistory =>
    if row.physicalCollection = true ∧ row.orderId = some orderId then row.amount else 0)
    db.transactionHistory

def openAmount (orderId customerId : Uuid) (journal : List JournalEntry) : ℤ :=
  max 0 (orderReceivable orderId journal - unlinkedCredits customerId journal)

def StepEven (orderId customerId : Uuid) (db db' : Db) : Prop :=
  collectedOn orderId db' - collectedOn orderId db =
      (db.wallets customerId).debt - (db'.wallets customerId).debt ∧
    (db.wallets customerId).debt - (db'.wallets customerId).debt =
      receivable customerId db.journal - receivable customerId db'.journal

namespace CollectionCall

/-- What the call collects is still open when it gets the lock, and no entry stands
under the reference it posts with. -/
def Timely (call : CollectionCall) (db : Db) : Prop :=
  ∀ customerId remaining, call.Plans db customerId remaining →
    0 < min remaining (db.wallets customerId).debt →
    min remaining (db.wallets customerId).debt ≤
        openAmount call.params.orderId customerId db.journal ∧
      ¬ Recorded db.journal (call.params.postedRef (isV20_3TrueAccountingEnabled call.env))

end CollectionCall

theorem InvoiceCollected.figures {params : DebtInvoiceCollection} {db : Db}
    (hdone : InvoiceCollected env params customerId paydown db db')
    (hfresh : ¬ Recorded db.journal (params.postedRef (isV20_3TrueAccountingEnabled env))) :
    receivable customerId db'.journal = receivable customerId db.journal - paydown ∧
      orderReceivable params.orderId db'.journal =
        orderReceivable params.orderId db.journal - paydown ∧
      unlinkedCredits customerId db'.journal = unlinkedCredits customerId db.journal := by
  obtain ⟨posting, hentries, href, hcustomer, horder, hdebited, hcredited, hamount⟩ :=
    params.entries_eq (isV20_3TrueAccountingEnabled env) customerId hdone.positive
  have hfree : ¬ Posted JournalEntry.sourceRef db.journal posting.input.entry.sourceRef := by
    intro hposted
    exact hfresh (href ▸ hposted)
  have hnotAr : posting.debited ≠ .ACCOUNTS_RECEIVABLE := by
    intro heq
    rw [heq] at hdebited
    exact absurd hdebited (by decide)
  have hjournal : db'.journal = db.journal ++ [posting.input.entry] := by
    rw [hdone.journal, hentries, postAll_cons, postAll_nil, post, if_neg hfree]
  have hcustomerNet := customerNet_pair .ACCOUNTS_RECEIVABLE posting
  have horderNet := orderReceivable_pair horder
  rw [hcustomer] at hcustomerNet
  rw [if_neg hnotAr, if_pos hcredited, hamount, zero_sub] at hcustomerNet horderNet
  have hlinked : posting.input.entry.orderId ≠ none := by
    change posting.orderId ≠ none
    rw [horder]
    exact Option.some_ne_none _
  rw [hjournal]
  refine ⟨?_, ?_, ?_⟩
  · exact (customerNet_append _ _ _ _).trans (by rw [hcustomerNet, sub_eq_add_neg])
  · rw [orderReceivable_append, horderNet, sub_eq_add_neg]
  · rw [unlinkedCredits_append, unlinkedCredits_of_order customerId hlinked, add_zero]

theorem InvoiceCollected.collectedOn {params : DebtInvoiceCollection} {db : Db}
    (hdone : InvoiceCollected env params customerId paydown db db') :
    collectedOn params.orderId db' = collectedOn params.orderId db + paydown := by
  unfold SafariLaundry.collectedOn
  rw [hdone.transactionHistory, tally_append, tally_cons, tally_nil, add_zero, if_pos ⟨rfl, rfl⟩]
  rfl

/-! ## The invariant of a run -/

theorem OrdersCollected.find? {params : DebtInvoiceCollection}
    {orders orders' : Table Order.id} (hcollected : OrdersCollected params orders orders')
    {row : Order} (hfind : orders.find? params.orderId = some row) :
    ∃ row', orders'.find? params.orderId = some row' ∧ row'.customerId = row.customerId ∧
      row'.status = row.status := by
  rcases hcollected with rfl | rfl
  · exact ⟨row, hfind, rfl, rfl⟩
  · refine ⟨collectedByMethod params.confirmedMethod row, ?_, rfl, rfl⟩
    rw [Table.find?_update_self, hfind]
    rfl

structure CollectionState (order : Order) (start db : Db) : Prop where
  row : ∃ row, db.orders.find? order.id = some row ∧ row.customerId = order.customerId ∧
    row.status = order.status
  balance : collectedOn order.id db - collectedOn order.id start +
    openAmount order.id order.customerId db.journal =
      openAmount order.id order.customerId start.journal
  tracked : HasReceivableLine order.id db.journal → HasReceivableLine order.id start.journal
  decided : collectedOn order.id db = collectedOn order.id start ∨
    (order.status ≠ .CANCELED ∧ HasReceivableLine order.id start.journal)

theorem CollectionState.start {order : Order} {start : Db}
    (hstart : start.orders.find? order.id = some order) :
    CollectionState order start start where
  row := ⟨order, hstart, rfl, rfl⟩
  balance := by ring
  tracked := id
  decided := .inl rfl

def AdmittedCollection (orderId : Uuid) (call : CollectionCall) (db : Db) : Prop :=
  call.env.StoreHealthy ∧ call.params.orderId = orderId ∧ call.Timely db

theorem remaining_pos_of_line {db : Db} {row : Order} (hfind : db.orders.find? row.id = some row)
    (hpositive : 0 < computeOrderRemainingBalance env db row.id) :
    HasReceivableLine row.id db.journal := by
  rw [computeOrderRemainingBalance_eq hfind] at hpositive
  by_cases hdecides : JournalDecides env db.journal row
  · exact hdecides.2.2
  · rw [if_neg hdecides] at hpositive
    exact absurd hpositive (lt_irrefl 0)

section Step

variable {order : Order} {start db : Db} {call : CollectionCall}
  (hstate : CollectionState order start db)
  (hseen : ∀ t ∈ collections.seen call, CollectionState order start t)
  (hadmitted : AdmittedCollection order.id call db)

include hseen hadmitted in
theorem plans_customer {customerId : Uuid} {remaining : ℤ}
    (hplan : call.Plans db customerId remaining) :
    customerId = order.customerId ∧ order.status ≠ .CANCELED ∧
      HasReceivableLine order.id start.journal := by
  obtain ⟨_, row, hrow, hopen, hclear | ⟨hpositive, hcollect⟩⟩ := planCollection_cases hplan
  · cases hclear
  · have hid := hadmitted.2.1
    rw [hid] at hrow hpositive
    obtain ⟨seenRow, hseenRow, hcustomer, hstatus⟩ :=
      (hseen call.reads.order (by simp [collections])).row
    rw [hseenRow] at hrow
    obtain rfl := Option.some.inj hrow
    have hremaining := hseen call.reads.remaining (by simp [collections])
    obtain ⟨openRow, hopenRow, _, _⟩ := hremaining.row
    have hopenId := Table.key_of_find? hopenRow
    rw [← hopenId] at hpositive hopenRow
    have hline := remaining_pos_of_line hopenRow hpositive
    rw [hopenId] at hline
    injection hcollect with hsame _
    exact ⟨hsame.trans hcustomer, hstatus ▸ hopen, hremaining.tracked hline⟩

include hstate hseen hadmitted in
theorem collection_keeps :
    CollectionState order start (collections.step call db) ∧
      StepEven order.id order.customerId db (collections.step call db) := by
  obtain ⟨henv, hid, htimely⟩ := hadmitted
  generalize hafter : collections.step call db = db'
  have hresult := collections_step call henv db
  rw [hafter] at hresult
  cases hresult with
  | refused hsame =>
      obtain ⟨failures, rfl⟩ := hsame
      exact ⟨⟨hstate.row, hstate.balance, hstate.tracked, hstate.decided⟩,
        (sub_self _).trans (sub_self _).symm, (sub_self _).trans (sub_self _).symm⟩
  | cleared hclosed =>
      obtain ⟨orders, horders, rfl⟩ := hclosed
      obtain ⟨row, hrow, hcustomer, hstatus⟩ := hstate.row
      rw [← hid] at hrow
      obtain ⟨row', hrow', hcustomer', hstatus'⟩ := horders.find? hrow
      rw [hid] at hrow'
      exact ⟨⟨⟨row', hrow', hcustomer'.trans hcustomer, hstatus'.trans hstatus⟩,
        hstate.balance, hstate.tracked, hstate.decided⟩,
        (sub_self _).trans (sub_self _).symm, (sub_self _).trans (sub_self _).symm⟩
  | collected customerId remaining hplan hdone =>
      obtain ⟨hsame, hopen, hline⟩ := plans_customer hseen ⟨henv, hid, htimely⟩ hplan
      obtain ⟨hle, hfresh⟩ := htimely customerId remaining hplan hdone.positive
      have hfigures := hdone.figures hfresh
      have hcollected := hdone.collectedOn
      rw [hid] at hle hfigures hcollected
      subst hsame
      obtain ⟨row, hrow, hcustomer, hstatus⟩ := hstate.row
      rw [← hid] at hrow
      obtain ⟨row', hrow', hcustomer', hstatus'⟩ := hdone.orders.find? hrow
      rw [hid] at hrow'
      have hbalance := hstate.balance
      have hpositive := hdone.positive
      have hdebt : (db'.wallets order.customerId).debt = (db.wallets order.customerId).debt -
            min remaining (db.wallets order.customerId).debt := by
        rw [hdone.wallets, Function.update_self]
      constructor
      · refine ⟨⟨row', hrow', hcustomer'.trans hcustomer, hstatus'.trans hstatus⟩, ?_, ?_,
          .inr ⟨hopen, hline⟩⟩
        · unfold openAmount at hbalance hle ⊢
          rw [hcollected, hfigures.2.1, hfigures.2.2]
          omega
        · intro _
          exact hline
      · unfold StepEven
        rw [hcollected, hdebt, hfigures.1]
        constructor
        · ring
        · ring

end Step

/-- In every run of collections on an order whose calls are timely, all that is
collected stays within what was open at the start, and each call moves the wallet
debt, the receivable and the amount collected by the same. -/
theorem collectionRun_sound {order : Order} {start : Db} {trace : List Db}
    (hstart : start.orders.find? order.id = some order)
    (hrun : collections.Run (AdmittedCollection order.id) start trace) :
    (∀ db ∈ trace, ∀ env, isJournalAsSourceEnabled env = true →
      collectedOn order.id db - collectedOn order.id start ≤
        computeOrderRemainingBalance env start order.id) ∧
      trace.IsChain fun later earlier =>
        StepEven order.id order.customerId earlier later := by
  have hstep : ∀ call db, CollectionState order start db →
      (∀ t ∈ collections.seen call, CollectionState order start t) →
      AdmittedCollection order.id call db →
      CollectionState order start (collections.step call db) := by
    intro call db hstate hseen hadmitted
    exact (collection_keeps hstate hseen hadmitted).1
  constructor
  · intro db hdb env hsource
    have hstate := hrun.invariant (CollectionState.start hstart) hstep db hdb
    have hopen : 0 ≤ openAmount order.id order.customerId db.journal := le_max_left 0 _
    have hbalance := hstate.balance
    rw [computeOrderRemainingBalance_eq hstart]
    rcases hstate.decided with hnothing | ⟨hlive, hline⟩
    · have hnonneg := openAlone_nonneg order start.journal
      by_cases hdecides : JournalDecides env start.journal order
      · rw [if_pos hdecides]
        omega
      · rw [if_neg hdecides]
        omega
    · rw [if_pos ⟨hlive, hsource, hline⟩]
      change _ ≤ openAmount order.id order.customerId start.journal
      omega
  · apply hrun.isChain (CollectionState.start hstart) hstep
    intro call db hstate hseen hadmitted
    exact (collection_keeps hstate hseen hadmitted).2

def Sample.debtInvoice : Order :=
  { Sample.order "order" with
    status := .COMPLETED
    posPaymentMethod := .DEBT_ON_ACCOUNT
    walletSettledAt := some 1 }

def Sample.debtShop : Db :=
  { Sample.shop ⟨0, 50000⟩ ⟨[Sample.debtInvoice], List.nodup_singleton _⟩ with
    journal := [(invoiceIssuanceEntry ⟨"customer", "order", "owner", 20000⟩).input.entry] }

def Sample.collection : CollectionCall where
  env := { Env.default with v20_3TrueAccounting := true, useJournalAsSource := true }
  params := ⟨"order", .KNET, "owner", by decide⟩
  reads := ⟨Sample.debtShop, Sample.debtShop, Sample.debtShop⟩

theorem Sample.collection_timely : Sample.collection.Timely Sample.debtShop := by
  intro customerId remaining hplan _
  obtain ⟨_, row, hrow, _, hclear | ⟨_, hcollect⟩⟩ := planCollection_cases hplan
  · cases hclear
  · obtain rfl : Sample.debtInvoice = row := Option.some.inj hrow
    injection hcollect with hcustomer hremaining
    rw [hcustomer, hremaining]
    decide +kernel

theorem Sample.collection_run :
    collections.Run (AdmittedCollection "order") Sample.debtShop
      [collections.step Sample.collection Sample.debtShop, Sample.debtShop] := by
  apply Calls.Run.call Sample.collection .start
  · intro seen hseen
    simpa [collections, Sample.collection] using hseen
  · exact ⟨fun _ => rfl, rfl, Sample.collection_timely⟩

theorem collectionRun_sound_sample :
    (∀ db ∈ [collections.step Sample.collection Sample.debtShop, Sample.debtShop],
      ∀ env, isJournalAsSourceEnabled env = true →
        collectedOn "order" db - collectedOn "order" Sample.debtShop ≤
          computeOrderRemainingBalance env Sample.debtShop "order") ∧
      [collections.step Sample.collection Sample.debtShop, Sample.debtShop].IsChain
        fun later earlier => StepEven "order" "customer" earlier later :=
  @collectionRun_sound Sample.debtInvoice Sample.debtShop _ rfl Sample.collection_run

theorem collectionRun_fails :
    ¬ ∀ (order : Order) (start : Db) (trace : List Db), start.orders.find? order.id = some order →
      collections.Run (fun call _ => call.env.StoreHealthy ∧ call.params.orderId = order.id)
        start trace →
      (∀ db ∈ trace, ∀ env, isJournalAsSourceEnabled env = true →
        collectedOn order.id db - collectedOn order.id start ≤
          computeOrderRemainingBalance env start order.id) ∧
        trace.IsChain fun later earlier =>
          StepEven order.id order.customerId earlier later := by
  intro hall
  have hseen : ∀ t ∈ collections.seen Sample.collection, t = Sample.debtShop := by
    intro t ht
    simpa [collections, Sample.collection] using ht
  have hrun : collections.Run
      (fun call _ => call.env.StoreHealthy ∧ call.params.orderId = "order") Sample.debtShop
      [collections.step Sample.collection (collections.step Sample.collection Sample.debtShop),
        collections.step Sample.collection Sample.debtShop, Sample.debtShop] := by
    apply Calls.Run.call Sample.collection
    · apply Calls.Run.call Sample.collection .start
      · intro t ht
        simp [hseen t ht]
      · exact ⟨fun _ => rfl, rfl⟩
    · intro t ht
      simp [hseen t ht]
    · exact ⟨fun _ => rfl, rfl⟩
  have htwice := (hall Sample.debtInvoice _ _ rfl hrun).1 _ (List.mem_cons_self ..)
    Sample.collection.env rfl
  revert htwice
  decide +kernel

end SafariLaundry
