import SafariLaundry.JournalWriters

/-!
# Wallet settlement of a completed order

`applyOrderWalletSettlementForCompletedOrder` moves the two wallet columns by one
piece of arithmetic and writes up to four journal entries, each under a gate of
its own.  The arithmetic is `SettlementCall.plan`; the gates are the lists of
entries of each stage.  `commits_applySettlement` says once what a committed call
leaves behind, and everything else about settlement is derived from it.
-/

namespace SafariLaundry

open Library Library.Bookkeeping Library.Transaction

structure OrderWalletSettlementPrefetch where
  customerId : Uuid
  totalPrice : ℤ
  posPaymentMethod : Option PosPaymentMethod
  walletSettledAt : Option Timestamp

def Order.settlementPrefetch (order : Order) : OrderWalletSettlementPrefetch where
  customerId := order.customerId
  totalPrice := order.totalPrice
  posPaymentMethod := some order.posPaymentMethod
  walletSettledAt := order.walletSettledAt

/-- The keys of `extraMetadata` that the settlement reads.  Amounts written as
decimal text are compared as amounts. -/
structure SettlementMetadata where
  (debtSettled gatewayConfirmedAmountKd : Option ℤ)
  (debtSettlementViaCallCenter debtSettlementViaLink : Bool)

def SettlementMetadata.none : SettlementMetadata :=
  ⟨.none, .none, false, false⟩

def SettlementMetadata.Trusted (extra : SettlementMetadata) : Prop :=
  ∀ declared ∈ extra.debtSettled, extra.debtSettlementViaCallCenter = true ∨
      (extra.debtSettlementViaLink = true ∧ extra.gatewayConfirmedAmountKd = some declared)
  deriving Decidable

def SettlementMetadata.trigger (extra : SettlementMetadata) : String :=
  if extra.debtSettlementViaCallCenter = true then "CALL_CENTER_MANUAL"
  else if extra.debtSettlementViaLink = true then "PAYMENT_LINK_CALLBACK"
  else "WALLET_SETTLEMENT"

structure SettlementCall where
  trueAccounting : Bool
  orderId : Uuid
  order : OrderWalletSettlementPrefetch
  actorId : Uuid
  extra : SettlementMetadata
  wallet : CustomerWallet

namespace SettlementCall

def ShouldUseWallet (call : SettlementCall) : Prop :=
  call.order.posPaymentMethod = some .SUBSCRIPTION_WALLET ∨
    call.order.posPaymentMethod = some .DEBT_ON_ACCOUNT
  deriving Decidable

def ExternalCoversShortfall (call : SettlementCall) : Prop :=
  call.order.posPaymentMethod = some .CASH ∨ call.order.posPaymentMethod = some .KNET ∨
    call.order.posPaymentMethod = some .ONLINE ∨
    call.order.posPaymentMethod = some .PAYMENT_LINK
  deriving Decidable

def AddInvoiceDebt (call : SettlementCall) : Prop :=
  call.order.posPaymentMethod = some .DEBT_ON_ACCOUNT ∨
    call.order.posPaymentMethod = some .SUBSCRIPTION_WALLET ∨
    (call.order.posPaymentMethod ≠ some .SUBSCRIPTION_WALLET ∧ ¬ call.ExternalCoversShortfall)
  deriving Decidable

def safeTake (call : SettlementCall) : ℤ :=
  if call.ShouldUseWallet ∧ 0 < call.wallet.balance then
    min call.wallet.balance call.order.totalPrice
  else 0

def shortfall (call : SettlementCall) : ℤ :=
  call.order.totalPrice - call.safeTake

def newBalance (call : SettlementCall) : ℤ :=
  call.wallet.balance - call.safeTake

def addedInvoiceDebt (call : SettlementCall) : ℤ :=
  if call.AddInvoiceDebt ∧ 0 < call.shortfall then call.shortfall else 0

def debtWithInvoice (call : SettlementCall) : ℤ :=
  if call.AddInvoiceDebt ∧ 0 < call.shortfall then call.wallet.debt + call.shortfall
  else call.wallet.debt

def debtPaydown (call : SettlementCall) : ℤ :=
  match call.extra.debtSettled with
  | none => 0
  | some declared =>
      if 0 < declared ∧ call.trueAccounting = true then
        min declared (if 0 < call.debtWithInvoice then call.debtWithInvoice else call.shortfall)
      else if 0 < declared ∧ 0 < call.debtWithInvoice then
        min declared call.debtWithInvoice
      else 0

def newDebt (call : SettlementCall) : ℤ :=
  match call.extra.debtSettled with
  | none => call.debtWithInvoice
  | some declared =>
      if 0 < declared ∧ call.trueAccounting = true then
        if call.debtPaydown < call.debtWithInvoice then
          call.debtWithInvoice - call.debtPaydown
        else 0
      else if 0 < declared ∧ 0 < call.debtWithInvoice then
        call.debtWithInvoice - call.debtPaydown
      else call.debtWithInvoice

def addedSubscriptionDebt (call : SettlementCall) : ℤ :=
  let before := if call.wallet.balance < 0 then -call.wallet.balance else 0
  let after := if call.newBalance < 0 then -call.newBalance else 0
  if call.order.posPaymentMethod = some .SUBSCRIPTION_WALLET ∧ before < after then
    after - before
  else 0

def recordedShortfall (call : SettlementCall) : ℤ :=
  if call.trueAccounting = true then
    if call.AddInvoiceDebt ∧ 0 < call.order.totalPrice then call.order.totalPrice else 0
  else call.addedInvoiceDebt

def externalPayment (call : SettlementCall) : ℤ :=
  if call.trueAccounting = true ∧ call.ExternalCoversShortfall ∧ 0 < call.shortfall then
    call.shortfall
  else call.debtPaydown

def origin (call : SettlementCall) : String :=
  if call.ExternalCoversShortfall then
    (call.order.posPaymentMethod.map PosPaymentMethod.name).getD call.extra.trigger
  else call.extra.trigger

/-! ## The journal entries of each stage -/

def args (call : SettlementCall) (amount : ℤ) : OrderEntryArgs :=
  ⟨call.order.customerId, call.orderId, call.actorId, amount⟩

end SettlementCall

def paymentLinkReceivableSourceRef (orderId : Uuid) : SourceRef :=
  [.word "PAYMENT_LINK_RECEIVABLE", .id orderId]

namespace SettlementCall

def HasImmediateReceivable (call : SettlementCall) (journal : List JournalEntry) : Prop :=
  (call.order.posPaymentMethod = some .ONLINE ∨ call.order.posPaymentMethod = some .PAYMENT_LINK) ∧
  Recorded journal (paymentLinkReceivableSourceRef call.orderId)
  deriving Decidable

def Issues (call : SettlementCall) (journal : List JournalEntry) : Prop :=
  call.trueAccounting = true ∧ 0 < call.order.totalPrice ∧ ¬ call.HasImmediateReceivable journal
  deriving Decidable

def issuance (call : SettlementCall) : PairPosting :=
  invoiceIssuanceEntry (call.args call.order.totalPrice)

def shortfallRef (call : SettlementCall) : SourceRef :=
  [.word "INVOICE", .id call.orderId, .word "SHORTFALL"]

def shortfallMirror (call : SettlementCall) : MirrorDebtLedgerInput where
  source := .INVOICE_SHORTFALL
  amount := call.recordedShortfall
  sourceRef := call.shortfallRef
  actorUserId := call.actorId
  customerId := call.order.customerId
  orderId := some call.orderId
  paymentMethod := none
  note := "Invoice shortfall recorded as receivable"

def overuseMirror (call : SettlementCall) : MirrorDebtLedgerInput where
  source := .SUBSCRIPTION_OVERUSE
  amount := call.addedSubscriptionDebt
  sourceRef := [.word "INVOICE", .id call.orderId, .word "SUBSCRIPTION_OVERUSE"]
  actorUserId := call.actorId
  customerId := call.order.customerId
  orderId := some call.orderId
  paymentMethod := none
  note := "Subscription balance allowed to go negative"

def absorption (call : SettlementCall) : PairPosting :=
  if call.trueAccounting = true then walletAbsorptionEntryV3 (call.args call.safeTake)
  else walletAbsorptionEntry (call.args call.safeTake)

def externalArgs (call : SettlementCall) (method : PosPaymentMethod) :
    ExternalPaymentArgs where
  customerId := call.order.customerId
  orderId := some call.orderId
  actorUserId := call.actorId
  amount := call.externalPayment
  paymentMethod := method
  paymentRef := [.id call.orderId, .word method.name, .word call.extra.trigger]

def paydownRef (call : SettlementCall) : SourceRef :=
  [.word "PAYMENT", .word call.origin, .id call.orderId, .word call.extra.trigger]

def paydownMirror (call : SettlementCall) : MirrorDebtLedgerInput where
  source := .PAYMENT
  amount := call.debtPaydown
  sourceRef := call.paydownRef
  actorUserId := call.actorId
  customerId := call.order.customerId
  orderId := some call.orderId
  paymentMethod := call.order.posPaymentMethod
  note := "Invoice debt settled (wallet settlement)"

def issuanceEntries (call : SettlementCall) (journal : List JournalEntry) :
    List JournalEntry :=
  if call.Issues journal then call.issuance.entries else []

def shortfallEntries (call : SettlementCall) : List JournalEntry :=
  if 0 < call.recordedShortfall ∧ call.trueAccounting = false then
    mirrorEntries call.shortfallMirror
  else []

def overuseEntries (call : SettlementCall) : List JournalEntry :=
  if 0 < call.addedSubscriptionDebt then mirrorEntries call.overuseMirror else []

def absorptionEntries (call : SettlementCall) : List JournalEntry :=
  if 0 < call.safeTake then call.absorption.entries else []

def externalEntries (call : SettlementCall) : List JournalEntry :=
  match call.order.posPaymentMethod with
  | some method =>
      if 0 < call.externalPayment then externalPaymentEntries (call.externalArgs method)
      else []
  | none => []

def paydownEntries (call : SettlementCall) : List JournalEntry :=
  if 0 < call.debtPaydown ∧ call.trueAccounting = false then
    mirrorEntries call.paydownMirror
  else []

def entries (call : SettlementCall) (journal : List JournalEntry) : List JournalEntry :=
  call.issuanceEntries journal ++ call.shortfallEntries ++ call.overuseEntries ++
    call.absorptionEntries ++ call.externalEntries ++ call.paydownEntries

def ledgerRow (call : SettlementCall) (amount : ℤ) (memo : String) :
    GeneralLedgerEntry where
  entryType := .DEBT_ADJUSTMENT
  amount := amount
  memo := memo
  customerId := some call.order.customerId
  orderId := some call.orderId
  actorUserId := some call.actorId

def shortfallRows (call : SettlementCall) : List GeneralLedgerEntry :=
  if 0 < call.recordedShortfall then
    [call.ledgerRow call.recordedShortfall
      (if call.trueAccounting = true then "Invoice issued (full receivable)"
       else "Invoice shortfall recorded as receivable")]
  else []

def overuseRows (call : SettlementCall) : List GeneralLedgerEntry :=
  if 0 < call.addedSubscriptionDebt then
    [call.ledgerRow call.addedSubscriptionDebt
      "Subscription balance allowed to go negative"]
  else []

def paydownRows (call : SettlementCall) : List GeneralLedgerEntry :=
  if 0 < call.debtPaydown then
    [call.ledgerRow (-call.debtPaydown) "Debt payment recorded on unified ledger"]
  else []

def historyRow (call : SettlementCall) (id : Uuid) (subscriptionId : Option Uuid) :
    TransactionHistory where
  id := id
  physicalCollection := false
  type := .ORDER_WALLET_SETTLEMENT
  customerId := call.order.customerId
  orderId := some call.orderId
  subscriptionId := subscriptionId
  amount := call.order.totalPrice
  balanceBefore := call.wallet.balance
  balanceAfter := call.newBalance
  debtBefore := call.wallet.debt
  debtAfter := call.newDebt
  performedById := call.actorId

end SettlementCall

/-! ## The service method -/

def findUser (id : Uuid) (db : Db) : Option User :=
  db.users.find? fun user => user.id = id

theorem findUser_id {id : Uuid} {db : Db} {user : User} (hfind : findUser id db = some user) :
    user.id = id := by
  have hholds := List.find?_some hfind
  simpa using hholds

theorem ne_empty_of_findUser {id : Uuid} {db : Db} {user : User}
    (hfind : findUser id db = some user) :
    id ≠ "" := by
  rw [← findUser_id hfind]
  exact user.id_nonempty

def settlementRoles : List SafariRole :=
  [.OWNER, .DRIVER, .CALL_CENTER, .CALL_CENTER_SUPERVISOR, .MANAGER, .ACCOUNTANT]

def originBranched (customerId : Uuid) (branchId : Option Uuid) (db : Db) : Db :=
  match branchId with
  | none => db
  | some branch => { db with
      customers := db.customers.updateWhere
        (fun customer => customer.id = customerId ∧ customer.originBranchId = none)
        (fun customer => { customer with originBranchId := some branch })
        (fun _ => rfl) }

def ensureCustomerOriginBranchTx (customerId : Uuid) (branchId : Option Uuid) : Tx Unit :=
  modify (originBranched customerId branchId)

def updateWallet (customerId : Uuid) (wallet : CustomerWallet) : Tx Unit :=
  modify fun db => { db with wallets := Function.update db.wallets customerId wallet }

def changeWallet (customerId : Uuid) (f : CustomerWallet → CustomerWallet) : Tx Unit :=
  modify fun db => { db with
    wallets := Function.update db.wallets customerId (f (db.wallets customerId)) }

def activeSubscription (customerId : Uuid) (db : Db) : Option CustomerSubscription :=
  (db.subscriptions.filter fun subscription =>
    subscription.customerId = customerId ∧ subscription.status = .ACTIVE).getLast?

def updateOrder (orderId : Uuid) (f : Order → Order) (hkey : ∀ order, (f order).id = order.id) :
    Tx Unit := do
  let _ ← fetch (fun db => db.orders.find? orderId) (.database "Record to update not found.")
  modify fun db => { db with orders := db.orders.update orderId f hkey }

def tagOrderSubscription (orderId : Uuid) : Option CustomerSubscription → Tx Unit
  | none => pure ()
  | some subscription =>
      updateOrder orderId (fun order => { order with subscriptionId := some subscription.id })
        (fun _ => rfl)

def createTransactionHistory (env : Env) (row : Uuid → TransactionHistory) : Tx Unit :=
  modify fun db => { db with
    transactionHistory := db.transactionHistory ++
      [row (env.newHistoryId db.transactionHistory.length)] }

def generalLedgerAppend (row : GeneralLedgerEntry) : Tx Unit :=
  modify fun db => { db with generalLedger := db.generalLedger ++ [row] }

def realPaymentSourceRefPrefixes : List (List String) :=
  [["PAYMENT", "CASH"], ["PAYMENT", "KNET"], ["PAYMENT", "ONLINE"],
    ["PAYMENT", "PAYMENT_LINK"], ["PAYMENT", "CALL_CENTER_MANUAL"],
    ["PAYMENT", "PAYMENT_LINK_CALLBACK"], ["PAYMENT", "SUBSCRIPTION_ACTIVATION"],
    ["PAYMENT", "CC_DEBT_INVOICE_PHYSICAL"], ["PAYMENT", "CC_PARTIAL_DEBT_PAYMENT"]]

def walletAbsorptionSourceRefPrefixes : List (List String) :=
  [["PAYMENT", "WALLET"], ["PAYMENT", "WALLET", "BACKFILL"]]

def assertDebtLedgerPaymentWrite (actorUserId : Uuid) (ref : SourceRef) : Tx Unit := do
  require (ref ≠ []) (.error "PAYMENT_ORIGIN_REQUIRED")
  require (actorUserId ≠ "") (.error "PAYMENT_ACTOR_REQUIRED")
  require (∃ words ∈ realPaymentSourceRefPrefixes ++ walletAbsorptionSourceRefPrefixes,
    ref.StartsWith words) (.error "INVALID_PAYMENT_SOURCE")

def recordIssuance (env : Env) (call : SettlementCall) : Tx Unit := do
  let issues ← reads fun db => decide (call.Issues db.journal)
  whenever (issues = true) (call.issuance.appendSafe env)

def recordShortfall (env : Env) (call : SettlementCall) : Tx Unit :=
  whenever (0 < call.recordedShortfall) do
    whenever (call.trueAccounting = false) (mirrorDebtLedgerEntrySafe env call.shortfallMirror)
    generalLedgerAppend (call.ledgerRow call.recordedShortfall
      (if call.trueAccounting = true then "Invoice issued (full receivable)"
       else "Invoice shortfall recorded as receivable"))

def recordSubscriptionOveruse (env : Env) (call : SettlementCall) : Tx Unit :=
  whenever (0 < call.addedSubscriptionDebt) do
    mirrorDebtLedgerEntrySafe env call.overuseMirror
    generalLedgerAppend (call.ledgerRow call.addedSubscriptionDebt
      "Subscription balance allowed to go negative")

def recordWalletAbsorption (env : Env) (call : SettlementCall) : Tx Unit :=
  whenever (0 < call.safeTake) do
    assertDebtLedgerPaymentWrite call.actorId
      [.word "PAYMENT", .word "WALLET", .id call.orderId, .word "APPLIED"]
    call.absorption.appendSafe env

def markWalletSettled (env : Env) (orderId : Uuid) : Tx Unit :=
  modify fun db => { db with
    orders := db.orders.updateWhere (fun order => order.id = orderId ∧ order.walletSettledAt = none)
      (fun order => { order with walletSettledAt := some env.now })
      (fun _ => rfl) }

def recordExternalPayment (env : Env) (call : SettlementCall) : Tx Unit :=
  match call.order.posPaymentMethod with
  | some method =>
      whenever (0 < call.externalPayment)
        (appendExternalPaymentEntrySafe env (call.externalArgs method))
  | none => pure ()

def recordDebtPaydown (env : Env) (call : SettlementCall) : Tx Unit :=
  whenever (0 < call.debtPaydown) do
    assertDebtLedgerPaymentWrite call.actorId call.paydownRef
    whenever (call.trueAccounting = false) (mirrorDebtLedgerEntrySafe env call.paydownMirror)
    generalLedgerAppend
      (call.ledgerRow (-call.debtPaydown) "Debt payment recorded on unified ledger")

def settleLockedWallet (env : Env) (call : SettlementCall) : Tx Unit := do
  require call.extra.Trusted (.badRequest
    "debtSettled requires a verified gateway receipt or call-center collection path")
  updateWallet call.order.customerId ⟨call.newBalance, call.newDebt⟩
  let subscription ← reads (activeSubscription call.order.customerId)
  tagOrderSubscription call.orderId subscription
  createTransactionHistory env fun id =>
    call.historyRow id (subscription.map CustomerSubscription.id)
  recordIssuance env call
  recordShortfall env call
  recordSubscriptionOveruse env call
  recordWalletAbsorption env call
  markWalletSettled env call.orderId
  recordExternalPayment env call
  recordDebtPaydown env call

def settlementCall (env : Env) (orderId : Uuid) (o : OrderWalletSettlementPrefetch)
    (actorId : Uuid) (extra : SettlementMetadata) (wallet : CustomerWallet) :
    SettlementCall where
  trueAccounting := isV20_3TrueAccountingEnabled env
  orderId := orderId
  order := o
  actorId := actorId
  extra := extra
  wallet := wallet

def resolveSettlementOrder (orderId : Uuid) :
    Option OrderWalletSettlementPrefetch → Tx OrderWalletSettlementPrefetch
  | some prefetch => pure prefetch
  | none => fetch (fun db => (db.orders.find? orderId).map Order.settlementPrefetch)
      (.notFound "Order not found")

/-- Deduct wallet balance toward the order total; any uncovered amount adds to
debt.  Idempotent via `walletSettledAt`. -/
def applyOrderWalletSettlementForCompletedOrder (env : Env) (orderId : Uuid)
    (performedByUserId : Uuid) (prefetch : Option OrderWalletSettlementPrefetch)
    (extra : SettlementMetadata) : Tx Unit := do
  let o ← resolveSettlementOrder orderId prefetch
  if o.walletSettledAt ≠ none then pure () else do
    let actor ← fetch (findUser performedByUserId)
      (.notFound "Performing user not found — cannot record wallet settlement")
    require (actor.safariRole ∈ settlementRoles) (.badRequest
      ("Role \"" ++ actor.safariRole.name ++ "\" is not authorised to perform wallet settlements"))
    ensureCustomerOriginBranchTx o.customerId actor.branchId
    require (0 ≤ o.totalPrice) (.badRequest "Order total cannot be negative")
    let fresh ← reads fun db => db.orders.find? orderId
    if fresh.bind Order.walletSettledAt ≠ none then pure () else do
      let wallet ← reads fun db => db.wallets o.customerId
      settleLockedWallet env (settlementCall env orderId o actor.id extra wallet)

/-! ## What a committed settlement leaves behind -/

/-- From `db` to `db'` exactly these journal entries and audit rows were written
and nothing else but the failure log moved. -/
def Booked (entries : List JournalEntry) (rows : List GeneralLedgerEntry) (db db' : Db) : Prop :=
  ∃ failures, db' = { db with
    journal := postAll JournalEntry.sourceRef db.journal entries
    generalLedger := db.generalLedger ++ rows
    journalFailures := failures }

theorem Booked.refl (db : Db) : Booked [] [] db db :=
  ⟨db.journalFailures, by simp⟩

theorem Booked.trans {first second : List JournalEntry}
    {rows rows' : List GeneralLedgerEntry} {db db' db'' : Db}
    (hfirst : Booked first rows db db') (hsecond : Booked second rows' db' db'') :
    Booked (first ++ second) (rows ++ rows') db db'' := by
  obtain ⟨failures, rfl⟩ := hfirst
  obtain ⟨failures', rfl⟩ := hsecond
  refine ⟨failures', ?_⟩
  simp only [postAll_append, List.append_assoc]

theorem Wrote.booked {entries : List JournalEntry} {db db' : Db} (hwrote : Wrote entries db db') :
    Booked entries [] db db' := by
  obtain ⟨failures, rfl⟩ := hwrote
  exact ⟨failures, by simp⟩

theorem commits_generalLedgerAppend {row : GeneralLedgerEntry} {db db' : Db}
    (hcommits : (generalLedgerAppend row).Commits db () db') :
    Booked [] [row] db db' := by
  unfold generalLedgerAppend at hcommits
  rw [commits_modify] at hcommits
  exact ⟨db.journalFailures, hcommits⟩

theorem commits_assertDebtLedgerPaymentWrite {actorUserId : Uuid} {ref : SourceRef} {db db' : Db}
    (hcommits : (assertDebtLedgerPaymentWrite actorUserId ref).Commits db () db') :
    db = db' := by
  unfold assertDebtLedgerPaymentWrite at hcommits
  simp only [commits_bind, commits_require] at hcommits
  obtain ⟨_, _, ⟨_, rfl⟩, _, _, ⟨_, rfl⟩, _, rfl⟩ := hcommits
  rfl

section Stages

variable {env : Env} {call : SettlementCall} {db db' : Db}
  (henv : env.StoreHealthy) (hactor : call.actorId ≠ "")

include henv hactor

theorem commits_recordIssuance (hcommits : (recordIssuance env call).Commits db () db') :
    Booked (call.issuanceEntries db.journal) [] db db' := by
  unfold recordIssuance at hcommits
  simp only [commits_bind, commits_reads] at hcommits
  obtain ⟨issues, _, ⟨rfl, rfl⟩, hwrite⟩ := hcommits
  unfold SettlementCall.issuanceEntries
  simp only [commits_whenever, decide_eq_true_eq] at hwrite
  rcases hwrite with ⟨hissues, hwrite⟩ | ⟨hnot, rfl⟩
  · rw [if_pos hissues]
    exact (PairPosting.commits_appendSafe henv hactor
      (by simp [SettlementCall.issuance, invoiceIssuanceEntry, invoiceIssuedRef])
      hwrite).booked
  · rw [if_neg hnot]
    exact Booked.refl db

theorem commits_recordShortfall (hcommits : (recordShortfall env call).Commits db () db') :
    Booked call.shortfallEntries call.shortfallRows db db' := by
  unfold recordShortfall at hcommits
  unfold SettlementCall.shortfallEntries SettlementCall.shortfallRows
  rw [commits_whenever] at hcommits
  rcases hcommits with ⟨hrecorded, hcommits⟩ | ⟨hnone, rfl⟩
  · simp only [commits_bind, commits_whenever] at hcommits
    obtain ⟨⟨⟩, mid, hmirror, hrow⟩ := hcommits
    have hledger := commits_generalLedgerAppend hrow
    rcases hmirror with ⟨hlegacy, hmirror⟩ | ⟨htrue, rfl⟩
    · have hposted := commits_mirrorDebtLedgerEntrySafe henv hactor
        (by simp [SettlementCall.shortfallMirror, SettlementCall.shortfallRef]) hmirror
      rw [if_pos ⟨hrecorded, hlegacy⟩, if_pos hrecorded]
      simpa using hposted.booked.trans hledger
    · rw [if_neg (fun hboth => htrue hboth.2), if_pos hrecorded]
      exact hledger
  · rw [if_neg (fun hboth => hnone hboth.1), if_neg hnone]
    exact Booked.refl db

theorem commits_recordSubscriptionOveruse
    (hcommits : (recordSubscriptionOveruse env call).Commits db () db') :
    Booked call.overuseEntries call.overuseRows db db' := by
  unfold recordSubscriptionOveruse at hcommits
  unfold SettlementCall.overuseEntries SettlementCall.overuseRows
  rw [commits_whenever] at hcommits
  rcases hcommits with ⟨hadded, hcommits⟩ | ⟨hnone, rfl⟩
  · simp only [commits_bind] at hcommits
    obtain ⟨⟨⟩, mid, hmirror, hrow⟩ := hcommits
    have hposted := commits_mirrorDebtLedgerEntrySafe henv hactor
      (by simp [SettlementCall.overuseMirror]) hmirror
    rw [if_pos hadded, if_pos hadded]
    simpa using hposted.booked.trans (commits_generalLedgerAppend hrow)
  · rw [if_neg hnone, if_neg hnone]
    exact Booked.refl db

theorem commits_recordWalletAbsorption
    (hcommits : (recordWalletAbsorption env call).Commits db () db') :
    Booked call.absorptionEntries [] db db' := by
  unfold recordWalletAbsorption at hcommits
  unfold SettlementCall.absorptionEntries
  rw [commits_whenever] at hcommits
  rcases hcommits with ⟨htake, hcommits⟩ | ⟨hnone, rfl⟩
  · simp only [commits_bind] at hcommits
    obtain ⟨⟨⟩, mid, hassert, hwrite⟩ := hcommits
    have hsame := commits_assertDebtLedgerPaymentWrite hassert
    subst hsame
    have hactor' : call.absorption.actorUserId ≠ "" := by
      unfold SettlementCall.absorption
      by_cases htrue : call.trueAccounting = true
      · rw [if_pos htrue]
        exact hactor
      · rw [if_neg htrue]
        exact hactor
    have href : call.absorption.sourceRef ≠ [] := by
      unfold SettlementCall.absorption
      by_cases htrue : call.trueAccounting = true
      · simp [htrue, walletAbsorptionEntryV3, walletAbsorptionV3Ref]
      · simp [htrue, walletAbsorptionEntry, walletAbsorptionRef]
    rw [if_pos htake]
    exact (PairPosting.commits_appendSafe henv hactor' href hwrite).booked
  · rw [if_neg hnone]
    exact Booked.refl db

theorem commits_recordExternalPayment
    (hcommits : (recordExternalPayment env call).Commits db () db') :
    Booked call.externalEntries [] db db' := by
  unfold recordExternalPayment at hcommits
  unfold SettlementCall.externalEntries
  cases hmethod : call.order.posPaymentMethod with
  | none =>
      simp only [hmethod, commits_pure] at hcommits
      rw [← hcommits.2]
      exact Booked.refl db
  | some method =>
      simp only [hmethod, commits_whenever] at hcommits
      rcases hcommits with ⟨hpositive, hwrite⟩ | ⟨hnone, rfl⟩
      · simp only [if_pos hpositive]
        exact (commits_appendExternalPaymentEntrySafe henv hactor
          (by simp [SettlementCall.externalArgs]) hwrite).booked
      · simp only [if_neg hnone]
        exact Booked.refl db

theorem commits_recordDebtPaydown (hcommits : (recordDebtPaydown env call).Commits db () db') :
    Booked call.paydownEntries call.paydownRows db db' := by
  unfold recordDebtPaydown at hcommits
  unfold SettlementCall.paydownEntries SettlementCall.paydownRows
  rw [commits_whenever] at hcommits
  rcases hcommits with ⟨hpaid, hcommits⟩ | ⟨hnone, rfl⟩
  · simp only [commits_bind, commits_whenever] at hcommits
    obtain ⟨⟨⟩, mid, hassert, ⟨⟩, mid', hmirror, hrow⟩ := hcommits
    have hsame := commits_assertDebtLedgerPaymentWrite hassert
    subst hsame
    have hledger := commits_generalLedgerAppend hrow
    rcases hmirror with ⟨hlegacy, hmirror⟩ | ⟨htrue, rfl⟩
    · have hposted := commits_mirrorDebtLedgerEntrySafe henv hactor
        (by simp [SettlementCall.paydownMirror, SettlementCall.paydownRef]) hmirror
      rw [if_pos ⟨hpaid, hlegacy⟩, if_pos hpaid]
      simpa using hposted.booked.trans hledger
    · rw [if_neg (fun hboth => htrue hboth.2), if_pos hpaid]
      exact hledger
  · rw [if_neg (fun hboth => hnone hboth.1), if_neg hnone]
    exact Booked.refl db

end Stages

def taggedOrders (orderId : Uuid) (orders : Table Order.id) :
    Option CustomerSubscription → Table Order.id
  | none => orders
  | some subscription =>
      orders.update orderId
        (fun order => { order with subscriptionId := some subscription.id }) (fun _ => rfl)

def settledOrders (env : Env) (call : SettlementCall) (db : Db) : Table Order.id :=
  (taggedOrders call.orderId db.orders (activeSubscription call.order.customerId db)).updateWhere
    (fun order => order.id = call.orderId ∧ order.walletSettledAt = none)
    (fun order => { order with walletSettledAt := some env.now }) (fun _ => rfl)

theorem commits_tagOrderSubscription {orderId : Uuid}
    {subscription : Option CustomerSubscription} {db db' : Db}
    (hcommits : (tagOrderSubscription orderId subscription).Commits db () db') :
    db' = { db with orders := taggedOrders orderId db.orders subscription } := by
  cases subscription with
  | none =>
      rw [tagOrderSubscription, commits_pure] at hcommits
      exact hcommits.2.symm
  | some subscription =>
      simp only [tagOrderSubscription, updateOrder, commits_bind, commits_fetch,
        commits_modify] at hcommits
      obtain ⟨_, _, ⟨_, rfl⟩, hmodified⟩ := hcommits
      exact hmodified

structure Settled (env : Env) (call : SettlementCall) (db db' : Db) : Prop where
  trusted : call.extra.Trusted
  wallets : db'.wallets =
    Function.update db.wallets call.order.customerId ⟨call.newBalance, call.newDebt⟩
  orders : db'.orders = settledOrders env call db
  journal : db'.journal = postAll JournalEntry.sourceRef db.journal (call.entries db.journal)
  generalLedger : db'.generalLedger =
    db.generalLedger ++ (call.shortfallRows ++ call.overuseRows ++ call.paydownRows)
  transactionHistory : db'.transactionHistory = db.transactionHistory ++
    [call.historyRow (env.newHistoryId db.transactionHistory.length)
      ((activeSubscription call.order.customerId db).map CustomerSubscription.id)]
  bundles : db'.bundles = db.bundles
  users : db'.users = db.users
  plans : db'.plans = db.plans
  subscriptions : db'.subscriptions = db.subscriptions
  orderLineItems : db'.orderLineItems = db.orderLineItems
  stockItems : db'.stockItems = db.stockItems
  branches : db'.branches = db.branches
  stockLevels : db'.stockLevels = db.stockLevels
  stockMovements : db'.stockMovements = db.stockMovements

theorem commits_settleLockedWallet {env : Env} {call : SettlementCall} {db db' : Db}
    (henv : env.StoreHealthy) (hactor : call.actorId ≠ "")
    (hcommits : (settleLockedWallet env call).Commits db () db') :
    Settled env call db db' := by
  unfold settleLockedWallet at hcommits
  simp only [commits_bind, commits_require, commits_reads, updateWallet,
    createTransactionHistory, markWalletSettled, commits_modify] at hcommits
  obtain ⟨_, _, ⟨htrusted, rfl⟩, _, db₁, hdb₁, subscription, _, ⟨hsub, rfl⟩, hrest⟩ := hcommits
  obtain ⟨_, db₂, htag, _, db₃, hdb₃, _, db₄, hissue, _, db₅, hshort, hrest⟩ := hrest
  obtain ⟨_, db₆, hover, _, db₇, habsorb, _, db₈, hdb₈, _, db₉, hext, hpay⟩ := hrest
  have hsub' : activeSubscription call.order.customerId db = subscription := by
    rw [← hsub, hdb₁]
    rfl
  have htagged := commits_tagOrderSubscription htag
  obtain ⟨_, rfl⟩ := commits_recordIssuance henv hactor hissue
  obtain ⟨_, rfl⟩ := commits_recordShortfall henv hactor hshort
  obtain ⟨_, rfl⟩ := commits_recordSubscriptionOveruse henv hactor hover
  obtain ⟨_, rfl⟩ := commits_recordWalletAbsorption henv hactor habsorb
  subst hdb₈
  obtain ⟨_, rfl⟩ := commits_recordExternalPayment henv hactor hext
  obtain ⟨_, rfl⟩ := commits_recordDebtPaydown henv hactor hpay
  subst hdb₃
  subst htagged
  subst hdb₁
  constructor <;>
    simp only [htrusted, settledOrders, hsub', SettlementCall.entries, postAll_append,
      List.append_nil, List.append_assoc]

theorem Settled.of_originBranched {env : Env} {call : SettlementCall}
    {customerId : Uuid} {branchId : Option Uuid} {db db' : Db}
    (hsettled : Settled env call (originBranched customerId branchId db) db') :
    Settled env call db db' := by
  cases branchId with
  | none => exact hsettled
  | some branch =>
      exact ⟨hsettled.trusted, hsettled.wallets, hsettled.orders, hsettled.journal,
        hsettled.generalLedger, hsettled.transactionHistory, hsettled.bundles,
        hsettled.users, hsettled.plans, hsettled.subscriptions, hsettled.orderLineItems,
        hsettled.stockItems, hsettled.branches, hsettled.stockLevels,
        hsettled.stockMovements⟩

def settlementOrder (orderId : Uuid) (prefetch : Option OrderWalletSettlementPrefetch)
    (db : Db) : Option OrderWalletSettlementPrefetch :=
  match prefetch with
  | some o => some o
  | none => (db.orders.find? orderId).map Order.settlementPrefetch

inductive SettlementResult (env : Env) (orderId performedByUserId : Uuid)
    (o : OrderWalletSettlementPrefetch) (extra : SettlementMetadata) (db db' : Db) : Prop
  | skipped (hsettled : o.walletSettledAt ≠ none ∨
        (db.orders.find? orderId).bind Order.walletSettledAt ≠ none)
      (hsame : ∃ branchId, db' = originBranched o.customerId branchId db)
  | settled (actor : User) (hprefetch : o.walletSettledAt = none)
      (hfresh : (db.orders.find? orderId).bind Order.walletSettledAt = none)
      (hactor : findUser performedByUserId db = some actor)
      (hrole : actor.safariRole ∈ settlementRoles)
      (htotal : 0 ≤ o.totalPrice)
      (hresult : Settled env
        (settlementCall env orderId o actor.id extra (db.wallets o.customerId)) db db')

theorem SettlementResult.of_unsettled {env : Env} {orderId performedByUserId : Uuid}
    {o : OrderWalletSettlementPrefetch} {extra : SettlementMetadata} {db db' : Db}
    (hresult : SettlementResult env orderId performedByUserId o extra db db')
    (hprefetch : o.walletSettledAt = none)
    (hfresh : (db.orders.find? orderId).bind Order.walletSettledAt = none) :
    0 ≤ o.totalPrice ∧ Settled env
      (settlementCall env orderId o performedByUserId extra (db.wallets o.customerId)) db db' := by
  cases hresult with
  | skipped hsettled _ =>
      rcases hsettled with hbefore | hbefore
      · exact absurd hprefetch hbefore
      · exact absurd hfresh hbefore
  | settled actor _ _ hactor _ htotal hsettled =>
      rw [findUser_id hactor] at hsettled
      exact ⟨htotal, hsettled⟩

theorem commits_applyOrderWalletSettlement {env : Env} {orderId performedByUserId : Uuid}
    {prefetch : Option OrderWalletSettlementPrefetch} {extra : SettlementMetadata}
    {db db' : Db} (henv : env.StoreHealthy)
    (hcommits : (applyOrderWalletSettlementForCompletedOrder env orderId
      performedByUserId prefetch extra).Commits db () db') :
    ∃ o, settlementOrder orderId prefetch db = some o ∧
      SettlementResult env orderId performedByUserId o extra db db' := by
  unfold applyOrderWalletSettlementForCompletedOrder at hcommits
  rw [commits_bind] at hcommits
  obtain ⟨o, mid, hresolve, hrest⟩ := hcommits
  have hload : settlementOrder orderId prefetch db = some o ∧ db = mid := by
    cases prefetch with
    | some o' =>
        simp only [resolveSettlementOrder, commits_pure] at hresolve
        exact ⟨congrArg some hresolve.1, hresolve.2⟩
    | none => exact commits_fetch.1 hresolve
  obtain ⟨horder, rfl⟩ := hload
  refine ⟨o, horder, ?_⟩
  by_cases hsettled : o.walletSettledAt ≠ none
  · rw [if_pos hsettled, commits_pure] at hrest
    exact .skipped (.inl hsettled) ⟨none, hrest.2.symm⟩
  · rw [if_neg hsettled] at hrest
    simp only [commits_bind, commits_fetch, commits_require, ensureCustomerOriginBranchTx,
      commits_modify, commits_reads] at hrest
    obtain ⟨actor, _, ⟨hactor, rfl⟩, _, _, ⟨hrole, rfl⟩, _, branched, hbranched, _, _,
      ⟨htotal, rfl⟩, fresh, _, ⟨hfresh, rfl⟩, hrest⟩ := hrest
    have hfresh' : db.orders.find? orderId = fresh := by
      rw [← hfresh, hbranched]
      cases actor.branchId <;> rfl
    by_cases hdone : fresh.bind Order.walletSettledAt ≠ none
    · rw [if_pos hdone, commits_pure] at hrest
      refine .skipped (.inr (hfresh' ▸ hdone)) ⟨actor.branchId, ?_⟩
      rw [← hrest.2, hbranched]
    · rw [if_neg hdone] at hrest
      simp only [commits_bind, commits_reads] at hrest
      obtain ⟨wallet, _, ⟨hwallet, rfl⟩, hsettle⟩ := hrest
      have hwallet' : db.wallets o.customerId = wallet := by
        rw [← hwallet, hbranched]
        cases actor.branchId <;> rfl
      have hresult := commits_settleLockedWallet henv actor.id_nonempty hsettle
      rw [hbranched] at hresult
      rw [← hwallet'] at hresult
      refine .settled actor (not_not.1 hsettled) ?_ hactor hrole htotal
        hresult.of_originBranched
      rw [hfresh']
      exact not_not.1 hdone

end SafariLaundry
