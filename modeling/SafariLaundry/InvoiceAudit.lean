import SafariLaundry.Library.Decimal
import SafariLaundry.ManualPayment

/-!
# Editing and voiding an invoice

A supervisor's edit takes the wallet effect of a settled order back, changes the
order and applies the effect again; a void takes it back and cancels the order.
Both reckon the effect from the total and the method of the row, not from what the
settlement wrote.  The wallet is read before its row is locked, and the receivable
that a void closes is read on a connection of its own, so both are arguments of the
part that writes.
-/

namespace SafariLaundry

open Library Library.Bookkeeping Library.Transaction

def invoiceAuditVoidRef (orderId : Uuid) : SourceRef :=
  [.word "ADJUSTMENT", .word "INVOICE_AUDIT_VOID", .id orderId]

def reversalMirror (order : Order) (actorId : Uuid) : MirrorDebtLedgerInput where
  source := .PAYMENT
  amount := order.totalPrice
  sourceRef := invoiceAuditVoidRef order.id
  actorUserId := actorId
  customerId := order.customerId
  orderId := some order.id
  paymentMethod := none
  note := "Debt reversed by invoice void / edit (supervisor)"

def walletAbsorptionVoidRef (orderId : Uuid) : SourceRef :=
  [.word "JOURNAL", .word "WALLET_ABSORPTION_VOID", .id orderId]

def walletAbsorptionVoidEntry (order : Order) (actorId : Uuid) : PairPosting where
  source := "WALLET_ABSORPTION_VOID"
  sourceRef := walletAbsorptionVoidRef order.id
  actorUserId := actorId
  customerId := order.customerId
  orderId := some order.id
  debited := .REVENUE_RETURNS
  credited := .WALLET_LIABILITY
  amount := order.totalPrice

def reversedWallet (order : Order) (read current : CustomerWallet) : CustomerWallet :=
  if order.walletSettledAt = none then current
  else match order.posPaymentMethod with
    | .DEBT_ON_ACCOUNT => { current with debt := max 0 (read.debt - order.totalPrice) }
    | .SUBSCRIPTION_WALLET => { current with balance := read.balance + order.totalPrice }
    | .CASH | .KNET | .ONLINE | .PAYMENT_LINK => current

def reverseWalletForOrder (env : Env) (order : Order) (actorId : Uuid)
    (wallet : CustomerWallet) : Tx Unit :=
  if order.walletSettledAt = none then pure ()
  else match order.posPaymentMethod with
    | .DEBT_ON_ACCOUNT => do
        changeWallet order.customerId (reversedWallet order wallet)
        require (actorId ≠ "") (.error
          "INVOICE_AUDIT_VOID_MISSING_ACTOR — actorUserId is required to reverse a wallet debt")
        mirrorDebtLedgerEntrySafe env (reversalMirror order actorId)
    | .SUBSCRIPTION_WALLET => do
        require (actorId ≠ "") (.error
          ("INVOICE_AUDIT_VOID_MISSING_ACTOR — actorUserId is required to reverse a " ++
            "subscription-wallet absorption"))
        changeWallet order.customerId (reversedWallet order wallet)
        appendBalanced env (walletAbsorptionVoidEntry order actorId).input
    | .CASH | .KNET | .ONLINE | .PAYMENT_LINK => pure ()

def shortfallReapplyRef (orderId : Uuid) : SourceRef :=
  [.word "INVOICE", .id orderId, .word "SHORTFALL_REAPPLY"]

def reapplyMirror (order : Order) (actorId : Uuid) : MirrorDebtLedgerInput where
  source := .INVOICE_SHORTFALL
  amount := order.totalPrice
  sourceRef := shortfallReapplyRef order.id
  actorUserId := actorId
  customerId := order.customerId
  orderId := some order.id
  paymentMethod := none
  note := "Debt re-applied by invoice edit (new amount/method)"

def walletReapplyRef (orderId : Uuid) : SourceRef :=
  [.word "JOURNAL", .word "WALLET_ABSORPTION", .id orderId, .word "REAPPLY_EDIT"]

def walletReapplyEntry (order : Order) (actorId : Uuid) (amount : ℤ) : PairPosting where
  source := "WALLET_ABSORPTION"
  sourceRef := walletReapplyRef order.id
  actorUserId := actorId
  customerId := order.customerId
  orderId := some order.id
  debited := .WALLET_LIABILITY
  credited := .REVENUE
  amount := amount

def actualDeducted (total : ℤ) (wallet : CustomerWallet) : ℤ :=
  if total ≤ wallet.balance then total else wallet.balance

def reappliedWallet (order : Order) (wallet : CustomerWallet) : CustomerWallet :=
  if order.walletSettledAt = none then wallet
  else match order.posPaymentMethod with
    | .DEBT_ON_ACCOUNT => { wallet with debt := wallet.debt + order.totalPrice }
    | .SUBSCRIPTION_WALLET => { wallet with
        balance := max 0 (wallet.balance - actualDeducted order.totalPrice wallet) }
    | .CASH | .KNET | .ONLINE | .PAYMENT_LINK => wallet

def applyWalletForOrder (env : Env) (order : Order) (actorId : Uuid) : Tx Unit :=
  if order.walletSettledAt = none then pure ()
  else match order.posPaymentMethod with
    | .DEBT_ON_ACCOUNT => do
        changeWallet order.customerId (reappliedWallet order)
        whenever (actorId ≠ "") (mirrorDebtLedgerEntrySafe env (reapplyMirror order actorId))
    | .SUBSCRIPTION_WALLET => do
        let wallet ← reads fun db => db.wallets order.customerId
        changeWallet order.customerId (reappliedWallet order)
        whenever (actorId ≠ "" ∧ 0 < actualDeducted order.totalPrice wallet)
          (appendBalanced env (walletReapplyEntry order actorId
            (actualDeducted order.totalPrice wallet)).input)
    | .CASH | .KNET | .ONLINE | .PAYMENT_LINK => pure ()

def invoiceAuditRoles : List SafariRole :=
  [.CALL_CENTER_SUPERVISOR, .OWNER]

def getOrderArBalance (orderId : Uuid) (db : Db) : ℤ :=
  max 0 (orderReceivable orderId db.journal)

structure InvoiceVoidArgs where
  (orderId actorId : Uuid)
  actorRole : SafariRole
  reason : String

structure InvoiceVoidResult where
  orderId : Uuid
  /-- In fils, as `toFixed(3)` gives it. -/
  reversedAmount : ℤ
  reason : String

def voidedOrder (order : Order) : Order :=
  { order with status := .CANCELED, walletSettledAt := none }

theorem voidedOrder_id (order : Order) : (voidedOrder order).id = order.id := rfl

def InvoiceVoidArgs.cancellation (args : InvoiceVoidArgs) (order : Order) (openAr : ℤ) :
    PairPosting :=
  invoiceCancellationEntry ⟨order.customerId, order.id, args.actorId, openAr⟩

def saleCorrectionRow (order : Order) (actorId : Uuid) (amount : ℤ) (memo : String) :
    GeneralLedgerEntry where
  entryType := .POS_SALE_COMPLETED
  amount := amount
  memo := memo
  customerId := some order.customerId
  orderId := some order.id
  actorUserId := some actorId

def requireAuditActor (actorId : Uuid) : Tx Unit := do
  let _ ← fetch (findUser actorId) (.database "No User found")

/-- Everything after the reads: of the row, of the wallet before its lock, and of the
order's receivable on the other connection. -/
def voidAfterReads (env : Env) (args : InvoiceVoidArgs) (order : Order)
    (wallet : CustomerWallet) (orderAr : ℤ) : Tx InvoiceVoidResult := do
  require (order.status ≠ .CANCELED) (.badRequest "Invoice is already voided.")
  reverseWalletForOrder env order args.actorId wallet
  updateOrder order.id voidedOrder voidedOrder_id
  whenever (0 < orderAr) ((args.cancellation order orderAr).appendSafe env)
  generalLedgerAppend (saleCorrectionRow order args.actorId (-order.totalPrice)
    ("Invoice void — " ++ (args.reason.take 100).toString))
  requireAuditActor args.actorId
  return ⟨order.id, toFils order.totalPrice, args.reason⟩

structure VoidReads where
  (order wallet receivable : Db)

def voidInvoiceSeeing (env : Env) (args : InvoiceVoidArgs) (seen : VoidReads) :
    Tx InvoiceVoidResult :=
  transaction do
    require (args.actorRole ∈ invoiceAuditRoles) (.forbidden
      "Only a Call Center Supervisor (or Owner) can void an invoice.")
    let order ← fetch (fun _ => seen.order.orders.find? args.orderId) (.notFound "Order not found")
    voidAfterReads env args order (seen.wallet.wallets order.customerId)
      (getOrderArBalance order.id seen.receivable)

def voidInvoice (env : Env) (args : InvoiceVoidArgs) : Tx InvoiceVoidResult := do
  let db ← get
  voidInvoiceSeeing env args ⟨db, db, db⟩

/-! ## Edit -/

/-- The Kuwait-local calendar day, three hours ahead of UTC all year. -/
def kuwaitDay (at_ : Timestamp) : ℕ :=
  (at_ + 180 * 60 * 1000) / (24 * 60 * 60 * 1000)

/-- `EditInvoiceLineItemDto`; the numbers are texts of any number of decimals. -/
structure EditInvoiceLineItem where
  id : Option Uuid
  label : Option String
  starchOption : Option StarchOption
  (quantity unitPrice : ℚ)

def EditInvoiceLineItem.storedQuantity (item : EditInvoiceLineItem) : ℤ :=
  Decimal.roundHalfAway (item.quantity * 10000)

def EditInvoiceLineItem.storedUnitPrice (item : EditInvoiceLineItem) : ℤ :=
  Decimal.roundHalfAway (item.unitPrice * 10000)

structure EditInvoiceDto where
  totalPrice : Option ℤ
  posPaymentMethod : Option PosPaymentMethod
  notes : Option String
  lineItems : Option (List EditInvoiceLineItem)

def EditInvoiceDto.HasChange (dto : EditInvoiceDto) : Prop :=
  dto.totalPrice ≠ none ∨ dto.posPaymentMethod ≠ none ∨ dto.notes ≠ none ∨ dto.lineItems ≠ none
  deriving Decidable

def lineItemsTotal (items : List EditInvoiceLineItem) : ℤ :=
  Decimal.roundHalfAway ((items.map fun item => item.quantity * item.unitPrice).sum * 10000)

def EditInvoiceDto.newTotal (dto : EditInvoiceDto) (order : Order) : ℤ :=
  match dto.lineItems with
  | some items => lineItemsTotal items
  | none => dto.totalPrice.getD order.totalPrice

def EditInvoiceDto.newMethod (dto : EditInvoiceDto) (order : Order) : PosPaymentMethod :=
  dto.posPaymentMethod.getD order.posPaymentMethod

def editedLine (item : EditInvoiceLineItem) (line : OrderLineItem) : OrderLineItem :=
  { line with
    label := item.label
    starchOption := item.starchOption.getD .NONE
    quantity := item.storedQuantity
    unitPrice := item.storedUnitPrice }

def addedLine (env : Env) (orderId : Uuid) (item : EditInvoiceLineItem) (lines : ℕ) :
    OrderLineItem where
  id := env.newLineItemId lines
  orderId := orderId
  label := item.label
  starchOption := item.starchOption.getD .NONE
  stockItemId := none
  quantity := item.storedQuantity
  unitPrice := item.storedUnitPrice

def writeLineItem (env : Env) (orderId : Uuid) (item : EditInvoiceLineItem) : Tx Unit := do
  require (0 ≤ item.quantity ∧ 0 ≤ item.unitPrice)
    (.badRequest "Line-item quantity and unitPrice must be non-negative.")
  match item.id with
  | some id => do
      let known ← reads fun db => decide (id ∈ db.orderLineItems.map OrderLineItem.id)
      require (known = true) (.database "Record to update not found.")
      modify fun db => { db with
        orderLineItems := db.orderLineItems.map fun line =>
          if line.id = id then editedLine item line else line }
  | none =>
      modify fun db => { db with
        orderLineItems := db.orderLineItems ++
          [addedLine env orderId item db.orderLineItems.length] }

/-- Lines of the order that the payload leaves out go, the rest is written. -/
def rewriteLineItems (env : Env) (orderId : Uuid) (items : List EditInvoiceLineItem) :
    Tx Unit := do
  modify fun db => { db with
    orderLineItems := db.orderLineItems.filter fun line =>
      line.orderId ≠ orderId ∨ some line.id ∈ items.map EditInvoiceLineItem.id }
  items.forM (writeLineItem env orderId)

def rewriteLines (env : Env) (orderId : Uuid) :
    Option (List EditInvoiceLineItem) → Tx Unit
  | none => pure ()
  | some items => rewriteLineItems env orderId items

def writtenLine (env : Env) (orderId : Uuid) (lines : List OrderLineItem)
    (item : EditInvoiceLineItem) : List OrderLineItem :=
  match item.id with
  | some id => lines.map fun line => if line.id = id then editedLine item line else line
  | none => lines ++ [addedLine env orderId item lines.length]

def keptLines (orderId : Uuid) (items : List EditInvoiceLineItem) (lines : List OrderLineItem) :
    List OrderLineItem :=
  lines.filter fun line => line.orderId ≠ orderId ∨ some line.id ∈ items.map EditInvoiceLineItem.id

def editedLines (env : Env) (orderId : Uuid) (items : Option (List EditInvoiceLineItem))
    (lines : List OrderLineItem) : List OrderLineItem :=
  match items with
  | none => lines
  | some items => items.foldl (writtenLine env orderId) (keptLines orderId items lines)

structure InvoiceEditArgs where
  (orderId actorId : Uuid)
  actorRole : SafariRole
  dto : EditInvoiceDto

structure InvoiceEditResult where
  orderId : Uuid
  /-- In fils, as `toFixed(3)` gives it. -/
  newTotal : ℤ
  newPaymentMethod : PosPaymentMethod

namespace InvoiceEditArgs

def repriced (args : InvoiceEditArgs) (order row : Order) : Order :=
  { row with
    totalPrice := args.dto.newTotal order
    posPaymentMethod := args.dto.newMethod order }

theorem repriced_id (args : InvoiceEditArgs) (order row : Order) :
    (args.repriced order row).id = row.id := rfl

def editedOrder (args : InvoiceEditArgs) (order : Order) : Order :=
  args.repriced order order

def saleRows (args : InvoiceEditArgs) (order : Order) : List GeneralLedgerEntry :=
  if args.dto.newTotal order ≠ order.totalPrice ∨
      args.dto.newMethod order ≠ order.posPaymentMethod then
    [saleCorrectionRow order args.actorId (-order.totalPrice)
        "Invoice edit — reversal of original amount",
      saleCorrectionRow order args.actorId (args.dto.newTotal order)
        "Invoice edit — new amount posted"]
  else []

end InvoiceEditArgs

def editAfterReads (env : Env) (args : InvoiceEditArgs) (order : Order)
    (wallet : CustomerWallet) : Tx InvoiceEditResult := do
  require (order.status ≠ .CANCELED) (.badRequest
    "Canceled invoices cannot be edited — re-issue a new invoice instead.")
  require (kuwaitDay order.createdAt = kuwaitDay env.now) (.badRequest
    ("Same-day edit window expired — this invoice was issued on a prior " ++ "Kuwait-local day."))
  rewriteLines env order.id args.dto.lineItems
  require (0 ≤ args.dto.newTotal order) (.badRequest "totalPrice cannot be negative.")
  reverseWalletForOrder env order args.actorId wallet
  updateOrder order.id (args.repriced order) (args.repriced_id order)
  applyWalletForOrder env (args.editedOrder order) args.actorId
  (args.saleRows order).forM generalLedgerAppend
  requireAuditActor args.actorId
  return ⟨order.id, toFils (args.dto.newTotal order), args.dto.newMethod order⟩

structure EditReads where
  (order wallet : Db)

def editInvoiceSeeing (env : Env) (args : InvoiceEditArgs) (seen : EditReads) :
    Tx InvoiceEditResult :=
  transaction do
    require (args.actorRole ∈ invoiceAuditRoles) (.forbidden
      "Only a Call Center Supervisor (or Owner) can edit an invoice.")
    require args.dto.HasChange (.badRequest
      ("At least one of totalPrice, posPaymentMethod, notes, lineItems must be " ++ "supplied."))
    let order ← fetch (fun _ => seen.order.orders.find? args.orderId) (.notFound "Order not found")
    editAfterReads env args order (seen.wallet.wallets order.customerId)

def editInvoice (env : Env) (args : InvoiceEditArgs) : Tx InvoiceEditResult := do
  let db ← get
  editInvoiceSeeing env args ⟨db, db⟩

/-! ## What a committed edit or void leaves behind -/

def reversalEntries (order : Order) (actorId : Uuid) : List JournalEntry :=
  if order.walletSettledAt = none then []
  else match order.posPaymentMethod with
    | .DEBT_ON_ACCOUNT => mirrorEntries (reversalMirror order actorId)
    | .SUBSCRIPTION_WALLET => [(walletAbsorptionVoidEntry order actorId).input.entry]
    | .CASH | .KNET | .ONLINE | .PAYMENT_LINK => []

def reapplyEntries (order : Order) (actorId : Uuid) (wallet : CustomerWallet) :
    List JournalEntry :=
  if order.walletSettledAt = none then []
  else match order.posPaymentMethod with
    | .DEBT_ON_ACCOUNT => mirrorEntries (reapplyMirror order actorId)
    | .SUBSCRIPTION_WALLET =>
        (walletReapplyEntry order actorId (actualDeducted order.totalPrice wallet)).entries
    | .CASH | .KNET | .ONLINE | .PAYMENT_LINK => []

def WalletBooked (customerId : Uuid) (wallet : CustomerWallet)
    (entries : List JournalEntry) (db db' : Db) : Prop :=
  ∃ failures, db' = { db with
    wallets := Function.update db.wallets customerId wallet
    journal := postAll JournalEntry.sourceRef db.journal entries
    journalFailures := failures }

theorem WalletBooked.refl (customerId : Uuid) (db : Db) :
    WalletBooked customerId (db.wallets customerId) [] db db :=
  ⟨db.journalFailures, by simp⟩

variable {db db' : Db} {env : Env} {order : Order} {actorId : Uuid} {wallet : CustomerWallet}
  {args : InvoiceEditArgs}

theorem commits_changeWallet {customerId : Uuid} {f : CustomerWallet → CustomerWallet}
    {entries : List JournalEntry} {mid : Db}
    (hchange : (changeWallet customerId f).Commits db () mid) (hwrote : Wrote entries mid db') :
    WalletBooked customerId (f (db.wallets customerId)) entries db db' := by
  unfold changeWallet at hchange
  rw [commits_modify] at hchange
  subst hchange
  obtain ⟨failures, rfl⟩ := hwrote
  exact ⟨failures, rfl⟩

theorem commits_reverseWalletForOrder (henv : env.StoreHealthy)
    (hcommits : (reverseWalletForOrder env order actorId wallet).Commits db () db') :
    WalletBooked order.customerId (reversedWallet order wallet (db.wallets order.customerId))
      (reversalEntries order actorId) db db' := by
  unfold reverseWalletForOrder at hcommits
  unfold reversalEntries
  by_cases hunsettled : order.walletSettledAt = none
  · rw [if_pos hunsettled, commits_pure] at hcommits
    rw [reversedWallet, if_pos hunsettled, if_pos hunsettled, ← hcommits.2]
    exact .refl _ db
  · rw [if_neg hunsettled] at hcommits
    have hexternal : db = db' → reversedWallet order wallet (db.wallets order.customerId) =
        db.wallets order.customerId → WalletBooked order.customerId
          (reversedWallet order wallet (db.wallets order.customerId)) [] db db' := by
      rintro rfl hsame
      rw [hsame]
      exact .refl _ db
    rw [if_neg hunsettled]
    cases hmethod : order.posPaymentMethod with
    | DEBT_ON_ACCOUNT =>
        simp only [hmethod, commits_bind, commits_require] at hcommits
        obtain ⟨⟨⟩, mid, hchange, ⟨⟩, _, ⟨hactor, rfl⟩, hmirror⟩ := hcommits
        exact commits_changeWallet hchange (commits_mirrorDebtLedgerEntrySafe henv hactor
          (by simp [reversalMirror, invoiceAuditVoidRef]) hmirror)
    | SUBSCRIPTION_WALLET =>
        simp only [hmethod, commits_bind, commits_require] at hcommits
        obtain ⟨⟨⟩, _, ⟨hactor, rfl⟩, ⟨⟩, mid, hchange, happend⟩ := hcommits
        exact commits_changeWallet hchange ⟨mid.journalFailures, commits_appendBalanced happend⟩
    | CASH | KNET | ONLINE | PAYMENT_LINK =>
        simp only [hmethod, commits_pure] at hcommits
        apply hexternal hcommits.2
        simp [reversedWallet, hmethod]

theorem commits_applyWalletForOrder (henv : env.StoreHealthy) (hactor : actorId ≠ "")
    (hcommits : (applyWalletForOrder env order actorId).Commits db () db') :
    WalletBooked order.customerId (reappliedWallet order (db.wallets order.customerId))
      (reapplyEntries order actorId (db.wallets order.customerId)) db db' := by
  unfold applyWalletForOrder at hcommits
  unfold reapplyEntries
  by_cases hunsettled : order.walletSettledAt = none
  · rw [if_pos hunsettled, commits_pure] at hcommits
    rw [reappliedWallet, if_pos hunsettled, if_pos hunsettled, ← hcommits.2]
    exact .refl _ db
  · rw [if_neg hunsettled] at hcommits
    have hexternal : db = db' → reappliedWallet order (db.wallets order.customerId) =
        db.wallets order.customerId → WalletBooked order.customerId
          (reappliedWallet order (db.wallets order.customerId)) [] db db' := by
      rintro rfl hsame
      rw [hsame]
      exact .refl _ db
    rw [if_neg hunsettled]
    cases hmethod : order.posPaymentMethod with
    | DEBT_ON_ACCOUNT =>
        simp only [hmethod, commits_bind, commits_whenever] at hcommits
        obtain ⟨⟨⟩, mid, hchange, ⟨_, hmirror⟩ | ⟨hmissing, _⟩⟩ := hcommits
        · exact commits_changeWallet hchange (commits_mirrorDebtLedgerEntrySafe henv hactor
            (by simp [reapplyMirror, shortfallReapplyRef]) hmirror)
        · exact absurd hactor hmissing
    | SUBSCRIPTION_WALLET =>
        simp only [hmethod, commits_bind, commits_reads, commits_whenever] at hcommits
        obtain ⟨wallet, _, ⟨rfl, rfl⟩, ⟨⟩, mid, hchange, hposted⟩ := hcommits
        apply commits_changeWallet hchange
        rcases hposted with ⟨⟨_, hdeducted⟩, happend⟩ | ⟨hnone, rfl⟩
        · rw [PairPosting.entries_of_pos hdeducted]
          exact ⟨mid.journalFailures, commits_appendBalanced happend⟩
        · rw [PairPosting.entries_of_nonpos (not_lt.1 fun hpos => hnone ⟨hactor, hpos⟩)]
          exact Wrote.refl mid
    | CASH | KNET | ONLINE | PAYMENT_LINK =>
        simp only [hmethod, commits_pure] at hcommits
        apply hexternal hcommits.2
        simp [reappliedWallet, hmethod]

def InvoiceVoidArgs.entries (args : InvoiceVoidArgs) (order : Order) (orderAr : ℤ) :
    List JournalEntry :=
  reversalEntries order args.actorId ++ (args.cancellation order orderAr).entries

def InvoiceVoided (args : InvoiceVoidArgs) (order : Order) (wallet : CustomerWallet)
    (orderAr : ℤ) (db db' : Db) : Prop :=
  ∃ memo failures, db' = { db with
    wallets := Function.update db.wallets order.customerId
      (reversedWallet order wallet (db.wallets order.customerId))
    orders := db.orders.update order.id voidedOrder voidedOrder_id
    journal := postAll JournalEntry.sourceRef db.journal (args.entries order orderAr)
    generalLedger := db.generalLedger ++
      [saleCorrectionRow order args.actorId (-order.totalPrice) memo]
    journalFailures := failures }

theorem commits_requireAuditActor (hcommits : (requireAuditActor actorId).Commits db () db') :
    db = db' ∧ actorId ≠ "" := by
  unfold requireAuditActor at hcommits
  simp only [commits_bind, commits_fetch, commits_pure] at hcommits
  obtain ⟨actor, _, ⟨hactor, rfl⟩, _, rfl⟩ := hcommits
  exact ⟨rfl, ne_empty_of_findUser hactor⟩

theorem PairPosting.commits_whenever_appendSafe {env : Env} {posting : PairPosting}
    {db db' : Db} (henv : env.StoreHealthy) (hactor : posting.actorUserId ≠ "")
    (href : posting.sourceRef ≠ [])
    (hcommits : (whenever (0 < posting.amount) (posting.appendSafe env)).Commits db () db') :
    Wrote posting.entries db db' := by
  rw [commits_whenever] at hcommits
  rcases hcommits with ⟨_, hwrite⟩ | ⟨hnone, rfl⟩
  · exact commits_appendSafe henv hactor href hwrite
  · rw [entries_of_nonpos (not_lt.1 hnone)]
    exact Wrote.refl db

theorem commits_voidAfterReads {args : InvoiceVoidArgs} {orderAr : ℤ} {result : InvoiceVoidResult}
    (henv : env.StoreHealthy)
    (hcommits : (voidAfterReads env args order wallet orderAr).Commits db result db') :
    order.status ≠ .CANCELED ∧ (∃ row, db.orders.find? order.id = some row) ∧
      InvoiceVoided args order wallet orderAr db db' := by
  unfold voidAfterReads at hcommits
  simp only [commits_bind, commits_require, updateOrder, commits_fetch, commits_modify,
    commits_pure] at hcommits
  obtain ⟨_, _, ⟨hopen, rfl⟩, ⟨⟩, db₁, hreverse, _, db₂, ⟨row, _, ⟨hrow, rfl⟩, hdb₂⟩,
    hrest⟩ := hcommits
  obtain ⟨_, db₃, hcancel, ⟨⟩, db₄, hledger, ⟨⟩, db₅, hactor, _, hdb₅⟩ := hrest
  obtain ⟨hdb₄, hactor⟩ := commits_requireAuditActor hactor
  obtain ⟨_, hdb₁⟩ := commits_reverseWalletForOrder henv hreverse
  obtain ⟨_, hdb₃⟩ := @PairPosting.commits_whenever_appendSafe env
    (args.cancellation order orderAr) db₂ db₃ henv hactor
    (by simp [InvoiceVoidArgs.cancellation, invoiceCancellationEntry]) hcancel
  obtain ⟨failures, hfinal⟩ := commits_generalLedgerAppend hledger
  subst hdb₁
  subst hdb₂
  subst hdb₃
  refine ⟨hopen, ⟨row, hrow⟩, "Invoice void — " ++ (args.reason.take 100).toString, failures, ?_⟩
  rw [← hdb₅, ← hdb₄, hfinal]
  simp only [InvoiceVoidArgs.entries, postAll_append, postAll_nil]

def InvoiceEditedTo (lines : List OrderLineItem) (args : InvoiceEditArgs) (order : Order)
    (wallet : CustomerWallet) (db db' : Db) : Prop :=
  ∃ failures, db' = { db with
    orderLineItems := lines
    wallets := Function.update db.wallets order.customerId
      (reappliedWallet (args.editedOrder order)
        (reversedWallet order wallet (db.wallets order.customerId)))
    orders := db.orders.update order.id (args.repriced order) (args.repriced_id order)
    journal := postAll JournalEntry.sourceRef db.journal
      (reversalEntries order args.actorId ++ reapplyEntries (args.editedOrder order) args.actorId
          (reversedWallet order wallet (db.wallets order.customerId)))
    generalLedger := db.generalLedger ++ args.saleRows order
    journalFailures := failures }

def InvoiceEdited (args : InvoiceEditArgs) (order : Order) (wallet : CustomerWallet)
    (db db' : Db) : Prop :=
  ∃ lines, InvoiceEditedTo lines args order wallet db db'

theorem InvoiceEditedTo.edited {lines : List OrderLineItem}
    (hedited : InvoiceEditedTo lines args order wallet db db') :
    InvoiceEdited args order wallet db db' :=
  ⟨lines, hedited⟩

theorem commits_writeLineItem {orderId : Uuid} {item : EditInvoiceLineItem}
    (hcommits : (writeLineItem env orderId item).Commits db () db') :
    db' = { db with orderLineItems := writtenLine env orderId db.orderLineItems item } := by
  unfold writeLineItem at hcommits
  rw [commits_bind] at hcommits
  obtain ⟨_, _, hchecked, hwritten⟩ := hcommits
  obtain ⟨_, rfl⟩ := commits_require.1 hchecked
  unfold writtenLine
  cases hid : item.id with
  | none =>
      simp only [hid, commits_modify] at hwritten
      exact hwritten
  | some id =>
      simp only [hid, commits_bind, commits_reads, commits_require, commits_modify] at hwritten
      obtain ⟨_, _, ⟨_, rfl⟩, _, _, ⟨_, rfl⟩, hmodified⟩ := hwritten
      exact hmodified

theorem commits_rewriteLines {orderId : Uuid} {items : Option (List EditInvoiceLineItem)}
    (hcommits : (rewriteLines env orderId items).Commits db () db') :
    db' = { db with orderLineItems := editedLines env orderId items db.orderLineItems } := by
  have hwrite : ∀ (rest : List EditInvoiceLineItem) (db : Db),
      (rest.forM (writeLineItem env orderId)).Commits db () db' →
      db' = { db with
        orderLineItems := rest.foldl (writtenLine env orderId) db.orderLineItems } := by
    intro rest
    induction rest with
    | nil =>
        intro db hdone
        rw [commits_forM_nil] at hdone
        exact hdone.symm
    | cons item rest ih =>
        intro db hdone
        obtain ⟨mid, hfirst, hrest⟩ := commits_forM_cons.1 hdone
        rw [ih mid hrest, commits_writeLineItem hfirst]
        rfl
  cases items with
  | none =>
      rw [rewriteLines, commits_pure] at hcommits
      exact hcommits.2.symm
  | some items =>
      rw [rewriteLines, rewriteLineItems, commits_bind] at hcommits
      obtain ⟨_, mid, hdeleted, hrest⟩ := hcommits
      rw [commits_modify] at hdeleted
      subst hdeleted
      exact hwrite items _ hrest

theorem commits_generalLedgerAppends {rows : List GeneralLedgerEntry}
    (hcommits : (rows.forM generalLedgerAppend).Commits db () db') :
    Booked [] rows db db' := by
  induction rows generalizing db with
  | nil =>
      rw [commits_forM_nil] at hcommits
      rw [← hcommits]
      exact Booked.refl db
  | cons row rest ih =>
      obtain ⟨mid, hfirst, hrest⟩ := commits_forM_cons.1 hcommits
      exact (commits_generalLedgerAppend hfirst).trans (ih hrest)

theorem commits_editAfterReads {result : InvoiceEditResult} (henv : env.StoreHealthy)
    (hcommits : (editAfterReads env args order wallet).Commits db result db') :
    order.status ≠ .CANCELED ∧ 0 ≤ args.dto.newTotal order ∧
      (∃ row, db.orders.find? order.id = some row) ∧
      InvoiceEditedTo (editedLines env order.id args.dto.lineItems db.orderLineItems)
        args order wallet db db' := by
  unfold editAfterReads at hcommits
  simp only [commits_bind, commits_require, updateOrder, commits_fetch, commits_modify,
    commits_pure] at hcommits
  obtain ⟨_, _, ⟨hopen, rfl⟩, _, _, ⟨_, rfl⟩, _, db₁, hlines, _, _, ⟨htotal, rfl⟩,
    ⟨⟩, db₂, hreverse, hrest⟩ := hcommits
  obtain ⟨_, db₃, ⟨row, _, ⟨hrow, rfl⟩, hdb₃⟩, ⟨⟩, db₄, happly, _, db₅, hledger, ⟨⟩, db₆,
    hactor, _, hdb₆⟩ := hrest
  obtain ⟨hdb₅, hactor⟩ := commits_requireAuditActor hactor
  have hdb₁ := commits_rewriteLines hlines
  obtain ⟨_, hdb₂⟩ := commits_reverseWalletForOrder henv hreverse
  obtain ⟨_, hdb₄⟩ := commits_applyWalletForOrder henv hactor happly
  obtain ⟨failures, hfinal⟩ := commits_generalLedgerAppends hledger
  subst hdb₁
  subst hdb₂
  subst hdb₃
  have hcustomer : (args.editedOrder order).customerId = order.customerId := rfl
  simp only [hcustomer, Function.update_self, Function.update_idem] at hdb₄
  subst hdb₄
  refine ⟨hopen, htotal, ⟨row, hrow⟩, failures, ?_⟩
  rw [← hdb₆, ← hdb₅, hfinal]
  simp only [postAll_append, postAll_nil]

theorem commits_voidInvoice {args : InvoiceVoidArgs} {result : InvoiceVoidResult}
    (henv : env.StoreHealthy) (hcommits : (voidInvoice env args).Commits db result db') :
    ∃ order, db.orders.find? args.orderId = some order ∧ order.status ≠ .CANCELED ∧
      InvoiceVoided args order (db.wallets order.customerId)
        (getOrderArBalance order.id db) db db' := by
  unfold voidInvoice voidInvoiceSeeing transaction at hcommits
  simp only [commits_bind, commits_get, commits_atomically, commits_require,
    commits_fetch] at hcommits
  obtain ⟨_, _, ⟨rfl, rfl⟩, _, _, ⟨_, rfl⟩, order, _, ⟨hrow, rfl⟩, hvoid⟩ := hcommits
  obtain ⟨hopen, _, hvoided⟩ := commits_voidAfterReads henv hvoid
  exact ⟨order, hrow, hopen, hvoided⟩

theorem commits_editInvoice {result : InvoiceEditResult} (henv : env.StoreHealthy)
    (hcommits : (editInvoice env args).Commits db result db') :
    ∃ order, db.orders.find? args.orderId = some order ∧ order.status ≠ .CANCELED ∧
      0 ≤ args.dto.newTotal order ∧
      InvoiceEditedTo (editedLines env order.id args.dto.lineItems db.orderLineItems)
        args order (db.wallets order.customerId) db db' := by
  unfold editInvoice editInvoiceSeeing transaction at hcommits
  simp only [commits_bind, commits_get, commits_atomically, commits_require,
    commits_fetch] at hcommits
  obtain ⟨_, _, ⟨rfl, rfl⟩, _, _, ⟨_, rfl⟩, _, _, ⟨_, rfl⟩, order, _, ⟨hrow, rfl⟩,
    hedit⟩ := hcommits
  obtain ⟨hopen, htotal, _, hedited⟩ := commits_editAfterReads henv hedit
  exact ⟨order, hrow, hopen, htotal, hedited⟩

end SafariLaundry
