import SafariLaundry.DebtCollection

/-!
# Partial debt payment at the call center

`recordPartialDebtPayment` spreads amount and discount together over the open
invoices, mirrors every slice of that allocation to the journal as money
received, and posts the discount once more by its own entry.  What the pieces
add up to is decided by whether the allocation reaches into the discount.
-/

namespace SafariLaundry

open Library Library.Bookkeeping Library.Transaction Library.Allocation

/-! ## The service method -/

structure PartialDebtPaymentParams where
  customerId : Uuid
  (amountKd discountKd : ℤ)
  paymentMethod : PosPaymentMethod
  performedByUserId : Uuid
  note : Option String

structure PartialDebtPaymentResult where
  (amountCollectedKd discountAppliedKd totalReducedKd previousDebtKd newDebtKd : ℤ)
  walletBalanceKd : ℤ
  paymentMethod : PosPaymentMethod
  transactionHistoryId : Uuid
  deriving DecidableEq

namespace PartialDebtPaymentParams

def total (params : PartialDebtPaymentParams) : ℤ :=
  params.amountKd + params.discountKd

def newDebt (params : PartialDebtPaymentParams) (wallet : CustomerWallet) : ℤ :=
  wallet.debt - min params.total wallet.debt

def queue (env : Env) (params : PartialDebtPaymentParams) (db : Db) : List (Uuid × ℤ) :=
  let candidates := openInvoices params.customerId db
  let remaining := computeOrderRemainingBalancesBatch env db (candidates.map Order.id)
  candidates.map fun order => (order.id, (remaining order.id).getD 0)

def slices (env : Env) (params : PartialDebtPaymentParams) (db : Db) :
    List (Slice Uuid) :=
  allocate invoiceRemainingTolerance (params.queue env db) params.total

def collection (params : PartialDebtPaymentParams) (historyId : Uuid) :
    DebtCollection where
  route := "CC_PARTIAL_DEBT_PAYMENT"
  keyId := historyId
  customerId := params.customerId
  actorUserId := params.performedByUserId
  paymentMethod := params.paymentMethod
  sliceNote := params.note.getD "Partial debt payment collected via Call Center"
  residualNote := params.note.getD "Partial debt payment collected via Call Center"

def discountArgs (params : PartialDebtPaymentParams) (historyId : Uuid) :
    DebtDiscountArgs where
  customerId := params.customerId
  orderId := none
  actorUserId := params.performedByUserId
  amount := params.discountKd
  discountRef := [.id params.customerId, .id historyId]

def ledgerRow (params : PartialDebtPaymentParams) (amount : ℤ) (memo : String) :
    GeneralLedgerEntry where
  entryType := .DEBT_ADJUSTMENT
  amount := -amount
  memo := memo
  customerId := some params.customerId
  orderId := none
  actorUserId := some params.performedByUserId

def historyRow (params : PartialDebtPaymentParams) (wallet : CustomerWallet) (id : Uuid) :
    TransactionHistory where
  id := id
  physicalCollection := false
  type := .ORDER_WALLET_SETTLEMENT
  customerId := params.customerId
  orderId := none
  subscriptionId := none
  amount := params.total
  balanceBefore := wallet.balance
  balanceAfter := wallet.balance
  debtBefore := wallet.debt
  debtAfter := params.newDebt wallet
  performedById := params.performedByUserId

end PartialDebtPaymentParams

def closeInvoice (method : PosPaymentMethod) (slice : Slice Uuid) : Tx Unit :=
  whenever (slice.clears = true)
    (updateOrder slice.item
      (fun order => { order with cashStatus := .PAID_TO_DRIVER, posPaymentMethod := method })
      (fun _ => rfl))

/-- The cash part of the audit and journal writes. -/
def recordCollectedAmount (env : Env) (params : PartialDebtPaymentParams)
    (historyId : Uuid) (slices : List (Slice Uuid)) : Tx Unit :=
  whenever (0 < params.amountKd) do
    generalLedgerAppend
      (params.ledgerRow params.amountKd "Partial debt payment collected via Call Center")
    let residual := params.amountKd - allocated slices
    ((params.collection historyId).rows slices residual).forM (mirrorPaymentRow env)

def recordGrantedDiscount (env : Env) (params : PartialDebtPaymentParams)
    (historyId : Uuid) : Tx Unit :=
  whenever (0 < params.discountKd) do
    generalLedgerAppend
      (params.ledgerRow params.discountKd "Goodwill debt discount granted via Call Center")
    (debtDiscountEntry (params.discountArgs historyId)).appendSafe env

def partialPaymentLocked (env : Env) (params : PartialDebtPaymentParams) (wallet : CustomerWallet) :
    Tx PartialDebtPaymentResult := do
  let ceiling ← reads (operationalDebt params.customerId)
  require (¬ (params.amountKd < 0 ∨ params.discountKd < 0))
    (.badRequest "Amount and discount must both be non-negative")
  require (params.total ≠ 0)
    (.badRequest "At least one of amount or discount must be greater than zero")
  require (¬ ceiling < params.total)
    (.badRequest ("Amount + discount cannot exceed total outstanding debt (" ++
      minorToAmountString ceiling ++ " KD)"))
  changeWallet params.customerId fun current =>
    { current with debt := params.newDebt wallet }
  let slices ← reads (params.slices env)
  slices.forM (closeInvoice params.paymentMethod)
  let newOperationalDebt ← reads (operationalDebt params.customerId)
  let historyId ← reads fun db => env.newHistoryId db.transactionHistory.length
  createTransactionHistory env (params.historyRow wallet)
  recordCollectedAmount env params historyId slices
  recordGrantedDiscount env params historyId
  return {
    amountCollectedKd := params.amountKd
    discountAppliedKd := params.discountKd
    totalReducedKd := params.total
    previousDebtKd := ceiling
    newDebtKd := newOperationalDebt
    walletBalanceKd := wallet.balance
    paymentMethod := params.paymentMethod
    transactionHistoryId := historyId }

def partialPaymentWith (env : Env) (params : PartialDebtPaymentParams)
    (readWallet : Tx CustomerWallet) : Tx PartialDebtPaymentResult := do
  let _ ← fetch (fun db => db.customers.find? params.customerId) (.notFound "Customer not found")
  let _ ← fetch (findUser params.performedByUserId) (.notFound "Performing user not found")
  let wallet ← readWallet
  partialPaymentLocked env params wallet

def recordPartialDebtPaymentTx (env : Env) (params : PartialDebtPaymentParams) :
    Tx PartialDebtPaymentResult :=
  partialPaymentWith env params (reads fun db => db.wallets params.customerId)

/-- Collect part of a customer's debt, optionally with a goodwill discount. -/
def recordPartialDebtPayment (env : Env) (params : PartialDebtPaymentParams) :
    Tx PartialDebtPaymentResult :=
  transaction (recordPartialDebtPaymentTx env params)

theorem commits_closeInvoices {method : PosPaymentMethod} {slices : List (Slice Uuid)}
    {db db' : Db} {a : Unit}
    (hcommits : (slices.forM (closeInvoice method)).Commits db a db') :
    ∃ orders, db' = { db with orders := orders } := by
  induction slices generalizing db with
  | nil =>
      rw [commits_forM_nil] at hcommits
      exact ⟨db.orders, hcommits.symm⟩
  | cons slice rest ih =>
      obtain ⟨mid, hfirst, hrest⟩ := commits_forM_cons.1 hcommits
      have hmid : ∃ orders, mid = { db with orders := orders } := by
        simp only [closeInvoice, commits_whenever, updateOrder, commits_bind,
          commits_fetch, commits_modify] at hfirst
        rcases hfirst with ⟨_, _, _, ⟨_, rfl⟩, rfl⟩ | ⟨_, rfl⟩
        · exact ⟨_, rfl⟩
        · exact ⟨db.orders, rfl⟩
      obtain ⟨orders, rfl⟩ := hmid
      obtain ⟨orders', rfl⟩ := ih hrest
      exact ⟨orders', rfl⟩

namespace PartialDebtPaymentParams

def collectedEntries (params : PartialDebtPaymentParams) (historyId : Uuid)
    (slices : List (Slice Uuid)) : List JournalEntry :=
  if 0 < params.amountKd then
    (params.collection historyId).entries slices (params.amountKd - allocated slices)
  else []

def discountEntry (params : PartialDebtPaymentParams) (historyId : Uuid) : PairPosting :=
  debtDiscountEntry (params.discountArgs historyId)

def entries (params : PartialDebtPaymentParams) (historyId : Uuid)
    (slices : List (Slice Uuid)) : List JournalEntry :=
  params.collectedEntries historyId slices ++ (params.discountEntry historyId).entries

end PartialDebtPaymentParams

theorem commits_recordCollectedAmount {env : Env} {params : PartialDebtPaymentParams}
    {historyId : Uuid} {slices : List (Slice Uuid)} {db db' : Db}
    (henv : env.StoreHealthy) (hactor : params.performedByUserId ≠ "")
    (hcommits : (recordCollectedAmount env params historyId slices).Commits db () db') :
    ∃ rows, Booked (params.collectedEntries historyId slices) rows db db' := by
  unfold recordCollectedAmount at hcommits
  unfold PartialDebtPaymentParams.collectedEntries
  rw [commits_whenever] at hcommits
  rcases hcommits with ⟨hpos, hcommits⟩ | ⟨hnone, rfl⟩
  · simp only [commits_bind] at hcommits
    obtain ⟨⟨⟩, mid, hledger, hmirror⟩ := hcommits
    have hbooked := commits_generalLedgerAppend hledger
    have hrows : ∀ row ∈ (params.collection historyId).rows slices
        (params.amountKd - allocated slices), row.actorUserId ≠ "" ∧ row.sourceRef ≠ [] := by
      intro row hrow
      obtain ⟨tail, href, hshape⟩ := DebtCollection.sourceRef_of_mem_rows hrow
      refine ⟨?_, by simp [href, DebtCollection.paymentRef]⟩
      rcases hshape with ⟨slice, _, _, rfl⟩ | ⟨_, _, rfl⟩
      · exact hactor
      · exact hactor
    have hposted := (commits_mirrorPaymentRows henv hrows hmirror).booked
    rw [if_pos hpos]
    exact ⟨_, hbooked.trans hposted⟩
  · rw [if_neg hnone]
    exact ⟨[], Booked.refl db⟩

theorem commits_recordGrantedDiscount {env : Env} {params : PartialDebtPaymentParams}
    {historyId : Uuid} {db db' : Db} (henv : env.StoreHealthy)
    (hactor : params.performedByUserId ≠ "")
    (hcommits : (recordGrantedDiscount env params historyId).Commits db () db') :
    ∃ rows, Booked (params.discountEntry historyId).entries rows db db' := by
  unfold recordGrantedDiscount at hcommits
  rw [commits_whenever] at hcommits
  rcases hcommits with ⟨hpos, hcommits⟩ | ⟨hnone, rfl⟩
  · simp only [commits_bind] at hcommits
    obtain ⟨⟨⟩, mid, hledger, hwrite⟩ := hcommits
    have hbooked := commits_generalLedgerAppend hledger
    have hposted := (PairPosting.commits_appendSafe henv hactor
      (by simp [debtDiscountEntry]) hwrite).booked
    exact ⟨_, hbooked.trans hposted⟩
  · have hamount : (params.discountEntry historyId).amount ≤ 0 := not_lt.1 hnone
    rw [PairPosting.entries_of_nonpos hamount]
    exact ⟨[], Booked.refl db⟩

structure PartiallyPaid (env : Env) (params : PartialDebtPaymentParams) (db db' : Db) : Prop where
  amount_nonneg : 0 ≤ params.amountKd
  discount_nonneg : 0 ≤ params.discountKd
  total_le : params.total ≤ operationalDebt params.customerId db
  wallets : db'.wallets = Function.update db.wallets params.customerId
    { db.wallets params.customerId with debt := params.newDebt (db.wallets params.customerId) }
  journal : db'.journal = postAll JournalEntry.sourceRef db.journal
    (params.entries (env.newHistoryId db.transactionHistory.length) (params.slices env db))
  closed : ∃ start final : Db, start.orders = db.orders ∧ db'.orders = final.orders ∧
    ((params.slices env db).forM (closeInvoice params.paymentMethod)).Commits start () final

theorem commits_recordPartialDebtPayment {env : Env} {params : PartialDebtPaymentParams}
    {result : PartialDebtPaymentResult} {db db' : Db} (henv : env.StoreHealthy)
    (hcommits : (recordPartialDebtPayment env params).Commits db result db') :
    PartiallyPaid env params db db' := by
  unfold recordPartialDebtPayment transaction at hcommits
  rw [commits_atomically] at hcommits
  unfold recordPartialDebtPaymentTx partialPaymentWith partialPaymentLocked at hcommits
  simp only [commits_bind, commits_fetch, commits_reads, commits_require, changeWallet,
    commits_modify, createTransactionHistory, commits_pure] at hcommits
  obtain ⟨_, _, ⟨_, rfl⟩, actor, _, ⟨hactor, rfl⟩, wallet, _, ⟨rfl, rfl⟩, hrest⟩ := hcommits
  obtain ⟨ceiling, _, ⟨rfl, rfl⟩, _, _, ⟨hsigns, rfl⟩, _, _, ⟨_, rfl⟩, hrest⟩ := hrest
  obtain ⟨_, _, ⟨hceiling, rfl⟩, _, db₁, rfl, slices, _, ⟨rfl, rfl⟩, hrest⟩ := hrest
  obtain ⟨_, db₂, hclose, _, _, ⟨_, rfl⟩, historyId, _, ⟨hhistory, rfl⟩, hrest⟩ := hrest
  obtain ⟨_, db₃, rfl, _, db₄, hcollect, _, db₅, hdiscount, _, rfl⟩ := hrest
  obtain ⟨orders, rfl⟩ := commits_closeInvoices hclose
  have hperformer := ne_empty_of_findUser hactor
  obtain ⟨_, _, rfl⟩ := commits_recordCollectedAmount henv hperformer hcollect
  obtain ⟨_, _, rfl⟩ := commits_recordGrantedDiscount henv hperformer hdiscount
  subst hhistory
  constructor
  · omega
  · omega
  · omega
  · rfl
  · simp only [PartialDebtPaymentParams.entries, postAll_append]
    rfl
  · refine ⟨_, _, ?_, ?_, hclose⟩
    · rfl
    · rfl

/-! ## What the journal shows of it -/

namespace PartialDebtPaymentParams

variable {params : PartialDebtPaymentParams} {historyId : Uuid} {env : Env} {db : Db}

theorem collection_plainRoute (params : PartialDebtPaymentParams) (historyId : Uuid) :
    (params.collection historyId).PlainRoute := by
  simp [DebtCollection.PlainRoute, collection]

theorem key_mem_ref {slices : List (Slice Uuid)} {entry : JournalEntry}
    (hmem : entry ∈ params.entries historyId slices) :
    RefSegment.id historyId ∈ entry.sourceRef := by
  unfold entries collectedEntries at hmem
  rcases List.mem_append.1 hmem with hcollected | hdiscount
  · by_cases hpos : 0 < params.amountKd
    · rw [if_pos hpos] at hcollected
      obtain ⟨tail, href⟩ := DebtCollection.ref_of_mem_entries hcollected
      simp [href, DebtCollection.paymentRef, collection]
    · rw [if_neg hpos] at hcollected
      cases hcollected
  · rw [PairPosting.ref_of_mem_entries hdiscount]
    simp [discountEntry, debtDiscountEntry, discountArgs]

theorem slices_items_nodup (env : Env) (params : PartialDebtPaymentParams) (db : Db) :
    ((params.slices env db).map Slice.item).Nodup := by
  have hqueue : (params.queue env db).map Prod.fst =
      (openInvoices params.customerId db).map Order.id := by
    simp [queue]
  have hsublist := allocate_items_sublist invoiceRemainingTolerance params.total
    (params.queue env db)
  rw [hqueue] at hsublist
  exact hsublist.nodup (openInvoices_ids_nodup params.customerId db)

theorem entries_refs_nodup {slices : List (Slice Uuid)} (hitems : (slices.map Slice.item).Nodup) :
    ((params.entries historyId slices).map JournalEntry.sourceRef).Nodup := by
  unfold entries
  rw [List.map_append, List.nodup_append]
  refine ⟨?_, ?_, ?_⟩
  · unfold collectedEntries
    by_cases hpos : 0 < params.amountKd
    · rw [if_pos hpos]
      exact DebtCollection.entries_refs_nodup hitems _
    · rw [if_neg hpos]
      exact List.nodup_nil
  · exact (params.discountEntry historyId).entries_refs_nodup
  · intro ref hcollected ref' hdiscount heq
    obtain ⟨entry, hentry, rfl⟩ := List.mem_map.1 hcollected
    obtain ⟨entry', hentry', rfl⟩ := List.mem_map.1 hdiscount
    rw [PairPosting.ref_of_mem_entries hentry'] at heq
    unfold collectedEntries at hentry
    by_cases hpos : 0 < params.amountKd
    · rw [if_pos hpos] at hentry
      obtain ⟨tail, href⟩ := DebtCollection.ref_of_mem_entries hentry
      rw [href] at heq
      simp [DebtCollection.paymentRef, discountEntry, debtDiscountEntry] at heq
    · rw [if_neg hpos] at hentry
      cases hentry

def openTotal (env : Env) (params : PartialDebtPaymentParams) (db : Db) : ℤ :=
  eligibleTotal invoiceRemainingTolerance (params.queue env db)

def Exact (env : Env) (params : PartialDebtPaymentParams) (db : Db) : Prop :=
  params.paymentMethod.External ∧ params.total ≤ (db.wallets params.customerId).debt ∧
    (params.discountKd = 0 ∨ params.openTotal env db ≤ params.amountKd)
  deriving Decidable

theorem figures_collectedEntries (env : Env) (db : Db) (historyId : Uuid)
    (hexternal : params.paymentMethod.External) (hamount : 0 < params.amountKd)
    (hdiscount : 0 ≤ params.discountKd) :
    receivable params.customerId (params.collectedEntries historyId (params.slices env db)) =
      -max params.amountKd (min params.total (params.openTotal env db)) ∧
    assetDebits (params.collectedEntries historyId (params.slices env db)) =
      max params.amountKd (min params.total (params.openTotal env db)) := by
  have htotal : 0 ≤ params.total := by
    unfold total
    omega
  have hallocated : allocated (params.slices env db) =
      min params.total (params.openTotal env db) := allocated_allocate htotal _
  have hfigures := DebtCollection.figures_rows
    (params.collection_plainRoute historyId) hexternal (params.slices env db)
    (fun _ hmem => allocate_pos hmem)
    (params.amountKd - allocated (params.slices env db))
  unfold collectedEntries
  rw [if_pos hamount, hfigures.2.2]
  refine ⟨hfigures.1.trans ?_, ?_⟩
  · omega
  · omega

theorem figures_discountEntry (historyId : Uuid) (hdiscount : 0 ≤ params.discountKd) :
    receivable params.customerId (params.discountEntry historyId).entries = -params.discountKd ∧
    assetDebits (params.discountEntry historyId).entries = 0 := by
  have hpair := customerNet_entries .ACCOUNTS_RECEIVABLE (params.discountEntry historyId)
  have hassets := assetDebits_entries (params.discountEntry historyId)
  have hnone : ¬ JournalAccount.Asset .DEBT_DISCOUNTS := by decide
  have hdebited : (params.discountEntry historyId).debited = .DEBT_DISCOUNTS := rfl
  have hcredited : (params.discountEntry historyId).credited = .ACCOUNTS_RECEIVABLE := rfl
  have hsame : (params.discountEntry historyId).amount = params.discountKd := rfl
  have hother : JournalAccount.DEBT_DISCOUNTS ≠ .ACCOUNTS_RECEIVABLE := by decide
  rw [hdebited, hcredited, hsame, if_neg hother, if_pos rfl, max_eq_right hdiscount,
    zero_sub] at hpair
  rw [hdebited, if_neg hnone] at hassets
  exact ⟨hpair, hassets⟩

end PartialDebtPaymentParams

theorem PartiallyPaid.journal_append {env : Env} {params : PartialDebtPaymentParams}
    {db db' : Db} (hpaid : PartiallyPaid env params db db')
    (hfresh : Unmentioned (env.newHistoryId db.transactionHistory.length) db.journal) :
    db'.journal = db.journal ++ params.entries (env.newHistoryId db.transactionHistory.length)
        (params.slices env db) := by
  rw [hpaid.journal]
  apply postAll_eq_append_of_fresh
  · exact PartialDebtPaymentParams.entries_refs_nodup (params.slices_items_nodup env db)
  · intro entry hmem
    exact hfresh.not_recorded (PartialDebtPaymentParams.key_mem_ref hmem)

/-- A committed payment of money takes amount and discount off the receivable and
the wallet debt and brings the amount alone into the asset accounts if and only if
its method has an asset account, the wallet carries the whole reduction, and the
discount is not needed to close open invoices. -/
theorem partialDebtPayment_exact_iff {env : Env} {params : PartialDebtPaymentParams}
    {result : PartialDebtPaymentResult} {db db' : Db} (henv : env.StoreHealthy)
    (hfresh : Unmentioned (env.newHistoryId db.transactionHistory.length) db.journal)
    (hamount : 0 < params.amountKd)
    (hcommits : (recordPartialDebtPayment env params).Commits db result db') :
    (receivable params.customerId db'.journal =
        receivable params.customerId db.journal - (params.amountKd + params.discountKd) ∧
      assetDebits db'.journal = assetDebits db.journal + params.amountKd ∧
      (db'.wallets params.customerId).debt =
        (db.wallets params.customerId).debt - (params.amountKd + params.discountKd)) ↔
    params.Exact env db := by
  have hpaid := commits_recordPartialDebtPayment henv hcommits
  have hdiscount := hpaid.discount_nonneg
  have hwallet : (db'.wallets params.customerId).debt =
      params.newDebt (db.wallets params.customerId) := by
    simp [hpaid.wallets]
  have htotal : params.total = params.amountKd + params.discountKd := rfl
  have hgranted := PartialDebtPaymentParams.figures_discountEntry
    (env.newHistoryId db.transactionHistory.length) hdiscount
  unfold PartialDebtPaymentParams.newDebt at hwallet
  unfold PartialDebtPaymentParams.Exact
  rw [hpaid.journal_append hfresh, hwallet]
  unfold PartialDebtPaymentParams.entries receivable
  rw [customerNet_append, customerNet_append, assetDebits_append, assetDebits_append]
  by_cases hexternal : params.paymentMethod.External
  · have hcollected := PartialDebtPaymentParams.figures_collectedEntries env db
      (env.newHistoryId db.transactionHistory.length) hexternal hamount hdiscount
    unfold receivable at hcollected hgranted
    rw [hcollected.1, hcollected.2, hgranted.1, hgranted.2]
    constructor
    · rintro ⟨_, hassets, hdebt⟩
      refine ⟨hexternal, ?_, ?_⟩
      · omega
      · omega
    · rintro ⟨_, hceiling, hopen⟩
      refine ⟨?_, ?_, ?_⟩
      · omega
      · omega
      · omega
  · have hnone : assetDebits (params.collectedEntries
        (env.newHistoryId db.transactionHistory.length) (params.slices env db)) = 0 := by
      unfold PartialDebtPaymentParams.collectedEntries
      rw [if_pos hamount]
      exact DebtCollection.assetDebits_rows_of_not_external
        (params.collection_plainRoute _) hexternal _ _
    rw [hnone, hgranted.2]
    constructor
    · rintro ⟨_, hassets, _⟩
      omega
    · rintro ⟨hmethod, _⟩
      exact absurd hmethod hexternal

def Sample.recognisedShop : Db :=
  { Sample.indebtedShop with
    journal := [(paymentLinkReceivableEntry "order" "customer" 20000).input.entry] }

def Sample.journalEnv : Env :=
  { Env.default with useJournalAsSource := true }

def Sample.counterPayment (amount discount : ℤ) : PartialDebtPaymentParams where
  customerId := "customer"
  amountKd := amount
  discountKd := discount
  paymentMethod := .KNET
  performedByUserId := "owner"
  note := none

theorem partialDebtPayment_exact_iff_sample :
    (receivable "customer" ((recordPartialDebtPayment Sample.journalEnv
          (Sample.counterPayment 20000 10000)).outcome Sample.recognisedShop).2.journal =
        receivable "customer" Sample.recognisedShop.journal - (20000 + 10000) ∧
      assetDebits ((recordPartialDebtPayment Sample.journalEnv
          (Sample.counterPayment 20000 10000)).outcome Sample.recognisedShop).2.journal =
        assetDebits Sample.recognisedShop.journal + 20000 ∧
      (((recordPartialDebtPayment Sample.journalEnv
          (Sample.counterPayment 20000 10000)).outcome Sample.recognisedShop).2.wallets
            "customer").debt =
        (Sample.recognisedShop.wallets "customer").debt - (20000 + 10000)) ↔
    (Sample.counterPayment 20000 10000).Exact Sample.journalEnv Sample.recognisedShop :=
  @partialDebtPayment_exact_iff Sample.journalEnv (Sample.counterPayment 20000 10000)
    ⟨20000, 10000, 30000, 50000, 20000, 0, .KNET, "history-0"⟩ Sample.recognisedShop _
    (fun _ => rfl) (by unfold Unmentioned; decide +kernel) (by decide)
    (commits_of_returns (by decide +kernel))

theorem partialDebtPayment_fails :
    ¬ ∀ (env : Env) (params : PartialDebtPaymentParams)
        (result : PartialDebtPaymentResult) (db db' : Db),
      env.StoreHealthy →
      Unmentioned (env.newHistoryId db.transactionHistory.length) db.journal →
      0 < params.amountKd →
      (recordPartialDebtPayment env params).Commits db result db' →
      receivable params.customerId db'.journal = receivable params.customerId db.journal -
            (params.amountKd + params.discountKd) ∧
        assetDebits db'.journal = assetDebits db.journal + params.amountKd ∧
        (db'.wallets params.customerId).debt =
          (db.wallets params.customerId).debt - (params.amountKd + params.discountKd) := by
  intro hexact
  have hsample := hexact Sample.journalEnv (Sample.counterPayment 10000 10000)
    ⟨10000, 10000, 20000, 50000, 30000, 0, .KNET, "history-0"⟩ Sample.recognisedShop
    ((recordPartialDebtPayment Sample.journalEnv
      (Sample.counterPayment 10000 10000)).outcome Sample.recognisedShop).2
    (fun _ => rfl) (by unfold Unmentioned; decide +kernel) (by decide)
    (commits_of_returns (by decide +kernel))
  revert hsample
  decide +kernel

end SafariLaundry
