import SafariLaundry.Settlement

/-!
# Cancelling a subscription early

What is left of the term decides how much of the wallet balance goes: first the
promotional part of the credit, which is voided, then the paid part, which is refunded in
cash.  The balance is read before the wallet is locked and written back whole.
-/

namespace SafariLaundry

open Library Library.Bookkeeping Library.Transaction

structure CancelSubscriptionParams where
  (customerId performedByUserId : Uuid)

/-- What a cancellation is computed from. -/
structure Cancellation where
  params : CancelSubscriptionParams
  subscription : CustomerSubscription
  wallet : CustomerWallet
  now : Timestamp

namespace Cancellation

def totalMs (cancellation : Cancellation) : ℤ :=
  max 1 ((cancellation.subscription.expiresAt : ℤ) - cancellation.subscription.activatedAt)

def remainingMs (cancellation : Cancellation) : ℤ :=
  max 0 ((cancellation.subscription.expiresAt : ℤ) - cancellation.now)

def subsidy (cancellation : Cancellation) : ℤ :=
  let difference := cancellation.subscription.planActualBalanceSnapshot -
    cancellation.subscription.planSalePriceSnapshot
  if difference < 0 then 0 else difference

def giftTarget (cancellation : Cancellation) : ℤ :=
  (cancellation.subsidy * cancellation.remainingMs).tdiv cancellation.totalMs

def cashTarget (cancellation : Cancellation) : ℤ :=
  (cancellation.subscription.planSalePriceSnapshot * cancellation.remainingMs).tdiv
    cancellation.totalMs

/-- The gift goes first, and never more than the wallet holds. -/
def giftRemoval (cancellation : Cancellation) : ℤ :=
  if cancellation.giftTarget < cancellation.wallet.balance then cancellation.giftTarget
  else cancellation.wallet.balance

def afterGift (cancellation : Cancellation) : ℤ :=
  cancellation.wallet.balance - cancellation.giftRemoval

def cashRefund (cancellation : Cancellation) : ℤ :=
  if cancellation.cashTarget < cancellation.afterGift then cancellation.cashTarget
  else cancellation.afterGift

def newBalance (cancellation : Cancellation) : ℤ :=
  cancellation.afterGift - cancellation.cashRefund

def ledgerRow (cancellation : Cancellation) (amount : ℤ) (memo : String) :
    GeneralLedgerEntry where
  entryType := .DEBT_ADJUSTMENT
  amount := amount
  memo := memo
  customerId := some cancellation.params.customerId
  orderId := none
  actorUserId := some cancellation.params.performedByUserId

def giftRow (cancellation : Cancellation) : GeneralLedgerEntry :=
  cancellation.ledgerRow cancellation.giftRemoval
    "Subscription cancellation — promotional / gift credit voided (no cash)"

def cashRow (cancellation : Cancellation) : GeneralLedgerEntry :=
  cancellation.ledgerRow (-cancellation.cashRefund)
    "Subscription cancellation — cash refund to customer (مسترجع / سند صرف)"

def ledgerRows (cancellation : Cancellation) : List GeneralLedgerEntry :=
  (if 0 < cancellation.giftRemoval then [cancellation.giftRow] else []) ++
  (if 0 < cancellation.cashRefund then [cancellation.cashRow] else [])

def historyRow (cancellation : Cancellation) (id : Uuid) : TransactionHistory where
  id := id
  physicalCollection := false
  type := .SUBSCRIPTION_CANCELLATION
  customerId := cancellation.params.customerId
  orderId := none
  subscriptionId := some cancellation.subscription.id
  amount := cancellation.giftRemoval + cancellation.cashRefund
  balanceBefore := cancellation.wallet.balance
  balanceAfter := cancellation.newBalance
  debtBefore := cancellation.wallet.debt
  debtAfter := cancellation.wallet.debt
  performedById := cancellation.params.performedByUserId

def closed (cancellation : Cancellation) (subscription : CustomerSubscription) :
    CustomerSubscription :=
  if subscription.id = cancellation.subscription.id then
    { subscription with
      status := .CANCELLED
      closedAt := some cancellation.now
      closedReason := some "CANCEL_REFUND" }
  else subscription

def refundRef (subscriptionId : Uuid) : SourceRef :=
  [.word "JOURNAL", .word "SUBSCRIPTION_REFUND", .id subscriptionId]

def refundLines (cancellation : Cancellation) : List JournalLine :=
  (if 0 < cancellation.giftRemoval then
    [debitLine .WALLET_LIABILITY cancellation.giftRemoval,
      creditLine .PROMOTIONAL_EXPENSE cancellation.giftRemoval] else []) ++
  (if 0 < cancellation.cashRefund then
    [debitLine .WALLET_LIABILITY cancellation.cashRefund,
      creditLine .CASH cancellation.cashRefund] else [])

def refundInput (cancellation : Cancellation) : AppendJournalInput where
  source := "SUBSCRIPTION_REFUND"
  sourceRef := refundRef cancellation.subscription.id
  actorUserId := cancellation.params.performedByUserId
  customerId := some cancellation.params.customerId
  orderId := none
  allowReversal := true
  lines := cancellation.refundLines

def refundFailure (cancellation : Cancellation) : JournalFailureInput where
  source := "SUBSCRIPTION_REFUND"
  sourceRef := refundRef cancellation.subscription.id
  customerId := some cancellation.params.customerId
  orderId := none
  amount := cancellation.giftRemoval + cancellation.cashRefund

end Cancellation

def appendSubscriptionRefundEntrySafe (env : Env) (cancellation : Cancellation) : Tx Unit :=
  safely env cancellation.refundFailure
    (if cancellation.giftRemoval ≤ 0 ∧ cancellation.cashRefund ≤ 0 then pure ()
     else appendBalanced env cancellation.refundInput)

structure SubscriptionCancellationSettlement where
  subscriptionId : Uuid
  (refundedCashKd voidedGiftKd walletReductionKd previousBalanceKd newBalanceKd : ℤ)
  deriving DecidableEq

/-- The rest of the call, once both rows are locked. -/
def cancelLocked (env : Env) (params : CancelSubscriptionParams)
    (subscription : CustomerSubscription) (wallet : CustomerWallet) :
    Tx SubscriptionCancellationSettlement := do
  let cancellation : Cancellation := ⟨params, subscription, wallet, env.now⟩
  require (¬ subscription.expiresAt ≤ env.now)
    (.badRequest ("Subscription validity has already ended — use a new activation instead " ++
      "of cancellation"))
  whenever (0 < cancellation.giftRemoval) (generalLedgerAppend cancellation.giftRow)
  whenever (0 < cancellation.cashRefund) (generalLedgerAppend cancellation.cashRow)
  createTransactionHistory env cancellation.historyRow
  modify fun db => { db with subscriptions := db.subscriptions.map cancellation.closed }
  changeWallet params.customerId fun current =>
    { current with balance := cancellation.newBalance }
  appendSubscriptionRefundEntrySafe env cancellation
  return {
    subscriptionId := subscription.id
    refundedCashKd := cancellation.cashRefund
    voidedGiftKd := cancellation.giftRemoval
    walletReductionKd := cancellation.giftRemoval + cancellation.cashRefund
    previousBalanceKd := wallet.balance
    newBalanceKd := cancellation.newBalance }

def cancelSubscriptionSeeing (env : Env) (params : CancelSubscriptionParams)
    (subscriptions wallets : Db) : Tx SubscriptionCancellationSettlement := do
  let subscription ← fetch (fun _ => activeSubscription params.customerId subscriptions)
    (.badRequest "No active subscription found for this customer")
  cancelLocked env params subscription (wallets.wallets params.customerId)

def cancelSubscriptionForCustomer (env : Env) (params : CancelSubscriptionParams) :
    Tx SubscriptionCancellationSettlement := do
  let db ← get
  cancelSubscriptionSeeing env params db db

namespace Cancellation

variable {cancellation : Cancellation}

def entries (cancellation : Cancellation) : List JournalEntry :=
  if cancellation.giftRemoval ≤ 0 ∧ cancellation.cashRefund ≤ 0 then []
  else [cancellation.refundInput.entry]

theorem refundInput_wellFormed (hactor : cancellation.params.performedByUserId ≠ "")
    (hsome : ¬ (cancellation.giftRemoval ≤ 0 ∧ cancellation.cashRefund ≤ 0)) :
    cancellation.refundInput.WellFormed where
  actor := hactor
  ref := by simp [refundInput, refundRef]
  two := by
    unfold refundInput refundLines
    by_cases hgift : 0 < cancellation.giftRemoval
    · simp [hgift]
    · have hcash : 0 < cancellation.cashRefund := by omega
      simp [hcash]
  oneSided := by
    intro line hline
    unfold refundInput refundLines at hline
    simp only [List.mem_append, List.mem_ite_nil_right, List.mem_cons, List.not_mem_nil,
      or_false] at hline
    rcases hline with ⟨hpos, rfl | rfl⟩ | ⟨hpos, rfl | rfl⟩
    · exact .inl ⟨hpos, rfl⟩
    · exact .inr ⟨rfl, hpos⟩
    · exact .inl ⟨hpos, rfl⟩
    · exact .inr ⟨rfl, hpos⟩
  balanced := by
    unfold refundInput refundLines
    by_cases hgift : 0 < cancellation.giftRemoval <;>
      by_cases hcash : 0 < cancellation.cashRefund <;>
        simp [totalDebit, totalCredit, debitLine, creditLine, hgift, hcash]

/-- All that a cancellation leaves behind; what the failure log gets is left open. -/
def Cancels (env : Env) (cancellation : Cancellation) (db db' : Db) : Prop :=
  ∃ failures, db' = { db with
    generalLedger := db.generalLedger ++ cancellation.ledgerRows
    transactionHistory := db.transactionHistory ++
      [cancellation.historyRow (env.newHistoryId db.transactionHistory.length)]
    subscriptions := db.subscriptions.map cancellation.closed
    wallets := Function.update db.wallets cancellation.params.customerId
      { db.wallets cancellation.params.customerId with
        balance := cancellation.newBalance }
    journal := postAll JournalEntry.sourceRef db.journal cancellation.entries
    journalFailures := failures }

end Cancellation

theorem commits_appendSubscriptionRefundEntrySafe {env : Env} {cancellation : Cancellation}
    {db db' : Db} (henv : env.StoreHealthy)
    (hactor : cancellation.params.performedByUserId ≠ "")
    (hcommits : (appendSubscriptionRefundEntrySafe env cancellation).Commits db () db') :
    Wrote cancellation.entries db db' := by
  unfold appendSubscriptionRefundEntrySafe at hcommits
  unfold Cancellation.entries
  by_cases hnone : cancellation.giftRemoval ≤ 0 ∧ cancellation.cashRefund ≤ 0
  · rw [if_pos hnone] at hcommits
    rw [if_pos hnone]
    apply commits_safely _ _ hcommits
    · intro mid hdone
      rw [commits_pure] at hdone
      rw [← hdone.2]
      exact Wrote.refl db
    · intro err mid hthrows
      exact absurd hthrows throws_pure
  · rw [if_neg hnone] at hcommits
    rw [if_neg hnone]
    exact commits_safely_append henv (Cancellation.refundInput_wellFormed hactor hnone)
      hcommits

theorem commits_ledgerRow {P : Prop} [Decidable P] {row : GeneralLedgerEntry} {db db' : Db}
    (hcommits : (whenever P (generalLedgerAppend row)).Commits db () db') :
    db' = { db with
      generalLedger := db.generalLedger ++ if P then [row] else [] } := by
  rw [commits_whenever] at hcommits
  rcases hcommits with ⟨hholds, hwrite⟩ | ⟨hnot, rfl⟩
  · unfold generalLedgerAppend at hwrite
    rw [commits_modify] at hwrite
    rw [if_pos hholds, hwrite]
  · rw [if_neg hnot, List.append_nil]

/-- A cancellation that commits came before the subscription expired and left just that behind. -/
theorem commits_cancelLocked {env : Env} {params : CancelSubscriptionParams}
    {subscription : CustomerSubscription} {wallet : CustomerWallet}
    {result : SubscriptionCancellationSettlement} {db db' : Db} (henv : env.StoreHealthy)
    (hactor : params.performedByUserId ≠ "")
    (hcommits : (cancelLocked env params subscription wallet).Commits db result db') :
    env.now < subscription.expiresAt ∧
      Cancellation.Cancels env ⟨params, subscription, wallet, env.now⟩ db db' := by
  unfold cancelLocked at hcommits
  simp only [commits_bind, commits_require, createTransactionHistory, changeWallet,
    commits_modify, commits_pure] at hcommits
  obtain ⟨_, _, ⟨hopen, rfl⟩, _, db₁, hgift, _, db₂, hcash, _, _, rfl, _, _, rfl, _, _, rfl,
    _, db₃, hrefund, _, rfl⟩ := hcommits
  have hgift' := commits_ledgerRow hgift
  have hcash' := commits_ledgerRow hcash
  subst hgift'
  subst hcash'
  obtain ⟨failures, rfl⟩ := commits_appendSubscriptionRefundEntrySafe henv hactor hrefund
  refine ⟨not_le.1 hopen, failures, ?_⟩
  simp only [Cancellation.ledgerRows, List.append_assoc]

end SafariLaundry
