import SafariLaundry.InvoiceAudit
import SafariLaundry.PartialPayment
import SafariLaundry.Subscription
import SafariLaundry.SubscriptionCancel

/-!
# Wallets under concurrent operations

Six operations move a customer's wallet, and each locks its row.  Only the settlement of
an order reads the row again under the lock.  The others compute from what they read
before it, and write whole columns: what was committed in between is written over.  Runs
of such operations are those of the same operations one after the other as long as each
finds under the lock what it read.
-/

namespace SafariLaundry

open Library Library.Bookkeeping Library.Transaction

inductive WalletOperation
  | orderWalletSettlement (orderId performedByUserId : Uuid)
      (prefetch : Option OrderWalletSettlementPrefetch) (extra : SettlementMetadata)
  | partialDebtPayment (params : PartialDebtPaymentParams)
  | subscriptionActivation (params : ActivateSubscriptionParams)
  | subscriptionCancellation (params : CancelSubscriptionParams)
  | invoiceVoid (args : InvoiceVoidArgs)
  | invoiceEdit (args : InvoiceEditArgs)

def WalletOperation.alone (env : Env) : WalletOperation → Tx Unit
  | .orderWalletSettlement orderId performedByUserId prefetch extra =>
      transaction (applyOrderWalletSettlementForCompletedOrder env orderId performedByUserId
        prefetch extra)
  | .partialDebtPayment params => do
      let _ ← recordPartialDebtPayment env params
  | .subscriptionActivation params => do
      let _ ← transaction (activateSubscriptionPlan env params)
  | .subscriptionCancellation params => do
      let _ ← transaction (cancelSubscriptionForCustomer env params)
  | .invoiceVoid args => do
      let _ ← voidInvoice env args
  | .invoiceEdit args => do
      let _ ← editInvoice env args

/-- An operation with the states its reads saw before it had the wallet's lock: of the
order or the subscription, and of the wallet. -/
structure WalletCall where
  env : Env
  operation : WalletOperation
  (row wallet : Db)

namespace WalletCall

/-- The operation under the lock, on what it read before. -/
def run (call : WalletCall) : Tx Unit :=
  match call.operation with
  | .orderWalletSettlement orderId performedByUserId prefetch extra =>
      transaction do
        let o ← fetch (fun _ => settlementOrder orderId prefetch call.row)
          (.notFound "Order not found")
        applyOrderWalletSettlementForCompletedOrder call.env orderId performedByUserId
          (some o) extra
  | .partialDebtPayment params => do
      let _ ← transaction (partialPaymentWith call.env params
        (pure (call.wallet.wallets params.customerId)))
  | .subscriptionActivation params => do
      let _ ← transaction do
        let activation ← prepareWith call.env params (pure (call.wallet.wallets params.customerId))
        completeActivation call.env params activation
  | .subscriptionCancellation params => do
      let _ ← transaction (cancelSubscriptionSeeing call.env params call.row call.wallet)
  | .invoiceVoid args => do
      let db ← get
      let _ ← voidInvoiceSeeing call.env args ⟨call.row, call.wallet, db⟩
  | .invoiceEdit args => do
      let _ ← editInvoiceSeeing call.env args ⟨call.row, call.wallet⟩

end WalletCall

def ReversedColumnUnchanged (order : Order) (read current : CustomerWallet) : Prop :=
  order.walletSettledAt ≠ none →
    (order.posPaymentMethod = .DEBT_ON_ACCOUNT → read.debt = current.debt) ∧
      (order.posPaymentMethod = .SUBSCRIPTION_WALLET → read.balance = current.balance)

namespace WalletCall

/-- Everything the operation read before its lock and still uses is the same under it. -/
def FindsWhatItRead (call : WalletCall) (db : Db) : Prop :=
  match call.operation with
  | .orderWalletSettlement orderId _ prefetch _ =>
      settlementOrder orderId prefetch call.row = settlementOrder orderId prefetch db
  | .partialDebtPayment params =>
      call.wallet.wallets params.customerId = db.wallets params.customerId
  | .subscriptionActivation params =>
      call.wallet.wallets params.customerId = db.wallets params.customerId
  | .subscriptionCancellation params =>
      activeSubscription params.customerId call.row = activeSubscription params.customerId db ∧
        call.wallet.wallets params.customerId = db.wallets params.customerId
  | .invoiceVoid args =>
      call.row.orders.find? args.orderId = db.orders.find? args.orderId ∧
        ∀ order, db.orders.find? args.orderId = some order →
          ReversedColumnUnchanged order (call.wallet.wallets order.customerId)
            (db.wallets order.customerId)
  | .invoiceEdit args =>
      call.row.orders.find? args.orderId = db.orders.find? args.orderId ∧
        ∀ order, db.orders.find? args.orderId = some order →
          ReversedColumnUnchanged order (call.wallet.wallets order.customerId)
            (db.wallets order.customerId)

end WalletCall

/-- Operations in the order in which they have the lock. -/
def walletCalls : Calls Db WalletCall where
  step := fun call db => (call.run.outcome db).2
  seen := fun call => [call.row, call.wallet]

/-! ## An operation that finds what it read -/

theorem reversedWallet_of_unchanged {order : Order} {read current : CustomerWallet}
    (hsame : ReversedColumnUnchanged order read current) (found : CustomerWallet) :
    reversedWallet order read found = reversedWallet order current found := by
  unfold reversedWallet
  by_cases hunsettled : order.walletSettledAt = none
  · rw [if_pos hunsettled, if_pos hunsettled]
  · obtain ⟨hdebt, hbalance⟩ := hsame hunsettled
    rw [if_neg hunsettled, if_neg hunsettled]
    cases hmethod : order.posPaymentMethod with
    | DEBT_ON_ACCOUNT => simp only [hdebt hmethod]
    | SUBSCRIPTION_WALLET => simp only [hbalance hmethod]
    | CASH | KNET | ONLINE | PAYMENT_LINK => rfl

variable {env : Env} {db : Db}

theorem reverseWalletForOrder_of_unchanged {order : Order} {actorId : Uuid}
    {read current : CustomerWallet} (hsame : ReversedColumnUnchanged order read current) :
    reverseWalletForOrder env order actorId read =
      reverseWalletForOrder env order actorId current := by
  have hwritten : reversedWallet order read = reversedWallet order current :=
    funext (reversedWallet_of_unchanged hsame)
  unfold reverseWalletForOrder
  rw [hwritten]

theorem outcome_settlement_of_same {orderId performedByUserId : Uuid}
    {prefetch : Option OrderWalletSettlementPrefetch} {extra : SettlementMetadata} {row : Db}
    (hsame : settlementOrder orderId prefetch row = settlementOrder orderId prefetch db) :
    (do let o ← fetch (fun _ => settlementOrder orderId prefetch row) (.notFound "Order not found")
        applyOrderWalletSettlementForCompletedOrder env orderId performedByUserId (some o)
          extra : Tx Unit).outcome db =
      (applyOrderWalletSettlementForCompletedOrder env orderId performedByUserId prefetch
        extra).outcome db := by
  rw [hsame]
  cases prefetch with
  | some o => rfl
  | none =>
      unfold applyOrderWalletSettlementForCompletedOrder resolveSettlementOrder
      apply outcome_bind_left
      rfl

theorem outcome_partialPayment_of_same {params : PartialDebtPaymentParams} {wallet : CustomerWallet}
    (hsame : wallet = db.wallets params.customerId) :
    (partialPaymentWith env params (pure wallet)).outcome db =
      (recordPartialDebtPaymentTx env params).outcome db := by
  subst hsame
  unfold recordPartialDebtPaymentTx partialPaymentWith
  apply outcome_bind_right
  intro customer found hcustomer
  apply outcome_bind_right
  intro performer found' hperformer
  rw [commits_fetch] at hcustomer hperformer
  obtain ⟨_, rfl⟩ := hcustomer
  obtain ⟨_, rfl⟩ := hperformer
  apply outcome_bind_left
  rfl

theorem outcome_prepare_of_same {params : ActivateSubscriptionParams} {wallet : CustomerWallet}
    (hsame : wallet = db.wallets params.customerId) :
    (prepareWith env params (pure wallet)).outcome db =
      (prepareActivation env params).outcome db := by
  subst hsame
  unfold prepareActivation prepareWith
  apply outcome_bind_right
  intro plan found hplan
  apply outcome_bind_right
  intro _ found' hactive
  apply outcome_bind_right
  intro customer found'' hcustomer
  rw [commits_fetch] at hplan hcustomer
  rw [commits_require] at hactive
  obtain ⟨_, rfl⟩ := hplan
  obtain ⟨_, rfl⟩ := hactive
  obtain ⟨_, rfl⟩ := hcustomer
  apply outcome_bind_left
  rfl

theorem outcome_cancel_of_same {params : CancelSubscriptionParams} {row wallets : Db}
    (hsubscription : activeSubscription params.customerId row =
      activeSubscription params.customerId db)
    (hwallet : wallets.wallets params.customerId = db.wallets params.customerId) :
    (cancelSubscriptionSeeing env params row wallets).outcome db =
      (cancelSubscriptionForCustomer env params).outcome db := by
  have hread : (get : Tx Db).outcome db = (.ok db, db) := rfl
  rw [cancelSubscriptionForCustomer, outcome_bind, hread]
  simp only [cancelSubscriptionSeeing, hsubscription, hwallet]

theorem outcome_void_of_same {args : InvoiceVoidArgs} {row wallet : Db}
    (hrow : row.orders.find? args.orderId = db.orders.find? args.orderId)
    (hcolumn : ∀ order, db.orders.find? args.orderId = some order →
      ReversedColumnUnchanged order (wallet.wallets order.customerId)
        (db.wallets order.customerId)) :
    (voidInvoiceSeeing env args ⟨row, wallet, db⟩).outcome db =
      (voidInvoiceSeeing env args ⟨db, db, db⟩).outcome db := by
  unfold voidInvoiceSeeing transaction
  apply outcome_atomically_congr
  apply outcome_bind_right
  intro _ found hrole
  rw [hrow]
  apply outcome_bind_right
  intro order found' hfound
  rw [commits_fetch] at hfound
  unfold voidAfterReads
  rw [reverseWalletForOrder_of_unchanged (hcolumn order hfound.1)]

theorem outcome_edit_of_same {args : InvoiceEditArgs} {row wallet : Db}
    (hrow : row.orders.find? args.orderId = db.orders.find? args.orderId)
    (hcolumn : ∀ order, db.orders.find? args.orderId = some order →
      ReversedColumnUnchanged order (wallet.wallets order.customerId)
        (db.wallets order.customerId)) :
    (editInvoiceSeeing env args ⟨row, wallet⟩).outcome db =
      (editInvoiceSeeing env args ⟨db, db⟩).outcome db := by
  unfold editInvoiceSeeing transaction
  apply outcome_atomically_congr
  apply outcome_bind_right
  intro _ found hrole
  apply outcome_bind_right
  intro _ found' hchange
  rw [hrow]
  apply outcome_bind_right
  intro order found'' hfound
  rw [commits_fetch] at hfound
  unfold editAfterReads
  rw [reverseWalletForOrder_of_unchanged (hcolumn order hfound.1)]

theorem WalletCall.outcome_of_finds {call : WalletCall} (hfinds : call.FindsWhatItRead db) :
    call.run.outcome db = (call.operation.alone call.env).outcome db := by
  have hread : (get : Tx Db).outcome db = (.ok db, db) := rfl
  obtain ⟨env, operation, row, wallet⟩ := call
  cases operation with
  | orderWalletSettlement orderId performedByUserId prefetch extra =>
      apply outcome_atomically_congr
      exact outcome_settlement_of_same hfinds
  | partialDebtPayment params =>
      apply outcome_bind_left
      apply outcome_atomically_congr
      exact outcome_partialPayment_of_same hfinds
  | subscriptionActivation params =>
      apply outcome_bind_left
      apply outcome_atomically_congr
      apply outcome_bind_left
      exact outcome_prepare_of_same hfinds
  | subscriptionCancellation params =>
      apply outcome_bind_left
      apply outcome_atomically_congr
      exact outcome_cancel_of_same hfinds.1 hfinds.2
  | invoiceVoid args =>
      rw [WalletCall.run, outcome_bind, hread, WalletOperation.alone]
      apply outcome_bind_left
      rw [voidInvoice, outcome_bind, hread]
      exact outcome_void_of_same hfinds.1 hfinds.2
  | invoiceEdit args =>
      apply outcome_bind_left
      rw [editInvoice, outcome_bind, hread]
      exact outcome_edit_of_same hfinds.1 hfinds.2

def WalletCall.aloneOn (call : WalletCall) (db : Db) : Db :=
  ((call.operation.alone call.env).outcome db).2

/-- If every operation of a run finds under its lock what it read, the states of the run
are those of the operations applied one after the other in lock order. -/
theorem walletRun_serial {calls : List WalletCall} {start : Db} {trace : List Db}
    (hlog : walletCalls.Log (fun call db => call.FindsWhatItRead db) start calls trace) :
    trace = calls.tails.map fun done => done.foldr WalletCall.aloneOn start := by
  apply hlog.eq_serial
  intro call db hfinds
  change (call.run.outcome db).2 = _
  rw [call.outcome_of_finds hfinds]
  rfl

namespace Sample

def counterCall (amount : ℤ) (wallet : Db) : WalletCall where
  env := Env.default
  operation := .partialDebtPayment (counterPayment amount 0)
  row := wallet
  wallet := wallet

/-- One dinar of a debt of five is paid. -/
def afterFirst : Db :=
  walletCalls.step (counterCall 10000 indebtedShop) indebtedShop

end Sample

theorem walletRun_serial_sample :
    [walletCalls.step (Sample.counterCall 20000 Sample.afterFirst) Sample.afterFirst,
        Sample.afterFirst, Sample.indebtedShop] =
      [Sample.counterCall 20000 Sample.afterFirst,
          Sample.counterCall 10000 Sample.indebtedShop].tails.map
        fun done => done.foldr WalletCall.aloneOn Sample.indebtedShop := by
  apply walletRun_serial
  apply Calls.Log.call (Sample.counterCall 20000 Sample.afterFirst)
  · apply Calls.Log.call (Sample.counterCall 10000 Sample.indebtedShop) .start
    · intro read hread
      rcases List.mem_cons.1 hread with rfl | hread
      · exact List.mem_singleton_self _
      · exact hread
    · exact rfl
  · intro read hread
    have hsame : read = Sample.afterFirst := by
      rcases List.mem_cons.1 hread with rfl | hread
      · rfl
      · exact List.mem_singleton.1 hread
    rw [hsame]
    exact List.mem_cons_self ..
  · exact rfl

theorem walletRun_serial_fails :
    ¬ ∀ (calls : List WalletCall) (start : Db) (trace : List Db),
      walletCalls.Log (fun call _ => call.env.StoreHealthy) start calls trace →
      trace.map Db.wallets =
        calls.tails.map fun done => (done.foldr WalletCall.aloneOn start).wallets := by
  intro hall
  have hlog : walletCalls.Log (fun call _ => call.env.StoreHealthy) Sample.indebtedShop
      [Sample.counterCall 20000 Sample.indebtedShop, Sample.counterCall 10000 Sample.indebtedShop]
      [walletCalls.step (Sample.counterCall 20000 Sample.indebtedShop) Sample.afterFirst,
        Sample.afterFirst, Sample.indebtedShop] := by
    apply Calls.Log.call (Sample.counterCall 20000 Sample.indebtedShop)
    · apply Calls.Log.call (Sample.counterCall 10000 Sample.indebtedShop) .start
      · intro read hread
        rcases List.mem_cons.1 hread with rfl | hread
        · exact List.mem_singleton_self _
        · exact hread
      · exact fun _ => rfl
    · intro read hread
      have hsame : read = Sample.indebtedShop := by
        rcases List.mem_cons.1 hread with rfl | hread
        · rfl
        · exact List.mem_singleton.1 hread
      rw [hsame]
      exact List.mem_cons_of_mem _ (List.mem_singleton_self _)
    · exact fun _ => rfl
  have hwallets := congrArg (fun wallets => (wallets.head?.map fun wallet =>
    (wallet "customer").debt)) (hall _ _ _ hlog)
  revert hwallets
  decide +kernel

end SafariLaundry
