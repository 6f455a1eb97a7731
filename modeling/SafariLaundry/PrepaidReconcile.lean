import SafariLaundry.OrderCompletion

/-!
# Prepaid auto-reconciliation

Positive wallet credit settles the customer's open orders, oldest first and only
in full.  One pass settles one order; the loop stops at the first order the
credit does not cover and after fifty passes in any case.
-/

namespace SafariLaundry

open Library Library.Bookkeeping Library.Transaction

def nextPrepaidInvoice (env : Env) (customerId : Uuid) (db : Db) : Option Order :=
  ((db.orders.rows.filter fun order =>
      order.customerId = customerId ∧ order.cashStatus = .UNPAID ∧
        order.status ≠ .CANCELED ∧ order.walletSettledAt = none ∧
        order.posPaymentBundleId = none ∧
        env.orderLockedElsewhere order.id = false).insertionSort
    fun first second => first.createdAt ≤ second.createdAt).head?

def closedFromPrepaid (order : Order) : Order :=
  { order with
    status := .COMPLETED
    completedAt := some (order.completedAt.getD order.createdAt)
    posPaymentMethod := .SUBSCRIPTION_WALLET
    cashStatus := cashStatusForPaymentMethod .SUBSCRIPTION_WALLET }

theorem closedFromPrepaid_id (order : Order) : (closedFromPrepaid order).id = order.id := rfl

def prepaidRoute : SaleRoute :=
  ⟨"POS checkout (prepaid auto-reconcile)", "AUTO-PREPAID"⟩

def prepaidCompletion (order : Order) (performerId : Uuid) : SaleCompletion where
  order := order
  method := .SUBSCRIPTION_WALLET
  performerId := performerId
  extra := .none
  sale := if order.status ≠ .COMPLETED then some prepaidRoute else none

def reconcilePass (env : Env) (customerId performerId : Uuid) : Tx (Option Uuid) := do
  let wallet ← reads fun db => db.wallets customerId
  let next ← reads (nextPrepaidInvoice env customerId)
  match next with
  | none => pure none
  | some order =>
      if wallet.balance ≤ 0 ∨ order.totalPrice ≤ 0 ∨ wallet.balance < order.totalPrice then
        pure none
      else do
        updateOrder order.id closedFromPrepaid closedFromPrepaid_id
        settleCompleted env (prepaidCompletion order performerId)
        pure (some order.id)

def reconcilePasses (env : Env) (customerId performerId : Uuid) : ℕ → Tx (List Uuid)
  | 0 => pure []
  | passes + 1 => do
      let paid ← reconcilePass env customerId performerId
      match paid with
      | none => pure []
      | some orderId => do
          let rest ← reconcilePasses env customerId performerId passes
          pure (orderId :: rest)

def prepaidReconcilePasses : ℕ := 50

def autoReconcileUnpaidInvoicesFromPrepaidBalanceTx (env : Env) (customerId : Uuid)
    (performedByUserId : Option Uuid) : Tx (List Uuid) := do
  let owner ← reads fallbackOwner
  match performedByUserId.orElse fun _ => owner with
  | none => pure []
  | some performerId => reconcilePasses env customerId performerId prepaidReconcilePasses

structure PrepaidPass (env : Env) (customerId performerId : Uuid) (order : Order)
    (db db' : Db) : Prop where
  picked : nextPrepaidInvoice env customerId db = some order
  positive : 0 < order.totalPrice
  affordable : order.totalPrice ≤ (db.wallets customerId).balance
  completes : Completes env (prepaidCompletion order performerId)
    { db with orders := db.orders.update order.id closedFromPrepaid closedFromPrepaid_id } db'

variable {env : Env} {customerId : Uuid} {db : Db}

theorem mem_of_nextPrepaidInvoice {order : Order}
    (hnext : nextPrepaidInvoice env customerId db = some order) :
    order ∈ db.orders.rows ∧ order.customerId = customerId ∧ order.cashStatus = .UNPAID ∧
      order.status ≠ .CANCELED ∧ order.walletSettledAt = none ∧
      order.posPaymentBundleId = none := by
  unfold nextPrepaidInvoice at hnext
  have hmem := List.mem_of_head? hnext
  rw [List.mem_insertionSort, List.mem_filter] at hmem
  simp only [decide_eq_true_eq] at hmem
  obtain ⟨hrow, hcustomer, hunpaid, hopen, hunsettled, hsingle, _⟩ := hmem
  exact ⟨hrow, hcustomer, hunpaid, hopen, hunsettled, hsingle⟩

variable {performerId : Uuid} {db' : Db}

theorem commits_reconcilePass {paid : Option Uuid} (henv : env.StoreHealthy)
    (hcommits : (reconcilePass env customerId performerId).Commits db paid db') :
    (paid = none ∧ db' = db) ∨
      ∃ order, paid = some order.id ∧ PrepaidPass env customerId performerId order db db' := by
  unfold reconcilePass at hcommits
  simp only [commits_bind, commits_reads] at hcommits
  obtain ⟨wallet, _, ⟨rfl, rfl⟩, next, _, ⟨hnext, rfl⟩, hrest⟩ := hcommits
  cases next with
  | none =>
      rw [commits_pure] at hrest
      exact .inl ⟨hrest.1.symm, hrest.2.symm⟩
  | some order =>
      simp only at hrest
      by_cases hstops : (db.wallets customerId).balance ≤ 0 ∨ order.totalPrice ≤ 0 ∨
          (db.wallets customerId).balance < order.totalPrice
      · rw [if_pos hstops, commits_pure] at hrest
        exact .inl ⟨hrest.1.symm, hrest.2.symm⟩
      · rw [if_neg hstops] at hrest
        simp only [commits_bind, updateOrder, commits_fetch, commits_modify, commits_pure] at hrest
        obtain ⟨_, _, ⟨row, _, ⟨hrow, rfl⟩, rfl⟩, _, _, hsettle, rfl, rfl⟩ := hrest
        have hmem := mem_of_nextPrepaidInvoice hnext
        have hfound := Table.find?_of_mem hmem.1
        have hunsettled : ((db.orders.update order.id closedFromPrepaid
            closedFromPrepaid_id).find? order.id).bind Order.walletSettledAt = none := by
          rw [Table.find?_update_self, hfound]
          exact hmem.2.2.2.2.1
        exact .inr ⟨order, rfl, hnext, by omega, by omega,
          commits_settleCompleted henv hunsettled hsettle⟩

/-! ## Wallet and journal move together -/

/-- From `db` to `db'` the prepaid liability moved with the balance, the
receivable with the debt, and no money came in. -/
structure KeepsFigures (customerId : Uuid) (db db' : Db) : Prop where
  liability : walletLiability customerId db'.journal - walletLiability customerId db.journal =
    (db'.wallets customerId).balance - (db.wallets customerId).balance
  receivable : receivable customerId db'.journal - receivable customerId db.journal =
    (db'.wallets customerId).debt - (db.wallets customerId).debt
  assets : assetDebits db'.journal = assetDebits db.journal

theorem KeepsFigures.refl (customerId : Uuid) (db : Db) : KeepsFigures customerId db db :=
  ⟨by omega, by omega, rfl⟩

theorem KeepsFigures.trans {db'' : Db} (hfirst : KeepsFigures customerId db db')
    (hsecond : KeepsFigures customerId db' db'') :
    KeepsFigures customerId db db'' := by
  have h₁ := hfirst.liability
  have h₂ := hsecond.liability
  have h₃ := hfirst.receivable
  have h₄ := hsecond.receivable
  exact ⟨by omega, by omega, hsecond.assets.trans hfirst.assets⟩

theorem Completes.wallets_journal {completion : SaleCompletion}
    (hcompletes : Completes env completion db db') :
    db'.wallets = Function.update db.wallets completion.order.customerId
        ⟨(completion.call env db.wallets).newBalance, (completion.call env db.wallets).newDebt⟩ ∧
      db'.journal =
        db.journal ++ (completion.call env db.wallets).newEntries db.journal := by
  obtain ⟨mid, hsettled, hsale⟩ := hcompletes
  have hsame : db'.wallets = mid.wallets ∧ db'.journal = mid.journal := by
    cases hroute : completion.sale with
    | none =>
        rw [hroute] at hsale
        subst hsale
        exact ⟨rfl, rfl⟩
    | some route =>
        rw [hroute] at hsale
        obtain ⟨_, _, rfl⟩ := hsale
        exact ⟨rfl, rfl⟩
  rw [hsame.1, hsame.2, hsettled.journal_append, hsettled.wallets]
  exact ⟨rfl, rfl⟩

structure SettlementCall.PaidInFull (call : SettlementCall) : Prop where
  safeTake : call.safeTake = call.order.totalPrice
  shortfall : call.shortfall = 0
  newBalance : call.newBalance = call.wallet.balance - call.order.totalPrice
  newDebt : call.newDebt = call.wallet.debt

theorem SettlementCall.paidInFull {call : SettlementCall}
    (hmethod : call.order.posPaymentMethod = some .SUBSCRIPTION_WALLET)
    (hextra : call.extra = .none) (hpositive : 0 < call.order.totalPrice)
    (haffordable : call.order.totalPrice ≤ call.wallet.balance) : call.PaidInFull := by
  have htake : call.safeTake = call.order.totalPrice := by
    unfold SettlementCall.safeTake
    rw [if_pos ⟨.inl hmethod, by omega⟩]
    omega
  have hshort : call.shortfall = 0 := by
    unfold SettlementCall.shortfall
    omega
  have hdebt : call.newDebt = call.wallet.debt := by
    unfold SettlementCall.newDebt
    rw [hextra]
    simp only [SettlementMetadata.none]
    unfold SettlementCall.debtWithInvoice
    rw [hshort]
    simp
  refine ⟨htake, hshort, ?_, hdebt⟩
  unfold SettlementCall.newBalance
  omega

theorem SettlementCall.prepaid_figures {call : SettlementCall} {journal : List JournalEntry}
    (hmethod : call.order.posPaymentMethod = some .SUBSCRIPTION_WALLET)
    (hextra : call.extra = .none) (hpositive : 0 < call.order.totalPrice)
    (haffordable : call.order.totalPrice ≤ call.wallet.balance)
    (hfresh : ∀ ref ∈ call.stageRefs, ¬ Recorded journal ref) :
    call.newBalance = call.wallet.balance - call.order.totalPrice ∧
      call.newDebt = call.wallet.debt ∧
      receivable call.order.customerId (call.newEntries journal) = 0 ∧
      customerNet .WALLET_LIABILITY call.order.customerId (call.newEntries journal) =
        call.order.totalPrice ∧
      assetDebits (call.newEntries journal) = 0 := by
  obtain ⟨htake, hshort, hbalance, hdebt⟩ :=
    SettlementCall.paidInFull hmethod hextra hpositive haffordable
  have hexternal : ¬ call.ExternalCoversShortfall := by
    unfold ExternalCoversShortfall
    simp [hmethod]
  have hadded : call.addedInvoiceDebt = 0 := by
    unfold addedInvoiceDebt
    rw [hshort]
    simp
  have habsorbs : call.AbsorbsAnew journal := by
    exact ⟨by omega, hfresh _ (by simp [stageRefs])⟩
  have hreceived : call.receivedAmount journal = 0 := by
    unfold receivedAmount
    rw [if_neg hexternal]
  have hshortfallMirror : ¬ call.MirrorsShortfallAnew journal := by
    rintro ⟨_, hpos, _⟩
    omega
  refine ⟨hbalance, hdebt, ?_, ?_, ?_⟩
  · rw [receivable_newEntries, hreceived]
    unfold recognisedAmount absorbedAmount
    rw [if_neg hshortfallMirror, htake]
    by_cases htrue : call.trueAccounting = true
    · have hissues : call.IssuesAnew journal := by
        refine ⟨⟨htrue, hpositive, ?_⟩, hfresh _ (by simp [stageRefs])⟩
        rintro ⟨hmethod' | hmethod', _⟩ <;> rw [hmethod] at hmethod' <;> cases hmethod'
      rw [if_pos hissues, if_pos ⟨htrue, habsorbs⟩]
      omega
    · rw [if_neg fun hissues => htrue hissues.1.1, if_neg fun hboth => htrue hboth.1]
      omega
  · rw [liability_newEntries, if_pos habsorbs, htake]
  · rw [assetDebits_newEntries, hreceived]

theorem PrepaidPass.keeps {order : Order}
    (hpass : PrepaidPass env customerId performerId order db db')
    (hconsistent : SettlementConsistent db) :
    KeepsFigures customerId db db' ∧ SettlementConsistent db' := by
  obtain ⟨hmem, rfl, _, hopen, hunsettled, _⟩ := mem_of_nextPrepaidInvoice hpass.picked
  have hfresh : ∀ ref ∈ ((prepaidCompletion order performerId).call env
      db.wallets).stageRefs, ¬ Recorded db.journal ref :=
    fun ref href => hconsistent order hmem not_false hunsettled hopen ref ⟨_, rfl, href⟩
  have hwallets := hpass.completes.wallets_journal.1
  have hjournal : db'.journal = db.journal ++
      ((prepaidCompletion order performerId).call env db.wallets).newEntries db.journal :=
    hpass.completes.wallets_journal.2
  have hfigures := @SettlementCall.prepaid_figures
    ((prepaidCompletion order performerId).call env db.wallets) db.journal rfl rfl
    hpass.positive hpass.affordable hfresh
  obtain ⟨hbalance, hdebt, hreceivable, hliability, hassets⟩ := hfigures
  have hwallet : db'.wallets order.customerId =
      ⟨((prepaidCompletion order performerId).call env db.wallets).newBalance,
        ((prepaidCompletion order performerId).call env db.wallets).newDebt⟩ := by
    rw [hwallets]
    exact Function.update_self _ _ _
  have hcall : ((prepaidCompletion order performerId).call env db.wallets).order.customerId =
      order.customerId := rfl
  rw [hcall] at hreceivable hliability
  refine ⟨⟨?_, ?_, ?_⟩, ?_⟩
  · unfold walletLiability
    rw [hwallet, hjournal, customerNet_append]
    simp only
    rw [hliability, hbalance]
    change _ = (db.wallets order.customerId).balance - order.totalPrice - _
    change -(_ + order.totalPrice) - _ = _
    omega
  · rw [hwallet, hjournal]
    unfold SafariLaundry.receivable at hreceivable ⊢
    rw [customerNet_append, hreceivable, hdebt]
    change _ = (db.wallets order.customerId).debt - _
    omega
  · rw [hjournal, assetDebits_append, hassets, add_zero]
  · exact hpass.completes.consistent (hconsistent.except _).updateOrder

theorem commits_reconcilePasses {passes : ℕ} {paid : List Uuid} (henv : env.StoreHealthy)
    (hconsistent : SettlementConsistent db)
    (hcommits : (reconcilePasses env customerId performerId passes).Commits db paid db') :
    KeepsFigures customerId db db' ∧ SettlementConsistent db' := by
  induction passes generalizing db paid with
  | zero =>
      rw [reconcilePasses, commits_pure] at hcommits
      rw [← hcommits.2]
      exact ⟨KeepsFigures.refl customerId db, hconsistent⟩
  | succ passes ih =>
      rw [reconcilePasses, commits_bind] at hcommits
      obtain ⟨result, mid, hpass, hrest⟩ := hcommits
      rcases commits_reconcilePass henv hpass with ⟨rfl, rfl⟩ | ⟨order, rfl, hdone⟩
      · rw [commits_pure] at hrest
        rw [← hrest.2]
        exact ⟨KeepsFigures.refl customerId _, hconsistent⟩
      · simp only [commits_bind, commits_pure] at hrest
        obtain ⟨rest, _, hrest, rfl, rfl⟩ := hrest
        obtain ⟨hkeeps, hmid⟩ := hdone.keeps hconsistent
        obtain ⟨hkeeps', hfinal⟩ := ih hmid hrest
        exact ⟨hkeeps.trans hkeeps', hfinal⟩

theorem commits_autoReconcile {performedByUserId : Option Uuid} {paid : List Uuid}
    (henv : env.StoreHealthy) (hconsistent : SettlementConsistent db)
    (hcommits : (autoReconcileUnpaidInvoicesFromPrepaidBalanceTx env customerId
      performedByUserId).Commits db paid db') :
    KeepsFigures customerId db db' ∧ SettlementConsistent db' := by
  unfold autoReconcileUnpaidInvoicesFromPrepaidBalanceTx at hcommits
  simp only [commits_bind, commits_reads] at hcommits
  obtain ⟨owner, _, ⟨rfl, rfl⟩, hrest⟩ := hcommits
  cases hperformer : performedByUserId.orElse fun _ => fallbackOwner db with
  | none =>
      rw [hperformer, commits_pure] at hrest
      rw [← hrest.2]
      exact ⟨KeepsFigures.refl customerId db, hconsistent⟩
  | some performerId =>
      rw [hperformer] at hrest
      exact commits_reconcilePasses henv hconsistent hrest

end SafariLaundry
