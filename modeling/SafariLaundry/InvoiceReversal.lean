import SafariLaundry.OrderUpdate
import SafariLaundry.SettlementLockstep

/-!
# What a cancellation takes back

An order can be canceled by an update of its status and by a supervisor's void.  The
update leaves the journal as it is.  The void credits the receivable twice over for an
invoice on account: once in the reversal of its debt, and once more for all that was
open before the reversal.  The wallet gets back the total of the order, in whichever
column the method names, however the settlement had split it.
-/

namespace SafariLaundry

open Library Library.Bookkeeping Library.Transaction

/-! ## The receivable after a void -/

def reversalPosting (order : Order) (actorId : Uuid) : PairPosting :=
  mirrorPaymentEntry (reversalMirror order actorId) .ADJUSTMENTS

theorem mirrorEntries_reversal (order : Order) (actorId : Uuid) :
    mirrorEntries (reversalMirror order actorId) = (reversalPosting order actorId).entries := by
  have hasset : paymentAssetAccount (reversalMirror order actorId) = some .ADJUSTMENTS := by
    simp [paymentAssetAccount, reversalMirror, invoiceAuditVoidRef, SourceRef.Includes,
      SourceRef.StartsWith]
  have hwallet : ¬ (reversalMirror order actorId).sourceRef.StartsWith ["PAYMENT", "WALLET"] := by
    simp [reversalMirror, invoiceAuditVoidRef, SourceRef.StartsWith]
  have hsource : (reversalMirror order actorId).source = .PAYMENT := rfl
  unfold mirrorEntries
  simp only [hsource, if_neg hwallet, hasset]
  rfl

def ReversesDebt (order : Order) (journal : List JournalEntry) : Prop :=
  order.walletSettledAt ≠ none ∧ order.posPaymentMethod = .DEBT_ON_ACCOUNT ∧
    0 < order.totalPrice ∧ ¬ Recorded journal (invoiceAuditVoidRef order.id)
  deriving Decidable

def reversedReceivable (order : Order) (journal : List JournalEntry) : ℤ :=
  if ReversesDebt order journal then order.totalPrice else 0

theorem orderReceivable_reversal (order : Order) (actorId : Uuid) (journal : List JournalEntry) :
    orderReceivable order.id
        (postAll JournalEntry.sourceRef journal (reversalEntries order actorId)) =
      orderReceivable order.id journal - reversedReceivable order journal := by
  unfold reversalEntries reversedReceivable
  by_cases hunsettled : order.walletSettledAt = none
  · rw [if_pos hunsettled, if_neg fun hreverses => hreverses.1 hunsettled, sub_zero]
    rfl
  · rw [if_neg hunsettled]
    cases hmethod : order.posPaymentMethod with
    | DEBT_ON_ACCOUNT =>
        simp only
        rw [mirrorEntries_reversal, orderReceivable_postAll rfl]
        have hamount : (reversalPosting order actorId).amount = order.totalPrice := rfl
        have href : (reversalPosting order actorId).sourceRef = invoiceAuditVoidRef order.id := rfl
        rw [hamount, href]
        by_cases hreverses : ReversesDebt order journal
        · rw [if_pos hreverses, if_pos hreverses.2.2]
          simp [reversalPosting, mirrorPaymentEntry]
          ring
        · rw [if_neg hreverses, if_neg fun hboth => hreverses ⟨hunsettled, hmethod, hboth⟩]
          ring
    | SUBSCRIPTION_WALLET =>
        have hnot : ¬ ReversesDebt order journal := by
          rintro ⟨_, hdebt, _⟩
          rw [hmethod] at hdebt
          cases hdebt
        simp only
        rw [if_neg hnot, sub_zero, postAll_cons, postAll_nil]
        unfold orderReceivable
        rw [tally_post]
        have hzero := @orderReceivable_pair (walletAbsorptionVoidEntry order actorId)
          order.id rfl
        unfold orderReceivable at hzero
        rw [tally_cons, tally_nil, add_zero] at hzero
        rw [hzero]
        simp [walletAbsorptionVoidEntry]
    | CASH | KNET | ONLINE | PAYMENT_LINK =>
        have hnot : ¬ ReversesDebt order journal := by
          rintro ⟨_, hdebt, _⟩
          rw [hmethod] at hdebt
          cases hdebt
        simp only
        rw [if_neg hnot, sub_zero]
        rfl

theorem recorded_reversal {order : Order} {actorId : Uuid} {journal : List JournalEntry}
    {ref : SourceRef} (hvoid : ref ≠ invoiceAuditVoidRef order.id)
    (habsorption : ref ≠ walletAbsorptionVoidRef order.id) :
    Recorded (postAll JournalEntry.sourceRef journal (reversalEntries order actorId)) ref ↔
      Recorded journal ref := by
  unfold reversalEntries
  by_cases hunsettled : order.walletSettledAt = none
  · rw [if_pos hunsettled, postAll_nil]
  · rw [if_neg hunsettled]
    cases order.posPaymentMethod with
    | DEBT_ON_ACCOUNT =>
        simp only
        rw [mirrorEntries_reversal, recorded_postAll_pair]
        constructor
        · rintro (hbefore | ⟨_, hsame⟩)
          · exact hbefore
          · exact absurd hsame.symm hvoid
        · exact .inl
    | SUBSCRIPTION_WALLET =>
        simp only
        apply (posted_postAll JournalEntry.sourceRef journal _ ref).trans
        rw [posted_singleton]
        constructor
        · rintro (hbefore | hsame)
          · exact hbefore
          · exact absurd hsame.symm habsorption
        · exact .inl
    | CASH | KNET | ONLINE | PAYMENT_LINK => exact Iff.rfl

def invoiceCanceledRef (orderId : Uuid) : SourceRef :=
  [.word "JOURNAL", .word "INVOICE_CANCELED", .id orderId]

theorem InvoiceVoided.orderReceivable {args : InvoiceVoidArgs} {order : Order}
    {wallet : CustomerWallet} {orderAr : ℤ} {db db' : Db}
    (hvoided : InvoiceVoided args order wallet orderAr db db') :
    orderReceivable order.id db'.journal =
      orderReceivable order.id db.journal - reversedReceivable order db.journal -
        if 0 < orderAr ∧ ¬ Recorded db.journal (invoiceCanceledRef order.id) then orderAr
        else 0 := by
  obtain ⟨_, _, rfl⟩ := hvoided
  change SafariLaundry.orderReceivable order.id (postAll JournalEntry.sourceRef db.journal
    (reversalEntries order args.actorId ++ (args.cancellation order orderAr).entries)) = _
  have href : (args.cancellation order orderAr).sourceRef = invoiceCanceledRef order.id := rfl
  have hamount : (args.cancellation order orderAr).amount = orderAr := rfl
  have hfree := @recorded_reversal order args.actorId db.journal (invoiceCanceledRef order.id)
    (by simp [invoiceCanceledRef, invoiceAuditVoidRef])
    (by simp [invoiceCanceledRef, walletAbsorptionVoidRef])
  rw [postAll_append, orderReceivable_postAll rfl, orderReceivable_reversal, href, hamount]
  by_cases hcloses : 0 < orderAr ∧ ¬ Recorded db.journal (invoiceCanceledRef order.id)
  · rw [if_pos hcloses, if_pos ⟨hcloses.1, fun htaken => hcloses.2 (hfree.1 htaken)⟩]
    simp [InvoiceVoidArgs.cancellation, invoiceCancellationEntry]
    ring
  · rw [if_neg hcloses, if_neg fun hboth => hcloses ⟨hboth.1, fun htaken =>
      hboth.2 (hfree.2 htaken)⟩]
    ring

/-! ## The two ways to cancel -/

inductive CancelCall
  | update (args : UpdateOrderArgs) (hcancels : args.dto.status = some .CANCELED)
  | void (args : InvoiceVoidArgs)

namespace CancelCall

def orderId : CancelCall → Uuid
  | .update args _ => args.orderId
  | .void args => args.orderId

def run (env : Env) : CancelCall → Tx Unit
  | .update args _ => do
      let _ ← OrdersService.updateOrder env args
  | .void args => do
      let _ ← voidInvoice env args

end CancelCall

/-- A void leaves nothing of the order's receivable: it closes whatever is open and not
negative, so its reversal must not take something off as well; once the closing entry
stands in the journal, only the reversal is left to close it. -/
def VoidClears (order : Order) (journal : List JournalEntry) : Prop :=
  (¬ Recorded journal (invoiceCanceledRef order.id) ∧
      0 ≤ orderReceivable order.id journal ∧ ¬ ReversesDebt order journal) ∨
    (Recorded journal (invoiceCanceledRef order.id) ∧
      orderReceivable order.id journal = reversedReceivable order journal)
  deriving Decidable

/-- The cancellation leaves nothing of the order's receivable; an update writes nothing,
so nothing may be open. -/
def CancelCall.Clears (order : Order) (journal : List JournalEntry) : CancelCall → Prop
  | .update _ _ => orderReceivable order.id journal = 0
  | .void _ => VoidClears order journal

theorem OrderUpdated.journal_of_canceled {env : Env} {args : UpdateOrderArgs}
    {order : Order} {db db' : Db} (hdone : OrderUpdated env args order db db')
    (hcancels : args.dto.status = some .CANCELED) :
    db'.journal = db.journal := by
  obtain ⟨mid, hsettlement, failures, rfl⟩ := hdone.effects
  cases hsettlement with
  | none _ hsame =>
      subst hsame
      rfl
  | some _ hcompleted _ _ =>
      unfold UpdateOrderArgs.WillBeCompleted at hcompleted
      rw [hcancels] at hcompleted
      cases hcompleted

theorem reversedReceivable_nonneg (order : Order) (journal : List JournalEntry) :
    0 ≤ reversedReceivable order journal := by
  unfold reversedReceivable
  by_cases hreverses : ReversesDebt order journal
  · rw [if_pos hreverses]
    exact hreverses.2.2.1.le
  · rw [if_neg hreverses]

/-- After a cancellation the order's receivable is nought exactly if the cancellation
was one that clears it. -/
theorem cancel_clears_receivable_iff {env : Env} {call : CancelCall} {order : Order}
    {db db' : Db} (henv : env.StoreHealthy)
    (hrow : db.orders.find? call.orderId = some order)
    (hcommits : (call.run env).Commits db () db') :
    orderReceivable call.orderId db'.journal = 0 ↔ call.Clears order db.journal := by
  have hkey : order.id = call.orderId := Table.key_of_find? hrow
  rw [← hkey]
  cases call with
  | update args hcancels =>
      simp only [CancelCall.run, commits_bind, commits_pure] at hcommits
      obtain ⟨result, _, hupdate, _, rfl⟩ := hcommits
      obtain ⟨found, _, hdone⟩ := commits_updateOrder henv hupdate
      rw [hdone.journal_of_canceled hcancels]
      exact Iff.rfl
  | void args =>
      simp only [CancelCall.run, commits_bind, commits_pure] at hcommits
      obtain ⟨result, _, hvoid, _, rfl⟩ := hcommits
      obtain ⟨found, hfound, _, hvoided⟩ := commits_voidInvoice henv hvoid
      obtain rfl := Option.some.inj (hrow.symm.trans hfound)
      have hnonneg := reversedReceivable_nonneg order db.journal
      rw [hvoided.orderReceivable]
      change _ ↔ VoidClears order db.journal
      unfold VoidClears getOrderArBalance
      by_cases hclosed : Recorded db.journal (invoiceCanceledRef order.id)
      · rw [if_neg fun hcloses => hcloses.2 hclosed]
        simp only [hclosed, not_true_eq_false, false_and, true_and, false_or]
        omega
      · have hreverses : reversedReceivable order db.journal = 0 ↔
            ¬ ReversesDebt order db.journal := by
          unfold reversedReceivable
          by_cases hreverses : ReversesDebt order db.journal
          · rw [if_pos hreverses]
            have hpositive := hreverses.2.2.1
            constructor
            · intro hzero
              omega
            · intro hnot
              exact absurd hreverses hnot
          · rw [if_neg hreverses]
            simp [hreverses]
        simp only [hclosed, not_false_eq_true, true_and, false_and, or_false, and_true]
        rw [← hreverses]
        by_cases hopen : 0 < orderReceivable order.id db.journal
        · rw [if_pos (lt_max_of_lt_right hopen)]
          omega
        · rw [if_neg (by omega)]
          omega

namespace Sample

def delivered (method : PosPaymentMethod) (wallet : CustomerWallet) : Db :=
  ((OrdersService.updateOrder Env.default delivery).outcome (deliveryShop method wallet)).2

def ownersVoid : InvoiceVoidArgs where
  orderId := "order"
  actorId := "owner"
  actorRole := .OWNER
  reason := "returned"

theorem halfPaid_isSome :
    ((delivered .SUBSCRIPTION_WALLET ⟨10000, 0⟩).orders.find? "order").isSome = true := by
  decide +kernel

end Sample

theorem cancel_clears_receivable_iff_sample :
    orderReceivable "order" (((CancelCall.void Sample.ownersVoid).run Env.default).outcome
      (Sample.delivered .SUBSCRIPTION_WALLET ⟨10000, 0⟩)).2.journal = 0 := by
  have hclears : VoidClears (Option.get _ Sample.halfPaid_isSome)
      (Sample.delivered .SUBSCRIPTION_WALLET ⟨10000, 0⟩).journal := by
    decide +kernel
  have hrow := (Option.some_get Sample.halfPaid_isSome).symm
  exact (@cancel_clears_receivable_iff Env.default (.void Sample.ownersVoid) _ _ _
    (fun _ => rfl) hrow (commits_of_isOk (by decide +kernel))).2 hclears

theorem cancel_clears_receivable_fails :
    ¬ ∀ (env : Env) (call : CancelCall) (db db' : Db), env.StoreHealthy →
      (call.run env).Commits db () db' →
      orderReceivable call.orderId db'.journal = 0 := by
  intro hall
  have hclaim := hall Env.default (.void Sample.ownersVoid)
    (Sample.delivered .DEBT_ON_ACCOUNT ⟨0, 0⟩) _ (fun _ => rfl)
    (commits_of_isOk (by decide +kernel))
  revert hclaim
  decide +kernel

/-! ## Void as the inverse of settlement -/

namespace SettlementCall

variable {call : SettlementCall}

theorem newDebt_of_declared (htotal : 0 ≤ call.order.totalPrice) (hdeclared : ¬ call.declared ≤ 0) :
    call.newDebt = if 0 < call.debtWithInvoice then
        call.debtWithInvoice - min call.declared call.debtWithInvoice
      else if call.trueAccounting = true then 0 else call.debtWithInvoice := by
  have hshort := shortfall_nonneg htotal
  by_cases htrue : call.trueAccounting = true
  · rw [newDebt_of_true hdeclared htrue, debtPaydown_of_true hdeclared htrue]
    by_cases hdebt : 0 < call.debtWithInvoice
    · simp only [if_pos hdebt]
      split <;> omega
    · simp only [if_neg hdebt, if_pos htrue]
      rw [if_neg (by omega)]
  · have hlegacy : call.trueAccounting = false := Bool.eq_false_iff.2 htrue
    rw [newDebt_of_legacy hdeclared hlegacy, debtPaydown_of_legacy hdeclared hlegacy]
    by_cases hdebt : 0 < call.debtWithInvoice
    · simp only [if_pos hdebt]
    · simp only [if_neg hdebt, if_neg htrue, sub_zero]

end SettlementCall

/-- The settlement left the void nothing but the whole total to give back: on account,
no credit went into it; from the wallet, nothing but credit did; and nothing declared
was paid off the debt. -/
def VoidRestores (env : Env) (order : Order) (extra : SettlementMetadata)
    (wallet : CustomerWallet) : Prop :=
  (order.posPaymentMethod = .DEBT_ON_ACCOUNT ∧
      (wallet.balance ≤ 0 ∨ order.totalPrice = 0) ∧ 0 ≤ wallet.debt ∧
      (extra.debtSettled.getD 0 ≤ 0 ∨ wallet.debt = 0)) ∨
    (order.posPaymentMethod = .SUBSCRIPTION_WALLET ∧
      (order.totalPrice ≤ wallet.balance ∨ order.totalPrice = 0) ∧
      (extra.debtSettled.getD 0 ≤ 0 ∨ wallet.debt = 0 ∨
        (isV20_3TrueAccountingEnabled env = false ∧ wallet.debt < 0)))

section Restores

variable {env : Env} {order : Order} {actorId : Uuid} {extra : SettlementMetadata}
  {wallet : CustomerWallet}

theorem settlementCall_wallet
    (hmethod : order.posPaymentMethod = .SUBSCRIPTION_WALLET ∨
      order.posPaymentMethod = .DEBT_ON_ACCOUNT) (htotal : 0 ≤ order.totalPrice) :
    ∃ taken owed : ℤ, ((0 < wallet.balance ∧ taken = min wallet.balance order.totalPrice) ∨
        (wallet.balance ≤ 0 ∧ taken = 0)) ∧
      owed = wallet.debt + (order.totalPrice - taken) ∧
      (settlementCall env order.id order.settlementPrefetch actorId extra
        wallet).newBalance = wallet.balance - taken ∧
      (settlementCall env order.id order.settlementPrefetch actorId extra wallet).newDebt =
        if extra.debtSettled.getD 0 ≤ 0 then owed
        else if 0 < owed then owed - min (extra.debtSettled.getD 0) owed
        else if isV20_3TrueAccountingEnabled env = true then 0 else owed := by
  let call := settlementCall env order.id order.settlementPrefetch actorId extra wallet
  have hexternal : ¬ call.ExternalCoversShortfall := by
    unfold SettlementCall.ExternalCoversShortfall
    rcases hmethod with hmethod | hmethod <;>
      simp [call, settlementCall, Order.settlementPrefetch, hmethod]
  have huse : call.ShouldUseWallet := by
    rcases hmethod with hmethod | hmethod
    · exact .inl (congrArg some hmethod)
    · exact .inr (congrArg some hmethod)
  refine ⟨call.safeTake, call.debtWithInvoice, ?_, ?_, rfl, ?_⟩
  · unfold SettlementCall.safeTake
    by_cases hcredit : 0 < wallet.balance
    · rw [if_pos ⟨huse, hcredit⟩]
      exact .inl ⟨hcredit, rfl⟩
    · rw [if_neg fun hboth => hcredit hboth.2]
      exact .inr ⟨not_lt.1 hcredit, rfl⟩
  · exact SettlementCall.debtWithInvoice_of_not_external htotal hexternal
  · change call.newDebt = if call.declared ≤ 0 then _ else if _ then _ - min call.declared _
      else if call.trueAccounting = true then _ else _
    by_cases hdeclared : call.declared ≤ 0
    · rw [if_pos hdeclared, SettlementCall.newDebt_of_undeclared hdeclared]
    · rw [if_neg hdeclared]
      exact SettlementCall.newDebt_of_declared htotal hdeclared

theorem reversedWallet_settled_iff {row : Order} {settled : CustomerWallet}
    (hmethod : order.posPaymentMethod = .SUBSCRIPTION_WALLET ∨
      order.posPaymentMethod = .DEBT_ON_ACCOUNT)
    (htotal : 0 ≤ order.totalPrice) (hrow : row.walletSettledAt ≠ none)
    (hrowMethod : row.posPaymentMethod = order.posPaymentMethod)
    (hrowTotal : row.totalPrice = order.totalPrice)
    (hbalance : settled.balance = (settlementCall env order.id order.settlementPrefetch
      actorId extra wallet).newBalance)
    (hdebt : settled.debt = (settlementCall env order.id order.settlementPrefetch actorId
      extra wallet).newDebt) :
    reversedWallet row settled settled = wallet ↔ VoidRestores env order extra wallet := by
  obtain ⟨taken, owed, htaken, howed, hnewBalance, hnewDebt⟩ :=
    @settlementCall_wallet env order actorId extra wallet hmethod htotal
  rw [hnewBalance] at hbalance
  rw [hnewDebt] at hdebt
  rcases wallet with ⟨balance, debt⟩
  unfold reversedWallet VoidRestores
  rw [if_neg hrow, hrowMethod, hrowTotal]
  simp only at *
  rcases hmethod with hwallet | haccount
  · simp only [hwallet, CustomerWallet.mk.injEq, reduceCtorEq, false_and, true_and, false_or]
    by_cases hdeclared : extra.debtSettled.getD 0 ≤ 0
    · rw [if_pos hdeclared] at hdebt
      simp only [hdeclared, true_or, and_true]
      omega
    · rw [if_neg hdeclared] at hdebt
      simp only [hdeclared, false_or]
      by_cases howes : 0 < owed
      · rw [if_pos howes] at hdebt
        omega
      · rw [if_neg howes] at hdebt
        by_cases htrue : isV20_3TrueAccountingEnabled env = true
        · rw [if_pos htrue] at hdebt
          simp only [htrue, Bool.true_eq_false, false_and, or_false]
          omega
        · rw [if_neg htrue] at hdebt
          simp only [Bool.eq_false_iff.2 htrue, true_and]
          omega
  · simp only [haccount, CustomerWallet.mk.injEq, reduceCtorEq, false_and, true_and, or_false]
    by_cases hdeclared : extra.debtSettled.getD 0 ≤ 0
    · rw [if_pos hdeclared] at hdebt
      simp only [hdeclared, true_or, and_true]
      omega
    · rw [if_neg hdeclared] at hdebt
      simp only [hdeclared, false_or]
      by_cases howes : 0 < owed
      · rw [if_pos howes] at hdebt
        omega
      · rw [if_neg howes] at hdebt
        by_cases htrue : isV20_3TrueAccountingEnabled env = true
        · rw [if_pos htrue] at hdebt
          omega
        · rw [if_neg htrue] at hdebt
          omega

end Restores

/-- Settling a wallet order and voiding it, with nothing in between, gives the wallet
back exactly if the void restores. -/
theorem settleThenVoid_restores_iff {env env' : Env} {orderId performedByUserId : Uuid}
    {prefetch : Option OrderWalletSettlementPrefetch} {extra : SettlementMetadata}
    {order : Order} {args : InvoiceVoidArgs} {result : InvoiceVoidResult} {db mid db' : Db}
    (henv : env.StoreHealthy) (henv' : env'.StoreHealthy) (hid : args.orderId = orderId)
    (hrow : db.orders.find? orderId = some order) (hunsettled : order.walletSettledAt = none)
    (hmethod : order.posPaymentMethod = .SUBSCRIPTION_WALLET ∨
      order.posPaymentMethod = .DEBT_ON_ACCOUNT)
    (hprefetch : settlementOrder orderId prefetch db = some order.settlementPrefetch)
    (hsettle : (applyOrderWalletSettlementForCompletedOrder env orderId performedByUserId
      prefetch extra).Commits db () mid)
    (hvoid : (voidInvoice env' args).Commits mid result db') :
    db'.wallets order.customerId = db.wallets order.customerId ↔
      VoidRestores env order extra (db.wallets order.customerId) := by
  have hkey : order.id = orderId := Table.key_of_find? hrow
  obtain ⟨o, ho, hresult⟩ := commits_applyOrderWalletSettlement henv hsettle
  obtain rfl := Option.some.inj (hprefetch.symm.trans ho)
  have hfresh : (db.orders.find? orderId).bind Order.walletSettledAt = none := by
    rw [hrow]
    exact hunsettled
  obtain ⟨htotal, hsettled⟩ := hresult.of_unsettled hunsettled hfresh
  have hmid := hsettled.find? hrow
  have hwallet : mid.wallets order.customerId =
      ⟨(settlementCall env order.id order.settlementPrefetch performedByUserId extra
          (db.wallets order.customerId)).newBalance,
        (settlementCall env order.id order.settlementPrefetch performedByUserId extra
          (db.wallets order.customerId)).newDebt⟩ := by
    rw [hkey, hsettled.wallets]
    exact Function.update_self _ _ _
  obtain ⟨row, hfound, _, hvoided⟩ := commits_voidInvoice henv' hvoid
  rw [hid] at hfound
  obtain rfl := Option.some.inj (hmid.symm.trans hfound)
  obtain ⟨_, _, rfl⟩ := hvoided
  change Function.update mid.wallets order.customerId _ order.customerId = _ ↔ _
  rw [Function.update_self]
  exact @reversedWallet_settled_iff env order performedByUserId extra _
    (settledRow env (activeSubscription order.customerId db) order) _ hmethod htotal
    (Option.some_ne_none _) rfl rfl (congrArg CustomerWallet.balance hwallet)
    (congrArg CustomerWallet.debt hwallet)

namespace Sample

def walletOrder : Order :=
  { order "order" with posPaymentMethod := .SUBSCRIPTION_WALLET }

def walletShop (wallet : CustomerWallet) : Db :=
  shop wallet ⟨[walletOrder], List.nodup_singleton _⟩

def settledFrom (wallet : CustomerWallet) : Db :=
  ((applyOrderWalletSettlementForCompletedOrder Env.default "order" "owner" none .none).outcome
    (walletShop wallet)).2

end Sample

/-- Three dinars of credit pay for the order of two and come back. -/
theorem settleThenVoid_restores_iff_sample :
    ((voidInvoice Env.default Sample.ownersVoid).outcome
      (Sample.settledFrom ⟨30000, 0⟩)).2.wallets "customer" = ⟨30000, 0⟩ := by
  obtain ⟨result, hvoid⟩ := exists_commits_of_isOk
    (x := voidInvoice Env.default Sample.ownersVoid) (s := Sample.settledFrom ⟨30000, 0⟩)
    (by decide +kernel)
  have hsettle := commits_of_isOk
    (x := applyOrderWalletSettlementForCompletedOrder Env.default "order" "owner" none .none)
    (s := Sample.walletShop ⟨30000, 0⟩) (by decide +kernel)
  exact (@settleThenVoid_restores_iff Env.default Env.default "order" "owner" none .none
    Sample.walletOrder Sample.ownersVoid result _ _ _ (fun _ => rfl) (fun _ => rfl) rfl rfl rfl
    (.inl rfl) rfl hsettle hvoid).2 (.inr ⟨rfl, .inl (by decide), .inl (by decide)⟩)

theorem settleThenVoid_restores_fails :
    ¬ ∀ (env : Env) (orderId performedByUserId : Uuid) (order : Order)
      (args : InvoiceVoidArgs) (result : InvoiceVoidResult) (db mid db' : Db),
      env.StoreHealthy → args.orderId = orderId → db.orders.find? orderId = some order →
      order.walletSettledAt = none → order.posPaymentMethod = .SUBSCRIPTION_WALLET →
      (applyOrderWalletSettlementForCompletedOrder env orderId performedByUserId none
        .none).Commits db () mid →
      (voidInvoice env args).Commits mid result db' →
      db'.wallets order.customerId = db.wallets order.customerId := by
  intro hall
  obtain ⟨result, hvoid⟩ := exists_commits_of_isOk
    (x := voidInvoice Env.default Sample.ownersVoid) (s := Sample.settledFrom ⟨10000, 0⟩)
    (by decide +kernel)
  have hclaim := hall Env.default "order" "owner" Sample.walletOrder Sample.ownersVoid result
    (Sample.walletShop ⟨10000, 0⟩) _ _ (fun _ => rfl) rfl rfl rfl rfl
    (commits_of_isOk (by decide +kernel)) hvoid
  revert hclaim
  decide +kernel

end SafariLaundry
