import SafariLaundry.SettlementAccounting

/-!
# What a settlement takes from the wallet

Only the two methods that settle against credit touch the balance, and never for more
than the credit there is.  What the credit does not cover becomes debt of the wallet
before any declared settlement is taken off that debt.
-/

namespace SafariLaundry

open Library Library.Transaction

namespace SettlementCall

variable {call : SettlementCall}

theorem not_external_of_shouldUseWallet (huse : call.ShouldUseWallet) :
    ¬ call.ExternalCoversShortfall := fun hexternal =>
  not_shouldUseWallet_of_external hexternal huse

def debtAfterDeclared (call : SettlementCall) (debt : ℤ) : ℤ :=
  match call.extra.debtSettled with
  | none => debt
  | some declared =>
      if 0 < declared ∧ 0 < debt then debt - min declared debt
      else if 0 < declared ∧ call.trueAccounting = true then 0
      else debt

theorem newDebt_eq (htotal : 0 ≤ call.order.totalPrice) :
    call.newDebt = call.debtAfterDeclared call.debtWithInvoice := by
  have hshort := shortfall_nonneg htotal
  unfold newDebt debtPaydown debtAfterDeclared
  cases call.extra.debtSettled with
  | none => rfl
  | some declared =>
      simp only
      by_cases hdeclared : 0 < declared
      · by_cases hdebt : 0 < call.debtWithInvoice
        · have hpaid := min_le_right declared call.debtWithInvoice
          by_cases htrue : call.trueAccounting = true
          · simp only [hdeclared, htrue, hdebt, and_self, if_true]
            by_cases hless : min declared call.debtWithInvoice < call.debtWithInvoice
            · rw [if_pos hless]
            · rw [if_neg hless]
              omega
          · simp only [hdeclared, htrue, hdebt, and_true, if_true]
            rfl
        · by_cases htrue : call.trueAccounting = true
          · simp only [hdeclared, htrue, hdebt, and_self, and_false, if_true, if_false]
            have hpaid : 0 ≤ min declared call.shortfall := le_min hdeclared.le hshort
            exact if_neg (by omega)
          · rw [if_neg fun hboth => htrue hboth.2, if_neg fun hboth => hdebt hboth.2,
              if_neg fun hboth => hdebt hboth.2, if_neg fun hboth => htrue hboth.2]
      · simp only [hdeclared, false_and, if_false]

theorem taken_eq (call : SettlementCall) :
    call.wallet.balance - call.newBalance = call.safeTake := by
  unfold newBalance
  omega

theorem safeTake_le_credit (call : SettlementCall) :
    call.safeTake ≤ max call.wallet.balance 0 := by
  unfold safeTake
  by_cases huse : call.ShouldUseWallet ∧ 0 < call.wallet.balance
  · rw [if_pos huse]
    exact (min_le_left _ _).trans (le_max_left _ _)
  · rw [if_neg huse]
    exact le_max_right _ _

theorem debtWithInvoice_eq (call : SettlementCall) :
    call.debtWithInvoice = call.wallet.debt + call.addedInvoiceDebt := by
  unfold debtWithInvoice addedInvoiceDebt
  by_cases hadd : call.AddInvoiceDebt ∧ 0 < call.shortfall
  · rw [if_pos hadd, if_pos hadd]
  · rw [if_neg hadd, if_neg hadd, add_zero]

theorem safeTake_add_booked (htotal : 0 ≤ call.order.totalPrice) (huse : call.ShouldUseWallet) :
    call.safeTake + call.addedInvoiceDebt = call.order.totalPrice := by
  rw [addedInvoiceDebt_of_not_external htotal (not_external_of_shouldUseWallet huse)]
  unfold shortfall
  omega

end SettlementCall

structure SettledWithinCredit (call : SettlementCall) (before after : CustomerWallet) :
    Prop where
  taken_nonneg : 0 ≤ before.balance - after.balance
  taken_le : before.balance - after.balance ≤ max before.balance 0
  floor : min before.balance 0 ≤ after.balance
  covered : call.ShouldUseWallet →
    before.balance - after.balance + call.addedInvoiceDebt = call.order.totalPrice
  debt : after.debt = call.debtAfterDeclared (before.debt + call.addedInvoiceDebt)
  external : call.ExternalCoversShortfall → after.balance = before.balance

theorem SettlementCall.settledWithinCredit {call : SettlementCall}
    (htotal : 0 ≤ call.order.totalPrice) :
    SettledWithinCredit call call.wallet ⟨call.newBalance, call.newDebt⟩ := by
  have htaken := call.taken_eq
  have hnonneg := SettlementCall.safeTake_nonneg htotal
  have hcredit := call.safeTake_le_credit
  constructor
  · change 0 ≤ call.wallet.balance - call.newBalance
    omega
  · change call.wallet.balance - call.newBalance ≤ _
    omega
  · change _ ≤ call.newBalance
    omega
  · intro huse
    change call.wallet.balance - call.newBalance + _ = _
    rw [htaken]
    exact SettlementCall.safeTake_add_booked htotal huse
  · change call.newDebt = _
    rw [SettlementCall.newDebt_eq htotal, call.debtWithInvoice_eq]
  · intro hexternal
    have hnone := SettlementCall.safeTake_of_external hexternal
    change call.newBalance = call.wallet.balance
    omega

/-- A committed settlement of an order that was not settled before takes no more than the
wallet's credit, whatever its method, books what is left of the total as debt of the wallet
if the method settles against credit, and touches no other wallet. -/
theorem settlement_within_credit {env : Env} {orderId performedByUserId : Uuid}
    {prefetch : Option OrderWalletSettlementPrefetch} {extra : SettlementMetadata}
    {o : OrderWalletSettlementPrefetch} {db db' : Db} (henv : env.StoreHealthy)
    (horder : settlementOrder orderId prefetch db = some o)
    (hcommits : (applyOrderWalletSettlementForCompletedOrder env orderId
      performedByUserId prefetch extra).Commits db () db') :
    if o.walletSettledAt ≠ none ∨ (db.orders.find? orderId).bind Order.walletSettledAt ≠ none then
      db'.wallets = db.wallets
    else
      SettledWithinCredit
        (settlementCall env orderId o performedByUserId extra (db.wallets o.customerId))
        (db.wallets o.customerId) (db'.wallets o.customerId) ∧
      ∀ customerId, customerId ≠ o.customerId → db'.wallets customerId = db.wallets customerId := by
  obtain ⟨o', horder', hresult⟩ := commits_applyOrderWalletSettlement henv hcommits
  rw [horder] at horder'
  obtain rfl := Option.some.inj horder'
  cases hresult with
  | skipped hsettled hsame =>
      rw [if_pos hsettled]
      obtain ⟨branchId, rfl⟩ := hsame
      cases branchId <;> rfl
  | settled actor hprefetch hfresh hactor _ htotal hsettled =>
      have hunsettled : ¬ (o.walletSettledAt ≠ none ∨
          (db.orders.find? orderId).bind Order.walletSettledAt ≠ none) := by
        rintro (hbefore | hbefore)
        · exact hbefore hprefetch
        · exact hbefore hfresh
      rw [if_neg hunsettled, hsettled.wallets, findUser_id hactor]
      have hcustomer : ∀ actorId, (settlementCall env orderId o actorId extra
          (db.wallets o.customerId)).order.customerId = o.customerId := fun _ => rfl
      rw [hcustomer]
      constructor
      · rw [Function.update_self]
        exact SettlementCall.settledWithinCredit htotal
      · intro customerId hother
        exact Function.update_of_ne hother _ _

def Sample.creditShop : Db := shop ⟨15000, 0⟩ (oneOrder "order")

def Sample.onAccount : OrderWalletSettlementPrefetch :=
  ⟨"customer", 20000, some .DEBT_ON_ACCOUNT, none⟩

theorem settlement_within_credit_sample :
    let db' := ((applyOrderWalletSettlementForCompletedOrder Env.default "order" "owner"
      (some Sample.onAccount) .none).outcome Sample.creditShop).2
    if Sample.onAccount.walletSettledAt ≠ none ∨
        (Sample.creditShop.orders.find? "order").bind Order.walletSettledAt ≠ none then
      db'.wallets = Sample.creditShop.wallets
    else
      SettledWithinCredit (settlementCall Env.default "order" Sample.onAccount "owner" .none
          (Sample.creditShop.wallets "customer"))
        (Sample.creditShop.wallets "customer") (db'.wallets "customer") ∧
      ∀ customerId, customerId ≠ "customer" →
        db'.wallets customerId = Sample.creditShop.wallets customerId :=
  @settlement_within_credit Env.default "order" "owner" (some Sample.onAccount) .none
    Sample.onAccount Sample.creditShop _ (fun _ => rfl) rfl (commits_of_isOk (by decide +kernel))

end SafariLaundry
