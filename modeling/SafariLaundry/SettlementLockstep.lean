import SafariLaundry.SettlementAccounting

/-!
# Wallet debt and journal receivable in one settlement

A settlement moves `wallet.debt` by its own arithmetic and the customer's
accounts receivable by up to five entries.  Without a declared settlement the two
agree except where a sale recognised at link creation is not recognised a second
time but is still paid off in the journal only.  With a declared settlement the
wallet pays down older debt while the journal pays off this invoice, and legacy
accounting credits the receivable twice.  `KeepsLockstep` is the exact table.
-/

namespace SafariLaundry

open Library Library.Bookkeeping Library.Transaction

namespace SettlementCall

def declared (call : SettlementCall) : ℤ :=
  call.extra.debtSettled.getD 0

def TrueExternalLockstep (call : SettlementCall) (journal : List JournalEntry) : Prop :=
  if call.declared ≤ 0 then
    call.IssuesAnew journal ↔ ¬ Recorded journal call.externalRef
  else
    (call.wallet.debt = 0 ∧ (call.IssuesAnew journal ↔ ¬ Recorded journal call.externalRef)) ∨
    (0 < call.wallet.debt ∧ min call.declared call.wallet.debt = call.order.totalPrice ∧
      ¬ call.IssuesAnew journal ∧ ¬ Recorded journal call.externalRef) ∨
    (call.wallet.debt = -call.order.totalPrice ∧
      call.IssuesAnew journal ∧ Recorded journal call.externalRef)

def TrueWalletLockstep (call : SettlementCall) (journal : List JournalEntry) : Prop :=
  if call.declared ≤ 0 then
    (call.IssuesAnew journal ∧ (call.safeTake = 0 ∨ call.AbsorbsAnew journal)) ∨
    (¬ call.IssuesAnew journal ∧ ¬ call.AbsorbsAnew journal ∧ call.shortfall = 0)
  else if call.IssuesAnew journal then
    if call.safeTake = 0 ∨ call.AbsorbsAnew journal then
      call.wallet.debt + call.shortfall = 0
    else call.wallet.debt = -call.order.totalPrice
  else
    (0 < call.wallet.debt + call.shortfall ∧ min call.declared (call.wallet.debt + call.shortfall) =
        if call.AbsorbsAnew journal then call.order.totalPrice else call.shortfall) ∨
    (¬ call.AbsorbsAnew journal ∧ call.wallet.debt = 0 ∧ call.shortfall = 0)

def LegacyExternalLockstep (call : SettlementCall) (journal : List JournalEntry) : Prop :=
  call.declared ≤ 0 ∨ call.wallet.debt ≤ 0 ∨
    (Recorded journal call.externalRef ↔ ¬ Recorded journal call.paydownRef)

def LegacyWalletLockstep (call : SettlementCall) (journal : List JournalEntry) : Prop :=
  if call.declared ≤ 0 ∨ call.wallet.debt + call.shortfall ≤ 0 then
    call.shortfall = 0 ∨ ¬ Recorded journal call.shortfallRef
  else
    Recorded journal call.shortfallRef ∧
      min call.declared (call.wallet.debt + call.shortfall) = call.shortfall

def KeepsLockstep (call : SettlementCall) (journal : List JournalEntry) : Prop :=
  if call.trueAccounting = true then
    if call.ExternalCoversShortfall then call.TrueExternalLockstep journal
    else call.TrueWalletLockstep journal
  else if call.ExternalCoversShortfall then call.LegacyExternalLockstep journal
  else call.LegacyWalletLockstep journal

instance (call : SettlementCall) (journal : List JournalEntry) :
    Decidable (call.KeepsLockstep journal) := by
  unfold KeepsLockstep TrueExternalLockstep TrueWalletLockstep LegacyExternalLockstep
    LegacyWalletLockstep
  infer_instance

variable {call : SettlementCall} {journal : List JournalEntry}

theorem debtPaydown_of_undeclared (hdeclared : call.declared ≤ 0) :
    call.debtPaydown = 0 := by
  unfold debtPaydown
  unfold declared at hdeclared
  cases hsettled : call.extra.debtSettled with
  | none => rfl
  | some amount =>
      have hamount : ¬ 0 < amount := by
        simpa [hsettled] using hdeclared
      simp [hamount]

theorem newDebt_of_undeclared (hdeclared : call.declared ≤ 0) :
    call.newDebt = call.debtWithInvoice := by
  unfold newDebt
  unfold declared at hdeclared
  cases hsettled : call.extra.debtSettled with
  | none => rfl
  | some amount =>
      have hamount : ¬ 0 < amount := by
        simpa [hsettled] using hdeclared
      simp [hamount]

theorem debtSettled_of_declared (hdeclared : ¬ call.declared ≤ 0) :
    call.extra.debtSettled = some call.declared := by
  unfold declared at hdeclared ⊢
  cases hsettled : call.extra.debtSettled with
  | none => simp [hsettled] at hdeclared
  | some amount => rfl

theorem debtPaydown_of_true (hdeclared : ¬ call.declared ≤ 0) (htrue : call.trueAccounting = true) :
    call.debtPaydown = min call.declared
      (if 0 < call.debtWithInvoice then call.debtWithInvoice else call.shortfall) := by
  have hpos : 0 < call.declared := by omega
  unfold debtPaydown
  rw [debtSettled_of_declared hdeclared]
  simp [hpos, htrue]

theorem newDebt_of_true (hdeclared : ¬ call.declared ≤ 0) (htrue : call.trueAccounting = true) :
    call.newDebt = if call.debtPaydown < call.debtWithInvoice then
        call.debtWithInvoice - call.debtPaydown
      else 0 := by
  have hpos : 0 < call.declared := by omega
  unfold newDebt
  rw [debtSettled_of_declared hdeclared]
  simp [hpos, htrue]

theorem debtPaydown_of_legacy (hdeclared : ¬ call.declared ≤ 0)
    (hlegacy : call.trueAccounting = false) :
    call.debtPaydown =
      if 0 < call.debtWithInvoice then min call.declared call.debtWithInvoice else 0 := by
  have hpos : 0 < call.declared := by omega
  unfold debtPaydown
  rw [debtSettled_of_declared hdeclared]
  simp [hpos, hlegacy]

theorem newDebt_of_legacy (hdeclared : ¬ call.declared ≤ 0)
    (hlegacy : call.trueAccounting = false) :
    call.newDebt = call.debtWithInvoice - call.debtPaydown := by
  have hpos : 0 < call.declared := by omega
  have hpaydown := debtPaydown_of_legacy hdeclared hlegacy
  unfold newDebt
  rw [debtSettled_of_declared hdeclared]
  by_cases hdebt : 0 < call.debtWithInvoice
  · simp [hpos, hlegacy, hdebt]
  · rw [hpaydown, if_neg hdebt]
    simp [hlegacy, hdebt]

theorem not_issuesAnew_of_legacy (hlegacy : call.trueAccounting = false) :
    ¬ call.IssuesAnew journal := by
  rintro ⟨⟨htrue, _⟩, _⟩
  rw [hlegacy] at htrue
  cases htrue

theorem recognisedAmount_of_true (htrue : call.trueAccounting = true) :
    call.recognisedAmount journal =
      if call.IssuesAnew journal then call.order.totalPrice else 0 := by
  have hnone : ¬ call.MirrorsShortfallAnew journal := by
    rintro ⟨hlegacy, _⟩
    rw [htrue] at hlegacy
    cases hlegacy
  unfold recognisedAmount
  rw [if_neg hnone, add_zero]

theorem recognisedAmount_of_legacy (hlegacy : call.trueAccounting = false)
    (htotal : 0 ≤ call.order.totalPrice) :
    call.recognisedAmount journal =
      if call.ExternalCoversShortfall ∨ Recorded journal call.shortfallRef then 0
      else call.shortfall := by
  have hshort := shortfall_nonneg htotal
  unfold recognisedAmount
  rw [if_neg (not_issuesAnew_of_legacy hlegacy), zero_add]
  by_cases hexternal : call.ExternalCoversShortfall
  · have hnone : ¬ call.MirrorsShortfallAnew journal := by
      rintro ⟨_, hpos, _⟩
      rw [addedInvoiceDebt_of_external hexternal] at hpos
      exact lt_irrefl 0 hpos
    rw [if_neg hnone, if_pos (.inl hexternal)]
  · have hadded := addedInvoiceDebt_of_not_external htotal hexternal
    by_cases hrecorded : Recorded journal call.shortfallRef
    · have hnone : ¬ call.MirrorsShortfallAnew journal := fun hnew => hnew.2.2 hrecorded
      rw [if_neg hnone, if_pos (.inr hrecorded)]
    · rw [if_neg (by simp [hexternal, hrecorded] :
        ¬ (call.ExternalCoversShortfall ∨ Recorded journal call.shortfallRef)), hadded]
      by_cases hpos : 0 < call.shortfall
      · rw [if_pos ⟨hlegacy, by omega, hrecorded⟩]
      · have hnone : ¬ call.MirrorsShortfallAnew journal := by
          rintro ⟨_, hadds, _⟩
          omega
        rw [if_neg hnone]
        omega

theorem absorbedAmount_of_external (hexternal : call.ExternalCoversShortfall) :
    call.absorbedAmount journal = 0 := by
  unfold absorbedAmount
  rw [safeTake_of_external hexternal, ite_self]

theorem receivedAmount_of_not_external (hexternal : ¬ call.ExternalCoversShortfall) :
    call.receivedAmount journal = 0 := by
  unfold receivedAmount
  rw [if_neg hexternal]

theorem receivedAmount_of_true (htrue : call.trueAccounting = true)
    (htotal : 0 < call.order.totalPrice) (hexternal : call.ExternalCoversShortfall) :
    call.receivedAmount journal =
      if Recorded journal call.externalRef then 0 else call.order.totalPrice := by
  have hpayment : call.externalPayment = call.order.totalPrice := by
    have hshort := shortfall_of_external hexternal
    unfold externalPayment
    rw [if_pos ⟨htrue, hexternal, by omega⟩, hshort]
  have hnone : ¬ call.MirrorsPaymentAnew journal := by
    rintro ⟨hlegacy, _⟩
    rw [htrue] at hlegacy
    cases hlegacy
  unfold receivedAmount
  rw [if_pos hexternal, if_neg hnone, add_zero, hpayment]
  by_cases hrecorded : Recorded journal call.externalRef
  · rw [if_neg fun hnew : call.ReceivesAnew journal => hnew.2 hrecorded, if_pos hrecorded]
  · rw [if_pos (show call.ReceivesAnew journal from ⟨hpayment ▸ htotal, hrecorded⟩),
      if_neg hrecorded]

theorem receivedAmount_of_legacy (hlegacy : call.trueAccounting = false)
    (hexternal : call.ExternalCoversShortfall) (hpaydown : 0 ≤ call.debtPaydown) :
    call.receivedAmount journal =
      (if Recorded journal call.externalRef then 0 else call.debtPaydown) +
        (if Recorded journal call.paydownRef then 0 else call.debtPaydown) := by
  have hpayment : call.externalPayment = call.debtPaydown := by
    unfold externalPayment
    rw [if_neg]
    rintro ⟨htrue, _⟩
    rw [hlegacy] at htrue
    cases htrue
  unfold receivedAmount ReceivesAnew MirrorsPaymentAnew
  simp only [if_pos hexternal, hpayment, hlegacy, true_and]
  by_cases hpos : 0 < call.debtPaydown
  · by_cases hreceived : Recorded journal call.externalRef
    · by_cases hmirrored : Recorded journal call.paydownRef
      · simp [hreceived, hmirrored]
      · simp [hpos, hreceived, hmirrored]
    · by_cases hmirrored : Recorded journal call.paydownRef
      · simp [hpos, hreceived, hmirrored]
      · simp [hpos, hreceived, hmirrored]
  · have hzero : call.debtPaydown = 0 := by omega
    simp [hzero]

theorem absorbedAmount_of_true (htrue : call.trueAccounting = true) :
    call.absorbedAmount journal =
      if call.AbsorbsAnew journal then call.safeTake else 0 := by
  unfold absorbedAmount
  simp only [htrue, true_and]

theorem absorbedAmount_of_legacy (hlegacy : call.trueAccounting = false) :
    call.absorbedAmount journal = 0 := by
  unfold absorbedAmount
  simp [hlegacy]

/-! ## The four rows of the table -/

theorem lockstep_iff_trueExternal (htrue : call.trueAccounting = true)
    (hexternal : call.ExternalCoversShortfall) (htotal : 0 < call.order.totalPrice) :
    (call.newDebt - call.wallet.debt = call.recognisedAmount journal - call.absorbedAmount journal -
        call.receivedAmount journal) ↔
    call.TrueExternalLockstep journal := by
  have hdebt := debtWithInvoice_of_external hexternal
  have hshort := shortfall_of_external hexternal
  rw [recognisedAmount_of_true htrue, absorbedAmount_of_external hexternal,
    receivedAmount_of_true htrue htotal hexternal]
  unfold TrueExternalLockstep
  by_cases hdeclared : call.declared ≤ 0
  · rw [newDebt_of_undeclared hdeclared, hdebt, if_pos hdeclared]
    grind
  · rw [newDebt_of_true hdeclared htrue, debtPaydown_of_true hdeclared htrue, hdebt,
      hshort, if_neg hdeclared]
    grind

theorem lockstep_iff_trueWallet (htrue : call.trueAccounting = true)
    (hexternal : ¬ call.ExternalCoversShortfall) (htotal : 0 < call.order.totalPrice) :
    (call.newDebt - call.wallet.debt = call.recognisedAmount journal - call.absorbedAmount journal -
        call.receivedAmount journal) ↔
    call.TrueWalletLockstep journal := by
  have hdebt := debtWithInvoice_of_not_external htotal.le hexternal
  have htake := safeTake_nonneg htotal.le
  have hshort := shortfall_nonneg htotal.le
  have hsplit : call.order.totalPrice = call.safeTake + call.shortfall := by
    unfold shortfall
    omega
  have habsorbs : call.AbsorbsAnew journal → 0 < call.safeTake := fun hnew => hnew.1
  rw [recognisedAmount_of_true htrue, absorbedAmount_of_true htrue,
    receivedAmount_of_not_external hexternal]
  unfold TrueWalletLockstep
  by_cases hdeclared : call.declared ≤ 0
  · rw [newDebt_of_undeclared hdeclared, hdebt, if_pos hdeclared]
    grind
  · rw [newDebt_of_true hdeclared htrue, debtPaydown_of_true hdeclared htrue, hdebt,
      if_neg hdeclared]
    grind

theorem lockstep_iff_legacyExternal (hlegacy : call.trueAccounting = false)
    (hexternal : call.ExternalCoversShortfall) (htotal : 0 < call.order.totalPrice) :
    (call.newDebt - call.wallet.debt = call.recognisedAmount journal - call.absorbedAmount journal -
        call.receivedAmount journal) ↔
    call.LegacyExternalLockstep journal := by
  have hdebt := debtWithInvoice_of_external hexternal
  rw [recognisedAmount_of_legacy hlegacy htotal.le, if_pos (.inl hexternal),
    absorbedAmount_of_external hexternal]
  unfold LegacyExternalLockstep
  by_cases hdeclared : call.declared ≤ 0
  · have hpaydown := debtPaydown_of_undeclared hdeclared
    rw [receivedAmount_of_legacy hlegacy hexternal hpaydown.ge,
      newDebt_of_undeclared hdeclared, hdebt, hpaydown]
    simp [hdeclared]
  · have hpaydown := debtPaydown_of_legacy hdeclared hlegacy
    rw [hdebt] at hpaydown
    have hnonneg : 0 ≤ call.debtPaydown := by
      rw [hpaydown]
      split_ifs <;> omega
    rw [receivedAmount_of_legacy hlegacy hexternal hnonneg,
      newDebt_of_legacy hdeclared hlegacy, hdebt]
    by_cases howed : 0 < call.wallet.debt
    · rw [if_pos howed] at hpaydown
      grind
    · rw [if_neg howed] at hpaydown
      rw [hpaydown]
      simp only [ite_self, add_zero, sub_zero, sub_self, true_iff]
      exact .inr (.inl (by omega))

theorem lockstep_iff_legacyWallet (hlegacy : call.trueAccounting = false)
    (hexternal : ¬ call.ExternalCoversShortfall) (htotal : 0 < call.order.totalPrice) :
    (call.newDebt - call.wallet.debt = call.recognisedAmount journal - call.absorbedAmount journal -
        call.receivedAmount journal) ↔
    call.LegacyWalletLockstep journal := by
  have hdebt := debtWithInvoice_of_not_external htotal.le hexternal
  have hshort := shortfall_nonneg htotal.le
  rw [recognisedAmount_of_legacy hlegacy htotal.le, absorbedAmount_of_legacy hlegacy,
    receivedAmount_of_not_external hexternal]
  unfold LegacyWalletLockstep
  by_cases hdeclared : call.declared ≤ 0
  · rw [newDebt_of_undeclared hdeclared, hdebt]
    grind
  · rw [newDebt_of_legacy hdeclared hlegacy, debtPaydown_of_legacy hdeclared hlegacy, hdebt]
    grind

theorem lockstep_iff (htotal : 0 < call.order.totalPrice) :
    (call.newDebt - call.wallet.debt = receivable call.order.customerId (call.newEntries journal)) ↔
    call.KeepsLockstep journal := by
  rw [receivable_newEntries]
  unfold KeepsLockstep
  by_cases htrue : call.trueAccounting = true
  · rw [if_pos htrue]
    by_cases hexternal : call.ExternalCoversShortfall
    · rw [if_pos hexternal]
      exact lockstep_iff_trueExternal htrue hexternal htotal
    · rw [if_neg hexternal]
      exact lockstep_iff_trueWallet htrue hexternal htotal
  · have hlegacy : call.trueAccounting = false := by simpa using htrue
    rw [if_neg htrue]
    by_cases hexternal : call.ExternalCoversShortfall
    · rw [if_pos hexternal]
      exact lockstep_iff_legacyExternal hlegacy hexternal htotal
    · rw [if_neg hexternal]
      exact lockstep_iff_legacyWallet hlegacy hexternal htotal

end SettlementCall

/-- In a committed settlement the wallet debt moves by exactly the net of the
receivable lines written with it if and only if the order was settled before or
the call is in the table. -/
theorem settlement_lockstep_iff {env : Env} {orderId performedByUserId : Uuid}
    {prefetch : Option OrderWalletSettlementPrefetch} {extra : SettlementMetadata}
    {o : OrderWalletSettlementPrefetch} {db db' : Db} (henv : env.StoreHealthy)
    (horder : settlementOrder orderId prefetch db = some o) (htotal : 0 < o.totalPrice)
    (hcommits : (applyOrderWalletSettlementForCompletedOrder env orderId
      performedByUserId prefetch extra).Commits db () db') :
    ((db'.wallets o.customerId).debt - (db.wallets o.customerId).debt =
      receivable o.customerId db'.journal - receivable o.customerId db.journal) ↔
    (o.walletSettledAt ≠ none ∨ (db.orders.find? orderId).bind Order.walletSettledAt ≠ none ∨
      (settlementCall env orderId o performedByUserId extra
        (db.wallets o.customerId)).KeepsLockstep db.journal) := by
  obtain ⟨o', horder', hresult⟩ := commits_applyOrderWalletSettlement henv hcommits
  rw [horder] at horder'
  obtain rfl := Option.some.inj horder'
  cases hresult with
  | skipped hsettled hsame =>
      obtain ⟨branchId, rfl⟩ := hsame
      have hwallets : (originBranched o.customerId branchId db).wallets = db.wallets := by
        cases branchId <;> rfl
      have hjournal : (originBranched o.customerId branchId db).journal = db.journal := by
        cases branchId <;> rfl
      rw [hwallets, hjournal]
      constructor
      · intro _
        rcases hsettled with hprefetch | hfresh
        · exact .inl hprefetch
        · exact .inr (.inl hfresh)
      · intro _
        omega
  | settled actor hprefetch hfresh hactor _ _ hsettled =>
      have hid := findUser_id hactor
      rw [hid] at hsettled
      have htable := @SettlementCall.lockstep_iff (settlementCall env orderId o
        performedByUserId extra (db.wallets o.customerId)) db.journal htotal
      have hdebt : (db'.wallets o.customerId).debt =
          (settlementCall env orderId o performedByUserId extra
            (db.wallets o.customerId)).newDebt := by
        rw [hsettled.wallets]
        simp [settlementCall]
      have hreceivable : receivable o.customerId db'.journal = receivable o.customerId db.journal +
            receivable o.customerId ((settlementCall env orderId o performedByUserId extra
              (db.wallets o.customerId)).newEntries db.journal) := by
        rw [hsettled.journal_append]
        exact customerNet_append _ _ _ _
      rw [hdebt, hreceivable, add_sub_cancel_left]
      constructor
      · intro hlockstep
        exact .inr (.inr (htable.1 hlockstep))
      · rintro (hsettled' | hsettled' | hkeeps)
        · exact absurd hprefetch hsettled'
        · exact absurd hfresh hsettled'
        · exact htable.2 hkeeps

def Sample.linkMetadata (amount : ℤ) : SettlementMetadata :=
  ⟨some amount, some amount, false, true⟩

def Sample.captureOrder : Tx Unit :=
  applyOrderWalletSettlementForCompletedOrder Env.default "order" "owner" none
    (Sample.linkMetadata 20000)

theorem settlement_lockstep_iff_sample :
    (((Sample.captureOrder.outcome Sample.indebtedShop).2.wallets "customer").debt -
        (Sample.indebtedShop.wallets "customer").debt =
      receivable "customer" (Sample.captureOrder.outcome Sample.indebtedShop).2.journal -
        receivable "customer" Sample.indebtedShop.journal) ↔
    ((Sample.order "order").settlementPrefetch.walletSettledAt ≠ none ∨
      (Sample.indebtedShop.orders.find? "order").bind Order.walletSettledAt ≠ none ∨
      (settlementCall Env.default "order" (Sample.order "order").settlementPrefetch "owner"
        (Sample.linkMetadata 20000)
        (Sample.indebtedShop.wallets "customer")).KeepsLockstep
          Sample.indebtedShop.journal) :=
  @settlement_lockstep_iff Env.default "order" "owner" none (Sample.linkMetadata 20000)
    (Sample.order "order").settlementPrefetch Sample.indebtedShop _ (fun _ => rfl) rfl
    (by decide) (commits_of_isOk (by decide +kernel))

theorem settlement_lockstep_fails :
    ¬ ∀ (env : Env) (orderId performedByUserId : Uuid)
        (prefetch : Option OrderWalletSettlementPrefetch) (extra : SettlementMetadata)
        (o : OrderWalletSettlementPrefetch) (db db' : Db),
      env.StoreHealthy → settlementOrder orderId prefetch db = some o →
      0 < o.totalPrice →
      (applyOrderWalletSettlementForCompletedOrder env orderId performedByUserId
        prefetch extra).Commits db () db' →
      (db'.wallets o.customerId).debt - (db.wallets o.customerId).debt =
        receivable o.customerId db'.journal - receivable o.customerId db.journal := by
  intro hlockstep
  have hsample := hlockstep Env.default "order" "owner" none (Sample.linkMetadata 20000)
    (Sample.order "order").settlementPrefetch Sample.indebtedShop _ (fun _ => rfl) rfl
    (by decide) (commits_of_isOk (by decide +kernel))
  revert hsample
  decide +kernel

end SafariLaundry
