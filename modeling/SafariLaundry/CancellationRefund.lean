import SafariLaundry.SubscriptionCancel

/-!
# What a cancellation refunds

The gift goes first and the paid part second, each its share of the rest of the term and
neither more than is left of the balance.  A wallet that is overdrawn has less than
nothing left: its debt is removed like a gift, and no entry is posted for it.
-/

namespace SafariLaundry

open Library Library.Bookkeeping Library.Transaction

namespace Cancellation

variable {cancellation : Cancellation}

theorem totalMs_pos (cancellation : Cancellation) : 0 < cancellation.totalMs :=
  lt_of_lt_of_le Int.zero_lt_one (le_max_left 1 _)

theorem remainingMs_nonneg (cancellation : Cancellation) : 0 ≤ cancellation.remainingMs :=
  le_max_left 0 _

theorem subsidy_nonneg (cancellation : Cancellation) : 0 ≤ cancellation.subsidy := by
  unfold subsidy
  simp only
  split
  · exact le_rfl
  · omega

theorem giftTarget_eq (cancellation : Cancellation) :
    cancellation.giftTarget =
      cancellation.subsidy * cancellation.remainingMs / cancellation.totalMs :=
  Int.tdiv_eq_ediv_of_nonneg
    (mul_nonneg cancellation.subsidy_nonneg cancellation.remainingMs_nonneg)

theorem cashTarget_eq (hprice : 0 ≤ cancellation.subscription.planSalePriceSnapshot) :
    cancellation.cashTarget = cancellation.subscription.planSalePriceSnapshot *
      cancellation.remainingMs / cancellation.totalMs :=
  Int.tdiv_eq_ediv_of_nonneg (mul_nonneg hprice cancellation.remainingMs_nonneg)

theorem giftTarget_nonneg (cancellation : Cancellation) : 0 ≤ cancellation.giftTarget := by
  rw [giftTarget_eq]
  exact Int.ediv_nonneg (mul_nonneg cancellation.subsidy_nonneg cancellation.remainingMs_nonneg)
    cancellation.totalMs_pos.le

theorem cashTarget_nonneg (hprice : 0 ≤ cancellation.subscription.planSalePriceSnapshot) :
    0 ≤ cancellation.cashTarget := by
  rw [cashTarget_eq hprice]
  exact Int.ediv_nonneg (mul_nonneg hprice cancellation.remainingMs_nonneg)
    cancellation.totalMs_pos.le

def unusedPaidValue (cancellation : Cancellation) : ℚ :=
  (cancellation.subscription.planSalePriceSnapshot * cancellation.remainingMs : ℤ) /
    cancellation.totalMs

theorem cashTarget_le (hprice : 0 ≤ cancellation.subscription.planSalePriceSnapshot) :
    (cancellation.cashTarget : ℚ) ≤ cancellation.unusedPaidValue := by
  have htotal := cancellation.totalMs_pos
  have hpos : (0 : ℚ) < cancellation.totalMs := by exact_mod_cast htotal
  unfold unusedPaidValue
  rw [cashTarget_eq hprice, le_div_iff₀ hpos]
  exact_mod_cast Int.ediv_mul_le _ htotal.ne'

/-- Neither share of the rest of the term comes to a minor unit. -/
def NothingLeft (cancellation : Cancellation) : Prop :=
  cancellation.subsidy * cancellation.remainingMs < cancellation.totalMs ∧
    cancellation.subscription.planSalePriceSnapshot * cancellation.remainingMs <
      cancellation.totalMs

theorem share_eq_zero_iff {amount total : ℤ} (hamount : 0 ≤ amount) (htotal : 0 < total) :
    amount / total = 0 ↔ amount < total := by
  constructor
  · intro hzero
    by_contra hge
    have hone := (Int.le_ediv_iff_mul_le htotal).2 (by omega : 1 * total ≤ amount)
    omega
  · intro hless
    exact Int.ediv_eq_zero_of_lt hamount hless

theorem nothingLeft_iff (hprice : 0 ≤ cancellation.subscription.planSalePriceSnapshot) :
    cancellation.NothingLeft ↔ cancellation.giftTarget = 0 ∧ cancellation.cashTarget = 0 := by
  unfold NothingLeft
  rw [giftTarget_eq, cashTarget_eq hprice, share_eq_zero_iff
      (mul_nonneg cancellation.subsidy_nonneg cancellation.remainingMs_nonneg)
      cancellation.totalMs_pos,
    share_eq_zero_iff (mul_nonneg hprice cancellation.remainingMs_nonneg)
      cancellation.totalMs_pos]

theorem giftRemoval_eq (cancellation : Cancellation) :
    cancellation.giftRemoval = min cancellation.giftTarget cancellation.wallet.balance := by
  unfold giftRemoval
  split
  · exact (min_eq_left (by omega)).symm
  · exact (min_eq_right (by omega)).symm

theorem cashRefund_eq (cancellation : Cancellation) :
    cancellation.cashRefund = min cancellation.cashTarget cancellation.afterGift := by
  unfold cashRefund
  split
  · exact (min_eq_left (by omega)).symm
  · exact (min_eq_right (by omega)).symm

theorem net_refundLines (cancellation : Cancellation) :
    net JournalAccount.WALLET_LIABILITY cancellation.refundLines =
      max 0 cancellation.giftRemoval + max 0 cancellation.cashRefund := by
  unfold refundLines
  by_cases hgift : 0 < cancellation.giftRemoval
  · by_cases hcash : 0 < cancellation.cashRefund
    · simp [hgift, hcash, debitLine, creditLine, hgift.le, hcash.le]
    · simp [hgift, hcash, debitLine, creditLine, hgift.le, not_lt.1 hcash]
  · by_cases hcash : 0 < cancellation.cashRefund
    · simp [hgift, hcash, debitLine, creditLine, not_lt.1 hgift, hcash.le]
    · simp [hgift, hcash, not_lt.1 hgift, not_lt.1 hcash]

theorem walletLiability_refund (cancellation : Cancellation) (journal : List JournalEntry) :
    walletLiability cancellation.params.customerId
        (postAll JournalEntry.sourceRef journal cancellation.entries) =
      walletLiability cancellation.params.customerId journal -
        if Recorded journal (refundRef cancellation.subscription.id) then 0
        else max 0 cancellation.giftRemoval + max 0 cancellation.cashRefund := by
  unfold entries
  by_cases hnone : cancellation.giftRemoval ≤ 0 ∧ cancellation.cashRefund ≤ 0
  · rw [if_pos hnone, postAll_nil, max_eq_left hnone.1, max_eq_left hnone.2, add_zero, ite_self,
      sub_zero]
  · have hlines := cancellation.net_refundLines
    rw [if_neg hnone, postAll_cons, postAll_nil]
    unfold walletLiability customerNet
    rw [tally_post]
    change -(_ + if Recorded journal (refundRef cancellation.subscription.id) then 0
      else if some cancellation.params.customerId = some cancellation.params.customerId then
        net JournalAccount.WALLET_LIABILITY cancellation.refundLines else 0) = _
    rw [if_pos rfl, hlines]
    by_cases hrecorded : Recorded journal (refundRef cancellation.subscription.id)
    · rw [if_pos hrecorded, add_zero, sub_zero]
    · rw [if_neg hrecorded, neg_add, sub_eq_add_neg]

end Cancellation

/-! ## The refund -/

structure RefundSound (cancellation : Cancellation)
    (result : SubscriptionCancellationSettlement) (db db' : Db) : Prop where
  withinValue : (result.refundedCashKd : ℚ) ≤ cancellation.unusedPaidValue
  withinWallet : result.refundedCashKd ≤ max cancellation.wallet.balance 0
  balance_nonneg : 0 ≤ (db'.wallets cancellation.params.customerId).balance
  inStep : (db'.wallets cancellation.params.customerId).balance - cancellation.wallet.balance =
    walletLiability cancellation.params.customerId db'.journal -
      walletLiability cancellation.params.customerId db.journal

/-- The wallet is not overdrawn; and where a refund of the subscription is recorded already,
there is nothing to remove. -/
structure Cancellation.Refundable (cancellation : Cancellation) (journal : List JournalEntry) :
    Prop where
  balance : 0 ≤ cancellation.wallet.balance
  unrecorded : Recorded journal (Cancellation.refundRef cancellation.subscription.id) →
    cancellation.wallet.balance = 0 ∨ cancellation.NothingLeft

section Refund

variable {cancellation : Cancellation} {journal : List JournalEntry}

theorem Cancellation.inStep_iff (hprice : 0 ≤ cancellation.subscription.planSalePriceSnapshot) :
    cancellation.newBalance - cancellation.wallet.balance =
        walletLiability cancellation.params.customerId
          (postAll JournalEntry.sourceRef journal cancellation.entries) -
        walletLiability cancellation.params.customerId journal ↔
      cancellation.Refundable journal := by
  have hgift := cancellation.giftTarget_nonneg
  have hcash := Cancellation.cashTarget_nonneg hprice
  have hremoval := cancellation.giftRemoval_eq
  have hrefund := cancellation.cashRefund_eq
  have hleft := Cancellation.nothingLeft_iff hprice
  have hafter : cancellation.afterGift =
    cancellation.wallet.balance - cancellation.giftRemoval := rfl
  have hnew : cancellation.newBalance = cancellation.afterGift - cancellation.cashRefund := rfl
  rw [Cancellation.walletLiability_refund]
  constructor
  · intro hstep
    by_cases hrecorded : Recorded journal (Cancellation.refundRef cancellation.subscription.id)
    · rw [if_pos hrecorded] at hstep
      have hbalance : 0 ≤ cancellation.wallet.balance := by omega
      refine ⟨hbalance, fun _ => ?_⟩
      rw [hleft]
      omega
    · rw [if_neg hrecorded] at hstep
      exact ⟨by omega, fun htaken => absurd htaken hrecorded⟩
  · rintro ⟨hbalance, hunrecorded⟩
    by_cases hrecorded : Recorded journal (Cancellation.refundRef cancellation.subscription.id)
    · rw [if_pos hrecorded]
      rcases hunrecorded hrecorded with hempty | hnothing
      · omega
      · obtain ⟨hnoGift, hnoCash⟩ := hleft.1 hnothing
        omega
    · rw [if_neg hrecorded]
      omega

end Refund

theorem commits_cancelSubscription {env : Env} {params : CancelSubscriptionParams}
    {subscription : CustomerSubscription} {result : SubscriptionCancellationSettlement}
    {db db' : Db} (henv : env.StoreHealthy) (hactor : params.performedByUserId ≠ "")
    (hactive : activeSubscription params.customerId db = some subscription)
    (hcommits : (cancelSubscriptionForCustomer env params).Commits db result db') :
    Cancellation.Cancels env ⟨params, subscription, db.wallets params.customerId, env.now⟩ db db' ∧
      result.refundedCashKd = Cancellation.cashRefund
        ⟨params, subscription, db.wallets params.customerId, env.now⟩ := by
  unfold cancelSubscriptionForCustomer cancelSubscriptionSeeing at hcommits
  simp only [commits_bind, commits_get, commits_fetch] at hcommits
  obtain ⟨_, _, ⟨rfl, rfl⟩, found, _, ⟨hfound, rfl⟩, hlocked⟩ := hcommits
  rw [hactive] at hfound
  obtain rfl := Option.some.inj hfound
  refine ⟨(commits_cancelLocked henv hactor hlocked).2, ?_⟩
  unfold cancelLocked at hlocked
  simp only [commits_bind, commits_pure] at hlocked
  obtain ⟨_, _, _, _, _, _, _, _, _, _, _, _, _, _, _, _, _, _, _, _, _, rfl, _⟩ := hlocked
  rfl

/-- A cancellation that is accepted refunds at most what was paid for the rest of the term
and what the wallet holds, leaves no negative balance and moves the balance by what it posts
to the liability, exactly if the wallet is not overdrawn and its refund is not recorded
already. -/
theorem refundSound_iff {env : Env} {params : CancelSubscriptionParams}
    {subscription : CustomerSubscription} {result : SubscriptionCancellationSettlement}
    {db db' : Db} (henv : env.StoreHealthy) (hactor : params.performedByUserId ≠ "")
    (hactive : activeSubscription params.customerId db = some subscription)
    (hprice : 0 ≤ subscription.planSalePriceSnapshot)
    (hcommits : (cancelSubscriptionForCustomer env params).Commits db result db') :
    RefundSound ⟨params, subscription, db.wallets params.customerId, env.now⟩ result db db' ↔
      Cancellation.Refundable ⟨params, subscription, db.wallets params.customerId, env.now⟩
        db.journal := by
  obtain ⟨⟨failures, rfl⟩, hrefunded⟩ :=
    commits_cancelSubscription henv hactor hactive hcommits
  rw [← Cancellation.inStep_iff hprice]
  constructor
  · intro hsound
    have hstep := hsound.inStep
    simp only [Function.update_self] at hstep
    exact hstep
  · intro hstep
    have hbalance := ((Cancellation.inStep_iff hprice).1 hstep).balance
    set cancellation : Cancellation :=
      ⟨params, subscription, db.wallets params.customerId, env.now⟩ with hdef
    have hgift := cancellation.giftTarget_nonneg
    have hremoval := cancellation.giftRemoval_eq
    have hrefund := cancellation.cashRefund_eq
    have hafter : cancellation.afterGift =
      cancellation.wallet.balance - cancellation.giftRemoval := rfl
    have hnew : cancellation.newBalance = cancellation.afterGift - cancellation.cashRefund := rfl
    constructor
    · rw [hrefunded]
      have htarget : (cancellation.cashRefund : ℚ) ≤ cancellation.cashTarget := by
        rw [hrefund]
        exact_mod_cast min_le_left _ _
      exact htarget.trans (Cancellation.cashTarget_le hprice)
    · rw [hrefunded]
      omega
    · simp only [Function.update_self]
      omega
    · simp only [Function.update_self]
      exact hstep

namespace Sample

/-- Twenty-five dinars of credit for twenty, for thirty days. -/
def subscription : CustomerSubscription :=
  ⟨"subscription", "customer", "plan", .ACTIVE, 200000, 250000, 0, none, 0, 30, none, none⟩

def subscribedShop (balance : ℤ) : Db :=
  { shop ⟨balance, 0⟩ (oneOrder "order") with subscriptions := [subscription] }

def tenthDay : Env := { Env.default with now := 10 }

def cancelRequest : CancelSubscriptionParams := ⟨"customer", "owner"⟩

def cancelled (balance : ℤ) : Except ServiceError SubscriptionCancellationSettlement × Db :=
  (cancelSubscriptionForCustomer tenthDay cancelRequest).outcome (subscribedShop balance)

end Sample

theorem refundSound_iff_sample :
    RefundSound ⟨Sample.cancelRequest, Sample.subscription, ⟨150000, 0⟩, 10⟩
        ⟨"subscription", 116667, 33333, 150000, 150000, 0⟩ (Sample.subscribedShop 150000)
        (Sample.cancelled 150000).2 ↔
      Cancellation.Refundable ⟨Sample.cancelRequest, Sample.subscription, ⟨150000, 0⟩, 10⟩ [] :=
  @refundSound_iff Sample.tenthDay Sample.cancelRequest Sample.subscription
    ⟨"subscription", 116667, 33333, 150000, 150000, 0⟩ (Sample.subscribedShop 150000)
    (Sample.cancelled 150000).2 (fun _ => rfl) (by decide) rfl (by decide)
    (commits_of_returns (by decide +kernel))

theorem refundSound_fails :
    ¬ ∀ (env : Env) (params : CancelSubscriptionParams) (subscription : CustomerSubscription)
      (result : SubscriptionCancellationSettlement) (db db' : Db), env.StoreHealthy →
      params.performedByUserId ≠ "" →
      activeSubscription params.customerId db = some subscription →
      0 ≤ subscription.planSalePriceSnapshot →
      (cancelSubscriptionForCustomer env params).Commits db result db' →
      RefundSound ⟨params, subscription, db.wallets params.customerId, env.now⟩ result db db' := by
  intro hall
  have hstep := (hall Sample.tenthDay Sample.cancelRequest Sample.subscription
    ⟨"subscription", 0, -10000, -10000, -10000, 0⟩ (Sample.subscribedShop (-10000))
    (Sample.cancelled (-10000)).2 (fun _ => rfl) (by decide) rfl (by decide)
    (commits_of_returns (by decide +kernel))).inStep
  revert hstep
  decide +kernel

end SafariLaundry
