import SafariLaundry.RemainingBalances

/-!
# What an invoice still owes, asked for one and asked for many

The single reader nets the receivable lines of the order when true accounting is on and
answers the gross total otherwise; the batch reader nets them when the journal is the
source, spreads the customer's unlinked credits over them and answers zero otherwise.
The parts paid and absorbed come from a ledger that is no longer kept.
-/

namespace SafariLaundry

open Library Library.Bookkeeping

inductive PaymentStatusSource
  | JOURNAL_AR | DEBT_LEDGER

inductive InvoicePaymentStatus
  | UNPAID | PARTIALLY_PAID | PAID
  deriving DecidableEq

structure RemainingBreakdown where
  (remainingKd totalKd paidKd walletAbsorbedKd : ℤ)
  source : PaymentStatusSource

structure InvoicePaymentStatusRow where
  orderId : Uuid
  (totalAmountKd paidAmountKd remainingAmountKd walletAbsorbedKd : ℤ)
  status : InvoicePaymentStatus
  (isPartiallyPaid isFullyPaid : Bool)
  source : PaymentStatusSource

def computeFromDebtLedger (totalKd : ℤ) : RemainingBreakdown :=
  ⟨totalKd, totalKd, 0, 0, .DEBT_LEDGER⟩

def computeRemainingBalance (env : Env) (db : Db) (orderId : Uuid) : RemainingBreakdown :=
  match db.orders.find? orderId with
  | none => ⟨0, 0, 0, 0, .DEBT_LEDGER⟩
  | some order =>
      if order.status = .CANCELED then ⟨0, order.totalPrice, 0, 0, .DEBT_LEDGER⟩
      else if isV20_3TrueAccountingEnabled env = true ∧ HasReceivableLine orderId db.journal then
        let breakdown := computeFromDebtLedger order.totalPrice
        ⟨max 0 (orderReceivable orderId db.journal), order.totalPrice, breakdown.paidKd,
          breakdown.walletAbsorbedKd, .JOURNAL_AR⟩
      else computeFromDebtLedger order.totalPrice

def statusFromRemaining (totalKd appliedKd remainingKd : ℤ) : InvoicePaymentStatus :=
  if remainingKd ≤ invoiceRemainingTolerance then .PAID
  else if invoiceRemainingTolerance < appliedKd ∨
      invoiceRemainingTolerance < totalKd - remainingKd then .PARTIALLY_PAID
  else .UNPAID

def derivePaymentStatus (env : Env) (db : Db) (orderId : Uuid) : InvoicePaymentStatusRow :=
  let breakdown := computeRemainingBalance env db orderId
  let status := statusFromRemaining breakdown.totalKd
    (breakdown.paidKd + breakdown.walletAbsorbedKd) breakdown.remainingKd
  ⟨orderId, breakdown.totalKd, breakdown.paidKd, breakdown.remainingKd,
    breakdown.walletAbsorbedKd, status, status = .PARTIALLY_PAID, status = .PAID,
    breakdown.source⟩

def Overpaid (db : Db) (orderId : Uuid) : Prop :=
  orderReceivable orderId db.journal < 0

/-- The single answer is the entry of every batch that holds the order, in whatever order
the rows come back, and the parts of the row add up to its total. -/
structure PaymentStatusSound (env : Env) (db : Db) (orderId : Uuid) : Prop where
  batches : ∀ db', SameRows db db' → ∀ batch, orderId ∈ batch →
    computeOrderRemainingBalancesBatch env db' batch orderId =
      some (computeRemainingBalance env db orderId).remainingKd
  parts : ¬ Overpaid db orderId → (derivePaymentStatus env db orderId).totalAmountKd =
      (derivePaymentStatus env db orderId).paidAmountKd +
        (derivePaymentStatus env db orderId).walletAbsorbedKd +
        (derivePaymentStatus env db orderId).remainingAmountKd

def NetsOwnLines (env : Env) (journal : List JournalEntry) (orderId : Uuid) : Prop :=
  isV20_3TrueAccountingEnabled env = true ∧ HasReceivableLine orderId journal
  deriving Decidable

/-- The two readers agree on an order that is not canceled.  Where both net its lines,
nothing is owed or no credit is unlinked.  Where only the single one does, nothing is
owed.  Where only the batch does, the gross total is what it leaves open, wherever the
order stands in the queue.  Where neither does, the total is zero. -/
def ReadersMeet (env : Env) (db : Db) (order : Order) : Prop :=
  if NetsOwnLines env db.journal order.id then
    if isJournalAsSourceEnabled env = true then
      orderReceivable order.id db.journal ≤ 0 ∨ unlinkedCredits order.customerId db.journal = 0
    else orderReceivable order.id db.journal ≤ 0
  else if isJournalAsSourceEnabled env = true ∧ HasReceivableLine order.id db.journal then
    order.totalPrice = openAlone order db.journal ∧ ShareSettled db order
  else order.totalPrice = 0

/-- Nothing of the order was paid yet, as far as the single reader looks. -/
def PartsMeet (env : Env) (db : Db) (order : Order) : Prop :=
  Overpaid db order.id ∨ if order.status = .CANCELED then order.totalPrice = 0
    else NetsOwnLines env db.journal order.id →
      order.totalPrice = orderReceivable order.id db.journal

/-! ## Exactly when -/

variable {env : Env} {db : Db} {order : Order}

theorem computeRemainingBalance_eq (hfind : db.orders.find? order.id = some order) :
    (computeRemainingBalance env db order.id).remainingKd = if order.status = .CANCELED then 0
      else if NetsOwnLines env db.journal order.id then
        max 0 (orderReceivable order.id db.journal)
      else order.totalPrice := by
  unfold computeRemainingBalance NetsOwnLines
  rw [hfind]
  by_cases hcanceled : order.status = .CANCELED
  · simp [hcanceled]
  · by_cases hnets : isV20_3TrueAccountingEnabled env = true ∧ HasReceivableLine order.id db.journal
    · simp [hcanceled, hnets]
    · simp [hcanceled, hnets, computeFromDebtLedger]

theorem derivePaymentStatus_parts (env : Env) (hfind : db.orders.find? order.id = some order) :
    (derivePaymentStatus env db order.id).totalAmountKd = order.totalPrice ∧
      (derivePaymentStatus env db order.id).paidAmountKd = 0 ∧
      (derivePaymentStatus env db order.id).walletAbsorbedKd = 0 := by
  unfold derivePaymentStatus computeRemainingBalance
  rw [hfind]
  by_cases hcanceled : order.status = .CANCELED
  · simp [hcanceled]
  · by_cases hnets : isV20_3TrueAccountingEnabled env = true ∧ HasReceivableLine order.id db.journal
    · simp [hcanceled, hnets, computeFromDebtLedger]
    · simp [hcanceled, hnets, computeFromDebtLedger]

/-- All batches say the same of an order, namely `amount`, exactly if its share of the
unlinked credits is settled and the batch of one says so. -/
theorem batches_eq_iff (hmem : order ∈ db.orders.rows) (amount : ℤ) :
    (∀ db', SameRows db db' → ∀ batch, order.id ∈ batch →
        computeOrderRemainingBalancesBatch env db' batch order.id = some amount) ↔
      if JournalDecides env db.journal order then
        amount = openAlone order db.journal ∧ ShareSettled db order
      else amount = 0 := by
  have hcredits := unlinkedCredits_nonneg order.customerId db.journal
  have halone := remainingBatch_alone env hmem
  have hrefl : SameRows db db := ⟨List.Perm.refl _, List.Perm.refl _⟩
  by_cases hdecides : JournalDecides env db.journal order
  · rw [if_pos hdecides]
    rw [if_pos hdecides, leftOpen_first hcredits] at halone
    constructor
    · intro hall
      have hone := hall db hrefl [order.id] (List.mem_singleton_self _)
      obtain ⟨last, batch, hlast, hbatch, hbehind⟩ :=
        exists_remainingBatch_last env hmem
      have hothers := hall last hlast batch hbatch
      rw [halone] at hone
      rw [hbehind, if_pos hdecides] at hothers
      have hfirst : amount = openAlone order db.journal := (Option.some.inj hone).symm
      refine ⟨hfirst, (leftOpen_eq_first_iff (owedTogether_nonneg _) hcredits).1 ?_⟩
      exact (Option.some.inj hothers).trans (hfirst.trans (leftOpen_first hcredits).symm)
    · rintro ⟨rfl, hsettled⟩ db' hsame batch hbatch
      rw [remainingBatch_of_settled hsame hmem hbatch fun _ => hsettled, if_pos hdecides,
        leftOpen_first hcredits]
      rfl
  · rw [if_neg hdecides]
    rw [if_neg hdecides] at halone
    constructor
    · intro hall
      have hone := hall db hrefl [order.id] (List.mem_singleton_self _)
      rw [halone] at hone
      exact (Option.some.inj hone).symm
    · rintro rfl db' hsame batch hbatch
      rw [remainingBatch_of_settled hsame hmem hbatch fun h => absurd h hdecides, if_neg hdecides]

theorem readersMeet_iff (hfind : db.orders.find? order.id = some order) :
    (∀ db', SameRows db db' → ∀ batch, order.id ∈ batch →
        computeOrderRemainingBalancesBatch env db' batch order.id =
          some (computeRemainingBalance env db order.id).remainingKd) ↔
      order.status = .CANCELED ∨ ReadersMeet env db order := by
  have hcredits := unlinkedCredits_nonneg order.customerId db.journal
  rw [batches_eq_iff (Table.mem_of_find? hfind), computeRemainingBalance_eq hfind]
  unfold ReadersMeet
  by_cases hcanceled : order.status = .CANCELED
  · have hnot : ¬ JournalDecides env db.journal order := fun hdecides => hdecides.1 hcanceled
    simp [hcanceled, hnot]
  · rw [if_neg hcanceled]
    simp only [hcanceled, false_or]
    by_cases hnets : NetsOwnLines env db.journal order.id
    · rw [if_pos hnets, if_pos hnets]
      by_cases hsource : isJournalAsSourceEnabled env = true
      · have hdecides : JournalDecides env db.journal order := ⟨hcanceled, hsource, hnets.2⟩
        rw [if_pos hdecides, if_pos hsource]
        unfold openAlone ShareSettled
        omega
      · have hnot : ¬ JournalDecides env db.journal order :=
          fun hdecides => hsource hdecides.2.1
        rw [if_neg hnot, if_neg hsource]
        omega
    · rw [if_neg hnets, if_neg hnets]
      by_cases hbatch : isJournalAsSourceEnabled env = true ∧ HasReceivableLine order.id db.journal
      · have hdecides : JournalDecides env db.journal order := ⟨hcanceled, hbatch⟩
        rw [if_pos hdecides, if_pos hbatch]
      · have hnot : ¬ JournalDecides env db.journal order := fun hdecides => hbatch hdecides.2
        rw [if_neg hnot, if_neg hbatch]

theorem partsMeet_iff (hfind : db.orders.find? order.id = some order) :
    (¬ Overpaid db order.id → (derivePaymentStatus env db order.id).totalAmountKd =
          (derivePaymentStatus env db order.id).paidAmountKd +
            (derivePaymentStatus env db order.id).walletAbsorbedKd +
            (derivePaymentStatus env db order.id).remainingAmountKd) ↔
      PartsMeet env db order := by
  obtain ⟨htotal, hpaid, habsorbed⟩ := derivePaymentStatus_parts env hfind
  have hremaining : (derivePaymentStatus env db order.id).remainingAmountKd =
      (computeRemainingBalance env db order.id).remainingKd := rfl
  rw [htotal, hpaid, habsorbed, hremaining, computeRemainingBalance_eq hfind]
  unfold PartsMeet
  by_cases hover : Overpaid db order.id
  · simp [hover]
  · have howed : 0 ≤ orderReceivable order.id db.journal := not_lt.1 hover
    by_cases hcanceled : order.status = .CANCELED
    · simp [hover, hcanceled]
    · by_cases hnets : NetsOwnLines env db.journal order.id
      · simp [hover, hcanceled, hnets, howed]
      · simp [hover, hcanceled, hnets]

/-- The single answer is every batch's, and the row adds up, exactly if the two readers
look at the same lines with no unlinked credit in between, and nothing was paid. -/
theorem paymentStatus_sound_iff (env : Env) (db : Db) (order : Order)
    (hfind : db.orders.find? order.id = some order) :
    PaymentStatusSound env db order.id ↔
      (order.status = .CANCELED ∨ ReadersMeet env db order) ∧ PartsMeet env db order := by
  rw [← readersMeet_iff hfind, ← partsMeet_iff hfind]
  constructor
  · rintro ⟨hbatches, hparts⟩
    exact ⟨hbatches, hparts⟩
  · rintro ⟨hbatches, hparts⟩
    exact ⟨hbatches, hparts⟩

theorem paymentStatus_sound_iff_sample :
    PaymentStatusSound { Env.default with v20_4FinalLedger := true }
        (Sample.sharedCreditShop 0) "first" ↔
      ((Sample.order "first").status = .CANCELED ∨
          ReadersMeet { Env.default with v20_4FinalLedger := true } (Sample.sharedCreditShop 0)
            (Sample.order "first")) ∧
        PartsMeet { Env.default with v20_4FinalLedger := true } (Sample.sharedCreditShop 0)
          (Sample.order "first") :=
  paymentStatus_sound_iff _ _ (Sample.order "first") (by decide)

theorem paymentStatus_sound_fails :
    ¬ ∀ (env : Env) (db : Db) (order : Order), db.orders.find? order.id = some order →
      PaymentStatusSound env db order.id := by
  intro hall
  have hsound := hall { Env.default with v20_3TrueAccounting := true } Sample.indebtedShop
    (Sample.order "order") (by decide)
  have hentry := hsound.batches Sample.indebtedShop ⟨List.Perm.refl _, List.Perm.refl _⟩
    ["order"] (List.mem_singleton_self _)
  revert hentry
  decide +kernel

end SafariLaundry
