import SafariLaundry.Library.Allocation
import SafariLaundry.Settlement

/-!
# What a customer owes

The readers that say what is still open on an order and what a customer owes in
total, and the writer that recognises a payment-link order as a receivable when
the link is made.
-/

namespace SafariLaundry

open Library Library.Bookkeeping Library.Transaction

/-! ## Open amounts -/

def orderReceivable (orderId : Uuid) (journal : List JournalEntry) : ℤ :=
  tally (fun entry =>
    if entry.orderId = some orderId then net .ACCOUNTS_RECEIVABLE entry.lines else 0) journal

def HasReceivableLine (orderId : Uuid) (journal : List JournalEntry) : Prop :=
  ∃ entry ∈ journal, entry.orderId = some orderId ∧
    ∃ line ∈ entry.lines, line.account = .ACCOUNTS_RECEIVABLE
  deriving Decidable

def unlinkedCredits (customerId : Uuid) (journal : List JournalEntry) : ℤ :=
  tally (fun entry =>
    if entry.customerId = some customerId ∧ entry.orderId = none then
      (entry.lines.map fun line =>
        if line.account = .ACCOUNTS_RECEIVABLE ∧ 0 < line.credit then line.credit
        else 0).sum
    else 0) journal

theorem orderReceivable_append (orderId : Uuid) (first second : List JournalEntry) :
    orderReceivable orderId (first ++ second) =
      orderReceivable orderId first + orderReceivable orderId second :=
  tally_append _ first second

theorem unlinkedCredits_append (customerId : Uuid) (first second : List JournalEntry) :
    unlinkedCredits customerId (first ++ second) =
      unlinkedCredits customerId first + unlinkedCredits customerId second :=
  tally_append _ first second

theorem unlinkedCredits_of_order (customerId : Uuid) {entry : JournalEntry}
    (horder : entry.orderId ≠ none) :
    unlinkedCredits customerId [entry] = 0 := by
  unfold unlinkedCredits
  rw [tally_cons, tally_nil, if_neg fun hboth => horder hboth.2, add_zero]

theorem orderReceivable_pair {posting : PairPosting} {orderId : Uuid}
    (horder : posting.orderId = some orderId) :
    orderReceivable orderId [posting.input.entry] =
      (if posting.debited = .ACCOUNTS_RECEIVABLE then posting.amount else 0) -
        (if posting.credited = .ACCOUNTS_RECEIVABLE then posting.amount else 0) := by
  have hcustomer := customerNet_pair .ACCOUNTS_RECEIVABLE posting
  rw [← hcustomer]
  unfold orderReceivable customerNet
  rw [tally_cons, tally_cons, tally_nil, tally_nil,
    if_pos (show posting.input.entry.orderId = some orderId from horder),
    if_pos (show posting.input.entry.customerId = some posting.customerId from rfl)]

theorem orderReceivable_postAll {posting : PairPosting} {orderId : Uuid}
    (horder : posting.orderId = some orderId) (journal : List JournalEntry) :
    orderReceivable orderId (postAll JournalEntry.sourceRef journal posting.entries) =
      orderReceivable orderId journal +
        if 0 < posting.amount ∧ ¬ Recorded journal posting.sourceRef then
          (if posting.debited = .ACCOUNTS_RECEIVABLE then posting.amount else 0) -
            (if posting.credited = .ACCOUNTS_RECEIVABLE then posting.amount else 0)
        else 0 := by
  by_cases hamount : 0 < posting.amount
  · rw [PairPosting.entries_of_pos hamount, postAll_cons, postAll_nil, post]
    have hkey : posting.input.entry.sourceRef = posting.sourceRef := rfl
    rw [hkey]
    by_cases hrecorded : Recorded journal posting.sourceRef
    · rw [if_pos hrecorded, if_neg fun hnew => hnew.2 hrecorded, add_zero]
    · rw [if_neg hrecorded, if_pos ⟨hamount, hrecorded⟩, orderReceivable_append,
        orderReceivable_pair horder]
  · rw [PairPosting.entries_of_nonpos (not_lt.1 hamount), postAll_nil,
      if_neg fun hnew => hamount hnew.1, add_zero]

theorem recorded_postAll_pair (posting : PairPosting) (journal : List JournalEntry)
    (ref : SourceRef) :
    Recorded (postAll JournalEntry.sourceRef journal posting.entries) ref ↔
      Recorded journal ref ∨ (0 < posting.amount ∧ posting.sourceRef = ref) := by
  apply (posted_postAll JournalEntry.sourceRef journal posting.entries ref).trans
  by_cases hamount : 0 < posting.amount
  · rw [PairPosting.entries_of_pos hamount, posted_singleton]
    simp only [hamount, true_and]
    exact Iff.rfl
  · rw [PairPosting.entries_of_nonpos (not_lt.1 hamount)]
    simp [hamount]

def applyCredits : List (Uuid × ℤ) → ℤ → List (Uuid × ℤ)
  | [], _ => []
  | (orderId, owed) :: rest, budget =>
      if budget ≤ 0 then (orderId, owed) :: rest
      else if owed ≤ 0 then (orderId, owed) :: applyCredits rest budget
      else (orderId, owed - min budget owed) :: applyCredits rest (budget - min budget owed)

def trackedNets (db : Db) (orderIds : List Uuid) (customerId : Uuid) : List (Uuid × ℤ) :=
  (db.orders.rows.filter fun order =>
      order.id ∈ orderIds ∧ order.status ≠ .CANCELED ∧ order.customerId = customerId ∧
        HasReceivableLine order.id db.journal).map
    fun order => (order.id, orderReceivable order.id db.journal)

/-- `computeOrderRemainingBalancesBatch`: the map from the batch's orders to what
is still open on them; `none` for an id that is no order of the batch. -/
def computeOrderRemainingBalancesBatch (env : Env) (db : Db) (orderIds : List Uuid)
    (orderId : Uuid) : Option ℤ :=
  match (db.orders.rows.filter fun order => order.id ∈ orderIds).find?
      fun order => order.id = orderId with
  | none => none
  | some order =>
      if order.status = .CANCELED then some 0
      else if isJournalAsSourceEnabled env = true ∧ HasReceivableLine orderId db.journal then
        let nets := applyCredits (trackedNets db orderIds order.customerId)
          (unlinkedCredits order.customerId db.journal)
        some (max 0 (((nets.find? fun entry => entry.1 = orderId).map Prod.snd).getD 0))
      else some 0

def computeOrderRemainingBalance (env : Env) (db : Db) (orderId : Uuid) : ℤ :=
  (computeOrderRemainingBalancesBatch env db [orderId] orderId).getD 0

def customerNetDebt (customerId : Uuid) (db : Db) : ℤ :=
  max 0 (receivable customerId db.journal)

def customerDebtSnapshotTotal (customerId : Uuid) (db : Db) : ℤ :=
  let wallet := db.wallets customerId
  wallet.debt + if wallet.balance < 0 then -wallet.balance else 0

def operationalDebt (customerId : Uuid) (db : Db) : ℤ :=
  max (customerNetDebt customerId db) (customerDebtSnapshotTotal customerId db)

theorem operationalDebt_nonneg (customerId : Uuid) (db : Db) :
    0 ≤ operationalDebt customerId db :=
  (le_max_left 0 _).trans (le_max_left _ _)

def openInvoices (customerId : Uuid) (db : Db) : List Order :=
  (db.orders.rows.filter fun order =>
      order.customerId = customerId ∧ order.cashStatus = .UNPAID ∧
        order.status ≠ .CANCELED).insertionSort
    fun first second => first.createdAt ≤ second.createdAt

theorem openInvoices_ids_nodup (customerId : Uuid) (db : Db) :
    ((openInvoices customerId db).map Order.id).Nodup := by
  have hperm := List.perm_insertionSort
    (fun first second : Order => first.createdAt ≤ second.createdAt)
    (db.orders.rows.filter fun order =>
      order.customerId = customerId ∧ order.cashStatus = .UNPAID ∧ order.status ≠ .CANCELED)
  have hids := (hperm.map Order.id).nodup_iff
  exact hids.2 ((List.filter_sublist.map Order.id).nodup db.orders.keysDistinct)

def systemActorId : Uuid := "00000000-0000-0000-0000-000000000000"

def paymentLinkReceivableEntry (orderId customerId : Uuid) (amount : ℤ) : PairPosting where
  source := "PAYMENT_LINK_RECEIVABLE"
  sourceRef := paymentLinkReceivableSourceRef orderId
  actorUserId := systemActorId
  customerId := customerId
  orderId := some orderId
  debited := .ACCOUNTS_RECEIVABLE
  credited := .REVENUE
  amount := amount

def registerPendingPaymentLinkReceivableTx (env : Env) (orderId customerId : Uuid)
    (amount : ℤ) : Tx Unit :=
  if amount ≤ 0 then pure () else do
    let existing ← reads fun db =>
      decide (Recorded db.journal (paymentLinkReceivableSourceRef orderId))
    if existing = true then pure () else do
      let wallet ← reads fun db => db.wallets customerId
      updateWallet customerId { wallet with debt := wallet.debt + amount }
      appendBalanced env (paymentLinkReceivableEntry orderId customerId amount).input

end SafariLaundry
