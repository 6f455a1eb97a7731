import SafariLaundry.CashCustody
import SafariLaundry.Expenses
import SafariLaundry.Library.OrderedMap

/-!
# The double-entry projection of the general ledger

The projection reads the single-entry ledger and the custody bags of a period and makes
a balanced pair of every row with a positive amount.  Rows that take something back have
negative amounts.
-/

namespace SafariLaundry

open Library Library.Bookkeeping

structure LedgerSourceRow where
  id : Uuid
  entryType : GeneralLedgerEntryType
  amount : ℤ
  (actorUserId orderId customerId expenseId : Option Uuid)
  createdAt : Timestamp
  (posPaymentMethod category event : Option String)

structure ProjectionDb where
  generalLedger : List LedgerSourceRow
  users : List User
  expenses : List BranchExpense
  custodies : List ManagerCashCustody

/-- The period, where a text that is no date gives `none`. -/
structure LedgerProjectionInput where
  (fromIso toIso : Option Timestamp)

inductive LedgerAccount
  | DRIVER (userId : Uuid) | MANAGER (userId : Uuid) | COMPANY_CASH | BANK_ACCOUNT
  | REVENUE_POS | EXPENSE (category : String) | UNATTRIBUTED
  deriving DecidableEq

def LedgerAccount.accountId : LedgerAccount → String
  | .DRIVER userId => "DRIVER_" ++ userId
  | .MANAGER userId => "MANAGER_" ++ userId
  | .COMPANY_CASH => "COMPANY_CASH"
  | .BANK_ACCOUNT => "BANK_ACCOUNT"
  | .REVENUE_POS => "REVENUE_POS"
  | .EXPENSE category => "EXPENSE_" ++ category
  | .UNATTRIBUTED => "UNATTRIBUTED"

def LedgerAccount.IsExpense : LedgerAccount → Prop
  | .EXPENSE _ => True
  | _ => False

instance : DecidablePred LedgerAccount.IsExpense := fun account => by
  cases account <;> (unfold LedgerAccount.IsExpense; infer_instance)

inductive ProjectionMeta
  | posSale (posPaymentMethod : Option String) (actorRole : Option SafariRole)
      (orderId customerId actorUserId : Option Uuid)
  | expense (expenseId actorUserId : Option Uuid) (recorderRole : Option SafariRole)
      (event : Option String)
  | handover (custodyId : Uuid) (branchId : Option Uuid) (status : ManagerCashCustodyStatus)
  | verified (custodyId : Uuid) (branchId : Option Uuid)

structure LedgerEntry where
  (txId id : String)
  account : LedgerAccount
  (debit credit : ℤ)
  createdAt : Timestamp
  source : ProjectionMeta

def pair (txId : String) (createdAt : Timestamp) (debitAccount creditAccount : LedgerAccount)
    (amount : ℤ) (source : ProjectionMeta) : List LedgerEntry :=
  if amount ≤ 0 then []
  else [⟨txId, txId ++ ":DR:0", debitAccount, amount, 0, createdAt, source⟩,
    ⟨txId, txId ++ ":CR:0", creditAccount, 0, amount, createdAt, source⟩]

section Project

variable (db : ProjectionDb) (since upTo : Timestamp)

def periodRows (entryType : GeneralLedgerEntryType) : List LedgerSourceRow :=
  db.generalLedger.filter fun row =>
    row.entryType = entryType ∧ since ≤ row.createdAt ∧ row.createdAt ≤ upTo

def roleOfUser (userId : Uuid) : Option SafariRole :=
  (db.users.find? fun user => user.id = userId).map User.safariRole

def posRows : List LedgerSourceRow := periodRows db since upTo .POS_SALE_COMPLETED

def cashActorIds : List Uuid :=
  ((posRows db since upTo).filter fun row => row.posPaymentMethod = some "CASH").filterMap
    LedgerSourceRow.actorUserId

def actorRole (userId : Uuid) : Option SafariRole :=
  if userId ∈ cashActorIds db since upTo then roleOfUser db userId else none

def posDebitAccount (row : LedgerSourceRow) : LedgerAccount :=
  match row.posPaymentMethod.getD "" with
  | "CASH" =>
      match row.actorUserId with
      | none => .UNATTRIBUTED
      | some actorUserId =>
          match actorRole db since upTo actorUserId with
          | some .DRIVER => .DRIVER actorUserId
          | some .MANAGER => .MANAGER actorUserId
          | none => .UNATTRIBUTED
          | some _ => .COMPANY_CASH
  | "KNET" | "PAYMENT_LINK" | "ONLINE" => .BANK_ACCOUNT
  | "DEBT_ON_ACCOUNT" | "SUBSCRIPTION_WALLET" => .COMPANY_CASH
  | _ => .UNATTRIBUTED

def posEntries (row : LedgerSourceRow) : List LedgerEntry :=
  pair ("gl:" ++ row.id) row.createdAt (posDebitAccount db since upTo row) .REVENUE_POS
    row.amount
    (.posSale (row.posPaymentMethod.filter fun method => method ≠ "")
      (row.actorUserId.bind (actorRole db since upTo)) row.orderId row.customerId
      row.actorUserId)

def expenseRows : List LedgerSourceRow :=
  (periodRows db since upTo .EXPENSE_RECORDED).filter fun row => 0 < row.amount

def expenseIds : List Uuid := (expenseRows db since upTo).filterMap LedgerSourceRow.expenseId

def expenseOf (row : LedgerSourceRow) : Option BranchExpense :=
  row.expenseId.bind fun expenseId => db.expenses.find? fun expense => expense.id = expenseId

def expenseCreditAccount (row : LedgerSourceRow) : LedgerAccount :=
  match expenseOf db row with
  | none => .COMPANY_CASH
  | some expense =>
      match roleOfUser db expense.recordedById with
      | some .DRIVER => .DRIVER expense.recordedById
      | some .MANAGER => .MANAGER expense.recordedById
      | _ => .COMPANY_CASH

def expenseEntries (row : LedgerSourceRow) : List LedgerEntry :=
  pair ("gl:" ++ row.id) row.createdAt (.EXPENSE (row.category.getD "MISC"))
    (expenseCreditAccount db row) row.amount
    (.expense row.expenseId row.actorUserId
      ((expenseOf db row).bind fun expense => roleOfUser db expense.recordedById) row.event)

def handoverBags : List ManagerCashCustody :=
  db.custodies.filter fun bag =>
    since ≤ bag.receivedFromDriverAt ∧ bag.receivedFromDriverAt ≤ upTo

def handoverEntries (bag : ManagerCashCustody) : List LedgerEntry :=
  pair ("mch:" ++ bag.id ++ ":HANDOVER") bag.receivedFromDriverAt (.MANAGER bag.managerId)
    (.DRIVER bag.driverId) bag.amountKd (.handover bag.id bag.branchId bag.status)

def verifiedBags : List ManagerCashCustody :=
  db.custodies.filter fun bag => bag.status = .VERIFIED ∧
    ∃ verifiedAt ∈ bag.verifiedAt, since ≤ verifiedAt ∧ verifiedAt ≤ upTo

def verifiedEntries (bag : ManagerCashCustody) : List LedgerEntry :=
  match bag.verifiedAt with
  | none => []
  | some verifiedAt =>
      pair ("mch:" ++ bag.id ++ ":VERIFIED") verifiedAt .BANK_ACCOUNT (.MANAGER bag.managerId)
        bag.amountKd (.verified bag.id bag.branchId)

def projectedEntries : List LedgerEntry :=
  (posRows db since upTo).flatMap (posEntries db since upTo) ++
    (if expenseIds db since upTo ≠ [] then
      (expenseRows db since upTo).flatMap (expenseEntries db)
    else []) ++
    (handoverBags db since upTo).flatMap handoverEntries ++
    (verifiedBags db since upTo).flatMap verifiedEntries

end Project

def LedgerEntry.Before (first second : LedgerEntry) : Prop :=
  if first.createdAt ≠ second.createdAt then first.createdAt < second.createdAt
  else if first.txId ≠ second.txId then first.txId < second.txId
  else first.id < second.id
  deriving Decidable

def project (db : ProjectionDb) (input : LedgerProjectionInput) :
    Except String (List LedgerEntry) :=
  match input.fromIso, input.toIso with
  | some since, some upTo =>
      .ok ((projectedEntries db since upTo).insertionSort LedgerEntry.Before)
  | _, _ => .error "Invalid date range"

structure AccountBalanceRow where
  account : LedgerAccount
  (totalDebit totalCredit balance : ℤ)
  entryCount : ℕ

def LedgerEntry.amounts (entry : LedgerEntry) : ℤ × ℤ × ℕ := (entry.debit, entry.credit, 1)

def aggregateAccounts (collate : String → String → Bool) (entries : List LedgerEntry) :
    List AccountBalanceRow :=
  ((OrderedMap.sumBy LedgerEntry.account LedgerEntry.amounts entries).rows.map fun row =>
      (⟨row.1, row.2.1, row.2.2.1, row.2.1 - row.2.2.1, row.2.2.2⟩ : AccountBalanceRow)).insertionSort
    fun first second => collate first.account.accountId second.account.accountId = true

inductive ReconciliationStatus
  | PASS | FAIL

structure UnbalancedTransaction where
  txId : String
  (debit credit delta : ℤ)

structure ReconciliationReport where
  status : ReconciliationStatus
  (totalEntries totalTransactions : ℕ)
  (globalDebit globalCredit : ℤ)
  unbalancedTransactions : List UnbalancedTransaction
  unattributedEntries : ℕ

def reconcile (entries : List LedgerEntry) : ReconciliationReport :=
  let txs := OrderedMap.sumBy LedgerEntry.txId LedgerEntry.amounts entries
  let unbalanced := (txs.rows.map fun row =>
    (⟨row.1, row.2.1, row.2.2.1, row.2.1 - row.2.2.1⟩ : UnbalancedTransaction)).filter
      fun tx => tx.delta ≠ 0
  let globalDebit := tally LedgerEntry.debit entries
  let globalCredit := tally LedgerEntry.credit entries
  { status := if unbalanced = [] ∧ globalDebit = globalCredit then .PASS else .FAIL
    totalEntries := entries.length
    totalTransactions := txs.rows.length
    globalDebit := globalDebit
    globalCredit := globalCredit
    unbalancedTransactions := unbalanced
    unattributedEntries := (entries.filter fun entry => entry.account = .UNATTRIBUTED).length }

/-! ## What a reading of the entries comes to -/

def netOn (p : LedgerAccount → Prop) [DecidablePred p] (entry : LedgerEntry) : ℤ :=
  if p entry.account then entry.debit - entry.credit else 0

def accountsNet (p : LedgerAccount → Prop) [DecidablePred p] (rows : List AccountBalanceRow) :
    ℤ :=
  tally (fun row => if p row.account then row.balance else 0) rows

def balanceHom : ℤ × ℤ × ℕ →+ ℤ where
  toFun := fun amounts => amounts.1 - amounts.2.1
  map_zero' := rfl
  map_add' := by
    intro first second
    change first.1 + second.1 - (first.2.1 + second.2.1) = _
    omega

variable {p : LedgerAccount → Prop} [DecidablePred p]

theorem accountsNet_aggregateAccounts (collate : String → String → Bool)
    (entries : List LedgerEntry) :
    accountsNet p (aggregateAccounts collate entries) = tally (netOn p) entries := by
  unfold accountsNet aggregateAccounts
  rw [tally_perm _ (List.perm_insertionSort ..), tally_map]
  have hparts := OrderedMap.tally_sumBy (fun account => if p account then balanceHom else 0)
    LedgerEntry.account LedgerEntry.amounts entries
  have hread : ∀ (account : LedgerAccount) (amounts : ℤ × ℤ × ℕ),
      (if p account then balanceHom else 0) amounts =
        if p account then amounts.1 - amounts.2.1 else 0 := by
    intro account amounts
    by_cases hp : p account
    · rw [if_pos hp, if_pos hp]
      rfl
    · rw [if_neg hp, if_neg hp]
      rfl
  simp only [hread] at hparts
  exact hparts

theorem tally_netOn_pair {txId : String} {createdAt : Timestamp}
    {debitAccount creditAccount : LedgerAccount} {amount : ℤ} {source : ProjectionMeta} :
    tally (netOn p) (pair txId createdAt debitAccount creditAccount amount source) =
      (if p debitAccount then max 0 amount else 0) -
        if p creditAccount then max 0 amount else 0 := by
  unfold pair
  by_cases hamount : amount ≤ 0
  · rw [if_pos hamount, max_eq_left hamount]
    simp
  · rw [if_neg hamount, max_eq_right (by omega), tally_cons, tally_cons, tally_nil]
    unfold netOn
    by_cases hdebit : p debitAccount
    · by_cases hcredit : p creditAccount
      · simp [hdebit, hcredit]
      · simp [hdebit, hcredit]
    · by_cases hcredit : p creditAccount
      · simp [hdebit, hcredit]
      · simp [hdebit, hcredit]

theorem balanced_ledgerPair {txId : String} {createdAt : Timestamp}
    {debitAccount creditAccount : LedgerAccount} {amount : ℤ} {source : ProjectionMeta}
    (tx : String) :
    tally (fun entry => if entry.txId = tx then entry.debit - entry.credit else 0)
      (pair txId createdAt debitAccount creditAccount amount source) = 0 := by
  unfold pair
  by_cases hamount : amount ≤ 0
  · rw [if_pos hamount]
    rfl
  · rw [if_neg hamount]
    by_cases hsame : txId = tx
    · simp [hsame]
    · simp [hsame]

section Nets

variable (db : ProjectionDb) (since upTo : Timestamp)

theorem not_posDebitAccount {p : LedgerAccount → Prop}
    (hholders : ∀ userId, ¬ p (.DRIVER userId) ∧ ¬ p (.MANAGER userId))
    (hcash : ¬ p .COMPANY_CASH) (hbank : ¬ p .BANK_ACCOUNT) (hnone : ¬ p .UNATTRIBUTED)
    (row : LedgerSourceRow) :
    ¬ p (posDebitAccount db since upTo row) := by
  unfold posDebitAccount
  split
  · cases row.actorUserId with
    | none => exact hnone
    | some actorUserId =>
        dsimp only
        split
        · exact (hholders actorUserId).1
        · exact (hholders actorUserId).2
        · exact hnone
        · exact hcash
  · exact hbank
  · exact hbank
  · exact hbank
  · exact hcash
  · exact hcash
  · exact hnone

theorem not_expenseCreditAccount {p : LedgerAccount → Prop}
    (hholders : ∀ userId, ¬ p (.DRIVER userId) ∧ ¬ p (.MANAGER userId))
    (hcash : ¬ p .COMPANY_CASH) (row : LedgerSourceRow) :
    ¬ p (expenseCreditAccount db row) := by
  unfold expenseCreditAccount
  cases expenseOf db row with
  | none => exact hcash
  | some expense =>
      dsimp only
      split
      · exact (hholders expense.recordedById).1
      · exact (hholders expense.recordedById).2
      · exact hcash

theorem tally_netOn_projectedEntries {p : LedgerAccount → Prop} [DecidablePred p]
    (hholders : ∀ userId, ¬ p (.DRIVER userId) ∧ ¬ p (.MANAGER userId))
    (hcash : ¬ p .COMPANY_CASH) (hbank : ¬ p .BANK_ACCOUNT) (hnone : ¬ p .UNATTRIBUTED) :
    tally (netOn p) (projectedEntries db since upTo) = (if expenseIds db since upTo ≠ [] then
        tally (fun row => if p (.EXPENSE (row.category.getD "MISC")) then max 0 row.amount else 0)
          (expenseRows db since upTo)
      else 0) - tally (fun row => if p .REVENUE_POS then max 0 row.amount else 0)
          (posRows db since upTo) := by
  have hsales : tally (netOn p) ((posRows db since upTo).flatMap (posEntries db since upTo)) =
      -tally (fun row => if p .REVENUE_POS then max 0 row.amount else 0)
        (posRows db since upTo) := by
    rw [tally_flatMap]
    induction posRows db since upTo with
    | nil => rfl
    | cons row rest ih =>
        rw [tally_cons, tally_cons, ih, posEntries, tally_netOn_pair,
          if_neg (not_posDebitAccount db since upTo hholders hcash hbank hnone row)]
        omega
  have hexpenses : tally (netOn p) ((expenseRows db since upTo).flatMap (expenseEntries db)) =
      tally (fun row => if p (.EXPENSE (row.category.getD "MISC")) then max 0 row.amount else 0)
        (expenseRows db since upTo) := by
    rw [tally_flatMap]
    apply tally_congr
    intro row _
    rw [expenseEntries, tally_netOn_pair,
      if_neg (not_expenseCreditAccount db hholders hcash row), sub_zero]
  have hhandovers : tally (netOn p) ((handoverBags db since upTo).flatMap handoverEntries) = 0 := by
    rw [tally_flatMap]
    apply tally_eq_zero
    intro bag _
    rw [handoverEntries, tally_netOn_pair, if_neg (hholders bag.managerId).2,
      if_neg (hholders bag.driverId).1, sub_zero]
  have hverified : tally (netOn p) ((verifiedBags db since upTo).flatMap verifiedEntries) = 0 := by
    rw [tally_flatMap]
    apply tally_eq_zero
    intro bag _
    unfold verifiedEntries
    cases bag.verifiedAt with
    | none => rfl
    | some verifiedAt =>
        dsimp only
        rw [tally_netOn_pair, if_neg hbank, if_neg (hholders bag.managerId).2, sub_zero]
  unfold projectedEntries
  rw [tally_append, tally_append, tally_append, hsales, hhandovers, hverified]
  by_cases hnamed : expenseIds db since upTo ≠ []
  · rw [if_pos hnamed, if_pos hnamed, hexpenses]
    omega
  · rw [if_neg hnamed, if_neg hnamed, tally_nil]
    omega

theorem balanced_projectedEntries (tx : String) :
    tally (fun entry => if entry.txId = tx then entry.debit - entry.credit else 0)
      (projectedEntries db since upTo) = 0 := by
  have hpart : ∀ {α : Type} (items : List α) (entriesOf : α → List LedgerEntry),
      (∀ item, tally (fun entry => if entry.txId = tx then entry.debit - entry.credit else 0)
        (entriesOf item) = 0) →
      tally (fun entry => if entry.txId = tx then entry.debit - entry.credit else 0)
        (items.flatMap entriesOf) = 0 := by
    intro α items entriesOf hzero
    rw [tally_flatMap]
    exact tally_eq_zero _ fun item _ => hzero item
  have hverified : ∀ bag : ManagerCashCustody,
      tally (fun entry => if entry.txId = tx then entry.debit - entry.credit else 0)
        (verifiedEntries bag) = 0 := by
    intro bag
    unfold verifiedEntries
    cases bag.verifiedAt with
    | none => rfl
    | some verifiedAt => exact balanced_ledgerPair tx
  unfold projectedEntries
  rw [tally_append, tally_append, tally_append,
    hpart _ (posEntries db since upTo) fun row => balanced_ledgerPair tx,
    hpart _ handoverEntries fun bag => balanced_ledgerPair tx, hpart _ _ hverified]
  by_cases hnamed : expenseIds db since upTo ≠ []
  · rw [if_pos hnamed, hpart _ (expenseEntries db) fun row => balanced_ledgerPair tx]
    rfl
  · rw [if_neg hnamed]
    rfl

end Nets

/-! ## What is asked of the projection -/

/-- Every transaction is balanced; the accounts of revenue and of expenses come to the
signed sums of their rows. -/
structure ProjectionSound (collate : String → String → Bool) (db : ProjectionDb)
    (since upTo : Timestamp) (entries : List LedgerEntry) : Prop where
  balanced : ∀ txId, tally LedgerEntry.debit (entries.filter fun entry => entry.txId = txId) =
    tally LedgerEntry.credit (entries.filter fun entry => entry.txId = txId)
  revenue : -accountsNet (fun account => account = .REVENUE_POS)
      (aggregateAccounts collate entries) =
    tally LedgerSourceRow.amount (periodRows db since upTo .POS_SALE_COMPLETED)
  expenses : accountsNet LedgerAccount.IsExpense (aggregateAccounts collate entries) =
    tally LedgerSourceRow.amount (periodRows db since upTo .EXPENSE_RECORDED)

def NoSaleReversed (db : ProjectionDb) (since upTo : Timestamp) : Prop :=
  ∀ row ∈ periodRows db since upTo .POS_SALE_COMPLETED, 0 ≤ row.amount

def NoAccrualReversed (db : ProjectionDb) (since upTo : Timestamp) : Prop :=
  if expenseIds db since upTo ≠ [] then
    ∀ row ∈ periodRows db since upTo .EXPENSE_RECORDED, 0 ≤ row.amount
  else tally LedgerSourceRow.amount (periodRows db since upTo .EXPENSE_RECORDED) = 0

variable {collate : String → String → Bool} {db : ProjectionDb} {since upTo : Timestamp}

variable {entries : List LedgerEntry}

theorem project_eq_ok {input : LedgerProjectionInput} (hproject : project db input = .ok entries) :
    ∃ since upTo, input = ⟨some since, some upTo⟩ ∧
      entries = (projectedEntries db since upTo).insertionSort LedgerEntry.Before := by
  rcases input with ⟨fromIso, toIso⟩
  cases fromIso with
  | none => cases hproject
  | some since =>
      cases toIso with
      | none => cases hproject
      | some upTo => exact ⟨since, upTo, rfl, (Except.ok.inj hproject).symm⟩

theorem balanced_project (entries : List LedgerEntry)
    (hentries : entries = (projectedEntries db since upTo).insertionSort LedgerEntry.Before)
    (txId : String) :
    tally (fun entry => if entry.txId = txId then entry.debit - entry.credit else 0) entries =
      0 := by
  rw [hentries, tally_perm _ (List.perm_insertionSort ..)]
  exact balanced_projectedEntries db since upTo txId

theorem revenue_project
    (hentries : entries = (projectedEntries db since upTo).insertionSort LedgerEntry.Before) :
    -accountsNet (fun account => account = .REVENUE_POS) (aggregateAccounts collate entries) =
      tally (fun row => max 0 row.amount) (posRows db since upTo) := by
  rw [accountsNet_aggregateAccounts, hentries, tally_perm _ (List.perm_insertionSort ..),
    tally_netOn_projectedEntries db since upTo]
  · simp only [reduceCtorEq, if_false, if_true]
    have hnone : tally (fun _ : LedgerSourceRow => (0 : ℤ)) (expenseRows db since upTo) = 0 :=
      tally_eq_zero _ fun _ _ => rfl
    rw [hnone, ite_self]
    omega
  · exact fun userId => ⟨by simp, by simp⟩
  · simp
  · simp
  · simp

theorem expenses_project
    (hentries : entries = (projectedEntries db since upTo).insertionSort LedgerEntry.Before) :
    accountsNet LedgerAccount.IsExpense (aggregateAccounts collate entries) =
      if expenseIds db since upTo ≠ [] then
        tally (fun row => max 0 row.amount) (periodRows db since upTo .EXPENSE_RECORDED)
      else 0 := by
  rw [accountsNet_aggregateAccounts, hentries, tally_perm _ (List.perm_insertionSort ..),
    tally_netOn_projectedEntries db since upTo]
  · have hrevenue : tally (fun row : LedgerSourceRow =>
        if LedgerAccount.IsExpense .REVENUE_POS then max 0 row.amount else 0)
          (posRows db since upTo) = 0 := tally_eq_zero _ fun _ _ => rfl
    have hpositive : tally (fun row : LedgerSourceRow =>
        if LedgerAccount.IsExpense (.EXPENSE (row.category.getD "MISC")) then max 0 row.amount
        else 0) (expenseRows db since upTo) = tally (fun row => max 0 row.amount)
            (periodRows db since upTo .EXPENSE_RECORDED) := by
      unfold expenseRows
      rw [tally_filter]
      apply tally_congr
      intro row _
      rw [if_pos (show LedgerAccount.IsExpense (.EXPENSE _) from trivial)]
      by_cases hpos : 0 < row.amount
      · rw [if_pos hpos]
      · rw [if_neg hpos, max_eq_left (not_lt.1 hpos)]
    rw [hrevenue, hpositive, sub_zero]
  · exact fun userId => ⟨id, id⟩
  · exact id
  · exact id
  · exact id

/-- Every projection is balanced; it shows revenue and expenses as the ledger has them
exactly if nothing of the period was taken back and its accruals name their expenses. -/
theorem projection_sound_iff (collate : String → String → Bool) (db : ProjectionDb)
    (since upTo : Timestamp) {entries : List LedgerEntry}
    (hproject : project db ⟨some since, some upTo⟩ = .ok entries) :
    ProjectionSound collate db since upTo entries ↔
      NoSaleReversed db since upTo ∧ NoAccrualReversed db since upTo := by
  have hentries : entries = (projectedEntries db since upTo).insertionSort LedgerEntry.Before :=
    (Except.ok.inj hproject).symm
  have hbalanced : ∀ txId, tally LedgerEntry.debit (entries.filter fun entry => entry.txId = txId) =
        tally LedgerEntry.credit (entries.filter fun entry => entry.txId = txId) := by
    intro txId
    have hzero := balanced_project entries hentries txId
    rw [← tally_filter (fun entry : LedgerEntry => entry.debit - entry.credit)
      (fun entry => entry.txId = txId), tally_diff] at hzero
    omega
  have hrevenue : -accountsNet (fun account => account = .REVENUE_POS)
        (aggregateAccounts collate entries) =
      tally LedgerSourceRow.amount (periodRows db since upTo .POS_SALE_COMPLETED) ↔
        NoSaleReversed db since upTo := by
    rw [revenue_project hentries]
    exact tally_max_zero_eq_iff LedgerSourceRow.amount _
  have hexpenses : accountsNet LedgerAccount.IsExpense (aggregateAccounts collate entries) =
      tally LedgerSourceRow.amount (periodRows db since upTo .EXPENSE_RECORDED) ↔
        NoAccrualReversed db since upTo := by
    rw [expenses_project hentries]
    unfold NoAccrualReversed
    by_cases hnamed : expenseIds db since upTo ≠ []
    · rw [if_pos hnamed, if_pos hnamed]
      exact tally_max_zero_eq_iff LedgerSourceRow.amount _
    · rw [if_neg hnamed, if_neg hnamed]
      exact eq_comm
  constructor
  · intro hsound
    exact ⟨hrevenue.1 hsound.revenue, hexpenses.1 hsound.expenses⟩
  · rintro ⟨hsales, haccruals⟩
    exact ⟨hbalanced, hrevenue.2 hsales, hexpenses.2 haccruals⟩

/-- The report on a projection always says `PASS`. -/
theorem reconcile_project {input : LedgerProjectionInput}
    (hproject : project db input = .ok entries) :
    (reconcile entries).status = .PASS := by
  obtain ⟨since, upTo, _, hentries⟩ := project_eq_ok hproject
  have hbalanced := balanced_project entries hentries
  have hunbalanced : ((OrderedMap.sumBy LedgerEntry.txId LedgerEntry.amounts entries).rows.map
      fun row => (⟨row.1, row.2.1, row.2.2.1, row.2.1 - row.2.2.1⟩ :
        UnbalancedTransaction)).filter (fun tx => tx.delta ≠ 0) = [] := by
    rw [List.filter_eq_nil_iff]
    intro tx htx
    obtain ⟨row, hrow, rfl⟩ := List.mem_map.1 htx
    have hpart := OrderedMap.part_of_mem_sumBy balanceHom LedgerEntry.txId LedgerEntry.amounts
      hrow
    have hzero := hpart.trans (hbalanced row.1)
    have hdelta : row.2.1 - row.2.2.1 = 0 := hzero
    simpa using hdelta
  have hglobal : tally LedgerEntry.debit entries = tally LedgerEntry.credit entries := by
    have hparts := OrderedMap.tally_sumBy (fun _ => balanceHom) LedgerEntry.txId
      LedgerEntry.amounts entries
    have hrows : tally (fun row => balanceHom row.2)
        (OrderedMap.sumBy LedgerEntry.txId LedgerEntry.amounts entries).rows = 0 := by
      apply tally_eq_zero
      intro row hrow
      exact (OrderedMap.part_of_mem_sumBy balanceHom LedgerEntry.txId LedgerEntry.amounts
        hrow).trans (hbalanced row.1)
    have hsum : tally (fun entry : LedgerEntry => entry.debit - entry.credit) entries = 0 :=
      hparts.symm.trans hrows
    rw [tally_diff] at hsum
    omega
  unfold reconcile
  exact if_pos ⟨hunbalanced, hglobal⟩

namespace Sample

def saleRow (id : Uuid) (amount : ℤ) : LedgerSourceRow where
  id := id
  entryType := .POS_SALE_COMPLETED
  amount := amount
  actorUserId := some "owner"
  orderId := some "order"
  customerId := some "customer"
  expenseId := none
  createdAt := 1
  posPaymentMethod := some "KNET"
  category := none
  event := none

def salesBook (rows : List LedgerSourceRow) : ProjectionDb where
  generalLedger := rows
  users := [owner]
  expenses := []
  custodies := []

end Sample

theorem projection_sound_iff_sample :
    ProjectionSound (fun _ _ => true) (Sample.salesBook [Sample.saleRow "sale" 20000]) 0 2
        ((projectedEntries (Sample.salesBook [Sample.saleRow "sale" 20000]) 0 2).insertionSort
          LedgerEntry.Before) ↔
      NoSaleReversed (Sample.salesBook [Sample.saleRow "sale" 20000]) 0 2 ∧
        NoAccrualReversed (Sample.salesBook [Sample.saleRow "sale" 20000]) 0 2 :=
  projection_sound_iff _ _ 0 2 rfl

theorem reconcile_project_sample :
    (reconcile ((projectedEntries (Sample.salesBook [Sample.saleRow "sale" 20000]) 0 2
      ).insertionSort LedgerEntry.Before)).status = .PASS :=
  @reconcile_project (Sample.salesBook [Sample.saleRow "sale" 20000]) _ ⟨some 0, some 2⟩ rfl

theorem projection_sound_fails :
    ¬ ∀ (collate : String → String → Bool) (db : ProjectionDb) (since upTo : Timestamp)
        (entries : List LedgerEntry), project db ⟨some since, some upTo⟩ = .ok entries →
      ProjectionSound collate db since upTo entries := by
  intro hall
  have hrevenue := (hall (fun _ _ => true)
    (Sample.salesBook [Sample.saleRow "sale" 20000, Sample.saleRow "void" (-20000)]) 0 2 _
    rfl).revenue
  revert hrevenue
  decide +kernel

end SafariLaundry
