import SafariLaundry.GatewayText
import SafariLaundry.JournalWriters
import SafariLaundry.Library.Selection

/-!
# Seven readings of one receivable

Statements, snapshots and batches read a customer's receivable off the journal lines in
ways of their own: line by line or entry by entry, with or without a clamp, for one
customer or for many.  They agree on every journal, in whatever order the rows come back.
-/

namespace SafariLaundry

open Library Library.Bookkeeping List

structure JournalEntryRow where
  id : Uuid
  createdAt : Timestamp
  entry : JournalEntry

structure CustomerKey where
  id : Uuid
  notBlank : trim id ≠ ""

/-- Rows by their time, those of one moment in any order: the second key of the
statement is a random one. -/
def byCreation {α : Type} (createdAt : α → Timestamp) (order : RowOrder α)
    (rows : List α) : List α :=
  (order.arrange rows).insertionSort fun first second => createdAt first ≤ createdAt second

theorem byCreation_perm {α : Type} (createdAt : α → Timestamp) (order : RowOrder α)
    (rows : List α) : (byCreation createdAt order rows).Perm rows :=
  (perm_insertionSort _ _).trans (order.perm rows)

theorem byCreation_pairwise {α : Type} (createdAt : α → Timestamp) (order : RowOrder α)
    (rows : List α) :
    (byCreation createdAt order rows).Pairwise fun first second =>
      createdAt first ≤ createdAt second := by
  have : Std.Total fun first second => createdAt first ≤ createdAt second :=
    ⟨fun first second => le_total (createdAt first) (createdAt second)⟩
  have : IsTrans α fun first second => createdAt first ≤ createdAt second :=
    ⟨fun _ _ _ => le_trans⟩
  exact pairwise_insertionSort _ _

structure FetchedLine where
  row : JournalEntryRow
  line : JournalLine

namespace FetchedLine

def customerId (fetched : FetchedLine) : Option Uuid := fetched.row.entry.customerId

def signed (fetched : FetchedLine) : ℤ := fetched.line.debit - fetched.line.credit

end FetchedLine

def linesOf (customerIds : List Uuid) (journal : List JournalEntryRow) : List FetchedLine :=
  (journal.filter fun row => ∃ id ∈ customerIds, row.entry.customerId = some id).flatMap
    fun row => row.entry.lines.map (FetchedLine.mk row)

def receivableLines (customerIds : List Uuid) (journal : List JournalEntryRow) :
    List FetchedLine :=
  (linesOf customerIds journal).filter fun fetched =>
    fetched.line.account = .ACCOUNTS_RECEIVABLE

/-! ## The readers of one customer -/

structure JournalStatementRow where
  entryId : Uuid
  date : Timestamp
  (debit credit balance : ℤ)

def statementRow (fetched : FetchedLine) (balance : ℤ) : JournalStatementRow where
  entryId := fetched.row.id
  date := fetched.row.createdAt
  debit := fetched.line.debit
  credit := fetched.line.credit
  balance := balance

structure JournalStatement where
  balance : ℤ
  rows : List JournalStatementRow

def getCustomerStatement (order : RowOrder FetchedLine) (customerId : Uuid)
    (journal : List JournalEntryRow) : JournalStatement :=
  let lines := byCreation (fun fetched => fetched.row.createdAt) order
    (receivableLines [customerId] journal)
  ⟨closing FetchedLine.signed 0 lines, running FetchedLine.signed statementRow 0 lines⟩

/-- The seven columns of the call center's statement. -/
structure BankColumns where
  (customerPaidKd companySupportKd debtGoodwillDiscountKd walletCreditKd walletDebitKd : ℤ)
  (arDebitKd arCreditKd : ℤ)

namespace BankColumns

def zero : BankColumns := ⟨0, 0, 0, 0, 0, 0, 0⟩

def add (columns : BankColumns) (line : JournalLine) : BankColumns where
  customerPaidKd := columns.customerPaidKd + if line.account.Asset then line.debit else 0
  companySupportKd := columns.companySupportKd +
    if line.account = .PROMOTIONAL_EXPENSE then line.debit else 0
  debtGoodwillDiscountKd := columns.debtGoodwillDiscountKd +
    if line.account = .DEBT_DISCOUNTS then line.debit else 0
  walletCreditKd := columns.walletCreditKd +
    if line.account = .WALLET_LIABILITY then line.credit else 0
  walletDebitKd := columns.walletDebitKd +
    if line.account = .WALLET_LIABILITY then line.debit else 0
  arDebitKd := columns.arDebitKd + if line.account = .ACCOUNTS_RECEIVABLE then line.debit else 0
  arCreditKd := columns.arCreditKd + if line.account = .ACCOUNTS_RECEIVABLE then line.credit else 0

end BankColumns

def aggregateJournalEntryForBankColumns (lines : List JournalLine) : BankColumns :=
  lines.foldl BankColumns.add .zero

structure CallCenterBankStatementRow where
  entryId : Uuid
  date : Timestamp
  columns : BankColumns
  arBalanceKd : ℤ

/-- What an entry moves the balance of the call center's statement by. -/
def bankMovement (row : JournalEntryRow) : ℤ :=
  (aggregateJournalEntryForBankColumns row.entry.lines).arDebitKd -
    (aggregateJournalEntryForBankColumns row.entry.lines).arCreditKd

def bankStatementRow (row : JournalEntryRow) (balance : ℤ) : CallCenterBankStatementRow where
  entryId := row.id
  date := row.createdAt
  columns := aggregateJournalEntryForBankColumns row.entry.lines
  arBalanceKd := balance

structure CallCenterBankStatement where
  balance : ℤ
  rows : List CallCenterBankStatementRow

def getCustomerCallCenterBankStatement (order : RowOrder JournalEntryRow)
    (customerId : Uuid) (journal : List JournalEntryRow) : CallCenterBankStatement :=
  let entries := byCreation JournalEntryRow.createdAt order
    (journal.filter fun row => row.entry.customerId = some customerId)
  ⟨closing bankMovement 0 entries, running bankMovement bankStatementRow 0 entries⟩

structure JournalCustomerArSnapshot where
  (arBalanceKd walletLiabilityKd revenueRecognisedKd : ℤ)

namespace JournalCustomerArSnapshot

def add (snap : JournalCustomerArSnapshot) (fetched : FetchedLine) :
    JournalCustomerArSnapshot :=
  if fetched.line.account = .ACCOUNTS_RECEIVABLE then
    { snap with arBalanceKd := snap.arBalanceKd + fetched.line.debit - fetched.line.credit }
  else if fetched.line.account = .WALLET_LIABILITY then
    { snap with
      walletLiabilityKd := snap.walletLiabilityKd + fetched.line.credit - fetched.line.debit }
  else if fetched.line.account = .REVENUE then
    { snap with
      revenueRecognisedKd :=
        snap.revenueRecognisedKd + fetched.line.credit - fetched.line.debit }
  else snap

end JournalCustomerArSnapshot

def getCustomerArSnapshot (order : RowOrder FetchedLine) (customerId : Uuid)
    (journal : List JournalEntryRow) : JournalCustomerArSnapshot :=
  (order.arrange (linesOf [customerId] journal)).foldl JournalCustomerArSnapshot.add ⟨0, 0, 0⟩

def getCustomerOutstandingFromJournal (order : RowOrder FetchedLine) (customerId : Uuid)
    (journal : List JournalEntryRow) : ℤ :=
  if (getCustomerArSnapshot order customerId journal).arBalanceKd < 0 then 0
  else (getCustomerArSnapshot order customerId journal).arBalanceKd

def getCustomerDebtFromJournalAR (order : RowOrder FetchedLine) (customerId : Uuid)
    (journal : List JournalEntryRow) : ℤ :=
  getCustomerOutstandingFromJournal order customerId journal

def getCustomerBalanceFromJournal (order : RowOrder FetchedLine) (customerId : Uuid)
    (journal : List JournalEntryRow) : ℤ :=
  let balance := (order.arrange (receivableLines [customerId] journal)).foldl
    (fun sum fetched => sum + fetched.line.debit - fetched.line.credit) 0
  if balance < 0 then 0 else balance

abbrev BalanceMap := Uuid → Option ℤ

namespace BalanceMap

def empty : BalanceMap := fun _ => none

def set (map : BalanceMap) (customerId : Uuid) (amount : ℤ) : BalanceMap :=
  Function.update map customerId (some amount)

def collect (map : BalanceMap) (fetched : FetchedLine) : BalanceMap :=
  match fetched.customerId with
  | none => map
  | some customerId =>
      if customerId = "" then map
      else map.set customerId ((map customerId).getD 0 + fetched.line.debit - fetched.line.credit)

def clamp (map : BalanceMap) : BalanceMap := fun customerId =>
  (map customerId).map fun balance => if balance < 0 then 0 else balance

def complete (map : BalanceMap) (customerIds : List Uuid) : BalanceMap :=
  customerIds.foldl (fun current customerId =>
    if (current customerId).isSome then current else current.set customerId 0) map

def zeros (customerIds : List Uuid) : BalanceMap :=
  customerIds.foldl (fun current customerId => current.set customerId 0) .empty

end BalanceMap

def getCustomerBalancesBatch (order : RowOrder FetchedLine) (customerIds : List Uuid)
    (journal : List JournalEntryRow) : BalanceMap :=
  if customerIds = [] then .empty
  else
    (((order.arrange (receivableLines customerIds journal)).foldl BalanceMap.collect
      .empty).clamp).complete customerIds

def requestedIds (customerIds : List Uuid) : List Uuid :=
  (customerIds.filter fun id => trim id ≠ "").eraseDups

def getCustomerDebtFromJournalARBatch (order : RowOrder FetchedLine)
    (customerIds : List Uuid) (journal : List JournalEntryRow) : BalanceMap :=
  if requestedIds customerIds = [] then .zeros (requestedIds customerIds)
  else
    ((order.arrange (receivableLines (requestedIds customerIds) journal)).foldl
      BalanceMap.collect (.zeros (requestedIds customerIds))).clamp

def FetchedLine.netFor (customerId : Uuid) (fetched : FetchedLine) : ℤ :=
  if fetched.customerId = some customerId then fetched.signed else 0

theorem tally_lines_net (account : JournalAccount) (row : JournalEntryRow)
    (lines : List JournalLine) :
    tally (fun fetched => if fetched.line.account = account then fetched.signed else 0)
      (lines.map (FetchedLine.mk row)) = net account lines := by
  rw [tally_map]
  rfl

variable {customerIds : List Uuid}

theorem tally_linesOf {customerId : Uuid} (hmem : customerId ∈ customerIds)
    (account : JournalAccount) (journal : List JournalEntryRow) :
    tally (fun fetched => if fetched.line.account = account then
        fetched.netFor customerId else 0) (linesOf customerIds journal) =
      customerNet account customerId (journal.map JournalEntryRow.entry) := by
  unfold linesOf customerNet
  rw [tally_flatMap, tally_filter, tally_map]
  apply tally_congr
  intro row _
  by_cases howned : row.entry.customerId = some customerId
  · have hwanted : ∃ id ∈ customerIds, row.entry.customerId = some id :=
      ⟨customerId, hmem, howned⟩
    rw [if_pos hwanted, if_pos howned, ← tally_lines_net account row]
    apply tally_congr
    intro fetched hfetched
    obtain ⟨line, _, rfl⟩ := mem_map.1 hfetched
    have hnet : FetchedLine.netFor customerId ⟨row, line⟩ = FetchedLine.signed ⟨row, line⟩ :=
      if_pos howned
    rw [hnet]
  · rw [if_neg howned]
    have hnothing : tally (fun fetched : FetchedLine => if fetched.line.account = account then
        fetched.netFor customerId else 0) (row.entry.lines.map (FetchedLine.mk row)) = 0 := by
      apply tally_eq_zero
      intro fetched hfetched
      obtain ⟨line, _, rfl⟩ := mem_map.1 hfetched
      have hnet : FetchedLine.netFor customerId ⟨row, line⟩ = 0 := if_neg howned
      rw [hnet, ite_self]
    rw [hnothing, ite_self]

theorem tally_receivableLines {customerId : Uuid} (hmem : customerId ∈ customerIds)
    (journal : List JournalEntryRow) :
    tally (FetchedLine.netFor customerId) (receivableLines customerIds journal) =
      receivable customerId (journal.map JournalEntryRow.entry) := by
  unfold receivableLines
  rw [tally_filter, tally_linesOf hmem]

theorem customerId_of_mem_linesOf {customerId : Uuid} {journal : List JournalEntryRow}
    {fetched : FetchedLine} (hmem : fetched ∈ linesOf [customerId] journal) :
    fetched.customerId = some customerId := by
  obtain ⟨row, hrow, hline⟩ := mem_flatMap.1 hmem
  obtain ⟨line, _, rfl⟩ := mem_map.1 hline
  obtain ⟨id, hid, howned⟩ := of_decide_eq_true (mem_filter.1 hrow).2
  rw [mem_singleton.1 hid] at howned
  exact howned

theorem tally_signed (customerId : Uuid) (journal : List JournalEntryRow) :
    tally FetchedLine.signed (receivableLines [customerId] journal) =
      receivable customerId (journal.map JournalEntryRow.entry) := by
  rw [← tally_receivableLines (mem_singleton_self customerId)]
  apply tally_congr
  intro fetched hfetched
  exact (if_pos (customerId_of_mem_linesOf (mem_of_mem_filter hfetched))).symm

theorem getCustomerStatement_balance (order : RowOrder FetchedLine) (customerId : Uuid)
    (journal : List JournalEntryRow) :
    (getCustomerStatement order customerId journal).balance =
      receivable customerId (journal.map JournalEntryRow.entry) := by
  unfold getCustomerStatement
  simp only [closing_eq, zero_add]
  rw [tally_perm FetchedLine.signed (byCreation_perm _ order _), tally_signed]

theorem foldl_bankColumns (columns : BankColumns) (lines : List JournalLine) :
    (lines.foldl BankColumns.add columns).arDebitKd -
        (lines.foldl BankColumns.add columns).arCreditKd =
      columns.arDebitKd - columns.arCreditKd + net .ACCOUNTS_RECEIVABLE lines := by
  induction lines generalizing columns with
  | nil => exact (add_zero _).symm
  | cons line rest ih =>
      rw [foldl_cons, ih, net_cons]
      unfold BankColumns.add
      by_cases hline : line.account = .ACCOUNTS_RECEIVABLE
      · simp only [hline, if_true]
        omega
      · simp only [hline, if_false]
        omega

theorem bankMovement_eq (row : JournalEntryRow) :
    bankMovement row = net .ACCOUNTS_RECEIVABLE row.entry.lines := by
  unfold bankMovement aggregateJournalEntryForBankColumns
  rw [foldl_bankColumns]
  exact zero_add _

theorem getCustomerCallCenterBankStatement_balance (order : RowOrder JournalEntryRow)
    (customerId : Uuid) (journal : List JournalEntryRow) :
    (getCustomerCallCenterBankStatement order customerId journal).balance =
      receivable customerId (journal.map JournalEntryRow.entry) := by
  unfold getCustomerCallCenterBankStatement receivable customerNet
  simp only [closing_eq, zero_add]
  rw [tally_perm bankMovement (byCreation_perm _ order _), tally_filter, tally_map]
  apply tally_congr
  intro row _
  rw [bankMovement_eq]

theorem foldl_arSnapshot (snap : JournalCustomerArSnapshot) (lines : List FetchedLine) :
    (lines.foldl JournalCustomerArSnapshot.add snap).arBalanceKd =
      snap.arBalanceKd + tally (fun fetched =>
        if fetched.line.account = .ACCOUNTS_RECEIVABLE then fetched.signed else 0) lines := by
  induction lines generalizing snap with
  | nil => exact (add_zero _).symm
  | cons fetched rest ih =>
      rw [foldl_cons, ih, tally_cons]
      unfold JournalCustomerArSnapshot.add
      by_cases hreceivable : fetched.line.account = .ACCOUNTS_RECEIVABLE
      · rw [if_pos hreceivable, if_pos hreceivable, FetchedLine.signed]
        dsimp only
        omega
      · rw [if_neg hreceivable, if_neg hreceivable, zero_add]
        by_cases hwallet : fetched.line.account = .WALLET_LIABILITY
        · rw [if_pos hwallet]
        · rw [if_neg hwallet]
          by_cases hrevenue : fetched.line.account = .REVENUE
          · rw [if_pos hrevenue]
          · rw [if_neg hrevenue]

theorem getCustomerArSnapshot_ar (order : RowOrder FetchedLine) (customerId : Uuid)
    (journal : List JournalEntryRow) :
    (getCustomerArSnapshot order customerId journal).arBalanceKd =
      receivable customerId (journal.map JournalEntryRow.entry) := by
  unfold getCustomerArSnapshot receivable
  rw [foldl_arSnapshot, zero_add, tally_perm _ (order.perm _),
    ← tally_linesOf (mem_singleton_self customerId)]
  apply tally_congr
  intro fetched hfetched
  have hcounts : fetched.netFor customerId = fetched.signed :=
    if_pos (customerId_of_mem_linesOf hfetched)
  rw [hcounts]

theorem max_zero_eq_ite (amount : ℤ) : (if amount < 0 then 0 else amount) = max 0 amount := by
  split <;> omega

theorem getCustomerBalanceFromJournal_eq (order : RowOrder FetchedLine) (customerId : Uuid)
    (journal : List JournalEntryRow) :
    getCustomerBalanceFromJournal order customerId journal =
      max 0 (receivable customerId (journal.map JournalEntryRow.entry)) := by
  have hsum : ∀ lines : List FetchedLine, lines.foldl
      (fun sum fetched => sum + fetched.line.debit - fetched.line.credit) 0 =
        tally FetchedLine.signed lines := by
    intro lines
    have hfold : lines.foldl (fun sum fetched =>
        sum + fetched.line.debit - fetched.line.credit) 0 =
          closing FetchedLine.signed 0 lines := by
      unfold closing FetchedLine.signed
      simp only [add_sub_assoc]
    rw [hfold, closing_eq, zero_add]
  unfold getCustomerBalanceFromJournal
  simp only [hsum]
  rw [tally_perm FetchedLine.signed (order.perm _), tally_signed, max_zero_eq_ite]

/-! ## Batches -/

namespace BalanceMap

variable {customerId : Uuid}

variable {map : BalanceMap}

theorem collect_of_ne {fetched : FetchedLine} (hother : fetched.customerId ≠ some customerId) :
    map.collect fetched customerId = map customerId := by
  unfold collect
  cases howner : fetched.customerId with
  | none => rfl
  | some owner =>
      have hne : customerId ≠ owner := by
        rintro rfl
        exact hother howner
      dsimp only
      by_cases hblank : owner = ""
      · rw [if_pos hblank]
      · rw [if_neg hblank]
        exact Function.update_of_ne hne _ _

theorem collect_of_eq {fetched : FetchedLine} (hid : customerId ≠ "")
    (howner : fetched.customerId = some customerId) :
    map.collect fetched customerId = some ((map customerId).getD 0 + fetched.signed) := by
  unfold collect
  rw [howner]
  dsimp only
  rw [if_neg hid, FetchedLine.signed, ← add_sub_assoc]
  exact Function.update_self _ _ _

theorem foldl_collect (hid : customerId ≠ "") (map : BalanceMap) (lines : List FetchedLine) :
    (lines.foldl collect map customerId).getD 0 =
      (map customerId).getD 0 + tally (FetchedLine.netFor customerId) lines := by
  induction lines generalizing map with
  | nil => exact (add_zero _).symm
  | cons fetched rest ih =>
      rw [foldl_cons, ih, tally_cons]
      by_cases howner : fetched.customerId = some customerId
      · rw [collect_of_eq hid howner, FetchedLine.netFor, if_pos howner, Option.getD_some,
          add_assoc]
      · rw [collect_of_ne howner, FetchedLine.netFor, if_neg howner, zero_add]

theorem isSome_foldl_collect {lines : List FetchedLine} (hsome : (map customerId).isSome) :
    (lines.foldl collect map customerId).isSome := by
  induction lines generalizing map with
  | nil => exact hsome
  | cons fetched rest ih =>
      rw [foldl_cons]
      apply ih
      unfold collect
      cases fetched.customerId with
      | none => exact hsome
      | some owner =>
          dsimp only
          by_cases hblank : owner = ""
          · rwa [if_pos hblank]
          · rw [if_neg hblank]
            unfold set
            by_cases hsame : customerId = owner
            · rw [hsame, Function.update_self]
              rfl
            · rwa [Function.update_of_ne hsame]

theorem getD_clamp (map : BalanceMap) (customerId : Uuid) :
    (map.clamp customerId).getD 0 = max 0 ((map customerId).getD 0) := by
  unfold clamp
  cases map customerId with
  | none => rfl
  | some balance => exact max_zero_eq_ite balance

theorem complete_apply (map : BalanceMap) (customerIds : List Uuid)
    (hthere : customerId ∈ customerIds ∨ (map customerId).isSome) :
    map.complete customerIds customerId = some ((map customerId).getD 0) := by
  induction customerIds generalizing map with
  | nil =>
      obtain ⟨balance, hbalance⟩ := Option.isSome_iff_exists.1 (hthere.resolve_left (by simp))
      change map customerId = _
      rw [hbalance, Option.getD_some]
  | cons id rest ih =>
      unfold complete at ih ⊢
      rw [foldl_cons]
      by_cases hhas : (map id).isSome
      · rw [if_pos hhas]
        apply ih
        rcases hthere with hmem | hsome
        · rcases mem_cons.1 hmem with rfl | hrest
          · exact .inr hhas
          · exact .inl hrest
        · exact .inr hsome
      · rw [if_neg hhas]
        by_cases hsame : customerId = id
        · subst hsame
          have hset : map.set customerId 0 customerId = some 0 := Function.update_self _ _ _
          have hnone : map customerId = none := Option.not_isSome_iff_eq_none.1 hhas
          have hrest := ih (map.set customerId 0) (.inr (by rw [hset]; rfl))
          rw [hrest, hset, hnone]
          rfl
        · have hset : map.set id 0 customerId = map customerId :=
            Function.update_of_ne hsame _ _
          have hrest := ih (map.set id 0) (by
            rw [hset]
            rcases hthere with hmem | hsome
            · exact .inl ((mem_cons.1 hmem).resolve_left hsame)
            · exact .inr hsome)
          rw [hrest, hset]

theorem zeros_apply {customerIds : List Uuid} (hmem : customerId ∈ customerIds) :
    zeros customerIds customerId = some 0 := by
  have hall : ∀ (ids : List Uuid) (map : BalanceMap), customerId ∈ ids ∨ map customerId = some 0 →
      ids.foldl (fun current id => current.set id 0) map customerId = some 0 := by
    intro ids
    induction ids with
    | nil =>
        intro map hthere
        exact hthere.resolve_left (by simp)
    | cons id rest ih =>
        intro map hthere
        rw [foldl_cons]
        apply ih
        by_cases hsame : customerId = id
        · rw [hsame]
          exact .inr (Function.update_self _ _ _)
        · rcases hthere with hhere | hzero
          · exact .inl ((mem_cons.1 hhere).resolve_left hsame)
          · refine .inr ?_
            rw [← hzero]
            exact Function.update_of_ne hsame _ _
  exact hall customerIds empty (.inl hmem)

end BalanceMap

theorem CustomerKey.ne_empty (customer : CustomerKey) : customer.id ≠ "" := by
  intro hempty
  apply customer.notBlank
  rw [hempty]
  rfl

variable {customer : CustomerKey}

theorem getCustomerBalancesBatch_apply (order : RowOrder FetchedLine)
    (hmem : customer.id ∈ customerIds) (journal : List JournalEntryRow) :
    getCustomerBalancesBatch order customerIds journal customer.id =
      some (max 0 (receivable customer.id (journal.map JournalEntryRow.entry))) := by
  unfold getCustomerBalancesBatch
  rw [if_neg (ne_nil_of_mem hmem), BalanceMap.complete_apply _ _ (.inl hmem),
    BalanceMap.getD_clamp, BalanceMap.foldl_collect customer.ne_empty,
    tally_perm _ (order.perm _), tally_receivableLines hmem]
  exact congrArg (fun amount => some (max 0 amount)) (zero_add _)

theorem mem_requestedIds (hmem : customer.id ∈ customerIds) :
    customer.id ∈ requestedIds customerIds := by
  unfold requestedIds
  rw [mem_eraseDups, mem_filter]
  exact ⟨hmem, decide_eq_true customer.notBlank⟩

theorem getCustomerDebtFromJournalARBatch_apply (order : RowOrder FetchedLine)
    (hmem : customer.id ∈ customerIds) (journal : List JournalEntryRow) :
    getCustomerDebtFromJournalARBatch order customerIds journal customer.id =
      some (max 0 (receivable customer.id (journal.map JournalEntryRow.entry))) := by
  have hrequested := mem_requestedIds hmem
  have hzero := BalanceMap.zeros_apply hrequested
  unfold getCustomerDebtFromJournalARBatch
  rw [if_neg (ne_nil_of_mem hrequested)]
  have hthere : ((order.arrange (receivableLines (requestedIds customerIds) journal)).foldl
      BalanceMap.collect (.zeros (requestedIds customerIds)) customer.id).isSome :=
    BalanceMap.isSome_foldl_collect (by rw [hzero]; rfl)
  obtain ⟨balance, hbalance⟩ := Option.isSome_iff_exists.1 hthere
  have hamount := BalanceMap.foldl_collect customer.ne_empty (.zeros (requestedIds customerIds))
    (order.arrange (receivableLines (requestedIds customerIds) journal))
  rw [hbalance, hzero, Option.getD_some, Option.getD_some, zero_add,
    tally_perm _ (order.perm _), tally_receivableLines hrequested] at hamount
  unfold BalanceMap.clamp
  rw [hbalance, Option.map_some, max_zero_eq_ite, hamount]

/-- The rows are the customer's receivable lines, oldest first, each with the sum so far. -/
structure RunningBalances (customerId : Uuid) (journal : List JournalEntryRow)
    (statement : JournalStatement) : Prop where
  lines : ∃ lines : List FetchedLine, lines.Perm (receivableLines [customerId] journal) ∧
    lines.Pairwise (fun first second => first.row.createdAt ≤ second.row.createdAt) ∧
    statement.rows.map (fun row => (row.entryId, row.date, row.debit, row.credit)) =
      lines.map fun fetched =>
        (fetched.row.id, fetched.row.createdAt, fetched.line.debit, fetched.line.credit)
  running : ∀ (k : ℕ) (row : JournalStatementRow), statement.rows[k]? = some row →
    row.balance = tally (fun above => above.debit - above.credit) (statement.rows.take (k + 1))

/-- The same of the customer's entries. -/
structure BankRunningBalances (customerId : Uuid) (journal : List JournalEntryRow)
    (statement : CallCenterBankStatement) : Prop where
  entries : ∃ entries : List JournalEntryRow,
    entries.Perm (journal.filter fun row => row.entry.customerId = some customerId) ∧
    entries.Pairwise (fun first second => first.createdAt ≤ second.createdAt) ∧
    statement.rows.map (fun row => (row.entryId, row.date, row.columns)) =
      entries.map fun row =>
        (row.id, row.createdAt, aggregateJournalEntryForBankColumns row.entry.lines)
  running : ∀ (k : ℕ) (row : CallCenterBankStatementRow), statement.rows[k]? = some row →
    row.arBalanceKd = tally (fun above => above.columns.arDebitKd - above.columns.arCreditKd)
        (statement.rows.take (k + 1))

theorem getCustomerStatement_running (order : RowOrder FetchedLine) (customerId : Uuid)
    (journal : List JournalEntryRow) :
    RunningBalances customerId journal (getCustomerStatement order customerId journal) := by
  constructor
  · refine ⟨_, byCreation_perm _ order _, byCreation_pairwise _ order _, ?_⟩
    apply map_running
    exact fun _ _ => rfl
  · intro k row hrow
    have hsum := @balance_of_running _ _ FetchedLine.signed statementRow
      (fun above => above.debit - above.credit) JournalStatementRow.balance
      (fun _ _ => rfl) (fun _ _ => rfl) 0 _ k row hrow
    rwa [zero_add] at hsum

theorem getCustomerCallCenterBankStatement_running (order : RowOrder JournalEntryRow)
    (customerId : Uuid) (journal : List JournalEntryRow) :
    BankRunningBalances customerId journal
      (getCustomerCallCenterBankStatement order customerId journal) := by
  constructor
  · refine ⟨_, byCreation_perm _ order _, byCreation_pairwise _ order _, ?_⟩
    apply map_running
    exact fun _ _ => rfl
  · intro k row hrow
    have hsum := @balance_of_running _ _ bankMovement bankStatementRow
      (fun above => above.columns.arDebitKd - above.columns.arCreditKd)
      CallCenterBankStatementRow.arBalanceKd (fun _ _ => rfl) (fun _ _ => rfl) 0 _ k row hrow
    rwa [zero_add] at hsum

structure ReaderOrders where
  statement : RowOrder FetchedLine
  bank : RowOrder JournalEntryRow
  (snapshot balance balances debts : RowOrder FetchedLine)

/-- All readers agree with the signed receivable of the customer, those that clamp with
its positive part, in whatever batch and whatever order of rows. -/
theorem receivableReaders_agree (orders : ReaderOrders) (customer : CustomerKey)
    (journal : List JournalEntryRow) {batch debtBatch : List Uuid}
    (hbatch : customer.id ∈ batch) (hdebtBatch : customer.id ∈ debtBatch) :
    let signedAr := receivable customer.id (journal.map JournalEntryRow.entry)
    let statement := getCustomerStatement orders.statement customer.id journal
    let bank := getCustomerCallCenterBankStatement orders.bank customer.id journal
    (statement.balance = signedAr ∧ bank.balance = signedAr ∧
      (getCustomerArSnapshot orders.snapshot customer.id journal).arBalanceKd = signedAr) ∧
    (getCustomerBalanceFromJournal orders.balance customer.id journal = max 0 signedAr ∧
      getCustomerBalancesBatch orders.balances batch journal customer.id = some (max 0 signedAr) ∧
      getCustomerDebtFromJournalARBatch orders.debts debtBatch journal customer.id =
        some (max 0 signedAr)) ∧
    RunningBalances customer.id journal statement ∧
      BankRunningBalances customer.id journal bank := by
  refine ⟨⟨?_, ?_, ?_⟩, ⟨?_, ?_, ?_⟩, ?_, ?_⟩
  · exact getCustomerStatement_balance _ _ _
  · exact getCustomerCallCenterBankStatement_balance _ _ _
  · exact getCustomerArSnapshot_ar _ _ _
  · exact getCustomerBalanceFromJournal_eq _ _ _
  · exact getCustomerBalancesBatch_apply _ hbatch _
  · exact getCustomerDebtFromJournalARBatch_apply _ hdebtBatch _
  · exact getCustomerStatement_running _ _ _
  · exact getCustomerCallCenterBankStatement_running _ _ _

namespace Sample

def asStored (α : Type) : RowOrder α := ⟨id, List.Perm.refl⟩

def readerOrders : ReaderOrders :=
  ⟨asStored _, asStored _, asStored _, asStored _, asStored _, asStored _⟩

def customerKey : CustomerKey := ⟨"customer", by decide⟩

def twoEntries : List JournalEntryRow :=
  [⟨"e1", 1, "INVOICE", [.word "INVOICE"], "owner", some "customer", none,
      [⟨.ACCOUNTS_RECEIVABLE, 30000, 0⟩, ⟨.REVENUE, 0, 30000⟩]⟩,
    ⟨"e2", 2, "PAYMENT", [.word "PAYMENT"], "owner", some "customer", none,
      [⟨.CASH, 10000, 0⟩, ⟨.ACCOUNTS_RECEIVABLE, 0, 10000⟩]⟩]

end Sample

theorem receivableReaders_agree_sample :
    getCustomerBalancesBatch (Sample.asStored _) ["other", "customer"] Sample.twoEntries
      "customer" = some 20000 :=
  (@receivableReaders_agree Sample.readerOrders Sample.customerKey Sample.twoEntries
    ["other", "customer"] ["customer"] (by decide) (by decide)).2.1.2.1

end SafariLaundry
