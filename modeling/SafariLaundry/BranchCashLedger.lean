import SafariLaundry.CashCustody
import SafariLaundry.Fixed4
import SafariLaundry.Library.KeyedFold

/-!
# The cash of the branches

Bags that are held at a branch, bags that came in and deposits that went out are added up by
branch and put side by side.  What names no branch is added up apart.
-/

namespace SafariLaundry

open Library Library.Bookkeeping Library.KeyedFold

structure LedgerWindow where
  (start stop : Timestamp)

structure BranchCashLedgerRow where
  branchId : Uuid
  (branchName currentBranchCash : String)
  openBagCount : ℕ
  (incomingKd outgoingKd : Option String)

structure BranchCashLedgerResponse where
  window : Option LedgerWindow
  branches : List BranchCashLedgerRow
  unattributedCustodyKd : String
  unattributedCustodyBagCount : ℕ
  unattributedDepositKd : Option String
  totalCurrentBranchCash : String

structure BranchBook where
  bags : Table ManagerCashCustody.id
  deposits : Table BankDepositLog.id
  branchName : Uuid → Option String
  /-- `first.localeCompare(second) <= 0`. -/
  collate : String → String → Bool

structure LedgerReads where
  (held incoming : RowOrder ManagerCashCustody)
  outgoing : RowOrder BankDepositLog

def heldAtBranchStatuses : List ManagerCashCustodyStatus :=
  [.PENDING_DEPOSIT, .AWAITING_VERIFICATION, .VERIFIED]

def ManagerCashCustody.branch (bag : ManagerCashCustody) : Option Uuid :=
  bag.branchId.filter fun id => id ≠ ""

structure BagSlot where
  minor : ℤ
  bagCount : ℕ

def bagSlots : Accumulation ManagerCashCustody BagSlot where
  start := fun bag => ⟨0 + bag.amountKd, 0 + 1⟩
  grow := fun prev bag => ⟨prev.minor + bag.amountKd, prev.bagCount + 1⟩

namespace BranchBook

variable (book : BranchBook)

def heldBags (branchFilter : Option Uuid) : List ManagerCashCustody :=
  book.bags.rows.filter fun bag =>
    (∀ id ∈ branchFilter, bag.branchId = some id) ∧ bag.status ∈ heldAtBranchStatuses ∧
      ∀ deposit ∈ book.deposits.rows, deposit.managerCashCustodyId ≠ some bag.id

def inBags (branchFilter : Option Uuid) (window : LedgerWindow) : List ManagerCashCustody :=
  book.bags.rows.filter fun bag =>
    (∀ id ∈ branchFilter, bag.branchId = some id) ∧ window.start ≤ bag.receivedFromDriverAt ∧
      bag.receivedFromDriverAt ≤ window.stop ∧ bag.status ≠ .REJECTED

def custodyOf (deposit : BankDepositLog) : Option ManagerCashCustody :=
  deposit.managerCashCustodyId.bind book.bags.find?

def depositBranch (deposit : BankDepositLog) : Option Uuid :=
  (book.custodyOf deposit).bind ManagerCashCustody.branch

def outDeposits (branchFilter : Option Uuid) (window : LedgerWindow) : List BankDepositLog :=
  book.deposits.rows.filter fun deposit =>
    deposit.status = .VERIFIED ∧
      (∃ verifiedAt ∈ deposit.verifiedAt, window.start ≤ verifiedAt ∧ verifiedAt ≤ window.stop) ∧
      ∀ id ∈ branchFilter, ∃ bag ∈ book.custodyOf deposit, bag.branchId = some id

structure Aggregates where
  branchAgg : OrderedMap Uuid BagSlot
  (incomingByBranch outgoingByBranch : OrderedMap Uuid ℤ)

def inWindow {ρ : Type} (query : LedgerWindow → List ρ) (order : RowOrder ρ)
    (window : Option LedgerWindow) : List ρ :=
  match window with
  | none => []
  | some window => order.arrange (query window)

def aggregates (reads : LedgerReads) (window : Option LedgerWindow) (branchFilter : Option Uuid) :
    Aggregates where
  branchAgg :=
    collectSome bagSlots ManagerCashCustody.branch (reads.held.arrange (book.heldBags branchFilter))
  incomingByBranch :=
    collectSome (.sum ManagerCashCustody.amountKd) ManagerCashCustody.branch
      (inWindow (book.inBags branchFilter) reads.incoming window)
  outgoingByBranch :=
    collectSome (.sum BankDepositLog.amountKd) book.depositBranch
      (inWindow (book.outDeposits branchFilter) reads.outgoing window)

def Aggregates.branchIds (agg : Aggregates) : List Uuid :=
  (agg.branchAgg.keys ++ agg.incomingByBranch.keys ++ agg.outgoingByBranch.keys).eraseDups

def row (agg : Aggregates) (window : Option LedgerWindow) (id : Uuid) : BranchCashLedgerRow :=
  let held := agg.branchAgg.get? id
  { branchId := id
    branchName := (book.branchName id).getD id
    currentBranchCash := minorToFixed4 ((held.map BagSlot.minor).getD 0)
    openBagCount := (held.map BagSlot.bagCount).getD 0
    incomingKd := window.map fun _ => minorToFixed4 ((agg.incomingByBranch.get? id).getD 0)
    outgoingKd := window.map fun _ => minorToFixed4 ((agg.outgoingByBranch.get? id).getD 0) }

def before (a b : BranchCashLedgerRow) : Bool :=
  if amountOf a.currentBranchCash = amountOf b.currentBranchCash then
    book.collate a.branchName b.branchName
  else amountOf b.currentBranchCash < amountOf a.currentBranchCash

def project (reads : LedgerReads) (window : Option LedgerWindow) (branchId : Option Uuid) :
    BranchCashLedgerResponse :=
  let branchFilter := branchId.filter fun id => id ≠ ""
  let agg := book.aggregates reads window branchFilter
  let unattributed := (reads.held.arrange (book.heldBags branchFilter)).filter fun bag =>
    bag.branch = none
  let rows := (agg.branchIds.map (book.row agg window)).insertionSort fun a b => book.before a b
  { window := window
    branches := rows
    unattributedCustodyKd := minorToFixed4 (tally ManagerCashCustody.amountKd unattributed)
    unattributedCustodyBagCount := unattributed.length
    unattributedDepositKd := window.map fun _ =>
      minorToFixed4 (tally BankDepositLog.amountKd
        ((inWindow (book.outDeposits branchFilter) reads.outgoing window).filter fun deposit =>
          book.depositBranch deposit = none))
    totalCurrentBranchCash :=
      minorToFixed4 (tally (fun r => amountOf r.currentBranchCash) rows) }

/-- In the hands of the branch asked for, or of any: not sent back and not yet deposited. -/
def Holds (branchId : Option Uuid) (bag : ManagerCashCustody) : Prop :=
  bag.status ≠ .REJECTED ∧
    (∀ deposit ∈ book.deposits.rows, deposit.managerCashCustodyId ≠ some bag.id) ∧
    (branchId = none ∨ branchId = some "" ∨ bag.branchId = branchId)
  deriving Decidable

/-- Verified in the window, out of a bag of the branch asked for or of any. -/
def PaidOut (branchId : Option Uuid) (window : LedgerWindow) (deposit : BankDepositLog) : Prop :=
  deposit.status = .VERIFIED ∧
    (∃ verifiedAt ∈ deposit.verifiedAt, window.start ≤ verifiedAt ∧ verifiedAt ≤ window.stop) ∧
    (branchId = none ∨ branchId = some "" ∨ ∃ bag ∈ book.bags.rows,
      deposit.managerCashCustodyId = some bag.id ∧ bag.branchId = branchId)
  deriving Decidable

end BranchBook

/-- Nothing is dropped, merged or counted twice, and a filter picks a row out. -/
structure LedgerBalances (book : BranchBook) (window : Option LedgerWindow) : Prop where
  current : ∀ reads branchId,
    tally (fun r => amountOf r.currentBranchCash) (book.project reads window branchId).branches +
        amountOf (book.project reads window branchId).unattributedCustodyKd =
      tally ManagerCashCustody.amountKd (book.bags.rows.filter fun bag => book.Holds branchId bag)
  bags : ∀ reads branchId,
    tally BranchCashLedgerRow.openBagCount (book.project reads window branchId).branches +
        (book.project reads window branchId).unattributedCustodyBagCount =
      book.bags.rows.countP fun bag => book.Holds branchId bag
  outgoing : ∀ reads branchId, ∀ w ∈ window, tally (fun r => (r.outgoingKd.map amountOf).getD 0)
          (book.project reads window branchId).branches +
        ((book.project reads window branchId).unattributedDepositKd.map amountOf).getD 0 =
      tally BankDepositLog.amountKd
        (book.deposits.rows.filter fun deposit => book.PaidOut branchId w deposit)
  filtered : ∀ reads reads' branchId, branchId ≠ "" →
    (book.project reads' window (some branchId)).branches =
      (book.project reads window none).branches.filter fun r => r.branchId = branchId

theorem minor_additive : bagSlots.Additive BagSlot.minor ManagerCashCustody.amountKd :=
  ⟨fun _ => zero_add _, fun _ _ => rfl⟩

theorem bagCount_additive : bagSlots.Additive BagSlot.bagCount fun _ => 1 :=
  ⟨fun _ => rfl, fun _ _ => rfl⟩

namespace BranchBook

variable {book : BranchBook}

def held (book : BranchBook) (reads : LedgerReads) (branchFilter : Option Uuid) :
    List ManagerCashCustody :=
  reads.held.arrange (book.heldBags branchFilter)

theorem mem_branchIds {reads : LedgerReads} {window : Option LedgerWindow}
    {branchFilter : Option Uuid} {id : Uuid} :
    id ∈ (book.aggregates reads window branchFilter).branchIds ↔
      (∃ bag ∈ book.held reads branchFilter, bag.branch = some id) ∨
      (∃ bag ∈ inWindow (book.inBags branchFilter) reads.incoming window, bag.branch = some id) ∨
      ∃ deposit ∈ inWindow (book.outDeposits branchFilter) reads.outgoing window,
        book.depositBranch deposit = some id := by
  unfold Aggregates.branchIds aggregates held
  rw [List.mem_eraseDups, List.mem_append, List.mem_append, or_assoc]
  simp only [mem_keys_collectSome]

theorem nodup_branchIds (agg : Aggregates) : agg.branchIds.Nodup := nodup_eraseDups _

theorem row_eq (reads : LedgerReads) (window : Option LedgerWindow) (branchFilter : Option Uuid)
    (id : Uuid) :
    book.row (book.aggregates reads window branchFilter) window id =
      { branchId := id
        branchName := (book.branchName id).getD id
        currentBranchCash := minorToFixed4 (tally ManagerCashCustody.amountKd
          ((book.held reads branchFilter).filter fun bag => bag.branch = some id))
        openBagCount := tally (fun _ => 1)
          ((book.held reads branchFilter).filter fun bag => bag.branch = some id)
        incomingKd := window.map fun _ => minorToFixed4 (tally ManagerCashCustody.amountKd
          ((inWindow (book.inBags branchFilter) reads.incoming window).filter fun bag =>
            bag.branch = some id))
        outgoingKd := window.map fun _ => minorToFixed4 (tally BankDepositLog.amountKd
          ((inWindow (book.outDeposits branchFilter) reads.outgoing window).filter fun deposit =>
            book.depositBranch deposit = some id)) } := by
  have hminor := minor_additive.getD_made
    ((book.held reads branchFilter).filter fun bag => bag.branch = some id)
  have hcount := bagCount_additive.getD_made
    ((book.held reads branchFilter).filter fun bag => bag.branch = some id)
  rw [← get?_collectSome] at hminor hcount
  unfold row aggregates
  simp only [getD_collectSome_sum]
  rw [← hminor, ← hcount]
  rfl

theorem tally_branches {N : Type} [AddCommMonoid N] (reading : BranchCashLedgerRow → N)
    (reads : LedgerReads) (window : Option LedgerWindow) (branchId : Option Uuid) :
    tally reading (book.project reads window branchId).branches =
      let agg := book.aggregates reads window (branchId.filter fun id => id ≠ "")
      tally (fun id => reading (book.row agg window id)) agg.branchIds := by
  unfold project
  rw [tally_perm _ (List.perm_insertionSort ..), tally_map]

theorem forall_filter {branchId branch : Option Uuid} :
    (∀ id ∈ branchId.filter fun id => id ≠ "", branch = some id) ↔
      branchId = none ∨ branchId = some "" ∨ branch = branchId := by
  cases branchId with
  | none => simp
  | some id =>
      by_cases hid : id = ""
      · simp [hid]
      · simp [Option.filter, hid]

theorem heldBags_eq (book : BranchBook) (branchId : Option Uuid) :
    book.heldBags (branchId.filter fun id => id ≠ "") =
      book.bags.rows.filter fun bag => book.Holds branchId bag := by
  apply List.filter_congr
  intro bag _
  have hstatus : bag.status ∈ heldAtBranchStatuses ↔ bag.status ≠ .REJECTED := by
    cases bag.status <;> decide
  rw [decide_eq_decide, forall_filter, hstatus]
  unfold Holds
  tauto

theorem outDeposits_eq (book : BranchBook) (branchId : Option Uuid) (window : LedgerWindow) :
    book.outDeposits (branchId.filter fun id => id ≠ "") window =
      book.deposits.rows.filter fun deposit => book.PaidOut branchId window deposit := by
  apply List.filter_congr
  intro deposit _
  have hbag (id : Uuid) : (∃ bag ∈ book.custodyOf deposit, bag.branchId = some id) ↔
      ∃ bag ∈ book.bags.rows, deposit.managerCashCustodyId = some bag.id ∧
        bag.branchId = some id := by
    constructor
    · rintro ⟨bag, hbag, hbranch⟩
      obtain ⟨key, hkey, hfound⟩ := Option.bind_eq_some_iff.1 hbag
      exact ⟨bag, Table.mem_of_find? hfound, hkey.trans
        (congrArg some (Table.key_of_find? hfound).symm), hbranch⟩
    · rintro ⟨bag, hmem, hkey, hbranch⟩
      exact ⟨bag, Option.bind_eq_some_iff.2 ⟨_, hkey, Table.find?_of_mem hmem⟩, hbranch⟩
  rw [decide_eq_decide]
  unfold PaidOut
  refine and_congr_right fun _ => and_congr_right fun _ => ?_
  cases branchId with
  | none => simp
  | some id =>
      by_cases hid : id = ""
      · simp [hid]
      · simpa [Option.filter, hid] using hbag id

theorem tally_current (reads : LedgerReads) (window : Option LedgerWindow)
    (branchId : Option Uuid) :
    tally (fun r => amountOf r.currentBranchCash) (book.project reads window branchId).branches +
        amountOf (book.project reads window branchId).unattributedCustodyKd =
      tally ManagerCashCustody.amountKd (book.heldBags (branchId.filter fun id => id ≠ "")) := by
  rw [tally_branches]
  simp only [row_eq, amountOf_minorToFixed4]
  rw [show (book.project reads window branchId).unattributedCustodyKd = minorToFixed4
      (tally ManagerCashCustody.amountKd
        ((book.held reads (branchId.filter fun id => id ≠ "")).filter fun bag =>
          bag.branch = none)) from rfl, amountOf_minorToFixed4, tally_partition_some]
  · exact tally_perm _ (reads.held.perm _)
  · exact nodup_branchIds _
  · intro bag hbag id hid
    exact mem_branchIds.2 (Or.inl ⟨bag, hbag, hid⟩)

theorem tally_openBagCount (reads : LedgerReads) (window : Option LedgerWindow)
    (branchId : Option Uuid) :
    tally BranchCashLedgerRow.openBagCount (book.project reads window branchId).branches +
        (book.project reads window branchId).unattributedCustodyBagCount =
      (book.heldBags (branchId.filter fun id => id ≠ "")).length := by
  rw [tally_branches]
  simp only [row_eq]
  rw [show (book.project reads window branchId).unattributedCustodyBagCount =
      ((book.held reads (branchId.filter fun id => id ≠ "")).filter fun bag =>
        bag.branch = none).length from rfl, ← tally_one, tally_partition_some, tally_one]
  · exact (reads.held.perm _).length_eq
  · exact nodup_branchIds _
  · intro bag hbag id hid
    exact mem_branchIds.2 (Or.inl ⟨bag, hbag, hid⟩)

theorem tally_outgoing (reads : LedgerReads) (window : LedgerWindow) (branchId : Option Uuid) :
    tally (fun r => (r.outgoingKd.map amountOf).getD 0)
          (book.project reads (some window) branchId).branches +
        ((book.project reads (some window) branchId).unattributedDepositKd.map amountOf).getD 0 =
      tally BankDepositLog.amountKd (book.outDeposits (branchId.filter fun id => id ≠ "") window) := by
  rw [tally_branches]
  simp only [row_eq, Option.map_some, Option.getD_some, amountOf_minorToFixed4]
  rw [show (book.project reads (some window) branchId).unattributedDepositKd = some (minorToFixed4
      (tally BankDepositLog.amountKd
        ((inWindow (book.outDeposits (branchId.filter fun id => id ≠ "")) reads.outgoing
          (some window)).filter fun deposit => book.depositBranch deposit = none))) from rfl,
    Option.map_some, Option.getD_some, amountOf_minorToFixed4, tally_partition_some]
  · exact tally_perm _ (reads.outgoing.perm _)
  · exact nodup_branchIds _
  · intro deposit hdeposit id hid
    exact mem_branchIds.2 (Or.inr (Or.inr ⟨deposit, hdeposit, hid⟩))

/-! ## One branch alone -/

theorem branch_eq_some {bag : ManagerCashCustody} {id : Uuid} (hid : id ≠ "") :
    bag.branch = some id ↔ bag.branchId = some id := by
  simp [ManagerCashCustody.branch, Option.filter_eq_some_iff, hid]

theorem depositBranch_eq_some {deposit : BankDepositLog} {id : Uuid} (hid : id ≠ "") :
    book.depositBranch deposit = some id ↔
      ∃ bag ∈ book.custodyOf deposit, bag.branchId = some id := by
  simp [depositBranch, Option.bind_eq_some_iff, branch_eq_some hid]

theorem filter_arrange_perm {ρ : Type} {p : ρ → Bool} {rows rows' : List ρ}
    (hsame : rows.filter p = rows'.filter p) (order order' : RowOrder ρ) :
    ((order.arrange rows).filter p).Perm ((order'.arrange rows').filter p) :=
  (((order.perm rows).filter p).trans (List.Perm.of_eq hsame)).trans ((order'.perm rows').filter p).symm

theorem heldBags_filter {id : Uuid} (hid : id ≠ "") :
    (book.heldBags (some id)).filter (fun bag => bag.branch = some id) =
      (book.heldBags none).filter fun bag => bag.branch = some id := by
  unfold heldBags
  rw [List.filter_filter, List.filter_filter]
  apply List.filter_congr
  intro bag _
  rw [Bool.eq_iff_iff]
  simp +contextual [branch_eq_some hid]

variable (book) in
theorem inBags_filter {id : Uuid} (hid : id ≠ "") (window : LedgerWindow) :
    (book.inBags (some id) window).filter (fun bag => bag.branch = some id) =
      (book.inBags none window).filter fun bag => bag.branch = some id := by
  unfold inBags
  rw [List.filter_filter, List.filter_filter]
  apply List.filter_congr
  intro bag _
  rw [Bool.eq_iff_iff]
  simp +contextual [branch_eq_some hid]

variable (book) in
theorem outDeposits_filter {id : Uuid} (hid : id ≠ "") (window : LedgerWindow) :
    (book.outDeposits (some id) window).filter (fun deposit => book.depositBranch deposit = some id) =
      (book.outDeposits none window).filter fun deposit => book.depositBranch deposit = some id := by
  unfold outDeposits
  rw [List.filter_filter, List.filter_filter]
  apply List.filter_congr
  intro deposit _
  rw [Bool.eq_iff_iff]
  simp +contextual [depositBranch_eq_some hid]

theorem filter_inWindow_perm {ρ : Type} {p : ρ → Bool} {query query' : LedgerWindow → List ρ}
    (hsame : ∀ window, (query window).filter p = (query' window).filter p)
    (order order' : RowOrder ρ) (window : Option LedgerWindow) :
    ((inWindow query order window).filter p).Perm ((inWindow query' order' window).filter p) := by
  cases window with
  | none => exact .refl _
  | some window => exact filter_arrange_perm (hsame window) order order'

variable {reads reads' : LedgerReads} {window : Option LedgerWindow} {id : Uuid}

theorem row_filtered (hid : id ≠ "") :
    book.row (book.aggregates reads' window (some id)) window id =
      book.row (book.aggregates reads window none) window id := by
  have hheld : ((book.held reads' (some id)).filter fun bag => bag.branch = some id).Perm
      ((book.held reads none).filter fun bag => bag.branch = some id) :=
    filter_arrange_perm (heldBags_filter hid) reads'.held reads.held
  have hin := filter_inWindow_perm (book.inBags_filter hid) reads'.incoming reads.incoming
    window
  have hout := filter_inWindow_perm (book.outDeposits_filter hid) reads'.outgoing
    reads.outgoing window
  rw [row_eq, row_eq, tally_perm _ hheld, tally_perm _ hheld, tally_perm _ hin, tally_perm _ hout]

theorem exists_iff_of_filter_perm {ρ : Type} {p : ρ → Prop} [DecidablePred p] {list list' : List ρ}
    (hperm : (list.filter p).Perm (list'.filter p)) : (∃ x ∈ list, p x) ↔ ∃ x ∈ list', p x := by
  have hmem : ∀ x, (x ∈ list ∧ p x) ↔ (x ∈ list' ∧ p x) := by
    intro x
    simpa using hperm.mem_iff (a := x)
  exact exists_congr hmem

theorem mem_inWindow {ρ : Type} {query : LedgerWindow → List ρ} {order : RowOrder ρ} {x : ρ} :
    x ∈ inWindow query order window ↔ ∃ w ∈ window, x ∈ query w := by
  cases window <;> simp [inWindow]

theorem eq_of_mem_branchIds (hid : id ≠ "") {other : Uuid}
    (hother : other ∈ (book.aggregates reads window (some id)).branchIds) : other = id := by
  rcases mem_branchIds.1 hother with ⟨bag, hbag, hbranch⟩ | ⟨bag, hbag, hbranch⟩ |
    ⟨deposit, hdeposit, hbranch⟩
  · have hown := (List.mem_filter.1 (RowOrder.mem_arrange.1 hbag)).2
    simp only [decide_eq_true_eq, Option.mem_some_iff, forall_eq'] at hown
    rw [(branch_eq_some hid).2 hown.1] at hbranch
    exact (Option.some.inj hbranch).symm
  · obtain ⟨w, -, hbag⟩ := mem_inWindow.1 hbag
    have hown := (List.mem_filter.1 hbag).2
    simp only [decide_eq_true_eq, Option.mem_some_iff, forall_eq'] at hown
    rw [(branch_eq_some hid).2 hown.1] at hbranch
    exact (Option.some.inj hbranch).symm
  · obtain ⟨w, -, hdeposit⟩ := mem_inWindow.1 hdeposit
    have hown := (List.mem_filter.1 hdeposit).2
    simp only [decide_eq_true_eq, Option.mem_some_iff, forall_eq'] at hown
    rw [(depositBranch_eq_some hid).2 hown.2.2] at hbranch
    exact (Option.some.inj hbranch).symm

theorem mem_branchIds_filtered (hid : id ≠ "") :
    id ∈ (book.aggregates reads' window (some id)).branchIds ↔
      id ∈ (book.aggregates reads window none).branchIds := by
  rw [mem_branchIds, mem_branchIds]
  refine or_congr ?_ (or_congr ?_ ?_)
  · exact exists_iff_of_filter_perm
      (filter_arrange_perm (heldBags_filter hid) reads'.held reads.held)
  · exact exists_iff_of_filter_perm
      (filter_inWindow_perm (book.inBags_filter hid) reads'.incoming reads.incoming window)
  · exact exists_iff_of_filter_perm
      (filter_inWindow_perm (book.outDeposits_filter hid) reads'.outgoing reads.outgoing window)

theorem branches_filtered (hid : id ≠ "") :
    (book.project reads' window (some id)).branches =
      (book.project reads window none).branches.filter fun r => r.branchId = id := by
  have hids : (book.aggregates reads' window (some id)).branchIds.Perm
      ((book.aggregates reads window none).branchIds.filter fun other => other = id) := by
    rw [List.perm_ext_iff_of_nodup (nodup_branchIds _) ((nodup_branchIds _).filter _)]
    intro other
    rw [List.mem_filter, decide_eq_true_eq]
    constructor
    · intro hother
      obtain rfl := eq_of_mem_branchIds hid hother
      exact ⟨(mem_branchIds_filtered hid).1 hother, rfl⟩
    · rintro ⟨hother, rfl⟩
      exact (mem_branchIds_filtered hid).2 hother
  have hrows : (book.project reads' window (some id)).branches.Perm
      ((book.project reads window none).branches.filter fun r => r.branchId = id) := by
    unfold project
    have hsome : (some id).filter (fun id => id ≠ "") = some id := by simp [hid]
    rw [hsome]
    refine (List.perm_insertionSort ..).trans
      (List.Perm.trans ?_ ((List.perm_insertionSort ..).filter _).symm)
    rw [List.filter_map]
    refine (hids.map _).trans (List.Perm.of_eq ?_)
    apply List.map_congr_left
    intro other hother
    obtain rfl := of_decide_eq_true (List.mem_filter.1 hother).2
    exact row_filtered hid
  have hshort : (book.project reads' window (some id)).branches.length ≤ 1 := by
    have hsome : (some id).filter (fun id => id ≠ "") = some id := by simp [hid]
    have hcount := List.nodup_iff_count_le_one.1
      (nodup_branchIds (book.aggregates reads window none)) id
    rw [List.count_eq_length_filter] at hcount
    unfold project
    rw [hsome, List.length_insertionSort, List.length_map, hids.length_eq]
    simpa only [beq_eq_decide] using hcount
  cases hbranches : (book.project reads' window (some id)).branches with
  | nil =>
      rw [hbranches, List.nil_perm] at hrows
      exact hrows.symm
  | cons only rest =>
      rw [hbranches, List.length_cons] at hshort
      obtain rfl : rest = [] := List.length_eq_zero_iff.1 (by omega)
      rw [hbranches, List.singleton_perm] at hrows
      exact hrows

end BranchBook

/-- For all bags and deposits, and with or without a window. -/
theorem ledgerBalances (book : BranchBook) (window : Option LedgerWindow) :
    LedgerBalances book window where
  current := by
    intro reads branchId
    rw [BranchBook.tally_current, BranchBook.heldBags_eq]
  bags := by
    intro reads branchId
    rw [BranchBook.tally_openBagCount, BranchBook.heldBags_eq, List.countP_eq_length_filter]
  outgoing := by
    rintro reads branchId w ⟨⟩
    rw [BranchBook.tally_outgoing, BranchBook.outDeposits_eq]
  filtered := fun _ _ _ hid => BranchBook.branches_filtered hid

end SafariLaundry
