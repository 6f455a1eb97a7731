import SafariLaundry.Expenses
import SafariLaundry.Library.Calendar
import SafariLaundry.Library.KeyedFold

/-!
# The summary of the expenses

One loop over the expenses of a range fills a table for each way to break the approved ones
down.  Every approved row goes into one cell of each table, so that all of them come to the
same total.
-/

namespace SafariLaundry

open Library Library.Bookkeeping Library.KeyedFold List

/-- A row of `BranchExpense`; a branch is named by its key, which is a uuid. -/
structure DatedExpense extends BranchExpense where
  expenseDate : Timestamp
  branchId_uuid : ∀ id ∈ branchId, id ≠ "" ∧ id ≠ "__unattributed__"

structure ExpenseRecorder where
  safariRole : SafariRole
  (fullName username : String)

structure ExpenseStore where
  expenses : List DatedExpense
  arrival : RowOrder DatedExpense
  recordedBy : Uuid → ExpenseRecorder
  branchName : Uuid → Option String
  /-- `localeCompare` finds the first text not to come after the second. -/
  collate : String → String → Bool

structure BranchKey where
  id : Uuid
  ne_empty : id ≠ ""

def padDigits (width : ℕ) (n : ℤ) : List Char := (toString n).toList.leftpad width '0'

/-- The first seven characters that `toISOString` prints of a date. -/
def isoMonth (date : Timestamp) : String :=
  let day := (date : ℤ) / 86400000
  let year := Calendar.yearOf day
  let digits := if year ≤ 9999 then padDigits 4 year else '+' :: padDigits 6 year
  String.ofList ((digits ++ '-' :: padDigits 2 (Calendar.monthOf day % 12 + 1)).take 7)

structure ExpenseSlot where
  kd : ℤ
  count : ℕ

structure BranchExpenseSlot extends ExpenseSlot where
  branchId : Option Uuid
  branchName : Option String

structure RecorderExpenseSlot extends ExpenseSlot where
  recordedById : Uuid
  recordedByName : String

structure MonthExpenseSlot where
  (total driver branch company : ℤ)

def ExpenseSlot.add (slot : ExpenseSlot) (amount : ℤ) : ExpenseSlot :=
  ⟨slot.kd + amount, slot.count + 1⟩

def MonthExpenseSlot.add (slot : MonthExpenseSlot) (ownerType : ExpenseOwnerType) (amount : ℤ) :
    MonthExpenseSlot :=
  let slot := { slot with total := slot.total + amount }
  match ownerType with
  | .DRIVER => { slot with driver := slot.driver + amount }
  | .BRANCH => { slot with branch := slot.branch + amount }
  | .COMPANY => { slot with company := slot.company + amount }

namespace ExpenseStore

variable (store : ExpenseStore)

def ownerType (row : DatedExpense) : ExpenseOwnerType :=
  deriveOwnerType (store.recordedBy row.recordedById).safariRole row.branchId

def branchKey (row : DatedExpense) : String := row.branchId.getD "__unattributed__"

def monthKey (row : DatedExpense) : String := isoMonth row.expenseDate

def recorderName (row : DatedExpense) : String :=
  let recorder := store.recordedBy row.recordedById
  if trim recorder.fullName ≠ "" then trim recorder.fullName
  else if recorder.username ≠ "" then recorder.username
  else row.recordedById

def slots : Accumulation DatedExpense ExpenseSlot where
  start := fun row => ExpenseSlot.add ⟨0, 0⟩ row.amount
  grow := fun slot row => slot.add row.amount

def branchSlots : Accumulation DatedExpense BranchExpenseSlot where
  start := fun row =>
    ⟨ExpenseSlot.add ⟨0, 0⟩ row.amount, row.branchId, row.branchId.bind store.branchName⟩
  grow := fun slot row => { slot with toExpenseSlot := slot.toExpenseSlot.add row.amount }

def recorderSlots : Accumulation DatedExpense RecorderExpenseSlot where
  start := fun row =>
    ⟨ExpenseSlot.add ⟨0, 0⟩ row.amount, row.recordedById, store.recorderName row⟩
  grow := fun slot row => { slot with toExpenseSlot := slot.toExpenseSlot.add row.amount }

def monthSlots : Accumulation DatedExpense MonthExpenseSlot where
  start := fun row => MonthExpenseSlot.add ⟨0, 0, 0, 0⟩ (store.ownerType row) row.amount
  grow := fun slot row => slot.add (store.ownerType row) row.amount

end ExpenseStore

structure ExpenseTotals where
  (totalApprovedKd totalPendingKd : ℤ)
  approvedCount : ℕ
  ownerTotals : OrderedMap ExpenseOwnerType ExpenseSlot
  categoryTotals : OrderedMap ExpenseCategory ExpenseSlot
  branchTotals : OrderedMap String BranchExpenseSlot
  monthly : OrderedMap String MonthExpenseSlot
  driverTotals : OrderedMap Uuid RecorderExpenseSlot
  (car other : ExpenseSlot)

def ExpenseTotals.initial : ExpenseTotals where
  totalApprovedKd := 0
  totalPendingKd := 0
  approvedCount := 0
  ownerTotals := .empty
  categoryTotals := .empty
  branchTotals := .empty
  monthly := .empty
  driverTotals := .empty
  car := ⟨0, 0⟩
  other := ⟨0, 0⟩

namespace ExpenseStore

variable (store : ExpenseStore)

def addApproved (totals : ExpenseTotals) (row : DatedExpense) : ExpenseTotals :=
  { totals with
    totalApprovedKd := totals.totalApprovedKd + row.amount
    approvedCount := totals.approvedCount + 1
    ownerTotals := put slots store.ownerType totals.ownerTotals row
    categoryTotals := put slots (fun row => row.category) totals.categoryTotals row
    branchTotals := put store.branchSlots branchKey totals.branchTotals row
    monthly := put store.monthSlots monthKey totals.monthly row
    driverTotals := put store.recorderSlots (fun row => row.recordedById) totals.driverTotals row
    car := if row.category = .FUEL then totals.car.add row.amount else totals.car
    other := if row.category = .FUEL then totals.other else totals.other.add row.amount }

def addRow (totals : ExpenseTotals) (row : DatedExpense) : ExpenseTotals :=
  match row.status with
  | .APPROVED => store.addApproved totals row
  | .PENDING_ACCOUNTANT => { totals with totalPendingKd := totals.totalPendingKd + row.amount }
  | .REJECTED | .AUDIT => totals

end ExpenseStore

/-! ## What is returned -/

structure ExpensesSummaryByOwner where
  ownerType : ExpenseOwnerType
  totalKd : ℤ
  count : ℕ

structure ExpensesSummaryByCategory where
  category : ExpenseCategory
  totalKd : ℤ
  count : ℕ

structure ExpensesSummaryByBranch where
  branchId : Option Uuid
  branchName : Option String
  totalKd : ℤ
  count : ℕ

structure ExpensesSummaryByDriver where
  recordedById : Uuid
  recordedByName : String
  totalKd : ℤ
  count : ℕ

structure ExpensesSummaryMonthly where
  month : String
  (totalKd driverKd branchKd companyKd : ℤ)

structure ExpensesSummaryCarBreakdown where
  carTotalKd : ℤ
  carCount : ℕ
  otherTotalKd : ℤ
  otherCount : ℕ
  carShareBps : ℤ

structure ExpensesSummary where
  (rangeFromIso rangeToIso : Timestamp)
  branchScope : Option Uuid
  (totalApprovedKd totalPendingKd : ℤ)
  approvedCount : ℕ
  byOwnerType : List ExpensesSummaryByOwner
  byCategory : List ExpensesSummaryByCategory
  byBranch : List ExpensesSummaryByBranch
  byDriver : List ExpensesSummaryByDriver
  carBreakdown : ExpensesSummaryCarBreakdown
  monthly : List ExpensesSummaryMonthly

def largestFirst {ε : Type} (totalKd : ε → ℤ) (entries : List ε) : List ε :=
  entries.insertionSort fun first second => totalKd second ≤ totalKd first

def carShareBps (carTotalKd totalApprovedKd : ℤ) : ℤ :=
  if 0 < totalApprovedKd then
    Decimal.roundHalfEven ((carTotalKd : ℚ) / totalApprovedKd * 10000)
  else 0

namespace ExpenseStore

variable (store : ExpenseStore)

def inRange (start stop : Timestamp) (branchId : Option Uuid) : List DatedExpense :=
  store.arrival.arrange (store.expenses.filter fun row =>
    start ≤ row.expenseDate ∧ row.expenseDate ≤ stop ∧
      ∀ id ∈ branchId, id ≠ "" → row.branchId = some id)

def ownerRow (totals : ExpenseTotals) (ownerType : ExpenseOwnerType) : ExpensesSummaryByOwner :=
  let slot := (totals.ownerTotals.get? ownerType).getD ⟨0, 0⟩
  ⟨ownerType, slot.kd, slot.count⟩

def summarize (start stop : Timestamp) (branchId : Option Uuid) : ExpensesSummary :=
  let totals := (store.inRange start stop branchId).foldl store.addRow .initial
  { rangeFromIso := start
    rangeToIso := stop
    branchScope := branchId
    totalApprovedKd := totals.totalApprovedKd
    totalPendingKd := totals.totalPendingKd
    approvedCount := totals.approvedCount
    byOwnerType := [.DRIVER, .BRANCH, .COMPANY].map (ownerRow totals)
    byCategory := largestFirst ExpensesSummaryByCategory.totalKd
      (totals.categoryTotals.rows.map fun entry => ⟨entry.1, entry.2.kd, entry.2.count⟩)
    byBranch := largestFirst ExpensesSummaryByBranch.totalKd
      (totals.branchTotals.rows.map fun entry =>
        ⟨entry.2.branchId, entry.2.branchName, entry.2.kd, entry.2.count⟩)
    byDriver := largestFirst ExpensesSummaryByDriver.totalKd
      (totals.driverTotals.rows.map fun entry =>
        ⟨entry.2.recordedById, entry.2.recordedByName, entry.2.kd, entry.2.count⟩)
    carBreakdown :=
      { carTotalKd := totals.car.kd
        carCount := totals.car.count
        otherTotalKd := totals.other.kd
        otherCount := totals.other.count
        carShareBps := carShareBps totals.car.kd totals.totalApprovedKd }
    monthly := (totals.monthly.rows.map fun entry =>
        (⟨entry.1, entry.2.total, entry.2.driver, entry.2.branch, entry.2.company⟩ :
          ExpensesSummaryMonthly)).insertionSort
      fun first second => store.collate first.month second.month = true }

end ExpenseStore

def approved (rows : List DatedExpense) : List DatedExpense :=
  rows.filter fun row => row.status = .APPROVED

def DatedExpense.one (row : DatedExpense) : ℤ × ℕ := (row.amount, 1)

def ExpenseSlot.columns (slot : ExpenseSlot) : ℤ × ℕ := (slot.kd, slot.count)

def ExpenseSlot.of (rows : List DatedExpense) : ExpenseSlot :=
  ⟨(tally DatedExpense.one rows).1, (tally DatedExpense.one rows).2⟩

@[simp] theorem ExpenseSlot.of_concat (rows : List DatedExpense) (row : DatedExpense) :
    ExpenseSlot.of (rows ++ [row]) = (ExpenseSlot.of rows).add row.amount := by
  simp [ExpenseSlot.of, ExpenseSlot.add, DatedExpense.one]

namespace ExpenseStore

variable (store : ExpenseStore)

theorem foldl_addRow (rows : List DatedExpense) :
    rows.foldl store.addRow .initial =
      { totalApprovedKd := (ExpenseSlot.of (approved rows)).kd
        totalPendingKd := tally (fun row => row.amount)
          (rows.filter fun row => row.status = .PENDING_ACCOUNTANT)
        approvedCount := (ExpenseSlot.of (approved rows)).count
        ownerTotals := KeyedFold.collect slots store.ownerType (approved rows)
        categoryTotals := KeyedFold.collect slots (fun row => row.category) (approved rows)
        branchTotals := KeyedFold.collect store.branchSlots branchKey (approved rows)
        monthly := KeyedFold.collect store.monthSlots monthKey (approved rows)
        driverTotals := KeyedFold.collect store.recorderSlots (fun row => row.recordedById) (approved rows)
        car := .of ((approved rows).filter fun row => row.category = .FUEL)
        other := .of ((approved rows).filter fun row => ¬ row.category = .FUEL) } := by
  induction rows using List.reverseRecOn with
  | nil => rfl
  | append_singleton rows row ih =>
      rw [foldl_append, ih, foldl_cons, foldl_nil]
      cases hstatus : row.status with
      | APPROVED =>
          by_cases hfuel : row.category = .FUEL
          · simp [addRow, addApproved, approved, hstatus, hfuel, ExpenseSlot.add]
          · simp [addRow, addApproved, approved, hstatus, hfuel, ExpenseSlot.add]
      | PENDING_ACCOUNTANT => simp [addRow, approved, hstatus]
      | REJECTED => simp [addRow, approved, hstatus]
      | AUDIT => simp [addRow, approved, hstatus]

theorem slots_additive : slots.Additive ExpenseSlot.columns DatedExpense.one where
  start := fun row => by simp [slots, ExpenseSlot.add, ExpenseSlot.columns, DatedExpense.one]
  grow := fun old row => by simp [slots, ExpenseSlot.add, ExpenseSlot.columns, DatedExpense.one]

theorem branchSlots_additive :
    store.branchSlots.Additive (fun slot => slot.columns) DatedExpense.one where
  start := fun row => by
    simp [branchSlots, ExpenseSlot.add, ExpenseSlot.columns, DatedExpense.one]
  grow := fun old row => by
    simp [branchSlots, ExpenseSlot.add, ExpenseSlot.columns, DatedExpense.one]

theorem recorderSlots_additive :
    store.recorderSlots.Additive (fun slot => slot.columns) DatedExpense.one where
  start := fun row => by
    simp [recorderSlots, ExpenseSlot.add, ExpenseSlot.columns, DatedExpense.one]
  grow := fun old row => by
    simp [recorderSlots, ExpenseSlot.add, ExpenseSlot.columns, DatedExpense.one]

theorem monthSlots_total :
    store.monthSlots.Additive MonthExpenseSlot.total (fun row => row.amount) where
  start := fun row => by
    cases howner : store.ownerType row <;> simp [monthSlots, MonthExpenseSlot.add, howner]
  grow := fun old row => by
    cases howner : store.ownerType row <;> simp [monthSlots, MonthExpenseSlot.add, howner]

theorem monthSlots_owners :
    store.monthSlots.Additive (fun slot => slot.driver + slot.branch + slot.company)
      (fun row => row.amount) where
  start := fun row => by
    cases howner : store.ownerType row <;> simp [monthSlots, MonthExpenseSlot.add, howner]
  grow := fun old row => by
    cases howner : store.ownerType row <;>
      simp only [monthSlots, MonthExpenseSlot.add, howner] <;> omega

theorem tally_largestFirst {ε M : Type} [AddCommMonoid M] (weight : ε → M) (totalKd : ε → ℤ)
    (entries : List ε) : tally weight (largestFirst totalKd entries) = tally weight entries :=
  tally_perm weight (perm_insertionSort _ _)

variable (start stop : Timestamp) (branchId : Option Uuid)

def counted : List DatedExpense := approved (store.inRange start stop branchId)

theorem columns_eq : ((store.summarize start stop branchId).totalApprovedKd,
      (store.summarize start stop branchId).approvedCount) =
    tally DatedExpense.one (store.counted start stop branchId) := by
  simp only [summarize, foldl_addRow]
  rfl

theorem owners_sum : tally (fun entry => (entry.totalKd, entry.count))
      (store.summarize start stop branchId).byOwnerType =
    tally DatedExpense.one (store.counted start stop branchId) := by
  have hcover : ∀ row ∈ store.counted start stop branchId,
      store.ownerType row ∈ [ExpenseOwnerType.DRIVER, .BRANCH, .COMPANY] := by
    intro row _
    cases store.ownerType row <;> decide
  rw [← tally_partition store.ownerType DatedExpense.one (by decide) hcover]
  simp only [summarize, foldl_addRow]
  rw [tally_map]
  apply tally_congr
  intro ownerType _
  rw [← slots_additive.getD_made, ← get?_collect]
  unfold ownerRow
  cases hslot : (KeyedFold.collect slots store.ownerType (approved (store.inRange start stop branchId))).get?
      ownerType with
  | none => simp [counted, hslot]
  | some slot => simp [counted, hslot, ExpenseSlot.columns]

theorem categories_sum : tally (fun entry => (entry.totalKd, entry.count))
      (store.summarize start stop branchId).byCategory =
    tally DatedExpense.one (store.counted start stop branchId) := by
  simp only [summarize, foldl_addRow, tally_largestFirst]
  rw [tally_map]
  exact tally_collect slots _ slots_additive _

theorem branches_sum : tally (fun entry => (entry.totalKd, entry.count))
      (store.summarize start stop branchId).byBranch =
    tally DatedExpense.one (store.counted start stop branchId) := by
  simp only [summarize, foldl_addRow, tally_largestFirst]
  rw [tally_map]
  exact tally_collect _ _ store.branchSlots_additive _

theorem recorders_sum : tally (fun entry => (entry.totalKd, entry.count))
      (store.summarize start stop branchId).byDriver =
    tally DatedExpense.one (store.counted start stop branchId) := by
  simp only [summarize, foldl_addRow, tally_largestFirst]
  rw [tally_map]
  exact tally_collect _ _ store.recorderSlots_additive _

theorem months_sum : tally ExpensesSummaryMonthly.totalKd
      (store.summarize start stop branchId).monthly =
    (tally DatedExpense.one (store.counted start stop branchId)).1 := by
  have hfst : ∀ rows : List DatedExpense,
      (tally DatedExpense.one rows).1 = tally (fun row => row.amount) rows := by
    intro rows
    induction rows with
    | nil => rfl
    | cons row rest ih => simp [ih, DatedExpense.one]
  simp only [summarize, foldl_addRow]
  rw [tally_perm _ (perm_insertionSort _ _), tally_map, hfst]
  exact tally_collect _ _ store.monthSlots_total _

theorem cars_sum : ((store.summarize start stop branchId).carBreakdown.carTotalKd +
        (store.summarize start stop branchId).carBreakdown.otherTotalKd,
      (store.summarize start stop branchId).carBreakdown.carCount +
        (store.summarize start stop branchId).carBreakdown.otherCount) =
    tally DatedExpense.one (store.counted start stop branchId) := by
  rw [← tally_filter_add_not DatedExpense.one (fun row => row.category = .FUEL)]
  simp only [summarize, foldl_addRow]
  rfl

theorem month_owners {month : ExpensesSummaryMonthly}
    (hmonth : month ∈ (store.summarize start stop branchId).monthly) :
    month.driverKd + month.branchKd + month.companyKd = month.totalKd := by
  simp only [summarize, foldl_addRow, mem_insertionSort, mem_map] at hmonth
  obtain ⟨entry, hentry, rfl⟩ := hmonth
  have hmade := (mem_collect _ _).1 hentry
  have htotal := store.monthSlots_total.made hmade
  have howners := store.monthSlots_owners.made hmade
  simp only
  rw [howners, htotal]

/-! ## One branch -/

theorem branchId_of_made {rows : List DatedExpense} {slot : BranchExpenseSlot}
    (hmade : store.branchSlots.made rows = some slot) : ∃ row ∈ rows, slot.branchId = row.branchId := by
  apply Accumulation.made_invariant _ _ hmade
  · intro row
    exact ⟨row, mem_singleton_self row, rfl⟩
  · rintro rows old row ⟨first, hfirst, hsame⟩
    exact ⟨first, mem_append_left _ hfirst, hsame⟩

theorem branchKey_eq_iff (row : DatedExpense) {id : Uuid} (hid : id ≠ "__unattributed__") :
    branchKey row = id ↔ row.branchId = some id := by
  unfold branchKey
  cases hbranch : row.branchId with
  | none => simp [hid.symm]
  | some other => simp

theorem counted_branch_perm (branch : BranchKey) :
    ((store.counted start stop none).filter fun row => row.branchId = some branch.id).Perm
      (store.counted start stop (some branch.id)) := by
  unfold counted approved inRange
  apply (((store.arrival.perm _).filter _).filter _).trans
  apply List.Perm.trans _ ((store.arrival.perm _).filter _).symm
  apply List.Perm.of_eq
  rw [filter_filter, filter_filter, filter_filter]
  apply filter_congr
  intro row _
  by_cases hbranch : row.branchId = some branch.id
  · simp [hbranch]
  · simp [hbranch, branch.ne_empty]

theorem filter_branchTotals (branch : BranchKey) (rows : List DatedExpense) :
    ((KeyedFold.collect store.branchSlots branchKey rows).rows.filter
        fun entry => entry.2.branchId = some branch.id).map (fun entry => entry.2.columns) =
      if (rows.filter fun row => row.branchId = some branch.id) = [] then []
      else [tally DatedExpense.one (rows.filter fun row => row.branchId = some branch.id)] := by
  have hcell : ∀ entry ∈ (KeyedFold.collect store.branchSlots branchKey rows).rows,
      ∃ row ∈ rows, branchKey row = entry.1 ∧ entry.2.branchId = row.branchId := by
    intro entry hentry
    obtain ⟨row, hrow, hsame⟩ := store.branchId_of_made ((mem_collect _ _).1 hentry)
    obtain ⟨hmem, hkey⟩ := mem_filter.1 hrow
    exact ⟨row, hmem, of_decide_eq_true hkey, hsame⟩
  by_cases hid : branch.id = "__unattributed__"
  · have hrows : (rows.filter fun row => row.branchId = some branch.id) = [] := by
      rw [filter_eq_nil_iff]
      intro row _ hbranch
      exact (row.branchId_uuid _ (of_decide_eq_true hbranch)).2 hid
    rw [if_pos hrows, map_eq_nil_iff, filter_eq_nil_iff]
    intro entry hentry hbranch
    obtain ⟨row, _, _, hsame⟩ := hcell entry hentry
    exact (row.branchId_uuid _ (hsame.symm.trans (of_decide_eq_true hbranch))).2 hid
  · have hkeys : (KeyedFold.collect store.branchSlots branchKey rows).rows.filter
          (fun entry => entry.2.branchId = some branch.id) =
        (KeyedFold.collect store.branchSlots branchKey rows).rows.filter
          fun entry => entry.1 = branch.id := by
      apply filter_congr
      intro entry hentry
      obtain ⟨row, _, hkey, hsame⟩ := hcell entry hentry
      rw [hsame, ← hkey]
      exact decide_eq_decide.2 (branchKey_eq_iff row hid).symm
    have hgroup : (rows.filter fun row => branchKey row = branch.id) =
        rows.filter fun row => row.branchId = some branch.id := by
      apply filter_congr
      intro row _
      exact decide_eq_decide.2 (branchKey_eq_iff row hid)
    have hget := get?_collect store.branchSlots branchKey rows branch.id
    rw [hgroup] at hget
    rw [hkeys]
    cases hfound : (KeyedFold.collect store.branchSlots branchKey rows).find? branch.id with
    | none =>
        have hnone : store.branchSlots.made
            (rows.filter fun row => row.branchId = some branch.id) = none := by
          rw [← hget, OrderedMap.get?, hfound]
          rfl
        rw [if_pos (Accumulation.made_eq_none.1 hnone), map_eq_nil_iff, filter_eq_nil_iff]
        intro entry hentry hkey
        exact List.find?_eq_none.1 hfound entry hentry hkey
    | some entry =>
        have hmade : store.branchSlots.made
            (rows.filter fun row => row.branchId = some branch.id) = some entry.2 := by
          rw [← hget, OrderedMap.get?, hfound]
          rfl
        have hsome : (rows.filter fun row => row.branchId = some branch.id) ≠ [] := by
          apply (store.branchSlots).made_isSome.1
          rw [hmade]
          rfl
        rw [if_neg hsome, Table.filter_key hfound, map_singleton,
          store.branchSlots_additive.made hmade]

end ExpenseStore

theorem tally_pairs (rows : List DatedExpense) :
    tally DatedExpense.one rows = (tally (fun row => row.amount) rows, rows.length) := by
  induction rows with
  | nil => rfl
  | cons row rest ih =>
      rw [tally_cons, tally_cons, ih]
      simp [DatedExpense.one, add_comm]

theorem one_count_eq_zero_iff {rows : List DatedExpense} :
    (tally DatedExpense.one rows).2 = 0 ↔ rows = [] := by
  rw [tally_pairs]
  exact length_eq_zero_iff

/-- The approved expenses of the range, of one branch if it is given. -/
def ExpenseStore.approvedWithin (store : ExpenseStore) (start stop : Timestamp)
    (branchId : Option Uuid) : List DatedExpense :=
  store.expenses.filter fun row => row.status = .APPROVED ∧
    start ≤ row.expenseDate ∧ row.expenseDate ≤ stop ∧
      ∀ id ∈ branchId, id ≠ "" → row.branchId = some id

theorem ExpenseStore.counted_perm (store : ExpenseStore) (start stop : Timestamp)
    (branchId : Option Uuid) :
    (store.counted start stop branchId).Perm (store.approvedWithin start stop branchId) := by
  unfold counted approved inRange approvedWithin
  apply ((store.arrival.perm _).filter _).trans
  rw [filter_filter]
  exact .of_eq (filter_congr fun row _ => (Bool.decide_and ..).symm)

/-- Every way in which a summary breaks the approved expenses down comes to their total. -/
structure SummaryAddsUp (expenses : List DatedExpense) (summary : ExpensesSummary) : Prop where
  total : (summary.totalApprovedKd, summary.approvedCount) =
    (tally (fun row => row.amount) expenses, expenses.length)
  owners : tally (fun entry => (entry.totalKd, entry.count)) summary.byOwnerType =
    (summary.totalApprovedKd, summary.approvedCount)
  categories : tally (fun entry => (entry.totalKd, entry.count)) summary.byCategory =
    (summary.totalApprovedKd, summary.approvedCount)
  branches : tally (fun entry => (entry.totalKd, entry.count)) summary.byBranch =
    (summary.totalApprovedKd, summary.approvedCount)
  recorders : tally (fun entry => (entry.totalKd, entry.count)) summary.byDriver =
    (summary.totalApprovedKd, summary.approvedCount)
  months : tally ExpensesSummaryMonthly.totalKd summary.monthly = summary.totalApprovedKd
  cars : (summary.carBreakdown.carTotalKd + summary.carBreakdown.otherTotalKd,
      summary.carBreakdown.carCount + summary.carBreakdown.otherCount) =
    (summary.totalApprovedKd, summary.approvedCount)
  monthOwners : ∀ month ∈ summary.monthly,
    month.driverKd + month.branchKd + month.companyKd = month.totalKd

/-- All breakdowns of a summary come to its total, and the entry that the summary of all
branches has for a branch is what the summary of this branch says, if it says anything. -/
theorem summarize_addsUp (store : ExpenseStore) (start stop : Timestamp) :
    (∀ branchId, SummaryAddsUp (store.approvedWithin start stop branchId)
      (store.summarize start stop branchId)) ∧
      ∀ branch : BranchKey, ((store.summarize start stop none).byBranch.filter
            fun entry => entry.branchId = some branch.id).map
              (fun entry => (entry.totalKd, entry.count)) =
          if (store.summarize start stop (some branch.id)).approvedCount = 0 then []
          else [((store.summarize start stop (some branch.id)).totalApprovedKd,
            (store.summarize start stop (some branch.id)).approvedCount)] := by
  constructor
  · intro branchId
    have htotal := store.columns_eq start stop branchId
    constructor
    · rw [htotal, tally_perm _ (store.counted_perm start stop branchId), tally_pairs]
    · rw [htotal, store.owners_sum]
    · rw [htotal, store.categories_sum]
    · rw [htotal, store.branches_sum]
    · rw [htotal, store.recorders_sum]
    · rw [store.months_sum, ← htotal]
    · rw [htotal, store.cars_sum]
    · intro month hmonth
      exact store.month_owners start stop branchId hmonth
  · intro branch
    have hperm := store.counted_branch_perm start stop branch
    have htotal := store.columns_eq start stop (some branch.id)
    have hcount : (store.summarize start stop (some branch.id)).approvedCount = 0 ↔
        ((store.counted start stop none).filter fun row => row.branchId = some branch.id) = [] := by
      have hsnd : (store.summarize start stop (some branch.id)).approvedCount = _ :=
        congrArg Prod.snd htotal
      rw [hsnd, one_count_eq_zero_iff]
      exact ⟨fun h => (h ▸ hperm).eq_nil, fun h => (h ▸ hperm).symm.eq_nil⟩
    have hcells := store.filter_branchTotals branch (store.counted start stop none)
    have hentries : (((store.summarize start stop none).byBranch.filter
          fun entry => entry.branchId = some branch.id).map
            fun entry => (entry.totalKd, entry.count)).Perm
        (((KeyedFold.collect store.branchSlots ExpenseStore.branchKey (store.counted start stop none)).rows.filter
          fun entry => entry.2.branchId = some branch.id).map fun entry => entry.2.columns) := by
      simp only [ExpenseStore.summarize, ExpenseStore.foldl_addRow]
      apply (((perm_insertionSort _ _).filter _).map _).trans
      rw [filter_map, map_map]
      exact List.Perm.refl _
    rw [hcells] at hentries
    by_cases hnone : (store.summarize start stop (some branch.id)).approvedCount = 0
    · rw [if_pos (hcount.1 hnone)] at hentries
      rw [if_pos hnone, hentries.eq_nil]
    · rw [if_neg fun h => hnone (hcount.2 h)] at hentries
      rw [if_neg hnone, perm_singleton.1 hentries, htotal, tally_perm _ hperm]

end SafariLaundry
