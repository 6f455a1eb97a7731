import SafariLaundry.CashFlows
import SafariLaundry.KuwaitTime
import SafariLaundry.Library.KeyedFold

/-!
# The cash of a day, step by step

What drivers should have collected, what they handed over, what managers received and what was
deposited are compared, in sum and by driver.  The sums count every order; the list of drivers
leaves out orders that have none.
-/

namespace SafariLaundry

open Library Library.Bookkeeping Library.KeyedFold

inductive AccountingScopeType
  | ALL | BRANCH | DRIVER
  deriving DecidableEq

structure CashScope where
  scopeType : Option AccountingScopeType
  (branchId driverId : Option Uuid)

inductive ScopeInput
  | text (branchId : String)
  | scope (scope : CashScope)

structure NormalizedScope where
  scopeType : AccountingScopeType
  (branchId driverId : Option Uuid)

def presentId (id : Option Uuid) : Option Uuid := id.filter fun text => text ≠ ""

def CashScope.guessedType (scope : CashScope) : AccountingScopeType :=
  if presentId scope.driverId ≠ none then .DRIVER
  else if presentId scope.branchId ≠ none then .BRANCH
  else .ALL

def normalizeScope : Option ScopeInput → NormalizedScope
  | none => ⟨.ALL, none, none⟩
  | some (.text branchId) => ⟨.BRANCH, some branchId, none⟩
  | some (.scope scope) =>
      match scope.scopeType.getD scope.guessedType with
      | .DRIVER => ⟨.DRIVER, none, scope.driverId⟩
      | .BRANCH => ⟨.BRANCH, scope.branchId, none⟩
      | .ALL => ⟨.ALL, none, none⟩

/-- Whose rows the three `where` clauses ask for. -/
inductive ScopeFilter
  | all
  | driver (driverId : Uuid)
  | branch (branchId : Uuid)
  deriving DecidableEq

def NormalizedScope.filter (scope : NormalizedScope) : ScopeFilter :=
  match scope.scopeType, presentId scope.driverId, presentId scope.branchId with
  | .DRIVER, some driverId, _ => .driver driverId
  | .BRANCH, _, some branchId => .branch branchId
  | _, _, _ => .all

structure ReconciliationDb where
  bags : Table ManagerCashCustody.id
  book : DepositBook
  orders : Table CashOrder.key
  users : List User
  (fullName username : Uuid → Option String)

structure ReconciliationReads where
  custodies : RowOrder ManagerCashCustody
  orders : RowOrder CashOrder
  deposits : RowOrder BankDepositLog

namespace ReconciliationDb

variable (db : ReconciliationDb)

def OrderInScope (filter : ScopeFilter) (order : CashOrder) : Prop :=
  match filter with
  | .all => True
  | .driver driverId => order.driverId = some driverId
  | .branch branchId =>
      ∃ user ∈ db.users, order.driverId = some user.id ∧ user.branchId = some branchId

instance (filter : ScopeFilter) : DecidablePred (db.OrderInScope filter) := fun order => by
  unfold OrderInScope
  split <;> infer_instance

def CustodyInScope (filter : ScopeFilter) (bag : ManagerCashCustody) : Prop :=
  match filter with
  | .all => True
  | .driver driverId => bag.driverId = driverId
  | .branch branchId => bag.branchId = some branchId

instance (filter : ScopeFilter) : DecidablePred (CustodyInScope filter) := fun bag => by
  unfold CustodyInScope
  split <;> infer_instance

def DepositInScope (filter : ScopeFilter) (deposit : BankDepositLog) : Prop :=
  filter = .all ∨ ∃ order ∈ db.orders.rows, deposit.shiftId ≠ none ∧
    order.handoverShiftId = deposit.shiftId ∧ db.OrderInScope filter order
  deriving Decidable

def custodies (reads : ReconciliationReads) (range : DayRange) (filter : ScopeFilter) :
    List ManagerCashCustody :=
  reads.custodies.arrange (db.bags.rows.filter fun bag =>
    (∃ start ∈ range.start, start.time ≤ bag.receivedFromDriverAt) ∧
      (∃ stop ∈ range.stop, (bag.receivedFromDriverAt : ℤ) < stop.time) ∧ CustodyInScope filter bag)

def shiftIds (custodies : List ManagerCashCustody) : List Uuid :=
  (custodies.filterMap fun bag => presentId bag.shiftId).eraseDups

def InShifts (shiftIds : List Uuid) (shiftId : Option Uuid) : Prop := ∃ id ∈ shiftIds, shiftId = some id
  deriving Decidable

def dayLists (reads : ReconciliationReads) (range : DayRange) (filter : ScopeFilter) :
    DayLists db.book where
  custodies := db.custodies reads range filter
  orders := reads.orders.arrange (db.orders.rows.filter fun order =>
    order.status = .COMPLETED ∧ order.posPaymentMethod = .CASH ∧
      InShifts (shiftIds (db.custodies reads range filter)) order.handoverShiftId ∧
      db.OrderInScope filter order)
  deposits := reads.deposits.arrange (db.book.deposits.rows.filter fun deposit =>
    InShifts (shiftIds (db.custodies reads range filter)) deposit.shiftId ∧
      db.DepositInScope filter deposit)
  custodiesDistinct :=
    ((reads.custodies.perm _).map _).nodup_iff.2
      (db.bags.keysDistinct.sublist (List.filter_sublist.map _))
  ordersDistinct :=
    ((reads.orders.perm _).map _).nodup_iff.2
      (db.orders.keysDistinct.sublist (List.filter_sublist.map _))
  logged := fun _ hdeposit => (List.mem_filter.1 (RowOrder.mem_arrange.1 hdeposit)).1

def driverName (driverId : Uuid) : Option String :=
  (db.fullName driverId).or (db.username driverId)

end ReconciliationDb

/-! ## The report -/

inductive CashReconciliationStatus
  | OK | MISMATCH | CRITICAL

inductive CashSeverity
  | LOW | MEDIUM | HIGH

inductive CashResponsible
  | DRIVER | BRANCH | ACCOUNTING

structure CashDriverBreakdownDto where
  driverId : Uuid
  driverName : Option String
  (collected handed difference : String)
  status : CashReconciliationStatus

structure CashResponsibilityDto where
  responsible : CashResponsible
  amount : String
  delayHours : ℤ
  severity : CashSeverity

structure CashReconciliationDto where
  date : String
  branchId : Option Uuid
  (expectedCash collectedByDrivers handedToBranch receivedByManager depositedToBank : String)
  (differenceDriver differenceBranch differenceBank totalDifference : String)
  status : CashReconciliationStatus
  breakdown : List CashDriverBreakdownDto
  accountability : List CashResponsibilityDto
  depositStatus : OverallDepositStatus
  auditComplete : Bool
  flows : List CashFlowControlDto

def criticalMinor : ℤ := 500000

def statusFor (diffs : List ℤ) : CashReconciliationStatus :=
  let max := diffs.foldl (fun m d => if m < |d| then |d| else m) 0
  if max = 0 then .OK else if criticalMinor ≤ max then .CRITICAL else .MISMATCH

def severityFor (amount delayHours : ℤ) : CashSeverity :=
  if criticalMinor ≤ |amount| ∨ 48 ≤ delayHours then .HIGH
  else if 0 < |amount| ∨ 24 ≤ delayHours then .MEDIUM
  else .LOW

def maxDelay (now : ℤ) (custodies : List ManagerCashCustody) : ℤ :=
  custodies.foldl (fun longest bag =>
    if bag.status = .VERIFIED then longest
    else max longest ((now - bag.receivedFromDriverAt) / (60 * 60 * 1000))) 0

def buildAccountability (now differenceDriver differenceBranch differenceBank : ℤ)
    (custodies : List ManagerCashCustody) : List CashResponsibilityDto :=
  let delay := maxDelay now custodies
  let row (responsible : CashResponsible) (difference : ℤ) : List CashResponsibilityDto :=
    if difference = 0 then []
    else [⟨responsible, minorToFixed4 difference, delay, severityFor difference delay⟩]
  row .DRIVER differenceDriver ++ row .BRANCH differenceBranch ++ row .ACCOUNTING differenceBank

def CashOrder.driver (order : CashOrder) : Option Uuid := presentId order.driverId

def CashOrder.handedBy (order : CashOrder) : Option Uuid :=
  if order.cashStatus = .HANDED_OVER_TO_OFFICE then order.driver else none

namespace ReconciliationDb

variable (db : ReconciliationDb)

def buildBreakdown (collectedByDriver handedByDriver : OrderedMap Uuid ℤ) :
    List CashDriverBreakdownDto :=
  let ids := (collectedByDriver.keys ++ handedByDriver.keys).eraseDups
  ids.map fun driverId =>
    let collected := (collectedByDriver.get? driverId).getD 0
    let handed := (handedByDriver.get? driverId).getD 0
    let difference := collected - handed
    { driverId
      driverName := db.driverName driverId
      collected := minorToFixed4 collected
      handed := minorToFixed4 handed
      difference := minorToFixed4 difference
      status := statusFor [difference] }

def reconcile (reads : ReconciliationReads) (now : ℤ) (range : DayRange) (scope : NormalizedScope) :
    CashReconciliationDto :=
  let day := db.dayLists reads range scope.filter
  let price := fun order : CashOrder => order.totalPrice
  let collectedByDriver := collectSome (.sum price) CashOrder.driver day.orders
  let handedByDriver := collectSome (.sum price) CashOrder.handedBy day.orders
  let expectedCash := tally price day.orders
  let handedToBranch := tally price (day.orders.filter fun order => order.handedBy ≠ none)
  let receivedByManager := tally ManagerCashCustody.amountKd day.custodies
  let depositedToBank := tally BankDepositLog.amountKd day.deposits
  let differenceDriver := expectedCash - handedToBranch
  let differenceBranch := handedToBranch - receivedByManager
  let differenceBank := receivedByManager - depositedToBank
  let flows := day.buildFlows
  { date := range.date
    branchId := if scope.scopeType = .BRANCH then scope.branchId else none
    expectedCash := minorToFixed4 expectedCash
    collectedByDrivers := minorToFixed4 expectedCash
    handedToBranch := minorToFixed4 handedToBranch
    receivedByManager := minorToFixed4 receivedByManager
    depositedToBank := minorToFixed4 depositedToBank
    differenceDriver := minorToFixed4 differenceDriver
    differenceBranch := minorToFixed4 differenceBranch
    differenceBank := minorToFixed4 differenceBank
    totalDifference := minorToFixed4 (differenceDriver + differenceBranch + differenceBank)
    status := statusFor [differenceDriver, differenceBranch, differenceBank]
    breakdown := db.buildBreakdown collectedByDriver handedByDriver
    accountability :=
      buildAccountability now differenceDriver differenceBranch differenceBank day.custodies
    depositStatus := overallDepositStatus flows
    auditComplete := flows.all CashFlowControlDto.auditComplete
    flows := flows }

def computeCashReconciliation (reads : ReconciliationReads) (now : ℤ) (day : String)
    (scopeInput : Option ScopeInput) : Except ServiceError CashReconciliationDto := do
  let range ← parseKuwaitDay day
  return db.reconcile reads now range (normalizeScope scopeInput)

end ReconciliationDb

structure ReportAddsUp (driverless : ℤ) (report : CashReconciliationDto) : Prop where
  total : amountOf report.totalDifference =
    amountOf report.expectedCash - amountOf report.depositedToBank
  collected : tally (fun row => amountOf row.collected) report.breakdown + driverless =
    amountOf report.expectedCash
  handed : tally (fun row => amountOf row.handed) report.breakdown = amountOf report.handedToBranch
  difference : tally (fun row => amountOf row.difference) report.breakdown + driverless =
    amountOf report.differenceDriver
  ok : report.status = .OK → report.expectedCash = report.handedToBranch ∧
    report.handedToBranch = report.receivedByManager ∧
      report.receivedByManager = report.depositedToBank

def ReconciliationDb.driverlessCash (db : ReconciliationDb) (reads : ReconciliationReads)
    (range : DayRange) (scope : NormalizedScope) : ℤ :=
  tally (fun order : CashOrder => order.totalPrice)
    ((db.dayLists reads range scope.filter).orders.filter fun order => order.driver = none)

theorem statusFor_eq_ok {diffs : List ℤ} : statusFor diffs = .OK ↔ ∀ d ∈ diffs, d = 0 := by
  have hmax : ∀ (diffs : List ℤ) (m : ℤ), 0 ≤ m →
      (diffs.foldl (fun m d => if m < |d| then |d| else m) m = 0 ↔ m = 0 ∧ ∀ d ∈ diffs, d = 0) := by
    intro diffs
    induction diffs with
    | nil => simp
    | cons d rest ih =>
        intro m hm
        rw [List.foldl_cons, ih _ (by split_ifs <;> simp [hm, abs_nonneg])]
        split_ifs with hlt
        · have hpos : |d| ≠ 0 := by omega
          have hne : d ≠ 0 := abs_ne_zero.1 hpos
          simp [hne]
        · constructor
          · rintro ⟨rfl, hrest⟩
            have hzero : d = 0 := abs_nonpos_iff.1 (not_lt.1 hlt)
            exact ⟨rfl, List.forall_mem_cons.2 ⟨hzero, hrest⟩⟩
          · rintro ⟨rfl, hall⟩
            exact ⟨rfl, fun other hother => hall other (List.mem_cons_of_mem _ hother)⟩
  unfold statusFor
  dsimp only
  have hzero := hmax diffs 0 le_rfl
  simp only [true_and] at hzero
  rw [← hzero]
  split_ifs with hmaxZero hcritical <;> simp [hmaxZero]

namespace ReconciliationDb

variable {db : ReconciliationDb}

variable (db) in
theorem tally_breakdown (orders : List CashOrder) :
    let price := fun order : CashOrder => order.totalPrice
    let rows := db.buildBreakdown (collectSome (.sum price) CashOrder.driver orders)
      (collectSome (.sum price) CashOrder.handedBy orders)
    tally (fun row => amountOf row.collected) rows +
          tally price (orders.filter fun order => order.driver = none) = tally price orders ∧
      tally (fun row => amountOf row.handed) rows =
        tally price (orders.filter fun order => order.handedBy ≠ none) ∧
      tally (fun row => amountOf row.difference) rows =
        tally (fun row => amountOf row.collected) rows -
          tally (fun row => amountOf row.handed) rows := by
  intro price rows
  have hids : ∀ id, id ∈ ((collectSome (.sum price) CashOrder.driver orders).keys ++
      (collectSome (.sum price) CashOrder.handedBy orders).keys).eraseDups ↔
        (∃ order ∈ orders, order.driver = some id) ∨ ∃ order ∈ orders, order.handedBy = some id := by
    intro id
    rw [List.mem_eraseDups, List.mem_append, mem_keys_collectSome, mem_keys_collectSome]
  have hcollected := tally_partition_some CashOrder.driver price (nodup_eraseDups _)
    (fun order horder id hid => (hids id).2 (Or.inl ⟨order, horder, hid⟩))
  have hhanded := tally_partition_some CashOrder.handedBy price (nodup_eraseDups _)
    (fun order horder id hid => (hids id).2 (Or.inr ⟨order, horder, hid⟩))
  have hsplit := tally_filter_add_not price (fun order : CashOrder => order.handedBy = none) orders
  refine ⟨?_, ?_, ?_⟩
  · rw [← hcollected]
    simp only [rows, buildBreakdown, tally_map, amountOf_minorToFixed4, getD_collectSome_sum]
  · have hrows : tally (fun row => amountOf row.handed) rows +
        tally price (orders.filter fun order => order.handedBy = none) = tally price orders := by
      rw [← hhanded]
      simp only [rows, buildBreakdown, tally_map, amountOf_minorToFixed4, getD_collectSome_sum]
    linarith
  · simp only [rows, buildBreakdown, tally_map, amountOf_minorToFixed4, tally_diff]

theorem reportAddsUp (db : ReconciliationDb) (reads : ReconciliationReads) (now : ℤ)
    (range : DayRange) (scope : NormalizedScope) :
    ReportAddsUp (db.driverlessCash reads range scope) (db.reconcile reads now range scope) := by
  obtain ⟨hcollected, hhanded, hdifference⟩ := tally_breakdown db
    (db.dayLists reads range scope.filter).orders
  unfold driverlessCash
  refine ⟨?_, ?_, ?_, ?_, ?_⟩
  · simp only [reconcile, amountOf_minorToFixed4]
    ring
  · simpa only [reconcile, amountOf_minorToFixed4] using hcollected
  · simpa only [reconcile, amountOf_minorToFixed4] using hhanded
  · simp only [reconcile, amountOf_minorToFixed4]
    linarith
  · intro hok
    have hzero := statusFor_eq_ok.1 hok
    simp only [List.mem_cons, List.not_mem_nil, or_false, forall_eq_or_imp, forall_eq] at hzero
    simp only [reconcile]
    refine ⟨congrArg minorToFixed4 ?_, congrArg minorToFixed4 ?_, congrArg minorToFixed4 ?_⟩
    · exact sub_eq_zero.1 hzero.1
    · exact sub_eq_zero.1 hzero.2.1
    · exact sub_eq_zero.1 hzero.2.2

end ReconciliationDb

/-- For every day, scope and content of the tables. -/
theorem computeCashReconciliation_addsUp (db : ReconciliationDb) (reads : ReconciliationReads)
    (now : ℤ) (day : String) (scopeInput : Option ScopeInput) :
    match parseKuwaitDay day with
    | .error error => db.computeCashReconciliation reads now day scopeInput = .error error
    | .ok range => ∃ report, db.computeCashReconciliation reads now day scopeInput = .ok report ∧
        ReportAddsUp (db.driverlessCash reads range (normalizeScope scopeInput)) report := by
  unfold ReconciliationDb.computeCashReconciliation
  cases parseKuwaitDay day with
  | error error => rfl
  | ok range => exact ⟨_, rfl, ReconciliationDb.reportAddsUp db reads now range _⟩

namespace Sample

def driverlessShift : ReconciliationDb where
  bags := ⟨[{ shiftBag "first" with receivedFromDriverAt := 80000000 }], by decide⟩
  book := oneDeposit
  orders := ⟨[{ order "order" with
    totalPrice := 100000, status := .COMPLETED, cashStatus := .HANDED_OVER_TO_OFFICE
    posPaymentMethod := .CASH, handoverShiftId := some "shift" }], by decide⟩
  users := []
  fullName := fun _ => none
  username := fun _ => none

def asReconciled : ReconciliationReads where
  custodies := ⟨id, List.Perm.refl⟩
  orders := ⟨id, List.Perm.refl⟩
  deposits := ⟨id, List.Perm.refl⟩

def secondDay : DayRange := ⟨newDate 75600000, newDate 162000000, "1970-01-02"⟩

end Sample

theorem reportAddsUp_fails :
    ¬ ∀ (db : ReconciliationDb) (reads : ReconciliationReads) (now : ℤ) (day : String)
      (scopeInput : Option ScopeInput) (report : CashReconciliationDto),
      db.computeCashReconciliation reads now day scopeInput = .ok report → ReportAddsUp 0 report := by
  intro hall
  have hrange : parseKuwaitDay "1970-01-02" = .ok Sample.secondDay := by decide +kernel
  have hreport : Sample.driverlessShift.computeCashReconciliation Sample.asReconciled 0 "1970-01-02"
      none = .ok (Sample.driverlessShift.reconcile Sample.asReconciled 0 Sample.secondDay
        ⟨.ALL, none, none⟩) := by
    unfold ReconciliationDb.computeCashReconciliation
    rw [hrange]
    rfl
  have hclaimed := (hall _ _ _ _ _ _ hreport).collected
  have hreal := (ReconciliationDb.reportAddsUp Sample.driverlessShift Sample.asReconciled 0
    Sample.secondDay ⟨.ALL, none, none⟩).collected
  have hcash : Sample.driverlessShift.driverlessCash Sample.asReconciled Sample.secondDay
      ⟨.ALL, none, none⟩ = 100000 := by decide
  omega

end SafariLaundry
