import SafariLaundry.Domain
import SafariLaundry.Library.Decimal
import SafariLaundry.Library.History
import SafariLaundry.Library.Selection

/-!
# Instalments of employee loans

A payroll takes the monthly instalment of each active loan of its employee, unless the
loan remembers the payroll's month as the last one.  A recalculated payroll takes it from
the loans that remember no month.
-/

namespace SafariLaundry

open Library List

inductive LoanStatus
  | PENDING | APPROVED | ACTIVE | SETTLED | REJECTED
  deriving DecidableEq

structure EmployeeLoan where
  (id userId : Uuid)
  amount : ℤ
  installmentCount : ℕ
  (monthlyDeduction remaining : ℤ)
  status : LoanStatus
  lastDeductionYearMonth : Option String
  createdAt : Timestamp

inductive PayrollStatus
  | PENDING | PAID
  deriving DecidableEq

structure Payroll where
  (id userId branchId : Uuid)
  loanDeduction : ℤ
  paymentDate : String
  status : PayrollStatus

structure PayrollDb where
  loans : Table EmployeeLoan.id
  payrolls : Table Payroll.id
  /-- Not a table: the months of the instalments taken from each loan, newest first. -/
  instalments : List (Uuid × String)
  /-- Not a table: the months whose payrolls came by each loan, newest first. -/
  months : List (Uuid × String)

/-- `amount.div(installmentCount).toDecimalPlaces(4)`, in minor units. -/
def monthlyInstalment (amount : ℤ) (installmentCount : ℕ) : ℤ :=
  Decimal.roundHalfAway (amount / installmentCount)

namespace EmployeeLoan

def instalment (loan : EmployeeLoan) : ℤ := min loan.monthlyDeduction loan.remaining

def booked (yearMonth : String) (read stored : EmployeeLoan) : EmployeeLoan :=
  { stored with
    remaining := read.remaining - read.instalment
    status := if read.remaining - read.instalment ≤ 0 then .SETTLED else read.status
    lastDeductionYearMonth := some yearMonth }

theorem booked_id (yearMonth : String) (read stored : EmployeeLoan) :
    (booked yearMonth read stored).id = stored.id := rfl

def IsOpen (userId : Uuid) (loan : EmployeeLoan) : Prop :=
  loan.userId = userId ∧ loan.status = .ACTIVE ∧ 0 < loan.remaining
  deriving Decidable

end EmployeeLoan

def loansByCreation (loans : List EmployeeLoan) : List EmployeeLoan :=
  loans.insertionSort fun first second => first.createdAt ≤ second.createdAt

def PayrollDb.book (yearMonth : String) (loan : EmployeeLoan) (db : PayrollDb) : PayrollDb :=
  { db with
    loans := db.loans.update loan.id (loan.booked yearMonth) (loan.booked_id yearMonth)
    instalments := (loan.id, yearMonth) :: db.instalments }

def bookInstalments (yearMonth : String) (skips : EmployeeLoan → Bool) :
    List EmployeeLoan → PayrollDb → ℤ × PayrollDb
  | [], db => (0, db)
  | loan :: rest, db =>
      if skips loan = true ∨ loan.remaining ≤ 0 ∨ loan.instalment ≤ 0 then
        bookInstalments yearMonth skips rest db
      else
        let (total, db') := bookInstalments yearMonth skips rest (db.book yearMonth loan)
        (loan.instalment + total, db')

/-- `/^\d{4}-\d{2}$/`. -/
def IsYearMonth (text : String) : Prop :=
  match text.toList with
  | [y₁, y₂, y₃, y₄, dash, m₁, m₂] =>
      [y₁, y₂, y₃, y₄, m₁, m₂].all Char.isDigit = true ∧ dash = '-'
  | _ => False

instance : DecidablePred IsYearMonth := fun text => by
  unfold IsYearMonth
  split
  · infer_instance
  · infer_instance

def bookPayrollInstalmentsFor (userId : Uuid) (yearMonth : String) (db : PayrollDb) :
    Except ServiceError (ℤ × PayrollDb) :=
  if ¬ IsYearMonth yearMonth then .error (.badRequest "yearMonth must match YYYY-MM")
  else
    .ok (bookInstalments yearMonth (fun loan => loan.lastDeductionYearMonth = some yearMonth)
      (loansByCreation (db.loans.rows.filter fun loan => loan.IsOpen userId)) db)

def recalcUnbookedInstalmentsFor (userId : Uuid) (yearMonth : String) (db : PayrollDb) :
    Except ServiceError (ℤ × PayrollDb) :=
  if ¬ IsYearMonth yearMonth then .error (.badRequest "yearMonth must match YYYY-MM")
  else
    .ok (bookInstalments yearMonth (fun _ => false)
      (loansByCreation (db.loans.rows.filter fun loan =>
        loan.IsOpen userId ∧ loan.lastDeductionYearMonth = none)) db)

def yearMonthOf (paymentDate : String) : String := String.ofList (paymentDate.toList.take 7)

def MayRunPayroll (role : SafariRole) : Prop := role = .OWNER ∨ role = .MANAGER
  deriving Decidable

structure CreatePayrollDto where
  (userId branchId : Uuid)
  paymentDate : String

def CreatePayrollDto.payroll (dto : CreatePayrollDto) (loanDeduction : ℤ) (id : Uuid) :
    Payroll where
  id := id
  userId := dto.userId
  branchId := dto.branchId
  loanDeduction := loanDeduction
  paymentDate := dto.paymentDate
  status := .PENDING

def PayrollDb.cameBy (yearMonth : String) (loans : List EmployeeLoan) (db : PayrollDb) :
    PayrollDb :=
  { db with months := (loans.map fun loan => (loan.id, yearMonth)) ++ db.months }

def createPayroll (keys : FreshKeys Uuid) (actorRole : SafariRole) (dto : CreatePayrollDto)
    (db : PayrollDb) : Except ServiceError PayrollDb := do
  if ¬ MayRunPayroll actorRole then throw (.forbidden "Forbidden")
  let (loanDeduction, booked) ←
    bookPayrollInstalmentsFor dto.userId (yearMonthOf dto.paymentDate) db
  return { booked with
      payrolls := booked.payrolls.insertNew keys (dto.payroll loanDeduction) fun _ => rfl
    }.cameBy (yearMonthOf dto.paymentDate)
      (db.loans.rows.filter fun loan => loan.userId = dto.userId)

def Payroll.withMore (newlyBooked : ℤ) (payroll : Payroll) : Payroll :=
  { payroll with loanDeduction := payroll.loanDeduction + newlyBooked }

def recalcLoanDeduction (actorRole : SafariRole) (id : Uuid) (db : PayrollDb) :
    Except ServiceError PayrollDb := do
  if ¬ MayRunPayroll actorRole then throw (.forbidden "Forbidden")
  match db.payrolls.find? id with
  | none => throw (.notFound "Payroll not found")
  | some row => do
      if row.status ≠ .PENDING then
        throw (.forbidden "Only PENDING payrolls can be recalculated")
      let (newlyBooked, booked) ←
        recalcUnbookedInstalmentsFor row.userId (yearMonthOf row.paymentDate) db
      let noted := booked.cameBy (yearMonthOf row.paymentDate)
        (db.loans.rows.filter fun loan =>
          loan.userId = row.userId ∧ loan.lastDeductionYearMonth = none)
      if newlyBooked ≤ 0 then return noted
      else
        return { noted with
          payrolls := noted.payrolls.update id (Payroll.withMore newlyBooked) fun _ => rfl }

inductive PayrollCall
  | create (keys : FreshKeys Uuid) (actorRole : SafariRole) (dto : CreatePayrollDto)
  | recalc (actorRole : SafariRole) (id : Uuid)

def PayrollCall.result : PayrollCall → PayrollDb → Except ServiceError PayrollDb
  | .create keys actorRole dto => createPayroll keys actorRole dto
  | .recalc actorRole id => recalcLoanDeduction actorRole id

def payrollCalls : Calls PayrollDb PayrollCall where
  step := fun call db =>
    match call.result db with
    | .ok db' => db'
    | .error _ => db
  seen := fun _ => []

def monthsOf (loanId : Uuid) (db : PayrollDb) : List String :=
  (db.months.filter fun entry => entry.1 = loanId).map Prod.snd

def instalmentsOf (loanId : Uuid) (db : PayrollDb) : List String :=
  (db.instalments.filter fun entry => entry.1 = loanId).map Prod.snd

def monthCount (loanId : Uuid) (db : PayrollDb) : ℕ := (monthsOf loanId db).dedup.length

/-- One instalment in a month at most, and the loan is settled, with nothing left, once as
many different months have come by as it has instalments, and not before. -/
structure LoanOnSchedule (loan : EmployeeLoan) (db : PayrollDb) : Prop where
  once : (instalmentsOf loan.id db).Nodup
  settled : ∀ row, db.loans.find? loan.id = some row →
    (row.status = .SETTLED ↔ loan.installmentCount ≤ monthCount loan.id db) ∧
      (row.status = .SETTLED → row.remaining = 0)

structure JustApproved (loan : EmployeeLoan) (db : PayrollDb) : Prop where
  row : db.loans.find? loan.id = some loan
  status : loan.status = .ACTIVE
  amount : 10 ≤ loan.amount
  installmentCount : 1 ≤ loan.installmentCount ∧ loan.installmentCount ≤ 12
  monthlyDeduction :
    loan.monthlyDeduction = monthlyInstalment loan.amount loan.installmentCount
  remaining : loan.remaining = loan.amount
  noMonth : loan.lastDeductionYearMonth = none
  months : monthsOf loan.id db = []
  instalments : instalmentsOf loan.id db = []

def PayrollCall.monthFor (loanId : Uuid) (db : PayrollDb) : PayrollCall → Option String
  | .create _ actorRole dto =>
      match db.loans.find? loanId with
      | some row =>
          if MayRunPayroll actorRole ∧ IsYearMonth (yearMonthOf dto.paymentDate) ∧
              row.userId = dto.userId then
            some (yearMonthOf dto.paymentDate)
          else none
      | none => none
  | .recalc actorRole id =>
      match db.loans.find? loanId, db.payrolls.find? id with
      | some row, some payroll =>
          if MayRunPayroll actorRole ∧ payroll.status = .PENDING ∧
              IsYearMonth (yearMonthOf payroll.paymentDate) ∧ row.userId = payroll.userId ∧
              row.lastDeductionYearMonth = none then
            some (yearMonthOf payroll.paymentDate)
          else none
      | _, _ => none

/-- A month that comes again while the loan is active is the one that the loan remembers; and
up to the last instalment, the instalments so far cover the amount exactly with the last. -/
def PayrollCall.OnSchedule (loan : EmployeeLoan) (call : PayrollCall) (db : PayrollDb) : Prop :=
  ∀ yearMonth, call.monthFor loan.id db = some yearMonth →
    (yearMonth ∈ monthsOf loan.id db → ∀ row, db.loans.find? loan.id = some row →
      row.status = .ACTIVE → row.lastDeductionYearMonth = some yearMonth) ∧
    (yearMonth ∉ monthsOf loan.id db → monthCount loan.id db < loan.installmentCount →
      (loan.amount ≤ (monthCount loan.id db + 1) * loan.monthlyDeduction ↔
        monthCount loan.id db + 1 = loan.installmentCount))

variable {db : PayrollDb} {loan row : EmployeeLoan} {loanId : Uuid} {yearMonth : String}
  {call : PayrollCall}

def EmployeeLoan.Books (skips : EmployeeLoan → Bool) (loan : EmployeeLoan) : Prop :=
  ¬ (skips loan = true ∨ loan.remaining ≤ 0 ∨ loan.instalment ≤ 0)

structure LoanKept (loanId : Uuid) (row : EmployeeLoan) (instalments : List String)
    (before after : PayrollDb) : Prop where
  row : after.loans.find? loanId = some row
  instalments : instalmentsOf loanId after = instalments
  months : after.months = before.months

theorem PayrollDb.find?_book_self (yearMonth : String) (hrow : db.loans.find? row.id = some row) :
    (db.book yearMonth row).loans.find? row.id = some (row.booked yearMonth row) := by
  unfold PayrollDb.book
  rw [Table.find?_update_self, hrow]
  rfl

theorem PayrollDb.find?_book_of_ne (yearMonth : String) (hother : loan.id ≠ loanId)
    (hrow : db.loans.find? loanId = some row) :
    (db.book yearMonth loan).loans.find? loanId = some row := by
  unfold PayrollDb.book
  rw [Table.find?_update_of_ne db.loans _ _ hother.symm]
  exact hrow

variable {skips : EmployeeLoan → Bool} {p : EmployeeLoan → Prop} {after : PayrollDb}

theorem bookInstalments_of_not_books (yearMonth : String) {loans : List EmployeeLoan}
    (hnone : ∀ loan ∈ loans, loan.id = loanId → ¬ loan.Books skips)
    (hrow : db.loans.find? loanId = some row) :
    LoanKept loanId row (instalmentsOf loanId db) db
      (bookInstalments yearMonth skips loans db).2 := by
  induction loans generalizing db with
  | nil => exact ⟨hrow, rfl, rfl⟩
  | cons loan rest ih =>
      have hrest : ∀ other ∈ rest, other.id = loanId → ¬ other.Books skips :=
        fun other hother => hnone other (.tail _ hother)
      unfold bookInstalments
      by_cases hskips : skips loan = true ∨ loan.remaining ≤ 0 ∨ loan.instalment ≤ 0
      · rw [if_pos hskips]
        exact ih hrest hrow
      · have hother : loan.id ≠ loanId :=
          fun hid => hnone loan (mem_cons_self ..) hid hskips
        have hkept := ih hrest (PayrollDb.find?_book_of_ne yearMonth hother hrow)
        rw [if_neg hskips]
        refine ⟨hkept.row, hkept.instalments.trans ?_, hkept.months⟩
        unfold instalmentsOf PayrollDb.book
        rw [filter_cons_of_neg (by simpa using hother)]

theorem bookInstalments_of_books {loans : List EmployeeLoan}
    (hdistinct : (loans.map EmployeeLoan.id).Nodup) (hmem : row ∈ loans) (hbooks : row.Books skips)
    (hrow : db.loans.find? row.id = some row) :
    LoanKept row.id (row.booked yearMonth row) (yearMonth :: instalmentsOf row.id db) db
      (bookInstalments yearMonth skips loans db).2 := by
  induction loans generalizing db with
  | nil => cases hmem
  | cons loan rest ih =>
      rw [map_cons, nodup_cons] at hdistinct
      unfold bookInstalments
      rcases mem_cons.1 hmem with rfl | hrest
      · have hlater : ∀ other ∈ rest, other.id = row.id → ¬ other.Books skips := by
          intro other hother hid
          exact absurd (hid ▸ mem_map_of_mem hother) hdistinct.1
        have hkept := bookInstalments_of_not_books yearMonth hlater
          (PayrollDb.find?_book_self yearMonth hrow)
        rw [if_neg hbooks]
        refine ⟨hkept.row, hkept.instalments.trans ?_, hkept.months⟩
        unfold instalmentsOf PayrollDb.book
        rw [filter_cons_of_pos (by simp)]
        rfl
      · have hother : loan.id ≠ row.id := by
          intro hid
          exact hdistinct.1 (hid ▸ mem_map_of_mem hrest)
        by_cases hskips : skips loan = true ∨ loan.remaining ≤ 0 ∨ loan.instalment ≤ 0
        · rw [if_pos hskips]
          exact ih hdistinct.2 hrest hrow
        · have hkept := ih hdistinct.2 hrest (PayrollDb.find?_book_of_ne yearMonth hother hrow)
          rw [if_neg hskips]
          refine ⟨hkept.row, hkept.instalments.trans ?_, hkept.months⟩
          unfold instalmentsOf PayrollDb.book
          rw [filter_cons_of_neg (by simpa using hother)]

theorem loansByCreation_distinct (p : EmployeeLoan → Prop) [DecidablePred p] :
    ((loansByCreation (db.loans.rows.filter fun loan => p loan)).map EmployeeLoan.id).Nodup := by
  have hperm : (loansByCreation (db.loans.rows.filter fun loan => p loan)).Perm
      (db.loans.rows.filter fun loan => p loan) := perm_insertionSort _ _
  exact (hperm.map _).nodup_iff.2 ((filter_sublist.map _).nodup db.loans.keysDistinct)

theorem mem_loansByCreation [DecidablePred p] :
    loan ∈ loansByCreation (db.loans.rows.filter fun loan => p loan) ↔
      loan ∈ db.loans.rows ∧ p loan := by
  unfold loansByCreation
  rw [mem_insertionSort, mem_filter, decide_eq_true_iff]

theorem monthsOf_cameBy [DecidablePred p] (hrow : db.loans.find? loanId = some row)
    (after : PayrollDb) :
    monthsOf loanId (after.cameBy yearMonth (db.loans.rows.filter fun loan => p loan)) =
      (if p row then [yearMonth] else []) ++ monthsOf loanId after := by
  have hone : (db.loans.rows.filter fun loan => p loan).filter
      (fun loan : EmployeeLoan => loan.id = loanId) = if p row then [row] else [] := by
    rw [filter_comm, Table.filter_key hrow]
    by_cases hp : p row
    · rw [if_pos hp, filter_cons_of_pos (by simpa using hp)]
      rfl
    · rw [if_neg hp, filter_cons_of_neg (by simpa using hp)]
      rfl
  unfold monthsOf PayrollDb.cameBy
  rw [filter_append, map_append, filter_map]
  congr 1
  change List.map _ (List.map _ (List.filter
    (fun loan : EmployeeLoan => decide (loan.id = loanId)) _)) = _
  rw [hone]
  by_cases hp : p row
  · rw [if_pos hp, if_pos hp]
    rfl
  · rw [if_neg hp, if_neg hp]
    rfl

/-! ## One call -/

structure LoanAfter (loanId : Uuid) (row : EmployeeLoan) (months instalments : List String)
    (after : PayrollDb) : Prop where
  row : after.loans.find? loanId = some row
  months : monthsOf loanId after = months
  instalments : instalmentsOf loanId after = instalments

theorem bookInstalments_kept [DecidablePred p] (yearMonth : String)
    (hrow : db.loans.find? loanId = some row) (hnot : ¬ (p row ∧ row.Books skips)) :
    LoanKept loanId row (instalmentsOf loanId db) db
      (bookInstalments yearMonth skips
        (loansByCreation (db.loans.rows.filter fun loan => p loan)) db).2 := by
  apply bookInstalments_of_not_books yearMonth _ hrow
  intro other hother hid hbooks
  obtain ⟨hstored, hp⟩ := mem_loansByCreation.1 hother
  have hsame : other = row :=
    Table.row_eq_of_key_eq hstored (Table.mem_of_find? hrow)
      (hid.trans (Table.key_of_find? hrow).symm)
  exact hnot (hsame ▸ ⟨hp, hbooks⟩)

theorem bookInstalments_taken [DecidablePred p] (yearMonth : String)
    (hrow : db.loans.find? loanId = some row) (hp : p row) (hbooks : row.Books skips) :
    LoanKept loanId (row.booked yearMonth row) (yearMonth :: instalmentsOf loanId db) db
      (bookInstalments yearMonth skips
        (loansByCreation (db.loans.rows.filter fun loan => p loan)) db).2 := by
  have hid := Table.key_of_find? hrow
  subst hid
  exact bookInstalments_of_books (loansByCreation_distinct p)
    (mem_loansByCreation.2 ⟨Table.mem_of_find? hrow, hp⟩) hbooks hrow

structure EmployeeLoan.Takes (yearMonth : String) (loan : EmployeeLoan) : Prop where
  status : loan.status = .ACTIVE
  remaining : 0 < loan.remaining
  instalment : 0 < loan.instalment
  month : loan.lastDeductionYearMonth ≠ some yearMonth

theorem LoanKept.cameBy [DecidablePred p] {left : EmployeeLoan} {instalments : List String}
    (hrow : db.loans.find? loanId = some row) (hkept : LoanKept loanId left instalments db after) :
    LoanAfter loanId left ((if p row then [yearMonth] else []) ++ monthsOf loanId db) instalments
      (after.cameBy yearMonth (db.loans.rows.filter fun loan => p loan)) := by
  refine ⟨hkept.row, ?_, hkept.instalments⟩
  rw [monthsOf_cameBy hrow]
  unfold monthsOf
  rw [hkept.months]

theorem createPayroll_ok (db : PayrollDb) (keys : FreshKeys Uuid) {actorRole : SafariRole}
    {dto : CreatePayrollDto} (hrole : MayRunPayroll actorRole)
    (hmonth : IsYearMonth (yearMonthOf dto.paymentDate)) :
    ∃ payrolls, createPayroll keys actorRole dto db = .ok
      (PayrollDb.cameBy (yearMonthOf dto.paymentDate)
        (db.loans.rows.filter fun loan => loan.userId = dto.userId)
        { (bookInstalments (yearMonthOf dto.paymentDate)
            (fun loan => loan.lastDeductionYearMonth = some (yearMonthOf dto.paymentDate))
            (loansByCreation (db.loans.rows.filter fun loan => loan.IsOpen dto.userId)) db).2 with
          payrolls := payrolls }) := by
  unfold createPayroll bookPayrollInstalmentsFor
  rw [if_neg (not_not.2 hrole), if_neg (not_not.2 hmonth)]
  exact ⟨_, rfl⟩

theorem createPayroll_error (db : PayrollDb) (keys : FreshKeys Uuid) {actorRole : SafariRole}
    {dto : CreatePayrollDto}
    (hnot : ¬ (MayRunPayroll actorRole ∧ IsYearMonth (yearMonthOf dto.paymentDate))) :
    ∃ err, createPayroll keys actorRole dto db = .error err := by
  unfold createPayroll bookPayrollInstalmentsFor
  by_cases hrole : MayRunPayroll actorRole
  · rw [if_neg (not_not.2 hrole), if_pos fun hmonth => hnot ⟨hrole, hmonth⟩]
    exact ⟨_, rfl⟩
  · rw [if_pos hrole]
    exact ⟨_, rfl⟩

theorem recalcLoanDeduction_ok {actorRole : SafariRole} {id : Uuid} {payroll : Payroll}
    (hrole : MayRunPayroll actorRole) (hpayroll : db.payrolls.find? id = some payroll)
    (hpending : payroll.status = .PENDING)
    (hmonth : IsYearMonth (yearMonthOf payroll.paymentDate)) :
    ∃ payrolls, recalcLoanDeduction actorRole id db = .ok
      { (PayrollDb.cameBy (yearMonthOf payroll.paymentDate)
          (db.loans.rows.filter fun loan =>
            loan.userId = payroll.userId ∧ loan.lastDeductionYearMonth = none)
          (bookInstalments (yearMonthOf payroll.paymentDate) (fun _ => false)
            (loansByCreation (db.loans.rows.filter fun loan =>
              loan.IsOpen payroll.userId ∧ loan.lastDeductionYearMonth = none)) db).2) with
        payrolls := payrolls } := by
  unfold recalcLoanDeduction recalcUnbookedInstalmentsFor
  rw [if_neg (not_not.2 hrole), hpayroll]
  simp only
  rw [if_neg (not_not.2 hpending), if_neg (not_not.2 hmonth)]
  by_cases hnothing : (bookInstalments (yearMonthOf payroll.paymentDate) (fun _ => false)
      (loansByCreation (db.loans.rows.filter fun loan =>
        loan.IsOpen payroll.userId ∧ loan.lastDeductionYearMonth = none)) db).1 ≤ 0
  · exact ⟨_, if_pos hnothing⟩
  · exact ⟨_, if_neg hnothing⟩

theorem recalcLoanDeduction_error (db : PayrollDb) (actorRole : SafariRole) (id : Uuid)
    (hnot : ¬ ∃ payroll, MayRunPayroll actorRole ∧ db.payrolls.find? id = some payroll ∧
      payroll.status = .PENDING ∧ IsYearMonth (yearMonthOf payroll.paymentDate)) :
    ∃ err, recalcLoanDeduction actorRole id db = .error err := by
  unfold recalcLoanDeduction recalcUnbookedInstalmentsFor
  by_cases hrole : MayRunPayroll actorRole
  · rw [if_neg (not_not.2 hrole)]
    cases hpayroll : db.payrolls.find? id with
    | none => exact ⟨_, rfl⟩
    | some payroll =>
        simp only
        by_cases hpending : payroll.status = .PENDING
        · have hmonth : ¬ IsYearMonth (yearMonthOf payroll.paymentDate) :=
            fun hmonth => hnot ⟨payroll, hrole, hpayroll, hpending, hmonth⟩
          rw [if_neg (not_not.2 hpending), if_pos hmonth]
          exact ⟨_, rfl⟩
        · rw [if_pos hpending]
          exact ⟨_, rfl⟩
  · rw [if_pos hrole]
    exact ⟨_, rfl⟩

theorem LoanAfter.withPayrolls {months instalments : List String}
    (hafter : LoanAfter loanId row months instalments after) (payrolls : Table Payroll.id) :
    LoanAfter loanId row months instalments { after with payrolls := payrolls } :=
  ⟨hafter.row, hafter.months, hafter.instalments⟩

theorem EmployeeLoan.takes_iff {userId : Uuid} (huser : row.userId = userId) :
    row.Takes yearMonth ↔
      row.IsOpen userId ∧ row.Books fun loan => loan.lastDeductionYearMonth = some yearMonth := by
  unfold Books IsOpen
  constructor
  · intro htakes
    refine ⟨⟨huser, htakes.status, htakes.remaining⟩, ?_⟩
    rintro (hmonth | hspent | hnothing)
    · exact htakes.month (of_decide_eq_true hmonth)
    · exact absurd htakes.remaining (not_lt.2 hspent)
    · exact absurd htakes.instalment (not_lt.2 hnothing)
  · rintro ⟨⟨_, hactive, hleft⟩, hbooks⟩
    refine ⟨hactive, hleft, ?_, fun hmonth => hbooks (.inl (decide_eq_true hmonth))⟩
    exact not_le.1 fun hnothing => hbooks (.inr (.inr hnothing))

theorem EmployeeLoan.takes_unbooked_iff (yearMonth : String) {userId : Uuid}
    (huser : row.userId = userId)
    (hnone : row.lastDeductionYearMonth = none) :
    row.Takes yearMonth ↔
      (row.IsOpen userId ∧ row.lastDeductionYearMonth = none) ∧ row.Books fun _ => false := by
  have hmonth : row.lastDeductionYearMonth ≠ some yearMonth := by
    rw [hnone]
    exact (Option.some_ne_none _).symm
  rw [takes_iff huser]
  unfold Books
  simp [hnone]

theorem PayrollCall.step_of_ok (call : PayrollCall) (hresult : call.result db = .ok after) :
    payrollCalls.step call db = after := by
  unfold payrollCalls
  simp only
  rw [hresult]

theorem PayrollCall.step_of_error (call : PayrollCall) {err : ServiceError}
    (hresult : call.result db = .error err) :
    payrollCalls.step call db = db := by
  unfold payrollCalls
  simp only
  rw [hresult]

theorem bookInstalments_cameBy {q : EmployeeLoan → Prop} [DecidablePred p] [DecidablePred q]
    (yearMonth : String) (skips : EmployeeLoan → Bool) (hrow : db.loans.find? loanId = some row) :
    (p row ∧ row.Books skips ∧ LoanAfter loanId (row.booked yearMonth row)
        ((if q row then [yearMonth] else []) ++ monthsOf loanId db)
        (yearMonth :: instalmentsOf loanId db)
        ((bookInstalments yearMonth skips
          (loansByCreation (db.loans.rows.filter fun loan => p loan)) db).2.cameBy yearMonth
            (db.loans.rows.filter fun loan => q loan))) ∨
      (¬ (p row ∧ row.Books skips) ∧ LoanAfter loanId row
        ((if q row then [yearMonth] else []) ++ monthsOf loanId db) (instalmentsOf loanId db)
        ((bookInstalments yearMonth skips
          (loansByCreation (db.loans.rows.filter fun loan => p loan)) db).2.cameBy yearMonth
            (db.loans.rows.filter fun loan => q loan))) := by
  by_cases htaken : p row ∧ row.Books skips
  · exact .inl ⟨htaken.1, htaken.2,
      (bookInstalments_taken yearMonth hrow htaken.1 htaken.2).cameBy hrow⟩
  · exact .inr ⟨htaken, (bookInstalments_kept yearMonth hrow htaken).cameBy hrow⟩

inductive PayrollCall.Does (loanId : Uuid) (row : EmployeeLoan) (before after : PayrollDb) :
    Option String → Prop
  | passes (hafter : LoanAfter loanId row (monthsOf loanId before) (instalmentsOf loanId before)
      after) : Does loanId row before after none
  | comes {yearMonth : String} (hnot : ¬ row.Takes yearMonth)
      (hafter : LoanAfter loanId row (yearMonth :: monthsOf loanId before)
        (instalmentsOf loanId before) after) : Does loanId row before after (some yearMonth)
  | takes {yearMonth : String} (htakes : row.Takes yearMonth)
      (hafter : LoanAfter loanId (row.booked yearMonth row)
        (yearMonth :: monthsOf loanId before) (yearMonth :: instalmentsOf loanId before) after) :
      Does loanId row before after (some yearMonth)

theorem createPayroll_does (keys : FreshKeys Uuid) (actorRole : SafariRole)
    (dto : CreatePayrollDto) (hrow : db.loans.find? loanId = some row) :
    PayrollCall.Does loanId row db (payrollCalls.step (.create keys actorRole dto) db)
      (PayrollCall.monthFor loanId db (.create keys actorRole dto)) := by
  unfold PayrollCall.monthFor
  rw [hrow]
  simp only
  by_cases hruns : MayRunPayroll actorRole ∧ IsYearMonth (yearMonthOf dto.paymentDate)
  · obtain ⟨payrolls, hresult⟩ := createPayroll_ok db keys hruns.1 hruns.2
    rw [PayrollCall.step_of_ok (.create keys actorRole dto) hresult]
    have hcases := bookInstalments_cameBy (p := EmployeeLoan.IsOpen dto.userId)
      (q := fun loan => loan.userId = dto.userId) (yearMonthOf dto.paymentDate)
      (fun loan => loan.lastDeductionYearMonth = some (yearMonthOf dto.paymentDate)) hrow
    by_cases huser : row.userId = dto.userId
    · rw [if_pos ⟨hruns.1, hruns.2, huser⟩]
      rw [if_pos huser] at hcases
      rcases hcases with ⟨hopen, hbooks, hafter⟩ | ⟨hnot, hafter⟩
      · exact .takes ((EmployeeLoan.takes_iff huser).2 ⟨hopen, hbooks⟩)
          (hafter.withPayrolls payrolls)
      · exact .comes (fun htakes => hnot ((EmployeeLoan.takes_iff huser).1 htakes))
          (hafter.withPayrolls payrolls)
    · rw [if_neg fun hall => huser hall.2.2]
      rw [if_neg huser] at hcases
      rcases hcases with ⟨hopen, _, _⟩ | ⟨_, hafter⟩
      · exact absurd hopen.1 huser
      · exact .passes (hafter.withPayrolls payrolls)
  · obtain ⟨err, hresult⟩ := createPayroll_error db keys hruns
    rw [PayrollCall.step_of_error (.create keys actorRole dto) hresult,
      if_neg fun hall => hruns ⟨hall.1, hall.2.1⟩]
    exact .passes ⟨hrow, rfl, rfl⟩

theorem recalcLoanDeduction_does (actorRole : SafariRole) (id : Uuid)
    (hrow : db.loans.find? loanId = some row) :
    PayrollCall.Does loanId row db (payrollCalls.step (.recalc actorRole id) db)
      (PayrollCall.monthFor loanId db (.recalc actorRole id)) := by
  unfold PayrollCall.monthFor
  rw [hrow]
  simp only
  cases hpayroll : db.payrolls.find? id with
  | none =>
      obtain ⟨err, hresult⟩ := recalcLoanDeduction_error db actorRole id (by
        rintro ⟨payroll, _, hfound, _⟩
        rw [hpayroll] at hfound
        cases hfound)
      rw [PayrollCall.step_of_error (.recalc actorRole id) hresult]
      exact .passes ⟨hrow, rfl, rfl⟩
  | some payroll =>
      simp only
      by_cases hruns : MayRunPayroll actorRole ∧ payroll.status = .PENDING ∧
          IsYearMonth (yearMonthOf payroll.paymentDate)
      · obtain ⟨payrolls, hresult⟩ :=
          recalcLoanDeduction_ok hruns.1 hpayroll hruns.2.1 hruns.2.2
        rw [PayrollCall.step_of_ok (.recalc actorRole id) hresult]
        have hcases := bookInstalments_cameBy
          (p := fun loan => loan.IsOpen payroll.userId ∧ loan.lastDeductionYearMonth = none)
          (q := fun loan =>
            loan.userId = payroll.userId ∧ loan.lastDeductionYearMonth = none)
          (yearMonthOf payroll.paymentDate) (fun _ => false) hrow
        by_cases hunbooked : row.userId = payroll.userId ∧ row.lastDeductionYearMonth = none
        · rw [if_pos ⟨hruns.1, hruns.2.1, hruns.2.2, hunbooked⟩]
          rw [if_pos hunbooked] at hcases
          have htakes := EmployeeLoan.takes_unbooked_iff (yearMonthOf payroll.paymentDate)
            hunbooked.1 hunbooked.2
          rcases hcases with ⟨hopen, hbooks, hafter⟩ | ⟨hnot, hafter⟩
          · exact .takes (htakes.2 ⟨hopen, hbooks⟩) (hafter.withPayrolls payrolls)
          · exact .comes (fun hall => hnot (htakes.1 hall)) (hafter.withPayrolls payrolls)
        · rw [if_neg fun hall => hunbooked hall.2.2.2]
          rw [if_neg hunbooked] at hcases
          rcases hcases with ⟨hopen, _, _⟩ | ⟨_, hafter⟩
          · exact absurd ⟨hopen.1.1, hopen.2⟩ hunbooked
          · exact .passes (hafter.withPayrolls payrolls)
      · obtain ⟨err, hresult⟩ := recalcLoanDeduction_error db actorRole id (by
            rintro ⟨other, hrole, hfound, hpending, hmonth⟩
            rw [hpayroll] at hfound
            cases hfound
            exact hruns ⟨hrole, hpending, hmonth⟩)
        rw [PayrollCall.step_of_error (.recalc actorRole id) hresult,
          if_neg fun hall => hruns ⟨hall.1, hall.2.1, hall.2.2.1⟩]
        exact .passes ⟨hrow, rfl, rfl⟩

theorem PayrollCall.does (call : PayrollCall) (hrow : db.loans.find? loanId = some row) :
    Does loanId row db (payrollCalls.step call db) (call.monthFor loanId db) := by
  cases call with
  | create keys actorRole dto => exact createPayroll_does keys actorRole dto hrow
  | recalc actorRole id => exact recalcLoanDeduction_does actorRole id hrow

/-! ## The schedule -/

structure KeptToSchedule (loan : EmployeeLoan) (db : PayrollDb) (row : EmployeeLoan) : Prop where
  found : db.loans.find? loan.id = some row
  monthlyDeduction : row.monthlyDeduction = loan.monthlyDeduction
  once : (instalmentsOf loan.id db).Nodup
  charged : ∀ yearMonth ∈ instalmentsOf loan.id db, yearMonth ∈ monthsOf loan.id db
  running : monthCount loan.id db < loan.installmentCount → row.status = .ACTIVE ∧
      row.remaining = loan.amount - monthCount loan.id db * loan.monthlyDeduction ∧
      0 < row.remaining ∧ row.lastDeductionYearMonth = (monthsOf loan.id db).head? ∧
      ∀ yearMonth ∈ monthsOf loan.id db, yearMonth ∈ instalmentsOf loan.id db
  done : loan.installmentCount ≤ monthCount loan.id db → row.status = .SETTLED ∧ row.remaining = 0

theorem monthlyInstalment_pos {amount : ℤ} {installmentCount : ℕ} (hamount : 10 ≤ amount)
    (hcount : 1 ≤ installmentCount ∧ installmentCount ≤ 12) :
    0 < monthlyInstalment amount installmentCount := by
  have hcountPos : (0 : ℚ) < installmentCount := by exact_mod_cast hcount.1
  have hcountLe : (installmentCount : ℚ) ≤ 12 := by exact_mod_cast hcount.2
  have hamountLe : (10 : ℚ) ≤ amount := by exact_mod_cast hamount
  have hquotient : 1 / 2 < (amount / installmentCount : ℚ) := by
    rw [lt_div_iff₀ hcountPos]
    linarith
  have herror := abs_le.1 (Decimal.abs_roundHalfAway_sub_le (amount / installmentCount : ℚ))
  have hpositive : (0 : ℚ) < (Decimal.roundHalfAway (amount / installmentCount : ℚ) : ℤ) := by
    linarith [herror.1]
  exact Int.cast_pos.1 hpositive

theorem KeptToSchedule.onSchedule (hkept : KeptToSchedule loan db row) :
    LoanOnSchedule loan db := by
  refine ⟨hkept.once, ?_⟩
  intro stored hstored
  rw [hkept.found] at hstored
  cases hstored
  by_cases hdone : loan.installmentCount ≤ monthCount loan.id db
  · exact ⟨iff_of_true (hkept.done hdone).1 hdone, fun _ => (hkept.done hdone).2⟩
  · have hrunning := (hkept.running (not_le.1 hdone)).1
    have hactive : row.status ≠ .SETTLED := by
      rw [hrunning]
      decide
    exact ⟨iff_of_false hactive hdone, fun hsettled => absurd hsettled hactive⟩

theorem JustApproved.kept {start : PayrollDb} (hstart : JustApproved loan start) :
    KeptToSchedule loan start loan := by
  have hcount : monthCount loan.id start = 0 := by
    unfold monthCount
    rw [hstart.months]
    rfl
  refine ⟨hstart.row, rfl, hstart.instalments ▸ nodup_nil, ?_, fun _ => ?_, fun hdone => ?_⟩
  · rw [hstart.instalments]
    intro yearMonth hnone
    cases hnone
  · refine ⟨hstart.status, ?_, ?_, ?_, ?_⟩
    · rw [hcount, hstart.remaining]
      simp
    · have hamount := hstart.amount
      have hremaining := hstart.remaining
      omega
    · rw [hstart.noMonth, hstart.months]
      rfl
    · rw [hstart.months]
      intro yearMonth hnone
      cases hnone
  · have hcounted := hstart.installmentCount.1
    omega

theorem monthCount_of_months (hmonths : monthsOf loanId after = yearMonth :: monthsOf loanId db) :
    monthCount loanId after =
      if yearMonth ∈ monthsOf loanId db then monthCount loanId db else monthCount loanId db + 1 := by
  unfold monthCount
  rw [hmonths]
  by_cases hmem : yearMonth ∈ monthsOf loanId db
  · rw [if_pos hmem, dedup_cons_of_mem hmem]
  · rw [if_neg hmem, dedup_cons_of_notMem hmem]
    rfl

theorem KeptToSchedule.takes (hkept : KeptToSchedule loan db row)
    (hpositive : 0 < loan.monthlyDeduction)
    (hrunning : monthCount loan.id db < loan.installmentCount)
    (hmonth : row.lastDeductionYearMonth ≠ some yearMonth) : row.Takes yearMonth := by
  obtain ⟨hactive, _, hleft, _, _⟩ := hkept.running hrunning
  refine ⟨hactive, hleft, lt_min ?_ hleft, hmonth⟩
  rw [hkept.monthlyDeduction]
  exact hpositive

theorem KeptToSchedule.running_of_active (hkept : KeptToSchedule loan db row)
    (hactive : row.status = .ACTIVE) : monthCount loan.id db < loan.installmentCount := by
  by_contra hdone
  have hsettled := (hkept.done (not_lt.1 hdone)).1
  rw [hactive] at hsettled
  cases hsettled

theorem KeptToSchedule.left_le_iff (hkept : KeptToSchedule loan db row)
    (hrunning : monthCount loan.id db < loan.installmentCount) :
    row.remaining - row.instalment ≤ 0 ↔
      loan.amount ≤ (monthCount loan.id db + 1) * loan.monthlyDeduction := by
  obtain ⟨_, hremaining, _⟩ := hkept.running hrunning
  unfold EmployeeLoan.instalment
  rw [hkept.monthlyDeduction, add_mul, one_mul]
  omega

theorem EmployeeLoan.booked_settled_iff (hactive : row.status = .ACTIVE) :
    (row.booked yearMonth row).status = .SETTLED ↔ row.remaining - row.instalment ≤ 0 := by
  unfold booked
  simp only
  by_cases hspent : row.remaining - row.instalment ≤ 0
  · rw [if_pos hspent]
    exact iff_of_true rfl hspent
  · rw [if_neg hspent, hactive]
    exact iff_of_false (by decide) hspent

theorem KeptToSchedule.meets (hkept : KeptToSchedule loan db row)
    (hpositive : 0 < loan.monthlyDeduction) (call : PayrollCall)
    (hafter : LoanOnSchedule loan (payrollCalls.step call db)) : call.OnSchedule loan db := by
  have hdoes := call.does hkept.found
  unfold PayrollCall.OnSchedule
  intro yearMonth hmonth
  rw [hmonth] at hdoes
  constructor
  · intro hmem stored hstored hactive
    rw [hkept.found] at hstored
    cases hstored
    by_contra hlast
    have hrunning := hkept.running_of_active hactive
    have htakes := hkept.takes hpositive hrunning hlast
    cases hdoes with
    | comes hnot _ => exact hnot htakes
    | takes _ hleft =>
        -- the month was charged when it came by first
        have honce := hafter.once
        rw [hleft.instalments, nodup_cons] at honce
        exact honce.1 ((hkept.running hrunning).2.2.2.2 yearMonth hmem)
  · intro hnew hrunning
    obtain ⟨hactive, _, _, hlast, _⟩ := hkept.running hrunning
    have hmonth : row.lastDeductionYearMonth ≠ some yearMonth := by
      rw [hlast]
      exact fun hhead => hnew (mem_of_mem_head? hhead)
    have htakes := hkept.takes hpositive hrunning hmonth
    cases hdoes with
    | comes hnot _ => exact absurd htakes hnot
    | takes _ hleft =>
        have hsettled := (hafter.settled _ hleft.row).1
        rw [EmployeeLoan.booked_settled_iff hactive, hkept.left_le_iff hrunning,
          monthCount_of_months hleft.months, if_neg hnew] at hsettled
        rw [hsettled]
        omega

theorem KeptToSchedule.passed (hkept : KeptToSchedule loan db row)
    (hleft : LoanAfter loan.id row (monthsOf loan.id db) (instalmentsOf loan.id db) after) :
    KeptToSchedule loan after row := by
  have hcount : monthCount loan.id after = monthCount loan.id db := by
    unfold monthCount
    rw [hleft.months]
  refine ⟨hleft.row, hkept.monthlyDeduction, ?_, ?_, ?_, ?_⟩
  · rw [hleft.instalments]
    exact hkept.once
  · rw [hleft.instalments, hleft.months]
    exact hkept.charged
  · rw [hcount, hleft.months, hleft.instalments]
    exact hkept.running
  · rw [hcount]
    exact hkept.done

theorem KeptToSchedule.came (hkept : KeptToSchedule loan db row)
    (hknown : monthCount loan.id db < loan.installmentCount →
      yearMonth ∈ monthsOf loan.id db ∧ row.lastDeductionYearMonth = some yearMonth)
    (hleft : LoanAfter loan.id row (yearMonth :: monthsOf loan.id db)
      (instalmentsOf loan.id db) after) :
    KeptToSchedule loan after row := by
  have hcount := monthCount_of_months hleft.months
  refine ⟨hleft.row, hkept.monthlyDeduction, ?_, ?_, ?_, ?_⟩
  · rw [hleft.instalments]
    exact hkept.once
  · rw [hleft.instalments, hleft.months]
    exact fun other hother => .tail _ (hkept.charged other hother)
  · intro hrunning
    have hbefore : monthCount loan.id db < loan.installmentCount := by
      rw [hcount] at hrunning
      split at hrunning
      · exact hrunning
      · omega
    obtain ⟨hmem, hlast⟩ := hknown hbefore
    obtain ⟨hactive, hremaining, hpositive, _, hcharged⟩ := hkept.running hbefore
    rw [hcount, if_pos hmem, hleft.months, hleft.instalments]
    exact ⟨hactive, hremaining, hpositive, hlast,
      forall_mem_cons.2 ⟨hcharged yearMonth hmem, hcharged⟩⟩
  · intro hdone
    by_cases hbefore : monthCount loan.id db < loan.installmentCount
    · rw [hcount, if_pos (hknown hbefore).1] at hdone
      omega
    · exact hkept.done (not_lt.1 hbefore)

theorem KeptToSchedule.booked (hkept : KeptToSchedule loan db row)
    (hrunning : monthCount loan.id db < loan.installmentCount)
    (hnew : yearMonth ∉ monthsOf loan.id db)
    (hnext : loan.amount ≤ (monthCount loan.id db + 1) * loan.monthlyDeduction ↔
      monthCount loan.id db + 1 = loan.installmentCount)
    (hleft : LoanAfter loan.id (row.booked yearMonth row) (yearMonth :: monthsOf loan.id db)
      (yearMonth :: instalmentsOf loan.id db) after) :
    KeptToSchedule loan after (row.booked yearMonth row) := by
  obtain ⟨hactive, hremaining, hpositive, _, hcharged⟩ := hkept.running hrunning
  have hcount : monthCount loan.id after = monthCount loan.id db + 1 := by
    rw [monthCount_of_months hleft.months, if_neg hnew]
  have hspent := (hkept.left_le_iff hrunning).trans hnext
  refine ⟨hleft.row, hkept.monthlyDeduction, ?_, ?_, ?_, ?_⟩
  · rw [hleft.instalments, nodup_cons]
    exact ⟨fun hmem => hnew (hkept.charged yearMonth hmem), hkept.once⟩
  · rw [hleft.instalments, hleft.months]
    intro other hother
    rcases mem_cons.1 hother with rfl | hbefore
    · exact mem_cons_self ..
    · exact .tail _ (hkept.charged other hbefore)
  · intro hstill
    rw [hcount] at hstill
    have hover : ¬ row.remaining - row.instalment ≤ 0 :=
      fun hspends => absurd (hspent.1 hspends) (ne_of_lt hstill)
    have hinstalment : row.instalment = loan.monthlyDeduction := by
      unfold EmployeeLoan.instalment at hover ⊢
      rw [hkept.monthlyDeduction] at hover ⊢
      omega
    refine ⟨(if_neg hover).trans hactive, ?_, not_le.1 hover, ?_, ?_⟩
    · change row.remaining - row.instalment = _
      rw [hinstalment, hremaining, hcount]
      push_cast
      ring
    · rw [hleft.months]
      rfl
    · rw [hleft.months, hleft.instalments]
      intro other hother
      rcases mem_cons.1 hother with rfl | hbefore
      · exact mem_cons_self ..
      · exact .tail _ (hcharged other hbefore)
  · intro hdone
    rw [hcount] at hdone
    have hspends := hspent.2 (le_antisymm hrunning hdone)
    refine ⟨if_pos hspends, ?_⟩
    change row.remaining - row.instalment = 0
    unfold EmployeeLoan.instalment at hspends ⊢
    omega

theorem KeptToSchedule.step (hkept : KeptToSchedule loan db row)
    (hpositive : 0 < loan.monthlyDeduction) (call : PayrollCall)
    (hcall : call.OnSchedule loan db) :
    ∃ row', KeptToSchedule loan (payrollCalls.step call db) row' := by
  have hdoes := call.does hkept.found
  unfold PayrollCall.OnSchedule at hcall
  cases hmonth : call.monthFor loan.id db with
  | none =>
      rw [hmonth] at hdoes
      cases hdoes with
      | passes hleft => exact ⟨row, hkept.passed hleft⟩
  | some yearMonth =>
      obtain ⟨hagain, hnext⟩ := hcall yearMonth hmonth
      rw [hmonth] at hdoes
      cases hdoes with
      | comes hnot hleft =>
          refine ⟨row, hkept.came (fun hrunning => ?_) hleft⟩
          have hlast : row.lastDeductionYearMonth = some yearMonth := by
            by_contra hother
            exact hnot (hkept.takes hpositive hrunning hother)
          refine ⟨?_, hlast⟩
          rw [(hkept.running hrunning).2.2.2.1] at hlast
          exact mem_of_mem_head? hlast
      | takes htakes hleft =>
          have hnew : yearMonth ∉ monthsOf loan.id db := fun hmem =>
            htakes.month (hagain hmem row hkept.found htakes.status)
          have hrunning := hkept.running_of_active htakes.status
          exact ⟨_, hkept.booked hrunning hnew (hnext hnew hrunning) hleft⟩

/-- A loan is on schedule all along a run of payrolls exactly if every payroll meets the
condition. -/
theorem loans_on_schedule_iff {start : PayrollDb} {calls : List PayrollCall}
    {trace : List PayrollDb} (hstart : JustApproved loan start)
    (hlog : payrollCalls.Log (fun _ _ => True) start calls trace) :
    (∀ db ∈ trace, LoanOnSchedule loan db) ↔
      ∀ found ∈ Calls.occurrences calls trace, found.1.OnSchedule loan found.2 := by
  have hpositive : 0 < loan.monthlyDeduction := by
    rw [hstart.monthlyDeduction]
    exact monthlyInstalment_pos hstart.amount hstart.installmentCount
  apply hlog.holds_iff (J := fun db => ∃ row, KeptToSchedule loan db row) ⟨loan, hstart.kept⟩
  · rintro db ⟨row, hkept⟩
    exact hkept.onSchedule
  · rintro call db ⟨row, hkept⟩ _ hafter
    exact hkept.meets hpositive call hafter
  · rintro call db ⟨row, hkept⟩ _ hcall
    exact hkept.step hpositive call hcall

namespace Sample

def yearLoan : EmployeeLoan where
  id := "loan"
  userId := "driver"
  amount := 1200000
  installmentCount := 12
  monthlyDeduction := 100000
  remaining := 1200000
  status := .ACTIVE
  lastDeductionYearMonth := none
  createdAt := 0

def loanApproved : PayrollDb where
  loans := ⟨[yearLoan], nodup_singleton _⟩
  payrolls := ⟨[], nodup_nil⟩
  instalments := []
  months := []

def payrollOn (paymentDate : String) : PayrollCall :=
  .create .text .OWNER ⟨"driver", "branch", paymentDate⟩

theorem yearLoan_approved : JustApproved yearLoan loanApproved where
  row := rfl
  status := rfl
  amount := by decide
  installmentCount := by decide
  monthlyDeduction := by decide +kernel
  remaining := rfl
  noMonth := rfl
  months := rfl
  instalments := rfl

def paidJanuary : PayrollDb :=
  payrollCalls.step (payrollOn "2026-01-28T00:00:00.000Z") loanApproved

def paidFebruary : PayrollDb :=
  payrollCalls.step (payrollOn "2026-02-28T00:00:00.000Z") paidJanuary

theorem january_february :
    payrollCalls.Log (fun _ _ => True) loanApproved
      [payrollOn "2026-02-28T00:00:00.000Z", payrollOn "2026-01-28T00:00:00.000Z"]
      [paidFebruary, paidJanuary, loanApproved] :=
  Calls.Log.call _ (Calls.Log.call _ .start (fun _ hdb => by cases hdb) trivial)
    (fun _ hdb => by cases hdb) trivial

theorem january_again :
    payrollCalls.Log (fun _ _ => True) loanApproved
      [payrollOn "2026-01-28T00:00:00.000Z", payrollOn "2026-02-28T00:00:00.000Z",
        payrollOn "2026-01-28T00:00:00.000Z"]
      [payrollCalls.step (payrollOn "2026-01-28T00:00:00.000Z") paidFebruary, paidFebruary,
        paidJanuary, loanApproved] :=
  Calls.Log.call _ january_february (fun _ hdb => by cases hdb) trivial

end Sample

theorem loans_on_schedule_iff_sample :
    (∀ db ∈ [Sample.paidFebruary, Sample.paidJanuary, Sample.loanApproved],
        LoanOnSchedule Sample.yearLoan db) ↔
      ∀ found ∈ Calls.occurrences
        [Sample.payrollOn "2026-02-28T00:00:00.000Z", Sample.payrollOn "2026-01-28T00:00:00.000Z"]
        [Sample.paidFebruary, Sample.paidJanuary, Sample.loanApproved],
        found.1.OnSchedule Sample.yearLoan found.2 :=
  loans_on_schedule_iff Sample.yearLoan_approved Sample.january_february

/-- The instalment of January is taken twice. -/
theorem loans_on_schedule_fails :
    ¬ ∀ (loan : EmployeeLoan) (start : PayrollDb) (calls : List PayrollCall)
      (trace : List PayrollDb), JustApproved loan start →
      payrollCalls.Log (fun _ _ => True) start calls trace →
      ∀ db ∈ trace, LoanOnSchedule loan db := by
  intro hall
  have honce := (hall _ _ _ _ Sample.yearLoan_approved Sample.january_again _
    (mem_cons_self ..)).once
  exact absurd honce (by decide +kernel)

end SafariLaundry
