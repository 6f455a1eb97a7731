import SafariLaundry.EmployeeLoans

/-!
# Manual deductions beside the payrolls

The owner takes a part of a loan by hand while payrolls take its instalments.  Both write
what was left of the loan when they read it less what they take.
-/

namespace SafariLaundry

open Library Library.Bookkeeping List

/-! ## The operations -/

structure LoanBook where
  db : PayrollDb
  /-- Not a table: the manual deductions reported to callers, newest first. -/
  manual : List ℤ

/-- `deductManual`'s update; the amounts are those of the row that was read, and the trail
in `reason` is left out. -/
def EmployeeLoan.deducted (deduction : ℤ) (read stored : EmployeeLoan) : EmployeeLoan :=
  { stored with
    remaining := read.remaining - deduction
    status := if read.remaining - deduction ≤ 0 then .SETTLED else read.status }

theorem EmployeeLoan.deducted_id (deduction : ℤ) (read stored : EmployeeLoan) :
    (deducted deduction read stored).id = stored.id := rfl

/-- `new Prisma.Decimal(amountKd.toFixed(4))`, in minor units. -/
def requestedDeduction (amountKd : ℚ) : ℤ := Decimal.roundHalfAway (amountKd * 10000)

def LoanBook.deduct (read : EmployeeLoan) (deduction : ℤ) (book : LoanBook) : LoanBook where
  db := { book.db with
    loans := book.db.loans.update read.id (read.deducted deduction) (read.deducted_id deduction) }
  manual := deduction :: book.manual

def deductManual (actorRole : SafariRole) (loanId : Uuid) (amountKd : ℚ)
    (seen book : LoanBook) : Except ServiceError LoanBook :=
  if actorRole ≠ .OWNER then
    .error (.forbidden "Manual loan deductions are restricted to OWNER.")
  else if amountKd ≤ 0 then .error (.badRequest "Amount must be a positive number")
  else
    match seen.db.loans.find? loanId with
    | none => .error (.notFound "Loan not found")
    | some loan =>
        if loan.status ≠ .ACTIVE then
          .error (.badRequest "Only ACTIVE loans can be deducted manually")
        else
          let deduction := min (requestedDeduction amountKd) loan.remaining
          if deduction ≤ 0 then .error (.badRequest "Loan already settled")
          else .ok (book.deduct loan deduction)

def CreatePayrollDto.openLoans (dto : CreatePayrollDto) (seen : PayrollDb) : List EmployeeLoan :=
  loansByCreation (seen.loans.rows.filter fun loan => loan.IsOpen dto.userId)

def CreatePayrollDto.remembers (dto : CreatePayrollDto) (loan : EmployeeLoan) : Bool :=
  loan.lastDeductionYearMonth = some (yearMonthOf dto.paymentDate)

theorem CreatePayrollDto.payroll_id (dto : CreatePayrollDto) (loanDeduction : ℤ) (id : Uuid) :
    (dto.payroll loanDeduction id).id = id := rfl

def createPayrollFrom (keys : FreshKeys Uuid) (actorRole : SafariRole) (dto : CreatePayrollDto)
    (seen db : PayrollDb) : Except ServiceError PayrollDb :=
  if ¬ MayRunPayroll actorRole then .error (.forbidden "Forbidden")
  else if ¬ IsYearMonth (yearMonthOf dto.paymentDate) then
    .error (.badRequest "yearMonth must match YYYY-MM")
  else
    let (loanDeduction, booked) :=
      bookInstalments (yearMonthOf dto.paymentDate) dto.remembers (dto.openLoans seen) db
    .ok ({ booked with
        payrolls := booked.payrolls.insertNew keys (dto.payroll loanDeduction)
          (dto.payroll_id loanDeduction)
      }.cameBy (yearMonthOf dto.paymentDate)
        (seen.loans.rows.filter fun loan => loan.userId = dto.userId))

theorem createPayrollFrom_refused {actorRole : SafariRole} {dto : CreatePayrollDto}
    (hnot : ¬ (MayRunPayroll actorRole ∧ IsYearMonth (yearMonthOf dto.paymentDate)))
    (keys : FreshKeys Uuid) (seen db : PayrollDb) :
    ∃ e, createPayrollFrom keys actorRole dto seen db = .error e := by
  unfold createPayrollFrom
  by_cases hrole : MayRunPayroll actorRole
  · rw [if_neg (not_not.2 hrole), if_pos fun hmonth => hnot ⟨hrole, hmonth⟩]
    exact ⟨_, rfl⟩
  · rw [if_pos hrole]
    exact ⟨_, rfl⟩

inductive DeductionCall
  | deductManual (actorRole : SafariRole) (loanId : Uuid) (amountKd : ℚ) (seen : LoanBook)
  | createPayroll (keys : FreshKeys Uuid) (actorRole : SafariRole) (dto : CreatePayrollDto)
      (seen : LoanBook)

namespace DeductionCall

def result (book : LoanBook) : DeductionCall → Except ServiceError LoanBook
  | .deductManual actorRole loanId amountKd seen =>
      SafariLaundry.deductManual actorRole loanId amountKd seen book
  | .createPayroll keys actorRole dto seen =>
      (createPayrollFrom keys actorRole dto seen.db book.db).map fun db => { book with db := db }

def read : DeductionCall → LoanBook
  | .deductManual _ _ _ seen => seen
  | .createPayroll _ _ _ seen => seen

end DeductionCall

def deductionCalls : Calls LoanBook DeductionCall where
  step := fun call book =>
    match call.result book with
    | .ok book' => book'
    | .error _ => book
  seen := fun call => [call.read]

/-- What is left of a loan lies between nothing and its amount, and a loan is settled exactly
when nothing is left. -/
structure EmployeeLoan.Sound (loan : EmployeeLoan) : Prop where
  nonneg : 0 ≤ loan.remaining
  le_amount : loan.remaining ≤ loan.amount
  settled : loan.status = .SETTLED ↔ loan.remaining = 0

def reportedDeductions (book : LoanBook) : ℤ :=
  tally id book.manual + tally Payroll.loanDeduction book.db.payrolls.rows

structure LoansConserved (book : LoanBook) : Prop where
  sound : ∀ loan ∈ book.db.loans.rows, loan.Sound
  balance : tally EmployeeLoan.remaining book.db.loans.rows + reportedDeductions book =
    tally EmployeeLoan.amount book.db.loans.rows

instance (skips : EmployeeLoan → Bool) : DecidablePred (EmployeeLoan.Books skips) := fun _ =>
  inferInstanceAs (Decidable (¬ _))

def takenByHand (actorRole : SafariRole) (loanId : Uuid) (amountKd : ℚ) (seen : LoanBook) :
    List EmployeeLoan :=
  match seen.db.loans.find? loanId with
  | some loan =>
      if actorRole = .OWNER ∧ 0 < amountKd ∧ loan.status = .ACTIVE ∧
          0 < min (requestedDeduction amountKd) loan.remaining then [loan]
      else []
  | none => []

def takenByPayroll (actorRole : SafariRole) (dto : CreatePayrollDto) (seen : LoanBook) :
    List EmployeeLoan :=
  if MayRunPayroll actorRole ∧ IsYearMonth (yearMonthOf dto.paymentDate) then
    (dto.openLoans seen.db).filter fun loan => loan.Books dto.remembers
  else []

def DeductionCall.deductsFrom : DeductionCall → List EmployeeLoan
  | .deductManual actorRole loanId amountKd seen => takenByHand actorRole loanId amountKd seen
  | .createPayroll _ actorRole dto seen => takenByPayroll actorRole dto seen

def DeductionCall.ReadsTheLatest (book : LoanBook) (call : DeductionCall) : Prop :=
  ∀ read ∈ call.deductsFrom, ∀ stored, book.db.loans.find? read.id = some stored →
    stored.remaining = read.remaining

variable {book : LoanBook} {call : DeductionCall} {read : EmployeeLoan}
  {reads : List EmployeeLoan} {total : ℤ}

abbrev LoanTable := Table EmployeeLoan.id

def remainingOf (id : Uuid) (loans : LoanTable) : ℤ :=
  match loans.find? id with
  | some loan => loan.remaining
  | none => 0

structure Takes (read : EmployeeLoan) (taken : ℤ) (write : EmployeeLoan → EmployeeLoan) :
    Prop where
  id : ∀ stored, (write stored).id = stored.id
  amount : ∀ stored, (write stored).amount = stored.amount
  remaining : ∀ stored, (write stored).remaining = read.remaining - taken
  status : ∀ stored, (write stored).status =
    if read.remaining - taken ≤ 0 then .SETTLED else read.status

theorem takes_deducted (read : EmployeeLoan) (deduction : ℤ) :
    Takes read deduction (read.deducted deduction) :=
  ⟨fun _ => rfl, fun _ => rfl, fun _ => rfl, fun _ => rfl⟩

theorem takes_booked (read : EmployeeLoan) (yearMonth : String) :
    Takes read read.instalment (read.booked yearMonth) :=
  ⟨fun _ => rfl, fun _ => rfl, fun _ => rfl, fun _ => rfl⟩

structure Deducted (reads : List EmployeeLoan) (total : ℤ) (before after : LoanTable) :
    Prop where
  ids : after.rows.map EmployeeLoan.id = before.rows.map EmployeeLoan.id
  amounts : tally EmployeeLoan.amount after.rows = tally EmployeeLoan.amount before.rows
  others : ∀ id, id ∉ reads.map EmployeeLoan.id → after.find? id = before.find? id
  written : ∀ read ∈ reads, ∀ stored, before.find? read.id = some stored →
    ∃ later, after.find? read.id = some later ∧ later.amount = stored.amount ∧
      0 ≤ later.remaining ∧ later.remaining < read.remaining ∧
      (later.status = .SETTLED ↔ later.remaining = 0)
  balance : tally EmployeeLoan.remaining after.rows + total =
    tally EmployeeLoan.remaining before.rows +
      tally (fun read => read.remaining - remainingOf read.id before) reads

theorem Deducted.nil (loans : LoanTable) : Deducted [] 0 loans loans :=
  ⟨rfl, rfl, fun _ _ => rfl, fun _ hread => absurd hread not_mem_nil, rfl⟩

/-- A loan of which something is left, as it can be read before it is settled. -/
def EmployeeLoan.Takeable (loan : EmployeeLoan) (taken : ℤ) : Prop :=
  loan.status = .ACTIVE ∧ 0 < taken ∧ taken ≤ loan.remaining

theorem Deducted.cons {before after : LoanTable} {taken : ℤ}
    {write : EmployeeLoan → EmployeeLoan} (hwrite : Takes read taken write)
    (htakes : read.Takeable taken) {row : EmployeeLoan}
    (hrow : before.find? read.id = some row) (hother : read.id ∉ reads.map EmployeeLoan.id)
    (hrest : Deducted reads total (before.update read.id write hwrite.id) after) :
    Deducted (read :: reads) (taken + total) before after := by
  have hupdated : (before.update read.id write hwrite.id).find? read.id = some (write row) := by
    rw [Table.find?_update_self, hrow]
    rfl
  have hlast : after.find? read.id = some (write row) := by
    rw [hrest.others read.id hother, hupdated]
  have hothers : ∀ id, id ≠ read.id →
      (before.update read.id write hwrite.id).find? id = before.find? id :=
    fun id hne => Table.find?_update_of_ne before write hwrite.id hne
  have hids : ∀ other ∈ reads, other.id ≠ read.id := by
    intro other hmem hsame
    apply hother
    rw [← hsame]
    exact mem_map_of_mem hmem
  refine ⟨?_, ?_, ?_, ?_, ?_⟩
  · rw [hrest.ids]
    exact @Table.view_updateWhere _ _ _ EmployeeLoan.id before EmployeeLoan.id
      (fun loan => loan.id = read.id) _ write hwrite.id hwrite.id
  · have hone := tally_update EmployeeLoan.amount hwrite.id hrow
    rw [hrest.amounts]
    rw [hwrite.amount row] at hone
    omega
  · intro id hid
    rw [map_cons, mem_cons, not_or] at hid
    rw [hrest.others id hid.2, hothers id hid.1]
  · intro other hmem stored hstored
    rcases mem_cons.1 hmem with rfl | hlater
    · obtain rfl := Option.some.inj (hrow.symm.trans hstored)
      refine ⟨write row, hlast, hwrite.amount row, ?_, ?_, ?_⟩
      · rw [hwrite.remaining]
        exact sub_nonneg.2 htakes.2.2
      · rw [hwrite.remaining]
        exact sub_lt_self _ htakes.2.1
      · rw [hwrite.remaining, hwrite.status]
        have hbound := htakes.2.2
        by_cases hnone : other.remaining - taken ≤ 0
        · rw [if_pos hnone]
          exact iff_of_true rfl (by omega)
        · rw [if_neg hnone, htakes.1]
          exact iff_of_false (by decide) (by omega)
    · apply hrest.written other hlater stored
      rw [hothers _ (hids other hlater)]
      exact hstored
  · have hone := tally_update EmployeeLoan.remaining hwrite.id hrow
    have hsame : tally (fun other => other.remaining - remainingOf other.id
          (before.update read.id write hwrite.id)) reads =
        tally (fun other => other.remaining - remainingOf other.id before) reads := by
      apply tally_congr
      intro other hmem
      unfold remainingOf
      rw [hothers _ (hids other hmem)]
    have hbalance := hrest.balance
    have hhere : remainingOf read.id before = row.remaining := by
      unfold remainingOf
      rw [hrow]
    rw [hsame] at hbalance
    rw [hwrite.remaining row] at hone
    rw [tally_cons, hhere]
    omega

/-! ## One call -/

theorem payrolls_bookInstalments (yearMonth : String) (skips : EmployeeLoan → Bool)
    (loans : List EmployeeLoan) (db : PayrollDb) :
    (bookInstalments yearMonth skips loans db).2.payrolls = db.payrolls := by
  induction loans generalizing db with
  | nil => rfl
  | cons loan rest ih =>
      unfold bookInstalments
      by_cases hskips : skips loan = true ∨ loan.remaining ≤ 0 ∨ loan.instalment ≤ 0
      · rw [if_pos hskips]
        exact ih db
      · rw [if_neg hskips]
        exact ih _

theorem deducted_bookInstalments {yearMonth : String} {skips : EmployeeLoan → Bool}
    {loans : List EmployeeLoan} {db : PayrollDb}
    (hdistinct : (loans.map EmployeeLoan.id).Nodup)
    (hactive : ∀ loan ∈ loans, loan.status = .ACTIVE)
    (hstored : ∀ loan ∈ loans, ∃ row, db.loans.find? loan.id = some row) :
    Deducted (loans.filter fun loan => loan.Books skips)
      (bookInstalments yearMonth skips loans db).1 db.loans
      (bookInstalments yearMonth skips loans db).2.loans := by
  induction loans generalizing db with
  | nil => exact .nil db.loans
  | cons loan rest ih =>
      rw [map_cons, nodup_cons] at hdistinct
      have hlater : ∀ other ∈ rest, other.status = .ACTIVE :=
        fun other hother => hactive other (.tail _ hother)
      unfold bookInstalments
      by_cases hskips : skips loan = true ∨ loan.remaining ≤ 0 ∨ loan.instalment ≤ 0
      · have hout : ¬ loan.Books skips := not_not.2 hskips
        rw [if_pos hskips, filter_cons_of_neg (by simpa using hout)]
        exact ih hdistinct.2 hlater fun other hother => hstored other (.tail _ hother)
      · have hbooks : loan.Books skips := hskips
        obtain ⟨row, hrow⟩ := hstored loan (mem_cons_self ..)
        have hrest : Deducted (rest.filter fun other => other.Books skips)
            (bookInstalments yearMonth skips rest (db.book yearMonth loan)).1
            (db.book yearMonth loan).loans
            (bookInstalments yearMonth skips rest (db.book yearMonth loan)).2.loans := by
          apply ih hdistinct.2 hlater
          intro other hother
          obtain ⟨stored, hfound⟩ := hstored other (.tail _ hother)
          have hne : loan.id ≠ other.id := by
            intro hsame
            apply hdistinct.1
            rw [hsame]
            exact mem_map_of_mem hother
          exact ⟨stored, PayrollDb.find?_book_of_ne yearMonth hne hfound⟩
        rw [if_neg hskips, filter_cons_of_pos (by simpa using hbooks)]
        apply Deducted.cons (takes_booked loan yearMonth) _ hrow _ hrest
        · refine ⟨hactive loan (mem_cons_self ..), ?_, min_le_right _ _⟩
          exact not_le.1 fun hnone => hskips (.inr (.inr hnone))
        · intro hmem
          obtain ⟨other, hother, hsame⟩ := mem_map.1 hmem
          apply hdistinct.1
          rw [← hsame]
          exact mem_map_of_mem (mem_filter.1 hother).1

def PaidDown (before after : LoanBook) : Prop :=
  ∀ loan ∈ before.db.loans.rows, ∃ later, after.db.loans.find? loan.id = some later ∧
    later.amount = loan.amount ∧ later.remaining ≤ loan.remaining

instance : Std.Refl PaidDown where
  refl _ := fun loan hloan => ⟨loan, Table.find?_of_mem hloan, rfl, le_rfl⟩

instance : IsTrans LoanBook PaidDown where
  trans _ _ _ hfirst hsecond := by
    intro loan hloan
    obtain ⟨later, hlater, hamount, hless⟩ := hfirst loan hloan
    obtain ⟨last, hlast, hamount', hless'⟩ := hsecond later (Table.mem_of_find? hlater)
    rw [Table.key_of_find? hlater] at hlast
    exact ⟨last, hlast, hamount'.trans hamount, hless'.trans hless⟩

theorem mem_openLoans {dto : CreatePayrollDto} {seen : PayrollDb} {loan : EmployeeLoan} :
    loan ∈ dto.openLoans seen ↔ loan ∈ seen.loans.rows ∧ loan.IsOpen dto.userId :=
  mem_loansByCreation

theorem deductsFrom_stored (hread : read ∈ call.deductsFrom) :
    read ∈ call.read.db.loans.rows ∧ read.status = .ACTIVE := by
  cases call with
  | deductManual actorRole loanId amountKd seen =>
      change read ∈ takenByHand actorRole loanId amountKd seen at hread
      unfold takenByHand at hread
      cases hfound : seen.db.loans.find? loanId with
      | none =>
          simp only [hfound] at hread
          cases hread
      | some loan =>
          simp only [hfound] at hread
          by_cases htakes : actorRole = .OWNER ∧ 0 < amountKd ∧ loan.status = .ACTIVE ∧
              0 < min (requestedDeduction amountKd) loan.remaining
          · rw [if_pos htakes] at hread
            obtain rfl := mem_singleton.1 hread
            exact ⟨Table.mem_of_find? hfound, htakes.2.2.1⟩
          · rw [if_neg htakes] at hread
            cases hread
  | createPayroll keys actorRole dto seen =>
      change read ∈ takenByPayroll actorRole dto seen at hread
      unfold takenByPayroll at hread
      by_cases hruns : MayRunPayroll actorRole ∧ IsYearMonth (yearMonthOf dto.paymentDate)
      · rw [if_pos hruns] at hread
        have hopen := mem_openLoans.1 (mem_filter.1 hread).1
        exact ⟨hopen.1, hopen.2.2.1⟩
      · rw [if_neg hruns] at hread
        cases hread

theorem deductManual_cases (actorRole : SafariRole) (loanId : Uuid) (amountKd : ℚ)
    (seen book : LoanBook) :
    (∃ e, deductManual actorRole loanId amountKd seen book = .error e ∧
      takenByHand actorRole loanId amountKd seen = []) ∨
    ∃ loan, ∃ deduction, seen.db.loans.find? loanId = some loan ∧ loan.Takeable deduction ∧
      takenByHand actorRole loanId amountKd seen = [loan] ∧
      deductManual actorRole loanId amountKd seen book = .ok (book.deduct loan deduction) := by
  unfold deductManual takenByHand
  by_cases hrole : actorRole = .OWNER
  · rw [if_neg (not_not.2 hrole)]
    by_cases hamount : amountKd ≤ 0
    · rw [if_pos hamount]
      refine .inl ⟨_, rfl, ?_⟩
      have hnot : ¬ 0 < amountKd := not_lt.2 hamount
      cases hfound : seen.db.loans.find? loanId with
      | none => rfl
      | some loan => simp only [hnot, false_and, and_false, if_false]
    · rw [if_neg hamount]
      have hpos : 0 < amountKd := not_le.1 hamount
      cases hfound : seen.db.loans.find? loanId with
      | none => exact .inl ⟨_, rfl, rfl⟩
      | some loan =>
          by_cases hstatus : loan.status = .ACTIVE
          · by_cases htakes : min (requestedDeduction amountKd) loan.remaining ≤ 0
            · refine .inl ⟨.badRequest "Loan already settled", ?_, ?_⟩
              · simp only [if_neg (not_not.2 hstatus), if_pos htakes]
              · simp only [not_lt.2 htakes, and_false, if_false]
            · refine .inr ⟨loan, min (requestedDeduction amountKd) loan.remaining, rfl,
                ⟨hstatus, not_le.1 htakes, min_le_right _ _⟩, ?_, ?_⟩
              · simp only [hrole, hpos, hstatus, not_le.1 htakes, and_self, if_true]
              · simp only [if_neg (not_not.2 hstatus), if_neg htakes]
          · refine .inl ⟨.badRequest "Only ACTIVE loans can be deducted manually", ?_, ?_⟩
            · simp only [if_pos hstatus]
            · simp only [hstatus, false_and, and_false, if_false]
  · rw [if_pos hrole]
    refine .inl ⟨_, rfl, ?_⟩
    cases hfound : seen.db.loans.find? loanId with
    | none => rfl
    | some loan => simp only [hrole, false_and, if_false]

theorem deductionCalls_spec
    (hstored : ∀ read ∈ call.read.db.loans.rows, ∃ row, book.db.loans.find? read.id = some row) :
    ∃ total, Deducted call.deductsFrom total book.db.loans
        (deductionCalls.step call book).db.loans ∧
      reportedDeductions (deductionCalls.step call book) = reportedDeductions book + total := by
  have hnothing : ∀ e, call.result book = .error e → call.deductsFrom = [] →
      ∃ total, Deducted call.deductsFrom total book.db.loans
          (deductionCalls.step call book).db.loans ∧
        reportedDeductions (deductionCalls.step call book) = reportedDeductions book + total := by
    intro e hresult hnone
    have hstep : deductionCalls.step call book = book := by
      unfold deductionCalls
      simp only [hresult]
    rw [hnone, hstep]
    exact ⟨0, .nil _, (add_zero _).symm⟩
  cases call with
  | deductManual actorRole loanId amountKd seen =>
      rcases deductManual_cases actorRole loanId amountKd seen book with
        ⟨e, herror, hnone⟩ | ⟨loan, deduction, hfound, htakes, hfrom, hok⟩
      · exact hnothing e herror hnone
      · have hstep : deductionCalls.step (.deductManual actorRole loanId amountKd seen) book =
            book.deduct loan deduction := by
          unfold deductionCalls DeductionCall.result
          simp only [hok]
        obtain ⟨row, hrow⟩ := hstored loan (Table.mem_of_find? hfound)
        rw [hstep]
        refine ⟨deduction + 0, ?_, ?_⟩
        · change Deducted (takenByHand actorRole loanId amountKd seen) _ _ _
          rw [hfrom]
          exact Deducted.cons (takes_deducted loan deduction) htakes hrow not_mem_nil (.nil _)
        · unfold reportedDeductions LoanBook.deduct
          rw [tally_cons]
          dsimp only [id_eq]
          omega
  | createPayroll keys actorRole dto seen =>
      by_cases hruns : MayRunPayroll actorRole ∧ IsYearMonth (yearMonthOf dto.paymentDate)
      · let booked := bookInstalments (yearMonthOf dto.paymentDate) dto.remembers
          (dto.openLoans seen.db) book.db
        have hstep : deductionCalls.step (.createPayroll keys actorRole dto seen) book =
            { book with db := ({ booked.2 with
                payrolls := booked.2.payrolls.insertNew keys (dto.payroll booked.1) fun _ => rfl
              }.cameBy (yearMonthOf dto.paymentDate)
                (seen.db.loans.rows.filter fun loan => loan.userId = dto.userId)) } := by
          unfold deductionCalls DeductionCall.result createPayrollFrom
          simp only [if_neg (not_not.2 hruns.1), if_neg (not_not.2 hruns.2)]
          rfl
        have hfrom : (DeductionCall.createPayroll keys actorRole dto seen).deductsFrom =
            (dto.openLoans seen.db).filter fun loan => loan.Books dto.remembers := if_pos hruns
        have hdeducted : Deducted _ booked.1 book.db.loans booked.2.loans :=
          deducted_bookInstalments (loansByCreation_distinct _)
            (fun loan hloan => (mem_openLoans.1 hloan).2.2.1)
            fun loan hloan => hstored loan (mem_openLoans.1 hloan).1
        have hpayrolls : booked.2.payrolls = book.db.payrolls := payrolls_bookInstalments _ _ _ _
        rw [hfrom, hstep]
        refine ⟨booked.1, hdeducted, ?_⟩
        change tally id book.manual + tally Payroll.loanDeduction
          (booked.2.payrolls.rows ++ [_]) = _
        rw [hpayrolls, tally_append, tally_cons, tally_nil, ← add_assoc, add_zero]
        rfl
      · have hfrom : (DeductionCall.createPayroll keys actorRole dto seen).deductsFrom = [] :=
          if_neg hruns
        obtain ⟨e, herror⟩ := createPayrollFrom_refused hruns keys seen.db book.db
        apply hnothing e _ hfrom
        change (createPayrollFrom keys actorRole dto seen.db book.db).map _ = _
        rw [herror]
        rfl

/-! ## Runs -/

section Step

variable (hseen : LoansConserved call.read ∧ PaidDown call.read book)

include hseen

theorem readBehind {read : EmployeeLoan} (hread : read ∈ call.deductsFrom) : ∃ stored,
    book.db.loans.find? read.id = some stored ∧ stored.amount = read.amount ∧
      stored.remaining ≤ read.remaining ∧ remainingOf read.id book.db.loans = stored.remaining := by
  obtain ⟨stored, hfound, hamount, hless⟩ := hseen.2 read (deductsFrom_stored hread).1
  refine ⟨stored, hfound, hamount, hless, ?_⟩
  unfold remainingOf
  rw [hfound]

theorem behind_eq_zero_iff :
    tally (fun read => read.remaining - remainingOf read.id book.db.loans) call.deductsFrom = 0 ↔
      call.ReadsTheLatest book := by
  rw [tally_eq_zero_iff]
  · constructor
    · intro hnone read hread stored hfound
      obtain ⟨row, hrow, _, _, hleft⟩ := readBehind hseen hread
      obtain rfl := Option.some.inj (hrow.symm.trans hfound)
      have hzero := hnone read hread
      omega
    · intro hreads read hread
      obtain ⟨row, hrow, _, _, hleft⟩ := readBehind hseen hread
      rw [hleft, hreads read hread row hrow, sub_self]
  · intro read hread
    obtain ⟨row, _, _, hless, hleft⟩ := readBehind hseen hread
    rw [hleft]
    exact sub_nonneg.2 hless

theorem sound_of_deducted {total : ℤ} {after : LoanTable} (hbook : LoansConserved book)
    (hdeducted : Deducted call.deductsFrom total book.db.loans after) :
    ∀ loan ∈ after.rows, loan.Sound := by
  intro loan hloan
  have hlater := Table.find?_of_mem hloan
  by_cases hwritten : loan.id ∈ call.deductsFrom.map EmployeeLoan.id
  · obtain ⟨read, hread, hsame⟩ := mem_map.1 hwritten
    obtain ⟨stored, hfound, hamount, _⟩ := readBehind hseen hread
    obtain ⟨later, hfoundLater, hamount', hnonneg, hless, hsettled⟩ :=
      hdeducted.written read hread stored hfound
    rw [hsame, hlater] at hfoundLater
    obtain rfl := Option.some.inj hfoundLater
    have hsound := hseen.1.sound read (deductsFrom_stored hread).1
    refine ⟨hnonneg, ?_, hsettled⟩
    rw [hamount', hamount]
    exact hless.le.trans hsound.le_amount
  · rw [hdeducted.others _ hwritten] at hlater
    exact hbook.sound loan (Table.mem_of_find? hlater)

omit hseen in
theorem paidDown_of_deducted {total : ℤ} {after : LoanBook}
    (hdeducted : Deducted call.deductsFrom total book.db.loans after.db.loans)
    (hreads : call.ReadsTheLatest book) : PaidDown book after := by
  intro loan hloan
  have hfound := Table.find?_of_mem hloan
  by_cases hwritten : loan.id ∈ call.deductsFrom.map EmployeeLoan.id
  · obtain ⟨read, hread, hsame⟩ := mem_map.1 hwritten
    rw [← hsame] at hfound
    obtain ⟨later, hlater, hamount, _, hless, _⟩ := hdeducted.written read hread loan hfound
    rw [← hreads read hread loan hfound] at hless
    rw [← hsame]
    exact ⟨later, hlater, hamount, hless.le⟩
  · rw [hdeducted.others _ hwritten]
    exact ⟨loan, hfound, rfl, le_rfl⟩

theorem loansConserved_step_iff (hbook : LoansConserved book) :
    (LoansConserved (deductionCalls.step call book) ↔ call.ReadsTheLatest book) ∧
      (call.ReadsTheLatest book → PaidDown book (deductionCalls.step call book)) := by
  have hstored : ∀ read ∈ call.read.db.loans.rows, ∃ row,
      book.db.loans.find? read.id = some row := by
    intro read hread
    obtain ⟨row, hrow, _⟩ := hseen.2 read hread
    exact ⟨row, hrow⟩
  obtain ⟨total, hdeducted, hreported⟩ := deductionCalls_spec hstored
  have hbalance := hdeducted.balance
  have hamounts := hdeducted.amounts
  have hbefore := hbook.balance
  refine ⟨?_, fun hreads => paidDown_of_deducted hdeducted hreads⟩
  constructor
  · intro hafter
    have hlater := hafter.balance
    rw [← behind_eq_zero_iff hseen]
    omega
  · intro hreads
    have hnone := (behind_eq_zero_iff hseen).2 hreads
    exact ⟨sound_of_deducted hseen hbook hdeducted, by omega⟩

end Step

/-- Over every interleaving of manual deductions and payrolls, the loans are conserved
exactly if every call read the latest of the loans that it takes from. -/
theorem loansConserved_iff {start : LoanBook} {calls : List DeductionCall} {trace : List LoanBook}
    (hstart : LoansConserved start)
    (hlog : deductionCalls.Log (fun _ _ => True) start calls trace) :
    (∀ book ∈ trace, LoansConserved book) ↔
      ∀ found ∈ Calls.occurrences calls trace, found.1.ReadsTheLatest found.2 := by
  rw [hlog.forall_iff_steps hstart]
  apply hlog.calls_iff (I := LoansConserved) (R := PaidDown)
    (F := fun call book => LoansConserved (deductionCalls.step call book))
    (Q := fun call book => call.ReadsTheLatest book) hstart
  intro call book hbook hseen _
  have hstep := loansConserved_step_iff (hseen call.read (mem_singleton_self _)) hbook
  exact ⟨hstep.1, fun hreads => ⟨hstep.1.2 hreads, hstep.2 hreads⟩⟩

namespace Sample

def tenLoan : EmployeeLoan :=
  ⟨"loan", "driver", 100000, 1, 100000, 100000, .ACTIVE, none, 0⟩

def oneLoan : LoanBook :=
  ⟨⟨⟨[tenLoan], nodup_singleton _⟩, .empty, [], []⟩, []⟩

theorem oneLoan_conserved : LoansConserved oneLoan := by
  refine ⟨?_, rfl⟩
  intro loan hloan
  obtain rfl := mem_singleton.1 hloan
  exact ⟨by decide, by decide, by decide⟩

def takeFour : DeductionCall := .deductManual .OWNER "loan" 4 oneLoan

theorem takeFour_log : deductionCalls.Log (fun _ _ => True) oneLoan [takeFour]
    [deductionCalls.step takeFour oneLoan, oneLoan] :=
  .call takeFour .start (fun _ hseen => hseen) trivial

end Sample

theorem loansConserved_iff_sample :
    LoansConserved (deductionCalls.step Sample.takeFour Sample.oneLoan) := by
  apply (loansConserved_iff Sample.oneLoan_conserved Sample.takeFour_log).2 _ _
    (mem_cons_self ..)
  intro found hfound
  obtain rfl := mem_singleton.1 hfound
  intro read hread stored hstored
  have hsame : read = Sample.tenLoan := (deductsFrom_stored hread).1 |> mem_singleton.1
  subst hsame
  exact congrArg EmployeeLoan.remaining (Option.some.inj hstored).symm

/-- Four dinars taken by hand twice, both from the ten of the first read. -/
theorem loansConserved_fails :
    ¬ ∀ (start : LoanBook) (calls : List DeductionCall) (trace : List LoanBook),
      LoansConserved start → deductionCalls.Log (fun _ _ => True) start calls trace →
      ∀ book ∈ trace, LoansConserved book := by
  intro hall
  have hconserved := hall _ _ _ Sample.oneLoan_conserved
    (.call Sample.takeFour Sample.takeFour_log (fun _ hseen => .tail _ hseen) trivial) _
    (mem_cons_self ..)
  have hbalance := hconserved.balance
  revert hbalance
  decide +kernel

end SafariLaundry
