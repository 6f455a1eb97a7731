import SafariLaundry.KuwaitTime

/-!
# Fixed expenses of a month

A schedule accrues once for every month that a range has a part in.  The months are those of UTC;
the ranges of the monthly report begin and end at midnight in Kuwait, three hours before a month
of UTC does.
-/

namespace SafariLaundry.FixedExpenses

open Library Library.Calendar Library.Bookkeeping List

/-- `Date.UTC` and the constructor read a year below 100 as one of the twentieth century. -/
def fullYear (year : ℤ) : ℤ :=
  if 0 ≤ year ∧ year ≤ 99 then 1900 + year else year

def dateUtcAt (year month date ms : ℤ) : Option JsDate :=
  newDate ((monthBegin (12 * fullYear year + month) + date - 1) * msPerDay + ms)

def setUTCMonth (date : JsDate) (month : ℤ) : Option JsDate :=
  newDate ((monthBegin (12 * date.getUTCFullYear + month) + date.getUTCDate - 1) * msPerDay +
    date.time % msPerDay)

theorem year_month (day : ℤ) : 12 * yearOf day + monthOf day % 12 = monthOf day := by
  rw [← monthOf_div]
  omega

theorem lt_setUTCMonth {cursor next : JsDate}
    (hnext : setUTCMonth cursor (cursor.getUTCMonth + 1) = some next) :
    cursor.time < next.time := by
  have hbegin := (monthBegin_succ_bounds (monthOf cursor.day)).1
  have hday := monthBegin_add_dateOf cursor.day
  have hmonth : 12 * cursor.getUTCFullYear + (cursor.getUTCMonth + 1) = monthOf cursor.day + 1 := by
    rw [JsDate.getUTCFullYear, JsDate.getUTCMonth, ← add_assoc, year_month]
  have htime : cursor.time = cursor.day * msPerDay + cursor.time % msPerDay :=
    (Int.ediv_mul_add_emod cursor.time msPerDay).symm
  rw [setUTCMonth, hmonth, newDate_eq_some, JsDate.getUTCDate] at hnext
  have hlater : cursor.day * msPerDay <
      (monthBegin (monthOf cursor.day + 1) + dateOf cursor.day - 1) * msPerDay := by
    apply Int.mul_lt_mul_of_pos_right _ (by decide)
    omega
  omega

def accruedFrom (start stop : JsDate) (endMonth : Option JsDate) (cursor : JsDate) (count : ℕ) :
    ℕ :=
  match endMonth with
  | none => count
  | some last =>
      if cursor.time ≤ last.time then
        let monthEnd := dateUtcAt cursor.getUTCFullYear (cursor.getUTCMonth + 1) 0
          (23 * 3600000 + 59 * 60000 + 59 * 1000 + 999)
        let overlapStart := if start.time < cursor.time then cursor else start
        let overlapEnd := match monthEnd with
          | some monthEnd => if monthEnd.time < stop.time then monthEnd else stop
          | none => stop
        let count := if overlapStart.time ≤ overlapEnd.time then count + 1 else count
        match _hnext : setUTCMonth cursor (cursor.getUTCMonth + 1) with
        | some next => accruedFrom start stop (some last) next count
        | none => count
      else count
termination_by (endMonth.elim 0 fun last => last.time + 1 - cursor.time).toNat
decreasing_by
  have := lt_setUTCMonth _hnext
  simp only [Option.elim_some]
  omega

def openEnd : JsDate := ⟨4133894400000, by decide⟩

def countAccruedMonths (rangeFrom rangeTo effFrom : JsDate) (effTo : Option JsDate) : ℕ :=
  let capEnd := effTo.getD openEnd
  let start := if rangeFrom.time < effFrom.time then effFrom else rangeFrom
  let stop := if capEnd.time < rangeTo.time then capEnd else rangeTo
  if stop.time < start.time then 0
  else
    match dateUtc start.getUTCFullYear start.getUTCMonth 1 with
    | none => 0
    | some cursor =>
        accruedFrom start stop (dateUtc stop.getUTCFullYear stop.getUTCMonth 1) cursor 0

/-- A row of `FixedExpenseSchedule`; the amount in ten-thousandths of a dinar. -/
structure FixedExpenseSchedule where
  branchId : Uuid
  monthlyAmount : ℕ
  effectiveFrom : JsDate
  effectiveTo : Option JsDate
  isActive : Bool

/-- The `where` of the sum. -/
def Selected (branchId : Option Uuid) (row : FixedExpenseSchedule) : Prop :=
  row.isActive = true ∧ ∀ id ∈ branchId, id ≠ "" → row.branchId = id
  deriving Decidable

def accrued (start stop : JsDate) (row : FixedExpenseSchedule) : ℕ :=
  row.monthlyAmount * countAccruedMonths start stop row.effectiveFrom row.effectiveTo

def accruedInRange (schedules : List FixedExpenseSchedule) (start stop : JsDate)
    (branchId : Option Uuid) : ℕ :=
  tally (accrued start stop) (schedules.filter fun row => Selected branchId row)

def sumAccruedInRange (schedules : List FixedExpenseSchedule) (start stop : JsDate)
    (branchId : Option Uuid) : String :=
  minorToAmountString (accruedInRange schedules start stop branchId)

def localDate (year month date ms : ℤ) : Option JsDate :=
  newDate ((monthBegin (12 * fullYear year + month) + date - 1) * msPerDay + ms - kuwaitOffset)

def startOfMonthIso (d : JsDate) : Option JsDate :=
  localDate (yearOf d.localDay) (monthOf d.localDay % 12) 1 0

def endOfMonthIso (d : JsDate) : Option JsDate :=
  localDate (yearOf d.localDay) (monthOf d.localDay % 12 + 1) 0
    (23 * 3600000 + 59 * 60000 + 59 * 1000 + 999)

/-! ## What the loop counts -/

def monthAt (time : ℤ) : ℤ := monthOf (time / msPerDay)

theorem monthAt_eq_iff {time month : ℤ} :
    monthAt time = month ↔
      monthBegin month * msPerDay ≤ time ∧ time < monthBegin (month + 1) * msPerDay := by
  rw [monthAt, monthOf_eq_iff, Int.le_ediv_iff_mul_le (by decide),
    Int.ediv_lt_iff_lt_mul (by decide)]

theorem monthAt_spec (time : ℤ) :
    monthBegin (monthAt time) * msPerDay ≤ time ∧
      time < monthBegin (monthAt time + 1) * msPerDay :=
  monthAt_eq_iff.1 rfl

theorem begin_le_begin {first second : ℤ} (hle : first ≤ second) :
    monthBegin first * msPerDay ≤ monthBegin second * msPerDay :=
  Int.mul_le_mul_of_nonneg_right (monthBegin_strictMono.monotone hle) (by decide)

theorem monthAt_mono {first second : ℤ} (hle : first ≤ second) :
    monthAt first ≤ monthAt second := by
  by_contra hlater
  have hbegin := begin_le_begin (show monthAt second + 1 ≤ monthAt first by omega)
  have hfirst := (monthAt_spec first).1
  have hsecond := (monthAt_spec second).2
  omega

theorem fields_of_begin {date : JsDate} {month : ℤ}
    (hdate : date.time = monthBegin month * msPerDay) :
    date.getUTCFullYear = month / 12 ∧ date.getUTCMonth = month % 12 ∧ date.getUTCDate = 1 ∧
      date.time % msPerDay = 0 := by
  have hday : date.day = monthBegin month := by
    rw [JsDate.day, hdate, Int.mul_ediv_cancel _ (by decide)]
  have hmonth : monthOf date.day = month :=
    monthOf_eq_iff.2 ⟨hday.ge, hday.trans_lt (monthBegin_succ_bounds month).1⟩
  refine ⟨?_, ?_, ?_, ?_⟩
  · rw [JsDate.getUTCFullYear, ← monthOf_div, hmonth]
  · rw [JsDate.getUTCMonth, hmonth]
  · rw [JsDate.getUTCDate, dateOf, hmonth, hday]
    omega
  · rw [hdate, Int.mul_emod_left]

theorem fullYear_of_late {month : ℤ} (hlate : 1200 ≤ month) :
    fullYear (month / 12) = month / 12 := by
  rw [fullYear, if_neg (by omega)]

theorem accruedFrom_eq {start stop last : JsDate} (hrange : start.time ≤ stop.time)
    (hlast : last.time = monthBegin (monthAt stop.time) * msPerDay) (n : ℕ) :
    ∀ {cursor : JsDate} {month : ℤ} (count : ℕ), 1200 ≤ month → monthAt start.time ≤ month →
      cursor.time = monthBegin month * msPerDay → (monthAt stop.time + 1 - month).toNat = n →
      accruedFrom start stop (some last) cursor count = count + n := by
  induction n with
  | zero =>
      intro cursor month count _ _ hcursor hnone
      have hpast := begin_le_begin (show monthAt stop.time + 1 ≤ month by omega)
      have hbegin := (monthBegin_succ_bounds (monthAt stop.time)).1
      have hlater : last.time < cursor.time := by
        rw [hlast, hcursor]
        refine lt_of_lt_of_le ?_ hpast
        exact Int.mul_lt_mul_of_pos_right hbegin (by decide)
      rw [accruedFrom, if_neg (by omega)]
      rfl
  | succ n ih =>
      intro cursor month count hlate hfirst hcursor hmonths
      have hmonth : month ≤ monthAt stop.time := by omega
      have hbefore : cursor.time ≤ last.time := by
        rw [hlast, hcursor]
        exact begin_le_begin hmonth
      obtain ⟨hyear, hindex, hdate, hclock⟩ := fields_of_begin hcursor
      have hnext : monthBegin month * msPerDay < monthBegin (month + 1) * msPerDay :=
        Int.mul_lt_mul_of_pos_right (monthBegin_succ_bounds month).1 (by decide)
      have hfull : 12 * (month / 12) + (month % 12 + 1) = month + 1 := by omega
      have hoverlap : (if start.time < cursor.time then cursor else start).time ≤
          (match dateUtcAt cursor.getUTCFullYear (cursor.getUTCMonth + 1) 0
            (23 * 3600000 + 59 * 60000 + 59 * 1000 + 999) with
          | some monthEnd => if monthEnd.time < stop.time then monthEnd else stop
          | none => stop).time := by
        have hstarted : start.time < monthBegin (month + 1) * msPerDay :=
          (monthAt_spec start.time).2.trans_le (begin_le_begin (by omega))
        have hreached : cursor.time ≤ stop.time :=
          hcursor.le.trans ((begin_le_begin hmonth).trans (monthAt_spec stop.time).1)
        have hopen : (if start.time < cursor.time then cursor else start).time ≤ stop.time := by
          split_ifs <;> omega
        cases hend : dateUtcAt cursor.getUTCFullYear (cursor.getUTCMonth + 1) 0
            (23 * 3600000 + 59 * 60000 + 59 * 1000 + 999) with
        | none => exact hopen
        | some monthEnd =>
            rw [hyear, hindex, dateUtcAt, fullYear_of_late hlate, hfull, newDate_eq_some] at hend
            have htime : monthEnd.time = monthBegin (month + 1) * msPerDay - 1 := by
              rw [hend, msPerDay]
              omega
            simp only
            split_ifs at hopen ⊢ <;> omega
      rw [accruedFrom, if_pos hbefore]
      simp only [if_pos hoverlap]
      split
      · next next hstep =>
        rw [setUTCMonth, hyear, hindex, hdate, hclock, hfull, newDate_eq_some] at hstep
        rw [@ih next (month + 1) (count + 1) (by omega) (by omega)
          (by rw [hstep, add_sub_cancel_right, add_zero]) (by omega)]
        omega
      · next hstep =>
        by_cases hmore : month < monthAt stop.time
        · have hbegin : monthBegin (month + 1) * msPerDay ≤ last.time := by
            rw [hlast]
            exact begin_le_begin (by omega)
          have hlow := (abs_le.1 cursor.valid).1
          have hhigh := (abs_le.1 last.valid).2
          rw [setUTCMonth, hyear, hindex, hdate, hclock, hfull, add_sub_cancel_right, add_zero,
            newDate, dif_pos (abs_le.2 ⟨by omega, by omega⟩)] at hstep
          cases hstep
        · omega

def touched (start stop : ℤ) : ℕ :=
  if stop < start then 0 else (monthAt stop + 1 - monthAt start).toNat

theorem exists_begin {time : JsDate} (hlate : 1200 ≤ monthAt time.time) :
    ∃ cursor, dateUtc time.getUTCFullYear time.getUTCMonth 1 = some cursor ∧
      cursor.time = monthBegin (monthAt time.time) * msPerDay := by
  have hfields : 12 * time.getUTCFullYear + time.getUTCMonth = monthAt time.time := by
    rw [JsDate.getUTCFullYear, JsDate.getUTCMonth, year_month]
    rfl
  have hfirst := begin_le_begin hlate
  have hlow : -8640000000000000 ≤ monthBegin 1200 * msPerDay := by decide
  have hhigh := (abs_le.1 time.valid).2
  have hbegin := (monthAt_spec time.time).1
  obtain ⟨cursor, hcursor⟩ : ∃ cursor : JsDate,
      cursor.time = monthBegin (monthAt time.time) * msPerDay :=
    exists_date (by omega) (by omega)
  refine ⟨cursor, ?_, hcursor⟩
  have hyear : 99 < time.getUTCFullYear := by
    have hmonth : 0 ≤ time.getUTCMonth ∧ time.getUTCMonth < 12 :=
      ⟨Int.emod_nonneg _ (by decide), Int.emod_lt_of_pos _ (by decide)⟩
    omega
  simp only [dateUtc]
  rw [if_neg (by omega), hfields, newDate_eq_some, hcursor]
  ring

theorem countAccruedMonths_eq {rangeFrom : JsDate} (hlate : 1200 ≤ monthAt rangeFrom.time)
    (rangeTo effFrom : JsDate) (effTo : Option JsDate) :
    countAccruedMonths rangeFrom rangeTo effFrom effTo =
      touched (max rangeFrom.time effFrom.time) (min rangeTo.time (effTo.getD openEnd).time) := by
  have hstart : (if rangeFrom.time < effFrom.time then effFrom else rangeFrom).time =
      max rangeFrom.time effFrom.time := by
    split_ifs <;> omega
  have hstop : (if (effTo.getD openEnd).time < rangeTo.time then effTo.getD openEnd
      else rangeTo).time = min rangeTo.time (effTo.getD openEnd).time := by
    split_ifs <;> omega
  unfold countAccruedMonths
  simp only
  rw [← hstart, ← hstop]
  generalize (if rangeFrom.time < effFrom.time then effFrom else rangeFrom) = start at *
  generalize (if (effTo.getD openEnd).time < rangeTo.time then effTo.getD openEnd
    else rangeTo) = stop at *
  unfold touched
  split_ifs with hempty
  · rfl
  · have hfirst : 1200 ≤ monthAt start.time := hlate.trans (monthAt_mono (by omega))
    obtain ⟨cursor, hcursor, hbegin⟩ := exists_begin hfirst
    obtain ⟨last, hlast, hend⟩ := exists_begin
      (hfirst.trans (monthAt_mono (show start.time ≤ stop.time by omega)))
    rw [hcursor, hlast]
    exact (accruedFrom_eq (by omega) hend _ 0 hfirst le_rfl hbegin rfl).trans (Nat.zero_add _)

/-! ## Months in Kuwait -/

/-- A month that the report asks for: the range begins at its first midnight in Kuwait and ends a
millisecond before the next month's. -/
structure ReportMonth where
  month : ℤ
  (start stop : JsDate)
  late : 1200 < month
  start_eq : start.time = monthBegin month * msPerDay - kuwaitOffset
  stop_eq : stop.time = monthBegin (month + 1) * msPerDay - kuwaitOffset - 1

/-- The range that the page sends for the month of a date is that of its month. -/
theorem exists_reportMonth {d start stop : JsDate} (hlate : 1200 < monthOf d.localDay)
    (hstart : startOfMonthIso d = some start) (hstop : endOfMonthIso d = some stop) :
    ∃ r : ReportMonth, r.month = monthOf d.localDay ∧ r.start = start ∧ r.stop = stop := by
  have hmonth := year_month d.localDay
  have hyear : fullYear (yearOf d.localDay) = yearOf d.localDay := by
    rw [← monthOf_div]
    exact fullYear_of_late hlate.le
  rw [startOfMonthIso, localDate, newDate_eq_some, hyear, hmonth] at hstart
  rw [endOfMonthIso, localDate, newDate_eq_some, hyear, ← add_assoc (12 * _), hmonth] at hstop
  refine ⟨⟨monthOf d.localDay, start, stop, hlate, ?_, ?_⟩, rfl, rfl, rfl⟩
  · rw [hstart]
    ring
  · rw [hstop, msPerDay]
    ring

namespace ReportMonth

variable (r : ReportMonth)

theorem offset_lt : 0 < kuwaitOffset ∧ kuwaitOffset < msPerDay := by decide

theorem begin_add_le (month : ℤ) :
    monthBegin month * msPerDay + msPerDay ≤ monthBegin (month + 1) * msPerDay := by
  have hday := (monthBegin_succ_bounds month).1
  rw [← add_one_mul]
  exact Int.mul_le_mul_of_nonneg_right hday (by decide)

theorem monthAt_start : monthAt r.start.time = r.month - 1 := by
  have hlong := begin_add_le (r.month - 1)
  have hoffset := offset_lt
  rw [sub_add_cancel] at hlong
  rw [monthAt_eq_iff, sub_add_cancel, r.start_eq]
  omega

theorem begin_le_stop : monthBegin r.month * msPerDay ≤ r.stop.time := by
  have hlong := begin_add_le r.month
  have hoffset := offset_lt
  rw [r.stop_eq]
  omega

theorem start_lt_stop : r.start.time < r.stop.time := by
  have hbegin := r.begin_le_stop
  have hoffset := offset_lt
  rw [r.start_eq]
  omega

theorem monthAt_start_sub : monthAt (r.start.time - 1) = r.month - 1 := by
  have hlong := begin_add_le (r.month - 1)
  have hoffset := offset_lt
  have hday : msPerDay = 86400000 := rfl
  have hhours : kuwaitOffset = 10800000 := rfl
  rw [sub_add_cancel] at hlong
  rw [monthAt_eq_iff, sub_add_cancel, r.start_eq]
  omega

theorem late_start : 1200 ≤ monthAt r.start.time := by
  have hlate := r.late
  rw [monthAt_start]
  omega

end ReportMonth

def InForce (row : FixedExpenseSchedule) (r : ReportMonth) : Prop :=
  row.effectiveFrom.time ≤ r.start.time ∧ ∀ effTo ∈ row.effectiveTo, r.stop.time ≤ effTo.time

/-- In force before the month begins and when it begins. -/
def Crosses (row : FixedExpenseSchedule) (r : ReportMonth) : Prop :=
  row.effectiveFrom.time < r.start.time ∧ r.start.time ≤ (row.effectiveTo.getD openEnd).time
  deriving Decidable

theorem openEnd_time : openEnd.time = monthBegin 25212 * msPerDay - msPerDay := by decide

theorem countAccruedMonths_ne_one {row : FixedExpenseSchedule} {r : ReportMonth}
    (hforce : InForce row r) :
    countAccruedMonths r.start r.stop row.effectiveFrom row.effectiveTo ≠ 1 := by
  have hbegin := r.begin_le_stop
  have hshort := r.start_lt_stop
  have hoffset := ReportMonth.offset_lt
  have hstart := r.start_eq
  rw [countAccruedMonths_eq r.late_start, max_eq_left hforce.1, touched]
  split_ifs with hempty
  · decide
  · have hreached : monthBegin r.month * msPerDay ≤
        min r.stop.time (row.effectiveTo.getD openEnd).time := by
      cases hto : row.effectiveTo with
      | some effTo =>
          have hafter := hforce.2 effTo hto
          rw [Option.getD_some, min_eq_left hafter]
          exact hbegin
      | none =>
          rw [hto] at hempty
          simp only [Option.getD_none, openEnd_time] at hempty ⊢
          have hmonth : r.month < 25212 := by
            by_contra hafter
            have hlater := begin_le_begin (not_lt.1 hafter)
            omega
          have hlong := ReportMonth.begin_add_le r.month
          have hlater := begin_le_begin (show r.month + 1 ≤ 25212 by omega)
          omega
    have hmonth := monthAt_mono hreached
    have hsame : monthAt (monthBegin r.month * msPerDay) = r.month := by
      have hlong := ReportMonth.begin_add_le r.month
      rw [monthAt_eq_iff]
      omega
    rw [r.monthAt_start]
    omega

theorem touched_split (r : ReportMonth) {first last : ℤ} (effFrom effTo : ℤ)
    (hfirst : first < r.start.time) (hlast : r.start.time ≤ last) :
    touched (max first effFrom) (min (r.start.time - 1) effTo) +
        touched (max r.start.time effFrom) (min last effTo) =
      touched (max first effFrom) (min last effTo) +
        if effFrom < r.start.time ∧ r.start.time ≤ effTo then 1 else 0 := by
  by_cases hfrom : effFrom < r.start.time
  · by_cases hto : r.start.time ≤ effTo
    · have hbefore := monthAt_mono (show max first effFrom ≤ r.start.time - 1 by omega)
      have hafter := monthAt_mono (show r.start.time ≤ min last effTo by omega)
      rw [min_eq_left (show r.start.time - 1 ≤ effTo by omega), max_eq_left hfrom.le,
        if_pos ⟨hfrom, hto⟩]
      unfold touched
      rw [if_neg (by omega), if_neg (by omega), if_neg (by omega)]
      rw [r.monthAt_start_sub] at *
      rw [r.monthAt_start] at *
      omega
    · rw [if_neg fun hcross => hto hcross.2, min_eq_right (show effTo ≤ r.start.time - 1 by omega),
        min_eq_right (show effTo ≤ last by omega)]
      have hnone : touched (max r.start.time effFrom) effTo = 0 := by
        rw [touched, if_pos (by omega)]
      omega
  · rw [if_neg fun hcross => hfrom hcross.1, max_eq_right (show first ≤ effFrom by omega),
      max_eq_right (not_lt.1 hfrom)]
    have hnone : touched effFrom (min (r.start.time - 1) effTo) = 0 := by
      rw [touched, if_pos (by omega)]
    omega

/-! ## A run of months -/

structure MonthRun where
  first : ReportMonth
  rest : List ReportMonth
  consecutive : (first :: rest).IsChain fun r next => next.month = r.month + 1

namespace MonthRun

variable (run : MonthRun)

def months : List ReportMonth := run.first :: run.rest

def last : ReportMonth := run.months.getLast (cons_ne_nil _ _)

end MonthRun

def crossings (row : FixedExpenseSchedule) (months : List ReportMonth) : ℕ :=
  months.countP fun r => Crosses row r

theorem stop_of_next {r next : ReportMonth} (hnext : next.month = r.month + 1) :
    r.stop.time = next.start.time - 1 := by
  rw [r.stop_eq, next.start_eq, hnext]

theorem month_le_getLast {first : ReportMonth} {rest : List ReportMonth}
    (hchain : (first :: rest).IsChain fun r next => next.month = r.month + 1) :
    first.month ≤ ((first :: rest).getLast (cons_ne_nil _ _)).month := by
  induction rest generalizing first with
  | nil => exact le_rfl
  | cons second rest ih =>
      obtain ⟨hnext, hchain⟩ := isChain_cons_cons.1 hchain
      have hlater := ih hchain
      rw [getLast_cons_cons]
      omega

theorem stop_le_stop {r last : ReportMonth} (hmonth : r.month ≤ last.month) :
    r.stop.time ≤ last.stop.time := by
  have hbegin := begin_le_begin (show r.month + 1 ≤ last.month + 1 by omega)
  rw [r.stop_eq, last.stop_eq]
  omega

theorem tally_countAccruedMonths (row : FixedExpenseSchedule) {first : ReportMonth}
    {rest : List ReportMonth}
    (hchain : (first :: rest).IsChain fun r next => next.month = r.month + 1) :
    tally (fun r : ReportMonth =>
        countAccruedMonths r.start r.stop row.effectiveFrom row.effectiveTo) (first :: rest) =
      countAccruedMonths first.start ((first :: rest).getLast (cons_ne_nil _ _)).stop
        row.effectiveFrom row.effectiveTo + crossings row rest := by
  induction rest generalizing first with
  | nil => simp [crossings]
  | cons second rest ih =>
      obtain ⟨hnext, hchain⟩ := isChain_cons_cons.1 hchain
      have hsplit := touched_split second row.effectiveFrom.time (row.effectiveTo.getD openEnd).time
        (show first.start.time < second.start.time by
          have hstop := stop_of_next hnext
          have hshort := first.start_lt_stop
          omega)
        (second.start_lt_stop.le.trans (stop_le_stop (month_le_getLast hchain)))
      have hcross : crossings row (second :: rest) =
          crossings row rest + if Crosses row second then 1 else 0 := by
        simp [crossings, countP_cons]
      rw [tally_cons, ih hchain, getLast_cons_cons, hcross]
      rw [countAccruedMonths_eq first.late_start, countAccruedMonths_eq first.late_start,
        countAccruedMonths_eq second.late_start, stop_of_next hnext]
      change _ = touched _ _ + (_ + if row.effectiveFrom.time < second.start.time ∧
        second.start.time ≤ (row.effectiveTo.getD openEnd).time then 1 else 0)
      omega

def doubled (schedules : List FixedExpenseSchedule) (branchId : Option Uuid) (run : MonthRun) : ℕ :=
  tally (fun row => row.monthlyAmount * crossings row run.rest)
    (schedules.filter fun row => Selected branchId row)

theorem tally_accruedInRange (schedules : List FixedExpenseSchedule) (branchId : Option Uuid)
    (run : MonthRun) :
    tally (fun r : ReportMonth => accruedInRange schedules r.start r.stop branchId) run.months =
      accruedInRange schedules run.first.start run.last.stop branchId +
        doubled schedules branchId run := by
  unfold accruedInRange doubled
  induction schedules.filter fun row => Selected branchId row with
  | nil => exact tally_eq_zero _ fun _ _ => rfl
  | cons row rows ih =>
      have hrow : tally (fun r : ReportMonth =>
          countAccruedMonths r.start r.stop row.effectiveFrom row.effectiveTo) run.months =
            countAccruedMonths run.first.start run.last.stop row.effectiveFrom row.effectiveTo +
              crossings row run.rest :=
        tally_countAccruedMonths row run.consecutive
      have hamount : tally (fun r : ReportMonth => accrued r.start r.stop row) run.months =
          row.monthlyAmount * tally (fun r : ReportMonth =>
            countAccruedMonths r.start r.stop row.effectiveFrom row.effectiveTo) run.months :=
        sum_map_mul_left ..
      have hcons : tally (fun r : ReportMonth => tally (accrued r.start r.stop) (row :: rows))
          run.months = tally (fun r : ReportMonth => accrued r.start r.stop row) run.months +
            tally (fun r : ReportMonth => tally (accrued r.start r.stop) rows) run.months :=
        sum_map_add
      rw [hcons, ih, hamount, hrow, tally_cons, tally_cons, accrued, mul_add]
      ring

def AccruesByMonth (schedules : List FixedExpenseSchedule) (branchId : Option Uuid)
    (run : MonthRun) : Prop :=
  (∀ row ∈ schedules, Selected branchId row → ∀ r ∈ run.months, InForce row r →
    countAccruedMonths r.start r.stop row.effectiveFrom row.effectiveTo = 1) ∧
  accruedInRange schedules run.first.start run.last.stop branchId =
    tally (fun r : ReportMonth => accruedInRange schedules r.start r.stop branchId) run.months

theorem accruesByMonth_iff (schedules : List FixedExpenseSchedule) (branchId : Option Uuid)
    (run : MonthRun) :
    AccruesByMonth schedules branchId run ↔ ∀ row ∈ schedules, Selected branchId row →
        (∀ r ∈ run.months, ¬ InForce row r) ∧
          (0 < row.monthlyAmount → ∀ r ∈ run.rest, ¬ Crosses row r) := by
  have hdoubled : doubled schedules branchId run = 0 ↔
      ∀ row ∈ schedules, Selected branchId row → 0 < row.monthlyAmount →
        ∀ r ∈ run.rest, ¬ Crosses row r := by
    simp only [doubled, tally, sum_eq_zero_iff, forall_mem_map, mem_filter,
      decide_eq_true_eq, mul_eq_zero, crossings, countP_eq_zero, and_imp]
    refine forall₃_congr fun row _ _ => ?_
    rw [← Nat.pos_iff_ne_zero.not_left, imp_iff_not_or]
  rw [AccruesByMonth, tally_accruedInRange, left_eq_add, hdoubled]
  constructor
  · rintro ⟨honce, hcross⟩ row hrow hselected
    exact ⟨fun r hr hforce =>
      countAccruedMonths_ne_one hforce (honce row hrow hselected r hr hforce),
      hcross row hrow hselected⟩
  · intro hnone
    exact ⟨fun row hrow hselected r hr hforce =>
      absurd hforce ((hnone row hrow hselected).1 r hr),
      fun row hrow hselected => (hnone row hrow hselected).2⟩

def rent : FixedExpenseSchedule where
  branchId := "branch"
  monthlyAmount := 1000000
  effectiveFrom := ⟨1735678800000, by decide⟩
  effectiveTo := none
  isActive := true

def march : ReportMonth where
  month := 24314
  start := ⟨1772312400000, by decide⟩
  stop := ⟨1774990799999, by decide⟩
  late := by decide
  start_eq := by decide
  stop_eq := by decide

theorem accruesByMonth_fails : ¬ AccruesByMonth [rent] none ⟨march, [], .singleton _⟩ := by
  intro haccrues
  have honce := haccrues.1 rent (mem_singleton_self _) (by decide) march
    (mem_singleton_self _) ⟨by decide, by simp [rent]⟩
  exact countAccruedMonths_ne_one ⟨by decide, by simp [rent]⟩ honce

end SafariLaundry.FixedExpenses
