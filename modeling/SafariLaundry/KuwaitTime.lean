import SafariLaundry.Library.Calendar
import SafariLaundry.ShiftCycle

/-!
# Days and months in Kuwait

The day in Kuwait is computed in four places and the accounting month in two.  They agree on
days that are written with a year of four digits; the two months differ in the last three
hours of a month in UTC.
-/

namespace SafariLaundry

open Library Library.Calendar

/-- A `Date` that is no `Invalid Date`; the time value is in milliseconds. -/
structure JsDate where
  time : ℤ
  valid : |time| ≤ 8640000000000000
  deriving DecidableEq

def newDate (time : ℤ) : Option JsDate :=
  if valid : |time| ≤ 8640000000000000 then some ⟨time, valid⟩ else none

def msPerDay : ℤ := 86400000

/-- `Date.UTC(year, month, date)`: the years from 0 to 99 are those of the twentieth
century, and the month may lie outside of the year. -/
def dateUtc (year month date : ℤ) : Option JsDate :=
  let fullYear := if 0 ≤ year ∧ year ≤ 99 then 1900 + year else year
  newDate ((monthBegin (12 * fullYear + month) + date - 1) * msPerDay)

def padTwo (n : ℤ) : String := String.ofList ((toString n).toList.leftpad 2 '0')

def dayText (year month date : ℤ) : String :=
  toString year ++ "-" ++ padTwo month ++ "-" ++ padTwo date

namespace JsDate

def day (date : JsDate) : ℤ := date.time / msPerDay

def getUTCFullYear (date : JsDate) : ℤ := yearOf date.day

def getUTCMonth (date : JsDate) : ℤ := monthOf date.day % 12

def getUTCDate (date : JsDate) : ℤ := dateOf date.day

def kuwaitMidnightUtc (nowUtc : JsDate) : Option JsDate := do
  let k ← newDate (nowUtc.time + kuwaitOffset)
  let utc ← dateUtc k.getUTCFullYear k.getUTCMonth k.getUTCDate
  newDate (utc.time - kuwaitOffset)

def nextKuwaitMidnightUtc (nowUtc : JsDate) : Option JsDate := do
  let today ← nowUtc.kuwaitMidnightUtc
  newDate (today.time + 24 * 60 * 60 * 1000)

def kuwaitDayIso (nowUtc : JsDate) : String :=
  match newDate (nowUtc.time + kuwaitOffset) with
  | none => "NaN-NaN-NaN"
  | some k => dayText k.getUTCFullYear (k.getUTCMonth + 1) k.getUTCDate

def kuwaitCalendarDayBoundsUtc (now : JsDate) : Option JsDate × Option JsDate :=
  let dayStart := do
    let shifted ← newDate (now.time + 3 * 60 * 60 * 1000)
    let utc ← dateUtc shifted.getUTCFullYear shifted.getUTCMonth shifted.getUTCDate
    newDate (utc.time - 3 * 60 * 60 * 1000)
  (dayStart, dayStart.bind fun start => newDate (start.time + 86400000))

def periodForDate (d : JsDate) : ℤ × ℤ := (d.getUTCFullYear, d.getUTCMonth + 1)

/-- The year and the month that `assertWriteAllowed` looks up. -/
def guardedPeriod (effectiveAt : JsDate) : Option (ℤ × ℤ) := do
  let kuwaitDate ← newDate (effectiveAt.time + 3 * 60 * 60 * 1000)
  return (kuwaitDate.getUTCFullYear, kuwaitDate.getUTCMonth + 1)

end JsDate

structure DayRange where
  (start stop : Option JsDate)
  date : String
  deriving DecidableEq

def dayParts : List Char → Option (ℕ × ℕ × ℕ)
  | [y₁, y₂, y₃, y₄, '-', m₁, m₂, '-', d₁, d₂] =>
      if [y₁, y₂, y₃, y₄, m₁, m₂, d₁, d₂].all Char.isDigit then
        some (Nat.ofDigitChars 10 [y₁, y₂, y₃, y₄] 0, Nat.ofDigitChars 10 [m₁, m₂] 0,
          Nat.ofDigitChars 10 [d₁, d₂] 0)
      else none
  | _ => none

def parseKuwaitDay (date : String) : Except ServiceError DayRange :=
  let day := date.toList.take 10
  match dayParts day with
  | none => .error (.badRequest "date must be YYYY-MM-DD")
  | some (year, month, d) =>
      let start := do
        let utc ← dateUtc year (month - 1) d
        newDate (utc.time - kuwaitOffset)
      .ok ⟨start, start.bind fun start => newDate (start.time + 24 * 60 * 60 * 1000),
        String.ofList day⟩

def monthOfIso (iso : String) : Option (ℤ × ℤ) :=
  (dayParts iso.toList).map fun (year, month, _) => (year, month)

/-! ## Texts of days -/

theorem toList_toString {n : ℤ} (hn : 0 ≤ n) : (toString n).toList = Nat.toDigits 10 n.toNat := by
  rw [Int.toString_eq_repr, Int.repr_eq_if, if_pos hn, Nat.toList_repr]

theorem toList_toString_neg {n : ℤ} (hn : n < 0) :
    (toString n).toList = '-' :: Nat.toDigits 10 (-n).toNat := by
  rw [Int.toString_eq_repr, Int.repr_eq_if, if_neg hn.not_ge, String.toList_append, Nat.toList_repr]
  rfl

theorem padTwo_toList {n : ℤ} (hn : 0 ≤ n) (hlt : n < 100) :
    ∃ tens ones, (padTwo n).toList = [tens, ones] ∧ tens.isDigit = true ∧ ones.isDigit = true ∧
      Nat.ofDigitChars 10 [tens, ones] 0 = n.toNat := by
  have hdigits := Nat.ofDigitChars_ten_toDigits (n := n.toNat)
  have hall : ∀ c ∈ Nat.toDigits 10 n.toNat, c.isDigit = true := fun c hc =>
    Nat.isDigit_of_mem_toDigits (by decide) (by decide) hc
  have hlength : (Nat.toDigits 10 n.toNat).length ≤ 2 :=
    (Nat.length_toDigits_le_iff (by decide) (by decide)).2 (by omega)
  unfold padTwo
  rw [String.toList_ofList, toList_toString hn]
  cases htext : Nat.toDigits 10 n.toNat with
  | nil => exact absurd htext Nat.toDigits_ne_nil
  | cons first rest =>
      rw [htext] at hdigits hall hlength
      cases rest with
      | nil =>
          refine ⟨'0', first, rfl, by decide, hall first (List.mem_cons_self ..), ?_⟩
          rw [← hdigits]
          rfl
      | cons second rest =>
          obtain rfl : rest = [] := by
            cases rest with
            | nil => rfl
            | cons third rest => simp at hlength
          exact ⟨first, second, rfl, hall first (List.mem_cons_self ..),
            hall second (.tail _ (List.mem_cons_self ..)), hdigits⟩

theorem dayParts_eq_some {text : List Char} {parts : ℕ × ℕ × ℕ} (hparts : dayParts text = some parts) :
    ∃ y₁ y₂ y₃ y₄ rest, text = y₁ :: y₂ :: y₃ :: y₄ :: '-' :: rest ∧
      y₁.isDigit = true ∧ y₂.isDigit = true ∧ y₃.isDigit = true ∧ y₄.isDigit = true := by
  unfold dayParts at hparts
  split at hparts
  · split at hparts
    next hdigits =>
      simp only [List.all_cons, Bool.and_eq_true] at hdigits
      exact ⟨_, _, _, _, _, rfl, hdigits.1, hdigits.2.1, hdigits.2.2.1, hdigits.2.2.2.1⟩
    next => cases hparts
  · cases hparts

theorem length_eq_four {digits rest : List Char} {parts : ℕ × ℕ × ℕ}
    (hdigits : ∀ c ∈ digits, c.isDigit = true)
    (hparts : dayParts ((digits ++ '-' :: rest).take 10) = some parts) : digits.length = 4 := by
  obtain ⟨y₁, y₂, y₃, y₄, tail, htext, h₁, h₂, h₃, h₄⟩ := dayParts_eq_some hparts
  have hdash : ∀ c : Char, c.isDigit = true → c ≠ '-' := by
    rintro c hc rfl
    exact absurd hc (by decide)
  match digits, hdigits with
  | [], _ =>
      obtain ⟨h, _⟩ := List.cons.inj htext
      exact absurd h.symm (hdash _ h₁)
  | [_], _ =>
      obtain ⟨h, _⟩ := List.cons.inj (List.cons.inj htext).2
      exact absurd h.symm (hdash _ h₂)
  | [_, _], _ =>
      obtain ⟨h, _⟩ := List.cons.inj (List.cons.inj (List.cons.inj htext).2).2
      exact absurd h.symm (hdash _ h₃)
  | [_, _, _], _ =>
      obtain ⟨h, _⟩ := List.cons.inj (List.cons.inj (List.cons.inj (List.cons.inj htext).2).2).2
      exact absurd h.symm (hdash _ h₄)
  | [_, _, _, _], _ => rfl
  | _ :: _ :: _ :: _ :: fifth :: more, hdigits =>
      have hfifth := hdigits fifth (by simp)
      simp only [List.cons_append, List.take_succ_cons, List.cons.injEq] at htext
      exact absurd htext.2.2.2.2.1 (hdash _ hfifth)

theorem dayParts_dayText {year month date : ℤ} (hyear : 1000 ≤ year) (hyear' : year ≤ 9999)
    (hmonth : 0 ≤ month) (hmonth' : month < 100) (hdate : 0 ≤ date) (hdate' : date < 100) :
    (dayText year month date).toList.take 10 = (dayText year month date).toList ∧
      dayParts (dayText year month date).toList =
        some (year.toNat, month.toNat, date.toNat) := by
  obtain ⟨m₁, m₂, hmonthText, hm₁, hm₂, hmonthNumber⟩ := padTwo_toList hmonth hmonth'
  obtain ⟨d₁, d₂, hdateText, hd₁, hd₂, hdateNumber⟩ := padTwo_toList hdate hdate'
  have hall : ∀ c ∈ Nat.toDigits 10 year.toNat, c.isDigit = true := fun c hc =>
    Nat.isDigit_of_mem_toDigits (by decide) (by decide) hc
  have hyearNumber := Nat.ofDigitChars_ten_toDigits (n := year.toNat)
  have hlength : (Nat.toDigits 10 year.toNat).length = 4 := by
    have hle : (Nat.toDigits 10 year.toNat).length ≤ 4 :=
      (Nat.length_toDigits_le_iff (by decide) (by decide)).2 (by omega)
    have hgt : ¬ (Nat.toDigits 10 year.toNat).length ≤ 3 := fun hshort =>
      absurd ((Nat.length_toDigits_le_iff (by decide) (by decide)).1 hshort) (by omega)
    omega
  have htext : (dayText year month date).toList =
      Nat.toDigits 10 year.toNat ++ '-' :: m₁ :: m₂ :: '-' :: d₁ :: [d₂] := by
    rw [← toList_toString (by omega : 0 ≤ year)]
    simp [dayText, String.toList_append, hmonthText, hdateText]
  rw [htext]
  match hdigits : Nat.toDigits 10 year.toNat, hlength with
  | [y₁, y₂, y₃, y₄], _ =>
      rw [hdigits] at hall hyearNumber
      refine ⟨rfl, ?_⟩
      simp [dayParts, hall, hm₁, hm₂, hd₁, hd₂, hyearNumber, hmonthNumber, hdateNumber]

theorem four_digits_of_dayParts {year month date : ℤ} {parts : ℕ × ℕ × ℕ}
    (hparts : dayParts ((dayText year month date).toList.take 10) = some parts) :
    1000 ≤ year ∧ year ≤ 9999 := by
  have htext : (dayText year month date).toList =
      (toString year).toList ++ '-' :: ((padTwo month).toList ++ '-' :: (padTwo date).toList) := by
    simp [dayText, String.toList_append]
  rw [htext] at hparts
  by_cases hnonneg : 0 ≤ year
  · rw [toList_toString hnonneg] at hparts
    have hlength := length_eq_four
      (fun c hc => Nat.isDigit_of_mem_toDigits (by decide) (by decide) hc) hparts
    have hle := (Nat.length_toDigits_le_iff (n := year.toNat) (b := 10) (k := 4) (by decide)
      (by decide)).1 hlength.le
    have hgt : ¬ year.toNat < 10 ^ 3 := fun hshort =>
      absurd ((Nat.length_toDigits_le_iff (by decide) (by decide)).2 hshort) (by omega)
    omega
  · rw [toList_toString_neg (lt_of_not_ge hnonneg)] at hparts
    obtain ⟨y₁, _, _, _, _, hfirst, hdigit, _⟩ := dayParts_eq_some hparts
    obtain rfl : '-' = y₁ := (List.cons.inj hfirst).1
    exact absurd hdigit (by decide)

/-! ## The day in Kuwait -/

@[simp] theorem newDate_eq_some {time : ℤ} {date : JsDate} :
    newDate time = some date ↔ date.time = time := by
  unfold newDate
  constructor
  · intro hdate
    split at hdate
    · obtain rfl := Option.some.inj hdate
      rfl
    · cases hdate
  · rintro rfl
    rw [dif_pos date.valid]

theorem exists_date {time : ℤ} (hlow : -8640000000000000 ≤ time) (hhigh : time ≤ 8640000000000000) :
    ∃ date : JsDate, date.time = time :=
  ⟨⟨time, abs_le.2 ⟨hlow, hhigh⟩⟩, rfl⟩

theorem dateUtc_of_day {day : ℤ} (hyear : 99 < yearOf day) :
    dateUtc (yearOf day) (monthOf day % 12) (dateOf day) = newDate (day * msPerDay) := by
  have hmonth : 12 * yearOf day + monthOf day % 12 = monthOf day := by
    rw [← monthOf_div]
    omega
  simp only [dateUtc]
  rw [if_neg (by omega), hmonth, monthBegin_add_dateOf]

namespace JsDate

def localDay (date : JsDate) : ℤ := (date.time + kuwaitOffset) / msPerDay

def FourDigitYear (date : JsDate) : Prop :=
  1000 ≤ yearOf date.localDay ∧ yearOf date.localDay ≤ 9999

def MonthEnding (date : JsDate) : Prop :=
  monthBegin (monthOf date.day + 1) * msPerDay ≤ date.time + kuwaitOffset

theorem day_eq_localDay {date k : JsDate} (hk : k.time = date.time + kuwaitOffset) :
    k.day = date.localDay := by
  unfold day localDay
  rw [hk]

variable {date : JsDate}

theorem FourDigitYear.localDay_bounds (hyear : date.FourDigitYear) :
    -354285 ≤ date.localDay ∧ date.localDay < 2932897 := by
  obtain ⟨hbegin, hend⟩ := yearOf_spec date.localDay
  have hlow : yearBegin 1000 ≤ yearBegin (yearOf date.localDay) :=
    yearBegin_strictMono.monotone hyear.1
  have hhigh : yearBegin (yearOf date.localDay + 1) ≤ yearBegin 10000 :=
    yearBegin_strictMono.monotone (by have := hyear.2; omega)
  have hfirst : yearBegin 1000 = -354285 := by decide
  have hlast : yearBegin 10000 = 2932897 := by decide
  omega

structure DaySteps (date k utc start next : JsDate) : Prop where
  shifted : k.time = date.time + kuwaitOffset
  midnight : dateUtc k.getUTCFullYear k.getUTCMonth k.getUTCDate = some utc
  utc : utc.time = date.localDay * msPerDay
  start : start.time = date.localDay * msPerDay - kuwaitOffset
  next : next.time = (date.localDay + 1) * msPerDay - kuwaitOffset

theorem localDay_spec (date : JsDate) :
    date.localDay * msPerDay ≤ date.time + kuwaitOffset ∧
      date.time + kuwaitOffset < (date.localDay + 1) * msPerDay :=
  ⟨Int.ediv_mul_le _ (by decide), Int.lt_ediv_add_one_mul_self _ (by decide)⟩

theorem FourDigitYear.exists_steps (hyear : date.FourDigitYear) :
    ∃ k utc start next, date.DaySteps k utc start next := by
  obtain ⟨hlow, hhigh⟩ := hyear.localDay_bounds
  obtain ⟨hday, hnext⟩ := date.localDay_spec
  have hoffset : kuwaitOffset = 10800000 := rfl
  have hbegin : date.localDay * msPerDay = 86400000 * date.localDay := mul_comm _ _
  have hend : (date.localDay + 1) * msPerDay = 86400000 * date.localDay + 86400000 := by
    rw [add_mul, hbegin, one_mul]
    rfl
  obtain ⟨k, hk⟩ : ∃ k : JsDate, k.time = date.time + kuwaitOffset :=
    exists_date (by omega) (by omega)
  obtain ⟨utc, hutc⟩ : ∃ utc : JsDate, utc.time = date.localDay * msPerDay :=
    exists_date (by omega) (by omega)
  obtain ⟨start, hstart⟩ : ∃ start : JsDate,
      start.time = date.localDay * msPerDay - kuwaitOffset := exists_date (by omega) (by omega)
  obtain ⟨next, hnextTime⟩ : ∃ next : JsDate,
      next.time = (date.localDay + 1) * msPerDay - kuwaitOffset :=
    exists_date (by omega) (by omega)
  refine ⟨k, utc, start, next, hk, ?_, hutc, hstart, hnextTime⟩
  rw [getUTCFullYear, getUTCMonth, getUTCDate, day_eq_localDay hk,
    dateUtc_of_day (by have := hyear.1; omega)]
  exact newDate_eq_some.2 hutc

namespace DaySteps

variable {k utc start next : JsDate}

theorem start_within (hsteps : date.DaySteps k utc start next) :
    start.time ≤ date.time ∧ date.time < next.time := by
  obtain ⟨hday, hnext⟩ := date.localDay_spec
  rw [hsteps.start, hsteps.next]
  omega

theorem kuwaitMidnightUtc (hsteps : date.DaySteps k utc start next) :
    date.kuwaitMidnightUtc = some start := by
  unfold JsDate.kuwaitMidnightUtc
  simp only [newDate_eq_some.2 hsteps.shifted, Option.bind_eq_bind, Option.bind_some,
    hsteps.midnight]
  exact newDate_eq_some.2 (hsteps.start.trans (by rw [hsteps.utc]))

theorem next_eq (hsteps : date.DaySteps k utc start next) :
    next.time = start.time + 24 * 60 * 60 * 1000 := by
  rw [hsteps.start, hsteps.next]
  unfold msPerDay
  omega

theorem nextKuwaitMidnightUtc (hsteps : date.DaySteps k utc start next) :
    date.nextKuwaitMidnightUtc = some next := by
  unfold JsDate.nextKuwaitMidnightUtc
  simp only [hsteps.kuwaitMidnightUtc, Option.bind_eq_bind, Option.bind_some]
  exact newDate_eq_some.2 hsteps.next_eq

theorem kuwaitCalendarDayBoundsUtc (hsteps : date.DaySteps k utc start next) :
    date.kuwaitCalendarDayBoundsUtc = (some start, some next) := by
  have hshifted : newDate (date.time + 3 * 60 * 60 * 1000) = some k :=
    newDate_eq_some.2 hsteps.shifted
  have hstart : newDate (utc.time - 3 * 60 * 60 * 1000) = some start :=
    newDate_eq_some.2 (hsteps.start.trans (by rw [hsteps.utc]; rfl))
  have hnext : newDate (start.time + 86400000) = some next := newDate_eq_some.2 hsteps.next_eq
  simp only [JsDate.kuwaitCalendarDayBoundsUtc, hshifted, Option.bind_eq_bind, Option.bind_some,
    hsteps.midnight, hstart, hnext]

theorem kuwaitDayIso (hsteps : date.DaySteps k utc start next) :
    date.kuwaitDayIso = dayText (yearOf date.localDay) (monthOf date.localDay % 12 + 1)
      (dateOf date.localDay) := by
  unfold JsDate.kuwaitDayIso
  rw [newDate_eq_some.2 hsteps.shifted]
  simp only [getUTCFullYear, getUTCMonth, getUTCDate, day_eq_localDay hsteps.shifted]

end DaySteps

theorem FourDigitYear.dayParts (hyear : date.FourDigitYear) :
    date.kuwaitDayIso.toList.take 10 = date.kuwaitDayIso.toList ∧
      dayParts date.kuwaitDayIso.toList = some ((yearOf date.localDay).toNat,
        (monthOf date.localDay % 12 + 1).toNat, (dateOf date.localDay).toNat) := by
  obtain ⟨k, utc, start, next, hsteps⟩ := hyear.exists_steps
  have hone := one_le_dateOf date.localDay
  have hlast := dateOf_le date.localDay
  rw [hsteps.kuwaitDayIso]
  exact dayParts_dayText hyear.1 hyear.2 (by omega) (by omega) (by omega) (by omega)

theorem fourDigitYear_of_dayParts {parts : ℕ × ℕ × ℕ}
    (hparts : SafariLaundry.dayParts (date.kuwaitDayIso.toList.take 10) = some parts) :
    date.FourDigitYear := by
  unfold kuwaitDayIso at hparts
  cases hk : newDate (date.time + kuwaitOffset) with
  | none =>
      rw [hk] at hparts
      cases hparts
  | some k =>
      rw [hk] at hparts
      have hdigits := four_digits_of_dayParts hparts
      rw [getUTCFullYear, day_eq_localDay (newDate_eq_some.1 hk)] at hdigits
      exact hdigits

theorem FourDigitYear.kuwaitDayIso_eq_iff (hyear : date.FourDigitYear) (other : JsDate) :
    other.kuwaitDayIso = date.kuwaitDayIso ↔ other.localDay = date.localDay := by
  constructor
  · intro htext
    have hparts := hyear.dayParts.2
    have hother : other.FourDigitYear := by
      apply fourDigitYear_of_dayParts
      rw [htext, hyear.dayParts.1]
      exact hparts
    rw [← htext, hother.dayParts.2] at hparts
    obtain ⟨hyears, hmonths, hdates⟩ : (yearOf other.localDay).toNat = (yearOf date.localDay).toNat ∧
        (monthOf other.localDay % 12 + 1).toNat = (monthOf date.localDay % 12 + 1).toNat ∧
        (dateOf other.localDay).toNat = (dateOf date.localDay).toNat := by
      simpa using hparts
    have hmonthOf : monthOf other.localDay = monthOf date.localDay := by
      have hdiv := monthOf_div date.localDay
      have hdiv' := monthOf_div other.localDay
      have hthousand := hyear.1
      have hthousand' := hother.1
      omega
    have hdateOf : dateOf other.localDay = dateOf date.localDay := by
      have hone := one_le_dateOf date.localDay
      have hone' := one_le_dateOf other.localDay
      omega
    rw [← monthBegin_add_dateOf other.localDay, hmonthOf, hdateOf, monthBegin_add_dateOf]
  · intro hday
    have hother : other.FourDigitYear := by
      unfold FourDigitYear
      rw [hday]
      exact hyear
    obtain ⟨k, utc, start, next, hsteps⟩ := hyear.exists_steps
    obtain ⟨k', utc', start', next', hsteps'⟩ := hother.exists_steps
    rw [hsteps.kuwaitDayIso, hsteps'.kuwaitDayIso, hday]

theorem DaySteps.start_within_iff {k utc start next other : JsDate}
    (hsteps : date.DaySteps k utc start next) :
    start.time ≤ other.time ∧ other.time < next.time ↔ other.localDay = date.localDay := by
  obtain ⟨hday, hnext⟩ := other.localDay_spec
  have hoffset : kuwaitOffset = 10800000 := rfl
  have hlength : msPerDay = 86400000 := rfl
  rw [hsteps.start, hsteps.next]
  rw [hlength] at hday hnext ⊢
  omega

theorem monthOf_localDay_eq_iff (date : JsDate) :
    monthOf date.localDay = monthOf date.day ↔ ¬ date.MonthEnding := by
  have hlocal : date.day ≤ date.localDay := Int.ediv_le_ediv (by decide) (by
    unfold kuwaitOffset
    omega)
  have hbegin := (monthOf_spec date.day).1
  rw [monthOf_eq_iff, MonthEnding, not_le, ← Int.ediv_lt_iff_lt_mul (by decide)]
  constructor
  · rintro ⟨_, hend⟩
    exact hend
  · intro hend
    exact ⟨hbegin.trans hlocal, hend⟩

/-! ## Agreement -/

/-- What the five functions should say about an instant. -/
structure DayRight (date : JsDate) : Prop where
  /-- The instants with the same text are those from the last midnight on to the next. -/
  midnights : ∃ start next, date.kuwaitMidnightUtc = some start ∧
    date.nextKuwaitMidnightUtc = some next ∧ start.time ≤ date.time ∧ date.time < next.time ∧
    ∀ other : JsDate, other.kuwaitDayIso = date.kuwaitDayIso ↔
      start.time ≤ other.time ∧ other.time < next.time
  dispatch : date.kuwaitCalendarDayBoundsUtc = (date.kuwaitMidnightUtc, date.nextKuwaitMidnightUtc)
  reconciliation : parseKuwaitDay date.kuwaitDayIso =
    .ok ⟨date.kuwaitMidnightUtc, date.nextKuwaitMidnightUtc, date.kuwaitDayIso⟩
  guarded : date.guardedPeriod = monthOfIso date.kuwaitDayIso
  period : date.guardedPeriod = some date.periodForDate

def DaysAgree (a b : JsDate) : Prop :=
  a.DayRight ∧ b.DayRight ∧
    (a.kuwaitDayIso = b.kuwaitDayIso ↔ a.kuwaitMidnightUtc = b.kuwaitMidnightUtc)

theorem DaySteps.guardedPeriod {k utc start next : JsDate}
    (hsteps : date.DaySteps k utc start next) : date.guardedPeriod =
      some (yearOf date.localDay, monthOf date.localDay % 12 + 1) := by
  have hshifted : newDate (date.time + 3 * 60 * 60 * 1000) = some k :=
    newDate_eq_some.2 hsteps.shifted
  simp only [JsDate.guardedPeriod, hshifted, Option.bind_eq_bind, Option.bind_some, getUTCFullYear,
    getUTCMonth, day_eq_localDay hsteps.shifted, pure]

theorem DaySteps.parseKuwaitDay {k utc start next : JsDate}
    (hsteps : date.DaySteps k utc start next) (hyear : date.FourDigitYear) :
    parseKuwaitDay date.kuwaitDayIso = .ok ⟨some start, some next, date.kuwaitDayIso⟩ := by
  obtain ⟨htake, hparts⟩ := hyear.dayParts
  have hone := one_le_dateOf date.localDay
  have hthousand := hyear.1
  have hyearOf : ((yearOf date.localDay).toNat : ℤ) = yearOf date.localDay := by omega
  have hmonth : (((monthOf date.localDay % 12 + 1).toNat : ℕ) : ℤ) - 1 =
      monthOf date.localDay % 12 := by omega
  have hdate : ((dateOf date.localDay).toNat : ℤ) = dateOf date.localDay := by omega
  have hutc : dateUtc (yearOf date.localDay) (monthOf date.localDay % 12) (dateOf date.localDay) =
      some utc := by
    rw [dateUtc_of_day (by omega)]
    exact newDate_eq_some.2 hsteps.utc
  have hstart : newDate (utc.time - kuwaitOffset) = some start :=
    newDate_eq_some.2 (hsteps.start.trans (by rw [hsteps.utc]))
  simp only [SafariLaundry.parseKuwaitDay, htake, hparts, hyearOf, hmonth, hdate, hutc, hstart,
    Option.bind_eq_bind, Option.bind_some, newDate_eq_some.2 hsteps.next_eq, String.ofList_toList]

theorem FourDigitYear.monthOfIso (hyear : date.FourDigitYear) : monthOfIso date.kuwaitDayIso =
    some (yearOf date.localDay, monthOf date.localDay % 12 + 1) := by
  have hthousand := hyear.1
  unfold SafariLaundry.monthOfIso
  rw [hyear.dayParts.2]
  simp only [Option.map_some, Option.some.injEq, Prod.mk.injEq]
  omega

theorem dayRight_iff (date : JsDate) :
    date.DayRight ↔ date.FourDigitYear ∧ ¬ date.MonthEnding := by
  constructor
  · intro hright
    have hyear : date.FourDigitYear := by
      have hread := hright.reconciliation
      simp only [SafariLaundry.parseKuwaitDay] at hread
      cases hparts : SafariLaundry.dayParts (date.kuwaitDayIso.toList.take 10) with
      | none =>
          rw [hparts] at hread
          cases hread
      | some parts => exact fourDigitYear_of_dayParts hparts
    obtain ⟨k, utc, start, next, hsteps⟩ := hyear.exists_steps
    refine ⟨hyear, (monthOf_localDay_eq_iff date).1 ?_⟩
    have hperiod := hright.period
    rw [hsteps.guardedPeriod] at hperiod
    obtain ⟨hyears, hmonths⟩ := Prod.mk.inj (Option.some.inj hperiod)
    have hdiv := monthOf_div date.localDay
    have hdiv' := monthOf_div date.day
    simp only [getUTCFullYear, getUTCMonth] at hyears hmonths
    omega
  · rintro ⟨hyear, hmonth⟩
    obtain ⟨k, utc, start, next, hsteps⟩ := hyear.exists_steps
    obtain ⟨hstart, hnext⟩ := hsteps.start_within
    have hmonths := (monthOf_localDay_eq_iff date).2 hmonth
    refine ⟨⟨start, next, hsteps.kuwaitMidnightUtc, hsteps.nextKuwaitMidnightUtc, hstart, hnext,
      fun other => ?_⟩, ?_, ?_, ?_, ?_⟩
    · rw [hyear.kuwaitDayIso_eq_iff, hsteps.start_within_iff]
    · rw [hsteps.kuwaitCalendarDayBoundsUtc, hsteps.kuwaitMidnightUtc, hsteps.nextKuwaitMidnightUtc]
    · rw [hsteps.parseKuwaitDay hyear, hsteps.kuwaitMidnightUtc, hsteps.nextKuwaitMidnightUtc]
    · rw [hsteps.guardedPeriod, hyear.monthOfIso]
    · rw [hsteps.guardedPeriod, periodForDate, getUTCFullYear, getUTCMonth, ← monthOf_div, hmonths,
        monthOf_div]

end JsDate

/-- The functions agree on two instants exactly if both have a year of four digits in Kuwait
and neither is in the last three hours of a month in UTC. -/
theorem kuwaitDays_agree_iff (a b : JsDate) :
    a.DaysAgree b ↔ (a.FourDigitYear ∧ ¬ a.MonthEnding) ∧ b.FourDigitYear ∧ ¬ b.MonthEnding := by
  constructor
  · rintro ⟨ha, hb, _⟩
    exact ⟨(JsDate.dayRight_iff a).1 ha, (JsDate.dayRight_iff b).1 hb⟩
  · rintro ⟨ha, hb⟩
    refine ⟨(JsDate.dayRight_iff a).2 ha, (JsDate.dayRight_iff b).2 hb, ?_⟩
    obtain ⟨k, utc, start, next, hsteps⟩ := ha.1.exists_steps
    obtain ⟨k', utc', start', next', hsteps'⟩ := hb.1.exists_steps
    rw [hb.1.kuwaitDayIso_eq_iff, hsteps.kuwaitMidnightUtc, hsteps'.kuwaitMidnightUtc,
      ← newDate_eq_some.2 hsteps.start, ← newDate_eq_some.2 hsteps'.start]
    constructor
    · intro hday
      rw [hday]
    · intro hstart
      rw [newDate_eq_some.2 hsteps'.start, newDate_eq_some, hsteps'.start] at hstart
      unfold msPerDay at hstart
      omega

namespace Sample

def aprilMidnight : JsDate := ⟨1774991700000, by decide⟩

end Sample

theorem kuwaitDays_agree_fails : ¬ Sample.aprilMidnight.DaysAgree Sample.aprilMidnight := by
  rintro ⟨hright, _⟩
  have hperiod := hright.period
  revert hperiod
  decide

end SafariLaundry
