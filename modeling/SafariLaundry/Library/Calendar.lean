import Mathlib

/-!
# The Gregorian calendar

Days are numbered from 1 January 1970, months from January of the year 0, both in either
direction.  A month is the half-open interval of the days from its beginning to that of the
next one.
-/

namespace Library

namespace Calendar

/-- The number of 1 January of a year. -/
def yearBegin (year : ℤ) : ℤ :=
  365 * (year - 1970) + (year - 1969) / 4 - (year - 1901) / 100 + (year - 1601) / 400

def leapDays (year : ℤ) : ℤ :=
  if year % 4 = 0 ∧ (year % 100 ≠ 0 ∨ year % 400 = 0) then 1 else 0

theorem leapDays_nonneg (year : ℤ) : 0 ≤ leapDays year := by
  unfold leapDays
  split <;> decide

theorem leapDays_le (year : ℤ) : leapDays year ≤ 1 := by
  unfold leapDays
  split <;> decide

theorem yearBegin_succ (year : ℤ) : yearBegin (year + 1) = yearBegin year + 365 + leapDays year := by
  unfold yearBegin leapDays
  split_ifs with hleap <;> omega

theorem yearBegin_strictMono : StrictMono yearBegin :=
  strictMono_int_of_lt_succ fun year => by
    have hnonneg := leapDays_nonneg year
    rw [yearBegin_succ]
    omega

def daysBefore (month : ℤ) : ℤ :=
  if month ≤ 1 then 31 * month else (153 * month - 304) / 5 + 59

example : (List.range 13).map (fun month => daysBefore month) =
    [0, 31, 59, 90, 120, 151, 181, 212, 243, 273, 304, 334, 365] := by decide

def monthBegin (month : ℤ) : ℤ :=
  yearBegin (month / 12) + daysBefore (month % 12) +
    if 2 ≤ month % 12 then leapDays (month / 12) else 0

theorem monthBegin_succ_bounds (month : ℤ) :
    monthBegin month < monthBegin (month + 1) ∧ monthBegin (month + 1) ≤ monthBegin month + 31 := by
  have hnonneg := leapDays_nonneg (month / 12)
  have hle := leapDays_le (month / 12)
  unfold monthBegin
  by_cases hlast : month % 12 = 11
  · have hyear : (month + 1) / 12 = month / 12 + 1 := by omega
    have hmonth : (month + 1) % 12 = 0 := by omega
    rw [hyear, hmonth, hlast, yearBegin_succ]
    norm_num [daysBefore]
    omega
  · have hyear : (month + 1) / 12 = month / 12 := by omega
    have hmonth : (month + 1) % 12 = month % 12 + 1 := by omega
    have hlow : 0 ≤ month % 12 := by omega
    have hhigh : month % 12 < 11 := by omega
    rw [hyear, hmonth]
    unfold daysBefore
    split_ifs <;> omega

theorem monthBegin_strictMono : StrictMono monthBegin :=
  strictMono_int_of_lt_succ fun month => (monthBegin_succ_bounds month).1

def yearOf (day : ℤ) : ℤ :=
  let guess := 1970 + 400 * day / 146097
  if yearBegin (guess + 1) ≤ day then guess + 1
  else if yearBegin guess ≤ day then guess
  else guess - 1

theorem yearOf_spec (day : ℤ) :
    yearBegin (yearOf day) ≤ day ∧ day < yearBegin (yearOf day + 1) := by
  unfold yearOf
  simp only
  split_ifs with hnext hguess
  · refine ⟨hnext, ?_⟩
    unfold yearBegin
    omega
  · exact ⟨hguess, by omega⟩
  · refine ⟨?_, by rw [sub_add_cancel]; omega⟩
    unfold yearBegin
    omega

/-- The month of the year, from 0, of a day that is the given number of days into its year. -/
def monthInYear (leap days : ℤ) : ℤ :=
  if days < 59 + leap then days / 31 else (5 * (days - 59 - leap) + 2) / 153 + 2

def monthOf (day : ℤ) : ℤ :=
  12 * yearOf day + monthInYear (leapDays (yearOf day)) (day - yearBegin (yearOf day))

theorem monthInYear_bounds {leap days : ℤ} (hleap : 0 ≤ leap) (hle : leap ≤ 1) (hdays : 0 ≤ days)
    (hlt : days < 365 + leap) : 0 ≤ monthInYear leap days ∧ monthInYear leap days ≤ 11 := by
  unfold monthInYear
  split_ifs with hbefore <;> omega

theorem monthInYear_spec {leap days : ℤ} (hleap : 0 ≤ leap) (hle : leap ≤ 1) (hdays : 0 ≤ days)
    (hlt : days < 365 + leap) :
    daysBefore (monthInYear leap days) + (if 2 ≤ monthInYear leap days then leap else 0) ≤ days ∧
      days < daysBefore (monthInYear leap days + 1) +
        (if 2 ≤ monthInYear leap days + 1 then leap else 0) := by
  unfold monthInYear daysBefore
  split_ifs <;> omega

theorem days_bounds (day : ℤ) : 0 ≤ day - yearBegin (yearOf day) ∧
    day - yearBegin (yearOf day) < 365 + leapDays (yearOf day) := by
  obtain ⟨hbegin, hend⟩ := yearOf_spec day
  rw [yearBegin_succ] at hend
  omega

@[simp] theorem monthOf_div (day : ℤ) : monthOf day / 12 = yearOf day := by
  have hbounds := monthInYear_bounds (leapDays_nonneg (yearOf day)) (leapDays_le _)
    (days_bounds day).1 (days_bounds day).2
  unfold monthOf
  omega

theorem monthOf_mod (day : ℤ) : monthOf day % 12 =
    monthInYear (leapDays (yearOf day)) (day - yearBegin (yearOf day)) := by
  have hbounds := monthInYear_bounds (leapDays_nonneg (yearOf day)) (leapDays_le _)
    (days_bounds day).1 (days_bounds day).2
  unfold monthOf
  omega

theorem monthOf_spec (day : ℤ) :
    monthBegin (monthOf day) ≤ day ∧ day < monthBegin (monthOf day + 1) := by
  obtain ⟨hdays, hlt⟩ := days_bounds day
  have hspec := monthInYear_spec (leapDays_nonneg (yearOf day)) (leapDays_le _) hdays hlt
  have hbounds := monthInYear_bounds (leapDays_nonneg (yearOf day)) (leapDays_le _) hdays hlt
  have hmod := monthOf_mod day
  have hdiv := monthOf_div day
  rw [← hmod] at hspec hbounds
  constructor
  · unfold monthBegin
    rw [hdiv]
    omega
  · by_cases hlast : monthOf day % 12 = 11
    · have hyear : (monthOf day + 1) / 12 = yearOf day + 1 := by omega
      have hmonth : (monthOf day + 1) % 12 = 0 := by omega
      unfold monthBegin
      rw [hyear, hmonth, yearBegin_succ]
      norm_num [daysBefore]
      omega
    · have hyear : (monthOf day + 1) / 12 = yearOf day := by omega
      have hmonth : (monthOf day + 1) % 12 = monthOf day % 12 + 1 := by omega
      unfold monthBegin
      rw [hyear, hmonth]
      omega

theorem monthOf_eq_iff {day month : ℤ} :
    monthOf day = month ↔ monthBegin month ≤ day ∧ day < monthBegin (month + 1) := by
  constructor
  · rintro rfl
    exact monthOf_spec day
  · rintro ⟨hbegin, hend⟩
    obtain ⟨hlow, hhigh⟩ := monthOf_spec day
    have hle : monthOf day < month + 1 := monthBegin_strictMono.lt_iff_lt.1 (hlow.trans_lt hend)
    have hge : month < monthOf day + 1 := monthBegin_strictMono.lt_iff_lt.1 (hbegin.trans_lt hhigh)
    omega

def dateOf (day : ℤ) : ℤ := day - monthBegin (monthOf day) + 1

@[simp] theorem monthBegin_add_dateOf (day : ℤ) : monthBegin (monthOf day) + dateOf day - 1 = day := by
  unfold dateOf
  omega

theorem one_le_dateOf (day : ℤ) : 1 ≤ dateOf day := by
  have hbegin := (monthOf_spec day).1
  unfold dateOf
  omega

theorem dateOf_le (day : ℤ) : dateOf day ≤ 31 := by
  have hend := (monthOf_spec day).2
  have hlength := (monthBegin_succ_bounds (monthOf day)).2
  unfold dateOf
  omega

end Calendar

end Library
