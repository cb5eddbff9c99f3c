import Mathlib.Data.Int.ConditionallyCompleteOrder
import Mathlib.Tactic.IntervalCases
import Mathlib.Tactic.SplitIfs

/-!
# The Gregorian calendar

The calendar with the rules of 1582 carried on in both directions.  Months are
numbered through all years, so a month outside its year is the month of another,
and days are numbered from 1 January of the year 0.
-/

namespace Puppy.Calendar

/-- A year with a 29 February. -/
def Leap (year : Int) : Prop := year % 4 = 0 ∧ (year % 100 ≠ 0 ∨ year % 400 = 0)

instance (year : Int) : Decidable (Leap year) := inferInstanceAs (Decidable (_ ∧ _))

/-- The days of a month.  January of the year 0 is the month 0. -/
def monthLength (month : Int) : Int :=
  if month % 12 = 1 then
    if Leap (month / 12) then 29 else 28
  else if month % 12 = 3 ∨ month % 12 = 5 ∨ month % 12 = 8 ∨ month % 12 = 10 then 30
  else 31

/-- The days before a year. -/
def daysBeforeYear (year : Int) : Int :=
  365 * year + (year + 3) / 4 - (year + 99) / 100 + (year + 399) / 400

/-- The days before a month. -/
def daysBefore (month : Int) : Int :=
  daysBeforeYear (month / 12) + (367 * (month % 12) + 5) / 12 -
    if month % 12 < 2 then 0 else if Leap (month / 12) then 1 else 2

/-- The number of a day.  Months of the year count from 0, days of the month
from 1; a month or a day that is out of range counts on from there. -/
def dayNumber (year month day : Int) : Int := daysBefore (12 * year + month) + (day - 1)

/-! ## Counting days -/

theorem daysBeforeYear_succ (year : Int) :
    daysBeforeYear (year + 1) = daysBeforeYear year + if Leap year then 366 else 365 := by
  unfold daysBeforeYear
  by_cases leap : Leap year
  · rw [if_pos leap]
    unfold Leap at leap
    omega
  · rw [if_neg leap]
    unfold Leap at leap
    omega

theorem monthLength_bounds (month : Int) : 28 ≤ monthLength month ∧ monthLength month ≤ 31 := by
  unfold monthLength
  split_ifs <;> omega

/-- The days before a month are those of all earlier months. -/
theorem daysBefore_succ (month : Int) :
    daysBefore (month + 1) = daysBefore month + monthLength month := by
  have lower := Int.emod_nonneg month (show (12 : Int) ≠ 0 by decide)
  have upper := Int.emod_lt_of_pos month (show (0 : Int) < 12 by decide)
  by_cases december : month % 12 = 11
  · have year : (month + 1) / 12 = month / 12 + 1 := by omega
    have january : (month + 1) % 12 = 0 := by omega
    rw [daysBefore, daysBefore, monthLength, year, january, december, daysBeforeYear_succ]
    split_ifs <;> omega
  · have year : (month + 1) / 12 = month / 12 := by omega
    have next : (month + 1) % 12 = month % 12 + 1 := by omega
    rw [daysBefore, daysBefore, monthLength, year, next]
    generalize month % 12 = place at *
    interval_cases place <;> simp <;> split_ifs <;> omega

theorem daysBefore_strictMono : StrictMono daysBefore := by
  apply strictMono_int_of_lt_succ
  intro month
  have bounds := monthLength_bounds month
  rw [daysBefore_succ]
  omega

/-! ## Dates -/

/-- A date of the calendar. -/
structure Date where
  month : Int
  day : Int
  first : 1 ≤ day
  last : day ≤ monthLength month

namespace Date

/-- The number of a date. -/
def number (date : Date) : Int := daysBefore date.month + (date.day - 1)

theorem daysBefore_le_number (date : Date) : daysBefore date.month ≤ date.number := by
  have first := date.first
  unfold number
  omega

theorem number_lt_daysBefore (date : Date) : date.number < daysBefore (date.month + 1) := by
  have last := date.last
  rw [daysBefore_succ, number]
  omega

/-- The number of a day determines its month. -/
theorem month_eq {number month : Int} (date : Date) (named : date.number = number)
    (lower : daysBefore month ≤ number) (upper : number < daysBefore (month + 1)) :
    date.month = month := by
  have below := date.daysBefore_le_number
  have above := date.number_lt_daysBefore
  have notLater : date.month < month + 1 := daysBefore_strictMono.lt_iff_lt.mp (by omega)
  have notEarlier : month < date.month + 1 := daysBefore_strictMono.lt_iff_lt.mp (by omega)
  omega

/-- A day has one date. -/
theorem number_injective : Function.Injective number := by
  intro first second same
  have month := month_eq first same second.daysBefore_le_number second.number_lt_daysBefore
  obtain ⟨m, d, _, _⟩ := first
  obtain ⟨m', d', _, _⟩ := second
  obtain rfl : m = m' := month
  obtain rfl : d = d' := by
    have days : daysBefore m + (d - 1) = daysBefore m + (d' - 1) := same
    omega
  rfl

/-- The month of a day: 4800 months have 146097 days, which leads to the month
or to one of its neighbours. -/
def monthOf (number : Int) : Int :=
  let guess := number * 4800 / 146097
  if number < daysBefore guess then guess - 1
  else if daysBefore (guess + 1) ≤ number then guess + 1
  else guess

/-- The months are as long as on average, up to a few days. -/
theorem daysBefore_bounds (month : Int) :
    146097 * month - 4800 * 5 ≤ 4800 * daysBefore month ∧
      4800 * daysBefore month ≤ 146097 * month + 4800 * 5 := by
  unfold daysBefore daysBeforeYear
  split_ifs <;> omega

theorem monthOf_spec (number : Int) :
    daysBefore (monthOf number) ≤ number ∧ number < daysBefore (monthOf number + 1) := by
  unfold monthOf
  simp only
  generalize found : number * 4800 / 146097 = guess
  have before := (daysBefore_bounds (guess - 1)).2
  have after := (daysBefore_bounds (guess + 1 + 1)).1
  split_ifs with early late
  · rw [Int.sub_add_cancel]
    omega
  · omega
  · omega

/-- The date of a day. -/
def ofNumber (number : Int) : Date where
  month := monthOf number
  day := number - daysBefore (monthOf number) + 1
  first := by
    have spec := monthOf_spec number
    omega
  last := by
    have spec := monthOf_spec number
    rw [daysBefore_succ] at spec
    omega

theorem number_ofNumber (n : Int) : (ofNumber n).number = n := by
  unfold number ofNumber
  simp only
  omega

end Date

end Puppy.Calendar
