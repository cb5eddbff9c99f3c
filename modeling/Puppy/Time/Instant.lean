import Puppy.Time.Mjd
import Puppy.Calendar.Gregorian

/-!
# The instants of device dates

From 1 March 1900 on, `tfdt_to_time` hands a date of the calendar to `mktime`:
its fractions count the years from March to February and the months of such a
year, in which the leap day is the last day.  No year before 2100 breaks this
count, and the day numbers of the device end in 2038.
-/

namespace Puppy.Time

open Puppy.Calendar

/-! ## The calendar of the C library -/

namespace Tm

/-- The month of the fields, January of the year 0 being 0. -/
def month (tm : Tm) : Int := 12 * (1900 + tm.year) + tm.mon

/-- The day of the fields. -/
def dayNumber (tm : Tm) : Int := Calendar.dayNumber (1900 + tm.year) tm.mon tm.mday

/-- The seconds from the epoch to the fields, none of which need be in range. -/
def instant (tm : Tm) : Int :=
  86400 * (tm.dayNumber - Calendar.dayNumber 1970 0 1) + 3600 * tm.hour + 60 * tm.min + tm.sec

/-- The fields name a day of the calendar. -/
structure IsDate (tm : Tm) : Prop where
  january : 0 ≤ tm.mon
  december : tm.mon ≤ 11
  first : 1 ≤ tm.mday
  last : tm.mday ≤ monthLength tm.month

end Tm

/-- `mktime` in a zone without daylight saving time: the instant of any fields,
`offset` seconds east of Greenwich. -/
def FixedZone (mktime : Tm → Int) (offset : Int) : Prop := ∀ tm, mktime tm = tm.instant - offset

/-! ## Years that begin in March -/

/-- The days from 1 March 1900 to 1 March of a later year. -/
def marchDays (y : Int) : Int := y * 1461 / 4

/-- The days of a year that begins in March, and 122 more, before a month:
March is 4, and February of the next calendar year 15. -/
def monthDays (m : Int) : Int := m * 306001 / 10000

theorem marchDays_eq (y : Int) : marchDays y = 365 * y + y / 4 := by
  unfold marchDays
  omega

/-- March to December, in the calendar year that began two months before. -/
theorem monthDays_of_le {m : Int} (march : 4 ≤ m) (december : m ≤ 13) :
    (367 * (m - 2) + 5) / 12 - 2 = monthDays m - 63 := by
  unfold monthDays
  interval_cases m <;> rfl

/-- January and February, in the next calendar year. -/
theorem monthDays_of_ge {m : Int} (january : 14 ≤ m) (february : m ≤ 15) :
    (367 * (m - 14) + 5) / 12 = monthDays m - 428 := by
  unfold monthDays
  interval_cases m <;> rfl

/-- From 1901 to 2100 every fourth year before has been a leap year. -/
theorem daysBeforeYear_eq {y : Int} (first : 1 ≤ y) (last : y ≤ 200) :
    daysBeforeYear (1900 + y) = 693960 + 365 * y + (y + 3) / 4 := by
  unfold daysBeforeYear
  rcases Int.lt_or_le 100 y with century | century
  · have centuries : (1900 + y + 99) / 100 = 21 := by omega
    have leapCenturies : (1900 + y + 399) / 400 = 6 := by omega
    omega
  · have centuries : (1900 + y + 99) / 100 = 20 := by omega
    have leapCenturies : (1900 + y + 399) / 400 = 5 := by omega
    omega

theorem leap_iff {y : Int} (first : 1 ≤ y) (last : y < 200) : Leap (1900 + y) ↔ y % 4 = 0 := by
  unfold Leap
  constructor
  · intro leap
    omega
  · intro fourth
    omega

/-- 1 January and the leap day of a year, against the days since 1 March 1900. -/
theorem daysBeforeYear_march {y : Int} (first : 0 ≤ y) (last : y < 200) :
    daysBeforeYear (1900 + y) + (if Leap (1900 + y) then 1 else 0) = 693961 + marchDays y := by
  rw [marchDays_eq]
  rcases Int.lt_or_eq_of_le first with later | rfl
  · rw [daysBeforeYear_eq later (Int.le_of_lt last)]
    by_cases leap : Leap (1900 + y)
    · rw [if_pos leap]
      rw [leap_iff later last] at leap
      omega
    · rw [if_neg leap]
      rw [leap_iff later last] at leap
      omega
  · decide

/-- The months of the years that begin in March are those of the calendar. -/
theorem daysBefore_march {y m : Int} (first : 0 ≤ y) (last : y < 200) (march : 4 ≤ m)
    (february : m ≤ 15) :
    daysBefore (12 * (1900 + y) + (m - 2)) = 693898 + marchDays y + monthDays m := by
  rcases Int.lt_or_le m 14 with december | january
  · have year : (12 * (1900 + y) + (m - 2)) / 12 = 1900 + y := by omega
    have place : (12 * (1900 + y) + (m - 2)) % 12 = m - 2 := by omega
    have years := daysBeforeYear_march first last
    have months := monthDays_of_le march (show m ≤ 13 by omega)
    rw [daysBefore, year, place, if_neg (by omega)]
    split_ifs at years ⊢ <;> omega
  · have year : (12 * (1900 + y) + (m - 2)) / 12 = 1900 + (y + 1) := by omega
    have place : (12 * (1900 + y) + (m - 2)) % 12 = m - 14 := by omega
    have years := daysBeforeYear_eq (show 1 ≤ y + 1 by omega) (show y + 1 ≤ 200 by omega)
    have months := monthDays_of_ge january february
    rw [daysBefore, year, place, if_pos (by omega), months, years, marchDays_eq]
    omega

/-- The length of such a month; a year that begins in March ends with February. -/
theorem monthLength_march {y m : Int} (first : 0 ≤ y) (last : y < 199) (march : 4 ≤ m)
    (february : m ≤ 15) :
    monthLength (12 * (1900 + y) + (m - 2)) =
      if m = 15 then marchDays (y + 1) - marchDays y + 122 - monthDays 15
      else monthDays (m + 1) - monthDays m := by
  have length := daysBefore_succ (12 * (1900 + y) + (m - 2))
  rw [daysBefore_march first (by omega) march february] at length
  split_ifs with atEnd
  · subst atEnd
    have next : 12 * (1900 + y) + (15 - 2) + 1 = 12 * (1900 + (y + 1)) + (4 - 2) := by omega
    have firstMonth : monthDays 4 = 122 := by decide
    rw [next, daysBefore_march (by omega) (by omega) (by decide) (by decide)] at length
    omega
  · have next : 12 * (1900 + y) + (m - 2) + 1 = 12 * (1900 + y) + (m + 1 - 2) := by omega
    rw [next, daysBefore_march first (by omega) (by omega) (by omega)] at length
    omega

/-! ## Decoding -/

/-- The year `tfdt_to_time` computes first is the one that began in March. -/
theorem decodedYear_spec {mjd y : Int} (from1900 : 15079 ≤ mjd) (to2038 : mjd ≤ 65535)
    (decoded : ((mjd * 10 - 150782) * 4).tdiv (10 * 1461) = y) :
    0 ≤ y ∧ y < 199 ∧ marchDays y ≤ mjd - 15079 ∧ mjd - 15079 < marchDays (y + 1) := by
  rw [Int.tdiv_eq_ediv_of_nonneg (by omega)] at decoded
  unfold marchDays
  omega

/-- The month `tfdt_to_time` computes first, from the days since 1 March. -/
theorem decodedMonth_spec {s m : Int} (lower : 15079 ≤ s) (upper : s ≤ 15444)
    (decoded : ((s * 10 - 149561) * 1000).tdiv 306001 = m) :
    4 ≤ m ∧ m ≤ 15 ∧ monthDays m < s - 14956 ∧ s - 14956 ≤ monthDays (m + 1) := by
  rw [Int.tdiv_eq_ediv_of_nonneg (by omega)] at decoded
  have march : 4 ≤ m := by omega
  have february : m ≤ 15 := by omega
  rw [and_iff_right march, and_iff_right february]
  unfold monthDays
  constructor
  · omega
  · interval_cases m <;> omega

/-- A day in a month of a year that begins in March. -/
structure Decoded (mjd y m : Int) : Prop where
  first : 0 ≤ y
  last : y < 199
  march : 4 ≤ m
  february : m ≤ 15
  after : monthDays m < mjd - 14956 - marchDays y
  inMonth : mjd - 14956 - marchDays y ≤ monthDays (m + 1)
  inYear : mjd - 15079 < marchDays (y + 1)

/-- `tfdt_to_time` returns what `mktime` makes of the fields. -/
def Hands (dt : TfDatetime) (tm : Tm) : Prop := ∀ mktime, tfdtToTime mktime dt = mktime tm

/-- The fields of a device date, in a month of a year that begins in March.
January and February are months of the next calendar year. -/
def marchFields (dt : TfDatetime) (y m : Int) : Tm :=
  let k := if m = 14 ∨ m = 15 then 1 else 0
  { sec := dt.second.toNat
    min := dt.minute.toNat
    hour := dt.hour.toNat
    mday := dt.mjd.toNat - 14956 - marchDays y - monthDays m
    mon := m - 1 - k * 12 - 1
    year := y + k }

theorem month_marchFields (dt : TfDatetime) (y m : Int) :
    (marchFields dt y m).month = 12 * (1900 + y) + (m - 2) := by
  simp only [Tm.month, marchFields]
  omega

/-- What `tfdt_to_time` computes before it corrects January and February. -/
theorem hands_marchFields (dt : TfDatetime) (from1900 : 15079 ≤ dt.mjd.toNat) :
    ∃ y m, Decoded dt.mjd.toNat y m ∧ Hands dt (marchFields dt y m) := by
  have to2038 := dt.mjd.toNat_lt
  obtain ⟨y, year⟩ : ∃ y, (((dt.mjd.toNat : Int) * 10 - 150782) * 4).tdiv (10 * 1461) = y :=
    ⟨_, rfl⟩
  obtain ⟨first, last, begun, inYear⟩ := decodedYear_spec (by omega) (by omega) year
  have days : (y * 1461).tdiv 4 = marchDays y := Int.tdiv_eq_ediv_of_nonneg (by omega)
  have nextDays : marchDays (y + 1) ≤ marchDays y + 366 := by
    rw [marchDays_eq, marchDays_eq]
    omega
  obtain ⟨m, month⟩ :
      ∃ m, ((((dt.mjd.toNat : Int) - marchDays y) * 10 - 149561) * 1000).tdiv 306001 = m :=
    ⟨_, rfl⟩
  obtain ⟨march, february, after, inMonth⟩ := decodedMonth_spec (by omega) (by omega) month
  have before : (m * 306001).tdiv 10000 = monthDays m := Int.tdiv_eq_ediv_of_nonneg (by omega)
  refine ⟨y, m, ⟨first, last, march, february, by omega, by omega, inYear⟩, ?_⟩
  intro mktime
  simp only [tfdtToTime, year, days, month, before, marchFields]

theorem Decoded.isDate {dt : TfDatetime} {y m : Int} (decoded : Decoded dt.mjd.toNat y m) :
    (marchFields dt y m).IsDate := by
  obtain ⟨first, last, march, february, after, inMonth, inYear⟩ := decoded
  constructor
  · simp only [marchFields]
    split_ifs <;> omega
  · simp only [marchFields]
    split_ifs <;> omega
  · simp only [marchFields]
    omega
  · rw [month_marchFields, monthLength_march first last march february]
    simp only [marchFields]
    split_ifs with atEnd
    · subst atEnd
      omega
    · omega

theorem Decoded.dayNumber {dt : TfDatetime} {y m : Int} (decoded : Decoded dt.mjd.toNat y m) :
    (marchFields dt y m).dayNumber =
      Calendar.dayNumber 1970 0 1 + (dt.mjd.toNat - 40587) := by
  obtain ⟨first, last, march, february, _, _, _⟩ := decoded
  have month : 12 * (1900 + (marchFields dt y m).year) + (marchFields dt y m).mon =
      12 * (1900 + y) + (m - 2) := month_marchFields dt y m
  have epoch : Calendar.dayNumber 1970 0 1 = 719528 := by decide
  rw [Tm.dayNumber, Calendar.dayNumber, month, daysBefore_march first (by omega) march february,
    epoch]
  simp only [marchFields]
  omega

/-- The fields of a device date from 1 March 1900 on: a date of the calendar,
with the number of the day and the time of day unchanged. -/
theorem exists_hands (dt : TfDatetime) (from1900 : 15079 ≤ dt.mjd.toNat) :
    ∃ tm, Hands dt tm ∧ tm.IsDate ∧
      tm.dayNumber = Calendar.dayNumber 1970 0 1 + (dt.mjd.toNat - 40587) ∧
      tm.hour = dt.hour.toNat ∧ tm.min = dt.minute.toNat ∧ tm.sec = dt.second.toNat := by
  obtain ⟨y, m, decoded, hands⟩ := hands_marchFields dt from1900
  exact ⟨marchFields dt y m, hands, decoded.isDate, decoded.dayNumber, rfl, rfl, rfl⟩

theorem Hands.time_eq {dt : TfDatetime} {tm : Tm} (hands : Hands dt tm) {mktime : Tm → Int}
    {offset : Int} (zone : FixedZone mktime offset) :
    tfdtToTime mktime dt = tm.instant - offset := by
  rw [hands, zone]

/-- Device dates from 1 March 1900 on are decoded to the right instant, one day
after the other. -/
theorem tfdtToTime_instant {mktime : Tm → Int} {offset : Int} (zone : FixedZone mktime offset) :
    (∀ dt : TfDatetime, 15079 ≤ dt.mjd.toNat →
      (∃ tm, Hands dt tm ∧ tm.IsDate) ∧
        tfdtToTime mktime dt =
          86400 * ((dt.mjd.toNat : Int) - 40587) + 3600 * dt.hour.toNat + 60 * dt.minute.toNat +
            dt.second.toNat - offset) ∧
      ∀ (dt : TfDatetime) (later : UInt16), 15079 ≤ dt.mjd.toNat → dt.mjd < later →
        tfdtToTime mktime dt < tfdtToTime mktime { dt with mjd := later } := by
  have instant : ∀ dt : TfDatetime, 15079 ≤ dt.mjd.toNat →
      (∃ tm, Hands dt tm ∧ tm.IsDate) ∧
        tfdtToTime mktime dt =
          86400 * ((dt.mjd.toNat : Int) - 40587) + 3600 * dt.hour.toNat + 60 * dt.minute.toNat +
            dt.second.toNat - offset := by
    intro dt from1900
    obtain ⟨tm, hands, date, day, hour, min, sec⟩ := exists_hands dt from1900
    refine ⟨⟨tm, hands, date⟩, ?_⟩
    rw [hands.time_eq zone, Tm.instant, day, hour, min, sec]
    omega
  refine ⟨instant, ?_⟩
  intro dt later from1900 less
  rw [UInt16.lt_iff_toNat_lt] at less
  rw [(instant dt from1900).2, (instant { dt with mjd := later } (by simp only; omega)).2]
  simp only
  omega

theorem tfdtToTime_instant_firstDay :
    ((∃ tm, Hands ⟨15079, 255, 255, 255⟩ tm ∧ tm.IsDate) ∧
      tfdtToTime (fun tm => tm.instant - 3600) ⟨15079, 255, 255, 255⟩ =
        86400 * (15079 - 40587) + 3600 * 255 + 60 * 255 + 255 - 3600) ∧
      tfdtToTime (fun tm => tm.instant - 3600) ⟨15079, 255, 255, 255⟩ <
        tfdtToTime (fun tm => tm.instant - 3600) ⟨15080, 255, 255, 255⟩ := by
  have zone : FixedZone (fun tm => tm.instant - 3600) 3600 := fun _ => rfl
  constructor
  · exact (tfdtToTime_instant zone).1 ⟨15079, 255, 255, 255⟩ (by decide)
  · exact (tfdtToTime_instant zone).2 ⟨15079, 255, 255, 255⟩ 15080 (by decide) (by decide)

end Puppy.Time
