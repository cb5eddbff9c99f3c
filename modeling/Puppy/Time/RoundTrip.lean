import Puppy.Time.Instant

/-!
# Timestamps in the format of the device

In a zone without daylight saving time a time has one local date and time of
day.  `time_to_tfdt` numbers its day as `tfdt_to_time` counts the days, so from
1 March 1900 to 22 April 2038, where the 16 bits of the device end, neither
conversion loses what the other one made.
-/

namespace Puppy.Time

open Puppy.Calendar Puppy.Wire

/-! ## Zones without daylight saving time -/

namespace Tm

/-- The fields name a day of the calendar and a second of it. -/
structure Normal (tm : Tm) : Prop extends tm.IsDate where
  hour : 0 ≤ tm.hour ∧ tm.hour < 24
  min : 0 ≤ tm.min ∧ tm.min < 60
  sec : 0 ≤ tm.sec ∧ tm.sec < 60

/-- The date the fields name. -/
def IsDate.date {tm : Tm} (isDate : tm.IsDate) : Date where
  month := tm.month
  day := tm.mday
  first := isDate.first
  last := isDate.last

/-- A second has one date and time of day. -/
theorem instant_injective {first second : Tm} (normal : first.Normal) (normal' : second.Normal)
    (same : first.instant = second.instant) : first = second := by
  obtain ⟨isDate, hour, min, sec⟩ := normal
  obtain ⟨isDate', hour', min', sec'⟩ := normal'
  unfold instant at same
  have days : first.dayNumber = second.dayNumber := by omega
  have dates : isDate.date = isDate'.date := Date.number_injective days
  have months : first.month = second.month := congrArg Date.month dates
  have mdays : first.mday = second.mday := congrArg Date.day dates
  have january := isDate.january
  have december := isDate.december
  have january' := isDate'.january
  have december' := isDate'.december
  unfold month at months
  obtain ⟨s, mi, h, d, mo, y⟩ := first
  obtain ⟨s', mi', h', d', mo', y'⟩ := second
  simp only [Tm.mk.injEq] at *
  omega

end Tm

/-- `localtime` and `mktime` of a zone without daylight saving time. -/
structure InZone (localtime : Int → Tm) (mktime : Tm → Int) (offset : Int) : Prop where
  fixed : FixedZone mktime offset
  normal : ∀ t, (localtime t).Normal
  inverse : ∀ t, mktime (localtime t) = t

/-- `localtime` is the inverse of `mktime` on the fields of a date. -/
theorem InZone.localtime_mktime {localtime : Int → Tm} {mktime : Tm → Int} {offset : Int}
    (zone : InZone localtime mktime offset) {tm : Tm} (normal : tm.Normal) :
    localtime (mktime tm) = tm := by
  apply Tm.instant_injective (zone.normal _) normal
  have same := zone.inverse (mktime tm)
  have given := zone.fixed tm
  have returned := zone.fixed (localtime (mktime tm))
  omega

/-- `localtime` of a zone `offset` seconds east of Greenwich. -/
def localFields (offset t : Int) : Tm :=
  let date := Date.ofNumber (Calendar.dayNumber 1970 0 1 + (t + offset) / 86400)
  let seconds := (t + offset) % 86400
  { sec := seconds % 60
    min := seconds / 60 % 60
    hour := seconds / 3600
    mday := date.day
    mon := date.month % 12
    year := date.month / 12 - 1900 }

theorem localFields_month (offset t : Int) : (localFields offset t).month =
    (Date.ofNumber (Calendar.dayNumber 1970 0 1 + (t + offset) / 86400)).month := by
  simp only [localFields, Tm.month]
  omega

/-- Such a zone, wherever it is. -/
theorem inZone_localFields (offset : Int) :
    InZone (localFields offset) (fun tm => tm.instant - offset) offset := by
  constructor
  · exact fun _ => rfl
  · intro t
    constructor
    · constructor
      · simp only [localFields]
        omega
      · simp only [localFields]
        omega
      · exact Date.first _
      · rw [localFields_month]
        exact Date.last _
    · simp only [localFields]
      omega
    · simp only [localFields]
      omega
    · simp only [localFields]
      omega
  · intro t
    have day : (localFields offset t).dayNumber =
        Calendar.dayNumber 1970 0 1 + (t + offset) / 86400 := by
      rw [← Date.number_ofNumber (Calendar.dayNumber 1970 0 1 + (t + offset) / 86400), Date.number,
        ← localFields_month]
      rfl
    simp only [Tm.instant, day]
    simp only [localFields]
    omega

/-! ## Encoding -/

theorem toNat_ofInt_u16_int {value : Int} (lower : 0 ≤ value) (upper : value < 2 ^ 16) :
    ((UInt16.ofInt value).toNat : Int) = value := by
  rw [UInt16.ofInt, UInt16.toNat_ofNat']
  omega

theorem toNat_ofInt_u8_int {value : Int} (lower : 0 ≤ value) (upper : value < 2 ^ 8) :
    ((UInt8.ofInt value).toNat : Int) = value := by
  rw [UInt8.ofInt, UInt8.toNat_ofNat']
  omega

/-- The months from March 1900 to April 2038. -/
theorem Tm.IsDate.month_bounds {tm : Tm} (isDate : tm.IsDate)
    (from1900 : Calendar.dayNumber 1900 2 1 ≤ tm.dayNumber)
    (to2038 : tm.dayNumber ≤ Calendar.dayNumber 2038 3 22) :
    12 * 1900 + 2 ≤ tm.month ∧ tm.month ≤ 12 * 2038 + 3 := by
  have lower : daysBefore tm.month ≤ tm.dayNumber := isDate.date.daysBefore_le_number
  have upper : tm.dayNumber < daysBefore (tm.month + 1) := isDate.date.number_lt_daysBefore
  have march : Calendar.dayNumber 1900 2 1 = daysBefore (12 * 1900 + 2) := by decide
  have april : Calendar.dayNumber 2038 3 22 < daysBefore (12 * 2038 + 4) := by decide
  have notBefore : 12 * 1900 + 2 < tm.month + 1 := daysBefore_strictMono.lt_iff_lt.mp (by omega)
  have notAfter : tm.month < 12 * 2038 + 4 := daysBefore_strictMono.lt_iff_lt.mp (by omega)
  omega

theorem dayNumber_first :
    Calendar.dayNumber 1900 2 1 = Calendar.dayNumber 1970 0 1 + (15079 - 40587) := by
  decide

theorem dayNumber_last :
    Calendar.dayNumber 2038 3 22 = Calendar.dayNumber 1970 0 1 + (65535 - 40587) := by
  decide

/-- The day number `time_to_tfdt` computes. -/
theorem encodedMjd {tm : Tm} (isDate : tm.IsDate) (march : 12 * 1900 + 2 ≤ tm.month)
    (april : tm.month ≤ 12 * 2038 + 3) {k : Int}
    (shift : (if tm.mon + 1 = 1 ∨ tm.mon + 1 = 2 then 1 else 0) = k) :
    14956 + tm.mday + ((tm.year - k) * 1461).tdiv 4 +
        ((tm.mon + 1 + 1 + k * 12) * 306001).tdiv 10000 =
      tm.dayNumber - Calendar.dayNumber 1970 0 1 + 40587 := by
  have january := isDate.january
  have december := isDate.december
  unfold Tm.month at march april
  have year : 0 ≤ tm.year - k ∧ tm.year - k < 200 := by
    split_ifs at shift <;> omega
  have month : 4 ≤ tm.mon + 1 + 1 + k * 12 ∧ tm.mon + 1 + 1 + k * 12 ≤ 15 := by
    split_ifs at shift <;> omega
  have days : ((tm.year - k) * 1461).tdiv 4 = marchDays (tm.year - k) :=
    Int.tdiv_eq_ediv_of_nonneg (by omega)
  have before : ((tm.mon + 1 + 1 + k * 12) * 306001).tdiv 10000 =
      monthDays (tm.mon + 1 + 1 + k * 12) := Int.tdiv_eq_ediv_of_nonneg (by omega)
  have place : 12 * (1900 + tm.year) + tm.mon =
      12 * (1900 + (tm.year - k)) + (tm.mon + 1 + 1 + k * 12 - 2) := by omega
  have counted := daysBefore_march year.1 year.2 month.1 month.2
  have epoch : Calendar.dayNumber 1970 0 1 = 719528 := by decide
  rw [days, before, Tm.dayNumber, Calendar.dayNumber, place, counted, epoch]
  omega

/-- `time_to_tfdt` keeps the number of the day and the time of day, for days
from 1 March 1900 to 22 April 2038. -/
theorem timeToTfdt_fields {localtime : Int → Tm} {t : Int} (normal : (localtime t).Normal)
    (from1900 : Calendar.dayNumber 1900 2 1 ≤ (localtime t).dayNumber)
    (to2038 : (localtime t).dayNumber ≤ Calendar.dayNumber 2038 3 22) :
    ((timeToTfdt localtime t).mjd.toNat : Int) =
        (localtime t).dayNumber - Calendar.dayNumber 1970 0 1 + 40587 ∧
      ((timeToTfdt localtime t).hour.toNat : Int) = (localtime t).hour ∧
      ((timeToTfdt localtime t).minute.toNat : Int) = (localtime t).min ∧
      ((timeToTfdt localtime t).second.toNat : Int) = (localtime t).sec := by
  obtain ⟨march, april⟩ := normal.toIsDate.month_bounds from1900 to2038
  have hour := normal.hour
  have min := normal.min
  have sec := normal.sec
  have first := dayNumber_first
  have last := dayNumber_last
  refine ⟨?_, ?_, ?_, ?_⟩
  · simp only [timeToTfdt]
    rw [encodedMjd normal.toIsDate march april rfl]
    apply toNat_ofInt_u16_int
    · omega
    · omega
  · exact toNat_ofInt_u8_int hour.1 (by omega)
  · exact toNat_ofInt_u8_int min.1 (by omega)
  · exact toNat_ofInt_u8_int sec.1 (by omega)

/-! ## The round trips -/

theorem getTfDatetime_putTfDatetime (memory : Memory UInt8) (addr : Nat) (dt : TfDatetime) :
    getTfDatetime (putTfDatetime memory addr dt) addr = dt := by
  obtain ⟨mjd, hour, minute, second⟩ := dt
  have day : getU16 (putTfDatetime memory addr ⟨mjd, hour, minute, second⟩) addr = mjd := by
    rw [putTfDatetime, getU16_store _ (Or.inl (Nat.le_refl _)), getU16_putU16]
  simp only [getTfDatetime, day, TfDatetime.mk.injEq, true_and]
  simp [putTfDatetime, Memory.store]

/-- What `time_to_tfdt` makes of a time is decoded to that time. -/
theorem tfdtToTime_timeToTfdt {localtime : Int → Tm} {mktime : Tm → Int} {offset : Int}
    (zone : InZone localtime mktime offset) {t : Int}
    (from1900 : Calendar.dayNumber 1900 2 1 ≤ (localtime t).dayNumber)
    (to2038 : (localtime t).dayNumber ≤ Calendar.dayNumber 2038 3 22) :
    tfdtToTime mktime (timeToTfdt localtime t) = t := by
  obtain ⟨mjd, hour, minute, second⟩ := timeToTfdt_fields (zone.normal t) from1900 to2038
  have first := dayNumber_first
  obtain ⟨tm, hands, _, day, hours, minutes, seconds⟩ :=
    exists_hands (timeToTfdt localtime t) (by omega)
  have same : tm.instant = (localtime t).instant := by
    rw [Tm.instant, Tm.instant, day, hours, minutes, seconds, mjd, hour, minute, second]
    omega
  rw [hands.time_eq zone.fixed, same, ← zone.fixed, zone.inverse]

/-- What `tfdt_to_time` makes of a device date is encoded to that date. -/
theorem timeToTfdt_tfdtToTime {localtime : Int → Tm} {mktime : Tm → Int} {offset : Int}
    (zone : InZone localtime mktime offset) {dt : TfDatetime} (from1900 : 15079 ≤ dt.mjd.toNat)
    (hour : dt.hour.toNat < 24) (minute : dt.minute.toNat < 60) (second : dt.second.toNat < 60) :
    timeToTfdt localtime (tfdtToTime mktime dt) = dt := by
  obtain ⟨tm, hands, isDate, day, hours, minutes, seconds⟩ := exists_hands dt from1900
  have normal : tm.Normal := ⟨isDate, by omega, by omega, by omega⟩
  have back : localtime (tfdtToTime mktime dt) = tm := by
    rw [hands]
    exact zone.localtime_mktime normal
  have first := dayNumber_first
  have last := dayNumber_last
  have bound := dt.mjd.toNat_lt
  subst back
  obtain ⟨mjd, h, m, s⟩ := timeToTfdt_fields normal (by omega) (by omega)
  generalize timeToTfdt localtime (tfdtToTime mktime dt) = encoded at *
  cases encoded
  cases dt
  simp only [TfDatetime.mk.injEq, ← UInt16.toNat_inj, ← UInt8.toNat_inj] at *
  omega

/-- Timestamps survive the format of the device, and its bytes. -/
theorem timestamp_roundTrip {localtime : Int → Tm} {mktime : Tm → Int} {offset : Int}
    (zone : InZone localtime mktime offset) :
    (∀ t, Calendar.dayNumber 1900 2 1 ≤ (localtime t).dayNumber →
        (localtime t).dayNumber ≤ Calendar.dayNumber 2038 3 22 →
        tfdtToTime mktime (timeToTfdt localtime t) = t) ∧
      (∀ dt : TfDatetime, 15079 ≤ dt.mjd.toNat → dt.hour.toNat < 24 → dt.minute.toNat < 60 →
        dt.second.toNat < 60 → timeToTfdt localtime (tfdtToTime mktime dt) = dt) ∧
      ∀ (memory : Memory UInt8) (addr : Nat) (dt : TfDatetime),
        getTfDatetime (putTfDatetime memory addr dt) addr = dt := by
  refine ⟨?_, ?_, getTfDatetime_putTfDatetime⟩
  · intro t from1900 to2038
    exact tfdtToTime_timeToTfdt zone from1900 to2038
  · intro dt from1900 hour minute second
    exact timeToTfdt_tfdtToTime zone from1900 hour minute second

theorem timestamp_roundTrip_eastOne :
    tfdtToTime (fun tm => tm.instant - 3600) (timeToTfdt (localFields 3600) 951782399) =
        951782399 ∧
      timeToTfdt (localFields 3600)
          (tfdtToTime (fun tm => tm.instant - 3600) ⟨65535, 23, 59, 59⟩) =
        ⟨65535, 23, 59, 59⟩ := by
  constructor
  · exact (timestamp_roundTrip (inZone_localFields 3600)).1 951782399 (by decide +kernel)
      (by decide +kernel)
  · exact (timestamp_roundTrip (inZone_localFields 3600)).2.1 ⟨65535, 23, 59, 59⟩ (by decide)
      (by decide) (by decide) (by decide)

end Puppy.Time
