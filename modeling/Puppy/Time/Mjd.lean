import Puppy.Wire.TfBytes

/-!
# MJD timestamps

The conversions of `mjd.c` between the device's `struct tf_datetime` and a
calendar time.  The double-precision expressions are read as exact rationals
truncated toward zero: `365.25` is `1461/4`, `30.6001` is `306001/10000`,
`15078.2` is `150782/10` and `14956.1` is `149561/10`.  The C library functions
`localtime` and `mktime` are parameters.
-/

namespace Puppy.Time

open Puppy.Wire

/-- The fields of `struct tm` the conversions use.  The others are the constants
`tm_wday = 0`, `tm_yday = 0` and `tm_isdst = -1` in every call of `mktime`. -/
structure Tm where
  sec : Int
  min : Int
  hour : Int
  mday : Int
  mon : Int
  year : Int
  deriving DecidableEq, Repr

/-- `struct tf_datetime` -/
structure TfDatetime where
  mjd : UInt16
  hour : UInt8
  minute : UInt8
  second : UInt8
  deriving DecidableEq, Repr

/-- The `tf_datetime` stored at an address. -/
def getTfDatetime (memory : Memory UInt8) (addr : Nat) : TfDatetime where
  mjd := getU16 memory addr
  hour := memory (addr + 2)
  minute := memory (addr + 3)
  second := memory (addr + 4)

/-- Write a `tf_datetime` to an address. -/
def putTfDatetime (memory : Memory UInt8) (addr : Nat) (dt : TfDatetime) : Memory UInt8 :=
  Memory.store (putU16 memory addr dt.mjd) (addr + 2) [dt.hour, dt.minute, dt.second]

/-- `tfdt_to_time` -/
def tfdtToTime (mktime : Tm → Int) (dt : TfDatetime) : Int :=
  let mjd : Int := dt.mjd.toNat
  let y := ((mjd * 10 - 150782) * 4).tdiv (10 * 1461)
  let days := (y * 1461).tdiv 4
  let m := (((mjd - days) * 10 - 149561) * 1000).tdiv 306001
  let d := mjd - 14956 - days - (m * 306001).tdiv 10000
  let k := if m = 14 ∨ m = 15 then 1 else 0
  let y := y + k
  let m := m - 1 - k * 12
  mktime
    { sec := dt.second.toNat
      min := dt.minute.toNat
      hour := dt.hour.toNat
      mday := d
      mon := m - 1
      year := y }

/-- `time_to_tfdt` -/
def timeToTfdt (localtime : Int → Tm) (t : Int) : TfDatetime :=
  let tm := localtime t
  let y := tm.year
  let m := tm.mon + 1
  let d := tm.mday
  let k := if m = 1 ∨ m = 2 then 1 else 0
  let mjd := 14956 + d + ((y - k) * 1461).tdiv 4 + ((m + 1 + k * 12) * 306001).tdiv 10000
  { mjd := UInt16.ofInt mjd
    hour := UInt8.ofInt tm.hour
    minute := UInt8.ofInt tm.min
    second := UInt8.ofInt tm.sec }

end Puppy.Time
