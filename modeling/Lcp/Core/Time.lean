/-
# Core.Time -- timezone-naive UTC timestamps

A `DATETIME` column is a count of microseconds since 0001-01-01T00:00:00, which
is what `datetime` arithmetic computes with.  The planner's bucket strings need
the calendar, so `ord2ymd` is the proleptic Gregorian conversion of the standard
library, clause by clause.
-/
import Mathlib.Data.Nat.Notation

namespace Lcp

set_option autoImplicit false

/-- Microseconds since 0001-01-01T00:00:00. -/
abbrev DateTime := Int

/-- A difference of timestamps, in microseconds. -/
abbrev TimeDelta := Int

namespace DateTime

def microsPerMinute : Nat := 60000000
def microsPerHour : Nat := 3600000000
def microsPerDay : Nat := 86400000000

/-- Days since 0001-01-01. -/
def day (t : DateTime) : Nat := t.toNat / microsPerDay

/-- Hour of the day. -/
def hour (t : DateTime) : Nat := t.toNat % microsPerDay / microsPerHour

def daysInMonth : List Nat := [0, 31, 28, 31, 30, 31, 30, 31, 31, 30, 31, 30, 31]

def daysBeforeMonth : List Nat := [0, 0, 31, 59, 90, 120, 151, 181, 212, 243, 273, 304, 334]

/-- Year, month and day of a day count, as `datetime._ord2ymd` computes them
from the 1-based ordinal. -/
def ord2ymd (n : Nat) : Nat × Nat × Nat :=
  let n400 := n / 146097
  let n := n % 146097
  let n100 := n / 36524
  let n := n % 36524
  let n4 := n / 1461
  let n := n % 1461
  let n1 := n / 365
  let n := n % 365
  let year := n400 * 400 + 1 + n100 * 100 + n4 * 4 + n1
  if n1 = 4 ∨ n100 = 4 then (year - 1, 12, 31)
  else
    let leapyear := n1 = 3 ∧ (n4 ≠ 24 ∨ n100 = 3)
    let month := (n + 50) / 32
    let preceding := daysBeforeMonth.getD month 0 + if month > 2 ∧ leapyear then 1 else 0
    if preceding > n then
      let month := month - 1
      let preceding :=
        preceding - (daysInMonth.getD month 0 + if month = 2 ∧ leapyear then 1 else 0)
      (year, month, n - preceding + 1)
    else (year, month, n - preceding + 1)

/-- Decimal digits, padded on the left with zeros to `width`. -/
def zfill (width n : Nat) : String :=
  let digits := toString n
  String.ofList (List.replicate (width - digits.length) '0') ++ digits

/-- The `%Y%m%d` rendering. -/
def strftimeYmd (t : DateTime) : String :=
  let (year, month, d) := ord2ymd t.day
  zfill 4 year ++ zfill 2 month ++ zfill 2 d

/-- The `%Y%m%d%H` rendering. -/
def strftimeYmdH (t : DateTime) : String := strftimeYmd t ++ zfill 2 t.hour

/-- `replace(microsecond=0)`. -/
def dropMicroseconds (t : DateTime) : DateTime := t - t % 1000000

/-- The rendering of `isoformat()`; the fraction is left out when it is zero. -/
def isoformat (t : DateTime) : String :=
  let (year, month, d) := ord2ymd t.day
  let minute := t.toNat % microsPerHour / microsPerMinute
  let second := t.toNat % microsPerMinute / 1000000
  let micros := t.toNat % 1000000
  zfill 4 year ++ "-" ++ zfill 2 month ++ "-" ++ zfill 2 d ++ "T" ++ zfill 2 t.hour ++ ":" ++
    zfill 2 minute ++ ":" ++ zfill 2 second ++ if micros = 0 then "" else "." ++ zfill 6 micros

/-- 2026-01-01T00:00:00, when the runs of the examples begin. -/
def start2026 : DateTime := 63902822400000000

/-- The timestamps of the years 1 to 9999, which is what a `datetime` can be. -/
def inRange (t : DateTime) : Bool := 0 ≤ t ∧ t < 3652059 * (microsPerDay : Int)

end DateTime

end Lcp
