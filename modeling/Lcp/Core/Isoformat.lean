/-
# Core.Isoformat -- a timestamp is read back from its text

`isoformat()` of a whole second has nineteen characters, two digits for every field below
the year, so a reader that takes the fields by position recovers the timestamp.
-/
import Lcp.Core.Calendar

namespace Lcp.DateTime

set_option autoImplicit false

/-- The number that decimal digits spell. -/
def ofDigits (digits : List Char) : Nat := Nat.ofDigitChars 10 digits 0

/-- The timestamp of these fields. -/
def combine (year month d hour minute second : Nat) : DateTime :=
  ((daysBefore year month d * microsPerDay + hour * microsPerHour + minute * microsPerMinute +
    second * 1000000 : Nat) : Int)

/-- The timestamp of a text `YYYY-MM-DDTHH:MM:SS`, taken field by field. -/
def readIsoformat : List Char → Option DateTime
  | [y0, y1, y2, y3, c0, m0, m1, c1, d0, d1, c2, h0, h1, c3, i0, i1, c4, s0, s1] =>
      if [c0, c1, c2, c3, c4] = ['-', '-', 'T', ':', ':'] then
        some (combine (ofDigits [y0, y1, y2, y3]) (ofDigits [m0, m1]) (ofDigits [d0, d1])
          (ofDigits [h0, h1]) (ofDigits [i0, i1]) (ofDigits [s0, s1]))
      else none
  | _ => none

theorem micros_of_whole {moment : Int} (whole : moment % 1000000 = 0) :
    moment.toNat % 1000000 = 0 := by
  omega

/-- The fields of a whole second make it up again. -/
theorem combine_fields {moment : Int} (nonneg : 0 ≤ moment) (whole : moment % 1000000 = 0) :
    combine (ord2ymd (day moment)).1 (ord2ymd (day moment)).2.1 (ord2ymd (day moment)).2.2
      (hour moment) (moment.toNat % microsPerHour / microsPerMinute)
      (moment.toNat % microsPerMinute / 1000000) = moment := by
  rw [combine, (daysBefore_ord2ymd (day moment)).1]
  unfold day hour microsPerDay microsPerHour microsPerMinute
  show ((_ : Nat) : Int) = moment
  omega

theorem ofDigits_zfill (width n : Nat) : ofDigits (zfill width n).toList = n := by
  rw [ofDigits, toList_zfill, Nat.ofDigitChars_append, Nat.ofDigitChars_replicate_zero,
    Nat.mul_zero]
  exact Nat.ofDigitChars_toDigits (by omega) (by omega)

/-- Two digits, and the number that they spell. -/
theorem zfill_two {n : Nat} (fits : n < 100) :
    ∃ a b, (zfill 2 n).toList = [a, b] ∧ ofDigits [a, b] = n := by
  have two := @length_zfill 2 n (by omega) (by omega)
  match chars : (zfill 2 n).toList, two with
  | [a, b], _ => exact ⟨a, b, rfl, by rw [← chars, ofDigits_zfill]⟩

theorem zfill_four {n : Nat} (fits : n < 10000) :
    ∃ a b c d, (zfill 4 n).toList = [a, b, c, d] ∧ ofDigits [a, b, c, d] = n := by
  have four := @length_zfill 4 n (by omega) (by omega)
  match chars : (zfill 4 n).toList, four with
  | [a, b, c, d], _ => exact ⟨a, b, c, d, rfl, by rw [← chars, ofDigits_zfill]⟩

/-- **The text of a whole second is read back.** -/
theorem readIsoformat_isoformat {t : DateTime} (valid : t.inRange = true)
    (whole : t % 1000000 = 0) : readIsoformat (isoformat t).toList = some t := by
  obtain ⟨-, month, d⟩ := daysBefore_ord2ymd t.day
  have nonneg := (of_decide_eq_true valid).1
  have micros := micros_of_whole whole
  have minuteLt : t.toNat % microsPerHour / microsPerMinute < 100 := by
    unfold microsPerHour microsPerMinute
    omega
  have secondLt : t.toNat % microsPerMinute / 1000000 < 100 := by
    unfold microsPerMinute
    omega
  obtain ⟨y0, y1, y2, y3, year, years⟩ := zfill_four (year_lt valid)
  obtain ⟨m0, m1, month_, months⟩ := zfill_two (Nat.lt_of_le_of_lt month (by decide))
  obtain ⟨d0, d1, day_, dates⟩ := zfill_two (Nat.lt_of_le_of_lt d (by decide))
  obtain ⟨h0, h1, hour_, hours⟩ := zfill_two (Nat.lt_trans (hour_lt t) (by decide))
  obtain ⟨i0, i1, minute, minutes⟩ := zfill_two minuteLt
  obtain ⟨s0, s1, second, seconds⟩ := zfill_two secondLt
  have text : (isoformat t).toList =
      [y0, y1, y2, y3, '-', m0, m1, '-', d0, d1, 'T', h0, h1, ':', i0, i1, ':', s0, s1] := by
    simp only [isoformat, micros, if_true, String.toList_append, year, month_, day_, hour_, minute,
      second]
    rfl
  rw [text]
  simp only [readIsoformat, if_true, years, months, dates, hours, minutes, seconds]
  rw [combine_fields nonneg whole]

end Lcp.DateTime
