/-
# Core.Calendar -- a bucket text determines its day

`strftime("%Y%m%d")` and `strftime("%Y%m%d%H")` name a day and an hour.  The
conversion of a day count into year, month and day can be undone (`day_of_ord2ymd`),
and month, day and hour have two digits each, so the texts can be undone as well.
-/
import Mathlib.Tactic.IntervalCases
import Std.Data.String.ToNat
import Lcp.Core.Time

namespace Lcp.DateTime

set_option autoImplicit false

/-! ## Digits -/

theorem toList_zfill (width n : Nat) :
    (zfill width n).toList =
      List.replicate (width - (toString n).length) '0' ++ Nat.toDigits 10 n := by
  simp [zfill, Nat.toList_repr]

theorem isDigit_of_mem_zfill {width n : Nat} {c : Char} (member : c ∈ (zfill width n).toList) :
    c.isDigit = true := by
  rw [toList_zfill, List.mem_append] at member
  rcases member with zero | digit
  · rw [List.eq_of_mem_replicate zero]
    decide
  · exact Nat.isDigit_of_mem_toDigits (by omega) (by omega) digit

theorem zfill_inj {width n m : Nat} (same : (zfill width n).toList = (zfill width m).toList) :
    n = m := by
  have value : ∀ k, Nat.ofDigitChars 10 (zfill width k).toList 0 = k := by
    intro k
    rw [toList_zfill, Nat.ofDigitChars_append, Nat.ofDigitChars_replicate_zero, Nat.mul_zero]
    exact Nat.ofDigitChars_toDigits (by omega) (by omega)
  rw [← value n, same, value m]

theorem length_zfill {width n : Nat} (wide : 0 < width) (fits : n < 10 ^ width) :
    (zfill width n).toList.length = width := by
  have short : (Nat.repr n).length ≤ width := (Nat.length_repr_le_iff wide).2 fits
  have digits : (Nat.toDigits 10 n).length = (Nat.repr n).length := by
    rw [← Nat.toList_repr, String.length_toList]
  have spelled : (toString n).length = (Nat.repr n).length := rfl
  rw [toList_zfill, List.length_append, List.length_replicate, digits, spelled]
  omega

/-! ## Days -/

/-- Whether a year has a 29th of February. -/
def isLeap (year : Nat) : Prop := year % 4 = 0 ∧ (year % 100 ≠ 0 ∨ year % 400 = 0)

instance : DecidablePred isLeap := fun _ => inferInstanceAs (Decidable (_ ∧ _))

/-- Days before a date, as `datetime._ymd2ord` counts them. -/
def daysBefore (year month d : Nat) : Nat :=
  (year - 1) * 365 + (year - 1) / 4 - (year - 1) / 100 + (year - 1) / 400 +
    (daysBeforeMonth.getD month 0 + if month > 2 ∧ isLeap year then 1 else 0) + (d - 1)

/-- Month and day of the `r`-th day of a year. -/
def monthDay (leapyear : Bool) (r : Nat) : Nat × Nat :=
  let month := (r + 50) / 32
  let preceding := daysBeforeMonth.getD month 0 + if month > 2 ∧ leapyear then 1 else 0
  if preceding > r then
    (month - 1, r - (preceding - (daysInMonth.getD (month - 1) 0 +
      if month - 1 = 2 ∧ leapyear then 1 else 0)) + 1)
  else (month, r - preceding + 1)

theorem monthDay_spec : ∀ (leapyear : Bool) (r : Nat), r < 365 →
    1 ≤ (monthDay leapyear r).1 ∧ (monthDay leapyear r).1 ≤ 12 ∧
      1 ≤ (monthDay leapyear r).2 ∧ (monthDay leapyear r).2 ≤ 31 ∧
      daysBeforeMonth.getD (monthDay leapyear r).1 0 +
        (if (monthDay leapyear r).1 > 2 ∧ leapyear then 1 else 0) +
          ((monthDay leapyear r).2 - 1) = r := by
  decide +kernel

theorem ord2ymd_eq (n : Nat) :
    ord2ymd n =
      if n % 146097 % 36524 % 1461 / 365 = 4 ∨ n % 146097 / 36524 = 4 then
        (n / 146097 * 400 + 1 + n % 146097 / 36524 * 100 + n % 146097 % 36524 / 1461 * 4 +
          n % 146097 % 36524 % 1461 / 365 - 1, 12, 31)
      else
        (n / 146097 * 400 + 1 + n % 146097 / 36524 * 100 + n % 146097 % 36524 / 1461 * 4 +
          n % 146097 % 36524 % 1461 / 365,
          monthDay (decide (n % 146097 % 36524 % 1461 / 365 = 3 ∧
            (n % 146097 % 36524 / 1461 ≠ 24 ∨ n % 146097 / 36524 = 3)))
            (n % 146097 % 36524 % 1461 % 365)) := by
  unfold ord2ymd monthDay
  simp only [decide_eq_true_eq]
  split
  · rfl
  · exact (apply_ite (Prod.mk _) _ _ _).symm

/-- The days before a date of `ord2ymd` are the days it was made of. -/
theorem daysBefore_ord2ymd (n : Nat) :
    daysBefore (ord2ymd n).1 (ord2ymd n).2.1 (ord2ymd n).2.2 = n ∧
      (ord2ymd n).2.1 ≤ 12 ∧ (ord2ymd n).2.2 ≤ 31 := by
  rw [ord2ymd_eq]
  have a := Nat.div_add_mod n 146097
  have b := Nat.div_add_mod (n % 146097) 36524
  have c := Nat.div_add_mod (n % 146097 % 36524) 1461
  have e := Nat.div_add_mod (n % 146097 % 36524 % 1461) 365
  have ha : n % 146097 < 146097 := Nat.mod_lt _ (by omega)
  have hb : n % 146097 % 36524 < 36524 := Nat.mod_lt _ (by omega)
  have hc : n % 146097 % 36524 % 1461 < 1461 := Nat.mod_lt _ (by omega)
  have he : n % 146097 % 36524 % 1461 % 365 < 365 := Nat.mod_lt _ (by omega)
  generalize n / 146097 = n400 at *
  generalize n % 146097 = m400 at *
  generalize m400 / 36524 = n100 at *
  generalize m400 % 36524 = m100 at *
  generalize m100 / 1461 = n4 at *
  generalize m100 % 1461 = m4 at *
  generalize m4 / 365 = n1 at *
  generalize m4 % 365 = r at *
  have n100_le : n100 ≤ 4 := by omega
  have n4_le : n4 ≤ 24 := by omega
  have n1_le : n1 ≤ 4 := by omega
  split
  · rename_i last
    -- The last day of a leap year.
    have leap : isLeap (n400 * 400 + 1 + n100 * 100 + n4 * 4 + n1 - 1) := by
      unfold isLeap
      omega
    refine ⟨?_, Nat.le_refl _, Nat.le_refl _⟩
    have before : daysBeforeMonth.getD 12 0 = 334 := rfl
    have december : (12 : Nat) > 2 := by omega
    simp only [daysBefore, before, leap, december, and_self, if_true]
    by_cases century : n100 = 4
    · obtain ⟨rfl, rfl, rfl⟩ : n4 = 0 ∧ n1 = 0 ∧ r = 0 := by omega
      omega
    · obtain rfl : n1 = 4 := by omega
      have fourths : (n400 * 400 + 1 + n100 * 100 + n4 * 4 + 4 - 1 - 1) / 4 =
          100 * n400 + 25 * n100 + n4 := by omega
      have hundredths : (n400 * 400 + 1 + n100 * 100 + n4 * 4 + 4 - 1 - 1) / 100 =
          4 * n400 + n100 := by omega
      have centuries : (n400 * 400 + 1 + n100 * 100 + n4 * 4 + 4 - 1 - 1) / 400 = n400 := by omega
      rw [fourths, hundredths, centuries]
      omega
  · rename_i regular
    have leap : isLeap (n400 * 400 + 1 + n100 * 100 + n4 * 4 + n1) ↔
        (n1 = 3 ∧ (n4 ≠ 24 ∨ n100 = 3)) := by
      unfold isLeap
      omega
    obtain ⟨-, month, first, d, inverse⟩ :=
      monthDay_spec (decide (n1 = 3 ∧ (n4 ≠ 24 ∨ n100 = 3))) r he
    refine ⟨?_, month, d⟩
    simp only [decide_eq_true_eq] at inverse
    simp only [daysBefore, leap]
    have fourths : (n400 * 400 + 1 + n100 * 100 + n4 * 4 + n1 - 1) / 4 =
        100 * n400 + 25 * n100 + n4 := by omega
    have hundredths : (n400 * 400 + 1 + n100 * 100 + n4 * 4 + n1 - 1) / 100 =
        4 * n400 + n100 := by omega
    have centuries : (n400 * 400 + 1 + n100 * 100 + n4 * 4 + n1 - 1) / 400 = n400 := by omega
    rw [fourths, hundredths, centuries]
    omega

/-- **A date names one day.** -/
theorem ord2ymd_inj {n m : Nat} (same : ord2ymd n = ord2ymd m) : n = m := by
  rw [← (daysBefore_ord2ymd n).1, ← (daysBefore_ord2ymd m).1, same]

/-! ## Texts -/

/-- Two texts that end in two digits. -/
theorem append_zfill_inj {s t : List Char} {n m : Nat} (narrow : n < 100) (narrow' : m < 100)
    (same : s ++ (zfill 2 n).toList = t ++ (zfill 2 m).toList) : s = t ∧ n = m := by
  have lengths : (zfill 2 n).toList.length = (zfill 2 m).toList.length := by
    rw [length_zfill (by omega) (by omega), length_zfill (by omega) (by omega)]
  obtain ⟨front, back⟩ := List.append_inj' same lengths
  exact ⟨front, zfill_inj back⟩

theorem strftimeYmd_inj {s t : DateTime} (same : strftimeYmd s = strftimeYmd t) :
    s.day = t.day := by
  obtain ⟨-, monthS, dayS⟩ := daysBefore_ord2ymd s.day
  obtain ⟨-, monthT, dayT⟩ := daysBefore_ord2ymd t.day
  have chars := congrArg String.toList same
  simp only [strftimeYmd, String.toList_append] at chars
  obtain ⟨front, days⟩ := append_zfill_inj (Nat.lt_of_le_of_lt dayS (by omega))
    (Nat.lt_of_le_of_lt dayT (by omega)) chars
  obtain ⟨years, months⟩ := append_zfill_inj (Nat.lt_of_le_of_lt monthS (by omega))
    (Nat.lt_of_le_of_lt monthT (by omega)) front
  exact ord2ymd_inj (Prod.ext (zfill_inj years) (Prod.ext months days))

theorem hour_lt (t : DateTime) : t.hour < 24 := by
  unfold hour microsPerDay microsPerHour
  omega

theorem strftimeYmdH_inj {s t : DateTime} (same : strftimeYmdH s = strftimeYmdH t) :
    s.day = t.day ∧ s.hour = t.hour := by
  have chars := congrArg String.toList same
  simp only [strftimeYmdH, String.toList_append] at chars
  have hourS := hour_lt s
  have hourT := hour_lt t
  obtain ⟨front, hours⟩ := append_zfill_inj (by omega) (by omega) chars
  exact ⟨strftimeYmd_inj (String.toList_inj.1 front), hours⟩

/-- A text of decimal digits, and at least one of them. -/
def Digits (text : String) : Prop := text.toList ≠ [] ∧ ∀ c ∈ text.toList, c.isDigit = true

theorem digits_append {s t : String} (digitsS : ∀ c ∈ s.toList, c.isDigit = true)
    (digitsT : Digits t) : Digits (s ++ t) := by
  refine ⟨?_, fun c member => ?_⟩
  · rw [String.toList_append]
    exact List.append_ne_nil_of_right_ne_nil _ digitsT.1
  · rw [String.toList_append, List.mem_append] at member
    exact member.elim (digitsS c) (digitsT.2 c)

theorem digits_zfill (width n : Nat) : Digits (zfill width n) := by
  refine ⟨?_, fun c member => isDigit_of_mem_zfill member⟩
  rw [toList_zfill]
  exact List.append_ne_nil_of_right_ne_nil _ Nat.toDigits_ne_nil

theorem digits_toString (n : Nat) : Digits (toString n) := by
  show Digits (String.ofList (Nat.toDigits 10 n))
  refine ⟨by simp [Nat.toDigits_ne_nil], fun c member => ?_⟩
  rw [String.toList_ofList] at member
  exact Nat.isDigit_of_mem_toDigits (by omega) (by omega) member

theorem digits_strftimeYmd (t : DateTime) : Digits (strftimeYmd t) := by
  have front : Digits (zfill 4 (ord2ymd t.day).1 ++ zfill 2 (ord2ymd t.day).2.1) :=
    digits_append (digits_zfill _ _).2 (digits_zfill _ _)
  exact digits_append front.2 (digits_zfill _ _)

theorem digits_strftimeYmdH (t : DateTime) : Digits (strftimeYmdH t) :=
  digits_append (digits_strftimeYmd t).2 (digits_zfill _ _)

/-! ## Lengths -/

theorem string_length_zfill {width n : Nat} (wide : 0 < width) (fits : n < 10 ^ width) :
    (zfill width n).length = width := by
  rw [← String.length_toList, length_zfill wide fits]

/-- The year of a timestamp that a `datetime` can be has four digits. -/
theorem year_lt {t : DateTime} (valid : t.inRange = true) : (ord2ymd t.day).1 < 10000 := by
  have days : t.day < 3652059 := by
    have bounds := of_decide_eq_true valid
    have micros : t.toNat < 3652059 * microsPerDay := (Int.toNat_lt bounds.1).2 bounds.2
    exact Nat.div_lt_of_lt_mul (Nat.mul_comm _ _ ▸ micros)
  have before := (daysBefore_ord2ymd t.day).1
  unfold daysBefore at before
  generalize (daysBeforeMonth.getD (ord2ymd t.day).2.1 0 +
    if (ord2ymd t.day).2.1 > 2 ∧ isLeap (ord2ymd t.day).1 then 1 else 0) = months at before
  omega

theorem length_strftimeYmd {t : DateTime} (valid : t.inRange = true) :
    (strftimeYmd t).length = 8 := by
  obtain ⟨-, month, d⟩ := daysBefore_ord2ymd t.day
  have year := @string_length_zfill 4 (ord2ymd t.day).1 (by omega) (year_lt valid)
  have months := @string_length_zfill 2 (ord2ymd t.day).2.1 (by omega) (by omega)
  have days := @string_length_zfill 2 (ord2ymd t.day).2.2 (by omega) (by omega)
  simp only [strftimeYmd, String.length_append, year, months, days]

theorem length_strftimeYmdH {t : DateTime} (valid : t.inRange = true) :
    (strftimeYmdH t).length = 10 := by
  have bound := hour_lt t
  have hours := @string_length_zfill 2 t.hour (by omega) (by omega)
  simp only [strftimeYmdH, String.length_append, length_strftimeYmd valid, hours]

/-- The length of an `isoformat()` text depends on whether the fraction is zero. -/
theorem length_isoformat {t : DateTime} (valid : t.inRange = true) :
    (isoformat t).length = if t.toNat % 1000000 = 0 then 19 else 26 := by
  obtain ⟨-, month, d⟩ := daysBefore_ord2ymd t.day
  have bound := hour_lt t
  have year := @string_length_zfill 4 (ord2ymd t.day).1 (by omega) (year_lt valid)
  have months := @string_length_zfill 2 (ord2ymd t.day).2.1 (by omega) (by omega)
  have days := @string_length_zfill 2 (ord2ymd t.day).2.2 (by omega) (by omega)
  have hours := @string_length_zfill 2 t.hour (by omega) (by omega)
  have minutes := @string_length_zfill 2 (t.toNat % microsPerHour / microsPerMinute) (by omega)
    (by unfold microsPerHour microsPerMinute; omega)
  have seconds := @string_length_zfill 2 (t.toNat % microsPerMinute / 1000000) (by omega)
    (by unfold microsPerMinute; omega)
  have micros := @string_length_zfill 6 (t.toNat % 1000000) (by omega) (by omega)
  have dash : ("-" : String).length = 1 := rfl
  have colon : (":" : String).length = 1 := rfl
  have letter : ("T" : String).length = 1 := rfl
  have point : ("." : String).length = 1 := rfl
  simp only [isoformat, String.length_append, year, months, days, hours, minutes, seconds, dash,
    colon, letter]
  split
  · rfl
  · rw [String.length_append, micros, point]

end Lcp.DateTime
