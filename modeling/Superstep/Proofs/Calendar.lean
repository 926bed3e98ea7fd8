import Mathlib
import Superstep.Wire.Timestamp

/-!
# The civil calendar

Day numbers and dates of the proleptic Gregorian calendar. Every day number is a date its month
has, and counting the days of that date gives the day number back (`civilFromDays_spec`).

The calendar's arithmetic divides the day of a 400-year era by the lengths of a century, a
four-year cycle and a year. Splitting that day into those parts (`EraParts`) fixes the value of
each division, and what is left is linear.
-/

namespace Superstep.Timestamp

theorem isLeapYear_iff (y : Int) :
    isLeapYear y = true ↔ y % 4 = 0 ∧ (y % 100 ≠ 0 ∨ y % 400 = 0) := by
  simp [isLeapYear]

/-- A date its month has. -/
structure IsDate (y : Int) (m d : Nat) : Prop where
  month_ge : 1 ≤ m
  month_le : m ≤ 12
  day_ge : 1 ≤ d
  day_le : d ≤ daysInMonth y m

/-! ## Days of an era -/

/-- A day of a 400-year era, split into its century `C`, its four-year cycle `Q`, its year `R` in
the cycle and its day `doy` in a year that starts in March. Day 365 ends a long year: the last of
a cycle, and the last cycle of a century only in the last century. -/
structure EraParts (C Q R doy : Int) : Prop where
  century : 0 ≤ C ∧ C ≤ 3
  cycle : 0 ≤ Q ∧ Q ≤ 24
  year : 0 ≤ R ∧ R ≤ 3
  day : 0 ≤ doy ∧ doy ≤ 365
  long : doy = 365 → R = 3 ∧ (Q < 24 ∨ C = 3)

/-- Every day of an era splits into its parts. -/
theorem exists_eraParts (doe : Int) (h0 : 0 ≤ doe) (h1 : doe ≤ 146096) :
    ∃ C Q R doy : Int, EraParts C Q R doy ∧ doe = 36524 * C + 1461 * Q + 365 * R + doy := by
  refine ⟨min (doe / 36524) 3, (doe - 36524 * min (doe / 36524) 3) / 1461,
    min ((doe - 36524 * min (doe / 36524) 3) % 1461 / 365) 3,
    (doe - 36524 * min (doe / 36524) 3) % 1461 -
      365 * min ((doe - 36524 * min (doe / 36524) 3) % 1461 / 365) 3, ⟨?_, ?_, ?_, ?_, ?_⟩, ?_⟩ <;>
  omega

/-- The calendar finds the year of the era from the day of the era. -/
theorem EraParts.yearOfEra {C Q R doy : Int} (h : EraParts C Q R doy) :
    (36524 * C + 1461 * Q + 365 * R + doy - (36524 * C + 1461 * Q + 365 * R + doy) / 1460 +
      (36524 * C + 1461 * Q + 365 * R + doy) / 36524 -
      (36524 * C + 1461 * Q + 365 * R + doy) / 146096) / 365 = 100 * C + 4 * Q + R := by
  obtain ⟨hC, hQ, hR, hd, hlong⟩ := h
  by_cases hlast : 36524 * C + 1461 * Q + 365 * R + doy = 146096
  · have h1 : (36524 * C + 1461 * Q + 365 * R + doy) / 146096 = 1 := by omega
    have h2 : (36524 * C + 1461 * Q + 365 * R + doy) / 36524 = 4 := by omega
    have h3 : (36524 * C + 1461 * Q + 365 * R + doy) / 1460 = 100 := by omega
    omega
  · have h1 : (36524 * C + 1461 * Q + 365 * R + doy) / 146096 = 0 := by omega
    have h2 : (36524 * C + 1461 * Q + 365 * R + doy) / 36524 = C := by omega
    by_cases hX : 1460 ≤ 24 * C + Q + 365 * R + doy
    · have h3 : (36524 * C + 1461 * Q + 365 * R + doy) / 1460 = 25 * C + Q + 1 := by omega
      omega
    · have h3 : (36524 * C + 1461 * Q + 365 * R + doy) / 1460 = 25 * C + Q := by omega
      omega

/-! ## Dates of a year counted from March -/

/-- The civil date of day `doy` of the year `Y` counted from March 1st: the calendar's month
`mp` months after March, its day, and the civil year, one later for January and February. -/
def marchDate (Y doy : Int) : Int × Nat × Nat :=
  let mp := (5 * doy + 2) / 153
  let m := if mp < 10 then mp + 3 else mp - 9
  (if m ≤ 2 then Y + 1 else Y, m.toNat, (doy - (153 * mp + 2) / 5 + 1).toNat)

/-- Every day of a year counted from March is a date its month has, when the 366th day falls
in a leap year. -/
theorem marchDate_isDate {Y doy : Int} (hd : 0 ≤ doy ∧ doy ≤ 365)
    (hleap : doy = 365 → isLeapYear (Y + 1) = true) :
    IsDate (marchDate Y doy).1 (marchDate Y doy).2.1 (marchDate Y doy).2.2 := by
  have hmp : 0 ≤ (5 * doy + 2) / 153 ∧ (5 * doy + 2) / 153 ≤ 11 := by omega
  have hmp' : 153 * ((5 * doy + 2) / 153) ≤ 5 * doy + 2 ∧
      5 * doy + 2 < 153 * ((5 * doy + 2) / 153) + 153 := by omega
  simp only [marchDate]
  generalize (5 * doy + 2) / 153 = mp at hmp hmp' ⊢
  obtain ⟨hmp0, hmp11⟩ := hmp
  rcases lt_or_ge mp 10 with h10 | h10
  · -- March to December
    simp only [h10, if_true, show ¬ (mp + 3 ≤ 2) by omega, if_false]
    refine ⟨by omega, by omega, by omega, ?_⟩
    interval_cases mp <;> simp [daysInMonth] <;> omega
  · -- January and February
    simp only [show ¬ (mp < 10) by omega, if_false, show mp - 9 ≤ 2 by omega, if_true]
    refine ⟨by omega, by omega, by omega, ?_⟩
    obtain rfl | rfl : mp = 10 ∨ mp = 11 := by omega
    · simp [daysInMonth]
      omega
    · have hfeb : ((11 : Int) - 9).toNat = 2 := rfl
      simp only [hfeb, daysInMonth, if_true]
      by_cases h365 : doy = 365
      · rw [if_pos (hleap h365)]
        omega
      · split_ifs <;> omega

/-- Counting the days of the date of day `doy` of the year `yoe` of an era gives the day of the
era back. -/
theorem daysFromCivil_marchDate {era yoe doy : Int} (hyoe : 0 ≤ yoe ∧ yoe ≤ 399)
    (hd : 0 ≤ doy ∧ doy ≤ 365) :
    daysFromCivil (marchDate (yoe + era * 400) doy).1 (marchDate (yoe + era * 400) doy).2.1
        (marchDate (yoe + era * 400) doy).2.2 =
      era * 146097 + (365 * yoe + yoe / 4 - yoe / 100 + doy) - 719468 := by
  have hmp : 0 ≤ (5 * doy + 2) / 153 ∧ (5 * doy + 2) / 153 ≤ 11 := by omega
  have hmp' : 153 * ((5 * doy + 2) / 153) ≤ 5 * doy + 2 := by omega
  have hyear : (yoe + era * 400) / 400 = era := by omega
  simp only [marchDate]
  generalize (5 * doy + 2) / 153 = mp at hmp hmp' ⊢
  have hd' : ((doy - (153 * mp + 2) / 5 + 1).toNat : Int) = doy - (153 * mp + 2) / 5 + 1 :=
    Int.toNat_of_nonneg (by omega)
  rcases lt_or_ge mp 10 with h10 | h10
  · have hm' : ((mp + 3).toNat : Int) = mp + 3 := Int.toNat_of_nonneg (by omega)
    simp only [daysFromCivil, h10, if_true, show ¬ (mp + 3 ≤ 2) by omega, if_false,
      show ¬ ((mp + 3).toNat ≤ 2) by omega, show 2 < (mp + 3).toNat by omega, hm', hd',
      add_sub_cancel_right, hyear]
    omega
  · have hm' : ((mp - 9).toNat : Int) = mp - 9 := Int.toNat_of_nonneg (by omega)
    simp only [daysFromCivil, show ¬ (mp < 10) by omega, if_false, show mp - 9 ≤ 2 by omega,
      if_true, show (mp - 9).toNat ≤ 2 by omega, show ¬ (2 < (mp - 9).toNat) by omega, hm', hd',
      add_sub_cancel_right, hyear]
    omega

/-! ## Days of an era, dated -/

/-- The calendar's divisions of a day of an era find its year of the era and its day of the
year counted from March. -/
theorem EraParts.civilFromDays_eq {C Q R doy : Int} (h : EraParts C Q R doy) (era : Int) :
    civilFromDays (era * 146097 + (36524 * C + 1461 * Q + 365 * R + doy) - 719468) =
      marchDate (100 * C + 4 * Q + R + era * 400) doy := by
  have hyoe := h.yearOfEra
  obtain ⟨hC, hQ, hR, hd, -⟩ := h
  have hz : era * 146097 + (36524 * C + 1461 * Q + 365 * R + doy) - 719468 + 719468 =
      era * 146097 + (36524 * C + 1461 * Q + 365 * R + doy) := by ring
  have hera : (era * 146097 + (36524 * C + 1461 * Q + 365 * R + doy)) / 146097 = era := by
    clear hyoe
    omega
  have h4 : (100 * C + 4 * Q + R) / 4 = 25 * C + Q := by
    clear hyoe
    omega
  have h100 : (100 * C + 4 * Q + R) / 100 = C := by
    clear hyoe
    omega
  have hdoy : 36524 * C + 1461 * Q + 365 * R + doy -
      (365 * (100 * C + 4 * Q + R) + (25 * C + Q) - C) = doy := by ring
  simp only [civilFromDays, marchDate, hz, hera, add_sub_cancel_left, hyoe, h4, h100, hdoy]

/-- The date the calendar gives for a day of an era is one its month has, and it counts back to
the day. -/
theorem EraParts.civil {z C Q R doy : Int} (h : EraParts C Q R doy) (era : Int)
    (hz : z = era * 146097 + (36524 * C + 1461 * Q + 365 * R + doy) - 719468) :
    IsDate (civilFromDays z).1 (civilFromDays z).2.1 (civilFromDays z).2.2 ∧
      daysFromCivil (civilFromDays z).1 (civilFromDays z).2.1 (civilFromDays z).2.2 = z := by
  rw [hz, h.civilFromDays_eq era]
  obtain ⟨hC, hQ, hR, hd, hlong⟩ := h
  constructor
  · refine marchDate_isDate hd fun h365 => ?_
    obtain ⟨rfl, hQC⟩ := hlong h365
    rw [isLeapYear_iff]
    omega
  · rw [daysFromCivil_marchDate (by omega) hd]
    omega

/-! ## Day numbers -/

/-- Every day number is a date, and counting the days of that date gives it back. -/
theorem civilFromDays_spec (z : Int) :
    IsDate (civilFromDays z).1 (civilFromDays z).2.1 (civilFromDays z).2.2 ∧
      daysFromCivil (civilFromDays z).1 (civilFromDays z).2.1 (civilFromDays z).2.2 = z := by
  obtain ⟨C, Q, R, doy, hparts, hdoe⟩ :=
    exists_eraParts (z + 719468 - (z + 719468) / 146097 * 146097) (by omega) (by omega)
  exact hparts.civil ((z + 719468) / 146097) (by omega)

end Superstep.Timestamp
