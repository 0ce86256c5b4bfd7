import NewFramework.Base.Date

/-!
# Julian day numbers and dates

`getJulianDayNumber` and `getYearMonthDay` of `muduo/base/Date.cc` invert each other as long as the
arithmetic of `int` is enough for both, and one day number more is one day later in the calendar.
-/

namespace NewFramework.Base
open NewFramework.Lib

section

open SignedInt

/-- `getJulianDayNumber` has no other result than the day number. -/
theorem getJulianDayNumber_exact {date : GregorianDate} {n : Int}
    (nonneg : 0 ≤ date.dayNumber + julianDayOfYear0)
    (value : getJulianDayNumber date.year date.month date.day = some n) :
    n = date.dayNumber + julianDayOfYear0 := by
  have month_pos := date.month_pos
  have month_le := date.month_le
  have start := date.dayOfYear_lt
  have year_ge : -4799 ≤ date.year := by
    have year_le : Gregorian.daysInYear date.year ≤ 366 := by
      unfold Gregorian.daysInYear
      split <;> decide
    unfold GregorianDate.dayNumber Gregorian.daysBefore julianDayOfYear0 at nonneg
    omega
  unfold getJulianDayNumber at value
  obtain ⟨a, first, value⟩ := Option.bind_eq_some_iff.mp value
  obtain ⟨y, second, value⟩ := Option.bind_eq_some_iff.mp value
  obtain ⟨m, third, value⟩ := Option.bind_eq_some_iff.mp value
  have a_eq := exact_div (exact_sub (exact_literal 14) (exact_ofInt date.month)) (exact_literal 12)
    (by omega) (by decide) a first
  have y_eq := exact_sub (exact_add (exact_ofInt date.year) (exact_literal 4800)) (exact_ofInt a)
    y second
  have m_eq := exact_sub (exact_add (exact_ofInt date.month)
    (exact_mul (exact_literal 12) (exact_ofInt a))) (exact_literal 3) m third
  have y_nonneg : 0 ≤ y := by omega
  have m_nonneg : 0 ≤ m := by omega
  have months := exact_div (exact_add (exact_mul (exact_literal 153) (exact_ofInt m))
    (exact_literal 2)) (exact_literal 5) (by omega) (by decide)
  have leaps := exact_div (exact_ofInt y) (exact_literal 4) y_nonneg (by decide)
  have centuries := exact_div (exact_ofInt y) (exact_literal 100) y_nonneg (by decide)
  have fourth := exact_div (exact_ofInt y) (exact_literal 400) y_nonneg (by decide)
  have total := exact_sub (exact_add (exact_sub (exact_add (exact_add
    (exact_add (exact_ofInt date.day) months) (exact_mul (exact_ofInt y) (exact_literal 365)))
    leaps) centuries) fourth) (exact_literal 32045) n value
  rw [← julianDayOf_date, total]
  unfold julianDayOf
  rw [y_eq, m_eq, a_eq]
  rfl

end

/-- To the day number and back: exactly the dates whose day number fits come back. -/
theorem getYearMonthDay_getJulianDayNumber_iff {date : GregorianDate}
    (nonneg : 0 ≤ date.dayNumber + julianDayOfYear0) :
    (getJulianDayNumber date.year date.month date.day).bind getYearMonthDay =
      some ⟨date.year, date.month, date.day⟩ ↔ FitsInt (date.dayNumber + julianDayOfYear0) := by
  constructor
  · intro back
    obtain ⟨n, number, found⟩ := Option.bind_eq_some_iff.mp back
    obtain rfl := getJulianDayNumber_exact nonneg number
    by_contra large
    rw [getYearMonthDay_eq_none nonneg large] at found
    contradiction
  · intro fits
    obtain ⟨year_ge, year_le⟩ := year_of_fitsInt fits
    obtain ⟨same, number, found⟩ := getYearMonthDay_date fits
    obtain rfl : same = date := GregorianDate.dayNumber_injective (by omega)
    rw [getJulianDayNumber_date year_ge year_le, Option.bind_some, found]

/-- The day numbers that fit are those for which `getYearMonthDay` does not overflow. -/
theorem getYearMonthDay_isSome_iff {n : Int} (nonneg : 0 ≤ n) :
    (getYearMonthDay n).isSome ↔ FitsInt n := by
  constructor
  · intro found
    by_contra large
    rw [getYearMonthDay_eq_none nonneg large] at found
    contradiction
  · intro fits
    obtain ⟨date, -, found⟩ := getYearMonthDay_date fits
    rw [found]
    rfl

/-- To the date and back. -/
theorem getJulianDayNumber_getYearMonthDay {n : Int} (fits : FitsInt n) :
    ((getYearMonthDay n).bind fun ymd => getJulianDayNumber ymd.year ymd.month ymd.day) =
      some n := by
  obtain ⟨date, number, found⟩ := getYearMonthDay_date fits
  obtain ⟨year_ge, year_le⟩ := year_of_fitsInt (number.symm ▸ fits)
  rw [found, Option.bind_some]
  exact (getJulianDayNumber_date year_ge year_le).trans (congrArg some number)

/-- One more is one day later. -/
theorem getYearMonthDay_succ {n : Int} (fits : FitsInt n) (fits' : FitsInt (n + 1)) :
    ∃ date : GregorianDate, getYearMonthDay n = some ⟨date.year, date.month, date.day⟩ ∧
      getYearMonthDay (n + 1) = some ⟨date.next.year, date.next.month, date.next.day⟩ := by
  obtain ⟨date, number, found⟩ := getYearMonthDay_date fits
  obtain ⟨after, number', found'⟩ := getYearMonthDay_date fits'
  obtain rfl : after = date.next := by
    apply GregorianDate.dayNumber_injective
    rw [GregorianDate.dayNumber_next]
    omega
  exact ⟨date, found, found'⟩

/-- Julian day numbers and the dates of the calendar correspond, and their orders do, for all
numbers from 0 to the largest that `getYearMonthDay` takes without overflow, and for no other. -/
theorem julianDays_correspond :
    (∀ date : GregorianDate, 0 ≤ date.dayNumber + julianDayOfYear0 →
      ((getJulianDayNumber date.year date.month date.day).bind getYearMonthDay =
        some ⟨date.year, date.month, date.day⟩ ↔ FitsInt (date.dayNumber + julianDayOfYear0))) ∧
    (∀ n, 0 ≤ n → ((getYearMonthDay n).isSome ↔ FitsInt n)) ∧
    (∀ n, FitsInt n → ((getYearMonthDay n).bind fun ymd =>
      getJulianDayNumber ymd.year ymd.month ymd.day) = some n) ∧
    ∀ n, FitsInt n → FitsInt (n + 1) →
      ∃ date : GregorianDate, getYearMonthDay n = some ⟨date.year, date.month, date.day⟩ ∧
        getYearMonthDay (n + 1) = some ⟨date.next.year, date.next.month, date.next.day⟩ := by
  refine ⟨?_, ?_, ?_, ?_⟩
  · intro date nonneg
    exact getYearMonthDay_getJulianDayNumber_iff nonneg
  · intro n nonneg
    exact getYearMonthDay_isSome_iff nonneg
  · intro n fits
    exact getJulianDayNumber_getYearMonthDay fits
  · intro n fits fits'
    exact getYearMonthDay_succ fits fits'

/-- A leap day, and the day number before the last one. -/
theorem julianDays_correspond_leap :
    (getJulianDayNumber 2000 2 29).bind getYearMonthDay = some ⟨2000, 2, 29⟩ ∧
    ((getYearMonthDay 536838866).isSome ↔ FitsInt 536838866) ∧
    ((getYearMonthDay 536838866).bind fun ymd =>
      getJulianDayNumber ymd.year ymd.month ymd.day) = some 536838866 ∧
    ∃ date : GregorianDate, getYearMonthDay 536838866 = some ⟨date.year, date.month, date.day⟩ ∧
      getYearMonthDay (536838866 + 1) =
        some ⟨date.next.year, date.next.month, date.next.day⟩ := by
  obtain ⟨back, fits_iff, forth, later⟩ := julianDays_correspond
  refine ⟨?_, fits_iff _ (by decide), forth _ (by decide), later _ (by decide) (by decide)⟩
  exact (back ⟨2000, 2, 29, by decide, by decide, by decide, by decide⟩ (by decide)).mpr (by decide)

/-- The first day of the year 1500000 has a day number, which `getYearMonthDay` cannot take. -/
theorem not_all_dates_back :
    ¬ ∀ date : GregorianDate, 0 ≤ date.dayNumber + julianDayOfYear0 →
      (getJulianDayNumber date.year date.month date.day).bind getYearMonthDay =
        some ⟨date.year, date.month, date.day⟩ := by
  intro all
  have back := all ⟨1500000, 1, 1, by decide, by decide, by decide, by decide⟩ (by decide)
  have overflows : (getJulianDayNumber 1500000 1 1).bind getYearMonthDay = none := by decide
  exact absurd (back.symm.trans overflows) (by decide)

end NewFramework.Base
