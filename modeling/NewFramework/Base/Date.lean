import Mathlib.Tactic.IntervalCases
import NewFramework.Lib.Gregorian
import NewFramework.Lib.SignedInt

/-!
# `muduo::Date`

A date as its Julian day number (`muduo/base/Date.cc`).  All arithmetic is that of `int`: a function
returns `none` where an operation in it overflows.
-/

namespace NewFramework.Base
open NewFramework.Lib

/-- `getJulianDayNumber(year, month, day)` -/
def getJulianDayNumber (year month day : Int) : Option Int := do
  let a ← ((14 - (month : SignedInt)) / 12).value
  let y ← ((year : SignedInt) + 4800 - (a : SignedInt)).value
  let m ← ((month : SignedInt) + 12 * (a : SignedInt) - 3).value
  ((day : SignedInt) + (153 * (m : SignedInt) + 2) / 5 + (y : SignedInt) * 365 +
    (y : SignedInt) / 4 - (y : SignedInt) / 100 + (y : SignedInt) / 400 - 32045).value

/-- `Date::YearMonthDay` -/
structure YearMonthDay where
  year : Int
  month : Int
  day : Int
  deriving DecidableEq, Repr

/-- `getYearMonthDay(julianDayNumber)` -/
def getYearMonthDay (julianDayNumber : Int) : Option YearMonthDay := do
  let a ← ((julianDayNumber : SignedInt) + 32044).value
  let b ← ((4 * (a : SignedInt) + 3) / 146097).value
  let c ← ((a : SignedInt) - (b : SignedInt) * 146097 / 4).value
  let d ← ((4 * (c : SignedInt) + 3) / 1461).value
  let e ← ((c : SignedInt) - 1461 * (d : SignedInt) / 4).value
  let m ← ((5 * (e : SignedInt) + 2) / 153).value
  let day ← ((e : SignedInt) - (153 * (m : SignedInt) + 2) / 5 + 1).value
  let month ← ((m : SignedInt) + 3 - 12 * ((m : SignedInt) / 10)).value
  let year ← ((b : SignedInt) * 100 + (d : SignedInt) - 4800 + (m : SignedInt) / 10).value
  some ⟨year, month, day⟩

structure Date where
  julianDayNumber : Int
  deriving DecidableEq, Repr

namespace Date

def kDaysPerWeek : Int := 7

def kJulianDayOf1970_01_01 : Int := (getJulianDayNumber 1970 1 1).getD 0

/-- `Date(y, m, d)` -/
def ofYearMonthDay (y m d : Int) : Option Date := (getJulianDayNumber y m d).map Date.mk

def yearMonthDay (date : Date) : Option YearMonthDay := getYearMonthDay date.julianDayNumber

def weekDay (date : Date) : Option Int :=
  (((date.julianDayNumber : SignedInt) + 1) % (kDaysPerWeek : SignedInt)).value

end Date

/-! ## The Julian day number of a date -/

/-- The Julian day number of the first of January of the year 0. -/
def julianDayOfYear0 : Int := 1721060

/-- The Julian day number is not negative, and `getYearMonthDay` does not overflow. -/
def FitsInt (julianDayNumber : Int) : Prop :=
  0 ≤ julianDayNumber ∧ 4 * (julianDayNumber + 32044) + 3 ≤ 2147483647

instance (julianDayNumber : Int) : Decidable (FitsInt julianDayNumber) :=
  inferInstanceAs (Decidable (_ ∧ _))

/-- The formula of both functions: `y` years begin in March, the first of them 4800 years before the
year 0, and `m` months after March. -/
def julianDayOf (y m day : Int) : Int :=
  day + (153 * m + 2) / 5 + y * 365 + y / 4 - y / 100 + y / 400 - 32045

section

open SignedInt

theorem getJulianDayNumber_value {year month day : Int} (month_pos : 1 ≤ month)
    (month_le : month ≤ 12) (day_pos : 1 ≤ day) (day_le : day ≤ 31)
    (year_ge : -4799 ≤ year) (year_le : year ≤ 1470000) :
    getJulianDayNumber year month day =
      some (julianDayOf (year + 4800 - (14 - month) / 12) (month + 12 * ((14 - month) / 12) - 3)
        day) := by
  have hit : ((14 - (month : SignedInt)) / 12).value = some ((14 - month) / 12) := by
    simp (disch := omega) only [literal, ofInt_sub, ofInt_div, checked_eq, value_ofInt]
  obtain ⟨a, eq⟩ : ∃ a, a = (14 - month) / 12 := ⟨_, rfl⟩
  have years : ((year : SignedInt) + 4800 - (a : SignedInt)).value = some (year + 4800 - a) := by
    simp (disch := omega) only [literal, ofInt_add, ofInt_sub, checked_eq, value_ofInt]
  have months : ((month : SignedInt) + 12 * (a : SignedInt) - 3).value =
      some (month + 12 * a - 3) := by
    simp (disch := omega) only [literal, ofInt_add, ofInt_sub, ofInt_mul, checked_eq, value_ofInt]
  rw [← eq] at hit ⊢
  have m_ge : 0 ≤ month + 12 * a - 3 := by omega
  have m_le : month + 12 * a - 3 ≤ 11 := by omega
  have y_ge : 0 ≤ year + 4800 - a := by omega
  have y_le : year + 4800 - a ≤ 1480000 := by omega
  unfold getJulianDayNumber
  rw [hit, Option.bind_eq_bind, Option.bind_some, years, Option.bind_some, months,
    Option.bind_some]
  generalize year + 4800 - a = y at y_ge y_le ⊢
  generalize month + 12 * a - 3 = m at m_ge m_le ⊢
  simp (disch := omega) only [literal, ofInt_add, ofInt_sub, ofInt_mul, ofInt_div, checked_eq,
    value_ofInt]
  rfl

end

/-- The lengths of the months from March on, in one formula. -/
theorem daysInMonths_march (year : Int) {m : Nat} (le : m ≤ 9) :
    Gregorian.daysInMonths year (m + 2) = (153 * m + 2) / 5 + Gregorian.daysInMonths year 2 := by
  interval_cases m <;>
    simp only [Gregorian.daysInMonths, Gregorian.daysInMonth] <;>
    omega

theorem daysInMonths_february (year : Int) :
    Gregorian.daysInMonths year 2 = if Gregorian.IsLeap year then 60 else 59 := by
  simp only [Gregorian.daysInMonths, Gregorian.daysInMonth]
  split <;> rfl

/-- The formula counts the days as the calendar does. -/
theorem julianDayOf_date (date : GregorianDate) :
    julianDayOf (date.year + 4800 - (14 - (date.month : Int)) / 12)
        ((date.month : Int) + 12 * ((14 - (date.month : Int)) / 12) - 3) date.day =
      date.dayNumber + julianDayOfYear0 := by
  obtain ⟨year, month, day, month_pos, month_le, -, -⟩ := date
  unfold GregorianDate.dayNumber GregorianDate.dayOfYear Gregorian.daysBefore julianDayOf
    julianDayOfYear0
  dsimp only
  by_cases early : month ≤ 2
  · have one : (14 - (month : Int)) / 12 = 1 := by omega
    have before : Gregorian.daysInMonths year (month - 1) = 31 * ((month : Int) - 1) := by
      interval_cases month <;> rfl
    rw [one, before]
    omega
  · have zero : (14 - (month : Int)) / 12 = 0 := by omega
    obtain ⟨m, rfl⟩ : ∃ m, month = m + 3 := ⟨month - 3, by omega⟩
    have before := daysInMonths_march year (show m ≤ 9 by omega)
    rw [daysInMonths_february] at before
    rw [zero, show m + 3 - 1 = m + 2 from rfl, before]
    by_cases leap : Gregorian.IsLeap year
    · rw [if_pos leap]
      unfold Gregorian.IsLeap at leap
      push_cast
      omega
    · rw [if_neg leap]
      unfold Gregorian.IsLeap at leap
      push_cast
      omega

theorem year_of_fitsInt {date : GregorianDate} (fits : FitsInt (date.dayNumber + julianDayOfYear0)) :
    -4799 ≤ date.year ∧ date.year ≤ 1470000 := by
  obtain ⟨lower, upper⟩ := fits
  have start := date.dayOfYear_nonneg
  have within := date.dayOfYear_le
  unfold GregorianDate.dayNumber Gregorian.daysBefore julianDayOfYear0 at *
  omega

theorem day_le_31 (date : GregorianDate) : date.day ≤ 31 := by
  have within := date.day_le
  have most : Gregorian.daysInMonth date.year date.month ≤ 31 := by
    unfold Gregorian.daysInMonth
    split
    · split <;> decide
    all_goals decide
  omega

/-- `getJulianDayNumber` of a date that exists. -/
theorem getJulianDayNumber_date {date : GregorianDate} (year_ge : -4799 ≤ date.year)
    (year_le : date.year ≤ 1470000) :
    getJulianDayNumber date.year date.month date.day = some (date.dayNumber + julianDayOfYear0) := by
  have month_pos := date.month_pos
  have month_le := date.month_le
  rw [getJulianDayNumber_value (by omega) (by omega) date.day_pos (day_le_31 date) year_ge year_le,
    julianDayOf_date]

/-! ## The date of a Julian day number -/

/-- The Julian day number taken apart: `b` centuries from March of the year -4800, `d` years, `m`
months, and `e` days of the year in all. -/
structure Parts (julianDayNumber b c d e m : Int) : Prop where
  century : b = (4 * (julianDayNumber + 32044) + 3) / 146097
  inCentury : c = julianDayNumber + 32044 - b * 146097 / 4
  year : d = (4 * c + 3) / 1461
  inYear : e = c - 1461 * d / 4
  month : m = (5 * e + 2) / 153

namespace Parts

variable {julianDayNumber b c d e m : Int} (parts : Parts julianDayNumber b c d e m)
include parts

/-- Only the last of four centuries has a day more. -/
theorem century_bounds : 0 ≤ c ∧ c ≤ 36524 ∧ (c = 36524 → b % 4 = 3) := by
  have lower : b * 146097 ≤ 4 * (julianDayNumber + 32044) + 3 := by
    rw [parts.century]
    exact Int.ediv_mul_le _ (by decide)
  have upper : 4 * (julianDayNumber + 32044) + 3 < b * 146097 + 146097 := by
    have less := Int.lt_ediv_add_one_mul_self (4 * (julianDayNumber + 32044) + 3)
      (show 0 < 146097 by decide)
    rwa [← parts.century, Int.add_mul, Int.one_mul] at less
  have quarter : b * 146097 / 4 = 36524 * b + b / 4 := by
    clear lower upper parts
    omega
  have days : 4 * c = 4 * (julianDayNumber + 32044) - b * 146097 + b % 4 := by
    rw [parts.inCentury, quarter]
    omega
  clear parts quarter
  generalize b * 146097 = whole at *
  omega

/-- Only the last of four years has a day more, and not the last of a century that has not. -/
theorem year_bounds :
    0 ≤ d ∧ d ≤ 99 ∧ 0 ≤ e ∧ e ≤ 365 ∧ (e = 365 → d % 4 = 3 ∧ (d = 99 → b % 4 = 3)) := by
  obtain ⟨c_ge, c_le, last⟩ := parts.century_bounds
  have lower : d * 1461 ≤ 4 * c + 3 := by
    rw [parts.year]
    exact Int.ediv_mul_le _ (by decide)
  have upper : 4 * c + 3 < d * 1461 + 1461 := by
    have less := Int.lt_ediv_add_one_mul_self (4 * c + 3) (show 0 < 1461 by decide)
    rwa [← parts.year, Int.add_mul, Int.one_mul] at less
  have days : 4 * e = 4 * c - d * 1461 + d % 4 := by
    rw [parts.inYear]
    omega
  clear parts
  omega

theorem month_bounds : 0 ≤ m ∧ m ≤ 11 := by
  obtain ⟨-, -, lower, upper, -⟩ := parts.year_bounds
  have month := parts.month
  omega

end Parts

/-- What `getYearMonthDay` makes of the parts. -/
def ymdOf (b d e m : Int) : YearMonthDay where
  year := b * 100 + d - 4800 + m / 10
  month := m + 3 - 12 * (m / 10)
  day := e - (153 * m + 2) / 5 + 1

section

open SignedInt

theorem getYearMonthDay_value {julianDayNumber : Int} (fits : FitsInt julianDayNumber) :
    ∃ b c d e m, Parts julianDayNumber b c d e m ∧
      getYearMonthDay julianDayNumber = some (ymdOf b d e m) := by
  obtain ⟨lower, upper⟩ := fits
  obtain ⟨b, century⟩ : ∃ b, b = (4 * (julianDayNumber + 32044) + 3) / 146097 := ⟨_, rfl⟩
  obtain ⟨c, inCentury⟩ : ∃ c, c = julianDayNumber + 32044 - b * 146097 / 4 := ⟨_, rfl⟩
  obtain ⟨d, year⟩ : ∃ d, d = (4 * c + 3) / 1461 := ⟨_, rfl⟩
  obtain ⟨e, inYear⟩ : ∃ e, e = c - 1461 * d / 4 := ⟨_, rfl⟩
  obtain ⟨m, month⟩ : ∃ m, m = (5 * e + 2) / 153 := ⟨_, rfl⟩
  have parts : Parts julianDayNumber b c d e m := ⟨century, inCentury, year, inYear, month⟩
  obtain ⟨c_ge, c_le, -⟩ := parts.century_bounds
  obtain ⟨d_ge, d_le, e_ge, e_le, -⟩ := parts.year_bounds
  obtain ⟨m_ge, m_le⟩ := parts.month_bounds
  have b_ge : 0 ≤ b := by
    rw [century]
    exact Int.ediv_nonneg (by omega) (by decide)
  have b_le : b * 146097 ≤ 2147483647 := by
    have le := Int.ediv_mul_le (4 * (julianDayNumber + 32044) + 3) (show (146097 : Int) ≠ 0 by decide)
    rw [← century] at le
    omega
  have a_eq : ((julianDayNumber : SignedInt) + 32044).value = some (julianDayNumber + 32044) := by
    simp (disch := omega) only [literal, ofInt_add, checked_eq, value_ofInt]
  have b_eq : ((4 * ((julianDayNumber + 32044 : Int) : SignedInt) + 3) / 146097).value = some b := by
    simp (disch := omega) only [literal, ofInt_add, ofInt_mul, ofInt_div, checked_eq, value_ofInt,
      ← century]
  have c_eq : (((julianDayNumber + 32044 : Int) : SignedInt) - (b : SignedInt) * 146097 / 4).value =
      some c := by
    simp (disch := omega) only [literal, ofInt_sub, ofInt_mul, ofInt_div, checked_eq, value_ofInt,
      ← inCentury]
  have d_eq : ((4 * (c : SignedInt) + 3) / 1461).value = some d := by
    simp (disch := omega) only [literal, ofInt_add, ofInt_mul, ofInt_div, checked_eq, value_ofInt,
      ← year]
  have e_eq : ((c : SignedInt) - 1461 * (d : SignedInt) / 4).value = some e := by
    simp (disch := omega) only [literal, ofInt_sub, ofInt_mul, ofInt_div, checked_eq, value_ofInt,
      ← inYear]
  have m_eq : ((5 * (e : SignedInt) + 2) / 153).value = some m := by
    simp (disch := omega) only [literal, ofInt_add, ofInt_mul, ofInt_div, checked_eq, value_ofInt,
      ← month]
  have day_eq : ((e : SignedInt) - (153 * (m : SignedInt) + 2) / 5 + 1).value =
      some (ymdOf b d e m).day := by
    simp (disch := omega) only [literal, ofInt_add, ofInt_sub, ofInt_mul, ofInt_div, checked_eq,
      value_ofInt, ymdOf]
  have month_eq : ((m : SignedInt) + 3 - 12 * ((m : SignedInt) / 10)).value =
      some (ymdOf b d e m).month := by
    simp (disch := omega) only [literal, ofInt_add, ofInt_sub, ofInt_mul, ofInt_div, checked_eq,
      value_ofInt, ymdOf]
  have year_eq : ((b : SignedInt) * 100 + (d : SignedInt) - 4800 + (m : SignedInt) / 10).value =
      some (ymdOf b d e m).year := by
    simp (disch := omega) only [literal, ofInt_add, ofInt_sub, ofInt_mul, ofInt_div, checked_eq,
      value_ofInt, ymdOf]
  refine ⟨b, c, d, e, m, parts, ?_⟩
  unfold getYearMonthDay
  simp only [a_eq, b_eq, c_eq, d_eq, e_eq, m_eq, day_eq, month_eq, year_eq, Option.bind_eq_bind,
    Option.bind_some]

end

theorem daysInMonth_march (year : Int) {m : Nat} (le : m ≤ 9) :
    Gregorian.daysInMonth year (m + 3) = (153 * (m + 1) + 2) / 5 - (153 * m + 2) / 5 := by
  interval_cases m <;> rfl

namespace Parts
variable {julianDayNumber b c d e m : Int} (parts : Parts julianDayNumber b c d e m)
include parts

/-- Put together, the parts are the Julian day number again. -/
theorem julianDayOf_eq : julianDayOf (100 * b + d) m (ymdOf b d e m).day = julianDayNumber := by
  obtain ⟨d_ge, d_le, -, -, -⟩ := parts.year_bounds
  have quarter : b * 146097 / 4 = 36524 * b + b / 4 := by
    clear parts d_ge d_le
    omega
  have leaps : (100 * b + d) / 4 = 25 * b + d / 4 := by omega
  have centuries : (100 * b + d) / 100 = b := by omega
  have fourth : (100 * b + d) / 400 = b / 4 := by omega
  have years : 1461 * d / 4 = 365 * d + d / 4 := by omega
  have inCentury := parts.inCentury
  have inYear := parts.inYear
  rw [quarter] at inCentury
  rw [years] at inYear
  unfold julianDayOf ymdOf
  dsimp only
  rw [leaps, centuries, fourth]
  omega

theorem month_toNat :
    (((ymdOf b d e m).month.toNat : Nat) : Int) = m + 3 - 12 * (m / 10) := by
  obtain ⟨m_ge, m_le⟩ := parts.month_bounds
  apply Int.toNat_of_nonneg
  show 0 ≤ m + 3 - 12 * (m / 10)
  omega

/-- The date that the parts stand for. -/
def date : GregorianDate where
  year := (ymdOf b d e m).year
  month := (ymdOf b d e m).month.toNat
  day := (ymdOf b d e m).day
  month_pos := by
    have bounds := parts.month_bounds
    have number := parts.month_toNat
    omega
  month_le := by
    have bounds := parts.month_bounds
    have number := parts.month_toNat
    omega
  day_pos := by
    have month := parts.month
    unfold ymdOf
    dsimp only
    omega
  day_le := by
    obtain ⟨d_ge, d_le, e_ge, e_le, last⟩ := parts.year_bounds
    obtain ⟨m_ge, m_le⟩ := parts.month_bounds
    have month := parts.month
    rcases (show m ≤ 9 ∨ m = 10 ∨ m = 11 by omega) with le | rfl | rfl
    · -- from March to December
      obtain ⟨n, rfl⟩ := Int.eq_ofNat_of_zero_le m_ge
      have number : (ymdOf b d e n).month.toNat = n + 3 := by
        have eq := parts.month_toNat
        omega
      have length := daysInMonth_march (ymdOf b d e n).year (show n ≤ 9 by omega)
      rw [number, length]
      unfold ymdOf
      dsimp only
      omega
    · -- January
      show e - 306 + 1 ≤ 31
      omega
    · -- February, at the end of a year that begins in March
      show e - 337 + 1 ≤ if Gregorian.IsLeap (b * 100 + d - 4800 + 1) then 29 else 28
      by_cases leap : Gregorian.IsLeap (b * 100 + d - 4800 + 1)
      · rw [if_pos leap]
        omega
      · rw [if_neg leap]
        unfold Gregorian.IsLeap at leap
        omega

theorem date_dayNumber : parts.date.dayNumber + julianDayOfYear0 = julianDayNumber := by
  obtain ⟨m_ge, m_le⟩ := parts.month_bounds
  have number : (parts.date.month : Int) = m + 3 - 12 * (m / 10) := parts.month_toNat
  have early : (14 - (parts.date.month : Int)) / 12 = m / 10 := by
    rw [number]
    omega
  have year : parts.date.year = b * 100 + d - 4800 + m / 10 := rfl
  have same := julianDayOf_date parts.date
  have years : b * 100 + d - 4800 + m / 10 + 4800 - m / 10 = 100 * b + d := by omega
  have months : m + 3 - 12 * (m / 10) + 12 * (m / 10) - 3 = m := by omega
  rw [early, number, year, years, months] at same
  exact same.symm.trans parts.julianDayOf_eq

end Parts
/-- `getYearMonthDay` finds the date that has the Julian day number. -/
theorem getYearMonthDay_date {julianDayNumber : Int} (fits : FitsInt julianDayNumber) :
    ∃ date : GregorianDate, date.dayNumber + julianDayOfYear0 = julianDayNumber ∧
      getYearMonthDay julianDayNumber = some ⟨date.year, date.month, date.day⟩ := by
  obtain ⟨b, c, d, e, m, parts, value⟩ := getYearMonthDay_value fits
  have number : (parts.date.month : Int) = (ymdOf b d e m).month := parts.month_toNat
  refine ⟨parts.date, parts.date_dayNumber, ?_⟩
  rw [value, number]
  rfl

/-- From the Julian day numbers that do not fit, `getYearMonthDay` overflows. -/
theorem getYearMonthDay_eq_none {julianDayNumber : Int} (nonneg : 0 ≤ julianDayNumber)
    (large : ¬ FitsInt julianDayNumber) : getYearMonthDay julianDayNumber = none := by
  have exceeds : 2147483647 < 4 * (julianDayNumber + 32044) + 3 := by
    by_contra fits
    exact large ⟨nonneg, Int.not_lt.mp fits⟩
  unfold getYearMonthDay
  by_cases first : julianDayNumber + 32044 ≤ 2147483647
  · have a_eq : ((julianDayNumber : SignedInt) + 32044).value = some (julianDayNumber + 32044) := by
      simp (disch := omega) only [SignedInt.literal, SignedInt.ofInt_add, SignedInt.checked_eq,
        SignedInt.value_ofInt]
    have b_eq :
        (4 * ((julianDayNumber + 32044 : Int) : SignedInt) + 3) / 146097 = SignedInt.overflow := by
      simp (disch := omega) only [SignedInt.literal, SignedInt.ofInt_mul, SignedInt.checked_eq,
        SignedInt.checked_eq_overflow, SignedInt.overflow_add, SignedInt.overflow_div]
    rw [a_eq, Option.bind_eq_bind, Option.bind_some, b_eq]
    rfl
  · have a_eq : (julianDayNumber : SignedInt) + 32044 = SignedInt.overflow := by
      simp (disch := omega) only [SignedInt.literal, SignedInt.ofInt_add, SignedInt.checked_eq,
        SignedInt.checked_eq_overflow]
    rw [a_eq]
    rfl

example : getJulianDayNumber 1970 1 1 = some 2440588 := by decide

example : getYearMonthDay 2440587 = some ⟨1969, 12, 31⟩ := by decide

end NewFramework.Base
