import Mathlib.Algebra.Order.Ring.Int
import Mathlib.Tactic.Common

/-!
# The Gregorian calendar

The proleptic calendar, with the year 0 and the years before it.  Days are counted from the first of
January of the year 0: the days of the years before, of the months before, and of the month.
Different dates have different numbers.
-/

namespace NewFramework.Lib

namespace Gregorian

def IsLeap (year : Int) : Prop := 4 ∣ year ∧ (¬ 100 ∣ year ∨ 400 ∣ year)

instance (year : Int) : Decidable (IsLeap year) := inferInstanceAs (Decidable (_ ∧ _))

def daysInYear (year : Int) : Int := if IsLeap year then 366 else 365

def daysInMonth (year : Int) : Nat → Int
  | 2 => if IsLeap year then 29 else 28
  | 4 | 6 | 9 | 11 => 30
  | _ => 31

/-- The days of the first `months` months. -/
def daysInMonths (year : Int) : Nat → Int
  | 0 => 0
  | months + 1 => daysInMonths year months + daysInMonth year (months + 1)

/-- The days from the first of January of the year 0 to that of `year`: every fourth year has one
more, but not those of the full centuries, but for every fourth of these. -/
def daysBefore (year : Int) : Int :=
  365 * year + (year + 3) / 4 - (year + 99) / 100 + (year + 399) / 400

theorem daysBefore_succ (year : Int) : daysBefore (year + 1) = daysBefore year + daysInYear year := by
  unfold daysBefore daysInYear
  by_cases leap : IsLeap year
  · rw [if_pos leap]
    unfold IsLeap at leap
    omega
  · rw [if_neg leap]
    unfold IsLeap at leap
    omega

theorem daysInMonths_twelve (year : Int) : daysInMonths year 12 = daysInYear year := by
  simp only [daysInMonths, daysInMonth, daysInYear]
  split <;> rfl

theorem daysInMonth_pos (year : Int) (month : Nat) : 0 < daysInMonth year month := by
  unfold daysInMonth
  split
  · split <;> decide
  all_goals decide

theorem daysInMonths_mono (year : Int) {m n : Nat} (le : m ≤ n) :
    daysInMonths year m ≤ daysInMonths year n := by
  induction le with
  | refl => exact le_refl _
  | step _ ih =>
    have more := daysInMonth_pos year
    exact ih.trans (Int.le_add_of_nonneg_right (more _).le)

theorem daysInYear_pos (year : Int) : 0 < daysInYear year := by
  unfold daysInYear
  split <;> decide

theorem daysBefore_mono {y z : Int} (le : y ≤ z) : daysBefore y ≤ daysBefore z := by
  obtain ⟨years, rfl⟩ := Int.le.dest le
  clear le
  induction years with
  | zero => exact (congrArg daysBefore (Int.add_zero y)).ge
  | succ years ih =>
    have next := daysBefore_succ (y + years)
    have more := daysInYear_pos (y + years)
    rw [Int.add_assoc] at next
    rw [Int.natCast_succ, next]
    omega

end Gregorian

open Gregorian

/-- A date that exists. -/
@[ext] structure GregorianDate where
  year : Int
  month : Nat
  day : Int
  month_pos : 1 ≤ month
  month_le : month ≤ 12
  day_pos : 1 ≤ day
  day_le : day ≤ daysInMonth year month

namespace GregorianDate

/-- The day of the year, the first of January being 0. -/
def dayOfYear (date : GregorianDate) : Int :=
  daysInMonths date.year (date.month - 1) + date.day - 1

def dayNumber (date : GregorianDate) : Int := daysBefore date.year + date.dayOfYear

/-- The day of the week, Sunday being 0; the first of January of the year 0 is a Saturday. -/
def weekDay (date : GregorianDate) : Int := (date.dayNumber + 6) % 7

variable (date : GregorianDate)

theorem daysInMonths_month :
    daysInMonths date.year date.month =
      daysInMonths date.year (date.month - 1) + daysInMonth date.year date.month := by
  obtain ⟨year, month, day, pos, _, _, _⟩ := date
  cases month with
  | zero => exact absurd pos (by decide)
  | succ months => rfl

theorem dayOfYear_nonneg : 0 ≤ date.dayOfYear := by
  have start := daysInMonths_mono date.year (Nat.zero_le (date.month - 1))
  have day := date.day_pos
  unfold dayOfYear
  simp only [daysInMonths] at start
  omega

theorem dayOfYear_lt : date.dayOfYear < daysInYear date.year := by
  have month := date.daysInMonths_month
  have year := daysInMonths_mono date.year date.month_le
  have day := date.day_le
  rw [daysInMonths_twelve] at year
  unfold dayOfYear
  omega

theorem dayOfYear_le : date.dayOfYear ≤ 365 := by
  have within := date.dayOfYear_lt
  unfold daysInYear at within
  split at within <;> omega

end GregorianDate

namespace GregorianDate

/-- The day after. -/
def next (date : GregorianDate) : GregorianDate :=
  if within : date.day < daysInMonth date.year date.month then
    { date with
      day := date.day + 1
      day_pos := by
        have pos := date.day_pos
        omega
      day_le := Int.add_one_le_of_lt within }
  else if early : date.month < 12 then
    { year := date.year
      month := date.month + 1
      day := 1
      month_pos := Nat.le_add_left 1 date.month
      month_le := early
      day_pos := le_refl 1
      day_le := Int.add_one_le_of_lt (daysInMonth_pos _ _) }
  else
    { year := date.year + 1
      month := 1
      day := 1
      month_pos := le_refl 1
      month_le := by decide
      day_pos := le_refl 1
      day_le := Int.add_one_le_of_lt (daysInMonth_pos _ _) }

theorem dayNumber_next (date : GregorianDate) : date.next.dayNumber = date.dayNumber + 1 := by
  have month := date.daysInMonths_month
  have day_le := date.day_le
  unfold next
  split
  · unfold dayNumber dayOfYear
    dsimp only
    omega
  · next last =>
    have day : date.day = daysInMonth date.year date.month := by omega
    split
    · unfold dayNumber dayOfYear
      dsimp only
      rw [Nat.add_sub_cancel, month, day]
      omega
    · next late =>
      have december : date.month = 12 := by
        have le := date.month_le
        omega
      have twelve := daysInMonths_twelve date.year
      rw [december] at month day
      unfold dayNumber dayOfYear
      dsimp only
      rw [daysBefore_succ, december, day, ← twelve, month]
      simp only [Nat.sub_self, daysInMonths]
      omega

variable {c d : GregorianDate}

/-- A later year means a later day. -/
theorem dayNumber_lt_of_year (less : c.year < d.year) : c.dayNumber < d.dayNumber := by
  have before := daysBefore_mono (Int.add_one_le_of_lt less)
  have within := c.dayOfYear_lt
  have start := d.dayOfYear_nonneg
  rw [daysBefore_succ] at before
  unfold dayNumber
  omega

theorem dayNumber_lt_of_month (year : c.year = d.year) (less : c.month < d.month) :
    c.dayNumber < d.dayNumber := by
  have before := daysInMonths_mono d.year (Nat.le_sub_one_of_lt less)
  have month := c.daysInMonths_month
  have within := c.day_le
  have start := d.day_pos
  unfold dayNumber dayOfYear
  rw [year] at *
  omega

theorem dayNumber_injective (same : c.dayNumber = d.dayNumber) : c = d := by
  have years : c.year = d.year := by
    rcases lt_trichotomy c.year d.year with less | eq | less
    · exact absurd same (dayNumber_lt_of_year less).ne
    · exact eq
    · exact absurd same (dayNumber_lt_of_year less).ne'
  have months : c.month = d.month := by
    rcases lt_trichotomy c.month d.month with less | eq | less
    · exact absurd same (dayNumber_lt_of_month years less).ne
    · exact eq
    · exact absurd same (dayNumber_lt_of_month years.symm less).ne'
  refine GregorianDate.ext years months ?_
  unfold dayNumber dayOfYear at same
  rw [years, months] at same
  omega

end GregorianDate

end NewFramework.Lib
