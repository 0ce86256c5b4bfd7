import NewFramework.Base.Date
import NewFramework.Lib.BigEndian

/-!
# `muduo::TimeZone`, the conversions to and from UTC

These are from `muduo/base/TimeZone.cc`.  A `time_t` has 64 bits, and no operation on one overflows
here; the other arithmetic is that of `int`, and a function returns `none` where it overflows.
-/

namespace NewFramework.Base
open NewFramework.Lib

def kSecondsPerDay : Int := 24 * 60 * 60

/-- `struct tm` -/
structure Tm where
  tmSec : Int
  tmMin : Int
  tmHour : Int
  tmMday : Int
  tmMon : Int
  tmYear : Int
  tmWday : Int
  tmYday : Int
  tmIsdst : Int
  tmGmtoff : Int
  tmZone : Option String
  deriving DecidableEq, Repr

namespace Tm

/-- `bzero(&utc, sizeof(utc))` -/
def zeroed : Tm := ⟨0, 0, 0, 0, 0, 0, 0, 0, 0, 0, none⟩

/-- `fillHMS(seconds, utc)` -/
def fillHMS (seconds : Nat) (utc : Tm) : Tm :=
  let minutes := seconds / 60
  { utc with
    tmSec := (seconds % 60 : Nat)
    tmMin := (minutes % 60 : Nat)
    tmHour := (minutes / 60 : Nat) }

end Tm

namespace TimeZone

/-- The seconds and the days of `toUtcTime`, whose remainder is not negative in the end. -/
def secondsAndDays (secondsSinceEpoch : Int) : Option (Int × Int) := do
  let seconds := toInt 32 (secondsSinceEpoch.tmod kSecondsPerDay)
  let days := toInt 32 (secondsSinceEpoch.tdiv kSecondsPerDay)
  if seconds < 0 then
    let seconds ← ((seconds : SignedInt) + (kSecondsPerDay : SignedInt)).value
    let days ← ((days : SignedInt) - 1).value
    some (seconds, days)
  else some (seconds, days)

/-- `toUtcTime(secondsSinceEpoch, yday)` -/
def toUtcTime (secondsSinceEpoch : Int) (yday : Bool := false) : Option Tm := do
  let utc := { Tm.zeroed with tmZone := some "GMT" }
  let (seconds, days) ← secondsAndDays secondsSinceEpoch
  let utc := utc.fillHMS (seconds % 2 ^ 32).toNat
  let julianDayNumber ← ((days : SignedInt) + (Date.kJulianDayOf1970_01_01 : SignedInt)).value
  let date : Date := ⟨julianDayNumber⟩
  let ymd ← date.yearMonthDay
  let tmYear ← ((ymd.year : SignedInt) - 1900).value
  let tmMon ← ((ymd.month : SignedInt) - 1).value
  let tmWday ← date.weekDay
  let utc := { utc with tmYear := tmYear, tmMon := tmMon, tmMday := ymd.day, tmWday := tmWday }
  if yday then
    let startOfYear ← Date.ofYearMonthDay ymd.year 1 1
    let tmYday ← ((date.julianDayNumber : SignedInt) - (startOfYear.julianDayNumber : SignedInt)).value
    some { utc with tmYday := tmYday }
  else some utc

/-- `fromUtcTime(year, month, day, hour, minute, seconds)` -/
def fromUtcTimeOf (year month day hour minute seconds : Int) : Option Int := do
  let date ← Date.ofYearMonthDay year month day
  let secondsInDay ← ((hour : SignedInt) * 3600 + (minute : SignedInt) * 60 +
    (seconds : SignedInt)).value
  let days ← ((date.julianDayNumber : SignedInt) -
    (Date.kJulianDayOf1970_01_01 : SignedInt)).value
  some (days * kSecondsPerDay + secondsInDay)

/-- `fromUtcTime(utc)` -/
def fromUtcTime (utc : Tm) : Option Int := do
  let year ← ((utc.tmYear : SignedInt) + 1900).value
  let month ← ((utc.tmMon : SignedInt) + 1).value
  fromUtcTimeOf year month utc.tmMday utc.tmHour utc.tmMin utc.tmSec

/-- The Julian day number of a time. -/
def julianDay (t : Int) : Int := t / kSecondsPerDay + Date.kJulianDayOf1970_01_01

theorem kJulianDayOf1970_01_01_eq : Date.kJulianDayOf1970_01_01 = 2440588 := by decide

section

open SignedInt

/-- Truncation is corrected to rounding down. -/
theorem secondsAndDays_eq {t : Int} (fits : FitsInt (julianDay t)) :
    secondsAndDays t = some (t % kSecondsPerDay, t / kSecondsPerDay) := by
  obtain ⟨lower, upper⟩ := fits
  unfold julianDay at lower upper
  rw [kJulianDayOf1970_01_01_eq] at lower upper
  have exact_int : ∀ v : Int, -2147483648 ≤ v → v ≤ 2147483647 → toInt 32 v = v := by
    intro v least most
    exact Int.bmod_eq_of_le (by omega) (by omega)
  unfold secondsAndDays kSecondsPerDay at *
  rcases lt_or_ge t 0 with negative | nonneg
  · obtain ⟨s, rfl⟩ : ∃ s, t = -s := ⟨-t, (Int.neg_neg t).symm⟩
    have remainder : (-s).tmod (24 * 60 * 60) = -(s % 86400) := by
      rw [Int.neg_tmod, Int.tmod_eq_emod_of_nonneg (by omega)]
      rfl
    have quotient : (-s).tdiv (24 * 60 * 60) = -(s / 86400) := by
      rw [Int.neg_tdiv, Int.tdiv_eq_ediv_of_nonneg (by omega)]
      rfl
    rw [remainder, quotient, exact_int _ (by omega) (by omega), exact_int _ (by omega) (by omega)]
    dsimp only
    by_cases whole : s % 86400 = 0
    · rw [if_neg (by omega)]
      have first : -(s % 86400) = -s % (24 * 60 * 60) := by omega
      have second : -(s / 86400) = -s / (24 * 60 * 60) := by omega
      rw [first, second]
    · have first : ((-(s % 86400) : Int) : SignedInt) + ((24 * 60 * 60 : Int) : SignedInt) =
          ofInt (-s % (24 * 60 * 60)) := by
        rw [ofInt_add, checked_eq (by omega) (by omega)]
        congr 1
        omega
      have second : ((-(s / 86400) : Int) : SignedInt) - 1 = ofInt (-s / (24 * 60 * 60)) := by
        simp (disch := omega) only [literal, ofInt_sub, checked_eq]
        congr 1
        omega
      rw [if_pos (by omega), first, second]
      rfl
  · rw [Int.tmod_eq_emod_of_nonneg nonneg, Int.tdiv_eq_ediv_of_nonneg nonneg,
      exact_int _ (by omega) (by omega), exact_int _ (by omega) (by omega)]
    dsimp only
    rw [if_neg (by omega)]

/-- The broken-down time of a date and a second of the day. -/
def tmOf (date : GregorianDate) (second : Int) (yday : Bool) : Tm where
  tmSec := second % 60
  tmMin := second / 60 % 60
  tmHour := second / 3600
  tmMday := date.day
  tmMon := date.month - 1
  tmYear := date.year - 1900
  tmWday := date.weekDay
  tmYday := if yday then date.dayOfYear else 0
  tmIsdst := 0
  tmGmtoff := 0
  tmZone := some "GMT"

theorem fillHMS_eq {second : Int} (lower : 0 ≤ second) (upper : second < 86400) (utc : Tm) :
    utc.fillHMS (second % 2 ^ 32).toNat =
      { utc with tmSec := second % 60, tmMin := second / 60 % 60, tmHour := second / 3600 } := by
  obtain ⟨n, rfl⟩ := Int.eq_ofNat_of_zero_le lower
  have same : ((n : Int) % 2 ^ 32).toNat = n := by omega
  have hours : n / 60 / 60 = n / 3600 := Nat.div_div_eq_div_mul n 60 60
  rw [same]
  unfold Tm.fillHMS
  dsimp only
  rw [hours]
  push_cast
  rfl

/-- The first of January, from which `tm_yday` is counted. -/
theorem julianDayNumber_newYear {date : GregorianDate} (year_ge : -4799 ≤ date.year)
    (year_le : date.year ≤ 1470000) :
    Date.ofYearMonthDay date.year 1 1 =
      some ⟨date.dayNumber + julianDayOfYear0 - date.dayOfYear⟩ := by
  have last : (1 : Int) ≤ 31 := by decide
  have newYear := @getJulianDayNumber_date
    ⟨date.year, 1, 1, le_refl 1, by decide, le_refl 1, last⟩ year_ge year_le
  have first : Gregorian.daysBefore date.year + (0 + 1 - 1) + julianDayOfYear0 =
      date.dayNumber + julianDayOfYear0 - date.dayOfYear := by
    unfold GregorianDate.dayNumber
    omega
  exact congrArg (Option.map Date.mk) (newYear.trans (congrArg some first))

theorem toUtcTime_eq {t : Int} (fits : FitsInt (julianDay t)) :
    ∃ date : GregorianDate, date.dayNumber + julianDayOfYear0 = julianDay t ∧
      ∀ yday, toUtcTime t yday = some (tmOf date (t % kSecondsPerDay) yday) := by
  obtain ⟨date, number, found⟩ := getYearMonthDay_date fits
  have fitsDate : FitsInt (date.dayNumber + julianDayOfYear0) := number ▸ fits
  obtain ⟨year_ge, year_le⟩ := year_of_fitsInt fitsDate
  refine ⟨date, number, ?_⟩
  intro yday
  have month_pos := date.month_pos
  have month_le := date.month_le
  have second_ge : 0 ≤ t % kSecondsPerDay := Int.emod_nonneg _ (by decide)
  have second_lt : t % kSecondsPerDay < 86400 := Int.emod_lt_of_pos _ (by decide)
  have julian : (((t / kSecondsPerDay : Int) : SignedInt) +
      (Date.kJulianDayOf1970_01_01 : SignedInt)).value = some (julianDay t) := by
    obtain ⟨lower, upper⟩ := fits
    rw [ofInt_add, checked_eq]
    · rfl
    · unfold julianDay at lower
      omega
    · unfold julianDay at upper
      omega
  have tmYear : ((date.year : SignedInt) - 1900).value = some (date.year - 1900) := by
    simp (disch := omega) only [literal, ofInt_sub, checked_eq, value_ofInt]
  have tmMon : (((date.month : Int) : SignedInt) - 1).value = some ((date.month : Int) - 1) := by
    simp (disch := omega) only [literal, ofInt_sub, checked_eq, value_ofInt]
  have tmWday : (Date.mk (julianDay t)).weekDay = some date.weekDay := by
    obtain ⟨lower, upper⟩ := fits
    unfold Date.weekDay Date.kDaysPerWeek GregorianDate.weekDay
    simp (disch := omega) only [literal, ofInt_add, ofInt_mod, checked_eq, value_ofInt]
    unfold julianDayOfYear0 at number
    apply congrArg some
    omega
  have tmYday : (((julianDay t : Int) : SignedInt) -
      ((julianDay t - date.dayOfYear : Int) : SignedInt)).value = some date.dayOfYear := by
    have lower := date.dayOfYear_nonneg
    have upper := date.dayOfYear_le
    rw [ofInt_sub, checked_eq (by omega) (by omega)]
    exact congrArg some (by omega)
  unfold toUtcTime Date.yearMonthDay
  rw [secondsAndDays_eq fits]
  simp only [Option.bind_eq_bind, Option.bind_some, julian, found, tmYear, tmMon, tmWday,
    fillHMS_eq second_ge second_lt, julianDayNumber_newYear year_ge year_le, number, tmYday]
  cases yday <;> rfl

/-- The time of a second of a day. -/
theorem fromUtcTime_eq {utc : Tm} {date : GregorianDate} {second : Int}
    (fits : FitsInt (date.dayNumber + julianDayOfYear0)) (lower : 0 ≤ second)
    (upper : second < 86400) (sec : utc.tmSec = second % 60) (min : utc.tmMin = second / 60 % 60)
    (hour : utc.tmHour = second / 3600) (mday : utc.tmMday = date.day)
    (mon : utc.tmMon = date.month - 1) (year : utc.tmYear = date.year - 1900) :
    fromUtcTime utc = some ((date.dayNumber + julianDayOfYear0 - 2440588) * kSecondsPerDay +
      second) := by
  obtain ⟨year_ge, year_le⟩ := year_of_fitsInt fits
  have month_pos := date.month_pos
  have month_le := date.month_le
  have years : ((utc.tmYear : SignedInt) + 1900).value = some date.year := by
    rw [year]
    simp (disch := omega) only [literal, ofInt_add, checked_eq, value_ofInt]
    exact congrArg some (by omega)
  have months : ((utc.tmMon : SignedInt) + 1).value = some (date.month : Int) := by
    rw [mon]
    simp (disch := omega) only [literal, ofInt_add, checked_eq, value_ofInt]
    exact congrArg some (by omega)
  have seconds : ((utc.tmHour : SignedInt) * 3600 + (utc.tmMin : SignedInt) * 60 +
      (utc.tmSec : SignedInt)).value = some second := by
    rw [hour, min, sec]
    simp (disch := omega) only [literal, ofInt_add, ofInt_mul, checked_eq, value_ofInt]
    exact congrArg some (by omega)
  have days : (((date.dayNumber + julianDayOfYear0 : Int) : SignedInt) -
      (Date.kJulianDayOf1970_01_01 : SignedInt)).value =
      some (date.dayNumber + julianDayOfYear0 - 2440588) := by
    obtain ⟨least, most⟩ := fits
    rw [kJulianDayOf1970_01_01_eq, ofInt_sub, checked_eq (by omega) (by omega), value_ofInt]
  unfold fromUtcTime fromUtcTimeOf Date.ofYearMonthDay
  simp only [Option.bind_eq_bind, Option.bind_some, years, months, mday,
    getJulianDayNumber_date year_ge year_le, Option.map_some, seconds, days]

/-- A normalised broken-down time on a date. -/
structure Describes (utc : Tm) (date : GregorianDate) : Prop where
  sec : 0 ≤ utc.tmSec ∧ utc.tmSec < 60
  min : 0 ≤ utc.tmMin ∧ utc.tmMin < 60
  hour : 0 ≤ utc.tmHour ∧ utc.tmHour < 24
  mday : utc.tmMday = date.day
  mon : utc.tmMon = date.month - 1
  year : utc.tmYear = date.year - 1900
  wday : utc.tmWday = date.weekDay
  yday : utc.tmYday = date.dayOfYear

theorem tmOf_describes (date : GregorianDate) {second : Int} (lower : 0 ≤ second)
    (upper : second < 86400) : Describes (tmOf date second true) date where
  sec := by
    show 0 ≤ second % 60 ∧ second % 60 < 60
    omega
  min := by
    show 0 ≤ second / 60 % 60 ∧ second / 60 % 60 < 60
    omega
  hour := by
    show 0 ≤ second / 3600 ∧ second / 3600 < 24
    omega
  mday := rfl
  mon := rfl
  year := rfl
  wday := rfl
  yday := rfl

/-- To broken-down time and back. -/
theorem fromUtcTime_toUtcTime {t : Int} (fits : FitsInt (julianDay t)) :
    ∃ utc date, Describes utc date ∧ toUtcTime t true = some utc ∧
      toUtcTime t = some { utc with tmYday := 0 } ∧ fromUtcTime utc = some t ∧
      fromUtcTime { utc with tmYday := 0 } = some t := by
  obtain ⟨date, number, converted⟩ := toUtcTime_eq fits
  have second_ge : 0 ≤ t % kSecondsPerDay := Int.emod_nonneg _ (by decide)
  have second_lt : t % kSecondsPerDay < 86400 := Int.emod_lt_of_pos _ (by decide)
  have fitsDate : FitsInt (date.dayNumber + julianDayOfYear0) := number ▸ fits
  have time : (date.dayNumber + julianDayOfYear0 - 2440588) * kSecondsPerDay + t % kSecondsPerDay =
      t := by
    rw [number, julianDay, kJulianDayOf1970_01_01_eq, Int.add_sub_cancel]
    exact Int.ediv_mul_add_emod t kSecondsPerDay
  have back : ∀ utc : Tm, utc = tmOf date (t % kSecondsPerDay) true ∨
      utc = tmOf date (t % kSecondsPerDay) false → fromUtcTime utc = some t := by
    rintro utc (rfl | rfl)
    all_goals
      rw [← congrArg some time]
      exact fromUtcTime_eq fitsDate second_ge second_lt rfl rfl rfl rfl rfl rfl
  exact ⟨_, date, tmOf_describes date second_ge second_lt, converted true, converted false,
    back _ (.inl rfl), back _ (.inr rfl)⟩

/-- From broken-down time and back. -/
theorem toUtcTime_fromUtcTime {utc : Tm} {date : GregorianDate} (describes : Describes utc date)
    (fits : FitsInt (date.dayNumber + julianDayOfYear0)) :
    ∃ t, fromUtcTime utc = some t ∧
      toUtcTime t true = some { utc with tmIsdst := 0, tmGmtoff := 0, tmZone := some "GMT" } ∧
      toUtcTime t = some
        { utc with tmYday := 0, tmIsdst := 0, tmGmtoff := 0, tmZone := some "GMT" } := by
  obtain ⟨⟨sec_ge, sec_lt⟩, ⟨min_ge, min_lt⟩, ⟨hour_ge, hour_lt⟩, mday, mon, year, wday, yday⟩ :=
    describes
  obtain ⟨second, eq⟩ : ∃ second, second = utc.tmHour * 3600 + utc.tmMin * 60 + utc.tmSec := ⟨_, rfl⟩
  have lower : 0 ≤ second := by omega
  have upper : second < 86400 := by omega
  have sec : utc.tmSec = second % 60 := by omega
  have min : utc.tmMin = second / 60 % 60 := by omega
  have hour : utc.tmHour = second / 3600 := by omega
  have time := fromUtcTime_eq fits lower upper sec min hour mday mon year
  obtain ⟨t, at_t⟩ : ∃ t, t = (date.dayNumber + julianDayOfYear0 - 2440588) * kSecondsPerDay + second :=
    ⟨_, rfl⟩
  have days : julianDay t = date.dayNumber + julianDayOfYear0 := by
    rw [julianDay, kJulianDayOf1970_01_01_eq, at_t]
    unfold kSecondsPerDay
    omega
  have rest : t % kSecondsPerDay = second := by
    rw [at_t]
    unfold kSecondsPerDay
    omega
  obtain ⟨date', number, converted⟩ := toUtcTime_eq (days.symm ▸ fits)
  obtain rfl : date' = date := by
    apply GregorianDate.dayNumber_injective
    rw [days] at number
    omega
  have fields : ∀ y, tmOf date' second y =
      ({ utc with
        tmYday := if y then date'.dayOfYear else 0
        tmIsdst := 0
        tmGmtoff := 0
        tmZone := some "GMT" } : Tm) := by
    intro y
    unfold tmOf
    rw [sec, min, hour, mday, mon, year, wday]
  rw [rest] at converted
  refine ⟨t, at_t ▸ time, ?_, ?_⟩
  · rw [converted true, fields true, if_pos rfl, ← yday]
  · rw [converted false, fields false, if_neg Bool.false_ne_true]

/-- The conversion to UTC is exact in both directions, for all Julian day numbers that `int` can
take; the day of the year is there when it is asked for. -/
theorem utc_exact :
    (∀ t, FitsInt (julianDay t) → ∃ utc date, Describes utc date ∧ toUtcTime t true = some utc ∧
      toUtcTime t = some { utc with tmYday := 0 } ∧ fromUtcTime utc = some t ∧
      fromUtcTime { utc with tmYday := 0 } = some t) ∧
    ∀ utc date, Describes utc date → FitsInt (date.dayNumber + julianDayOfYear0) →
      ∃ t, fromUtcTime utc = some t ∧
        toUtcTime t true = some { utc with tmIsdst := 0, tmGmtoff := 0, tmZone := some "GMT" } ∧
        toUtcTime t = some
          { utc with tmYday := 0, tmIsdst := 0, tmGmtoff := 0, tmZone := some "GMT" } :=
  ⟨fun _ fits => fromUtcTime_toUtcTime fits,
    fun _ _ describes fits => toUtcTime_fromUtcTime describes fits⟩

/-- The last second before 1970, and a leap day. -/
theorem utc_exact_leap :
    (∃ utc date, Describes utc date ∧ toUtcTime (-1) true = some utc ∧
      toUtcTime (-1) = some { utc with tmYday := 0 } ∧ fromUtcTime utc = some (-1) ∧
      fromUtcTime { utc with tmYday := 0 } = some (-1)) ∧
    ∃ t, fromUtcTime ⟨45, 30, 12, 29, 1, 100, 2, 59, 0, 0, none⟩ = some t ∧
      toUtcTime t true = some ⟨45, 30, 12, 29, 1, 100, 2, 59, 0, 0, some "GMT"⟩ ∧
      toUtcTime t = some ⟨45, 30, 12, 29, 1, 100, 2, 0, 0, 0, some "GMT"⟩ := by
  refine ⟨utc_exact.1 (-1) (by decide), ?_⟩
  refine utc_exact.2 ⟨45, 30, 12, 29, 1, 100, 2, 59, 0, 0, none⟩
    ⟨2000, 2, 29, by decide, by decide, by decide, by decide⟩ ?_ (by decide)
  constructor <;> decide

/-- On the second of January 1970 the day of the year is 1; by default it is left 0. -/
theorem not_describes_default :
    ¬ ∀ t, FitsInt (julianDay t) →
      ∃ utc date, Describes utc date ∧ toUtcTime t = some utc ∧ fromUtcTime utc = some t := by
  intro all
  obtain ⟨utc, date, describes, converted, -⟩ := all 86400 (by decide)
  have value : toUtcTime 86400 = some ⟨0, 0, 0, 2, 0, 70, 5, 0, 0, 0, some "GMT"⟩ := by decide
  obtain rfl := Option.some.inj (value.symm.trans converted)
  have january : date.month - 1 = 0 := by
    have mon := describes.mon
    dsimp only at mon
    omega
  have second := describes.mday
  have yday := describes.yday
  unfold GregorianDate.dayOfYear at yday
  rw [january] at yday
  simp only [Gregorian.daysInMonths] at yday
  dsimp only at second
  omega

end

example : (toUtcTime (-1) true).map (fun utc => (utc.tmYear, utc.tmYday, utc.tmSec)) =
    some (69, 364, 59) := by decide

end TimeZone

end NewFramework.Base
