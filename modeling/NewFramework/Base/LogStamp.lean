import NewFramework.Base.LocalTime
import NewFramework.Base.LogStream
import NewFramework.Lib.Padded

/-!
# The time stamp of a log line

`formatTime` of `muduo/base/Logging.cc` prints a date and a time of day in fields of fixed widths,
the microseconds, and a `Z` where there is no time zone.  `readStamp` reads them back.
-/

namespace NewFramework.Base
open NewFramework.Lib LogStream TimeZone

/-- The conversion `%4d`, with its width. -/
def spacePadded (width : Nat) (n : Int) : List UInt8 := (decimal n).leftpad width 32

/-- The conversion `%02d`, with its width: the zeros are behind the sign. -/
def zeroPadded (width : Nat) (n : Int) : List UInt8 :=
  if n < 0 then 45 :: (decimalNat n.natAbs).leftpad (width - 1) 48
  else (decimalNat n.natAbs).leftpad width 48

/-- `"%4d%02d%02d %02d:%02d:%02d"` -/
def dateTime (tm : Tm) : List UInt8 :=
  spacePadded 4 (tm.tmYear + 1900) ++ zeroPadded 2 (tm.tmMon + 1) ++ zeroPadded 2 tm.tmMday ++
    [32] ++ zeroPadded 2 tm.tmHour ++ [58] ++ zeroPadded 2 tm.tmMin ++ [58] ++ zeroPadded 2 tm.tmSec

/-- `".%06d "`, or `".%06dZ "` without a time zone. -/
def microText (microseconds : Int) (utc : Bool) : List UInt8 :=
  [46] ++ zeroPadded 6 microseconds ++ (if utc then [90, 32] else [32])

/-! ## Reading -/

/-- What a stamp says. -/
structure Stamp where
  year : Int
  month : Int
  day : Int
  hour : Int
  minute : Int
  second : Int
  microseconds : Int
  utc : Bool
  deriving DecidableEq

namespace Stamp

/-- The stamp of a broken-down time. -/
def ofTm (tm : Tm) (microseconds : Int) (utc : Bool) : Stamp where
  year := tm.tmYear + 1900
  month := tm.tmMon + 1
  day := tm.tmMday
  hour := tm.tmHour
  minute := tm.tmMin
  second := tm.tmSec
  microseconds := microseconds
  utc := utc

theorem ofTm_congr {tm tm' : Tm} {microseconds microseconds' : Int} {utc utc' : Bool}
    (alike : ofTm tm microseconds utc = ofTm tm' microseconds utc) :
    ofTm tm microseconds' utc' = ofTm tm' microseconds' utc' := by
  simp only [ofTm, Stamp.mk.injEq] at alike ⊢
  tauto

/-- The microseconds since the epoch, if the stamp is in UTC. -/
def instant (stamp : Stamp) : Int :=
  timegm { Tm.zeroed with
    tmYear := stamp.year - 1900, tmMon := stamp.month - 1, tmMday := stamp.day
    tmHour := stamp.hour, tmMin := stamp.minute, tmSec := stamp.second } * 1000000 +
    stamp.microseconds

end Stamp

/-- A number that may be padded with spaces or zeros. -/
def readInt (text : List UInt8) : Option Int := parseDecimal (text.dropWhile (· = 32))

/-- The stamp at the beginning of a line. -/
def readStamp (line : List UInt8) : Option Stamp := do
  let (year, line) ← readField 4 readInt line
  let (month, line) ← readField 2 readInt line
  let (day, line) ← readField 2 readInt line
  let (_, line) ← readField 1 (literal [32]) line
  let (hour, line) ← readField 2 readInt line
  let (_, line) ← readField 1 (literal [58]) line
  let (minute, line) ← readField 2 readInt line
  let (_, line) ← readField 1 (literal [58]) line
  let (second, line) ← readField 2 readInt line
  let (_, line) ← readField 1 (literal [46]) line
  let (microseconds, line) ← readField 6 readInt line
  some ⟨year, month, day, hour, minute, second, microseconds, line.head? = some 90⟩

/-- The digits of a number do not begin as a padding or a sign does. -/
theorem digits_head (n : Nat) : ∀ c ∈ decimalNat n, 48 ≤ c.toNat ∧ c.toNat ≤ 57 := by
  rw [decimalNat_eq]
  intro c mem
  obtain ⟨d, there, rfl⟩ := List.mem_map.mp mem
  have lt := lt_of_mem_numeral (by decide) there
  interval_cases d <;> decide

theorem readInt_spacePadded (width : Nat) (n : Int) : readInt (spacePadded width n) = some n := by
  have head : ∀ c ∈ (decimal n).head?, ¬ decide (c = 32) = true := by
    intro c first
    have mem := List.mem_of_mem_head? first
    rw [decide_eq_true_eq]
    rintro rfl
    unfold decimal at mem
    split at mem
    · rcases List.mem_cons.mp mem with sign | digit
      · contradiction
      · exact absurd (digits_head _ _ digit).1 (by decide)
    · exact absurd (digits_head _ _ mem).1 (by decide)
  unfold readInt spacePadded
  rw [dropWhile_leftpad (by decide) head, parseDecimal_decimal]

theorem zeroPadded_digits {width : Nat} {n : Int} (nonneg : 0 ≤ n) :
    ∀ c ∈ zeroPadded width n, 48 ≤ c.toNat ∧ c.toNat ≤ 57 := by
  unfold zeroPadded List.leftpad
  rw [if_neg (by omega)]
  intro c mem
  rcases List.mem_append.mp mem with padding | digit
  · rw [(List.mem_replicate.mp padding).2]
    decide
  · exact digits_head _ c digit

theorem readInt_zeroPadded (width : Nat) {n : Int} (nonneg : 0 ≤ n) :
    readInt (zeroPadded width n) = some n := by
  have digits := @zeroPadded_digits width n nonneg
  have value : parseNumeral 10 decimalDigit (zeroPadded width n) = some n.natAbs := by
    have zero : decimalDigit 48 = some 0 := rfl
    rw [zeroPadded, if_neg (by omega), parseNumeral_leftpad zero, decimalNat_eq]
    exact parseNumeral_map (by decide) (fun d lt => decimalDigit_digitChar lt) _
  have unsigned (c : UInt8) (rest : List UInt8) (eq : zeroPadded width n = c :: rest) :
      c ≠ 32 ∧ c ≠ 45 := by
    have range := digits c (by rw [eq]; exact List.mem_cons_self)
    constructor <;> rintro rfl <;> exact absurd range.1 (by decide)
  have unskipped : (zeroPadded width n).dropWhile (· = 32) = zeroPadded width n := by
    cases text : zeroPadded width n with
    | nil => rfl
    | cons c rest => exact List.dropWhile_cons_of_neg (by simpa using (unsigned c rest text).1)
  rw [readInt, unskipped, parseDecimal, value, Option.map_some]
  · exact congrArg some (by omega)
  · intro rest eq
    exact (unsigned 45 rest eq).2 rfl

theorem length_zeroPadded {width : Nat} {n : Int} (pos : 0 < width) (nonneg : 0 ≤ n)
    (below : n < 10 ^ width) : (zeroPadded width n).length = width := by
  have small : n.natAbs < 10 ^ width := by
    zify
    rwa [abs_of_nonneg nonneg]
  rw [zeroPadded, if_neg (by omega), List.length_leftpad, decimalNat_eq, List.length_map]
  exact Nat.max_eq_left (length_numeral_le (by decide) pos small)

/-- A stamp is read back where the year has its width. -/
theorem readStamp_dateTime {tm : Tm} {date : GregorianDate} (describes : Describes tm date)
    (wide : (dateTime tm).length = 17) {microseconds : Int} (nonneg : 0 ≤ microseconds)
    (below : microseconds < 1000000) (utc : Bool) (rest : List UInt8) :
    readStamp (dateTime tm ++ microText microseconds utc ++ rest) =
      some (.ofTm tm microseconds utc) := by
  obtain ⟨⟨sec_ge, sec_lt⟩, ⟨min_ge, min_lt⟩, ⟨hour_ge, hour_lt⟩, mday, mon, -, -, -⟩ := describes
  have day_pos := date.day_pos
  have day_le := day_le_31 date
  have month_pos := date.month_pos
  have month_le := date.month_le
  have two {n : Int} (lower : 0 ≤ n) (upper : n < 100) (rest : List UInt8) :
      readField 2 readInt (zeroPadded 2 n ++ rest) = some (n, rest) :=
    readField_append (length_zeroPadded (by decide) lower upper) (readInt_zeroPadded 2 lower) rest
  have six (rest : List UInt8) :
      readField 6 readInt (zeroPadded 6 microseconds ++ rest) = some (microseconds, rest) :=
    readField_append (length_zeroPadded (by decide) nonneg below) (readInt_zeroPadded 6 nonneg) rest
  have one (c : UInt8) (rest : List UInt8) :
      readField 1 (literal [c]) ([c] ++ rest) = some ((), rest) := by
    have same : literal [c] [c] = some () := if_pos rfl
    exact readField_append rfl same rest
  have mons := two (n := tm.tmMon + 1) (by omega) (by omega)
  have days := two (n := tm.tmMday) (by omega) (by omega)
  have hours := two hour_ge (by omega)
  have minutes := two min_ge (by omega)
  have seconds := two sec_ge (by omega)
  have year (rest : List UInt8) :
      readField 4 readInt (spacePadded 4 (tm.tmYear + 1900) ++ rest) =
        some (tm.tmYear + 1900, rest) := by
    refine readField_append ?_ (readInt_spacePadded 4 _) rest
    unfold dateTime at wide
    simp only [List.length_append, List.length_singleton] at wide
    rw [length_zeroPadded (by decide) (by omega) (by omega : tm.tmMon + 1 < 10 ^ 2),
      length_zeroPadded (by decide) (by omega) (by omega : tm.tmMday < 10 ^ 2),
      length_zeroPadded (by decide) hour_ge (by omega : tm.tmHour < 10 ^ 2),
      length_zeroPadded (by decide) min_ge (by omega : tm.tmMin < 10 ^ 2),
      length_zeroPadded (by decide) sec_ge (by omega : tm.tmSec < 10 ^ 2)] at wide
    omega
  unfold readStamp dateTime microText
  simp only [List.append_assoc, year, mons, days, hours, minutes, seconds, six, one,
    Option.bind_eq_bind, Option.bind_some]
  cases utc <;> rfl

/-- The stamp of a time in UTC gives the time. -/
theorem instant_ofTm (seconds microseconds : Int) (utc : Bool) :
    (Stamp.ofTm (gmtimeR seconds) microseconds utc).instant =
      seconds * 1000000 + microseconds := by
  have back : timegm (gmtimeR seconds) = seconds := timegm_gmtimeR seconds _ _ _
  unfold Stamp.instant Stamp.ofTm
  simp only [Int.add_sub_cancel]
  exact congrArg (· * 1000000 + microseconds) back

end NewFramework.Base
