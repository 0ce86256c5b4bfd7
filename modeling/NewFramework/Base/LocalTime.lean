import NewFramework.Base.TimeZone
import NewFramework.Lib.LowerBound

/-!
# `muduo::TimeZone`, the conversions to and from local time

These are from `muduo/base/TimeZone.cc`.  `gmtime_r` and `timegm` of the C library are those of the
proleptic calendar, with years of any size.  A function returns `none` where an assertion fails or
an element outside of a vector is used.
-/

namespace NewFramework.Base
open NewFramework.Lib

namespace TimeZone

/-! ## The C library -/

/-- The date of a Julian day number. -/
def dateOfJulianDay (n : Int) : GregorianDate :=
  (Parts.mk rfl rfl rfl rfl rfl : Parts n _ _ _ _ _).date

/-- `gmtime_r(&t, &tm)` -/
def gmtimeR (t : Int) : Tm := tmOf (dateOfJulianDay (julianDay t)) (t % kSecondsPerDay) true

/-- `timegm(&utc)`, which takes months outside of a year into the years. -/
def timegm (utc : Tm) : Int :=
  let year := utc.tmYear + 1900 + utc.tmMon / 12
  let days := Gregorian.daysBefore year +
    Gregorian.daysInMonths year (utc.tmMon % 12).toNat + utc.tmMday - 1
  (days + julianDayOfYear0 - Date.kJulianDayOf1970_01_01) * kSecondsPerDay +
    utc.tmHour * 3600 + utc.tmMin * 60 + utc.tmSec

/-! ## Zones -/

/-- `detail::Transition` -/
structure Transition where
  gmttime : Int
  localtime : Int
  localtimeIdx : Nat
  deriving DecidableEq, Repr

/-- `detail::Comp` -/
structure Comp where
  compareGmt : Bool

namespace Comp

/-- The time that is compared. -/
def key (comp : Comp) (transition : Transition) : Int :=
  if comp.compareGmt then transition.gmttime else transition.localtime

/-- `operator()(lhs, rhs)` -/
def less (comp : Comp) (lhs rhs : Transition) : Bool := comp.key lhs < comp.key rhs

/-- `equal(lhs, rhs)` -/
def equal (comp : Comp) (lhs rhs : Transition) : Bool := comp.key lhs = comp.key rhs

end Comp

/-- `detail::Localtime` -/
structure Localtime where
  gmtOffset : Int
  isDst : Bool
  arrbIdx : Nat
  deriving DecidableEq, Repr

/-- `TimeZone::Data` -/
structure Data where
  transitions : List Transition
  localtimes : List Localtime
  abbreviation : List UInt8
  deriving DecidableEq, Repr

/-- `findLocaltime(data, sentry, comp)` -/
def findLocaltime (data : Data) (sentry : Transition) (comp : Comp) : Option Localtime := do
  let front := data.transitions.head?
  if front.all (comp.less sentry) then data.localtimes.head?
  else
    let transI ← lowerBound (fun transition => comp.less transition sentry) data.transitions
    match data.transitions[transI]? with
    | some transition =>
      if comp.equal sentry transition then data.localtimes[transition.localtimeIdx]?
      else if transI = 0 then none
      else
        let transition ← data.transitions[transI - 1]?
        data.localtimes[transition.localtimeIdx]?
    | none =>
      let back ← data.transitions.getLast?
      data.localtimes[back.localtimeIdx]?

/-- The string that `&data.abbreviation[arrbIdx]` points to. -/
def zoneName (data : Data) (arrbIdx : Nat) : Option String :=
  if arrbIdx ≤ data.abbreviation.length then
    some (String.ofList (((data.abbreviation.drop arrbIdx).takeWhile (· ≠ 0)).map
      fun b => Char.ofNat b.toNat))
  else none

/-- `toLocalTime(seconds)` -/
def toLocalTime (data : Data) (seconds : Int) : Option Tm := do
  let sentry : Transition := ⟨seconds, 0, 0⟩
  let type ← findLocaltime data sentry ⟨true⟩
  let localSeconds := seconds + type.gmtOffset
  let zone ← zoneName data type.arrbIdx
  some { gmtimeR localSeconds with
    tmIsdst := if type.isDst then 1 else 0
    tmGmtoff := type.gmtOffset
    tmZone := some zone }

/-- `fromLocalTime(localTm)` -/
def fromLocalTime (data : Data) (localTm : Tm) : Option Int := do
  let seconds := timegm localTm
  let sentry : Transition := ⟨0, seconds, 0⟩
  let type ← findLocaltime data sentry ⟨false⟩
  if localTm.tmIsdst ≠ 0 then
    let tryTm ← toLocalTime data (seconds - type.gmtOffset)
    let seconds :=
      if tryTm.tmIsdst = 0 ∧ tryTm.tmHour = localTm.tmHour ∧ tryTm.tmMin = localTm.tmMin then
        seconds - 3600
      else seconds
    some (seconds - type.gmtOffset)
  else some (seconds - type.gmtOffset)

/-! ## The C library, back and forth -/

theorem dayNumber_dateOfJulianDay (n : Int) :
    (dateOfJulianDay n).dayNumber + julianDayOfYear0 = n :=
  Parts.date_dayNumber _

theorem timegm_gmtimeR (t : Int) (isdst gmtoff : Int) (zone : Option String) :
    timegm { gmtimeR t with tmIsdst := isdst, tmGmtoff := gmtoff, tmZone := zone } = t := by
  have number := dayNumber_dateOfJulianDay (julianDay t)
  obtain ⟨date, is_date⟩ : ∃ date, date = dateOfJulianDay (julianDay t) := ⟨_, rfl⟩
  rw [← is_date] at number
  have month_pos := date.month_pos
  have month_le := date.month_le
  have year : date.year - 1900 + 1900 + ((date.month : Int) - 1) / 12 = date.year := by omega
  have month : (((date.month : Int) - 1) % 12).toNat = date.month - 1 := by omega
  have whole := Int.ediv_mul_add_emod t kSecondsPerDay
  unfold GregorianDate.dayNumber GregorianDate.dayOfYear julianDay at number
  unfold timegm gmtimeR tmOf
  rw [← is_date]
  dsimp only
  rw [year, month]
  unfold kSecondsPerDay at *
  omega

/-! ## What `findLocaltime` finds -/

/-- The transition with the latest time that is not after `x`. -/
structure Latest (key : Transition → Int) (data : Data) (x : Int) (transition : Transition) :
    Prop where
  mem : transition ∈ data.transitions
  le : key transition ≤ x
  latest : ∀ other ∈ data.transitions, key other ≤ x → key other ≤ key transition

/-- The local-time type of a transition. -/
def typeOf (data : Data) (transition : Transition) : Option Localtime :=
  data.localtimes[transition.localtimeIdx]?

variable {data : Data} {x t : Int}

/-- Where the times increase, what is found at a place is the latest as soon as the next is not. -/
theorem latest_of_place {key : Transition → Int} {i : Nat} {transition : Transition}
    (increasing : data.transitions.Pairwise fun a b => key a < key b)
    (at_i : data.transitions[i]? = some transition) (le : key transition ≤ x)
    (next : ∀ other, data.transitions[i + 1]? = some other → x < key other) :
    Latest key data x transition := by
  obtain ⟨inside, rfl⟩ := List.getElem?_eq_some_iff.mp at_i
  refine ⟨List.getElem_mem inside, le, ?_⟩
  intro other mem other_le
  obtain ⟨j, at_j, rfl⟩ := List.mem_iff_getElem.mp mem
  rw [List.pairwise_iff_getElem] at increasing
  rcases lt_trichotomy i j with less | rfl | greater
  · have within : i + 1 < data.transitions.length := Nat.lt_of_le_of_lt less at_j
    have after := next _ (List.getElem?_eq_getElem within)
    rcases Nat.lt_or_eq_of_le (show i + 1 ≤ j from less) with further | rfl
    · have step := increasing (i + 1) j within at_j further
      omega
    · omega
  · exact le_refl _
  · exact (increasing j i at_j inside greater).le

/-- From the first transition on, the type of a transition that is not after the sentry; the next
one is, unless the times are equal. -/
theorem findLocaltime_place {comp : Comp} {sentry first : Transition}
    (head : data.transitions.head? = some first) (after : comp.key first ≤ comp.key sentry) :
    ∃ i transition, data.transitions[i]? = some transition ∧
      findLocaltime data sentry comp = typeOf data transition ∧
      (comp.key transition = comp.key sentry ∨ comp.key transition < comp.key sentry ∧
        ∀ other, data.transitions[i + 1]? = some other → comp.key sentry < comp.key other) := by
  obtain ⟨r, found, inside, before, behind⟩ :=
    lowerBound_spec (fun transition => comp.less transition sentry) data.transitions
  have late : ¬ (some first).all (comp.less sentry) := by
    simp only [Option.all_some, Comp.less, decide_eq_true_eq]
    omega
  simp only [Comp.less, decide_eq_true_eq, decide_eq_false_iff_not, not_lt] at before behind
  unfold findLocaltime
  simp only [head, if_neg late, found, Option.bind_eq_bind, Option.bind_some]
  rw [List.head?_eq_getElem?] at head
  cases at_r : data.transitions[r]? with
  | some transition =>
    dsimp only
    by_cases equal : comp.key sentry = comp.key transition
    · exact ⟨r, transition, at_r, if_pos (decide_eq_true equal), .inl equal.symm⟩
    · have greater := behind transition at_r
      cases r with
      | zero =>
        obtain rfl := Option.some.inj (at_r.symm.trans head)
        omega
      | succ r =>
        have at_before := List.getElem?_eq_getElem (Nat.lt_of_succ_le inside)
        refine ⟨r, _, at_before, ?_, .inr ⟨before _ (Nat.succ_pos r) at_before, ?_⟩⟩
        · rw [if_neg (by simpa only [Comp.equal, decide_eq_true_eq] using equal),
            if_neg (Nat.succ_ne_zero r), Nat.add_sub_cancel, at_before]
          rfl
        · intro other at_next
          obtain rfl := Option.some.inj (at_r.symm.trans at_next)
          omega
  | none =>
    have at_end := List.getElem?_eq_none_iff.mp at_r
    obtain rfl : r = data.transitions.length := Nat.le_antisymm inside at_end
    have nonempty : 0 < data.transitions.length := (List.getElem?_eq_some_iff.mp head).1
    have at_back := List.getElem?_eq_getElem (Nat.sub_lt nonempty Nat.one_pos)
    refine ⟨_, _, at_back, ?_, .inr ⟨before _ nonempty at_back, ?_⟩⟩
    · rw [List.getLast?_eq_getElem?, at_back]
      rfl
    · intro other at_next
      rw [Nat.sub_add_cancel nonempty, at_r] at at_next
      contradiction

/-- Where the times increase, `findLocaltime` finds the type of the latest transition. -/
theorem findLocaltime_latest {comp : Comp} {sentry first : Transition}
    (increasing : data.transitions.Pairwise fun a b => comp.key a < comp.key b)
    (head : data.transitions.head? = some first) (after : comp.key first ≤ comp.key sentry) :
    ∃ transition, Latest comp.key data (comp.key sentry) transition ∧
      findLocaltime data sentry comp = typeOf data transition := by
  obtain ⟨i, transition, at_i, found, equal | ⟨less, next⟩⟩ := findLocaltime_place head after
  · refine ⟨transition, latest_of_place increasing at_i equal.le ?_, found⟩
    intro other at_next
    obtain ⟨here, rfl⟩ := List.getElem?_eq_some_iff.mp at_i
    obtain ⟨there, rfl⟩ := List.getElem?_eq_some_iff.mp at_next
    rw [← equal]
    exact List.pairwise_iff_getElem.mp increasing i (i + 1) here there (Nat.lt_succ_self i)
  · exact ⟨transition, latest_of_place increasing at_i less.le next, found⟩

/-! ## Well-formed data -/

/-- There is a local-time type, and the indexes are in range. -/
structure InRange (data : Data) : Prop where
  localtimes : data.localtimes ≠ []
  localtimeIdx : ∀ transition ∈ data.transitions,
    transition.localtimeIdx < data.localtimes.length
  arrbIdx : ∀ type ∈ data.localtimes, type.arrbIdx < data.abbreviation.length

namespace InRange

variable (inRange : InRange data)

include inRange

/-- Whatever is looked for, in whatever order the transitions are, a local-time type is found. -/
theorem findLocaltime_mem (sentry : Transition) (comp : Comp) :
    ∃ type ∈ data.localtimes, findLocaltime data sentry comp = some type := by
  by_cases early : data.transitions.head?.all (comp.less sentry)
  · refine ⟨_, List.head_mem inRange.localtimes, ?_⟩
    unfold findLocaltime
    rw [if_pos early]
    exact List.head?_eq_some_head inRange.localtimes
  · obtain ⟨first, head⟩ : ∃ first, data.transitions.head? = some first := by
      cases head : data.transitions.head? with
      | none => exact absurd (head ▸ rfl) early
      | some first => exact ⟨first, rfl⟩
    have after : comp.key first ≤ comp.key sentry := by
      rw [head] at early
      exact not_lt.mp fun less => early (decide_eq_true less)
    obtain ⟨i, transition, at_i, found, -⟩ := findLocaltime_place head after
    have inside := inRange.localtimeIdx transition (List.mem_of_getElem? at_i)
    exact ⟨_, List.getElem_mem inside, found.trans (List.getElem?_eq_getElem inside)⟩

theorem toLocalTime_isSome (seconds : Int) : (toLocalTime data seconds).isSome := by
  obtain ⟨type, mem, found⟩ := inRange.findLocaltime_mem ⟨seconds, 0, 0⟩ ⟨true⟩
  unfold toLocalTime zoneName
  simp only [found, if_pos (inRange.arrbIdx type mem).le, Option.bind_eq_bind, Option.bind_some,
    Option.isSome_some]

theorem fromLocalTime_isSome (localTm : Tm) : (fromLocalTime data localTm).isSome := by
  obtain ⟨type, -, found⟩ := inRange.findLocaltime_mem ⟨0, timegm localTm, 0⟩ ⟨false⟩
  have tried := inRange.toLocalTime_isSome (timegm localTm - type.gmtOffset)
  obtain ⟨tryTm, converted⟩ := Option.isSome_iff_exists.mp tried
  unfold fromLocalTime
  simp only [found, converted, Option.bind_eq_bind, Option.bind_some]
  split <;> rfl

end InRange

/-- The local times are those of the types, and the times of the transitions increase, in UTC and
in local time. -/
structure WellFormed (data : Data) : Prop extends InRange data where
  shifted : ∀ transition ∈ data.transitions, ∀ type, typeOf data transition = some type →
    transition.localtime = transition.gmttime + type.gmtOffset
  increasing : ∀ comp : Comp, data.transitions.Pairwise fun a b => comp.key a < comp.key b

namespace WellFormed

variable (wellFormed : WellFormed data)

include wellFormed

/-- The two orders of the transitions are one. -/
theorem key_le (comp comp' : Comp) {a b : Transition} (mem_a : a ∈ data.transitions)
    (mem_b : b ∈ data.transitions) (le : comp.key a ≤ comp.key b) :
    comp'.key a ≤ comp'.key b := by
  obtain ⟨i, at_i, rfl⟩ := List.mem_iff_getElem.mp mem_a
  obtain ⟨j, at_j, rfl⟩ := List.mem_iff_getElem.mp mem_b
  rcases lt_trichotomy i j with less | rfl | greater
  · exact (List.pairwise_iff_getElem.mp (wellFormed.increasing comp') i j at_i at_j less).le
  · exact le_refl _
  · have more := List.pairwise_iff_getElem.mp (wellFormed.increasing comp) j i at_j at_i greater
    omega

theorem eq_of_key (comp : Comp) {a b : Transition} (mem_a : a ∈ data.transitions)
    (mem_b : b ∈ data.transitions) (eq : comp.key a = comp.key b) : a = b := by
  obtain ⟨i, at_i, rfl⟩ := List.mem_iff_getElem.mp mem_a
  obtain ⟨j, at_j, rfl⟩ := List.mem_iff_getElem.mp mem_b
  have increasing := List.pairwise_iff_getElem.mp (wellFormed.increasing comp)
  rcases lt_trichotomy i j with less | rfl | greater
  · exact absurd eq (increasing i j at_i at_j less).ne
  · rfl
  · exact absurd eq (increasing j i at_j at_i greater).ne'

theorem head_le (comp : Comp) {first transition : Transition}
    (head : data.transitions.head? = some first) (mem : transition ∈ data.transitions) :
    comp.key first ≤ comp.key transition := by
  have increasing := wellFormed.increasing comp
  obtain ⟨rest, eq⟩ := List.head?_eq_some_iff.mp head
  rw [eq] at mem increasing
  rcases List.mem_cons.mp mem with rfl | later
  · exact le_refl _
  · exact (List.rel_of_pairwise_cons increasing later).le

/-- From the first transition on there is a latest one. -/
theorem exists_latest (comp : Comp) {first : Transition}
    (head : data.transitions.head? = some first) (after : comp.key first ≤ x) :
    ∃ transition type, Latest comp.key data x transition ∧ typeOf data transition = some type ∧
      transition.localtime = transition.gmttime + type.gmtOffset := by
  have same : comp.key ⟨x, x, 0⟩ = x := ite_self x
  obtain ⟨transition, latest, -⟩ :=
    findLocaltime_latest (wellFormed.increasing comp) head (after.trans same.ge)
  rw [same] at latest
  have typed := List.getElem?_eq_getElem (wellFormed.localtimeIdx transition latest.mem)
  exact ⟨transition, _, latest, typed, wellFormed.shifted transition latest.mem _ typed⟩

theorem latest_unique (comp : Comp) {a b : Transition} (latest : Latest comp.key data x a)
    (latest' : Latest comp.key data x b) : a = b := by
  apply wellFormed.eq_of_key comp latest.mem latest'.mem
  exact le_antisymm (latest'.latest a latest.mem latest.le) (latest.latest b latest'.mem latest'.le)

theorem findLocaltime_eq {comp : Comp} {sentry transition : Transition} {type : Localtime}
    (latest : Latest comp.key data (comp.key sentry) transition)
    (typed : typeOf data transition = some type) : findLocaltime data sentry comp = some type := by
  obtain ⟨first, head⟩ : ∃ first, data.transitions.head? = some first :=
    Option.isSome_iff_exists.mp (List.isSome_head?.mpr (List.ne_nil_of_mem latest.mem))
  have after := (wellFormed.head_le comp head latest.mem).trans latest.le
  obtain ⟨found, latest', value⟩ :=
    findLocaltime_latest (wellFormed.increasing comp) head after
  obtain rfl := wellFormed.latest_unique comp latest' latest
  exact value.trans typed

/-- The local time of `t` has the type of its latest transition. -/
theorem toLocalTime_eq {transition : Transition} {type : Localtime}
    (latest : Latest Transition.gmttime data t transition)
    (typed : typeOf data transition = some type) :
    ∃ zone, toLocalTime data t = some { gmtimeR (t + type.gmtOffset) with
      tmIsdst := if type.isDst then 1 else 0
      tmGmtoff := type.gmtOffset
      tmZone := some zone } := by
  have found : findLocaltime data ⟨t, 0, 0⟩ ⟨true⟩ = some type :=
    wellFormed.findLocaltime_eq latest typed
  have inside := wellFormed.arrbIdx type (List.mem_of_getElem? typed)
  unfold toLocalTime zoneName
  simp only [found, if_pos inside.le, Option.bind_eq_bind, Option.bind_some]
  exact ⟨_, rfl⟩

end WellFormed

/-! ## Back and forth -/

/-- The minute of the day. -/
def minuteOfDay (seconds : Int) : Int := seconds % kSecondsPerDay / 60

theorem minuteOfDay_eq_iff (s s' : Int) :
    (gmtimeR s).tmHour = (gmtimeR s').tmHour ∧ (gmtimeR s).tmMin = (gmtimeR s').tmMin ↔
      minuteOfDay s = minuteOfDay s' := by
  unfold gmtimeR tmOf minuteOfDay
  dsimp only
  omega

/-- The type that `fromLocalTime` reads a local time with, and what it is corrected by. -/
theorem fromLocalTime_eq (wellFormed : WellFormed data) {seconds gmtoff isdst : Int}
    {zone : Option String} {read later : Transition} {readType laterType : Localtime}
    (latest : Latest Transition.localtime data seconds read)
    (typed : typeOf data read = some readType)
    (latest' : Latest Transition.gmttime data (seconds - readType.gmtOffset) later)
    (typed' : typeOf data later = some laterType) :
    fromLocalTime data { gmtimeR seconds with tmIsdst := isdst, tmGmtoff := gmtoff, tmZone := zone } =
      some ((if isdst ≠ 0 ∧ laterType.isDst = false ∧
          minuteOfDay (seconds - readType.gmtOffset + laterType.gmtOffset) = minuteOfDay seconds
        then seconds - 3600 else seconds) - readType.gmtOffset) := by
  have found : findLocaltime data ⟨0, seconds, 0⟩ ⟨false⟩ = some readType :=
    wellFormed.findLocaltime_eq latest typed
  obtain ⟨zone', tryTm⟩ := wellFormed.toLocalTime_eq latest' typed'
  unfold fromLocalTime
  simp only [timegm_gmtimeR, found, tryTm, Option.bind_eq_bind, Option.bind_some]
  by_cases dst : isdst = 0
  · rw [if_neg (not_not.mpr dst), if_neg (fun holds => holds.1 dst)]
  · rw [if_pos dst]
    refine congrArg (fun corrected => some (corrected - readType.gmtOffset)) (if_congr ?_ rfl rfl)
    refine Iff.trans (and_congr ?_ (minuteOfDay_eq_iff _ _)) (and_iff_right dst).symm
    cases laterType.isDst <;> decide

/-- The local time of `t`, read without daylight saving time, is another time of one hour more, and
it is the same minute of the day there, without daylight saving time. -/
structure Corrected (data : Data) (t : Int) (type : Localtime) (read later : Transition)
    (readType laterType : Localtime) : Prop where
  isDst : type.isDst = true
  reads : Latest Transition.localtime data (t + type.gmtOffset) read
  readsAs : typeOf data read = some readType
  hour : type.gmtOffset = readType.gmtOffset + 3600
  finds : Latest Transition.gmttime data (t + 3600) later
  findsAs : typeOf data later = some laterType
  notDst : laterType.isDst = false
  minute : minuteOfDay (t + 3600 + laterType.gmtOffset) = minuteOfDay (t + type.gmtOffset)

/-- The local time of `t` is before that of every later transition, or it is corrected. -/
def Resolved (data : Data) (t : Int) : Prop :=
  ∃ current type, Latest Transition.gmttime data t current ∧ typeOf data current = some type ∧
    ((∀ later ∈ data.transitions, t < later.gmttime → t + type.gmtOffset < later.localtime) ∨
      ∃ read later readType laterType, Corrected data t type read later readType laterType)

section

variable (wellFormed : WellFormed data) {current read : Transition} {type readType : Localtime}

include wellFormed

/-- A local time that is read with the type of a transition up to its own is read with its own. -/
theorem eq_of_early (latest : Latest Transition.gmttime data t current)
    (reads : Latest Transition.localtime data (t + type.gmtOffset) read)
    (shifted : current.localtime = current.gmttime + type.gmtOffset) (early : read.gmttime ≤ t) :
    read = current := by
  have le := latest.le
  have earlier := latest.latest read reads.mem early
  have earlier' := wellFormed.key_le ⟨true⟩ ⟨false⟩ reads.mem latest.mem earlier
  have later := reads.latest current latest.mem (by omega)
  exact wellFormed.eq_of_key ⟨false⟩ reads.mem latest.mem (le_antisymm earlier' later)

/-- The local time is read with another type than its own where it is that of a later transition. -/
theorem read_eq_iff (latest : Latest Transition.gmttime data t current)
    (reads : Latest Transition.localtime data (t + type.gmtOffset) read)
    (shifted : current.localtime = current.gmttime + type.gmtOffset) :
    read = current ↔
      ∀ later ∈ data.transitions, t < later.gmttime → t + type.gmtOffset < later.localtime := by
  constructor
  · rintro rfl later mem after
    by_contra before
    have earlier := reads.latest later mem (not_lt.mp before)
    have earlier' := wellFormed.key_le ⟨false⟩ ⟨true⟩ mem reads.mem earlier
    exact absurd (earlier'.trans latest.le) (not_le.mpr after)
  · intro before
    apply eq_of_early wellFormed latest reads shifted
    by_contra late
    exact absurd reads.le (not_le.mpr (before read reads.mem (not_le.mp late)))

/-- Only a correction by an hour brings back a time that is read as another. -/
theorem corrected_iff {later : Transition} {laterType : Localtime}
    (reads : Latest Transition.localtime data (t + type.gmtOffset) read)
    (readsAs : typeOf data read = some readType)
    (finds : Latest Transition.gmttime data (t + type.gmtOffset - readType.gmtOffset) later)
    (findsAs : typeOf data later = some laterType) :
    (type.isDst = true ∧ laterType.isDst = false ∧
      minuteOfDay (t + type.gmtOffset - readType.gmtOffset + laterType.gmtOffset) =
        minuteOfDay (t + type.gmtOffset)) ∧ type.gmtOffset = readType.gmtOffset + 3600 ↔
      ∃ read later readType laterType, Corrected data t type read later readType laterType := by
  constructor
  · rintro ⟨⟨isDst, notDst, minute⟩, hour⟩
    have anHour : t + type.gmtOffset - readType.gmtOffset = t + 3600 := by omega
    rw [anHour] at finds minute
    exact ⟨read, later, readType, laterType, isDst, reads, readsAs, hour, finds, findsAs, notDst,
      minute⟩
  · rintro ⟨read', later', readType', laterType', isDst, reads', readsAs', hour, finds', findsAs',
      notDst, minute⟩
    obtain rfl : read' = read := wellFormed.latest_unique ⟨false⟩ reads' reads
    obtain rfl := Option.some.inj (readsAs'.symm.trans readsAs)
    have anHour : t + type.gmtOffset - readType'.gmtOffset = t + 3600 := by omega
    rw [anHour] at finds ⊢
    obtain rfl : later' = later := wellFormed.latest_unique ⟨true⟩ finds' finds
    obtain rfl := Option.some.inj (findsAs'.symm.trans findsAs)
    exact ⟨⟨isDst, notDst, minute⟩, hour⟩

/-- The type that is read instead has less of an offset. -/
theorem offset_lt (latest : Latest Transition.gmttime data t current)
    (reads : Latest Transition.localtime data (t + type.gmtOffset) read)
    (shifted : current.localtime = current.gmttime + type.gmtOffset)
    (shifted' : read.localtime = read.gmttime + readType.gmtOffset) (other : read ≠ current) :
    readType.gmtOffset < type.gmtOffset := by
  have le_read := reads.le
  have late : t < read.gmttime := by
    by_contra early
    exact other (eq_of_early wellFormed latest reads shifted (not_lt.mp early))
  omega

/-- Where a time is read with its own type, and only there, the offset is taken back. -/
theorem unshifted_iff (latest : Latest Transition.gmttime data t current)
    (typed : typeOf data current = some type)
    (shifted : current.localtime = current.gmttime + type.gmtOffset) {later : Transition}
    {laterType : Localtime} (reads : Latest Transition.localtime data (t + type.gmtOffset) read)
    (readsAs : typeOf data read = some readType)
    (shifted' : read.localtime = read.gmttime + readType.gmtOffset)
    (finds : Latest Transition.gmttime data (t + type.gmtOffset - readType.gmtOffset) later)
    (findsAs : typeOf data later = some laterType) :
    ¬ (type.isDst = true ∧ laterType.isDst = false ∧
      minuteOfDay (t + type.gmtOffset - readType.gmtOffset + laterType.gmtOffset) =
        minuteOfDay (t + type.gmtOffset)) ∧ type.gmtOffset = readType.gmtOffset ↔
      read = current := by
  constructor
  · rintro ⟨-, equal⟩
    by_contra other
    exact absurd equal (offset_lt wellFormed latest reads shifted shifted' other).ne'
  · rintro rfl
    obtain rfl := Option.some.inj (readsAs.symm.trans typed)
    rw [Int.add_sub_cancel] at finds
    obtain rfl : later = read := wellFormed.latest_unique ⟨true⟩ finds latest
    obtain rfl := Option.some.inj (findsAs.symm.trans typed)
    refine ⟨?_, rfl⟩
    rintro ⟨isDst, notDst, -⟩
    exact absurd (isDst.symm.trans notDst) (by decide)

theorem resolved_iff (latest : Latest Transition.gmttime data t current)
    (typed : typeOf data current = some type) :
    Resolved data t ↔
      (∀ later ∈ data.transitions, t < later.gmttime → t + type.gmtOffset < later.localtime) ∨
        ∃ read later readType laterType,
          Corrected data t type read later readType laterType := by
  constructor
  · rintro ⟨current', type', latest', typed', resolved⟩
    obtain rfl : current' = current := wellFormed.latest_unique ⟨true⟩ latest' latest
    obtain rfl := Option.some.inj (typed'.symm.trans typed)
    exact resolved
  · intro resolved
    exact ⟨current, type, latest, typed, resolved⟩

end

/-- The result is `t` again where the hour and the difference of the offsets cancel out, or where
there is neither. -/
theorem taken_back_iff {offset offset' : Int} {corrected : Prop} [Decidable corrected] :
    (if corrected then t + offset - 3600 else t + offset) - offset' = t ↔
      (¬ corrected ∧ offset = offset') ∨ (corrected ∧ offset = offset' + 3600) := by
  by_cases yes : corrected
  · rw [if_pos yes, and_iff_right yes, or_iff_right (fun both => both.1 yes)]
    omega
  · rw [if_neg yes, and_iff_right yes, or_iff_left (fun both => yes both.1)]
    omega

/-- A time comes back from its local time exactly where it is resolved. -/
theorem fromLocalTime_toLocalTime_iff (wellFormed : WellFormed data) {first : Transition}
    (head : data.transitions.head? = some first) (after : first.gmttime ≤ t) :
    (toLocalTime data t).bind (fromLocalTime data) = some t ↔ Resolved data t := by
  obtain ⟨current, type, latest, typed, shifted⟩ := wellFormed.exists_latest ⟨true⟩ head after
  have first_le : first.localtime ≤ t + type.gmtOffset := by
    have earlier : first.localtime ≤ current.localtime := wellFormed.head_le ⟨false⟩ head latest.mem
    have le : current.gmttime ≤ t := latest.le
    omega
  obtain ⟨read, readType, reads, readsAs, shifted'⟩ :=
    wellFormed.exists_latest ⟨false⟩ head first_le
  have first_le' : first.gmttime ≤ t + type.gmtOffset - readType.gmtOffset := by
    have earlier : first.gmttime ≤ read.gmttime := wellFormed.head_le ⟨true⟩ head reads.mem
    have le : read.localtime ≤ t + type.gmtOffset := reads.le
    omega
  obtain ⟨later, laterType, finds, findsAs, -⟩ := wellFormed.exists_latest ⟨true⟩ head first_le'
  obtain ⟨zone, converted⟩ := wellFormed.toLocalTime_eq latest typed
  have flag : (if type.isDst then (1 : Int) else 0) ≠ 0 ↔ type.isDst = true := by
    cases type.isDst <;> decide
  rw [converted, Option.bind_some, fromLocalTime_eq wellFormed reads readsAs finds findsAs,
    resolved_iff wellFormed latest typed, ← read_eq_iff wellFormed latest reads shifted,
    ← corrected_iff wellFormed reads readsAs finds findsAs]
  simp only [flag, Option.some.injEq]
  rw [taken_back_iff,
    unshifted_iff wellFormed latest typed shifted reads readsAs shifted' finds findsAs]

/-- A zone whose clocks go back by an hour, from an offset with or without daylight saving time. -/
def backByAnHour (isDst : Bool) : Data where
  transitions := [⟨0, 3600, 0⟩, ⟨7200, 7200, 1⟩]
  localtimes := [⟨3600, isDst, 0⟩, ⟨0, false, 4⟩]
  -- "BST" and "GMT", each with its null character
  abbreviation := [66, 83, 84, 0, 71, 77, 84, 0]

theorem backByAnHour_wellFormed (isDst : Bool) : WellFormed (backByAnHour isDst) where
  localtimes := List.cons_ne_nil _ _
  localtimeIdx := by
    revert isDst
    decide
  arrbIdx := by
    revert isDst
    decide
  shifted := by
    intro transition mem type typed
    simp only [backByAnHour, List.mem_cons, List.not_mem_nil, or_false] at mem
    rcases mem with rfl | rfl
    all_goals
      obtain rfl := Option.some.inj typed
      rfl
  increasing := by
    rintro ⟨_ | _⟩
    all_goals
      cases isDst <;> decide

/-- In the hour that is there twice, daylight saving time is resolved. -/
theorem fromLocalTime_toLocalTime_iff_dst :
    (toLocalTime (backByAnHour true) 5400).bind (fromLocalTime (backByAnHour true)) = some 5400 ∧
      Resolved (backByAnHour true) 5400 := by
  have back : (toLocalTime (backByAnHour true) 5400).bind (fromLocalTime (backByAnHour true)) =
      some 5400 := by decide
  exact ⟨back, (fromLocalTime_toLocalTime_iff (backByAnHour_wellFormed true) rfl (by decide)).mp back⟩

/-- Without daylight saving time, half past the first of the two hours becomes half past the
second. -/
theorem not_fromLocalTime_toLocalTime :
    ¬ ∀ (data : Data) (first : Transition) (t : Int), WellFormed data →
      data.transitions.head? = some first → first.gmttime ≤ t →
        (toLocalTime data t).bind (fromLocalTime data) = some t := by
  intro all
  have back := all (backByAnHour false) ⟨0, 3600, 0⟩ 5400 (backByAnHour_wellFormed false) rfl
    (by decide)
  have value : (toLocalTime (backByAnHour false) 5400).bind (fromLocalTime (backByAnHour false)) =
      some 9000 := by decide
  exact absurd (back.symm.trans value) (by decide)

end TimeZone

end NewFramework.Base
