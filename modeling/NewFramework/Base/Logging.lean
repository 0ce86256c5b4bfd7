import NewFramework.Base.LogStamp
import NewFramework.Lib.Lines
import NewFramework.Lib.Run

/-!
# `muduo::Logger`

This is `muduo/base/Logging.cc`, with the buffers of `muduo/base/LogStream.h`.  Threads log, and the
level and the time zone are set meanwhile.  A line is put together in the buffer of a stream and
goes to the output when the logger is destroyed; an item that does not fit into the buffer is left
out, the line end too.  A thread keeps the text of the second it logged in last, `t_time`.

`formatTime` looks at `g_logTimeZone` up to three times, and nothing guards it: whether it is valid,
what time it has, and whether it is valid still.  Each look is a step of its own here, and so is the
assignment in `setTimeZone`.  A failed assertion ends the process: the step is not there.
-/

namespace NewFramework.Base
open NewFramework.Lib LogStream TimeZone

/-- The bytes of a string constant. -/
def constant (text : String) : List UInt8 := text.toList.map Char.toUInt8

/-! ## Streams -/

namespace LogStream

/-- `append(buf, len)` -/
def FixedBuffer.append (text : List UInt8) (b : FixedBuffer) : FixedBuffer :=
  if (text.length : Int) < b.avail then
    { data := b.data.take b.cur ++ text ++ b.data.drop (b.cur + text.length)
      cur := b.cur + text.length }
  else b

/-- `operator<<(v)` for a `double` that `snprintf` prints so. -/
def putDouble (text : List UInt8) (b : FixedBuffer) : FixedBuffer :=
  if (kMaxNumericSize : Int) ≤ b.avail then
    { b with data := storeString b.data b.cur text }.add text.length
  else b

end LogStream

/-- What is put into a stream. -/
inductive LogItem where
  /-- through `append`: strings, characters and truth values -/
  | text (text : List UInt8)
  | integer (T : IntegerType) (v : { v : Int // T.InRange v })
  | pointer (v : { v : Nat // v < 2 ^ 64 })
  /-- the text that the conversion `%.12g` gives -/
  | double (text : { text : List UInt8 // text ≠ [] ∧ text.length < kMaxNumericSize })

namespace LogItem

def put (b : FixedBuffer) : LogItem → Option FixedBuffer
  | text t => some (b.append t)
  | integer T v => LogStream.put T v.val b
  | pointer v => putPointer v.val b
  | double t => some (putDouble t.val b)

/-- The text of the item. -/
def shown : LogItem → List UInt8
  | text t => t
  | integer _ v => decimal v.val
  | pointer v => 48 :: 120 :: hexadecimal v.val
  | double t => t.val

/-- The room that is asked for. -/
def room : LogItem → Nat
  | text t => t.length + 1
  | integer .. | pointer _ | double _ => kMaxNumericSize

variable {size : Nat} {b : FixedBuffer}

theorem avail_iff (sound : b.Sound size) (room : Nat) :
    (room : Int) ≤ b.avail ↔ b.cur + room ≤ size := by
  have whole := sound.whole
  unfold FixedBuffer.avail
  omega

theorem append_eq (sound : b.Sound size) (t : List UInt8) :
    (b.append t).Sound size ∧
      (b.append t).text = b.text ++ if b.cur + (t.length + 1) ≤ size then t else [] := by
  have fits := avail_iff sound (t.length + 1)
  have whole := sound.whole
  have inside := sound.inside
  unfold FixedBuffer.append
  by_cases room : (t.length : Int) < b.avail
  · have enough : b.cur + (t.length + 1) ≤ size := fits.mp (by omega)
    have before : (b.data.take b.cur ++ t).length = b.cur + t.length := by
      rw [List.length_append, List.length_take_of_le (by omega)]
    rw [if_pos room, if_pos enough]
    refine ⟨⟨?_, Nat.le_of_lt enough⟩, List.take_left' before⟩
    rw [List.length_append, before, List.length_drop]
    omega
  · rw [if_neg room, if_neg (by omega), List.append_nil]
    exact ⟨sound, rfl⟩

/-- Either the text stands behind what was there, or nothing does. -/
theorem put_eq (item : LogItem) (sound : b.Sound size) :
    ∃ b', item.put b = some b' ∧ b'.Sound size ∧
      b'.text = b.text ++ if b.cur + item.room ≤ size then item.shown else [] := by
  have numeric := avail_iff sound kMaxNumericSize
  cases item with
  | text t =>
    obtain ⟨sound', text⟩ := append_eq sound t
    exact ⟨_, rfl, sound', text⟩
  | integer T v =>
    rw [put, LogStream.put_eq v.property]
    by_cases room : (kMaxNumericSize : Int) ≤ b.avail
    · obtain ⟨b', formatted, appended⟩ := formatInteger_appends v.property sound room
      refine ⟨b', formatted, appended.sound, ?_⟩
      rw [LogItem.room, if_pos (numeric.mp room)]
      exact appended.text
    · refine ⟨b, if_neg room, sound, ?_⟩
      rw [LogItem.room, if_neg (mt numeric.mpr room), List.append_nil]
  | pointer v =>
    by_cases room : (kMaxNumericSize : Int) ≤ b.avail
    · obtain ⟨b', formatted, appended⟩ := putPointer_appends v.property sound room
      refine ⟨b', formatted, appended.sound, ?_⟩
      rw [LogItem.room, if_pos (numeric.mp room)]
      exact appended.text
    · refine ⟨b, if_neg room, sound, ?_⟩
      rw [LogItem.room, if_neg (mt numeric.mpr room), List.append_nil]
  | double t =>
    refine ⟨_, rfl, ?_⟩
    unfold putDouble
    by_cases room : (kMaxNumericSize : Int) ≤ b.avail
    · have enough := numeric.mp room
      have short := t.property.2
      have appended := appended_storeString sound (by omega : b.cur + t.val.length < size)
      rw [if_pos room, LogItem.room, if_pos enough]
      exact ⟨appended.sound, appended.text⟩
    · rw [if_neg room, LogItem.room, if_neg (mt numeric.mpr room), List.append_nil]
      exact ⟨sound, rfl⟩

/-- An item that fits leaves room for the zero byte. -/
theorem shown_lt_room (item : LogItem) : item.shown.length < item.room := by
  cases item with
  | text t => exact Nat.lt_succ_self _
  | integer T v =>
    have length := decimal_length_le v.property
    rw [shown, room, kMaxNumericSize]
    omega
  | pointer v =>
    have length := hexadecimal_length_le v.property
    rw [shown, room, List.length_cons, List.length_cons, kMaxNumericSize]
    omega
  | double t => exact t.property.2

/-- Only a text may be empty, and then it needs no more than one byte. -/
theorem shown_pos_or (item : LogItem) : 0 < item.shown.length ∨ item.room = 1 := by
  cases item with
  | text t =>
    rw [shown, room]
    omega
  | integer T v =>
    left
    rw [shown, decimal_length]
    omega
  | pointer v => exact .inl (Nat.succ_pos _)
  | double t => exact .inl (List.length_pos_iff.mpr t.property.1)

end LogItem

/-- What is left of items in a buffer that is filled up to `cur`. -/
def fitting (size : Nat) : Nat → List LogItem → List UInt8
  | _, [] => []
  | cur, item :: items =>
    if cur + item.room ≤ size then item.shown ++ fitting size (cur + item.shown.length) items
    else fitting size cur items

/-- All of the items fit. -/
def AllFit (size : Nat) : Nat → List LogItem → Prop
  | _, [] => True
  | cur, item :: items => cur + item.room ≤ size ∧ AllFit size (cur + item.shown.length) items

instance decidableAllFit (size : Nat) : ∀ cur items, Decidable (AllFit size cur items)
  | _, [] => isTrue trivial
  | cur, item :: items =>
    have := decidableAllFit size (cur + item.shown.length) items
    inferInstanceAs (Decidable (_ ∧ _))

/-- Putting items one by one leaves what is left of them. -/
theorem putAll_eq {size : Nat} (items : List LogItem) {b : FixedBuffer} (sound : b.Sound size) :
    ∃ b', items.foldlM LogItem.put b = some b' ∧ b'.text = b.text ++ fitting size b.cur items := by
  induction items generalizing b with
  | nil => exact ⟨b, rfl, (List.append_nil _).symm⟩
  | cons item items ih =>
    obtain ⟨b₁, first, sound₁, text₁⟩ := item.put_eq sound
    obtain ⟨b', later, text'⟩ := ih sound₁
    refine ⟨b', ?_, ?_⟩
    · rw [List.foldlM_cons, first]
      exact later
    · have place : ∀ {b : FixedBuffer}, b.Sound size → b.text.length = b.cur := fun sound =>
        List.length_take_of_le (sound.whole ▸ sound.inside)
      have cur := place sound₁
      rw [text₁, List.length_append, place sound] at cur
      rw [text', text₁, fitting, ← cur]
      split
      · rw [List.append_assoc]
      · rw [List.append_nil, List.length_nil, Nat.add_zero]

theorem length_fitting_le (size cur : Nat) (items : List LogItem) :
    (fitting size cur items).length ≤ (items.flatMap LogItem.shown).length := by
  induction items generalizing cur with
  | nil => exact Nat.le_refl _
  | cons item items ih =>
    rw [fitting, List.flatMap_cons, List.length_append]
    split
    · rw [List.length_append]
      exact Nat.add_le_add_left (ih _) _
    · exact Nat.le_trans (ih cur) (Nat.le_add_left _ _)

/-- Everything is left where everything fits, and only there. -/
theorem fitting_eq_iff {size cur : Nat} {items : List LogItem} (inside : cur < size) :
    fitting size cur items = items.flatMap LogItem.shown ↔ AllFit size cur items := by
  induction items generalizing cur with
  | nil => exact iff_of_true rfl trivial
  | cons item items ih =>
    rw [fitting, List.flatMap_cons, AllFit]
    by_cases room : cur + item.room ≤ size
    · have behind := item.shown_lt_room
      rw [if_pos room, List.append_cancel_left_eq, ih (by omega), and_iff_right room]
    · rw [if_neg room]
      refine iff_of_false ?_ fun both => room both.1
      intro same
      have length := congrArg List.length same
      have less := length_fitting_le size cur items
      rw [List.length_append] at length
      rcases item.shown_pos_or with pos | one <;> omega

/-! ## Loggers -/

inductive LogLevel where
  | trace
  | debug
  | info
  | warn
  | error
  | fatal
  deriving DecidableEq

namespace LogLevel

def number : LogLevel → Nat
  | trace => 0
  | debug => 1
  | info => 2
  | warn => 3
  | error => 4
  | fatal => 5

/-- `LogLevelName` -/
def name : LogLevel → List UInt8
  | trace => constant "TRACE "
  | debug => constant "DEBUG "
  | info => constant "INFO  "
  | warn => constant "WARN  "
  | error => constant "ERROR "
  | fatal => constant "FATAL "

end LogLevel

/-- `LOG_TRACE` and the others. -/
inductive LogMacro where
  | trace
  | debug
  | info
  | warn
  | error
  | fatal
  | sysErr
  | sysFatal
  deriving DecidableEq

namespace LogMacro

def level : LogMacro → LogLevel
  | trace => .trace
  | debug => .debug
  | info => .info
  | warn => .warn
  | error | sysErr => .error
  | fatal | sysFatal => .fatal

/-- The macros up to `LOG_INFO` ask `logLevel()`. -/
def enabled (logLevel : LogLevel) : LogMacro → Bool
  | trace => logLevel.number ≤ LogLevel.trace.number
  | debug => logLevel.number ≤ LogLevel.debug.number
  | info => logLevel.number ≤ LogLevel.info.number
  | _ => true

def withFunc : LogMacro → Bool
  | trace | debug => true
  | _ => false

def withErrno : LogMacro → Bool
  | sysErr | sysFatal => true
  | _ => false

end LogMacro

/-- A statement that logs, with what it finds. -/
structure LogCall where
  /-- `Timestamp::now()`, which is after 1970 -/
  now : Nat
  errno : { v : Int // IntegerType.int.InRange v }
  strerror : List UInt8
  func : List UInt8
  file : List UInt8
  line : { v : Int // IntegerType.int.InRange v }
  items : List LogItem

namespace LogCall

def seconds (call : LogCall) : Int := (call.now / 1000000 : Nat)

def microseconds (call : LogCall) : Int := (call.now % 1000000 : Nat)

end LogCall

/-- What is behind the last slash of `__FILE__`. -/
def basename (file : List UInt8) : List UInt8 := (file.reverse.takeWhile (· ≠ 47)).reverse

/-- `t_tidString` -/
def tidString (tid : Nat) : List UInt8 := spacePadded 5 tid ++ [32]

/-- `t_lastSecond` and `t_time` of a thread, and the zone it has the time of. -/
structure TimeCache where
  lastSecond : Int
  time : List UInt8
  zone : Option (Option Data)

namespace TimeCache

def new : TimeCache := ⟨0, [], none⟩

end TimeCache

/-- The local time, or that in UTC. -/
def localTime (zone : Option Data) (seconds : Int) : Option Tm :=
  match zone with
  | some data => toLocalTime data seconds
  | none => some (gmtimeR seconds)

/-- The first half of `formatTime()`, behind `g_logTimeZone.valid()` and what that was. -/
def formatSecond (valid : Bool) (zone : Option Data) (seconds : Int) : Option TimeCache :=
  -- `assert(data_ != NULL)`
  if valid ∧ zone.isNone then none
  else
    let zone := if valid then zone else none
    match localTime zone seconds with
    | none => none
    | some tm =>
      -- `assert(len == 17)`
      if (dateTime tm).length = 17 then some ⟨seconds, dateTime tm, some zone⟩ else none

/-- The items of a line, but for its end. -/
def lineItems (tid : Nat) (how : LogMacro) (call : LogCall) (time : List UInt8) (utc : Bool) :
    List LogItem :=
  [.text time, .text (microText call.microseconds utc), .text (tidString tid),
    .text how.level.name] ++
  (if how.withErrno ∧ call.errno.val ≠ 0 then
    [.text call.strerror, .text (constant " (errno="), .integer .int call.errno,
      .text (constant ") ")]
  else []) ++
  (if how.withFunc then [.text call.func, .text [32]] else []) ++
  call.items ++
  [.text (constant " - "), .text (basename call.file), .text [58], .integer .int call.line]

def lineEnd : LogItem := .text [10]

/-- A logger, with the time and the zone mark that `formatTime()` has put into its stream. -/
structure LogLine where
  how : LogMacro
  call : LogCall
  time : List UInt8
  utc : Bool

namespace LogLine

def stamp (line : LogLine) : List UInt8 := line.time ++ microText line.call.microseconds line.utc

def items (tid : Nat) (line : LogLine) : List LogItem :=
  lineItems tid line.how line.call line.time line.utc

end LogLine

/-- Where a thread is in a logger's constructor. -/
inductive LogStage where
  | outside
  /-- the level is enabled -/
  | entered (how : LogMacro) (call : LogCall)
  /-- the second is another one, and `g_logTimeZone.valid()` was this -/
  | asked (how : LogMacro) (call : LogCall) (valid : Bool)
  /-- `t_time` is that of the second -/
  | dated (how : LogMacro) (call : LogCall)

structure Logging where
  /-- `g_logTimeZone`, if it is valid -/
  zone : Option Data
  /-- `g_logLevel` -/
  level : LogLevel
  caches : Nat → TimeCache
  stages : Nat → LogStage
  /-- the loggers of a thread, the last one first: an item of a line may log itself -/
  loggers : Nat → List LogLine
  out : List UInt8
  aborted : Bool
  /-- the lines as they were meant -/
  logged : List (List UInt8)

namespace Logging

def new (level : LogLevel) : Logging :=
  ⟨none, level, fun _ => .new, fun _ => .outside, fun _ => [], [], false, []⟩

inductive Act where
  /-- the test of a macro, and `Timestamp::now()` -/
  | enter (tid : Nat) (how : LogMacro) (call : LogCall)
  /-- the first look at the zone, if the second is another one -/
  | ask (tid : Nat)
  | convert (tid : Nat)
  /-- the last look at the zone -/
  | stamp (tid : Nat)
  /-- the destructor -/
  | output (tid : Nat)
  | setTimeZone (zone : Option Data)
  | setLogLevel (level : LogLevel)

/-- A thread is at another place in the constructor. -/
def moveTo (s : Logging) (tid : Nat) (stage : LogStage) : Logging :=
  { s with stages := Function.update s.stages tid stage }

def step (s : Logging) (a : Act) : Option Logging :=
  if s.aborted then none
  else
    match a with
    | .enter tid how call =>
      match s.stages tid with
      | .outside => some (if how.enabled s.level then s.moveTo tid (.entered how call) else s)
      | _ => none
    | .ask tid =>
      match s.stages tid with
      | .entered how call =>
        if call.seconds ≠ (s.caches tid).lastSecond then
          some (s.moveTo tid (.asked how call s.zone.isSome))
        else some (s.moveTo tid (.dated how call))
      | _ => none
    | .convert tid =>
      match s.stages tid with
      | .asked how call valid =>
        (formatSecond valid s.zone call.seconds).map fun cache =>
          { s.moveTo tid (.dated how call) with caches := Function.update s.caches tid cache }
      | _ => none
    | .stamp tid =>
      match s.stages tid with
      | .dated how call =>
        let time := (s.caches tid).time
        -- the assertion of `T`
        if time.length = 17 then
          some { s.moveTo tid .outside with
            loggers := Function.update s.loggers tid
              (⟨how, call, time, s.zone.isNone⟩ :: s.loggers tid) }
        else none
      | _ => none
    | .output tid =>
      match s.stages tid, s.loggers tid with
      | .outside, line :: loggers => do
        let items := line.items tid
        let buffer ← (items ++ [lineEnd]).foldlM LogItem.put (FixedBuffer.new kSmallBuffer)
        some { s with
          loggers := Function.update s.loggers tid loggers
          out := s.out ++ buffer.text
          aborted := line.how.level = .fatal
          logged := s.logged ++ [items.flatMap LogItem.shown] }
      | _, _ => none
    | .setTimeZone zone => some { s with zone := zone }
    | .setLogLevel level => some { s with level := level }

/-! ## Stamps -/

/-- What is read from a broken-down time, but for the microseconds. -/
def civil (zone : Option Data) (seconds : Int) : Option Stamp :=
  (localTime zone seconds).map fun tm => .ofTm tm 0 true

/-- The stamp that a statement puts into its stream has the time and date that it is in the present
zone; in UTC, the very time.  The line of a logger begins with its stamp. -/
def Stamped (s : Logging) (a : Act) (s' : Logging) : Prop :=
  match a with
  | .stamp tid => ∀ line ∈ (s'.loggers tid).head?, ∃ tm,
      localTime s.zone line.call.seconds = some tm ∧
      readStamp line.stamp = some (.ofTm tm line.call.microseconds s.zone.isNone) ∧
      (s.zone = none → (Stamp.ofTm tm line.call.microseconds true).instant = line.call.now)
  | .output tid => ∀ line ∈ (s.loggers tid).head?, ∃ rest, s'.out = s.out ++ (line.stamp ++ rest)
  | _ => True

/-- The condition on a step: the text that the thread has of the second is not that of a zone that
has another time and date in it than the present one. -/
def Fresh (s : Logging) : Act → Prop
  | .stamp tid => ∀ how call, s.stages tid = .dated how call →
      ∀ zone ∈ (s.caches tid).zone, civil zone call.seconds = civil s.zone call.seconds
  | _ => True

end Logging

/-- The text is that of the second, in the zone. -/
structure TimeCache.Holds (cache : TimeCache) (zone : Option Data) (tm : Tm) : Prop where
  of_zone : cache.zone = some zone
  shown : localTime zone cache.lastSecond = some tm
  time : cache.time = dateTime tm
  wide : (dateTime tm).length = 17

/-- Nothing was formatted, or the text is right. -/
def TimeCache.Sound (cache : TimeCache) : Prop :=
  cache.zone = none ∧ cache.time = [] ∨ ∃ zone tm, cache.Holds zone tm

theorem TimeCache.Sound.holds {cache : TimeCache} (sound : cache.Sound)
    (wide : cache.time.length = 17) : ∃ zone tm, cache.Holds zone tm := by
  rcases sound with ⟨-, empty⟩ | holds
  · rw [empty] at wide
    contradiction
  · exact holds

theorem localTime_describes {zone : Option Data} {seconds : Int} {tm : Tm}
    (shown : localTime zone seconds = some tm) : ∃ date, Describes tm date := by
  have of_gmtime (t : Int) : Describes (gmtimeR t) (dateOfJulianDay (julianDay t)) :=
    tmOf_describes _ (Int.emod_nonneg _ (by decide)) (Int.emod_lt_of_pos _ (by decide))
  cases zone with
  | none =>
    obtain rfl := Option.some.inj shown
    exact ⟨_, of_gmtime seconds⟩
  | some data =>
    simp only [localTime, toLocalTime, Option.bind_eq_bind, Option.bind_eq_some_iff,
      Option.some.injEq] at shown
    obtain ⟨type, -, name, -, rfl⟩ := shown
    have describes := of_gmtime (seconds + type.gmtOffset)
    exact ⟨_, { describes with }⟩

/-- What is formatted is the time of the second, in the zone that was found. -/
theorem formatSecond_holds {valid : Bool} {zone : Option Data} {seconds : Int} {cache : TimeCache}
    (formatted : formatSecond valid zone seconds = some cache) :
    cache.lastSecond = seconds ∧ ∃ zone tm, cache.Holds zone tm := by
  simp only [formatSecond] at formatted
  split at formatted
  · contradiction
  · split at formatted
    · contradiction
    · next tm shown =>
      obtain ⟨wide, rfl⟩ := some_of_guard formatted
      exact ⟨rfl, _, tm, rfl, shown, rfl, wide⟩

/-- A line begins with its stamp. -/
theorem LogLine.fitting_items (tid : Nat) {line : LogLine} (wide : line.time.length = 17) :
    ∃ rest, fitting kSmallBuffer 0 (line.items tid ++ [lineEnd]) = line.stamp ++ rest := by
  have micros : (microText line.call.microseconds line.utc).length ≤ 9 := by
    have length : (zeroPadded 6 line.call.microseconds).length = 6 := by
      apply length_zeroPadded (by decide)
      · exact Int.natCast_nonneg _
      · unfold LogCall.microseconds
        omega
    unfold microText
    rw [List.length_append, List.length_append, length]
    cases line.utc <;> decide
  unfold LogLine.items lineItems LogLine.stamp
  simp only [List.cons_append, fitting, LogItem.room, LogItem.shown, wide]
  rw [if_pos (by decide), if_pos (by unfold kSmallBuffer; omega)]
  exact ⟨_, (List.append_assoc ..).symm⟩

namespace Logging

variable {s s' : Logging} {tid : Nat}

/-- What each step does. -/
inductive Turn (s : Logging) : Act → Logging → Prop
  | skip (tid : Nat) (how : LogMacro) (call : LogCall) : Turn s (.enter tid how call) s
  | enter (tid : Nat) (how : LogMacro) (call : LogCall) :
      Turn s (.enter tid how call) (s.moveTo tid (.entered how call))
  | ask (tid : Nat) (how : LogMacro) (call : LogCall) (valid : Bool) :
      Turn s (.ask tid) (s.moveTo tid (.asked how call valid))
  | keep {tid : Nat} {call : LogCall} (how : LogMacro)
      (same : (s.caches tid).lastSecond = call.seconds) :
      Turn s (.ask tid) (s.moveTo tid (.dated how call))
  | convert {tid : Nat} {how : LogMacro} {call : LogCall} {valid : Bool} {cache : TimeCache}
      (asked : s.stages tid = .asked how call valid)
      (formatted : formatSecond valid s.zone call.seconds = some cache) :
      Turn s (.convert tid)
        { s.moveTo tid (.dated how call) with caches := Function.update s.caches tid cache }
  | stamp {tid : Nat} {how : LogMacro} {call : LogCall} (dated : s.stages tid = .dated how call)
      (wide : (s.caches tid).time.length = 17) :
      Turn s (.stamp tid) { s.moveTo tid .outside with
        loggers := Function.update s.loggers tid
          (⟨how, call, (s.caches tid).time, s.zone.isNone⟩ :: s.loggers tid) }
  | output {tid : Nat} {line : LogLine} {loggers : List LogLine}
      (first : s.loggers tid = line :: loggers) :
      Turn s (.output tid) { s with
        loggers := Function.update s.loggers tid loggers
        out := s.out ++ fitting kSmallBuffer 0 (line.items tid ++ [lineEnd])
        aborted := line.how.level = .fatal
        logged := s.logged ++ [(line.items tid).flatMap LogItem.shown] }
  | setTimeZone (zone : Option Data) : Turn s (.setTimeZone zone) { s with zone := zone }
  | setLogLevel (level : LogLevel) : Turn s (.setLogLevel level) { s with level := level }

theorem turn_of_step {a : Act} (moved : s.step a = some s') : s.Turn a s' := by
  unfold step at moved
  split at moved
  · contradiction
  cases a with
  | enter tid how call =>
    dsimp only at moved
    split at moved
    · split at moved <;> obtain rfl := Option.some.inj moved
      · exact .enter ..
      · exact .skip ..
    · contradiction
  | ask tid =>
    dsimp only at moved
    split at moved
    · split at moved <;> obtain rfl := Option.some.inj moved
      · exact .ask ..
      · next same => exact .keep _ (not_not.mp same).symm
    · contradiction
  | convert tid =>
    dsimp only at moved
    split at moved
    · next asked =>
      obtain ⟨cache, formatted, rfl⟩ := Option.map_eq_some_iff.mp moved
      exact .convert asked formatted
    · contradiction
  | stamp tid =>
    dsimp only at moved
    split at moved
    · next dated =>
      obtain ⟨wide, rfl⟩ := some_of_guard moved
      exact .stamp dated wide
    · contradiction
  | output tid =>
    dsimp only at moved
    split at moved
    · next line loggers _ first =>
      simp only [Option.bind_eq_bind, Option.bind_eq_some_iff, Option.some.injEq] at moved
      obtain ⟨buffer, filled, rfl⟩ := moved
      have sound : (FixedBuffer.new kSmallBuffer).Sound kSmallBuffer :=
        ⟨List.length_replicate, Nat.zero_le _⟩
      obtain ⟨buffer', filled', text⟩ := putAll_eq (line.items tid ++ [lineEnd]) sound
      obtain rfl := Option.some.inj (filled.symm.trans filled')
      rw [text]
      exact .output first
    · contradiction
  | setTimeZone zone =>
    obtain rfl := Option.some.inj moved
    exact .setTimeZone zone
  | setLogLevel level =>
    obtain rfl := Option.some.inj moved
    exact .setLogLevel level

/-- The caches of the threads are right, and so are the stamps of their loggers. -/
structure Timed (s : Logging) : Prop where
  sound : ∀ tid, (s.caches tid).Sound
  dated : ∀ tid how call, s.stages tid = .dated how call →
    (s.caches tid).lastSecond = call.seconds
  wide : ∀ tid, ∀ line ∈ s.loggers tid, line.time.length = 17

theorem timed_new (level : LogLevel) : Timed (new level) where
  sound _ := .inl ⟨rfl, rfl⟩
  dated _ _ _ stage := nomatch stage
  wide _ _ mem := nomatch mem

theorem Timed.moveTo {stage : LogStage} (timed : s.Timed)
    (same : ∀ how call, stage = .dated how call → (s.caches tid).lastSecond = call.seconds) :
    (s.moveTo tid stage).Timed where
  sound := timed.sound
  dated other how call at_ := by
    change Function.update s.stages tid stage other = _ at at_
    rw [Function.update_apply] at at_
    split at at_
    · next it =>
      subst it
      exact same how call at_
    · exact timed.dated other how call at_
  wide := timed.wide

theorem Timed.step {a : Act} (timed : s.Timed) (moved : s.step a = some s') : s'.Timed := by
  cases turn_of_step moved with
  | skip => exact timed
  | enter tid how call | ask tid how call => exact timed.moveTo fun _ _ dated => nomatch dated
  | keep how same =>
    apply timed.moveTo
    rintro _ _ ⟨⟩
    exact same
  | @convert tid how call valid cache asked formatted =>
    obtain ⟨same, holds⟩ := formatSecond_holds formatted
    have cached : Timed { s with caches := Function.update s.caches tid cache } := by
      refine ⟨fun other => ?_, fun other how call dated => ?_, timed.wide⟩
      · show (Function.update s.caches tid cache other).Sound
        rw [Function.update_apply]
        split
        · exact .inr holds
        · exact timed.sound other
      · show (Function.update s.caches tid cache other).lastSecond = _
        rw [Function.update_of_ne]
        · exact timed.dated other how call dated
        · rintro rfl
          exact nomatch asked.symm.trans dated
    apply cached.moveTo
    rintro _ _ ⟨⟩
    show (Function.update s.caches tid cache tid).lastSecond = _
    rw [Function.update_self, same]
  | @stamp tid how call dated wide =>
    have moved := @Timed.moveTo s tid .outside timed fun _ _ dated => nomatch dated
    refine ⟨moved.sound, moved.dated, fun other line mem => ?_⟩
    change line ∈ Function.update s.loggers tid _ other at mem
    rw [Function.update_apply] at mem
    split at mem
    · next it =>
      rcases List.mem_cons.mp mem with rfl | old
      · exact wide
      · exact timed.wide tid line old
    · exact timed.wide other line mem
  | @output tid first loggers here =>
    refine ⟨timed.sound, timed.dated, fun other line mem => ?_⟩
    change line ∈ Function.update s.loggers tid _ other at mem
    rw [Function.update_apply] at mem
    split at mem
    · exact timed.wide tid line (here ▸ List.mem_cons_of_mem first mem)
    · exact timed.wide other line mem
  | setTimeZone | setLogLevel => exact ⟨timed.sound, timed.dated, timed.wide⟩

/-- A stamp shows the time that the thread has the text of, which may be that in another zone. -/
theorem Timed.stamped_iff {a : Act} (timed : s.Timed) (moved : s.step a = some s') :
    Stamped s a s' ↔ Fresh s a := by
  cases turn_of_step moved with
  | skip | enter | ask | keep | convert | setTimeZone | setLogLevel => exact Iff.rfl
  | @output tid line loggers first =>
    refine iff_of_true ?_ trivial
    intro line' mem
    obtain rfl : line' = line := by simpa [first, eq_comm] using mem
    obtain ⟨rest, eq⟩ := LogLine.fitting_items tid (timed.wide tid line' (by simp [first]))
    exact ⟨rest, congrArg (s.out ++ ·) eq⟩
  | @stamp tid how call dated wide =>
    obtain ⟨zone, tm, holds⟩ := (timed.sound tid).holds wide
    obtain ⟨date, describes⟩ := localTime_describes holds.shown
    have shown := holds.shown
    rw [timed.dated tid how call dated] at shown
    have read : readStamp (LogLine.stamp ⟨how, call, (s.caches tid).time, s.zone.isNone⟩) =
        some (.ofTm tm call.microseconds s.zone.isNone) := by
      have back := readStamp_dateTime describes holds.wide (Int.natCast_nonneg _)
        (by omega : ((call.now % 1000000 : Nat) : Int) < 1000000) s.zone.isNone []
      rw [List.append_nil, ← holds.time] at back
      exact back
    let line : LogLine := ⟨how, call, (s.caches tid).time, s.zone.isNone⟩
    have top : (Function.update s.loggers tid (line :: s.loggers tid) tid).head? = some line := by
      rw [Function.update_self]
      rfl
    constructor
    · intro stamped how' call' dated' zone' mem
      obtain ⟨rfl, rfl⟩ := LogStage.dated.inj (dated.symm.trans dated')
      obtain ⟨tm', shown', read', -⟩ := stamped line top
      obtain rfl := Option.some.inj (holds.of_zone.symm.trans mem)
      rw [civil, civil, shown, shown', Option.map_some, Option.map_some]
      exact congrArg some (Stamp.ofTm_congr (Option.some.inj (read.symm.trans read')))
    · intro fresh line' mem
      obtain rfl : line = line' := Option.some.inj (top.symm.trans mem)
      have civil_eq := fresh how call dated zone holds.of_zone
      rw [civil, shown, Option.map_some, eq_comm] at civil_eq
      obtain ⟨tm', shown', alike⟩ := Option.map_eq_some_iff.mp civil_eq
      refine ⟨tm', shown', read.trans (congrArg some (Stamp.ofTm_congr alike.symm)), ?_⟩
      intro utc
      rw [utc] at shown'
      obtain rfl := Option.some.inj shown'
      show (Stamp.ofTm _ call.microseconds true).instant = (call.now : Int)
      rw [instant_ofTm]
      unfold LogCall.seconds LogCall.microseconds
      omega

/-- Whatever threads log and whenever the zone is set: each line begins with the time it was logged
at, exactly where no thread meets a text that it formatted in another zone. -/
theorem eachStep_stamped_iff (level : LogLevel) (as : List Act) :
    EachStep step Stamped (new level) as ↔ EachStep step (fun s a _ => Fresh s a) (new level) as :=
  EachStep.iff_of_invariant
    (fun _ _ _ timed fresh moved => ⟨timed.step moved, (timed.stamped_iff moved).mpr fresh⟩)
    (fun _ _ _ timed moved stamped => (timed.stamped_iff moved).mp stamped) (timed_new level)

/-! ## Lines -/

/-- All of the lines are in the output, and they are read there. -/
def Whole (s : Logging) : Prop :=
  s.out = unlines 10 s.logged ∧ lines 10 s.out = s.logged

/-- The condition on a step: the line fits into the buffer, with its end, and has none inside. -/
def Complete (s : Logging) : Act → Prop
  | .output tid => ∀ line ∈ (s.loggers tid).head?,
      AllFit kSmallBuffer 0 (line.items tid ++ [lineEnd]) ∧
      10 ∉ (line.items tid).flatMap LogItem.shown
  | _ => True

theorem Whole.free (whole : s.Whole) : ∀ l ∈ s.logged, 10 ∉ l := by
  intro l mem
  rw [← whole.2] at mem
  exact not_mem_of_mem_lines mem

theorem whole_of_free (all : s.out = unlines 10 s.logged) (free : ∀ l ∈ s.logged, 10 ∉ l) :
    s.Whole := by
  have read := lines_unlines_append free []
  rw [List.append_nil, ← all] at read
  exact ⟨all, read.trans (List.append_nil _)⟩

/-- The lines of the output are those that were logged, in the order of the calls, exactly where
each fits and is one line. -/
theorem always_whole_iff (level : LogLevel) (as : List Act) :
    Always step Whole (new level) as ↔
      EachStep step (fun s a _ => Complete s a) (new level) as := by
  refine Always.iff_eachStep ?_ ?_ ⟨rfl, rfl⟩
  · intro s a s' whole complete moved
    cases turn_of_step moved with
    | skip | enter | ask | keep | convert | stamp | setTimeZone | setLogLevel => exact whole
    | @output tid line loggers first =>
      obtain ⟨fit, one⟩ := complete line (by simp [first])
      apply whole_of_free
      · rw [(fitting_eq_iff (by decide)).mpr fit, List.flatMap_append, unlines_append, ← whole.1]
        simp [unlines, lineEnd, LogItem.shown]
      · intro l mem
        rcases List.mem_append.mp mem with old | new
        · exact whole.free l old
        · exact List.mem_singleton.mp new ▸ one
  · intro s a s' whole moved whole'
    cases turn_of_step moved with
    | skip | enter | ask | keep | convert | stamp | setTimeZone | setLogLevel => trivial
    | @output tid line loggers first =>
      intro line' mem
      obtain rfl : line' = line := by simpa [first, eq_comm] using mem
      refine ⟨(fitting_eq_iff (by decide)).mp ?_, whole'.free _ (by simp)⟩
      have all := whole'.1
      rw [unlines_append, whole.1] at all
      rw [List.append_cancel_left all, List.flatMap_append]
      simp [unlines, lineEnd, LogItem.shown]

end Logging

end NewFramework.Base
