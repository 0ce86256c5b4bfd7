import Mathlib.Algebra.Group.Int.Defs
import Mathlib.Algebra.Group.Nat.Defs
import Mathlib.Data.Prod.Lex
import Mathlib.Logic.Function.Basic
import NewFramework.Lib.Run
import NewFramework.Lib.SortedSet

/-!
# The timer queue

The operations of `muduo/net/TimerQueue.cc` that the loop thread executes: `addTimerInLoop` and
`cancelInLoop`, as functors or in the callbacks of timers, and `handleRead`, which is cut where
it calls a callback.  A `Timer` (`muduo/net/Timer.cc`) is an address on the heap, and the address
may be used again once the timer is deleted; its sequence number is not.  With the timer its
`callback_` is destroyed; what the callback holds has destructors that call no operation of the
queue.

A failed `assert` and a use of a deleted `Timer` set `failed`, and the operation goes on.  A sum
or difference of `int64_t` that overflows wraps, as the machine's does.
-/

namespace NewFramework.Net
open NewFramework.Lib

/-- The `int64_t` that `n` wraps to. -/
def wrap64 (n : Int) : Int := n.bmod (2 ^ 64)

theorem wrap64_eq {n : Int} (low : -2 ^ 63 ≤ n) (high : n < 2 ^ 63) : wrap64 n = n := by
  unfold wrap64
  exact Int.bmod_eq_of_le (by omega) (by omega)

/-- What wraps and is not below `int64_t` gets smaller. -/
theorem wrap64_le {n : Int} (low : -2 ^ 63 ≤ n) : wrap64 n ≤ n := by
  unfold wrap64
  rw [Int.bmod_def]
  split <;> omega

/-- `addTime(timestamp, seconds)` of `muduo/base/Timestamp.h`; `delta` is the `int64_t` made of
`seconds`. -/
def addTime (timestamp delta : Int) : Int := wrap64 (timestamp + delta)

/-- A `Timer`; times are in microseconds. -/
structure Timer where
  expiration : Int
  /-- the `int64_t` that `addTime` makes of `interval_`, any where the conversion overflows -/
  interval : Int
  /-- `interval_ > 0.0` -/
  repeats : Bool
  sequence : Nat
  deriving DecidableEq

/-- `restart(now)` -/
def Timer.restart (now : Int) (t : Timer) : Timer :=
  if t.repeats then { t with expiration := addTime now t.interval } else { t with expiration := 0 }

/-- Neither the conversion nor the sum of `addTime(now, interval_)` overflows. -/
def Timer.Fits (now : Int) (t : Timer) : Prop :=
  0 ≤ t.interval ∧ -2 ^ 63 ≤ now + t.interval ∧ now + t.interval < 2 ^ 63

instance (now : Int) (t : Timer) : Decidable (t.Fits now) := by
  unfold Timer.Fits
  infer_instance

theorem Timer.Fits.restart {now : Int} {t : Timer} (fits : t.Fits now) (repeats : t.repeats) :
    t.restart now = { t with expiration := now + t.interval } := by
  rw [Timer.restart, if_pos repeats, addTime, wrap64_eq fits.2.1 fits.2.2]

/-- A `std::pair<Timestamp, Timer*>`. -/
structure Entry where
  expiration : Int
  timer : Nat
  deriving DecidableEq

/-- A `std::pair<Timer*, int64_t>`. -/
structure ActiveTimer where
  timer : Nat
  sequence : Nat
  deriving DecidableEq

/-- `TimerId` has the same two fields. -/
abbrev TimerId := ActiveTimer

instance : LinearOrder Entry :=
  LinearOrder.lift' (fun e => toLex (e.expiration, e.timer)) fun a b eq => by
    obtain ⟨expiration, timer⟩ := Prod.mk.inj (toLex_inj.mp eq)
    cases a
    cases b
    simp_all

instance : LinearOrder ActiveTimer :=
  LinearOrder.lift' (fun a => toLex (a.timer, a.sequence)) fun a b eq => by
    obtain ⟨timer, sequence⟩ := Prod.mk.inj (toLex_inj.mp eq)
    cases a
    cases b
    simp_all

theorem Entry.lt_iff {a b : Entry} :
    a < b ↔ a.expiration < b.expiration ∨ a.expiration = b.expiration ∧ a.timer < b.timer :=
  Prod.Lex.lt_iff

theorem Entry.expiration_le {a b : Entry} (le : a ≤ b) : a.expiration ≤ b.expiration := by
  rcases le.lt_or_eq with lt | rfl
  · rcases Entry.lt_iff.mp lt with lt | ⟨eq, -⟩
    · exact lt.le
    · exact eq.le
  · exact le_refl _

/-- The locals of `handleRead`, while it calls the callbacks. -/
structure Batch where
  now : Int
  /-- the part of `expired` whose callbacks have been started -/
  called : List Entry
  rest : List Entry
  /-- a callback runs -/
  running : Bool

def Batch.expired (b : Batch) : List Entry := b.called ++ b.rest

/-- A callback that was started. -/
structure TimerRun where
  timer : ActiveTimer
  expiration : Int
  repeats : Bool
  /-- the `now` of its batch -/
  now : Int
  batch : Nat
  deriving DecidableEq

structure TimerQueue where
  /-- the timers that have not been deleted -/
  heap : Nat → Option Timer
  /-- `s_numCreated_` -/
  numCreated : Nat
  /-- made by `addTimer`; `addTimerInLoop` is on its way -/
  arriving : List Nat
  timers : SortedSet Entry
  activeTimers : SortedSet ActiveTimer
  callingExpiredTimers : Bool
  cancelingTimers : SortedSet ActiveTimer
  /-- the deadline of the timerfd, until its expiration is read -/
  timerfd : Option Int
  /-- when it was armed last -/
  armedAt : Int
  handling : Option Batch
  batches : Nat
  runs : List TimerRun
  cancelled : List TimerId
  /-- the sequence numbers of the timers deleted -/
  deleted : List Nat
  failed : Bool

namespace TimerQueue

/-- The queue of a loop that is made when `numCreated` timers have been made for others. -/
def new (numCreated : Nat) : TimerQueue where
  heap _ := none
  numCreated := numCreated
  arriving := []
  timers := .empty
  activeTimers := .empty
  callingExpiredTimers := false
  cancelingTimers := .empty
  timerfd := none
  armedAt := 0
  handling := none
  batches := 0
  runs := []
  cancelled := []
  deleted := []
  failed := false

/-- No object begins at the last address. -/
def uintptrMax : Nat := 2 ^ 64 - 1

def assert (p : Prop) [Decidable p] (s : TimerQueue) : TimerQueue :=
  if p then s else { s with failed := true }

/-- `p->`, where `p` is a `Timer*`. -/
def deref (timer : Nat) (use : Timer → TimerQueue → TimerQueue) (s : TimerQueue) : TimerQueue :=
  match s.heap timer with
  | none => { s with failed := true }
  | some t => use t s

/-- `delete timer` -/
def delete (timer : Nat) : TimerQueue → TimerQueue :=
  deref timer fun t s =>
    { s with heap := Function.update s.heap timer none, deleted := s.deleted ++ [t.sequence] }

/-! ## The timerfd -/

structure Timespec where
  tv_sec : Int
  tv_nsec : Int

/-- `howMuchTimeFromNow(when)`, at `now`. -/
def howMuchTimeFromNow (expiration now : Int) : Timespec :=
  let difference := wrap64 (expiration - now)
  let microseconds := if difference < 100 then 100 else difference
  ⟨microseconds / 1000000, microseconds % 1000000 * 1000⟩

/-- `resetTimerfd(timerfd_, expiration)`, at `now`; the kernel counts from there. -/
def resetTimerfd (expiration now : Int) (s : TimerQueue) : TimerQueue :=
  let value := howMuchTimeFromNow expiration now
  { s with
    timerfd := some (now + value.tv_sec * 1000000 + value.tv_nsec / 1000)
    armedAt := now }

/-- `readTimerfd(timerfd_, now)`; the `read` fails while the deadline is to come. -/
def readTimerfd (now : Int) (s : TimerQueue) : TimerQueue :=
  { s with timerfd := s.timerfd.filter fun deadline => now < deadline }

/-! ## The operations -/

/-- `addTimer(cb, when, interval)` up to its `runInLoop`. -/
def addTimer (timer : Nat) (expiration interval : Int) (repeats : Bool)
    (s : TimerQueue) : TimerQueue :=
  { s with
    heap := Function.update s.heap timer
      (some ⟨expiration, interval, repeats, s.numCreated + 1⟩)
    numCreated := s.numCreated + 1
    arriving := timer :: s.arriving }

/-- Whether `insert` finds that its timer is the earliest. -/
def earliestChanged (t : Timer) (s : TimerQueue) : Bool :=
  match s.timers.begin? with
  | none => true
  | some e => t.expiration < e.expiration

/-- `insert(timer)`, less its result. -/
def insert (timer : Nat) : TimerQueue → TimerQueue :=
  deref timer fun t s =>
    let s := s.assert (s.timers.size = s.activeTimers.size)
    let entry : Entry := ⟨t.expiration, timer⟩
    let s := { s.assert (entry ∉ s.timers) with timers := s.timers.insert entry }
    let active : ActiveTimer := ⟨timer, t.sequence⟩
    let s := { s.assert (active ∉ s.activeTimers) with
      activeTimers := s.activeTimers.insert active }
    s.assert (s.timers.size = s.activeTimers.size)

/-- `addTimerInLoop(timer)`; the clock says `now` when it comes to `resetTimerfd`. -/
def addTimerInLoop (timer : Nat) (now : Int) : TimerQueue → TimerQueue :=
  deref timer fun t s =>
    let inserted := s.insert timer
    if s.earliestChanged t then inserted.resetTimerfd t.expiration now else inserted

/-- `cancelInLoop(timerId)` -/
def cancelInLoop (timerId : TimerId) (s : TimerQueue) : TimerQueue :=
  let s := s.assert (s.timers.size = s.activeTimers.size)
  let s :=
    if timerId ∈ s.activeTimers then
      let erased := s.deref timerId.timer fun t s =>
        let entry : Entry := ⟨t.expiration, timerId.timer⟩
        { s.assert (entry ∈ s.timers) with timers := s.timers.erase entry }
      let deleted := erased.delete timerId.timer
      { deleted with activeTimers := deleted.activeTimers.erase timerId }
    else if s.callingExpiredTimers then
      { s with cancelingTimers := s.cancelingTimers.insert timerId }
    else s
  s.assert (s.timers.size = s.activeTimers.size)

/-- `activeTimers_.erase(timer)` in the loop of `getExpired`. -/
def eraseActive (s : TimerQueue) (e : Entry) : TimerQueue :=
  s.deref e.timer fun t s =>
    let active : ActiveTimer := ⟨e.timer, t.sequence⟩
    { s.assert (active ∈ s.activeTimers) with activeTimers := s.activeTimers.erase active }

/-- What `getExpired(now)` returns. -/
def expired (now : Int) (s : TimerQueue) : List Entry := s.timers.below ⟨now, uintptrMax⟩

/-- `getExpired(now)`, less its result. -/
def getExpired (now : Int) (s : TimerQueue) : TimerQueue :=
  let s := s.assert (s.timers.size = s.activeTimers.size)
  let left := s.timers.eraseBelow ⟨now, uintptrMax⟩
  let removed := { s.assert (∀ e ∈ left.begin?, now < e.expiration) with timers := left }
  let s := (s.expired now).foldl eraseActive removed
  s.assert (s.timers.size = s.activeTimers.size)

/-- `handleRead()` up to the first callback. -/
def handleRead (now : Int) (s : TimerQueue) : TimerQueue :=
  { (s.readTimerfd now).getExpired now with
    callingExpiredTimers := true
    cancelingTimers := .empty
    handling := some ⟨now, [], s.expired now, false⟩
    batches := s.batches + 1 }

/-- `it->second->run()` -/
def run (b : Batch) (e : Entry) (rest : List Entry) (s : TimerQueue) : TimerQueue :=
  s.deref e.timer fun t s =>
    { s with
      handling := some { b with called := b.called ++ [e], rest := rest, running := true }
      runs := s.runs ++ [⟨⟨e.timer, t.sequence⟩, t.expiration, t.repeats, b.now, s.batches⟩] }

/-- One turn of the loop of `reset`. -/
def resetTimer (now : Int) (s : TimerQueue) (e : Entry) : TimerQueue :=
  s.deref e.timer fun t s =>
    if t.repeats ∧ (⟨e.timer, t.sequence⟩ : ActiveTimer) ∉ s.cancelingTimers then
      { s with heap := Function.update s.heap e.timer (some (t.restart now)) }.insert e.timer
    else s.delete e.timer

/-- The end of `reset`: the timerfd is set for the next expiration, if that is valid. -/
def rearm (clock : Int) (s : TimerQueue) : TimerQueue :=
  match s.timers.begin? with
  | none => s
  | some e => s.deref e.timer fun t s =>
    if 0 < t.expiration then s.resetTimerfd t.expiration clock else s

/-- `reset(expired, now)` after the last callback; the clock says `clock` when it comes to
`resetTimerfd`. -/
def reset (b : Batch) (clock : Int) (s : TimerQueue) : TimerQueue :=
  let s := { s with callingExpiredTimers := false, handling := none }
  (b.expired.foldl (resetTimer b.now) s).rearm clock

inductive Act where
  | addTimer (timer : Nat) (expiration interval : Int) (repeats : Bool)
  | addTimerInLoop (timer : Nat) (now : Int)
  | cancelInLoop (timerId : TimerId)
  | handleRead (now : Int)
  | run
  | reset (now : Int)

/-- The loop thread can come to an operation: it is in the callback of a timer, or not in
`handleRead`. -/
def Open (s : TimerQueue) : Prop := ∀ b ∈ s.handling, b.running = true

instance (s : TimerQueue) : Decidable s.Open := by
  unfold Open
  cases s.handling with
  | none => exact isTrue nofun
  | some b => exact decidable_of_iff (b.running = true) ⟨fun h _ eq => by cases eq; exact h,
      fun h => h b rfl⟩

def step (s : TimerQueue) : Act → Option TimerQueue
  | .addTimer timer expiration interval repeats =>
    if s.heap timer = none ∧ timer < uintptrMax then
      some (s.addTimer timer expiration interval repeats)
    else none
  | .addTimerInLoop timer now =>
    if timer ∈ s.arriving ∧ s.Open then
      some { s.addTimerInLoop timer now with arriving := s.arriving.erase timer }
    else none
  | .cancelInLoop timerId =>
    if s.Open then
      some { s.cancelInLoop timerId with cancelled := s.cancelled ++ [timerId] }
    else none
  | .handleRead now => if s.handling.isNone then some (s.handleRead now) else none
  | .run =>
    match s.handling with
    | some b =>
      match b.rest with
      | e :: rest => some (s.run b e rest)
      | [] => none
    | none => none
  | .reset now =>
    match s.handling with
    | some b => if b.rest = [] then some (s.reset b now) else none
    | none => none

end TimerQueue
end NewFramework.Net
