import Mathlib.Logic.Function.Basic
import Mathlib.Data.List.Range
import NewFramework.Lib.Run

/-!
# The event loop and its queue of functors

This is `muduo/net/EventLoop.cpp`.  `loop()` polls, handles the active channels, and calls what is
in `pendingFunctors_`.  Any thread may queue a functor, and may quit the loop.  Code of the user
runs in the loop thread before and after `loop()`, in the callbacks of the channels, in the
functors, and in what the functors destroy: the batch is a local of `doPendingFunctors`, and its
functors go only after `callingPendingFunctors_` is false again.

`poll` has no timeout, so it returns for an event only; `wakeup()` makes the one of `wakeupFd_`.
-/

namespace NewFramework.Net
open NewFramework.Lib

/-- A thread; `none` is the loop thread. -/
abbrev Thread := Option Nat

/-- A functor that `queueInLoop` has pushed. -/
structure Queued (α : Type*) where
  functor : α
  /-- the number of the call -/
  call : Nat
  producer : Thread
  /-- the batch of the functor that made the call -/
  during : Option Nat
  deriving DecidableEq

/-- Where the loop thread is. -/
inductive EventLoop.Phase where
  | outside
  /-- at `while (!quit_)` -/
  | test
  | poll
  /-- among the active channels; that of `wakeupFd_` is active and has not been handled -/
  | handle (wake : Bool)
  /-- in `doPendingFunctors`, before the swap -/
  | swap
  /-- in its loop; a functor runs -/
  | call (runs : Bool)
  /-- at its end, where the batch is destroyed -/
  | destroy
  deriving DecidableEq

/-- Where a thread is in a call of `queueInLoop` or `quit`. -/
inductive EventLoop.Stage where
  | idle
  /-- it comes to `wakeup()`; `queueInLoop` has pushed in this call -/
  | waking (call : Option Nat)
  deriving DecidableEq

/-- An `EventLoop` and the threads that use it. -/
structure EventLoop (α : Type*) where
  looping : Bool
  quit : Bool
  callingPendingFunctors : Bool
  pendingFunctors : List (Queued α)
  /-- the counter of the eventfd -/
  wakeupFd : Nat
  phase : EventLoop.Phase
  stage : Thread → EventLoop.Stage
  /-- the batch, less the functors called -/
  functors : List (Queued α)
  /-- the number of the batch -/
  batch : Nat
  /-- what was pushed under the mutex -/
  pushed : List (Queued α)
  /-- the functors called, each with its batch -/
  executed : List (Queued α × Nat)

namespace EventLoop

variable {α : Type*}

/-- `EventLoop::EventLoop` -/
def new : EventLoop α where
  looping := false
  quit := false
  callingPendingFunctors := false
  pendingFunctors := []
  wakeupFd := 0
  phase := .outside
  stage _ := .idle
  functors := []
  batch := 0
  pushed := []
  executed := []

/-- The largest counter of an eventfd; a `write` that would exceed it fails with `EAGAIN`. -/
def eventfdMax : Nat := 2 ^ 64 - 2

/-- `wakeup()` -/
def wakeup (s : EventLoop α) : EventLoop α :=
  { s with wakeupFd := min (s.wakeupFd + 1) eventfdMax }

/-- `handleRead()`; the `read` of an eventfd takes the whole counter. -/
def handleRead (s : EventLoop α) : EventLoop α := { s with wakeupFd := 0 }

/-- Code of the user can run in the loop thread. -/
def userRuns (s : EventLoop α) : Prop :=
  match s.phase with
  | .outside | .handle _ | .call true | .destroy => True
  | _ => False

instance (s : EventLoop α) : Decidable s.userRuns := by
  unfold userRuns
  split <;> infer_instance

/-- A thread can make a call. -/
def Ready (s : EventLoop α) (t : Thread) : Prop := s.stage t = .idle ∧ (t = none → s.userRuns)

instance (s : EventLoop α) (t : Thread) : Decidable (s.Ready t) :=
  inferInstanceAs (Decidable (_ ∧ _))

def enter (t : Thread) (stage : Stage) (s : EventLoop α) : EventLoop α :=
  { s with stage := Function.update s.stage t stage }

/-- What `queueInLoop` pushes. -/
def item (t : Thread) (f : α) (s : EventLoop α) : Queued α where
  functor := f
  call := s.pushed.length
  producer := t
  during := if t = none ∧ s.phase = .call true then some s.batch else none

/-- `pendingFunctors_.push_back(cb)` -/
def push (t : Thread) (f : α) (s : EventLoop α) : EventLoop α :=
  { s with
    pendingFunctors := s.pendingFunctors ++ [s.item t f], pushed := s.pushed ++ [s.item t f] }

/-- `queueInLoop(cb)` up to its `wakeup()`. -/
def queueInLoop (t : Thread) (f : α) (s : EventLoop α) : EventLoop α :=
  if t ≠ none ∨ s.callingPendingFunctors then
    (s.push t f).enter t (.waking (some s.pushed.length))
  else s.push t f

/-- `quit()` up to its `wakeup()`. -/
def callQuit (t : Thread) (s : EventLoop α) : EventLoop α :=
  if t ≠ none then { s with quit := true }.enter t (.waking none) else { s with quit := true }

inductive Act (α : Type*) where
  | queueInLoop (t : Thread) (f : α)
  | runInLoop (t : Thread) (f : α)
  | quit (t : Thread)
  /-- the `wakeup()` of the call a thread is in -/
  | wakeup (t : Thread)
  | loop
  /-- the condition of the `while` -/
  | test
  /-- `poll` returns, with the channel of `wakeupFd_` or without it -/
  | poll (wake : Bool)
  | handleRead
  | doPendingFunctors
  | swap
  | callFunctor
  /-- the loop of `doPendingFunctors` ends -/
  | called
  /-- the batch is gone -/
  | destroyed

def step (s : EventLoop α) : Act α → Option (EventLoop α)
  | .queueInLoop t f => if s.Ready t then some (s.queueInLoop t f) else none
  | .runInLoop t f =>
    -- in the loop thread `cb()` is more code of the user, whose calls are steps of their own
    if s.Ready t then some (if t = none then s else s.queueInLoop t f) else none
  | .quit t => if s.Ready t then some (s.callQuit t) else none
  | .wakeup t => if s.stage t = .idle then none else some (s.wakeup.enter t .idle)
  | .loop =>
    if s.phase = .outside ∧ s.stage none = .idle then
      some { s with looping := true, quit := false, phase := .test }
    else none
  | .test =>
    if s.phase = .test then
      if s.quit then some { s with looping := false, phase := .outside }
      else some { s with phase := .poll }
    else none
  | .poll wake =>
    if s.phase = .poll ∧ (wake = true → s.wakeupFd ≠ 0) then some { s with phase := .handle wake }
    else none
  | .handleRead =>
    if s.phase = .handle true ∧ s.stage none = .idle then
      some { s.handleRead with phase := .handle false }
    else none
  | .doPendingFunctors =>
    if s.phase = .handle false ∧ s.stage none = .idle then
      some { s with callingPendingFunctors := true, phase := .swap }
    else none
  | .swap =>
    if s.phase = .swap then
      some { s with
        functors := s.pendingFunctors
        pendingFunctors := []
        batch := s.batch + 1
        phase := .call false }
    else none
  | .callFunctor =>
    match s.phase, s.functors with
    | .call _, q :: rest =>
      if s.stage none = .idle then
        some { s with
          functors := rest, executed := s.executed ++ [(q, s.batch)], phase := .call true }
      else none
    | _, _ => none
  | .called =>
    match s.phase, s.functors with
    | .call _, [] =>
      if s.stage none = .idle then
        some { s with callingPendingFunctors := false, phase := .destroy }
      else none
    | _, _ => none
  | .destroyed =>
    if s.phase = .destroy ∧ s.stage none = .idle then some { s with phase := .test } else none

/-! ## Steps by cases -/

/-- What a step does, by cases. -/
inductive Move (s : EventLoop α) : Act α → EventLoop α → Prop
  | queued {t : Thread} {f : α} (ready : s.Ready t) :
    Move s (.queueInLoop t f) (s.queueInLoop t f)
  | ran {f : α} : Move s (.runInLoop none f) s
  | asked {n : Nat} {f : α} (ready : s.Ready (some n)) :
    Move s (.runInLoop (some n) f) (s.queueInLoop (some n) f)
  | quit {t : Thread} (ready : s.Ready t) : Move s (.quit t) (s.callQuit t)
  | woke {t : Thread} : Move s (.wakeup t) (s.wakeup.enter t .idle)
  | began (outside : s.phase = .outside) :
    Move s .loop { s with looping := true, quit := false, phase := .test }
  | left (test : s.phase = .test) (quit : s.quit = true) :
    Move s .test { s with looping := false, phase := .outside }
  | polls (test : s.phase = .test) (goes_on : s.quit = false) :
      Move s .test { s with phase := .poll }
  | polled {wake : Bool} (poll : s.phase = .poll) :
      Move s (.poll wake) { s with phase := .handle wake }
  | read (handle : s.phase = .handle true) :
    Move s .handleRead { s.handleRead with phase := .handle false }
  | handled (handle : s.phase = .handle false) :
    Move s .doPendingFunctors { s with callingPendingFunctors := true, phase := .swap }
  | swapped (swap : s.phase = .swap) :
    Move s .swap { s with
      functors := s.pendingFunctors
      pendingFunctors := []
      batch := s.batch + 1
      phase := .call false }
  | callsNext {runs : Bool} {q : Queued α} {rest : List (Queued α)} (call : s.phase = .call runs)
      (next : s.functors = q :: rest) :
    Move s .callFunctor { s with
      functors := rest, executed := s.executed ++ [(q, s.batch)], phase := .call true }
  | called {runs : Bool} (call : s.phase = .call runs) (done : s.functors = []) :
    Move s .called { s with callingPendingFunctors := false, phase := .destroy }
  | destroyed (destroy : s.phase = .destroy) : Move s .destroyed { s with phase := .test }

theorem step_cases {s s' : EventLoop α} {a : Act α} (moved : step s a = some s') : Move s a s' := by
  cases a with
  | queueInLoop t f =>
    obtain ⟨ready, rfl⟩ := some_of_guard moved
    exact .queued ready
  | runInLoop t f =>
    obtain ⟨ready, rfl⟩ := some_of_guard moved
    cases t with
    | none => exact .ran
    | some n => exact .asked ready
  | quit t =>
    obtain ⟨ready, rfl⟩ := some_of_guard moved
    exact .quit ready
  | wakeup t =>
    obtain ⟨-, eq⟩ := Option.ite_none_left_eq_some.mp moved
    obtain rfl := Option.some.inj eq
    exact .woke
  | loop =>
    obtain ⟨⟨outside, -⟩, rfl⟩ := some_of_guard moved
    exact .began outside
  | test =>
    obtain ⟨test, moved⟩ := Option.ite_none_right_eq_some.mp moved
    cases quit : s.quit with
    | true =>
      rw [if_pos quit] at moved
      obtain rfl := Option.some.inj moved
      exact .left test quit
    | false =>
      rw [if_neg (by rw [quit]; nofun)] at moved
      obtain rfl := Option.some.inj moved
      exact .polls test quit
  | poll wake =>
    obtain ⟨⟨poll, -⟩, rfl⟩ := some_of_guard moved
    exact .polled poll
  | handleRead =>
    obtain ⟨⟨handle, -⟩, rfl⟩ := some_of_guard moved
    exact .read handle
  | doPendingFunctors =>
    obtain ⟨⟨handle, -⟩, rfl⟩ := some_of_guard moved
    exact .handled handle
  | swap =>
    obtain ⟨swap, rfl⟩ := some_of_guard moved
    exact .swapped swap
  | callFunctor =>
    simp only [step] at moved
    split at moved
    · next call next =>
      obtain ⟨-, rfl⟩ := some_of_guard moved
      exact .callsNext call next
    · contradiction
  | called =>
    simp only [step] at moved
    split at moved
    · next call done =>
      obtain ⟨-, rfl⟩ := some_of_guard moved
      exact .called call done
    · contradiction
  | destroyed =>
    obtain ⟨⟨destroy, -⟩, rfl⟩ := some_of_guard moved
    exact .destroyed destroy

/-! ## `quit_` and `poll` -/

@[simp] theorem queueInLoop_phase (t : Thread) (f : α) (s : EventLoop α) :
    (s.queueInLoop t f).phase = s.phase := by
  unfold EventLoop.queueInLoop
  split <;> rfl

@[simp] theorem queueInLoop_quit (t : Thread) (f : α) (s : EventLoop α) :
    (s.queueInLoop t f).quit = s.quit := by
  unfold EventLoop.queueInLoop
  split <;> rfl

@[simp] theorem queueInLoop_wakeupFd (t : Thread) (f : α) (s : EventLoop α) :
    (s.queueInLoop t f).wakeupFd = s.wakeupFd := by
  unfold EventLoop.queueInLoop
  split <;> rfl

@[simp] theorem callQuit_phase (t : Thread) (s : EventLoop α) : (s.callQuit t).phase = s.phase := by
  unfold callQuit
  split <;> rfl

@[simp] theorem callQuit_quit (t : Thread) (s : EventLoop α) : (s.callQuit t).quit = true := by
  unfold callQuit
  split <;> rfl

@[simp] theorem callQuit_wakeupFd (t : Thread) (s : EventLoop α) :
    (s.callQuit t).wakeupFd = s.wakeupFd := by
  unfold callQuit
  split <;> rfl

theorem wakeup_ne_zero (s : EventLoop α) : s.wakeup.wakeupFd ≠ 0 := by
  have : 0 < eventfdMax := by decide
  simp only [wakeup]
  omega

/-- Only `loop()` takes `quit_` back. -/
theorem quit_kept {s s' : EventLoop α} {a : Act α} (moved : s.step a = some s')
    (quit : s.quit = true) (other : a ≠ .loop) : s'.quit = true := by
  cases step_cases moved with
  | queued => rwa [queueInLoop_quit]
  | asked => rwa [queueInLoop_quit]
  | quit => exact callQuit_quit ..
  | began => exact absurd rfl other
  | _ => exact quit

/-- The loop comes to `poll` where it finds `quit_` false, and while it is there the eventfd stays
readable. -/
theorem poll_of_step {s s' : EventLoop α} {a : Act α} (moved : s.step a = some s')
    (poll : s'.phase = .poll) :
    s.phase = .test ∧ s.quit = false ∨
      s.phase = .poll ∧ (s.wakeupFd ≠ 0 → s'.wakeupFd ≠ 0) := by
  cases step_cases moved with
  | queued =>
    rw [queueInLoop_phase] at poll
    exact .inr ⟨poll, by rw [queueInLoop_wakeupFd]; exact id⟩
  | ran => exact .inr ⟨poll, id⟩
  | asked =>
    rw [queueInLoop_phase] at poll
    exact .inr ⟨poll, by rw [queueInLoop_wakeupFd]; exact id⟩
  | quit =>
    rw [callQuit_phase] at poll
    exact .inr ⟨poll, by rw [callQuit_wakeupFd]; exact id⟩
  | woke => exact .inr ⟨poll, fun _ => wakeup_ne_zero s⟩
  | polls test goes_on => exact .inl ⟨test, goes_on⟩
  | _ => contradiction

end EventLoop
end NewFramework.Net
