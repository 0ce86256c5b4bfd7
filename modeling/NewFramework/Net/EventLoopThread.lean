import NewFramework.Net.EventLoop

/-!
# `EventLoopThread` and its shutdown

In `muduo/net/EventLoopThread.cc`, `threadFunc` publishes `loop_` and then calls `loop()`, which
begins with `quit_ = false`.  The owner has the loop as soon as it is published, so the `quit()` of
the destructor may come in between; `loop()` then takes it back, and the destructor joins a thread
that stays in `poll`.
-/

namespace NewFramework.Net
open NewFramework.Lib

/-- Where `threadFunc` is. -/
inductive EventLoopThread.Stage where
  | notStarted
  /-- in `callback_(&loop)` -/
  | init
  /-- `loop_` is set, and `loop.loop()` comes -/
  | published
  | looping
  /-- `loop.loop()` has returned -/
  | left
  | exited
  deriving DecidableEq

/-- Where the owner is. -/
inductive EventLoopThread.Owner where
  | created
  /-- in `startLoop`, waiting for `loop_` -/
  | starting
  | started
  /-- in the destructor, which has set `exiting_` -/
  | destroying
  /-- it has found `loop_`, and comes to `loop_->quit()` -/
  | quitting
  /-- it has set `quit_`, and comes to `wakeup()` -/
  | waking
  | joining
  | destroyed
  deriving DecidableEq

structure EventLoopThread (α : Type*) where
  loop : EventLoop α
  /-- `loop_ != NULL` -/
  loop_ : Bool
  exiting : Bool
  thread : EventLoopThread.Stage
  owner : EventLoopThread.Owner
  /-- the owner has executed `quit_ = true` -/
  quitExecuted : Bool

namespace EventLoopThread

variable {α : Type*}

def new : EventLoopThread α where
  loop := .new
  loop_ := false
  exiting := false
  thread := .notStarted
  owner := .created
  quitExecuted := false

/-- The thread that owns it, among those that use the loop. -/
def ownerThread : Thread := some 0

inductive Act (α : Type*) where
  /-- `startLoop()` up to its wait -/
  | start
  /-- it finds `loop_` and returns -/
  | startLoop
  | publish
  | loop
  /-- a step in the loop, or of a thread that uses it -/
  | inLoop (a : EventLoop.Act α)
  /-- `loop_ = NULL` -/
  | clear
  | destroy
  | checkLoop
  | quit
  | wakeup
  | join

/-- A thread can be in code that uses the loop. -/
def Uses (s : EventLoopThread α) : Thread → Prop
  | none => s.thread = .init ∨ s.thread = .looping
  | some n => s.loop_ = true ∧ (some n = ownerThread → s.owner = .started)

instance (s : EventLoopThread α) (t : Thread) : Decidable (s.Uses t) := by
  unfold Uses
  split <;> infer_instance

/-- A step in the loop, or of a thread that uses it, can be taken. -/
def Admits (s : EventLoopThread α) : EventLoop.Act α → Prop
  | .queueInLoop t _ | .runInLoop t _ | .quit t | .wakeup t => s.Uses t
  | .loop => False
  | _ => s.thread = .looping

instance (s : EventLoopThread α) (a : EventLoop.Act α) : Decidable (s.Admits a) := by
  unfold Admits
  split <;> infer_instance

def step (s : EventLoopThread α) : Act α → Option (EventLoopThread α)
  | .start =>
    if s.owner = .created then some { s with owner := .starting, thread := .init } else none
  | .startLoop =>
    if s.owner = .starting ∧ s.loop_ then some { s with owner := .started } else none
  | .publish =>
    if s.thread = .init ∧ s.loop.stage none = .idle then
      some { s with thread := .published, loop_ := true }
    else none
  | .loop =>
    if s.thread = .published then
      (s.loop.step .loop).map fun loop => { s with loop := loop, thread := .looping }
    else none
  | .inLoop a =>
    if s.Admits a then
      (s.loop.step a).map fun loop =>
        { s with
          loop := loop
          thread := if s.thread = .looping ∧ loop.phase = .outside then .left else s.thread }
    else none
  | .clear => if s.thread = .left then some { s with thread := .exited, loop_ := false } else none
  | .destroy =>
    if s.owner = .started ∧ s.loop.stage ownerThread = .idle then
      some { s with owner := .destroying, exiting := true }
    else none
  | .checkLoop =>
    if s.owner = .destroying then
      some { s with owner := if s.loop_ then .quitting else .destroyed }
    else none
  | .quit =>
    if s.owner = .quitting then
      some { s with loop := s.loop.callQuit ownerThread, owner := .waking, quitExecuted := true }
    else none
  | .wakeup =>
    if s.owner = .waking then
      some { s with loop := s.loop.wakeup.enter ownerThread .idle, owner := .joining }
    else none
  | .join =>
    if s.owner = .joining ∧ s.thread = .exited then some { s with owner := .destroyed } else none

/-! ## The shutdown -/

/-- A step that comes to `poll` after the `quit()` of the owner finds `quit_` set. -/
def QuitSeen (s : EventLoopThread α) (_ : Act α) (s' : EventLoopThread α) : Prop :=
  s.quitExecuted = true → s.loop.phase ≠ .poll → s'.loop.phase = .poll → s'.loop.quit = true

instance (s : EventLoopThread α) (a : Act α) (s' : EventLoopThread α) :
    Decidable (QuitSeen s a s') :=
  inferInstanceAs (Decidable (_ → _))

/-- While the owner joins, the loop thread does not wait for another event. -/
def NoHang (s : EventLoopThread α) : Prop :=
  s.owner = .joining → s.loop.phase = .poll → s.loop.wakeupFd ≠ 0

instance (s : EventLoopThread α) : Decidable s.NoHang := inferInstanceAs (Decidable (_ → _))

/-- The condition on a step: `loop()` has begun when the owner executes `quit_ = true`. -/
def Begun (s : EventLoopThread α) : Act α → Prop
  | .quit => s.thread ≠ .published
  | _ => True

instance (s : EventLoopThread α) (a : Act α) : Decidable (s.Begun a) := by
  unfold Begun
  split <;> infer_instance

/-- `loop()` has taken `quit_` back for the last time. -/
def Late : Stage → Prop
  | .looping | .left | .exited => True
  | _ => False

/-- What is kept for the shutdown. -/
structure Quits (s : EventLoopThread α) : Prop where
  created : s.owner = .created → s.thread = .notStarted
  published : s.loop_ = true → s.thread = .published ∨ Late s.thread
  has_loop : s.owner ≠ .created → s.owner ≠ .starting → s.thread = .published ∨ Late s.thread
  executed : s.quitExecuted = true → Late s.thread ∧ s.loop.quit = true
  done : s.owner = .waking ∨ s.owner = .joining → s.quitExecuted = true
  woken : s.quitExecuted = true → s.owner ≠ .waking → s.loop.phase = .poll → s.loop.wakeupFd ≠ 0

theorem quits_new : (new : EventLoopThread α).Quits where
  created _ := rfl
  published := nofun
  has_loop := fun created => absurd rfl created
  executed := nofun
  done := nofun
  woken := nofun

theorem not_loop {s : EventLoopThread α} {a : EventLoop.Act α} (admits : s.Admits a) :
    a ≠ .loop := by
  rintro rfl
  exact admits

/-- A step in the loop. -/
theorem Quits.inLoop {s : EventLoopThread α} {a : EventLoop.Act α} {loop : EventLoop α}
    (quits : s.Quits) (admits : s.Admits a) (moved : s.loop.step a = some loop) :
    { s with
      loop := loop
      thread := if s.thread = .looping ∧ loop.phase = .outside then .left else s.thread :
      EventLoopThread α }.Quits := by
  have late (stage : s.thread = .published ∨ Late s.thread) :
      (if s.thread = .looping ∧ loop.phase = .outside then Stage.left else s.thread) =
        .published ∨
      Late (if s.thread = .looping ∧ loop.phase = .outside then Stage.left else s.thread) := by
    split
    · exact .inr trivial
    · exact stage
  refine ⟨?_, fun loop_ => late (quits.published loop_),
    fun made began => late (quits.has_loop made began), ?_, quits.done, ?_⟩
  · intro created
    have stage := quits.created created
    show (if _ then _ else _) = _
    rw [if_neg (fun h => by rw [stage] at h; exact absurd h.1 nofun)]
    exact stage
  · intro executed
    obtain ⟨later, quit⟩ := quits.executed executed
    refine ⟨?_, EventLoop.quit_kept moved quit (not_loop admits)⟩
    show Late (if _ then _ else _)
    split
    · trivial
    · exact later
  · intro executed silent poll
    rcases EventLoop.poll_of_step moved poll with ⟨-, goes_on⟩ | ⟨there, readable⟩
    · rw [(quits.executed executed).2] at goes_on
      contradiction
    · exact readable (quits.woken executed silent there)

theorem Quits.step {s s' : EventLoopThread α} {a : Act α} (quits : s.Quits) (begun : s.Begun a)
    (moved : s.step a = some s') : s'.Quits := by
  cases a with
  | start =>
    obtain ⟨created, rfl⟩ := some_of_guard moved
    have stage := quits.created created
    refine ⟨nofun, ?_, fun _ starting => absurd rfl starting, ?_,
      nofun, fun executed _ => quits.woken executed (by rw [created]; nofun)⟩
    · intro loop_
      have := quits.published loop_
      simp [stage, Late] at this
    · intro executed
      have := (quits.executed executed).1
      simp [stage, Late] at this
  | startLoop =>
    obtain ⟨⟨starting, loop_⟩, rfl⟩ := some_of_guard moved
    exact ⟨nofun, quits.published, fun _ _ => quits.published loop_, quits.executed, nofun,
      fun executed _ => quits.woken executed (by rw [starting]; nofun)⟩
  | publish =>
    obtain ⟨⟨init, -⟩, rfl⟩ := some_of_guard moved
    refine ⟨?_, fun _ => .inl rfl, fun _ _ => .inl rfl, ?_, quits.done, quits.woken⟩
    · intro created
      have := quits.created created
      simp [init] at this
    · intro executed
      have := (quits.executed executed).1
      simp [init, Late] at this
  | loop =>
    obtain ⟨published, moved⟩ := Option.ite_none_right_eq_some.mp moved
    obtain ⟨loop, moved, rfl⟩ := Option.map_eq_some_iff.mp moved
    have not_yet (executed : s.quitExecuted = true) : False := by
      have := (quits.executed executed).1
      simp [published, Late] at this
    refine ⟨?_, fun _ => .inr trivial, fun _ _ => .inr trivial,
      fun executed => (not_yet executed).elim, quits.done, fun executed => (not_yet executed).elim⟩
    intro created
    have := quits.created created
    simp [published] at this
  | inLoop a =>
    obtain ⟨admits, moved⟩ := Option.ite_none_right_eq_some.mp moved
    obtain ⟨loop, inLoop, rfl⟩ := Option.map_eq_some_iff.mp moved
    exact quits.inLoop admits inLoop
  | clear =>
    obtain ⟨left, rfl⟩ := some_of_guard moved
    refine ⟨?_, nofun, fun _ _ => .inr trivial,
      fun executed => ⟨trivial, (quits.executed executed).2⟩, quits.done, quits.woken⟩
    intro created
    have := quits.created created
    simp [left] at this
  | destroy =>
    obtain ⟨⟨started, -⟩, rfl⟩ := some_of_guard moved
    have has_loop := quits.has_loop (by rw [started]; nofun) (by rw [started]; nofun)
    exact ⟨nofun, quits.published, fun _ _ => has_loop, quits.executed, nofun,
      fun executed _ => quits.woken executed (by rw [started]; nofun)⟩
  | checkLoop =>
    obtain ⟨destroying, rfl⟩ := some_of_guard moved
    have has_loop := quits.has_loop (by rw [destroying]; nofun) (by rw [destroying]; nofun)
    have woken := fun executed => quits.woken executed (by rw [destroying]; nofun)
    cases s.loop_ with
    | true => exact ⟨nofun, fun _ => has_loop, fun _ _ => has_loop, quits.executed, nofun,
        fun executed _ => woken executed⟩
    | false => exact ⟨nofun, nofun, fun _ _ => has_loop, quits.executed, nofun,
        fun executed _ => woken executed⟩
  | quit =>
    obtain ⟨quitting, rfl⟩ := some_of_guard moved
    have has_loop := quits.has_loop (by rw [quitting]; nofun) (by rw [quitting]; nofun)
    exact ⟨nofun, quits.published, fun _ _ => has_loop,
      fun _ => ⟨has_loop.resolve_left begun, EventLoop.callQuit_quit ..⟩, fun _ => rfl,
      fun _ silent => absurd rfl silent⟩
  | wakeup =>
    obtain ⟨waking, rfl⟩ := some_of_guard moved
    have has_loop := quits.has_loop (by rw [waking]; nofun) (by rw [waking]; nofun)
    exact ⟨nofun, quits.published, fun _ _ => has_loop, quits.executed,
      fun _ => quits.done (.inl waking), fun _ _ _ => EventLoop.wakeup_ne_zero _⟩
  | join =>
    obtain ⟨⟨joining, -⟩, rfl⟩ := some_of_guard moved
    have has_loop := quits.has_loop (by rw [joining]; nofun) (by rw [joining]; nofun)
    exact ⟨nofun, quits.published, fun _ _ => has_loop, quits.executed, nofun,
      fun executed _ => quits.woken executed (by rw [joining]; nofun)⟩

/-- A step after the `quit()` does not come to `poll` with `quit_` false. -/
theorem Quits.quitSeen {s s' : EventLoopThread α} {a : Act α} (quits : s'.Quits)
    (executed : s.quitExecuted = true → s'.quitExecuted = true) : QuitSeen s a s' :=
  fun before _ _ => (quits.executed (executed before)).2

theorem quitExecuted_kept {s s' : EventLoopThread α} {a : Act α} (moved : s.step a = some s')
    (executed : s.quitExecuted = true) : s'.quitExecuted = true := by
  cases a with
  | loop | inLoop =>
    obtain ⟨-, moved⟩ := Option.ite_none_right_eq_some.mp moved
    obtain ⟨loop, -, rfl⟩ := Option.map_eq_some_iff.mp moved
    exact executed
  | quit =>
    obtain ⟨-, rfl⟩ := some_of_guard moved
    rfl
  | _ =>
    obtain ⟨-, rfl⟩ := some_of_guard moved
    exact executed

theorem Quits.noHang {s : EventLoopThread α} (quits : s.Quits) : s.NoHang := by
  intro joining poll
  exact quits.woken (quits.done (.inr joining)) (by rw [joining]; nofun) poll

/-- Where `loop()` has begun when the owner executes `quit_ = true`, the `quit()` is not lost, and
the owner does not join a thread that waits for another event. -/
theorem always_quits {as : List (Act α)} (begun : EachStep step (fun s a _ => s.Begun a) new as) :
    EachStep step QuitSeen new as ∧ Always step NoHang new as := by
  have keeps (s : EventLoopThread α) (a : Act α) (s' : EventLoopThread α) (quits : s.Quits)
      (here : s.Begun a) (moved : s.step a = some s') : s'.Quits :=
    quits.step here moved
  constructor
  · refine EachStep.of_invariant ?_ quits_new begun
    intro s a s' quits here moved
    have quits' := keeps s a s' quits here moved
    exact ⟨quits', quits'.quitSeen (quitExecuted_kept moved)⟩
  · exact Always.of_invariant keeps (fun _ => Quits.noHang) quits_new begun

/-- The owner destroys the thread while it is in `poll`. -/
def destroyedInPoll : List (Act Unit) :=
  [.start, .publish, .startLoop, .loop, .inLoop .test, .destroy, .checkLoop, .quit, .wakeup,
    .inLoop (.poll true), .inLoop .handleRead, .inLoop .doPendingFunctors, .inLoop .swap,
    .inLoop .called, .inLoop .destroyed, .inLoop .test, .clear, .join]

theorem always_quits_destroyedInPoll :
    EachStep step QuitSeen new destroyedInPoll ∧ Always step NoHang new destroyedInPoll :=
  always_quits (by decide)

/-- Wherever the owner quits a loop that is published and has not begun, the loop may go on to
`poll` for good. -/
theorem lost_of_published {s : EventLoopThread α} (quitting : s.owner = .quitting)
    (published : s.thread = .published) (outside : s.loop.phase = .outside)
    (idle : s.loop.stage none = .idle) :
    ¬ EachStep step QuitSeen s [.quit, .loop, .inLoop .test] := by
  intro seen
  have idle' : (s.loop.callQuit ownerThread).stage none = .idle := by
    simpa [EventLoop.callQuit, EventLoop.enter, ownerThread, Function.update] using idle
  have last := ((seen _ (if_pos quitting)).2 _
    (by simp [step, published, EventLoop.step, outside, idle']; rfl)).2 _
    (by simp [step, Admits, EventLoop.step]; rfl)
  have := last.1 rfl (by simp) rfl
  contradiction

/-- The owner destroys the thread as soon as `startLoop` returns. -/
def destroyedAtOnce : List (Act Unit) :=
  [.start, .publish, .startLoop, .destroy, .checkLoop, .quit, .loop, .inLoop .test, .wakeup,
    .inLoop (.poll true), .inLoop .handleRead, .inLoop .doPendingFunctors, .inLoop .swap,
    .inLoop .called, .inLoop .destroyed, .inLoop .test]

theorem destroyedAtOnce_hangs :
    ¬ (EachStep step QuitSeen new destroyedAtOnce ∧ Always step NoHang new destroyedAtOnce) := by
  decide

end EventLoopThread
end NewFramework.Net
