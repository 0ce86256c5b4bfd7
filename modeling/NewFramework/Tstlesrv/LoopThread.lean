import NewFramework.Lib.Run

/-!
# `CEventLoopThread::start`

`start` (`tstlesrv/eventloopthread.cpp`) creates the thread and waits until it has set `m_isrun`; in
waiting mode it then calls `join`, which joins the thread only if it reads `m_status` as true.  The
thread sets `m_isrun` under the mutex and `m_status` behind it, so that a caller that comes in
between does not wait for the loop at all.
-/

namespace NewFramework.Tstlesrv

open NewFramework.Lib

namespace CEventLoopThread

/-- Where the caller of `start` is; a stage is named by what comes next. -/
inductive CallerStage where
  | createThread
  /-- `pthread_mutex_lock`, also the one with which `pthread_cond_wait` ends -/
  | lock
  /-- `while (!m_isrun)` -/
  | test
  /-- in `pthread_cond_wait`, not notified -/
  | wait
  | unlock
  /-- the `if (m_status)` of `join` -/
  | join
  | pthreadJoin
  | returned (code : Int)
  deriving DecidableEq, Repr

/-- Where `thread_event_loop` is. -/
inductive ThreadStage where
  | absent
  | begin
  | lock
  | setIsRun
  | unlock
  | setThreadStatus
  | signal
  /-- in `event_base_loop` -/
  | loop
  | clearThreadStatus
  | finished
  deriving DecidableEq, Repr

/-- Who holds `m_mutex`. -/
inductive Holder where
  | nobody
  | caller
  | thread
  deriving DecidableEq, Repr

end CEventLoopThread

open CEventLoopThread

/-- A `CEventLoopThread` on which `start(isasync)` is called; `eventBase` is
`m_eventBase != nullptr`. -/
structure CEventLoopThread where
  eventBase : Bool
  isasync : Bool
  isrun : Bool
  status : Bool
  mutex : Holder
  caller : CallerStage
  thread : ThreadStage
  deriving DecidableEq, Repr

namespace CEventLoopThread

/-- The constructor, and the call of `start`. -/
def start (eventBase isasync : Bool) : CEventLoopThread :=
  ⟨eventBase, isasync, false, false, .nobody, .createThread, .absent⟩

inductive Act where
  /-- `create_thread`; the result of `pthread_create` is not looked at -/
  | create (created : Bool)
  | caller
  | thread
  /-- the caller wakes up from `pthread_cond_wait` for no reason -/
  | spurious
  deriving DecidableEq, Repr

/-- `SUCCESS` -/
def success : Int := 0

/-- The steps of the caller behind `create_thread`. -/
def stepCaller (s : CEventLoopThread) : Option CEventLoopThread :=
  match s.caller with
  | .lock =>
    if s.mutex = .nobody then some { s with mutex := .caller, caller := .test } else none
  | .test =>
    if s.isrun then some { s with caller := .unlock }
    else some { s with mutex := .nobody, caller := .wait }
  | .unlock =>
    some { s with mutex := .nobody, caller := if s.isasync then .returned 0 else .join }
  | .join =>
    some { s with caller := if s.status then .pthreadJoin else .returned success }
  | .pthreadJoin =>
    if s.thread = .finished then
      some { s with status := false, caller := .returned success }
    else none
  | .createThread | .wait | .returned _ => none

/-- The steps of `thread_event_loop`. -/
def stepThread (s : CEventLoopThread) : Option CEventLoopThread :=
  match s.thread with
  | .begin => some { s with thread := if s.eventBase then .lock else .finished }
  | .lock =>
    if s.mutex = .nobody then some { s with mutex := .thread, thread := .setIsRun } else none
  | .setIsRun => some { s with isrun := true, thread := .unlock }
  | .unlock => some { s with mutex := .nobody, thread := .setThreadStatus }
  | .setThreadStatus => some { s with status := true, thread := .signal }
  | .signal =>
    some { s with caller := if s.caller = .wait then .lock else s.caller, thread := .loop }
  | .loop => some { s with thread := .clearThreadStatus }
  | .clearThreadStatus => some { s with status := false, thread := .finished }
  | .absent | .finished => none

def step (s : CEventLoopThread) : Act → Option CEventLoopThread
  | .create created =>
    if s.caller = .createThread then
      if s.eventBase then
        some { s with caller := .lock, thread := if created then .begin else .absent }
      else some { s with caller := .returned (-1) }
    else none
  | .caller => s.stepCaller
  | .thread => s.stepThread
  | .spurious => if s.caller = .wait then some { s with caller := .lock } else none

/-! ## What waiting mode promises -/

namespace ThreadStage

/-- `m_isrun` has been set. -/
@[simp] def Ran : ThreadStage → Prop
  | .absent | .begin | .lock | .setIsRun => False
  | _ => True

/-- The mutex has been left. -/
@[simp] def Left (stage : ThreadStage) : Prop := stage.Ran ∧ stage ≠ .unlock

/-- `m_status` is set. -/
@[simp] def Live : ThreadStage → Prop
  | .signal | .loop | .clearThreadStatus => True
  | _ => False

/-- The condition has been signalled. -/
@[simp] def Signalled : ThreadStage → Prop
  | .loop | .clearThreadStatus | .finished => True
  | _ => False

/-- `event_base_loop` has returned. -/
@[simp] def Looped : ThreadStage → Prop
  | .clearThreadStatus | .finished => True
  | _ => False

end ThreadStage

/-- `start` returns `SUCCESS` only after the loop has returned, and does not wait un-notified once
the thread has signalled. -/
structure Waits (s : CEventLoopThread) : Prop where
  looped : s.caller = .returned success → s.thread.Looped
  notified : s.isrun = true → s.thread.Signalled → s.caller ≠ .wait

/-- The caller does not come to the test of `join` while the thread is between its unlock and
its `set_threadstatus(true)`. -/
def Fits (s : CEventLoopThread) (a : Act) : Prop :=
  a = .caller → s.caller = .join → s.thread ≠ .setThreadStatus

/-- What the steps keep. -/
structure Sound (s : CEventLoopThread) : Prop where
  waiting : s.isasync = false
  started : s.caller = .createThread → s.thread = .absent
  based : s.thread ≠ .absent → s.eventBase = true
  isrun : s.isrun = true ↔ s.thread.Ran
  status : s.status = true ↔ s.thread.Live
  held : s.mutex = .caller ↔ s.caller = .test ∨ s.caller = .unlock
  locked : s.mutex = .thread ↔ s.thread = .setIsRun ∨ s.thread = .unlock
  seen : s.caller = .unlock ∨ s.caller = .join ∨ s.caller = .pthreadJoin → s.thread.Left
  wait : s.caller = .wait → ¬s.thread.Signalled
  returned : s.caller = .returned success → s.thread.Looped

theorem Sound.waits {s : CEventLoopThread} (sound : Sound s) : Waits s where
  looped := sound.returned
  notified := by
    intro _ signalled waiting
    exact sound.wait waiting signalled

theorem sound_start (eventBase : Bool) : Sound (start eventBase false) where
  waiting := rfl
  started := fun _ => rfl
  based := fun there => absurd rfl there
  isrun := by simp [start, ThreadStage.Ran]
  status := by simp [start, ThreadStage.Live]
  held := by simp [start]
  locked := by simp [start]
  seen := by simp [start]
  wait := by simp [start]
  returned := by simp [start]

section

variable {s : CEventLoopThread} (sound : Sound s)
include sound

/-- A move of the thread: what is to be shown of the stage it comes to. -/
theorem Sound.threadTo {old thread : ThreadStage} {isrun status : Bool} {mutex : Holder}
    (now : s.thread = old) (there : old ≠ .absent) (isrun_iff : isrun = true ↔ thread.Ran)
    (status_iff : status = true ↔ thread.Live) (held : mutex = .caller ↔ s.mutex = .caller)
    (locked : mutex = .thread ↔ thread = .setIsRun ∨ thread = .unlock)
    (left : old.Left → thread.Left) (asleep : s.caller = .wait → ¬thread.Signalled)
    (looped : old.Looped → thread.Looped) :
    Sound { s with thread := thread, isrun := isrun, status := status, mutex := mutex } := by
  subst now
  exact
    { waiting := sound.waiting
      started := fun first => absurd (sound.started first) there
      based := fun _ => sound.based there
      isrun := isrun_iff
      status := status_iff
      held := held.trans sound.held
      locked := locked
      seen := fun behind => left (sound.seen behind)
      wait := asleep
      returned := fun code => looped (sound.returned code) }

/-- A move of the caller: what is to be shown of the stage it comes to. -/
theorem Sound.callerTo {caller : CallerStage} {status : Bool} {mutex : Holder}
    (begun : caller ≠ .createThread) (status_iff : status = true ↔ s.thread.Live)
    (held : mutex = .caller ↔ caller = .test ∨ caller = .unlock)
    (locked : mutex = .thread ↔ s.mutex = .thread)
    (seen : caller = .unlock ∨ caller = .join ∨ caller = .pthreadJoin → s.thread.Left)
    (wait : caller = .wait → ¬s.thread.Signalled)
    (returned : caller = .returned success → s.thread.Looped) :
    Sound { s with caller := caller, status := status, mutex := mutex } where
  waiting := sound.waiting
  started := fun first => absurd first begun
  based := sound.based
  isrun := sound.isrun
  status := status_iff
  held := held
  locked := locked.trans sound.locked
  seen := seen
  wait := wait
  returned := returned

/-- A caller that wakes up comes to the mutex, which it does not have. -/
theorem Sound.wake (sleeps : s.caller = .wait) : Sound { s with caller := .lock } := by
  have away : s.mutex ≠ .caller := by
    intro mine
    rcases sound.held.mp mine with h | h
    all_goals
      rw [sleeps] at h
      contradiction
  apply sound.callerTo
  · simp
  · exact sound.status
  · simp [away]
  · exact Iff.rfl
  all_goals simp

/-- What a step of the thread keeps. -/
theorem sound_stepThread {s' : CEventLoopThread} (moved : s.stepThread = some s') : Sound s' := by
  have isrun := sound.isrun
  have status := sound.status
  have locked := sound.locked
  unfold stepThread at moved
  cases now : s.thread with
  | absent | finished =>
    rw [now] at moved
    contradiction
  | begin =>
    have eventBase : s.eventBase = true := sound.based (by simp [now])
    rw [now] at moved isrun status locked
    simp only [if_pos eventBase, Option.some.injEq] at moved
    subst moved
    refine sound.threadTo now (by decide) ?_ ?_ Iff.rfl ?_ ?_ ?_ ?_
    · exact isrun
    · exact status
    · simpa using locked
    · exact fun left => left.1.elim
    · exact fun _ signalled => signalled
    · exact fun looped => looped
  | lock =>
    rw [now] at moved isrun status
    obtain ⟨free, rfl⟩ := some_of_guard moved
    refine sound.threadTo now (by decide) ?_ ?_ ?_ ?_ ?_ ?_ ?_
    · exact isrun
    · exact status
    · simp [free]
    · simp
    · exact fun left => left.1.elim
    · exact fun _ signalled => signalled
    · exact fun looped => looped
  | setIsRun =>
    rw [now] at moved status locked
    obtain rfl := Option.some.inj moved
    refine sound.threadTo now (by decide) ?_ ?_ Iff.rfl ?_ ?_ ?_ ?_
    · exact iff_of_true rfl trivial
    · exact status
    · simpa using locked
    · exact fun left => left.1.elim
    · exact fun _ signalled => signalled
    · exact fun looped => looped
  | unlock =>
    rw [now] at moved isrun status locked
    have theirs : s.mutex = .thread := locked.mpr (.inr rfl)
    obtain rfl := Option.some.inj moved
    refine sound.threadTo now (by decide) ?_ ?_ ?_ ?_ ?_ ?_ ?_
    · exact isrun
    · exact status
    · simp [theirs]
    · simp
    · exact fun left => absurd rfl left.2
    · exact fun _ signalled => signalled
    · exact fun looped => looped
  | setThreadStatus =>
    rw [now] at moved isrun locked
    obtain rfl := Option.some.inj moved
    refine sound.threadTo now (by decide) ?_ ?_ Iff.rfl ?_ ?_ ?_ ?_
    · exact isrun
    · exact iff_of_true rfl trivial
    · simpa using locked
    · exact fun _ => ⟨trivial, by decide⟩
    · exact fun _ signalled => signalled
    · exact fun looped => looped
  | signal =>
    rw [now] at moved isrun status locked
    -- a caller that waits goes back to the mutex
    by_cases sleeps : s.caller = .wait
    · simp only [if_pos sleeps, Option.some.injEq] at moved
      subst moved
      refine (sound.wake sleeps).threadTo now (by decide) ?_ ?_ Iff.rfl ?_ ?_ ?_ ?_
      · exact isrun
      · exact status
      · simpa using locked
      · exact fun _ => ⟨trivial, by decide⟩
      · exact fun still => CallerStage.noConfusion still
      · exact fun looped => looped.elim
    · simp only [if_neg sleeps, Option.some.injEq] at moved
      subst moved
      refine sound.threadTo now (by decide) ?_ ?_ Iff.rfl ?_ ?_ ?_ ?_
      · exact isrun
      · exact status
      · simpa using locked
      · exact fun _ => ⟨trivial, by decide⟩
      · exact fun still => absurd still sleeps
      · exact fun looped => looped.elim
  | loop =>
    have awake : s.caller ≠ .wait := fun still => sound.wait still (by rw [now]; trivial)
    rw [now] at moved isrun status locked
    obtain rfl := Option.some.inj moved
    refine sound.threadTo now (by decide) ?_ ?_ Iff.rfl ?_ ?_ ?_ ?_
    · exact isrun
    · exact status
    · simpa using locked
    · exact fun _ => ⟨trivial, by decide⟩
    · exact fun still => absurd still awake
    · exact fun _ => trivial
  | clearThreadStatus =>
    have awake : s.caller ≠ .wait := fun still => sound.wait still (by rw [now]; trivial)
    rw [now] at moved isrun locked
    obtain rfl := Option.some.inj moved
    refine sound.threadTo now (by decide) ?_ ?_ Iff.rfl ?_ ?_ ?_ ?_
    · exact isrun
    · exact iff_of_false Bool.false_ne_true id
    · simpa using locked
    · exact fun _ => ⟨trivial, by decide⟩
    · exact fun still => absurd still awake
    · exact fun _ => trivial

/-- A caller that finds `m_isrun` set has the mutex, so the thread has left it. -/
theorem Sound.left_of_isrun (testing : s.caller = .test) (ran : s.isrun = true) :
    s.thread.Left := by
  have mine : s.mutex = .caller := sound.held.mpr (.inl testing)
  refine ⟨sound.isrun.mp ran, ?_⟩
  intro inside
  have theirs := sound.locked.mpr (.inr inside)
  rw [mine] at theirs
  contradiction

/-- What a step of the caller keeps, where it fits. -/
theorem sound_stepCaller {s' : CEventLoopThread}
    (fits : s.caller = .join → s.thread ≠ .setThreadStatus) (moved : s.stepCaller = some s') :
    Sound s' := by
  unfold stepCaller at moved
  cases now : s.caller with
  | createThread | wait | returned code =>
    rw [now] at moved
    contradiction
  | lock =>
    rw [now] at moved
    obtain ⟨free, rfl⟩ := some_of_guard moved
    apply sound.callerTo (by decide) sound.status
    · simp
    · simp [free]
    all_goals simp
  | test =>
    have mine : s.mutex = .caller := sound.held.mpr (.inl now)
    rw [now] at moved
    by_cases ran : s.isrun = true
    · have left := sound.left_of_isrun now ran
      simp only [if_pos ran, Option.some.injEq] at moved
      subst moved
      apply sound.callerTo (by decide) sound.status
      · simp [mine]
      · exact Iff.rfl
      · exact fun _ => left
      all_goals simp
    · have silent : ¬s.thread.Signalled := by
        intro signalled
        apply ran
        apply sound.isrun.mpr
        cases stage : s.thread with
        | absent | begin | lock | setIsRun =>
          rw [stage] at signalled
          exact signalled
        | _ => trivial
      simp only [if_neg ran, Option.some.injEq] at moved
      subst moved
      apply sound.callerTo (by decide) sound.status
      · simp
      · simp [mine]
      · simp
      · exact fun _ => silent
      · simp
  | unlock =>
    have mine : s.mutex = .caller := sound.held.mpr (.inr now)
    have left : s.thread.Left := sound.seen (.inl now)
    have waits : ¬s.isasync = true := by simp [sound.waiting]
    rw [now] at moved
    simp only [if_neg waits, Option.some.injEq] at moved
    subst moved
    apply sound.callerTo (by decide) sound.status
    · simp
    · simp [mine]
    · exact fun _ => left
    all_goals simp
  | join =>
    have away : s.mutex ≠ .caller := by
      intro mine
      have inside := sound.held.mp mine
      simp [now] at inside
    have left : s.thread.Left := sound.seen (.inr (.inl now))
    have behind := fits now
    rw [now] at moved
    by_cases live : s.status = true
    · simp only [if_pos live, Option.some.injEq] at moved
      subst moved
      apply sound.callerTo (by decide) sound.status
      · simp [away]
      · exact Iff.rfl
      · exact fun _ => left
      all_goals simp
    · have dead := mt sound.status.mpr live
      have looped : s.thread.Looped := by
        cases stage : s.thread with
        | absent | begin | lock | setIsRun | unlock => simp [stage] at left
        | setThreadStatus => exact absurd stage behind
        | signal | loop | clearThreadStatus => simp [stage] at dead
        | finished => trivial
      simp only [if_neg live, Option.some.injEq] at moved
      subst moved
      apply sound.callerTo (by simp) sound.status
      · simp [away]
      · exact Iff.rfl
      · simp
      · simp
      · exact fun _ => looped
  | pthreadJoin =>
    have away : s.mutex ≠ .caller := by
      intro mine
      have inside := sound.held.mp mine
      simp [now] at inside
    rw [now] at moved
    obtain ⟨finished, rfl⟩ := some_of_guard moved
    apply sound.callerTo (by simp)
    · simp [finished]
    · simp [away]
    · exact Iff.rfl
    · simp
    · simp
    · simp [finished]

/-- What a step that fits keeps. -/
theorem sound_step {s' : CEventLoopThread} {a : Act} (fits : Fits s a)
    (moved : s.step a = some s') : Sound s' := by
  cases a with
  | create created =>
    obtain ⟨first, branch⟩ := Option.ite_none_right_eq_some.mp moved
    have absent : s.thread = .absent := sound.started first
    have away : s.mutex ≠ .caller := by
      intro mine
      have inside := sound.held.mp mine
      simp [first] at inside
    obtain ⟨waiting, started, based, isrun, status, held, locked, seen, wait, returned⟩ := sound
    by_cases eventBase : s.eventBase = true
    · simp only [if_pos eventBase, Option.some.injEq] at branch
      subst branch
      cases created <;> constructor <;> simp_all
    · simp only [if_neg eventBase, Option.some.injEq] at branch
      subst branch
      constructor <;> simp_all [success]
  | caller => exact sound_stepCaller sound (fits rfl) moved
  | thread => exact sound_stepThread sound moved
  | spurious =>
    obtain ⟨sleeps, rfl⟩ := some_of_guard moved
    exact sound.wake sleeps

end

/-- A caller that reads `m_status` too early returns at once. -/
theorem fits_of_waits {s s' : CEventLoopThread} {a : Act} (sound : Sound s)
    (moved : s.step a = some s') (waits : Waits s') : Fits s a := by
  rintro rfl joining early
  have unset : s.status = false := by
    have dead := mt sound.status.mp (by simp [early])
    simpa using dead
  simp only [step, stepCaller, joining, unset, Bool.false_eq_true, if_false,
    Option.some.injEq] at moved
  subst moved
  have looped := waits.looped rfl
  simp [early] at looped

/-- `start(false)` waits for the loop and is not left waiting un-notified, all along a run, iff
the caller never comes to the test of `join` while the thread is between its unlock and its
`set_threadstatus(true)`. -/
theorem waits_iff_fits (eventBase : Bool) (acts : List Act) :
    Always step Waits (start eventBase false) acts ↔
      EachStep step (fun s a _ => Fits s a) (start eventBase false) acts := by
  have start_sound := sound_start eventBase
  have steps : EachStep step (fun _ _ s' => Waits s') (start eventBase false) acts ↔
      EachStep step (fun s a _ => Fits s a) (start eventBase false) acts := by
    apply EachStep.iff_of_invariant _ _ start_sound
    · intro s a s' sound fits moved
      have sound' := sound_step sound fits moved
      exact ⟨sound', sound'.waits⟩
    · intro s a s' sound moved waits
      exact fits_of_waits sound moved waits
  constructor
  · intro always
    exact steps.mp always.2
  · intro fits
    exact ⟨start_sound.waits, steps.mpr fits⟩

/-- The caller reads `m_isrun` as soon as the thread has left the mutex, and `m_status` before it
is set: `start(false)` returns and the loop has not begun. -/
theorem start_returns_early :
    ¬Always step Waits (start true false)
      [.create true, .thread, .thread, .thread, .thread, .caller, .caller, .caller, .caller] := by
  intro always
  have early := ((((((((always.2 _ rfl).2 _ rfl).2 _ rfl).2 _ rfl).2 _ rfl).2 _ rfl).2 _ rfl).2
    _ rfl).2 _ rfl
  exact early.1.looped rfl

end CEventLoopThread

end NewFramework.Tstlesrv
