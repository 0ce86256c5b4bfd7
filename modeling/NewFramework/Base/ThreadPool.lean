import Mathlib.Algebra.BigOperators.Group.List.Basic
import Mathlib.Algebra.Order.Group.Multiset
import Mathlib.Data.List.Forall2
import NewFramework.Lib.Numbered
import NewFramework.Lib.Run

/-!
# `ThreadPool`

This is `muduo/base/ThreadPool.cc`.  The threads are the workers of a pool that was started and the
producers that call `run`; a worker is a producer too while it runs a task.  What a thread does
under `mutex_` is one step.  A thread blocked on a condition may wake up for no reason; `notify`
wakes one of the threads blocked there, if there is any.

An exception ends the process and is left out, also the one that an empty task throws where the
caller of `run` runs it.
-/

namespace NewFramework.Base
open NewFramework.Lib

/-- A copy of the function handed to `run`, with the number of the call. -/
structure Task where
  number : Nat
  /-- not an empty `boost::function` -/
  callable : Bool
  deriving DecidableEq, Repr

/-- Where a thread is. -/
inductive ThreadStage where
  /-- out of the pool's code: in a task, in `threadInitCallback_` or in a producer -/
  | busy
  /-- in `run`, before it has the mutex -/
  | putting (task : Task)
  /-- blocked on `notFull_` and not notified -/
  | waitsNotFull (task : Task)
  /-- before the test of `running_` in `runInThread` -/
  | looping
  /-- in `take`, before it has the mutex -/
  | taking
  /-- blocked on `notEmpty_` and not notified -/
  | waitsNotEmpty
  /-- behind `take` -/
  | took (task : Option Task)
  /-- behind `runInThread` -/
  | exited
  deriving DecidableEq, Repr

namespace ThreadStage

def OnNotFull : ThreadStage → Prop
  | .waitsNotFull _ => True
  | _ => False

def OnNotEmpty : ThreadStage → Prop
  | .waitsNotEmpty => True
  | _ => False

instance : DecidablePred OnNotFull := fun stage => by unfold OnNotFull; split <;> infer_instance
instance : DecidablePred OnNotEmpty := fun stage => by unfold OnNotEmpty; split <;> infer_instance

/-- A blocked thread is woken. -/
def wake : ThreadStage → ThreadStage
  | .waitsNotFull task => .putting task
  | .waitsNotEmpty => .taking
  | stage => stage

/-- The task the thread has in its hands. -/
def tasks : ThreadStage → Multiset Task
  | .putting task | .waitsNotFull task | .took (some task) => {task}
  | _ => 0

end ThreadStage

structure PoolThread where
  /-- it runs `runInThread` -/
  worker : Bool
  stage : ThreadStage
  deriving DecidableEq

def PoolThread.wake (thread : PoolThread) : PoolThread :=
  { thread with stage := thread.stage.wake }

/-- How far the call of `stop` is. -/
inductive StopStage where
  | notCalled
  | joining
  | returned
  deriving DecidableEq, Repr

structure ThreadPool where
  queue : List Task
  maxQueueSize : Nat
  running : Bool
  threads : List PoolThread
  stopStage : StopStage
  /-- the tasks `run` was called with -/
  submitted : List Task
  /-- the tasks that were started -/
  started : List Task

/-- A step of a thread.  `woken` is the thread that a `notify` wakes. -/
inductive ThreadAct where
  | run (callable : Bool)
  | put (woken : Option Nat)
  /-- the task or the callback returns -/
  | finish
  | loop
  | take (woken : Option Nat)
  | begin
  | wakeUp
  deriving DecidableEq

/-- A step: a thread is named by its number. -/
inductive ThreadPoolAct where
  | thread (i : Nat) (act : ThreadAct)
  | stop
  | join
  deriving DecidableEq

namespace ThreadPool

/-- `start(numThreads)` -/
def start (maxQueueSize numThreads producers : Nat) : ThreadPool where
  queue := []
  maxQueueSize := maxQueueSize
  running := true
  threads := List.replicate numThreads ⟨true, .busy⟩ ++ List.replicate producers ⟨false, .busy⟩
  stopStage := .notCalled
  submitted := []
  started := []

/-- The thread gets to another stage. -/
def setStage (i : Nat) (thread : PoolThread) (stage : ThreadStage) (s : ThreadPool) : ThreadPool :=
  { s with threads := s.threads.set i { thread with stage := stage } }

def IsFull (s : ThreadPool) : Prop := 0 < s.maxQueueSize ∧ s.maxQueueSize ≤ s.queue.length

instance (s : ThreadPool) : Decidable s.IsFull := inferInstanceAs (Decidable (_ ∧ _))

/-- `threads_.empty()` -/
def NoWorkers (s : ThreadPool) : Prop := ∀ thread ∈ s.threads, thread.worker = false

instance (s : ThreadPool) : Decidable s.NoWorkers := inferInstanceAs (Decidable (∀ _ ∈ _, _))

/-- All workers among the threads have exited. -/
def AllExited (threads : List PoolThread) : Prop :=
  ∀ thread ∈ threads, thread.worker = true → thread.stage = .exited

instance (threads : List PoolThread) : Decidable (AllExited threads) :=
  inferInstanceAs (Decidable (∀ _ ∈ _, _))

section Notify

variable (Blocked : ThreadStage → Prop) [DecidablePred Blocked]

/-- The thread that `notify` wakes: one that is blocked, or nobody if nobody is. -/
def Notifies (woken : Option Nat) (threads : List PoolThread) : Prop :=
  match woken with
  | none => ∀ thread ∈ threads, ¬ Blocked thread.stage
  | some j => ∃ thread ∈ threads[j]?, Blocked thread.stage

instance (woken : Option Nat) (threads : List PoolThread) :
    Decidable (Notifies Blocked woken threads) := by
  unfold Notifies
  split <;> infer_instance

end Notify

/-- The thread leaves the condition it is blocked on. -/
def wakeAt (woken : Option Nat) (threads : List PoolThread) : List PoolThread :=
  match woken with
  | none => threads
  | some j => threads.modify j PoolThread.wake

def notify (woken : Option Nat) (s : ThreadPool) : ThreadPool :=
  { s with threads := wakeAt woken s.threads }

/-- `run`, up to where it waits for the mutex. -/
def run (i : Nat) (thread : PoolThread) (callable : Bool) (s : ThreadPool) : ThreadPool :=
  let task : Task := ⟨s.submitted.length, callable⟩
  if s.NoWorkers then
    { s with
      submitted := s.submitted ++ [task]
      started := if callable then s.started ++ [task] else s.started }
  else
    { s.setStage i thread (.putting task) with
      submitted := s.submitted ++ [task] }

/-- The task goes into the queue and `run` returns. -/
def push (i : Nat) (thread : PoolThread) (task : Task) (s : ThreadPool) : ThreadPool :=
  { s.setStage i thread .busy with queue := s.queue ++ [task] }

/-- The first task leaves the queue. -/
def pop (i : Nat) (thread : PoolThread) (task : Task) (rest : List Task) (s : ThreadPool) :
    ThreadPool :=
  { s.setStage i thread (.took (some task)) with queue := rest }

/-- `if (task) task();` -/
def begin (i : Nat) (thread : PoolThread) (task : Option Task) (s : ThreadPool) : ThreadPool :=
  match task with
  | some task =>
    if task.callable then
      { s.setStage i thread .busy with started := s.started ++ [task] }
    else s.setStage i thread .looping
  | none => s.setStage i thread .looping

/-- `stop`, up to its joins. -/
def stop (s : ThreadPool) : ThreadPool :=
  { s with
    running := false
    threads := s.threads.map fun thread =>
      if thread.stage.OnNotEmpty then thread.wake else thread
    stopStage := .joining }

def stepThread (i : Nat) (thread : PoolThread) (s : ThreadPool) : ThreadAct → Option ThreadPool
  | .run callable => if thread.stage = .busy then some (s.run i thread callable) else none
  | .put woken =>
    match thread.stage with
    | .putting task =>
      if s.IsFull then some (s.setStage i thread (.waitsNotFull task))
      else if Notifies ThreadStage.OnNotEmpty woken s.threads then
        some ((s.push i thread task).notify woken)
      else none
    | _ => none
  | .finish =>
    if thread.stage = .busy ∧ thread.worker = true then
      some (s.setStage i thread .looping)
    else none
  | .loop =>
    if thread.stage = .looping then
      some (s.setStage i thread (if s.running then .taking else .exited))
    else none
  | .take woken =>
    if thread.stage = .taking then
      match s.queue with
      | [] =>
        some (s.setStage i thread (if s.running then .waitsNotEmpty else .took none))
      | task :: rest =>
        if 0 < s.maxQueueSize then
          if Notifies ThreadStage.OnNotFull woken s.threads then
            some ((s.pop i thread task rest).notify woken)
          else none
        else some (s.pop i thread task rest)
    else none
  | .begin =>
    match thread.stage with
    | .took task => some (s.begin i thread task)
    | _ => none
  | .wakeUp =>
    if thread.stage.OnNotFull ∨ thread.stage.OnNotEmpty then
      some (s.setStage i thread thread.stage.wake)
    else none

def step (s : ThreadPool) : ThreadPoolAct → Option ThreadPool
  | .thread i act =>
    match s.threads[i]? with
    | none => none
    | some thread => s.stepThread i thread act
  | .stop => if s.stopStage = .notCalled then some s.stop else none
  -- `stop` joins one worker after the other: the last join returns when all have exited
  | .join =>
    if s.stopStage = .joining ∧ AllExited s.threads then some { s with stopStage := .returned }
    else none

/-! ## Waking threads -/

/-- The threads after some of them were woken. -/
def Woken : List PoolThread → List PoolThread → Prop :=
  List.Forall₂ fun before after => after = before ∨ after = before.wake

theorem woken_wakeAt (woken : Option Nat) (threads : List PoolThread) :
    Woken threads (wakeAt woken threads) := by
  have refl (threads : List PoolThread) : Woken threads threads :=
    List.forall₂_same.mpr fun _ _ => .inl rfl
  cases woken with
  | none => exact refl threads
  | some j =>
    rw [wakeAt]
    induction threads generalizing j with
    | nil =>
      rw [List.modify_nil]
      exact refl []
    | cons thread threads ih =>
      cases j with
      | zero => exact .cons (.inr rfl) (refl threads)
      | succ j => exact .cons (.inl rfl) (ih j)

theorem woken_stop (s : ThreadPool) : Woken s.threads s.stop.threads := by
  refine List.forall₂_map_right_iff.mpr (List.forall₂_same.mpr ?_)
  intro thread _
  split
  · exact .inr rfl
  · exact .inl rfl

/-! ## What a step of a thread does -/

variable {s s' : ThreadPool} {i : Nat} {thread : PoolThread} {act : ThreadAct}

/-- The thread goes to a stage and adds to what was submitted. -/
structure Goes (s : ThreadPool) (i : Nat) (thread : PoolThread) (act : ThreadAct)
    (stage : ThreadStage) (new : List Task) (s' : ThreadPool) : Prop where
  was : thread.stage ≠ .exited
  threads : Woken (s.threads.set i { thread with stage := stage }) s'.threads
  running : s'.running = s.running
  stopStage : s'.stopStage = s.stopStage
  direct : s.NoWorkers → thread.stage = .busy → thread.worker = false → stage = .busy
  notFull : stage.OnNotFull → (∃ woken, act = .put woken) ∧ s.IsFull
  notEmpty : stage.OnNotEmpty → s.running = true
  exits : stage = .exited → act = .loop ∧ s.running = false
  submitted : s'.submitted = s.submitted ++ new
  numbered : new = [] ∨ ∃ callable, new = [⟨s.submitted.length, callable⟩]
  tasks : (s'.started + s'.queue + stage.tasks : Multiset Task) ≤
    s.started + s.queue + thread.stage.tasks + new

theorem goes_setStage {stage : ThreadStage} (was : thread.stage ≠ .exited)
    (direct : s.NoWorkers → thread.stage = .busy → thread.worker = false → stage = .busy)
    (notFull : stage.OnNotFull → (∃ woken, act = .put woken) ∧ s.IsFull)
    (notEmpty : stage.OnNotEmpty → s.running = true)
    (exits : stage = .exited → act = .loop ∧ s.running = false)
    (tasks : stage.tasks ≤ thread.stage.tasks) :
    Goes s i thread act stage [] (s.setStage i thread stage) where
  was := was
  threads := woken_wakeAt none _
  running := rfl
  stopStage := rfl
  direct := direct
  notFull := notFull
  notEmpty := notEmpty
  exits := exits
  submitted := (List.append_nil _).symm
  numbered := .inl rfl
  tasks := by
    rw [Multiset.coe_nil, add_zero]
    exact add_le_add_right tasks _

/-- The thread ends up in user code. -/
theorem goes_busy {new : List Task} (was : thread.stage ≠ .exited)
    (threads : Woken (s.threads.set i { thread with stage := .busy }) s'.threads)
    (running : s'.running = s.running) (stopStage : s'.stopStage = s.stopStage)
    (submitted : s'.submitted = s.submitted ++ new)
    (numbered : new = [] ∨ ∃ callable, new = [⟨s.submitted.length, callable⟩])
    (tasks : (s'.started + s'.queue : Multiset Task) ≤
      s.started + s.queue + thread.stage.tasks + new) :
    Goes s i thread act .busy new s' where
  was := was
  threads := threads
  running := running
  stopStage := stopStage
  direct _ _ _ := rfl
  notFull := nofun
  notEmpty := nofun
  exits := nofun
  submitted := submitted
  numbered := numbered
  tasks := (add_zero _).trans_le tasks

theorem goes_run (there : s.threads[i]? = some thread) (busy : thread.stage = .busy)
    (callable : Bool) :
    ∃ stage new, Goes s i thread (.run callable) stage new (s.run i thread callable) := by
  have was : thread.stage ≠ .exited := by rw [busy]; decide
  unfold run
  split
  · refine ⟨.busy, _, goes_busy was ?_ rfl rfl rfl (.inr ⟨callable, rfl⟩) ?_⟩
    · obtain ⟨inside, eq⟩ := List.getElem?_eq_some_iff.mp there
      have same : (⟨thread.worker, .busy⟩ : PoolThread) = s.threads[i] := by rw [eq, ← busy]
      rw [same, List.set_getElem_self]
      exact woken_wakeAt none _
    · rw [busy]
      cases callable
      · exact (add_zero _).ge.trans (Multiset.le_add_right ..)
      · simp [ThreadStage.tasks, ← Multiset.coe_add, add_right_comm]
  · next workers =>
    refine ⟨.putting _, [⟨s.submitted.length, callable⟩], was, woken_wakeAt none _, rfl, rfl, ?_,
      nofun, nofun, nofun, rfl, .inr ⟨callable, rfl⟩, ?_⟩
    · exact fun none => absurd none workers
    · rw [busy]
      exact (congrArg (· + _) (add_zero _)).ge

theorem goes_push {task : Task} (putting : thread.stage = .putting task) (woken : Option Nat) :
    Goes s i thread act .busy [] ((s.push i thread task).notify woken) := by
  refine goes_busy (by rw [putting]; nofun) (woken_wakeAt woken _) rfl rfl
    (List.append_nil _).symm (.inl rfl) ?_
  rw [putting]
  simp [ThreadStage.tasks, push, notify, setStage, ← Multiset.coe_add, add_assoc]

theorem goes_pop {task : Task} {rest : List Task} (taking : thread.stage = .taking)
    (front : s.queue = task :: rest) (woken : Option Nat) :
    Goes s i thread act (.took (some task)) [] ((s.pop i thread task rest).notify woken) where
  was := by rw [taking]; decide
  threads := woken_wakeAt woken _
  running := rfl
  stopStage := rfl
  direct _ busy := by rw [taking] at busy; cases busy
  notFull := nofun
  notEmpty := nofun
  exits := nofun
  submitted := (List.append_nil _).symm
  numbered := .inl rfl
  tasks := by
    rw [front, taking]
    change (s.started + rest + {task} : Multiset Task) ≤
      s.started + (task :: rest : List Task) + 0 + 0
    rw [← Multiset.cons_coe, ← Multiset.singleton_add, add_comm ({task} : Multiset Task), add_zero,
      add_zero, add_assoc]

theorem goes_begin {task : Option Task} (took : thread.stage = .took task) :
    ∃ stage, Goes s i thread .begin stage [] (s.begin i thread task) := by
  have was : thread.stage ≠ .exited := by rw [took]; nofun
  have direct {stage : ThreadStage} :
      s.NoWorkers → thread.stage = .busy → thread.worker = false → stage = .busy := by
    rw [took]
    nofun
  have looping : Goes s i thread .begin .looping [] (s.setStage i thread .looping) :=
    goes_setStage was direct nofun nofun nofun (Multiset.zero_le _)
  unfold begin
  split
  · next task =>
    split
    · refine ⟨.busy, goes_busy was (woken_wakeAt none _) rfl rfl (List.append_nil _).symm
        (.inl rfl) ?_⟩
      rw [took]
      simp [ThreadStage.tasks, setStage, ← Multiset.coe_add, add_right_comm]
    · exact ⟨_, looping⟩
  · exact ⟨_, looping⟩

theorem goes_of_stepThread (there : s.threads[i]? = some thread)
    (moved : s.stepThread i thread act = some s') :
    ∃ stage new, Goes s i thread act stage new s' := by
  unfold stepThread at moved
  cases act with
  | run callable =>
    obtain ⟨busy, rfl⟩ := some_of_guard moved
    exact goes_run there busy callable
  | put woken =>
    dsimp only at moved
    split at moved
    · next task putting =>
      split at moved
      · next full =>
        obtain rfl := Option.some.inj moved
        refine ⟨_, _, goes_setStage ?_ ?_ (fun _ => ⟨⟨_, rfl⟩, full⟩) nofun nofun ?_⟩ <;>
          rw [putting]
        · nofun
        · nofun
        · exact le_rfl
      · obtain ⟨-, rfl⟩ := some_of_guard moved
        exact ⟨_, _, goes_push putting woken⟩
    · contradiction
  | finish =>
    obtain ⟨⟨busy, worker⟩, rfl⟩ := some_of_guard moved
    refine ⟨_, _, goes_setStage (by rw [busy]; decide) ?_ nofun nofun nofun (Multiset.zero_le _)⟩
    rw [worker]
    nofun
  | loop =>
    obtain ⟨looping, eq⟩ := some_of_guard moved
    have was : thread.stage ≠ .exited := by rw [looping]; decide
    have direct {stage : ThreadStage} :
        s.NoWorkers → thread.stage = .busy → thread.worker = false → stage = .busy := by
      rw [looping]
      nofun
    split at eq
    · subst eq
      exact ⟨_, _, goes_setStage was direct nofun nofun nofun (Multiset.zero_le _)⟩
    · next stopped =>
      subst eq
      exact ⟨_, _, goes_setStage was direct nofun nofun
        (fun _ => ⟨rfl, eq_false_of_ne_true stopped⟩) (Multiset.zero_le _)⟩
  | take woken =>
    obtain ⟨taking, moved⟩ := Option.ite_none_right_eq_some.mp moved
    have was : thread.stage ≠ .exited := by rw [taking]; decide
    have direct {stage : ThreadStage} :
        s.NoWorkers → thread.stage = .busy → thread.worker = false → stage = .busy := by
      rw [taking]
      nofun
    split at moved
    · have eq := Option.some.inj moved
      split at eq
      · next running =>
        subst eq
        exact ⟨_, _, goes_setStage was direct nofun (fun _ => running) nofun (Multiset.zero_le _)⟩
      · subst eq
        exact ⟨_, _, goes_setStage was direct nofun nofun nofun (Multiset.zero_le _)⟩
    · next task rest front =>
      split at moved
      · obtain ⟨-, rfl⟩ := some_of_guard moved
        exact ⟨_, _, goes_pop taking front woken⟩
      · obtain rfl := Option.some.inj moved
        exact ⟨_, _, goes_pop taking front none⟩
  | begin =>
    dsimp only at moved
    split at moved
    · next task took =>
      obtain rfl := Option.some.inj moved
      obtain ⟨stage, goes⟩ := goes_begin (s := s) (i := i) took
      exact ⟨stage, _, goes⟩
    · contradiction
  | wakeUp =>
    obtain ⟨blocked, rfl⟩ := some_of_guard moved
    cases stage : thread.stage with
    | waitsNotFull task =>
      refine ⟨_, _, goes_setStage ?_ ?_ nofun nofun nofun ?_⟩ <;> rw [stage]
      · nofun
      · nofun
      · exact le_rfl
    | waitsNotEmpty =>
      refine ⟨_, _, goes_setStage ?_ ?_ nofun nofun nofun ?_⟩ <;> rw [stage]
      · nofun
      · nofun
      · exact le_rfl
    | _ => simp [stage, ThreadStage.OnNotFull, ThreadStage.OnNotEmpty] at blocked

theorem thread_of_step (moved : step s (.thread i act) = some s') :
    ∃ thread, s.threads[i]? = some thread ∧ s.stepThread i thread act = some s' := by
  rw [step] at moved
  split at moved
  · contradiction
  · next thread there => exact ⟨thread, there, moved⟩

end ThreadPool

end NewFramework.Base
