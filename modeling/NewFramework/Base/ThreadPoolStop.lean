import NewFramework.Base.ThreadPoolProgress

/-!
# `ThreadPool::stop`

`stop` (`muduo/base/ThreadPool.cc`) wakes the workers that wait for a task.  It wakes no producer: a
producer blocked on `notFull_` is only notified by a worker that takes a task, and behind `stop` a
worker takes one more task if it is in `take`, and none otherwise.  So the producers get out exactly
as long as what the workers in `take` leave behind and what the threads in `run` bring finds room.

A task may call `run` too.  Where the workers themselves bring more than there will ever be room
for, one of them never exits, and `stop` does not return.
-/

namespace NewFramework.Base
open NewFramework.Lib

namespace PoolThread

/-- The thread is a worker in `take`, blocked or not. -/
def takes (thread : PoolThread) : Bool := thread.worker && thread.atTake

/-- The thread is a producer in `run`. -/
def outside (thread : PoolThread) : Bool := !thread.worker && thread.inRun

/-- The thread is a worker whose task is in `run`. -/
def inside (thread : PoolThread) : Bool := thread.worker && thread.inRun

theorem atTake_iff {thread : PoolThread} :
    thread.atTake = true ↔ thread.stage = .taking ∨ thread.stage = .waitsNotEmpty := by
  obtain ⟨worker, stage⟩ := thread
  cases stage <;> simp [atTake]

theorem inRun_of_onNotFull {thread : PoolThread} (on : thread.stage.OnNotFull) :
    thread.inRun = true := by
  obtain ⟨worker, stage⟩ := thread
  cases stage with
  | waitsNotFull => rfl
  | _ => exact on.elim

theorem takes_wake (thread : PoolThread) : thread.wake.takes = thread.takes :=
  congrArg (thread.worker && ·) thread.atTake_wake

theorem outside_wake (thread : PoolThread) : thread.wake.outside = thread.outside :=
  congrArg (!thread.worker && ·) thread.inRun_wake

theorem inside_wake (thread : PoolThread) : thread.wake.inside = thread.inside :=
  congrArg (thread.worker && ·) thread.inRun_wake

/-- A thread in `run` that is not blocked there is about to put its task. -/
theorem inRun_eq (thread : PoolThread) :
    (if thread.inRun then 1 else 0) =
      (if thread.onNotFull then 1 else 0) + if thread.inPut then 1 else 0 := by
  obtain ⟨worker, stage⟩ := thread
  cases stage <;> rfl

end PoolThread

namespace ThreadPool

/-- When `stop` has returned, nobody is blocked on a condition. -/
def Released (s : ThreadPool) : Prop :=
  s.stopStage = .returned →
    ∀ thread ∈ s.threads, ¬ thread.stage.OnNotFull ∧ ¬ thread.stage.OnNotEmpty

instance (s : ThreadPool) : Decidable s.Released := inferInstanceAs (Decidable (_ → _))

/-- The tasks that are in the queue when each worker in `take` has taken one, and those that the
threads in `run` bring. -/
def demand (s : ThreadPool) : Nat :=
  (s.queue.length - s.threads.countP PoolThread.takes) + s.threads.countP PoolThread.inRun

/-- No producer is in `run`, or there is room for the demand; or there will not be room for what
the workers bring, and they do not exit.  Calls of producers and of workers are counted too. -/
def RoomFor (calls own : Nat) (s : ThreadPool) : Prop :=
  0 < s.maxQueueSize →
    s.threads.countP PoolThread.outside + calls = 0 ∨
    s.demand + calls + own ≤ s.maxQueueSize ∨
    s.maxQueueSize + s.threads.countP PoolThread.atTake <
      s.queue.length + s.threads.countP PoolThread.inside + own

instance (calls own : Nat) (s : ThreadPool) : Decidable (s.RoomFor calls own) :=
  inferInstanceAs (Decidable (_ → _))

/-- `stop` is called while there is room for what is asked, and behind it `run` is. -/
def LeavesRoom (s : ThreadPool) : ThreadPoolAct → Prop
  | .stop => s.RoomFor 0 0
  | .thread i (.run _) => s.running = false →
      ∀ thread ∈ s.threads[i]?, s.RoomFor (!thread.worker).toNat thread.worker.toNat
  | _ => True

instance (s : ThreadPool) : DecidablePred s.LeavesRoom := fun a => by
  unfold LeavesRoom
  split <;> infer_instance

variable {s s' : ThreadPool} {i : Nat} {thread : PoolThread} {act : ThreadAct}

/-! ## What is asked -/

theorem countP_inRun (threads : List PoolThread) :
    threads.countP PoolThread.inRun =
      threads.countP PoolThread.onNotFull + threads.countP PoolThread.inPut := by
  induction threads with
  | nil => rfl
  | cons thread threads ih =>
    have here := thread.inRun_eq
    simp only [List.countP_cons]
    omega

/-- One thread goes to another stage, and some are woken. -/
theorem Woken.countP_set {p : PoolThread → Bool} {thread' : PoolThread}
    (same : ∀ thread, p thread.wake = p thread) (there : s.threads[i]? = some thread)
    (woken : Woken (s.threads.set i thread') s'.threads) :
    s'.threads.countP p + (p thread).toNat = s.threads.countP p + (p thread').toNat := by
  have indicator (b : Bool) : (if b = true then 1 else 0) = b.toNat := by cases b <;> rfl
  have counted := Lib.countP_set (y := thread') p there
  simp only [indicator] at counted
  rw [woken.countP_eq same]
  exact counted

/-- What a step asks for, in calls of producers and of workers, and what it makes room for. -/
structure Asks (s s' : ThreadPool) (calls own : Nat) : Prop where
  producers : s'.threads.countP PoolThread.outside ≤ s.threads.countP PoolThread.outside + calls
  demand : s'.demand ≤ s.demand + calls + own
  workers : s.running = false →
    s.queue.length + s.threads.countP PoolThread.inside + own +
        s'.threads.countP PoolThread.atTake ≤
      s'.queue.length + s'.threads.countP PoolThread.inside + s.threads.countP PoolThread.atTake

/-- What the stage of one thread and the queue do to what is asked; `ask` is whether it calls
`run`. -/
theorem asks_of_stage {stage : ThreadStage} {ask : Bool} (there : s.threads[i]? = some thread)
    (woken : Woken (s.threads.set i { thread with stage := stage }) s'.threads)
    (enters : (PoolThread.inRun { thread with stage := stage }).toNat ≤
      thread.inRun.toNat + ask.toNat)
    (balance : s'.queue = [] ∨
      s'.queue.length + (PoolThread.inRun { thread with stage := stage }).toNat +
          thread.takes.toNat ≤
        s.queue.length + thread.inRun.toNat +
          (PoolThread.takes { thread with stage := stage }).toNat + ask.toNat)
    (leaves : s.running = false →
      s.queue.length + thread.inside.toNat + (thread.worker && ask).toNat +
          (PoolThread.atTake { thread with stage := stage }).toNat ≤
        s'.queue.length + (PoolThread.inside { thread with stage := stage }).toNat +
          thread.atTake.toNat) :
    Asks s s' (!thread.worker && ask).toNat (thread.worker && ask).toNat where
  producers := by
    have outside := woken.countP_set PoolThread.outside_wake there
    have inside : (PoolThread.outside { thread with stage := stage }).toNat ≤
        thread.outside.toNat + (!thread.worker && ask).toNat := by
      obtain ⟨worker, before⟩ := thread
      cases worker with
      | true => exact Nat.zero_le _
      | false => exact enters
    omega
  demand := by
    have takes := woken.countP_set PoolThread.takes_wake there
    have inRun := woken.countP_set PoolThread.inRun_wake there
    have one : (!thread.worker && ask).toNat + (thread.worker && ask).toNat = ask.toNat := by
      cases thread.worker <;> cases ask <;> rfl
    unfold demand
    rcases balance with empty | balance
    · rw [empty, List.length_nil]
      omega
    · omega
  workers stopped := by
    have inside := woken.countP_set PoolThread.inside_wake there
    have atTake := woken.countP_set PoolThread.atTake_wake there
    have left := leaves stopped
    omega

/-- Only a call of `run` asks for more. -/
theorem Turn.asks (turn : Turn s i thread act s') (there : s.threads[i]? = some thread) :
    ∃ ask : Bool, (ask = true → ∃ callable, act = .run callable) ∧
      Asks s s' (!thread.worker && ask).toNat (thread.worker && ask).toNat := by
  cases turn with
  | ran =>
    refine ⟨false, nofun, ?_⟩
    rw [Bool.and_false, Bool.and_false]
    exact ⟨le_rfl, le_rfl, fun _ => le_rfl⟩
  | @asked task callable busy =>
    refine ⟨true, fun _ => ⟨callable, rfl⟩,
      asks_of_stage there (woken_wakeAt none _) ?_ (.inr ?_) fun _ => ?_⟩
    all_goals simp [setStage, PoolThread.inRun, PoolThread.takes, PoolThread.atTake,
      PoolThread.inside, busy]
  | @waited _ task putting =>
    refine ⟨false, nofun, asks_of_stage there (woken_wakeAt none _) ?_ (.inr ?_) fun _ => ?_⟩
    all_goals simp [setStage, PoolThread.inRun, PoolThread.takes, PoolThread.atTake,
      PoolThread.inside, putting]
  | @pushed _ task woken putting =>
    refine ⟨false, nofun, asks_of_stage there (woken_wakeAt woken _) ?_ (.inr ?_) fun _ => ?_⟩
    all_goals simp [push, notify, PoolThread.inRun, PoolThread.takes, PoolThread.atTake,
      PoolThread.inside, putting, Bool.toNat_le]
  | @popped _ task rest woken taking front =>
    refine ⟨false, nofun, asks_of_stage there (woken_wakeAt woken _) ?_ (.inr ?_) fun _ => ?_⟩
    all_goals simp [pop, notify, PoolThread.inRun, PoolThread.takes, PoolThread.atTake,
      PoolThread.inside, taking, front, Bool.toNat_le]
  | @began _ task took =>
    refine ⟨false, nofun, asks_of_stage there (woken_wakeAt none _) ?_ (.inr ?_) fun _ => ?_⟩
    all_goals simp [setStage, PoolThread.inRun, PoolThread.takes, PoolThread.atTake,
      PoolThread.inside, took]
  | @moved _ stage notFull notEmpty took put inRun enters busy woken =>
    refine ⟨false, nofun, asks_of_stage there (woken_wakeAt none _) ?_ ?_ fun stopped => ?_⟩
    · rw [inRun]
      exact Nat.le_add_right _ _
    · by_cases empty : s.queue = []
      · exact .inl empty
      · -- a worker that leaves `take` has found the queue empty, or was woken
        have stays :
            thread.takes.toNat ≤ (PoolThread.takes { thread with stage := stage }).toNat := by
          cases old : thread.atTake with
          | false => simp [PoolThread.takes, old]
          | true =>
            rcases PoolThread.atTake_iff.mp old with taking | waits
            · exact absurd (took taking) empty
            · obtain rfl := woken waits
              show (thread.worker && thread.atTake).toNat ≤ (thread.worker && true).toNat
              rw [old]
        right
        rw [inRun]
        dsimp only [setStage]
        omega
    · have fewer : (PoolThread.atTake { thread with stage := stage }).toNat ≤
          thread.atTake.toNat := by
        cases new : PoolThread.atTake { thread with stage := stage } with
        | false => exact Nat.zero_le _
        | true => rw [(enters new).resolve_right (by simp [stopped])]
      have same : PoolThread.inside { thread with stage := stage } = thread.inside :=
        congrArg (thread.worker && ·) inRun
      rw [same, Bool.and_false]
      dsimp only [setStage, Bool.toNat_false]
      omega

/-! ## What is kept behind `stop` -/

/-- What is kept for the producers. -/
structure Leaves (s : ThreadPool) : Prop where
  sound : s.Sound
  accounted : s.Accounted
  room : s.running = false → s.RoomFor 0 0

/-- Where there was room for the calls of a step, there is room behind it. -/
theorem RoomFor.step {calls own : Nat} (room : s.RoomFor calls own) (asks : Asks s s' calls own)
    (stopped : s.running = false) (size : s'.maxQueueSize = s.maxQueueSize) : s'.RoomFor 0 0 := by
  intro bound
  rw [size] at bound ⊢
  have workers := asks.workers stopped
  rcases room bound with nobody | fits | jammed
  · have producers := asks.producers
    exact .inl (by omega)
  · have demand := asks.demand
    exact .inr (.inl (by omega))
  · exact .inr (.inr (by omega))

theorem roomFor_stop : s.stop.RoomFor 0 0 ↔ s.RoomFor 0 0 := by
  have woken := woken_stop s
  unfold RoomFor demand
  rw [woken.countP_eq PoolThread.outside_wake, woken.countP_eq PoolThread.takes_wake,
    woken.countP_eq PoolThread.inRun_wake, woken.countP_eq PoolThread.atTake_wake,
    woken.countP_eq PoolThread.inside_wake]
  rfl

theorem Leaves.step {a : ThreadPoolAct} (leaves : s.Leaves) (room : s.LeavesRoom a)
    (moved : step s a = some s') : s'.Leaves := by
  refine ⟨leaves.sound.step moved, leaves.accounted.step moved, ?_⟩
  cases a with
  | thread i act =>
    obtain ⟨thread, there, moved⟩ := thread_of_step moved
    obtain ⟨stage, new, goes⟩ := goes_of_stepThread there moved
    have turn := turn_of_stepThread moved
    obtain ⟨ask, called, asks⟩ := turn.asks there
    intro stopped
    rw [goes.running] at stopped
    cases ask with
    | false =>
      rw [Bool.and_false, Bool.and_false] at asks
      exact (leaves.room stopped).step asks stopped turn.maxQueueSize
    | true =>
      obtain ⟨callable, rfl⟩ := called rfl
      rw [Bool.and_true, Bool.and_true] at asks
      have asked : s.RoomFor (!thread.worker).toNat thread.worker.toNat := room stopped thread there
      exact asked.step asks stopped turn.maxQueueSize
  | stop =>
    obtain ⟨-, rfl⟩ := some_of_guard moved
    have called : s.RoomFor 0 0 := room
    exact fun _ => roomFor_stop.mpr called
  | join =>
    obtain ⟨-, rfl⟩ := some_of_guard moved
    exact leaves.room

/-- Behind the last worker, whoever waits for room has somebody on the way who takes the last of
it, and for him there is none left. -/
theorem Leaves.released (leaves : s.Leaves) : s.Released := by
  intro returned thread mem
  have manned := leaves.sound.manned
  have stopped : s.running = false :=
    eq_false_of_ne_true fun running => by simp [manned.running.mp running] at returned
  refine ⟨?_, fun on => by simp [manned.notEmpty thread mem on] at stopped⟩
  intro on
  rcases Nat.eq_zero_or_pos s.maxQueueSize with unbounded | bound
  · exact leaves.sound.unbounded unbounded thread mem on
  have exited : ∀ worker ∈ s.threads, worker.worker = true →
      worker.inRun = false ∧ worker.atTake = false := by
    intro worker there works
    have gone : worker.stage = .exited := manned.returned returned worker there works
    rw [PoolThread.inRun, PoolThread.atTake, gone]
    exact ⟨rfl, rfl⟩
  have waits : 0 < s.threads.countP PoolThread.onNotFull :=
    List.countP_pos_iff.mpr ⟨thread, mem, decide_eq_true on⟩
  rcases leaves.room stopped bound with nobody | fits | jammed
  · have inRun := PoolThread.inRun_of_onNotFull on
    have producer : thread.worker = false :=
      eq_false_of_ne_true fun works => by simp [(exited thread mem works).1] at inRun
    have outside : thread.outside = true := by
      rw [PoolThread.outside, producer, inRun]
      rfl
    have some_outside : 0 < s.threads.countP PoolThread.outside :=
      List.countP_pos_iff.mpr ⟨thread, mem, outside⟩
    omega
  · have none_takes : s.threads.countP PoolThread.takes = 0 := by
      rw [List.countP_eq_zero]
      intro worker there takes
      obtain ⟨works, atTake⟩ := Bool.and_eq_true_iff.mp takes
      simp [(exited worker there works).2] at atTake
    have inRun := countP_inRun s.threads
    unfold demand at fits
    rcases leaves.sound.notFull bound with nobody | enough <;> omega
  · have none_inside : s.threads.countP PoolThread.inside = 0 := by
      rw [List.countP_eq_zero]
      intro worker there inside
      obtain ⟨works, inRun⟩ := Bool.and_eq_true_iff.mp inside
      simp [(exited worker there works).1] at inRun
    have full := leaves.sound.bounded bound
    omega

theorem leaves_start (maxQueueSize numThreads producers : Nat) :
    (start maxQueueSize numThreads producers).Leaves :=
  ⟨sound_start .., accounted_start .., nofun⟩

/-- Where there is room for what is asked when `stop` is called and whenever `run` is called behind
it, `stop` releases everyone; and whatever was started was submitted, and is started once. -/
theorem always_releases {maxQueueSize numThreads producers : Nat} {acts : List ThreadPoolAct}
    (room : EachStep step (fun s a _ => s.LeavesRoom a)
      (start maxQueueSize numThreads producers) acts) :
    Always step (fun s => s.Released ∧ s.StartedOnce) (start maxQueueSize numThreads producers)
      acts :=
  Always.of_invariant (fun _ _ _ leaves here moved => leaves.step here moved)
    (fun _ leaves => ⟨leaves.released, leaves.accounted.startedOnce⟩) (leaves_start ..) room

/-- Two producers, and room for one task: the second one is blocked when the pool is stopped, and
the worker that was about to take the task lets it out. -/
def stoppedWhileTaking : List ThreadPoolAct :=
  [.thread 1 (.run true), .thread 1 (.put none), .thread 2 (.run true), .thread 2 (.put none),
    .thread 0 .finish, .thread 0 .loop, .stop, .thread 0 (.take (some 2)), .thread 0 .begin,
    .thread 0 .finish, .thread 0 .loop, .join, .thread 2 (.put none)]

theorem always_releases_stoppedWhileTaking :
    Always step (fun s => s.Released ∧ s.StartedOnce) (start 1 1 2) stoppedWhileTaking :=
  always_releases (by decide)

/-- The same, with the worker still in its callback. -/
def stoppedWhileFull : List ThreadPoolAct :=
  [.thread 1 (.run true), .thread 1 (.put none), .thread 2 (.run true), .thread 2 (.put none),
    .stop, .thread 0 .finish, .thread 0 .loop, .join]

theorem not_always_releases_stoppedWhileFull :
    ¬ Always step (fun s => s.Released ∧ s.StartedOnce) (start 1 1 2) stoppedWhileFull := by
  decide

end ThreadPool

end NewFramework.Base
