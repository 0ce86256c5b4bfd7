import NewFramework.Base.ThreadPoolRuns
import NewFramework.Lib.Signal

/-!
# A `ThreadPool` at work

Until `stop` (`muduo/base/ThreadPool.cc`) is called, no task is left in the queue while all workers
sleep, and no producer is left blocked while there is room.  A task may call `run` itself.  Where
the queue is full its worker waits there for another worker, and if that was the last one, nobody
takes a task any more.
-/

namespace NewFramework.Base
open NewFramework.Lib

namespace PoolThread

def onNotFull (thread : PoolThread) : Bool := decide thread.stage.OnNotFull

def onNotEmpty (thread : PoolThread) : Bool := decide thread.stage.OnNotEmpty

def inTake (thread : PoolThread) : Bool := decide (thread.stage = .taking)

def inPut (thread : PoolThread) : Bool :=
  match thread.stage with
  | .putting _ => true
  | _ => false

def inRun (thread : PoolThread) : Bool :=
  match thread.stage with
  | .putting _ | .waitsNotFull _ => true
  | _ => false

def atTake (thread : PoolThread) : Bool :=
  match thread.stage with
  | .taking | .waitsNotEmpty => true
  | _ => false

variable {thread : PoolThread}

theorem wake_notFull (waits : thread.onNotFull = true) :
    thread.wake.onNotFull = false ∧ thread.inPut = false ∧ thread.wake.inPut = true := by
  obtain ⟨worker, stage⟩ := thread
  cases stage with
  | waitsNotFull task => exact ⟨rfl, rfl, rfl⟩
  | _ => exact absurd waits Bool.false_ne_true

theorem wake_notEmpty (waits : thread.onNotEmpty = true) :
    thread.wake.onNotEmpty = false ∧ thread.inTake = false ∧ thread.wake.inTake = true := by
  obtain ⟨worker, stage⟩ := thread
  cases stage with
  | waitsNotEmpty => exact ⟨rfl, rfl, rfl⟩
  | _ => exact absurd waits Bool.false_ne_true

/-- A thread that was woken waits no more, -/
theorem onNotFull_wake (thread : PoolThread) : thread.wake.onNotFull = false :=
  decide_eq_false (ThreadPool.not_onNotFull_wake _)

theorem onNotEmpty_wake (thread : PoolThread) : thread.wake.onNotEmpty = false :=
  decide_eq_false (ThreadPool.not_onNotEmpty_wake _)

/-- and one that did not wait goes on. -/
theorem inPut_wake (thread : PoolThread) (going : thread.inPut = true) :
    thread.wake.inPut = true := by
  obtain ⟨worker, stage⟩ := thread
  cases stage with
  | putting task => rfl
  | _ => exact absurd going Bool.false_ne_true

theorem inRun_wake (thread : PoolThread) : thread.wake.inRun = thread.inRun := by
  obtain ⟨worker, stage⟩ := thread
  cases stage <;> rfl

theorem atTake_wake (thread : PoolThread) : thread.wake.atTake = thread.atTake := by
  obtain ⟨worker, stage⟩ := thread
  cases stage <;> rfl

theorem inTake_wake (thread : PoolThread) (going : thread.inTake = true) :
    thread.wake.inTake = true := by
  obtain ⟨worker, stage⟩ := thread
  cases stage with
  | taking => rfl
  | _ => exact absurd going Bool.false_ne_true

end PoolThread

namespace ThreadPool

/-! ## What a pool owes its callers -/

/-- What was submitted and can be called. -/
def callables (tasks : Multiset Task) : Multiset Task := tasks.filter (·.callable = true)

@[simp] theorem callables_add (xs ys : Multiset Task) :
    callables (xs + ys) = callables xs + callables ys :=
  Multiset.filter_add ..

/-- Every task that can be called was started, or is in the queue or on its way. -/
def Complete (s : ThreadPool) : Prop :=
  callables s.submitted = s.started + callables s.pending

/-- Each thread is outside the pool, blocked or gone. -/
def Stalled (s : ThreadPool) : Prop :=
  ∀ thread ∈ s.threads, thread.worker = false ∧ thread.stage = .busy ∨
    thread.stage.OnNotFull ∨ thread.stage.OnNotEmpty ∨ thread.stage = .exited

/-- No task is in the queue or on its way. -/
def Rests (s : ThreadPool) : Prop := s.pending = 0

/-- All workers wait for a worker. -/
def Deadlocked (s : ThreadPool) : Prop :=
  ¬ s.NoWorkers ∧ ∀ thread ∈ s.threads, thread.worker = true → thread.stage.OnNotFull

/-- What a pool owes its callers. -/
structure Works (s : ThreadPool) : Prop where
  complete : s.Complete
  bounded : 0 < s.maxQueueSize → s.queue.length ≤ s.maxQueueSize
  live : s.running = true → ¬ s.Deadlocked ∧ (s.Stalled → s.Rests)

/-- A task that finds the queue full leaves a worker that is not blocked there. -/
def LeavesWorker (s : ThreadPool) : ThreadPoolAct → Prop
  | .thread i (.put _) =>
    s.running = true → s.IsFull →
      (∃ thread ∈ s.threads[i]?, thread.worker = true) →
        ∃ thread ∈ s.threads.eraseIdx i, thread.worker = true ∧ ¬ thread.stage.OnNotFull
  | _ => True

/-! ## The signals -/

theorem signals_of_notifies {Blocked : ThreadStage → Prop} [DecidablePred Blocked]
    {woken : Option Nat} {threads : List PoolThread}
    (notifies : Notifies Blocked woken threads) :
    Signals (fun thread => decide (Blocked thread.stage)) threads woken := by
  cases woken with
  | none => exact fun thread mem => decide_eq_false (notifies thread mem)
  | some j =>
    obtain ⟨thread, there, blocked⟩ := notifies
    exact ⟨thread, there, decide_eq_true blocked⟩

theorem wakeAt_eq (woken : Option Nat) (threads : List PoolThread) :
    wakeAt woken threads = Lib.wakeAt PoolThread.wake threads woken := by
  cases woken with
  | none => rfl
  | some j =>
    rw [wakeAt, Lib.wakeAt, List.modify_eq_set_getElem?]
    cases threads[j]? <;> rfl

/-! ## What a step does to the queue -/

variable {s s' : ThreadPool} {i : Nat} {thread : PoolThread} {act : ThreadAct}

/-- A step of a thread, as far as the queue and its conditions go. -/
inductive Turn (s : ThreadPool) (i : Nat) (thread : PoolThread) : ThreadAct → ThreadPool → Prop
  | ran {task : Task} {callable : Bool} (none : s.NoWorkers) :
    Turn s i thread (.run callable) { s with
      submitted := s.submitted ++ [task]
      started := if task.callable then s.started ++ [task] else s.started }
  | asked {task : Task} {callable : Bool} (busy : thread.stage = .busy) :
    Turn s i thread (.run callable) { s.setStage i thread (.putting task) with
      submitted := s.submitted ++ [task] }
  | waited {act : ThreadAct} {task : Task} (putting : thread.stage = .putting task)
      (full : s.IsFull) :
    Turn s i thread act (s.setStage i thread (.waitsNotFull task))
  | pushed {act : ThreadAct} {task : Task} {woken : Option Nat}
      (putting : thread.stage = .putting task) (room : ¬ s.IsFull)
      (notifies : Notifies ThreadStage.OnNotEmpty woken s.threads) :
    Turn s i thread act ((s.push i thread task).notify woken)
  | popped {act : ThreadAct} {task : Task} {rest : List Task} {woken : Option Nat}
      (taking : thread.stage = .taking) (front : s.queue = task :: rest)
      (notifies : 0 < s.maxQueueSize → Notifies ThreadStage.OnNotFull woken s.threads) :
    Turn s i thread act ((s.pop i thread task rest).notify woken)
  | began {act : ThreadAct} {task : Task} (took : thread.stage = .took (some task))
      (callable : task.callable) :
    Turn s i thread act { s.setStage i thread .busy with started := s.started ++ [task] }
  | moved {act : ThreadAct} {stage : ThreadStage} (notFull : ¬ stage.OnNotFull)
      (notEmpty : stage.OnNotEmpty → s.queue = []) (took : thread.stage = .taking → s.queue = [])
      (put : thread.inPut = false)
      (inRun : PoolThread.inRun { thread with stage := stage } = thread.inRun)
      (enters : PoolThread.atTake { thread with stage := stage } = true →
        thread.atTake = true ∨ s.running = true)
      (busy : thread.stage = .busy → thread.worker = true)
      (woken : thread.stage = .waitsNotEmpty → stage = .taking)
      (tasks : callables stage.tasks = callables thread.stage.tasks) :
    Turn s i thread act (s.setStage i thread stage)

theorem turn_of_stepThread (moved : s.stepThread i thread act = some s') :
    Turn s i thread act s' := by
  unfold stepThread at moved
  cases act with
  | run callable =>
    obtain ⟨busy, rfl⟩ := some_of_guard moved
    unfold run
    split
    · next none => exact .ran none
    · exact .asked busy
  | put woken =>
    dsimp only at moved
    split at moved
    · next task putting =>
      split at moved
      · next full =>
        obtain rfl := Option.some.inj moved
        exact .waited putting full
      · next room =>
        obtain ⟨notifies, rfl⟩ := some_of_guard moved
        exact .pushed putting room notifies
    · contradiction
  | finish =>
    obtain ⟨⟨busy, worker⟩, rfl⟩ := some_of_guard moved
    refine .moved not_false nofun ?_ ?_ ?_ nofun (fun _ => worker) ?_ ?_
    · simp [busy]
    · simp [PoolThread.inPut, busy]
    · simp [PoolThread.inRun, busy]
    · simp [busy]
    · rw [busy]; rfl
  | loop =>
    obtain ⟨looping, rfl⟩ := some_of_guard moved
    refine .moved ?_ ?_ ?_ ?_ ?_ ?_ (by simp [looping]) ?_ ?_
    · split <;> exact not_false
    · split <;> exact False.elim
    · simp [looping]
    · simp [PoolThread.inPut, looping]
    · split <;> simp [PoolThread.inRun, looping]
    · split
      · next running => exact fun _ => .inr running
      · nofun
    · simp [looping]
    · rw [looping]
      split <;> rfl
  | take woken =>
    obtain ⟨taking, moved⟩ := Option.ite_none_right_eq_some.mp moved
    split at moved
    · next empty =>
      obtain rfl := Option.some.inj moved
      refine .moved ?_ (fun _ => empty) (fun _ => empty) ?_ ?_ ?_ (by simp [taking]) ?_ ?_
      · split <;> exact not_false
      · simp [PoolThread.inPut, taking]
      · split <;> simp [PoolThread.inRun, taking]
      · exact fun _ => .inl (by simp [PoolThread.atTake, taking])
      · simp [taking]
      · rw [taking]
        split <;> rfl
    · next task rest front =>
      split at moved
      · obtain ⟨notifies, rfl⟩ := some_of_guard moved
        exact .popped taking front fun _ => notifies
      · next unbounded =>
        obtain rfl := Option.some.inj moved
        exact @Turn.popped s i thread _ task rest none taking front fun bound =>
          absurd bound unbounded
  | begin =>
    dsimp only at moved
    split at moved
    · next task took =>
      obtain rfl := Option.some.inj moved
      have taking : ¬ thread.stage = .taking := by simp [took]
      have waits : ¬ thread.stage = .waitsNotEmpty := by simp [took]
      have busy : ¬ thread.stage = .busy := by simp [took]
      have put : thread.inPut = false := by simp [PoolThread.inPut, took]
      have inRun : thread.inRun = false := by simp [PoolThread.inRun, took]
      unfold begin
      split
      · next task =>
        split
        · next callable => exact .began took callable
        · next empty =>
          refine .moved not_false nofun (absurd · taking) put inRun.symm nofun (absurd · busy)
            (absurd · waits) ?_
          rw [took]
          show callables 0 = callables {task}
          rw [callables, callables, Multiset.filter_singleton, if_neg empty]
          rfl
      · refine .moved not_false nofun (absurd · taking) put inRun.symm nofun (absurd · busy)
          (absurd · waits) ?_
        rw [took]
        rfl
    · contradiction
  | wakeUp =>
    obtain ⟨blocked, rfl⟩ := some_of_guard moved
    refine .moved (not_onNotFull_wake _) (fun on => absurd on (not_onNotEmpty_wake _)) ?_ ?_
      thread.inRun_wake (fun takes => .inl (thread.atTake_wake.symm.trans takes)) ?_ ?_ ?_
    · intro taking
      rw [taking] at blocked
      exact absurd blocked (by decide)
    · unfold PoolThread.inPut
      split
      · next task putting =>
        rw [putting] at blocked
        exact (blocked.elim id id).elim
      · rfl
    · intro busy
      rw [busy] at blocked
      exact (blocked.elim id id).elim
    · intro waits
      rw [waits]
      rfl
    · rw [tasks_wake]

/-! ## What every step keeps -/

structure Sound (s : ThreadPool) : Prop where
  manned : s.Manned
  complete : s.Complete
  bounded : 0 < s.maxQueueSize → s.queue.length ≤ s.maxQueueSize
  workerless : s.NoWorkers → s.queue = []
  unbounded : s.maxQueueSize = 0 → ∀ thread ∈ s.threads, ¬ thread.stage.OnNotFull
  notEmpty : s.running = true →
    Covered PoolThread.onNotEmpty PoolThread.inTake s.queue.length s.threads
  notFull : 0 < s.maxQueueSize →
    Covered PoolThread.onNotFull PoolThread.inPut (s.maxQueueSize - s.queue.length) s.threads

/-- The tasks of a step come from the queue, from the hands of the thread or from outside. -/
theorem Complete.turn (complete : s.Complete) (there : s.threads[i]? = some thread)
    {stage : ThreadStage} {new : List Task}
    (threads : Woken (s.threads.set i { thread with stage := stage }) s'.threads)
    (submitted : s'.submitted = s.submitted ++ new)
    (balance : s'.started + callables (s'.queue + stage.tasks) =
      s.started + callables (s.queue + thread.stage.tasks) + callables new) : s'.Complete := by
  have moved := congrArg callables
    (sum_map_set (y := { thread with stage := stage }) (·.stage.tasks) there)
  rw [callables_add, callables_add] at moved
  rw [callables_add, callables_add] at balance
  unfold Complete pending at complete ⊢
  rw [submitted, threads.sum_tasks, ← Multiset.coe_add, callables_add, callables_add, complete,
    callables_add]
  apply add_right_cancel (b := callables thread.stage.tasks)
  calc (s.started : Multiset Task) + (callables s.queue + callables (s.threads.map _).sum) +
        callables new + callables thread.stage.tasks
    _ = s.started + (callables s.queue + callables thread.stage.tasks) + callables new +
        callables (s.threads.map (·.stage.tasks)).sum := by abel
    _ = s'.started + (callables s'.queue + callables stage.tasks) +
        callables (s.threads.map (·.stage.tasks)).sum := by rw [balance]
    _ = s'.started + callables s'.queue +
        (callables (s.threads.map (·.stage.tasks)).sum + callables stage.tasks) := by abel
    _ = s'.started + (callables s'.queue +
        callables ((s.threads.set i _).map (·.stage.tasks)).sum) +
          callables thread.stage.tasks := by rw [← moved]; abel

theorem callables_singleton (task : Task) :
    callables {task} = if task.callable then {task} else 0 :=
  Multiset.filter_singleton ..

theorem Turn.complete (turn : Turn s i thread act s') (complete : s.Complete)
    (there : s.threads[i]? = some thread) : s'.Complete := by
  cases turn with
  | @ran task =>
    have same : { s with
        submitted := s.submitted ++ [task]
        started := if task.callable then s.started ++ [task] else s.started }.pending =
          s.pending := rfl
    unfold Complete at complete ⊢
    rw [same, ← Multiset.coe_add, callables_add, complete, Multiset.coe_singleton,
      callables_singleton]
    cases task.callable with
    | true =>
      rw [if_pos rfl, if_pos rfl, ← Multiset.coe_add, Multiset.coe_singleton]
      abel
    | false =>
      rw [if_neg Bool.false_ne_true, if_neg Bool.false_ne_true, add_zero]
  | @asked task _ busy =>
    refine complete.turn there (woken_wakeAt none _) rfl ?_
    show s.started + callables (s.queue + {task}) =
      s.started + callables (s.queue + thread.stage.tasks) + callables {task}
    rw [busy]
    show _ = s.started + callables (s.queue + 0) + callables {task}
    rw [add_zero, callables_add, add_assoc]
  | @waited _ task putting =>
    refine complete.turn there (woken_wakeAt none _) (List.append_nil _).symm ?_
    rw [putting]
    exact (add_zero _).symm
  | @pushed _ task woken putting =>
    refine complete.turn there (woken_wakeAt woken _) (List.append_nil _).symm ?_
    show s.started + callables ((s.queue ++ [task] : List Task) + 0) = _
    rw [putting, ← Multiset.coe_add, add_zero]
    exact (add_zero _).symm
  | @popped _ task rest woken taking front =>
    refine complete.turn there (woken_wakeAt woken _) (List.append_nil _).symm ?_
    show s.started + callables (rest + {task}) = _
    rw [taking, front, ← Multiset.cons_coe, ← Multiset.singleton_add,
      add_comm (rest : Multiset Task)]
    show _ = s.started + callables ({task} + rest + 0) + 0
    rw [add_zero, add_zero]
  | @began _ task took callable =>
    refine complete.turn there (woken_wakeAt none _) (List.append_nil _).symm ?_
    show (s.started ++ [task] : List Task) + callables (s.queue + 0) =
      s.started + callables (s.queue + thread.stage.tasks) + 0
    rw [took, add_zero, add_zero]
    show _ = s.started + callables (s.queue + {task})
    rw [← Multiset.coe_add, callables_add, callables_singleton, if_pos callable,
      Multiset.coe_singleton]
    abel
  | moved _ _ _ _ _ _ _ _ tasks =>
    refine complete.turn there (woken_wakeAt none _) (List.append_nil _).symm ?_
    rw [callables_add, callables_add, tasks]
    exact (add_zero _).symm

theorem Turn.maxQueueSize (turn : Turn s i thread act s') : s'.maxQueueSize = s.maxQueueSize := by
  cases turn <;> rfl

theorem Turn.bounded (turn : Turn s i thread act s')
    (bounded : 0 < s.maxQueueSize → s.queue.length ≤ s.maxQueueSize) (bound : 0 < s.maxQueueSize) :
    s'.queue.length ≤ s.maxQueueSize := by
  cases turn with
  | @pushed _ task _ _ room =>
    show (s.queue ++ [task]).length ≤ _
    have short : ¬ s.maxQueueSize ≤ s.queue.length := fun full => room ⟨bound, full⟩
    rw [List.length_append, List.length_singleton]
    omega
  | @popped _ task rest _ _ front =>
    have before := bounded bound
    rw [front, List.length_cons] at before
    exact Nat.le_of_succ_le before
  | _ => exact bounded bound

/-- Where a task is in the queue, a worker sleeps only if others come for it. -/
theorem Turn.notEmpty (turn : Turn s i thread act s') (there : s.threads[i]? = some thread)
    (covered : Covered PoolThread.onNotEmpty PoolThread.inTake s.queue.length s.threads) :
    Covered PoolThread.onNotEmpty PoolThread.inTake s'.queue.length s'.threads := by
  have leaves (stage : ThreadStage) (waits : ¬ stage.OnNotEmpty)
      (other : thread.stage ≠ .taking) :
      Covered PoolThread.onNotEmpty PoolThread.inTake s.queue.length
        (s.threads.set i { thread with stage := stage }) :=
    covered.move there (fun on => absurd (of_decide_eq_true on) waits)
      (fun going => absurd (of_decide_eq_true going) other)
  cases turn with
  | ran none => exact covered
  | asked busy => exact leaves _ not_false (by rw [busy]; nofun)
  | waited putting => exact leaves _ not_false (by rw [putting]; nofun)
  | @pushed _ task woken putting _ notifies =>
    have other : PoolThread.onNotEmpty thread = false :=
      decide_eq_false (by rw [putting]; exact not_false)
    have signals : Signals PoolThread.onNotEmpty (s.threads.set i { thread with stage := .busy })
        woken :=
      (signals_of_notifies notifies).set there other rfl
    have left := (leaves .busy not_false (by rw [putting]; nofun)).signal signals
      fun _ => PoolThread.wake_notEmpty
    rw [← wakeAt_eq] at left
    show Covered _ _ (s.queue ++ [task]).length _
    rw [List.length_append]
    exact left
  | @popped _ task rest woken _ front =>
    rw [front, List.length_cons] at covered
    have taken : Covered PoolThread.onNotEmpty PoolThread.inTake rest.length
        (s.threads.set i { thread with stage := .took (some task) }) :=
      covered.consume there rfl
    have left := taken.wakeAt
      (fun other on => absurd on (by rw [PoolThread.onNotEmpty_wake]; exact Bool.false_ne_true))
      PoolThread.inTake_wake woken
    rw [← wakeAt_eq] at left
    exact left
  | began took => exact leaves _ not_false (by rw [took]; nofun)
  | @moved _ stage _ notEmpty took =>
    show Covered _ _ s.queue.length (s.threads.set i _)
    by_cases empty : s.queue = []
    · rw [empty]
      exact covered_zero
    · exact leaves _ (mt notEmpty empty) (mt took empty)

/-- Where there is room in the queue, a producer waits only if others come to fill it. -/
theorem Turn.notFull (turn : Turn s i thread act s') (there : s.threads[i]? = some thread)
    (bound : 0 < s.maxQueueSize) (bounded : s.queue.length ≤ s.maxQueueSize)
    (covered : Covered PoolThread.onNotFull PoolThread.inPut
      (s.maxQueueSize - s.queue.length) s.threads) :
    Covered PoolThread.onNotFull PoolThread.inPut (s.maxQueueSize - s'.queue.length)
      s'.threads := by
  have leaves (stage : ThreadStage) (waits : ¬ stage.OnNotFull) (other : thread.inPut = false) :
      Covered PoolThread.onNotFull PoolThread.inPut (s.maxQueueSize - s.queue.length)
        (s.threads.set i { thread with stage := stage }) :=
    covered.move there (fun on => absurd (of_decide_eq_true on) waits)
      (fun going => absurd (other.symm.trans going) Bool.false_ne_true)
  cases turn with
  | ran none => exact covered
  | asked busy => exact leaves _ not_false (by simp [PoolThread.inPut, busy])
  | waited putting full =>
    show Covered _ _ (s.maxQueueSize - s.queue.length) _
    rw [Nat.sub_eq_zero_of_le full.2]
    exact covered_zero
  | @pushed _ task woken putting room _ =>
    have short : ¬ s.maxQueueSize ≤ s.queue.length := fun full => room ⟨bound, full⟩
    have slots : s.maxQueueSize - s.queue.length =
        s.maxQueueSize - (s.queue.length + 1) + 1 := by omega
    rw [slots] at covered
    have taken : Covered PoolThread.onNotFull PoolThread.inPut
        (s.maxQueueSize - (s.queue.length + 1))
        (s.threads.set i { thread with stage := .busy }) :=
      covered.consume there rfl
    have left := taken.wakeAt
      (fun other on => absurd on (by rw [PoolThread.onNotFull_wake]; exact Bool.false_ne_true))
      PoolThread.inPut_wake woken
    rw [← wakeAt_eq] at left
    show Covered _ _ (s.maxQueueSize - (s.queue ++ [task]).length) _
    rw [List.length_append]
    exact left
  | @popped _ task rest woken taking front notifies =>
    have other : PoolThread.onNotFull thread = false :=
      decide_eq_false (by rw [taking]; exact not_false)
    have signals : Signals PoolThread.onNotFull
        (s.threads.set i { thread with stage := .took (some task) }) woken :=
      (signals_of_notifies (notifies bound)).set there other rfl
    have left := (leaves (.took (some task)) not_false
      (by simp [PoolThread.inPut, taking])).signal signals fun _ => PoolThread.wake_notFull
    rw [← wakeAt_eq, front, List.length_cons] at left
    rw [front, List.length_cons] at bounded
    have slots : s.maxQueueSize - (rest.length + 1) + 1 = s.maxQueueSize - rest.length := by omega
    rw [slots] at left
    exact left
  | began took => exact leaves _ not_false (by simp [PoolThread.inPut, took])
  | moved notFull _ _ put => exact leaves _ notFull put

theorem Sound.stepThread (sound : s.Sound) (there : s.threads[i]? = some thread)
    (moved : s.stepThread i thread act = some s') : s'.Sound := by
  have turn := turn_of_stepThread moved
  obtain ⟨stage, new, goes⟩ := goes_of_stepThread there moved
  have size := turn.maxQueueSize
  exact {
    manned := sound.manned.goes there goes
    complete := turn.complete sound.complete there
    bounded := fun bound => by
      rw [size] at bound ⊢
      exact turn.bounded sound.bounded bound
    workerless := fun none => by
      have none : s.NoWorkers := (forall_mem_iff_eraseIdx there).mpr
        ((forall_mem_set there).mp ((goes.threads.forall_mem_iff fun _ => Iff.rfl).mp none))
      have empty := sound.workerless none
      have busy := sound.manned.direct none thread (List.mem_of_getElem? there)
      cases turn with
      | pushed putting =>
        rw [busy] at putting
        contradiction
      | popped _ front =>
        rw [empty] at front
        contradiction
      | _ => exact empty
    unbounded := fun unbounded => by
      rw [size] at unbounded
      refine goes.threads.forall_mem (fun _ _ => not_onNotFull_wake _)
        ((forall_mem_set there).mpr
          ⟨?_, ((forall_mem_iff_eraseIdx there).mp (sound.unbounded unbounded)).2⟩)
      intro on
      have bound := (goes.notFull on).2.1
      rw [unbounded] at bound
      contradiction
    notEmpty := fun running => by
      rw [goes.running] at running
      exact turn.notEmpty there (sound.notEmpty running)
    notFull := fun bound => by
      rw [size] at bound ⊢
      exact turn.notFull there bound (sound.bounded bound) (sound.notFull bound) }

theorem Sound.step (sound : s.Sound) {a : ThreadPoolAct} (moved : step s a = some s') :
    s'.Sound := by
  cases a with
  | thread i act =>
    obtain ⟨thread, there, moved⟩ := thread_of_step moved
    exact sound.stepThread there moved
  | stop =>
    have manned := sound.manned.step moved
    obtain ⟨-, rfl⟩ := some_of_guard moved
    have woken := woken_stop s
    have pending : s.stop.pending = s.pending :=
      congrArg ((s.queue : Multiset Task) + ·) woken.sum_tasks
    exact {
      manned := manned
      complete := by
        unfold Complete
        rw [pending]
        exact sound.complete
      bounded := sound.bounded
      workerless := fun none => sound.workerless ((woken.forall_mem_iff fun _ => Iff.rfl).mp none)
      unbounded := fun unbounded =>
        woken.forall_mem (fun _ _ => not_onNotFull_wake _) (sound.unbounded unbounded)
      notEmpty := nofun
      notFull := fun bound => (sound.notFull bound).mono
        (woken.countP_le fun thread on => absurd on
          (by rw [PoolThread.onNotFull_wake]; exact Bool.false_ne_true))
        (woken.le_countP PoolThread.inPut_wake) }
  | join =>
    have manned := sound.manned.step moved
    obtain ⟨-, rfl⟩ := some_of_guard moved
    exact { sound with manned := manned }

/-- Where no thread goes on by itself and a worker is left, nothing is left to do. -/
theorem Sound.rests (sound : s.Sound) (running : s.running = true) (free : ¬ s.Deadlocked)
    (stalled : s.Stalled) : s.Rests := by
  have none_taking : ¬ ∃ thread ∈ s.threads, PoolThread.inTake thread = true := by
    rintro ⟨thread, mem, taking⟩
    have taking : thread.stage = .taking := of_decide_eq_true taking
    have stalls := stalled thread mem
    rw [taking] at stalls
    rcases stalls with ⟨-, busy⟩ | on | on | exited
    · cases busy
    · exact on
    · exact on
    · cases exited
  have none_putting : ¬ ∃ thread ∈ s.threads, PoolThread.inPut thread = true := by
    rintro ⟨thread, mem, putting⟩
    have stalls := stalled thread mem
    unfold PoolThread.inPut at putting
    split at putting
    · next task stage =>
      rw [stage] at stalls
      rcases stalls with ⟨-, busy⟩ | on | on | exited
      · cases busy
      · exact on
      · exact on
      · cases exited
    · contradiction
  have empty : s.queue = [] := by
    by_cases none : s.NoWorkers
    · exact sound.workerless none
    · -- a worker that is not blocked in `run` sleeps in `take`
      obtain ⟨worker, mem, works, other⟩ : ∃ thread ∈ s.threads,
          thread.worker = true ∧ ¬ thread.stage.OnNotFull := by
        by_contra blocked
        refine free ⟨none, fun thread mem works => ?_⟩
        by_contra other
        exact blocked ⟨thread, mem, works, other⟩
      have sleeps : PoolThread.onNotEmpty worker = true := by
        rcases stalled worker mem with ⟨idle, -⟩ | on | on | exited
        · rw [works] at idle
          contradiction
        · exact absurd on other
        · exact decide_eq_true on
        · exact absurd exited (sound.manned.awake running worker mem works)
      by_contra left
      exact none_taking ((sound.notEmpty running).exists_ready (List.length_pos_iff.mpr left)
        ⟨worker, mem, sleeps⟩)
  have none_blocked : ∀ thread ∈ s.threads, ¬ thread.stage.OnNotFull := by
    intro thread mem on
    rcases Nat.eq_zero_or_pos s.maxQueueSize with unbounded | bound
    · exact sound.unbounded unbounded thread mem on
    · have room : 0 < s.maxQueueSize - s.queue.length := by
        rw [empty]
        exact bound
      exact none_putting ((sound.notFull bound).exists_ready room
        ⟨thread, mem, decide_eq_true on⟩)
  have none_held : ∀ tasks ∈ s.threads.map (·.stage.tasks), tasks = 0 := by
    intro tasks mem
    obtain ⟨thread, there, rfl⟩ := List.mem_map.mp mem
    rcases stalled thread there with ⟨-, busy⟩ | on | on | exited
    · rw [busy]
      rfl
    · exact absurd on (none_blocked thread there)
    · cases stage : thread.stage with
      | waitsNotEmpty => rfl
      | _ =>
        rw [stage] at on
        exact on.elim
    · rw [exited]
      rfl
  rw [Rests, pending, empty, List.sum_eq_zero none_held]
  rfl

/-! ## The last worker -/

theorem onNotFull_of_woken {threads threads' : List PoolThread} (woken : Woken threads threads') :
    (∀ thread ∈ threads', thread.worker = true → thread.stage.OnNotFull) →
      ∀ thread ∈ threads, thread.worker = true → thread.stage.OnNotFull := by
  unfold Woken at woken
  induction woken with
  | nil => exact id
  | @cons before after _ _ wakes _ ih =>
    simp only [List.forall_mem_cons]
    rintro ⟨here, others⟩
    refine ⟨fun works => ?_, ih others⟩
    rcases wakes with rfl | rfl
    · exact here works
    · exact absurd (here works) (not_onNotFull_wake _)

theorem Goes.noWorkers {stage : ThreadStage} {new : List Task}
    (goes : Goes s i thread act stage new s') (there : s.threads[i]? = some thread)
    (none : s.NoWorkers) : s'.NoWorkers :=
  (goes.threads.forall_mem_iff fun _ => Iff.rfl).mpr
    ((forall_mem_set there).mpr ((forall_mem_iff_eraseIdx there).mp none))

/-- A pool gets stuck only with a worker that calls `run` and leaves no other. -/
theorem Goes.not_deadlocked {stage : ThreadStage} {new : List Task}
    (goes : Goes s i thread act stage new s') (there : s.threads[i]? = some thread)
    (leaves : s.LeavesWorker (.thread i act)) (running : s.running = true)
    (free : ¬ s.Deadlocked) : ¬ s'.Deadlocked := by
  rintro ⟨some_worker, blocked⟩
  obtain ⟨here, others⟩ := (forall_mem_set there).mp (onNotFull_of_woken goes.threads blocked)
  by_cases works : thread.worker = true
  · obtain ⟨⟨woken, rfl⟩, full⟩ := goes.notFull (here works)
    obtain ⟨other, mem, works', awake⟩ := leaves running full ⟨thread, there, works⟩
    exact awake (others other mem works')
  · refine free ⟨mt (goes.noWorkers there) some_worker, (forall_mem_iff_eraseIdx there).mpr ?_⟩
    exact ⟨fun works' => absurd works' works, others⟩

theorem not_deadlocked_step {a : ThreadPoolAct} (leaves : s.LeavesWorker a)
    (moved : step s a = some s') (free : s.running = true → ¬ s.Deadlocked)
    (running : s'.running = true) : ¬ s'.Deadlocked := by
  cases a with
  | thread i act =>
    obtain ⟨thread, there, moved⟩ := thread_of_step moved
    obtain ⟨stage, new, goes⟩ := goes_of_stepThread there moved
    rw [goes.running] at running
    exact goes.not_deadlocked there leaves running (free running)
  | stop =>
    obtain ⟨-, rfl⟩ := some_of_guard moved
    exact absurd running Bool.false_ne_true
  | join =>
    obtain ⟨-, rfl⟩ := some_of_guard moved
    exact free running

/-- The condition is needed. -/
theorem leavesWorker_of_free {a : ThreadPoolAct} (moved : step s a = some s')
    (free : s'.running = true → ¬ s'.Deadlocked) : s.LeavesWorker a := by
  unfold LeavesWorker
  split
  · next i woken =>
    rintro running full ⟨thread, there, works⟩
    obtain ⟨thread', there', moved⟩ := thread_of_step moved
    obtain rfl : thread = thread' := Option.some.inj (there.symm.trans there')
    rw [stepThread] at moved
    split at moved
    · next task putting =>
      rw [if_pos full] at moved
      obtain rfl := Option.some.inj moved
      by_contra last
      refine free running ⟨fun none => ?_, (forall_mem_set there').mpr ⟨fun _ => trivial, ?_⟩⟩
      · have idle := ((forall_mem_set there').mp none).1
        exact absurd (works.symm.trans idle) (by decide)
      · intro other mem works'
        by_contra awake
        exact last ⟨other, mem, works', awake⟩
    · contradiction
  · trivial

/-! ## Whole runs -/

theorem sound_start (maxQueueSize numThreads producers : Nat) :
    (start maxQueueSize numThreads producers).Sound where
  manned := manned_start ..
  complete := by
    have none : ∀ tasks ∈ (start maxQueueSize numThreads producers).threads.map (·.stage.tasks),
        tasks = 0 := by
      intro tasks mem
      obtain ⟨thread, there, rfl⟩ := List.mem_map.mp mem
      rw [busy_of_mem_start there]
      rfl
    unfold Complete
    rw [pending, List.sum_eq_zero none]
    rfl
  bounded _ := Nat.zero_le _
  workerless _ := rfl
  unbounded _ thread mem := by
    rw [busy_of_mem_start mem]
    exact not_false
  notEmpty _ := covered_zero
  notFull _ := by
    apply covered_of_countP_eq_zero
    rw [List.countP_eq_zero]
    intro thread mem on
    have on := of_decide_eq_true on
    rw [busy_of_mem_start mem] at on
    exact on

theorem not_deadlocked_start (maxQueueSize numThreads producers : Nat) :
    ¬ (start maxQueueSize numThreads producers).Deadlocked := by
  rintro ⟨some_worker, blocked⟩
  apply some_worker
  intro thread mem
  by_contra works
  have on := blocked thread mem (eq_true_of_ne_false works)
  rw [busy_of_mem_start mem] at on
  exact on

/-- A pool of any size, with tasks that may call `run` themselves: it keeps every task until it is
started, never has more of them than it may in the queue, and until it is stopped comes to rest
only where all were started and nobody is blocked, exactly where no task that finds the queue
full is the last one to do so. -/
theorem always_works_iff (maxQueueSize numThreads producers : Nat) (acts : List ThreadPoolAct) :
    Always step Works (start maxQueueSize numThreads producers) acts ↔
      EachStep step (fun s a _ => s.LeavesWorker a) (start maxQueueSize numThreads producers)
        acts := by
  have works (s : ThreadPool) (sound : s.Sound) (free : s.running = true → ¬ s.Deadlocked) :
      s.Works :=
    { complete := sound.complete
      bounded := sound.bounded
      live := fun running => ⟨free running, sound.rests running (free running)⟩ }
  have keeps (s : ThreadPool) (a : ThreadPoolAct) (s' : ThreadPool)
      (inv : s.Sound ∧ (s.running = true → ¬ s.Deadlocked)) (leaves : s.LeavesWorker a)
      (moved : step s a = some s') :
      (s'.Sound ∧ (s'.running = true → ¬ s'.Deadlocked)) ∧ s'.Works := by
    have sound := inv.1.step moved
    have free := not_deadlocked_step leaves moved inv.2
    exact ⟨⟨sound, free⟩, works s' sound free⟩
  have only (s : ThreadPool) (a : ThreadPoolAct) (s' : ThreadPool)
      (_ : s.Sound ∧ (s.running = true → ¬ s.Deadlocked)) (moved : step s a = some s')
      (holds : s'.Works) : s.LeavesWorker a :=
    leavesWorker_of_free moved fun running => (holds.live running).1
  have sound := sound_start maxQueueSize numThreads producers
  have free (_ : (start maxQueueSize numThreads producers).running = true) :=
    not_deadlocked_start maxQueueSize numThreads producers
  have exact_steps : EachStep step (fun _ _ s' => s'.Works) _ acts ↔ _ :=
    EachStep.iff_of_invariant keeps only ⟨sound, free⟩
  exact ⟨fun always => exact_steps.mp always.2,
    fun run => ⟨works _ sound free, exact_steps.mpr run⟩⟩

/-- One worker, and room for one task: a task that submits two is never done. -/
example : (exec step (start 1 1 0) [.thread 0 (.run true), .thread 0 (.put none),
    .thread 0 (.run true), .thread 0 (.put none)]).map (·.threads) =
    some [⟨true, .waitsNotFull ⟨1, true⟩⟩] := by
  decide

end ThreadPool

end NewFramework.Base
