import Mathlib.Tactic.Abel
import NewFramework.Base.ThreadPool

/-!
# Runs of a `ThreadPool`

What every step of a pool (`muduo/base/ThreadPool.cc`) keeps: each task that was started or is still
pending is another one of those submitted, and the workers run until `stop` is called.
-/

namespace NewFramework.Base
open NewFramework.Lib

namespace ThreadPool

/-- A task that was started was submitted, and is started once. -/
def StartedOnce (s : ThreadPool) : Prop :=
  (∀ task ∈ s.started, task ∈ s.submitted) ∧ s.started.Nodup

instance (s : ThreadPool) : Decidable s.StartedOnce := inferInstanceAs (Decidable (_ ∧ _))

/-! ## Waking threads -/

theorem exited_wake {stage : ThreadStage} : stage.wake = .exited ↔ stage = .exited := by
  cases stage <;> simp [ThreadStage.wake]

theorem not_onNotFull_wake (stage : ThreadStage) : ¬ stage.wake.OnNotFull := by
  cases stage <;> exact not_false

theorem not_onNotEmpty_wake (stage : ThreadStage) : ¬ stage.wake.OnNotEmpty := by
  cases stage <;> exact not_false

theorem tasks_wake (stage : ThreadStage) : stage.wake.tasks = stage.tasks := by
  cases stage <;> rfl

theorem Woken.forall_mem {Q : PoolThread → Prop} {threads threads' : List PoolThread}
    (keeps : ∀ thread, Q thread → Q thread.wake) (woken : Woken threads threads') :
    (∀ thread ∈ threads, Q thread) → ∀ thread ∈ threads', Q thread := by
  unfold Woken at woken
  induction woken with
  | nil => exact id
  | @cons before after _ _ wakes _ ih =>
    simp only [List.forall_mem_cons]
    rintro ⟨here, others⟩
    exact ⟨wakes.elim (· ▸ here) (· ▸ keeps before here), ih others⟩

theorem Woken.forall_mem_iff {Q : PoolThread → Prop} {threads threads' : List PoolThread}
    (same : ∀ thread, Q thread.wake ↔ Q thread) (woken : Woken threads threads') :
    (∀ thread ∈ threads', Q thread) ↔ ∀ thread ∈ threads, Q thread := by
  unfold Woken at woken
  induction woken with
  | nil => exact Iff.rfl
  | @cons before after _ _ wakes _ ih =>
    simp only [List.forall_mem_cons]
    refine and_congr ?_ ih
    rcases wakes with rfl | rfl
    · exact Iff.rfl
    · exact same before

theorem Woken.countP_le {p : PoolThread → Bool} {threads threads' : List PoolThread}
    (fewer : ∀ thread, p thread.wake = true → p thread = true) (woken : Woken threads threads') :
    threads'.countP p ≤ threads.countP p := by
  unfold Woken at woken
  induction woken with
  | nil => exact le_rfl
  | @cons before after _ _ wakes _ ih =>
    rw [List.countP_cons, List.countP_cons]
    refine Nat.add_le_add ih ?_
    rcases wakes with rfl | rfl
    · exact le_rfl
    · have := fewer before
      split <;> simp_all

theorem Woken.le_countP {p : PoolThread → Bool} {threads threads' : List PoolThread}
    (more : ∀ thread, p thread = true → p thread.wake = true) (woken : Woken threads threads') :
    threads.countP p ≤ threads'.countP p := by
  unfold Woken at woken
  induction woken with
  | nil => exact le_rfl
  | @cons before after _ _ wakes _ ih =>
    rw [List.countP_cons, List.countP_cons]
    refine Nat.add_le_add ih ?_
    rcases wakes with rfl | rfl
    · exact le_rfl
    · have := more before
      split <;> simp_all

theorem Woken.countP_eq {p : PoolThread → Bool} {threads threads' : List PoolThread}
    (same : ∀ thread, p thread.wake = p thread) (woken : Woken threads threads') :
    threads'.countP p = threads.countP p :=
  le_antisymm (woken.countP_le fun thread => (same thread).symm.trans)
    (woken.le_countP fun thread => (same thread).trans)

theorem Woken.sum_tasks {threads threads' : List PoolThread} (woken : Woken threads threads') :
    (threads'.map (·.stage.tasks)).sum = (threads.map (·.stage.tasks)).sum := by
  unfold Woken at woken
  induction woken with
  | nil => rfl
  | @cons before after _ _ wakes _ ih =>
    rw [List.map_cons, List.map_cons, List.sum_cons, List.sum_cons, ih]
    rcases wakes with rfl | rfl
    · rfl
    · rw [PoolThread.wake, tasks_wake]

/-! ## Tasks -/

/-- The tasks that are in the queue or in the hands of a thread. -/
def pending (s : ThreadPool) : Multiset Task :=
  s.queue + (s.threads.map (·.stage.tasks)).sum

/-- Every task that was started or is still pending is another one of those submitted. -/
structure Accounted (s : ThreadPool) : Prop where
  numbers : s.submitted.map Task.number = List.range s.submitted.length
  tasks : s.started + s.pending ≤ (s.submitted : Multiset Task)

theorem Accounted.startedOnce {s : ThreadPool} (accounted : s.Accounted) : s.StartedOnce := by
  have once : s.submitted.Nodup := by
    apply List.Nodup.of_map Task.number
    rw [accounted.numbers]
    exact List.nodup_range
  have le : (s.started : Multiset Task) ≤ s.submitted :=
    (Multiset.le_add_right ..).trans accounted.tasks
  exact ⟨fun task mem => Multiset.mem_of_le le mem, Multiset.nodup_of_le le once⟩

theorem Accounted.goes {s s' : ThreadPool} (accounted : s.Accounted) {i : Nat}
    {thread : PoolThread} (there : s.threads[i]? = some thread) {act : ThreadAct}
    {stage : ThreadStage} {new : List Task} (goes : Goes s i thread act stage new s') :
    s'.Accounted where
  numbers := by
    rw [goes.submitted]
    rcases goes.numbered with rfl | ⟨callable, rfl⟩
    · rw [List.append_nil]
      exact accounted.numbers
    · rw [List.map_append, accounted.numbers, List.length_append, List.length_singleton,
        List.range_succ]
      rfl
  tasks := by
    have moved := sum_map_set (y := { thread with stage := stage }) (·.stage.tasks) there
    rw [goes.submitted, ← Multiset.coe_add, pending, goes.threads.sum_tasks]
    apply le_of_add_le_add_right (a := thread.stage.tasks)
    calc (s'.started : Multiset Task) + (s'.queue + _) + thread.stage.tasks
      _ = s'.started + s'.queue + stage.tasks + (s.threads.map (·.stage.tasks)).sum := by
        rw [add_assoc, add_assoc, moved]
        abel
      _ ≤ s.started + s.queue + thread.stage.tasks + new + (s.threads.map (·.stage.tasks)).sum :=
        add_le_add_left goes.tasks _
      _ = s.started + s.pending + (new + thread.stage.tasks) := by
        rw [pending]
        abel
      _ ≤ s.submitted + (new + thread.stage.tasks) := add_le_add_left accounted.tasks _
      _ = s.submitted + new + thread.stage.tasks := (add_assoc ..).symm

theorem Accounted.step {s s' : ThreadPool} (accounted : s.Accounted) {a : ThreadPoolAct}
    (moved : step s a = some s') : s'.Accounted := by
  cases a with
  | thread i act =>
    obtain ⟨thread, there, moved⟩ := thread_of_step moved
    obtain ⟨stage, new, goes⟩ := goes_of_stepThread there moved
    exact accounted.goes there goes
  | stop =>
    obtain ⟨-, rfl⟩ := some_of_guard moved
    have same : s.stop.pending = s.pending :=
      congrArg ((s.queue : Multiset Task) + ·) (woken_stop s).sum_tasks
    exact ⟨accounted.numbers, same ▸ accounted.tasks⟩
  | join =>
    obtain ⟨-, rfl⟩ := some_of_guard moved
    exact ⟨accounted.numbers, accounted.tasks⟩

/-! ## The workers -/

/-- The workers run until `stop` is called, and only they take what `run` puts into the queue. -/
structure Manned (s : ThreadPool) : Prop where
  running : s.running = true ↔ s.stopStage = .notCalled
  awake : s.running = true → ∀ thread ∈ s.threads, thread.worker = true → thread.stage ≠ .exited
  direct : s.NoWorkers → ∀ thread ∈ s.threads, thread.stage = .busy
  notEmpty : ∀ thread ∈ s.threads, thread.stage.OnNotEmpty → s.running = true
  returned : s.stopStage = .returned → AllExited s.threads

theorem busy_of_mem_start {maxQueueSize numThreads producers : Nat} {thread : PoolThread}
    (mem : thread ∈ (start maxQueueSize numThreads producers).threads) : thread.stage = .busy := by
  rcases List.mem_append.mp mem with worker | producer
  · rw [List.eq_of_mem_replicate worker]
  · rw [List.eq_of_mem_replicate producer]

theorem manned_start (maxQueueSize numThreads producers : Nat) :
    (start maxQueueSize numThreads producers).Manned := by
  refine ⟨iff_of_true rfl rfl, ?_, fun _ thread mem => busy_of_mem_start mem, ?_, nofun⟩
  · intro _ thread mem _
    rw [busy_of_mem_start mem]
    decide
  · intro thread mem on
    rw [busy_of_mem_start mem] at on
    exact on.elim

section Steps

variable {s s' : ThreadPool} {i : Nat} {thread : PoolThread} {act : ThreadAct}
  {stage : ThreadStage} {new : List Task}

theorem allExited_of_woken {threads threads' : List PoolThread} (woken : Woken threads threads') :
    AllExited threads' ↔ AllExited threads :=
  woken.forall_mem_iff fun thread => by rw [PoolThread.wake, exited_wake]

/-- A thread that goes somewhere is no worker if all workers have exited. -/
theorem Goes.not_worker (goes : Goes s i thread act stage new s')
    (there : s.threads[i]? = some thread) (exited : AllExited s.threads) :
    thread.worker = false := by
  by_contra worker
  exact goes.was (exited thread (List.mem_of_getElem? there) (eq_true_of_ne_false worker))

theorem Goes.allExited_iff (goes : Goes s i thread act stage new s')
    (there : s.threads[i]? = some thread) :
    AllExited s'.threads ↔
      (thread.worker = true → stage = .exited) ∧ AllExited (s.threads.eraseIdx i) :=
  (allExited_of_woken goes.threads).trans (forall_mem_set there)

theorem Manned.goes (manned : s.Manned) (there : s.threads[i]? = some thread)
    (goes : Goes s i thread act stage new s') : s'.Manned where
  running := by
    rw [goes.running, goes.stopStage]
    exact manned.running
  awake running := by
    rw [goes.running] at running
    refine (goes.threads.forall_mem_iff fun thread => by rw [PoolThread.wake, Ne, exited_wake]).mpr
      ((forall_mem_set there).mpr ⟨?_, ?_⟩)
    · intro _ exits
      rw [(goes.exits exits).2] at running
      contradiction
    · exact ((forall_mem_iff_eraseIdx there).mp (manned.awake running)).2
  direct none := by
    have none : s.NoWorkers := (forall_mem_iff_eraseIdx there).mpr
      ((forall_mem_set there).mp ((goes.threads.forall_mem_iff fun _ => Iff.rfl).mp none))
    obtain ⟨busy, others⟩ := (forall_mem_iff_eraseIdx there).mp (manned.direct none)
    have stays := goes.direct none busy (none thread (List.mem_of_getElem? there))
    exact goes.threads.forall_mem (fun thread busy => by rw [PoolThread.wake, busy]; rfl)
      ((forall_mem_set there).mpr ⟨stays, others⟩)
  notEmpty := by
    rw [goes.running]
    exact goes.threads.forall_mem (fun thread _ on => absurd on (not_onNotEmpty_wake _))
      ((forall_mem_set there).mpr
        ⟨goes.notEmpty, ((forall_mem_iff_eraseIdx there).mp manned.notEmpty).2⟩)
  returned after := by
    rw [goes.stopStage] at after
    have exited := manned.returned after
    have noWorker := goes.not_worker there exited
    refine (goes.allExited_iff there).mpr ⟨?_, ?_⟩
    · intro worker
      rw [noWorker] at worker
      contradiction
    · exact ((forall_mem_iff_eraseIdx there).mp exited).2

theorem Manned.stop (manned : s.Manned) : s.stop.Manned where
  running := iff_of_false nofun nofun
  awake := nofun
  direct none := by
    have none : s.NoWorkers := ((woken_stop s).forall_mem_iff fun _ => Iff.rfl).mp none
    exact (woken_stop s).forall_mem (fun thread busy => by rw [PoolThread.wake, busy]; rfl)
      (manned.direct none)
  notEmpty thread mem on := by
    obtain ⟨before, -, rfl⟩ := List.mem_map.mp mem
    split at on
    · exact absurd on (not_onNotEmpty_wake _)
    · contradiction
  returned := nofun

theorem Manned.step (manned : s.Manned) {a : ThreadPoolAct} (moved : step s a = some s') :
    s'.Manned := by
  cases a with
  | thread i act =>
    obtain ⟨thread, there, moved⟩ := thread_of_step moved
    obtain ⟨stage, new, goes⟩ := goes_of_stepThread there moved
    exact manned.goes there goes
  | stop =>
    obtain ⟨-, rfl⟩ := some_of_guard moved
    exact manned.stop
  | join =>
    obtain ⟨⟨joining, exited⟩, rfl⟩ := some_of_guard moved
    refine ⟨?_, manned.awake, manned.direct, manned.notEmpty, fun _ => exited⟩
    exact iff_of_false (fun running => by simp [manned.running.mp running] at joining) nofun

end Steps

theorem accounted_start (maxQueueSize numThreads producers : Nat) :
    (start maxQueueSize numThreads producers).Accounted := by
  refine ⟨rfl, le_of_eq ?_⟩
  have none : ∀ task ∈ (start maxQueueSize numThreads producers).threads.map (·.stage.tasks),
      task = 0 := by
    intro task mem
    obtain ⟨thread, there, rfl⟩ := List.mem_map.mp mem
    rw [busy_of_mem_start there]
    rfl
  rw [pending, List.sum_eq_zero none]
  rfl

end ThreadPool

end NewFramework.Base
