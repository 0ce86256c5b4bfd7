import NewFramework.Base.ThreadPoolStop

/-!
# Who is left behind `ThreadPool::stop`

Where there is too little room behind `stop` (`muduo/base/ThreadPool.cc`), the workers in `take` may
leave it first, the workers whose tasks are in `run` may come next, and the producers find what room
is left.  Then the workers exit, and one of the producers stays blocked.  So the condition under
which `stop` releases everyone is exact: where it fails, there is a schedule that leaves a producer
behind.
-/

namespace NewFramework.Base
open NewFramework.Lib

/-- How much a thread has still to do. -/
def ThreadStage.rank : ThreadStage → Nat
  | .exited => 0
  | .looping => 1
  | .busy => 2
  | .putting _ | .took _ => 3
  | .taking | .waitsNotFull _ => 4
  | .waitsNotEmpty => 5

theorem ThreadStage.rank_wake_le (stage : ThreadStage) : stage.wake.rank ≤ stage.rank := by
  cases stage <;> simp [wake, rank]

/-- The step is no call of `run`. -/
def ThreadPoolAct.NoCall : ThreadPoolAct → Prop
  | .thread _ (.run _) => False
  | _ => True

theorem PoolThread.inRun_of_inPut {thread : PoolThread} (put : thread.inPut = true) :
    thread.inRun = true := by
  obtain ⟨worker, stage⟩ := thread
  cases stage with
  | putting task => rfl
  | _ => exact absurd put Bool.false_ne_true

namespace ThreadPool

variable {s s' : ThreadPool} {i : Nat} {thread : PoolThread} {act : ThreadAct}

/-! ## Producers -/

/-- A producer is out of the pool or in `run`. -/
def Posted (s : ThreadPool) : Prop :=
  ∀ thread ∈ s.threads, thread.worker = false → thread.stage = .busy ∨ thread.inRun = true

theorem posted_start (maxQueueSize numThreads producers : Nat) :
    (start maxQueueSize numThreads producers).Posted :=
  fun _ mem _ => .inl (busy_of_mem_start mem)

theorem Posted.woken {threads : List PoolThread} (woken : Woken threads s'.threads)
    (posted : ∀ thread ∈ threads, thread.worker = false →
      thread.stage = .busy ∨ thread.inRun = true) : s'.Posted := by
  refine woken.forall_mem (fun thread here producer => ?_) posted
  refine (here producer).imp (fun busy => ?_) fun inRun => ?_
  · rw [PoolThread.wake, busy]
    rfl
  · exact thread.inRun_wake.trans inRun

theorem Posted.stage {stage : ThreadStage} (posted : s.Posted)
    (there : s.threads[i]? = some thread)
    (woken : Woken (s.threads.set i { thread with stage := stage }) s'.threads)
    (here : thread.worker = false →
      stage = .busy ∨ PoolThread.inRun { thread with stage := stage } = true) : s'.Posted :=
  Posted.woken woken ((forall_mem_set there).mpr
    ⟨here, ((forall_mem_iff_eraseIdx there).mp posted).2⟩)

theorem Posted.turn (posted : s.Posted) (there : s.threads[i]? = some thread)
    (turn : Turn s i thread act s') : s'.Posted := by
  have mem := List.mem_of_getElem? there
  cases turn with
  | ran => exact posted
  | asked => exact posted.stage there (woken_wakeAt none _) fun _ => .inr rfl
  | waited => exact posted.stage there (woken_wakeAt none _) fun _ => .inr rfl
  | @pushed _ _ woken => exact posted.stage there (woken_wakeAt woken _) fun _ => .inl rfl
  | @popped _ _ _ woken taking =>
    refine posted.stage there (woken_wakeAt woken _) fun producer => ?_
    have here := posted thread mem producer
    simp [taking, PoolThread.inRun] at here
  | began => exact posted.stage there (woken_wakeAt none _) fun _ => .inl rfl
  | moved _ _ _ _ inRun _ busy =>
    refine posted.stage there (woken_wakeAt none _) fun producer => ?_
    rcases posted thread mem producer with out | inside
    · exact absurd (busy out) (by simp [producer])
    · exact .inr (inRun.trans inside)

theorem Posted.step {a : ThreadPoolAct} (posted : s.Posted) (moved : step s a = some s') :
    s'.Posted := by
  cases a with
  | thread i act =>
    obtain ⟨thread, there, moved⟩ := thread_of_step moved
    exact posted.turn there (turn_of_stepThread moved)
  | stop =>
    obtain ⟨-, rfl⟩ := some_of_guard moved
    exact Posted.woken (woken_stop s) posted
  | join =>
    obtain ⟨-, rfl⟩ := some_of_guard moved
    exact posted

theorem Posted.takes_of_atTake (posted : s.Posted) (mem : thread ∈ s.threads)
    (atTake : thread.atTake = true) : thread.worker = true := by
  by_contra producer
  rcases posted thread mem (eq_false_of_ne_true producer) with busy | inRun
  · simp [PoolThread.atTake, busy] at atTake
  · rcases PoolThread.atTake_iff.mp atTake with taking | waits
    · simp [PoolThread.inRun, taking] at inRun
    · simp [PoolThread.inRun, waits] at inRun

/-- Whoever is in `run` is a producer or a worker. -/
theorem countP_outside_inside (threads : List PoolThread) :
    threads.countP PoolThread.inRun =
      threads.countP PoolThread.outside + threads.countP PoolThread.inside := by
  induction threads with
  | nil => rfl
  | cons thread threads ih =>
    simp only [List.countP_cons, ih, PoolThread.outside, PoolThread.inside]
    by_cases worker : thread.worker = true
    · simp [worker]
      omega
    · simp [worker]
      omega

/-- The demand in the counts of threads. -/
theorem Posted.demand_eq (posted : s.Posted) :
    s.demand = (s.queue.length - s.threads.countP PoolThread.atTake) +
      (s.threads.countP PoolThread.outside + s.threads.countP PoolThread.inside) := by
  have takes : s.threads.countP PoolThread.takes = s.threads.countP PoolThread.atTake := by
    refine List.countP_congr fun thread mem => ?_
    rw [PoolThread.takes, Bool.and_eq_true]
    exact ⟨And.right, fun atTake => ⟨posted.takes_of_atTake mem atTake, atTake⟩⟩
  rw [demand, takes, countP_outside_inside]

/-! ## Too little room -/

/-- There is too little room for what is asked, and enough for what the workers bring. -/
structure Short (s : ThreadPool) : Prop where
  bound : 0 < s.maxQueueSize
  producers : 0 < s.threads.countP PoolThread.outside
  demand : s.maxQueueSize < s.demand
  workers : s.queue.length + s.threads.countP PoolThread.inside ≤
    s.maxQueueSize + s.threads.countP PoolThread.atTake

theorem short_of_not_roomFor (short : ¬ s.RoomFor 0 0) : s.Short := by
  unfold RoomFor at short
  push Not at short
  obtain ⟨bound, producers, demand, workers⟩ := short
  exact ⟨bound, Nat.pos_of_ne_zero producers, demand, workers⟩

/-- What all threads have still to do. -/
def rank (s : ThreadPool) : Nat := (s.threads.map (·.stage.rank)).sum

theorem Woken.sum_rank_le {threads threads' : List PoolThread} (woken : Woken threads threads') :
    (threads'.map (·.stage.rank)).sum ≤ (threads.map (·.stage.rank)).sum := by
  unfold Woken at woken
  induction woken with
  | nil => exact le_rfl
  | @cons before after _ _ wakes _ ih =>
    rw [List.map_cons, List.map_cons, List.sum_cons, List.sum_cons]
    refine Nat.add_le_add ?_ ih
    rcases wakes with rfl | rfl
    · exact le_rfl
    · exact before.stage.rank_wake_le

/-- With the producers `k`, the workers `w` in `run` and those `t` in `take` that there are when the
thread is in another stage, there is still too little room. -/
def StaysShort (s s' : ThreadPool) (thread : PoolThread) (stage : ThreadStage) : Prop :=
  ∀ k w t : Nat,
    k + thread.outside.toNat = s.threads.countP PoolThread.outside +
      (PoolThread.outside { thread with stage := stage }).toNat →
    w + thread.inside.toNat = s.threads.countP PoolThread.inside +
      (PoolThread.inside { thread with stage := stage }).toNat →
    t + thread.atTake.toNat = s.threads.countP PoolThread.atTake +
      (PoolThread.atTake { thread with stage := stage }).toNat →
    0 < k ∧ s.maxQueueSize < (s'.queue.length - t) + (k + w) ∧
      s'.queue.length + w ≤ s.maxQueueSize + t

/-- A thread goes on, and there is still too little room. -/
theorem Short.goOn {stage : ThreadStage} (short : s.Short) (posted' : s'.Posted)
    (there : s.threads[i]? = some thread)
    (woken : Woken (s.threads.set i { thread with stage := stage }) s'.threads)
    (size : s'.maxQueueSize = s.maxQueueSize) (less : stage.rank < thread.stage.rank)
    (stays : StaysShort s s' thread stage) :
    s'.Short ∧ s'.rank < s.rank := by
  obtain ⟨producers, demand, workers⟩ := stays _ _ _
    (woken.countP_set PoolThread.outside_wake there)
    (woken.countP_set PoolThread.inside_wake there)
    (woken.countP_set PoolThread.atTake_wake there)
  refine ⟨⟨size ▸ short.bound, producers, ?_, size ▸ workers⟩, ?_⟩
  · rw [posted'.demand_eq, size]
    exact demand
  · have moved := sum_map_set (y := { thread with stage := stage }) (·.stage.rank) there
    have woke := woken.sum_rank_le
    dsimp only at moved
    unfold rank
    omega

theorem exists_notifies (Blocked : ThreadStage → Prop) [DecidablePred Blocked]
    (threads : List PoolThread) : ∃ woken, Notifies Blocked woken threads := by
  by_cases some_blocked : ∃ thread ∈ threads, Blocked thread.stage
  · obtain ⟨thread, mem, blocked⟩ := some_blocked
    obtain ⟨j, there⟩ := List.mem_iff_getElem?.mp mem
    exact ⟨some j, thread, there, blocked⟩
  · exact ⟨none, fun thread mem blocked => some_blocked ⟨thread, mem, blocked⟩⟩

/-- The pool was stopped with too little room. -/
structure Behind (s : ThreadPool) : Prop where
  sound : s.Sound
  posted : s.Posted
  stopped : s.running = false
  short : s.Short

theorem running_of_step {a : ThreadPoolAct} (stopped : s.running = false)
    (moved : step s a = some s') : s'.running = false := by
  cases a with
  | thread i act =>
    obtain ⟨thread, there, moved⟩ := thread_of_step moved
    obtain ⟨_, _, goes⟩ := goes_of_stepThread there moved
    exact goes.running.trans stopped
  | stop =>
    obtain ⟨-, rfl⟩ := some_of_guard moved
    rfl
  | join =>
    obtain ⟨-, rfl⟩ := some_of_guard moved
    exact stopped

/-- A thread can go on, and there is still too little room. -/
def Onward (s : ThreadPool) : Prop :=
  ∃ a s', ThreadPoolAct.NoCall a ∧ s.step a = some s' ∧ s'.Behind ∧ s'.rank < s.rank

section Onward

variable {stage : ThreadStage} (behind : s.Behind) (there : s.threads[i]? = some thread)
include behind there

theorem Behind.goOn (moved : s.stepThread i thread act = some s')
    (noCall : ThreadPoolAct.NoCall (.thread i act))
    (woken : Woken (s.threads.set i { thread with stage := stage }) s'.threads)
    (less : stage.rank < thread.stage.rank)
    (stays : StaysShort s s' thread stage) : s.Onward := by
  have step : s.step (.thread i act) = some s' := by simpa [ThreadPool.step, there] using moved
  have posted := behind.posted.step step
  obtain ⟨short, less⟩ := behind.short.goOn posted there woken
    (turn_of_stepThread moved).maxQueueSize less stays
  have stopped := running_of_step behind.stopped step
  exact ⟨.thread i act, s', noCall, step, ⟨behind.sound.step step, posted, stopped, short⟩, less⟩

/-- Where the queue and the counts stay as they are, there is still too little room. -/
theorem Behind.goOn_same (moved : s.stepThread i thread act = some s')
    (noCall : ThreadPoolAct.NoCall (.thread i act))
    (woken : Woken (s.threads.set i { thread with stage := stage }) s'.threads)
    (less : stage.rank < thread.stage.rank) (queue : s'.queue = s.queue)
    (inRun : PoolThread.inRun { thread with stage := stage } = thread.inRun)
    (atTake : PoolThread.atTake { thread with stage := stage } = thread.atTake) : s.Onward := by
  refine behind.goOn there moved noCall woken less fun k w t => ?_
  have producers := behind.short.producers
  have demand := behind.short.demand
  have workers := behind.short.workers
  rw [behind.posted.demand_eq] at demand
  rw [queue, atTake]
  simp only [PoolThread.outside, PoolThread.inside, inRun]
  omega

/-- A thread goes on that is neither in `take` nor about to put its task. -/
theorem Behind.onward_of_free (worker : thread.stage = .busy → thread.worker = true)
    (gone : thread.stage ≠ .exited) (free : thread.atTake = false)
    (put : thread.inPut = false) : s.Onward := by
  cases here : thread.stage with
  | exited => exact absurd here gone
  | taking => simp [PoolThread.atTake, here] at free
  | waitsNotEmpty => simp [PoolThread.atTake, here] at free
  | putting task => simp [PoolThread.inPut, here] at put
  | busy =>
    have moved : s.stepThread i thread .finish = some (s.setStage i thread .looping) :=
      if_pos ⟨here, worker here⟩
    refine behind.goOn_same there moved trivial (woken_wakeAt none _) ?_ rfl ?_ ?_
    all_goals simp [ThreadStage.rank, PoolThread.inRun, PoolThread.atTake, here]
  | looping =>
    have moved : s.stepThread i thread .loop = some (s.setStage i thread .exited) := by
      simp [stepThread, here, behind.stopped]
    refine behind.goOn_same there moved trivial (woken_wakeAt none _) ?_ rfl ?_ ?_
    all_goals simp [ThreadStage.rank, PoolThread.inRun, PoolThread.atTake, here]
  | waitsNotFull task =>
    have moved : s.stepThread i thread .wakeUp = some (s.setStage i thread (.putting task)) := by
      simp [stepThread, here, ThreadStage.OnNotFull, ThreadStage.wake]
    refine behind.goOn_same there moved trivial (woken_wakeAt none _) ?_ rfl ?_ ?_
    all_goals simp [ThreadStage.rank, PoolThread.inRun, PoolThread.atTake, here]
  | took task =>
    have moved : s.stepThread i thread .begin = some (s.begin i thread task) := by
      simp [stepThread, here]
    have looping (begun : s.begin i thread task = s.setStage i thread .looping) : s.Onward := by
      rw [begun] at moved
      refine behind.goOn_same there moved trivial (woken_wakeAt none _) ?_ rfl ?_ ?_
      all_goals simp [ThreadStage.rank, PoolThread.inRun, PoolThread.atTake, here]
    cases task with
    | none => exact looping rfl
    | some task =>
      by_cases callable : task.callable = true
      · rw [begin, if_pos callable] at moved
        refine behind.goOn_same there moved trivial (woken_wakeAt none _) ?_ rfl ?_ ?_
        all_goals simp [ThreadStage.rank, PoolThread.inRun, PoolThread.atTake, here]
      · exact looping (if_neg callable)

/-- A thread puts its task, where there is room. -/
theorem Behind.onward_of_put (put : thread.inPut = true) (room : s.queue.length < s.maxQueueSize)
    (fits : ∀ k w : Nat,
      k + thread.outside.toNat = s.threads.countP PoolThread.outside →
      w + thread.inside.toNat = s.threads.countP PoolThread.inside →
      0 < k ∧ s.maxQueueSize <
          (s.queue.length + 1 - s.threads.countP PoolThread.atTake) + (k + w) ∧
        s.queue.length + 1 + w ≤ s.maxQueueSize + s.threads.countP PoolThread.atTake) :
    s.Onward := by
  cases here : thread.stage with
  | putting task =>
    have free : ¬ s.IsFull := fun full => absurd full.2 (Nat.not_le.mpr room)
    have nobody : Notifies ThreadStage.OnNotEmpty none s.threads := fun other mem on => by
      have running := behind.sound.manned.notEmpty other mem on
      simp [behind.stopped] at running
    have moved : s.stepThread i thread (.put none) = some ((s.push i thread task).notify none) := by
      simp [stepThread, here, free, nobody]
    have out : PoolThread.outside { thread with stage := .busy } = false := Bool.and_false _
    have inside : PoolThread.inside { thread with stage := .busy } = false := Bool.and_false _
    have free : PoolThread.atTake { thread with stage := .busy } = thread.atTake := by
      simp [PoolThread.atTake, here]
    refine @Behind.goOn _ _ _ _ _ .busy behind there moved trivial (woken_wakeAt none _)
      (by simp [here, ThreadStage.rank]) fun k w t => ?_
    rw [out, inside, free]
    intro producers workers atTake
    obtain rfl : t = s.threads.countP PoolThread.atTake := Nat.add_right_cancel atTake
    have length : ((s.push i thread task).notify none).queue.length = s.queue.length + 1 :=
      List.length_append
    rw [length]
    exact fits k w producers workers
  | _ => simp [PoolThread.inPut, here] at put

/-- Behind `stop` nobody waits for a task. -/
theorem Behind.taking (atTake : thread.atTake = true) :
    thread.stage = .taking ∧ thread.inRun = false := by
  rcases PoolThread.atTake_iff.mp atTake with taking | waits
  · exact ⟨taking, by simp [PoolThread.inRun, taking]⟩
  · have running := behind.sound.manned.notEmpty thread (List.mem_of_getElem? there)
      (by simp [waits, ThreadStage.OnNotEmpty])
    simp [behind.stopped] at running

/-- A worker leaves `take`, with a task or without one. -/
theorem Behind.onward_of_take {task : Option Task} {woken : Option Nat}
    (atTake : thread.atTake = true)
    (moved : s.stepThread i thread (.take woken) = some s')
    (woke : Woken (s.threads.set i { thread with stage := .took task }) s'.threads)
    (fits : ∀ t, t + 1 = s.threads.countP PoolThread.atTake →
      s.queue.length - s.threads.countP PoolThread.atTake ≤ s'.queue.length - t ∧
        s'.queue.length + s.threads.countP PoolThread.inside ≤ s.maxQueueSize + t) : s.Onward := by
  obtain ⟨taking, outRun⟩ := behind.taking there atTake
  refine behind.goOn there moved trivial woke (by simp [taking, ThreadStage.rank]) fun k w t => ?_
  have outRun' : PoolThread.inRun { thread with stage := .took task } = false := rfl
  have left : PoolThread.atTake { thread with stage := .took task } = false := rfl
  simp only [PoolThread.outside, PoolThread.inside, outRun, outRun', atTake, left, Bool.and_false,
    Bool.toNat_false, Bool.toNat_true, Nat.add_zero]
  rintro rfl rfl taken
  obtain ⟨demand, workers⟩ := fits t taken
  have producers := behind.short.producers
  have asked := behind.short.demand
  rw [behind.posted.demand_eq] at asked
  omega

end Onward

/-- A worker puts the task that its task brings. -/
theorem Behind.onward_of_worker (behind : s.Behind) (mem : thread ∈ s.threads)
    (worker : thread.worker = true) (put : thread.inPut = true)
    (room : s.queue.length < s.maxQueueSize)
    (fits : s.maxQueueSize + 1 < (s.queue.length + 1 - s.threads.countP PoolThread.atTake) +
      (s.threads.countP PoolThread.outside + s.threads.countP PoolThread.inside)) : s.Onward := by
  obtain ⟨i, there⟩ := List.mem_iff_getElem?.mp mem
  refine behind.onward_of_put there put room fun k w => ?_
  have producers := behind.short.producers
  have workers := behind.short.workers
  rw [PoolThread.outside, PoolThread.inside, PoolThread.inRun_of_inPut put, worker]
  simp only [Bool.not_true, Bool.false_and, Bool.true_and, Bool.toNat_false, Bool.toNat_true,
    Nat.add_zero]
  rintro rfl more
  omega

/-- A worker in `take` goes on where there is a task, or room for what the others bring. -/
theorem Behind.onward_of_taking (behind : s.Behind)
    (takes : 0 < s.threads.countP PoolThread.atTake)
    (fits : s.queue = [] → s.threads.countP PoolThread.inside <
      s.maxQueueSize + s.threads.countP PoolThread.atTake) : s.Onward := by
  have bound := behind.short.bound
  have workers := behind.short.workers
  obtain ⟨thread, mem, atTake⟩ := List.countP_pos_iff.mp takes
  obtain ⟨i, there⟩ := List.mem_iff_getElem?.mp mem
  obtain ⟨taking, -⟩ := behind.taking there atTake
  cases queue : s.queue with
  | cons task rest =>
    obtain ⟨woken, notifies⟩ := exists_notifies ThreadStage.OnNotFull s.threads
    have moved : s.stepThread i thread (.take woken) =
        some ((s.pop i thread task rest).notify woken) := by
      simp [stepThread, taking, queue, bound, notifies]
    refine behind.onward_of_take there atTake moved (woken_wakeAt woken _) fun t taken => ?_
    rw [queue, List.length_cons] at workers ⊢
    show _ ≤ rest.length - t ∧ rest.length + _ ≤ _
    omega
  | nil =>
    have moved : s.stepThread i thread (.take none) =
        some (s.setStage i thread (.took none)) := by
      simp [stepThread, taking, queue, behind.stopped]
    have room := fits queue
    refine behind.onward_of_take there atTake moved (woken_wakeAt none _) fun t taken => ?_
    show _ ≤ s.queue.length - t ∧ s.queue.length + _ ≤ _
    rw [queue, List.length_nil]
    omega

/-- As long as a worker has not exited, one of them goes on: first those that are neither in `take`
nor in `run`, then those in `take`, and those in `run` where there is room for the producers too. -/
theorem Behind.onward (behind : s.Behind) (some_left : ¬ AllExited s.threads) : s.Onward := by
  by_cases free : ∃ thread ∈ s.threads, thread.worker = true ∧ thread.stage ≠ .exited ∧
      thread.atTake = false ∧ thread.inPut = false
  · obtain ⟨thread, mem, worker, gone, free, put⟩ := free
    obtain ⟨i, there⟩ := List.mem_iff_getElem?.mp mem
    exact behind.onward_of_free there (fun _ => worker) gone free put
  have busy (thread : PoolThread) (mem : thread ∈ s.threads) (worker : thread.worker = true)
      (gone : thread.stage ≠ .exited) : thread.atTake = true ∨ thread.inPut = true := by
    by_contra neither
    simp only [not_or, Bool.not_eq_true] at neither
    exact free ⟨thread, mem, worker, gone, neither⟩
  have bound := behind.short.bound
  have producers := behind.short.producers
  have demand := behind.short.demand
  have workers := behind.short.workers
  rw [behind.posted.demand_eq] at demand
  by_cases takes : 0 < s.threads.countP PoolThread.atTake ∧ (s.queue = [] →
      s.threads.countP PoolThread.inside < s.maxQueueSize + s.threads.countP PoolThread.atTake)
  · exact behind.onward_of_taking takes.1 takes.2
  -- nobody is in `take`, or those in `run` bring as much as there will be room for
  rcases Nat.eq_zero_or_pos (s.threads.countP PoolThread.atTake) with none_takes | some_takes
  · obtain ⟨thread, mem, worker, gone⟩ : ∃ thread ∈ s.threads, thread.worker = true ∧
        thread.stage ≠ .exited := by
      simpa [AllExited] using some_left
    have untaken : ¬ thread.atTake = true := List.countP_eq_zero.mp none_takes thread mem
    have put := (busy thread mem worker gone).resolve_left untaken
    have inside : 0 < s.threads.countP PoolThread.inside :=
      List.countP_pos_iff.mpr
        ⟨thread, mem, Bool.and_eq_true_iff.mpr ⟨worker, PoolThread.inRun_of_inPut put⟩⟩
    exact behind.onward_of_worker mem worker put (by omega) (by omega)
  · simp only [some_takes, true_and, Classical.not_imp, Nat.not_lt] at takes
    obtain ⟨empty, full⟩ := takes
    rw [empty, List.length_nil] at workers
    obtain ⟨worker, there, inside⟩ := List.countP_pos_iff.mp
      (by omega : 0 < s.threads.countP PoolThread.inside)
    obtain ⟨works, inRun⟩ := Bool.and_eq_true_iff.mp inside
    obtain ⟨j, at_j⟩ := List.mem_iff_getElem?.mp there
    have put : worker.inPut = true := by
      refine (busy worker there works fun gone => ?_).resolve_left fun takes => ?_
      · simp [PoolThread.inRun, gone] at inRun
      · simp [(behind.taking at_j takes).2] at inRun
    refine behind.onward_of_worker there works put ?_ ?_
    · rw [empty]
      exact bound
    · rw [empty, List.length_nil]
      omega

/-- Behind the workers the producers go on until there is no room left. -/
theorem Behind.onward_of_room (behind : s.Behind) (exited : AllExited s.threads)
    (room : s.queue.length < s.maxQueueSize) : s.Onward := by
  have producers := behind.short.producers
  have demand := behind.short.demand
  rw [behind.posted.demand_eq] at demand
  have none_takes : s.threads.countP PoolThread.atTake = 0 := by
    refine List.countP_eq_zero.mpr fun thread mem atTake => ?_
    have gone := exited thread mem (behind.posted.takes_of_atTake mem atTake)
    simp [PoolThread.atTake, gone] at atTake
  have none_inside : s.threads.countP PoolThread.inside = 0 := by
    refine List.countP_eq_zero.mpr fun thread mem inside => ?_
    obtain ⟨worker, inRun⟩ := Bool.and_eq_true_iff.mp inside
    simp [PoolThread.inRun, exited thread mem worker] at inRun
  obtain ⟨thread, mem, outside⟩ := List.countP_pos_iff.mp producers
  obtain ⟨i, there⟩ := List.mem_iff_getElem?.mp mem
  obtain ⟨-, inRun⟩ := Bool.and_eq_true_iff.mp outside
  cases put : thread.inPut with
  | true =>
    refine behind.onward_of_put there put room fun k w => ?_
    rw [outside, none_inside, none_takes]
    simp only [Bool.toNat_true]
    omega
  | false =>
    refine behind.onward_of_free there ?_ ?_ ?_ put
    · intro busy
      simp [PoolThread.inRun, busy] at inRun
    · intro gone
      simp [PoolThread.inRun, gone] at inRun
    · refine eq_false_of_ne_true fun atTake => ?_
      simp [(behind.taking there atTake).2] at inRun

/-! ## Behind the last worker -/

/-- The threads may go on, without another call of `run`, so that somebody is left behind. -/
def LeavesBehind (s : ThreadPool) : Prop :=
  Leads step ThreadPoolAct.NoCall (fun t => ¬ t.Released) s

/-- Whoever is blocked when the workers have exited is left behind. -/
theorem leavesBehind_of_exited (exited : AllExited s.threads) (called : s.stopStage ≠ .notCalled)
    (mem : thread ∈ s.threads) (on : thread.stage.OnNotFull) : s.LeavesBehind := by
  cases stage : s.stopStage with
  | notCalled => exact absurd stage called
  | joining =>
    have joined : s.step .join = some { s with stopStage := .returned } := if_pos ⟨stage, exited⟩
    exact Leads.cons (a := .join) trivial joined
      (.here fun released => (released rfl thread mem).1 on)
  | returned => exact .here fun released => (released stage thread mem).1 on

/-- Where there is no room left behind the workers, the next producer is left behind. -/
theorem Behind.leavesBehind_of_full (behind : s.Behind) (exited : AllExited s.threads)
    (full : s.maxQueueSize ≤ s.queue.length) : s.LeavesBehind := by
  have called : s.stopStage ≠ .notCalled := fun early => by
    simpa [behind.stopped] using behind.sound.manned.running.mpr early
  obtain ⟨thread, mem, outside⟩ := List.countP_pos_iff.mp behind.short.producers
  obtain ⟨i, there⟩ := List.mem_iff_getElem?.mp mem
  obtain ⟨producer, inRun⟩ := Bool.and_eq_true_iff.mp outside
  cases here : thread.stage with
  | waitsNotFull task =>
    refine leavesBehind_of_exited exited called mem ?_
    rw [here]
    trivial
  | putting task =>
    have moved : s.step (.thread i (.put none)) =
        some (s.setStage i thread (.waitsNotFull task)) := by
      have isFull : s.IsFull := ⟨behind.short.bound, full⟩
      simp [ThreadPool.step, there, stepThread, here, isFull]
    have works : thread.worker ≠ true := by simpa using producer
    have exited' : AllExited (s.setStage i thread (.waitsNotFull task)).threads :=
      (forall_mem_set there).mpr
        ⟨fun worker => absurd worker works, ((forall_mem_iff_eraseIdx there).mp exited).2⟩
    have inside := (List.getElem?_eq_some_iff.mp there).1
    exact Leads.cons (a := .thread i (.put none)) trivial moved
      (leavesBehind_of_exited exited' called
        (List.mem_of_getElem? (List.getElem?_set_self inside)) trivial)
  | _ => simp [PoolThread.inRun, here] at inRun

/-- Where there is too little room, a schedule leaves somebody behind. -/
theorem Behind.leavesBehind (behind : s.Behind) : s.LeavesBehind := by
  refine Leads.of_variant rank (fun s behind => ?_) behind
  by_cases exited : AllExited s.threads
  · rcases Nat.lt_or_ge s.queue.length s.maxQueueSize with room | full
    · exact .inr (behind.onward_of_room exited room)
    · exact .inl (behind.leavesBehind_of_full exited full)
  · exact .inr (behind.onward exited)

/-! ## The condition is exact -/

/-- However the threads go on without another call of `run`, `stop` releases everyone. -/
def Releases (s : ThreadPool) : Prop :=
  ∀ acts : List ThreadPoolAct, (∀ a ∈ acts, a.NoCall) → Always step Released s acts

/-- A step of a stopped pool that is no call leaves the room it found. -/
theorem leavesRoom_of_noCall {a : ThreadPoolAct} (noCall : a.NoCall) (manned : s.Manned)
    (stopped : s.running = false) (moved : step s a = some s') : s.LeavesRoom a := by
  cases a with
  | thread i act =>
    cases act with
    | run => exact noCall.elim
    | _ => trivial
  | stop =>
    obtain ⟨early, -⟩ := some_of_guard moved
    simp [manned.running.mpr early] at stopped
  | join => trivial

theorem Leaves.releases (leaves : s.Leaves) (stopped : s.running = false) : s.Releases := by
  intro acts noCalls
  have keeps (s : ThreadPool) (a : ThreadPoolAct) (s' : ThreadPool)
      (inv : s.Leaves ∧ s.running = false) (noCall : a.NoCall)
      (moved : ThreadPool.step s a = some s') : s'.Leaves ∧ s'.running = false := by
    obtain ⟨leaves, stopped⟩ := inv
    exact ⟨leaves.step (leavesRoom_of_noCall noCall leaves.sound.manned stopped moved) moved,
      running_of_step stopped moved⟩
  exact Always.of_invariant keeps (fun _ inv => inv.1.released) ⟨leaves, stopped⟩
    (EachStep.of_forall noCalls s)

theorem roomFor_of_releases (sound : s.Sound) (posted : s.Posted) (stopped : s.running = false)
    (releases : s.Releases) : s.RoomFor 0 0 := by
  by_contra short
  have behind : s.Behind := ⟨sound, posted, stopped, short_of_not_roomFor short⟩
  exact behind.leavesBehind.not_always releases

/-- A pool without workers has room for a call. -/
theorem Sound.roomFor_of_noWorkers (sound : s.Sound) (none : s.NoWorkers) : s.RoomFor 1 0 := by
  intro bound
  have none_inRun : s.threads.countP PoolThread.inRun = 0 := by
    refine List.countP_eq_zero.mpr fun thread mem => ?_
    simp [PoolThread.inRun, sound.manned.direct none thread mem]
  have empty : s.queue.length = 0 := congrArg List.length (sound.workerless none)
  refine .inr (.inl ?_)
  unfold demand
  omega

/-- Where a thread that was in user code is in `run`, it has found room. -/
theorem RoomFor.of_asked {task : Task} (room : s'.RoomFor 0 0) (there : s.threads[i]? = some thread)
    (busy : thread.stage = .busy)
    (woken : Woken (s.threads.set i { thread with stage := .putting task }) s'.threads)
    (queue : s'.queue = s.queue) (size : s'.maxQueueSize = s.maxQueueSize) :
    s.RoomFor (!thread.worker).toNat thread.worker.toNat := by
  intro bound
  have one : (!thread.worker).toNat + thread.worker.toNat = 1 := by cases thread.worker <;> rfl
  have outside := woken.countP_set PoolThread.outside_wake there
  have inside := woken.countP_set PoolThread.inside_wake there
  have inRun := woken.countP_set PoolThread.inRun_wake there
  have takes := woken.countP_set PoolThread.takes_wake there
  have atTake := woken.countP_set PoolThread.atTake_wake there
  simp only [PoolThread.outside, PoolThread.inside, PoolThread.inRun, PoolThread.takes,
    PoolThread.atTake, busy, Bool.and_false, Bool.and_true, Bool.toNat_false, Bool.toNat_true,
    Nat.add_zero] at outside inside inRun takes atTake
  have found := room (size ▸ bound)
  unfold demand at found ⊢
  rw [queue, size] at found
  omega

/-- A call of `run` behind which there is room has found room. -/
theorem Sound.roomFor_of_run (sound : s.Sound) (there : s.threads[i]? = some thread)
    {callable : Bool} (moved : s.stepThread i thread (.run callable) = some s')
    (room : s'.RoomFor 0 0) : s.RoomFor (!thread.worker).toNat thread.worker.toNat := by
  obtain ⟨busy, rfl⟩ := some_of_guard moved
  unfold run at room
  split at room
  · next none =>
    rw [none thread (List.mem_of_getElem? there)]
    exact sound.roomFor_of_noWorkers none
  · exact room.of_asked there busy (woken_wakeAt none _) rfl rfl

/-- The condition on the calls of `stop` and `run` is exact: where it is met, and only there, the
threads of a stopped pool may go on as they like, and `stop` releases everyone. -/
theorem eachStep_leavesRoom_iff (maxQueueSize numThreads producers : Nat)
    (acts : List ThreadPoolAct) :
    EachStep step (fun _ _ s' => s'.running = false → s'.Releases)
        (start maxQueueSize numThreads producers) acts ↔
      EachStep step (fun s a _ => s.LeavesRoom a)
        (start maxQueueSize numThreads producers) acts := by
  have keeps (s : ThreadPool) (a : ThreadPoolAct) (s' : ThreadPool) (inv : s.Leaves ∧ s.Posted)
      (room : s.LeavesRoom a) (moved : step s a = some s') :
      (s'.Leaves ∧ s'.Posted) ∧ (s'.running = false → s'.Releases) := by
    have leaves := inv.1.step room moved
    exact ⟨⟨leaves, inv.2.step moved⟩, leaves.releases⟩
  refine EachStep.iff_of_invariant keeps ?_ ⟨leaves_start .., posted_start _ _ _⟩
  rintro s a s' ⟨leaves, posted⟩ moved releases
  have room (stopped : s'.running = false) : s'.RoomFor 0 0 :=
    roomFor_of_releases (leaves.sound.step moved) (posted.step moved) stopped (releases stopped)
  cases a with
  | thread i act =>
    cases act with
    | run callable =>
      intro stopped thread there
      obtain ⟨thread', there', moved⟩ := thread_of_step moved
      obtain rfl : thread = thread' := Option.some.inj (there.symm.trans there')
      obtain ⟨_, _, goes⟩ := goes_of_stepThread there' moved
      exact leaves.sound.roomFor_of_run there' moved (room (goes.running.trans stopped))
    | _ => trivial
  | stop =>
    obtain ⟨-, rfl⟩ := some_of_guard moved
    exact roomFor_stop.mp (room rfl)
  | join => trivial

end ThreadPool

end NewFramework.Base
