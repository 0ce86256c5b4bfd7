import NewFramework.Net.EventLoop

/-!
# `pendingFunctors_`: wakeups and order

`queueInLoop` (`muduo/net/EventLoop.cpp`) makes no `wakeup()` in the loop thread unless
`doPendingFunctors` runs, for the functor is then swapped out before the next `poll`.  That holds in
the callbacks of the channels.  It does not hold before `loop()`, and not in the destructors that
run when a batch goes: what is queued there waits in `poll` for another event.

The order is that of the pushes, whatever the interleaving.
-/

namespace NewFramework.Net
open NewFramework.Lib

namespace EventLoop

variable {α : Type*}

/-! ## Wakeups -/

/-- `poll` returns for this functor, or will as soon as its producer goes on. -/
def Woken (s : EventLoop α) (q : Queued α) : Prop :=
  s.wakeupFd ≠ 0 ∨ s.stage q.producer = .waking (some q.call)

instance (s : EventLoop α) (q : Queued α) : Decidable (s.Woken q) :=
  inferInstanceAs (Decidable (_ ∨ _))

/-- No functor waits for an unrelated event. -/
def NoLostWakeup (s : EventLoop α) : Prop :=
  s.phase = .poll → ∀ q ∈ s.pendingFunctors, s.Woken q

instance (s : EventLoop α) : Decidable s.NoLostWakeup := inferInstanceAs (Decidable (_ → _))

/-- The loop thread is where it comes to the swap before it comes to `poll`. -/
def swapFirst (s : EventLoop α) : Prop :=
  match s.phase with
  | .handle _ | .swap => True
  | _ => False

instance (s : EventLoop α) : Decidable s.swapFirst :=
  show Decidable (match s.phase with | .handle _ | .swap => True | _ => False) from
    match s.phase with
    | .handle _ | .swap => instDecidableTrue
    | .outside | .test | .poll | .call _ | .destroy => instDecidableFalse

/-- The condition on a step: where the loop thread queues a functor, outside `loop()` or in the
destruction of a batch, the eventfd is readable already. -/
def Covered (s : EventLoop α) : Act α → Prop
  | .queueInLoop none _ => s.phase = .outside ∨ s.phase = .destroy → s.wakeupFd ≠ 0
  | _ => True

instance (s : EventLoop α) (a : Act α) : Decidable (s.Covered a) :=
  match a with
  | .queueInLoop none _ => inferInstanceAs (Decidable (_ → _))
  | .queueInLoop (some _) _ | .runInLoop .. | .quit _ | .wakeup _ | .loop | .test | .poll _
  | .handleRead | .doPendingFunctors | .swap | .callFunctor | .called | .destroyed =>
    instDecidableTrue

/-- What is kept for the wakeups. -/
structure Wakes (s : EventLoop α) : Prop where
  swapping : s.phase = .swap → s.callingPendingFunctors = true
  calling : ∀ runs, s.phase = .call runs → s.callingPendingFunctors = true
  woken : ¬ s.swapFirst → ∀ q ∈ s.pendingFunctors, s.Woken q

/-- A thread that was idle wakes up for no functor yet. -/
theorem Woken.enter {s : EventLoop α} {q : Queued α} {t : Thread} (woken : s.Woken q)
    (idle : s.stage t = .idle) (stage : Stage) : (s.enter t stage).Woken q := by
  rcases woken with readable | waking
  · exact .inl readable
  · refine .inr ?_
    have other : q.producer ≠ t := by
      intro same
      rw [same, idle] at waking
      contradiction
    simpa [EventLoop.enter, Function.update_of_ne other] using waking

theorem Wakes.queueInLoop {s : EventLoop α} {t : Thread} {f : α} (wakes : s.Wakes)
    (ready : s.Ready t) (covered : s.Covered (.queueInLoop t f)) : (s.queueInLoop t f).Wakes := by
  obtain ⟨idle, runs⟩ := ready
  unfold EventLoop.queueInLoop
  split
  · refine ⟨wakes.swapping, wakes.calling, ?_⟩
    intro last q mem
    rcases List.mem_append.mp mem with old | new
    · exact (wakes.woken last q old).enter (s := s.push t f) idle _
    · obtain rfl := List.mem_singleton.mp new
      exact .inr (Function.update_self ..)
  · next silent =>
    obtain ⟨rfl, quiet⟩ : t = none ∧ ¬ s.callingPendingFunctors := by
      simpa only [not_or, ne_eq, not_not] using silent
    refine ⟨wakes.swapping, wakes.calling, fun last q mem => .inl ?_⟩
    apply covered
    -- the phases where the user runs are the two of the condition, `handle` and `call`
    have runs := runs rfl
    cases phase : s.phase with
    | outside => exact .inl rfl
    | destroy => exact .inr rfl
    | handle wake => exact absurd (by simp [swapFirst, EventLoop.push, phase]) last
    | call b => exact absurd (wakes.calling b phase) quiet
    | test | poll | swap => simp [userRuns, phase] at runs

theorem Wakes.step {s s' : EventLoop α} {a : Act α} (wakes : s.Wakes) (covered : s.Covered a)
    (moved : s.step a = some s') : s'.Wakes := by
  cases step_cases moved with
  | queued ready => exact wakes.queueInLoop ready covered
  | ran => exact wakes
  | asked ready => exact wakes.queueInLoop ready trivial
  | @quit t ready =>
    unfold callQuit
    split
    · exact ⟨wakes.swapping, wakes.calling, fun last q mem =>
        (wakes.woken last q mem).enter (s := { s with quit := true }) ready.1 _⟩
    · exact ⟨wakes.swapping, wakes.calling, wakes.woken⟩
  | woke => exact ⟨wakes.swapping, wakes.calling, fun _ q _ => .inl (wakeup_ne_zero s)⟩
  | began outside =>
    exact ⟨nofun, nofun, fun _ => wakes.woken (by simp [swapFirst, outside])⟩
  | left test => exact ⟨nofun, nofun, fun _ => wakes.woken (by simp [swapFirst, test])⟩
  | polls test => exact ⟨nofun, nofun, fun _ => wakes.woken (by simp [swapFirst, test])⟩
  | polled => exact ⟨nofun, nofun, fun last => absurd trivial last⟩
  | read => exact ⟨nofun, nofun, fun last => absurd trivial last⟩
  | handled => exact ⟨fun _ => rfl, nofun, fun last => absurd trivial last⟩
  | swapped swap => exact ⟨nofun, fun _ _ => wakes.swapping swap, nofun⟩
  | callsNext call =>
    exact ⟨nofun, fun _ _ => wakes.calling _ call,
      fun _ => wakes.woken (by simp [swapFirst, call])⟩
  | called call => exact ⟨nofun, nofun, fun _ => wakes.woken (by simp [swapFirst, call])⟩
  | destroyed destroy => exact ⟨nofun, nofun, fun _ => wakes.woken (by simp [swapFirst, destroy])⟩

theorem wakes_new : (new : EventLoop α).Wakes := ⟨nofun, nofun, nofun⟩

theorem Wakes.noLostWakeup {s : EventLoop α} (wakes : s.Wakes) : s.NoLostWakeup := by
  intro poll
  exact wakes.woken (by simp [swapFirst, poll])

/-- Where the loop thread queues nothing outside `loop()` or in the destruction of a batch, unless
the eventfd is readable already, no wakeup is lost. -/
theorem always_noLostWakeup {as : List (Act α)}
    (covered : EachStep step (fun s a _ => s.Covered a) new as) :
    Always step NoLostWakeup new as :=
  Always.of_invariant (fun _ _ _ wakes covered moved => wakes.step covered moved)
    (fun _ => Wakes.noLostWakeup) wakes_new covered

/-- Thread 0 queues a functor while the loop is in `poll`, and the functor queues another. -/
def wokenTwice : List (Act Unit) :=
  [.loop, .test, .queueInLoop (some 0) (), .wakeup (some 0), .poll true, .handleRead,
    .doPendingFunctors, .swap, .callFunctor, .queueInLoop none (), .wakeup none, .called,
    .destroyed, .test]

theorem always_noLostWakeup_wokenTwice : Always step NoLostWakeup new wokenTwice :=
  always_noLostWakeup (by decide)

/-- The functor that the loop thread queues before `loop()` waits in `poll`. -/
theorem queuedBeforeLoop_lost :
    ¬ Always step NoLostWakeup (new : EventLoop Unit) [.queueInLoop none (), .loop, .test] := by
  decide

/-- So does what the destructor of a functor queues. -/
example : ¬ Always step NoLostWakeup (new : EventLoop Unit)
    [.loop, .test, .poll false, .doPendingFunctors, .swap, .called, .queueInLoop none (),
      .destroyed, .test] := by
  decide

/-! ## Order -/

/-- What has been queued and not called. -/
def queue (s : EventLoop α) : List (Queued α) := s.functors ++ s.pendingFunctors

/-- What is kept for the order of the queue. -/
structure InOrder (s : EventLoop α) : Prop where
  accounted : s.executed.map Prod.fst ++ s.queue = s.pushed
  numbered : s.pushed.map Queued.call = List.range s.pushed.length
  pending : ∀ q ∈ s.pendingFunctors, ∀ b, q.during = some b → b ≤ s.batch
  functors : ∀ q ∈ s.functors, ∀ b, q.during = some b → b < s.batch
  executed : ∀ e ∈ s.executed, ∀ b, e.1.during = some b → b < e.2
  /-- between two batches there is none -/
  between : (∀ runs, s.phase ≠ .call runs) → s.functors = []

theorem during_item {t : Thread} {f : α} {s : EventLoop α} {b : Nat}
    (during : (s.item t f).during = some b) : b = s.batch := by
  simp only [item] at during
  split at during
  · exact (Option.some.inj during).symm
  · contradiction

theorem InOrder.push {s : EventLoop α} (order : s.InOrder) (t : Thread) (f : α) :
    (s.push t f).InOrder where
  accounted := by
    show s.executed.map Prod.fst ++ (s.functors ++ (s.pendingFunctors ++ [s.item t f])) =
      s.pushed ++ [s.item t f]
    rw [← order.accounted]
    simp [queue]
  numbered := by
    show (s.pushed ++ [s.item t f]).map Queued.call = List.range (s.pushed ++ [s.item t f]).length
    rw [List.map_append, order.numbered, List.length_append, List.length_singleton,
      List.range_succ]
    rfl
  pending q mem b during := by
    rcases List.mem_append.mp mem with old | new
    · exact order.pending q old b during
    · obtain rfl := List.mem_singleton.mp new
      have same : b = s.batch := during_item (f := f) during
      exact Nat.le_of_eq same
  functors := order.functors
  executed := order.executed
  between := order.between

theorem InOrder.queueInLoop {s : EventLoop α} (order : s.InOrder) (t : Thread) (f : α) :
    (s.queueInLoop t f).InOrder := by
  have pushed := order.push t f
  unfold EventLoop.queueInLoop
  split
  · exact { pushed with }
  · exact pushed

theorem InOrder.step {s s' : EventLoop α} {a : Act α} (order : s.InOrder)
    (moved : s.step a = some s') : s'.InOrder := by
  cases step_cases moved with
  | queued => exact order.queueInLoop ..
  | ran => exact order
  | asked => exact order.queueInLoop ..
  | quit =>
    unfold callQuit
    split <;> exact { order with }
  | woke => exact { order with }
  | began outside => exact { order with between := fun _ => order.between (by simp [outside]) }
  | left test => exact { order with between := fun _ => order.between (by simp [test]) }
  | polls test => exact { order with between := fun _ => order.between (by simp [test]) }
  | polled poll => exact { order with between := fun _ => order.between (by simp [poll]) }
  | read handle => exact { order with between := fun _ => order.between (by simp [handle]) }
  | handled handle => exact { order with between := fun _ => order.between (by simp [handle]) }
  | swapped swap =>
    have none_left := order.between (by simp [swap])
    exact {
      accounted := by
        have old := order.accounted
        rw [queue, none_left] at old
        simpa [queue] using old
      numbered := order.numbered
      pending := nofun
      functors := fun q mem b during => Nat.lt_succ_of_le (order.pending q mem b during)
      executed := order.executed
      between := fun outside => absurd rfl (outside false) }
  | @callsNext runs q rest call next =>
    exact {
      accounted := by
        have old := order.accounted
        rw [queue, next] at old
        simpa [queue] using old
      numbered := order.numbered
      pending := order.pending
      functors := fun r mem => order.functors r (by rw [next]; exact List.mem_cons_of_mem _ mem)
      executed := fun e mem => by
        rcases List.mem_append.mp mem with old | new
        · exact order.executed e old
        · obtain rfl := List.mem_singleton.mp new
          exact order.functors q (by rw [next]; exact List.mem_cons_self ..)
      between := fun outside => absurd rfl (outside true) }
  | called call done => exact { order with between := fun _ => done }
  | destroyed destroy => exact { order with between := fun _ => order.between (by simp [destroy]) }

theorem inOrder_new : (new : EventLoop α).InOrder where
  accounted := rfl
  numbered := rfl
  pending := nofun
  functors := nofun
  executed := nofun
  between _ := rfl

/-- To what is built on it a loop is a queue: a call of `queueInLoop` adds a functor at the end,
and the one that is called is the first. -/
theorem InOrder.queue_step {s s' : EventLoop α} {a : Act α} (order : s.InOrder)
    (moved : s.step a = some s') :
    s'.queue = s.queue ∧ s'.executed = s.executed ∨
      (∃ q, s'.queue = s.queue ++ [q] ∧ s'.executed = s.executed) ∨
      ∃ q, s.queue = q :: s'.queue ∧ s'.executed = s.executed ++ [(q, s.batch)] := by
  have queued (t : Thread) (f : α) : ∃ q, (s.queueInLoop t f).queue = s.queue ++ [q] ∧
      (s.queueInLoop t f).executed = s.executed := by
    refine ⟨s.item t f, ?_, ?_⟩
    · unfold EventLoop.queueInLoop
      split <;> exact (List.append_assoc ..).symm
    · unfold EventLoop.queueInLoop
      split <;> rfl
  cases step_cases moved with
  | queued => exact .inr (.inl (queued ..))
  | asked => exact .inr (.inl (queued ..))
  | quit =>
    unfold callQuit
    split <;> exact .inl ⟨rfl, rfl⟩
  | swapped swap =>
    have none_left := order.between (by simp [swap])
    exact .inl ⟨by simp [queue, none_left], rfl⟩
  | @callsNext runs q rest call next => exact .inr (.inr ⟨q, by simp [queue, next], rfl⟩)
  | _ => exact .inl ⟨rfl, rfl⟩

/-- The functors are called in the order of the calls of `queueInLoop`, each once, and none in
the batch that queued it. -/
structure CalledInOrder (s : EventLoop α) : Prop where
  accounted : s.executed.map Prod.fst ++ s.functors ++ s.pendingFunctors = s.pushed
  prefix_of : s.executed.map Prod.fst <+: s.pushed
  once : (s.pushed.map Queued.call).Nodup
  later : ∀ e ∈ s.executed, e.1.during ≠ some e.2

theorem InOrder.calledInOrder {s : EventLoop α} (order : s.InOrder) : s.CalledInOrder where
  accounted := by
    rw [List.append_assoc]
    exact order.accounted
  prefix_of := ⟨s.queue, order.accounted⟩
  once := by
    rw [order.numbered]
    exact List.nodup_range
  later e mem same := absurd (order.executed e mem _ same) (Nat.lt_irrefl _)

theorem always_calledInOrder (as : List (Act α)) : Always step CalledInOrder new as :=
  Always.of_invariant (fun _ _ _ order _ moved => order.step moved)
    (fun _ => InOrder.calledInOrder) inOrder_new (EachStep.trivial _ as)

end EventLoop
end NewFramework.Net
