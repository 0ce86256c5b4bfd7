import NewFramework.Net.TimerConsistency

/-!
# Cancelled timers

`cancelInLoop` (`muduo/net/TimerQueue.cc`) deletes a timer that is in the sets.  One that a batch
has expired it only notes in `cancelingTimers_`, and `reset` alone looks there: the timer is not
restarted, but where the batch has not come to it yet, its callback is still called.  A timer whose
`addTimerInLoop` is on its way is in no set either, and a cancellation that comes before it does
nothing.
-/

namespace NewFramework.Net
open NewFramework.Lib

namespace TimerQueue

variable {s s' : TimerQueue}

/-- The timers that these entries and addresses are about. -/
def ids (s : TimerQueue) (timers : List Nat) : List TimerId :=
  timers.filterMap fun timer => (s.heap timer).map fun t => ⟨timer, t.sequence⟩

/-- The timers whose callbacks the batch is still to call. -/
def waiting (s : TimerQueue) : List TimerId :=
  s.ids ((s.handling.elim [] Batch.rest).map Entry.timer)

/-- The timers that `addTimerInLoop` is on its way to. -/
def coming (s : TimerQueue) : List TimerId := s.ids s.arriving

theorem mem_ids {s : TimerQueue} {timers : List Nat} {a : Nat} {t : Timer} (mem : a ∈ timers)
    (live : s.heap a = some t) : ⟨a, t.sequence⟩ ∈ s.ids timers :=
  List.mem_filterMap.mpr ⟨a, mem, by rw [live]; rfl⟩

/-- A callback that a step starts is not that of a timer cancelled before. -/
def NotCancelled (s : TimerQueue) (_ : Act) (s' : TimerQueue) : Prop :=
  ∀ r ∈ s'.runs.drop s.runs.length, r.timer ∉ s.cancelled

instance (s : TimerQueue) (a : Act) (s' : TimerQueue) : Decidable (NotCancelled s a s') :=
  inferInstanceAs (Decidable (∀ r ∈ _, _))

/-- The condition on a step: the timer that is cancelled has been made, `addTimerInLoop` is not on
its way to it, and it does not wait in the batch for its callback. -/
def InTime (s : TimerQueue) : Act → Prop
  | .cancelInLoop timerId =>
    timerId.sequence ≤ s.numCreated ∧ timerId ∉ s.coming ∧ timerId ∉ s.waiting
  | _ => True

instance (s : TimerQueue) (a : Act) : Decidable (s.InTime a) :=
  match a with
  | .cancelInLoop _ => inferInstanceAs (Decidable (_ ∧ _))
  | .addTimer .. | .addTimerInLoop .. | .handleRead _ | .run | .reset _ => instDecidableTrue

/-- What is kept for the cancelled timers. -/
structure Cancels (s : TimerQueue) : Prop where
  made : ∀ id ∈ s.cancelled, id.sequence ≤ s.numCreated
  /-- if it is alive, its callback was started in this batch, and `reset` will find it -/
  noted : ∀ id ∈ s.cancelled, ∀ t, s.heap id.timer = some t → t.sequence = id.sequence →
    id ∈ s.cancelingTimers ∧ ∃ b ∈ s.handling, id.timer ∈ b.called.map Entry.timer

theorem cancels_new (numCreated : Nat) : (new numCreated).Cancels := ⟨nofun, nofun⟩

/-- A cancelled timer does not wait for its callback. -/
theorem Cancels.not_next {b : Batch} {e : Entry} {rest : List Entry} {t : Timer}
    (cancels : s.Cancels) (consistent : s.Consistent) (handling : s.handling = some b)
    (next : b.rest = e :: rest) (live : s.heap e.timer = some t) :
    (⟨e.timer, t.sequence⟩ : TimerId) ∉ s.cancelled := by
  intro mem
  obtain ⟨-, b', handling', called⟩ := cancels.noted _ mem t live rfl
  obtain rfl : b = b' := Option.some.inj (handling.symm.trans handling')
  exact consistent.next_uncalled handling next called

/-- A timer that is on no way to the sets and in neither, and does not wait in the batch, was called
in it. -/
theorem Consistent.called {timerId : TimerId} {t : Timer} (consistent : s.Consistent)
    (comes : timerId ∉ s.coming) (waits : timerId ∉ s.waiting)
    (inactive : timerId ∉ s.activeTimers) (live : s.heap timerId.timer = some t)
    (sequence : t.sequence = timerId.sequence) :
    ∃ b ∈ s.handling, timerId.timer ∈ b.called.map Entry.timer := by
  obtain ⟨a, q⟩ := timerId
  obtain rfl : t.sequence = q := sequence
  rcases consistent.kept.covered a t live with loose | there
  · rcases List.mem_append.mp loose with arriving | expired
    · exact absurd (mem_ids arriving live) comes
    · cases handling : s.handling with
      | none =>
        rw [batch, handling] at expired
        contradiction
      | some b =>
        rw [batch, handling, Option.elim_some, Batch.expired, List.map_append] at expired
        rcases List.mem_append.mp expired with called | rest
        · exact ⟨b, rfl, called⟩
        · refine absurd (mem_ids ?_ live) waits
          rw [handling]
          exact rest
  · obtain ⟨u, live', -, active⟩ := consistent.kept.keyed _ there
    obtain rfl : t = u := Option.some.inj (live.symm.trans live')
    exact absurd active inactive

/-- What is cancelled besides, is noted if it is alive. -/
theorem Cancels.concat {timerId : TimerId} (cancels : s.Cancels)
    (made : timerId.sequence ≤ s.numCreated)
    (noted : ∀ t, s.heap timerId.timer = some t → t.sequence = timerId.sequence →
      timerId ∈ s.cancelingTimers ∧ ∃ b ∈ s.handling, timerId.timer ∈ b.called.map Entry.timer) :
    ({ s with cancelled := s.cancelled ++ [timerId] } : TimerQueue).Cancels where
  made id mem := by
    rcases List.mem_append.mp mem with old | new
    · exact cancels.made id old
    · obtain rfl := List.mem_singleton.mp new
      exact made
  noted id mem := by
    rcases List.mem_append.mp mem with old | new
    · exact cancels.noted id old
    · obtain rfl := List.mem_singleton.mp new
      exact noted

theorem Cancels.move {a : Act} (cancels : s.Cancels) (consistent : s.Consistent)
    (inTime : s.InTime a) (move : Move s a s') : s'.Cancels := by
  cases move with
  | made =>
    refine ⟨fun id mem => Nat.le_succ_of_le (cancels.made id mem), ?_⟩
    intro id mem t live sequence
    rcases addTimer_heap live with ⟨-, number⟩ | ⟨-, live⟩
    · have := cancels.made id mem
      omega
    · exact cancels.noted id mem t live sequence
  | armed => exact { cancels with }
  | added => exact { cancels with }
  | @cancelled timerId t active live sequence there =>
    have heap {a : Nat} {u : Timer}
        (live : ((s.drop timerId.timer t).free timerId.timer t).heap a = some u) :
        a ≠ timerId.timer ∧ s.heap a = some u :=
      (free_heap (s := s.drop timerId.timer t) (t := t)).mp live
    have freed : ((s.drop timerId.timer t).free timerId.timer t).Cancels :=
      ⟨cancels.made, fun id mem u live => cancels.noted id mem u (heap live).2⟩
    exact freed.concat inTime.1 fun u live => absurd rfl (heap live).1
  | @noted timerId inactive calling =>
    have inserted : ({ s with
        cancelingTimers := s.cancelingTimers.insert timerId } : TimerQueue).Cancels :=
      ⟨cancels.made, fun id mem t live sequence =>
        (cancels.noted id mem t live sequence).imp_left fun old =>
          SortedSet.mem_insert.mpr (.inr old)⟩
    exact inserted.concat inTime.1 fun t live sequence =>
      ⟨SortedSet.mem_insert.mpr (.inl rfl),
        consistent.called inTime.2.1 inTime.2.2 inactive live sequence⟩
  | @ignored timerId inactive outside =>
    apply cancels.concat inTime.1
    intro t live sequence
    obtain ⟨b, handling, -⟩ :=
      consistent.called inTime.2.1 inTime.2.2 inactive live sequence
    rw [outside] at handling
    contradiction
  | handled outside =>
    refine ⟨cancels.made, ?_⟩
    intro id mem t live sequence
    obtain ⟨-, b, handling, -⟩ := cancels.noted id mem t live sequence
    rw [outside] at handling
    contradiction
  | @ran b e rest t handling =>
    refine ⟨cancels.made, ?_⟩
    intro id mem u live sequence
    obtain ⟨canceling, b', handling', called⟩ := cancels.noted id mem u live sequence
    obtain rfl : b = b' := Option.some.inj (handling.symm.trans handling')
    refine ⟨canceling, _, rfl, ?_⟩
    show id.timer ∈ (b.called ++ [e]).map Entry.timer
    rw [List.map_append]
    exact List.mem_append_left _ called
  | @reset b clock r handling done resets =>
    obtain ⟨timerfd, armedAt, eq⟩ := resets.kept.rearm_frame clock
    have same : r.cancelled = s.cancelled ∧ r.numCreated = s.numCreated := by
      rw [resets.frame]
      exact ⟨rfl, rfl⟩
    obtain ⟨cancelled, numCreated⟩ := same
    rw [eq]
    refine ⟨?_, ?_⟩
    · intro id mem
      simp only [cancelled] at mem
      exact numCreated ▸ cancels.made id mem
    · intro id mem t live sequence
      -- `reset` deletes what was called in the batch, unless it restarts it
      simp only [cancelled] at mem
      exfalso
      rcases resets.heap id.timer t live with ⟨absent, old⟩ | ⟨u, old, -, there, rfl⟩
      · obtain ⟨-, b', handling', called⟩ := cancels.noted id mem t old sequence
        obtain rfl : b = b' := Option.some.inj (handling.symm.trans handling')
        apply absent
        rw [Batch.expired, List.map_append]
        exact List.mem_append_left _ called
      · rw [restart_sequence] at sequence
        obtain ⟨canceling, -⟩ := cancels.noted id mem u old sequence
        rw [sequence] at there
        exact there canceling

/-- A callback that is started. -/
theorem Cancels.notCancelled {a : Act} (cancels : s.Cancels) (consistent : s.Consistent)
    (move : Move s a s') : NotCancelled s a s' := by
  have still {s' : TimerQueue} (runs : s'.runs = s.runs) : NotCancelled s a s' := by
    intro r mem
    rw [runs, List.drop_length] at mem
    contradiction
  cases move with
  | ran handling next live =>
    intro r mem
    rw [List.drop_left] at mem
    obtain rfl := List.mem_singleton.mp mem
    exact cancels.not_next consistent handling next live
  | @reset b clock r handling done resets =>
    obtain ⟨timerfd, armedAt, eq⟩ := resets.kept.rearm_frame clock
    exact still (by rw [eq, resets.frame])
  | _ => exact still rfl

/-- Where no timer is cancelled on its way to the sets or while it waits in the batch, no callback
of a cancelled timer is started. -/
theorem eachStep_notCancelled {numCreated : Nat} {as : List Act}
    (inTime : EachStep step (fun s a _ => s.InTime a) (new numCreated) as) :
    EachStep step NotCancelled (new numCreated) as := by
  have keeps (s : TimerQueue) (a : Act) (s' : TimerQueue) (kept : s.Consistent ∧ s.Cancels)
      (inTime : s.InTime a) (moved : s.step a = some s') :
      (s'.Consistent ∧ s'.Cancels) ∧ NotCancelled s a s' := by
    have move := step_cases kept.1 moved
    exact ⟨⟨kept.1.move move, kept.2.move kept.1 inTime move⟩, kept.2.notCancelled kept.1 move⟩
  exact EachStep.of_invariant keeps ⟨consistent_new numCreated, cancels_new numCreated⟩ inTime

/-- A repeating timer cancels itself in its callback, and another one that is to expire later. -/
def cancelledInCallback : List Act :=
  [.addTimer 1 100 50 true, .addTimer 2 200 0 false, .addTimerInLoop 1 0, .addTimerInLoop 2 0,
    .handleRead 100, .run, .cancelInLoop ⟨1, 1⟩, .cancelInLoop ⟨2, 2⟩, .reset 110,
    .handleRead 300, .reset 300]

theorem eachStep_notCancelled_inCallback :
    EachStep step NotCancelled (new 0) cancelledInCallback :=
  eachStep_notCancelled (by decide +kernel)

/-- Two timers expire together, and the callback of the first cancels the second. -/
theorem cancelledInBatch_called : ¬ EachStep step NotCancelled (new 0)
    [.addTimer 1 100 0 false, .addTimer 2 100 0 false, .addTimerInLoop 1 0, .addTimerInLoop 2 0,
      .handleRead 100, .run, .cancelInLoop ⟨2, 2⟩, .run] := by
  decide +kernel

/-- A timer is cancelled before the loop comes to its `addTimerInLoop`. -/
example : ¬ EachStep step NotCancelled (new 0)
    [.addTimer 1 100 0 false, .cancelInLoop ⟨1, 1⟩, .addTimerInLoop 1 0, .handleRead 100,
      .run] := by
  decide +kernel

end TimerQueue
end NewFramework.Net
