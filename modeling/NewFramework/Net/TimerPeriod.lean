import NewFramework.Net.TimerConsistency

/-!
# Timers on time

In `muduo/net/TimerQueue.cc`, `handleRead` takes the timers that are due and no others, a batch
calls each of them once, and `reset` sets a timer that repeats for one interval after the `now` of
its batch.  So a callback is started again in a later batch only, and not before the interval is
over.
-/

namespace NewFramework.Net
open NewFramework.Lib

/-- The entry that the callback was started for. -/
def TimerRun.entry (r : TimerRun) : Entry := ⟨r.expiration, r.timer.timer⟩

namespace TimerQueue

variable {s s' : TimerQueue} {loose : List Nat}

/-- The callbacks that this batch has started. -/
def batchRuns (s : TimerQueue) : List Entry :=
  (s.runs.filter (·.batch = s.batches)).map TimerRun.entry

/-- What a step owes the timers. -/
def OnTime (s : TimerQueue) (a : Act) (s' : TimerQueue) : Prop :=
  match a with
  | .handleRead now =>
    ∃ b ∈ s'.handling, b.now = now ∧
      (∀ e, e ∈ b.expired ↔ e ∈ s.timers ∧ e.expiration ≤ now) ∧
      ∀ e, e ∈ s'.timers ↔ e ∈ s.timers ∧ now < e.expiration
  | .run =>
    ∃ r t, s'.runs = s.runs ++ [r] ∧ s.heap r.timer.timer = some t ∧
      t.sequence = r.timer.sequence ∧ t.expiration ≤ r.now ∧
      ∀ earlier ∈ s.runs, earlier.timer.sequence = r.timer.sequence →
        earlier.batch < r.batch ∧ earlier.now + t.interval ≤ r.now
  | .reset _ =>
    ∃ b ∈ s.handling, s.batchRuns = b.expired ∧
      ∀ e ∈ b.expired, ∃ t, s.heap e.timer = some t ∧
        (t.repeats = true → ⟨e.timer, t.sequence⟩ ∉ s.cancelled →
          s'.heap e.timer = some { t with expiration := b.now + t.interval } ∧
            ⟨b.now + t.interval, e.timer⟩ ∈ s'.timers) ∧
        (t.repeats = false → s'.heap e.timer = none)
  | _ => True

/-! ## What `reset` leaves of a timer -/

/-- The timer at `a` after its batch, if it is not deleted. -/
def again (now : Int) (canceling : SortedSet ActiveTimer) (a : Nat) (t : Timer) : Option Timer :=
  if t.repeats ∧ (⟨a, t.sequence⟩ : ActiveTimer) ∉ canceling then some (t.restart now) else none

theorem resetTimer_heap {e : Entry} {t : Timer} (kept : s.Kept (e.timer :: loose))
    (live : s.heap e.timer = some t) (now : Int) :
    (s.resetTimer now e).heap =
      Function.update s.heap e.timer (again now s.cancelingTimers e.timer t) := by
  rw [TimerQueue.resetTimer, deref_some live, again]
  split
  · rw [(kept.restart (t.restart now)).insert (Function.update_self ..)]
    rfl
  · rw [delete_eq live]
    rfl

theorem foldl_resetTimer_heap (now : Int) {l : List Entry} (numbered : s.Numbered)
    (kept : s.Kept (l.map Entry.timer ++ loose)) :
    (∀ a ∉ l.map Entry.timer, (l.foldl (TimerQueue.resetTimer now) s).heap a = s.heap a) ∧
      ∀ e ∈ l, ∀ t, s.heap e.timer = some t →
        (l.foldl (TimerQueue.resetTimer now) s).heap e.timer =
          again now s.cancelingTimers e.timer t := by
  induction l generalizing s with
  | nil => exact ⟨fun _ _ => rfl, fun _ mem => absurd mem List.not_mem_nil⟩
  | cons d l ih =>
    have first := Kept.resetTimer numbered kept now
    obtain ⟨t, live, -⟩ := kept.absent d.timer (List.mem_cons_self ..)
    have heap := resetTimer_heap kept live now
    have canceling : (s.resetTimer now d).cancelingTimers = s.cancelingTimers := by
      rw [first.frame]
    obtain ⟨others, taken⟩ := ih first.numbered first.kept
    have alone : d.timer ∉ l.map Entry.timer := fun mem =>
      (List.nodup_cons.mp kept.distinct).1 (List.mem_append_left _ mem)
    rw [List.foldl_cons]
    constructor
    · intro a absent
      rw [List.map_cons, List.mem_cons, not_or] at absent
      rw [others a absent.2, heap, Function.update_of_ne absent.1]
    · intro e mem u live'
      rcases List.mem_cons.mp mem with rfl | mem
      · obtain rfl : t = u := Option.some.inj (live.symm.trans live')
        rw [others e.timer alone, heap, Function.update_self]
      · have other : e.timer ≠ d.timer := fun same =>
          alone (same ▸ List.mem_map_of_mem mem)
        rw [← canceling]
        apply taken e mem
        rw [heap, Function.update_of_ne other]
        exact live'

/-! ## What is kept -/

/-- What is kept for the time between two callbacks of a timer. -/
structure Periods (s : TimerQueue) : Prop where
  /-- a timer that was called before is due an interval later at the earliest, unless `reset` has
  still to set it -/
  spaced : ∀ r ∈ s.runs, ∀ a t, s.heap a = some t → t.sequence = r.timer.sequence →
    (∃ b ∈ s.handling, a ∈ b.called.map Entry.timer ∧ r.now ≤ b.now) ∨
      (0 ≤ t.interval ∧ r.now + t.interval ≤ t.expiration) ∧
        (s.handling.isSome → r.batch < s.batches)
  called : ∀ b ∈ s.handling, s.batchRuns = b.called
  cancelled : ∀ id ∈ s.cancelingTimers, id ∈ s.cancelled

theorem periods_new (numCreated : Nat) : (new numCreated).Periods :=
  ⟨nofun, nofun, fun _ mem => (SortedSet.not_mem_empty _ mem).elim⟩

/-- What a step keeps that starts no callback and ends no batch. -/
theorem Periods.still (periods : s.Periods) (ran : s.Ran) (runs : s'.runs = s.runs)
    (batches : s'.batches = s.batches) (handling : s'.handling = s.handling)
    (heap : ∀ a t, s'.heap a = some t → s.heap a = some t ∨ t.sequence = s.numCreated + 1)
    (cancelled : ∀ id ∈ s'.cancelingTimers, id ∈ s'.cancelled) : s'.Periods where
  spaced r mem a t live sequence := by
    rw [runs] at mem
    rw [handling, batches]
    rcases heap a t live with old | fresh
    · exact periods.spaced r mem a t old sequence
    · have := ran.numbered r mem
      omega
  called b mem := by
    rw [batchRuns, runs, batches]
    exact periods.called b (handling ▸ mem)
  cancelled := cancelled

theorem Periods.handled {now : Int} {active : SortedSet ActiveTimer} (periods : s.Periods)
    (ran : s.Ran) (outside : s.handling = none) :
    ({ s with
      timers := s.timers.eraseBelow ⟨now, uintptrMax⟩
      activeTimers := active
      timerfd := s.timerfd.filter fun deadline => now < deadline
      callingExpiredTimers := true
      cancelingTimers := .empty
      handling := some ⟨now, [], s.expired now, false⟩
      batches := s.batches + 1 } : TimerQueue).Periods where
  spaced r mem a t live sequence := by
    rcases periods.spaced r mem a t live sequence with ⟨b, handling, -⟩ | ⟨later, -⟩
    · rw [outside] at handling
      contradiction
    · exact .inr ⟨later, fun _ => Nat.lt_succ_of_le (ran.past r mem)⟩
  called b mem := by
    obtain rfl := Option.some.inj mem
    have none_yet : (s.runs.filter (·.batch = s.batches + 1)) = [] := by
      rw [List.filter_eq_nil_iff]
      intro r mem
      have past := ran.past r mem
      rw [decide_eq_true_eq]
      omega
    exact congrArg (List.map TimerRun.entry) none_yet
  cancelled id mem := (SortedSet.not_mem_empty _ mem).elim

/-- The next callback of the batch is that of a timer whose last one is an interval ago. -/
theorem Periods.next {b : Batch} {e : Entry} {rest : List Entry} {t : Timer} (periods : s.Periods)
    (consistent : s.Consistent) (handling : s.handling = some b) (next : b.rest = e :: rest)
    (live : s.heap e.timer = some t) :
    ∀ r ∈ s.runs, r.timer.sequence = t.sequence →
      r.batch < s.batches ∧ 0 ≤ t.interval ∧ r.now + t.interval ≤ t.expiration := by
  intro r mem sequence
  rcases periods.spaced r mem e.timer t live sequence.symm with
    ⟨b', handling', called, -⟩ | ⟨later, batch⟩
  · obtain rfl : b = b' := Option.some.inj (handling.symm.trans handling')
    exact absurd called (consistent.next_uncalled handling next)
  · exact ⟨batch (by rw [handling]; rfl), later⟩

theorem Periods.ran {b : Batch} {e : Entry} {rest : List Entry} {t : Timer} (periods : s.Periods)
    (consistent : s.Consistent) (handling : s.handling = some b) (next : b.rest = e :: rest)
    (live : s.heap e.timer = some t) (expiration : t.expiration = e.expiration) :
    ({ s with
      handling := some { b with called := b.called ++ [e], rest := rest, running := true }
      runs := s.runs ++ [⟨⟨e.timer, t.sequence⟩, t.expiration, t.repeats, b.now, s.batches⟩] } :
      TimerQueue).Periods where
  spaced r mem a u live' sequence := by
    have here : e.timer ∈ (b.called ++ [e]).map Entry.timer := by simp
    have due : e.expiration ≤ b.now := by
      refine (consistent.due b handling e ?_).1
      rw [Batch.expired, next]
      exact List.mem_append_right _ (List.mem_cons_self ..)
    rcases List.mem_append.mp mem with old | new
    · by_cases same : a = e.timer
      · subst same
        obtain rfl : t = u := Option.some.inj (live.symm.trans live')
        obtain ⟨-, nonneg, later⟩ := periods.next consistent handling next live r old sequence.symm
        exact .inl ⟨_, rfl, here, by dsimp only; omega⟩
      · rcases periods.spaced r old a u live' sequence with ⟨b', handling', called, le⟩ | later
        · obtain rfl : b = b' := Option.some.inj (handling.symm.trans handling')
          refine .inl ⟨_, rfl, ?_, le⟩
          rw [List.map_append]
          exact List.mem_append_left _ called
        · exact .inr ⟨later.1, fun _ => later.2 (by rw [handling]; rfl)⟩
    · obtain rfl := List.mem_singleton.mp new
      obtain rfl := consistent.numbered.unique a u e.timer t live' live sequence
      exact .inl ⟨_, rfl, here, le_refl _⟩
  called b' mem := by
    obtain rfl := Option.some.inj mem
    have before := periods.called b handling
    unfold batchRuns at before ⊢
    rw [List.filter_append, List.map_append, before]
    simp [TimerRun.entry, expiration]
  cancelled := periods.cancelled

theorem step_reset {clock : Int} (moved : s.step (.reset clock) = some s') :
    ∃ b, s.handling = some b ∧ b.rest = [] ∧ s' = s.reset b clock := by
  simp only [step] at moved
  split at moved
  · next b handling =>
    obtain ⟨done, rfl⟩ := some_of_guard moved
    exact ⟨b, handling, done, rfl⟩
  · contradiction

/-- Where `reset` begins, the timers of the batch are loose. -/
theorem Consistent.kept_ended {b : Batch} (consistent : s.Consistent)
    (handling : s.handling = some b) :
    ({ s with callingExpiredTimers := false, handling := none } : TimerQueue).Numbered ∧
      ({ s with callingExpiredTimers := false, handling := none } : TimerQueue).Kept
        (b.expired.map Entry.timer ++ s.arriving) :=
  ⟨{ consistent.numbered with }, { consistent.kept_batch handling with }⟩

/-- `reset` comes back to the timers of its batch. -/
theorem Consistent.reset_heap {b : Batch} (consistent : s.Consistent)
    (handling : s.handling = some b) (clock : Int) :
    (∀ a ∉ b.expired.map Entry.timer, (s.reset b clock).heap a = s.heap a) ∧
      ∀ e ∈ b.expired, ∀ t, s.heap e.timer = some t →
        (s.reset b clock).heap e.timer = again b.now s.cancelingTimers e.timer t := by
  obtain ⟨numbered, kept⟩ := consistent.kept_ended handling
  have resets := Kept.foldl_resetTimer b.now b.expired _ numbered kept
  obtain ⟨timerfd, armedAt, eq⟩ := resets.kept.rearm_frame clock
  unfold reset
  rw [eq]
  exact foldl_resetTimer_heap b.now numbered kept

theorem Consistent.reset_frame {b : Batch} (consistent : s.Consistent)
    (handling : s.handling = some b) (clock : Int) :
    (s.reset b clock).runs = s.runs ∧ (s.reset b clock).handling = none ∧
      (s.reset b clock).cancelingTimers = s.cancelingTimers ∧
      (s.reset b clock).cancelled = s.cancelled ∧ (s.reset b clock).arriving = s.arriving := by
  obtain ⟨numbered, kept⟩ := consistent.kept_ended handling
  have resets := Kept.foldl_resetTimer b.now b.expired _ numbered kept
  obtain ⟨timerfd, armedAt, eq⟩ := resets.kept.rearm_frame clock
  unfold reset
  rw [eq, resets.frame]
  exact ⟨rfl, rfl, rfl, rfl, rfl⟩

theorem Periods.reset {b : Batch} {clock : Int} (periods : s.Periods) (consistent : s.Consistent)
    (handling : s.handling = some b) (fit : s.RestartsFit (.reset clock)) :
    (s.reset b clock).Periods := by
  obtain ⟨others, taken⟩ := consistent.reset_heap handling clock
  obtain ⟨runs, ended, canceling, cancelled, -⟩ := consistent.reset_frame handling clock
  refine ⟨?_, ?_, ?_⟩
  · intro r mem a t' live' sequence
    rw [runs] at mem
    rw [ended]
    refine .inr ⟨?_, nofun⟩
    by_cases batch : a ∈ b.expired.map Entry.timer
    · obtain ⟨e, there, rfl⟩ := List.mem_map.mp batch
      obtain ⟨le, t, live, expiration⟩ := consistent.due b handling e there
      rw [taken e there t live, again] at live'
      obtain ⟨⟨repeats, kept⟩, rfl⟩ := some_of_guard live'
      have due := periods.spaced r mem e.timer t live
        ((restart_sequence b.now t).symm.trans sequence)
      have fits : t.Fits b.now := fit b handling e there t live repeats kept
      rw [fits.restart repeats]
      have nonneg := fits.1
      dsimp only
      rcases due with ⟨b', handling', -, le'⟩ | ⟨later, -⟩
      · obtain rfl : b = b' := Option.some.inj (handling.symm.trans handling')
        omega
      · omega
    · rw [others a batch] at live'
      rcases periods.spaced r mem a t' live' sequence with ⟨b', handling', called, -⟩ | later
      · obtain rfl : b = b' := Option.some.inj (handling.symm.trans handling')
        refine absurd ?_ batch
        rw [Batch.expired, List.map_append]
        exact List.mem_append_left _ called
      · exact later.1
  · intro b' mem
    rw [ended] at mem
    contradiction
  · rw [canceling, cancelled]
    exact periods.cancelled

/-- A timer of a batch that is alive after it is in the set. -/
theorem Consistent.back_in {b : Batch} {e : Entry} {t' : Timer} {clock : Int}
    (consistent : s.Consistent) (after : (s.reset b clock).Consistent)
    (handling : s.handling = some b) (mem : e ∈ b.expired)
    (live : (s.reset b clock).heap e.timer = some t') :
    ⟨t'.expiration, e.timer⟩ ∈ (s.reset b clock).timers := by
  obtain ⟨-, ended, -, -, arriving⟩ := consistent.reset_frame handling clock
  have covered := after.kept.covered e.timer t' live
  rw [batch, ended, arriving, Option.elim_none, List.map_nil, List.append_nil] at covered
  refine covered.resolve_left ?_
  intro coming
  have distinct := (consistent.kept_batch handling).distinct
  exact (List.nodup_append.mp distinct).2.2 _ (List.mem_map_of_mem mem) _ coming rfl

theorem Periods.move {a : Act} (periods : s.Periods) (consistent : s.Consistent) (ran : s.Ran)
    (fit : s.RestartsFit a) (moved : s.step a = some s') : s'.Periods := by
  have move := step_cases consistent moved
  have noted {timerId : TimerId} {id : ActiveTimer} (mem : id ∈ s.cancelingTimers) :
      id ∈ s.cancelled ++ [timerId] := List.mem_append_left _ (periods.cancelled id mem)
  cases move with
  | @made timer expiration interval repeats free =>
    refine periods.still ran rfl rfl rfl ?_ periods.cancelled
    intro a t live
    rcases addTimer_heap live with ⟨-, fresh⟩ | ⟨-, old⟩
    · exact .inr fresh
    · exact .inl old
  | armed => exact periods.still ran rfl rfl rfl (fun _ _ live => .inl live) periods.cancelled
  | added => exact periods.still ran rfl rfl rfl (fun _ _ live => .inl live) periods.cancelled
  | @cancelled timerId t =>
    refine periods.still ran rfl rfl rfl ?_ fun _ => noted
    intro a u live
    exact .inl ((free_heap (s := s.drop timerId.timer t) (t := t)).mp live).2
  | @noted timerId =>
    refine periods.still ran rfl rfl rfl (fun _ _ live => .inl live) ?_
    intro id mem
    rcases SortedSet.mem_insert.mp mem with rfl | old
    · exact List.mem_append_right _ (List.mem_cons_self ..)
    · exact noted old
  | ignored => exact periods.still ran rfl rfl rfl (fun _ _ live => .inl live) fun _ => noted
  | handled outside => exact periods.handled ran outside
  | ran handling next live expiration =>
    exact periods.ran consistent handling next live expiration
  | @reset b clock r handling =>
    obtain ⟨b', handling', -, eq⟩ := step_reset moved
    rw [eq]
    exact periods.reset consistent handling' fit

theorem Periods.onTime {a : Act} (periods : s.Periods) (consistent : s.Consistent)
    (after : s'.Consistent) (fit : s.RestartsFit a) (moved : s.step a = some s') :
    OnTime s a s' := by
  have move := step_cases consistent moved
  cases move with
  | handled =>
    exact ⟨_, rfl, rfl, fun e => mem_expired consistent.numbered consistent.kept,
      fun e => mem_left consistent.numbered consistent.kept⟩
  | @ran b e rest t handling next live expiration =>
    have due : e.expiration ≤ b.now := by
      refine (consistent.due b handling e ?_).1
      rw [Batch.expired, next]
      exact List.mem_append_right _ (List.mem_cons_self ..)
    refine ⟨_, t, rfl, live, rfl, expiration ▸ due, ?_⟩
    intro earlier mem sequence
    obtain ⟨batch, later⟩ := periods.next consistent handling next live earlier mem sequence
    refine ⟨batch, ?_⟩
    dsimp only
    omega
  | @reset b clock r handling done =>
    obtain ⟨b', handling', -, eq⟩ := step_reset moved
    obtain rfl : b = b' := Option.some.inj (handling.symm.trans handling')
    rw [eq] at after ⊢
    obtain ⟨-, taken⟩ := consistent.reset_heap handling clock
    refine ⟨b, handling, ?_, ?_⟩
    · rw [periods.called b handling, Batch.expired, done, List.append_nil]
    · intro e mem
      obtain ⟨-, t, live, -⟩ := consistent.due b handling e mem
      have left := taken e mem t live
      refine ⟨t, live, ?_, ?_⟩
      · intro repeats kept
        have unnoted : (⟨e.timer, t.sequence⟩ : ActiveTimer) ∉ s.cancelingTimers := fun noted =>
          kept (periods.cancelled _ noted)
        have fits : t.Fits b.now := fit b handling e mem t live repeats unnoted
        have stays : again b.now s.cancelingTimers e.timer t =
            some { t with expiration := b.now + t.interval } := by
          rw [again, if_pos ⟨repeats, unnoted⟩, fits.restart repeats]
        rw [stays] at left
        exact ⟨left, consistent.back_in after handling mem left⟩
      · intro oneShot
        rw [left, again, if_neg (by simp [oneShot])]
  | _ => trivial

/-- In every run where no restart overflows a batch is all the timers that are due, calls each of
them once and sets the ones that repeat for an interval after its `now`, so that no timer is called
twice in a batch or before its interval is over. -/
theorem eachStep_onTime {numCreated : Nat} {as : List Act}
    (fit : EachStep step (fun s a _ => s.RestartsFit a) (new numCreated) as) :
    EachStep step OnTime (new numCreated) as := by
  have keeps (s : TimerQueue) (a : Act) (s' : TimerQueue)
      (kept : s.Consistent ∧ s.Ran ∧ s.Periods) (here : s.RestartsFit a)
      (moved : s.step a = some s') : (s'.Consistent ∧ s'.Ran ∧ s'.Periods) ∧ OnTime s a s' := by
    obtain ⟨consistent, ran, periods⟩ := kept
    have move := step_cases consistent moved
    have after := consistent.move move
    exact ⟨⟨after, ran.move consistent move, periods.move consistent ran here moved⟩,
      periods.onTime consistent after here moved⟩
  exact EachStep.of_invariant keeps
    ⟨consistent_new numCreated, ran_new numCreated, periods_new numCreated⟩ fit

/-- A timer that repeats and one that does not, in two batches; the first is cancelled in the
second one. -/
def calledTwice : List Act :=
  [.addTimer 1 100 50 true, .addTimer 2 110 0 false, .addTimerInLoop 1 10, .addTimerInLoop 2 10,
    .handleRead 120, .run, .run, .reset 130, .handleRead 170, .run, .cancelInLoop ⟨1, 1⟩,
    .reset 175]

theorem eachStep_onTime_calledTwice : EachStep step OnTime (new 0) calledTwice :=
  eachStep_onTime (by decide)

end TimerQueue
end NewFramework.Net
