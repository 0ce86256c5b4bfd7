import NewFramework.Net.TimerConsistency

/-!
# The timerfd is armed

In `muduo/net/TimerQueue.cc`, `insert` tells when its timer is the earliest, and `reset` arms for
the earliest one that is left.  In a batch the timerfd is not armed for the timers that were left
by `getExpired`, for `reset` comes to them; but `reset` passes over an earliest expiration that is
not `valid()`, and such a timer was added in the batch, by an `addTimerInLoop` that did arm.

An interval so long that `restart` overflows makes such an expiration too, and then nothing is
armed; and `howMuchTimeFromNow` takes an expiration so early that the difference overflows for one
that is far away.
-/

namespace NewFramework.Net
open NewFramework.Lib

namespace TimerQueue

variable {s s' : TimerQueue}

/-- The timerfd is armed early enough for this expiration. -/
def ArmedFor (s : TimerQueue) (expiration : Int) : Prop :=
  ∃ deadline ∈ s.timerfd, deadline ≤ max expiration (s.armedAt + 100)

/-- Where control is with the loop, the timerfd is armed early enough for the earliest timer. -/
def Armed (s : TimerQueue) : Prop :=
  s.handling = none → ∀ e ∈ s.timers.begin?, s.ArmedFor e.expiration

instance : DecidablePred Armed := fun s => by
  unfold Armed ArmedFor
  infer_instance

/-- What the wall clock says is past the epoch, and an `int64_t`. -/
def Act.AfterEpoch : Act → Prop
  | .addTimerInLoop _ now | .handleRead now | .reset now => 0 < now ∧ now < 2 ^ 63
  | _ => True

instance : DecidablePred Act.AfterEpoch
  | .addTimerInLoop _ now | .handleRead now | .reset now =>
    inferInstanceAs (Decidable (0 < now ∧ now < 2 ^ 63))
  | .addTimer .. | .cancelInLoop _ | .run => isTrue trivial

/-- The difference that `howMuchTimeFromNow` takes for a timer that is added does not overflow. -/
def DifferenceFits (s : TimerQueue) : Act → Prop
  | .addTimerInLoop timer now => ∀ t ∈ s.heap timer, s.earliestChanged t = true →
    -2 ^ 63 ≤ t.expiration - now
  | _ => True

instance (s : TimerQueue) : DecidablePred s.DifferenceFits
  | .addTimerInLoop timer now => inferInstanceAs (Decidable (∀ t ∈ s.heap timer,
      s.earliestChanged t = true → -2 ^ 63 ≤ t.expiration - now))
  | .addTimer .. | .cancelInLoop _ | .handleRead _ | .run | .reset _ => isTrue trivial

/-- The kernel counts from the reading of the clock. -/
theorem resetTimerfd_timerfd {expiration now : Int} (low : -2 ^ 63 ≤ expiration - now)
    (s : TimerQueue) : ∃ deadline, (s.resetTimerfd expiration now).timerfd = some deadline ∧
      deadline ≤ max expiration (now + 100) := by
  have le := wrap64_le low
  refine ⟨_, rfl, ?_⟩
  simp only [howMuchTimeFromNow]
  split <;> omega

theorem armedFor_reset {expiration now : Int} (low : -2 ^ 63 ≤ expiration - now)
    (s : TimerQueue) : (s.resetTimerfd expiration now).ArmedFor expiration :=
  resetTimerfd_timerfd low s

theorem ArmedFor.mono {expiration later : Int} (armed : s.ArmedFor expiration)
    (le : expiration ≤ later) : s.ArmedFor later := by
  obtain ⟨deadline, set, early⟩ := armed
  exact ⟨deadline, set, by omega⟩

/-- What is kept for the timerfd. -/
structure Arms (s : TimerQueue) : Prop where
  epoch : ∀ b ∈ s.handling, 0 < b.now
  /-- in a batch, for the timers that `reset` passes over -/
  armed : ∀ e ∈ s.timers.begin?, s.handling = none ∨ e.expiration ≤ 0 → s.ArmedFor e.expiration

theorem arms_new (numCreated : Nat) : (new numCreated).Arms := ⟨nofun, nofun⟩

/-- The earliest expiration gets no later by an insertion. -/
theorem earliest_first {timer : Nat} {t : Timer} (earliest : s.earliestChanged t = true) :
    (s.put timer t).timers.begin? = some ⟨t.expiration, timer⟩ := by
  apply SortedSet.begin?_eq_some (SortedSet.mem_insert.mpr (.inl rfl))
  intro e mem
  rcases SortedSet.mem_insert.mp mem with rfl | mem
  · exact le_refl _
  · cases first : s.timers.begin? with
    | none => exact absurd mem (SortedSet.begin?_eq_none.mp first e)
    | some d =>
      simp only [earliestChanged, first, decide_eq_true_eq] at earliest
      have lt : (⟨t.expiration, timer⟩ : Entry) < d := Entry.lt_iff.mpr (.inl earliest)
      exact (lt.trans_le (SortedSet.begin?_le first mem)).le

/-- An entry that is not later is in the set before. -/
theorem later_first {timer : Nat} {t : Timer} (later : s.earliestChanged t = false) {e : Entry}
    (first : e ∈ (s.put timer t).timers.begin?) :
    ∃ d ∈ s.timers.begin?, d.expiration ≤ e.expiration := by
  cases old : s.timers.begin? with
  | none => simp [earliestChanged, old] at later
  | some d =>
    refine ⟨d, rfl, ?_⟩
    simp only [earliestChanged, old, decide_eq_false_iff_not, not_lt] at later
    rcases SortedSet.mem_insert.mp (SortedSet.begin?_mem first) with rfl | mem
    · exact later
    · exact Entry.expiration_le (SortedSet.begin?_le old mem)

/-- What is left of a set begins no earlier. -/
theorem Arms.sub {r : TimerQueue} (arms : s.Arms) (sub : ∀ e ∈ r.timers, e ∈ s.timers)
    (handling : r.handling = s.handling) (timerfd : r.timerfd = s.timerfd)
    (armedAt : r.armedAt = s.armedAt) : r.Arms where
  epoch b mem := arms.epoch b (handling ▸ mem)
  armed e first counts := by
    rw [handling] at counts
    have mem := sub e (SortedSet.begin?_mem first)
    cases old : s.timers.begin? with
    | none => exact absurd mem (SortedSet.begin?_eq_none.mp old e)
    | some d =>
      have le := Entry.expiration_le (SortedSet.begin?_le old mem)
      have armed := (arms.armed d old (counts.imp id le.trans)).mono le
      unfold ArmedFor at armed ⊢
      rwa [timerfd, armedAt]

theorem Arms.move {a : Act} (arms : s.Arms) (consistent : s.Consistent)
    (epoch : a.AfterEpoch) (difference : s.DifferenceFits a) (restarts : s.RestartsFit a)
    (move : Move s a s') : s'.Arms := by
  cases move with
  | made => exact { arms with }
  | @armed timer t now arriving live earliest =>
    refine ⟨arms.epoch, ?_⟩
    intro e first _
    have here : (s.put timer t).timers.begin? = some e := first
    rw [earliest_first earliest] at here
    obtain rfl := Option.some.inj here
    exact armedFor_reset (difference t live earliest) (s.put timer t)
  | @added timer t now arriving live later =>
    refine ⟨arms.epoch, ?_⟩
    intro e first counts
    obtain ⟨d, old, le⟩ := later_first later first
    exact (arms.armed d old (counts.imp id le.trans)).mono le
  | cancelled =>
    exact arms.sub (fun e mem => (SortedSet.mem_erase.mp mem).2) rfl rfl rfl
  | noted => exact { arms with }
  | ignored => exact { arms with }
  | @handled now active outside kept =>
    refine ⟨?_, ?_⟩
    · rintro b ⟨⟩
      exact epoch.1
    · intro e first counts
      -- the timers that are left expire after `now`
      have left := ((mem_left consistent.numbered consistent.kept).mp
        (SortedSet.begin?_mem first)).2
      have now_pos : 0 < now := epoch.1
      rcases counts with none_handled | past
      · contradiction
      · omega
  | @ran b e rest t handling =>
    refine ⟨?_, ?_⟩
    · rintro b' ⟨⟩
      exact arms.epoch b handling
    · intro d first counts
      exact arms.armed d first (.inr (counts.resolve_left nofun))
  | @reset b clock r handling done resets =>
    have ended : r.handling = none := by rw [resets.frame]
    rw [resets.kept.rearm]
    cases first : r.timers.begin? with
    | none => exact ⟨by simp [ended], by simp [first]⟩
    | some e =>
      dsimp only
      split
      · next valid =>
        refine ⟨by simp [resetTimerfd, ended], ?_⟩
        intro d here _
        obtain rfl : e = d := Option.some.inj (first.symm.trans here)
        have clock_lt : clock < 2 ^ 63 := epoch.2
        exact armedFor_reset (by omega) r
      · next past =>
        -- the earliest timer is none that `reset` restarted
        refine ⟨by simp [ended], ?_⟩
        intro d here _
        obtain rfl : e = d := Option.some.inj (first.symm.trans here)
        have old : e ∈ s.timers := by
          by_contra fresh
          have := resets.later handling restarts (SortedSet.begin?_mem first) fresh
          have := arms.epoch b handling
          omega
        have least : s.timers.begin? = some e := SortedSet.begin?_eq_some old fun d mem =>
          SortedSet.begin?_le first (resets.old d mem)
        have armed := arms.armed e least (.inr (not_lt.mp past))
        unfold ArmedFor at armed ⊢
        rw [resets.frame]
        exact armed

theorem Arms.armed_outside (arms : s.Arms) : s.Armed :=
  fun outside e first => arms.armed e first (.inl outside)

/-- The times that a step computes are those of `int64_t`. -/
def Fits (s : TimerQueue) (a : Act) : Prop :=
  a.AfterEpoch ∧ s.DifferenceFits a ∧ s.RestartsFit a

instance (s : TimerQueue) : DecidablePred s.Fits := fun _ =>
  inferInstanceAs (Decidable (_ ∧ _ ∧ _))

/-- Where no time overflows, no timer is forgotten. -/
theorem always_armed {numCreated : Nat} {as : List Act}
    (fits : EachStep step (fun s a _ => s.Fits a) (new numCreated) as) :
    Always step Armed (new numCreated) as := by
  have keeps (s : TimerQueue) (a : Act) (s' : TimerQueue) (kept : s.Consistent ∧ s.Arms)
      (here : s.Fits a) (moved : s.step a = some s') : s'.Consistent ∧ s'.Arms := by
    have move := step_cases kept.1 moved
    obtain ⟨epoch, difference, restarts⟩ := here
    exact ⟨kept.1.move move, kept.2.move kept.1 epoch difference restarts move⟩
  exact Always.of_invariant keeps (fun s kept => kept.2.armed_outside)
    ⟨consistent_new numCreated, arms_new numCreated⟩ fits

/-- In the callback of the timer of a batch, one is added that should have expired long ago, and
the next timer is cancelled. -/
def addedInBatch : List Act :=
  [.addTimer 1 100 50 true, .addTimer 2 200 0 false, .addTimerInLoop 1 10, .addTimerInLoop 2 10,
    .handleRead 120, .run, .addTimer 3 (-5) 0 false, .addTimerInLoop 3 130, .cancelInLoop ⟨2, 2⟩,
    .reset 140, .handleRead 240, .run, .run, .reset 250]

theorem always_armed_addedInBatch : Always step Armed (new 0) addedInBatch :=
  always_armed (by decide)

/-- `runEvery(9.2231e12, cb)` in November 2023, and then a timer for a second later: the expiration
of the first one is an overflow, for which the timerfd is armed 292 thousand years ahead, and the
second one is not the earliest. -/
def runEveryForever : List Act :=
  [.addTimer 1 (addTime 1700000000000000 9223100000000000000) 9223100000000000000 true,
    .addTimerInLoop 1 1700000000000000, .addTimer 2 (addTime 1700000000000000 1000000) 0 false,
    .addTimerInLoop 2 1700000000000000]

theorem not_armed_runEveryForever : ¬ Always step Armed (new 0) runEveryForever := by
  decide

end TimerQueue
end NewFramework.Net
