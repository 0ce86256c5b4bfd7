import NewFramework.Net.TimerSets

/-!
# Runs of the timer queue

What every operation of `muduo/net/TimerQueue.cc` keeps: the sets stay consistent and no assertion
fails; a batch is a sorted list of timers that are due; and a callback that has run will not run
again, unless its timer repeats.
-/

namespace NewFramework.Net
open NewFramework.Lib

namespace TimerQueue

variable {s s' : TimerQueue}

/-- The batch that `handleRead` is in. -/
def batch (s : TimerQueue) : List Entry := s.handling.elim [] Batch.expired

/-- What is kept for the sets. -/
structure Consistent (s : TimerQueue) : Prop where
  kept : s.Kept (s.arriving ++ s.batch.map Entry.timer)
  numbered : s.Numbered
  sound : s.failed = false
  calling : s.callingExpiredTimers = s.handling.isSome
  due : ∀ b ∈ s.handling, ∀ e ∈ b.expired, e.expiration ≤ b.now ∧
    ∃ t, s.heap e.timer = some t ∧ t.expiration = e.expiration
  sorted : ∀ b ∈ s.handling, b.expired.Pairwise (· < ·)

theorem consistent_new (numCreated : Nat) : (new numCreated).Consistent where
  kept := ⟨fun _ mem => (SortedSet.not_mem_empty _ mem).elim,
    fun _ mem => (SortedSet.not_mem_empty _ mem).elim, nofun, .nil, nofun⟩
  numbered := ⟨nofun, nofun, nofun, nofun, .nil⟩
  sound := rfl
  calling := rfl
  due := nofun
  sorted := nofun

/-! ## Steps by cases -/

/-- The end of `reset` finds the earliest timer alive. -/
theorem Kept.rearm {loose : List Nat} (kept : s.Kept loose) (clock : Int) :
    s.rearm clock =
      match s.timers.begin? with
      | none => s
      | some e => if 0 < e.expiration then s.resetTimerfd e.expiration clock else s := by
  unfold TimerQueue.rearm
  cases first : s.timers.begin? with
  | none => rfl
  | some e =>
    obtain ⟨t, live, expiration, -⟩ := kept.keyed e (SortedSet.begin?_mem first)
    simp only [deref_some live, expiration]

/-- What a step does to consistent sets, by cases. -/
inductive Move (s : TimerQueue) : Act → TimerQueue → Prop
  | made {timer : Nat} {expiration interval : Int} {repeats : Bool}
      (free : s.heap timer = none) (address : timer < uintptrMax) :
    Move s (.addTimer timer expiration interval repeats)
      (s.addTimer timer expiration interval repeats)
  | armed {timer : Nat} {t : Timer} {now : Int} (arriving : timer ∈ s.arriving)
      (live : s.heap timer = some t) (earliest : s.earliestChanged t = true) :
    Move s (.addTimerInLoop timer now) { (s.put timer t).resetTimerfd t.expiration now with
      arriving := s.arriving.erase timer }
  | added {timer : Nat} {t : Timer} {now : Int} (arriving : timer ∈ s.arriving)
      (live : s.heap timer = some t) (later : s.earliestChanged t = false) :
    Move s (.addTimerInLoop timer now) { s.put timer t with arriving := s.arriving.erase timer }
  | cancelled {timerId : TimerId} {t : Timer} (active : timerId ∈ s.activeTimers)
      (live : s.heap timerId.timer = some t) (sequence : t.sequence = timerId.sequence)
      (there : (⟨t.expiration, timerId.timer⟩ : Entry) ∈ s.timers) :
    Move s (.cancelInLoop timerId) { (s.drop timerId.timer t).free timerId.timer t with
      cancelled := s.cancelled ++ [timerId] }
  | noted {timerId : TimerId} (inactive : timerId ∉ s.activeTimers)
      (calling : s.handling.isSome) :
    Move s (.cancelInLoop timerId) { s with
      cancelingTimers := s.cancelingTimers.insert timerId
      cancelled := s.cancelled ++ [timerId] }
  | ignored {timerId : TimerId} (inactive : timerId ∉ s.activeTimers)
      (outside : s.handling = none) :
    Move s (.cancelInLoop timerId) { s with cancelled := s.cancelled ++ [timerId] }
  | handled {now : Int} {active : SortedSet ActiveTimer} (outside : s.handling = none)
      (kept : ({ s with
        timers := s.timers.eraseBelow ⟨now, uintptrMax⟩
        activeTimers := active } : TimerQueue).Kept
          (s.arriving ++ (s.expired now).map Entry.timer)) :
    Move s (.handleRead now) { s with
      timers := s.timers.eraseBelow ⟨now, uintptrMax⟩
      activeTimers := active
      timerfd := s.timerfd.filter fun deadline => now < deadline
      callingExpiredTimers := true
      cancelingTimers := .empty
      handling := some ⟨now, [], s.expired now, false⟩
      batches := s.batches + 1 }
  | ran {b : Batch} {e : Entry} {rest : List Entry} {t : Timer} (handling : s.handling = some b)
      (next : b.rest = e :: rest) (live : s.heap e.timer = some t)
      (expiration : t.expiration = e.expiration) :
    Move s .run { s with
      handling := some { b with called := b.called ++ [e], rest := rest, running := true }
      runs := s.runs ++ [⟨⟨e.timer, t.sequence⟩, t.expiration, t.repeats, b.now, s.batches⟩] }
  | reset {b : Batch} {clock : Int} {r : TimerQueue} (handling : s.handling = some b)
      (done : b.rest = [])
      (resets : Resets b.now b.expired s.arriving
        { s with callingExpiredTimers := false, handling := none } r) :
    Move s (.reset clock) (r.rearm clock)

theorem Consistent.kept_arriving {timer : Nat} (consistent : s.Consistent)
    (arriving : timer ∈ s.arriving) :
    s.Kept (timer :: (s.arriving.erase timer ++ s.batch.map Entry.timer)) :=
  consistent.kept.perm ((List.perm_cons_erase arriving).append_right _)

/-- A batch that has ended leaves its timers loose. -/
theorem Consistent.kept_batch {b : Batch} (consistent : s.Consistent)
    (handling : s.handling = some b) :
    s.Kept (b.expired.map Entry.timer ++ s.arriving) := by
  have kept := consistent.kept
  rw [batch, handling] at kept
  exact kept.perm List.perm_append_comm

theorem step_cases {a : Act} (consistent : s.Consistent) (moved : s.step a = some s') :
    Move s a s' := by
  cases a with
  | addTimer timer expiration interval repeats =>
    obtain ⟨⟨free, address⟩, rfl⟩ := some_of_guard moved
    exact .made free address
  | addTimerInLoop timer now =>
    obtain ⟨⟨arriving, -⟩, rfl⟩ := some_of_guard moved
    have kept := consistent.kept_arriving arriving
    obtain ⟨t, live, -⟩ := kept.absent timer (List.mem_cons_self ..)
    have inserted := kept.insert live
    cases earliest : s.earliestChanged t with
    | true =>
      have eq : s.addTimerInLoop timer now = (s.put timer t).resetTimerfd t.expiration now := by
        rw [TimerQueue.addTimerInLoop, deref_some live]
        simp only [earliest, inserted, if_true]
      rw [eq]
      exact .armed arriving live earliest
    | false =>
      have eq : s.addTimerInLoop timer now = s.put timer t := by
        rw [TimerQueue.addTimerInLoop, deref_some live]
        simp only [earliest, inserted, Bool.false_eq_true, if_false]
      rw [eq]
      exact .added arriving live earliest
  | cancelInLoop timerId =>
    obtain ⟨-, rfl⟩ := some_of_guard moved
    by_cases active : timerId ∈ s.activeTimers
    · obtain ⟨t, live, sequence, there⟩ := consistent.kept.listed timerId active
      rw [consistent.kept.cancel_active active live sequence there]
      exact .cancelled active live sequence there
    · rw [consistent.kept.cancel_inactive active]
      by_cases calling : s.handling.isSome
      · rw [if_pos (consistent.calling.trans calling)]
        exact .noted active calling
      · rw [if_neg (by rwa [consistent.calling])]
        exact .ignored active (Option.not_isSome_iff_eq_none.mp calling)
  | handleRead now =>
    obtain ⟨outside, rfl⟩ := some_of_guard moved
    have outside : s.handling = none := Option.isNone_iff_eq_none.mp outside
    have kept : s.Kept s.arriving := by
      have kept := consistent.kept
      rw [batch, outside] at kept
      exact (List.append_nil s.arriving) ▸ kept
    have kept' : (s.readTimerfd now).Kept s.arriving := { kept with }
    obtain ⟨active, eq, kept''⟩ :=
      kept'.getExpired (s := s.readTimerfd now) { consistent.numbered with } now
    rw [eq] at kept''
    have result : Move s (.handleRead now) _ := .handled outside { kept'' with }
    rw [TimerQueue.handleRead, eq]
    exact result
  | run =>
    simp only [step] at moved
    split at moved
    · next b handling =>
      split at moved
      · next e rest next =>
        obtain rfl := Option.some.inj moved
        have mem : e ∈ b.expired := by
          rw [Batch.expired, next]
          exact List.mem_append_right _ (List.mem_cons_self ..)
        obtain ⟨-, t, live, expiration⟩ := consistent.due b handling e mem
        rw [TimerQueue.run, deref_some live]
        exact .ran handling next live expiration
      · contradiction
    · contradiction
  | reset clock =>
    simp only [step] at moved
    split at moved
    · next b handling =>
      obtain ⟨done, rfl⟩ := some_of_guard moved
      refine .reset handling done ?_
      exact Kept.foldl_resetTimer b.now b.expired _ { consistent.numbered with }
        { consistent.kept_batch handling with }
    · contradiction

/-! ## The sets along a run -/

theorem addTimer_heap {timer : Nat} {expiration interval : Int} {repeats : Bool} {a : Nat}
    {t : Timer} (live : (s.addTimer timer expiration interval repeats).heap a = some t) :
    a = timer ∧ t.sequence = s.numCreated + 1 ∨ a ≠ timer ∧ s.heap a = some t := by
  by_cases same : a = timer
  · subst same
    refine .inl ⟨rfl, ?_⟩
    have here :
        Function.update s.heap a (some ⟨expiration, interval, repeats, s.numCreated + 1⟩) a =
          some t := live
    rw [Function.update_self] at here
    obtain rfl := Option.some.inj here
    rfl
  · exact .inr ⟨same, (Function.update_of_ne same ..).symm.trans live⟩

theorem Numbered.addTimer (numbered : s.Numbered) {timer : Nat}
    (expiration interval : Int) (repeats : Bool) (address : timer < uintptrMax) :
    (s.addTimer timer expiration interval repeats).Numbered where
  address a t live := by
    rcases addTimer_heap live with ⟨rfl, -⟩ | ⟨-, live⟩
    · exact address
    · exact numbered.address a t live
  le a t live := by
    rcases addTimer_heap live with ⟨-, sequence⟩ | ⟨-, live⟩
    · exact Nat.le_of_eq sequence
    · exact Nat.le_succ_of_le (numbered.le a t live)
  unique a t b u live live' same := by
    rcases addTimer_heap live with ⟨rfl, sequence⟩ | ⟨-, old⟩
    · rcases addTimer_heap live' with ⟨rfl, -⟩ | ⟨-, old'⟩
      · rfl
      · have := numbered.le b u old'
        omega
    · rcases addTimer_heap live' with ⟨rfl, sequence⟩ | ⟨-, old'⟩
      · have := numbered.le a t old
        omega
      · exact numbered.unique a t b u old old' same
  gone q mem := by
    obtain ⟨le, gone⟩ := numbered.gone q mem
    refine ⟨Nat.le_succ_of_le le, ?_⟩
    intro a t live
    rcases addTimer_heap live with ⟨-, sequence⟩ | ⟨-, live⟩
    · omega
    · exact gone a t live
  once := numbered.once

theorem Kept.addTimer {loose : List Nat} (kept : s.Kept loose) {timer : Nat}
    (expiration interval : Int) (repeats : Bool) (free : s.heap timer = none) :
    (s.addTimer timer expiration interval repeats).Kept (timer :: loose) := by
  have other {a : Nat} {t : Timer} (live : s.heap a = some t) : a ≠ timer := by
    rintro rfl
    rw [free] at live
    contradiction
  have old {a : Nat} {t : Timer} (live : s.heap a = some t) :
      (s.addTimer timer expiration interval repeats).heap a = some t :=
    (Function.update_of_ne (other live) ..).trans live
  have unlisted {e : Entry} (mem : e ∈ s.timers) : e.timer ≠ timer := by
    obtain ⟨t, live, -⟩ := kept.keyed e mem
    exact other live
  refine ⟨?_, ?_, ?_, ?_, ?_⟩
  · intro e mem
    obtain ⟨t, live, rest⟩ := kept.keyed e mem
    exact ⟨t, old live, rest⟩
  · intro p mem
    obtain ⟨t, live, rest⟩ := kept.listed p mem
    exact ⟨t, old live, rest⟩
  · intro a mem
    rcases List.mem_cons.mp mem with rfl | mem
    · exact ⟨_, Function.update_self .., fun there => unlisted there rfl⟩
    · obtain ⟨t, live, absent⟩ := kept.absent a mem
      exact ⟨t, old live, absent⟩
  · refine List.nodup_cons.mpr ⟨?_, kept.distinct⟩
    intro mem
    obtain ⟨t, live, -⟩ := kept.absent timer mem
    exact other live rfl
  · intro a t live
    rcases addTimer_heap live with ⟨rfl, -⟩ | ⟨-, live⟩
    · exact .inl (List.mem_cons_self ..)
    · exact (kept.covered a t live).imp (List.mem_cons_of_mem _) id

/-- `resetTimerfd` at the end of `reset` changes the timerfd only. -/
theorem Kept.rearm_frame {loose : List Nat} (kept : s.Kept loose) (clock : Int) :
    ∃ timerfd armedAt,
      s.rearm clock = { s with timerfd := timerfd, armedAt := armedAt } := by
  rw [kept.rearm]
  split
  · exact ⟨_, _, rfl⟩
  · split
    · exact ⟨_, _, rfl⟩
    · exact ⟨_, _, rfl⟩

/-- The timers of a batch are in neither set. -/
theorem Consistent.batch_loose (consistent : s.Consistent) {b : Batch} {e : Entry} {t : Timer}
    (handling : b ∈ s.handling) (mem : e ∈ b.expired) (live : s.heap e.timer = some t) :
    (⟨t.expiration, e.timer⟩ : Entry) ∉ s.timers := by
  have loose : e.timer ∈ s.arriving ++ s.batch.map Entry.timer := by
    rw [batch, Option.mem_def.mp handling]
    exact List.mem_append_right _ (List.mem_map_of_mem mem)
  obtain ⟨t', live', absent⟩ := consistent.kept.absent _ loose
  obtain rfl : t = t' := Option.some.inj (live.symm.trans live')
  exact absent

theorem Consistent.move {a : Act} (consistent : s.Consistent) (move : Move s a s') :
    s'.Consistent := by
  cases move with
  | @made timer expiration interval repeats free address =>
    have kept := consistent.kept.addTimer expiration interval repeats free
    refine { consistent with
      kept := kept
      numbered := consistent.numbered.addTimer expiration interval repeats address
      due := ?_ }
    intro b handling e mem
    obtain ⟨le, t, live, rest⟩ := consistent.due b handling e mem
    refine ⟨le, t, (Function.update_of_ne ?_ ..).trans live, rest⟩
    rintro rfl
    rw [free] at live
    contradiction
  | armed arriving live =>
    exact { consistent with
      kept := { (consistent.kept_arriving arriving).put live with }
      numbered := { consistent.numbered with } }
  | added arriving live =>
    exact { consistent with
      kept := { (consistent.kept_arriving arriving).put live with }
      numbered := { consistent.numbered with } }
  | @cancelled timerId t active live sequence there =>
    have dropped : (s.drop timerId.timer t).Numbered := { consistent.numbered with }
    refine { consistent with
      kept := { (consistent.kept.drop live there).free t with }
      numbered := { dropped.free live with }
      due := ?_ }
    intro b handling e mem
    obtain ⟨le, u, live', rest⟩ := consistent.due b handling e mem
    refine ⟨le, u, (free_heap (t := t)).mpr ⟨?_, live'⟩, rest⟩
    intro same
    apply consistent.batch_loose handling mem live'
    rw [same, live] at live'
    obtain rfl := Option.some.inj live'
    rw [same]
    exact there
  | noted =>
    exact { consistent with
      kept := { consistent.kept with }, numbered := { consistent.numbered with } }
  | ignored =>
    exact { consistent with
      kept := { consistent.kept with }, numbered := { consistent.numbered with } }
  | @handled now active outside kept =>
    have old : s.Kept (s.arriving ++ s.batch.map Entry.timer) := consistent.kept
    refine ⟨{ kept with }, { consistent.numbered with }, consistent.sound, rfl, ?_, ?_⟩
    · rintro b ⟨⟩ e mem
      obtain ⟨there, le⟩ := (mem_expired consistent.numbered old).mp mem
      obtain ⟨t, live, expiration, -⟩ := old.keyed e there
      exact ⟨le, t, live, expiration⟩
    · rintro b ⟨⟩
      exact SortedSet.below_sorted _ _
  | @ran b e rest t handling next live expiration =>
    have expired : (b.called ++ [e]) ++ rest = b.expired := by
      rw [Batch.expired, next, List.append_assoc]
      rfl
    have calling := consistent.calling
    rw [handling] at calling
    refine ⟨?_, { consistent.numbered with }, consistent.sound, calling, ?_, ?_⟩
    · have kept := consistent.kept
      rw [batch, handling] at kept
      show Kept _ (s.arriving ++ ((b.called ++ [e]) ++ rest).map Entry.timer)
      rw [expired]
      exact { kept with }
    · rintro b' ⟨⟩ d mem
      exact consistent.due b handling d (expired ▸ mem)
    · rintro b' ⟨⟩
      show ((b.called ++ [e]) ++ rest).Pairwise _
      rw [expired]
      exact consistent.sorted b handling
  | @reset b clock r handling done resets =>
    obtain ⟨timerfd, armedAt, eq⟩ := resets.kept.rearm_frame clock
    have arriving : r.arriving = s.arriving := by rw [resets.frame]
    have ended : r.handling = none := by rw [resets.frame]
    have sound : r.failed = s.failed := by rw [resets.frame]
    have calling : r.callingExpiredTimers = false := by rw [resets.frame]
    rw [eq]
    refine ⟨?_, { resets.numbered with }, sound.trans consistent.sound, ?_, ?_, ?_⟩
    · rw [batch]
      simp only [ended, arriving]
      rw [Option.elim_none, List.map_nil, List.append_nil]
      exact { resets.kept with }
    · simp only [calling, ended]
      rfl
    · intro b' mem
      rw [show _ = none from ended] at mem
      contradiction
    · intro b' mem
      rw [show _ = none from ended] at mem
      contradiction

/-! ## The restarts of a batch -/

/-- No time that `reset` computes for a timer that it restarts overflows. -/
def RestartsFit (s : TimerQueue) : Act → Prop
  | .reset _ => ∀ b ∈ s.handling, ∀ e ∈ b.expired, ∀ t ∈ s.heap e.timer, t.repeats = true →
    (⟨e.timer, t.sequence⟩ : ActiveTimer) ∉ s.cancelingTimers → t.Fits b.now
  | _ => True

instance (s : TimerQueue) : DecidablePred s.RestartsFit
  | .reset _ => inferInstanceAs (Decidable (∀ b ∈ s.handling, ∀ e ∈ b.expired,
      ∀ t ∈ s.heap e.timer, t.repeats = true →
        (⟨e.timer, t.sequence⟩ : ActiveTimer) ∉ s.cancelingTimers → t.Fits b.now))
  | .addTimer .. | .addTimerInLoop .. | .cancelInLoop _ | .handleRead _ | .run => isTrue trivial

/-- Where the restarts fit, an entry that `reset` makes is not before its `now`. -/
theorem Resets.later {b : Batch} {clock : Int} {loose : List Nat} {r : TimerQueue} {e : Entry}
    (resets : Resets b.now b.expired loose
      { s with callingExpiredTimers := false, handling := none } r)
    (handling : s.handling = some b) (fit : s.RestartsFit (.reset clock)) (mem : e ∈ r.timers)
    (fresh : e ∉ s.timers) : b.now ≤ e.expiration := by
  have here := (resets.new e mem).resolve_left fresh
  obtain ⟨t', live', expiration, -⟩ := resets.kept.keyed e mem
  rcases resets.heap e.timer t' live' with ⟨absent, -⟩ | ⟨t, live, repeats, kept, rfl⟩
  · exact absurd here absent
  · obtain ⟨d, there, same⟩ := List.mem_map.mp here
    have fits : t.Fits b.now := fit b handling d there t (same ▸ live) repeats (same ▸ kept)
    rw [fits.restart repeats] at expiration
    have := fits.1
    dsimp only at expiration
    omega

/-! ## The callbacks that were started -/

theorem Move.numCreated_le {a : Act} (move : Move s a s') : s.numCreated ≤ s'.numCreated := by
  cases move with
  | made => exact Nat.le_succ _
  | @reset b clock r handling done resets =>
    obtain ⟨timerfd, armedAt, eq⟩ := resets.kept.rearm_frame clock
    have same : r.numCreated = s.numCreated := by rw [resets.frame]
    rw [eq]
    exact Nat.le_of_eq same.symm
  | _ => exact Nat.le_refl _

/-- A timer after a step is one from before, or has a new number. -/
theorem Move.heap {a : Act} (move : Move s a s') {timer : Nat} {t' : Timer}
    (live : s'.heap timer = some t') :
    (∃ t, s.heap timer = some t ∧ t.sequence = t'.sequence ∧ t.repeats = t'.repeats) ∨
      t'.sequence = s.numCreated + 1 := by
  cases move with
  | made =>
    rcases addTimer_heap live with ⟨-, sequence⟩ | ⟨-, live⟩
    · exact .inr sequence
    · exact .inl ⟨t', live, rfl, rfl⟩
  | @cancelled timerId t =>
    have old := (free_heap (s := s.drop timerId.timer t) (t := t)).mp live
    exact .inl ⟨t', old.2, rfl, rfl⟩
  | @reset b clock r handling done resets =>
    obtain ⟨timerfd, armedAt, eq⟩ := resets.kept.rearm_frame clock
    rw [eq] at live
    rcases resets.heap timer t' live with ⟨-, old⟩ | ⟨t, old, -, -, rfl⟩
    · exact .inl ⟨t', old, rfl, rfl⟩
    · exact .inl ⟨t, old, (restart_sequence ..).symm, (restart_repeats ..).symm⟩
  | _ => exact .inl ⟨t', live, rfl, rfl⟩

/-- What is kept for the callbacks that were started. -/
structure Ran (s : TimerQueue) : Prop where
  due : ∀ r ∈ s.runs, r.expiration ≤ r.now
  ordered : s.runs.Pairwise fun r r' => r.batch = r'.batch → r.expiration ≤ r'.expiration
  past : ∀ r ∈ s.runs, r.batch ≤ s.batches
  ahead : ∀ b ∈ s.handling, ∀ r ∈ s.runs, r.batch = s.batches →
    ∀ e ∈ b.rest, r.expiration ≤ e.expiration
  numbered : ∀ r ∈ s.runs, r.timer.sequence ≤ s.numCreated
  same : ∀ r ∈ s.runs, ∀ a t, s.heap a = some t → t.sequence = r.timer.sequence →
    t.repeats = r.repeats
  /-- a one-shot timer is deleted when its batch ends -/
  spent : ∀ r ∈ s.runs, r.repeats = false → ∀ a t, s.heap a = some t →
    t.sequence = r.timer.sequence → ∃ b ∈ s.handling, a ∈ b.called.map Entry.timer
  once : ((s.runs.filter fun r => !r.repeats).map fun r => r.timer.sequence).Nodup

theorem ran_new (numCreated : Nat) : (new numCreated).Ran where
  due := nofun
  ordered := .nil
  past := nofun
  ahead := nofun
  numbered := nofun
  same := nofun
  spent := nofun
  once := .nil

/-- What a step that starts no callback keeps. -/
theorem Ran.still {a : Act} (ran : s.Ran) (move : Move s a s') (runs : s'.runs = s.runs)
    (batches : s.batches ≤ s'.batches)
    (ahead : ∀ b ∈ s'.handling, s'.batches = s.batches → ∃ b' ∈ s.handling, b'.rest = b.rest)
    (spent : ∀ r ∈ s.runs, r.repeats = false → ∀ a t, s.heap a = some t →
      t.sequence = r.timer.sequence → ∀ t', s'.heap a = some t' →
      ∃ b ∈ s'.handling, a ∈ b.called.map Entry.timer) : s'.Ran where
  due r mem := ran.due r (runs ▸ mem)
  ordered := runs ▸ ran.ordered
  past r mem := (ran.past r (runs ▸ mem)).trans batches
  ahead b handling r mem current e rest := by
    rw [runs] at mem
    have le := ran.past r mem
    have same : s'.batches = s.batches := Nat.le_antisymm (current ▸ le) batches
    obtain ⟨b', handling', eq⟩ := ahead b handling same
    exact ran.ahead b' handling' r mem (current.trans same) e (eq ▸ rest)
  numbered r mem := (ran.numbered r (runs ▸ mem)).trans move.numCreated_le
  same r mem a t' live sequence := by
    rw [runs] at mem
    rcases move.heap live with ⟨t, old, number, repeats⟩ | fresh
    · rw [← repeats]
      exact ran.same r mem a t old (number.trans sequence)
    · have := ran.numbered r mem
      omega
  spent r mem oneShot a t' live sequence := by
    rw [runs] at mem
    rcases move.heap live with ⟨t, old, number, -⟩ | fresh
    · exact spent r mem oneShot a t old (number.trans sequence) t' live
    · have := ran.numbered r mem
      omega
  once := runs ▸ ran.once

/-- A step that leaves the batch alone. -/
theorem Ran.same_batch {a : Act} (ran : s.Ran) (move : Move s a s') (runs : s'.runs = s.runs)
    (batches : s'.batches = s.batches) (handling : s'.handling = s.handling) : s'.Ran := by
  apply ran.still move runs (Nat.le_of_eq batches.symm)
  · intro b mem _
    exact ⟨b, handling ▸ mem, rfl⟩
  · intro r mem oneShot a t live sequence t' live'
    rw [handling]
    exact ran.spent r mem oneShot a t live sequence

/-- The next timer of a batch is none of those called in it. -/
theorem Consistent.next_uncalled (consistent : s.Consistent) {b : Batch} {e : Entry}
    {rest : List Entry} (handling : s.handling = some b) (next : b.rest = e :: rest) :
    e.timer ∉ b.called.map Entry.timer := by
  have distinct := (consistent.kept_batch handling).distinct
  rw [Batch.expired, next, List.map_append, List.map_cons] at distinct
  intro mem
  have apart := (List.nodup_append.mp (List.nodup_append.mp distinct).1).2.2
  exact apart _ mem _ (List.mem_cons_self ..) rfl

theorem Ran.move {a : Act} (consistent : s.Consistent) (ran : s.Ran) (move : Move s a s') :
    s'.Ran := by
  have moved := move
  cases move with
  | @handled now active outside kept =>
    apply ran.still moved rfl (Nat.le_succ _)
    · intro b _ same
      exact absurd same (Nat.succ_ne_self _)
    · intro r mem oneShot a t live sequence
      obtain ⟨b, handling, -⟩ := ran.spent r mem oneShot a t live sequence
      rw [outside] at handling
      contradiction
  | @ran b e rest t handling next live expiration =>
    have sorted := consistent.sorted b handling
    rw [Batch.expired, next] at sorted
    have later := (List.pairwise_cons.mp (List.pairwise_append.mp sorted).2.1).1
    have first : e ∈ b.rest := by
      rw [next]
      exact List.mem_cons_self ..
    have due : e.expiration ≤ b.now :=
      (consistent.due b handling e (List.mem_append_right _ first)).1
    refine ⟨?_, ?_, ?_, ?_, ?_, ?_, ?_, ?_⟩
    · intro r mem
      rcases List.mem_append.mp mem with old | new
      · exact ran.due r old
      · obtain rfl := List.mem_singleton.mp new
        exact expiration ▸ due
    · refine List.pairwise_append.mpr ⟨ran.ordered, List.pairwise_singleton .., ?_⟩
      intro r old r' new same
      obtain rfl := List.mem_singleton.mp new
      exact expiration ▸ ran.ahead b handling r old same e first
    · intro r mem
      rcases List.mem_append.mp mem with old | new
      · exact ran.past r old
      · obtain rfl := List.mem_singleton.mp new
        exact Nat.le_refl _
    · rintro b' ⟨⟩ r mem current d there
      rcases List.mem_append.mp mem with old | new
      · apply ran.ahead b handling r old current d
        rw [next]
        exact List.mem_cons_of_mem _ there
      · obtain rfl := List.mem_singleton.mp new
        exact expiration ▸ Entry.expiration_le (later d there).le
    · intro r mem
      rcases List.mem_append.mp mem with old | new
      · exact ran.numbered r old
      · obtain rfl := List.mem_singleton.mp new
        exact consistent.numbered.le e.timer t live
    · intro r mem
      rcases List.mem_append.mp mem with old | new
      · exact ran.same r old
      · obtain rfl := List.mem_singleton.mp new
        intro a u live' sequence
        obtain rfl := consistent.numbered.unique a u e.timer t live' live sequence
        rw [Option.some.inj (live'.symm.trans live)]
    · intro r mem oneShot a u live' sequence
      refine ⟨_, rfl, ?_⟩
      show a ∈ (b.called ++ [e]).map Entry.timer
      rw [List.map_append, List.mem_append]
      rcases List.mem_append.mp mem with old | new
      · obtain ⟨b', handling', called⟩ := ran.spent r old oneShot a u live' sequence
        obtain rfl : b = b' := Option.some.inj (handling.symm.trans handling')
        exact .inl called
      · obtain rfl := List.mem_singleton.mp new
        obtain rfl := consistent.numbered.unique a u e.timer t live' live sequence
        exact .inr (List.mem_singleton.mpr rfl)
    · rw [List.filter_append, List.map_append, List.nodup_append]
      refine ⟨ran.once, ?_, ?_⟩
      · exact (List.Nodup.sublist (List.filter_sublist.map _) (List.nodup_singleton _))
      · intro q old q' new same
        obtain ⟨r, mem, rfl⟩ := List.mem_map.mp old
        obtain ⟨r', mem', rfl⟩ := List.mem_map.mp new
        obtain ⟨mem, oneShot⟩ := List.mem_filter.mp mem
        obtain rfl := List.mem_singleton.mp (List.mem_filter.mp mem').1
        obtain ⟨b', handling', called⟩ :=
          ran.spent r mem (by simpa using oneShot) e.timer t live same.symm
        obtain rfl : b = b' := Option.some.inj (handling.symm.trans handling')
        exact consistent.next_uncalled handling next called
  | @reset b clock r handling done resets =>
    obtain ⟨timerfd, armedAt, eq⟩ := resets.kept.rearm_frame clock
    have ended : (r.rearm clock).handling = none := by rw [eq, resets.frame]
    refine ran.still moved (by rw [eq, resets.frame])
      (Nat.le_of_eq (by rw [eq, resets.frame])) ?_ ?_
    · intro b mem
      rw [ended] at mem
      contradiction
    · intro run mem oneShot a t live sequence t' live'
      -- the timer was called in this batch, and `reset` keeps only those that repeat
      obtain ⟨b', handling', called⟩ := ran.spent run mem oneShot a t live sequence
      obtain rfl : b = b' := Option.some.inj (handling.symm.trans handling')
      rw [eq] at live'
      rcases resets.heap a t' live' with ⟨absent, -⟩ | ⟨u, old, again, -, -⟩
      · refine absurd ?_ absent
        rw [Batch.expired, List.map_append]
        exact List.mem_append_left _ called
      · obtain rfl : t = u := Option.some.inj (live.symm.trans old)
        rw [ran.same run mem a t live sequence, oneShot] at again
        contradiction
  | _ => exact ran.same_batch moved rfl rfl rfl

/-! ## Consistency -/

/-- The timer sets are consistent, and so are the callbacks started so far. -/
structure TimersConsistent (s : TimerQueue) : Prop where
  same : ∀ p, p ∈ s.activeTimers ↔
    ∃ t, s.heap p.timer = some t ∧ t.sequence = p.sequence ∧ ⟨t.expiration, p.timer⟩ ∈ s.timers
  keyed : ∀ e ∈ s.timers, ∃ t, s.heap e.timer = some t ∧ t.expiration = e.expiration
  sizes : s.timers.size = s.activeTimers.size
  /-- no assertion failed and no deleted timer was used -/
  asserts : s.failed = false
  deleted_once : s.deleted.Nodup
  /-- between batches a timer in neither set is on its way to `addTimerInLoop` -/
  no_leak : s.handling = none → ∀ a t, s.heap a = some t →
    a ∈ s.arriving ∨ ⟨t.expiration, a⟩ ∈ s.timers
  oneShot : ((s.runs.filter fun r => !r.repeats).map fun r => r.timer.sequence).Nodup
  due : ∀ r ∈ s.runs, r.expiration ≤ r.now
  ordered : s.runs.Pairwise fun r r' => r.batch = r'.batch → r.expiration ≤ r'.expiration

theorem Consistent.timersConsistent (consistent : s.Consistent) (ran : s.Ran) :
    s.TimersConsistent where
  same p := by
    constructor
    · exact consistent.kept.listed p
    · rintro ⟨t, live, sequence, there⟩
      obtain ⟨u, live', -, active⟩ := consistent.kept.keyed _ there
      obtain rfl : t = u := Option.some.inj (live.symm.trans live')
      obtain ⟨a, q⟩ := p
      obtain rfl : t.sequence = q := sequence
      exact active
  keyed e mem := by
    obtain ⟨t, live, expiration, -⟩ := consistent.kept.keyed e mem
    exact ⟨t, live, expiration⟩
  sizes := consistent.kept.size_eq
  asserts := consistent.sound
  deleted_once := consistent.numbered.once
  no_leak outside a t live := by
    have covered := consistent.kept.covered a t live
    rwa [batch, outside, Option.elim_none, List.map_nil, List.append_nil] at covered
  oneShot := ran.once
  due := ran.due
  ordered := ran.ordered

theorem always_timersConsistent (numCreated : Nat) (as : List Act) :
    Always step TimersConsistent (new numCreated) as := by
  have keeps (s : TimerQueue) (a : Act) (s' : TimerQueue) (kept : s.Consistent ∧ s.Ran)
      (_ : True) (moved : s.step a = some s') : s'.Consistent ∧ s'.Ran := by
    have move := step_cases kept.1 moved
    exact ⟨kept.1.move move, kept.2.move kept.1 move⟩
  exact Always.of_invariant keeps (fun s kept => kept.1.timersConsistent kept.2)
    ⟨consistent_new numCreated, ran_new numCreated⟩ (EachStep.trivial _ as)

end TimerQueue
end NewFramework.Net
