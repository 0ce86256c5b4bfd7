import NewFramework.Base.CountDownLatch

/-!
# `Thread::start`

In `muduo/base/Thread.cc` the new thread writes its id into the `Thread` object and counts the latch
of the object down; from then on it lives by its own `ThreadData`.  `start` returns when the latch
lets it, and then the owner is free to join the thread or to destroy the object.
-/

namespace NewFramework.Base
open NewFramework.Lib

/-- Where the owner is. -/
inductive Thread.Owner where
  /-- in no function of the object -/
  | outside
  /-- in `start`, behind `pthread_create` -/
  | waits
  /-- in `start`, before its last `assert` -/
  | returns
  deriving DecidableEq

/-- Where the thread is that `pthread_create` made. -/
inductive Thread.Child where
  | absent
  /-- before `*tid_ = tid()` -/
  | publishes
  /-- in `latch_->countDown()` -/
  | counts
  /-- in what follows, `func_()` that is -/
  | runs
  | exited
  deriving DecidableEq

/-- It is done with the object. -/
@[simp] def Thread.Child.past : Thread.Child → Bool
  | .runs | .exited => true
  | _ => false

structure Thread where
  started : Bool
  joined : Bool
  /-- the destructor has not run -/
  alive : Bool
  tid : Nat
  /-- the owner is thread 0 of it, and the new thread is thread 1 -/
  latch : CountDownLatch
  owner : Thread.Owner
  child : Thread.Child

inductive Thread.Act where
  /-- `start` up to `pthread_create` and with it -/
  | start
  /-- a step of the owner in `latch_.wait()` -/
  | wait (act : LatchAct)
  /-- `assert(tid_ > 0)`, and `start` returns -/
  | returns
  /-- `*tid_ = tid()` -/
  | publish (tid : Nat)
  /-- a step of the new thread in `latch_->countDown()` -/
  | countDown (act : LatchAct)
  /-- `func_` returns -/
  | exit
  | join
  | destroy

namespace Thread.Act

/-- The step reads or writes the object. -/
def uses : Thread.Act → Bool
  | .exit => false
  | _ => true

/-- The step is one of `start` or of the new thread, which they take by themselves; no thread that
is blocked wakes up by itself. -/
def inside : Thread.Act → Bool
  | .wait act | .countDown act => act ≠ .wakeUp
  | .returns | .publish _ => true
  | _ => false

end Thread.Act

namespace Thread

def new : Thread where
  started := false
  joined := false
  alive := true
  tid := 0
  latch := .new 1 2
  owner := .outside
  child := .absent

def step (s : Thread) : Act → Option Thread
  | .start =>
    if s.owner = .outside ∧ s.alive ∧ ¬ s.started then
      some { s with started := true, owner := .waits, child := .publishes }
    else none
  | .wait act =>
    if s.owner = .waits ∧ act ≠ .callCountDown then
      (s.latch.step (0, act)).map fun latch =>
        { s with latch := latch, owner := if act = .unlock then .returns else .waits }
    else none
  | .returns => if s.owner = .returns then some { s with owner := .outside } else none
  -- the kernel gives positive ids
  | .publish tid =>
    if s.child = .publishes ∧ 0 < tid then some { s with tid := tid, child := .counts } else none
  | .countDown act =>
    if s.child = .counts ∧ act ≠ .callWait then
      (s.latch.step (1, act)).map fun latch =>
        { s with latch := latch, child := if act = .unlock then .runs else .counts }
    else none
  | .exit => if s.child = .runs then some { s with child := .exited } else none
  | .join =>
    if s.owner = .outside ∧ s.alive ∧ s.started ∧ ¬ s.joined ∧ s.child = .exited then
      some { s with joined := true }
    else none
  | .destroy =>
    if s.owner = .outside ∧ s.alive then some { s with alive := false } else none

/-- What the owner relies on. -/
structure Sound (s : Thread) : Prop where
  /-- `assert(tid_ > 0)` in `start` -/
  asserts : s.owner = .returns → 0 < s.tid
  /-- a started thread has its id -/
  tid : s.owner = .outside → s.started → 0 < s.tid
  /-- no one is in the latch when it is destroyed, nor will be -/
  free : s.owner = .outside → s.latch.holder = none ∧
    (∀ stage ∈ s.latch.threads, stage = .idle) ∧ (s.started → s.child.past)
  /-- `start` does not hang -/
  returns : s.owner ≠ .outside → ∃ act : Act, act.inside ∧ (s.step act).isSome

/-! ## The handshake -/

end Thread

namespace LatchStage

@[simp] def ofWait : LatchStage → Bool
  | .countEnters | .countDecrements | .countLeaves => false
  | _ => true

theorem ofWait_notified (stage : LatchStage) : stage.notified.ofWait = stage.ofWait := by
  cases stage <;> rfl

@[simp] def ofCountDown : LatchStage → Bool
  | .idle | .countEnters | .countDecrements | .countLeaves => true
  | _ => false

end LatchStage

namespace CountDownLatch

variable {s s' : CountDownLatch} {a b : LatchStage} {act : LatchAct}

theorem step_wait (threads : s.threads = [a, b]) (waits : a.ofWait)
    (apart : act ≠ .callCountDown) (moved : s.step (0, act) = some s') :
    ∃ a', s'.threads = [a', b] ∧ a'.ofWait ∧ s'.counted = s.counted ∧
      (act = .unlock → a = .waitLeaves ∧ a' = .idle) := by
  obtain ⟨stage, there, moved⟩ := step_thread moved
  rw [threads] at there
  obtain rfl := Option.some.inj there
  unfold stepThread at moved
  split at moved <;> simp only [LatchStage.ofWait, Bool.false_eq_true] at waits
  · obtain rfl := Option.some.inj moved
    exact ⟨_, by rw [move, threads]; rfl, rfl, rfl, by simp⟩
  · contradiction
  · obtain ⟨-, rfl⟩ := some_of_guard moved
    exact ⟨_, by rw [move, threads]; rfl, rfl, rfl, by simp⟩
  · split at moved <;> obtain rfl := Option.some.inj moved <;>
      exact ⟨_, by rw [move, threads]; rfl, rfl, rfl, by simp⟩
  · obtain rfl := Option.some.inj moved
    exact ⟨_, by rw [move, threads]; rfl, rfl, rfl, fun _ => ⟨rfl, rfl⟩⟩
  · obtain rfl := Option.some.inj moved
    exact ⟨_, by rw [move, threads]; rfl, rfl, rfl, by simp⟩
  · contradiction

theorem step_countDown (threads : s.threads = [a, b]) (counts : b.ofCountDown)
    (apart : act ≠ .callWait) (moved : s.step (1, act) = some s') :
    ∃ a' b', s'.threads = [a', b'] ∧ (a' = a ∨ a' = a.notified) ∧ b'.ofCountDown ∧
      (b = .countDecrements ∧ b' = .countLeaves ∧ act = .goOn ∧ s'.counted = s.counted + 1 ∨
        b = .countLeaves ∧ b' = .idle ∧ act = .unlock ∧ s'.counted = s.counted ∨
        b ≠ .countLeaves ∧ b' ≠ .countLeaves ∧ act ≠ .unlock ∧ s'.counted = s.counted) := by
  obtain ⟨stage, there, moved⟩ := step_thread moved
  rw [threads] at there
  obtain rfl := Option.some.inj there
  unfold stepThread at moved
  split at moved <;> simp only [LatchStage.ofCountDown, Bool.false_eq_true] at counts
  · contradiction
  · obtain rfl := Option.some.inj moved
    exact ⟨a, .countEnters, by rw [move, threads]; rfl, .inl rfl, rfl,
      .inr (.inr (by simp [move]))⟩
  · obtain ⟨-, rfl⟩ := some_of_guard moved
    exact ⟨a, .countDecrements, by rw [move, threads]; rfl, .inl rfl, rfl,
      .inr (.inr (by simp [move]))⟩
  · obtain rfl := Option.some.inj moved
    unfold decrement
    dsimp only
    split
    · refine ⟨a.notified, .countLeaves, ?_, .inr rfl, rfl, .inl ⟨rfl, rfl, rfl, rfl⟩⟩
      simp [notifyAll, move, threads]
    · refine ⟨a, .countLeaves, ?_, .inl rfl, rfl, .inl ⟨rfl, rfl, rfl, rfl⟩⟩
      simp [move, threads]
  · obtain rfl := Option.some.inj moved
    exact ⟨_, _, by rw [move, threads]; rfl, .inl rfl, rfl, .inr (.inl ⟨rfl, rfl, rfl, rfl⟩)⟩
  · contradiction

end CountDownLatch

namespace Thread

/-- The object, with its owner at `a` of the latch and the new thread at `b`. -/
structure Handshake (s : Thread) (a b : LatchStage) : Prop where
  latched : s.latch.Latched 1
  threads : s.latch.threads = [a, b]
  waits : a.ofWait
  counts : b.ofCountDown
  owner : s.owner ≠ .waits → a = .idle
  child : s.child ≠ .counts → b = .idle
  counted : 1 ≤ s.latch.counted ↔ s.child.past ∨ b = .countLeaves
  settled : s.owner ≠ .waits → s.started → s.child.past
  fresh : s.started = false → s.owner = .outside ∧ s.child = .absent
  tid : s.child = .counts ∨ s.child.past → 0 < s.tid
  created : s.started → s.child ≠ .absent
  alive : s.owner ≠ .outside → s.alive

variable {s s' : Thread} {a b : LatchStage}

theorem handshake_new : Handshake new .idle .idle where
  latched := CountDownLatch.latched_new 1 2
  threads := rfl
  waits := rfl
  counts := rfl
  owner _ := rfl
  child _ := rfl
  counted := by decide
  settled _ := nofun
  fresh _ := ⟨rfl, rfl⟩
  tid h := by simp [new] at h
  created := nofun
  alive := nofun

namespace Handshake

/-- `wait` returns behind the `unlock` of `countDown`. -/
theorem past_of_leaves (hand : Handshake s a b) (leaves : a = .waitLeaves) : s.child.past := by
  have at_a : s.latch.threads[0]? = some a := by rw [hand.threads]; rfl
  have at_b : s.latch.threads[1]? = some b := by rw [hand.threads]; rfl
  have released : 1 ≤ s.latch.counted := by
    have mem : LatchStage.waitLeaves ∈ s.latch.threads := by rw [hand.threads, leaves]; simp
    exact_mod_cast hand.latched.sound.released mem
  rcases hand.counted.mp released with past | inside
  · exact past
  · have same := hand.latched.exclusive at_a at_b (by rw [leaves]; rfl) (by rw [inside]; rfl)
    contradiction

/-- The latch is counted down once. -/
theorem fits (hand : Handshake s a b) (i : Nat) (act : LatchAct)
    (unpast : i = 1 → s.child.past = false) : s.latch.Fits (i, act) := by
  cases act with
  | goOn =>
    intro there
    rw [hand.threads] at there
    match i with
    | 0 =>
      obtain rfl := Option.some.inj there
      have waits := hand.waits
      contradiction
    | 1 =>
      obtain rfl := Option.some.inj there
      have none_counted : ¬ 1 ≤ s.latch.counted := by
        rw [hand.counted, unpast rfl]
        simp
      have counts := hand.latched.counts
      omega
    | i + 2 => contradiction
  | _ => trivial

theorem of_wait (hand : Handshake s a b) {act : LatchAct} (apart : act ≠ .callCountDown)
    (waits : s.owner = .waits) {latch : CountDownLatch}
    (moved : s.latch.step (0, act) = some latch) :
    ∃ a', Handshake { s with
      latch := latch, owner := if act = .unlock then .returns else .waits } a' b := by
  obtain ⟨a', threads, waits', same, leaves⟩ :=
    CountDownLatch.step_wait hand.threads hand.waits apart moved
  refine ⟨a', { hand with
    latched := hand.latched.step (hand.fits 0 act nofun) moved
    threads, waits := waits', owner := ?_, counted := ?_, settled := ?_, fresh := ?_, alive := ?_ }⟩
  · intro returns
    split at returns
    · next unlock => exact (leaves unlock).2
    · contradiction
  · rw [same]
    exact hand.counted
  · intro returns _
    split at returns
    · next unlock => exact hand.past_of_leaves (leaves unlock).1
    · contradiction
  · intro fresh
    have := (hand.fresh fresh).1
    rw [waits] at this
    contradiction
  · intro _
    exact hand.alive (by rw [waits]; nofun)

theorem of_countDown (hand : Handshake s a b) {act : LatchAct} (apart : act ≠ .callWait)
    (counts : s.child = .counts) {latch : CountDownLatch}
    (moved : s.latch.step (1, act) = some latch) :
    ∃ a' b', Handshake { s with
      latch := latch, child := if act = .unlock then .runs else .counts } a' b' := by
  obtain ⟨a', b', threads, woken, counts', how⟩ :=
    CountDownLatch.step_countDown hand.threads hand.counts apart moved
  have fits := hand.fits 1 act fun _ => by rw [counts]; rfl
  refine ⟨a', b', { hand with
    latched := hand.latched.step fits moved, threads, waits := ?_, counts := counts', owner := ?_,
    child := ?_, counted := ?_, settled := ?_, fresh := ?_, tid := ?_, created := ?_ }⟩
  · rcases woken with rfl | rfl
    · exact hand.waits
    · exact a.ofWait_notified.trans hand.waits
  · intro outside
    have idle := hand.owner outside
    rcases woken with rfl | rfl
    · exact idle
    · rw [idle]
      rfl
  · intro past
    split at past
    · next unlock =>
      rcases how with ⟨-, -, rfl, -⟩ | ⟨-, idle, -, -⟩ | ⟨-, -, other, -⟩
      · contradiction
      · exact idle
      · contradiction
    · contradiction
  · have before := hand.counted
    rcases how with ⟨-, rfl, rfl, more⟩ | ⟨rfl, rfl, rfl, same⟩ | ⟨other, other', stays, same⟩
    · exact iff_of_true (by dsimp only; omega) (.inr rfl)
    · exact iff_of_true (by dsimp only; rw [same]; exact before.mpr (.inr rfl)) (.inl rfl)
    · rw [if_neg stays]
      rw [counts] at before
      dsimp only
      rw [same, before]
      exact iff_of_false (not_or.mpr ⟨nofun, other⟩) (not_or.mpr ⟨nofun, other'⟩)
  · intro outside started
    have past := hand.settled outside started
    rw [counts] at past
    contradiction
  · intro fresh
    have := (hand.fresh fresh).2
    rw [counts] at this
    contradiction
  · exact fun _ => hand.tid (.inl counts)
  · intro _
    split <;> nofun

theorem step (hand : Handshake s a b) {act : Act} (moved : s.step act = some s') :
    ∃ a' b', Handshake s' a' b' := by
  cases act with
  | start =>
    obtain ⟨⟨outside, alive, fresh⟩, rfl⟩ := some_of_guard moved
    have nothing := (hand.fresh (by simpa using fresh)).2
    have idle := hand.owner (by rw [outside]; nofun)
    have idle' := hand.child (by rw [nothing]; nofun)
    refine ⟨a, b, { hand with
      owner := fun _ => idle, child := fun _ => idle', counted := ?_
      settled := fun h => absurd rfl h, fresh := nofun, tid := nofun, created := nofun
      alive := fun _ => alive }⟩
    rw [hand.counted, nothing]
    rfl
  | wait act =>
    obtain ⟨⟨waits, apart⟩, rest⟩ := Option.ite_none_right_eq_some.mp moved
    obtain ⟨latch, inner, rfl⟩ := Option.map_eq_some_iff.mp rest
    obtain ⟨a', hand'⟩ := hand.of_wait apart waits inner
    exact ⟨a', b, hand'⟩
  | returns =>
    obtain ⟨returns, rfl⟩ := some_of_guard moved
    have behind : s.owner ≠ .waits := by rw [returns]; nofun
    refine ⟨a, b, { hand with
      owner := fun _ => hand.owner behind, settled := fun _ => hand.settled behind, fresh := ?_,
      alive := fun h => absurd rfl h }⟩
    intro fresh
    have := (hand.fresh fresh).1
    rw [returns] at this
    contradiction
  | publish tid =>
    obtain ⟨⟨publishes, positive⟩, rfl⟩ := some_of_guard moved
    refine ⟨a, b, { hand with
      child := fun h => absurd rfl h, counted := ?_, settled := ?_, fresh := ?_,
      tid := fun _ => positive, created := nofun }⟩
    · rw [hand.counted, publishes]
      rfl
    · intro outside started
      have past := hand.settled outside started
      rw [publishes] at past
      contradiction
    · intro fresh
      have := (hand.fresh fresh).2
      rw [publishes] at this
      contradiction
  | countDown act =>
    obtain ⟨⟨counts, apart⟩, rest⟩ := Option.ite_none_right_eq_some.mp moved
    obtain ⟨latch, inner, rfl⟩ := Option.map_eq_some_iff.mp rest
    exact hand.of_countDown apart counts inner
  | exit =>
    obtain ⟨runs, rfl⟩ := some_of_guard moved
    refine ⟨a, b, { hand with
      child := fun _ => hand.child (by rw [runs]; nofun), counted := ?_, settled := fun _ _ => rfl,
      fresh := ?_, tid := fun _ => hand.tid (.inr (by rw [runs]; rfl)), created := nofun }⟩
    · rw [hand.counted, runs]
      rfl
    · intro fresh
      have := (hand.fresh fresh).2
      rw [runs] at this
      contradiction
  | join =>
    obtain ⟨-, rfl⟩ := some_of_guard moved
    exact ⟨a, b, { hand with }⟩
  | destroy =>
    obtain ⟨⟨outside, -⟩, rfl⟩ := some_of_guard moved
    exact ⟨a, b, { hand with alive := fun inside => absurd outside inside }⟩

theorem idle_counter (hand : Handshake s a b) (outside : s.owner = .outside) : b = .idle := by
  apply hand.child
  intro counts
  cases started : s.started with
  | false =>
    rw [(hand.fresh started).2] at counts
    contradiction
  | true =>
    have past := hand.settled (by rw [outside]; nofun) started
    rw [counts] at past
    contradiction

/-- In the latch, the owner or the new thread goes on. -/
theorem latch_moves (hand : Handshake s a b) (waits : s.owner = .waits) (calls : a ≠ .idle)
    (past : s.child ≠ .counts → s.child.past) (inside : s.child = .counts → b ≠ .idle) :
    ∃ act : Act, act.inside ∧ (s.step act).isSome := by
  have at_a : s.latch.threads[0]? = some a := by rw [hand.threads]; rfl
  have at_b : s.latch.threads[1]? = some b := by rw [hand.threads]; rfl
  have owner (act : LatchAct) (apart : act ≠ .callCountDown)
      (moves : (s.latch.step (0, act)).isSome) : (s.step (.wait act)).isSome := by
    simpa [Thread.step, waits, apart] using moves
  have counter (act : LatchAct) (apart : act ≠ .callWait) (own : b ≠ .idle)
      (moves : (s.latch.step (1, act)).isSome) : (s.step (.countDown act)).isSome := by
    have counts : s.child = .counts := by
      by_contra other
      exact own (hand.child other)
    simpa [Thread.step, counts, apart] using moves
  by_contra stuck
  have still (i : Nat) (act : LatchAct) (own : act = .lock ∨ act = .goOn ∨ act = .unlock) :
      s.latch.step (i, act) = none := by
    by_contra moves
    have moves := Option.isSome_iff_ne_none.mpr moves
    have awake : act ≠ .wakeUp := by rintro rfl; simp at own
    match i with
    | 0 =>
      have moves := owner act (by rintro rfl; simp at own) moves
      exact stuck ⟨.wait act, decide_eq_true awake, moves⟩
    | 1 =>
      by_cases idle : b = .idle
      · rcases own with rfl | rfl | rfl <;>
          simp [CountDownLatch.step, hand.threads, idle, CountDownLatch.stepThread] at moves
      · have moves := counter act (by rintro rfl; simp at own) idle moves
        exact stuck ⟨.countDown act, decide_eq_true awake, moves⟩
    | i + 2 => simp [CountDownLatch.step, hand.threads] at moves
  have quiet : s.latch.Quiet := fun i =>
    ⟨still i _ (.inl rfl), still i _ (.inr (.inl rfl)), still i _ (.inr (.inr rfl))⟩
  have blocked : a = .waitBlocked :=
    (hand.latched.idle_or_blocked quiet at_a).resolve_left calls
  have idle : b = .idle := by
    rcases hand.latched.idle_or_blocked quiet at_b with idle | blocked
    · exact idle
    · have counts := hand.counts
      rw [blocked] at counts
      contradiction
  have ended : 1 ≤ s.latch.counted :=
    hand.counted.mpr (.inl (past fun counts => inside counts idle))
  have mem : LatchStage.waitBlocked ∈ s.latch.threads := by rw [hand.threads, blocked]; simp
  exact hand.latched.sound.awake (by exact_mod_cast ended) mem

theorem moves (hand : Handshake s a b) (inside : s.owner ≠ .outside) :
    ∃ act : Act, act.inside ∧ (s.step act).isSome := by
  cases owner : s.owner with
  | outside => contradiction
  | returns => exact ⟨.returns, rfl, by simp [Thread.step, owner]⟩
  | waits =>
    by_cases call : a = .idle
    · refine ⟨.wait .callWait, rfl, ?_⟩
      simp [Thread.step, owner, CountDownLatch.step, hand.threads, call, CountDownLatch.stepThread]
    cases child : s.child with
    | absent =>
      cases started : s.started with
      | false => exact absurd (hand.fresh started).1 inside
      | true => exact absurd child (hand.created started)
    | publishes => exact ⟨.publish 1, rfl, by simp [Thread.step, child]⟩
    | counts =>
      by_cases idle : b = .idle
      · refine ⟨.countDown .callCountDown, rfl, ?_⟩
        simp [Thread.step, child, CountDownLatch.step, hand.threads, idle,
          CountDownLatch.stepThread]
      · exact hand.latch_moves owner call (fun h => absurd child h) fun _ => idle
    | runs =>
      exact hand.latch_moves owner call (fun _ => by rw [child]; rfl) (by simp [child])
    | exited =>
      exact hand.latch_moves owner call (fun _ => by rw [child]; rfl) (by simp [child])

theorem sound (hand : Handshake s a b) : s.Sound where
  asserts returns := by
    have behind : s.owner ≠ .waits := by rw [returns]; nofun
    cases started : s.started with
    | false =>
      have := (hand.fresh started).1
      rw [returns] at this
      contradiction
    | true => exact hand.tid (.inr (hand.settled behind started))
  tid outside started := hand.tid (.inr (hand.settled (by rw [outside]; nofun) started))
  free outside := by
    have idle := hand.owner (by rw [outside]; nofun)
    have idle' := hand.idle_counter outside
    have all (stage) (mem : stage ∈ s.latch.threads) : stage = .idle := by
      rw [hand.threads, idle, idle'] at mem
      simpa using mem
    refine ⟨?_, all, hand.settled (by rw [outside]; nofun)⟩
    apply hand.latched.free
    intro stage mem
    rw [all stage mem]
    rfl
  returns := hand.moves

/-- Who uses the object finds it. -/
theorem uses (hand : Handshake s a b) {act : Act} (moved : s.step act = some s')
    (uses : act.uses) : s.alive := by
  have inner (apart : s.owner ≠ .outside) : s.alive := hand.alive apart
  have early (unpast : s.child.past = false) (there : s.child ≠ .absent) : s.alive := by
    apply inner
    intro outside
    cases started : s.started with
    | false => exact there (hand.fresh started).2
    | true =>
      have past := hand.settled (by rw [outside]; nofun) started
      rw [unpast] at past
      contradiction
  cases act with
  | start =>
    obtain ⟨⟨-, alive, -⟩, -⟩ := some_of_guard moved
    exact alive
  | wait act =>
    obtain ⟨⟨waits, -⟩, -⟩ := Option.ite_none_right_eq_some.mp moved
    exact inner (by rw [waits]; nofun)
  | returns =>
    obtain ⟨returns, -⟩ := some_of_guard moved
    exact inner (by rw [returns]; nofun)
  | publish tid =>
    obtain ⟨⟨publishes, -⟩, -⟩ := some_of_guard moved
    exact early (by rw [publishes]; rfl) (by rw [publishes]; nofun)
  | countDown act =>
    obtain ⟨⟨counts, -⟩, -⟩ := Option.ite_none_right_eq_some.mp moved
    exact early (by rw [counts]; rfl) (by rw [counts]; nofun)
  | exit => contradiction
  | join =>
    obtain ⟨⟨-, alive, -⟩, -⟩ := some_of_guard moved
    exact alive
  | destroy =>
    obtain ⟨⟨-, alive⟩, -⟩ := some_of_guard moved
    exact alive

end Handshake

def Shaken (s : Thread) : Prop := ∃ a b, Handshake s a b

theorem shaken_new : Shaken new := ⟨_, _, handshake_new⟩

/-- The owner may destroy the object as soon as `start` has returned, and whenever it likes:
nobody uses it then, and until then `start` comes to its end. -/
theorem always_handshake (acts : List Act) :
    Always step Sound new acts ∧ EachStep step (fun s act _ => act.uses → s.alive) new acts := by
  have kept (s : Thread) (act : Act) (s' : Thread) (shaken : s.Shaken) (_ : True)
      (moved : s.step act = some s') : s'.Shaken ∧ (act.uses → s.alive) := by
    obtain ⟨a, b, hand⟩ := shaken
    exact ⟨hand.step moved, hand.uses moved⟩
  constructor
  · refine Always.of_invariant (fun s act s' shaken yes moved => (kept s act s' shaken yes moved).1)
      ?_ shaken_new (EachStep.trivial _ acts)
    rintro s ⟨a, b, hand⟩
    exact hand.sound
  · exact EachStep.of_invariant kept shaken_new (EachStep.trivial _ acts)

end Thread

end NewFramework.Base
