import NewFramework.Lib.Numbered
import NewFramework.Lib.Run

/-!
# `CountDownLatch`

Any number of threads that call `wait` and `countDown` (`muduo/base/CountDownLatch.cc`) over and
over.  Here the mutex (`muduo/base/Mutex.h`) is looked at closely: getting it, what is done under it
and letting go of it are steps of their own, so that it can be said who still uses the latch.
`Condition::wait` (`muduo/base/Condition.h`) lets go of the mutex while it is blocked.

`count_` is an `int`; a `--count_` that overflows wraps, as the machine's does.
-/

namespace NewFramework.Base
open NewFramework.Lib

/-- Where a thread is. -/
inductive LatchStage where
  /-- in no call -/
  | idle
  /-- in `wait`, before it has the mutex, for the first time or once more -/
  | waitEnters
  /-- in `wait`, before the test of its loop -/
  | waitTests
  /-- blocked on `condition_` and not notified -/
  | waitBlocked
  /-- in `wait`, behind its loop -/
  | waitLeaves
  /-- in `countDown`, before it has the mutex -/
  | countEnters
  /-- in `countDown`, before `--count_` -/
  | countDecrements
  /-- in `countDown`, at its end -/
  | countLeaves
  deriving DecidableEq, Repr

namespace LatchStage

/-- The thread has the mutex. -/
@[simp] def holds : LatchStage → Bool
  | .waitTests | .waitLeaves | .countDecrements | .countLeaves => true
  | _ => false

/-- `notifyAll`, as far as one thread goes. -/
@[simp] def notified : LatchStage → LatchStage
  | .waitBlocked => .waitEnters
  | stage => stage

theorem holds_notified (stage : LatchStage) : stage.notified.holds = stage.holds := by
  cases stage <;> rfl

end LatchStage

/-- A latch with its threads; `counted` is how often `--count_` was done. -/
structure CountDownLatch where
  count : Int
  /-- `holder_` of the mutex -/
  holder : Option Nat
  threads : List LatchStage
  counted : Nat

inductive LatchAct where
  | callWait
  | callCountDown
  | lock
  /-- what is done under the mutex -/
  | goOn
  | unlock
  | wakeUp
  deriving DecidableEq

namespace CountDownLatch

def new (count : Int) (threads : Nat) : CountDownLatch :=
  ⟨count, none, List.replicate threads .idle, 0⟩

/-- The thread gets to another stage, and the mutex has this holder. -/
def move (s : CountDownLatch) (i : Nat) (stage : LatchStage) (holder : Option Nat) :
    CountDownLatch :=
  { s with threads := s.threads.set i stage, holder := holder }

/-- `condition_.notifyAll()` -/
def notifyAll (s : CountDownLatch) : CountDownLatch :=
  { s with threads := s.threads.map LatchStage.notified }

/-- `--count_`, and `notifyAll` where it comes to 0. -/
def decrement (s : CountDownLatch) (i : Nat) : CountDownLatch :=
  let s := { s.move i .countLeaves s.holder with
    count := (s.count - 1).bmod (2 ^ 32)
    counted := s.counted + 1 }
  if s.count = 0 then s.notifyAll else s

/-- A step of the thread `i`, which is at `stage`. -/
def stepThread (s : CountDownLatch) (i : Nat) : LatchStage → LatchAct → Option CountDownLatch
  | .idle, .callWait => some (s.move i .waitEnters s.holder)
  | .idle, .callCountDown => some (s.move i .countEnters s.holder)
  | .waitEnters, .lock => if s.holder = none then some (s.move i .waitTests (some i)) else none
  | .countEnters, .lock =>
    if s.holder = none then some (s.move i .countDecrements (some i)) else none
  | .waitTests, .goOn =>
    if 0 < s.count then some (s.move i .waitBlocked none)
    else some (s.move i .waitLeaves s.holder)
  | .countDecrements, .goOn => some (s.decrement i)
  | .waitLeaves, .unlock => some (s.move i .idle none)
  | .countLeaves, .unlock => some (s.move i .idle none)
  | .waitBlocked, .wakeUp => some (s.move i .waitEnters s.holder)
  | _, _ => none

def step (s : CountDownLatch) : Nat × LatchAct → Option CountDownLatch
  | (i, act) =>
    match s.threads[i]? with
    | none => none
    | some stage => s.stepThread i stage act

/-! ## What a latch owes its callers -/

/-- No thread can go on by itself. -/
def Quiet (s : CountDownLatch) : Prop :=
  ∀ i, s.step (i, .lock) = none ∧ s.step (i, .goOn) = none ∧ s.step (i, .unlock) = none

/-- Where the step is `--count_`, the result is an `int`. -/
def Fits (s : CountDownLatch) : Nat × LatchAct → Prop
  | (i, .goOn) => s.threads[i]? = some .countDecrements →
    -2 ^ 31 ≤ s.count - 1 ∧ s.count - 1 < 2 ^ 31
  | _ => True

instance (s : CountDownLatch) : DecidablePred s.Fits
  | (_, act) => by cases act <;> unfold Fits <;> infer_instance

structure Sound (count : Int) (s : CountDownLatch) : Prop where
  /-- one thread at most is in a critical section -/
  exclusive : ∀ (i j : Nat) (stage stage' : LatchStage), s.threads[i]? = some stage →
    s.threads[j]? = some stage' → stage.holds = true → stage'.holds = true → i = j
  /-- `wait` returns after `count` calls of `countDown` only -/
  released : .waitLeaves ∈ s.threads → count ≤ s.counted
  /-- then no one is left behind -/
  awake : count ≤ s.counted → .waitBlocked ∉ s.threads
  /-- a latch comes to rest with all calls at their end, but those that wait for the count -/
  live : s.Quiet → ∀ stage ∈ s.threads, stage = .idle ∨ s.counted < count ∧ stage = .waitBlocked

/-- What the steps keep. -/
structure Latched (count : Int) (s : CountDownLatch) : Prop where
  counts : s.count = count - s.counted
  holder : ∀ i stage, s.threads[i]? = some stage → (stage.holds = true ↔ s.holder = some i)
  held : ∀ i ∈ s.holder, i < s.threads.length
  leaves : .waitLeaves ∈ s.threads → s.count ≤ 0
  blocked : .waitBlocked ∈ s.threads → 0 < s.count

variable {count : Int} {s s' : CountDownLatch} {i : Nat} {stage stage' : LatchStage}

theorem latched_new (count : Int) (threads : Nat) : Latched count (new count threads) where
  counts := by simp [new]
  holder i stage there := by
    obtain ⟨-, rfl⟩ := List.mem_replicate.mp (List.mem_of_getElem? there)
    simp [new]
  held := nofun
  leaves mem := absurd (List.mem_replicate.mp mem).2 nofun
  blocked mem := absurd (List.mem_replicate.mp mem).2 nofun

theorem step_thread {act : LatchAct} (moved : s.step (i, act) = some s') :
    ∃ stage, s.threads[i]? = some stage ∧ s.stepThread i stage act = some s' := by
  simp only [step] at moved
  split at moved
  · contradiction
  · next stage there => exact ⟨stage, there, moved⟩

theorem not_blocked_notifyAll (s : CountDownLatch) : .waitBlocked ∉ s.notifyAll.threads := by
  intro mem
  obtain ⟨before, -, still⟩ := List.mem_map.mp mem
  cases before <;> simp only [LatchStage.notified, reduceCtorEq] at still

namespace Latched

theorem exclusive (latched : Latched count s) {j : Nat} (there : s.threads[i]? = some stage)
    (there' : s.threads[j]? = some stage') (holds : stage.holds = true)
    (holds' : stage'.holds = true) : i = j := by
  have here := (latched.holder i stage there).mp holds
  rw [(latched.holder j stage' there').mp holds'] at here
  exact (Option.some.inj here).symm

theorem free (latched : Latched count s) (without : ∀ stage ∈ s.threads, stage.holds = false) :
    s.holder = none := by
  by_contra taken
  obtain ⟨i, holder⟩ := Option.ne_none_iff_exists'.mp taken
  have there := List.getElem?_eq_getElem (latched.held i holder)
  have holds := (latched.holder i _ there).mpr holder
  rw [without _ (List.getElem_mem _)] at holds
  contradiction

/-- A holder of the mutex goes on, and a thread without it does where it is free. -/
theorem idle_or_blocked (latched : Latched count s) (quiet : s.Quiet)
    (there : s.threads[i]? = some stage) : stage = .idle ∨ stage = .waitBlocked := by
  have free : s.holder = none := by
    apply latched.free
    intro other mem
    obtain ⟨j, at_j⟩ := List.mem_iff_getElem?.mp mem
    obtain ⟨-, still, stays⟩ := quiet j
    simp only [step, at_j] at still stays
    cases other <;> simp only [stepThread, LatchStage.holds, reduceCtorEq] at still stays ⊢
    split at still <;> contradiction
  obtain ⟨entry, still, stays⟩ := quiet i
  simp only [step, there] at entry still stays
  cases stage with
  | idle => exact .inl rfl
  | waitBlocked => exact .inr rfl
  | waitEnters => simp [stepThread, free] at entry
  | countEnters => simp [stepThread, free] at entry
  | waitTests => simp only [stepThread] at still; split at still <;> contradiction
  | countDecrements => simp [stepThread] at still
  | waitLeaves => simp [stepThread] at stays
  | countLeaves => simp [stepThread] at stays

theorem sound (latched : Latched count s) : Sound count s where
  exclusive _ _ _ _ there there' := latched.exclusive there there'
  released mem := by
    have := latched.leaves mem
    have := latched.counts
    omega
  awake enough mem := by
    have := latched.blocked mem
    have := latched.counts
    omega
  live quiet stage mem := by
    obtain ⟨i, there⟩ := List.mem_iff_getElem?.mp mem
    rcases latched.idle_or_blocked quiet there with idle | rfl
    · exact .inl idle
    · have := latched.blocked mem
      have := latched.counts
      exact .inr ⟨by omega, rfl⟩

/-- A thread moves, and the mutex goes with it. -/
theorem move (latched : Latched count s) (there : s.threads[i]? = some stage)
    {holder : Option Nat}
    (mutex : (stage.holds = true ∨ s.holder = none) ∧
      holder = (if stage'.holds then some i else none) ∨
      stage.holds = false ∧ stage'.holds = false ∧ holder = s.holder)
    (leaves : stage' = .waitLeaves → s.count ≤ 0) (blocked : stage' = .waitBlocked → 0 < s.count) :
    Latched count (s.move i stage' holder) where
  counts := latched.counts
  holder j other at_j := by
    have mine := latched.holder i stage there
    rcases getElem?_set_cases at_j with ⟨rfl, rfl⟩ | ⟨apart, before⟩
    · rcases mutex with ⟨-, rfl⟩ | ⟨without, without', rfl⟩
      · cases other <;> simp [CountDownLatch.move]
      · rw [without']
        rw [without] at mine
        exact mine
    · have others := latched.holder j other before
      rcases mutex with ⟨free, rfl⟩ | ⟨-, -, rfl⟩
      · have not_theirs : other.holds ≠ true := by
          intro theirs
          have taken := others.mp theirs
          rcases free with holds | free
          · exact apart (latched.exclusive before there theirs holds)
          · rw [free] at taken
            contradiction
        refine iff_of_false not_theirs ?_
        intro taken
        change (if stage'.holds then some i else none) = some j at taken
        split at taken
        · exact apart (Option.some.inj taken).symm
        · contradiction
      · exact others
  held j mem := by
    obtain ⟨inside, -⟩ := List.getElem?_eq_some_iff.mp there
    have shorter : (s.move i stage' holder).threads.length = s.threads.length := List.length_set
    rw [shorter]
    rcases mutex with ⟨-, rfl⟩ | ⟨-, -, rfl⟩
    · change (if stage'.holds then some i else none) = some j at mem
      split at mem
      · exact Option.some.inj mem ▸ inside
      · contradiction
    · exact latched.held j mem
  leaves mem := by
    rcases List.mem_or_eq_of_mem_set mem with old | new
    · exact latched.leaves old
    · exact leaves new.symm
  blocked mem := by
    rcases List.mem_or_eq_of_mem_set mem with old | new
    · exact latched.blocked old
    · exact blocked new.symm

theorem notifyAll (latched : Latched count s) : Latched count s.notifyAll where
  counts := latched.counts
  holder j stage there := by
    change (s.threads.map LatchStage.notified)[j]? = some stage at there
    rw [List.getElem?_map, Option.map_eq_some_iff] at there
    obtain ⟨before, at_j, rfl⟩ := there
    rw [before.holds_notified]
    exact latched.holder j before at_j
  held j mem := by
    have same : s.notifyAll.threads.length = s.threads.length := List.length_map _
    exact same ▸ latched.held j mem
  leaves mem := by
    obtain ⟨before, at_j, leaving⟩ := List.mem_map.mp mem
    cases before <;> simp only [LatchStage.notified, reduceCtorEq] at leaving
    exact latched.leaves at_j
  blocked mem := absurd mem s.not_blocked_notifyAll

theorem counted (latched : Latched count s) {less : Int} (eq : less = s.count - 1)
    (blocked : .waitBlocked ∈ s.threads → 0 < less) :
    Latched count { s with count := less, counted := s.counted + 1 } where
  counts := by
    have := latched.counts
    dsimp only
    omega
  holder := latched.holder
  held := latched.held
  leaves mem := by
    have := latched.leaves mem
    dsimp only
    omega
  blocked := blocked

theorem decrement (latched : Latched count s) (there : s.threads[i]? = some .countDecrements)
    (fits : s.Fits (i, .goOn)) : Latched count (s.decrement i) := by
  have holder := (latched.holder i _ there).mp rfl
  have moved : Latched count (s.move i .countLeaves s.holder) :=
    latched.move there (.inl ⟨.inl rfl, holder⟩) nofun nofun
  obtain ⟨low, high⟩ := fits there
  have less : (s.count - 1).bmod (2 ^ 32) = s.count - 1 :=
    Int.bmod_eq_of_le (by omega) (by omega)
  unfold CountDownLatch.decrement
  dsimp only
  split
  · exact moved.notifyAll.counted less fun mem => absurd mem (s.move _ _ _).not_blocked_notifyAll
  · next more =>
    refine moved.counted less fun mem => ?_
    have positive : 0 < s.count := moved.blocked mem
    rw [less] at more ⊢
    omega

theorem step {act : LatchAct} (latched : Latched count s) (fits : s.Fits (i, act))
    (moved : s.step (i, act) = some s') : Latched count s' := by
  obtain ⟨stage, there, moved⟩ := step_thread moved
  unfold stepThread at moved
  split at moved
  · obtain rfl := Option.some.inj moved
    exact latched.move there (.inr ⟨rfl, rfl, rfl⟩) nofun nofun
  · obtain rfl := Option.some.inj moved
    exact latched.move there (.inr ⟨rfl, rfl, rfl⟩) nofun nofun
  · obtain ⟨free, rfl⟩ := some_of_guard moved
    exact latched.move there (.inl ⟨.inr free, rfl⟩) nofun nofun
  · obtain ⟨free, rfl⟩ := some_of_guard moved
    exact latched.move there (.inl ⟨.inr free, rfl⟩) nofun nofun
  · have holder := (latched.holder i _ there).mp rfl
    split at moved
    · next more =>
      obtain rfl := Option.some.inj moved
      exact latched.move there (.inl ⟨.inl rfl, rfl⟩) nofun fun _ => more
    · next zero =>
      obtain rfl := Option.some.inj moved
      exact latched.move there (.inl ⟨.inl rfl, holder⟩) (fun _ => Int.not_lt.mp zero) nofun
  · obtain rfl := Option.some.inj moved
    exact latched.decrement there fits
  · obtain rfl := Option.some.inj moved
    exact latched.move there (.inl ⟨.inl rfl, rfl⟩) nofun nofun
  · obtain rfl := Option.some.inj moved
    exact latched.move there (.inl ⟨.inl rfl, rfl⟩) nofun nofun
  · obtain rfl := Option.some.inj moved
    exact latched.move there (.inr ⟨rfl, rfl, rfl⟩) nofun nofun
  · contradiction

end Latched

/-- A latch keeps what it promises, whatever its threads do and in whatever order, while `count_`
does not overflow. -/
theorem always_latched {count : Int} {threads : Nat} {acts : List (Nat × LatchAct)}
    (fits : EachStep step (fun s a _ => s.Fits a) (new count threads) acts) :
    Always step (Sound count) (new count threads) acts :=
  Always.of_invariant (fun _ _ _ latched here moved => latched.step here moved)
    (fun _ latched => latched.sound) (latched_new count threads) fits

/-- A thread is blocked, another one counts down twice and lets it out, and then waits itself. -/
def countedTwice : List (Nat × LatchAct) :=
  [(0, .callWait), (0, .lock), (0, .goOn), (1, .callCountDown), (1, .lock), (1, .goOn), (1, .unlock),
    (0, .wakeUp), (1, .callCountDown), (1, .lock), (1, .goOn), (1, .unlock), (0, .lock), (0, .goOn),
    (0, .unlock), (1, .callWait), (1, .lock), (1, .goOn), (1, .unlock)]

theorem always_latched_countedTwice : Always step (Sound 2) (new 2 2) countedTwice :=
  always_latched (by decide)

end CountDownLatch

end NewFramework.Base
