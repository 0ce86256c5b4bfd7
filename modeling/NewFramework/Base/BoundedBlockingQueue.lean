import NewFramework.Lib.Run
import NewFramework.Lib.Signal

/-!
# `BoundedBlockingQueue`

Any number of threads that call `put` and `take` (`muduo/base/BoundedBlockingQueue.h`) over and
over.  What a thread does under `mutex_`, from where it gets the mutex to where it waits or leaves,
is one step.  A thread blocked on a condition may wake up for no reason; `notify` wakes one of the
threads blocked there, if there is any.  Either way it has to get the mutex again and is back at the
test of its loop.
-/

namespace NewFramework.Base

open NewFramework.Lib

/-- `boost::circular_buffer` -/
structure CircularBuffer (α : Type) (capacity : Nat) where
  content : List α
  bounded : content.length ≤ capacity

namespace CircularBuffer

variable {α : Type} {capacity : Nat}

def empty : CircularBuffer α capacity := ⟨[], Nat.zero_le _⟩

def Full (buffer : CircularBuffer α capacity) : Prop := buffer.content.length = capacity

instance (buffer : CircularBuffer α capacity) : Decidable buffer.Full :=
  inferInstanceAs (Decidable (_ = _))

/-- `push_back`, with the items that it overwrites: the oldest one when the buffer is full.  A
buffer of capacity 0 takes nothing. -/
def pushBack (buffer : CircularBuffer α capacity) (x : α) : CircularBuffer α capacity × List α :=
  if h : buffer.content.length < capacity then
    (⟨buffer.content ++ [x], by rw [List.length_append, List.length_singleton]; exact h⟩, [])
  else
    match eq : buffer.content with
    | [] => (buffer, [x])
    | oldest :: rest =>
      (⟨rest ++ [x], by
        have bounded := buffer.bounded
        rw [eq, List.length_cons] at bounded
        rw [List.length_append, List.length_singleton]
        exact bounded⟩, [oldest])

theorem pushBack_of_not_full {buffer : CircularBuffer α capacity} (room : ¬buffer.Full) (x : α) :
    (buffer.pushBack x).1.content = buffer.content ++ [x] ∧ (buffer.pushBack x).2 = [] := by
  have inside : buffer.content.length < capacity := Nat.lt_of_le_of_ne buffer.bounded room
  simp only [pushBack, dif_pos inside, and_self]

/-- `pop_front` -/
def popFront (buffer : CircularBuffer α capacity) : CircularBuffer α capacity :=
  ⟨buffer.content.tail, by
    rw [List.length_tail]
    exact Nat.le_trans (Nat.sub_le _ _) buffer.bounded⟩

end CircularBuffer

/-- Where a thread is. -/
inductive QueueStage (α : Type) where
  /-- in no call -/
  | idle
  /-- in `put`, before it has the mutex -/
  | putting (x : α)
  /-- blocked on `notFull_` and not notified -/
  | waitsNotFull (x : α)
  /-- in `take`, before it has the mutex -/
  | taking
  /-- blocked on `notEmpty_` and not notified -/
  | waitsNotEmpty
  deriving DecidableEq, Repr

namespace QueueStage

variable {α : Type}

@[simp] def onNotFull : QueueStage α → Bool
  | .waitsNotFull _ => true
  | _ => false

@[simp] def onNotEmpty : QueueStage α → Bool
  | .waitsNotEmpty => true
  | _ => false

@[simp] def inPut : QueueStage α → Bool
  | .putting _ => true
  | _ => false

@[simp] def inTake : QueueStage α → Bool
  | .taking => true
  | _ => false

/-- A blocked thread is woken. -/
@[simp] def wake : QueueStage α → QueueStage α
  | .waitsNotFull x => .putting x
  | .waitsNotEmpty => .taking
  | stage => stage

end QueueStage

/-- A queue with its threads.  `put` and `taken` are the items put and taken so far, in order;
`overwritten` those that `push_back` wrote over. -/
structure BoundedBlockingQueue (α : Type) (capacity : Nat) where
  queue : CircularBuffer α capacity
  threads : List (QueueStage α)
  put : List α
  taken : List α
  overwritten : List α

/-- A step of a thread.  `woken` is the thread that a `notify` wakes. -/
inductive QueueAct (α : Type) where
  | callPut (x : α)
  | callTake
  | put (woken : Option Nat)
  | take (woken : Option Nat)
  | wakeUp
  deriving DecidableEq

namespace BoundedBlockingQueue

variable {α : Type} {capacity : Nat}

def new (threads : Nat) : BoundedBlockingQueue α capacity :=
  ⟨.empty, List.replicate threads .idle, [], [], []⟩

/-- The thread gets to another stage. -/
def setStage (s : BoundedBlockingQueue α capacity) (i : Nat) (stage : QueueStage α) :
    BoundedBlockingQueue α capacity :=
  { s with threads := s.threads.set i stage }

/-- `notify` on a condition, as far as the threads go. -/
def notify (s : BoundedBlockingQueue α capacity) (woken : Option Nat) :
    BoundedBlockingQueue α capacity :=
  { s with threads := wakeAt QueueStage.wake s.threads woken }

/-- `queue_.push_back(x)`, and `put` returns. -/
def push (s : BoundedBlockingQueue α capacity) (i : Nat) (x : α) :
    BoundedBlockingQueue α capacity :=
  { s.setStage i .idle with
    queue := (s.queue.pushBack x).1
    put := s.put ++ [x]
    overwritten := s.overwritten ++ (s.queue.pushBack x).2 }

/-- `front` is copied, `queue_.pop_front()`, and `take` returns the copy. -/
def pop (s : BoundedBlockingQueue α capacity) (i : Nat) (front : α) :
    BoundedBlockingQueue α capacity :=
  { s.setStage i .idle with
    queue := s.queue.popFront
    taken := s.taken ++ [front] }

/-- A step of the thread `i`, which is at `stage`. -/
def stepThread (s : BoundedBlockingQueue α capacity) (i : Nat) (stage : QueueStage α) :
    QueueAct α → Option (BoundedBlockingQueue α capacity)
  | .callPut x =>
    match stage with
    | .idle => some (s.setStage i (.putting x))
    | _ => none
  | .callTake =>
    match stage with
    | .idle => some (s.setStage i .taking)
    | _ => none
  | .put woken =>
    match stage with
    | .putting x =>
      if s.queue.Full then some (s.setStage i (.waitsNotFull x))
      else if Signals QueueStage.onNotEmpty s.threads woken then
        some ((s.push i x).notify woken)
      else none
    | _ => none
  | .take woken =>
    match stage with
    | .taking =>
      match s.queue.content with
      | [] => some (s.setStage i .waitsNotEmpty)
      | front :: _ =>
        if Signals QueueStage.onNotFull s.threads woken then
          some ((s.pop i front).notify woken)
        else none
    | _ => none
  | .wakeUp =>
    match stage with
    | .waitsNotFull x => some (s.setStage i (.putting x))
    | .waitsNotEmpty => some (s.setStage i .taking)
    | _ => none

/-- A step: a thread is named by its number. -/
def step (s : BoundedBlockingQueue α capacity) :
    Nat × QueueAct α → Option (BoundedBlockingQueue α capacity)
  | (i, act) =>
    match s.threads[i]? with
    | none => none
    | some stage => s.stepThread i stage act

/-! ## What a bounded queue owes its callers -/

/-- What the steps keep: each condition covers what is available to the threads waiting on it,
the items of the queue and its free slots. -/
structure Sound (s : BoundedBlockingQueue α capacity) : Prop where
  content : s.put = s.taken ++ s.queue.content
  intact : s.overwritten = []
  notEmpty : Covered QueueStage.onNotEmpty QueueStage.inTake s.queue.content.length s.threads
  notFull : Covered QueueStage.onNotFull QueueStage.inPut
    (capacity - s.queue.content.length) s.threads

/-! ## Steps -/

theorem wake_notEmpty {stage : QueueStage α} (waits : stage.onNotEmpty = true) :
    stage.wake.onNotEmpty = false ∧ stage.inTake = false ∧ stage.wake.inTake = true := by
  cases stage with
  | waitsNotEmpty => exact ⟨rfl, rfl, rfl⟩
  | _ => exact absurd waits (by simp)

theorem wake_notFull {stage : QueueStage α} (waits : stage.onNotFull = true) :
    stage.wake.onNotFull = false ∧ stage.inPut = false ∧ stage.wake.inPut = true := by
  cases stage with
  | waitsNotFull x => exact ⟨rfl, rfl, rfl⟩
  | _ => exact absurd waits (by simp)

/-- A signal on one condition does no harm on the other. -/
theorem onNotEmpty_wake (stage : QueueStage α) (waits : stage.wake.onNotEmpty = true) :
    stage.onNotEmpty = true := by
  cases stage with
  | waitsNotEmpty => rfl
  | _ => exact waits

theorem inTake_wake (stage : QueueStage α) (going : stage.inTake = true) :
    stage.wake.inTake = true := by
  cases stage with
  | waitsNotEmpty => rfl
  | _ => exact going

theorem onNotFull_wake (stage : QueueStage α) (waits : stage.wake.onNotFull = true) :
    stage.onNotFull = true := by
  cases stage with
  | waitsNotFull x => rfl
  | _ => exact waits

theorem inPut_wake (stage : QueueStage α) (going : stage.inPut = true) :
    stage.wake.inPut = true := by
  cases stage with
  | waitsNotFull x => rfl
  | _ => exact going

namespace Sound

variable {s s' : BoundedBlockingQueue α capacity} {i : Nat} {stage stage' : QueueStage α}

/-- A thread that gets to another stage, with the queue as it is. -/
theorem setStage (sound : Sound s)
    (notEmpty : Covered QueueStage.onNotEmpty QueueStage.inTake s.queue.content.length
      (s.threads.set i stage'))
    (notFull : Covered QueueStage.onNotFull QueueStage.inPut
      (capacity - s.queue.content.length) (s.threads.set i stage')) :
    Sound (s.setStage i stage') where
  content := sound.content
  intact := sound.intact
  notEmpty := notEmpty
  notFull := notFull

theorem put (sound : Sound s) {x : α} {woken : Option Nat}
    (there : s.threads[i]? = some (.putting x)) (room : ¬s.queue.Full)
    (signals : Signals QueueStage.onNotEmpty s.threads woken) :
    Sound ((s.push i x).notify woken) := by
  obtain ⟨content, overwritten⟩ := CircularBuffer.pushBack_of_not_full room x
  have length : (s.queue.pushBack x).1.content.length = s.queue.content.length + 1 := by
    rw [content, List.length_append, List.length_singleton]
  have slots : capacity - s.queue.content.length =
      capacity - (s.queue.pushBack x).1.content.length + 1 := by
    have bounded := s.queue.bounded
    have apart : s.queue.content.length ≠ capacity := room
    omega
  constructor
  case content =>
    show s.put ++ [x] = s.taken ++ (s.queue.pushBack x).1.content
    rw [content, sound.content, List.append_assoc]
  case intact =>
    show s.overwritten ++ (s.queue.pushBack x).2 = []
    rw [overwritten, sound.intact, List.append_nil]
  case notEmpty =>
    show Covered _ _ (s.queue.pushBack x).1.content.length (wakeAt _ (s.threads.set i .idle) woken)
    rw [length]
    have left : Covered _ _ _ (s.threads.set i .idle) :=
      sound.notEmpty.move there (by simp) (by simp)
    exact left.signal (signals.set there rfl rfl) fun _ => wake_notEmpty
  case notFull =>
    show Covered _ _ (capacity - (s.queue.pushBack x).1.content.length)
      (wakeAt _ (s.threads.set i .idle) woken)
    have before := sound.notFull
    rw [slots] at before
    exact (before.consume there rfl).wakeAt onNotFull_wake inPut_wake woken

theorem take (sound : Sound s) {front : α} {rest : List α} {woken : Option Nat}
    (there : s.threads[i]? = some .taking) (content : s.queue.content = front :: rest)
    (signals : Signals QueueStage.onNotFull s.threads woken) :
    Sound ((s.pop i front).notify woken) := by
  have popped : s.queue.popFront.content = rest := by
    show s.queue.content.tail = rest
    rw [content, List.tail_cons]
  have length : s.queue.content.length = rest.length + 1 := by
    rw [content, List.length_cons]
  have slots : capacity - rest.length = capacity - s.queue.content.length + 1 := by
    have bounded := s.queue.bounded
    omega
  constructor
  case content =>
    show s.put = (s.taken ++ [front]) ++ s.queue.popFront.content
    rw [popped, sound.content, content, List.append_assoc, List.singleton_append]
  case intact => exact sound.intact
  case notEmpty =>
    show Covered _ _ s.queue.popFront.content.length (wakeAt _ (s.threads.set i .idle) woken)
    rw [popped]
    have before := sound.notEmpty
    rw [length] at before
    exact (before.consume there rfl).wakeAt onNotEmpty_wake inTake_wake woken
  case notFull =>
    show Covered _ _ (capacity - s.queue.popFront.content.length)
      (wakeAt _ (s.threads.set i .idle) woken)
    rw [popped, slots]
    have left : Covered _ _ _ (s.threads.set i .idle) :=
      sound.notFull.move there (by simp) (by simp)
    exact left.signal (signals.set there rfl rfl) fun _ => wake_notFull

/-- A move of a thread that takes nothing and waits for nothing that is there. -/
theorem move (sound : Sound s) (there : s.threads[i]? = some stage)
    (notEmpty : stage'.onNotEmpty = true → s.queue.content = [])
    (notFull : stage'.onNotFull = true → s.queue.Full)
    (inTake : stage.inTake = true → stage'.inTake = true ∨ s.queue.content = [])
    (inPut : stage.inPut = true → stage'.inPut = true ∨ s.queue.Full) :
    Sound (s.setStage i stage') := by
  apply sound.setStage
  · by_cases none : s.queue.content = []
    · rw [none]
      exact covered_zero
    · apply sound.notEmpty.move there
      · intro waits
        exact absurd (notEmpty waits) none
      · intro going
        exact (inTake going).resolve_right none
  · by_cases full : s.queue.Full
    · rw [full, Nat.sub_self]
      exact covered_zero
    · apply sound.notFull.move there
      · intro waits
        exact absurd (notFull waits) full
      · intro going
        exact (inPut going).resolve_right full

/-- What a step of a thread keeps, by the call it is in. -/
theorem stepThread {act : QueueAct α} (sound : Sound s) (there : s.threads[i]? = some stage)
    (moved : s.stepThread i stage act = some s') : Sound s' := by
  cases act with
  | callPut x =>
    cases stage with
    | idle =>
      obtain rfl := Option.some.inj moved
      apply sound.move there <;> simp
    | _ => simp [BoundedBlockingQueue.stepThread] at moved
  | callTake =>
    cases stage with
    | idle =>
      obtain rfl := Option.some.inj moved
      apply sound.move there <;> simp
    | _ => simp [BoundedBlockingQueue.stepThread] at moved
  | put woken =>
    cases stage with
    | putting x =>
      simp only [BoundedBlockingQueue.stepThread] at moved
      split at moved
      · next full =>
        obtain rfl := Option.some.inj moved
        apply sound.move there <;> simp [full]
      · next room =>
        obtain ⟨signals, rfl⟩ := some_of_guard moved
        exact sound.put there room signals
    | _ => simp [BoundedBlockingQueue.stepThread] at moved
  | take woken =>
    cases stage with
    | taking =>
      cases content : s.queue.content with
      | nil =>
        simp only [BoundedBlockingQueue.stepThread, content, Option.some.injEq] at moved
        subst moved
        apply sound.move there <;> simp [content]
      | cons front rest =>
        simp only [BoundedBlockingQueue.stepThread, content] at moved
        obtain ⟨signals, rfl⟩ := some_of_guard moved
        exact sound.take there content signals
    | _ => simp [BoundedBlockingQueue.stepThread] at moved
  | wakeUp =>
    cases stage with
    | waitsNotFull x =>
      obtain rfl := Option.some.inj moved
      apply sound.move there <;> simp
    | waitsNotEmpty =>
      obtain rfl := Option.some.inj moved
      apply sound.move there <;> simp
    | _ => simp [BoundedBlockingQueue.stepThread] at moved

theorem step {a : Nat × QueueAct α} (sound : Sound s) (moved : s.step a = some s') : Sound s' := by
  obtain ⟨i, act⟩ := a
  simp only [BoundedBlockingQueue.step] at moved
  cases there : s.threads[i]? with
  | none => simp [there] at moved
  | some stage =>
    simp only [there] at moved
    exact sound.stepThread there moved

end Sound

theorem sound_new (threads : Nat) : Sound (new threads : BoundedBlockingQueue α capacity) where
  content := rfl
  intact := rfl
  notEmpty := covered_zero
  notFull := covered_of_countP_eq_zero (by simp [new, List.countP_replicate])

end BoundedBlockingQueue

end NewFramework.Base
