import Mathlib.Data.Int.Order.Basic
import NewFramework.Lib.Run

/-!
# From the accept thread to an IO thread

`CIOThread::set_item` (`tstlesrv/iothread.cpp`) pushes an item on `m_connQueue` and then sends one
byte through the socket pair of the thread's `PipeEventWatcher` (`muduo/base/event_watcher.cpp`);
`HandlerFn` receives what is there and has one item taken.  The lock makes the push and the pop
atomic, so the two threads interleave between the push and the `send`, and between the `recv` and
the pop.

The items pushed and not yet taken are counted against the bytes that announce them.  A `send`
that the kernel refuses and a `recv` that returns more than one byte each lose announcements,
and nothing ever makes up for it.
-/

namespace NewFramework.Tstlesrv
open NewFramework.Lib

/-- `m_newConns` with the notification pipe, and how far the two threads are. -/
structure NewConns (α : Type*) where
  connQueue : List α
  /-- the bytes sent to `pipe_[0]` and not yet received from `pipe_[1]` -/
  pipe : List UInt8
  /-- `set_item` has pushed and comes to its `Notify()` -/
  notifying : Bool
  /-- what `HandlerFn` received and passes to the handler -/
  buf : Option (List UInt8)
  pushed : List α
  taken : List α

/-- One step of either thread; the kernel answers `sent` to the `send` and `n` to the `recv`,
where 0 stands for every answer that is not positive. -/
inductive Handover (α : Type*) where
  | setItem (item : Option α)
  | notify (sent : Bool)
  | handlerFn (n : Nat)
  | handler

namespace NewConns

variable {α : Type*}

def start : NewConns α := ⟨[], [], false, none, [], []⟩

/-- `'c'`, the byte that `Notify` sends. -/
def notification : UInt8 := 0x63

/-- `set_item(item)` up to its `Notify()`. -/
def setItem (item : Option α) (q : NewConns α) : NewConns α :=
  match item with
  | none => q
  | some item =>
    { q with
      connQueue := q.connQueue ++ [item], notifying := true, pushed := q.pushed ++ [item] }

/-- `Notify()` -/
def notify (sent : Bool) (q : NewConns α) : NewConns α :=
  if sent then { q with pipe := q.pipe ++ [notification], notifying := false }
  else { q with notifying := false }

/-- `HandlerFn` up to its call of the handler. -/
def handlerFn (n : Nat) (q : NewConns α) : NewConns α :=
  if 0 < n then { q with pipe := q.pipe.drop n, buf := some (q.pipe.take n) } else q

/-- `get_connitem()`; the queue holds no null item, so its loop ends with the first one. -/
def getConnitem (q : NewConns α) : NewConns α :=
  match q.connQueue with
  | [] => q
  | item :: rest => { q with connQueue := rest, taken := q.taken ++ [item] }

/-- `thread_handle_newconnection`, as far as the queue goes. -/
def threadHandleNewconnection (userData : List UInt8) (q : NewConns α) : NewConns α :=
  if userData.head? = some notification then { q.getConnitem with buf := none }
  else { q with buf := none }

def step (q : NewConns α) : Handover α → Option (NewConns α)
  | .setItem item => if q.notifying then none else some (q.setItem item)
  | .notify sent => if q.notifying then some (q.notify sent) else none
  | .handlerFn n =>
    if q.buf = none ∧ n ≤ 128 ∧ n ≤ q.pipe.length then some (q.handlerFn n) else none
  | .handler => q.buf.map fun userData => q.threadHandleNewconnection userData

/-- No announcement is under way. -/
structure Quiet (q : NewConns α) : Prop where
  unread : q.pipe = []
  notifying : q.notifying = false
  handling : q.buf = none

/-- Every item pushed has been taken, once and in order. -/
structure Delivered (q : NewConns α) : Prop where
  queue : q.connQueue = []
  taken : q.taken = q.pushed

/-- The steps that lose no announcement: the kernel takes the byte of every `Notify`, and every
`recv` returns one byte at most. -/
def Lossless : Handover α → Prop
  | .notify sent => sent = true
  | .handlerFn n => n ≤ 1
  | _ => True

instance : DecidablePred (Lossless (α := α))
  | .setItem _ => isTrue trivial
  | .notify sent => inferInstanceAs (Decidable (sent = true))
  | .handlerFn n => inferInstanceAs (Decidable (n ≤ 1))
  | .handler => isTrue trivial

/-! ## Counting -/

/-- The announcements under way. -/
def announced (q : NewConns α) : Nat :=
  q.pipe.length + q.notifying.toNat + q.buf.isSome.toNat

/-- The items in the queue that nothing announces. -/
def stranded (q : NewConns α) : Int := q.connQueue.length - q.announced

/-- What holds of every run: only `Notify` writes to the pipe, the queue holds what was pushed
and not taken, and an announcement has its item. -/
structure Sound (q : NewConns α) : Prop where
  pipe : ∀ b ∈ q.pipe, b = notification
  buf : ∀ userData, q.buf = some userData → userData.head? = some notification
  order : q.pushed = q.taken ++ q.connQueue
  covered : 0 ≤ q.stranded

theorem sound_start : Sound (start : NewConns α) :=
  ⟨by simp [start], by simp [start], rfl, by simp [stranded, announced, start]⟩

/-- What one step does to the count. -/
structure Counted (q : NewConns α) (h : Handover α) (q' : NewConns α) : Prop where
  sound : Sound q'
  rise : q.stranded ≤ q'.stranded
  same : q'.stranded = q.stranded ↔ Lossless h

theorem counted_setItem {q : NewConns α} (sound : Sound q) (idle : q.notifying = false)
    (item : Option α) : Counted q (.setItem item) (q.setItem item) := by
  cases item with
  | none => exact ⟨sound, Int.le_refl _, iff_of_true rfl trivial⟩
  | some item =>
    have level : (q.setItem (some item)).stranded = q.stranded := by
      simp only [stranded, announced, setItem, idle, List.length_append, List.length_singleton,
        Bool.toNat_true, Bool.toNat_false]
      omega
    refine ⟨⟨sound.pipe, sound.buf, ?_, level ▸ sound.covered⟩, Int.le_of_eq level.symm,
      iff_of_true level trivial⟩
    simp only [setItem, sound.order, List.append_assoc]

theorem counted_notify {q : NewConns α} (sound : Sound q) (busy : q.notifying = true)
    (sent : Bool) : Counted q (.notify sent) (q.notify sent) := by
  have covered := sound.covered
  cases sent with
  | true =>
    have level : (q.notify true).stranded = q.stranded := by
      simp only [stranded, announced, notify, busy, if_true, List.length_append,
        List.length_singleton, Bool.toNat_true, Bool.toNat_false]
    refine ⟨⟨?_, sound.buf, sound.order, level ▸ covered⟩,
      Int.le_of_eq level.symm, iff_of_true level rfl⟩
    intro b among
    rcases List.mem_append.mp among with old | new
    · exact sound.pipe b old
    · exact List.mem_singleton.mp new
  | false =>
    have lost : (q.notify false).stranded = q.stranded + 1 := by
      simp only [stranded, announced, notify, busy, Bool.false_eq_true, if_false,
        Bool.toNat_true, Bool.toNat_false]
      omega
    exact ⟨⟨sound.pipe, sound.buf, sound.order, by omega⟩, by omega,
      iff_of_false (by omega) (by simp [Lossless])⟩

theorem counted_handlerFn {q : NewConns α} (sound : Sound q) (idle : q.buf = none) {n : Nat}
    (there : n ≤ q.pipe.length) : Counted q (.handlerFn n) (q.handlerFn n) := by
  have covered := sound.covered
  unfold handlerFn
  split
  · next received =>
    have merged : ({ q with pipe := q.pipe.drop n, buf := some (q.pipe.take n) } :
        NewConns α).stranded = q.stranded + (n - 1 : Nat) := by
      simp only [stranded, announced, idle, List.length_drop, Option.isSome_some,
        Option.isSome_none, Bool.toNat_true, Bool.toNat_false]
      omega
    refine ⟨⟨fun b among => sound.pipe b (List.mem_of_mem_drop among), ?_, sound.order, by omega⟩,
      by omega, ?_⟩
    · rintro _ ⟨⟩
      obtain ⟨b, bs, held⟩ := List.exists_cons_of_length_pos (Nat.lt_of_lt_of_le received there)
      have first : b = notification := sound.pipe b (by simp [held])
      obtain ⟨m, rfl⟩ : ∃ m, n = m + 1 := ⟨n - 1, by omega⟩
      rw [held, first]
      rfl
    · rw [merged]
      simp only [Lossless]
      omega
  · next failed => exact ⟨sound, Int.le_refl _, iff_of_true rfl (by simp only [Lossless]; omega)⟩

theorem counted_handler {q : NewConns α} (sound : Sound q) {userData : List UInt8}
    (received : q.buf = some userData) :
    Counted q .handler (q.threadHandleNewconnection userData) := by
  have covered := sound.covered
  unfold threadHandleNewconnection
  rw [if_pos (sound.buf userData received)]
  have some_item : 0 < q.connQueue.length := by
    simp only [stranded, announced, received, Option.isSome_some, Bool.toNat_true] at covered
    omega
  obtain ⟨item, rest, queue⟩ := List.exists_cons_of_length_pos some_item
  have level : ({ q.getConnitem with buf := none } : NewConns α).stranded = q.stranded := by
    simp only [stranded, announced, getConnitem, queue, received, List.length_cons,
      Option.isSome_some, Option.isSome_none, Bool.toNat_true, Bool.toNat_false]
    omega
  refine ⟨⟨?_, by simp, ?_, level ▸ covered⟩, Int.le_of_eq level.symm, iff_of_true level trivial⟩
  · simp only [getConnitem, queue]
    exact sound.pipe
  · simp only [getConnitem, queue, sound.order, List.append_assoc, List.singleton_append]

theorem counted_step {q q' : NewConns α} {h : Handover α} (sound : Sound q)
    (moved : q.step h = some q') : Counted q h q' := by
  unfold step at moved
  cases h with
  | setItem item =>
    dsimp only at moved
    split at moved
    · contradiction
    · next idle =>
      rw [← Option.some.inj moved]
      exact counted_setItem sound (by simpa using idle) item
  | notify sent =>
    dsimp only at moved
    split at moved
    · next busy =>
      rw [← Option.some.inj moved]
      exact counted_notify sound busy sent
    · contradiction
  | handlerFn n =>
    dsimp only at moved
    split at moved
    · next enabled =>
      rw [← Option.some.inj moved]
      exact counted_handlerFn sound enabled.1 enabled.2.2
    · contradiction
  | handler =>
    obtain ⟨userData, received, rfl⟩ := Option.map_eq_some_iff.mp moved
    exact counted_handler sound received

/-- In a sound state that is quiet, everything has been delivered iff nothing is stranded. -/
theorem Sound.delivered_iff {q : NewConns α} (sound : Sound q) (quiet : Quiet q) :
    Delivered q ↔ q.stranded = 0 := by
  have count : q.stranded = q.connQueue.length := by
    simp [stranded, announced, quiet.unread, quiet.notifying, quiet.handling]
  have order := sound.order
  constructor
  · intro delivered
    simp [count, delivered.queue]
  · intro none
    have queue : q.connQueue = [] := List.length_eq_zero_iff.mp (by omega)
    exact ⟨queue, by simp [order, queue]⟩

/-- A run that comes to rest has delivered every item exactly when it lost no announcement. -/
theorem delivered_iff_lossless {moves : List (Handover α)} {q : NewConns α}
    (ran : exec step start moves = some q) (quiet : Quiet q) :
    Delivered q ↔ EachStep step (fun _ h _ => Lossless h) start moves := by
  have keeps : ∀ q h q', Sound q → True → step q h = some q' → Sound q' :=
    fun _ _ _ sound _ moved => (counted_step (α := α) sound moved).sound
  have sound : Sound q := exec_invariant keeps sound_start (EachStep.trivial _ _) ran
  rw [sound.delivered_iff quiet]
  exact potential_eq_iff (fun _ _ _ before moved => (counted_step before moved).sound)
    (fun _ _ _ before moved => (counted_step before moved).rise)
    (fun _ _ _ before moved => (counted_step before moved).same) sound_start ran

/-- The second connection is pushed while the first is being received. -/
theorem delivered_iff_lossless_two :
    Delivered (⟨[], [], false, none, [5, 6], [5, 6]⟩ : NewConns Nat) := by
  have ran : exec step start [.setItem (some 5), .notify true, .setItem (some 6), .handlerFn 1,
      .notify true, .handler, .handlerFn 1, .handler] =
      some (⟨[], [], false, none, [5, 6], [5, 6]⟩ : NewConns Nat) := rfl
  exact (delivered_iff_lossless ran ⟨rfl, rfl, rfl⟩).mpr (by decide)

/-- Two connections are accepted before the IO thread wakes up: one `recv` returns both bytes,
and the second connection stays in the queue. -/
theorem not_delivered_coalesced :
    ¬ ∀ (moves : List (Handover Nat)) (q : NewConns Nat),
      exec step start moves = some q → Quiet q → Delivered q := by
  intro emptied
  have stays := emptied
    [.setItem (some 5), .notify true, .setItem (some 6), .notify true, .handlerFn 2, .handler]
    ⟨[6], [], false, none, [5, 6], [5]⟩ rfl ⟨rfl, rfl, rfl⟩
  exact absurd stays.queue (List.cons_ne_nil _ _)

end NewConns

end NewFramework.Tstlesrv
