import NewFramework.Net.EventLoop
import NewFramework.Net.OutboundStream

/-!
# Messages and the half-close

Calls of `send()` and `shutdown()` (`muduo/net/TcpConnection.cpp`) from any threads, cut where they
look at `state_`, where they change it and where they run or queue their functor.  The queue keeps
the order of what goes through it.  But a `shutdown()` in the loop thread runs at once, and
`handleWrite` half-closes as soon as `state_` says so, both without a look at the messages that wait
in the queue; and `send()` may queue its message after the `shutdownInLoop` of a `shutdown()` that
began later.
-/

namespace NewFramework.Net
open NewFramework.Lib

/-- The call of `send()` whose message a functor carries. -/
def Functor.call : Functor → Option Nat
  | .sendInLoop call _ => some call
  | _ => none

/-- The call of `send()` whose message was taken. -/
def Note.call : Note → Option Nat
  | .given call _ => some call
  | _ => none

def Note.isHalfClose : Note → Bool
  | .shutdownWrite .. => true
  | _ => false

/-- The calls whose messages are in a queue. -/
def waiting (queue : List Functor) : List Nat := queue.filterMap Functor.call

/-- The calls whose messages `sendInLoop` has taken. -/
def taken (notes : List Note) : List Nat := notes.filterMap Note.call

@[simp] theorem waiting_append (xs ys : List Functor) :
    waiting (xs ++ ys) = waiting xs ++ waiting ys :=
  List.filterMap_append ..

@[simp] theorem taken_append (xs ys : List Note) : taken (xs ++ ys) = taken xs ++ taken ys :=
  List.filterMap_append ..

/-- `Q` holds of what came before each half-close. -/
def AtHalfClose (Q : List Note → Prop) (notes : List Note) : Prop :=
  ∀ i < notes.length, notes[i]?.any Note.isHalfClose = true → Q (notes.take i)

instance (Q : List Note → Prop) [DecidablePred Q] (notes : List Note) :
    Decidable (AtHalfClose Q notes) :=
  inferInstanceAs (Decidable (∀ i < notes.length, _))

theorem atHalfClose_concat {Q : List Note → Prop} {notes : List Note} {n : Note} :
    AtHalfClose Q (notes ++ [n]) ↔ AtHalfClose Q notes ∧ (n.isHalfClose = true → Q notes) := by
  have old {i : Nat} (lt : i < notes.length) :
      (notes ++ [n])[i]? = notes[i]? ∧ (notes ++ [n]).take i = notes.take i :=
    ⟨List.getElem?_append_left lt, List.take_append_of_le_length (Nat.le_of_lt lt)⟩
  have last : (notes ++ [n])[notes.length]? = some n ∧
      (notes ++ [n]).take notes.length = notes := by simp
  constructor
  · intro all
    refine ⟨?_, ?_⟩
    · intro i lt half
      have here := all i (by simp; omega)
      rw [(old lt).1, (old lt).2] at here
      exact here half
    · intro half
      have here := all notes.length (by simp)
      rw [last.1, last.2] at here
      exact here half
  · rintro ⟨all, new⟩ i lt half
    rcases Nat.lt_or_ge i notes.length with lt' | ge
    · rw [(old lt').1] at half
      rw [(old lt').2]
      exact all i lt' half
    · have at_end : i = notes.length := by
        simp only [List.length_append, List.length_singleton] at lt
        omega
      subst at_end
      rw [last.1] at half
      rw [last.2]
      exact new half

theorem AtHalfClose.still {Q : List Note → Prop} {notes : List Note} (at_old : AtHalfClose Q notes)
    {new : List Note} (still : ∀ n ∈ new, n.isHalfClose = false) :
    AtHalfClose Q (notes ++ new) := by
  induction new generalizing notes with
  | nil => rwa [List.append_nil]
  | cons n rest ih =>
    rw [List.append_cons]
    refine ih (atHalfClose_concat.mpr ⟨at_old, ?_⟩) fun m mem =>
      still m (List.mem_cons_of_mem _ mem)
    intro half
    exact absurd (half.symm.trans (still n (List.mem_cons_self ..))) (by decide)

/-- The messages of these calls were taken before each half-close. -/
def TakenBefore (calls : List Nat) (notes : List Note) : Prop :=
  AtHalfClose (fun before => ∀ n ∈ calls, n ∈ taken before) notes

/-- At each half-close everything taken was on the wire. -/
def Flushed (notes : List Note) : Prop := AtHalfClose (fun before => wire before = given before) notes

instance (calls : List Nat) (notes : List Note) : Decidable (TakenBefore calls notes) :=
  inferInstanceAs (Decidable (AtHalfClose _ notes))

instance (notes : List Note) : Decidable (Flushed notes) :=
  inferInstanceAs (Decidable (AtHalfClose _ notes))

/-- None of these calls has its message behind a `shutdownInLoop` in the queue. -/
def InFront (calls : List Nat) (queue : List Functor) : Prop :=
  queue.Pairwise fun f g => f = .shutdownInLoop → ∀ n ∈ calls, g.call ≠ some n

instance (calls : List Nat) (queue : List Functor) : Decidable (InFront calls queue) :=
  inferInstanceAs (Decidable (queue.Pairwise _))

theorem InFront.append {calls : List Nat} {queue added : List Functor}
    (front : InFront calls queue) (other : ∀ g ∈ added, ∀ n ∈ calls, g.call ≠ some n) :
    InFront calls (queue ++ added) := by
  refine List.pairwise_append.mpr ⟨front, ?_, fun _ _ g mem _ => other g mem⟩
  exact List.pairwise_of_forall_mem_list fun _ _ g mem _ => other g mem

/-! ## The callers -/

/-- Where a thread is in a call. -/
inductive Stage where
  | idle
  /-- `send()` has found `kConnected` -/
  | sending (call : Nat) (message : List UInt8)
  /-- `shutdown()` has found `kConnected` -/
  | shutting
  /-- and has set `kDisconnecting` -/
  | shut
  deriving DecidableEq

structure Callers where
  loop : ConnectionLoop
  stage : Thread → Stage
  /-- the calls of `send()` that found `kConnected` -/
  calls : Nat
  /-- those that have returned -/
  returned : List Nat
  /-- those that had returned when some `shutdown()` began -/
  covered : List Nat

namespace Callers

def established (writeCompleteCallback highWaterMarkCallback : Bool) (highWaterMark : Nat) :
    Callers where
  loop := .established writeCompleteCallback highWaterMarkCallback highWaterMark
  stage _ := .idle
  calls := 0
  returned := []
  covered := []

inductive Act where
  /-- the loop thread goes on, outside the calls of the user -/
  | loop (a : ConnectionLoop.Act)
  | startRead (t : Thread)
  | stopRead (t : Thread)
  /-- a call begins and looks at `state_` -/
  | send (t : Thread) (message : List UInt8)
  | shutdown (t : Thread)
  /-- the next step of the call a thread is in -/
  | advance (t : Thread) (k : KernelWrite)

/-- A thread can make a call. -/
def Ready (s : Callers) (t : Thread) : Prop :=
  s.stage t = .idle ∧ s.loop.conn.state ≠ .kConnecting ∧ (t = none → s.loop.userRuns)

instance (s : Callers) (t : Thread) : Decidable (s.Ready t) := inferInstanceAs (Decidable (_ ∧ _))

def enter (t : Thread) (stage : Stage) (s : Callers) : Callers :=
  { s with stage := Function.update s.stage t stage }

def onConn (f : TcpConnection → TcpConnection) (s : Callers) : Callers :=
  { s with loop := { s.loop with conn := f s.loop.conn } }

/-- `EventLoop::runInLoop`, called by a thread. -/
def runInLoop (t : Thread) (k : KernelWrite) (f : Functor) (s : Callers) : Callers :=
  s.onConn (·.runInLoop t.isNone k f)

def isApi : ConnectionLoop.Act → Bool
  | .api .. => true
  | _ => false

def step (s : Callers) : Act → Option Callers
  | .loop a =>
    if s.stage none = .idle ∧ isApi a = false then
      (s.loop.step a).map fun loop => { s with loop := loop }
    else none
  | .startRead t =>
    if s.Ready t then some (s.runInLoop t ⟨none, .eagain⟩ .startReadInLoop) else none
  | .stopRead t =>
    if s.Ready t then some (s.runInLoop t ⟨none, .eagain⟩ .stopReadInLoop) else none
  | .send t message =>
    if s.Ready t then
      if s.loop.conn.state = .kConnected then
        some ({ s with calls := s.calls + 1 }.enter t (.sending s.calls message))
      else some s
    else none
  | .shutdown t =>
    if s.Ready t then
      let s := { s with covered := s.returned }
      if s.loop.conn.state = .kConnected then some (s.enter t .shutting) else some s
    else none
  | .advance t k =>
    match s.stage t with
    | .idle => none
    | .sending call message =>
      some (({ s with returned := s.returned ++ [call] }.enter t .idle).runInLoop t k
        (.sendInLoop call message))
    | .shutting => some ((s.enter t .shut).onConn (·.setState .kDisconnecting))
    | .shut => some ((s.enter t .idle).runInLoop t k .shutdownInLoop)

/-- What was sent before a `shutdown()` was taken before the half-close, and everything taken was
on the wire then. -/
def Delivered (s : Callers) : Prop :=
  TakenBefore s.covered s.loop.conn.notes ∧ Flushed s.loop.conn.notes

instance (s : Callers) : Decidable s.Delivered := inferInstanceAs (Decidable (_ ∧ _))

/-- The kernel reports no fatal error in a step. -/
def Act.NotFatal : Act → Prop
  | .loop a => a.NotFatal
  | .advance _ k => TcpConnection.NotFatal k
  | _ => True

instance : DecidablePred Act.NotFatal := fun a => by
  cases a <;> unfold Act.NotFatal <;> infer_instance

/-- No message sent before a `shutdown()` waits in the queue. -/
def NoneWaits (s : Callers) : Prop := ∀ n ∈ s.covered, n ∉ waiting s.loop.queue

instance (s : Callers) : Decidable s.NoneWaits := inferInstanceAs (Decidable (∀ n ∈ _, _))

/-- The condition on a step.  Where `shutdown()` in the loop thread or `handleWrite` half-closes,
no message sent before a `shutdown()` waits in the queue; and when a `shutdown()` begins, no
message already sent was overtaken by the half-close of an earlier one. -/
def InOrder (s : Callers) : Act → Prop
  | .advance none _ => s.stage none = .shut → s.loop.conn.channel.isWriting = false → s.NoneWaits
  | .loop (.goOn _ k) => s.loop.conn.tasks.head? = some (.channel .write) →
    s.loop.conn.channel.isWriting = true → s.loop.conn.drains k →
    s.loop.conn.state = .kDisconnecting → s.NoneWaits
  | .shutdown _ => TakenBefore s.returned s.loop.conn.notes ∧ InFront s.returned s.loop.queue
  | _ => True

instance (s : Callers) (a : Act) : Decidable (s.InOrder a) := by
  unfold InOrder
  split <;> infer_instance

/-! ## What a step keeps -/

/-- What is kept for the queue and the notes. -/
structure Ordered (covered returned : List Nat) (queue : List Functor) (notes : List Note) :
    Prop where
  accounted : ∀ n ∈ returned, n ∈ waiting queue ∨ n ∈ taken notes
  front : InFront covered queue
  taken : TakenBefore covered notes
  flushed : Flushed notes

theorem Ordered.still {covered returned : List Nat} {queue queue' : List Functor}
    {notes new : List Note} (ordered : Ordered covered returned queue notes)
    (still : ∀ n ∈ new, n.isHalfClose = false)
    (waits : ∀ n ∈ waiting queue, n ∈ waiting queue' ∨ n ∈ Net.taken new)
    (front : InFront covered queue') : Ordered covered returned queue' (notes ++ new) where
  accounted n mem := by
    rw [taken_append, List.mem_append]
    rcases ordered.accounted n mem with wait | took
    · exact (waits n wait).imp id .inr
    · exact .inr (.inl took)
  front := front
  taken := ordered.taken.still still
  flushed := ordered.flushed.still still

/-- The queue changes. -/
theorem Ordered.requeue {covered returned : List Nat} {queue queue' : List Functor}
    {notes : List Note} (ordered : Ordered covered returned queue notes)
    (waits : ∀ n ∈ waiting queue, n ∈ waiting queue') (front : InFront covered queue') :
    Ordered covered returned queue' notes :=
  { ordered with
    accounted := fun n mem => (ordered.accounted n mem).imp (waits n) id
    front := front }

/-- A half-close while none of the covered messages waits, and with everything on the wire. -/
theorem Ordered.half {covered returned : List Nat} {queue : List Functor}
    {notes : List Note} (ordered : Ordered covered returned queue notes)
    (sent : ∀ n ∈ covered, n ∈ returned) (none_waits : ∀ n ∈ covered, n ∉ waiting queue)
    (flushed : wire notes = given notes) (state : StateE) (unsent : List UInt8) :
    Ordered covered returned queue (notes ++ [.shutdownWrite state unsent]) where
  accounted n mem := by
    rw [taken_append, List.mem_append]
    exact (ordered.accounted n mem).imp id .inl
  front := ordered.front
  taken := atHalfClose_concat.mpr ⟨ordered.taken, fun _ n mem =>
    (ordered.accounted n (sent n mem)).resolve_left (none_waits n mem)⟩
  flushed := atHalfClose_concat.mpr ⟨ordered.flushed, fun _ => flushed⟩

theorem call_of_callback {f : Functor} (callback : f.Callback) : f.call = none := by
  cases f <;> first | rfl | exact callback.elim

/-- The queue loses no message that is not taken. -/
theorem waits_append {queue added : List Functor} {n : Nat} (mem : n ∈ waiting queue) :
    n ∈ waiting (queue ++ added) := by
  rw [waiting_append]
  exact List.mem_append_left _ mem

/-- `shutdownInLoop`, called when no covered message waits. -/
theorem Ordered.shutdownInLoop {covered returned : List Nat} {queue : List Functor}
    {c : TcpConnection} (ordered : Ordered covered returned queue c.notes)
    (sent : ∀ n ∈ covered, n ∈ returned)
    (none_waits : c.channel.isWriting = false → ∀ n ∈ covered, n ∉ waiting queue)
    (flow : c.Flow) (alive : c.state ≠ .kDisconnected) :
    Ordered covered returned queue c.shutdownInLoop.notes := by
  unfold TcpConnection.shutdownInLoop
  split
  · exact ordered
  · next idle =>
    have empty : c.outputBuffer.readable = [] := by
      by_contra left
      exact idle (flow.writing alive left)
    have flushed := flow.stream
    rw [empty, List.append_nil] at flushed
    exact ordered.half sent (none_waits (by simpa using idle)) flushed _ _

/-- `handleWrite`, where a half-close finds no covered message waiting. -/
theorem Ordered.handleWrite {covered returned : List Nat} {queue : List Functor}
    {c : TcpConnection} (ordered : Ordered covered returned queue c.notes)
    (sent : ∀ n ∈ covered, n ∈ returned) (k : KernelWrite)
    (none_waits : c.channel.isWriting = true → c.drains k → c.state = .kDisconnecting →
      ∀ n ∈ covered, n ∉ waiting queue)
    (flow : c.Flow) : Ordered covered returned queue (c.handleWrite k).notes := by
  cases writing : c.channel.isWriting with
  | false =>
    rw [TcpConnection.handleWrite_idle writing]
    exact ordered
  | true =>
    have flow' := (TcpConnection.handleWrite_flow flow k).1
    have stream := flow'.stream
    rw [TcpConnection.handleWrite_writing writing] at stream ⊢
    dsimp only at stream ⊢
    have quiet : ∀ n ∈ Note.wrote k c.outputBuffer.readable ::
        (if c.drains k ∧ c.writeCompleteCallback then [.queued .writeCompleteCallback] else []),
        n.isHalfClose = false := by
      intro n mem
      rcases List.mem_cons.mp mem with rfl | mem
      · rfl
      · rw [List.mem_singleton.mp (List.mem_ite_nil_right.mp mem).2]
        rfl
    rw [← List.cons_append, ← List.append_assoc] at stream ⊢
    have before := ordered.still quiet (fun n mem => .inl mem) ordered.front
    by_cases half : c.drains k ∧ c.state = .kDisconnecting
    · rw [if_pos half] at stream ⊢
      refine before.half sent (none_waits writing half.1 half.2) ?_ _ _
      have positive : 0 < k.accepted c.outputBuffer.readableBytes := half.1.1
      rw [if_pos positive, Buffer.readable_retrieve,
        List.drop_eq_nil_of_le (by rw [Buffer.readable_length]; exact half.1.2),
        List.append_nil] at stream
      rw [wire_append _ [_], given_append _ [_]] at stream
      simpa [wire, given] using stream
    · rw [if_neg half, List.append_nil]
      exact before

theorem sendInLoop_taken {c : TcpConnection} (alive : c.state ≠ .kDisconnected) (k : KernelWrite)
    (call : Nat) (message : List UInt8) :
    ∃ new, (c.sendInLoop k call message).notes = c.notes ++ new ∧
      (∀ n ∈ new, n.isHalfClose = false) ∧ call ∈ Net.taken new := by
  obtain ⟨queued, -, noted, -, -⟩ := (TcpConnection.sendInLoop_sent alive k call message).queue
  refine ⟨_, noted, ?_, by simp [Net.taken, Note.call]⟩
  intro n mem
  rcases List.mem_cons.mp mem with rfl | mem
  · rfl
  rcases List.mem_append.mp mem with mem | mem
  · rw [List.mem_singleton.mp (List.mem_ite_nil_right.mp mem).2]
    rfl
  · obtain ⟨f, -, rfl⟩ := List.mem_map.mp mem
    rfl

/-- A functor other than `shutdownInLoop` does not half-close, and takes the message it
carries. -/
theorem callFunctor_notes {c : TcpConnection} (alive : c.state ≠ .kDisconnected) (k : KernelWrite)
    {f : Functor} (other : f ≠ .shutdownInLoop) :
    ∃ new, (c.callFunctor k f).notes = c.notes ++ new ∧
      (∀ n ∈ new, n.isHalfClose = false) ∧ ∀ n, f.call = some n → n ∈ Net.taken new := by
  have silent (c' : TcpConnection) (same : c'.notes = c.notes) (plain : f.call = none) :
      ∃ new, c'.notes = c.notes ++ new ∧ (∀ n ∈ new, n.isHalfClose = false) ∧
        ∀ n, f.call = some n → n ∈ Net.taken new :=
    ⟨[], by simp [same], by simp, by simp [plain]⟩
  cases f with
  | sendInLoop call message =>
    obtain ⟨new, noted, still, took⟩ := sendInLoop_taken alive k call message
    refine ⟨new, noted, still, ?_⟩
    intro n carries
    rwa [← Option.some.inj carries]
  | shutdownInLoop => exact absurd rfl other
  | forceCloseInLoop =>
    unfold TcpConnection.callFunctor TcpConnection.forceCloseInLoop
    dsimp only
    split
    · exact ⟨[_], rfl, by simp [Note.isHalfClose], by simp [Functor.call]⟩
    · exact silent _ rfl rfl
  | startReadInLoop =>
    unfold TcpConnection.callFunctor TcpConnection.startReadInLoop
    dsimp only
    split <;> exact silent _ rfl rfl
  | stopReadInLoop =>
    unfold TcpConnection.callFunctor TcpConnection.stopReadInLoop
    dsimp only
    split <;> exact silent _ rfl rfl
  | connectEstablished => exact silent _ rfl rfl
  | connectDestroyed =>
    unfold TcpConnection.callFunctor TcpConnection.connectDestroyed
    dsimp only
    split
    · exact silent _ rfl rfl
    · exact ⟨[_], rfl, by simp [Note.isHalfClose], by simp [Functor.call]⟩
  | writeCompleteCallback => exact silent _ rfl rfl
  | highWaterMarkCallback size => exact silent _ rfl rfl

/-- The loop thread does not half-close outside `handleWrite`. -/
theorem goOn_notes {c : TcpConnection} (read : KernelRecv) (k : KernelWrite)
    (other : c.tasks.head? ≠ some (.channel .write)) :
    ∃ new, (c.goOn read k).notes = c.notes ++ new ∧ ∀ n ∈ new, n.isHalfClose = false := by
  have one (n : Note) (plain : n.isHalfClose = false) :
      ∃ new, c.notes ++ [n] = c.notes ++ new ∧ ∀ n ∈ new, n.isHalfClose = false :=
    ⟨[n], rfl, fun m mem => by rwa [List.mem_singleton.mp mem]⟩
  have silent : ∃ new, c.notes = c.notes ++ new ∧ ∀ n ∈ new, n.isHalfClose = false :=
    ⟨[], by simp, by simp⟩
  unfold TcpConnection.goOn
  split
  · exact silent
  · next callback rest next =>
    cases callback with
    | close => exact one _ rfl
    | error => exact silent
    | read =>
      simp only [TcpConnection.channelCallback, TcpConnection.handleRead]
      split
      · exact one _ rfl
      · exact silent
      · exact silent
    | write => simp [next] at other
  · exact silent
  · exact one _ rfl
  · exact one _ rfl

theorem Ordered.callbacks {covered returned : List Nat} {c c' : TcpConnection}
    (ordered : Ordered covered returned (c.functors ++ c.pendingFunctors) c'.notes)
    (only : ConnectionLoop.OnlyCallbacks c c') :
    Ordered covered returned (c'.functors ++ c'.pendingFunctors) c'.notes := by
  obtain ⟨functors, queued, pending, callbacks⟩ := only
  rw [functors, pending, ← List.append_assoc]
  refine ordered.requeue (fun n mem => waits_append mem) (ordered.front.append ?_)
  intro g mem n _
  simp [call_of_callback (callbacks g mem)]

/-- The next functor is called. -/
theorem Ordered.called {covered returned : List Nat} {c : TcpConnection} {k : KernelWrite}
    {f : Functor} {rest : List Functor} (next : c.functors = f :: rest)
    (ordered : Ordered covered returned (c.functors ++ c.pendingFunctors) c.notes)
    (sent : ∀ n ∈ covered, n ∈ returned) (flow : c.Flow) (alive : c.state ≠ .kDisconnected) :
    Ordered covered returned
      ((({ c with functors := rest } : TcpConnection).callFunctor k f).functors ++
        (({ c with functors := rest } : TcpConnection).callFunctor k f).pendingFunctors)
      (({ c with functors := rest } : TcpConnection).callFunctor k f).notes := by
  have front := ordered.front
  rw [next, List.cons_append] at front
  obtain ⟨ahead, behind⟩ := List.pairwise_cons.mp front
  refine Ordered.callbacks ?_ (ConnectionLoop.callFunctor_queue k { c with functors := rest } f)
  by_cases shutdown : f = .shutdownInLoop
  · subst shutdown
    -- every covered message was in front of this functor, so none is behind it
    have popped : Ordered covered returned (rest ++ c.pendingFunctors) c.notes :=
      ordered.requeue (fun n mem => by rw [next] at mem; exact mem) behind
    refine Ordered.shutdownInLoop (c := { c with functors := rest }) popped sent ?_
      (flow.popFunctor rest) alive
    intro _ n cov wait
    obtain ⟨g, mem, carries⟩ := List.mem_filterMap.mp wait
    exact ahead g mem rfl n cov carries
  · obtain ⟨new, noted, still, took⟩ :=
      callFunctor_notes (c := { c with functors := rest }) alive k shutdown
    rw [noted]
    refine ordered.still still ?_ behind
    intro n mem
    simp only [waiting, next, List.cons_append, List.filterMap_cons] at mem
    split at mem
    · exact .inl mem
    · next call carries =>
      rcases List.mem_cons.mp mem with rfl | mem
      · exact .inr (took _ carries)
      · exact .inl mem

/-- A step of the loop. -/
theorem Ordered.loop {covered returned : List Nat} {l l' : ConnectionLoop}
    {a : ConnectionLoop.Act} (ordered : Ordered covered returned l.queue l.conn.notes)
    (sent : ∀ n ∈ covered, n ∈ returned) (flow : l.Flow) (alive : l.conn.state ≠ .kDisconnected)
    (noApi : isApi a = false)
    (none_waits : ∀ read k, a = .goOn read k → l.conn.tasks.head? = some (.channel .write) →
      l.conn.channel.isWriting = true → l.conn.drains k → l.conn.state = .kDisconnecting →
        ∀ n ∈ covered, n ∉ waiting l.queue)
    (move : ConnectionLoop.Move l a l') :
    Ordered covered returned l'.queue l'.conn.notes := by
  cases move with
  | ignored => cases noApi
  | asked => cases noApi
  | ran => cases noApi
  | idle => exact ordered
  | ready => exact ordered
  | handled => exact ordered
  | @wentOn read k busy =>
    refine Ordered.callbacks ?_ (ConnectionLoop.goOn_queue read k l.conn)
    by_cases write : l.conn.tasks.head? = some (.channel .write)
    · cases next : l.conn.tasks with
      | nil => simp [next] at write
      | cons t rest =>
        obtain rfl : t = .channel .write := by simpa [next] using write
        have goes : l.conn.goOn read k =
            ({ l.conn with tasks := rest } : TcpConnection).handleWrite k := by
          simp only [TcpConnection.goOn, next, TcpConnection.channelCallback]
        rw [goes]
        exact Ordered.handleWrite (c := { l.conn with tasks := rest }) ordered sent k
          (none_waits read k rfl write) (flow.conn.popTask rest)
    · obtain ⟨new, noted, still⟩ := goOn_notes read k write
      rw [noted]
      exact ordered.still still (fun n mem => .inl mem) ordered.front
  | swapped _ _ called =>
    have same : l.queue = l.conn.pendingFunctors ++ [] := by
      simp [ConnectionLoop.queue, called]
    rw [same] at ordered
    exact ordered
  | called next => exact ordered.called next sent flow.conn alive
  | released =>
    have longer : Ordered covered returned
        ((l.conn.functors ++ l.conn.pendingFunctors) ++ [.connectDestroyed])
        (l.conn.notes ++ [.queued .connectDestroyed]) :=
      ordered.still (by simp [Note.isHalfClose]) (fun n mem => .inl (waits_append mem))
        (ordered.front.append (by simp [Functor.call]))
    rw [List.append_assoc] at longer
    exact longer
  | destroyed =>
    refine Ordered.callbacks ?_ (ConnectionLoop.callFunctor_queue ⟨none, .eagain⟩ l.conn
      .connectDestroyed)
    obtain ⟨new, noted, still, -⟩ :=
      callFunctor_notes alive ⟨none, .eagain⟩ (f := .connectDestroyed) (by simp)
    change Ordered covered returned _
      (l.conn.callFunctor ⟨none, .eagain⟩ .connectDestroyed).notes
    rw [noted]
    exact ordered.still still (fun n mem => .inl mem) ordered.front

/-! ## Runs -/

theorem flow_queueInLoop {l : ConnectionLoop} (flow : l.Flow) {f : Functor}
    (noCallback : f ≠ .writeCompleteCallback) (noEstablished : f ≠ .connectEstablished)
    (asked : f = .shutdownInLoop → l.conn.state = .kDisconnecting ∨ l.conn.state = .kDisconnected) :
    ConnectionLoop.Flow { l with conn := l.conn.queueInLoop f } := by
  have mem_queue {g : Functor}
      (mem : g ∈ ConnectionLoop.queue { l with conn := l.conn.queueInLoop f }) :
      g ∈ l.queue ∨ g = f := by
    simp only [ConnectionLoop.queue, TcpConnection.queueInLoop, ← List.append_assoc] at mem
    exact (List.mem_append.mp mem).imp id List.mem_singleton.mp
  refine ⟨(TcpConnection.queueInLoop_flow flow.conn noCallback).1, ?_, ?_⟩
  · intro mem
    exact (mem_queue mem).elim flow.established fun same => noEstablished same.symm
  · intro mem
    exact (mem_queue mem).elim flow.asked fun same => asked same.symm

theorem flow_callFunctor {l : ConnectionLoop} (flow : l.Flow) {k : KernelWrite}
    (answer : TcpConnection.NotFatal k) {f : Functor} (noEstablished : f ≠ .connectEstablished)
    (asked : f = .shutdownInLoop → l.conn.state = .kDisconnecting ∨ l.conn.state = .kDisconnected) :
    ConnectionLoop.Flow { l with conn := l.conn.callFunctor k f } := by
  obtain ⟨functors, queued, pending, callbacks⟩ := ConnectionLoop.callFunctor_queue k l.conn f
  have mem_queue {g : Functor}
      (mem : g ∈ ConnectionLoop.queue { l with conn := l.conn.callFunctor k f }) :
      g ∈ l.queue ∨ g.Callback := by
    simp only [ConnectionLoop.queue, functors, pending, ← List.append_assoc] at mem
    exact (List.mem_append.mp mem).imp id (callbacks g)
  have age := TcpConnection.age_callFunctor k l.conn (f := f) fun est => absurd est noEstablished
  refine ⟨(TcpConnection.callFunctor_flow flow.conn answer noEstablished asked).1, ?_, ?_⟩
  · intro mem
    exact (mem_queue mem).elim flow.established id
  · intro mem
    rcases mem_queue mem with mem | callback
    · exact ConnectionLoop.StateE.shut_of_le (flow.asked mem) age
    · exact callback.elim

theorem flow_runInLoop {l : ConnectionLoop} (flow : l.Flow) (inLoop : Bool) {k : KernelWrite}
    (answer : TcpConnection.NotFatal k) {f : Functor} (noCallback : f ≠ .writeCompleteCallback)
    (noEstablished : f ≠ .connectEstablished)
    (asked : f = .shutdownInLoop → l.conn.state = .kDisconnecting ∨ l.conn.state = .kDisconnected) :
    ConnectionLoop.Flow { l with conn := l.conn.runInLoop inLoop k f } := by
  cases inLoop with
  | false => exact flow_queueInLoop flow noCallback noEstablished asked
  | true => exact flow_callFunctor flow answer noEstablished asked

theorem flow_disconnecting {l : ConnectionLoop} (flow : l.Flow)
    (alive : l.conn.state ≠ .kDisconnected) :
    ConnectionLoop.Flow { l with conn := l.conn.setState .kDisconnecting } where
  conn := flow.conn.disconnecting alive
  established := flow.established
  asked _ := .inl rfl

/-- A functor is queued. -/
theorem Ordered.queueInLoop {covered returned : List Nat} {l : ConnectionLoop}
    (ordered : Ordered covered returned l.queue l.conn.notes) (f : Functor)
    (other : ∀ n ∈ covered, f.call ≠ some n) :
    Ordered covered returned (ConnectionLoop.queue { l with conn := l.conn.queueInLoop f })
      (l.conn.queueInLoop f).notes := by
  have longer : Ordered covered returned (l.queue ++ [f]) (l.conn.notes ++ [.queued f]) :=
    ordered.still (by simp [Note.isHalfClose]) (fun n mem => .inl (waits_append mem))
      (ordered.front.append (by simpa using other))
  simp only [ConnectionLoop.queue, List.append_assoc] at longer
  exact longer

/-- A functor is called at once. -/
theorem Ordered.callFunctor {covered returned : List Nat} {l : ConnectionLoop}
    (ordered : Ordered covered returned l.queue l.conn.notes)
    (alive : l.conn.state ≠ .kDisconnected) (k : KernelWrite) {f : Functor}
    (other : f ≠ .shutdownInLoop) :
    Ordered covered returned (ConnectionLoop.queue { l with conn := l.conn.callFunctor k f })
      (l.conn.callFunctor k f).notes := by
  obtain ⟨new, noted, still, -⟩ := callFunctor_notes alive k other
  refine Ordered.callbacks ?_ (ConnectionLoop.callFunctor_queue k l.conn f)
  rw [noted]
  exact ordered.still still (fun n mem => .inl mem) ordered.front

theorem Ordered.returns {covered returned : List Nat} {queue : List Functor} {notes : List Note}
    (ordered : Ordered covered returned queue notes) {call : Nat}
    (there : call ∈ waiting queue ∨ call ∈ Net.taken notes) :
    Ordered covered (returned ++ [call]) queue notes :=
  { ordered with
    accounted := fun n mem => by
      rcases List.mem_append.mp mem with old | new
      · exact ordered.accounted n old
      · rwa [List.mem_singleton.mp new] }

/-- What is kept. -/
structure Kept (s : Callers) : Prop where
  flow : s.loop.Flow
  alive : s.loop.conn.state ≠ .kDisconnected
  shut : ∀ t, s.stage t = .shut →
    s.loop.conn.state = .kDisconnecting ∨ s.loop.conn.state = .kDisconnected
  fresh : ∀ t n message, s.stage t = .sending n message → n < s.calls ∧ n ∉ s.returned
  apart : ∀ t u n message message', s.stage t = .sending n message →
    s.stage u = .sending n message' → t = u
  bound : ∀ n ∈ s.returned, n < s.calls
  sent : ∀ n ∈ s.covered, n ∈ s.returned
  ordered : Ordered s.covered s.returned s.loop.queue s.loop.conn.notes

theorem Kept.delivered {s : Callers} (kept : Kept s) : s.Delivered :=
  ⟨kept.ordered.taken, kept.ordered.flushed⟩

theorem kept_established (writeCompleteCallback highWaterMarkCallback : Bool)
    (highWaterMark : Nat) :
    Kept (established writeCompleteCallback highWaterMarkCallback highWaterMark) where
  flow := ConnectionLoop.flow_established ..
  alive := nofun
  shut := nofun
  fresh := nofun
  apart := nofun
  bound := nofun
  sent := nofun
  ordered := ⟨nofun, List.Pairwise.nil, nofun, nofun⟩

/-- A step that leaves the stages, the calls and the coverage alone. -/
theorem Kept.onLoop {s : Callers} (kept : Kept s) {l : ConnectionLoop} (flow : l.Flow)
    (alive : l.conn.state ≠ .kDisconnected) (age : s.loop.conn.state.age ≤ l.conn.state.age)
    (ordered : Ordered s.covered s.returned l.queue l.conn.notes) :
    Kept { s with loop := l } :=
  { kept with
    flow := flow
    alive := alive
    shut := fun t shut => ConnectionLoop.StateE.shut_of_le (kept.shut t shut) age
    ordered := ordered }

theorem Kept.reading {s : Callers} (kept : Kept s) (t : Thread) {f : Functor}
    (reads : f = .startReadInLoop ∨ f = .stopReadInLoop)
    (alive : (s.runInLoop t ⟨none, .eagain⟩ f).loop.conn.state ≠ .kDisconnected) :
    Kept (s.runInLoop t ⟨none, .eagain⟩ f) := by
  have plain : f.call = none ∧ f ≠ .writeCompleteCallback ∧ f ≠ .connectEstablished ∧
      f ≠ .shutdownInLoop := by
    rcases reads with rfl | rfl <;> exact ⟨rfl, nofun, nofun, nofun⟩
  have flow := flow_runInLoop kept.flow t.isNone (k := ⟨none, .eagain⟩) (fun _ => rfl)
    plain.2.1 plain.2.2.1 fun shutdown => absurd shutdown plain.2.2.2
  apply kept.onLoop (l := (s.runInLoop t ⟨none, .eagain⟩ f).loop) flow alive
  · cases t with
    | none => exact TcpConnection.age_callFunctor _ _ fun est => absurd est plain.2.2.1
    | some n => exact Nat.le_refl _
  · cases t with
    | none => exact kept.ordered.callFunctor kept.alive _ plain.2.2.2
    | some n => exact kept.ordered.queueInLoop f (by simp [plain.1])

/-- A thread enters a stage that carries no message. -/
theorem Kept.enter {s : Callers} (kept : Kept s) (t : Thread) {stage : Stage}
    (plain : ∀ n message, stage ≠ .sending n message)
    (shut : stage = .shut →
      s.loop.conn.state = .kDisconnecting ∨ s.loop.conn.state = .kDisconnected) :
    Kept (s.enter t stage) := by
  have other {u : Thread} {n : Nat} {message : List UInt8}
      (sending : (s.enter t stage).stage u = .sending n message) :
      s.stage u = .sending n message := by
    by_cases same : u = t
    · subst same
      simp only [Callers.enter, Function.update_self] at sending
      exact absurd sending (plain n message)
    · simpa [Callers.enter, same] using sending
  exact
    { kept with
      shut := fun u shut' => by
        by_cases same : u = t
        · subst same
          simp only [Callers.enter, Function.update_self] at shut'
          exact shut shut'
        · exact kept.shut u (by simpa [Callers.enter, same] using shut')
      fresh := fun u n message sending => kept.fresh u n message (other sending)
      apart := fun u v n m m' su sv => kept.apart u v n m m' (other su) (other sv) }

/-- `send()` has found `kConnected`. -/
theorem Kept.send {s : Callers} (kept : Kept s) (t : Thread) (message : List UInt8) :
    Kept ({ s with calls := s.calls + 1 }.enter t (.sending s.calls message)) := by
  have later {u : Thread} {n : Nat} {m : List UInt8} (sending : s.stage u = .sending n m) :
      n ≠ s.calls := Nat.ne_of_lt (kept.fresh u n m sending).1
  refine
    { kept with
      shut := fun u shut => ?_
      fresh := fun u n m sending => ?_
      apart := fun u v n m m' su sv => ?_
      bound := fun n mem => Nat.lt_succ_of_lt (kept.bound n mem) }
  · by_cases same : u = t
    · subst same
      simp [Callers.enter] at shut
    · exact kept.shut u (by simpa [Callers.enter, same] using shut)
  · by_cases same : u = t
    · subst same
      simp only [Callers.enter, Function.update_self, Stage.sending.injEq] at sending
      obtain ⟨rfl, -⟩ := sending
      exact ⟨Nat.lt_succ_self _, fun mem => Nat.lt_irrefl _ (kept.bound _ mem)⟩
    · have before := kept.fresh u n m (by simpa [Callers.enter, same] using sending)
      exact ⟨Nat.lt_succ_of_lt before.1, before.2⟩
  · by_cases same : u = t <;> by_cases same' : v = t
    · rw [same, same']
    · subst same
      simp only [Callers.enter, Function.update_self, Stage.sending.injEq] at su
      simp only [Callers.enter, Function.update_of_ne same'] at sv
      exact absurd su.1.symm (later sv)
    · subst same'
      simp only [Callers.enter, Function.update_self, Stage.sending.injEq] at sv
      simp only [Callers.enter, Function.update_of_ne same] at su
      exact absurd sv.1.symm (later su)
    · simp only [Callers.enter, Function.update_of_ne same] at su
      simp only [Callers.enter, Function.update_of_ne same'] at sv
      exact kept.apart u v n m m' su sv

/-- `send()` runs or queues its functor, and returns. -/
theorem Kept.sends {s : Callers} (kept : Kept s) {t : Thread} {call : Nat} {message : List UInt8}
    (stage : s.stage t = .sending call message) {k : KernelWrite}
    (answer : TcpConnection.NotFatal k) :
    Kept (({ s with returned := s.returned ++ [call] }.enter t .idle).runInLoop t k
      (.sendInLoop call message)) := by
  have fresh := kept.fresh t call message stage
  have uncovered : ∀ n ∈ s.covered, (Functor.sendInLoop call message).call ≠ some n := by
    intro n cov carries
    exact fresh.2 (Option.some.inj carries ▸ kept.sent n cov)
  have other {u : Thread} {n : Nat} {m : List UInt8}
      (sending : Function.update s.stage t .idle u = .sending n m) :
      u ≠ t ∧ s.stage u = .sending n m := by
    by_cases same : u = t
    · subst same
      simp at sending
    · exact ⟨same, by simpa [same] using sending⟩
  have entered : Kept (s.enter t .idle) := kept.enter t (fun _ _ => (by simp)) (by simp)
  have state : (s.loop.conn.runInLoop t.isNone k (.sendInLoop call message)).state =
      s.loop.conn.state := by
    cases t with
    | none => exact (TcpConnection.traffic_sendInLoop ..).state
    | some n => rfl
  have ordered : Ordered s.covered (s.returned ++ [call])
      (ConnectionLoop.queue { s.loop with
        conn := s.loop.conn.runInLoop t.isNone k (.sendInLoop call message) })
      (s.loop.conn.runInLoop t.isNone k (.sendInLoop call message)).notes := by
    cases t with
    | none =>
      refine (kept.ordered.callFunctor kept.alive k (f := .sendInLoop call message) (by simp)).returns
        (.inr ?_)
      obtain ⟨new, noted, -, took⟩ := sendInLoop_taken kept.alive k call message
      change call ∈ taken (s.loop.conn.sendInLoop k call message).notes
      rw [noted, taken_append]
      exact List.mem_append_right _ took
    | some n =>
      refine (kept.ordered.queueInLoop _ uncovered).returns (.inl ?_)
      simp [ConnectionLoop.queue, TcpConnection.queueInLoop, waiting, Functor.call]
  exact
    { flow := flow_runInLoop kept.flow t.isNone answer (by simp) (by simp) (by simp)
      alive := by
        change (s.loop.conn.runInLoop t.isNone k (.sendInLoop call message)).state ≠ _
        rw [state]
        exact kept.alive
      shut := fun u shut => by
        change (s.loop.conn.runInLoop t.isNone k (.sendInLoop call message)).state = _ ∨
          (s.loop.conn.runInLoop t.isNone k (.sendInLoop call message)).state = _
        rw [state]
        exact entered.shut u shut
      fresh := fun u n m sending => by
        obtain ⟨apart, before⟩ := other sending
        refine ⟨(kept.fresh u n m before).1, ?_⟩
        intro mem
        rcases List.mem_append.mp mem with mem | mem
        · exact (kept.fresh u n m before).2 mem
        · obtain rfl := List.mem_singleton.mp mem
          exact apart (kept.apart u t n m message before stage)
      apart := entered.apart
      bound := fun n mem => by
        rcases List.mem_append.mp mem with mem | mem
        · exact kept.bound n mem
        · obtain rfl := List.mem_singleton.mp mem
          exact fresh.1
      sent := fun n cov => List.mem_append_left _ (kept.sent n cov)
      ordered := ordered }

/-- `shutdown()` has set `kDisconnecting`. -/
theorem Kept.shuts {s : Callers} (kept : Kept s) (t : Thread) :
    Kept ((s.enter t .shut).onConn (·.setState .kDisconnecting)) := by
  have set : Kept { s with loop := { s.loop with
      conn := s.loop.conn.setState .kDisconnecting } } :=
    { kept with
      flow := flow_disconnecting kept.flow kept.alive
      alive := nofun
      shut := fun _ _ => .inl rfl }
  exact set.enter t (fun _ _ => nofun) fun _ => .inl rfl

/-- `shutdown()` runs or queues its functor, and returns. -/
theorem Kept.shutdown {s : Callers} (kept : Kept s) {t : Thread} (stage : s.stage t = .shut)
    {k : KernelWrite} (answer : TcpConnection.NotFatal k)
    (none_waits : t = none → s.loop.conn.channel.isWriting = false → s.NoneWaits) :
    Kept ((s.enter t .idle).runInLoop t k .shutdownInLoop) := by
  have entered : Kept (s.enter t .idle) := kept.enter t (fun _ _ => nofun) nofun
  have shut := kept.shut t stage
  have flow := flow_runInLoop kept.flow t.isNone answer (f := .shutdownInLoop) nofun nofun
    fun _ => shut
  have state : (s.loop.conn.runInLoop t.isNone k .shutdownInLoop).state =
      s.loop.conn.state := by
    cases t with
    | none => exact (TcpConnection.traffic_shutdownInLoop _).state
    | some n => rfl
  refine entered.onLoop
    (l := { s.loop with conn := s.loop.conn.runInLoop t.isNone k .shutdownInLoop }) flow ?_ ?_ ?_
  · rw [state]
    exact kept.alive
  · exact Nat.le_of_eq (congrArg _ state.symm)
  · cases t with
    | none =>
      exact Ordered.callbacks
        (Ordered.shutdownInLoop kept.ordered kept.sent (none_waits rfl) kept.flow.conn kept.alive)
        (ConnectionLoop.callFunctor_queue k s.loop.conn .shutdownInLoop)
    | some n => exact kept.ordered.queueInLoop _ fun _ _ => nofun

theorem Kept.step {s s' : Callers} {a : Act} (kept : Kept s) (answer : a.NotFatal)
    (alive : s'.loop.conn.state ≠ .kDisconnected) (inOrder : s.InOrder a)
    (moved : step s a = some s') : Kept s' := by
  cases a with
  | loop a =>
    obtain ⟨⟨-, noApi⟩, mapped⟩ := Option.ite_none_right_eq_some.mp moved
    obtain ⟨l, went, rfl⟩ := Option.map_eq_some_iff.mp mapped
    have move := ConnectionLoop.step_cases went
    refine kept.onLoop (kept.flow.step answer move) alive
      (move.age fun mem => absurd mem kept.flow.established) ?_
    refine kept.ordered.loop kept.sent kept.flow kept.alive noApi ?_ move
    rintro read k rfl head writing drains disconnecting
    exact inOrder head writing drains disconnecting
  | startRead t =>
    obtain ⟨-, rfl⟩ := some_of_guard moved
    exact kept.reading t (.inl rfl) alive
  | stopRead t =>
    obtain ⟨-, rfl⟩ := some_of_guard moved
    exact kept.reading t (.inr rfl) alive
  | send t message =>
    obtain ⟨-, moved⟩ := Option.ite_none_right_eq_some.mp moved
    split at moved
    · obtain rfl := Option.some.inj moved
      exact kept.send t message
    · obtain rfl := Option.some.inj moved
      exact kept
  | shutdown t =>
    obtain ⟨-, moved⟩ := Option.ite_none_right_eq_some.mp moved
    have covers : Kept { s with covered := s.returned } :=
      { kept with
        sent := fun _ mem => mem
        ordered := { kept.ordered with front := inOrder.2, taken := inOrder.1 } }
    dsimp only at moved
    split at moved
    · obtain rfl := Option.some.inj moved
      exact covers.enter t (fun _ _ => nofun) nofun
    · obtain rfl := Option.some.inj moved
      exact covers
  | advance t k =>
    simp only [Callers.step] at moved
    cases stage : s.stage t with
    | idle => simp [stage] at moved
    | sending call message =>
      simp only [stage] at moved
      obtain rfl := Option.some.inj moved
      exact kept.sends stage answer
    | shutting =>
      simp only [stage] at moved
      obtain rfl := Option.some.inj moved
      exact kept.shuts t
    | shut =>
      simp only [stage] at moved
      obtain rfl := Option.some.inj moved
      apply kept.shutdown stage answer
      rintro rfl idle
      exact inOrder stage idle

/-- In every run in which the connection is not closed, the kernel reports no fatal error and
every step meets the condition, what was sent before a `shutdown()` is on the wire before the
half-close. -/
theorem delivered_before_halfClose (writeCompleteCallback highWaterMarkCallback : Bool)
    (highWaterMark : Nat) (acts : List Act) (answers : ∀ a ∈ acts, a.NotFatal)
    (alive : EachStep step (fun _ _ s' => s'.loop.conn.state ≠ .kDisconnected)
      (established writeCompleteCallback highWaterMarkCallback highWaterMark) acts)
    (inOrder : EachStep step (fun s a _ => s.InOrder a)
      (established writeCompleteCallback highWaterMarkCallback highWaterMark) acts) :
    Always step Delivered
      (established writeCompleteCallback highWaterMarkCallback highWaterMark) acts := by
  refine Always.of_invariant
    (C := fun s a s' => Act.NotFatal a ∧ s'.loop.conn.state ≠ .kDisconnected ∧ s.InOrder a)
    (fun s a s' (kept : Kept s) ok moved => kept.step ok.1 ok.2.1 ok.2.2 moved)
    (fun s kept => kept.delivered) (kept_established ..) ?_
  exact (EachStep.of_forall answers _).and (alive.and inOrder)

/-- A thread sends, and then another one shuts down. -/
def sentAndShut : List Act :=
  [.send (some 0) [7], .advance (some 0) ⟨none, .eagain⟩, .shutdown (some 1),
    .advance (some 1) ⟨none, .eagain⟩, .advance (some 1) ⟨none, .eagain⟩,
    .loop (.goOn (.ok []) ⟨none, .eagain⟩), .loop (.poll none), .loop .doPendingFunctors,
    .loop (.callFunctor ⟨some 1, .eagain⟩), .loop (.callFunctor ⟨none, .eagain⟩)]

theorem delivered_before_halfClose_sentAndShut :
    Always step Delivered (established false false 0) sentAndShut :=
  delivered_before_halfClose false false 0 sentAndShut (by decide) (by decide +kernel)
    (by decide +kernel)

/-- A thread sends, and the loop thread shuts down: the half-close overtakes the message. -/
def overtaken : List Act :=
  [.send (some 0) [7], .advance (some 0) ⟨none, .eagain⟩, .shutdown none,
    .advance none ⟨none, .eagain⟩, .advance none ⟨none, .eagain⟩]

theorem overtaken_not_delivered :
    (∀ a ∈ overtaken, a.NotFatal) ∧
      EachStep step (fun _ _ s' => s'.loop.conn.state ≠ .kDisconnected)
        (established false false 0) overtaken ∧
      ¬ Always step Delivered (established false false 0) overtaken := by
  decide +kernel

end Callers

end NewFramework.Net
