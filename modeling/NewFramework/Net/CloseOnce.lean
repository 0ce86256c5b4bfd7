import NewFramework.Net.ConnectionLoop

/-!
# A connection is closed once

`handleClose` of `muduo/net/TcpConnection.cpp` is reached from `forceCloseInLoop`, which looks at
`state_`, and from the channel, which does not.  So the connection is closed once as long as its
descriptor stays out of the kernel set after `disableAll`, and no second callback of the same event
closes it again.  `updateChannel` puts a descriptor that it has taken out back at the next update,
whatever the mask: a connection that does not read when it is closed comes back with an empty mask,
and `POLLHUP` is reported for it all the same.
-/

namespace NewFramework.Net
open NewFramework.Lib

/-- `assert(state_ == kConnected || state_ == kDisconnecting)` of `handleClose` held. -/
def Note.EnteredOpen : Note → Prop
  | .handleClose state => state = .kConnected ∨ state = .kDisconnecting
  | _ => True

instance : DecidablePred Note.EnteredOpen := fun n => by
  cases n <;> unfold Note.EnteredOpen <;> infer_instance

theorem Note.Transfer.enteredOpen {n : Note} (transfer : n.Transfer) : n.EnteredOpen := by
  cases n <;> trivial

theorem Note.Transfer.ne_closeCallback {n : Note} (transfer : n.Transfer) :
    n ≠ .closeCallback := by
  rintro rfl
  exact transfer

namespace TcpConnection

/-- `handleClose` was entered on open connections only, and `closeCallback_` called at most
once. -/
def ClosedOnce (c : TcpConnection) : Prop :=
  (∀ n ∈ c.notes, n.EnteredOpen) ∧ c.notes.count .closeCallback ≤ 1

instance (c : TcpConnection) : Decidable c.ClosedOnce := inferInstanceAs (Decidable (_ ∧ _))

/-- A closed connection is out of the kernel set, nothing that the loop has still to do for it
closes it again, and its close callback has been called or is about to be. -/
structure Closed (c : TcpConnection) : Prop where
  idle : c.channel.events = kNoneEvent
  out : c.channel.interest = none
  close : .channel .close ∉ c.tasks
  read : .channel .read ∈ c.tasks → c.channel.wants .close = true
  callbacks : c.tasks.count .closeCallback + c.notes.count .closeCallback ≤ 1

/-- What is kept for a connection to be closed once. -/
structure Once (c : TcpConnection) : Prop where
  entered : ∀ n ∈ c.notes, n.EnteredOpen
  first : .channel .close ∉ c.tasks.tail
  single : c.tasks.count (.channel .read) ≤ 1
  hup : .channel .close ∈ c.tasks → c.channel.wants .close = true
  kept : .remove ∉ c.tasks
  opened : c.state ≠ .kDisconnected → .closeCallback ∉ c.tasks ∧ .closeCallback ∉ c.notes
  closed : c.state = .kDisconnected → c.Closed

theorem Once.closedOnce {c : TcpConnection} (once : c.Once) : c.ClosedOnce := by
  refine ⟨once.entered, ?_⟩
  by_cases closed : c.state = .kDisconnected
  · have := (once.closed closed).callbacks
    omega
  · rw [List.count_eq_zero.mpr (once.opened closed).2]
    decide

theorem Once.traffic {c c' : TcpConnection} (once : c.Once) (moved : Traffic c c') : c'.Once := by
  obtain ⟨new, noted, transfer⟩ := moved.notes
  have wants := Channel.wants_congr moved.revents
  have silent : new.count .closeCallback = 0 :=
    List.count_eq_zero.mpr fun mem => (transfer _ mem).ne_closeCallback rfl
  refine
    { entered := fun n mem => ?_
      first := by rw [moved.tasks]; exact once.first
      single := by rw [moved.tasks]; exact once.single
      hup := by rw [moved.tasks, wants]; exact once.hup
      kept := by rw [moved.tasks]; exact once.kept
      opened := fun alive => ?_
      closed := fun closed => ?_ }
  · rw [noted] at mem
    rcases List.mem_append.mp mem with old | new
    · exact once.entered n old
    · exact (transfer n new).enteredOpen
  · rw [moved.state] at alive
    rw [moved.tasks, noted, List.mem_append]
    refine ⟨(once.opened alive).1, ?_⟩
    intro mem
    rcases mem with old | new
    · exact (once.opened alive).2 old
    · exact (transfer _ new).ne_closeCallback rfl
  · rw [moved.state] at closed
    have before := once.closed closed
    have channel := moved.closed closed (Channel.isWriting_none before.idle)
    exact
      { idle := by rw [channel]; exact before.idle
        out := by rw [channel]; exact before.out
        close := by rw [moved.tasks]; exact before.close
        read := by rw [moved.tasks, channel]; exact before.read
        callbacks := by
          rw [moved.tasks, noted, List.count_append, silent]
          exact before.callbacks }

theorem Once.disconnecting {c : TcpConnection} (once : c.Once)
    (alive : c.state ≠ .kDisconnected) : (c.setState .kDisconnecting).Once :=
  { once with opened := fun _ => once.opened alive, closed := nofun }

theorem Once.queueInLoop {c : TcpConnection} (once : c.Once) (f : Functor) :
    (c.queueInLoop f).Once where
  entered n mem := by
    rcases List.mem_append.mp mem with old | new
    · exact once.entered n old
    · rw [List.mem_singleton.mp new]
      trivial
  first := once.first
  single := once.single
  hup := once.hup
  kept := once.kept
  opened alive := by
    refine ⟨(once.opened alive).1, ?_⟩
    intro mem
    rcases List.mem_append.mp mem with old | new
    · exact (once.opened alive).2 old
    · cases List.mem_singleton.mp new
  closed closed := by
    have before := once.closed closed
    have callbacks := before.callbacks
    refine { before with callbacks := ?_ }
    simpa [TcpConnection.queueInLoop, List.count_append] using callbacks

/-- The next task is taken up. -/
theorem Once.popped {c : TcpConnection} (once : c.Once) {t : Task} {rest : List Task}
    (next : c.tasks = t :: rest) :
    ({ c with tasks := rest } : TcpConnection).Once ∧ .channel .close ∉ rest := by
  have first := once.first
  have single := once.single
  rw [next, List.tail_cons] at first
  rw [next, List.count_cons] at single
  have later {u : Task} (mem : u ∈ rest) : u ∈ c.tasks := by
    rw [next]
    exact List.mem_cons_of_mem _ mem
  refine ⟨?_, first⟩
  exact
    { entered := once.entered
      first := fun mem => first (List.mem_of_mem_tail mem)
      single := by dsimp only; omega
      hup := fun mem => once.hup (later mem)
      kept := fun mem => once.kept (later mem)
      opened := fun alive => ⟨fun mem => (once.opened alive).1 (later mem), (once.opened alive).2⟩
      closed := fun closed => by
        have before := once.closed closed
        have callbacks := before.callbacks
        rw [next, List.count_cons] at callbacks
        exact
          { before with
            close := first
            read := fun mem => before.read (later mem)
            callbacks := by dsimp only; omega } }

theorem Once.user {c : TcpConnection} (once : c.Once) (handled : .channel .close ∉ c.tasks) :
    (c.push .user).Once where
  entered := once.entered
  first := handled
  single := by simpa [push] using once.single
  hup mem := once.hup ((List.mem_cons.mp mem).resolve_left nofun)
  kept mem := once.kept ((List.mem_cons.mp mem).resolve_left nofun)
  opened alive := by
    refine ⟨fun mem => (once.opened alive).1 ?_, (once.opened alive).2⟩
    exact (List.mem_cons.mp mem).resolve_left nofun
  closed closed := by
    have before := once.closed closed
    exact
      { before with
        close := fun mem => before.close ((List.mem_cons.mp mem).resolve_left nofun)
        read := fun mem => before.read ((List.mem_cons.mp mem).resolve_left nofun)
        callbacks := by simpa [push] using before.callbacks }

theorem Once.handleClose {c : TcpConnection} (once : c.Once)
    (alive : c.state = .kConnected ∨ c.state = .kDisconnecting)
    (added : c.channel.index = .kAdded) (handled : .channel .close ∉ c.tasks)
    (read : .channel .read ∈ c.tasks → c.channel.wants .close = true) : c.handleClose.Once := by
  have opened := once.opened (by rcases alive with h | h <;> simp [h])
  have wants := Channel.wants_congr (Channel.disableAll_revents c.channel)
  have notes : c.handleClose.notes = c.notes ++ [.handleClose c.state] := rfl
  have tasks : c.handleClose.tasks = .user :: .closeCallback :: c.tasks := rfl
  have channel : c.handleClose.channel = c.channel.disableAll := rfl
  have old {t : Task} (other : t ≠ .user ∧ t ≠ .closeCallback)
      (mem : t ∈ c.handleClose.tasks) : t ∈ c.tasks := by
    simpa [tasks, other.1, other.2] using mem
  exact
    { entered := fun n mem => by
        rw [notes] at mem
        rcases List.mem_append.mp mem with mem | mem
        · exact once.entered n mem
        · rw [List.mem_singleton.mp mem]
          exact alive
      first := fun mem => handled (by simpa [tasks] using mem)
      single := by simpa [tasks] using once.single
      hup := fun mem => absurd (old (by simp) mem) handled
      kept := fun mem => once.kept (old (by simp) mem)
      opened := fun other => absurd rfl other
      closed := fun _ =>
        { idle := Channel.disableAll_events _
          out := Channel.interest_disableAll added
          close := fun mem => handled (old (by simp) mem)
          read := fun mem => by rw [channel, wants]; exact read (old (by simp) mem)
          callbacks := by
            rw [tasks, notes]
            simp [List.count_append, List.count_eq_zero.mpr opened.1,
              List.count_eq_zero.mpr opened.2] } }

theorem Once.removeChannel {c : TcpConnection} (once : c.Once)
    (closed : c.state = .kDisconnected) : c.removeChannel.Once := by
  have before := once.closed closed
  have out : c.channel.removeChannel.interest = none := by
    unfold Channel.removeChannel
    dsimp only
    split
    · rfl
    · exact before.out
  exact
    { once with
      entered := fun n mem => by
        rcases List.mem_append.mp mem with mem | mem
        · exact once.entered n mem
        · rw [List.mem_singleton.mp mem]
          trivial
      opened := fun other => absurd closed other
      closed := fun _ =>
        { before with
          out := out
          callbacks := by
            have callbacks := before.callbacks
            simpa [TcpConnection.removeChannel, mapChannel, note, List.count_append]
              using callbacks } }

/-- `startReadInLoop` and `stopReadInLoop` while the connection is not closed. -/
theorem Once.mapChannel {c : TcpConnection} (once : c.Once) (alive : c.state ≠ .kDisconnected)
    {channel : Channel} (same : channel.revents = c.channel.revents) (reading : Bool) :
    ({ c with channel := channel, reading := reading } : TcpConnection).Once :=
  { once with
    hup := fun mem => by
      rw [Channel.wants_congr same]
      exact once.hup mem
    closed := fun closed => absurd closed alive }

theorem Once.startReadInLoop {c : TcpConnection} (once : c.Once)
    (alive : c.state ≠ .kDisconnected) : c.startReadInLoop.Once := by
  unfold TcpConnection.startReadInLoop
  split
  · exact once.mapChannel alive (Channel.enableReading_revents _) true
  · exact once

theorem Once.stopReadInLoop {c : TcpConnection} (once : c.Once)
    (stopped : c.state = .kDisconnected → c.reading = false) : c.stopReadInLoop.Once := by
  unfold TcpConnection.stopReadInLoop
  split
  · next reading =>
    refine once.mapChannel ?_ (Channel.disableReading_revents _) false
    intro closed
    rw [stopped closed, Channel.isReading_none (once.closed closed).idle] at reading
    exact absurd reading (by decide)
  · exact once

end TcpConnection

namespace ConnectionLoop

/-- The step is a `handleRead` at the end of the stream. -/
def endsStream (l : ConnectionLoop) : Act → Prop
  | .goOn (.ok []) _ => l.conn.tasks.head? = some (.channel .read)
  | _ => False

/-- The step enters `handleClose`. -/
def closes (l : ConnectionLoop) (a : Act) : Prop :=
  l.endsStream a ∨
    match a with
    | .callFunctor _ => l.conn.functors.head? = some .forceCloseInLoop ∧
      (l.conn.state = .kConnected ∨ l.conn.state = .kDisconnecting)
    | .goOn _ _ => l.conn.tasks.head? = some (.channel .close)
    | _ => False

instance (l : ConnectionLoop) (a : Act) : Decidable (l.endsStream a) := by
  unfold endsStream
  split <;> infer_instance

instance (l : ConnectionLoop) (a : Act) : Decidable (l.closes a) := by
  unfold closes
  cases a <;> infer_instance

/-- The condition on a step.  The descriptor of a closed connection is not put back in the
kernel set, by `startReadInLoop` or `stopReadInLoop` after the close or by the `disableAll` of a
connection that was out of it; and an event that has closed the connection does not come to the
end of the stream as well. -/
structure StaysOut (l : ConnectionLoop) (a : Act) : Prop where
  start : l.runs a = some .startReadInLoop → l.conn.state ≠ .kDisconnected
  stop : l.runs a = some .stopReadInLoop → l.conn.state = .kDisconnected →
    l.conn.reading = false
  added : l.closes a → l.conn.channel.index = .kAdded
  ended : l.endsStream a → l.conn.channel.wants .close = false

instance (l : ConnectionLoop) (a : Act) : Decidable (l.StaysOut a) :=
  decidable_of_iff
    ((l.runs a = some .startReadInLoop → l.conn.state ≠ .kDisconnected) ∧
      (l.runs a = some .stopReadInLoop → l.conn.state = .kDisconnected →
        l.conn.reading = false) ∧
      (l.closes a → l.conn.channel.index = .kAdded) ∧
      (l.endsStream a → l.conn.channel.wants .close = false))
    ⟨fun h => ⟨h.1, h.2.1, h.2.2.1, h.2.2.2⟩, fun h => ⟨h.start, h.stop, h.added, h.ended⟩⟩

/-- The owner lets go of the connection as `removeConnection` does, which is the close callback:
after it, and by a functor. -/
def ReleasedByCallback (l : ConnectionLoop) : Act → Prop
  | .release inLoop _ => inLoop = false ∧ .closeCallback ∈ l.conn.notes
  | _ => True

instance (l : ConnectionLoop) (a : Act) : Decidable (l.ReleasedByCallback a) := by
  cases a <;> unfold ReleasedByCallback <;> infer_instance

/-- What is kept in the loop for a connection to be closed once. -/
structure Once (l : ConnectionLoop) : Prop where
  conn : l.conn.Once
  known : l.conn.state ≠ .kConnecting
  established : .connectEstablished ∉ l.queue
  destroyed : .connectDestroyed ∈ l.queue → l.conn.state = .kDisconnected
  batch : l.active = true → l.conn.tasks = [] ∧ l.conn.functors = []
  inactive : l.conn.state = .kDisconnected → l.active = false

theorem once_established (writeCompleteCallback highWaterMarkCallback : Bool)
    (highWaterMark : Nat) :
    Once (established writeCompleteCallback highWaterMarkCallback highWaterMark) where
  conn :=
    { entered := nofun
      first := by simp [established, TcpConnection.connectEstablished, TcpConnection.push,
        TcpConnection.mapChannel, TcpConnection.setState, TcpConnection.new]
      single := Nat.zero_le _
      hup := nofun
      kept := nofun
      opened := fun _ => ⟨nofun, nofun⟩
      closed := nofun }
  known := nofun
  established := nofun
  destroyed := nofun
  batch := nofun
  inactive := nofun

theorem Once.alive {l : ConnectionLoop} (once : Once l) (alive : l.conn.state ≠ .kDisconnected) :
    l.conn.state = .kConnected ∨ l.conn.state = .kDisconnecting := by
  have := once.known
  cases state : l.conn.state <;> simp_all

/-- A functor called with nothing else to do. -/
theorem Once.called {l : ConnectionLoop} (once : Once l) {k : KernelWrite} {f : Functor}
    {rest : List Functor} (next : l.conn.functors = f :: rest) (taskless : l.conn.tasks = [])
    (stays : l.StaysOut (.callFunctor k)) :
    (({ l.conn with functors := rest } : TcpConnection).callFunctor k f).Once := by
  have queued : f ∈ l.queue := by simp [queue, next]
  have popped : ({ l.conn with functors := rest } : TcpConnection).Once :=
    { once.conn with closed := fun closed => { once.conn.closed closed with } }
  have now : l.runs (.callFunctor k) = some f := by simp [runs, next]
  cases f with
  | sendInLoop call message => exact popped.traffic (TcpConnection.traffic_sendInLoop ..)
  | shutdownInLoop => exact popped.traffic (TcpConnection.traffic_shutdownInLoop _)
  | forceCloseInLoop =>
    change (TcpConnection.forceCloseInLoop _).Once
    unfold TcpConnection.forceCloseInLoop
    split
    · next alive =>
      exact popped.handleClose alive (stays.added (.inr ⟨by simp [next], alive⟩))
        (by simp [taskless]) (by simp [taskless])
    · exact popped
  | startReadInLoop => exact popped.startReadInLoop (stays.start now)
  | stopReadInLoop => exact popped.stopReadInLoop (stays.stop now)
  | connectEstablished => exact absurd queued once.established
  | connectDestroyed =>
    have closed := once.destroyed queued
    have other : l.conn.state ≠ .kConnected := by simp [closed]
    have removes : ({ l.conn with functors := rest } : TcpConnection).connectDestroyed =
        ({ l.conn with functors := rest } : TcpConnection).removeChannel := if_neg other
    change (TcpConnection.connectDestroyed _).Once
    rw [removes]
    exact popped.removeChannel closed
  | writeCompleteCallback => exact popped.user (by simp [taskless])
  | highWaterMarkCallback size => exact popped.user (by simp [taskless])

/-- The loop thread goes on with the event. -/
theorem Once.wentOn {l : ConnectionLoop} (once : Once l) {read : KernelRecv} {k : KernelWrite}
    (stays : l.StaysOut (.goOn read k)) : (l.conn.goOn read k).Once := by
  unfold TcpConnection.goOn
  split
  · exact once.conn
  · next callback rest next =>
    obtain ⟨popped, handled⟩ := once.conn.popped next
    -- a callback that closes finds the connection open
    have closing (closes : l.closes (.goOn read k)) (alive : l.conn.state ≠ .kDisconnected)
        (noRead : .channel .read ∈ rest → l.conn.channel.wants .close = true) :
        ({ l.conn with tasks := rest } : TcpConnection).handleClose.Once :=
      popped.handleClose (once.alive alive) (stays.added closes) handled noRead
    cases callback with
    | close =>
      refine closing (.inr (by simp [next])) ?_ ?_
      · intro closed
        exact (once.conn.closed closed).close (by simp [next])
      · intro _
        exact once.conn.hup (by simp [next])
    | error => exact popped
    | read =>
      simp only [TcpConnection.channelCallback, TcpConnection.handleRead]
      split
      · have ends : l.endsStream (.goOn (.ok []) k) := by simp [endsStream, next]
        have end_of_stream := stays.ended ends
        refine closing (.inl ends) ?_ ?_
        · intro closed
          have hup := (once.conn.closed closed).read (by simp [next])
          exact absurd (hup.symm.trans end_of_stream) (by decide)
        · intro again
          have single := once.conn.single
          rw [next, List.count_cons_self] at single
          have := List.count_pos_iff.mpr again
          omega
      · exact TcpConnection.Once.user
          { popped with closed := fun closed => { popped.closed closed with } } handled
      · exact popped
    | write => exact popped.traffic (TcpConnection.traffic_handleWrite k _)
  · next rest next => exact (once.conn.popped next).1
  · next rest next =>
    obtain ⟨popped, -⟩ := once.conn.popped next
    have closed : l.conn.state = .kDisconnected := by
      by_contra alive
      exact (once.conn.opened alive).1 (by simp [next])
    have before := once.conn.closed closed
    have callbacks := before.callbacks
    rw [next, List.count_cons_self] at callbacks
    exact
      { popped with
        entered := fun n mem => by
          rcases List.mem_append.mp mem with mem | mem
          · exact popped.entered n mem
          · rw [List.mem_singleton.mp mem]
            trivial
        opened := fun alive => absurd closed alive
        closed := fun _ =>
          { popped.closed closed with
            callbacks := by
              simp only [TcpConnection.note, List.count_append, List.count_singleton_self]
              omega } }
  · next rest next => exact absurd (by simp [next]) once.conn.kept

/-- The connection itself, by cases. -/
theorem Once.conn_step {l l' : ConnectionLoop} {a : Act} (once : Once l) (stays : l.StaysOut a)
    (released : l.ReleasedByCallback a) (move : Move l a l') : l'.conn.Once := by
  have asked {f : Functor} {c : TcpConnection} (asks : Asks l.conn f c) : c.Once := by
    cases asks with
    | shutdown connected => exact once.conn.disconnecting (by simp [connected])
    | forceClose alive =>
      apply once.conn.disconnecting
      intro closed
      rw [closed] at alive
      exact absurd alive (by decide)
    | _ => exact once.conn
  cases move with
  | ignored => exact once.conn
  | asked known asks => exact (asked asks).queueInLoop _
  | @ran k call f c known asks other now =>
    cases asks with
    | send n message => exact once.conn.traffic (TcpConnection.traffic_sendInLoop ..)
    | shutdown connected =>
      exact (asked (.shutdown connected)).traffic (TcpConnection.traffic_shutdownInLoop _)
    | forceClose => exact absurd rfl other
    | startRead => exact once.conn.startReadInLoop (stays.start now)
    | stopRead => exact once.conn.stopReadInLoop (stays.stop now)
  | idle => exact once.conn
  | ready interest taskless =>
    have out : l.conn.state ≠ .kDisconnected := fun closed =>
      interest (once.conn.closed closed).out
    exact
      { once.conn with
        hup := fun mem => by simp [TcpConnection.mapChannel, taskless] at mem
        closed := fun closed => absurd closed out }
  | handled active taskless =>
    have alive : l.conn.state ≠ .kDisconnected := fun closed =>
      absurd (active.symm.trans (once.inactive closed)) (by decide)
    have opened := once.conn.opened alive
    refine
      { entered := once.conn.entered
        first := ?_
        single := ?_
        hup := ?_
        kept := ?_
        opened := fun _ => ⟨?_, opened.2⟩
        closed := fun closed => absurd closed alive }
    all_goals
      simp only [TcpConnection.handleEvent, Channel.callbacks, taskless, List.append_nil]
      cases close : l.conn.channel.wants .close <;>
        cases error : l.conn.channel.wants .error <;>
        cases read : l.conn.channel.wants .read <;>
        cases write : l.conn.channel.wants .write <;>
        simp [close, error, read, write]
  | wentOn => exact once.wentOn stays
  | swapped =>
    exact { once.conn with closed := fun closed => { once.conn.closed closed with } }
  | called next taskless => exact once.called next taskless stays
  | released => exact once.conn.queueInLoop _
  | destroyed => exact absurd released.1 (by decide)

/-- A call of the interface in the loop thread leaves the state as it has set it, and gives the
loop thread nothing more to do. -/
theorem ran_same {c₀ c : TcpConnection} {f : Functor} (asks : Asks c₀ f c)
    (other : f ≠ .forceCloseInLoop) (k : KernelWrite) :
    (c.callFunctor k f).state = c.state ∧ (c.callFunctor k f).tasks = c.tasks := by
  cases asks with
  | send n message =>
    have moved := TcpConnection.traffic_sendInLoop k n message c₀
    exact ⟨moved.state, moved.tasks⟩
  | shutdown connected =>
    have moved := TcpConnection.traffic_shutdownInLoop (c₀.setState .kDisconnecting)
    exact ⟨moved.state, moved.tasks⟩
  | forceClose => exact absurd rfl other
  | startRead =>
    change c₀.startReadInLoop.state = _ ∧ c₀.startReadInLoop.tasks = _
    unfold TcpConnection.startReadInLoop
    split <;> exact ⟨rfl, rfl⟩
  | stopRead =>
    change c₀.stopReadInLoop.state = _ ∧ c₀.stopReadInLoop.tasks = _
    unfold TcpConnection.stopReadInLoop
    split <;> exact ⟨rfl, rfl⟩

/-- While the channel is active and has not been handled, the loop thread is at the events, and
the connection is open. -/
theorem Once.active_step {l l' : ConnectionLoop} {a : Act} (once : Once l)
    (released : l.ReleasedByCallback a) (move : Move l a l') (active' : l'.active = true) :
    (l'.conn.tasks = [] ∧ l'.conn.functors = []) ∧ l'.conn.state ≠ .kDisconnected := by
  have open_of (active : l.active = true) : l.conn.state ≠ .kDisconnected := fun closed =>
    absurd (active.symm.trans (once.inactive closed)) (by decide)
  have asked {f : Functor} {c : TcpConnection} (asks : Asks l.conn f c)
      (active : l.active = true) :
      (c.tasks = [] ∧ c.functors = []) ∧ c.state ≠ .kDisconnected := by
    cases asks with
    | shutdown => exact ⟨once.batch active, nofun⟩
    | forceClose => exact ⟨once.batch active, nofun⟩
    | _ => exact ⟨once.batch active, open_of active⟩
  cases move with
  | ignored => exact ⟨once.batch active', open_of active'⟩
  | asked known asks =>
    have before := asked asks active'
    exact before
  | @ran k call f c known asks other now =>
    obtain ⟨state, tasks⟩ := ran_same asks other k
    have before := asked asks active'
    rw [← state, ← tasks, ← (callFunctor_queue k c f).1] at before
    exact before
  | idle => exact ⟨once.batch active', open_of active'⟩
  | ready interest taskless called =>
    exact ⟨⟨taskless, called⟩, fun closed => interest (once.conn.closed closed).out⟩
  | handled => cases active'
  | wentOn busy => exact absurd (once.batch active').1 busy
  | swapped inactive => exact absurd (inactive.symm.trans active') (by decide)
  | called next => exact absurd (once.batch active').2 (by simp [next])
  | released => exact ⟨once.batch active', open_of active'⟩
  | destroyed => exact absurd released.1 (by decide)

theorem Once.step {l l' : ConnectionLoop} {a : Act} (once : Once l) (stays : l.StaysOut a)
    (released : l.ReleasedByCallback a) (move : Move l a l') : Once l' := by
  have age := move.age fun mem => absurd mem once.established
  have closed_stays (closed : l.conn.state = .kDisconnected) :
      l'.conn.state = .kDisconnected := by
    rw [closed] at age
    exact StateE.kDisconnected_of_age age
  refine
    { conn := once.conn_step stays released move
      known := fun back => ?_
      established := fun mem => ?_
      destroyed := fun mem => ?_
      batch := fun active => (once.active_step released move active).1
      inactive := fun closed => by
        by_contra active
        have active : l'.active = true := by simpa using active
        exact (once.active_step released move active).2 closed }
  · rw [back] at age
    exact once.known (StateE.kConnecting_of_age age)
  · rcases move.queue mem with mem | callback | ⟨-, c, asks, -⟩ | ⟨other, -⟩
    · exact once.established mem
    · exact callback
    · cases asks
    · cases other
  · rcases move.queue mem with mem | callback | ⟨-, c, asks, -⟩ | ⟨-, k, rfl⟩
    · exact closed_stays (once.destroyed mem)
    · exact callback.elim
    · cases asks
    · apply closed_stays
      by_contra alive
      exact (once.conn.opened alive).2 released.2

/-- In every run whose steps meet the condition, and in which the owner lets go of the
connection by its close callback, the connection is closed once. -/
theorem always_closedOnce (writeCompleteCallback highWaterMarkCallback : Bool)
    (highWaterMark : Nat) (acts : List Act)
    (released : EachStep step (fun l a _ => l.ReleasedByCallback a)
      (established writeCompleteCallback highWaterMarkCallback highWaterMark) acts)
    (stays : EachStep step (fun l a _ => l.StaysOut a)
      (established writeCompleteCallback highWaterMarkCallback highWaterMark) acts) :
    Always step (fun l => l.conn.ClosedOnce)
      (established writeCompleteCallback highWaterMarkCallback highWaterMark) acts := by
  refine Always.of_invariant (C := fun l a _ => l.ReleasedByCallback a ∧ l.StaysOut a)
    (fun l a l' (once : Once l) both moved => once.step both.2 both.1 (step_cases moved))
    (fun l once => once.conn.closedOnce) (once_established ..) (released.and stays)

/-- The peer hangs up: one event with `POLLIN` and `POLLHUP`, and the end of the stream.  The owner
is called back and has the connection destroyed. -/
def hangUp : List Act :=
  [.goOn (.ok []) ⟨none, .eagain⟩, .poll (some (pollIn ||| pollHup)), .handleEvent,
    .goOn (.ok []) ⟨none, .eagain⟩, .goOn (.ok []) ⟨none, .eagain⟩,
    .goOn (.ok []) ⟨none, .eagain⟩, .release false ⟨none, .eagain⟩, .doPendingFunctors,
    .callFunctor ⟨none, .eagain⟩]

theorem always_closedOnce_hangUp :
    Always step (fun l => l.conn.ClosedOnce) (established false false 0) hangUp := by
  refine always_closedOnce false false 0 hangUp (by decide +kernel) (by decide +kernel)

/-- A connection that does not read is closed by force: its descriptor comes back, and the
hang-up of the peer closes it again. -/
def closedTwice : List Act :=
  [.goOn (.ok []) ⟨none, .eagain⟩, .api true ⟨none, .eagain⟩ .stopRead,
    .api true ⟨none, .eagain⟩ .forceClose, .poll none, .doPendingFunctors,
    .callFunctor ⟨none, .eagain⟩, .goOn (.ok []) ⟨none, .eagain⟩,
    .goOn (.ok []) ⟨none, .eagain⟩, .poll (some pollHup), .handleEvent,
    .goOn (.ok []) ⟨none, .eagain⟩]

theorem closedTwice_not_once :
    EachStep step (fun l a _ => l.ReleasedByCallback a) (established false false 0) closedTwice ∧
      ¬ Always step (fun l => l.conn.ClosedOnce) (established false false 0) closedTwice := by
  decide +kernel

end ConnectionLoop

end NewFramework.Net
