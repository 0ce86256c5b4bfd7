import NewFramework.Net.ConnectionLoop

/-!
# A disconnected connection has no interest

`kDisconnected` with an empty mask is what `Channel::remove` and `~TcpConnection` assert
(`muduo/net/Channel.cc`, `muduo/net/TcpConnection.cpp`).  Two things break it: `startReadInLoop`
does not look at `state_`, and `connectDestroyed` closes a connection only in `kConnected`, so that
one which `shutdown()` or `forceClose()` has put in `kDisconnecting` is removed as it is.
-/

namespace NewFramework.Net
open NewFramework.Lib

/-- `assert(isNoneEvent())` held at a `Channel::remove`, and the destructor's assert holds in
this state. -/
def Note.Settled (state : StateE) : Note → Prop
  | .remove _ events => events = kNoneEvent ∧ state = .kDisconnected
  | _ => True

instance (state : StateE) : DecidablePred (Note.Settled state)
  | .remove .. => inferInstanceAs (Decidable (_ ∧ _))
  | .handleClose _ | .closeCallback | .given .. | .wrote .. | .queued _ | .shutdownWrite .. =>
    instDecidableTrue

theorem Note.Settled.mono {s t : StateE} (keep : s = .kDisconnected → t = .kDisconnected)
    {n : Note} (settled : n.Settled s) : n.Settled t := by
  cases n with
  | remove st events => exact ⟨settled.1, keep settled.2⟩
  | _ => trivial

theorem Note.Transfer.settled {n : Note} (transfer : n.Transfer) (state : StateE) :
    n.Settled state := by
  cases n <;> trivial

namespace TcpConnection

/-- A disconnected connection has no events, and one whose channel was removed is
disconnected. -/
def Settled (c : TcpConnection) : Prop :=
  (c.state = .kDisconnected → c.channel.events = kNoneEvent) ∧
    ∀ n ∈ c.notes, n.Settled c.state

instance (c : TcpConnection) : Decidable c.Settled := inferInstanceAs (Decidable (_ ∧ _))

theorem settled_or_old {old : List Note} {n m : Note} {state : StateE} (mem : n ∈ old ++ [m])
    (settled : m.Settled state) : n ∈ old ∨ n.Settled state :=
  (List.mem_append.mp mem).imp id fun new => by rwa [List.mem_singleton.mp new]

/-- `Settled`, also while `connectDestroyed` is in `connectionCallback_`. -/
structure Life (c : TcpConnection) : Prop where
  settled : c.Settled
  removing : .remove ∈ c.tasks → c.state = .kDisconnected

theorem Life.keep {c c' : TcpConnection} (life : c.Life)
    (state : c.state = .kDisconnected → c'.state = .kDisconnected)
    (none : c'.state = .kDisconnected → c'.channel.events = kNoneEvent)
    (notes : ∀ n ∈ c'.notes, n ∈ c.notes ∨ n.Settled c'.state)
    (tasks : .remove ∈ c'.tasks → .remove ∈ c.tasks ∨ c'.state = .kDisconnected) : c'.Life where
  settled := by
    refine ⟨none, ?_⟩
    intro n mem
    rcases notes n mem with old | settled
    · exact (life.settled.2 n old).mono state
    · exact settled
  removing mem := by
    rcases tasks mem with old | closed
    · exact state (life.removing old)
    · exact closed

theorem Life.traffic {c c' : TcpConnection} (life : c.Life) (moved : Traffic c c') : c'.Life := by
  obtain ⟨new, noted, transfer⟩ := moved.notes
  apply life.keep moved.state.trans
  · intro closed
    have closed : c.state = .kDisconnected := moved.state ▸ closed
    have none := life.settled.1 closed
    rw [moved.closed closed (Channel.isWriting_none none)]
    exact none
  · intro n mem
    rw [noted] at mem
    exact (List.mem_append.mp mem).imp id fun new => (transfer n new).settled _
  · intro mem
    rw [moved.tasks] at mem
    exact .inl mem

theorem Life.disconnecting {c : TcpConnection} (life : c.Life)
    (alive : c.state ≠ .kDisconnected) : (c.setState .kDisconnecting).Life :=
  life.keep (fun closed => absurd closed alive) nofun (fun _ mem => .inl mem) .inl

theorem Life.queueInLoop {c : TcpConnection} (life : c.Life) (f : Functor) :
    (c.queueInLoop f).Life :=
  life.keep id life.settled.1 (fun _ mem => settled_or_old mem trivial) .inl

theorem Life.handleClose {c : TcpConnection} (life : c.Life) : c.handleClose.Life :=
  life.keep (fun _ => rfl) (fun _ => Channel.disableAll_events _)
    (fun _ mem => settled_or_old mem trivial) fun _ => .inr rfl

theorem Life.removeChannel {c : TcpConnection} (life : c.Life)
    (closed : c.state = .kDisconnected) : c.removeChannel.Life :=
  life.keep id life.settled.1
    (fun _ mem => settled_or_old mem ⟨life.settled.1 closed, closed⟩) .inl

theorem Life.user {c : TcpConnection} (life : c.Life) : (c.push .user).Life :=
  life.keep id life.settled.1 (fun _ => .inl) fun mem =>
    .inl ((List.mem_cons.mp mem).resolve_left nofun)

/-- What a functor asks of the state it is called in. -/
def FitsState (f : Functor) (c : TcpConnection) : Prop :=
  (f = .startReadInLoop → c.state ≠ .kDisconnected) ∧
    (f = .connectDestroyed → c.state = .kConnected ∨ c.state = .kDisconnected)

theorem Life.startReadInLoop {c : TcpConnection} (life : c.Life)
    (alive : c.state ≠ .kDisconnected) : c.startReadInLoop.Life := by
  unfold TcpConnection.startReadInLoop
  split
  · exact life.keep id (fun closed => absurd closed alive) (fun _ => .inl) .inl
  · exact life

theorem Life.stopReadInLoop {c : TcpConnection} (life : c.Life) : c.stopReadInLoop.Life := by
  unfold TcpConnection.stopReadInLoop
  split
  · exact life.keep id
      (fun closed => Channel.disableReading_events_none (life.settled.1 closed))
      (fun _ => .inl) .inl
  · exact life

theorem Life.connectDestroyed {c : TcpConnection} (life : c.Life)
    (fits : c.state = .kConnected ∨ c.state = .kDisconnected) : c.connectDestroyed.Life := by
  unfold TcpConnection.connectDestroyed
  split
  · exact life.keep (fun _ => rfl) (fun _ => Channel.disableAll_events _) (fun _ => .inl)
      fun _ => .inr rfl
  · next other => exact life.removeChannel (fits.resolve_left other)

theorem Life.callFunctor {c : TcpConnection} (life : c.Life) (k : KernelWrite) {f : Functor}
    (fits : FitsState f c)
    (fresh : f = .connectEstablished → c.state = .kConnecting) : (c.callFunctor k f).Life := by
  cases f with
  | sendInLoop call message => exact life.traffic (c.traffic_sendInLoop k call message)
  | shutdownInLoop => exact life.traffic c.traffic_shutdownInLoop
  | forceCloseInLoop =>
    change (c.forceCloseInLoop).Life
    unfold TcpConnection.forceCloseInLoop
    split
    · exact life.handleClose
    · exact life
  | startReadInLoop => exact life.startReadInLoop (fits.1 rfl)
  | stopReadInLoop => exact life.stopReadInLoop
  | connectEstablished =>
    have connecting := fresh rfl
    exact life.keep (fun closed => absurd (connecting.symm.trans closed) (by decide)) nofun
      (fun _ => .inl) fun mem => .inl ((List.mem_cons.mp mem).resolve_left nofun)
  | connectDestroyed => exact life.connectDestroyed (fits.2 rfl)
  | writeCompleteCallback => exact life.user
  | highWaterMarkCallback size => exact life.user

theorem Life.goOn {c : TcpConnection} (life : c.Life) (read : KernelRecv) (k : KernelWrite) :
    (c.goOn read k).Life := by
  have rest_life {t : Task} {rest : List Task} (next : c.tasks = t :: rest) :
      ({ c with tasks := rest } : TcpConnection).Life :=
    life.keep id life.settled.1 (fun _ => .inl) fun mem =>
      .inl (next ▸ List.mem_cons_of_mem _ mem)
  unfold TcpConnection.goOn
  split
  · exact life
  · next callback rest next =>
    have popped := rest_life next
    cases callback with
    | close => exact popped.handleClose
    | error => exact popped
    | read =>
      simp only [channelCallback, handleRead]
      split
      · exact popped.handleClose
      · exact Life.user (popped.keep id popped.settled.1 (fun _ => .inl) .inl)
      · exact popped
    | write => exact popped.traffic (traffic_handleWrite k _)
  · next rest next => exact rest_life next
  · next rest next =>
    exact (rest_life next).keep id (rest_life next).settled.1
      (fun _ mem => settled_or_old mem trivial) .inl
  · next rest next =>
    exact (rest_life next).removeChannel (life.removing (by simp [next]))

end TcpConnection

namespace ConnectionLoop

/-- Until `connectEstablished` has run, only its owner and the queue know the connection. -/
structure Establishing (l : ConnectionLoop) : Prop where
  connecting : l.conn.state = .kConnecting →
    l.conn.tasks = [] ∧ l.conn.channel.interest = none ∧ l.active = false ∧
      ∀ f ∈ l.queue, f = .connectEstablished ∨ f = .connectDestroyed
  waiting : .connectEstablished ∈ l.queue → l.conn.state = .kConnecting
  once : l.queue.count .connectEstablished ≤ 1

/-- The condition on a step: the functor it runs fits the state. -/
def Fits (l : ConnectionLoop) (a : Act) : Prop :=
  ∀ f, l.runs a = some f → l.conn.FitsState f

theorem Establishing.step {l l' : ConnectionLoop} {a : Act} (est : Establishing l)
    (fits : l.Fits a) (move : Move l a l') : Establishing l' := by
  by_cases connecting : l.conn.state = .kConnecting
  · obtain ⟨taskless, interest, inactive, known⟩ := est.connecting connecting
    cases move with
    | ignored => exact est
    | asked other => exact absurd connecting other
    | ran other => exact absurd connecting other
    | idle => exact ⟨est.connecting, est.waiting, est.once⟩
    | ready other => exact absurd interest other
    | handled active => exact absurd (active.symm.trans inactive) (by decide)
    | wentOn busy => exact absurd taskless busy
    | swapped _ _ called =>
      have same : l.queue = l.conn.pendingFunctors ++ [] := by
        simp [ConnectionLoop.queue, called]
      refine ⟨fun _ => ⟨taskless, interest, inactive, fun f mem => known f (same ▸ mem)⟩,
        fun _ => connecting, ?_⟩
      have once := est.once
      rw [same] at once
      exact once
    | @called k f rest next =>
      have queue : l.queue = f :: (rest ++ l.conn.pendingFunctors) := by
        simp [ConnectionLoop.queue, next]
      rcases known f (by simp [queue]) with rfl | rfl
      · have once := est.once
        rw [queue, List.count_cons_self] at once
        have gone : (rest ++ l.conn.pendingFunctors).count .connectEstablished = 0 := by omega
        exact ⟨fun same => StateE.noConfusion same,
          fun mem => absurd mem (List.count_eq_zero.mp gone),
          Nat.le_of_lt_succ (by exact Nat.lt_of_le_of_lt (Nat.le_of_eq gone) (by decide))⟩
      · have state := (fits .connectDestroyed (by simp [runs, next])).2 rfl
        rw [connecting] at state
        exact absurd state (by decide)
    | released =>
      refine ⟨fun _ => ⟨taskless, interest, inactive, ?_⟩, fun _ => connecting, ?_⟩
      · intro f mem
        simp only [ConnectionLoop.queue, TcpConnection.queueInLoop, ← List.append_assoc] at mem
        rcases List.mem_append.mp mem with mem | mem
        · exact known f mem
        · exact .inr (List.mem_singleton.mp mem)
      · have once := est.once
        simpa [ConnectionLoop.queue, TcpConnection.queueInLoop, List.count_append] using once
    | destroyed =>
      have state := (fits .connectDestroyed rfl).2 rfl
      rw [connecting] at state
      exact absurd state (by decide)
  · have gone : .connectEstablished ∉ l'.queue := by
      intro mem
      rcases move.queue mem with mem | callback | ⟨-, c, asks, -⟩ | ⟨other, -⟩
      · exact connecting (est.waiting mem)
      · exact callback
      · cases asks
      · cases other
    refine ⟨?_, fun mem => absurd mem gone, ?_⟩
    · intro back
      have young := move.age est.waiting
      rw [back] at young
      exact absurd (StateE.kConnecting_of_age young) connecting
    · rw [List.count_eq_zero.mpr gone]
      decide

theorem life_step {l l' : ConnectionLoop} {a : Act} (life : l.conn.Life)
    (est : Establishing l) (fits : l.Fits a) (move : Move l a l') : l'.conn.Life := by
  have asked {f : Functor} {c : TcpConnection} (asks : Asks l.conn f c) : c.Life := by
    cases asks with
    | shutdown connected => exact life.disconnecting (by simp [connected])
    | forceClose alive =>
      apply life.disconnecting
      intro closed
      rw [closed] at alive
      exact absurd alive (by decide)
    | _ => exact life
  cases move with
  | ignored => exact life
  | asked known asks => exact (asked asks).queueInLoop _
  | @ran k call f c known asks other now =>
    apply (asked asks).callFunctor k
    · have fits := fits f now
      cases asks with
      | startRead => exact fits
      | _ => exact ⟨nofun, nofun⟩
    · rintro rfl
      cases asks
  | idle => exact life
  | ready => exact life.keep id life.settled.1 (fun _ => .inl) .inl
  | handled =>
    exact life.keep id life.settled.1 (fun _ => .inl) fun mem => .inl <| by
      simpa [TcpConnection.handleEvent] using mem
  | wentOn => exact life.goOn ..
  | swapped => exact life.keep id life.settled.1 (fun _ => .inl) .inl
  | @called k f rest next =>
    have fits := fits f (by simp [runs, next])
    have popped : ({ l.conn with functors := rest } : TcpConnection).Life :=
      life.keep id life.settled.1 (fun _ => .inl) .inl
    apply popped.callFunctor k fits
    rintro rfl
    exact est.waiting (by simp [ConnectionLoop.queue, next])
  | released => exact life.queueInLoop _
  | destroyed => exact life.connectDestroyed ((fits _ rfl).2 rfl)

/-- The functor a step runs is called in the state before the step. -/
theorem runs_called {l l' : ConnectionLoop} {a : Act} {f : Functor}
    (moved : step l a = some l') (now : l.runs a = some f)
    (dangerous : f = .startReadInLoop ∨ f = .connectDestroyed) :
    ∃ k c, c.state = l.conn.state ∧ c.channel = l.conn.channel ∧ c.notes = l.conn.notes ∧
      l'.conn = TcpConnection.callFunctor k c f := by
  cases a with
  | api inLoop k call =>
    obtain ⟨-, rfl⟩ := some_of_guard moved
    cases inLoop with
    | false => cases now
    | true =>
      cases call with
      | send n message =>
        obtain ⟨-, eq⟩ := Option.ite_none_right_eq_some.mp now
        simp [← Option.some.inj eq] at dangerous
      | shutdown =>
        obtain ⟨-, eq⟩ := Option.ite_none_right_eq_some.mp now
        simp [← Option.some.inj eq] at dangerous
      | forceClose => cases now
      | startRead =>
        obtain rfl := Option.some.inj now
        exact ⟨k, l.conn, rfl, rfl, rfl, rfl⟩
      | stopRead =>
        obtain rfl := Option.some.inj now
        simp at dangerous
  | callFunctor k =>
    cases step_cases moved with
    | @called _ g rest next =>
      simp only [runs, next, List.head?_cons, Option.some.injEq] at now
      subst now
      exact ⟨k, { l.conn with functors := rest }, rfl, rfl, rfl, rfl⟩
  | release inLoop k =>
    cases step_cases moved with
    | released => cases now
    | destroyed =>
      obtain rfl := Option.some.inj now
      exact ⟨k, l.conn, rfl, rfl, rfl, rfl⟩
  | _ => cases now

theorem startReadInLoop_events {c : TcpConnection} (none : c.channel.events = kNoneEvent) :
    c.startReadInLoop.state = c.state ∧ c.startReadInLoop.channel.events ≠ kNoneEvent := by
  have some_event : c.channel.enableReading.events ≠ kNoneEvent :=
    Channel.enableReading_events_ne _
  simp only [TcpConnection.startReadInLoop, Channel.isReading_none none, Bool.not_false,
    Bool.or_true, if_true]
  exact ⟨rfl, some_event⟩

/-- A step that leaves a settled connection met the condition. -/
theorem fits_of_settled {l l' : ConnectionLoop} {a : Act} (settled : l.conn.Settled)
    (moved : step l a = some l') (after : l'.conn.Settled) : l.Fits a := by
  intro f now
  constructor
  · rintro rfl closed
    obtain ⟨k, c, state, channel, -, called⟩ := runs_called moved now (.inl rfl)
    have reading := startReadInLoop_events (c := c) (channel ▸ settled.1 closed)
    rw [called] at after
    exact reading.2 (after.1 (reading.1.trans (state.trans closed)))
  · rintro rfl
    obtain ⟨k, c, state, -, -, called⟩ := runs_called moved now (.inr rfl)
    rw [called] at after
    rw [← state]
    by_cases connected : c.state = .kConnected
    · exact .inl connected
    · have removed : TcpConnection.callFunctor k c .connectDestroyed = c.removeChannel :=
        if_neg connected
      rw [removed] at after
      exact .inr (after.2 (.remove c.state c.channel.events)
        (List.mem_append_right _ (List.mem_singleton.mpr rfl))).2

theorem establishing_start (writeCompleteCallback highWaterMarkCallback : Bool)
    (highWaterMark : Nat) :
    Establishing (start writeCompleteCallback highWaterMarkCallback highWaterMark) where
  connecting _ := ⟨rfl, rfl, rfl, fun _ mem => .inl (List.mem_singleton.mp mem)⟩
  waiting _ := rfl
  once := Nat.le_refl _

theorem life_start (writeCompleteCallback highWaterMarkCallback : Bool) (highWaterMark : Nat) :
    (start writeCompleteCallback highWaterMarkCallback highWaterMark).conn.Life :=
  ⟨⟨nofun, nofun⟩, nofun⟩

/-- A connection is settled in every state of a run iff `startReadInLoop` never runs on it when
it is disconnected, and `connectDestroyed` only when it is connected or disconnected. -/
theorem always_settled_iff (writeCompleteCallback highWaterMarkCallback : Bool)
    (highWaterMark : Nat) (acts : List Act) :
    Always step (fun l => l.conn.Settled)
        (start writeCompleteCallback highWaterMarkCallback highWaterMark) acts ↔
      EachStep step (fun l a _ => l.Fits a)
        (start writeCompleteCallback highWaterMarkCallback highWaterMark) acts := by
  have life := life_start writeCompleteCallback highWaterMarkCallback highWaterMark
  have est := establishing_start writeCompleteCallback highWaterMarkCallback highWaterMark
  have steps : EachStep step (fun _ _ l' => l'.conn.Settled)
      (start writeCompleteCallback highWaterMarkCallback highWaterMark) acts ↔
        EachStep step (fun l a _ => l.Fits a)
          (start writeCompleteCallback highWaterMarkCallback highWaterMark) acts := by
    refine EachStep.iff_of_invariant
      (fun l a l' (inv : l.conn.Life ∧ Establishing l) fits moved => ?_)
      (fun l a l' (inv : l.conn.Life ∧ Establishing l) moved after => ?_) ⟨life, est⟩
    swap
    · exact fits_of_settled inv.1.settled moved after
    have life' := life_step inv.1 inv.2 fits (step_cases moved)
    exact ⟨⟨life', inv.2.step fits (step_cases moved)⟩, life'.settled⟩
  exact ⟨fun always => steps.mp always.2, fun fits => ⟨life.settled, steps.mpr fits⟩⟩

/-- `shutdown()`, and then the server goes: `connectDestroyed` removes a channel that is being
read. -/
def destroyedWhileDisconnecting : List Act :=
  [.poll none, .doPendingFunctors, .callFunctor ⟨none, .eagain⟩, .goOn (.ok []) ⟨none, .eagain⟩,
    .api false ⟨none, .eagain⟩ .shutdown, .release true ⟨none, .eagain⟩]

theorem destroyedWhileDisconnecting_unsettled :
    ¬ Always step (fun l => l.conn.Settled) (start false false 0) destroyedWhileDisconnecting := by
  decide +kernel

end ConnectionLoop

end NewFramework.Net
