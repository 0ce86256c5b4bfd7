import NewFramework.Lib.Run
import NewFramework.Net.TcpConnection

/-!
# The loop thread and the callers of a connection

The machine of one `TcpConnection` (`muduo/net/TcpConnection.cpp`): calls of its interface from the
loop thread and from other threads, what the poller reports for its descriptor, and the functors of
its loop.  An iteration of the loop polls, handles the event of the descriptor if there is one, and
then calls the functors that are pending at that time.  Code of the user runs in the loop thread
inside the callbacks of the connection, and between its events and functors.

The owner of the connection lets go of it once, at any moment: `TcpServer` after the close
callback, or `~TcpServer` directly.
-/

namespace NewFramework.Net
open NewFramework.Lib

structure ConnectionLoop where
  conn : TcpConnection
  /-- the loop has polled, and has not yet come to `doPendingFunctors` -/
  polled : Bool
  /-- the channel is among the active ones and has not been handled -/
  active : Bool
  /-- the owner has let go of the connection -/
  released : Bool

namespace ConnectionLoop

/-- The connection that `newConnection` makes; `connectEstablished` is on its way. -/
def start (writeCompleteCallback highWaterMarkCallback : Bool) (highWaterMark : Nat) :
    ConnectionLoop where
  conn := { TcpConnection.new writeCompleteCallback highWaterMarkCallback highWaterMark with
    pendingFunctors := [.connectEstablished] }
  polled := false
  active := false
  released := false

/-- The same connection once `connectEstablished` has come to `connectionCallback_`. -/
def established (writeCompleteCallback highWaterMarkCallback : Bool) (highWaterMark : Nat) :
    ConnectionLoop where
  conn := (TcpConnection.new writeCompleteCallback highWaterMarkCallback
    highWaterMark).connectEstablished
  polled := false
  active := false
  released := false

inductive Act where
  /-- a call of the interface -/
  | api (inLoop : Bool) (k : KernelWrite) (call : TcpConnection.Api)
  /-- `poll` returns, with these events for the descriptor if it is active -/
  | poll (revents : Option Mask)
  | handleEvent
  /-- the function that the loop thread is in goes on -/
  | goOn (read : KernelRecv) (k : KernelWrite)
  | doPendingFunctors
  /-- `doPendingFunctors` calls its next functor -/
  | callFunctor (k : KernelWrite)
  /-- the owner has `connectDestroyed` run -/
  | release (inLoop : Bool) (k : KernelWrite)

/-- Code of the user can run in the loop thread. -/
def userRuns (l : ConnectionLoop) : Prop := l.conn.tasks = [] ∨ l.conn.tasks.head? = some .user

instance (l : ConnectionLoop) : Decidable l.userRuns := inferInstanceAs (Decidable (_ ∨ _))

def step (l : ConnectionLoop) : Act → Option ConnectionLoop
  | .api inLoop k call =>
    -- the user has the connection from `connectionCallback_` on
    if l.conn.state ≠ .kConnecting ∧ (inLoop = true → l.userRuns) then
      some { l with conn := l.conn.api inLoop k call }
    else none
  | .poll revents =>
    if l.polled = false ∧ l.conn.tasks = [] ∧ l.conn.functors = [] then
      match revents with
      | none => some { l with polled := true }
      | some revents =>
        if l.conn.channel.interest ≠ none then
          some { l with
            conn := l.conn.mapChannel fun c => { c with revents := revents }
            polled := true
            active := true }
        else none
    else none
  | .handleEvent =>
    if l.active ∧ l.conn.tasks = [] then
      some { l with conn := l.conn.handleEvent, active := false }
    else none
  | .goOn read k => if l.conn.tasks = [] then none else some { l with conn := l.conn.goOn read k }
  | .doPendingFunctors =>
    if l.polled ∧ l.active = false ∧ l.conn.tasks = [] ∧ l.conn.functors = [] then
      some { l with
        conn := { l.conn with functors := l.conn.pendingFunctors, pendingFunctors := [] }
        polled := false }
    else none
  | .callFunctor k =>
    match l.conn.functors with
    | [] => none
    | f :: rest =>
      if l.conn.tasks = [] then
        some { l with conn := { l.conn with functors := rest }.callFunctor k f }
      else none
  | .release inLoop k =>
    if l.released = false ∧ (inLoop = true → l.userRuns) then
      some { l with conn := l.conn.runInLoop inLoop k .connectDestroyed, released := true }
    else none

/-- The functor that the loop thread runs in a step. -/
def runs (l : ConnectionLoop) : Act → Option Functor
  | .api true _ (.send call message) =>
    if l.conn.state = .kConnected then some (.sendInLoop call message) else none
  | .api true _ .shutdown => if l.conn.state = .kConnected then some .shutdownInLoop else none
  | .api true _ .startRead => some .startReadInLoop
  | .api true _ .stopRead => some .stopReadInLoop
  | .callFunctor _ => l.conn.functors.head?
  | .release true _ => some .connectDestroyed
  | _ => none

/-! ## Steps by cases -/

/-- How a call of the interface comes to its functor: what it does to the state on the way. -/
inductive Asks (c : TcpConnection) : Functor → TcpConnection → Prop
  | send (call : Nat) (message : List UInt8) (connected : c.state = .kConnected) :
    Asks c (.sendInLoop call message) c
  | shutdown (connected : c.state = .kConnected) :
    Asks c .shutdownInLoop (c.setState .kDisconnecting)
  | forceClose (alive : c.state = .kConnected ∨ c.state = .kDisconnecting) :
    Asks c .forceCloseInLoop (c.setState .kDisconnecting)
  | startRead : Asks c .startReadInLoop c
  | stopRead : Asks c .stopReadInLoop c

/-- What a step does, by cases. -/
inductive Move (l : ConnectionLoop) : Act → ConnectionLoop → Prop
  | ignored (inLoop : Bool) (k : KernelWrite) (call : TcpConnection.Api) :
    Move l (.api inLoop k call) l
  | asked {inLoop : Bool} {k : KernelWrite} {call : TcpConnection.Api} {f : Functor}
      {c : TcpConnection} (known : l.conn.state ≠ .kConnecting) (asks : Asks l.conn f c) :
    Move l (.api inLoop k call) { l with conn := c.queueInLoop f }
  | ran {k : KernelWrite} {call : TcpConnection.Api} {f : Functor} {c : TcpConnection}
      (known : l.conn.state ≠ .kConnecting) (asks : Asks l.conn f c)
      (other : f ≠ .forceCloseInLoop) (now : l.runs (.api true k call) = some f) :
    Move l (.api true k call) { l with conn := c.callFunctor k f }
  | idle (taskless : l.conn.tasks = []) : Move l (.poll none) { l with polled := true }
  | ready {revents : Mask} (interest : l.conn.channel.interest ≠ none)
      (taskless : l.conn.tasks = []) (called : l.conn.functors = []) :
    Move l (.poll (some revents)) { l with
      conn := l.conn.mapChannel fun c => { c with revents := revents }
      polled := true
      active := true }
  | handled (active : l.active = true) (taskless : l.conn.tasks = []) :
    Move l .handleEvent { l with conn := l.conn.handleEvent, active := false }
  | wentOn {read : KernelRecv} {k : KernelWrite} (busy : l.conn.tasks ≠ []) :
    Move l (.goOn read k) { l with conn := l.conn.goOn read k }
  | swapped (inactive : l.active = false) (taskless : l.conn.tasks = [])
      (called : l.conn.functors = []) :
    Move l .doPendingFunctors { l with
      conn := { l.conn with functors := l.conn.pendingFunctors, pendingFunctors := [] }
      polled := false }
  | called {k : KernelWrite} {f : Functor} {rest : List Functor}
      (next : l.conn.functors = f :: rest) (taskless : l.conn.tasks = []) :
    Move l (.callFunctor k) { l with conn := { l.conn with functors := rest }.callFunctor k f }
  | released {k : KernelWrite} :
    Move l (.release false k) { l with
      conn := l.conn.queueInLoop .connectDestroyed
      released := true }
  | destroyed {k : KernelWrite} (userRuns : l.userRuns) :
    Move l (.release true k) { l with conn := l.conn.connectDestroyed, released := true }

theorem move_api {l : ConnectionLoop} (known : l.conn.state ≠ .kConnecting) (inLoop : Bool)
    (k : KernelWrite) (call : TcpConnection.Api) :
    Move l (.api inLoop k call) { l with conn := l.conn.api inLoop k call } := by
  cases call with
  | send n message =>
    by_cases connected : l.conn.state = .kConnected
    · simp only [TcpConnection.api, if_pos connected]
      cases inLoop with
      | false => exact .asked known (.send n message connected)
      | true => exact .ran known (.send n message connected) nofun (if_pos connected)
    · simp only [TcpConnection.api, if_neg connected]
      exact .ignored ..
  | shutdown =>
    by_cases connected : l.conn.state = .kConnected
    · simp only [TcpConnection.api, if_pos connected]
      cases inLoop with
      | false => exact .asked known (.shutdown connected)
      | true => exact .ran known (.shutdown connected) nofun (if_pos connected)
    · simp only [TcpConnection.api, if_neg connected]
      exact .ignored ..
  | forceClose =>
    by_cases alive : l.conn.state = .kConnected ∨ l.conn.state = .kDisconnecting
    · simp only [TcpConnection.api, if_pos alive]
      exact .asked known (.forceClose alive)
    · simp only [TcpConnection.api, if_neg alive]
      exact .ignored ..
  | startRead =>
    cases inLoop with
    | false => exact .asked known .startRead
    | true => exact .ran known .startRead nofun rfl
  | stopRead =>
    cases inLoop with
    | false => exact .asked known .stopRead
    | true => exact .ran known .stopRead nofun rfl

theorem step_cases {l l' : ConnectionLoop} {a : Act} (moved : step l a = some l') :
    Move l a l' := by
  cases a with
  | api inLoop k call =>
    obtain ⟨⟨known, -⟩, rfl⟩ := some_of_guard moved
    exact move_api known ..
  | poll revents =>
    obtain ⟨⟨-, taskless, called⟩, moved⟩ := Option.ite_none_right_eq_some.mp moved
    cases revents with
    | none =>
      obtain rfl := Option.some.inj moved
      exact .idle taskless
    | some revents =>
      obtain ⟨interest, rfl⟩ := some_of_guard moved
      exact .ready interest taskless called
  | handleEvent =>
    obtain ⟨⟨active, taskless⟩, rfl⟩ := some_of_guard moved
    exact .handled active taskless
  | goOn read k =>
    obtain ⟨busy, eq⟩ := Option.ite_none_left_eq_some.mp moved
    obtain rfl := Option.some.inj eq
    exact .wentOn busy
  | doPendingFunctors =>
    obtain ⟨⟨-, inactive, taskless, called⟩, rfl⟩ := some_of_guard moved
    exact .swapped inactive taskless called
  | callFunctor k =>
    simp only [step] at moved
    cases next : l.conn.functors with
    | nil => simp [next] at moved
    | cons f rest =>
      simp only [next] at moved
      obtain ⟨taskless, rfl⟩ := some_of_guard moved
      exact .called next taskless
  | release inLoop k =>
    obtain ⟨⟨-, userRuns⟩, rfl⟩ := some_of_guard moved
    cases inLoop with
    | false => exact .released
    | true => exact .destroyed (userRuns rfl)

/-! ## The queue -/

/-- The functors that have not been called. -/
def queue (l : ConnectionLoop) : List Functor := l.conn.functors ++ l.conn.pendingFunctors

/-- `c'` has, besides the functors of `c`, callbacks of the user in its queue. -/
def OnlyCallbacks (c c' : TcpConnection) : Prop :=
  c'.functors = c.functors ∧ ∃ queued : List Functor,
    c'.pendingFunctors = c.pendingFunctors ++ queued ∧ ∀ f ∈ queued, f.Callback

theorem OnlyCallbacks.same {c c' : TcpConnection} (functors : c'.functors = c.functors)
    (pending : c'.pendingFunctors = c.pendingFunctors) : OnlyCallbacks c c' :=
  ⟨functors, [], by simp [pending], by simp⟩

theorem OnlyCallbacks.traffic {c c' : TcpConnection} (moved : c.Traffic c') :
    OnlyCallbacks c c' :=
  ⟨moved.functors, moved.queue⟩

theorem callFunctor_queue (k : KernelWrite) (c : TcpConnection) (f : Functor) :
    OnlyCallbacks c (c.callFunctor k f) := by
  cases f with
  | sendInLoop call message => exact .traffic (c.traffic_sendInLoop k call message)
  | shutdownInLoop => exact .traffic c.traffic_shutdownInLoop
  | forceCloseInLoop =>
    change OnlyCallbacks c c.forceCloseInLoop
    unfold TcpConnection.forceCloseInLoop
    split <;> exact .same rfl rfl
  | startReadInLoop =>
    change OnlyCallbacks c c.startReadInLoop
    unfold TcpConnection.startReadInLoop
    split <;> exact .same rfl rfl
  | stopReadInLoop =>
    change OnlyCallbacks c c.stopReadInLoop
    unfold TcpConnection.stopReadInLoop
    split <;> exact .same rfl rfl
  | connectEstablished => exact .same rfl rfl
  | connectDestroyed =>
    change OnlyCallbacks c c.connectDestroyed
    unfold TcpConnection.connectDestroyed
    split <;> exact .same rfl rfl
  | writeCompleteCallback => exact .same rfl rfl
  | highWaterMarkCallback size => exact .same rfl rfl

theorem goOn_queue (read : KernelRecv) (k : KernelWrite) (c : TcpConnection) :
    OnlyCallbacks c (c.goOn read k) := by
  unfold TcpConnection.goOn
  split
  · exact .same rfl rfl
  · next callback rest _ =>
    cases callback with
    | close => exact .same rfl rfl
    | error => exact .same rfl rfl
    | read =>
      simp only [TcpConnection.channelCallback, TcpConnection.handleRead]
      split <;> exact .same rfl rfl
    | write =>
      have moved := TcpConnection.traffic_handleWrite k { c with tasks := rest }
      exact ⟨moved.functors, moved.queue⟩
  · exact .same rfl rfl
  · exact .same rfl rfl
  · exact .same rfl rfl

/-- What is in the queue after a step: what was there, callbacks of the user, the functor of the
call that was made, and `connectDestroyed` when the owner let go. -/
theorem Move.queue {l l' : ConnectionLoop} {a : Act} (move : Move l a l') {f : Functor}
    (mem : f ∈ l'.queue) :
    f ∈ l.queue ∨ f.Callback ∨
      (l.conn.state ≠ .kConnecting ∧ ∃ c, Asks l.conn f c ∧ l'.conn.state = c.state) ∨
      (f = .connectDestroyed ∧ ∃ k, a = .release false k) := by
  have grown {c c' : TcpConnection} (only : OnlyCallbacks c c')
      (mem : f ∈ c'.functors ++ c'.pendingFunctors) :
      f ∈ c.functors ++ c.pendingFunctors ∨ f.Callback := by
    obtain ⟨functors, queued, pending, callbacks⟩ := only
    rw [functors, pending, ← List.append_assoc] at mem
    exact (List.mem_append.mp mem).imp id (callbacks f)
  have added {c : TcpConnection} {g : Functor}
      (mem : f ∈ (c.queueInLoop g).functors ++ (c.queueInLoop g).pendingFunctors) :
      f ∈ c.functors ++ c.pendingFunctors ∨ f = g := by
    simp only [TcpConnection.queueInLoop, ← List.append_assoc] at mem
    exact (List.mem_append.mp mem).imp id List.mem_singleton.mp
  have asked {g : Functor} {c : TcpConnection} (asks : Asks l.conn g c) :
      c.functors = l.conn.functors ∧ c.pendingFunctors = l.conn.pendingFunctors := by
    cases asks <;> exact ⟨rfl, rfl⟩
  cases move with
  | ignored => exact .inl mem
  | asked known asks =>
    obtain ⟨functors, pending⟩ := asked asks
    rcases added mem with mem | rfl
    · rw [functors, pending] at mem
      exact .inl mem
    · exact .inr (.inr (.inl ⟨known, _, asks, rfl⟩))
  | ran known asks =>
    obtain ⟨functors, pending⟩ := asked asks
    rcases grown (callFunctor_queue _ _ _) mem with mem | callback
    · rw [functors, pending] at mem
      exact .inl mem
    · exact .inr (.inl callback)
  | idle => exact .inl mem
  | ready => exact .inl mem
  | handled => exact .inl mem
  | wentOn => exact (grown (goOn_queue _ _ _) mem).imp id .inl
  | swapped =>
    simp only [ConnectionLoop.queue, List.append_nil] at mem
    exact .inl (List.mem_append_right _ mem)
  | called next =>
    refine (grown (callFunctor_queue _ _ _) mem).imp ?_ .inl
    intro mem
    simp only [ConnectionLoop.queue, next, List.cons_append]
    exact List.mem_cons_of_mem _ mem
  | released =>
    rcases added mem with mem | rfl
    · exact .inl mem
    · exact .inr (.inr (.inr ⟨rfl, _, rfl⟩))
  | destroyed =>
    exact (grown (callFunctor_queue ⟨none, .eagain⟩ _ .connectDestroyed) mem).imp id .inl

/-- A step does not take the state back. -/
theorem Move.age {l l' : ConnectionLoop} {a : Act} (move : Move l a l')
    (fresh : .connectEstablished ∈ l.queue → l.conn.state = .kConnecting) :
    l.conn.state.age ≤ l'.conn.state.age := by
  have asked {f : Functor} {c : TcpConnection} (asks : Asks l.conn f c) :
      l.conn.state.age ≤ c.state.age := by
    cases asks with
    | shutdown connected =>
      rw [connected]
      exact Nat.le_succ _
    | forceClose alive =>
      rcases alive with alive | alive <;> rw [alive]
      · exact Nat.le_succ _
      · exact Nat.le_refl _
    | _ => exact Nat.le_refl _
  cases move with
  | ignored => exact Nat.le_refl _
  | asked known asks =>
    have := asked asks
    exact this
  | ran known asks =>
    refine Nat.le_trans (asked asks) (TcpConnection.age_callFunctor _ _ ?_)
    intro est
    subst est
    cases asks
  | idle => exact Nat.le_refl _
  | ready => exact Nat.le_refl _
  | handled => exact Nat.le_refl _
  | wentOn => exact TcpConnection.age_goOn ..
  | swapped => exact Nat.le_refl _
  | @called _ f rest next =>
    refine TcpConnection.age_callFunctor _ { l.conn with functors := rest } fun est => fresh ?_
    simp [ConnectionLoop.queue, next, est]
  | released => exact Nat.le_refl _
  | destroyed =>
    exact TcpConnection.age_callFunctor ⟨none, .eagain⟩ l.conn (f := .connectDestroyed) nofun

end ConnectionLoop

end NewFramework.Net
