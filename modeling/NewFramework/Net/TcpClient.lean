import NewFramework.Net.Connector

/-!
# The commands of a `TcpClient`

In `muduo/net/TcpClient.cpp`, `connect()`, `disconnect()` and `stop()` set `connect_` of the client;
the connector has a `connect_` of its own, which the first and the last of them set, and which
`restart()` sets when a connection is lost.  The calls come one after the other, from any threads;
the loop goes on meanwhile, and `removeConnection` too, between its test and `restart()`.
-/

namespace NewFramework.Net
open NewFramework.Lib

namespace Connector

variable {c c' : Connector}

/-- The steps that the loop takes. -/
@[simp] def Act.ofLoop : Act → Bool
  | .callFunctor _ | .timer .. | .handleEvent .. => true
  | _ => false

/-- It makes no connection by itself: it may not, or it has nothing to do. -/
def Halted (c : Connector) : Prop :=
  c.connect = false ∨ c.state ≠ .kConnecting ∧ c.timers = [] ∧ .startInLoop ∉ c.functors

instance (c : Connector) : Decidable c.Halted := inferInstanceAs (Decidable (_ ∨ _))

/-! ### `connect_` and `connection` in the functions of the loop -/

@[simp] theorem assert_connect (p : Prop) [Decidable p] : (c.assert p).connect = c.connect := by
  unfold assert
  split <;> rfl

@[simp] theorem assert_connection (p : Prop) [Decidable p] :
    (c.assert p).connection = c.connection := by
  unfold assert
  split <;> rfl

@[simp] theorem assert_state (p : Prop) [Decidable p] : (c.assert p).state = c.state := by
  unfold assert
  split <;> rfl

@[simp] theorem retry_connect : c.retry.connect = c.connect := by
  unfold retry
  dsimp only
  split <;> rfl

@[simp] theorem retry_connection : c.retry.connection = c.connection := by
  unfold retry
  dsimp only
  split <;> rfl

@[simp] theorem state_retry : c.retry.state = .kDisconnected := by
  unfold retry
  dsimp only
  split <;> rfl

@[simp] theorem removeAndResetChannel_connect :
    c.removeAndResetChannel.connect = c.connect := by
  simp [removeAndResetChannel, queueInLoop]

@[simp] theorem removeAndResetChannel_connection :
    c.removeAndResetChannel.connection = c.connection := by
  simp [removeAndResetChannel, queueInLoop]

@[simp] theorem startInLoop_connect (savedErrno : ConnectErrno) :
    (c.startInLoop savedErrno).connect = c.connect := by
  unfold startInLoop
  dsimp only
  split
  · cases savedErrno <;> simp [connectSocket, connecting]
  · simp

@[simp] theorem startInLoop_connection (savedErrno : ConnectErrno) :
    (c.startInLoop savedErrno).connection = c.connection := by
  unfold startInLoop
  dsimp only
  split
  · cases savedErrno <;> simp [connectSocket, connecting]
  · simp

theorem startInLoop_state (savedErrno : ConnectErrno) (connecting : c.state = .kConnecting) :
    (c.startInLoop savedErrno).state ≠ .kConnected := by
  unfold startInLoop
  dsimp only
  split
  · cases savedErrno <;> simp [connectSocket, Connector.connecting, connecting]
  · simp [connecting]

@[simp] theorem stopInLoop_connect : c.stopInLoop.connect = c.connect := by
  unfold stopInLoop
  split <;> simp

@[simp] theorem stopInLoop_connection : c.stopInLoop.connection = c.connection := by
  unfold stopInLoop
  split <;> simp

@[simp] theorem handleError_connect : c.handleError.connect = c.connect := by
  unfold handleError
  split <;> simp

@[simp] theorem handleWrite_connect (err selfConnect : Bool) :
    (c.handleWrite err selfConnect).connect = c.connect := by
  unfold handleWrite
  split
  · dsimp only
    repeat' split
    all_goals simp
  · simp

theorem callFunctor_connect (savedErrno : ConnectErrno) (f : Functor) :
    (c.callFunctor savedErrno f).connect = c.connect := by
  cases f <;> simp [callFunctor]

theorem callFunctor_connection (savedErrno : ConnectErrno) (f : Functor) :
    (c.callFunctor savedErrno f).connection = c.connection := by
  cases f <;> simp [callFunctor]

/-- Only `handleEvent` connects. -/
theorem callFunctor_state (savedErrno : ConnectErrno) (f : Functor)
    (connecting : c.state = .kConnecting) : (c.callFunctor savedErrno f).state ≠ .kConnected := by
  cases f with
  | startInLoop => exact startInLoop_state savedErrno connecting
  | stopInLoop => simp [callFunctor, stopInLoop, connecting]
  | resetChannel => simp [callFunctor, connecting]

theorem handleEvent_connect (revents : Mask) (err selfConnect : Bool) :
    (c.handleEvent revents err selfConnect).connect = c.connect := by
  unfold handleEvent
  dsimp only
  repeat' split
  all_goals simp

/-- Elsewhere an event of the channel does nothing, but for an assertion. -/
theorem handleEvent_other (other : c.state ≠ .kConnecting) (revents : Mask)
    (err selfConnect : Bool) :
    c.handleEvent revents err selfConnect = c ∨
      c.handleEvent revents err selfConnect = c.assert (c.state = .kDisconnected) := by
  have error : c.handleError = c := if_neg other
  unfold handleEvent
  simp only [error, ite_self]
  split
  · exact .inr (if_neg other)
  · exact .inl rfl

/-- A connection is handed out where `connect_` is set. -/
theorem handleWrite_connection (err selfConnect : Bool) (connecting : c.state = .kConnecting)
    (connected : (c.handleWrite err selfConnect).state = .kConnected) :
    (c.handleWrite err selfConnect).connection = c.connect := by
  unfold handleWrite at connected ⊢
  rw [if_pos connecting] at connected ⊢
  dsimp only at connected ⊢
  split at connected
  · simp at connected
  · next ok =>
    rw [if_neg ok]
    split at connected
    · simp at connected
    · next other =>
      rw [if_neg other]
      exact removeAndResetChannel_connect

theorem handleEvent_connection (revents : Mask) (err selfConnect : Bool)
    (connecting : c.state = .kConnecting)
    (connected : (c.handleEvent revents err selfConnect).state = .kConnected) :
    (c.handleEvent revents err selfConnect).connection = c.connect := by
  have failed : c.handleError.state = .kDisconnected := by
    unfold handleError
    rw [if_pos connecting]
    exact state_retry
  unfold handleEvent at connected ⊢
  dsimp only at connected ⊢
  by_cases error : revents.meets (pollErr ||| pollNval)
  · rw [if_pos error] at connected ⊢
    split at connected
    · rw [handleWrite, if_neg (by rw [failed]; nofun), assert_state, failed] at connected
      contradiction
    · rw [failed] at connected
      contradiction
  · rw [if_neg error] at connected ⊢
    split at connected
    · next write =>
      rw [if_pos write]
      exact handleWrite_connection err selfConnect connecting connected
    · rw [connecting] at connected
      contradiction

/-! ### A step of the loop -/

section OfLoop

variable {a : Act}

theorem connect_of_loop (loop : a.ofLoop) (moved : c.step a = some c') :
    c'.connect = c.connect := by
  cases a with
  | callFunctor savedErrno =>
    simp only [step] at moved
    split at moved
    · contradiction
    · obtain ⟨-, rfl⟩ := some_of_guard moved
      exact callFunctor_connect ..
  | timer i savedErrno =>
    obtain ⟨-, rfl⟩ := some_of_guard moved
    exact startInLoop_connect _
  | handleEvent revents err selfConnect =>
    obtain ⟨-, rfl⟩ := some_of_guard moved
    exact handleEvent_connect ..
  | _ => contradiction

theorem connection_of_loop (loop : a.ofLoop) (moved : c.step a = some c')
    (other : c.state ≠ .kConnecting) : c'.connection = c.connection := by
  cases a with
  | callFunctor savedErrno =>
    simp only [step] at moved
    split at moved
    · contradiction
    · obtain ⟨-, rfl⟩ := some_of_guard moved
      exact callFunctor_connection ..
  | timer i savedErrno =>
    obtain ⟨-, rfl⟩ := some_of_guard moved
    exact startInLoop_connection _
  | handleEvent revents err selfConnect =>
    obtain ⟨-, rfl⟩ := some_of_guard moved
    rcases handleEvent_other other revents err selfConnect with same | same <;> rw [same]
    exact assert_connection _
  | _ => contradiction

theorem connects_iff : c.connects c' ↔
    c.state = .kConnecting ∧ c'.state = .kConnected ∧ c'.connection = true := by
  simp [connects, and_assoc]

/-- It connects where `connect_` is set. -/
theorem connect_of_connects (loop : a.ofLoop) (moved : c.step a = some c')
    (made : c.connects c') : c.connect = true := by
  obtain ⟨connecting, connected, opened⟩ := connects_iff.mp made
  cases a with
  | callFunctor savedErrno =>
    simp only [step] at moved
    split at moved
    · contradiction
    · obtain ⟨-, rfl⟩ := some_of_guard moved
      exact absurd connected (callFunctor_state _ _ connecting)
  | timer i savedErrno =>
    obtain ⟨-, rfl⟩ := some_of_guard moved
    exact absurd connected (startInLoop_state _ connecting)
  | handleEvent revents err selfConnect =>
    obtain ⟨-, rfl⟩ := some_of_guard moved
    rwa [handleEvent_connection _ _ _ connecting connected] at opened
  | _ => contradiction

theorem Halted.not_connects (halted : c.Halted) (loop : a.ofLoop) (moved : c.step a = some c') :
    c.connects c' = false := by
  rw [Bool.eq_false_iff]
  intro made
  rcases halted with off | ⟨other, -, -⟩
  · rw [connect_of_connects loop moved made] at off
    contradiction
  · exact other (connects_iff.mp made).1

theorem Halted.of_loop (halted : c.Halted) (loop : a.ofLoop) (moved : c.step a = some c') :
    c'.Halted := by
  rcases halted with off | ⟨other, timers, starts⟩
  · exact .inl ((connect_of_loop loop moved).trans off)
  · cases a with
    | callFunctor savedErrno =>
      simp only [step] at moved
      split at moved
      · contradiction
      · next f rest next =>
        obtain ⟨-, rfl⟩ := some_of_guard moved
        rw [next, List.mem_cons, not_or] at starts
        cases f with
        | startInLoop => exact absurd rfl starts.1
        | stopInLoop =>
          rw [Connector.callFunctor, stopInLoop, if_neg other]
          exact .inr ⟨other, timers, starts.2⟩
        | resetChannel => exact .inr ⟨other, timers, starts.2⟩
    | timer i savedErrno =>
      obtain ⟨⟨inside, -⟩, -⟩ := some_of_guard moved
      rw [timers] at inside
      contradiction
    | handleEvent revents err selfConnect =>
      obtain ⟨-, rfl⟩ := some_of_guard moved
      refine .inr ?_
      rcases handleEvent_other other revents err selfConnect with same | same <;> rw [same]
      · exact ⟨other, timers, starts⟩
      · unfold assert
        split <;> exact ⟨other, timers, starts⟩
    | _ => contradiction

end OfLoop

theorem connect_of_advance {t : Thread} {savedErrno : ConnectErrno}
    (moved : c.step (.advance t savedErrno) = some c') : c'.connect = c.connect := by
  simp only [step] at moved
  split at moved
  · contradiction
  · obtain rfl := Option.some.inj moved
    split
    · exact startInLoop_connect _
    · rfl
  · obtain rfl := Option.some.inj moved
    rfl

theorem connection_of_advance {t : Thread} {savedErrno : ConnectErrno}
    (moved : c.step (.advance t savedErrno) = some c') : c'.connection = c.connection := by
  simp only [step] at moved
  split at moved
  · contradiction
  · obtain rfl := Option.some.inj moved
    split
    · exact startInLoop_connection _
    · rfl
  · obtain rfl := Option.some.inj moved
    rfl

theorem eq_of_not_restart {savedErrno : ConnectErrno}
    (moved : c.step (.removeConnection false savedErrno) = some c') :
    c' = { c with connection := false } := by
  obtain ⟨-, rfl⟩ := some_of_guard moved
  rfl

theorem connection_of_removeConnection {again : Bool} {savedErrno : ConnectErrno}
    (moved : c.step (.removeConnection again savedErrno) = some c') : c'.connection = false := by
  obtain ⟨-, rfl⟩ := some_of_guard moved
  split
  · exact startInLoop_connection _
  · rfl

end Connector

/-- Where a call has come to. -/
inductive TcpClient.Call where
  /-- `connect()` has set `connect_`, and comes to `connector_->start()` -/
  | connecting
  /-- `stop()`, on its way to `connector_->stop()` -/
  | stopping
  /-- in the connector -/
  | handing
  deriving DecidableEq

structure TcpClient where
  connector : Connector
  retry : Bool
  connect : Bool
  nextConnId : Nat
  /-- `connection_`, by its number -/
  connection : Option Nat
  /-- the connections that have not called `removeConnection` -/
  conns : List Nat
  /-- in `removeConnection`, what `retry_ && connect_` was -/
  removing : Option Bool
  caller : Option (Thread × TcpClient.Call)
  /-- the last call was `disconnect()` or `stop()` -/
  calledOff : Bool
  failed : Bool

namespace TcpClient

def new : TcpClient where
  connector := .new
  retry := false
  connect := true
  nextConnId := 1
  connection := none
  conns := []
  removing := none
  caller := none
  calledOff := false
  failed := false

/-- `newConnection(sockfd)` -/
def newConnection (s : TcpClient) : TcpClient :=
  { s with
    nextConnId := s.nextConnId + 1
    connection := some s.nextConnId
    conns := s.conns ++ [s.nextConnId] }

/-- A step of the connector, which may have called `newConnectionCallback_`. -/
def advance (connector : Connector) (s : TcpClient) : TcpClient :=
  let t := { s with connector := connector }
  if s.connector.connects connector then t.newConnection else t

/-- `removeConnection(conn)` up to the test of `retry_ && connect_`. -/
def removeConnection (conn : Nat) (s : TcpClient) : TcpClient :=
  { s with
    failed := s.failed || s.connection ≠ some conn
    connection := none
    conns := s.conns.erase conn
    removing := some (s.retry && s.connect) }

inductive Act where
  | enableRetry
  | connect (t : Thread)
  /-- its `shutdown()` of the connection is an event of that -/
  | disconnect (t : Thread)
  | stop (t : Thread)
  | callConnector
  /-- what is left of a call, or a step of the loop -/
  | connector (a : Connector.Act)
  | removeConnection (conn : Nat)
  | restart (savedErrno : Connector.ConnectErrno)

/-- No call is under way, and the thread is not in `removeConnection`. -/
def Idle (s : TcpClient) (t : Thread) : Prop := s.caller = none ∧ (t = none → s.removing = none)

instance (s : TcpClient) (t : Thread) : Decidable (s.Idle t) := inferInstanceAs (Decidable (_ ∧ _))

/-- The loop thread is in neither. -/
def LoopIdle (s : TcpClient) : Prop := s.removing = none ∧ s.caller.map Prod.fst ≠ some none

instance (s : TcpClient) : Decidable s.LoopIdle := inferInstanceAs (Decidable (_ ∧ _))

def step (s : TcpClient) : Act → Option TcpClient
  | .enableRetry => some { s with retry := true }
  | .connect t =>
    if s.Idle t then some { s with connect := true, caller := some (t, .connecting) } else none
  | .disconnect t => if s.Idle t then some { s with connect := false, calledOff := true } else none
  | .stop t =>
    if s.Idle t then some { s with connect := false, caller := some (t, .stopping) } else none
  | .callConnector =>
    match s.caller with
    | some (t, .connecting) =>
      (s.connector.step (.start t)).map fun connector =>
        { s with connector := connector, caller := some (t, .handing), calledOff := false }
    | some (t, .stopping) =>
      (s.connector.step (.stop t)).map fun connector =>
        { s with connector := connector, caller := some (t, .handing), calledOff := true }
    | _ => none
  | .connector (.advance t savedErrno) =>
    if s.caller = some (t, .handing) then
      (s.connector.step (.advance t savedErrno)).map fun connector =>
        { s with connector := connector, caller := none }
    else none
  | .connector a =>
    if a.ofLoop ∧ s.LoopIdle then (s.connector.step a).map fun connector => s.advance connector
    else none
  | .removeConnection conn =>
    -- an event of a later `poll` or a functor queued later closes it, and `resetChannel` has run
    if conn ∈ s.conns ∧ .resetChannel ∉ s.connector.functors ∧ s.LoopIdle ∧
        s.connector.LoopIdle then
      some (s.removeConnection conn)
    else none
  | .restart savedErrno =>
    match s.removing with
    | none => none
    | some restart =>
      (s.connector.step (.removeConnection restart savedErrno)).map fun connector =>
        { s with connector := connector, removing := none }

/-! ## Obedience -/

/-- A call has come to this. -/
def In (s : TcpClient) (call : Call) : Prop := s.caller.map Prod.snd = some call

instance (s : TcpClient) (call : Call) : Decidable (s.In call) :=
  inferInstanceAs (Decidable (_ = _))

/-- There is one connection at most, which is `connection_`, and no assertion failed. -/
structure Kept (s : TcpClient) : Prop where
  asserts : s.failed = false
  connector : s.connector.Safe
  conns : s.conns = s.connection.toList

/-- The step makes a connection only where that was not called off, or `connect()` has begun
since. -/
def Obeys (s s' : TcpClient) : Prop :=
  s'.nextConnId ≠ s.nextConnId → s.calledOff → s.In .connecting

/-- The condition on a step: `stop()` does not come between the test of `removeConnection` and its
`restart()`, and `disconnect()` does not come while the client connects or is about to. -/
def Ordered (s : TcpClient) : Act → Prop
  | .callConnector => s.In .stopping → s.removing ≠ some true
  | .disconnect _ => s.removing ≠ some true ∧ s.connector.Halted
  | _ => True

instance (s : TcpClient) (a : Act) : Decidable (s.Ordered a) := by
  unfold Ordered
  split <;> infer_instance

/-- `start()` is called as the connector expects it. -/
def Alone (s : TcpClient) : Act → Prop
  | .connector a => s.connector.Alone a
  | _ => True

instance (s : TcpClient) (a : Act) : Decidable (s.Alone a) := by
  unfold Alone
  split <;> infer_instance

/-- How the connector and the client stand to each other. -/
structure Linked (s : TcpClient) : Prop where
  sound : s.connector.Sound
  asserts : s.failed = false
  conns : s.conns = s.connection.toList
  opened : s.connector.connection = (s.connection.isSome || s.removing.isSome)
  removing : s.removing.isSome → s.connection = none

/-- What the calls leave. -/
structure Commanded (s : TcpClient) : Prop where
  stopping : s.In .stopping → s.connect = false
  handing : s.In .handing → s.calledOff → s.connector.connect = false
  obeys : s.calledOff → ¬ s.In .connecting →
    s.connect = false ∧ s.removing ≠ some true ∧ s.connector.Halted

variable {s s' : TcpClient} {a : Act}

theorem linked_new : Linked new where
  sound := Connector.sound_new
  asserts := rfl
  conns := rfl
  opened := rfl
  removing := nofun

theorem commanded_new : Commanded new where
  stopping := nofun
  handing := nofun
  obeys := nofun

theorem Linked.kept (linked : s.Linked) : s.Kept where
  asserts := linked.asserts
  connector := linked.sound.safe
  conns := linked.conns

/-- The second half of a call, or a step of the loop. -/
theorem connector_cases {b : Connector.Act} (moved : s.step (.connector b) = some s') :
    (∃ t savedErrno connector, b = .advance t savedErrno ∧ s.caller = some (t, .handing) ∧
      s.connector.step b = some connector ∧
      s' = { s with connector := connector, caller := none }) ∨
    ∃ connector, b.ofLoop ∧ s.LoopIdle ∧ s.connector.step b = some connector ∧
      s' = s.advance connector := by
  cases b with
  | advance t savedErrno =>
    obtain ⟨handing, rest⟩ := Option.ite_none_right_eq_some.mp moved
    obtain ⟨connector, inner, rfl⟩ := Option.map_eq_some_iff.mp rest
    exact .inl ⟨t, savedErrno, connector, rfl, handing, inner, rfl⟩
  | start t | stop t | removeConnection restart savedErrno => simp [TcpClient.step] at moved
  | _ =>
    obtain ⟨⟨loop, idle⟩, rest⟩ := Option.ite_none_right_eq_some.mp moved
    obtain ⟨connector, inner, rfl⟩ := Option.map_eq_some_iff.mp rest
    exact .inr ⟨connector, loop, idle, inner, rfl⟩

/-- `connector_->start()` or `connector_->stop()` -/
theorem callConnector_cases (moved : s.step .callConnector = some s') :
    ∃ t, s.connector.stage t = .idle ∧
      (s.caller = some (t, .connecting) ∧ s' = { s with
          connector := ({ s.connector with connect := true } : Connector).enter t .starting
          caller := some (t, .handing), calledOff := false } ∨
        s.caller = some (t, .stopping) ∧ s' = { s with
          connector := ({ s.connector with connect := false } : Connector).enter t .stopping
          caller := some (t, .handing), calledOff := true }) := by
  simp only [TcpClient.step] at moved
  split at moved
  · next t caller =>
    obtain ⟨connector, inner, rfl⟩ := Option.map_eq_some_iff.mp moved
    obtain ⟨idle, rfl⟩ := some_of_guard inner
    exact ⟨t, idle, .inl ⟨caller, rfl⟩⟩
  · next t caller =>
    obtain ⟨connector, inner, rfl⟩ := Option.map_eq_some_iff.mp moved
    obtain ⟨idle, rfl⟩ := some_of_guard inner
    exact ⟨t, idle, .inr ⟨caller, rfl⟩⟩
  · contradiction

theorem Linked.of_loop (linked : s.Linked) (idle : s.LoopIdle) {b : Connector.Act}
    (loop : b.ofLoop) {connector : Connector} (sound : connector.Sound)
    (moved : s.connector.step b = some connector) : (s.advance connector).Linked := by
  have opened := linked.opened
  rw [idle.1, Option.isSome_none, Bool.or_false] at opened
  unfold TcpClient.advance
  dsimp only
  split
  · next made =>
    obtain ⟨connecting, -, out⟩ := Connector.connects_iff.mp made
    have closed : s.connection = none := by
      have alone := linked.sound.connecting_alone connecting
      rw [← Option.not_isSome_iff_eq_none, ← opened, alone.2.2.2.2]
      nofun
    exact {
      sound := sound
      asserts := linked.asserts
      conns := by
        have none_left := linked.conns
        rw [closed] at none_left
        show s.conns ++ _ = _
        rw [none_left]
        rfl
      opened := out
      removing := fun removing => by
        change s.removing.isSome at removing
        rw [idle.1] at removing
        contradiction }
  · next other =>
    refine { linked with sound := sound, opened := ?_ }
    rw [← linked.opened]
    by_cases connecting : s.connector.state = .kConnecting
    · rw [(linked.sound.connecting_alone connecting).2.2.2.2, Bool.eq_false_iff]
      exact fun out => other (Connector.connects_iff.mpr ⟨connecting, sound.out out, out⟩)
    · exact Connector.connection_of_loop loop moved connecting

theorem Commanded.of_loop (commanded : s.Commanded) {b : Connector.Act} (loop : b.ofLoop)
    {connector : Connector} (moved : s.connector.step b = some connector) :
    (s.advance connector).Commanded := by
  have still : ({ s with connector := connector } : TcpClient).Commanded := {
    stopping := commanded.stopping
    handing := fun handing off =>
      (Connector.connect_of_loop loop moved).trans (commanded.handing handing off)
    obeys := fun off free => by
      obtain ⟨connect, removing, halted⟩ := commanded.obeys off free
      exact ⟨connect, removing, halted.of_loop loop moved⟩ }
  unfold TcpClient.advance
  dsimp only
  split
  · exact { still with }
  · exact still

theorem Linked.step (linked : s.Linked) (alone : s.Alone a) (moved : s.step a = some s') :
    s'.Linked := by
  cases a with
  | enableRetry =>
    obtain rfl := Option.some.inj moved
    exact { linked with }
  | connect t | stop t | disconnect t =>
    obtain ⟨-, rfl⟩ := some_of_guard moved
    exact { linked with }
  | callConnector =>
    obtain ⟨t, idle, ⟨-, rfl⟩ | ⟨-, rfl⟩⟩ := callConnector_cases moved
    · exact { linked with sound := { linked.sound with } }
    · exact { linked with sound := { linked.sound with } }
  | connector b =>
    rcases connector_cases moved with
      ⟨t, savedErrno, connector, rfl, -, inner, rfl⟩ | ⟨connector, loop, idle, inner, rfl⟩
    · have opened : connector.connection = s.connector.connection :=
        Connector.connection_of_advance inner
      exact { linked with
        sound := linked.sound.step (a := .advance t savedErrno) alone inner
        opened := opened.trans linked.opened }
    · exact linked.of_loop idle loop (linked.sound.step (a := b) alone inner) inner
  | removeConnection conn =>
    obtain ⟨⟨mem, -, -, -⟩, rfl⟩ := some_of_guard moved
    have conns := linked.conns
    rw [conns, Option.mem_toList] at mem
    have opened : s.connection = some conn := mem
    exact { linked with
      asserts := by simp [TcpClient.removeConnection, linked.asserts, opened]
      conns := by
        show s.conns.erase conn = _
        rw [conns, opened]
        exact List.erase_cons_head ..
      opened := by
        show s.connector.connection = _
        rw [linked.opened, opened]
        rfl
      removing := fun _ => rfl }
  | restart savedErrno =>
    simp only [TcpClient.step] at moved
    split at moved
    · contradiction
    · next restart removing =>
      obtain ⟨connector, inner, rfl⟩ := Option.map_eq_some_iff.mp moved
      have closed := linked.removing (by rw [removing]; rfl)
      exact { linked with
        sound := linked.sound.step (a := .removeConnection restart savedErrno) trivial inner
        opened := by
          show connector.connection = (s.connection.isSome || _)
          rw [Connector.connection_of_removeConnection inner, closed]
          rfl
        removing := nofun }

theorem In.apart {call other : Call} (within : s.In call) (apart : call ≠ other) :
    ¬ s.In other :=
  fun within' => apart (Option.some.inj (within.symm.trans within'))

theorem Idle.not_in {t : Thread} (idle : s.Idle t) (call : Call) : ¬ s.In call := by
  unfold In
  rw [idle.1]
  nofun

theorem Commanded.step (commanded : s.Commanded) (ordered : s.Ordered a)
    (moved : s.step a = some s') : s'.Commanded := by
  cases a with
  | enableRetry =>
    obtain rfl := Option.some.inj moved
    exact { commanded with }
  | connect t =>
    obtain ⟨-, rfl⟩ := some_of_guard moved
    exact {
      stopping := nofun
      handing := nofun
      obeys := fun _ idle => absurd rfl idle }
  | stop t =>
    obtain ⟨idle, rfl⟩ := some_of_guard moved
    exact {
      stopping := fun _ => rfl
      handing := nofun
      obeys := fun off _ => ⟨rfl, (commanded.obeys off (idle.not_in _)).2⟩ }
  | disconnect t =>
    obtain ⟨idle, rfl⟩ := some_of_guard moved
    exact {
      stopping := fun _ => rfl
      handing := fun handing => absurd handing (idle.not_in _)
      obeys := fun _ _ => ⟨rfl, ordered⟩ }
  | callConnector =>
    obtain ⟨t, -, ⟨-, rfl⟩ | ⟨caller, rfl⟩⟩ := callConnector_cases moved
    · exact ⟨nofun, nofun, nofun⟩
    · have stopping : s.In .stopping := by rw [In, caller]; rfl
      exact {
        stopping := nofun
        handing := fun _ _ => rfl
        obeys := fun _ _ => ⟨commanded.stopping stopping, ordered stopping, .inl rfl⟩ }
  | connector b =>
    rcases connector_cases moved with
      ⟨t, savedErrno, connector, rfl, caller, inner, rfl⟩ | ⟨connector, loop, idle, inner, rfl⟩
    · have handing : s.In .handing := by rw [In, caller]; rfl
      exact {
        stopping := nofun
        handing := nofun
        obeys := fun off _ => by
          obtain ⟨connect, removing, -⟩ := commanded.obeys off (handing.apart nofun)
          have off := commanded.handing handing off
          exact ⟨connect, removing, .inl ((Connector.connect_of_advance inner).trans off)⟩ }
    · exact commanded.of_loop loop inner
  | removeConnection conn =>
    obtain ⟨-, rfl⟩ := some_of_guard moved
    exact { commanded with
      obeys := fun off idle => by
        obtain ⟨connect, -, halted⟩ := commanded.obeys off idle
        refine ⟨connect, ?_, halted⟩
        show some (s.retry && s.connect) ≠ _
        rw [connect, Bool.and_false]
        nofun }
  | restart savedErrno =>
    simp only [TcpClient.step] at moved
    split at moved
    · contradiction
    · next restart removing =>
      obtain ⟨connector, inner, rfl⟩ := Option.map_eq_some_iff.mp moved
      -- a `restart()` that was called off does not come
      have drops (off : s.calledOff) (idle : ¬ s.In .connecting) :
          connector = { s.connector with connection := false } := by
        have stays := (commanded.obeys off idle).2.1
        rw [removing] at stays
        cases restart with
        | true => exact absurd rfl stays
        | false => exact Connector.eq_of_not_restart inner
      exact {
        stopping := commanded.stopping
        handing := fun handing off => by
          show connector.connect = false
          rw [drops off (handing.apart nofun)]
          exact commanded.handing handing off
        obeys := fun off idle => by
          obtain ⟨connect, -, halted⟩ := commanded.obeys off idle
          refine ⟨connect, nofun, ?_⟩
          show connector.Halted
          rw [drops off idle]
          exact halted }

/-- A connection comes of a connector that is not halted. -/
theorem Commanded.wanted (commanded : s.Commanded) (moved : s.step a = some s')
    (made : s'.nextConnId ≠ s.nextConnId) (off : s.calledOff) : s.In .connecting := by
  by_contra idle
  have halted := (commanded.obeys off idle).2.2
  apply made
  cases a with
  | enableRetry =>
    obtain rfl := Option.some.inj moved
    rfl
  | connect t | stop t | disconnect t | removeConnection conn =>
    obtain ⟨-, rfl⟩ := some_of_guard moved
    rfl
  | callConnector =>
    obtain ⟨t, -, ⟨-, rfl⟩ | ⟨-, rfl⟩⟩ := callConnector_cases moved <;> rfl
  | connector b =>
    rcases connector_cases moved with
      ⟨t, savedErrno, connector, rfl, -, inner, rfl⟩ | ⟨connector, loop, -, inner, rfl⟩
    · rfl
    · unfold TcpClient.advance
      dsimp only
      rw [halted.not_connects loop inner]
      rfl
  | restart savedErrno =>
    simp only [TcpClient.step] at moved
    split at moved
    · contradiction
    · obtain ⟨connector, -, rfl⟩ := Option.map_eq_some_iff.mp moved
      rfl

/-- Whatever its calls and its loop do, a client has one connection at most; and where no `stop()`
and no `disconnect()` comes at the wrong time, a client that was told to disconnect or to stop makes
no connection until it is told to connect. -/
theorem eachStep_obeys {as : List Act} (alone : EachStep step (fun s a _ => s.Alone a) new as) :
    EachStep step (fun _ _ s' => s'.Kept) new as ∧
      (EachStep step (fun s a _ => s.Ordered a) new as →
        EachStep step (fun s _ s' => Obeys s s') new as) := by
  have links (s : TcpClient) (a : Act) (s' : TcpClient) (linked : s.Linked) (alone : s.Alone a)
      (moved : s.step a = some s') : s'.Linked ∧ s'.Kept := by
    have linked := linked.step alone moved
    exact ⟨linked, linked.kept⟩
  have commands (s : TcpClient) (a : Act) (s' : TcpClient) (commanded : s.Commanded)
      (ordered : s.Ordered a) (moved : s.step a = some s') : s'.Commanded ∧ Obeys s s' :=
    ⟨commanded.step ordered moved, commanded.wanted moved⟩
  exact ⟨EachStep.of_invariant links linked_new alone,
    EachStep.of_invariant commands commanded_new⟩

/-- The client connects and loses the connection, and is told to stop while it reconnects. -/
def stoppedWhileReconnecting : List Act :=
  [.enableRetry, .connect (some 0), .callConnector, .connector (.advance (some 0) .ok),
    .connector (.callFunctor .einprogress), .connector (.handleEvent pollOut false false),
    .connector (.callFunctor .ok), .removeConnection 1, .restart .econnrefused,
    .stop (some 1), .callConnector, .connector (.advance (some 1) .ok),
    .connector (.timer 0 .ok), .connector (.callFunctor .ok)]

theorem eachStep_obeys_stoppedWhileReconnecting :
    EachStep step (fun s _ s' => Obeys s s') new stoppedWhileReconnecting :=
  (eachStep_obeys (by decide)).2 (by decide)

/-- Where `stop()` comes before `restart()`, the client connects once more. -/
example : (exec step new
    [.enableRetry, .connect none, .callConnector, .connector (.advance none .ok),
      .connector (.handleEvent pollOut false false), .connector (.callFunctor .ok),
      .removeConnection 1, .stop (some 0), .callConnector, .restart .ok,
      .connector (.handleEvent pollOut false false)]).map
    (fun s => (s.calledOff, s.connection)) = some (true, some 2) := by
  decide

end TcpClient

end NewFramework.Net
