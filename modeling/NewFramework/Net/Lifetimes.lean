import NewFramework.Net.Connector
import NewFramework.Net.TcpConnection
import NewFramework.Net.TcpServer

/-!
# Lifetimes

What keeps a `TcpConnection`, a `TcpServer` and a `Connector` (`muduo/net/TcpConnection.cpp`,
`muduo/net/TcpServer.cpp`, `muduo/net/TcpClient.cpp`) alive while functors bound to their raw `this`
are queued.  A connection is there as long as a `TcpConnectionPtr` is: of a user thread, of
`connections_` or `connection_`, or bound into a functor, be it in `pendingFunctors_` or in the
vector of a batch, which goes when the whole batch has been called.  The server is there until its
destructor, and the connector as long as its client, a timer of `retry` or the timer of `~TcpClient`
is.

There is one server in the base loop and one client in a loop of its own or the same; what the
user does and when a socket is closed is left open.  The functors of the connector hold nothing
and are kept apart, in their order.  A failed assertion ends the run.  A loop that takes no
further step may as well have been joined by `~EventLoopThread`: nothing waits for its functors.
-/

namespace NewFramework.Net
open NewFramework.Lib

namespace Lifetimes

/-- The calls that leave a functor bound to `this` where the thread is not that of the loop. -/
inductive Method where
  | send
  | shutdown
  | startRead
  | stopRead
  deriving DecidableEq

inductive Functor where
  | connectEstablished (conn : Nat)
  | connectDestroyed (conn : Nat)
  | forceCloseInLoop (conn : Nat)
  /-- `writeCompleteCallback_` or `highWaterMarkCallback_` -/
  | callback (conn : Nat)
  | removeConnectionInLoop (conn : Nat)
  /-- `sendInLoop`, `shutdownInLoop`, `startReadInLoop` or `stopReadInLoop` -/
  | inLoop (m : Method) (conn : Nat)
  deriving DecidableEq

/-- The connection that a functor is about. -/
def Functor.conn : Functor → Nat
  | .connectEstablished c | .connectDestroyed c | .forceCloseInLoop c | .callback c
  | .removeConnectionInLoop c | .inLoop _ c => c

/-- The connection whose `TcpConnectionPtr` is bound. -/
def Functor.binds : Functor → Option Nat
  | .connectEstablished c | .connectDestroyed c | .forceCloseInLoop c | .callback c
  | .removeConnectionInLoop c => some c
  | .inLoop .. => none

/-- The connection whose raw `this` is bound. -/
def Functor.this : Functor → Option Nat
  | .inLoop _ c => some c
  | _ => none

/-- What `closeCallback_` of a connection is. -/
inductive CloseCallback where
  /-- `TcpServer::removeConnection` -/
  | server
  /-- `TcpClient::removeConnection` -/
  | client
  /-- `detail::removeConnection` -/
  | detail
  deriving DecidableEq

structure Connection where
  loop : Loop
  state : StateE
  closeCallback : CloseCallback
  /-- the channel has had its reading enabled, and not everything disabled -/
  registered : Bool
  /-- the `TcpConnectionPtr`s of the user threads, apart from those in a call -/
  handles : Nat
  deriving DecidableEq

/-- The functors of a loop. -/
structure Functors where
  pendingFunctors : List Functor
  /-- in `doPendingFunctors`, with its vector -/
  calling : Bool
  /-- those of the vector that have been called -/
  called : List Functor
  /-- those that have not -/
  functors : List Functor

/-- A `TcpConnectionPtr` to the connection is bound into one of the functors. -/
def Binds (functors : List Functor) (c : Nat) : Prop := ∃ f ∈ functors, f.binds = some c

/-- One of the functors is bound to the raw `this` of the connection. -/
def Waits (functors : List Functor) (c : Nat) : Prop := ∃ f ∈ functors, f.this = some c

instance (functors : List Functor) (c : Nat) : Decidable (Binds functors c) :=
  inferInstanceAs (Decidable (∃ f ∈ functors, _))

instance (functors : List Functor) (c : Nat) : Decidable (Waits functors c) :=
  inferInstanceAs (Decidable (∃ f ∈ functors, _))

/-- All that a loop has. -/
def Functors.all (q : Functors) : List Functor := q.called ++ q.functors ++ q.pendingFunctors

end Lifetimes

structure Lifetimes where
  /-- the connections made, numbered from 0 -/
  conn : Nat → Lifetimes.Connection
  size : Nat
  /-- the calls of user threads that have passed their check and have still to queue -/
  calls : List (Lifetimes.Method × Nat)
  loop : Loop → Lifetimes.Functors
  /-- the destructor has not begun -/
  server : Bool
  connections : List Nat
  clientLoop : Loop
  client : Bool
  connection : Option Nat
  connector : Connector
  /-- the timers of `~TcpClient`, which hold the connector for a second -/
  removers : Nat
  /-- an assertion on the connections has failed -/
  failed : Bool
  /-- a functor has been called whose raw `this` was destroyed -/
  dangling : Bool

namespace Lifetimes

/-- The server and the client are there, and have nothing to do. -/
def new (clientLoop : Loop) : Lifetimes where
  conn _ := ⟨none, .kConnecting, .server, false, 0⟩
  size := 0
  calls := []
  loop _ := ⟨[], false, [], []⟩
  server := true
  connections := []
  clientLoop := clientLoop
  client := true
  connection := none
  connector := .new
  removers := 0
  failed := false
  dangling := false

/-! ## References -/

/-- A call, the server or the client has a `TcpConnectionPtr`. -/
def Owned (s : Lifetimes) (c : Nat) : Prop :=
  c ∈ s.calls.map Prod.snd ∨ c ∈ s.connections ∨ s.connection = some c

/-- One outside the functors is there. -/
def Pinned (s : Lifetimes) (c : Nat) : Prop := (s.conn c).handles ≠ 0 ∨ s.Owned c

/-- The connection has not been destroyed.  The functors with its `TcpConnectionPtr` are in its
own loop, and in that of the server. -/
def Held (s : Lifetimes) (c : Nat) : Prop :=
  s.Pinned c ∨ Binds (s.loop (s.conn c).loop).all c ∨ Binds (s.loop none).all c

/-- The connector has not been destroyed. -/
def ConnectorHeld (s : Lifetimes) : Prop :=
  s.client = true ∨ s.connector.timers ≠ [] ∨ s.removers ≠ 0

instance (s : Lifetimes) (c : Nat) : Decidable (s.Owned c) := inferInstanceAs (Decidable (_ ∨ _))

instance (s : Lifetimes) (c : Nat) : Decidable (s.Pinned c) :=
  inferInstanceAs (Decidable (_ ∨ _))

instance (s : Lifetimes) (c : Nat) : Decidable (s.Held c) := inferInstanceAs (Decidable (_ ∨ _))

instance (s : Lifetimes) : Decidable s.ConnectorHeld := inferInstanceAs (Decidable (_ ∨ _))

/-! ## The program -/

def modify (c : Nat) (g : Connection → Connection) (s : Lifetimes) : Lifetimes :=
  { s with conn := Function.update s.conn c (g (s.conn c)) }

def setState (c : Nat) (state : StateE) (s : Lifetimes) : Lifetimes :=
  s.modify c fun x => { x with state := state }

def setRegistered (c : Nat) (registered : Bool) (s : Lifetimes) : Lifetimes :=
  s.modify c fun x => { x with registered := registered }

def setLoop (l : Loop) (q : Functors) (s : Lifetimes) : Lifetimes :=
  { s with loop := Function.update s.loop l q }

def queueInLoop (l : Loop) (f : Functor) (s : Lifetimes) : Lifetimes :=
  s.setLoop l { s.loop l with pendingFunctors := (s.loop l).pendingFunctors ++ [f] }

def connectEstablished (c : Nat) (s : Lifetimes) : Lifetimes :=
  (s.setState c .kConnected).setRegistered c true

def connectDestroyed (c : Nat) (s : Lifetimes) : Lifetimes :=
  let s := if (s.conn c).state = .kConnected then s.setState c .kDisconnected else s
  s.setRegistered c false

/-- `TcpServer::removeConnectionInLoop(conn)` -/
def removeConnectionInLoop (c : Nat) (s : Lifetimes) : Lifetimes :=
  if s.server then
    if c ∈ s.connections then
      ({ s with connections := s.connections.erase c } : Lifetimes).queueInLoop (s.conn c).loop
        (.connectDestroyed c)
    else { s with failed := true }
  else { s with dangling := true }

/-- `TcpServer::removeConnection(conn)`, in the loop of the connection. -/
def removeFromServer (c : Nat) (s : Lifetimes) : Lifetimes :=
  if (s.conn c).loop = none then s.removeConnectionInLoop c
  else s.queueInLoop none (.removeConnectionInLoop c)

/-- `TcpClient::removeConnection(conn)`, where `retry_ && connect_` is `restart`. -/
def removeFromClient (c : Nat) (restart : Bool) (savedErrno : Connector.ConnectErrno)
    (s : Lifetimes) : Lifetimes :=
  if s.connection = some c then
    let connector := { s.connector with connection := false }
    ({ s with
      connection := none
      connector := if restart then connector.restart savedErrno else connector } :
        Lifetimes).queueInLoop s.clientLoop (.connectDestroyed c)
  else { s with failed := true }

/-- `closeCallback_` -/
def closeCallback (c : Nat) (restart : Bool) (savedErrno : Connector.ConnectErrno)
    (s : Lifetimes) : Lifetimes :=
  match (s.conn c).closeCallback with
  | .server => s.removeFromServer c
  | .client => s.removeFromClient c restart savedErrno
  | .detail => s.queueInLoop (s.conn c).loop (.connectDestroyed c)

/-- `state_ == kConnected || state_ == kDisconnecting` -/
def Open (s : Lifetimes) (c : Nat) : Prop :=
  (s.conn c).state = .kConnected ∨ (s.conn c).state = .kDisconnecting

instance (s : Lifetimes) (c : Nat) : Decidable (s.Open c) := inferInstanceAs (Decidable (_ ∨ _))

def handleClose (c : Nat) (restart : Bool) (savedErrno : Connector.ConnectErrno)
    (s : Lifetimes) : Lifetimes :=
  ((s.setState c .kDisconnected).setRegistered c false).closeCallback c restart savedErrno

def forceCloseInLoop (c : Nat) (restart : Bool) (savedErrno : Connector.ConnectErrno)
    (s : Lifetimes) : Lifetimes :=
  if s.Open c then s.handleClose c restart savedErrno else s

/-- `forceClose()` -/
def forceClose (c : Nat) (s : Lifetimes) : Lifetimes :=
  if s.Open c then
    (s.setState c .kDisconnecting).queueInLoop (s.conn c).loop (.forceCloseInLoop c)
  else s

/-- A functor with a raw `this` runs; what it does to the connection is to enable its reading. -/
def callInLoop (m : Method) (c : Nat) (s : Lifetimes) : Lifetimes :=
  if s.Held c then if m = .startRead then s.setRegistered c true else s
  else { s with dangling := true }

def call (restart : Bool) (savedErrno : Connector.ConnectErrno) (f : Functor) (s : Lifetimes) :
    Lifetimes :=
  match f with
  | .connectEstablished c => s.connectEstablished c
  | .connectDestroyed c => s.connectDestroyed c
  | .forceCloseInLoop c => s.forceCloseInLoop c restart savedErrno
  | .callback _ => s
  | .removeConnectionInLoop c => s.removeConnectionInLoop c
  | .inLoop m c => s.callInLoop m c

/-- The check that a call starts with. -/
def passes (m : Method) (c : Nat) (s : Lifetimes) : Bool :=
  match m with
  | .send | .shutdown => (s.conn c).state = .kConnected
  | .startRead | .stopRead => true

/-- What it does before it goes to the loop. -/
def enter (m : Method) (c : Nat) (s : Lifetimes) : Lifetimes :=
  if m = .shutdown then s.setState c .kDisconnecting else s

/-- A connection that is new. -/
def add (x : Connection) (s : Lifetimes) : Lifetimes :=
  { s with conn := Function.update s.conn s.size x, size := s.size + 1 }

/-- `TcpServer::newConnection`, where `getNextLoop()` returns `loop`. -/
def newConnection (loop : Loop) (s : Lifetimes) : Lifetimes :=
  let c := s.size
  let s := s.add ⟨loop, .kConnecting, .server, false, 0⟩
  let s := { s with connections := s.connections ++ [c] }
  if loop = none then s.connectEstablished c else s.queueInLoop loop (.connectEstablished c)

/-- `TcpClient::newConnection` -/
def newClientConnection (s : Lifetimes) : Lifetimes :=
  let c := s.size
  let s := s.add ⟨s.clientLoop, .kConnecting, .client, false, 0⟩
  ({ s with connection := some c } : Lifetimes).connectEstablished c

/-- `connection_.unique()` -/
def Unique (s : Lifetimes) (c : Nat) : Prop :=
  (s.conn c).handles = 0 ∧ c ∉ s.calls.map Prod.snd ∧ ¬ Binds (s.loop (s.conn c).loop).all c

instance (s : Lifetimes) (c : Nat) : Decidable (s.Unique c) :=
  inferInstanceAs (Decidable (_ ∧ _))

/-- `~TcpClient()` -/
def destroyClient (s : Lifetimes) : Lifetimes :=
  let t := { s with client := false, connection := none }
  match s.connection with
  | some c =>
    let t := t.modify c fun x => { x with closeCallback := .detail }
    if s.Unique c then t.forceClose c else t
  | none =>
    { t with
      connector := ({ s.connector with connect := false } : Connector).queueInLoop .stopInLoop
      removers := s.removers + 1 }

inductive Act where
  | newConnection (loop : Loop)
  /-- a user thread comes by another `TcpConnectionPtr` -/
  | hold (c : Nat)
  | drop (c : Nat)
  /-- a thread that is not that of the loop calls up to `runInLoop` -/
  | call (m : Method) (c : Nat)
  /-- a call queues its functor and returns -/
  | queue (i : Nat)
  | callInLoop (m : Method) (c : Nat)
  /-- `TcpClient::disconnect()` in a thread that is not that of the loop -/
  | disconnect
  | forceClose (c : Nat)
  /-- an event closes a connection -/
  | handleClose (c : Nat) (restart : Bool) (savedErrno : Connector.ConnectErrno)
  /-- the connection queues a callback -/
  | queueCallback (c : Nat)
  | swap (loop : Loop)
  | callFunctor (loop : Loop) (restart : Bool) (savedErrno : Connector.ConnectErrno)
  /-- the vector of the batch goes -/
  | clear (loop : Loop)
  /-- `~TcpServer` begins -/
  | destroyServer
  /-- it comes to the next connection -/
  | destroyNext
  | destroyClient
  | connector (a : Connector.Act)
  /-- the timer of `~TcpClient` expires -/
  | removeConnector

/-- The thread of the loop is not in `~TcpServer`. -/
def Free (s : Lifetimes) (l : Loop) : Prop := l = none → s.server = false → s.connections = []

instance (s : Lifetimes) (l : Loop) : Decidable (s.Free l) :=
  inferInstanceAs (Decidable (_ → _ → _))

/-- The thread of the loop is not in `doPendingFunctors` either. -/
def Idle (s : Lifetimes) (l : Loop) : Prop := s.Free l ∧ (s.loop l).calling = false

instance (s : Lifetimes) (l : Loop) : Decidable (s.Idle l) := inferInstanceAs (Decidable (_ ∧ _))

/-- What the connector is called for: a user thread comes through the client, and the loop when it
is not busy. -/
def Calls (s : Lifetimes) : Connector.Act → Prop
  | .start _ | .stop _ | .advance .. => s.client = true
  | .callFunctor _ => s.Free s.clientLoop
  | .timer .. => s.Idle s.clientLoop
  | .handleEvent .. => s.Idle s.clientLoop ∧ s.ConnectorHeld
  | .removeConnection .. => False

instance (s : Lifetimes) : DecidablePred s.Calls
  | .start _ | .stop _ | .advance .. => inferInstanceAs (Decidable (s.client = true))
  | .callFunctor _ => inferInstanceAs (Decidable (s.Free _))
  | .timer .. => inferInstanceAs (Decidable (s.Idle _))
  | .handleEvent .. => inferInstanceAs (Decidable (_ ∧ _))
  | .removeConnection .. => instDecidableFalse

/-- A step of the connector, and of the client where it hands out a socket. -/
def connectorStep (s : Lifetimes) (a : Connector.Act) : Option Lifetimes :=
  if s.Calls a then
    (s.connector.step a).map fun connector =>
      if s.ConnectorHeld then
        let t := { s with connector := connector }
        if s.connector.connects connector ∧ s.client then t.newClientConnection else t
      else { s with dangling := true }
  else none

def step (s : Lifetimes) (a : Act) : Option Lifetimes :=
  if s.failed || s.connector.failed then none else
  match a with
  | .newConnection loop =>
    if s.server ∧ s.Idle none then some (s.newConnection loop) else none
  | .hold c =>
    if s.Held c then some (s.modify c fun x => { x with handles := x.handles + 1 }) else none
  | .drop c =>
    if (s.conn c).handles ≠ 0 then
      some (s.modify c fun x => { x with handles := x.handles - 1 })
    else none
  | .call m c =>
    if (s.conn c).handles ≠ 0 then
      if s.passes m c then
        let s := s.enter m c
        some { s.modify c (fun x => { x with handles := x.handles - 1 }) with
          calls := s.calls ++ [(m, c)] }
      else some s
    else none
  | .queue i =>
    match s.calls[i]? with
    | none => none
    | some (m, c) =>
      some (({ s with calls := s.calls.eraseIdx i }.modify c
        fun x => { x with handles := x.handles + 1 }).queueInLoop (s.conn c).loop (.inLoop m c))
  | .callInLoop m c =>
    if s.Held c ∧ s.Free (s.conn c).loop then
      some (if s.passes m c then (s.enter m c).callInLoop m c else s)
    else none
  | .disconnect =>
    match s.connection with
    | none => some s
    | some c =>
      -- `mutex_` is held, so the connection is there
      some (if s.passes .shutdown c then
        (s.enter .shutdown c).queueInLoop (s.conn c).loop (.inLoop .shutdown c) else s)
  | .forceClose c => if s.Held c then some (s.forceClose c) else none
  | .handleClose c restart savedErrno =>
    if s.Held c ∧ (s.conn c).registered ∧ s.Open c ∧ s.Idle (s.conn c).loop then
      some (s.handleClose c restart savedErrno)
    else none
  | .queueCallback c =>
    if s.Held c then some (s.queueInLoop (s.conn c).loop (.callback c)) else none
  | .swap l =>
    if s.Idle l then some (s.setLoop l ⟨[], true, [], (s.loop l).pendingFunctors⟩) else none
  | .callFunctor l restart savedErrno =>
    match (s.loop l).functors with
    | [] => none
    | f :: rest =>
      if s.Free l then
        some ((s.setLoop l { s.loop l with
          called := (s.loop l).called ++ [f], functors := rest }).call restart savedErrno f)
      else none
  | .clear l =>
    if s.Free l ∧ (s.loop l).calling ∧ (s.loop l).functors = [] then
      some (s.setLoop l ⟨(s.loop l).pendingFunctors, false, [], []⟩)
    else none
  | .destroyServer => if s.server ∧ s.Idle none then some { s with server := false } else none
  | .destroyNext =>
    match s.connections with
    | [] => none
    | c :: rest =>
      if s.server then none
      else
        let s := { s with connections := rest }
        some (if (s.conn c).loop = none then s.connectDestroyed c
          else s.queueInLoop (s.conn c).loop (.connectDestroyed c))
  | .destroyClient =>
    if s.client ∧ s.Idle s.clientLoop ∧ s.connector.LoopIdle then some s.destroyClient else none
  | .connector a => s.connectorStep a
  | .removeConnector =>
    if s.removers ≠ 0 ∧ s.Idle s.clientLoop then some { s with removers := s.removers - 1 }
    else none

end Lifetimes
end NewFramework.Net
