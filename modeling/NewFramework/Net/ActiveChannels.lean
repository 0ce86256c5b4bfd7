import NewFramework.Net.Connector
import NewFramework.Net.TcpConnection

/-!
# The active channels of an iteration

`loop()` (`muduo/net/EventLoop.cpp`) takes the channels that `poll` reported, calls `handleEvent` of
each, and comes to the functors when it is through.  What the callbacks do in between may take
channels out of the poller: `removeAndResetChannel` of a connector its own, the functors none before
their time, and `~TcpServer` those of its connections in this loop and of its acceptor, at once.

There are servers with their base in this loop, clients, and connections of servers elsewhere,
any number of each.  The user may run in every callback, in the destructor of a server too.
Timers other than those of `retry`, and the wakeup channel, change no channel; other assertions
than that of `removeChannel` end the run.
-/

namespace NewFramework.Net
open NewFramework.Lib

namespace ActiveChannels

/-- A channel, by its owner. -/
inductive Ch where
  | wakeup
  | timerfd
  | acceptor (server : Nat)
  | connector (client : Nat)
  | conn (c : Nat)
  deriving DecidableEq

/-- Who has the `closeCallback_` of a connection in this loop. -/
inductive Owner where
  /-- a server with its base in this loop -/
  | server (v : Nat)
  | client (k : Nat)
  /-- a server with its base in another loop -/
  | elsewhere
  deriving DecidableEq

structure Conn where
  owner : Owner
  state : StateE
  deriving DecidableEq

inductive Functor where
  | connectEstablished (c : Nat)
  | connectDestroyed (c : Nat)
  | forceCloseInLoop (c : Nat)
  deriving DecidableEq

def Functor.conn : Functor → Nat
  | .connectEstablished c | .connectDestroyed c | .forceCloseInLoop c => c

structure Server where
  /-- the destructor has not begun -/
  alive : Bool
  /-- those of `connections_` that are in this loop -/
  connections : List Nat

end ActiveChannels

/-- An `EventLoop` and what is in it. -/
structure ActiveChannels where
  /-- `channels_` of the poller -/
  poller : ActiveChannels.Ch → Bool
  activeChannels : List ActiveChannels.Ch
  /-- those behind the iterator -/
  rest : List ActiveChannels.Ch
  currentActiveChannel : Option ActiveChannels.Ch
  eventHandling : Bool
  /-- the channels removed since `poll` -/
  removed : List ActiveChannels.Ch
  conn : Nat → ActiveChannels.Conn
  size : Nat
  /-- the connections that have been destroyed -/
  destroyed : List Nat
  server : Nat → ActiveChannels.Server
  /-- the servers in their destructor, the innermost first -/
  destroying : List Nat
  connector : Nat → Connector
  /-- `connection_` of a client -/
  connection : Nat → Option Nat
  functors : List ActiveChannels.Functor
  /-- the assertion of `removeChannel` has failed -/
  failed : Bool
  /-- `handleEvent` has been called on a channel that was removed or destroyed -/
  stale : Bool

namespace ActiveChannels

/-- The loop before its first `poll`. -/
def new : ActiveChannels where
  poller ch := ch = .wakeup ∨ ch = .timerfd
  activeChannels := []
  rest := []
  currentActiveChannel := none
  eventHandling := false
  removed := []
  conn _ := ⟨.elsewhere, .kConnecting⟩
  size := 0
  destroyed := []
  server _ := ⟨true, []⟩
  destroying := []
  connector _ := .new
  connection _ := none
  functors := []
  failed := false
  stale := false

/-- What `removeChannel` asserts. -/
def Removable (s : ActiveChannels) (ch : Ch) : Prop :=
  s.eventHandling = true → s.currentActiveChannel = some ch ∨ ch ∉ s.activeChannels

instance (s : ActiveChannels) (ch : Ch) : Decidable (s.Removable ch) :=
  inferInstanceAs (Decidable (_ → _))

def removeChannel (ch : Ch) (s : ActiveChannels) : ActiveChannels :=
  { s with
    failed := s.failed || decide (¬ s.Removable ch)
    poller := Function.update s.poller ch false
    removed := s.removed ++ [ch] }

def updateChannel (ch : Ch) (s : ActiveChannels) : ActiveChannels :=
  { s with poller := Function.update s.poller ch true }

def queueInLoop (f : Functor) (s : ActiveChannels) : ActiveChannels :=
  { s with functors := s.functors ++ [f] }

/-! ## Connections -/

def setState (c : Nat) (state : StateE) (s : ActiveChannels) : ActiveChannels :=
  { s with conn := Function.update s.conn c { s.conn c with state := state } }

def add (x : Conn) (s : ActiveChannels) : ActiveChannels :=
  { s with conn := Function.update s.conn s.size x, size := s.size + 1 }

def connectEstablished (c : Nat) (s : ActiveChannels) : ActiveChannels :=
  (s.setState c .kConnected).updateChannel (.conn c)

def connectDestroyed (c : Nat) (s : ActiveChannels) : ActiveChannels :=
  let s := if (s.conn c).state = .kConnected then s.setState c .kDisconnected else s
  s.removeChannel (.conn c)

def setConnections (v : Nat) (connections : List Nat) (s : ActiveChannels) : ActiveChannels :=
  { s with
    server := Function.update s.server v { s.server v with connections := connections } }

/-- A connector after a step; its channel is in the poller until `removeAndResetChannel`. -/
def setConnector (k : Nat) (connector : Connector) (s : ActiveChannels) : ActiveChannels :=
  let s := { s with connector := Function.update s.connector k connector }
  if connector.channel = .registered then s.updateChannel (.connector k)
  else if s.poller (.connector k) then s.removeChannel (.connector k)
  else s

/-- `state_ == kConnected || state_ == kDisconnecting` -/
def Open (s : ActiveChannels) (c : Nat) : Prop :=
  (s.conn c).state = .kConnected ∨ (s.conn c).state = .kDisconnecting

instance (s : ActiveChannels) (c : Nat) : Decidable (s.Open c) :=
  inferInstanceAs (Decidable (_ ∨ _))

/-- `TcpServer::removeConnection(conn)`, in its loop -/
def removeFromServer (v c : Nat) (s : ActiveChannels) : Option ActiveChannels :=
  if (s.server v).alive ∧ c ∈ (s.server v).connections then
    some ((s.setConnections v ((s.server v).connections.erase c)).queueInLoop (.connectDestroyed c))
  else none

/-- `TcpClient::removeConnection(conn)`, where `retry_ && connect_` is `restart`. -/
def removeFromClient (k c : Nat) (restart : Bool) (savedErrno : Connector.ConnectErrno)
    (s : ActiveChannels) : Option ActiveChannels :=
  if s.connection k = some c then
    let s := ({ s with connection := Function.update s.connection k none } :
      ActiveChannels).queueInLoop (.connectDestroyed c)
    let connector := { s.connector k with connection := false }
    let connector := if restart then connector.restart savedErrno else connector
    if connector.failed then none else some (s.setConnector k connector)
  else none

/-- `handleClose()`; the server of another loop has a functor queued there. -/
def handleClose (c : Nat) (restart : Bool) (savedErrno : Connector.ConnectErrno)
    (s : ActiveChannels) : Option ActiveChannels :=
  let s := s.setState c .kDisconnected
  match (s.conn c).owner with
  | .server v => s.removeFromServer v c
  | .client k => s.removeFromClient k c restart savedErrno
  | .elsewhere => some s

def call (restart : Bool) (savedErrno : Connector.ConnectErrno) (f : Functor)
    (s : ActiveChannels) : Option ActiveChannels :=
  match f with
  | .connectEstablished c => some (s.connectEstablished c)
  | .connectDestroyed c => some (s.connectDestroyed c)
  | .forceCloseInLoop c => if s.Open c then s.handleClose c restart savedErrno else some s

/-- A connection of this loop is accepted, in the base loop, which establishes it at once. -/
def newConnection (v : Nat) (s : ActiveChannels) : ActiveChannels :=
  let c := s.size
  let s := s.add ⟨.server v, .kConnecting⟩
  (s.setConnections v ((s.server v).connections ++ [c])).connectEstablished c

/-- `TcpClient::newConnection` -/
def newClientConnection (k : Nat) (s : ActiveChannels) : ActiveChannels :=
  let c := s.size
  let s := s.add ⟨.client k, .kConnecting⟩
  ({ s with connection := Function.update s.connection k (some c) } :
    ActiveChannels).connectEstablished c

/-- A `TcpConnectionPtr` that is not of a user. -/
def Referenced (s : ActiveChannels) (c : Nat) : Prop :=
  (match (s.conn c).owner with
    | .server v => c ∈ (s.server v).connections
    | .client k => s.connection k = some c
    | .elsewhere => False) ∨
  (∃ f ∈ s.functors, f.conn = c) ∨ s.currentActiveChannel = some (.conn c)

instance (s : ActiveChannels) (c : Nat) : Decidable (s.Referenced c) := by
  unfold Referenced
  cases (s.conn c).owner <;> infer_instance

/-! ## Steps -/

inductive Act where
  /-- `poll` reports these channels -/
  | poll (active : List Ch)
  /-- the iterator comes to the next channel, or to the end -/
  | next
  | callFunctor (restart : Bool) (savedErrno : Connector.ConnectErrno)
  /-- `send`, `startRead` or `stopRead` comes to `updateChannel` -/
  | update (c : Nat)
  | shutdown (c : Nat)
  | forceClose (c : Nat)
  /-- the channel of a connection closes it -/
  | handleClose (c : Nat) (restart : Bool) (savedErrno : Connector.ConnectErrno)
  | listen (v : Nat)
  /-- `acceptChannel_` has a connection for this loop -/
  | accept (v : Nat)
  /-- a server elsewhere has one for it -/
  | queueEstablished
  /-- and is done with it -/
  | queueDestroyed (c : Nat)
  | connector (k : Nat) (a : Connector.Act)
  /-- `~TcpServer` begins -/
  | destroyServer (v : Nat)
  /-- it comes to the next connection, or after them to `~Acceptor` -/
  | destroyNext
  /-- the last `TcpConnectionPtr` is dropped -/
  | destroy (c : Nat)

/-- The connection is there. -/
def Live (s : ActiveChannels) (c : Nat) : Prop := c < s.size ∧ c ∉ s.destroyed

instance (s : ActiveChannels) (c : Nat) : Decidable (s.Live c) :=
  inferInstanceAs (Decidable (_ ∧ _))

/-- The loop thread is in `doPendingFunctors`, and in no destructor. -/
def Calls (s : ActiveChannels) : Prop := s.eventHandling = false ∧ s.destroying = []

instance (s : ActiveChannels) : Decidable s.Calls := inferInstanceAs (Decidable (_ ∧ _))

/-- Where a step of a connector is taken. -/
def Reaches (s : ActiveChannels) (k : Nat) : Connector.Act → Prop
  | .start _ | .stop _ | .advance .. => True
  | .callFunctor _ => s.Calls
  | .timer .. => s.currentActiveChannel = some .timerfd
  | .handleEvent .. => s.currentActiveChannel = some (.connector k)
  | .removeConnection .. => False

instance (s : ActiveChannels) (k : Nat) : DecidablePred (s.Reaches k)
  | .start _ | .stop _ | .advance .. => instDecidableTrue
  | .callFunctor _ => inferInstanceAs (Decidable s.Calls)
  | .timer .. | .handleEvent .. => inferInstanceAs (Decidable (_ = some _))
  | .removeConnection .. => instDecidableFalse

def connectorStep (k : Nat) (a : Connector.Act) (s : ActiveChannels) : Option ActiveChannels :=
  if s.Reaches k a then
    ((s.connector k).step a).bind fun connector =>
      if connector.failed then none
      else
        let t := s.setConnector k connector
        some (if (s.connector k).connects connector then t.newClientConnection k else t)
  else none

def step (s : ActiveChannels) : Act → Option ActiveChannels
  | .poll active =>
    if s.Calls ∧ active.Nodup ∧ ∀ ch ∈ active, s.poller ch then
      some { s with
        activeChannels := active, rest := active, currentActiveChannel := none
        eventHandling := true, removed := [] }
    else none
  | .next =>
    if s.eventHandling ∧ s.destroying = [] then
      match s.rest with
      | [] => some { s with currentActiveChannel := none, eventHandling := false }
      | ch :: rest =>
        let gone : Bool := match ch with
          | .conn c => c ∈ s.destroyed
          | _ => false
        some { s with
          currentActiveChannel := some ch, rest := rest
          stale := s.stale || decide (ch ∈ s.removed) || gone }
    else none
  | .callFunctor restart savedErrno =>
    match s.functors with
    | [] => none
    | f :: functors =>
      if s.Calls then ({ s with functors := functors } : ActiveChannels).call restart savedErrno f
      else none
  | .update c => if s.Live c then some (s.updateChannel (.conn c)) else none
  | .shutdown c =>
    if s.Live c ∧ (s.conn c).state = .kConnected then some (s.setState c .kDisconnecting) else none
  | .forceClose c =>
    if s.Live c ∧ s.Open c then
      some ((s.setState c .kDisconnecting).queueInLoop (.forceCloseInLoop c))
    else none
  | .handleClose c restart savedErrno =>
    if s.currentActiveChannel = some (.conn c) ∧ s.Live c ∧ s.Open c then
      s.handleClose c restart savedErrno
    else none
  | .listen v => if (s.server v).alive then some (s.updateChannel (.acceptor v)) else none
  | .accept v =>
    if s.currentActiveChannel = some (.acceptor v) ∧ (s.server v).alive then
      some (s.newConnection v)
    else none
  | .queueEstablished =>
    some ((s.add ⟨.elsewhere, .kConnecting⟩).queueInLoop (.connectEstablished s.size))
  | .queueDestroyed c =>
    if s.Live c ∧ (s.conn c).owner = .elsewhere then some (s.queueInLoop (.connectDestroyed c))
    else none
  | .connector k a => s.connectorStep k a
  | .destroyServer v =>
    if (s.server v).alive then
      some { s with
        server := Function.update s.server v { s.server v with alive := false }
        destroying := v :: s.destroying }
    else none
  | .destroyNext =>
    match s.destroying with
    | [] => none
    | v :: outer =>
      match (s.server v).connections with
      | c :: connections => some ((s.setConnections v connections).connectDestroyed c)
      | [] => some (({ s with destroying := outer } : ActiveChannels).removeChannel (.acceptor v))
  | .destroy c =>
    if s.Live c ∧ ¬ s.Referenced c ∧ s.poller (.conn c) = false then
      some { s with destroyed := c :: s.destroyed }
    else none

end ActiveChannels
end NewFramework.Net
