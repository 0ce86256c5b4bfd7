import NewFramework.Net.Connector

/-!
# The sockets of a `Connector`

`Connector` (`muduo/net/Connector.cpp`) with the socket of each attempt.  A socket is named by its
place in the order of `createNonblockingOrDie`; it ends by a `close` of the connector or with
`newConnectionCallback_`.  `restart()` may come at any time in the loop thread.
-/

namespace NewFramework.Net
open NewFramework.Lib

/-- How a socket leaves the connector. -/
inductive SocketEnd where
  | closed
  | passed
  deriving DecidableEq

structure ConnectorSockets where
  connector : Connector
  /-- `channel_->fd()` -/
  fd : Nat
  created : Nat
  ends : List (Nat × SocketEnd)

namespace ConnectorSockets
open Connector

def new : ConnectorSockets := ⟨.new, 0, 0, []⟩

/-- A part of the code that does nothing with a socket. -/
def update (f : Connector → Connector) (s : ConnectorSockets) : ConnectorSockets :=
  { s with connector := f s.connector }

/-- `createNonblockingOrDie` -/
def create (s : ConnectorSockets) : ConnectorSockets := { s with created := s.created + 1 }

def close (sockfd : Nat) (s : ConnectorSockets) : ConnectorSockets :=
  { s with ends := s.ends ++ [(sockfd, .closed)] }

/-- `newConnectionCallback_` -/
def pass (sockfd : Nat) (s : ConnectorSockets) : ConnectorSockets :=
  { s with ends := s.ends ++ [(sockfd, .passed)] }

def retry (sockfd : Nat) (s : ConnectorSockets) : ConnectorSockets :=
  (s.close sockfd).update .retry

def connecting (sockfd : Nat) (s : ConnectorSockets) : ConnectorSockets :=
  { s.update .connecting with fd := sockfd }

/-- `connect()` -/
def connectSocket (savedErrno : ConnectErrno) (s : ConnectorSockets) : ConnectorSockets :=
  let sockfd := s.created
  match savedErrno with
  | .ok | .einprogress | .eintr | .eisconn => s.create.connecting sockfd
  | .eagain | .eaddrinuse | .eaddrnotavail | .econnrefused | .enetunreach => s.create.retry sockfd
  | _ => s.create.close sockfd

def startInLoop (savedErrno : ConnectErrno) (s : ConnectorSockets) : ConnectorSockets :=
  let s := s.update fun c => c.assert (c.state = .kDisconnected)
  if s.connector.connect then s.connectSocket savedErrno else s

def stopInLoop (s : ConnectorSockets) : ConnectorSockets :=
  if s.connector.state = .kConnecting then
    (s.update fun c => ({ c with state := .kDisconnected } : Connector).removeAndResetChannel).retry
      s.fd
  else s

def restart (savedErrno : ConnectErrno) (s : ConnectorSockets) : ConnectorSockets :=
  (s.update fun c =>
    { c with
      state := .kDisconnected
      retryDelayMs := kInitRetryDelayMs
      connect := true }).startInLoop savedErrno

def handleWrite (err selfConnect : Bool) (s : ConnectorSockets) : ConnectorSockets :=
  if s.connector.state = .kConnecting then
    let sockfd := s.fd
    let s := s.update .removeAndResetChannel
    if err then s.retry sockfd
    else if selfConnect then s.retry sockfd
    else
      let s := s.update fun c => { c with state := .kConnected, connection := c.connect }
      if s.connector.connect then s.pass sockfd else s.close sockfd
  else s.update fun c => c.assert (c.state = .kDisconnected)

def handleError (s : ConnectorSockets) : ConnectorSockets :=
  if s.connector.state = .kConnecting then (s.update .removeAndResetChannel).retry s.fd else s

def handleEvent (revents : Mask) (err selfConnect : Bool) (s : ConnectorSockets) :
    ConnectorSockets :=
  let s := if revents.meets (pollErr ||| pollNval) then s.handleError else s
  if revents.meets pollOut then s.handleWrite err selfConnect else s

def callFunctor (savedErrno : ConnectErrno) (s : ConnectorSockets) : Functor → ConnectorSockets
  | .startInLoop => s.startInLoop savedErrno
  | .stopInLoop => s.stopInLoop
  | .resetChannel => s.update fun c => { c with channel := .null }

inductive Act where
  | connector (a : Connector.Act)
  | restart (savedErrno : ConnectErrno)

def step (s : ConnectorSockets) : Act → Option ConnectorSockets
  | .connector (.start t) =>
    if s.connector.stage t = .idle then
      some (s.update fun c => { c with connect := true }.enter t .starting)
    else none
  | .connector (.stop t) =>
    if s.connector.stage t = .idle then
      some (s.update fun c => { c with connect := false }.enter t .stopping)
    else none
  | .connector (.advance t savedErrno) =>
    match s.connector.stage t with
    | .idle => none
    | .starting =>
      let s := s.update fun c => c.enter t .idle
      some (if t = none then s.startInLoop savedErrno
        else s.update fun c => c.queueInLoop .startInLoop)
    | .stopping => some (s.update fun c => (c.enter t .idle).queueInLoop .stopInLoop)
  | .connector (.callFunctor savedErrno) =>
    match s.connector.functors with
    | [] => none
    | f :: rest =>
      if s.connector.LoopIdle then
        some ((s.update fun c => { c with functors := rest }).callFunctor savedErrno f)
      else none
  | .connector (.timer i savedErrno) =>
    if i < s.connector.timers.length ∧ s.connector.LoopIdle then
      some ((s.update fun c => { c with timers := c.timers.eraseIdx i }).startInLoop savedErrno)
    else none
  | .connector (.handleEvent revents err selfConnect) =>
    if s.connector.channel = .registered ∧ s.connector.LoopIdle then
      some (s.handleEvent revents err selfConnect)
    else none
  | .connector (.removeConnection restart savedErrno) =>
    if s.connector.connection ∧ .resetChannel ∉ s.connector.functors ∧ s.connector.LoopIdle then
      let s := s.update fun c => { c with connection := false }
      some (if restart then s.restart savedErrno else s)
    else none
  | .restart savedErrno =>
    if s.connector.LoopIdle then some (s.restart savedErrno) else none

/-! ## Without the sockets -/

section Connector

variable (s : ConnectorSockets)

@[simp] theorem connector_update (f : Connector → Connector) :
    (s.update f).connector = f s.connector := rfl

@[simp] theorem connector_connectSocket (savedErrno : ConnectErrno) :
    (s.connectSocket savedErrno).connector = s.connector.connectSocket savedErrno := by
  unfold connectSocket Connector.connectSocket
  cases savedErrno <;> rfl

@[simp] theorem connector_startInLoop (savedErrno : ConnectErrno) :
    (s.startInLoop savedErrno).connector = s.connector.startInLoop savedErrno := by
  unfold startInLoop Connector.startInLoop
  dsimp only
  rw [apply_ite connector, connector_connectSocket]
  rfl

@[simp] theorem connector_stopInLoop : s.stopInLoop.connector = s.connector.stopInLoop := by
  unfold stopInLoop Connector.stopInLoop
  rw [apply_ite connector]
  rfl

@[simp] theorem connector_restart (savedErrno : ConnectErrno) :
    (s.restart savedErrno).connector = s.connector.restart savedErrno :=
  connector_startInLoop ..

@[simp] theorem connector_handleWrite (err selfConnect : Bool) :
    (s.handleWrite err selfConnect).connector = s.connector.handleWrite err selfConnect := by
  unfold handleWrite Connector.handleWrite
  split
  · dsimp only
    split
    · rfl
    · split
      · rfl
      · split <;> rfl
  · rfl

@[simp] theorem connector_handleError : s.handleError.connector = s.connector.handleError := by
  unfold handleError Connector.handleError
  rw [apply_ite connector]
  rfl

@[simp] theorem connector_handleEvent (revents : Mask) (err selfConnect : Bool) :
    (s.handleEvent revents err selfConnect).connector =
      s.connector.handleEvent revents err selfConnect := by
  unfold handleEvent Connector.handleEvent
  dsimp only
  split <;> split <;> simp

@[simp] theorem connector_callFunctor (savedErrno : ConnectErrno) (f : Functor) :
    (s.callFunctor savedErrno f).connector = s.connector.callFunctor savedErrno f := by
  cases f with
  | startInLoop => exact connector_startInLoop ..
  | stopInLoop => exact connector_stopInLoop ..
  | resetChannel => rfl

/-- The sockets do not touch what the connector does. -/
theorem connector_step (a : Connector.Act) :
    (step s (.connector a)).map connector = s.connector.step a := by
  cases a with
  | start t | stop t =>
    unfold step Connector.step
    rw [apply_ite (Option.map connector)]
    rfl
  | advance t savedErrno =>
    unfold step Connector.step
    dsimp only
    cases s.connector.stage t with
    | idle => rfl
    | starting =>
      dsimp only
      rw [Option.map_some, apply_ite connector, connector_startInLoop]
      rfl
    | stopping => rfl
  | callFunctor savedErrno =>
    unfold step Connector.step
    dsimp only
    cases s.connector.functors with
    | nil => rfl
    | cons f rest =>
      dsimp only
      rw [apply_ite (Option.map connector), Option.map_some, connector_callFunctor]
      rfl
  | timer i savedErrno =>
    unfold step Connector.step
    rw [apply_ite (Option.map connector), Option.map_some, connector_startInLoop]
    rfl
  | handleEvent revents err selfConnect =>
    unfold step Connector.step
    rw [apply_ite (Option.map connector), Option.map_some, connector_handleEvent]
    rfl
  | removeConnection restart savedErrno =>
    unfold step Connector.step
    rw [apply_ite (Option.map connector), Option.map_some]
    dsimp only
    rw [apply_ite connector, connector_restart]
    rfl

end Connector

end ConnectorSockets

end NewFramework.Net
