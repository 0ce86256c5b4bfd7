import Mathlib.Data.List.AList
import Mathlib.Data.Nat.Digits.Defs
import NewFramework.Lib.BigEndian
import NewFramework.Lib.Run
import NewFramework.Lib.Trace

/-!
# `TcpServer` and its loops

This is `muduo/net/TcpServer.cpp`.  The base loop accepts a connection, notes it in `connections_`
and has an IO loop establish it; when the IO loop closes it, the base loop erases it and has the IO
loop destroy it.  Each of these is a functor of the loop it is for, and runs at once where the
caller is in that loop already, as it is when the pool has no loop.

The queue of a loop is the list of the functors that it has not called; they are called in the
order of the calls that queued them (`EventLoop.InOrder.queue_step`).  The server is alive.
-/

namespace NewFramework.Net
open NewFramework.Lib

/-- A loop, and its thread: the base loop (`none`), or one of the pool. -/
abbrev Loop := Option Nat

/-! ## Names -/

/-- `snprintf` into a buffer of this size. -/
def snprintf (size : Nat) (text : List Char) : List Char := text.take (size - 1)

/-- `%u` -/
def decimal (n : Nat) : List Char := Nat.toDigits 10 n

/-- `%d` -/
def decimalInt (n : Int) : List Char :=
  if n < 0 then '-' :: decimal n.natAbs else decimal n.natAbs

/-- An address; `ip` is what `inet_ntop` writes, at most `INET6_ADDRSTRLEN` bytes with the null. -/
structure InetAddress where
  ip : List Char
  port : BitVec 16
  fits : ip.length ≤ 45

/-- `toIpPort()` -/
def InetAddress.toIpPort (a : InetAddress) : List Char :=
  a.ip ++ snprintf (64 - a.ip.length) (':' :: decimal a.port.toNat)

/-- What `newConnection` writes into `buf`. -/
def connSuffix (ipPort : List Char) (nextConnId : Int) : List Char :=
  snprintf 64 ('-' :: ipPort ++ '#' :: decimalInt nextConnId)

theorem snprintf_of_lt {size : Nat} {text : List Char} (room : text.length < size) :
    snprintf size text = text := by
  apply List.take_of_length_le
  omega

theorem decimal_injective {m n : Nat} (same : decimal m = decimal n) : m = n := by
  rw [← Nat.ofDigitChars_ten_toDigits (n := m), ← Nat.ofDigitChars_ten_toDigits (n := n)]
  exact congrArg (Nat.ofDigitChars 10 · 0) same

theorem length_decimal_le {n k : Nat} (pos : 0 < k) (small : n < 10 ^ k) :
    (decimal n).length ≤ k :=
  (Nat.length_toDigits_le_iff (by decide) pos).mpr small

theorem InetAddress.length_toIpPort_le (a : InetAddress) : a.toIpPort.length ≤ 51 := by
  have digits : (decimal a.port.toNat).length ≤ 5 :=
    length_decimal_le (by decide) (a.port.isLt.trans (by decide))
  have fits := a.fits
  simp only [toIpPort, snprintf, List.length_append, List.length_take, List.length_cons]
  omega

/-- The suffix of a connection is written whole: `buf` has room for the longest address and the
ten digits of the largest `int`. -/
theorem connSuffix_eq {ipPort : List Char} {n : Nat} (short : ipPort.length ≤ 51)
    (fits : n < 2 ^ 31) : connSuffix ipPort n = '-' :: ipPort ++ '#' :: decimal n := by
  have digits : (decimal n).length ≤ 10 := length_decimal_le (by decide) (fits.trans (by decide))
  have plain : decimalInt n = decimal n := by simp [decimalInt]
  rw [connSuffix, plain]
  apply snprintf_of_lt
  simp only [List.cons_append, List.length_cons, List.length_append]
  omega

/-! ## The server -/

/-- A `TcpConnection`, as far as the server goes. -/
structure Conn where
  /-- the connections accepted before it -/
  id : Nat
  name : List Char
  loop : Loop
  deriving DecidableEq

namespace TcpServer

inductive Functor where
  | connectEstablished (conn : Conn)
  | removeConnectionInLoop (conn : Conn)
  | connectDestroyed (conn : Conn)
  deriving DecidableEq

inductive Note where
  | established (conn : Conn) (loop : Loop)
  | closed (conn : Conn)
  /-- `connections_.erase(conn->name())` has returned `n` -/
  | erased (conn : Conn) (n : Nat)
  | destroyed (conn : Conn) (loop : Loop)
  deriving DecidableEq

end TcpServer

structure TcpServer where
  ipPort : List Char
  name : List Char
  /-- `threadPool_->loops_.size()` -/
  numLoops : Nat
  /-- `threadPool_->next_` -/
  next : Nat
  nextConnId : Int
  connections : AList fun _ : List Char => Conn
  accepted : List Conn
  queue : Loop → List TcpServer.Functor
  notes : List TcpServer.Note

namespace TcpServer

/-- The server that is started with this many threads. -/
def new (listenAddr : InetAddress) (name : List Char) (numThreads : Nat) : TcpServer where
  ipPort := listenAddr.toIpPort
  name := name
  numLoops := numThreads
  next := 0
  nextConnId := 1
  connections := ∅
  accepted := []
  queue _ := []
  notes := []

def note (n : Note) (s : TcpServer) : TcpServer := { s with notes := s.notes ++ [n] }

def queueInLoop (loop : Loop) (f : Functor) (s : TcpServer) : TcpServer :=
  { s with queue := Function.update s.queue loop (s.queue loop ++ [f]) }

def connectEstablished (conn : Conn) (loop : Loop) (s : TcpServer) : TcpServer :=
  s.note (.established conn loop)

def connectDestroyed (conn : Conn) (loop : Loop) (s : TcpServer) : TcpServer :=
  s.note (.destroyed conn loop)

/-- `removeConnectionInLoop(conn)` -/
def removeConnectionInLoop (conn : Conn) (s : TcpServer) : TcpServer :=
  let n := if conn.name ∈ s.connections then 1 else 0
  ({ s with connections := s.connections.erase conn.name }.note (.erased conn n)).queueInLoop
    conn.loop (.connectDestroyed conn)

/-- A functor runs in a loop. -/
def call (loop : Loop) (f : Functor) (s : TcpServer) : TcpServer :=
  match f with
  | .connectEstablished conn => s.connectEstablished conn loop
  | .removeConnectionInLoop conn => s.removeConnectionInLoop conn
  | .connectDestroyed conn => s.connectDestroyed conn loop

/-- `loop->runInLoop(f)`, in the thread of `caller`. -/
def runInLoop (caller loop : Loop) (f : Functor) (s : TcpServer) : TcpServer :=
  if caller = loop then s.call loop f else s.queueInLoop loop f

/-- What `getNextLoop()` returns. -/
def nextLoop (s : TcpServer) : Loop := if s.numLoops = 0 then none else some s.next

/-- What it leaves in `next_`. -/
def nextAfter (s : TcpServer) : Nat :=
  if s.numLoops = 0 then s.next else if s.numLoops ≤ s.next + 1 then 0 else s.next + 1

/-- The connection that `newConnection` makes. -/
def newConn (s : TcpServer) : Conn where
  id := s.accepted.length
  name := s.name ++ connSuffix s.ipPort s.nextConnId
  loop := s.nextLoop

/-- `newConnection(sockfd, peerAddr)` up to its `runInLoop`. -/
def accept (s : TcpServer) : TcpServer :=
  { s with
    next := s.nextAfter
    nextConnId := toInt 32 (s.nextConnId + 1)
    connections := s.connections.insert s.newConn.name s.newConn
    accepted := s.accepted ++ [s.newConn] }

/-- `newConnection(sockfd, peerAddr)` -/
def newConnection (s : TcpServer) : TcpServer :=
  s.accept.runInLoop none s.nextLoop (.connectEstablished s.newConn)

/-- `removeConnection(conn)`, which the close callback comes to in the loop of the connection. -/
def removeConnection (conn : Conn) (s : TcpServer) : TcpServer :=
  s.runInLoop conn.loop none (.removeConnectionInLoop conn)

inductive Act where
  | newConnection
  | callFunctor (loop : Loop)
  /-- the close callback of a connection -/
  | closeCallback (conn : Conn)

def step (s : TcpServer) : Act → Option TcpServer
  | .newConnection => some s.newConnection
  | .callFunctor loop =>
    match s.queue loop with
    | [] => none
    | f :: rest => some ({ s with queue := Function.update s.queue loop rest }.call loop f)
  | .closeCallback conn =>
    -- the channel of a connection has events from `connectEstablished` to `connectDestroyed`
    if .established conn conn.loop ∈ s.notes ∧ .destroyed conn conn.loop ∉ s.notes then
      some ((s.note (.closed conn)).removeConnection conn)
    else none

end TcpServer
end NewFramework.Net
