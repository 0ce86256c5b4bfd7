import NewFramework.Net.Buffer
import NewFramework.Net.Channel
import NewFramework.Net.SocketsOps

/-!
# `TcpConnection` in its `EventLoop`

One connection (`muduo/net/TcpConnection.cpp`) with the part of its loop that it uses: the queue of
pending functors, the batch of functors being called, and what is left of the function the loop
thread is in.  The connection's callbacks run code of the user, which may call the connection again;
so a function that invokes one stops there, as a task, and goes on when the callback has returned.

A failed `assert` is noted and the function goes on, as it does under `NDEBUG`.
-/

namespace NewFramework.Net

/-- `TcpConnection::StateE` -/
inductive StateE where
  | kDisconnected
  | kConnecting
  | kConnected
  | kDisconnecting
  deriving DecidableEq, Repr

/-- How far a connection in this state has come. -/
def StateE.age : StateE → Nat
  | .kConnecting => 0
  | .kConnected => 1
  | .kDisconnecting => 2
  | .kDisconnected => 3

theorem StateE.age_le (s : StateE) : s.age ≤ StateE.kDisconnected.age := by
  cases s <;> decide

theorem StateE.kDisconnected_of_age {s : StateE} (old : StateE.kDisconnected.age ≤ s.age) :
    s = .kDisconnected := by
  cases s <;> first | rfl | exact absurd old (by decide)

theorem StateE.kConnecting_of_age {s : StateE} (young : s.age ≤ StateE.kConnecting.age) :
    s = .kConnecting := by
  cases s <;> first | rfl | exact absurd young (by decide)

/-- A functor in the queue of the loop.  `call` numbers the calls of `send`. -/
inductive Functor where
  | sendInLoop (call : Nat) (message : List UInt8)
  | shutdownInLoop
  | forceCloseInLoop
  | startReadInLoop
  | stopReadInLoop
  | connectEstablished
  | connectDestroyed
  | writeCompleteCallback
  | highWaterMarkCallback (size : Nat)
  deriving DecidableEq

/-- The functors that only call back into code of the user. -/
def Functor.Callback : Functor → Prop
  | .writeCompleteCallback | .highWaterMarkCallback _ => True
  | _ => False

/-- What the loop thread still has to do in the function it is in. -/
inductive Task where
  /-- the next condition of `handleEventWithGuard` -/
  | channel (callback : Channel.Callback)
  /-- code of the user is running -/
  | user
  /-- `closeCallback_(guardThis)`, the last line of `handleClose` -/
  | closeCallback
  /-- `channel_->remove()`, the last line of `connectDestroyed` -/
  | remove
  deriving DecidableEq

/-- What happened to the connection. -/
inductive Note where
  /-- `handleClose` was entered in this state -/
  | handleClose (state : StateE)
  | closeCallback
  /-- `sendInLoop` took a message, in a state other than `kDisconnected` -/
  | given (call : Nat) (message : List UInt8)
  | wrote (k : KernelWrite) (offered : List UInt8)
  | queued (f : Functor)
  /-- `socket_->shutdownWrite()`, in this state and with this content of `outputBuffer_` -/
  | shutdownWrite (state : StateE) (unsent : List UInt8)
  /-- `channel_->remove()`, in this state and with this mask -/
  | remove (state : StateE) (events : Mask)
  deriving DecidableEq

/-- The notes of a function that moves bytes. -/
def Note.Transfer : Note → Prop
  | .given .. | .wrote .. | .shutdownWrite .. => True
  | .queued f => f.Callback
  | _ => False

structure TcpConnection where
  state : StateE
  reading : Bool
  channel : Channel
  inputBuffer : Buffer
  outputBuffer : Buffer
  highWaterMark : Nat
  /-- whether `writeCompleteCallback_` and `highWaterMarkCallback_` are set -/
  writeCompleteCallback : Bool
  highWaterMarkCallback : Bool
  /-- `EventLoop::pendingFunctors_` -/
  pendingFunctors : List Functor
  /-- the functors `doPendingFunctors` has still to call -/
  functors : List Functor
  tasks : List Task
  notes : List Note

namespace TcpConnection

/-- The constructor, with the callbacks that `newConnection` sets. -/
def new (writeCompleteCallback highWaterMarkCallback : Bool) (highWaterMark : Nat) :
    TcpConnection where
  state := .kConnecting
  reading := true
  channel := .new
  inputBuffer := Buffer.ofSize kInitialSize
  outputBuffer := Buffer.ofSize kInitialSize
  highWaterMark := highWaterMark
  writeCompleteCallback := writeCompleteCallback
  highWaterMarkCallback := highWaterMarkCallback
  pendingFunctors := []
  functors := []
  tasks := []
  notes := []

def note (n : Note) (c : TcpConnection) : TcpConnection := { c with notes := c.notes ++ [n] }

def setState (s : StateE) (c : TcpConnection) : TcpConnection := { c with state := s }

def mapChannel (f : Channel → Channel) (c : TcpConnection) : TcpConnection :=
  { c with channel := f c.channel }

def push (t : Task) (c : TcpConnection) : TcpConnection := { c with tasks := t :: c.tasks }

/-- `EventLoop::queueInLoop` -/
def queueInLoop (f : Functor) (c : TcpConnection) : TcpConnection :=
  { c with pendingFunctors := c.pendingFunctors ++ [f], notes := c.notes ++ [.queued f] }

/-- `sendInLoop` writes at once. -/
def direct (c : TcpConnection) : Bool :=
  !c.channel.isWriting && c.outputBuffer.readableBytes == 0

/-- The `errno`s that make `sendInLoop` give the message up. -/
def fatal (e : Errno) : Bool := e == .epipe || e == .econnreset

/-- The end of `sendInLoop`: what was not written waits in `outputBuffer_`. -/
def appendOutput (data : List UInt8) (c : TcpConnection) : TcpConnection :=
  let oldLen := c.outputBuffer.readableBytes
  let c :=
    if c.highWaterMark ≤ oldLen + data.length ∧ oldLen < c.highWaterMark ∧
        c.highWaterMarkCallback then
      c.queueInLoop (.highWaterMarkCallback (oldLen + data.length))
    else c
  let c := { c with outputBuffer := c.outputBuffer.append data }
  if c.channel.isWriting then c else c.mapChannel .enableWriting

/-- `nwrote` of `sendInLoop`, 0 where it does not write or `write` fails. -/
def nwrote (k : KernelWrite) (data : List UInt8) (c : TcpConnection) : Nat :=
  if c.direct ∧ 0 ≤ k.ret data.length then (k.ret data.length).toNat else 0

/-- `faultError` of `sendInLoop`. -/
def faultError (k : KernelWrite) (data : List UInt8) (c : TcpConnection) : Bool :=
  c.direct && k.ret data.length < 0 && k.errno != .eagain && fatal k.errno

/-- The `write` of `sendInLoop`, if it tries one, and the callback for a complete one. -/
def writeDirectly (k : KernelWrite) (data : List UInt8) (c : TcpConnection) : TcpConnection :=
  if c.direct then
    let c' := c.note (.wrote k data)
    if 0 ≤ k.ret data.length ∧ data.length - c.nwrote k data = 0 ∧ c.writeCompleteCallback then
      c'.queueInLoop .writeCompleteCallback
    else c'
  else c

/-- `sendInLoop(data, len)`, where `k` answers its `write`. -/
def sendInLoop (k : KernelWrite) (call : Nat) (data : List UInt8) (c : TcpConnection) :
    TcpConnection :=
  if c.state = .kDisconnected then c
  else
    let remaining := data.length - c.nwrote k data
    let c' := (c.note (.given call data)).writeDirectly k data
    if c.faultError k data = false ∧ 0 < remaining then
      c'.appendOutput (data.drop (c.nwrote k data))
    else c'

def shutdownInLoop (c : TcpConnection) : TcpConnection :=
  if c.channel.isWriting then c
  else c.note (.shutdownWrite c.state c.outputBuffer.readable)

def handleClose (c : TcpConnection) : TcpConnection :=
  let c := c.note (.handleClose c.state)
  let c := (c.setState .kDisconnected).mapChannel .disableAll
  (c.push .closeCallback).push .user

def forceCloseInLoop (c : TcpConnection) : TcpConnection :=
  if c.state = .kConnected ∨ c.state = .kDisconnecting then c.handleClose else c

def startReadInLoop (c : TcpConnection) : TcpConnection :=
  if !c.reading || !c.channel.isReading then
    { c.mapChannel .enableReading with reading := true }
  else c

def stopReadInLoop (c : TcpConnection) : TcpConnection :=
  if c.reading || c.channel.isReading then
    { c.mapChannel .disableReading with reading := false }
  else c

def connectEstablished (c : TcpConnection) : TcpConnection :=
  ((c.setState .kConnected).mapChannel .enableReading).push .user

/-- `channel_->remove()` -/
def removeChannel (c : TcpConnection) : TcpConnection :=
  (c.note (.remove c.state c.channel.events)).mapChannel .removeChannel

def connectDestroyed (c : TcpConnection) : TcpConnection :=
  if c.state = .kConnected then
    (((c.setState .kDisconnected).mapChannel .disableAll).push .remove).push .user
  else c.removeChannel

/-- `handleRead`, where the kernel answers `read` to the `readv`; `handleError` only logs. -/
def handleRead (read : KernelRecv) (c : TcpConnection) : TcpConnection :=
  match read with
  | .ok [] => c.handleClose
  | .ok data => { c with inputBuffer := c.inputBuffer.readFd data }.push .user
  | .error _ => c

/-- `handleWrite` -/
def handleWrite (k : KernelWrite) (c : TcpConnection) : TcpConnection :=
  if c.channel.isWriting then
    let n := k.ret c.outputBuffer.readableBytes
    let c := c.note (.wrote k c.outputBuffer.readable)
    if 0 < n then
      let c := { c with outputBuffer := c.outputBuffer.retrieve n.toNat }
      if c.outputBuffer.readableBytes = 0 then
        let c := c.mapChannel .disableWriting
        let c := if c.writeCompleteCallback then c.queueInLoop .writeCompleteCallback else c
        if c.state = .kDisconnecting then c.shutdownInLoop else c
      else c
    else c
  else c

/-- The callbacks the constructor gives to the channel. -/
def channelCallback (read : KernelRecv) (k : KernelWrite) (c : TcpConnection) :
    Channel.Callback → TcpConnection
  | .close => c.handleClose
  | .error => c
  | .read => c.handleRead read
  | .write => c.handleWrite k

/-- The loop thread calls a functor. -/
def callFunctor (k : KernelWrite) (c : TcpConnection) : Functor → TcpConnection
  | .sendInLoop call message => c.sendInLoop k call message
  | .shutdownInLoop => c.shutdownInLoop
  | .forceCloseInLoop => c.forceCloseInLoop
  | .startReadInLoop => c.startReadInLoop
  | .stopReadInLoop => c.stopReadInLoop
  | .connectEstablished => c.connectEstablished
  | .connectDestroyed => c.connectDestroyed
  | .writeCompleteCallback | .highWaterMarkCallback _ => c.push .user

/-- `EventLoop::runInLoop`, called in the loop thread or in another one. -/
def runInLoop (inLoop : Bool) (k : KernelWrite) (f : Functor) (c : TcpConnection) :
    TcpConnection :=
  if inLoop then c.callFunctor k f else c.queueInLoop f

/-- `handleEventWithGuard` up to its first callback. -/
def handleEvent (c : TcpConnection) : TcpConnection :=
  { c with tasks := c.channel.callbacks.map .channel ++ c.tasks }

/-- The loop thread goes on with the function it is in. -/
def goOn (read : KernelRecv) (k : KernelWrite) (c : TcpConnection) : TcpConnection :=
  match c.tasks with
  | [] => c
  | .channel callback :: rest => { c with tasks := rest }.channelCallback read k callback
  | .user :: rest => { c with tasks := rest }
  | .closeCallback :: rest => { c with tasks := rest }.note .closeCallback
  | .remove :: rest => { c with tasks := rest }.removeChannel

/-! ## Calls of the interface -/

/-- The calls a user makes through a `TcpConnectionPtr`. -/
inductive Api where
  | send (call : Nat) (message : List UInt8)
  | shutdown
  | forceClose
  | startRead
  | stopRead
  deriving DecidableEq

/-- A call, made in the loop thread or in another one. -/
def api (inLoop : Bool) (k : KernelWrite) (c : TcpConnection) : Api → TcpConnection
  | .send call message =>
    if c.state = .kConnected then c.runInLoop inLoop k (.sendInLoop call message) else c
  | .shutdown =>
    if c.state = .kConnected then (c.setState .kDisconnecting).runInLoop inLoop k .shutdownInLoop
    else c
  | .forceClose =>
    if c.state = .kConnected ∨ c.state = .kDisconnecting then
      (c.setState .kDisconnecting).queueInLoop .forceCloseInLoop
    else c
  | .startRead => c.runInLoop inLoop k .startReadInLoop
  | .stopRead => c.runInLoop inLoop k .stopReadInLoop

/-! ## What the writing functions do -/

/-- What `sendInLoop` leaves to be sent later. -/
def deferred (k : KernelWrite) (data : List UInt8) (c : TcpConnection) : List UInt8 :=
  if c.faultError k data then [] else data.drop (c.nwrote k data)

/-- `sendInLoop` completes the message at once, and says so. -/
def completes (k : KernelWrite) (data : List UInt8) (c : TcpConnection) : Prop :=
  c.direct = true ∧ 0 ≤ k.ret data.length ∧ data.length - c.nwrote k data = 0 ∧
    c.writeCompleteCallback = true

/-- A call of `sendInLoop` that takes its message. -/
structure Sent (k : KernelWrite) (call : Nat) (data : List UInt8) (c c' : TcpConnection) :
    Prop where
  same : c' = { c with
    outputBuffer := c'.outputBuffer
    channel := c'.channel
    pendingFunctors := c'.pendingFunctors
    notes := c'.notes }
  output : c'.outputBuffer.readable = c.outputBuffer.readable ++ c.deferred k data
  channel : c'.channel =
    if c.deferred k data = [] ∨ c.channel.isWriting then c.channel else c.channel.enableWriting
  queue : ∃ queued : List Functor,
    c'.pendingFunctors = c.pendingFunctors ++ queued ∧
      c'.notes = c.notes ++ .given call data ::
        ((if c.direct then [.wrote k data] else []) ++ queued.map .queued) ∧
      (∀ f ∈ queued, f.Callback) ∧ (.writeCompleteCallback ∈ queued ↔ c.completes k data)

theorem sendInLoop_disconnected {c : TcpConnection} (closed : c.state = .kDisconnected)
    (k : KernelWrite) (call : Nat) (data : List UInt8) : c.sendInLoop k call data = c :=
  if_pos closed

/-- `appendOutput` queues at most the callback of the high water mark. -/
theorem appendOutput_eq (data : List UInt8) (c : TcpConnection) :
    ∃ queued : List Functor, (∀ f ∈ queued, ∃ size, f = .highWaterMarkCallback size) ∧
      c.appendOutput data = { c with
        outputBuffer := c.outputBuffer.append data
        channel := if c.channel.isWriting then c.channel else c.channel.enableWriting
        pendingFunctors := c.pendingFunctors ++ queued
        notes := c.notes ++ queued.map .queued } := by
  by_cases high : c.highWaterMark ≤ c.outputBuffer.readableBytes + data.length ∧
      c.outputBuffer.readableBytes < c.highWaterMark ∧ c.highWaterMarkCallback = true
  · refine ⟨[.highWaterMarkCallback (c.outputBuffer.readableBytes + data.length)],
      fun f among => ⟨_, List.mem_singleton.mp among⟩, ?_⟩
    simp only [appendOutput, if_pos high, queueInLoop, mapChannel]
    split <;> rfl
  · refine ⟨[], by simp, ?_⟩
    simp only [appendOutput, if_neg high, mapChannel, List.map_nil, List.append_nil]
    split <;> rfl

theorem writeDirectly_eq (k : KernelWrite) (data : List UInt8) (c : TcpConnection) :
    ∃ queued : List Functor, (∀ f ∈ queued, f = .writeCompleteCallback) ∧
      (.writeCompleteCallback ∈ queued ↔ c.completes k data) ∧
      c.writeDirectly k data = { c with
        pendingFunctors := c.pendingFunctors ++ queued
        notes := c.notes ++ ((if c.direct then [.wrote k data] else []) ++ queued.map .queued) } := by
  by_cases direct : c.direct = true
  · by_cases complete : 0 ≤ k.ret data.length ∧ data.length - c.nwrote k data = 0 ∧
        c.writeCompleteCallback = true
    · refine ⟨[.writeCompleteCallback], fun f among => List.mem_singleton.mp among,
        iff_of_true (by simp) ⟨direct, complete⟩, ?_⟩
      simp [writeDirectly, direct, complete, note, queueInLoop]
    · refine ⟨[], by simp, iff_of_false (by simp) fun h => complete h.2, ?_⟩
      simp only [writeDirectly, if_pos direct, if_neg complete, note, List.map_nil,
        List.append_nil]
  · refine ⟨[], by simp, iff_of_false (by simp) fun h => direct h.1, ?_⟩
    simp [writeDirectly, direct]

theorem sendInLoop_sent {c : TcpConnection} (alive : c.state ≠ .kDisconnected) (k : KernelWrite)
    (call : Nat) (data : List UInt8) : Sent k call data c (c.sendInLoop k call data) := by
  obtain ⟨queued, which, complete, written⟩ :=
    (c.note (.given call data)).writeDirectly_eq k data
  have complete : .writeCompleteCallback ∈ queued ↔ c.completes k data := complete
  by_cases more : c.faultError k data = false ∧ 0 < data.length - c.nwrote k data
  · obtain ⟨high, mark, appended⟩ :=
      ((c.note (.given call data)).writeDirectly k data).appendOutput_eq
        (data.drop (c.nwrote k data))
    have sent : c.sendInLoop k call data =
        ((c.note (.given call data)).writeDirectly k data).appendOutput
          (data.drop (c.nwrote k data)) := by
      simp only [sendInLoop, if_neg alive, if_pos more]
    have deferred : c.deferred k data = data.drop (c.nwrote k data) := by
      simp [TcpConnection.deferred, more.1]
    have some_left : data.drop (c.nwrote k data) ≠ [] := by
      rw [ne_eq, List.drop_eq_nil_iff]
      omega
    rw [written] at appended
    rw [sent, written, appended]
    refine ⟨rfl, ?_, ?_, queued ++ high, by simp [note], ?_, ?_, ?_⟩
    · simp only [deferred, Buffer.readable_append, note]
    · simp only [deferred, some_left, false_or, note]
      rfl
    · simp only [direct, note, List.map_append, List.append_assoc, List.cons_append,
        List.nil_append]
      rfl
    · intro f among
      rcases List.mem_append.mp among with among | among
      · rw [which f among]
        trivial
      · obtain ⟨size, rfl⟩ := mark f among
        trivial
    · rw [← complete, List.mem_append, or_iff_left]
      intro among
      obtain ⟨size, eq⟩ := mark _ among
      cases eq
  · have sent : c.sendInLoop k call data = (c.note (.given call data)).writeDirectly k data := by
      simp only [sendInLoop, if_neg alive, if_neg more]
    have deferred : c.deferred k data = [] := by
      unfold TcpConnection.deferred
      split
      · rfl
      · next fault =>
        rw [List.drop_eq_nil_iff]
        have none_left : ¬ 0 < data.length - c.nwrote k data := fun left =>
          more ⟨Bool.eq_false_iff.mpr fault, left⟩
        omega
    rw [sent, written]
    refine ⟨rfl, by simp [note, deferred], by simp [note, deferred], queued, rfl,
      by simp [note, direct], ?_, complete⟩
    intro f among
    rw [which f among]
    trivial

/-- `handleWrite` empties the buffer with this answer. -/
def drains (k : KernelWrite) (c : TcpConnection) : Prop :=
  0 < k.accepted c.outputBuffer.readableBytes ∧
    c.outputBuffer.readableBytes ≤ k.accepted c.outputBuffer.readableBytes

instance (k : KernelWrite) (c : TcpConnection) : Decidable (c.drains k) :=
  inferInstanceAs (Decidable (_ ∧ _))

theorem handleWrite_idle {c : TcpConnection} (idle : c.channel.isWriting = false)
    (k : KernelWrite) : c.handleWrite k = c := by
  simp [handleWrite, idle]

/-- A call of `handleWrite` that writes. -/
theorem handleWrite_writing {c : TcpConnection} (writing : c.channel.isWriting = true)
    (k : KernelWrite) :
    c.handleWrite k = { c with
      outputBuffer :=
        if 0 < k.accepted c.outputBuffer.readableBytes then
          c.outputBuffer.retrieve (k.accepted c.outputBuffer.readableBytes)
        else c.outputBuffer
      channel := if c.drains k then c.channel.disableWriting else c.channel
      pendingFunctors := c.pendingFunctors ++
        if c.drains k ∧ c.writeCompleteCallback then [.writeCompleteCallback] else []
      notes := c.notes ++ .wrote k c.outputBuffer.readable ::
        ((if c.drains k ∧ c.writeCompleteCallback then [.queued .writeCompleteCallback] else []) ++
          if c.drains k ∧ c.state = .kDisconnecting then [.shutdownWrite .kDisconnecting []]
          else []) } := by
  have n : 0 < k.ret c.outputBuffer.readableBytes →
      (k.ret c.outputBuffer.readableBytes).toNat = k.accepted c.outputBuffer.readableBytes :=
    fun _ => k.toNat_ret _
  have positive : 0 < k.ret c.outputBuffer.readableBytes ↔
      0 < k.accepted c.outputBuffer.readableBytes := k.ret_pos_iff _
  unfold handleWrite
  simp only [if_pos writing]
  by_cases some_room : 0 < k.accepted c.outputBuffer.readableBytes
  · simp only [if_pos (positive.mpr some_room), n (positive.mpr some_room), if_pos some_room,
      Buffer.readableBytes_retrieve, note]
    by_cases drained : c.drains k
    · have empty : c.outputBuffer.readableBytes - k.accepted c.outputBuffer.readableBytes = 0 :=
        Nat.sub_eq_zero_of_le drained.2
      simp only [if_pos empty, if_pos drained]
      have nothing : c.outputBuffer.readable.drop (k.accepted c.outputBuffer.readableBytes) = [] :=
        List.drop_eq_nil_of_le (by rw [Buffer.readable_length]; exact drained.2)
      cases c.writeCompleteCallback <;>
        by_cases disconnecting : c.state = .kDisconnecting <;>
        simp [mapChannel, queueInLoop, shutdownInLoop, note, disconnecting, drained, nothing]
    · have left : ¬ c.outputBuffer.readableBytes - k.accepted c.outputBuffer.readableBytes = 0 :=
        fun none => drained ⟨some_room, Nat.le_of_sub_eq_zero none⟩
      simp [left, drained]
  · have stays : ¬ c.drains k := fun drained => some_room drained.1
    simp [mt positive.mp some_room, some_room, stays, note]

/-! ## What moving bytes leaves alone -/

/-- `c'` differs from `c` in its bytes, in what is queued for the user and, while the connection
is not closed, in the events of the channel. -/
structure Traffic (c c' : TcpConnection) : Prop where
  state : c'.state = c.state
  tasks : c'.tasks = c.tasks
  functors : c'.functors = c.functors
  revents : c'.channel.revents = c.channel.revents
  closed : c.state = .kDisconnected → c.channel.isWriting = false → c'.channel = c.channel
  queue : ∃ queued : List Functor, c'.pendingFunctors = c.pendingFunctors ++ queued ∧
    ∀ f ∈ queued, f.Callback
  notes : ∃ new : List Note, c'.notes = c.notes ++ new ∧ ∀ n ∈ new, n.Transfer

theorem Traffic.refl (c : TcpConnection) : Traffic c c :=
  ⟨rfl, rfl, rfl, rfl, fun _ _ => rfl, ⟨[], by simp, by simp⟩, ⟨[], by simp, by simp⟩⟩

theorem traffic_sendInLoop (k : KernelWrite) (call : Nat) (data : List UInt8)
    (c : TcpConnection) : Traffic c (c.sendInLoop k call data) := by
  by_cases closed : c.state = .kDisconnected
  · rw [sendInLoop_disconnected closed]
    exact .refl c
  · have sent := sendInLoop_sent closed k call data
    obtain ⟨queued, pending, noted, callbacks, -⟩ := sent.queue
    refine
      { state := (congrArg TcpConnection.state sent.same :)
        tasks := (congrArg TcpConnection.tasks sent.same :)
        functors := (congrArg TcpConnection.functors sent.same :)
        revents := by rw [sent.channel]; split <;> simp
        closed := fun now => absurd now closed
        queue := ⟨queued, pending, callbacks⟩
        notes := ⟨_, noted, fun n among => ?_⟩ }
    rcases List.mem_cons.mp among with rfl | among
    · trivial
    rcases List.mem_append.mp among with among | among
    · rw [List.mem_singleton.mp (List.mem_ite_nil_right.mp among).2]
      trivial
    · obtain ⟨f, mem, rfl⟩ := List.mem_map.mp among
      exact callbacks f mem

theorem traffic_shutdownInLoop (c : TcpConnection) : Traffic c c.shutdownInLoop := by
  unfold shutdownInLoop
  split
  · exact .refl c
  · exact ⟨rfl, rfl, rfl, rfl, fun _ _ => rfl, ⟨[], by simp [note], by simp⟩,
      ⟨[_], rfl, by simp [Note.Transfer]⟩⟩

theorem traffic_handleWrite (k : KernelWrite) (c : TcpConnection) :
    Traffic c (c.handleWrite k) := by
  cases writing : c.channel.isWriting with
  | false =>
    rw [handleWrite_idle writing]
    exact .refl c
  | true =>
    rw [handleWrite_writing writing]
    refine
      { state := rfl
        tasks := rfl
        functors := rfl
        revents := by dsimp only; split <;> simp
        closed := fun _ idle => absurd (writing.symm.trans idle) (by decide)
        queue := ⟨_, rfl, fun f among => ?_⟩
        notes := ⟨_, rfl, fun n among => ?_⟩ }
    · rw [List.mem_singleton.mp (List.mem_ite_nil_right.mp among).2]
      trivial
    · rcases List.mem_cons.mp among with rfl | among
      · trivial
      rcases List.mem_append.mp among with among | among
      · rw [List.mem_singleton.mp (List.mem_ite_nil_right.mp among).2]
        trivial
      · rw [List.mem_singleton.mp (List.mem_ite_nil_right.mp among).2]
        trivial

/-! ## The state only advances -/

theorem age_callFunctor (k : KernelWrite) (c : TcpConnection) {f : Functor}
    (fresh : f = .connectEstablished → c.state = .kConnecting) :
    c.state.age ≤ (c.callFunctor k f).state.age := by
  cases f with
  | sendInLoop call message => exact Nat.le_of_eq (congrArg _ (c.traffic_sendInLoop ..).state.symm)
  | shutdownInLoop => exact Nat.le_of_eq (congrArg _ c.traffic_shutdownInLoop.state.symm)
  | forceCloseInLoop =>
    change c.state.age ≤ c.forceCloseInLoop.state.age
    unfold forceCloseInLoop
    split
    · exact c.state.age_le
    · exact Nat.le_refl _
  | startReadInLoop =>
    change c.state.age ≤ c.startReadInLoop.state.age
    unfold startReadInLoop
    split <;> exact Nat.le_refl _
  | stopReadInLoop =>
    change c.state.age ≤ c.stopReadInLoop.state.age
    unfold stopReadInLoop
    split <;> exact Nat.le_refl _
  | connectEstablished =>
    rw [fresh rfl]
    exact Nat.zero_le _
  | connectDestroyed =>
    change c.state.age ≤ c.connectDestroyed.state.age
    unfold connectDestroyed
    split
    · exact c.state.age_le
    · exact Nat.le_refl _
  | writeCompleteCallback => exact Nat.le_refl _
  | highWaterMarkCallback size => exact Nat.le_refl _

theorem age_goOn (read : KernelRecv) (k : KernelWrite) (c : TcpConnection) :
    c.state.age ≤ (c.goOn read k).state.age := by
  unfold goOn
  split
  · exact Nat.le_refl _
  · next callback rest _ =>
    cases callback with
    | close => exact c.state.age_le
    | error => exact Nat.le_refl _
    | read =>
      simp only [channelCallback, handleRead]
      split
      · exact c.state.age_le
      · exact Nat.le_refl _
      · exact Nat.le_refl _
    | write =>
      have same := (traffic_handleWrite k { c with tasks := rest }).state
      exact Nat.le_of_eq (congrArg StateE.age same.symm)
  · exact Nat.le_refl _
  · exact Nat.le_refl _
  · exact Nat.le_refl _

end TcpConnection

end NewFramework.Net
