import NewFramework.Net.Buffer
import NewFramework.Net.SocketsOps

/-!
# `BaseTransport` and `CFrameTransport`

The length-framed transport of one client connection, from `tstlesrv/frametransport.cpp` and
`tstlesrv/basetransport.cpp`.  Its signals are the fields of `Slots`: the slot connected to a signal
runs inside the function that raises it, on the state `σ` of whatever owns the transport.
`SignalReadSocketDone` is raised in the middle of a read event and its slot calls back into the
transport (`GetMsg`, `write_buffer`), so this slot gets the transport too; the other slots do not
touch it.

A function that can run into a failing `assert` of `Buffer` returns an `Option`.
-/

namespace NewFramework.Tstlesrv
open NewFramework.Lib NewFramework.Net

/-- `SocketState` -/
inductive SocketState where
  | recvFraming
  | recv
  | send
  deriving DecidableEq, Repr

/-- `AppState` -/
inductive AppState where
  | init
  | readFrameSize
  | readRequest
  | waitTask
  | sendResult
  | closeConnection
  deriving DecidableEq, Repr

/-- The members of `CFrameTransport` and `BaseTransport` that its functions use. -/
structure CFrameTransport where
  inBuffer : Buffer
  outputBuffer : Buffer
  socket : Socket
  /-- `m_readWant`, an `int32_t` -/
  readWant : Int
  rdSockState : SocketState
  rdAppState : AppState

/-- What is connected to the transport's signals.  `wrote fd k offered` is no signal: it notes
that `offered` was written to `fd` and that the kernel answered `k`. -/
structure Slots (σ : Type*) where
  closeSocket : σ → σ
  readSocketDone : CFrameTransport → σ → Option (CFrameTransport × σ)
  setWriteState : σ → σ
  clearWriteEvent : σ → σ
  wrote : Socket → KernelWrite → List UInt8 → σ → σ

namespace CFrameTransport

/-- The constructor.  It leaves `m_rd_app_state` as it finds it in memory; a value that is no
enumerator takes the same branches as `closeConnection`. -/
def new (rdAppState : AppState) : CFrameTransport where
  inBuffer := Buffer.ofSize kInitialSize
  outputBuffer := Buffer.ofSize kInitialSize
  socket := invalidSocket
  readWant := 0
  rdSockState := .recvFraming
  rdAppState := rdAppState

/-- `CFrameTransport::init` -/
def init (t : CFrameTransport) : CFrameTransport :=
  { t with rdSockState := .recvFraming, readWant := 0 }

/-- The errors after which `read_sock_buffer_len` tries again. -/
def retriable : Errno → Bool
  | .eagain | .eintr => true
  | _ => false

/-- The `while (true)` of `read_sock_buffer_len` with `left` retries left; `answers i` is the
kernel's answer to attempt `i`. -/
def recvLoop (answers : Nat → KernelRecv) (len : Nat) : (left attempt : Nat) → Option (List UInt8)
  | left, attempt =>
    match answers attempt with
    | .ok data => some (data.take len)
    | .error e =>
      if retriable e then
        match left with
        | 0 => none
        | left + 1 => recvLoop answers len left (attempt + 1)
      else none

/-- `read_sock_buffer_len`: the bytes received, or `none` for the result `-1`. -/
def readSockBufferLen (socket : Socket) (answers : Nat → KernelRecv) (len : Nat) :
    Option (List UInt8) :=
  if socket = invalidSocket ∨ len = 0 then none else recvLoop answers len 5 0

/-- `GetMsg()`; the length is converted to `size_t`. -/
def getMsg (t : CFrameTransport) : Option (List UInt8 × CFrameTransport) :=
  (t.inBuffer.retrieveAsString (t.inBuffer.peekInt32FromReserve % 2 ^ 64).toNat).map
    fun (msg, b) => (msg, { t with inBuffer := b })

section Events

variable {σ : Type*} (slots : Slots σ)

/-- `read_framing()` -/
def readFraming (answers : Nat → KernelRecv) (t : CFrameTransport) (w : σ) :
    Option (Bool × CFrameTransport × σ) :=
  match readSockBufferLen t.socket answers 4 with
  | none | some [] => some (false, t, slots.closeSocket w)
  | some data =>
    let t := { t with inBuffer := t.inBuffer.storeAtBegin data }
    let t := { t with readWant := t.inBuffer.peekInt32FromReserve }
    if t.readWant ≤ 0 then some (false, t, slots.closeSocket w)
    else
      let t := { t with rdAppState := .readFrameSize }
      if t.readWant.toNat ≤ t.inBuffer.readableBytes then
        (slots.readSocketDone t w).map fun (t, w) => (true, t, w)
      else some (true, t, w)

/-- `shouldreadbytes` of `read_data`, an `int32_t` passed on as `uint32_t`. -/
def shouldreadbytes (readWant : Int) (readableBytes : Nat) : Nat :=
  ((readWant - readableBytes) % 2 ^ 32).toNat

/-- `read_data()` -/
def readData (answers : Nat → KernelRecv) (t : CFrameTransport) (w : σ) :
    Option (Bool × CFrameTransport × σ) :=
  if t.readWant ≤ 0 then some (false, t, slots.closeSocket w)
  else
    let t := { t with inBuffer := t.inBuffer.ensureWritableBytes t.readWant.toNat }
    match readSockBufferLen t.socket answers
        (shouldreadbytes t.readWant t.inBuffer.readableBytes) with
    | none | some [] => some (false, t, slots.closeSocket w)
    | some data =>
      -- `assert(len <= writableBytes())` of `hasWritten`
      if h : data.length ≤ t.inBuffer.writableBytes then
        let t := { t with inBuffer := t.inBuffer.fill data h }
        some (t.readWant.toNat ≤ t.inBuffer.readableBytes, t, w)
      else none

/-- `rd_transition()` -/
def rdTransition (t : CFrameTransport) (w : σ) : Option (CFrameTransport × σ) :=
  match t.rdAppState with
  | .readFrameSize =>
    if t.readWant ≤ 0 then some (t, slots.closeSocket w)
    else some ({ t with rdSockState := .recv, rdAppState := .readRequest }, w)
  | .readRequest =>
    (slots.readSocketDone t w).map fun (t, w) =>
      ({ t with rdSockState := .recvFraming, rdAppState := .readFrameSize, readWant := 0 }, w)
  | .waitTask =>
    some ({ t with rdSockState := .send, rdAppState := .sendResult }, slots.setWriteState w)
  | _ => some (t, w)

/-- Either reader's `if (read_...()) { rd_transition(); }`. -/
def thenTransition (r : Option (Bool × CFrameTransport × σ)) : Option (CFrameTransport × σ) :=
  r.bind fun (more, t, w) => if more then rdTransition slots t w else some (t, w)

/-- `read_socket(cfd)` -/
def readSocket (answers : Nat → KernelRecv) (cfd : Socket) (t : CFrameTransport) (w : σ) :
    Option (CFrameTransport × σ) :=
  if t.socket ≠ invalidSocket ∧ t.rdAppState ≠ .init ∧ t.socket ≠ cfd then
    some (t, slots.closeSocket w)
  else
    let t := { t with socket := cfd }
    match t.rdSockState with
    | .recvFraming => thenTransition slots (readFraming slots answers t w)
    | .recv => thenTransition slots (readData slots answers t w)
    | .send => some (t, slots.closeSocket w)

/-- `wr_transition()` -/
def wrTransition (k : KernelWrite) (t : CFrameTransport) (w : σ) : CFrameTransport × σ :=
  let len := t.outputBuffer.readableBytes
  let w := slots.wrote t.socket k t.outputBuffer.readable w
  if 0 < asInt32 (k.ret len) then
    let t := { t with outputBuffer := t.outputBuffer.retrieve (k.ret len).toNat }
    if t.outputBuffer.readableBytes = 0 then (t, slots.clearWriteEvent w) else (t, w)
  else (t, slots.closeSocket w)

/-- `write_socket(cfd)` -/
def writeSocket (k : KernelWrite) (cfd : Socket) (t : CFrameTransport) (w : σ) :
    CFrameTransport × σ :=
  if t.socket ≠ cfd then (t, slots.closeSocket w) else wrTransition slots k t w

/-- `faultError` of `write_buffer`, for `len` bytes offered. -/
def faultError (k : KernelWrite) (len : Nat) : Bool :=
  asInt32 (k.ret len) < 0 && (k.errno == .epipe || k.errno == .econnreset)

/-- `nwrote` as `write_buffer` goes on with it. -/
def nwrote (k : KernelWrite) (len : Nat) : Nat :=
  if 0 ≤ asInt32 (k.ret len) then (k.ret len).toNat else 0

/-- `write_buffer(buf, len)`; the first component is the `int32_t` it returns. -/
def writeBuffer (k : KernelWrite) (buf : List UInt8) (t : CFrameTransport) (w : σ) :
    Int × CFrameTransport × σ :=
  let w := slots.wrote t.socket k buf w
  let remaining := buf.length - nwrote k buf.length
  if faultError k buf.length = false ∧ 0 < remaining then
    let t := { t with outputBuffer := t.outputBuffer.append (buf.drop (nwrote k buf.length)) }
    (asInt32 remaining, t, slots.setWriteState w)
  else (asInt32 remaining, t, w)

/-! ## One read event

What `read_socket` does between two frames and inside a body. -/

theorem recvLoop_ok {answers : Nat → KernelRecv} {len left attempt : Nat} {data : List UInt8}
    (answered : answers attempt = .ok data) :
    recvLoop answers len left attempt = some (data.take len) := by
  unfold recvLoop
  rw [answered]

theorem readSockBufferLen_ok {socket : Socket} {answers : Nat → KernelRecv} {len : Nat}
    {data : List UInt8} (valid : socket ≠ invalidSocket) (asked : 0 < len)
    (answered : answers 0 = .ok data) :
    readSockBufferLen socket answers len = some (data.take len) := by
  unfold readSockBufferLen
  rw [if_neg (by simp only [valid, false_or]; omega), recvLoop_ok answered]

/-- The socket a read event on `cfd` finds is its own, or none yet. -/
def SocketOk (t : CFrameTransport) (cfd : Socket) : Prop :=
  t.socket = invalidSocket ∨ t.rdAppState = .init ∨ t.socket = cfd

theorem readSocket_recvFraming {t : CFrameTransport} {cfd : Socket} (own : t.SocketOk cfd)
    (state : t.rdSockState = .recvFraming) (answers : Nat → KernelRecv) (w : σ) :
    readSocket slots answers cfd t w =
      thenTransition slots (readFraming slots answers { t with socket := cfd } w) := by
  unfold readSocket
  rw [if_neg (by rintro ⟨valid, started, other⟩; rcases own with h | h | h <;> contradiction)]
  dsimp only
  split
  · rfl
  · next recv => rw [state] at recv; contradiction
  · next send => rw [state] at send; contradiction

theorem readSocket_recv {t : CFrameTransport} {cfd : Socket} (own : t.SocketOk cfd)
    (state : t.rdSockState = .recv) (answers : Nat → KernelRecv) (w : σ) :
    readSocket slots answers cfd t w =
      thenTransition slots (readData slots answers { t with socket := cfd } w) := by
  unfold readSocket
  rw [if_neg (by rintro ⟨valid, started, other⟩; rcases own with h | h | h <;> contradiction)]
  dsimp only
  split
  · next framing => rw [state] at framing; contradiction
  · rfl
  · next send => rw [state] at send; contradiction

/-- After a positive length the transport goes on to the body. -/
theorem rdTransition_readFrameSize {t : CFrameTransport} (app : t.rdAppState = .readFrameSize)
    (positive : ¬ t.readWant ≤ 0) (w : σ) :
    rdTransition slots t w = some ({ t with rdSockState := .recv, rdAppState := .readRequest }, w) := by
  unfold rdTransition
  rw [app]
  dsimp only
  rw [if_neg positive]

/-- The value of the length field once `data` is stored over the reserved bytes. -/
def headerWant (t : CFrameTransport) (data : List UInt8) : Int :=
  toInt 32 (beNat (data ++ t.inBuffer.reserve.drop data.length))

theorem readSockBufferLen_length {socket : Socket} {answers : Nat → KernelRecv} {len : Nat}
    {data : List UInt8} (received : readSockBufferLen socket answers len = some data) :
    data.length ≤ len := by
  have loop : ∀ left attempt, recvLoop answers len left attempt = some data → data.length ≤ len := by
    intro left
    induction left with
    | zero =>
      intro attempt got
      unfold recvLoop at got
      split at got
      · rw [← Option.some.inj got, List.length_take]
        exact Nat.min_le_left _ _
      · simp at got
    | succ left ih =>
      intro attempt got
      unfold recvLoop at got
      split at got
      · rw [← Option.some.inj got, List.length_take]
        exact Nat.min_le_left _ _
      · split at got
        · exact ih _ got
        · contradiction
  unfold readSockBufferLen at received
  split at received
  · contradiction
  · exact loop _ _ received

/-- `read_framing` and its transition, once some bytes of a length field arrived. -/
theorem readFraming_some {t : CFrameTransport} {cfd : Socket} {answers : Nat → KernelRecv} {b : UInt8}
    {bs : List UInt8} {want : Int} (received : readSockBufferLen cfd answers 4 = some (b :: bs))
    (short : (b :: bs).length ≤ 4) (empty : t.inBuffer.readableBytes = 0)
    (unprepended : t.inBuffer.Unprepended)
    (stored : (t.inBuffer.storeAtBegin (b :: bs)).peekInt32FromReserve = want) (w : σ) :
    thenTransition slots (readFraming slots answers { t with socket := cfd } w) =
      if want ≤ 0 then
        some ({ t with
          inBuffer := t.inBuffer.storeAtBegin (b :: bs)
          socket := cfd
          readWant := want }, slots.closeSocket w)
      else
        some ({ t with
          inBuffer := t.inBuffer.storeAtBegin (b :: bs)
          socket := cfd
          readWant := want
          rdSockState := .recv
          rdAppState := .readRequest }, w) := by
  have nothing : (t.inBuffer.storeAtBegin (b :: bs)).readableBytes = 0 := by
    rw [← Buffer.readable_length, Buffer.readable_storeAtBegin unprepended
      (by unfold kCheapPrepend; omega), Buffer.readable_length, empty]
  simp only [readFraming, thenTransition, received, stored, nothing]
  by_cases positive : want ≤ 0
  · simp [positive]
  · rw [if_neg positive, if_neg (by omega), if_neg positive]
    simp only [Option.bind_some, if_true]
    rw [rdTransition_readFrameSize]
    · rfl
    · exact positive

/-- A read event between two frames, whatever the kernel answers: some bytes of a length field,
taken for all of it, lead on to the body when their value is positive. -/
theorem readSocket_header_eq {t : CFrameTransport} {cfd : Socket} (own : t.SocketOk cfd)
    (state : t.rdSockState = .recvFraming) (empty : t.inBuffer.readableBytes = 0)
    (unprepended : t.inBuffer.Unprepended) (answers : Nat → KernelRecv) (w : σ) :
    readSocket slots answers cfd t w =
      match readSockBufferLen cfd answers 4 with
      | none | some [] => some ({ t with socket := cfd }, slots.closeSocket w)
      | some data =>
        if t.headerWant data ≤ 0 then
          some ({ t with
            inBuffer := t.inBuffer.storeAtBegin data
            socket := cfd
            readWant := t.headerWant data }, slots.closeSocket w)
        else
          some ({ t with
            inBuffer := t.inBuffer.storeAtBegin data
            socket := cfd
            readWant := t.headerWant data
            rdSockState := .recv
            rdAppState := .readRequest }, w) := by
  rw [readSocket_recvFraming slots own state]
  rcases Option.eq_none_or_eq_some (readSockBufferLen cfd answers 4) with received | ⟨data, received⟩
  · simp [readFraming, thenTransition, received]
  have short := readSockBufferLen_length received
  cases data with
  | nil => simp [readFraming, thenTransition, received]
  | cons b bs =>
    have stored : (t.inBuffer.storeAtBegin (b :: bs)).peekInt32FromReserve =
        t.headerWant (b :: bs) := by
      rw [Buffer.peekInt32FromReserve, Buffer.reserve_storeAtBegin _ short, headerWant]
    simp only [received]
    exact readFraming_some slots received short empty unprepended stored w

/-- The whole length field arrives: the transport goes on to the body. -/
theorem readSocket_header {t : CFrameTransport} {cfd : Socket} {answers : Nat → KernelRecv}
    {data : List UInt8} (w : σ) (valid : cfd ≠ invalidSocket) (own : t.SocketOk cfd)
    (state : t.rdSockState = .recvFraming) (empty : t.inBuffer.readableBytes = 0)
    (answered : answers 0 = .ok data) (whole : data.length = 4)
    (positive : 0 < beNat data) (fits : beNat data < 2 ^ 31)
    (unprepended : t.inBuffer.Unprepended) :
    readSocket slots answers cfd t w =
      some ({ t with
        inBuffer := t.inBuffer.storeAtBegin data
        socket := cfd
        readWant := beNat data
        rdSockState := .recv
        rdAppState := .readRequest }, w) := by
  have received : readSockBufferLen cfd answers 4 = some data := by
    rw [readSockBufferLen_ok valid (by omega) answered, List.take_of_length_le (by omega)]
  have value : t.headerWant data = beNat data := by
    rw [headerWant, whole, List.drop_eq_nil_of_le (Nat.le_of_eq (Buffer.reserve_length _)),
      List.append_nil, toInt_of_lt (by omega)]
  rw [readSocket_header_eq slots own state empty unprepended, received]
  cases data with
  | nil => simp at whole
  | cons b bs =>
    dsimp only
    rw [value, if_neg (by omega)]

theorem shouldreadbytes_eq {n readable : Nat} (fits : n < 2 ^ 31) (below : readable ≤ n) :
    shouldreadbytes n readable = n - readable := by
  unfold shouldreadbytes
  omega

/-- In the body state the kernel has nothing: the connection is given up. -/
theorem readSocket_body_failed {t : CFrameTransport} {cfd : Socket} {answers : Nat → KernelRecv}
    {n : Nat} (w : σ) (own : t.SocketOk cfd) (state : t.rdSockState = .recv) (want : t.readWant = n)
    (fits : n < 2 ^ 31) (unread : t.inBuffer.readableBytes < n)
    (failed : readSockBufferLen cfd answers (n - t.inBuffer.readableBytes) = none ∨
      readSockBufferLen cfd answers (n - t.inBuffer.readableBytes) = some []) :
    ∃ t', readSocket slots answers cfd t w = some (t', slots.closeSocket w) := by
  have natWant : t.readWant.toNat = n := by rw [want]; rfl
  have asked : shouldreadbytes n t.inBuffer.readableBytes = n - t.inBuffer.readableBytes :=
    shouldreadbytes_eq fits (by omega)
  rw [readSocket_recv slots own state]
  unfold readData
  rw [if_neg (by simp only; omega)]
  simp only [natWant]
  simp only [want, Buffer.readableBytes_ensureWritableBytes, asked]
  rcases failed with h | h <;> rw [h]
  · exact ⟨_, rfl⟩
  · exact ⟨_, rfl⟩

/-- The next `data` of the body arrives: it is appended to the content, and when it completes
the body the owner is told. -/
theorem readSocket_body {t : CFrameTransport} {cfd : Socket} {answers : Nat → KernelRecv}
    {data : List UInt8} {n : Nat} (w : σ) (own : t.SocketOk cfd)
    (state : t.rdSockState = .recv) (app : t.rdAppState = .readRequest)
    (want : t.readWant = n) (fits : n < 2 ^ 31) (unread : t.inBuffer.readableBytes < n)
    (received : readSockBufferLen cfd answers (n - t.inBuffer.readableBytes) = some data)
    (some_data : data ≠ []) (unprepended : t.inBuffer.Unprepended) :
    ∃ b : Buffer, b.readable = t.inBuffer.readable ++ data ∧ b.reserve = t.inBuffer.reserve ∧
      b.Unprepended ∧
      readSocket slots answers cfd t w =
        if n ≤ t.inBuffer.readableBytes + data.length then
          (slots.readSocketDone { t with inBuffer := b, socket := cfd } w).map fun (t, w) =>
            ({ t with rdSockState := .recvFraming, rdAppState := .readFrameSize, readWant := 0 }, w)
        else some ({ t with inBuffer := b, socket := cfd }, w) := by
  have short := readSockBufferLen_length received
  have more : 0 < data.length := List.length_pos_iff.mpr some_data
  have writable := t.inBuffer.ensureWritableBytes_writable n
  have fitting : data.length ≤ (t.inBuffer.ensureWritableBytes n).writableBytes := by omega
  refine ⟨(t.inBuffer.ensureWritableBytes n).fill data fitting, by simp, ?_,
    (unprepended.ensureWritableBytes n).fill _ _, ?_⟩
  · rw [Buffer.reserve_fill (unprepended.ensureWritableBytes n), Buffer.reserve_ensureWritableBytes]
  have natWant : t.readWant.toNat = n := by rw [want]; rfl
  have asked : shouldreadbytes n t.inBuffer.readableBytes = n - t.inBuffer.readableBytes :=
    shouldreadbytes_eq fits (by omega)
  have read : readData slots answers { t with socket := cfd } w =
      some (decide (n ≤ t.inBuffer.readableBytes + data.length),
        { t with
          inBuffer := (t.inBuffer.ensureWritableBytes n).fill data fitting
          socket := cfd }, w) := by
    unfold readData
    rw [if_neg (by simp only; omega)]
    simp only [natWant]
    simp only [want, Buffer.readableBytes_ensureWritableBytes, asked, received]
    rw [dif_pos fitting]
    simp only [Buffer.readableBytes_fill, Buffer.readableBytes_ensureWritableBytes]
  rw [readSocket_recv slots own state, read]
  simp only [thenTransition, Option.bind_some, decide_eq_true_eq]
  split
  · simp only [rdTransition, app]
  · rfl

/-- `GetMsg` with exactly the announced bytes in the buffer. -/
theorem getMsg_eq {t : CFrameTransport} {n : Nat} (fits : n < 2 ^ 31)
    (announced : t.inBuffer.peekInt32FromReserve = n) (whole : t.inBuffer.readableBytes = n) :
    t.getMsg =
      some (t.inBuffer.readable, { t with inBuffer := t.inBuffer.retrieve n }) := by
  have size : ((n : Int) % 2 ^ 64).toNat = n := by omega
  have all : t.inBuffer.readable.take n = t.inBuffer.readable :=
    List.take_of_length_le (by rw [Buffer.readable_length]; omega)
  simp only [getMsg, announced, size, Buffer.retrieveAsString, whole, Nat.le_refl, if_true,
    Option.map_some, all]

/-- What `write_buffer` leaves to be sent later: all it could not write, unless it gives the
buffer up. -/
def deferred (k : KernelWrite) (buf : List UInt8) : List UInt8 :=
  if faultError k buf.length then [] else buf.drop (nwrote k buf.length)

theorem writeBuffer_readable (k : KernelWrite) (buf : List UInt8) (t : CFrameTransport) (w : σ) :
    (writeBuffer slots k buf t w).2.1.outputBuffer.readable =
      t.outputBuffer.readable ++ deferred k buf := by
  simp only [writeBuffer, deferred]
  by_cases fault : faultError k buf.length = true
  · simp [fault]
  · rw [Bool.not_eq_true] at fault
    rw [fault]
    by_cases more : 0 < buf.length - nwrote k buf.length
    · simp [more]
    · rw [List.drop_eq_nil_of_le (by omega)]
      simp [more]

/-- `GetMsg` changes the input buffer only. -/
theorem getMsg_some {t t' : CFrameTransport} {msg : List UInt8} (got : t.getMsg = some (msg, t')) :
    t' = { t with inBuffer := t'.inBuffer } := by
  obtain ⟨⟨_, b⟩, -, same⟩ := Option.map_eq_some_iff.mp got
  simp only [Prod.mk.injEq] at same
  rw [← same.2]

theorem getMsg_unprepended {t t' : CFrameTransport} {msg : List UInt8}
    (got : t.getMsg = some (msg, t')) (unprepended : t.inBuffer.Unprepended) :
    t'.inBuffer.Unprepended := by
  unfold getMsg at got
  generalize (t.inBuffer.peekInt32FromReserve % 2 ^ 64).toNat = len at got
  obtain ⟨⟨_, b⟩, retrieved, same⟩ := Option.map_eq_some_iff.mp got
  simp only [Prod.mk.injEq] at same
  rw [← same.2]
  unfold Buffer.retrieveAsString at retrieved
  split at retrieved
  · simp only [Option.some.injEq, Prod.mk.injEq] at retrieved
    rw [← retrieved.2]
    exact unprepended.retrieve _
  · contradiction

theorem getMsg_reserve {t t' : CFrameTransport} {msg : List UInt8}
    (got : t.getMsg = some (msg, t')) : t'.inBuffer.reserve = t.inBuffer.reserve := by
  unfold getMsg at got
  generalize (t.inBuffer.peekInt32FromReserve % 2 ^ 64).toNat = len at got
  obtain ⟨⟨text, b⟩, retrieved, same⟩ := Option.map_eq_some_iff.mp got
  cases same
  unfold Buffer.retrieveAsString at retrieved
  obtain ⟨-, retrieved⟩ := Option.ite_none_right_eq_some.mp retrieved
  cases retrieved
  exact t.inBuffer.reserve_retrieve len

/-- `write_buffer` changes the output buffer only. -/
theorem writeBuffer_transport (k : KernelWrite) (buf : List UInt8) (t : CFrameTransport) (w : σ) :
    ∃ b, (writeBuffer slots k buf t w).2.1 = { t with outputBuffer := b } := by
  simp only [writeBuffer]
  split
  · exact ⟨_, rfl⟩
  · exact ⟨t.outputBuffer, rfl⟩

/-! ## What an event does to the owner

Whatever the kernel answers, a read event raises at most one signal, provided that the slot of
`SignalReadSocketDone` leaves the read state of the transport alone. -/

/-- The slot of `SignalReadSocketDone` does not change the state of the reader. -/
def Steady : Prop :=
  ∀ t w t' w', slots.readSocketDone t w = some (t', w') →
    t'.rdAppState = t.rdAppState ∧ t'.readWant = t.readWant

/-- The owner after one signal of the read path, or none. -/
inductive OneSignal (w : σ) : σ → Prop where
  | quiet : OneSignal w w
  | closeSocket : OneSignal w (slots.closeSocket w)
  | readSocketDone {t t' : CFrameTransport} {w' : σ}
      (raised : slots.readSocketDone t w = some (t', w')) : OneSignal w w'
  | setWriteState : OneSignal w (slots.setWriteState w)

variable {slots}

theorem rdTransition_oneSignal {t t' : CFrameTransport} {w w' : σ}
    (done : rdTransition slots t w = some (t', w')) : OneSignal slots w w' := by
  unfold rdTransition at done
  split at done
  · split at done <;> simp only [Option.some.injEq, Prod.mk.injEq] at done <;>
      obtain ⟨-, rfl⟩ := done
    · exact .closeSocket
    · exact .quiet
  · obtain ⟨⟨t₁, w₁⟩, raised, done⟩ := Option.map_eq_some_iff.mp done
    simp only [Prod.mk.injEq] at done
    obtain ⟨-, rfl⟩ := done
    exact .readSocketDone raised
  all_goals
    simp only [Option.some.injEq, Prod.mk.injEq] at done
    obtain ⟨-, rfl⟩ := done
  · exact .setWriteState
  · exact .quiet

/-- A header read that goes on leaves a transport whose transition is silent. -/
theorem readFraming_oneSignal (steady : Steady slots) {answers : Nat → KernelRecv} {more : Bool}
    {t t' : CFrameTransport} {w w' : σ} (read : readFraming slots answers t w = some (more, t', w')) :
    OneSignal slots w w' ∧ (more = true → t'.rdAppState = .readFrameSize ∧ 0 < t'.readWant) := by
  unfold readFraming at read
  split at read
  iterate 2
    simp only [Option.some.injEq, Prod.mk.injEq] at read
    obtain ⟨rfl, -, rfl⟩ := read
    exact ⟨.closeSocket, by simp⟩
  dsimp only at read
  split at read
  · simp only [Option.some.injEq, Prod.mk.injEq] at read
    obtain ⟨rfl, -, rfl⟩ := read
    exact ⟨.closeSocket, by simp⟩
  · next positive =>
    split at read
    · obtain ⟨⟨t₁, w₁⟩, raised, done⟩ := Option.map_eq_some_iff.mp read
      simp only [Prod.mk.injEq] at done
      obtain ⟨-, rfl, rfl⟩ := done
      obtain ⟨app, want⟩ := steady _ _ _ _ raised
      exact ⟨.readSocketDone raised, fun _ => ⟨app, by rw [want]; dsimp only; omega⟩⟩
    · simp only [Option.some.injEq, Prod.mk.injEq] at read
      obtain ⟨-, rfl, rfl⟩ := read
      exact ⟨.quiet, fun _ => ⟨rfl, by dsimp only; omega⟩⟩

theorem readData_owner {answers : Nat → KernelRecv} {more : Bool} {t t' : CFrameTransport}
    {w w' : σ} (read : readData slots answers t w = some (more, t', w')) :
    (more = false ∧ w' = slots.closeSocket w) ∨ w' = w := by
  unfold readData at read
  split at read
  · simp only [Option.some.injEq, Prod.mk.injEq] at read
    obtain ⟨rfl, -, rfl⟩ := read
    exact .inl ⟨rfl, rfl⟩
  · dsimp only at read
    split at read
    iterate 2
      simp only [Option.some.injEq, Prod.mk.injEq] at read
      obtain ⟨rfl, -, rfl⟩ := read
      exact .inl ⟨rfl, rfl⟩
    split at read
    · simp only [Option.some.injEq, Prod.mk.injEq] at read
      obtain ⟨-, -, rfl⟩ := read
      exact .inr rfl
    · contradiction

/-- A read event raises at most one signal. -/
theorem readSocket_oneSignal (steady : Steady slots) {answers : Nat → KernelRecv} {cfd : Socket}
    {t t' : CFrameTransport} {w w' : σ} (read : readSocket slots answers cfd t w = some (t', w')) :
    OneSignal slots w w' := by
  unfold readSocket at read
  split at read
  · simp only [Option.some.injEq, Prod.mk.injEq] at read
    obtain ⟨-, rfl⟩ := read
    exact .closeSocket
  dsimp only at read
  split at read
  · obtain ⟨⟨more, t₁, w₁⟩, framing, done⟩ := Option.bind_eq_some_iff.mp read
    obtain ⟨raised, silent⟩ := readFraming_oneSignal steady framing
    dsimp only at done
    split at done
    · next goes_on =>
      obtain ⟨app, want⟩ := silent goes_on
      rw [rdTransition_readFrameSize slots app (Int.not_le.mpr want)] at done
      simp only [Option.some.injEq, Prod.mk.injEq] at done
      obtain ⟨-, rfl⟩ := done
      exact raised
    · simp only [Option.some.injEq, Prod.mk.injEq] at done
      obtain ⟨-, rfl⟩ := done
      exact raised
  · obtain ⟨⟨more, t₁, w₁⟩, data, done⟩ := Option.bind_eq_some_iff.mp read
    dsimp only at done
    rcases readData_owner data with ⟨rfl, rfl⟩ | rfl
    · simp only [Bool.false_eq_true, if_false, Option.some.injEq, Prod.mk.injEq] at done
      obtain ⟨-, rfl⟩ := done
      exact .closeSocket
    · split at done
      · exact rdTransition_oneSignal done
      · simp only [Option.some.injEq, Prod.mk.injEq] at done
        obtain ⟨-, rfl⟩ := done
        exact .quiet
  · simp only [Option.some.injEq, Prod.mk.injEq] at read
    obtain ⟨-, rfl⟩ := read
    exact .closeSocket

theorem writeBuffer_owner (slots : Slots σ) (k : KernelWrite) (buf : List UInt8)
    (t : CFrameTransport) (w : σ) :
    (writeBuffer slots k buf t w).2.2 =
      if faultError k buf.length = false ∧ 0 < buf.length - nwrote k buf.length then
        slots.setWriteState (slots.wrote t.socket k buf w)
      else slots.wrote t.socket k buf w := by
  unfold writeBuffer
  dsimp only
  split <;> rfl

/-- A write event raises at most one signal, after the `write` if it comes to one. -/
theorem writeSocket_owner (slots : Slots σ) (k : KernelWrite) (cfd : Socket) (t : CFrameTransport)
    (w : σ) :
    (writeSocket slots k cfd t w).2 = slots.closeSocket w ∨
      ∃ w₁, w₁ = slots.wrote t.socket k t.outputBuffer.readable w ∧
        ((writeSocket slots k cfd t w).2 = w₁ ∨
          (writeSocket slots k cfd t w).2 = slots.clearWriteEvent w₁ ∨
          (writeSocket slots k cfd t w).2 = slots.closeSocket w₁) := by
  unfold writeSocket
  split
  · exact .inl rfl
  · refine .inr ⟨_, rfl, ?_⟩
    unfold wrTransition
    dsimp only
    split
    · split
      · exact .inr (.inl rfl)
      · exact .inl rfl
    · exact .inr (.inr rfl)

/-- The ways through a write event on the transport's own socket. -/
theorem writeSocket_own (slots : Slots σ) (k : KernelWrite) {cfd : Socket} {t : CFrameTransport}
    (own : t.socket = cfd) (w : σ) :
    let len := t.outputBuffer.readableBytes
    let w₁ := slots.wrote t.socket k t.outputBuffer.readable w
    (0 < asInt32 (k.ret len) ∧ len ≤ k.accepted len ∧
        (writeSocket slots k cfd t w).2 = slots.clearWriteEvent w₁) ∨
      (0 < asInt32 (k.ret len) ∧ k.accepted len < len ∧ (writeSocket slots k cfd t w).2 = w₁) ∨
      (¬ 0 < asInt32 (k.ret len) ∧ (writeSocket slots k cfd t w).2 = slots.closeSocket w₁) := by
  intro len w₁
  unfold writeSocket wrTransition
  rw [if_neg (by simp [own])]
  dsimp only
  by_cases positive : 0 < asInt32 (k.ret len)
  · have answered : k.room ≠ none := by
      intro failed
      rw [KernelWrite.ret_of_none failed] at positive
      exact absurd positive (by decide)
    have taken : (k.ret len).toNat = k.accepted len := by
      rw [KernelWrite.ret_of_room answered, Int.toNat_natCast]
    rw [if_pos positive, Buffer.readableBytes_retrieve, taken]
    by_cases drained : len ≤ k.accepted len
    · exact .inl ⟨positive, drained, by rw [if_pos (by omega)]⟩
    · exact .inr (.inl ⟨positive, by omega, by rw [if_neg (by omega)]⟩)
  · rw [if_neg positive]
    exact .inr (.inr ⟨positive, rfl⟩)

theorem rdTransition_unprepended
    (keeps : ∀ t w t' w', slots.readSocketDone t w = some (t', w') →
      t.inBuffer.Unprepended → t'.inBuffer.Unprepended)
    {t t' : CFrameTransport} {w w' : σ} (done : rdTransition slots t w = some (t', w'))
    (unprepended : t.inBuffer.Unprepended) : t'.inBuffer.Unprepended := by
  unfold rdTransition at done
  split at done
  · split at done <;> simp only [Option.some.injEq, Prod.mk.injEq] at done <;>
      obtain ⟨rfl, -⟩ := done <;> exact unprepended
  · obtain ⟨⟨t₁, w₁⟩, raised, done⟩ := Option.map_eq_some_iff.mp done
    have kept : t₁.inBuffer.Unprepended := keeps _ _ _ _ raised unprepended
    simp only [Prod.mk.injEq] at done
    obtain ⟨rfl, -⟩ := done
    exact kept
  all_goals
    simp only [Option.some.injEq, Prod.mk.injEq] at done
    obtain ⟨rfl, -⟩ := done
    exact unprepended

theorem readFraming_unprepended
    (keeps : ∀ t w t' w', slots.readSocketDone t w = some (t', w') →
      t.inBuffer.Unprepended → t'.inBuffer.Unprepended)
    {answers : Nat → KernelRecv} {more : Bool} {t t' : CFrameTransport} {w w' : σ}
    (read : readFraming slots answers t w = some (more, t', w'))
    (unprepended : t.inBuffer.Unprepended) : t'.inBuffer.Unprepended := by
  unfold readFraming at read
  split at read
  iterate 2
    simp only [Option.some.injEq, Prod.mk.injEq] at read
    obtain ⟨-, rfl, -⟩ := read
    exact unprepended
  dsimp only at read
  split at read
  · simp only [Option.some.injEq, Prod.mk.injEq] at read
    obtain ⟨-, rfl, -⟩ := read
    exact unprepended.storeAtBegin _
  · split at read
    · obtain ⟨⟨t₂, w₂⟩, raised, done⟩ := Option.map_eq_some_iff.mp read
      simp only [Prod.mk.injEq] at done
      obtain ⟨-, rfl, -⟩ := done
      exact keeps _ _ _ _ raised (unprepended.storeAtBegin _)
    · simp only [Option.some.injEq, Prod.mk.injEq] at read
      obtain ⟨-, rfl, -⟩ := read
      exact unprepended.storeAtBegin _

theorem readData_unprepended {answers : Nat → KernelRecv} {more : Bool} {t t' : CFrameTransport}
    {w w' : σ} (read : readData slots answers t w = some (more, t', w'))
    (unprepended : t.inBuffer.Unprepended) : t'.inBuffer.Unprepended := by
  unfold readData at read
  split at read
  · simp only [Option.some.injEq, Prod.mk.injEq] at read
    obtain ⟨-, rfl, -⟩ := read
    exact unprepended
  dsimp only at read
  split at read
  iterate 2
    simp only [Option.some.injEq, Prod.mk.injEq] at read
    obtain ⟨-, rfl, -⟩ := read
    exact unprepended.ensureWritableBytes _
  split at read
  · simp only [Option.some.injEq, Prod.mk.injEq] at read
    obtain ⟨-, rfl, -⟩ := read
    exact (unprepended.ensureWritableBytes _).fill _ _
  · contradiction

/-- Nothing in a read event prepends to the input buffer. -/
theorem readSocket_unprepended
    (keeps : ∀ t w t' w', slots.readSocketDone t w = some (t', w') →
      t.inBuffer.Unprepended → t'.inBuffer.Unprepended)
    {answers : Nat → KernelRecv} {cfd : Socket} {t t' : CFrameTransport} {w w' : σ}
    (read : readSocket slots answers cfd t w = some (t', w'))
    (unprepended : t.inBuffer.Unprepended) : t'.inBuffer.Unprepended := by
  have passedOn : ∀ {r : Option (Bool × CFrameTransport × σ)},
      (∀ more t w, r = some (more, t, w) → t.inBuffer.Unprepended) →
      thenTransition slots r = some (t', w') → t'.inBuffer.Unprepended := by
    intro r kept done
    obtain ⟨⟨more, t₁, w₁⟩, result, done⟩ := Option.bind_eq_some_iff.mp done
    have before := kept more t₁ w₁ result
    dsimp only at done
    split at done
    · exact rdTransition_unprepended keeps done before
    · simp only [Option.some.injEq, Prod.mk.injEq] at done
      obtain ⟨rfl, -⟩ := done
      exact before
  unfold readSocket at read
  split at read
  · simp only [Option.some.injEq, Prod.mk.injEq] at read
    obtain ⟨rfl, -⟩ := read
    exact unprepended
  dsimp only at read
  split at read
  · refine passedOn ?_ read
    intro _ _ _ framing
    exact readFraming_unprepended keeps framing unprepended
  · refine passedOn ?_ read
    intro _ _ _ data
    exact readData_unprepended data unprepended
  · simp only [Option.some.injEq, Prod.mk.injEq] at read
    obtain ⟨rfl, -⟩ := read
    exact unprepended

/-- A write event changes the output buffer only. -/
theorem writeSocket_transport (slots : Slots σ) (k : KernelWrite) (cfd : Socket)
    (t : CFrameTransport) (w : σ) :
    ∃ b, (writeSocket slots k cfd t w).1 = { t with outputBuffer := b } := by
  unfold writeSocket wrTransition
  split
  · exact ⟨t.outputBuffer, rfl⟩
  · dsimp only
    split
    · split <;> exact ⟨_, rfl⟩
    · exact ⟨t.outputBuffer, rfl⟩

theorem writeSocket_inBuffer (slots : Slots σ) (k : KernelWrite) (cfd : Socket)
    (t : CFrameTransport) (w : σ) :
    (writeSocket slots k cfd t w).1.inBuffer = t.inBuffer := by
  obtain ⟨b, same⟩ := t.writeSocket_transport slots k cfd w
  rw [same]

end Events

end CFrameTransport

end NewFramework.Tstlesrv
