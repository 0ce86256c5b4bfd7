import NewFramework.Lib.Framing
import NewFramework.Lib.Run
import NewFramework.Tstlesrv.FrameTransport

/-!
# Reading frames off a segmented stream

A fresh transport (`tstlesrv/frametransport.cpp`) is driven by read events over a stream of frames.
In each event the kernel returns `k` bytes of the stream, at least one and at most as many as
`read_socket` asks for.  The owner calls `GetMsg` once in every `SignalReadSocketDone`.

`read_framing` takes whatever the first `recv` of a frame returned for the whole length field:
a `recv` that ends inside the field is never resumed.  When no `recv` ends there and the
lengths fit `int32_t`, the messages are the bodies completed so far, after every event.
-/

namespace NewFramework.Tstlesrv
open NewFramework.Lib NewFramework.Net

/-- What the owner of the transport has seen. -/
structure Inbox where
  msgs : List (List UInt8)
  closed : Bool

/-- The owner's slots: one `GetMsg` in each `SignalReadSocketDone`. -/
def inboxSlots : Slots Inbox where
  closeSocket w := { w with closed := true }
  readSocketDone t w := t.getMsg.map fun (msg, t) => (t, { w with msgs := w.msgs ++ [msg] })
  setWriteState w := w
  clearWriteEvent w := w
  wrote _ _ _ w := w

@[simp] theorem inboxSlots_readSocketDone (t : CFrameTransport) (w : Inbox) :
    inboxSlots.readSocketDone t w =
      t.getMsg.map fun (msg, t) => (t, { w with msgs := w.msgs ++ [msg] }) := by
  simp only [inboxSlots]

/-- How many bytes the next read event asks the kernel for. -/
def CFrameTransport.readRequest (t : CFrameTransport) : Nat :=
  match t.rdSockState with
  | .recvFraming => 4
  | .recv => shouldreadbytes t.readWant t.inBuffer.readableBytes
  | .send => 0

/-- A transport, its owner, and the rest of the stream in the kernel. -/
structure Reader where
  transport : CFrameTransport
  inbox : Inbox
  pending : List UInt8
  received : Nat
  aborted : Bool

namespace Reader

/-- A transport as its constructor leaves it, before the stream of `bodies`. -/
def start (rdAppState : AppState) (bodies : List (List UInt8)) : Reader where
  transport := .new rdAppState
  inbox := ⟨[], false⟩
  pending := stream 4 bodies
  received := 0
  aborted := false

/-- One read event on `cfd`, in which `recv` returns `k` bytes. -/
def step (cfd : Socket) (s : Reader) (k : Nat) : Option Reader :=
  if s.inbox.closed = false ∧ s.aborted = false ∧
      1 ≤ k ∧ k ≤ s.pending.length ∧ k ≤ s.transport.readRequest then
    match s.transport.readSocket inboxSlots (fun _ => .ok (s.pending.take k)) cfd s.inbox with
    | some (t, w) =>
      some { s with
        transport := t, inbox := w, pending := s.pending.drop k, received := s.received + k }
    | none => some { s with aborted := true }
  else none

/-- The messages are the bodies completed by the bytes received so far, and the connection was
not given up. -/
def Delivered (bodies : List (List UInt8)) (s : Reader) : Prop :=
  s.inbox.msgs = completed 4 bodies s.received ∧ s.inbox.closed = false ∧ s.aborted = false

instance (bodies : List (List UInt8)) (s : Reader) : Decidable (Delivered bodies s) :=
  inferInstanceAs (Decidable (_ ∧ _))

/-- The length fields among the first `r` bytes stand for positive `int32_t`. -/
def LengthsFit : List (List UInt8) → Nat → Prop
  | [], _ => True
  | body :: bodies, r =>
    (4 ≤ r → body.length < 2 ^ 31) ∧
      (4 + body.length ≤ r → LengthsFit bodies (r - (4 + body.length)))

instance decidableLengthsFit : ∀ bodies r, Decidable (LengthsFit bodies r)
  | [], _ => isTrue trivial
  | body :: bodies, r =>
    have := decidableLengthsFit bodies (r - (4 + body.length))
    inferInstanceAs (Decidable (_ ∧ _))

theorem lengthsFit_append {done rest : List (List UInt8)} {r : Nat}
    (fit : LengthsFit (done ++ rest) ((stream 4 done).length + r)) : LengthsFit rest r := by
  induction done with
  | nil => simpa [stream] using fit
  | cons body done ih =>
    simp only [stream_cons, List.length_append, frame_length] at fit
    have later := fit.2 (by omega)
    rw [show 4 + body.length + (stream 4 done).length + r - (4 + body.length) =
      (stream 4 done).length + r by omega] at later
    exact ih later

/-- The `recv` returning `k` bytes ends outside the length fields, all of which fit so far. -/
def HeaderWhole (bodies : List (List UInt8)) (s : Reader) (k : Nat) : Prop :=
  ¬ InsideHeader 4 bodies (s.received + k) ∧ LengthsFit bodies (s.received + k)

instance (bodies : List (List UInt8)) (s : Reader) (k : Nat) : Decidable (HeaderWhole bodies s k) :=
  inferInstanceAs (Decidable (_ ∧ _))

/-! ## The two states of the reader -/

/-- Between two frames: `done` are delivered and the rest of the stream is whole. -/
structure AtHeader (cfd : Socket) (done rest : List (List UInt8)) (s : Reader) : Prop where
  received : s.received = (stream 4 done).length
  pending : s.pending = stream 4 rest
  msgs : s.inbox.msgs = done
  live : s.inbox.closed = false
  running : s.aborted = false
  state : s.transport.rdSockState = .recvFraming
  empty : s.transport.inBuffer.readable = []
  own : s.transport.SocketOk cfd
  unprepended : s.transport.inBuffer.Unprepended

/-- Inside the body of a frame: the reserved bytes hold its length, the buffer its first `j`
bytes. -/
structure InBody (cfd : Socket) (done : List (List UInt8)) (body : List UInt8)
    (rest : List (List UInt8)) (j : Nat) (s : Reader) : Prop where
  short : j < body.length
  fits : body.length < 2 ^ 31
  received : s.received = (stream 4 done).length + (4 + j)
  pending : s.pending = body.drop j ++ stream 4 rest
  msgs : s.inbox.msgs = done
  live : s.inbox.closed = false
  running : s.aborted = false
  state : s.transport.rdSockState = .recv
  app : s.transport.rdAppState = .readRequest
  want : s.transport.readWant = body.length
  content : s.transport.inBuffer.readable = body.take j
  reserved : s.transport.inBuffer.reserve = beBytes 4 body.length
  socket : s.transport.socket = cfd
  unprepended : s.transport.inBuffer.Unprepended

/-- The invariant of the admitted runs. -/
inductive Framed (cfd : Socket) (bodies : List (List UInt8)) (s : Reader) : Prop where
  | header (done rest : List (List UInt8)) (split : bodies = done ++ rest)
      (here : AtHeader cfd done rest s)
  | body (done : List (List UInt8)) (body : List UInt8) (rest : List (List UInt8)) (j : Nat)
      (split : bodies = done ++ body :: rest) (here : InBody cfd done body rest j s)

theorem framed_start (cfd : Socket) (rdAppState : AppState) (bodies : List (List UInt8)) :
    Framed cfd bodies (start rdAppState bodies) :=
  .header [] bodies rfl
    { received := rfl, pending := rfl, msgs := rfl, live := rfl, running := rfl, state := rfl
      empty := Buffer.readable_ofSize _
      own := .inl rfl
      unprepended := Buffer.unprepended_ofSize _ }

theorem Framed.delivered {cfd : Socket} {bodies : List (List UInt8)} {s : Reader}
    (framed : Framed cfd bodies s) : Delivered bodies s := by
  cases framed with
  | header done rest split here =>
    refine ⟨?_, here.live, here.running⟩
    have := completed_append (w := 4) done rest 0
    rw [here.msgs, here.received, split, ← Nat.add_zero (stream 4 done).length, this,
      completed_zero (by omega), List.append_nil]
  | body done body rest j split here =>
    refine ⟨?_, here.live, here.running⟩
    have := here.short
    rw [here.msgs, here.received, split, completed_append,
      completed_of_lt (by omega), List.append_nil]

/-- What `step` does where the reader's own `read_socket` succeeds. -/
theorem step_eq {cfd : Socket} {s s' : Reader} {k : Nat} (moved : step cfd s k = some s') :
    1 ≤ k ∧ k ≤ s.pending.length ∧ k ≤ s.transport.readRequest ∧
      ∀ t w, s.transport.readSocket inboxSlots (fun _ => .ok (s.pending.take k)) cfd s.inbox =
          some (t, w) →
        s' = { s with
          transport := t, inbox := w, pending := s.pending.drop k, received := s.received + k } := by
  unfold step at moved
  split at moved
  · next enabled =>
    refine ⟨enabled.2.2.1, enabled.2.2.2.1, enabled.2.2.2.2, ?_⟩
    intro t w read
    rw [read] at moved
    exact (Option.some.inj moved).symm
  · contradiction

/-- A whole length field takes the reader from between two frames into the body. -/
theorem AtHeader.step {cfd : Socket} {done rest : List (List UInt8)} {body : List UInt8}
    {s s' : Reader} {k : Nat} (here : AtHeader cfd done (body :: rest) s)
    (valid : cfd ≠ invalidSocket) (nonempty : body ≠ [])
    (whole : HeaderWhole (done ++ body :: rest) s k) (moved : step cfd s k = some s') :
    InBody cfd done body rest 0 s' := by
  obtain ⟨some_bytes, _, asked, next⟩ := step_eq moved
  have positive : 0 < body.length := List.length_pos_iff.mpr nonempty
  obtain ⟨outside, lengths⟩ := whole
  rw [here.received] at outside lengths
  have four : k = 4 := by
    have limit : s.transport.readRequest = 4 := by simp only [CFrameTransport.readRequest, here.state]
    have notInside : ¬ k < 4 := fun short =>
      outside ((insideHeader_append done _ k).mpr (insideHeader_cons (by omega) short))
    omega
  subst four
  have fits : body.length < 2 ^ 31 := (lengthsFit_append lengths).1 (Nat.le_refl 4)
  have header : s.pending.take 4 = beBytes 4 body.length := by
    rw [here.pending, stream_cons, frame, List.append_assoc, List.take_append_of_le_length (by simp),
      List.take_of_length_le (by simp)]
  have remaining : s.pending.drop 4 = body ++ stream 4 rest := by
    rw [here.pending, stream_cons, frame, List.append_assoc, List.drop_append_of_le_length (by simp),
      List.drop_eq_nil_of_le (by simp), List.nil_append]
  have value : beNat (beBytes 4 body.length) = body.length := beNat_beBytes (by omega)
  obtain ⟨answers, answer⟩ : ∃ answers : Nat → KernelRecv,
      answers = fun _ => .ok (s.pending.take 4) := ⟨_, rfl⟩
  have first : answers 0 = .ok (s.pending.take 4) := by rw [answer]
  have read := CFrameTransport.readSocket_header inboxSlots s.inbox valid here.own here.state
    ((Buffer.readable_eq_nil _).mp here.empty) first
    (by rw [header, beBytes_length]) (by rw [header, value]; exact positive)
    (by rw [header, value]; exact fits) here.unprepended
  subst answer
  rw [next _ _ read]
  exact
    { short := positive, fits := fits
      received := by simp only [here.received]
      pending := by simp only [remaining, List.drop_zero]
      msgs := here.msgs, live := here.live, running := here.running, state := rfl, app := rfl
      want := by simp only [header, value]
      content := by
        simp only [header, List.take_zero]
        rw [Buffer.readable_storeAtBegin here.unprepended (by simp [kCheapPrepend]), here.empty]
      reserved := by
        simp only [header]
        rw [Buffer.reserve_storeAtBegin _ (by simp), beBytes_length,
          List.drop_eq_nil_of_le (Nat.le_of_eq (Buffer.reserve_length _)),
          List.append_nil]
      socket := rfl
      unprepended := here.unprepended.storeAtBegin _ }

/-- Bytes of the body take the reader further into it, or to the end of the frame, where the
owner gets the whole body. -/
theorem InBody.step {cfd : Socket} {done rest : List (List UInt8)} {body : List UInt8} {j : Nat}
    {s s' : Reader} {k : Nat} (here : InBody cfd done body rest j s) (valid : cfd ≠ invalidSocket)
    (moved : step cfd s k = some s') :
    InBody cfd done body rest (j + k) s' ∨ AtHeader cfd (done ++ [body]) rest s' := by
  obtain ⟨some_bytes, _, asked, next⟩ := step_eq moved
  have short := here.short
  have fits := here.fits
  have inside : s.transport.inBuffer.readableBytes = j := by
    rw [← Buffer.readable_length, here.content, List.length_take]
    omega
  have limit : s.transport.readRequest = body.length - j := by
    simp only [CFrameTransport.readRequest, here.state]
    rw [here.want, inside, CFrameTransport.shouldreadbytes_eq fits (by omega)]
  have bytes : s.pending.take k = (body.drop j).take k := by
    rw [here.pending, List.take_append_of_le_length (by rw [List.length_drop]; omega)]
  have size : (s.pending.take k).length = k := by
    rw [bytes, List.length_take, List.length_drop]
    omega
  have remaining : s.pending.drop k = body.drop (j + k) ++ stream 4 rest := by
    rw [here.pending, List.drop_append_of_le_length (by rw [List.length_drop]; omega),
      List.drop_drop]
  have received : CFrameTransport.readSockBufferLen cfd (fun _ => .ok (s.pending.take k))
      (body.length - s.transport.inBuffer.readableBytes) = some (s.pending.take k) := by
    rw [CFrameTransport.readSockBufferLen_ok valid (by omega) rfl, List.take_of_length_le (by omega)]
  obtain ⟨b, content, reserved, unprepended, read⟩ :=
    CFrameTransport.readSocket_body inboxSlots s.inbox (.inr (.inr here.socket)) here.state
      here.app here.want fits (by omega) received
      (by rw [← List.length_pos_iff, size]; exact some_bytes) here.unprepended
  rw [here.content, bytes, ← List.take_add] at content
  rw [here.reserved] at reserved
  rw [size, inside] at read
  by_cases last : body.length ≤ j + k
  · have whole : b.readable = body := by rw [content, List.take_of_length_le last]
    have announced : b.peekInt32FromReserve = body.length := by
      rw [Buffer.peekInt32FromReserve, reserved, beNat_beBytes (by omega), toInt_of_lt (by omega)]
    have got := CFrameTransport.getMsg_eq (t := { s.transport with inBuffer := b, socket := cfd })
      fits announced (by rw [← Buffer.readable_length, whole])
    rw [if_pos last] at read
    simp only [inboxSlots_readSocketDone, got, Option.map_some, whole] at read
    right
    rw [next _ _ read]
    exact
      { received := by
          simp only [here.received, stream_append, List.length_append, stream, frame_length,
            List.append_nil]
          omega
        pending := by
          simp only [remaining]
          rw [List.drop_eq_nil_of_le last, List.nil_append]
        msgs := by simp only [here.msgs]
        live := here.live, running := here.running, state := rfl
        empty := by simp only [Buffer.readable_retrieve, whole, List.drop_length]
        own := .inr (.inr rfl)
        unprepended := unprepended.retrieve _ }
  · rw [if_neg last] at read
    left
    rw [next _ _ read]
    exact
      { short := by omega
        fits := fits
        received := by simp only [here.received]; omega
        pending := remaining
        msgs := here.msgs, live := here.live, running := here.running, state := here.state
        app := here.app, want := here.want, content := content, reserved := reserved
        socket := rfl, unprepended := unprepended }

theorem Framed.step {cfd : Socket} {bodies : List (List UInt8)} {s s' : Reader} {k : Nat}
    (framed : Framed cfd bodies s) (valid : cfd ≠ invalidSocket) (nonempty : ∀ b ∈ bodies, b ≠ [])
    (whole : HeaderWhole bodies s k) (moved : step cfd s k = some s') : Framed cfd bodies s' := by
  cases framed with
  | header done rest split here =>
    cases rest with
    | nil =>
      obtain ⟨some_bytes, limit, _⟩ := step_eq moved
      rw [here.pending] at limit
      simp only [stream, List.length_nil] at limit
      omega
    | cons body rest =>
      exact .body done body rest 0 split
        (here.step valid (nonempty body (by simp [split])) (split ▸ whole) moved)
  | body done body rest j split here =>
    rcases here.step valid moved with inside | between
    · exact .body done body rest (j + k) split inside
    · exact .header (done ++ [body]) rest (by simp [split]) between

/-- In every run whose `recv`s end outside the length fields and whose lengths fit `int32_t`,
the messages are the completed bodies after every event, and the connection stays open. -/
theorem always_delivered (cfd : Socket) (valid : cfd ≠ invalidSocket) (rdAppState : AppState)
    (bodies : List (List UInt8)) (nonempty : ∀ b ∈ bodies, b ≠ []) (chunks : List Nat)
    (whole : EachStep (step cfd) (fun s k _ => HeaderWhole bodies s k) (start rdAppState bodies)
      chunks) :
    Always (step cfd) (Delivered bodies) (start rdAppState bodies) chunks :=
  Always.of_invariant (fun _ _ _ framed whole moved => framed.step valid nonempty whole moved)
    (fun _ framed => framed.delivered) (framed_start cfd rdAppState bodies) whole

/-- Two frames in five events, the first body in two pieces. -/
theorem always_delivered_two_frames :
    Always (step 7) (Delivered [[97, 98], [99]]) (start .init [[97, 98], [99]]) [4, 1, 1, 4, 1] :=
  always_delivered 7 (by decide) .init _ (by decide) _ (by decide +kernel)

/-- The first `recv` returns one byte of the length field `00 00 00 01`: the reserved bytes then
hold `0`, and the connection is given up. -/
theorem not_always_delivered_split_header :
    ¬ Always (step 7) (Delivered [[97]]) (start .init [[97]]) [1] := by
  decide +kernel

end Reader

end NewFramework.Tstlesrv
