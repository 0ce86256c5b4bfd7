import NewFramework.Lib.Run
import NewFramework.Net.ReservedBytes
import NewFramework.Tstlesrv.FrameTransport

/-!
# The length in the reserved bytes

`read_framing` (`tstlesrv/frametransport.cpp`) stores the length of a frame over the reserved bytes
of `m_in_buffer_`; `read_data` goes by the `m_readWant` it took from there, and `GetMsg` reads it
there once more.  The transport is driven by events in any order, whatever the kernel answers; its
owner calls `GetMsg` in each `SignalReadSocketDone`.  However many events the body of a frame takes,
all of them see the length that came with it.
-/

namespace NewFramework.Tstlesrv
open NewFramework.Lib NewFramework.Net

/-- What the owner of the transport notes. -/
structure LengthLog where
  /-- the length that `read_framing` stored last -/
  frame : Int
  /-- for each `GetMsg` that length, and the one it read -/
  got : List (Int × Int)

def lengthSlots : Slots LengthLog where
  closeSocket w := w
  readSocketDone t w := t.getMsg.map fun (_, t') =>
    (t', { w with got := w.got ++ [(w.frame, t.inBuffer.peekInt32FromReserve)] })
  setWriteState w := w
  clearWriteEvent w := w
  wrote _ _ _ w := w

theorem lengthSlots_readSocketDone (t : CFrameTransport) (w : LengthLog) :
    lengthSlots.readSocketDone t w = t.getMsg.map fun (_, t') =>
      (t', { w with got := w.got ++ [(w.frame, t.inBuffer.peekInt32FromReserve)] }) := by
  simp only [lengthSlots]

inductive TransportEvent where
  | readSocket (answers : Nat → KernelRecv) (cfd : Socket)
  | writeSocket (k : KernelWrite) (cfd : Socket)
  | writeBuffer (k : KernelWrite) (buf : List UInt8)
  | init

/-- The length that `read_framing` stores in a read event, if the event comes to that. -/
def CFrameTransport.storedLength (answers : Nat → KernelRecv) (cfd : Socket)
    (t : CFrameTransport) : Option Int :=
  if (t.socket ≠ invalidSocket ∧ t.rdAppState ≠ .init ∧ t.socket ≠ cfd) ∨
      t.rdSockState ≠ .recvFraming then none
  else
    match readSockBufferLen cfd answers 4 with
    | none | some [] => none
    | some data => some (t.headerWant data)

structure FrameLengths where
  transport : CFrameTransport
  log : LengthLog

namespace FrameLengths

/-- A transport as its constructor leaves it. -/
def start (rdAppState : AppState) : FrameLengths := ⟨.new rdAppState, ⟨0, []⟩⟩

/-- An event; where an `assert` fails in it, the run ends. -/
def step (s : FrameLengths) : TransportEvent → Option FrameLengths
  | .readSocket answers cfd =>
    let stored := (s.transport.storedLength answers cfd).getD s.log.frame
    (s.transport.readSocket lengthSlots answers cfd { s.log with frame := stored }).map
      fun (t, w) => ⟨t, w⟩
  | .writeSocket k cfd =>
    let (t, w) := s.transport.writeSocket lengthSlots k cfd s.log
    some ⟨t, w⟩
  | .writeBuffer k buf =>
    let (_, t, w) := s.transport.writeBuffer lengthSlots k buf s.log
    some ⟨t, w⟩
  | .init => some { s with transport := s.transport.init }

/-- Each `GetMsg` read the length of its frame, and so does `read_data` while it is its turn. -/
structure Agrees (s : FrameLengths) : Prop where
  got : ∀ pair ∈ s.log.got, pair.2 = pair.1
  body : s.transport.rdSockState = .recv →
    s.transport.readWant = s.log.frame ∧ s.transport.inBuffer.peekInt32FromReserve = s.log.frame

end FrameLengths

namespace CFrameTransport

/-- The transport has the length of the present frame, and all `GetMsg`s so far had theirs. -/
structure Knows (t : CFrameTransport) (w : LengthLog) : Prop where
  got : ∀ pair ∈ w.got, pair.2 = pair.1
  unprepended : t.inBuffer.Unprepended
  readWant : t.readWant = w.frame
  reserved : t.inBuffer.peekInt32FromReserve = w.frame

/-- The transport has that length if it is in the body of a frame. -/
structure Remembers (t : CFrameTransport) (w : LengthLog) : Prop where
  got : ∀ pair ∈ w.got, pair.2 = pair.1
  unprepended : t.inBuffer.Unprepended
  body : t.rdSockState = .recv →
    t.readWant = w.frame ∧ t.inBuffer.peekInt32FromReserve = w.frame

theorem Knows.remembers {t : CFrameTransport} {w : LengthLog} (knows : t.Knows w) :
    t.Remembers w :=
  ⟨knows.got, knows.unprepended, fun _ => ⟨knows.readWant, knows.reserved⟩⟩

theorem Knows.readSocketDone {t t' : CFrameTransport} {w w' : LengthLog} (knows : t.Knows w)
    (raised : lengthSlots.readSocketDone t w = some (t', w')) : t'.Knows w' := by
  rw [lengthSlots_readSocketDone] at raised
  obtain ⟨⟨msg, t₁⟩, got, same⟩ := Option.map_eq_some_iff.mp raised
  cases same
  refine ⟨?_, getMsg_unprepended got knows.unprepended, ?_, ?_⟩
  · intro pair mem
    rcases List.mem_append.mp mem with before | last
    · exact knows.got pair before
    · obtain rfl := List.mem_singleton.mp last
      dsimp only
      exact knows.reserved
  · rw [getMsg_some got]
    exact knows.readWant
  · exact (Buffer.peekInt32FromReserve_congr (getMsg_reserve got)).trans knows.reserved

theorem Knows.rdTransition {t t' : CFrameTransport} {w w' : LengthLog} (knows : t.Knows w)
    (done : rdTransition lengthSlots t w = some (t', w')) : t'.Remembers w' := by
  unfold CFrameTransport.rdTransition at done
  cases app : t.rdAppState with
  | readFrameSize =>
    rw [app] at done
    dsimp only at done
    split at done <;> cases done
    · exact knows.remembers
    · exact ⟨knows.got, knows.unprepended, fun _ => ⟨knows.readWant, knows.reserved⟩⟩
  | readRequest =>
    rw [app] at done
    obtain ⟨⟨t₁, w₁⟩, raised, same⟩ := Option.map_eq_some_iff.mp done
    have after := knows.readSocketDone raised
    cases same
    exact ⟨after.got, after.unprepended, fun state => SocketState.noConfusion state⟩
  | waitTask =>
    rw [app] at done
    cases done
    exact ⟨knows.got, knows.unprepended, fun state => SocketState.noConfusion state⟩
  | init | sendResult | closeConnection =>
    rw [app] at done
    cases done
    exact knows.remembers

theorem Knows.readData {answers : Nat → KernelRecv} {more : Bool} {t t' : CFrameTransport}
    {w w' : LengthLog} (knows : t.Knows w)
    (read : readData lengthSlots answers t w = some (more, t', w')) : t'.Knows w' := by
  have room : (t.inBuffer.ensureWritableBytes t.readWant.toNat).Unprepended :=
    knows.unprepended.ensureWritableBytes _
  have reserved :
      (t.inBuffer.ensureWritableBytes t.readWant.toNat).peekInt32FromReserve = w.frame :=
    (Buffer.peekInt32FromReserve_congr (Buffer.reserve_ensureWritableBytes ..)).trans knows.reserved
  unfold CFrameTransport.readData at read
  split at read
  · cases read
    exact knows
  dsimp only at read
  split at read
  iterate 2
    cases read
    exact ⟨knows.got, room, knows.readWant, reserved⟩
  split at read
  · next data _ _ fits =>
    have filled := Buffer.peekInt32FromReserve_congr (Buffer.reserve_fill room data fits)
    cases read
    exact ⟨knows.got, room.fill _ _, knows.readWant, filled.trans reserved⟩
  · cases read

theorem Remembers.thenTransition {r : Option (Bool × CFrameTransport × LengthLog)}
    {t' : CFrameTransport} {w' : LengthLog}
    (before : ∀ more t w, r = some (more, t, w) →
      t.Knows w ∨ more = false ∧ t.Remembers w)
    (done : thenTransition lengthSlots r = some (t', w')) : t'.Remembers w' := by
  obtain ⟨⟨more, t, w⟩, result, done⟩ := Option.bind_eq_some_iff.mp done
  dsimp only at done
  rcases before more t w result with knows | ⟨rfl, remembers⟩
  · split at done
    · exact knows.rdTransition done
    · cases done
      exact knows.remembers
  · cases done
    exact remembers

/-- `read_framing` stores a length, or leaves everything as it was. -/
theorem Remembers.readFraming {answers : Nat → KernelRecv} {cfd : Socket} {more : Bool}
    {t t' : CFrameTransport} {w w' : LengthLog} {stored : Int} (remembers : t.Remembers w)
    (own : t.SocketOk cfd) (state : t.rdSockState = .recvFraming)
    (length : stored = (t.storedLength answers cfd).getD w.frame)
    (read : readFraming lengthSlots answers { t with socket := cfd } { w with frame := stored } =
      some (more, t', w')) :
    t'.Knows w' ∨ more = false ∧ t'.Remembers w' := by
  have reads : ¬ ((t.socket ≠ invalidSocket ∧ t.rdAppState ≠ .init ∧ t.socket ≠ cfd) ∨
      t.rdSockState ≠ .recvFraming) := by
    rintro (⟨valid, started, other⟩ | no)
    · rcases own with h | h | h <;> contradiction
    · exact no state
  have between : ∀ u : CFrameTransport, u.inBuffer = t.inBuffer →
      u.rdSockState = t.rdSockState → ∀ frame, u.Remembers { w with frame := frame } := by
    intro u same same' frame
    refine ⟨remembers.got, same ▸ remembers.unprepended, ?_⟩
    intro body
    rw [same', state] at body
    contradiction
  unfold storedLength at length
  rw [if_neg reads] at length
  unfold CFrameTransport.readFraming at read
  cases received : readSockBufferLen cfd answers 4 with
  | none =>
    simp only [received] at read
    cases read
    exact .inr ⟨rfl, between { t with socket := cfd } rfl rfl stored⟩
  | some data =>
    simp only [received] at read length
    have short := readSockBufferLen_length received
    cases data with
    | nil =>
      cases read
      exact .inr ⟨rfl, between { t with socket := cfd } rfl rfl stored⟩
    | cons b bs =>
      have value : (t.inBuffer.storeAtBegin (b :: bs)).peekInt32FromReserve = stored := by
        rw [length, Option.getD_some, Buffer.peekInt32FromReserve,
          Buffer.reserve_storeAtBegin _ short, headerWant]
      have unprepended := remembers.unprepended.storeAtBegin (b :: bs)
      simp only [value] at read
      left
      split at read
      · cases read
        exact ⟨remembers.got, unprepended, rfl, value⟩
      · split at read
        · obtain ⟨⟨t₁, w₁⟩, raised, same⟩ := Option.map_eq_some_iff.mp read
          cases same
          refine Knows.readSocketDone ?_ raised
          exact ⟨remembers.got, unprepended, rfl, value⟩
        · cases read
          exact ⟨remembers.got, unprepended, rfl, value⟩

theorem Remembers.readSocket {answers : Nat → KernelRecv} {cfd : Socket} {t t' : CFrameTransport}
    {w w' : LengthLog} (remembers : t.Remembers w)
    (read : readSocket lengthSlots answers cfd t
      { w with frame := (t.storedLength answers cfd).getD w.frame } = some (t', w')) :
    t'.Remembers w' := by
  by_cases other : t.socket ≠ invalidSocket ∧ t.rdAppState ≠ .init ∧ t.socket ≠ cfd
  · -- another socket: nothing is read
    have nothing : t.storedLength answers cfd = none := if_pos (.inl other)
    rw [nothing] at read
    unfold CFrameTransport.readSocket at read
    rw [if_pos other] at read
    cases read
    exact ⟨remembers.got, remembers.unprepended, remembers.body⟩
  have own : t.SocketOk cfd := by
    unfold SocketOk
    by_contra none
    obtain ⟨valid, started, differs⟩ : _ ∧ _ ∧ _ := by simpa only [not_or] using none
    exact other ⟨valid, started, differs⟩
  cases state : t.rdSockState with
  | recvFraming =>
    rw [readSocket_recvFraming lengthSlots own state] at read
    refine Remembers.thenTransition ?_ read
    intro more t₁ w₁ framing
    exact remembers.readFraming own state rfl framing
  | recv =>
    have nothing : t.storedLength answers cfd = none :=
      if_pos (.inr (by rw [state]; exact SocketState.noConfusion))
    obtain ⟨want, reserved⟩ := remembers.body state
    rw [nothing, readSocket_recv lengthSlots own state] at read
    refine Remembers.thenTransition ?_ read
    intro more t₁ w₁ data
    left
    refine Knows.readData ?_ data
    exact ⟨remembers.got, remembers.unprepended, want, reserved⟩
  | send =>
    have nothing : t.storedLength answers cfd = none :=
      if_pos (.inr (by rw [state]; exact SocketState.noConfusion))
    rw [nothing] at read
    unfold CFrameTransport.readSocket at read
    rw [if_neg other] at read
    dsimp only at read
    rw [state] at read
    cases read
    exact ⟨remembers.got, remembers.unprepended, fun body => SocketState.noConfusion body⟩

end CFrameTransport

namespace FrameLengths

theorem lengthSlots_writeSocket (k : KernelWrite) (cfd : Socket) (t : CFrameTransport)
    (w : LengthLog) : (t.writeSocket lengthSlots k cfd w).2 = w := by
  rcases CFrameTransport.writeSocket_owner lengthSlots k cfd t w with h | ⟨_, rfl, h | h | h⟩
  all_goals exact h

theorem lengthSlots_writeBuffer (k : KernelWrite) (buf : List UInt8) (t : CFrameTransport)
    (w : LengthLog) : (t.writeBuffer lengthSlots k buf w).2.2 = w := by
  rw [CFrameTransport.writeBuffer_owner]
  split <;> rfl

theorem step_remembers {s s' : FrameLengths} {event : TransportEvent}
    (remembers : s.transport.Remembers s.log) (moved : s.step event = some s') :
    s'.transport.Remembers s'.log := by
  obtain ⟨got, unprepended, body⟩ := remembers
  cases event with
  | readSocket answers cfd =>
    obtain ⟨⟨t, w⟩, read, rfl⟩ := Option.map_eq_some_iff.mp moved
    exact CFrameTransport.Remembers.readSocket ⟨got, unprepended, body⟩ read
  | writeSocket k cfd =>
    have eq : s' = ⟨(s.transport.writeSocket lengthSlots k cfd s.log).1,
        (s.transport.writeSocket lengthSlots k cfd s.log).2⟩ := (Option.some.inj moved).symm
    obtain ⟨b, same⟩ := s.transport.writeSocket_transport lengthSlots k cfd s.log
    rw [eq, same, lengthSlots_writeSocket]
    exact ⟨got, unprepended, body⟩
  | writeBuffer k buf =>
    have eq : s' = ⟨(s.transport.writeBuffer lengthSlots k buf s.log).2.1,
        (s.transport.writeBuffer lengthSlots k buf s.log).2.2⟩ := (Option.some.inj moved).symm
    obtain ⟨b, same⟩ := s.transport.writeBuffer_transport lengthSlots k buf s.log
    rw [eq, same, lengthSlots_writeBuffer]
    exact ⟨got, unprepended, body⟩
  | init =>
    obtain rfl := Option.some.inj moved
    exact ⟨got, unprepended, fun state => SocketState.noConfusion state⟩

/-- In every run of a transport all lengths agree. -/
theorem always_agrees (rdAppState : AppState) (events : List TransportEvent) :
    Always step Agrees (start rdAppState) events := by
  have begins : (start rdAppState).transport.Remembers (start rdAppState).log := by
    refine ⟨?_, Buffer.unprepended_ofSize _, fun state => SocketState.noConfusion state⟩
    intro pair mem
    exact absurd mem List.not_mem_nil
  have keeps : ∀ s event s', s.transport.Remembers s.log → True → step s event = some s' →
      s'.transport.Remembers s'.log := by
    intro s event s' remembers _ moved
    exact step_remembers remembers moved
  have agrees : ∀ s : FrameLengths, s.transport.Remembers s.log → s.Agrees := by
    intro s remembers
    exact ⟨remembers.got, remembers.body⟩
  exact Always.of_invariant keeps agrees begins (EachStep.trivial _ events)

/-- In place, no operation whose sums fit touches the reserved bytes; so the length stored there
survives until it is used. -/
theorem always_reserved_and_agrees (b : Buffer) (unprepended : b.Unprepended)
    (holds : b.buffer.length ≤ maxSize) (ops : List BufferOp)
    (fits : EachStep RawBuffer.stepInPlace (fun r op _ => op.Fits r) b.raw ops)
    (rdAppState : AppState) (events : List TransportEvent) :
    Always RawBuffer.stepInPlace (fun r => r.reserved = b.reserved) b.raw ops ∧
      Always step Agrees (start rdAppState) events :=
  ⟨RawBuffer.always_reserved unprepended holds fits, always_agrees rdAppState events⟩

/-- The storage grows and its content moves to the front; a body of two bytes takes two events. -/
theorem always_reserved_and_agrees_moves :
    Always RawBuffer.stepInPlace (fun r => r.reserved = [0, 0, 0, 2, 0, 0, 0, 0])
        ((Buffer.ofSize 16).storeAtBegin [0, 0, 0, 2]).raw
        [.append [1, 2, 3], .ensureWritableBytes 40, .hasWritten 30, .unwrite 1, .retrieve 20,
          .ensureWritableBytes 20, .readFd (some [4]), .retrieveAll] ∧
      Always step Agrees (start .init)
        [.readSocket (fun _ => .ok [0, 0, 0, 2]) 7, .readSocket (fun _ => .ok [97]) 7,
          .readSocket (fun _ => .ok [98]) 7] :=
  always_reserved_and_agrees ((Buffer.ofSize 16).storeAtBegin [0, 0, 0, 2])
    ((Buffer.unprepended_ofSize 16).storeAtBegin _) (by decide) _ (by decide +kernel) .init _

end FrameLengths

end NewFramework.Tstlesrv
