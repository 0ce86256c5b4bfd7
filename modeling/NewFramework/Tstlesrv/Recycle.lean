import Mathlib.Data.List.Basic
import NewFramework.Tstlesrv.Twins

/-!
# Recycled contexts

A context that has served some connections and is back on the free list, against a new one.
`ClientCtx::init` (`tstlesrv/clientctx.cpp`) re-establishes the event flags and the read state, but
neither `CFrameTransport::init` nor `close_connection` touches `m_socket`, the two buffers or the
reserved bytes.  The recycled context behaves like a new one exactly where these do not matter: both
buffers are empty, no old byte is left in the reserved ones, and `read_socket` will accept the new
descriptor.
-/

namespace NewFramework.Tstlesrv
open NewFramework.Lib NewFramework.Net

namespace Context

/-- On a new connection on `fd` the two contexts show the same in every event, whatever the
environment answers. -/
def SameBehaviour (fd : Socket) (c d : Context) : Prop :=
  ∀ (a : Answers) (events : List (Opr × Answers)),
    (c.initOn fd a).seen fd = (d.initOn fd a).seen fd ∧
      trace stepEvent (seen fd) (c.initOn fd a) events =
        trace stepEvent (seen fd) (d.initOn fd a) events

/-- Nothing of the old connection is left where the new one looks. -/
structure Clean (fd : Socket) (t : CFrameTransport) : Prop where
  read : t.inBuffer.readable = []
  reserved : t.inBuffer.reserve.drop 1 = [0, 0, 0]
  unsent : t.outputBuffer.readable = []
  socket : t.SocketOk fd

instance (fd : Socket) (t : CFrameTransport) : Decidable (Clean fd t) :=
  have : Decidable (t.SocketOk fd) := inferInstanceAs (Decidable (_ ∨ _))
  decidable_of_iff (t.inBuffer.readable = [] ∧ t.inBuffer.reserve.drop 1 = [0, 0, 0] ∧
      t.outputBuffer.readable = [] ∧ t.SocketOk fd)
    ⟨fun h => ⟨h.1, h.2.1, h.2.2.1, h.2.2.2⟩, fun h => ⟨h.read, h.reserved, h.unsent, h.socket⟩⟩

theorem clean_new (fd : Socket) (rdAppState : AppState) :
    Clean fd (CFrameTransport.new rdAppState) where
  read := Buffer.readable_ofSize _
  reserved := rfl
  unsent := Buffer.readable_ofSize _
  socket := .inl rfl

/-! ## The history -/

theorem unprepended_step {c c' : Context} {call : Call}
    (unprepended : c.transport.inBuffer.Unprepended) (moved : c.step call = some c') :
    c'.transport.inBuffer.Unprepended := by
  cases call with
  | init socket a =>
    obtain ⟨-, -, -, rfl⟩ := step_init moved
    simp only [initOn, initCtx]
    split <;> exact unprepended
  | event opr a =>
    obtain ⟨e, -, -, -, rfl⟩ := step_event moved
    unfold handle
    split
    · cases handled : readHandler e.fd c.transport (c.scene a) with
      | none => exact unprepended
      | some r =>
        unfold readHandler at handled
        split at handled
        · rw [← Option.some.inj handled]
          exact unprepended
        · exact CFrameTransport.readSocket_unprepended
            (fun _ _ _ _ => readSocketDone_unprepended) handled unprepended
    · simp only [after, writeHandler]
      split
      · exact unprepended
      · rw [CFrameTransport.writeSocket_inBuffer]
        exact unprepended
  | writeBuffer buf a =>
    obtain ⟨-, -, rfl⟩ := step_writeBuffer moved
    obtain ⟨b, sent⟩ := c.transport.writeBuffer_transport ctxSlots a.write buf (c.scene a)
    simp only [after, sent]
    exact unprepended

/-- What every history leaves: a tidy context to whose input nothing was prepended. -/
theorem history_tidy (rdAppState : AppState) {history : List Call} {c : Context}
    (ran : exec step (new rdAppState) history = some c) :
    (∃ fd, Tidy fd c.client) ∧ c.transport.inBuffer.Unprepended := by
  have keeps : ∀ c call c', (∃ fd, Tidy fd c.client) ∧ c.transport.inBuffer.Unprepended → True →
      step c call = some c' → (∃ fd, Tidy fd c'.client) ∧ c'.transport.inBuffer.Unprepended :=
    fun _ _ _ inv _ moved => ⟨tidy_step inv.1 moved, unprepended_step inv.2 moved⟩
  exact exec_invariant keeps ⟨⟨invalidSocket, tidy_new _⟩, Buffer.unprepended_ofSize _⟩
    (EachStep.trivial _ _) ran

/-! ## A clean context -/

/-- A context that is not in use and a new one are twins once both are initialised. -/
theorem Clean.twins {fd socket socket' : Socket} {c d : Context} (clean : Clean fd c.transport)
    (clean' : Clean fd d.transport) (tidy : Tidy socket c.client) (tidy' : Tidy socket' d.client)
    (idle : c.client.isInUse = false) (idle' : d.client.isInUse = false)
    (unprepended : c.transport.inBuffer.Unprepended)
    (unprepended' : d.transport.inBuffer.Unprepended) (a : Answers) :
    TwinContexts fd (c.initOn fd a) (d.initOn fd a) ∧
      (c.initOn fd a).seen fd = (d.initOn fd a).seen fd := by
  have opened : Twins fd ((c.scene a).opened fd) ((d.scene a).opened fd) :=
    { inUse := rfl
      conn :=
        { flags := rfl
          sfd := rfl
          added := fun opr => (tidy.quiet idle opr).trans (tidy'.quiet idle' opr).symm
          event := fun opr added => absurd ((tidy.quiet idle opr).symm.trans added) (by simp) }
      answers := rfl
      sights := .refl fd []
      tidy := ⟨tidy.kind, tidy.wired, tidy.sane, by simp [Scene.opened], fun _ => rfl⟩
      tidy' := ⟨tidy'.kind, tidy'.wired, tidy'.sane, by simp [Scene.opened], fun _ => rfl⟩ }
  obtain ⟨result, twins, -⟩ := opened.setRead rfl
  have between : BetweenFrames fd c.transport.init :=
    ⟨rfl, (Buffer.readable_eq_nil _).mp clean.read, clean.socket, unprepended⟩
  have between' : BetweenFrames fd d.transport.init :=
    ⟨rfl, (Buffer.readable_eq_nil _).mp clean'.read, clean'.socket, unprepended'⟩
  rw [initOn_eq tidy.kind, initOn_eq tidy'.kind]
  refine ⟨⟨result, fun a' => ⟨{ twins with answers := rfl, sights := .refl fd [] }, fun _ =>
    .between between between' (clean.reserved.trans clean'.reserved.symm)
      (clean.unsent.trans clean'.unsent.symm), ?_⟩⟩, ?_⟩
  · intro _ added
    have other : Opr.write ≠ .read := by decide
    have kept := ((c.scene a).opened fd).setReadCtxnew_flagsSet.other other
    have unset : (((c.scene a).opened fd).setReadCtxnew.2.client.ctx.event .write).added = false :=
      (congrArg Event.added kept).trans (tidy.quiet idle .write)
    exact absurd (unset.symm.trans added) (by simp)
  · exact Seen.mk.injEq .. ▸ ⟨twins.sights.delivered, twins.sights.written,
      decide_eq_decide.mpr twins.sights.closed, result⟩

/-! ## A context that is not clean

Each thing that is left of the old connection shows within three events of the new one. -/

/-- An open connection that is being read, and nothing else. -/
structure Serving (fd : Socket) (c : Context) : Prop where
  alive : c.alive = true
  sfd : c.client.ctx.sfd = fd
  flags : c.client.ctx.flags = evPersist + evRead
  reads : c.client.ctx.rdEvent = ⟨some ⟨fd, evPersist + evRead, .read⟩, true⟩

/-- A read event in which `data` arrives, and the echo of a message has to wait. -/
def arriving (data : List UInt8) : Opr × Answers := (.read, .answering data ⟨none, .eagain⟩)

/-- `init` with a libevent that does what it is asked. -/
def reopened (fd : Socket) (c : Context) : Context := c.initOn fd (arriving []).2

theorem reopened_transport {socket : Socket} {c : Context} (tidy : Tidy socket c.client)
    (fd : Socket) : (c.reopened fd).transport = c.transport.init := by
  rw [reopened, initOn_eq tidy.kind]

theorem serving_reopened {socket : Socket} {c : Context} (tidy : Tidy socket c.client)
    (fd : Socket) : Serving fd (c.reopened fd) := by
  rw [reopened, initOn_eq tidy.kind]
  have event : ∀ c : ConnCtx, (c.event .read) = c.rdEvent := fun _ => rfl
  constructor <;>
    simp [Scene.setReadCtxnew, Scene.setCtxFlagsCtxnew, Scene.opened, scene, arriving,
      Answers.answering, evPersist, evRead, Scene.eventAssign, Scene.eventAdd, Scene.mapCtx,
      ← event]

theorem Serving.stepEvent {fd : Socket} {c : Context} (serving : Serving fd c) (a : Answers) :
    c.stepEvent (.read, a) =
      some (c.after (c.transport.readSocket ctxSlots a.recv fd (c.scene a))) := by
  have reads : c.client.ctx.event .read = ⟨some ⟨fd, evPersist + evRead, .read⟩, true⟩ :=
    serving.reads
  unfold Context.stepEvent
  rw [step_event_eq (by rw [reads]) serving.alive (by rw [reads]), handle_read rfl,
    readHandler_own (s := c.scene a) serving.sfd.symm]
  rfl

/-- Contexts that behave the same show the same of the first read event. -/
theorem SameBehaviour.first_read {fd socket socket' : Socket} {c d : Context}
    (same : SameBehaviour fd c d) (tidy : Tidy socket c.client) (tidy' : Tidy socket' d.client)
    (a : Answers) :
    ((c.reopened fd).after (c.transport.init.readSocket ctxSlots a.recv fd
        ((c.reopened fd).scene a))).seen fd =
      ((d.reopened fd).after (d.transport.init.readSocket ctxSlots a.recv fd
        ((d.reopened fd).scene a))).seen fd := by
  have traces := (same (arriving []).2 [(.read, a)]).2
  change trace _ _ (c.reopened fd) _ = trace _ _ (d.reopened fd) _ at traces
  rw [trace_cons_some ((serving_reopened tidy fd).stepEvent a),
    trace_cons_some ((serving_reopened tidy' fd).stepEvent a), reopened_transport tidy,
    reopened_transport tidy'] at traces
  exact (List.cons.inj traces).1

/-- Closing the connection shows. -/
theorem seen_closeSocket {fd : Socket} {c : Context} (valid : fd ≠ invalidSocket)
    (own : c.client.ctx.sfd = fd) (a : Answers) (t : CFrameTransport) :
    ((c.after (some (t, ctxSlots.closeSocket (c.scene a)))).seen fd).closed = true := by
  rw [closeSocket_ctxSlots]
  simp [seen, after, scene, ConnCtx.closeNotes, own, valid]

/-- A whole length field of value 1. -/
def lengthOne : List UInt8 := [0, 0, 0, 1]

theorem headerWant_lengthOne (t : CFrameTransport) : t.headerWant lengthOne = 1 := by
  have whole : t.inBuffer.reserve.drop 4 = [] :=
    List.drop_eq_nil_of_le (Nat.le_of_eq (Buffer.reserve_length _))
  have length : lengthOne.length = 4 := rfl
  rw [CFrameTransport.headerWant, length, whole, List.append_nil]
  decide

/-- A transport that has read it. -/
def announcedOne (fd : Socket) (t : CFrameTransport) : CFrameTransport :=
  { t with
    inBuffer := t.inBuffer.storeAtBegin lengthOne
    socket := fd
    readWant := 1
    rdSockState := .recv
    rdAppState := .readRequest }

theorem readSocket_lengthOne {fd : Socket} {t : CFrameTransport} (valid : fd ≠ invalidSocket)
    (here : BetweenFrames fd t) (s : Scene) :
    t.readSocket ctxSlots (arriving lengthOne).2.recv fd s = some (announcedOne fd t, s) :=
  CFrameTransport.readSocket_header ctxSlots s valid here.own here.state here.empty
    (rfl : (arriving lengthOne).2.recv 0 = .ok lengthOne) rfl (by decide) (by decide) here.unprepended

/-- A context that is between two frames shows nothing of a length field. -/
theorem seen_lengthOne {fd : Socket} {c : Context} (valid : fd ≠ invalidSocket)
    (alive : c.alive = true) {t : CFrameTransport} (here : BetweenFrames fd t) :
    (c.after (t.readSocket ctxSlots (arriving lengthOne).2.recv fd
      (c.scene (arriving lengthOne).2))).seen fd = ⟨[], [], false, true⟩ := by
  rw [readSocket_lengthOne valid here]
  simp [seen, after, scene, delivered, writtenTo, alive]

/-- The first byte of a length field with the value 0 closes the connection exactly where the
reserved bytes behind it are 0. -/
theorem headerWant_zero (t : CFrameTransport) :
    t.headerWant [0] ≤ 0 ↔ t.inBuffer.reserve.drop 1 = [0, 0, 0] := by
  have length : (t.inBuffer.reserve.drop 1).length = 3 := by
    rw [List.length_drop, Buffer.reserve_length]
  obtain ⟨x, y, z, bytes⟩ := List.length_eq_three.mp length
  have value : beNat [0, x, y, z] = x.toNat * 65536 + y.toNat * 256 + z.toNat := by
    simp only [beNat, List.foldl_cons, List.foldl_nil, UInt8.toNat_zero]
    omega
  have hx := x.toNat_lt; have hy := y.toNat_lt; have hz := z.toNat_lt
  have want : t.headerWant [0] = (beNat [0, x, y, z] : Nat) := by
    rw [CFrameTransport.headerWant, List.length_singleton, bytes]
    exact toInt_of_lt (by simp only [List.singleton_append, value]; omega)
  rw [want, bytes, value]
  simp only [List.cons.injEq, ← UInt8.toNat_inj, UInt8.toNat_zero, and_true]
  omega

/-- What is noted stays noted while an event is handled. -/
theorem served_mem (n : Note) : Served (fun s => n ∈ s.notes) (fun s => n ∈ s.notes) where
  note _ h := List.mem_append_left _ h
  setRead h := by
    obtain ⟨more, notes, -⟩ := (Scene.setReadCtxnew_flagsSet _).notes
    rw [notes]
    exact List.mem_append_left _ h
  setWrite := by
    intro s h
    obtain ⟨more, notes, -⟩ := (s.note (.signal .setWriteState)).setWriteCtxnew_flagsSet.notes
    have kept : n ∈ (s.note (.signal .setWriteState)).setWriteCtxnew.2.notes :=
      notes ▸ List.mem_append_left _ (List.mem_append_left _ h)
    simp only [ctxSlots, writeSlots, Scene.onSetwritestate]
    split
    · exact kept
    · rw [Scene.onClosesocket_eq]
      exact List.mem_append_left _ (List.mem_append_left _ kept)
  close h := by
    rw [closeSocket_ctxSlots]
    exact List.mem_append_left _ h
  done h := h

theorem readSockBufferLen_arriving {fd : Socket} (valid : fd ≠ invalidSocket) {data : List UInt8}
    (short : data.length ≤ 4) :
    CFrameTransport.readSockBufferLen fd (arriving data).2.recv 4 = some data := by
  rw [CFrameTransport.readSockBufferLen_ok valid (Nat.zero_lt_succ 3) rfl,
    List.take_of_length_le short]

/-- With a byte in the input buffer, a length field of value 1 is a whole message. -/
theorem readSocket_ready {fd : Socket} {t : CFrameTransport} {s : Scene}
    (valid : fd ≠ invalidSocket) (own : t.SocketOk fd) (state : t.rdSockState = .recvFraming)
    (unprepended : t.inBuffer.Unprepended) (left : t.inBuffer.readable ≠ []) :
    ∃ msg x, t.readSocket ctxSlots (arriving lengthOne).2.recv fd s = some x ∧ msg ≠ [] ∧
      .deliver msg ∈ x.2.notes := by
  have received : CFrameTransport.readSockBufferLen fd (arriving lengthOne).2.recv 4 =
      some lengthOne := readSockBufferLen_arriving valid (by decide)
  have stored : (t.inBuffer.storeAtBegin lengthOne).peekInt32FromReserve = 1 := by
    rw [← headerWant_lengthOne t, Buffer.peekInt32FromReserve,
      Buffer.reserve_storeAtBegin _ (by decide), CFrameTransport.headerWant]
  have content : (t.inBuffer.storeAtBegin lengthOne).readable = t.inBuffer.readable :=
    Buffer.readable_storeAtBegin unprepended (by decide)
  generalize held : t.inBuffer.storeAtBegin lengthOne = b at stored content
  have some_bytes : b.readable ≠ [] := content ▸ left
  obtain ⟨byte, bytes, split⟩ := List.exists_cons_of_ne_nil some_bytes
  have ready : 1 ≤ b.readableBytes := by
    rw [← Buffer.readable_length, split]
    exact Nat.le_add_left 1 _
  have got : CFrameTransport.getMsg { t with
      inBuffer := b, socket := fd, readWant := 1, rdAppState := .readFrameSize } =
        some ([byte], { t with
          inBuffer := b.retrieve 1, socket := fd, readWant := 1, rdAppState := .readFrameSize }) := by
    have one : ((1 : Int) % 2 ^ 64).toNat = 1 := by decide
    simp only [CFrameTransport.getMsg, stored, one, Buffer.retrieveAsString, if_pos ready, split,
      List.take_succ_cons, List.take_zero, Option.map_some]
  refine ⟨[byte], ?_⟩
  rw [CFrameTransport.readSocket_recvFraming ctxSlots own state]
  have told := readSocketDone_ctxSlots got (List.cons_ne_nil _ _) rfl (s := s)
  obtain ⟨app, want⟩ := steady_ctxSlots _ _ _ _ told
  generalize heard : (s.note (.signal .readSocketDone)).setReadCtxnew.2 = s₁ at told app want
  have delivered : Note.deliver [byte] ∈ (s₁.note (.deliver [byte])).notes := by simp
  have kept := (served_mem (.deliver [byte])).writeBuffer s₁.answers.write [byte] delivered
    (t := { t with
      inBuffer := b.retrieve 1, socket := fd, readWant := 1, rdAppState := .readFrameSize })
  generalize CFrameTransport.writeBuffer ctxSlots s₁.answers.write [byte] _ _ = sent
    at told app want kept
  have natural : (1 : Int).toNat = 1 := rfl
  have positive : ¬ (1 : Int) ≤ 0 := by decide
  have framing : CFrameTransport.readFraming ctxSlots (arriving lengthOne).2.recv
      { t with socket := fd } s = some (true, sent.2) := by
    have answer : CFrameTransport.readSockBufferLen fd (arriving lengthOne).2.recv 4 =
      some (0 :: [0, 0, 1]) := received
    have kept : t.inBuffer.storeAtBegin (0 :: [0, 0, 1]) = b := held
    simp only [CFrameTransport.readFraming, answer, kept, stored, if_neg positive, natural,
      if_pos ready, told, Option.map_some]
  refine ⟨({ sent.2.1 with rdSockState := .recv, rdAppState := .readRequest }, sent.2.2), ?_,
    List.cons_ne_nil _ _, kept⟩
  rw [framing]
  simp only [CFrameTransport.thenTransition, Option.bind_some, if_true]
  exact CFrameTransport.rdTransition_readFrameSize ctxSlots app (want ▸ positive) _

/-- While the read event is added, `set_write_ctxnew` sets up and adds the write event. -/
theorem setWriteState_serving {fd : Socket} {s : Scene} (sfd : s.client.ctx.sfd = fd)
    (flags : s.client.ctx.flags = evPersist + evRead) (answers : s.answers.setWrite = ⟨true, true⟩) :
    (ctxSlots.setWriteState s).client.ctx.sfd = fd ∧
      (ctxSlots.setWriteState s).client.ctx.event .write =
        ⟨some ⟨fd, evPersist + evWrite, .write⟩, true⟩ := by
  have flagged := (s.note (.signal .setWriteState)).setWriteCtxnew_flagsSet
  simp only [ctxSlots, writeSlots, Scene.onSetwritestate]
  generalize (s.note (.signal .setWriteState)).setWriteCtxnew = r at flagged
  cases flagged with
  | same flagged => exact absurd (flags.symm.trans flagged) (by decide)
  | delFailed _ _ failed => exact absurd failed (by simp [answers])
  | addFailed _ _ failed => exact absurd failed (by simp [answers])
  | added =>
    rw [Scene.eventAdd_reassigned]
    simp [Scene.mapCtx, sfd]

/-- A byte that has to wait is put behind what is left unsent, and the write event is added. -/
theorem writeBuffer_waits {fd : Socket} {t : CFrameTransport} {s : Scene}
    (sfd : s.client.ctx.sfd = fd) (flags : s.client.ctx.flags = evPersist + evRead)
    (answers : s.answers.setWrite = ⟨true, true⟩) {t' : CFrameTransport} {s' : Scene}
    (sent : (t.writeBuffer ctxSlots ⟨none, .eagain⟩ [0] s).2 = (t', s')) :
    t'.socket = t.socket ∧ t'.outputBuffer.readable = t.outputBuffer.readable ++ [0] ∧
      s'.client.ctx.sfd = fd ∧
      s'.client.ctx.event .write = ⟨some ⟨fd, evPersist + evWrite, .write⟩, true⟩ := by
  obtain ⟨o, kept⟩ := t.writeBuffer_transport ctxSlots ⟨none, .eagain⟩ [0] s
  have unsent := t.writeBuffer_readable ctxSlots ⟨none, .eagain⟩ [0] s
  have owner := t.writeBuffer_owner ctxSlots ⟨none, .eagain⟩ [0] s
  rw [if_pos (by decide)] at owner
  rw [sent] at kept unsent owner
  dsimp only at kept unsent owner
  obtain ⟨own, event⟩ := setWriteState_serving (s := ctxSlots.wrote t.socket ⟨none, .eagain⟩ [0] s)
    sfd flags answers
  rw [owner]
  exact ⟨by rw [kept], unsent, own, event⟩

/-- The message of one byte arrives, and its echo has to wait behind what is left unsent. -/
theorem Serving.echo_waits {fd : Socket} {c : Context} (serving : Serving fd c)
    (valid : fd ≠ invalidSocket) (here : InsideBody fd 1 c.transport) :
    ∃ c', c.stepEvent (arriving [0]) = some c' ∧ c'.alive = true ∧ c'.client.ctx.sfd = fd ∧
      c'.client.ctx.event .write = ⟨some ⟨fd, evPersist + evWrite, .write⟩, true⟩ ∧
      c'.transport.socket = fd ∧
      c'.transport.outputBuffer.readable = c.transport.outputBuffer.readable ++ [0] := by
  have unread := here.unread
  have nothing : c.transport.inBuffer.readableBytes = 0 := by omega
  have received : CFrameTransport.readSockBufferLen fd (arriving [0]).2.recv
      (1 - c.transport.inBuffer.readableBytes) = some [0] := by
    rw [nothing, CFrameTransport.readSockBufferLen_ok valid (Nat.zero_lt_succ 0) rfl]
    rfl
  obtain ⟨b, content, reserve, -, read⟩ := CFrameTransport.readSocket_body ctxSlots
    (c.scene (arriving [0]).2) (.inr (.inr here.socket)) here.state here.app here.want here.fits
    here.unread received (List.cons_ne_nil _ _) here.unprepended
  have whole : b.readable = [0] := by
    rw [content, (Buffer.readable_eq_nil _).mpr nothing, List.nil_append]
  have announced : b.peekInt32FromReserve = (1 : Nat) := by
    rw [Buffer.peekInt32FromReserve, reserve, ← Buffer.peekInt32FromReserve, here.announced]
  have got := CFrameTransport.getMsg_eq (t := { c.transport with inBuffer := b, socket := fd })
    here.fits announced (by rw [← Buffer.readable_length, whole]; rfl)
  simp only [whole] at got
  have flagged : ((c.scene (arriving [0]).2).note (.signal .readSocketDone)).setReadCtxnew =
      (true, (c.scene (arriving [0]).2).note (.signal .readSocketDone)) :=
    if_pos serving.flags
  have told := readSocketDone_ctxSlots got (List.cons_ne_nil _ _) (congrArg Prod.snd flagged)
  obtain ⟨socket, unsent, sfd, event⟩ := writeBuffer_waits
    (t := { c.transport with inBuffer := b.retrieve 1, socket := fd })
    (s := ((c.scene (arriving [0]).2).note (.signal .readSocketDone)).note (.deliver [0]))
    serving.sfd serving.flags rfl rfl
  have last : 1 ≤ c.transport.inBuffer.readableBytes + ([0] : List UInt8).length := by simp
  rw [if_pos last, told, Option.map_some] at read
  exact ⟨_, (serving.stepEvent _).trans (congrArg (fun r => some (c.after r)) read),
    serving.alive, sfd, event, socket, unsent⟩

/-- What a write event on the transport's own socket writes. -/
theorem writtenTo_writeSocket {fd : Socket} {t : CFrameTransport} (own : t.socket = fd)
    (k : KernelWrite) (s : Scene) :
    writtenTo fd (t.writeSocket ctxSlots k fd s).2.notes =
      writtenTo fd s.notes ++
        t.outputBuffer.readable.take (k.accepted t.outputBuffer.readableBytes) := by
  have append : ∀ ns ms, writtenTo fd (ns ++ ms) = writtenTo fd ns ++ writtenTo fd ms :=
    fun ns ms => List.flatMap_append
  have wrote : writtenTo fd (ctxSlots.wrote t.socket k t.outputBuffer.readable s).notes =
      writtenTo fd s.notes ++
        t.outputBuffer.readable.take (k.accepted t.outputBuffer.readableBytes) := by
    have noted : (ctxSlots.wrote t.socket k t.outputBuffer.readable s).notes =
        s.notes ++ [.wrote t.socket k t.outputBuffer.readable] := rfl
    rw [noted, append]
    simp [writtenTo, own]
  have silent : ∀ c : ConnCtx, writtenTo fd (.signal .closeSocket :: c.closeNotes) = [] := by
    intro c
    apply List.flatMap_eq_nil_iff.mpr
    intro n among
    rcases List.mem_cons.mp among with rfl | among
    · rfl
    · rcases mem_closeNotes among with ⟨opr, rfl⟩ | rfl | rfl <;> rfl
  rcases CFrameTransport.writeSocket_own ctxSlots k own s with h | h | h
  · rw [h.2.2]
    have noted : ∀ s, (ctxSlots.clearWriteEvent s).notes = s.notes ++ [.signal .clearWriteEvent] :=
      fun _ => rfl
    rw [noted, append, wrote]
    exact List.append_nil _
  · rw [h.2.2, wrote]
  · rw [h.2, closeSocket_ctxSlots, append, silent, wrote, List.append_nil]

/-- A message of one byte, and a write event with `room` bytes of room. -/
def echoing (room : Nat) : List (Opr × Answers) :=
  [arriving lengthOne, arriving [0], (.write, .answering [] ⟨some room, .eagain⟩)]

/-- A message is echoed behind everything that is left unsent. -/
theorem Serving.written_third {fd : Socket} {c : Context} (serving : Serving fd c)
    (valid : fd ≠ invalidSocket) (here : BetweenFrames fd c.transport) {room : Nat}
    (ample : c.transport.outputBuffer.readableBytes < room) :
    (trace Context.stepEvent (seen fd) c (echoing room))[2]?.map Seen.written =
      some (c.transport.outputBuffer.readable ++ [0]) := by
  have header : c.stepEvent (arriving lengthOne) =
      some (c.after (some (announcedOne fd c.transport, c.scene (arriving lengthOne).2))) :=
    (serving.stepEvent _).trans
      (congrArg (fun r => some (c.after r)) (readSocket_lengthOne valid here _))
  have inside : InsideBody fd 1 (announcedOne fd c.transport) :=
    here.insideBody (by decide : lengthOne.length ≤ 4) (headerWant_lengthOne _) (by decide)
  have again : Serving fd
      (c.after (some (announcedOne fd c.transport, c.scene (arriving lengthOne).2))) :=
    ⟨serving.alive, serving.sfd, serving.flags, serving.reads⟩
  obtain ⟨c', body, alive, sfd, event, own, unsent⟩ := again.echo_waits valid inside
  have length : c'.transport.outputBuffer.readable.length =
      c.transport.outputBuffer.readableBytes + 1 := by
    rw [unsent, List.length_append, ← Buffer.readable_length]
    rfl
  have last : c'.stepEvent (.write, .answering [] ⟨some room, .eagain⟩) =
      some (c'.after (some (c'.transport.writeSocket ctxSlots ⟨some room, .eagain⟩ fd
        (c'.scene (.answering [] ⟨some room, .eagain⟩))))) := by
    unfold Context.stepEvent
    rw [step_event_eq (by rw [event]) alive (by rw [event]), handle_write rfl,
      writeHandler_own (s := c'.scene _) sfd.symm]
    rfl
  have all : (KernelWrite.mk (some room) .eagain).accepted c'.transport.outputBuffer.readableBytes =
      c'.transport.outputBuffer.readableBytes := by
    rw [← Buffer.readable_length, length]
    exact Nat.min_eq_right ample
  have written := writtenTo_writeSocket own ⟨some room, .eagain⟩
    (c'.scene (.answering [] ⟨some room, .eagain⟩))
  rw [all, List.take_of_length_le (Nat.le_of_eq (Buffer.readable_length _)), unsent] at written
  rw [echoing, trace_cons_some header, trace_cons_some body, trace_cons_some last]
  exact congrArg some written

section NotClean

variable {fd socket socket' : Socket} {c d : Context} (same : SameBehaviour fd c d)
  (tidy : Tidy socket c.client) (tidy' : Tidy socket' d.client) (valid : fd ≠ invalidSocket)
  (fresh : BetweenFrames fd d.transport.init)
include same tidy tidy' valid fresh

/-- A length field that the new context accepts must not close the connection. -/
theorem SameBehaviour.socketOk : c.transport.SocketOk fd := by
  by_contra alien
  have refused : c.transport.init.readSocket ctxSlots (arriving lengthOne).2.recv fd
      ((c.reopened fd).scene (arriving lengthOne).2) =
        some (c.transport.init, ctxSlots.closeSocket ((c.reopened fd).scene (arriving lengthOne).2)) := by
    unfold CFrameTransport.SocketOk at alien
    unfold CFrameTransport.readSocket
    exact if_pos ⟨fun h => alien (.inl h), fun h => alien (.inr (.inl h)),
      fun h => alien (.inr (.inr h))⟩
  have shown := same.first_read tidy tidy' (arriving lengthOne).2
  rw [seen_lengthOne valid (serving_reopened tidy' fd).alive fresh, refused] at shown
  have closed := seen_closeSocket valid (serving_reopened tidy fd).sfd (arriving lengthOne).2
    c.transport.init
  rw [shown] at closed
  contradiction

/-- Bytes that are left in the input buffer would be delivered at once. -/
theorem SameBehaviour.read (unprepended : c.transport.inBuffer.Unprepended)
    (state : c.transport.SocketOk fd) : c.transport.inBuffer.readable = [] := by
  by_contra left
  obtain ⟨msg, x, done, some_bytes, told⟩ :=
    readSocket_ready (s := (c.reopened fd).scene (arriving lengthOne).2) valid
      (t := c.transport.init) state rfl unprepended left
  have shown := same.first_read tidy tidy' (arriving lengthOne).2
  rw [seen_lengthOne valid (serving_reopened tidy' fd).alive fresh, done] at shown
  have nothing : delivered x.2.notes = [] := congrArg Seen.delivered shown
  have among : msg ∈ delivered x.2.notes := List.mem_filterMap.mpr ⟨_, told, rfl⟩
  rw [nothing] at among
  contradiction

/-- After the first byte of a length field, the old reserved bytes are read as the rest of it. -/
theorem SameBehaviour.reserved (here : BetweenFrames fd c.transport.init)
    (zeroes : d.transport.inBuffer.reserve.drop 1 = [0, 0, 0]) :
    c.transport.inBuffer.reserve.drop 1 = [0, 0, 0] := by
  by_contra left
  have shown := same.first_read tidy tidy' (arriving [0]).2
  have received : CFrameTransport.readSockBufferLen fd (arriving [0]).2.recv 4 = some [0] :=
    readSockBufferLen_arriving valid (by decide)
  have want : d.transport.init.headerWant [0] ≤ 0 := (headerWant_zero _).mpr zeroes
  have want' : ¬ c.transport.init.headerWant [0] ≤ 0 := fun h => left ((headerWant_zero _).mp h)
  rw [CFrameTransport.readSocket_header_eq ctxSlots here.own here.state here.empty here.unprepended,
    CFrameTransport.readSocket_header_eq ctxSlots fresh.own fresh.state fresh.empty
      fresh.unprepended] at shown
  simp only [received, if_pos want, if_neg want'] at shown
  have closed := congrArg Seen.closed shown
  rw [seen_closeSocket valid (serving_reopened tidy' fd).sfd] at closed
  simp [seen, after, scene] at closed

/-- Unsent bytes would go out in front of the first echo. -/
theorem SameBehaviour.unsent (here : BetweenFrames fd c.transport.init)
    (nothing : d.transport.outputBuffer.readable = []) :
    c.transport.outputBuffer.readable = [] := by
  have serving := serving_reopened tidy fd
  have serving' := serving_reopened tidy' fd
  have between := reopened_transport tidy fd ▸ here
  have between' := reopened_transport tidy' fd ▸ fresh
  have ample : (c.reopened fd).transport.outputBuffer.readableBytes <
      c.transport.outputBuffer.readableBytes + 1 := by
    rw [reopened_transport tidy]
    exact Nat.lt_succ_self _
  have ample' : (d.reopened fd).transport.outputBuffer.readableBytes <
      c.transport.outputBuffer.readableBytes + 1 := by
    rw [reopened_transport tidy']
    exact (Buffer.readable_eq_nil _).mp nothing ▸ Nat.succ_pos _
  have shown := serving.written_third valid between ample
  have shown' := serving'.written_third valid between' ample'
  have traces := (same (arriving []).2 (echoing (c.transport.outputBuffer.readableBytes + 1))).2
  change trace _ _ (c.reopened fd) _ = trace _ _ (d.reopened fd) _ at traces
  rw [traces, shown', reopened_transport tidy, reopened_transport tidy'] at shown
  have front : d.transport.outputBuffer.readable = c.transport.outputBuffer.readable :=
    List.append_cancel_right (Option.some.inj shown)
  rw [← front, nothing]

end NotClean

/-- A recycled context behaves like a new one on every new connection exactly where the old
connection left it clean. -/
theorem recycled_like_new_iff (rdAppState rdAppState' : AppState) (history : List Call) {c : Context}
    (ran : exec step (new rdAppState) history = some c) (idle : c.client.isInUse = false)
    {fd : Socket} (valid : fd ≠ invalidSocket) :
    SameBehaviour fd c (new rdAppState') ↔ Clean fd c.transport := by
  obtain ⟨⟨socket, tidy⟩, unprepended⟩ := history_tidy rdAppState ran
  have tidy' : Tidy invalidSocket (new rdAppState').client := tidy_new _
  have clean' : Clean fd (new rdAppState').transport := clean_new fd rdAppState'
  have unprepended' : (new rdAppState').transport.inBuffer.Unprepended :=
    Buffer.unprepended_ofSize _
  constructor
  · intro same
    have fresh : BetweenFrames fd (new rdAppState').transport.init :=
      ⟨rfl, (Buffer.readable_eq_nil _).mp clean'.read, clean'.socket, unprepended'⟩
    have own := same.socketOk tidy tidy' valid fresh
    have read := same.read tidy tidy' valid fresh unprepended own
    have here : BetweenFrames fd c.transport.init :=
      ⟨rfl, (Buffer.readable_eq_nil _).mp read, own, unprepended⟩
    exact ⟨read, same.reserved tidy tidy' valid fresh here clean'.reserved,
      same.unsent tidy tidy' valid fresh here clean'.unsent, own⟩
  · intro clean a events
    obtain ⟨twins, shown⟩ := clean.twins clean' tidy tidy' idle rfl unprepended unprepended' a
    exact ⟨shown, (lockstep_twinContexts fd).trace_eq twins⟩


/-- A connection on socket 5 that the peer closes after sending `arrivals`. -/
def servedOnce (arrivals : List (List UInt8)) : List Call :=
  .init 5 (arriving []).2 :: (arrivals ++ [[]]).map fun data => .event .read (arriving data).2

/-- The context it leaves on the free list. -/
def returnedOnce (arrivals : List (List UInt8)) : Context :=
  (exec step (new .closeConnection) (servedOnce arrivals)).getD (new .closeConnection)

theorem returnedOnce_ran {arrivals : List (List UInt8)}
    (ends : (exec step (new .closeConnection) (servedOnce arrivals)).isSome = true) :
    exec step (new .closeConnection) (servedOnce arrivals) = some (returnedOnce arrivals) := by
  obtain ⟨c, ran⟩ := Option.isSome_iff_exists.mp ends
  rw [returnedOnce, ran, Option.getD_some]

theorem recycled_like_new_same_socket : SameBehaviour 5 (returnedOnce []) (new .init) :=
  have ends : (exec step (new .closeConnection) (servedOnce [])).isSome = true := by decide +kernel
  have idle : (returnedOnce []).client.isInUse = false := by decide +kernel
  have clean : Clean 5 (returnedOnce []).transport := by decide +kernel
  (recycled_like_new_iff .closeConnection .init (servedOnce []) (returnedOnce_ran ends) idle
    (by decide)).mpr clean

/-- Its next connection is on socket 6: it is closed when the first bytes arrive. -/
theorem not_recycled_like_new_other_socket :
    ¬ ∀ (rdAppState rdAppState' : AppState) (history : List Call) (c : Context),
      exec step (new rdAppState) history = some c → c.client.isInUse = false →
        ∀ fd, fd ≠ invalidSocket → SameBehaviour fd c (new rdAppState') := by
  intro alike
  have ends : (exec step (new .closeConnection) (servedOnce [lengthOne])).isSome = true := by
    decide +kernel
  have idle : (returnedOnce [lengthOne]).client.isInUse = false := by decide +kernel
  have same := alike .closeConnection .init (servedOnce [lengthOne]) _ (returnedOnce_ran ends)
    idle 6 (by decide) (arriving []).2 [arriving lengthOne]
  exact absurd same.2 (by decide +kernel)

end Context

end NewFramework.Tstlesrv
