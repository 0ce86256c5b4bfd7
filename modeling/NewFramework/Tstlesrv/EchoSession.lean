import NewFramework.Tstlesrv.ClientCtx
import NewFramework.Tstlesrv.FrameReader
import NewFramework.Tstlesrv.FrameWriter
import NewFramework.Tstlesrv.TwoOwners

/-!
# A session of the echo server

One connection from its `init` on, through every layer (`tstlesrv/clientctx.cpp`,
`tstlesrv/frametransport.cpp`): libevent fires the read and write events of a `ClientCtx`, its
transport cuts the peer's stream into messages, the process writes each message back, and what the
socket does not take at once waits for write events.  `msgs` are the messages handed to the process,
`sent` is what the kernel took.

The read side goes in step with a `Reader` (`TwoOwners`), so the messages are the bodies the peer
completed.  The peer gets them back in order exactly as long as no echo is given up and what is
taken of it at once could as well stand behind what waits.
-/

namespace NewFramework.Tstlesrv
open NewFramework.Lib NewFramework.Net

/-- The message a note hands to the process. -/
def Note.message : Note → Option (List UInt8)
  | .deliver msg => some msg
  | _ => none

/-- What the kernel took in the `write` of a note. -/
def Note.bytesOut : Note → List UInt8
  | .wrote _ k offered => offered.take (k.accepted offered.length)
  | _ => []

def messages (notes : List Note) : List (List UInt8) := notes.filterMap Note.message

def bytesOut (notes : List Note) : List UInt8 := notes.flatMap Note.bytesOut

@[simp] theorem messages_append (xs ys : List Note) :
    messages (xs ++ ys) = messages xs ++ messages ys :=
  List.filterMap_append

@[simp] theorem bytesOut_append (xs ys : List Note) :
    bytesOut (xs ++ ys) = bytesOut xs ++ bytesOut ys :=
  List.flatMap_append

/-- Neither a message nor a `write`. -/
def Note.Mute (n : Note) : Prop := n.message = none ∧ n.bytesOut = []

theorem messages_mute {notes : List Note} (mute : ∀ n ∈ notes, n.Mute) : messages notes = [] :=
  List.filterMap_eq_nil_iff.mpr fun n among => (mute n among).1

theorem bytesOut_mute {notes : List Note} (mute : ∀ n ∈ notes, n.Mute) : bytesOut notes = [] :=
  List.flatMap_eq_nil_iff.mpr fun n among => (mute n among).2

/-! ## What the slots of a context add to the notes -/

namespace Scene

/-- From `s` to `s'` nothing was handed to the process and nothing was written. -/
structure Muted (s s' : Scene) : Prop where
  answers : s'.answers = s.answers
  msgs : messages s'.notes = messages s.notes
  out : bytesOut s'.notes = bytesOut s.notes

theorem Muted.of_notes {s s' : Scene} {new : List Note} (answers : s'.answers = s.answers)
    (notes : s'.notes = s.notes ++ new) (mute : ∀ n ∈ new, n.Mute) : Muted s s' where
  answers := answers
  msgs := by rw [notes, messages_append, messages_mute mute, List.append_nil]
  out := by rw [notes, bytesOut_append, bytesOut_mute mute, List.append_nil]

theorem Muted.trans {s₁ s₂ s₃ : Scene} (first : Muted s₁ s₂) (second : Muted s₂ s₃) :
    Muted s₁ s₃ where
  answers := second.answers.trans first.answers
  msgs := second.msgs.trans first.msgs
  out := second.out.trans first.out

theorem muted_note (s : Scene) {n : Note} (mute : n.Mute) : Muted s (s.note n) := by
  have same : (s.note n).answers = s.answers := rfl
  apply Muted.of_notes same (s.note_notes n)
  intro m among
  rw [List.mem_singleton.mp among]
  exact mute

theorem muted_closeNotes (c : ConnCtx) : ∀ n ∈ c.closeNotes, n.Mute := by
  intro n among
  rcases mem_closeNotes among with ⟨opr, rfl⟩ | rfl | rfl <;> exact ⟨rfl, rfl⟩

theorem muted_onClosesocket (s : Scene) : Muted s s.onClosesocket := by
  rw [onClosesocket_eq]
  exact .of_notes rfl rfl (muted_closeNotes _)

theorem muted_closeSocket (s : Scene) : Muted s (ctxSlots.closeSocket s) :=
  (s.muted_note ⟨rfl, rfl⟩).trans (muted_onClosesocket _)

theorem FlagsSet.answers {flags : Nat} {opr : Opr} {a : EventAnswers} {s : Scene}
    {r : Bool × Scene} (done : FlagsSet flags opr a s r) : r.2.answers = s.answers := by
  have reassigned : (s.reassigned flags opr).answers = s.answers := by
    unfold Scene.reassigned
    split <;> rfl
  cases done with
  | same => rfl
  | delFailed => rfl
  | addFailed => exact reassigned
  | added => exact reassigned

theorem FlagsSet.muted {flags : Nat} {opr : Opr} {a : EventAnswers} {s : Scene}
    {r : Bool × Scene} (done : FlagsSet flags opr a s r) : Muted s r.2 := by
  obtain ⟨new, notes, which, -⟩ := done.notes
  apply Muted.of_notes done.answers notes
  intro n among
  rcases which n among with rfl | rfl | rfl <;> exact ⟨rfl, rfl⟩

theorem muted_setWriteState (s : Scene) : Muted s (ctxSlots.setWriteState s) := by
  have told : Muted s (s.note (.signal .setWriteState)) := s.muted_note ⟨rfl, rfl⟩
  have flagged := told.trans (setWriteCtxnew_flagsSet _).muted
  simp only [ctxSlots, writeSlots, onSetwritestate]
  split
  · exact flagged
  · exact (flagged.trans (muted_note _ ⟨rfl, rfl⟩)).trans (muted_onClosesocket _)

end Scene

/-! ## The context goes in step with a reader -/

/-- The context echoed the messages `ms` and nothing else, with the answer `k` to each `write`;
`before` waited when it started. -/
structure Echoing (k : KernelWrite) (before : List UInt8) (ms : List (List UInt8)) (o : Buffer)
    (s : Scene) : Prop where
  answer : s.answers.write = k
  msgs : messages s.notes = ms
  out : bytesOut s.notes = ms.flatMap fun m => m.take (k.accepted m.length)
  waits : o.readable = before ++ ms.flatMap (CFrameTransport.deferred k)

theorem Echoing.muted {k : KernelWrite} {before : List UInt8} {ms : List (List UInt8)} {o : Buffer}
    {s s' : Scene} (echoing : Echoing k before ms o s) (muted : Scene.Muted s s') :
    Echoing k before ms o s' where
  answer := by rw [muted.answers, echoing.answer]
  msgs := muted.msgs.trans echoing.msgs
  out := muted.out.trans echoing.out
  waits := echoing.waits

/-- The process echoes one more message. -/
theorem Echoing.echoIt {k : KernelWrite} {before : List UInt8} {ms : List (List UInt8)}
    {t : CFrameTransport} {s : Scene} (echoing : Echoing k before ms t.outputBuffer s)
    (msg : List UInt8) :
    (∃ b, (echoIt msg t s).1 = { t with outputBuffer := b }) ∧
      Echoing k before (ms ++ [msg]) (echoIt msg t s).1.outputBuffer (echoIt msg t s).2 := by
  unfold Tstlesrv.echoIt
  refine ⟨CFrameTransport.writeBuffer_transport _ _ _ _ _, ?_⟩
  have wrote : Echoing k before (ms ++ [msg])
      (t.writeBuffer writeSlots s.answers.write msg (s.note (.deliver msg))).2.1.outputBuffer
      ((s.note (.deliver msg)).note (.wrote t.socket s.answers.write msg)) := by
    refine ⟨echoing.answer, ?_, ?_, ?_⟩
    · simp only [Scene.note_notes, messages_append, echoing.msgs, List.append_assoc]
      rfl
    · simp only [Scene.note_notes, bytesOut_append, echoing.out, echoing.answer,
        List.flatMap_append, List.append_assoc]
      rfl
    · rw [CFrameTransport.writeBuffer_readable, echoing.waits, echoing.answer]
      simp
  rw [CFrameTransport.writeBuffer_owner]
  split
  · exact wrote.muted (Scene.muted_setWriteState _)
  · exact wrote

/-- The messages of an inbox after `base` are the ones the context echoed, but for empty ones. -/
def InStep (k : KernelWrite) (before : List UInt8) (base : List (List UInt8)) (w : Inbox)
    (o : Buffer) (s : Scene) : Prop :=
  ∃ ms, w.msgs = base ++ ms ∧ Echoing k before (ms.filter (· ≠ [])) o s

theorem mirrors_inStep (k : KernelWrite) (before : List UInt8) (base : List (List UInt8)) :
    Mirrors inboxSlots ctxSlots (InStep k before base) where
  closeSocket := by
    rintro w o s ⟨ms, msgs, echoing⟩
    exact ⟨ms, msgs, echoing.muted (Scene.muted_closeSocket s)⟩
  setWriteState := by
    rintro w o s ⟨ms, msgs, echoing⟩
    exact ⟨ms, msgs, echoing.muted (Scene.muted_setWriteState s)⟩
  readSocketDone := by
    rintro t w o s ⟨ms, msgs, echoing⟩
    have told : Echoing k before (ms.filter (· ≠ [])) o
        (s.note (.signal .readSocketDone)).setReadCtxnew.2 :=
      (echoing.muted (s.muted_note ⟨rfl, rfl⟩)).muted (Scene.setReadCtxnew_flagsSet _).muted
    have taken : CFrameTransport.getMsg { t with outputBuffer := o } =
        t.getMsg.map fun p => (p.1, { p.2 with outputBuffer := o }) := by
      simp only [CFrameTransport.getMsg, Option.map_map, Function.comp_def]
    simp only [inboxSlots_readSocketDone, ctxSlots, onReadsocketdone, taken, Option.map_map]
    cases t.getMsg with
    | none => exact .none
    | some got =>
      obtain ⟨msg, t₁⟩ := got
      apply Option.Rel.some
      dsimp only [Function.comp]
      by_cases nothing : msg = []
      · rw [if_pos nothing]
        refine ⟨rfl, ms ++ [msg], ?_, ?_⟩
        · simp only [msgs, List.append_assoc]
        · simpa [nothing] using told
      · rw [if_neg nothing]
        obtain ⟨⟨b, same⟩, echoed⟩ :=
          Echoing.echoIt (t := { t₁ with outputBuffer := o }) told msg
        refine ⟨?_, ms ++ [msg], ?_, ?_⟩
        · dsimp only
          rw [same]
        · simp only [msgs, List.append_assoc]
        · simpa [List.filter_append, nothing] using echoed

/-! ## The events of one connection -/

namespace Context

/-- The events that are set up belong to the descriptor `fd`. -/
def Mine (fd : Socket) (c : ConnCtx) : Prop :=
  ∀ opr e, (c.event opr).assigned = some e → e.fd = fd

theorem Mine.setEvent {fd : Socket} {c : ConnCtx} (mine : Mine fd c) {opr : Opr} {e : Event}
    (own : ∀ a, e.assigned = some a → a.fd = fd) : Mine fd (c.setEvent e opr) := by
  intro opr' a held
  by_cases same : opr' = opr
  · subst same
    rw [ConnCtx.event_setEvent] at held
    exact own a held
  · rw [c.event_setEvent_ne e same] at held
    exact mine opr' a held

theorem Mine.del {fd : Socket} {c : ConnCtx} (mine : Mine fd c) (opr : Opr) :
    Mine fd (c.setEvent (c.event opr).del opr) := by
  apply mine.setEvent
  intro a held
  rw [del_assigned] at held
  exact mine opr a held

theorem Mine.closed {fd : Socket} {c : ConnCtx} (mine : Mine fd c) : Mine fd c.closed :=
  (mine.del .read).del .write

theorem Mine.reassigned {fd : Socket} {s : Scene} (mine : Mine fd s.client.ctx)
    (own : s.client.ctx.sfd = fd) (flags : Nat) (opr : Opr) :
    Mine fd (s.reassigned flags opr).client.ctx := by
  have pending : Mine fd (if s.client.ctx.flags ≠ 0 then s.eventDel opr else s).client.ctx ∧
      (if s.client.ctx.flags ≠ 0 then s.eventDel opr else s).client.ctx.sfd = fd := by
    split
    · exact ⟨mine.del opr, by simp [Scene.eventDel, Scene.mapCtx, own]⟩
    · exact ⟨mine, own⟩
  apply Mine.setEvent (c := { (if s.client.ctx.flags ≠ 0 then s.eventDel opr else s).client.ctx with
    flags := flags }) pending.1
  intro a held
  injection held with held
  rw [← held]
  exact pending.2

theorem Mine.flagsSet {fd : Socket} {flags : Nat} {opr : Opr} {a : EventAnswers} {s : Scene}
    {r : Bool × Scene} (mine : Mine fd s.client.ctx) (own : s.client.ctx.sfd = fd)
    (done : Scene.FlagsSet flags opr a s r) :
    Mine fd r.2.client.ctx ∧ r.2.client.ctx.sfd = fd := by
  cases done with
  | same => exact ⟨mine, own⟩
  | delFailed => exact ⟨mine.del opr, by simp [Scene.eventDel, Scene.mapCtx, own]⟩
  | addFailed => exact ⟨mine.reassigned own flags opr, (s.reassigned_sfd flags opr).trans own⟩
  | added =>
    rw [s.eventAdd_reassigned flags opr]
    refine ⟨(mine.reassigned own flags opr).setEvent ?_, ?_⟩
    · intro a held
      injection held with held
      rw [← held]
      exact own
    · simpa [Scene.mapCtx] using own

theorem served_mine (fd : Socket) :
    Served (fun s => Mine fd s.client.ctx ∧ s.client.ctx.sfd = fd)
      (fun s => Mine fd s.client.ctx) where
  note _ h := h
  setRead h := h.1.flagsSet h.2 (Scene.setReadCtxnew_flagsSet _)
  setWrite := by
    rintro s ⟨mine, own⟩
    have flagged := Mine.flagsSet (s := s.note (.signal .setWriteState)) mine own
      (Scene.setWriteCtxnew_flagsSet _)
    simp only [ctxSlots, writeSlots, Scene.onSetwritestate]
    split
    · exact flagged.1
    · rw [Scene.onClosesocket_eq]
      exact flagged.1.closed
  close {s} h := by
    rw [closeSocket_ctxSlots]
    exact h.1.closed
  done h := h.1

end Context

/-! ## The session -/

structure Session where
  context : Context
  /-- what the peer sent and the kernel has not handed over -/
  pending : List UInt8
  received : Nat
  msgs : List (List UInt8)
  sent : List UInt8

/-- A read event in which the kernel returns `n` bytes, or a write event. -/
inductive SessionOp where
  | read (n : Nat) (a : Answers)
  | write (a : Answers)

namespace Session

/-- An accepted socket `cfd` on which the peer sends the frames of `bodies`. -/
def start (rdAppState : AppState) (cfd : Socket) (a : Answers) (bodies : List (List UInt8)) :
    Session where
  context := (Context.new rdAppState).initOn cfd a
  pending := stream 4 bodies
  received := 0
  msgs := []
  sent := []

/-- What a call leaves in its notes is added up. -/
def noted (s : Session) (c : Context) : Session :=
  { s with context := c, msgs := s.msgs ++ messages c.notes, sent := s.sent ++ bytesOut c.notes }

/-- The answers to a read event that finds `n` bytes of the stream. -/
def arriving (s : Session) (n : Nat) (a : Answers) : Answers :=
  { a with recv := fun _ => .ok (s.pending.take n) }

def step (s : Session) : SessionOp → Option Session
  | .read n a =>
    if 1 ≤ n ∧ n ≤ s.pending.length ∧ n ≤ s.context.transport.readRequest then
      (s.context.step (.event .read (s.arriving n a))).map fun c =>
        { s.noted c with pending := s.pending.drop n, received := s.received + n }
    else none
  | .write a => (s.context.step (.event .write a)).map s.noted

/-- The bytes that wait in `m_outputBuffer_`. -/
abbrev waiting (s : Session) : List UInt8 := s.context.transport.outputBuffer.readable

abbrev inUse (s : Session) : Bool := s.context.client.isInUse

/-- The read side of the session, with an owner that only collects messages. -/
def reader (s : Session) : Reader where
  transport := s.context.transport
  inbox := ⟨s.msgs, false⟩
  pending := s.pending
  received := s.received
  aborted := false

/-- The process got the bodies completed so far; what the kernel took of their echo and what
waits is all of it, in order. -/
structure Echoed (bodies : List (List UInt8)) (s : Session) : Prop where
  delivered : s.msgs = completed 4 bodies s.received
  kept : s.sent ++ s.waiting = s.msgs.flatten

instance (bodies : List (List UInt8)) : DecidablePred (Echoed bodies) := fun s =>
  decidable_of_iff (s.msgs = completed 4 bodies s.received ∧ s.sent ++ s.waiting = s.msgs.flatten)
    ⟨fun h => ⟨h.1, h.2⟩, fun h => ⟨h.delivered, h.kept⟩⟩

/-- A read ends outside the length fields, all of which fit so far; a `write` takes no more than
an `int` can count. -/
def Admissible (bodies : List (List UInt8)) (s : Session) : SessionOp → Prop
  | .read n _ => Reader.HeaderWhole bodies s.reader n
  | .write a => a.write.accepted s.waiting.length < 2 ^ 31

instance (bodies : List (List UInt8)) (s : Session) (op : SessionOp) :
    Decidable (s.Admissible bodies op) := by
  cases op <;> unfold Admissible <;> infer_instance

end Session

/-- The message that `n` more bytes complete. -/
def Reader.completes (s : Reader) (n : Nat) : Option (List UInt8) :=
  if s.transport.rdSockState = .recv ∧
      s.transport.readWant.toNat ≤ s.transport.inBuffer.readableBytes + n then
    some (s.transport.inBuffer.readable ++ s.pending.take n)
  else none

/-- The echo of the message that a read completes is not given up, and what the socket takes of
it at once commutes with what waits, as it does where nothing waits and where nothing is taken. -/
def Session.EchoFair (s : Session) : SessionOp → Prop
  | .read n a => ∀ msg ∈ s.reader.completes n,
      CFrameTransport.faultError a.write msg.length = false ∧
        msg.take (a.write.accepted msg.length) ++ s.waiting =
          s.waiting ++ msg.take (a.write.accepted msg.length)
  | .write _ => True

instance (s : Session) (op : SessionOp) : Decidable (s.EchoFair op) := by
  cases op <;> unfold Session.EchoFair <;> infer_instance

/-! ## One event of the session -/

namespace Reader

/-- A step that did not end the process. -/
theorem step_some {cfd : Socket} {s s' : Reader} {k : Nat} (moved : step cfd s k = some s')
    (running : s'.aborted = false) :
    ∃ t w, s.transport.readSocket inboxSlots (fun _ => .ok (s.pending.take k)) cfd s.inbox =
        some (t, w) ∧
      s' = { s with
        transport := t, inbox := w, pending := s.pending.drop k, received := s.received + k } := by
  unfold step at moved
  obtain ⟨-, moved⟩ := Option.ite_none_right_eq_some.mp moved
  split at moved
  · next t w read => exact ⟨t, w, read, (Option.some.inj moved).symm⟩
  · have ended := congrArg Reader.aborted (Option.some.inj moved)
    rw [running] at ended
    contradiction

/-- The output buffer is no business of the reader. -/
theorem Framed.setOutput {cfd : Socket} {bodies : List (List UInt8)} {s : Reader}
    (framed : Framed cfd bodies s) (o : Buffer) :
    Framed cfd bodies { s with transport := { s.transport with outputBuffer := o } } := by
  cases framed with
  | header done rest split here =>
    exact .header done rest split ⟨here.received, here.pending, here.msgs, here.live, here.running,
      here.state, here.empty, here.own, here.unprepended⟩
  | body done body rest j split here =>
    exact .body done body rest j split ⟨here.short, here.fits, here.received, here.pending,
      here.msgs, here.live, here.running, here.state, here.app, here.want, here.content,
      here.reserved, here.socket, here.unprepended⟩

/-- A read event adds the message it completes, if any. -/
theorem Framed.next {cfd : Socket} {bodies : List (List UInt8)} {s s' : Reader} {k : Nat}
    (framed : Framed cfd bodies s) (valid : cfd ≠ invalidSocket) (nonempty : ∀ b ∈ bodies, b ≠ [])
    (whole : HeaderWhole bodies s k) (moved : Reader.step cfd s k = some s') :
    s'.inbox.msgs = s.inbox.msgs ++ (s.completes k).toList ∧
      ∀ m ∈ s.completes k, m ≠ [] ∧ m.length < 2 ^ 31 := by
  cases framed with
  | header done rest split here =>
    have nothing : s.completes k = none := by simp [completes, here.state]
    rw [nothing]
    cases rest with
    | nil =>
      obtain ⟨some_bytes, limit, _⟩ := step_eq moved
      rw [here.pending] at limit
      simp only [stream, List.length_nil] at limit
      omega
    | cons body rest =>
      have inside := here.step valid (nonempty body (by simp [split])) (split ▸ whole) moved
      rw [inside.msgs, here.msgs]
      simp
  | body done body rest j split here =>
    have short := here.short
    have held : s.transport.inBuffer.readableBytes = j := by
      rw [← Buffer.readable_length, here.content, List.length_take]
      omega
    rcases here.step valid moved with inside | between
    · have nothing : s.completes k = none := by
        apply if_neg
        rintro ⟨-, complete⟩
        rw [here.want, held, Int.toNat_natCast] at complete
        have := inside.short
        omega
      rw [nothing, inside.msgs, here.msgs]
      simp
    · have last : j + k = body.length := by
        obtain ⟨t, w, -, rfl⟩ := step_some moved between.running
        have received := between.received
        simp only [here.received, stream_append, List.length_append, stream, frame_length,
          List.append_nil] at received
        omega
      have whole_body : s.completes k = some body := by
        have left : (body.drop j).length = k := by rw [List.length_drop]; omega
        have complete : s.transport.readWant.toNat ≤ s.transport.inBuffer.readableBytes + k := by
          rw [here.want, held, Int.toNat_natCast]
          omega
        have rest_taken : s.pending.take k = body.drop j := by
          rw [here.pending, List.take_append_of_le_length (Nat.le_of_eq left.symm),
            List.take_of_length_le (Nat.le_of_eq left)]
        unfold completes
        rw [if_pos ⟨here.state, complete⟩, here.content, rest_taken, List.take_append_drop]
      rw [whole_body, between.msgs, here.msgs]
      refine ⟨rfl, ?_⟩
      intro m completed
      rw [← Option.some.inj completed]
      exact ⟨nonempty body (by simp [split]), here.fits⟩

end Reader

namespace Session
open Context CFrameTransport

/-- What holds between two events of an admitted run. -/
structure Serving (cfd : Socket) (bodies : List (List UInt8)) (s : Session) : Prop where
  alive : s.context.alive = true
  tidy : Tidy cfd s.context.client
  mine : Mine cfd s.context.client.ctx
  framed : Reader.Framed cfd bodies s.reader

variable {cfd : Socket} {bodies : List (List UInt8)} {s s' : Session} {a : Answers}

theorem serving_start (rdAppState : AppState) (good : a.setRead.add = true) :
    Serving cfd bodies (start rdAppState cfd a bodies) := by
  have kind : (Context.new rdAppState).client.typeProcess = .testProcess := rfl
  have fresh : Mine cfd (((Context.new rdAppState).scene a).opened cfd).client.ctx := by
    intro opr e held
    cases opr <;> simp [Scene.opened, scene, Context.new, ClientCtx.new, ConnCtx.event, Event.uninit]
      at held
  have flagged := (((Context.new rdAppState).scene a).opened cfd).setReadCtxnew_flagsSet
  refine
    { alive := ?_, tidy := (tidy_new cfd).initOn cfd a, mine := ?_
      framed := Reader.framed_start cfd rdAppState bodies }
  · unfold start
    rw [initOn_eq kind]
    generalize (((Context.new rdAppState).scene a).opened cfd).setReadCtxnew = r at flagged
    cases flagged with
    | same => rfl
    | delFailed other pending => exact absurd rfl pending
    | addFailed other deleted failed =>
      have added : a.setRead.add = false := failed
      rw [good] at added
      contradiction
    | added => rfl
  · unfold start
    rw [initOn_eq kind]
    exact (fresh.flagsSet rfl flagged).1

/-- An event fires for the descriptor that is served. -/
theorem Serving.fired (serving : Serving cfd bodies s) {opr : Opr} {c : Context}
    (moved : s.context.step (.event opr a) = some c) :
    ∃ e : Assigned, e.handler = opr ∧ e.fd = cfd ∧ s.context.client.isInUse = true ∧
      s.context.client.ctx.sfd = cfd ∧ c = s.context.handle e a := by
  obtain ⟨e, assigned, -, added, done⟩ := step_event moved
  have used := serving.tidy.inUse added
  exact ⟨e, serving.tidy.wired _ _ assigned, serving.mine _ _ assigned, used,
    serving.tidy.own used, done⟩

/-- A read event hands over the message it completes and echoes it. -/
theorem Serving.read {n : Nat} (serving : Serving cfd bodies s) (valid : cfd ≠ invalidSocket)
    (nonempty : ∀ b ∈ bodies, b ≠ []) (whole : Reader.HeaderWhole bodies s.reader n)
    (moved : s.step (.read n a) = some s') :
    Serving cfd bodies s' ∧
      s'.msgs = s.msgs ++ (s.reader.completes n).toList ∧
      s'.sent = s.sent ++
        (s.reader.completes n).toList.flatMap (fun m => m.take (a.write.accepted m.length)) ∧
      s'.waiting = s.waiting ++ (s.reader.completes n).toList.flatMap (deferred a.write) ∧
      ∀ m ∈ s.reader.completes n, m ≠ [] ∧ m.length < 2 ^ 31 := by
  unfold step at moved
  obtain ⟨enabled, moved⟩ := Option.ite_none_right_eq_some.mp moved
  obtain ⟨c, fired, done⟩ := Option.map_eq_some_iff.mp moved
  obtain ⟨e, reader, fd, used, own, handled⟩ := serving.fired fired
  -- the reader takes the same step
  obtain ⟨r, reads⟩ : ∃ r, Reader.step cfd s.reader n = some r := by
    unfold Reader.step
    rw [if_pos ⟨rfl, rfl, enabled⟩]
    split
    · exact ⟨_, rfl⟩
    · exact ⟨_, rfl⟩
  have framed := serving.framed.step valid nonempty whole reads
  obtain ⟨msgs, sizes⟩ := serving.framed.next valid nonempty whole reads
  obtain ⟨t, w, collected, rfl⟩ := Reader.step_some reads framed.delivered.2.2
  -- and so does the context, up to its output buffer
  have quiet : InStep a.write s.waiting s.msgs ⟨s.msgs, false⟩ s.context.transport.outputBuffer
      (s.context.scene (s.arriving n a)) :=
    ⟨[], by simp, rfl, rfl, rfl, by simp⟩
  have mirror := (mirrors_inStep a.write s.waiting s.msgs).readSocket
    (t := s.context.transport) quiet (fun _ => .ok (s.pending.take n)) cfd
  have collected : s.context.transport.readSocket inboxSlots (fun _ => .ok (s.pending.take n)) cfd
      ⟨s.msgs, false⟩ = some (t, w) := collected
  rw [collected] at mirror
  generalize result : CFrameTransport.readSocket ctxSlots (fun _ => .ok (s.pending.take n)) cfd
    { s.context.transport with outputBuffer := s.context.transport.outputBuffer }
    (s.context.scene (s.arriving n a)) = r at mirror
  cases mirror with
  | @some _ q here =>
    obtain ⟨t', v⟩ := q
    obtain ⟨same, ms, told, echoing⟩ := here
    dsimp only at same told echoing
    have handler : readHandler e.fd s.context.transport (s.context.scene (s.arriving n a)) =
        some (t', v) := by
      rw [fd, readHandler_own own.symm]
      exact result
    have ended : c = { s.context with client := v.client, transport := t', notes := v.notes } := by
      rw [handled, handle_read reader, handler]
      rfl
    have all : ms = (s.reader.completes n).toList :=
      List.append_cancel_left (told.symm.trans msgs)
    have kept : ms.filter (· ≠ []) = ms := by
      rw [List.filter_eq_self, all]
      intro m among
      simpa using (sizes m (Option.mem_toList.mp among)).1
    rw [kept, all] at echoing
    have open_ : w.closed = false := framed.delivered.2.1
    subst ended
    subst done
    refine ⟨?_, ?_, ?_, ?_, sizes⟩
    · refine
        { alive := serving.alive
          tidy := (served_tidy cfd).readHandler ⟨serving.tidy, used⟩ handler
          mine := (served_mine cfd).readHandler ⟨serving.mine, own⟩ handler
          framed := ?_ }
      have read_side := framed.setOutput t'.outputBuffer
      obtain ⟨delivered, closed⟩ := w
      dsimp only at told open_ read_side
      rw [← same] at read_side
      rw [told, open_, all] at read_side
      unfold Session.reader noted
      dsimp only
      rw [echoing.msgs]
      exact read_side
    · simp only [noted, echoing.msgs]
    · simp only [noted, echoing.out]
    · exact echoing.waits

/-- A write event moves bytes from the output buffer to the socket. -/
theorem writeSocket_moves (cfd : Socket) {k : KernelWrite} {t : CFrameTransport} (v : Scene)
    (counted : k.accepted t.outputBuffer.readable.length < 2 ^ 31) :
    messages (t.writeSocket ctxSlots k cfd v).2.notes = messages v.notes ∧
      ∃ taken rest, t.outputBuffer.readable = taken ++ rest ∧
        bytesOut (t.writeSocket ctxSlots k cfd v).2.notes = bytesOut v.notes ++ taken ∧
        (t.writeSocket ctxSlots k cfd v).1.outputBuffer.readable = rest := by
  unfold writeSocket
  by_cases alien : t.socket ≠ cfd
  · rw [if_pos alien]
    have muted := Scene.muted_closeSocket v
    exact ⟨muted.msgs, [], t.outputBuffer.readable, rfl, by rw [muted.out, List.append_nil], rfl⟩
  rw [if_neg alien]
  have written : messages (ctxSlots.wrote t.socket k t.outputBuffer.readable v).notes =
        messages v.notes ∧
      bytesOut (ctxSlots.wrote t.socket k t.outputBuffer.readable v).notes = bytesOut v.notes ++
        t.outputBuffer.readable.take (k.accepted t.outputBuffer.readable.length) := by
    constructor
    · simp only [ctxSlots, writeSlots, Scene.note_notes, messages_append]
      exact List.append_nil _
    · simp only [ctxSlots, writeSlots, Scene.note_notes, bytesOut_append]
      exact congrArg _ (List.append_nil _)
  unfold wrTransition
  dsimp only
  by_cases positive : 0 < asInt32 (k.ret t.outputBuffer.readableBytes)
  · rw [if_pos positive, KernelWrite.toNat_ret]
    have cleared := (ctxSlots.wrote t.socket k t.outputBuffer.readable v).muted_note
      (n := .signal .clearWriteEvent) ⟨rfl, rfl⟩
    rw [Buffer.readable_length] at written
    split
    · exact ⟨cleared.msgs.trans written.1, _, _, (List.take_append_drop _ _).symm,
        cleared.out.trans written.2, Buffer.readable_retrieve _ _⟩
    · exact ⟨written.1, _, _, (List.take_append_drop _ _).symm, written.2,
        Buffer.readable_retrieve _ _⟩
  · rw [if_neg positive]
    have nothing : k.accepted t.outputBuffer.readable.length = 0 := by
      rw [← Buffer.readable_length] at positive
      unfold KernelWrite.ret at positive
      unfold KernelWrite.accepted at counted ⊢
      cases answer : k.room with
      | none => rfl
      | some room =>
        simp only [answer] at positive counted ⊢
        rw [asInt32, toInt_of_lt (by omega)] at positive
        omega
    have muted := Scene.muted_closeSocket (ctxSlots.wrote t.socket k t.outputBuffer.readable v)
    rw [nothing, List.take_zero, List.append_nil] at written
    exact ⟨muted.msgs.trans written.1, [], _, rfl,
      by rw [muted.out, written.2, List.append_nil], rfl⟩

theorem Serving.write (serving : Serving cfd bodies s)
    (counted : a.write.accepted s.waiting.length < 2 ^ 31) (moved : s.step (.write a) = some s') :
    Serving cfd bodies s' ∧ s'.msgs = s.msgs ∧
      ∃ taken rest, s.waiting = taken ++ rest ∧ s'.sent = s.sent ++ taken ∧ s'.waiting = rest := by
  unfold step at moved
  obtain ⟨c, fired, done⟩ := Option.map_eq_some_iff.mp moved
  obtain ⟨e, writer, fd, used, own, handled⟩ := serving.fired fired
  have handler : writeHandler e.fd s.context.transport (s.context.scene a) =
      s.context.transport.writeSocket ctxSlots a.write cfd (s.context.scene a) := by
    rw [fd, writeHandler_own own.symm]
    rfl
  have tidy := @Served.writeHandler _ _ (served_tidy cfd) (s.context.scene a) s.context.transport
    (fun h => h.1) e.fd ⟨serving.tidy, used⟩
  have mine := @Served.writeHandler _ _ (served_mine cfd) (s.context.scene a) s.context.transport
    (fun h => h.1) e.fd ⟨serving.mine, own⟩
  rw [handler] at tidy mine
  obtain ⟨msgs, taken, rest, cut, out, left⟩ :=
    writeSocket_moves cfd (s.context.scene a) counted
  obtain ⟨o, same⟩ := s.context.transport.writeSocket_transport ctxSlots a.write cfd
    (s.context.scene a)
  generalize s.context.transport.writeSocket ctxSlots a.write cfd (s.context.scene a) = r at *
  have ended : c = { s.context with client := r.2.client, transport := r.1, notes := r.2.notes } := by
    rw [handled, handle_write writer, handler]
    rfl
  have unread : messages r.2.notes = [] := msgs
  have wrote : bytesOut r.2.notes = taken := out
  subst ended
  subst done
  refine ⟨?_, ?_, taken, rest, cut, ?_, left⟩
  · refine { alive := serving.alive, tidy := tidy, mine := mine, framed := ?_ }
    unfold reader noted
    dsimp only
    rw [unread, List.append_nil, same]
    exact serving.framed.setOutput o
  · simp only [noted, unread, List.append_nil]
  · simp only [noted, wrote]

/-! ## The runs -/

/-- What was taken of a message at once and what was put behind the waiting bytes is the message
in its place iff nothing was given up and nothing overtaken. -/
theorem kept_echo_iff {k : KernelWrite} {msg waiting : List UInt8} (sent : List UInt8)
    (some_bytes : msg ≠ []) (fits : msg.length < 2 ^ 31) :
    (sent ++ msg.take (k.accepted msg.length)) ++ (waiting ++ deferred k msg) =
        sent ++ waiting ++ msg ↔
      faultError k msg.length = false ∧
        msg.take (k.accepted msg.length) ++ waiting =
          waiting ++ msg.take (k.accepted msg.length) := by
  have small : k.accepted msg.length < 2 ^ 31 := by
    have := k.accepted_le msg.length
    omega
  cases fault : faultError k msg.length with
  | true =>
    simp only [Bool.true_eq_false, false_and, iff_false]
    have failed : k.accepted msg.length = 0 := by
      unfold faultError KernelWrite.ret at fault
      unfold KernelWrite.accepted at small ⊢
      cases answer : k.room with
      | none => rfl
      | some room =>
        simp only [answer] at fault small
        rw [asInt32, toInt_of_lt (by omega)] at fault
        simp only [Bool.and_eq_true, decide_eq_true_eq] at fault
        omega
    rw [failed, deferred, fault, if_pos rfl, List.take_zero, List.append_nil, List.append_nil]
    intro same
    have nothing : (sent ++ waiting) ++ [] = (sent ++ waiting) ++ msg := by
      rwa [List.append_nil]
    exact some_bytes (List.append_cancel_left nothing).symm
  | false =>
    rw [deferred, fault, if_neg Bool.false_ne_true, nwrote_of_lt small]
    simp only [true_and]
    constructor
    · intro same
      have cut : msg.take (k.accepted msg.length) ++ waiting ++ msg.drop (k.accepted msg.length) =
          waiting ++ msg.take (k.accepted msg.length) ++ msg.drop (k.accepted msg.length) := by
        refine List.append_cancel_left (?_ : sent ++ _ = sent ++ _)
        simpa only [List.append_assoc, List.take_append_drop] using same
      exact List.append_cancel_right cut
    · intro commutes
      calc sent ++ msg.take (k.accepted msg.length) ++
              (waiting ++ msg.drop (k.accepted msg.length))
          = sent ++ (msg.take (k.accepted msg.length) ++ waiting) ++
              msg.drop (k.accepted msg.length) := by simp only [List.append_assoc]
        _ = sent ++ waiting ++ msg := by
          rw [commutes]
          simp only [List.append_assoc, List.take_append_drop]

/-- The invariant of the fair runs. -/
structure Keeping (cfd : Socket) (bodies : List (List UInt8)) (s : Session) : Prop where
  serving : Serving cfd bodies s
  kept : s.sent ++ s.waiting = s.msgs.flatten

theorem Keeping.echoed (keeping : Keeping cfd bodies s) : Echoed bodies s :=
  ⟨keeping.serving.framed.delivered.1, keeping.kept⟩

/-- After an admitted event of a session that kept the echo, the echo is kept iff the event was
fair. -/
theorem Keeping.step {op : SessionOp} (keeping : Keeping cfd bodies s)
    (valid : cfd ≠ invalidSocket) (nonempty : ∀ b ∈ bodies, b ≠ [])
    (admissible : s.Admissible bodies op) (moved : s.step op = some s') :
    Serving cfd bodies s' ∧ (s'.sent ++ s'.waiting = s'.msgs.flatten ↔ s.EchoFair op) := by
  obtain ⟨serving, kept⟩ := keeping
  cases op with
  | read n a =>
    obtain ⟨serving', msgs, sent, waits, sizes⟩ := serving.read valid nonempty admissible moved
    refine ⟨serving', ?_⟩
    rw [msgs, sent, waits, List.flatten_append, ← kept]
    unfold EchoFair
    cases completed : s.reader.completes n with
    | none => simp [completed]
    | some msg =>
      obtain ⟨some_bytes, fits⟩ := sizes msg completed
      simpa [completed] using kept_echo_iff s.sent some_bytes fits
  | write a =>
    obtain ⟨serving', msgs, taken, rest, cut, sent, waits⟩ := serving.write admissible moved
    refine ⟨serving', iff_of_true ?_ trivial⟩
    rw [msgs, sent, waits, List.append_assoc, ← cut, kept]

/-- In every run of a session whose reads end outside the length fields, the process gets the
bodies completed so far; the peer gets them back in order iff every echo is fair. -/
theorem always_echoed_iff (valid : cfd ≠ invalidSocket) (rdAppState : AppState)
    (good : a.setRead.add = true) (nonempty : ∀ b ∈ bodies, b ≠ []) (ops : List SessionOp)
    (admissible : EachStep step (fun s op _ => s.Admissible bodies op)
      (start rdAppState cfd a bodies) ops) :
    Always step (Echoed bodies) (start rdAppState cfd a bodies) ops ↔
      EachStep step (fun s op _ => s.EchoFair op) (start rdAppState cfd a bodies) ops := by
  have init : Keeping cfd bodies (start rdAppState cfd a bodies) :=
    ⟨serving_start rdAppState good, rfl⟩
  have exact_steps : EachStep step (fun s op s' => Echoed bodies s' ∧ s.Admissible bodies op)
      (start rdAppState cfd a bodies) ops ↔
      EachStep step (fun s op _ => s.EchoFair op ∧ s.Admissible bodies op)
        (start rdAppState cfd a bodies) ops := by
    refine EachStep.iff_of_invariant ?_ ?_ init
    · rintro s op s' keeping ⟨fair, admissible⟩ moved
      obtain ⟨serving', exactly⟩ := keeping.step valid nonempty admissible moved
      have keeping' : Keeping cfd bodies s' := ⟨serving', exactly.mpr fair⟩
      exact ⟨keeping', keeping'.echoed, admissible⟩
    · rintro s op s' keeping moved ⟨echoed', admissible⟩
      obtain ⟨-, exactly⟩ := keeping.step valid nonempty admissible moved
      exact ⟨exactly.mp echoed'.kept, admissible⟩
  constructor
  · intro always
    exact (exact_steps.mp (always.2.and admissible)).mono fun _ _ _ h => h.1
  · intro fair
    refine ⟨init.echoed, ?_⟩
    exact (exact_steps.mpr (fair.and admissible)).mono fun _ _ _ h => h.1

/-- Two messages; of the first echo one byte waits until the socket takes it. -/
theorem always_echoed_waiting :
    Always step (Echoed [[97, 98], [99]])
      (start .init 7 (.answering [] ⟨none, .eagain⟩) [[97, 98], [99]])
      [.read 4 (.answering [] ⟨none, .eagain⟩), .read 2 (.answering [] ⟨some 1, .eagain⟩),
        .write (.answering [] ⟨some 1, .eagain⟩), .read 4 (.answering [] ⟨none, .eagain⟩)] :=
  (always_echoed_iff (by decide) .init rfl (by decide) _ (by decide +kernel)).mpr
    (by decide +kernel)

end Session

end NewFramework.Tstlesrv
