import NewFramework.Net.Http.ResponseStream
import NewFramework.Net.OutboundStream

/-!
# A connection of the HTTP server, from the requests to the socket

`onMessage` (`muduo/net/http/HttpServer.cc`) gives each response to the connection, which writes
what the kernel takes and keeps the rest for `handleWrite`.  After a response that closes it is shut
down, which waits until the rest is written.  Chunks, room in the socket, the end of the stream and
the end of the server come in any order.
-/

namespace NewFramework.Net
open NewFramework.Lib

namespace TcpConnection

/-- How often the connection was half-closed. -/
def halfCloses (notes : List Note) : Nat :=
  notes.countP fun
    | .shutdownWrite .. => true
    | _ => false

@[simp] theorem halfCloses_append (xs ys : List Note) :
    halfCloses (xs ++ ys) = halfCloses xs + halfCloses ys :=
  List.countP_append

theorem halfCloses_eq_zero {notes : List Note}
    (others : ∀ state unsent, .shutdownWrite state unsent ∉ notes) : halfCloses notes = 0 := by
  apply List.countP_eq_zero.mpr
  intro n mem
  cases n with
  | shutdownWrite state unsent => exact absurd mem (others state unsent)
  | _ => exact Bool.false_ne_true

/-- It was shut down, and nothing is left to write. -/
def Done (c : TcpConnection) : Prop := c.state = .kDisconnecting ∧ c.outputBuffer.readable = []

/-- A connection that is not closed is half-closed once, where it is done. -/
def HalfClosed (c : TcpConnection) : Prop :=
  c.state ≠ .kDisconnected →
    (c.Done → halfCloses c.notes = 1) ∧ (¬ c.Done → halfCloses c.notes = 0)

variable {c : TcpConnection} {k : KernelWrite}

theorem HalfClosed.of_closed (closed : c.state = .kDisconnected) : c.HalfClosed :=
  fun alive => absurd closed alive

theorem HalfClosed.of_connected (connected : c.state = .kConnected)
    (none : halfCloses c.notes = 0) : c.HalfClosed := by
  intro _
  refine ⟨?_, fun _ => none⟩
  rintro ⟨disconnecting, -⟩
  rw [connected] at disconnecting
  contradiction

theorem HalfClosed.none_of_connected (half : c.HalfClosed) (connected : c.state = .kConnected) :
    halfCloses c.notes = 0 := by
  apply (half (by rw [connected]; decide)).2
  rintro ⟨disconnecting, -⟩
  rw [connected] at disconnecting
  contradiction

theorem HalfClosed.send (half : c.HalfClosed) (call : Nat) (message : List UInt8) :
    (c.api true k (.send call message)).HalfClosed := by
  unfold api
  dsimp only
  split
  · next connected =>
    have alive : c.state ≠ .kDisconnected := by rw [connected]; decide
    have sent := sendInLoop_sent alive k call message
    obtain ⟨queued, -, noted, -⟩ := sent.queue
    have state : (c.sendInLoop k call message).state = .kConnected :=
      (congrArg TcpConnection.state sent.same).trans connected
    refine .of_connected state ?_
    show halfCloses (c.sendInLoop k call message).notes = 0
    rw [noted, halfCloses_append, half.none_of_connected connected]
    apply (Nat.zero_add _).trans
    apply halfCloses_eq_zero
    intro state unsent mem
    split at mem <;> simp at mem
  · exact half

theorem HalfClosed.shutdown (flow : c.Flow) (half : c.HalfClosed) :
    (c.api true k .shutdown).HalfClosed := by
  unfold api
  dsimp only
  split
  · next connected =>
    have alive : c.state ≠ .kDisconnected := by rw [connected]; decide
    have before := half.none_of_connected connected
    show (c.setState .kDisconnecting).shutdownInLoop.HalfClosed
    intro _
    unfold shutdownInLoop
    split
    · next writing =>
      exact ⟨fun done => absurd done.2 (flow.pending writing), fun _ => before⟩
    · next idle =>
      have empty : c.outputBuffer.readable = [] := by
        by_contra left
        exact idle (flow.writing alive left)
      refine ⟨fun _ => ?_, fun left => absurd ⟨rfl, empty⟩ left⟩
      show halfCloses (c.notes ++ [_]) = 1
      rw [halfCloses_append, before]
      rfl
  · exact half

theorem readable_handleWrite (writing : c.channel.isWriting = true) :
    (c.handleWrite k).outputBuffer.readable =
      c.outputBuffer.readable.drop (k.accepted c.outputBuffer.readableBytes) := by
  rw [handleWrite_writing writing]
  dsimp only
  split
  · simp
  · next none => simp [Nat.eq_zero_of_not_pos none]

theorem HalfClosed.handleWrite (flow : c.Flow) (half : c.HalfClosed) :
    (c.handleWrite k).HalfClosed := by
  cases writing : c.channel.isWriting with
  | false => rwa [handleWrite_idle writing]
  | true =>
    have left := flow.pending writing
    have positive : 0 < c.outputBuffer.readableBytes := by
      rw [← Buffer.readable_length]
      exact List.length_pos_iff.mpr left
    have drained : (c.handleWrite k).outputBuffer.readable = [] ↔ c.drains k := by
      rw [readable_handleWrite writing, List.drop_eq_nil_iff, Buffer.readable_length, drains]
      omega
    have state : (c.handleWrite k).state = c.state := (traffic_handleWrite k c).state
    intro alive
    rw [state] at alive
    have before := (half alive).2 fun done => left done.2
    rw [Done, drained, state]
    rw [handleWrite_writing writing]
    dsimp only
    rw [halfCloses_append, before]
    constructor
    · rintro ⟨disconnecting, drains⟩
      rw [if_pos (show c.drains k ∧ c.state = .kDisconnecting from ⟨drains, disconnecting⟩)]
      split <;> rfl
    · intro other
      rw [if_neg (show ¬ (c.drains k ∧ c.state = .kDisconnecting) from mt And.symm other)]
      split <;> rfl

theorem HalfClosed.connectDestroyed (half : c.HalfClosed) : c.connectDestroyed.HalfClosed := by
  unfold TcpConnection.connectDestroyed
  split
  · exact .of_closed rfl
  · intro alive
    have same : halfCloses c.removeChannel.notes = halfCloses c.notes := halfCloses_append ..
    rw [same]
    exact half alive

/-- What a connection keeps that is used in its loop. -/
structure Sound (c : TcpConnection) : Prop where
  flow : c.Flow
  half : c.HalfClosed
  known : c.state ≠ .kConnecting

theorem Sound.read (sound : c.Sound) (buf : Buffer) :
    ({ c with inputBuffer := buf } : TcpConnection).Sound where
  flow := (sound.flow.quiet rfl rfl id (.inl rfl) :
    ({ c with inputBuffer := buf } : TcpConnection).Flow ∧ _).1
  half := sound.half
  known := sound.known

theorem Sound.send (sound : c.Sound) (answer : NotFatal k) (call : Nat) (message : List UInt8) :
    (c.api true k (.send call message)).Sound := by
  refine { flow := ?_, half := sound.half.send call message, known := ?_ }
  all_goals
    unfold api
    dsimp only
    split
  · exact (sendInLoop_flow sound.flow answer call message).1
  · exact sound.flow
  · show (c.sendInLoop k call message).state ≠ _
    rw [(c.traffic_sendInLoop k call message).state]
    exact sound.known
  · exact sound.known

theorem Sound.shutdown (sound : c.Sound) : (c.api true k .shutdown).Sound := by
  refine { flow := ?_, half := sound.half.shutdown sound.flow, known := ?_ }
  all_goals
    unfold api
    dsimp only
    split
  · next connected =>
    have alive : c.state ≠ .kDisconnected := by rw [connected]; decide
    exact (shutdownInLoop_flow (sound.flow.disconnecting alive) (.inl rfl)).1
  · exact sound.flow
  · show (c.setState .kDisconnecting).shutdownInLoop.state ≠ _
    rw [(traffic_shutdownInLoop _).state]
    nofun
  · exact sound.known

theorem Sound.handleClose (sound : c.Sound) : c.handleClose.Sound where
  flow := (handleClose_flow sound.flow).1
  half := .of_closed rfl
  known := nofun

theorem Sound.handleWrite (sound : c.Sound) (k : KernelWrite) : (c.handleWrite k).Sound where
  flow := (handleWrite_flow sound.flow k).1
  half := sound.half.handleWrite sound.flow
  known := by
    rw [(traffic_handleWrite k c).state]
    exact sound.known

theorem Sound.connectDestroyed (sound : c.Sound) : c.connectDestroyed.Sound where
  flow := by
    have unanswered : NotFatal ⟨none, .eagain⟩ := fun _ => rfl
    exact (callFunctor_flow sound.flow unanswered (f := .connectDestroyed) nofun nofun).1
  half := sound.half.connectDestroyed
  known := by
    unfold TcpConnection.connectDestroyed
    split
    · nofun
    · exact sound.known

/-- A closed connection sends no more. -/
theorem api_of_closed (closed : c.state = .kDisconnected) {call : Api}
    (asks : call = .shutdown ∨ ∃ n message, call = .send n message) : c.api true k call = c := by
  have other : c.state ≠ .kConnected := by rw [closed]; decide
  rcases asks with rfl | ⟨n, message, rfl⟩ <;> exact if_neg other

end TcpConnection

namespace Http.HttpConn

variable {γ : Type*} {callback : HttpCallback γ}

inductive Event where
  /-- `handleRead` finds bytes -/
  | message (chunk : Chunk)
  /-- it finds the end of the stream, or the peer hangs up -/
  | close
  | writable (k : KernelWrite)
  /-- the server lets go of the connection -/
  | destroyed

def handle (callback : HttpCallback γ) (c : HttpConn γ) : Event → HttpConn γ
  | .message chunk => c.receive callback chunk
  | .close => { c with conn := c.conn.handleClose }
  | .writable k => { c with conn := c.conn.handleWrite k }
  | .destroyed => { c with conn := c.conn.connectDestroyed }

/-- The process is gone after a fault. -/
def sessionStep (callback : HttpCallback γ) (c : HttpConn γ) (e : Event) : Option (HttpConn γ) :=
  if c.fault = none then some (c.handle callback e) else none

/-- The kernel does not answer a `write` of `send` that the peer is gone. -/
def Event.NotFatal : Event → Prop
  | .message chunk => TcpConnection.NotFatal chunk.write
  | _ => True

instance : DecidablePred Event.NotFatal
  | .message chunk => inferInstanceAs (Decidable (TcpConnection.NotFatal chunk.write))
  | .close | .writable _ | .destroyed => isTrue trivial

/-- What the connection does with a chunk: it reads, sends and shuts down. -/
theorem receive_keeps {P : TcpConnection → Prop} {chunk : Chunk}
    (input : ∀ conn buf, P conn → P { conn with inputBuffer := buf })
    (send : ∀ conn n message, P conn → P (conn.api true chunk.write (.send n message)))
    (shutdown : ∀ conn, P conn → P (conn.api true chunk.write .shutdown))
    {c : HttpConn γ} (holds : P c.conn) : P (c.receive callback chunk).conn := by
  have read : P (c.readFd chunk).conn := input _ _ holds
  have answer (c : HttpConn γ) (holds : P c.conn) :
      P (if c.context.gotAll then
        { c.onRequest callback chunk.write c.context.request with context := .new }
      else c).conn := by
    split
    · unfold onRequest
      dsimp only
      split
      · exact shutdown _ (send _ _ _ holds)
      · exact send _ _ _ holds
    · exact holds
  unfold receive onMessage
  split
  · exact read
  · next ok context buf _ =>
    have parsed : P ((c.readFd chunk).parsed context buf).conn := input _ buf read
    cases ok with
    | true => exact answer ((c.readFd chunk).parsed context buf) parsed
    | false =>
      have rejected : P (((c.readFd chunk).parsed context buf).reject chunk.write).conn :=
        shutdown _ (send _ _ _ parsed)
      exact answer (((c.readFd chunk).parsed context buf).reject chunk.write) rejected

/-! ## The responses and the connection -/

theorem given_eq_sent (c : HttpConn γ) : given c.conn.notes = c.sent.flatten := by
  unfold sent
  induction c.conn.notes with
  | nil => rfl
  | cons n notes ih =>
    have first : given (n :: notes) = given [n] ++ given notes := given_append [n] notes
    rw [first, ih]
    cases n with
    | given call message => simp [given]
    | _ => rfl

/-- Of what the connection does by itself nothing is a new response. -/
theorem sent_of_notes {c : HttpConn γ} {conn : TcpConnection} {new : List Note}
    (noted : conn.notes = c.conn.notes ++ new) (others : ∀ call message, .given call message ∉ new) :
    ({ c with conn := conn } : HttpConn γ).sent = c.sent := by
  unfold sent
  rw [noted, List.filterMap_append, List.append_right_eq_self, List.filterMap_eq_nil_iff]
  intro n mem
  cases n with
  | given call message => exact absurd mem (others call message)
  | _ => rfl

theorem Stuck.withConn {c : HttpConn γ} (stuck : c.Stuck) {conn : TcpConnection}
    (input : conn.inputBuffer = c.conn.inputBuffer) : ({ c with conn := conn } : HttpConn γ).Stuck := by
  cases stuck with
  | gone fault => exact .gone fault
  | again context line rest buffer oneLine processed =>
    exact .again context line rest (input ▸ buffer) oneLine processed
  | halfRead state method line rest buffer oneLine mem =>
    exact .halfRead state method line rest (input ▸ buffer) oneLine mem

theorem Served.withConn {s : γ} {c : HttpConn γ} (served : Served callback s c)
    {conn : TcpConnection} (state : conn.state = c.conn.state)
    (input : conn.inputBuffer = c.conn.inputBuffer)
    (same : ({ c with conn := conn } : HttpConn γ).sent = c.sent) :
    Served callback s { c with conn := conn } where
  responds :=
    { callbackState := served.responds.callbackState
      sent := same.trans served.responds.sent
      connected := by
        show conn.state = _ ↔ _
        rw [state]
        exact served.responds.connected }
  parser := by
    rcases served.parser with going | ⟨stuck, shut⟩
    · exact .inl going
    · exact .inr ⟨stuck.withConn input, by rwa [state]⟩

theorem responses_grow (s : γ) {requests more : List HttpRequest} (grown : requests <+: more) :
    responses callback s requests <+: responses callback s more := by
  obtain ⟨new, rfl⟩ := grown
  induction new using List.reverseRecOn with
  | nil => rw [List.append_nil]
  | append_singleton new req ih =>
    refine ih.trans ?_
    unfold responses
    rw [← List.append_assoc, serveAll_concat]
    exact List.prefix_append _ _

/-- What the peer gets. -/
structure Delivers (callback : HttpCallback γ) (s : γ) (c : HttpConn γ) : Prop where
  /-- the socket has the beginning of what was sent, and the rest waits -/
  stream : wire c.conn.notes ++ c.conn.outputBuffer.readable = c.sent.flatten
  /-- of the responses some at the end may be missing -/
  taken : ∃ rs rejected, rs <+: responses callback s c.requests ∧ c.sent = Reply.wire rejected rs
  /-- but only where the connection was closed before -/
  whole : c.conn.state ≠ .kDisconnected →
    c.sent = Reply.wire (c.rejected ≠ []) (responses callback s c.requests)
  /-- the peer sees the end of the stream behind the response that closes, once -/
  ends : c.conn.state ≠ .kDisconnected →
    TcpConnection.halfCloses c.conn.notes ≤ 1 ∧
      (TcpConnection.halfCloses c.conn.notes = 1 ↔ c.conn.outputBuffer.readable = [] ∧
        ¬ (Reply.Keeps (responses callback s c.requests) ∧ c.rejected = []))
  /-- and where nothing waits it reads the replies, if they can be written -/
  reads : PlainCallback callback → c.conn.state ≠ .kDisconnected →
    c.conn.outputBuffer.readable = [] → Reply.readAll (wire c.conn.notes) =
      some (Reply.replies (c.rejected ≠ []) (responses callback s c.requests))

/-- What every event keeps. -/
structure Session (callback : HttpCallback γ) (s : γ) (c : HttpConn γ) : Prop where
  sound : c.conn.Sound
  served : c.conn.state ≠ .kDisconnected → Served callback s c
  taken : ∃ rs rejected, rs <+: responses callback s c.requests ∧ c.sent = Reply.wire rejected rs

namespace Session

variable {s : γ} {c c' : HttpConn γ} {e : Event}

theorem new (s : γ) : Session callback s (new s) where
  sound :=
    { flow := (ConnectionLoop.flow_established false false (64 * 1024 * 1024)).conn
      half := .of_connected rfl rfl
      known := nofun }
  served _ := served_new s
  taken := ⟨[], false, List.nil_prefix, rfl⟩

theorem delivers (session : Session callback s c) : Delivers callback s c where
  stream := session.sound.flow.stream.trans (given_eq_sent c)
  taken := session.taken
  whole alive := (session.served alive).responds.sent
  ends alive := by
    have connected := (session.served alive).responds.connected
    obtain ⟨done, other⟩ := session.sound.half alive
    have disconnecting : c.conn.state = .kDisconnecting ↔
        ¬ (Reply.Keeps (responses callback s c.requests) ∧ c.rejected = []) := by
      rw [← connected]
      cases state : c.conn.state with
      | kConnecting => exact absurd state session.sound.known
      | kDisconnected => exact absurd state alive
      | kConnected | kDisconnecting => decide
    have order : c.conn.outputBuffer.readable = [] ∧ c.conn.state = .kDisconnecting ↔
        c.conn.Done := and_comm
    rw [← disconnecting, order]
    by_cases finished : c.conn.Done
    · rw [done finished]
      exact ⟨Nat.le_refl _, iff_of_true rfl finished⟩
    · rw [other finished]
      exact ⟨Nat.zero_le _, iff_of_false nofun finished⟩
  reads plain alive empty := by
    have stream := session.sound.flow.stream.trans (given_eq_sent c)
    rw [empty, List.append_nil, (session.served alive).responds.sent] at stream
    rw [stream, Reply.readAll]
    exact Reply.readAllUpTo_wire _ (plain_responses plain s _) (Nat.le_refl _)

/-- An event that brings no bytes. -/
theorem withConn (session : Session callback s c) {conn : TcpConnection} (sound : conn.Sound)
    (same : ({ c with conn := conn } : HttpConn γ).sent = c.sent)
    (stays : conn.state ≠ .kDisconnected →
      conn.state = c.conn.state ∧ conn.inputBuffer = c.conn.inputBuffer) :
    Session callback s { c with conn := conn } where
  sound := sound
  served alive := by
    obtain ⟨state, input⟩ := stays alive
    exact (session.served (state ▸ alive)).withConn state input same
  taken := by
    rw [same]
    exact session.taken

theorem receive (session : Session callback s c) (fault : c.fault = none) {chunk : Chunk}
    (answer : TcpConnection.NotFatal chunk.write) :
    Session callback s (c.receive callback chunk) := by
  have requests := (@step_grows γ callback c chunk).1
  rw [getD_step fault] at requests
  have sound : (c.receive callback chunk).conn.Sound :=
    receive_keeps (fun _ buf sound => sound.read buf)
      (fun _ n message sound => sound.send answer n message) (fun _ sound => sound.shutdown)
      session.sound
  by_cases alive : c.conn.state = .kDisconnected
  · -- nothing is sent any more
    have shut : (c.receive callback chunk).conn.state = .kDisconnected ∧
        (c.receive callback chunk).sent = c.sent := by
      apply @receive_keeps γ callback (fun conn => conn.state = .kDisconnected ∧
        ({ c with conn := conn } : HttpConn γ).sent = c.sent) chunk ?_ ?_ ?_ c ⟨alive, rfl⟩
      · exact fun conn buf both => both
      · rintro conn n message ⟨closed, same⟩
        rw [TcpConnection.api_of_closed closed (.inr ⟨n, message, rfl⟩)]
        exact ⟨closed, same⟩
      · rintro conn ⟨closed, same⟩
        rw [TcpConnection.api_of_closed closed (.inl rfl)]
        exact ⟨closed, same⟩
    obtain ⟨rs, rejected, taken, sent⟩ := session.taken
    exact {
      sound := sound
      served := fun still => absurd shut.1 still
      taken := ⟨rs, rejected, taken.trans (responses_grow s requests), shut.2.trans sent⟩ }
  · have served := (session.served alive).step chunk
    rw [getD_step fault] at served
    exact {
      sound := sound
      served := fun _ => served
      taken := ⟨_, _, List.prefix_rfl, served.responds.sent⟩ }

theorem step (session : Session callback s c) (answer : e.NotFatal)
    (moved : c.sessionStep callback e = some c') : Session callback s c' := by
  obtain ⟨fault, rfl⟩ := some_of_guard moved
  cases e with
  | message chunk => exact session.receive fault answer
  | close =>
    refine session.withConn session.sound.handleClose (sent_of_notes rfl (by simp)) ?_
    exact fun alive => absurd rfl alive
  | writable k =>
    have state := (TcpConnection.traffic_handleWrite k c.conn).state
    refine session.withConn (session.sound.handleWrite k) ?_ fun _ => ⟨state, ?_⟩
    all_goals cases writing : c.conn.channel.isWriting with
      | false => rw [TcpConnection.handleWrite_idle writing]
      | true => ?_
    · apply sent_of_notes (by rw [TcpConnection.handleWrite_writing writing])
      intro call message mem
      simp at mem
    · rw [TcpConnection.handleWrite_writing writing]
  | destroyed =>
    refine session.withConn session.sound.connectDestroyed ?_ ?_
    all_goals
      unfold TcpConnection.connectDestroyed
      split
    · exact sent_of_notes (List.append_nil _).symm nofun
    · exact sent_of_notes rfl (by simp)
    · exact fun alive => absurd rfl alive
    · exact fun _ => ⟨rfl, rfl⟩

end Session

/-- However the requests are cut and whatever the kernel takes of a write: the peer gets the
responses in order, byte by byte, nothing is missing while the connection is open, and it sees the
end of the stream behind the response that closes, when it has all of it. -/
theorem always_delivers (s : γ) {events : List Event}
    (answers : ∀ e ∈ events, e.NotFatal) :
    Always (sessionStep callback) (Delivers callback s) (new s) events := by
  have answered : EachStep (sessionStep callback) (fun _ e _ => e.NotFatal) (new s) events :=
    EachStep.of_forall answers _
  have keeps (c : HttpConn γ) (e : Event) (c' : HttpConn γ) (session : Session callback s c)
      (answer : e.NotFatal) (moved : c.sessionStep callback e = some c') :
      Session callback s c' :=
    session.step answer moved
  exact Always.of_invariant keeps (fun _ session => session.delivers) (Session.new s) answered

/-- The socket has room for some of the first answer, and later for the rest of both. -/
def slowPeer : List Event :=
  [.message ⟨0, ascii "GET /hello HTTP/1.1\r\n", by decide, ⟨none, .eagain⟩⟩,
    .message ⟨1, ascii "\r\n", by decide, ⟨some 20, .eagain⟩⟩, .writable ⟨none, .eagain⟩,
    .message ⟨2, ascii "GET /page HTTP/1.1\r\n\r\n", by decide, ⟨none, .eagain⟩⟩,
    .writable ⟨some 1000, .eagain⟩, .close, .destroyed]

theorem always_delivers_slowPeer :
    Always (sessionStep helloHttpCallback) (Delivers helloHttpCallback ()) (new ()) slowPeer :=
  always_delivers () (by decide)

example : (exec (sessionStep helloHttpCallback) (new ()) (slowPeer.take 3)).map
    (fun c => (wire c.conn.notes, TcpConnection.halfCloses c.conn.notes)) =
    some (ascii "HTTP/1.1 200 OK\r\nCon", 0) := by
  decide +kernel

end Http.HttpConn

end NewFramework.Net
