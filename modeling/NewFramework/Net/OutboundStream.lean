import NewFramework.Net.ConnectionLoop

/-!
# The outbound stream of a connection

What the socket has accepted and what `outputBuffer_` still holds are, in this order, the messages
given to `sendInLoop` (`muduo/net/TcpConnection.cpp`).  The equation is kept together with the two
directions of "writing iff something is pending": one makes a direct write impossible while bytes
wait, the other makes `handleWrite` run until none do.
-/

namespace NewFramework.Net
open NewFramework.Lib

/-- The bytes in the socket. -/
def wire (notes : List Note) : List UInt8 :=
  notes.flatMap fun
    | .wrote k offered => offered.take (k.accepted offered.length)
    | _ => []

/-- The messages that `sendInLoop` has taken. -/
def given (notes : List Note) : List UInt8 :=
  notes.flatMap fun
    | .given _ message => message
    | _ => []

@[simp] theorem wire_append (xs ys : List Note) : wire (xs ++ ys) = wire xs ++ wire ys :=
  List.flatMap_append

@[simp] theorem given_append (xs ys : List Note) : given (xs ++ ys) = given xs ++ given ys :=
  List.flatMap_append

theorem wire_eq_nil {notes : List Note} (silent : ∀ k offered, .wrote k offered ∉ notes) :
    wire notes = [] := by
  apply List.flatMap_eq_nil_iff.mpr
  intro n mem
  cases n with
  | wrote k offered => exact absurd mem (silent k offered)
  | _ => rfl

theorem given_eq_nil {notes : List Note} (silent : ∀ call message, .given call message ∉ notes) :
    given notes = [] := by
  apply List.flatMap_eq_nil_iff.mpr
  intro n mem
  cases n with
  | given call message => exact absurd mem (silent call message)
  | _ => rfl

/-- A half-close of a connection that is not closed: in `kDisconnecting` and with nothing left
to send. -/
def Note.HalfClose : Note → Prop
  | .shutdownWrite state unsent =>
    state ≠ .kDisconnected → state = .kDisconnecting ∧ unsent = []
  | _ => True

/-- The notes of a function that neither takes a message nor writes. -/
def Note.Silent : Note → Prop
  | .given .. | .wrote .. | .queued .writeCompleteCallback => False
  | n => n.HalfClose

theorem Note.Silent.halfClose {n : Note} (silent : n.Silent) : n.HalfClose := by
  cases n <;> first | exact silent | trivial

namespace TcpConnection

/-- What the component is for, in one state. -/
structure Streams (c : TcpConnection) : Prop where
  stream : wire c.notes ++ c.outputBuffer.readable = given c.notes
  writing : c.state ≠ .kDisconnected →
    (c.channel.isWriting = true ↔ c.outputBuffer.readable ≠ [])
  halfClose : ∀ n ∈ c.notes, n.HalfClose

/-- The callback for a complete write is queued iff it is set and the write of the step
succeeded and left nothing pending; `notes` are the notes before the step. -/
def Completes (set : Bool) (notes : List Note) (c : TcpConnection) : Prop :=
  ∃ new, c.notes = notes ++ new ∧
    (.queued .writeCompleteCallback ∈ new ↔
      set = true ∧ ∃ k offered, .wrote k offered ∈ new ∧ 0 ≤ k.ret offered.length ∧
        c.outputBuffer.readable = [])

/-- What is kept. -/
structure Flow (c : TcpConnection) : Prop where
  stream : wire c.notes ++ c.outputBuffer.readable = given c.notes
  writing : c.state ≠ .kDisconnected → c.outputBuffer.readable ≠ [] → c.channel.isWriting = true
  pending : c.channel.isWriting = true → c.outputBuffer.readable ≠ []
  halfClose : ∀ n ∈ c.notes, n.HalfClose

theorem Flow.streams {c : TcpConnection} (flow : c.Flow) : c.Streams :=
  ⟨flow.stream, fun alive => ⟨flow.pending, flow.writing alive⟩, flow.halfClose⟩

theorem completes_of_silent {set : Bool} {notes new : List Note} {c : TcpConnection}
    (noted : c.notes = notes ++ new) (silent : ∀ n ∈ new, n.Silent) :
    Completes set notes c := by
  refine ⟨new, noted, iff_of_false (fun mem => silent _ mem) ?_⟩
  rintro ⟨-, k, offered, mem, -⟩
  exact silent _ mem

theorem completes_same {set : Bool} {notes : List Note} {c : TcpConnection}
    (same : c.notes = notes) : Completes set notes c := by
  have noted : c.notes = notes ++ [] := by rw [same, List.append_nil]
  exact completes_of_silent noted nofun

/-- A function that neither takes a message nor writes keeps the flow. -/
theorem Flow.still {c c' : TcpConnection} (flow : c.Flow) {new : List Note}
    (noted : c'.notes = c.notes ++ new) (silent : ∀ n ∈ new, n.Silent)
    (output : c'.outputBuffer = c.outputBuffer)
    (alive : c'.state ≠ .kDisconnected → c.state ≠ .kDisconnected)
    (writing : c'.channel.isWriting = c.channel.isWriting ∨
      c'.state = .kDisconnected ∧ c'.channel.isWriting = false) : c'.Flow where
  stream := by
    rw [noted, wire_append, given_append, wire_eq_nil fun k offered mem => silent _ mem,
      given_eq_nil fun call message mem => silent _ mem, List.append_nil, List.append_nil, output]
    exact flow.stream
  writing open' some_left := by
    rw [output] at some_left
    rcases writing with same | ⟨closed, -⟩
    · rw [same]
      exact flow.writing (alive open') some_left
    · exact absurd closed open'
  pending busy := by
    rw [output]
    rcases writing with same | ⟨-, idle⟩
    · exact flow.pending (same ▸ busy)
    · exact absurd (busy.symm.trans idle) (by decide)
  halfClose n mem := by
    rw [noted] at mem
    rcases List.mem_append.mp mem with old | new
    · exact flow.halfClose n old
    · exact (silent n new).halfClose

/-! ## Writing -/

/-- Any answer other than the fatal failures. -/
def NotFatal (k : KernelWrite) : Prop := k.room = none → fatal k.errno = false

instance (k : KernelWrite) : Decidable (NotFatal k) := inferInstanceAs (Decidable (_ → _))

theorem nwrote_direct {k : KernelWrite} {c : TcpConnection} (direct : c.direct = true)
    (data : List UInt8) : c.nwrote k data = k.accepted data.length := by
  unfold nwrote
  split
  · exact k.toNat_ret _
  · next failed =>
    have none_room : k.room = none := by
      by_contra answered
      exact failed ⟨direct, (k.ret_nonneg_iff _).mpr answered⟩
    rw [KernelWrite.accepted_of_none none_room]

theorem nwrote_buffered {k : KernelWrite} {c : TcpConnection} (buffered : c.direct = false)
    (data : List UInt8) : c.nwrote k data = 0 := by
  simp [nwrote, buffered]

theorem deferred_eq {k : KernelWrite} (answer : NotFatal k) (data : List UInt8)
    (c : TcpConnection) : c.deferred k data = data.drop (c.nwrote k data) := by
  have none_fatal : c.faultError k data = false := by
    cases room : k.room with
    | none => simp [faultError, answer room]
    | some n =>
      have written : ¬ k.ret data.length < 0 :=
        Int.not_lt.mpr ((k.ret_nonneg_iff _).mpr (by simp [room]))
      simp [faultError, written]
  simp [deferred, none_fatal]

theorem Flow.direct {c : TcpConnection} (direct : c.direct = true) :
    c.outputBuffer.readable = [] := by
  rw [Buffer.readable_eq_nil]
  simp only [TcpConnection.direct, Bool.and_eq_true, beq_iff_eq] at direct
  exact direct.2

theorem sendInLoop_flow {c : TcpConnection} (flow : c.Flow) {k : KernelWrite}
    (answer : NotFatal k) (call : Nat) (data : List UInt8) :
    (c.sendInLoop k call data).Flow ∧
      Completes c.writeCompleteCallback c.notes (c.sendInLoop k call data) := by
  by_cases closed : c.state = .kDisconnected
  · rw [sendInLoop_disconnected closed]
    exact ⟨flow, completes_same rfl⟩
  have sent := sendInLoop_sent closed k call data
  generalize c.sendInLoop k call data = c' at sent
  obtain ⟨queued, -, noted, callbacks, complete⟩ := sent.queue
  have state : c'.state = c.state := (congrArg TcpConnection.state sent.same :)
  have deferred := deferred_eq answer data c
  have none_wrote : ∀ k offered, .wrote k offered ∉ queued.map Note.queued := by simp
  have none_given : ∀ call message, .given call message ∉ queued.map Note.queued := by simp
  have wired : wire c'.notes = wire c.notes ++
      if c.direct then data.take (k.accepted data.length) else [] := by
    rw [noted, ← List.singleton_append, wire_append, wire_append, wire_append,
      wire_eq_nil none_wrote]
    split <;> simp [wire]
  have taken : given c'.notes = given c.notes ++ data := by
    rw [noted, ← List.singleton_append, given_append, given_append, given_append,
      given_eq_nil none_given]
    split <;> simp [given]
  constructor
  · refine
      { stream := ?_
        writing := fun _ some_left => ?_
        pending := fun busy => ?_
        halfClose := fun n mem => ?_ }
    · rw [wired, taken, sent.output, deferred, ← flow.stream]
      cases direct : c.direct with
      | true => simp [nwrote_direct direct, Flow.direct direct]
      | false => simp [nwrote_buffered direct]
    · rw [sent.output] at some_left
      rw [sent.channel]
      split
      · next same =>
        rcases same with nothing | busy
        · refine flow.writing closed fun empty => some_left ?_
          rw [empty, nothing, List.append_nil]
        · exact busy
      · exact Channel.isWriting_enableWriting _
    · rw [sent.output]
      rw [sent.channel] at busy
      split at busy
      · exact List.append_ne_nil_of_left_ne_nil (flow.pending busy) _
      · next other => exact List.append_ne_nil_of_right_ne_nil _ (mt .inl other)
    · rw [noted] at mem
      rcases List.mem_append.mp mem with old | new
      · exact flow.halfClose n old
      rcases List.mem_cons.mp new with rfl | new
      · trivial
      rcases List.mem_append.mp new with new | new
      · rw [List.mem_singleton.mp (List.mem_ite_nil_right.mp new).2]
        trivial
      · obtain ⟨f, -, rfl⟩ := List.mem_map.mp new
        trivial
  · refine ⟨_, noted, ?_⟩
    have queues : .queued .writeCompleteCallback ∈ Note.given call data ::
        ((if c.direct then [.wrote k data] else []) ++ queued.map .queued) ↔
        c.completes k data := by
      rw [← complete]
      split <;> simp
    rw [queues]
    constructor
    · rintro ⟨direct, written, nothing, set⟩
      refine ⟨set, k, data, by simp [direct], written, ?_⟩
      rw [sent.output, deferred, Flow.direct direct, List.nil_append]
      exact List.drop_eq_nil_of_le (Nat.le_of_sub_eq_zero nothing)
    · rintro ⟨set, k', offered, mem, written, empty⟩
      have direct : c.direct = true ∧ k' = k ∧ offered = data := by
        simpa [and_assoc] using mem
      obtain ⟨direct, rfl, rfl⟩ := direct
      refine ⟨direct, written, Nat.sub_eq_zero_of_le ?_, set⟩
      rw [sent.output, deferred, Flow.direct direct, List.nil_append] at empty
      exact List.drop_eq_nil_iff.mp empty

theorem handleWrite_flow {c : TcpConnection} (flow : c.Flow) (k : KernelWrite) :
    (c.handleWrite k).Flow ∧ Completes c.writeCompleteCallback c.notes (c.handleWrite k) := by
  cases writing : c.channel.isWriting with
  | false =>
    rw [handleWrite_idle writing]
    exact ⟨flow, completes_same rfl⟩
  | true =>
    have some_left := flow.pending writing
    have positive : 0 < c.outputBuffer.readableBytes := by
      rw [← Buffer.readable_length]
      exact List.length_pos_iff.mpr some_left
    have output : (c.handleWrite k).outputBuffer.readable =
        c.outputBuffer.readable.drop (k.accepted c.outputBuffer.readableBytes) := by
      rw [handleWrite_writing writing]
      dsimp only
      split
      · simp
      · next none => simp [Nat.eq_zero_of_not_pos none]
    have drained : (c.handleWrite k).outputBuffer.readable = [] ↔ c.drains k := by
      rw [output, List.drop_eq_nil_iff, Buffer.readable_length, drains]
      omega
    have channel : (c.handleWrite k).channel =
        if c.drains k then c.channel.disableWriting else c.channel := by
      rw [handleWrite_writing writing]
    have noted : (c.handleWrite k).notes = c.notes ++ .wrote k c.outputBuffer.readable ::
        ((if c.drains k ∧ c.writeCompleteCallback then [.queued .writeCompleteCallback] else []) ++
          if c.drains k ∧ c.state = .kDisconnecting then [.shutdownWrite .kDisconnecting []]
          else []) := by
      rw [handleWrite_writing writing]
    constructor
    · refine
        { stream := ?_
          writing := fun _ left => ?_
          pending := fun busy empty => ?_
          halfClose := fun n mem => ?_ }
      · have wired : wire (c.handleWrite k).notes = wire c.notes ++
            c.outputBuffer.readable.take (k.accepted c.outputBuffer.readableBytes) := by
          rw [noted, ← List.singleton_append, wire_append, wire_append, wire_append]
          split <;> split <;> simp [wire]
        have taken : given (c.handleWrite k).notes = given c.notes := by
          rw [noted, ← List.singleton_append, given_append, given_append, given_append]
          split <;> split <;> simp [given]
        rw [wired, taken, output, List.append_assoc, List.take_append_drop]
        exact flow.stream
      · rw [channel, if_neg (mt drained.mpr left)]
        exact writing
      · rw [channel, if_pos (drained.mp empty), Channel.isWriting_disableWriting] at busy
        exact absurd busy (by decide)
      · rw [noted] at mem
        rcases List.mem_append.mp mem with old | new
        · exact flow.halfClose n old
        rcases List.mem_cons.mp new with rfl | new
        · trivial
        rcases List.mem_append.mp new with new | new
        · rw [List.mem_singleton.mp (List.mem_ite_nil_right.mp new).2]
          trivial
        · rw [List.mem_singleton.mp (List.mem_ite_nil_right.mp new).2]
          exact fun _ => ⟨rfl, rfl⟩
    · refine ⟨_, noted, ?_⟩
      rw [drained]
      constructor
      · intro mem
        have both : c.drains k ∧ c.writeCompleteCallback = true := by
          rcases List.mem_append.mp ((List.mem_cons.mp mem).resolve_left nofun) with mem | mem
          · exact (List.mem_ite_nil_right.mp mem).1
          · cases List.mem_singleton.mp (List.mem_ite_nil_right.mp mem).2
        have answered : k.room ≠ none := fun failed => by
          have := both.1.1
          simp [failed] at this
        exact ⟨both.2, k, _, List.mem_cons_self .., (k.ret_nonneg_iff _).mpr answered, both.1⟩
      · rintro ⟨set, -, -, -, -, drains⟩
        simp [set, drains]

/-! ## The other functions -/

theorem completes_refl (c : TcpConnection) : Completes c.writeCompleteCallback c.notes c :=
  completes_same rfl

/-- A change of the state to `kDisconnecting`, of the tasks or of the queue. -/
theorem Flow.quiet {c c' : TcpConnection} (flow : c.Flow) (notes : c'.notes = c.notes)
    (output : c'.outputBuffer = c.outputBuffer)
    (alive : c'.state ≠ .kDisconnected → c.state ≠ .kDisconnected)
    (writing : c'.channel.isWriting = c.channel.isWriting ∨
      c'.state = .kDisconnected ∧ c'.channel.isWriting = false) :
    c'.Flow ∧ Completes c.writeCompleteCallback c.notes c' := by
  have noted : c'.notes = c.notes ++ [] := by rw [notes, List.append_nil]
  exact ⟨flow.still noted nofun output alive writing, completes_same notes⟩

theorem Flow.popTask {c : TcpConnection} (flow : c.Flow) (rest : List Task) :
    ({ c with tasks := rest } : TcpConnection).Flow :=
  (Flow.quiet flow rfl rfl id (.inl rfl) : ({ c with tasks := rest } : TcpConnection).Flow ∧ _).1

theorem Flow.popFunctor {c : TcpConnection} (flow : c.Flow) (rest : List Functor) :
    ({ c with functors := rest } : TcpConnection).Flow :=
  (Flow.quiet flow rfl rfl id (.inl rfl) :
    ({ c with functors := rest } : TcpConnection).Flow ∧ _).1

theorem Flow.disconnecting {c : TcpConnection} (flow : c.Flow)
    (alive : c.state ≠ .kDisconnected) : (c.setState .kDisconnecting).Flow :=
  (Flow.quiet flow rfl rfl (fun _ => alive) (.inl rfl) :
    (c.setState .kDisconnecting).Flow ∧ _).1

/-- The same with one note. -/
theorem Flow.noted {c c' : TcpConnection} (flow : c.Flow) {n : Note}
    (notes : c'.notes = c.notes ++ [n]) (silent : n.Silent)
    (output : c'.outputBuffer = c.outputBuffer)
    (alive : c'.state ≠ .kDisconnected → c.state ≠ .kDisconnected)
    (writing : c'.channel.isWriting = c.channel.isWriting ∨
      c'.state = .kDisconnected ∧ c'.channel.isWriting = false) :
    c'.Flow ∧ Completes c.writeCompleteCallback c.notes c' := by
  have silent : ∀ m ∈ [n], m.Silent := fun m mem => List.mem_singleton.mp mem ▸ silent
  exact ⟨flow.still notes silent output alive writing, completes_of_silent notes silent⟩

theorem queueInLoop_flow {c : TcpConnection} (flow : c.Flow) {f : Functor}
    (other : f ≠ .writeCompleteCallback) :
    (c.queueInLoop f).Flow ∧ Completes c.writeCompleteCallback c.notes (c.queueInLoop f) := by
  refine flow.noted rfl ?_ rfl id (.inl rfl)
  cases f <;> trivial

theorem handleClose_flow {c : TcpConnection} (flow : c.Flow) :
    c.handleClose.Flow ∧ Completes c.writeCompleteCallback c.notes c.handleClose :=
  flow.noted rfl trivial rfl (fun alive => absurd rfl alive)
    (.inr ⟨rfl, Channel.isWriting_disableAll _⟩)

/-- `shutdownInLoop` half-closes with nothing left to send. -/
theorem shutdownInLoop_flow {c : TcpConnection} (flow : c.Flow)
    (asked : c.state = .kDisconnecting ∨ c.state = .kDisconnected) :
    c.shutdownInLoop.Flow ∧ Completes c.writeCompleteCallback c.notes c.shutdownInLoop := by
  unfold shutdownInLoop
  split
  · exact ⟨flow, c.completes_refl⟩
  · next idle =>
    refine flow.noted rfl (fun alive => ⟨asked.resolve_right alive, ?_⟩) rfl id (.inl rfl)
    by_contra left
    exact idle (flow.writing alive left)

theorem callFunctor_flow {c : TcpConnection} (flow : c.Flow) {k : KernelWrite}
    (answer : NotFatal k) {f : Functor} (established : f ≠ .connectEstablished)
    (asked : f = .shutdownInLoop → c.state = .kDisconnecting ∨ c.state = .kDisconnected) :
    (c.callFunctor k f).Flow ∧
      Completes c.writeCompleteCallback c.notes (c.callFunctor k f) := by
  cases f with
  | sendInLoop call message => exact sendInLoop_flow flow answer call message
  | shutdownInLoop => exact shutdownInLoop_flow flow (asked rfl)
  | forceCloseInLoop =>
    change (forceCloseInLoop c).Flow ∧ Completes _ _ (forceCloseInLoop c)
    unfold forceCloseInLoop
    split
    · exact handleClose_flow flow
    · exact ⟨flow, c.completes_refl⟩
  | startReadInLoop =>
    change (startReadInLoop c).Flow ∧ Completes _ _ (startReadInLoop c)
    unfold startReadInLoop
    split
    · exact flow.quiet rfl rfl id (.inl (Channel.isWriting_enableReading _))
    · exact ⟨flow, c.completes_refl⟩
  | stopReadInLoop =>
    change (stopReadInLoop c).Flow ∧ Completes _ _ (stopReadInLoop c)
    unfold stopReadInLoop
    split
    · exact flow.quiet rfl rfl id (.inl (Channel.isWriting_disableReading _))
    · exact ⟨flow, c.completes_refl⟩
  | connectEstablished => exact absurd rfl established
  | connectDestroyed =>
    change (connectDestroyed c).Flow ∧ Completes _ _ (connectDestroyed c)
    unfold connectDestroyed
    split
    · exact flow.quiet rfl rfl (fun alive => absurd rfl alive)
        (.inr ⟨rfl, Channel.isWriting_disableAll _⟩)
    · exact flow.noted rfl trivial rfl id (.inl rfl)
  | writeCompleteCallback => exact flow.quiet rfl rfl id (.inl rfl)
  | highWaterMarkCallback size => exact flow.quiet rfl rfl id (.inl rfl)

theorem goOn_flow {c : TcpConnection} (flow : c.Flow) (read : KernelRecv) (k : KernelWrite) :
    (c.goOn read k).Flow ∧ Completes c.writeCompleteCallback c.notes (c.goOn read k) := by
  unfold goOn
  split
  · exact ⟨flow, c.completes_refl⟩
  · next callback rest _ =>
    cases callback with
    | close => exact handleClose_flow (flow.popTask rest)
    | error => exact flow.quiet rfl rfl id (.inl rfl)
    | read =>
      simp only [channelCallback, handleRead]
      split
      · exact handleClose_flow (flow.popTask rest)
      · exact flow.quiet rfl rfl id (.inl rfl)
      · exact flow.quiet rfl rfl id (.inl rfl)
    | write => exact handleWrite_flow (flow.popTask rest) k
  · exact flow.quiet rfl rfl id (.inl rfl)
  · exact flow.noted rfl trivial rfl id (.inl rfl)
  · exact flow.noted rfl trivial rfl id (.inl rfl)

end TcpConnection

namespace ConnectionLoop

/-- The answers of the kernel in a step. -/
def Act.NotFatal : Act → Prop
  | .api _ k _ | .goOn _ k | .callFunctor k | .release _ k => TcpConnection.NotFatal k
  | _ => True

instance : DecidablePred Act.NotFatal
  | .api _ k _ | .goOn _ k | .callFunctor k | .release _ k =>
    inferInstanceAs (Decidable (TcpConnection.NotFatal k))
  | .poll _ | .handleEvent | .doPendingFunctors => instDecidableTrue

/-- What is kept in the loop. -/
structure Flow (l : ConnectionLoop) : Prop where
  conn : l.conn.Flow
  established : .connectEstablished ∉ l.queue
  asked : .shutdownInLoop ∈ l.queue →
    l.conn.state = .kDisconnecting ∨ l.conn.state = .kDisconnected

theorem flow_established (writeCompleteCallback highWaterMarkCallback : Bool)
    (highWaterMark : Nat) :
    Flow (established writeCompleteCallback highWaterMarkCallback highWaterMark) where
  conn :=
    { stream := by simp [established, TcpConnection.connectEstablished, TcpConnection.push,
        TcpConnection.mapChannel, TcpConnection.setState, TcpConnection.new, wire, given]
      writing := fun _ left => absurd (Buffer.readable_ofSize _) left
      pending := fun busy => by
        have idle : Channel.new.enableReading.isWriting = false :=
          (Channel.isWriting_enableReading _).trans (by decide)
        exact absurd (busy.symm.trans idle) (by decide)
      halfClose := nofun }
  established := nofun
  asked := nofun

theorem Flow.conn_step {l l' : ConnectionLoop} {a : Act} (flow : Flow l) (answer : a.NotFatal)
    (move : Move l a l') :
    l'.conn.Flow ∧ TcpConnection.Completes l.conn.writeCompleteCallback l.conn.notes l'.conn := by
  have disconnecting (alive : l.conn.state = .kConnected ∨ l.conn.state = .kDisconnecting) :
      (l.conn.setState .kDisconnecting).Flow := by
    apply flow.conn.disconnecting
    intro closed
    rw [closed] at alive
    exact absurd alive (by decide)
  cases move with
  | ignored => exact ⟨flow.conn, l.conn.completes_refl⟩
  | asked known asks =>
    cases asks with
    | shutdown connected =>
      exact TcpConnection.queueInLoop_flow (disconnecting (.inl connected)) (by simp)
    | forceClose alive => exact TcpConnection.queueInLoop_flow (disconnecting alive) (by simp)
    | _ => exact TcpConnection.queueInLoop_flow flow.conn (by simp)
  | ran known asks =>
    cases asks with
    | send n message => exact TcpConnection.sendInLoop_flow flow.conn answer n message
    | shutdown connected =>
      exact TcpConnection.shutdownInLoop_flow (disconnecting (.inl connected)) (.inl rfl)
    | forceClose alive =>
      exact TcpConnection.callFunctor_flow (f := .forceCloseInLoop) (disconnecting alive) answer
        (by simp) (by simp)
    | startRead =>
      exact TcpConnection.callFunctor_flow (f := .startReadInLoop) flow.conn answer (by simp) (by simp)
    | stopRead =>
      exact TcpConnection.callFunctor_flow (f := .stopReadInLoop) flow.conn answer (by simp) (by simp)
  | idle => exact ⟨flow.conn, l.conn.completes_refl⟩
  | ready => exact flow.conn.quiet rfl rfl id (.inl rfl)
  | handled => exact flow.conn.quiet rfl rfl id (.inl rfl)
  | wentOn => exact TcpConnection.goOn_flow flow.conn ..
  | swapped => exact flow.conn.quiet rfl rfl id (.inl rfl)
  | @called k f rest next =>
    have queued : f ∈ l.queue := by simp [ConnectionLoop.queue, next]
    apply TcpConnection.callFunctor_flow (flow.conn.popFunctor rest) answer
    · rintro rfl
      exact flow.established queued
    · rintro rfl
      exact flow.asked queued
  | released => exact TcpConnection.queueInLoop_flow flow.conn (by simp)
  | destroyed =>
    exact TcpConnection.callFunctor_flow (f := .connectDestroyed) flow.conn answer (by simp) (by simp)

theorem StateE.shut_of_age {s : StateE} (old : StateE.kDisconnecting.age ≤ s.age) :
    s = .kDisconnecting ∨ s = .kDisconnected := by
  cases s <;> first | exact .inl rfl | exact .inr rfl | exact absurd old (by decide)

/-- The state only advances, also for the threads that have set it. -/
theorem StateE.shut_of_le {s s' : StateE} (shut : s = .kDisconnecting ∨ s = .kDisconnected)
    (age : s.age ≤ s'.age) : s' = .kDisconnecting ∨ s' = .kDisconnected := by
  refine StateE.shut_of_age (Nat.le_trans ?_ age)
  rcases shut with rfl | rfl <;> decide

theorem Flow.step {l l' : ConnectionLoop} {a : Act} (flow : Flow l) (answer : a.NotFatal)
    (move : Move l a l') : Flow l' := by
  have age := move.age fun mem => absurd mem flow.established
  refine
    { conn := (flow.conn_step answer move).1
      established := fun mem => ?_
      asked := fun mem => ?_ }
  · rcases move.queue mem with mem | callback | ⟨-, c, asks, -⟩ | ⟨other, -⟩
    · exact flow.established mem
    · exact callback
    · cases asks
    · cases other
  · rcases move.queue mem with mem | callback | ⟨-, c, asks, state⟩ | ⟨other, -⟩
    · exact StateE.shut_of_le (flow.asked mem) age
    · exact callback.elim
    · cases asks
      exact .inl state
    · cases other

/-- The outbound stream of an established connection, in every run in which the kernel does not
report that the peer is gone: the stream equation, writing iff something is pending, the
half-close after the last byte, and the callback for a complete write. -/
theorem outbound_stream (writeCompleteCallback highWaterMarkCallback : Bool)
    (highWaterMark : Nat) (acts : List Act) (answers : ∀ a ∈ acts, a.NotFatal) :
    Always step (fun l => l.conn.Streams)
        (established writeCompleteCallback highWaterMarkCallback highWaterMark) acts ∧
      EachStep step (fun l _ l' =>
          TcpConnection.Completes l.conn.writeCompleteCallback l.conn.notes l'.conn)
        (established writeCompleteCallback highWaterMarkCallback highWaterMark) acts := by
  have answered : EachStep step (fun _ a _ => a.NotFatal)
      (established writeCompleteCallback highWaterMarkCallback highWaterMark) acts :=
    EachStep.of_forall answers _
  have init := flow_established writeCompleteCallback highWaterMarkCallback highWaterMark
  constructor
  · exact Always.of_invariant (C := fun _ a _ => a.NotFatal)
      (fun l a l' flow answer moved => Flow.step flow answer (step_cases moved))
      (fun l flow => flow.conn.streams) init answered
  · refine EachStep.of_invariant (C := fun _ a _ => a.NotFatal)
      (fun l a l' (flow : Flow l) answer moved => ?_) init answered
    have move := step_cases moved
    exact ⟨flow.step answer move, (flow.conn_step answer move).2⟩

/-- A message of which the kernel takes two bytes, one that waits behind it, and a shutdown:
the rest of both, and then the half-close, when the socket is writable. -/
def flushedAndShut : List Act :=
  [.goOn (.ok []) ⟨none, .eagain⟩, .api true ⟨some 2, .eagain⟩ (.send 0 [1, 2, 3]),
    .api true ⟨none, .eagain⟩ (.send 1 [4]), .api true ⟨none, .eagain⟩ .shutdown,
    .poll (some pollOut), .handleEvent, .goOn (.ok []) ⟨some 2, .eagain⟩]

theorem outbound_stream_flushedAndShut :
    Always step (fun l => l.conn.Streams) (established true false 0) flushedAndShut ∧
      EachStep step (fun l _ l' =>
          TcpConnection.Completes l.conn.writeCompleteCallback l.conn.notes l'.conn)
        (established true false 0) flushedAndShut :=
  outbound_stream true false 0 flushedAndShut (by decide)

end ConnectionLoop

end NewFramework.Net
