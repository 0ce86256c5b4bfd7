import NewFramework.Lib.Lockstep
import NewFramework.Tstlesrv.ClientCtx

/-!
# Twin contexts

Two contexts (`tstlesrv/clientctx.cpp`) that serve the same descriptor and differ in nothing that an
event looks at: the one may have a write event that was set up in an earlier life, spare room in its
buffers, or an unused `m_rd_app_state`.  Whatever the environment answers, an event leaves them
twins, and the application, the peer and the kernel see the same of both.
-/

namespace NewFramework.Tstlesrv
open NewFramework.Lib NewFramework.Net

/-! ## What is seen of an event -/

/-- The messages handed to the process. -/
def delivered (notes : List Note) : List (List UInt8) :=
  notes.filterMap fun
    | .deliver msg => some msg
    | _ => none

/-- The bytes the kernel accepted for `fd`. -/
def writtenTo (fd : Socket) (notes : List Note) : List UInt8 :=
  notes.flatMap fun
    | .wrote fd' k offered => if fd' = fd then offered.take (k.accepted offered.length) else []
    | _ => []

/-- What shows of one event: messages, bytes on the socket, whether it was closed, and whether
the context is still there. -/
structure Seen where
  delivered : List (List UInt8)
  written : List UInt8
  closed : Bool
  alive : Bool
  deriving DecidableEq

def Context.seen (fd : Socket) (c : Context) : Seen where
  delivered := Tstlesrv.delivered c.notes
  written := writtenTo fd c.notes
  closed := decide (.closed fd ∈ c.notes)
  alive := c.alive

/-- The notes show the same. -/
structure SameSights (fd : Socket) (ns ms : List Note) : Prop where
  delivered : delivered ns = delivered ms
  written : writtenTo fd ns = writtenTo fd ms
  closed : .closed fd ∈ ns ↔ .closed fd ∈ ms

theorem SameSights.refl (fd : Socket) (ns : List Note) : SameSights fd ns ns := ⟨rfl, rfl, Iff.rfl⟩

theorem SameSights.append {fd : Socket} {ns ms ns' ms' : List Note} (first : SameSights fd ns ms)
    (second : SameSights fd ns' ms') : SameSights fd (ns ++ ns') (ms ++ ms') where
  delivered := by
    simpa only [Tstlesrv.delivered, List.filterMap_append] using
      congrArg₂ (· ++ ·) first.delivered second.delivered
  written := by
    simpa only [writtenTo, List.flatMap_append] using
      congrArg₂ (· ++ ·) first.written second.written
  closed := by rw [List.mem_append, List.mem_append, first.closed, second.closed]

theorem SameSights.delNotes (fd : Socket) (opr : Opr) (e e' : Event) :
    SameSights fd (e.delNotes opr) (e'.delNotes opr) := by
  unfold Event.delNotes
  split <;> split <;> exact ⟨rfl, rfl, by simp⟩

/-! ## Twin scenes -/

open Context

/-- The events differ at most in how an event that is not added was set up before. -/
structure SameConn (c d : ConnCtx) : Prop where
  flags : c.flags = d.flags
  sfd : c.sfd = d.sfd
  added : ∀ opr, (c.event opr).added = (d.event opr).added
  event : ∀ opr, (c.event opr).added = true → c.event opr = d.event opr

theorem SameConn.setEvent {c d : ConnCtx} (same : SameConn c d) {e e' : Event} (opr : Opr)
    (added : e.added = e'.added) (event : e.added = true → e = e') :
    SameConn (c.setEvent e opr) (d.setEvent e' opr) where
  flags := by simpa using same.flags
  sfd := by simpa using same.sfd
  added opr' := by
    by_cases this : opr' = opr
    · subst this
      simpa using added
    · rw [c.event_setEvent_ne e this, d.event_setEvent_ne e' this]
      exact same.added opr'
  event opr' := by
    by_cases this : opr' = opr
    · subst this
      simpa using event
    · rw [c.event_setEvent_ne e this, d.event_setEvent_ne e' this]
      exact same.event opr'

theorem SameConn.del {c d : ConnCtx} (same : SameConn c d) {opr : Opr}
    (sane : (c.event opr).assigned = none → (c.event opr).added = false)
    (sane' : (d.event opr).assigned = none → (d.event opr).added = false) :
    SameConn (c.setEvent (c.event opr).del opr) (d.setEvent (d.event opr).del opr) :=
  same.setEvent opr ((del_added sane).trans (del_added sane').symm)
    fun added => absurd ((del_added sane).symm.trans added) (by simp)

theorem SameConn.closed {c d : ConnCtx} (same : SameConn c d)
    (sane : ∀ opr, (c.event opr).assigned = none → (c.event opr).added = false)
    (sane' : ∀ opr, (d.event opr).assigned = none → (d.event opr).added = false) :
    SameConn c.closed d.closed where
  flags := same.flags
  sfd := rfl
  added opr := by
    cases opr with
    | read => exact (del_added (sane .read)).trans (del_added (sane' .read)).symm
    | write => exact (del_added (sane .write)).trans (del_added (sane' .write)).symm
  event opr added := by
    cases opr with
    | read => exact absurd ((del_added (sane .read)).symm.trans added) (by simp)
    | write => exact absurd ((del_added (sane .write)).symm.trans added) (by simp)

structure Twins (fd : Socket) (s r : Scene) : Prop where
  inUse : s.client.isInUse = r.client.isInUse
  conn : SameConn s.client.ctx r.client.ctx
  answers : s.answers = r.answers
  sights : SameSights fd s.notes r.notes
  tidy : Tidy fd s.client
  tidy' : Tidy fd r.client

namespace Twins

variable {fd : Socket} {s r : Scene}

theorem note (twins : Twins fd s r) (n : Note) : Twins fd (s.note n) (r.note n) :=
  { twins with sights := twins.sights.append (.refl fd [n]) }

theorem eventDel (twins : Twins fd s r) (inUse : s.client.isInUse = true) (opr : Opr) :
    Twins fd (s.eventDel opr) (r.eventDel opr) where
  inUse := twins.inUse
  conn := twins.conn.del (twins.tidy.sane opr) (twins.tidy'.sane opr)
  answers := twins.answers
  sights := twins.sights.append (.delNotes fd opr _ _)
  tidy := twins.tidy.eventDel inUse opr
  tidy' := twins.tidy'.eventDel (twins.inUse ▸ inUse) opr

theorem flagged (twins : Twins fd s r) (flags : Nat) :
    Twins fd (s.mapCtx fun c => { c with flags := flags })
      (r.mapCtx fun c => { c with flags := flags }) where
  inUse := twins.inUse
  conn := ⟨rfl, twins.conn.sfd, twins.conn.added, twins.conn.event⟩
  answers := twins.answers
  sights := twins.sights
  tidy := ⟨twins.tidy.kind, twins.tidy.wired, twins.tidy.sane, twins.tidy.quiet, twins.tidy.own⟩
  tidy' := ⟨twins.tidy'.kind, twins.tidy'.wired, twins.tidy'.sane, twins.tidy'.quiet,
    twins.tidy'.own⟩

/-- Both set the same event to the same value. -/
theorem setEvent (twins : Twins fd s r) (inUse : s.client.isInUse = true) {opr : Opr} {a : Assigned}
    (own : a.handler = opr) (added : Bool) :
    Twins fd (s.mapCtx fun c => c.setEvent ⟨some a, added⟩ opr)
      (r.mapCtx fun c => c.setEvent ⟨some a, added⟩ opr) where
  inUse := twins.inUse
  conn := twins.conn.setEvent opr rfl fun _ => rfl
  answers := twins.answers
  sights := twins.sights
  tidy := twins.tidy.setEvent inUse (fun _ held => Option.some.inj held ▸ own) (by simp)
  tidy' := twins.tidy'.setEvent (twins.inUse ▸ inUse) (fun _ held => Option.some.inj held ▸ own)
    (by simp)

theorem eventAssign (twins : Twins fd s r) (inUse : s.client.isInUse = true) {opr : Opr}
    {a : Assigned} (own : a.handler = opr) :
    Twins fd (s.eventAssign opr a) (r.eventAssign opr a) := by
  have same : SameSights fd ((s.client.ctx.event opr).assignNotes opr)
      ((r.client.ctx.event opr).assignNotes opr) := by
    unfold Event.assignNotes
    rw [twins.conn.added opr]
    exact .refl fd _
  exact { twins.setEvent inUse own false with sights := twins.sights.append same }

theorem reassigned (twins : Twins fd s r) (inUse : s.client.isInUse = true) (flags : Nat)
    (opr : Opr) : Twins fd (s.reassigned flags opr) (r.reassigned flags opr) := by
  unfold Scene.reassigned
  dsimp only
  by_cases pending : s.client.ctx.flags ≠ 0
  · have deleted := (twins.eventDel inUse opr).flagged flags
    rw [if_pos pending, if_pos (twins.conn.flags ▸ pending)]
    rw [deleted.conn.sfd]
    exact deleted.eventAssign inUse rfl
  · have flagged := twins.flagged flags
    rw [if_neg pending, if_neg (twins.conn.flags ▸ pending)]
    rw [flagged.conn.sfd]
    exact flagged.eventAssign inUse rfl

/-- `set_ctx_flags_ctxnew` takes twins the same way. -/
theorem flagsSet (twins : Twins fd s r) (inUse : s.client.isInUse = true) {flags : Nat} {opr : Opr}
    {a : EventAnswers} {x y : Bool × Scene} (done : Scene.FlagsSet flags opr a s x)
    (done' : Scene.FlagsSet flags opr a r y) :
    x.1 = y.1 ∧ Twins fd x.2 y.2 ∧ x.2.client.isInUse = true := by
  have same := twins.conn.flags
  cases done with
  | same flagged =>
    cases done' with
    | same => exact ⟨rfl, twins, inUse⟩
    | delFailed other | addFailed other | added other => exact absurd (same ▸ flagged) other
  | delFailed other pending failed =>
    cases done' with
    | same flagged => exact absurd (same.trans flagged) other
    | delFailed => exact ⟨rfl, (twins.eventDel inUse opr).note _, inUse⟩
    | addFailed _ deleted | added _ deleted =>
      exact absurd (deleted (same ▸ pending)) (by simp [failed])
  | addFailed other deleted failed =>
    have used := (twins.tidy.reassigned inUse flags opr).2
    cases done' with
    | same flagged => exact absurd (same.trans flagged) other
    | delFailed _ pending failed' =>
      exact absurd (deleted (by rw [same]; exact pending)) (by simp [failed'])
    | addFailed => exact ⟨rfl, (twins.reassigned inUse flags opr).note _, used⟩
    | added _ _ good => exact absurd good (by simp [failed])
  | added other deleted good =>
    have used := (twins.tidy.reassigned inUse flags opr).2
    cases done' with
    | same flagged => exact absurd (same.trans flagged) other
    | delFailed _ pending failed' =>
      exact absurd (deleted (by rw [same]; exact pending)) (by simp [failed'])
    | addFailed _ _ failed => exact absurd good (by simp [failed])
    | added =>
      refine ⟨rfl, ?_, used⟩
      rw [Scene.eventAdd_reassigned, Scene.eventAdd_reassigned, twins.conn.sfd]
      exact (twins.reassigned inUse flags opr).setEvent used rfl true

theorem setRead (twins : Twins fd s r) (inUse : s.client.isInUse = true) :
    s.setReadCtxnew.1 = r.setReadCtxnew.1 ∧ Twins fd s.setReadCtxnew.2 r.setReadCtxnew.2 ∧
      s.setReadCtxnew.2.client.isInUse = true :=
  twins.flagsSet inUse s.setReadCtxnew_flagsSet (twins.answers ▸ r.setReadCtxnew_flagsSet)

theorem onClosesocket (twins : Twins fd s r) : Twins fd s.onClosesocket r.onClosesocket := by
  have tidy := twins.tidy.onClosesocket
  have tidy' := twins.tidy'.onClosesocket
  rw [s.onClosesocket_eq] at tidy ⊢
  rw [r.onClosesocket_eq] at tidy' ⊢
  refine ⟨rfl, twins.conn.closed twins.tidy.sane twins.tidy'.sane, twins.answers, ?_, tidy, tidy'⟩
  apply twins.sights.append
  unfold ConnCtx.closeNotes
  rw [twins.conn.sfd]
  exact (((SameSights.delNotes fd .read _ _).append (.delNotes fd .write _ _)).append
    (.refl fd _)).append (.refl fd _)

theorem onSetwritestate (twins : Twins fd s r) (inUse : s.client.isInUse = true) :
    Twins fd s.onSetwritestate r.onSetwritestate := by
  obtain ⟨result, flagged, -⟩ := twins.flagsSet inUse s.setWriteCtxnew_flagsSet
    (twins.answers ▸ r.setWriteCtxnew_flagsSet)
  unfold Scene.onSetwritestate
  dsimp only
  rw [result]
  split
  · exact flagged
  · exact (flagged.note _).onClosesocket

theorem closeSocket (twins : Twins fd s r) :
    Twins fd (ctxSlots.closeSocket s) (ctxSlots.closeSocket r) :=
  (twins.note _).onClosesocket

theorem setWriteState (twins : Twins fd s r) (inUse : s.client.isInUse = true) :
    Twins fd (ctxSlots.setWriteState s) (ctxSlots.setWriteState r) :=
  (twins.note _).onSetwritestate inUse

theorem wrote (twins : Twins fd s r) (socket : Socket) (k : KernelWrite) (offered : List UInt8) :
    Twins fd (ctxSlots.wrote socket k offered s) (ctxSlots.wrote socket k offered r) :=
  twins.note _

end Twins

/-! ## Twin transports -/

/-- Between two frames, on `fd`. -/
structure BetweenFrames (fd : Socket) (t : CFrameTransport) : Prop where
  state : t.rdSockState = .recvFraming
  empty : t.inBuffer.readableBytes = 0
  own : t.SocketOk fd
  unprepended : t.inBuffer.Unprepended

/-- Inside a body of `n` bytes, on `fd`. -/
structure InsideBody (fd : Socket) (n : Nat) (t : CFrameTransport) : Prop where
  state : t.rdSockState = .recv
  app : t.rdAppState = .readRequest
  want : t.readWant = n
  fits : n < 2 ^ 31
  unread : t.inBuffer.readableBytes < n
  announced : t.inBuffer.peekInt32FromReserve = n
  socket : t.socket = fd
  unprepended : t.inBuffer.Unprepended

/-- The transports read and write alike.  Between two frames the first reserved byte does not
matter: the next `recv` overwrites it. -/
inductive Alike (fd : Socket) (t u : CFrameTransport) : Prop where
  | between (here : BetweenFrames fd t) (here' : BetweenFrames fd u)
      (reserved : t.inBuffer.reserve.drop 1 = u.inBuffer.reserve.drop 1)
      (unsent : t.outputBuffer.readable = u.outputBuffer.readable)
  | inside (n : Nat) (here : InsideBody fd n t) (here' : InsideBody fd n u)
      (content : t.inBuffer.readable = u.inBuffer.readable)
      (reserved : t.inBuffer.reserve = u.inBuffer.reserve)
      (unsent : t.outputBuffer.readable = u.outputBuffer.readable)

/-- Twin contexts: while they are in use their transports are alike, and their write event is
added only once they have read from `fd`. -/
structure Paired (fd : Socket) (t u : CFrameTransport) (s r : Scene) : Prop where
  twins : Twins fd s r
  alike : s.client.isInUse = true → Alike fd t u
  bound : s.client.isInUse = true → s.client.ctx.wrEvent.added = true →
    t.socket = fd ∧ u.socket = fd

/-- A closed pair. -/
theorem Paired.closed {fd : Socket} {t u : CFrameTransport} {s r : Scene} (twins : Twins fd s r) :
    Paired fd t u (ctxSlots.closeSocket s) (ctxSlots.closeSocket r) := by
  have idle : (ctxSlots.closeSocket s).client.isInUse = false := by rw [closeSocket_ctxSlots]
  exact ⟨twins.closeSocket, fun used => by simp [idle] at used, fun used => by simp [idle] at used⟩

/-- A positive value of the length field takes a transport into the body. -/
theorem BetweenFrames.insideBody {fd : Socket} {t : CFrameTransport} {data : List UInt8} {want : Int}
    (here : BetweenFrames fd t) (short : data.length ≤ 4) (value : t.headerWant data = want)
    (positive : ¬ want ≤ 0) :
    InsideBody fd want.toNat { t with
      inBuffer := t.inBuffer.storeAtBegin data
      socket := fd
      readWant := want
      rdSockState := .recv
      rdAppState := .readRequest } := by
  have small : want < 2 ^ 31 := value ▸ toInt_lt (by omega) _
  have natural : (want.toNat : Int) = want := Int.toNat_of_nonneg (by omega)
  refine ⟨rfl, rfl, natural.symm, by omega, ?_, ?_, rfl, here.unprepended.storeAtBegin data⟩
  · rw [← Buffer.readable_length, Buffer.readable_storeAtBegin here.unprepended
      (by unfold kCheapPrepend; omega), Buffer.readable_length, here.empty]
    omega
  · rw [natural, ← value, Buffer.peekInt32FromReserve, Buffer.reserve_storeAtBegin _ short,
      CFrameTransport.headerWant]

section Events

variable {fd : Socket} {t u : CFrameTransport} {s r : Scene}

theorem Twins.writeBuffer (twins : Twins fd s r) (inUse : s.client.isInUse = true)
    (socket : t.socket = u.socket) (k : KernelWrite) (buf : List UInt8) :
    Twins fd (t.writeBuffer ctxSlots k buf s).2.2 (u.writeBuffer ctxSlots k buf r).2.2 := by
  have wrote := twins.wrote u.socket k buf
  rw [t.writeBuffer_owner, u.writeBuffer_owner, socket]
  split
  · exact wrote.setWriteState inUse
  · exact wrote

/-- `write_buffer` keeps what waits to be sent the same. -/
theorem writeBuffer_unsent (unsent : t.outputBuffer.readable = u.outputBuffer.readable)
    (k : KernelWrite) (buf : List UInt8) (s r : Scene) :
    ∃ o o', o.readable = o'.readable ∧
      (t.writeBuffer ctxSlots k buf s).2.1 = { t with outputBuffer := o } ∧
      (u.writeBuffer ctxSlots k buf r).2.1 = { u with outputBuffer := o' } := by
  have out := t.writeBuffer_readable ctxSlots k buf s
  have out' := u.writeBuffer_readable ctxSlots k buf r
  obtain ⟨o, left⟩ := t.writeBuffer_transport ctxSlots k buf s
  obtain ⟨o', left'⟩ := u.writeBuffer_transport ctxSlots k buf r
  rw [left] at out
  rw [left'] at out'
  exact ⟨o, o', by rw [out, out', unsent], left, left'⟩

/-- Both take the same message: they deliver and echo it, and are between two frames. -/
theorem Paired.readSocketDone {t₁ u₁ : CFrameTransport} {msg : List UInt8} (twins : Twins fd s r)
    (inUse : s.client.isInUse = true) (got : t.getMsg = some (msg, t₁))
    (got' : u.getMsg = some (msg, u₁)) (some_bytes : msg ≠ [])
    (bound : t₁.socket = fd ∧ u₁.socket = fd)
    (empty : t₁.inBuffer.readableBytes = 0 ∧ u₁.inBuffer.readableBytes = 0)
    (unprepended : t₁.inBuffer.Unprepended ∧ u₁.inBuffer.Unprepended)
    (reserved : t₁.inBuffer.reserve = u₁.inBuffer.reserve)
    (unsent : t₁.outputBuffer.readable = u₁.outputBuffer.readable) :
    ∃ x y, ctxSlots.readSocketDone t s = some x ∧ ctxSlots.readSocketDone u r = some y ∧
      Paired fd
        { x.1 with rdSockState := .recvFraming, rdAppState := .readFrameSize, readWant := 0 }
        { y.1 with rdSockState := .recvFraming, rdAppState := .readFrameSize, readWant := 0 }
        x.2 y.2 := by
  obtain ⟨-, told, used⟩ := (twins.note (.signal .readSocketDone)).setRead inUse
  generalize heard : (s.note (.signal .readSocketDone)).setReadCtxnew.2 = s₁ at told used
  generalize heard' : (r.note (.signal .readSocketDone)).setReadCtxnew.2 = r₁ at told
  refine ⟨_, _, readSocketDone_ctxSlots got some_bytes heard,
    readSocketDone_ctxSlots got' some_bytes heard', ?_⟩
  rw [told.answers]
  have sent : Twins fd (t₁.writeBuffer ctxSlots r₁.answers.write msg (s₁.note (.deliver msg))).2.2
      (u₁.writeBuffer ctxSlots r₁.answers.write msg (r₁.note (.deliver msg))).2.2 :=
    (told.note _).writeBuffer used (bound.1.trans bound.2.symm) _ _
  obtain ⟨o, o', same, left, left'⟩ := writeBuffer_unsent unsent r₁.answers.write msg
    (s₁.note (.deliver msg)) (r₁.note (.deliver msg))
  refine ⟨sent, ?_, ?_⟩
  · intro _
    rw [left, left']
    exact .between ⟨rfl, empty.1, .inr (.inr bound.1), unprepended.1⟩
      ⟨rfl, empty.2, .inr (.inr bound.2), unprepended.2⟩ (by rw [reserved]) same
  · intro _ _
    rw [left, left']
    exact bound

/-- A read event between two frames. -/
theorem Paired.header (twins : Twins fd s r) (here : BetweenFrames fd t)
    (here' : BetweenFrames fd u)
    (reserved : t.inBuffer.reserve.drop 1 = u.inBuffer.reserve.drop 1)
    (unsent : t.outputBuffer.readable = u.outputBuffer.readable) (answers : Nat → KernelRecv) :
    Option.Rel (fun x y => Paired fd x.1 y.1 x.2 y.2) (t.readSocket ctxSlots answers fd s)
      (u.readSocket ctxSlots answers fd r) := by
  rw [CFrameTransport.readSocket_header_eq ctxSlots here.own here.state here.empty here.unprepended,
    CFrameTransport.readSocket_header_eq ctxSlots here'.own here'.state here'.empty
      here'.unprepended]
  rcases Option.eq_none_or_eq_some (CFrameTransport.readSockBufferLen fd answers 4) with
    received | ⟨data, received⟩
  · simp only [received, Option.rel_some_some]
    exact .closed twins
  have short := CFrameTransport.readSockBufferLen_length received
  cases data with
  | nil =>
    simp only [received, Option.rel_some_some]
    exact .closed twins
  | cons byte rest =>
    have drop : t.inBuffer.reserve.drop (byte :: rest).length =
        u.inBuffer.reserve.drop (byte :: rest).length := by
      rw [List.length_cons, Nat.add_comm, ← List.drop_drop, ← List.drop_drop, reserved]
    have want : t.headerWant (byte :: rest) = u.headerWant (byte :: rest) := by
      rw [CFrameTransport.headerWant, CFrameTransport.headerWant, drop]
    simp only [received, want]
    by_cases positive : u.headerWant (byte :: rest) ≤ 0
    · simp only [if_pos positive, Option.rel_some_some]
      exact .closed twins
    · simp only [if_neg positive, Option.rel_some_some]
      refine ⟨twins, fun _ => .inside _ (here.insideBody short want positive)
        (here'.insideBody short rfl positive) ?_ ?_ unsent, fun _ _ => ⟨rfl, rfl⟩⟩
      · have fits : (byte :: rest).length ≤ kCheapPrepend := by unfold kCheapPrepend; omega
        rw [Buffer.readable_storeAtBegin here.unprepended fits,
          Buffer.readable_storeAtBegin here'.unprepended fits,
          (Buffer.readable_eq_nil _).mpr here.empty, (Buffer.readable_eq_nil _).mpr here'.empty]
      · rw [Buffer.reserve_storeAtBegin _ short, Buffer.reserve_storeAtBegin _ short, drop]

/-- A read event inside a body. -/
theorem Paired.body {n : Nat} (twins : Twins fd s r) (inUse : s.client.isInUse = true)
    (here : InsideBody fd n t) (here' : InsideBody fd n u)
    (content : t.inBuffer.readable = u.inBuffer.readable)
    (reserved : t.inBuffer.reserve = u.inBuffer.reserve)
    (unsent : t.outputBuffer.readable = u.outputBuffer.readable) (answers : Nat → KernelRecv) :
    Option.Rel (fun x y => Paired fd x.1 y.1 x.2 y.2) (t.readSocket ctxSlots answers fd s)
      (u.readSocket ctxSlots answers fd r) := by
  have own : t.SocketOk fd := .inr (.inr here.socket)
  have own' : u.SocketOk fd := .inr (.inr here'.socket)
  have level : t.inBuffer.readableBytes = u.inBuffer.readableBytes := by
    rw [← Buffer.readable_length, ← Buffer.readable_length, content]
  rcases Option.eq_none_or_eq_some
    (CFrameTransport.readSockBufferLen fd answers (n - t.inBuffer.readableBytes)) with
    received | ⟨data, received⟩
  · obtain ⟨t', left⟩ := CFrameTransport.readSocket_body_failed ctxSlots s own here.state here.want
      here.fits here.unread (.inl received)
    obtain ⟨u', left'⟩ := CFrameTransport.readSocket_body_failed ctxSlots r own' here'.state
      here'.want here'.fits here'.unread (.inl (level ▸ received))
    simp only [left, left', Option.rel_some_some]
    exact .closed twins
  by_cases some_data : data = []
  · subst some_data
    obtain ⟨t', left⟩ := CFrameTransport.readSocket_body_failed ctxSlots s own here.state here.want
      here.fits here.unread (.inr received)
    obtain ⟨u', left'⟩ := CFrameTransport.readSocket_body_failed ctxSlots r own' here'.state
      here'.want here'.fits here'.unread (.inr (level ▸ received))
    simp only [left, left', Option.rel_some_some]
    exact .closed twins
  obtain ⟨b, readable, reserve, unprepended, left⟩ := CFrameTransport.readSocket_body ctxSlots s own
    here.state here.app here.want here.fits here.unread received some_data here.unprepended
  obtain ⟨b', readable', reserve', unprepended', left'⟩ := CFrameTransport.readSocket_body ctxSlots r
    own' here'.state here'.app here'.want here'.fits here'.unread (level ▸ received) some_data
    here'.unprepended
  have same : b.readable = b'.readable := by rw [readable, readable', content]
  have kept : b.reserve = b'.reserve := by rw [reserve, reserve', reserved]
  have announced : b.peekInt32FromReserve = n := by
    rw [Buffer.peekInt32FromReserve, reserve, ← Buffer.peekInt32FromReserve, here.announced]
  have announced' : b'.peekInt32FromReserve = n := by
    rw [Buffer.peekInt32FromReserve, reserve', ← Buffer.peekInt32FromReserve, here'.announced]
  have length : b.readableBytes = t.inBuffer.readableBytes + data.length := by
    rw [← Buffer.readable_length, readable, List.length_append, Buffer.readable_length]
  have length' : b'.readableBytes = t.inBuffer.readableBytes + data.length := by
    rw [← Buffer.readable_length, ← same, Buffer.readable_length, length]
  have short := CFrameTransport.readSockBufferLen_length received
  have unread := here.unread
  rw [left, left', ← level]
  by_cases last : n ≤ t.inBuffer.readableBytes + data.length
  · have whole : b.readableBytes = n := by omega
    have whole' : b'.readableBytes = n := by omega
    have some_bytes : b.readable ≠ [] := by
      rw [ne_eq, Buffer.readable_eq_nil]
      omega
    have got' := CFrameTransport.getMsg_eq (t := { u with inBuffer := b', socket := fd }) here.fits
      announced' whole'
    simp only [← same] at got'
    obtain ⟨x, y, hx, hy, paired⟩ := Paired.readSocketDone twins inUse
      (CFrameTransport.getMsg_eq (t := { t with inBuffer := b, socket := fd }) here.fits
        announced whole) got' some_bytes ⟨rfl, rfl⟩
      ⟨by simp [whole], by simp [whole']⟩ ⟨unprepended.retrieve n, unprepended'.retrieve n⟩
      (by simp [kept]) unsent
    rw [if_pos last, if_pos last, hx, hy, Option.map_some, Option.map_some, Option.rel_some_some]
    exact paired
  · rw [if_neg last, if_neg last, Option.rel_some_some]
    refine ⟨twins, fun _ => .inside n
      ⟨here.state, here.app, here.want, here.fits, by simp only; omega, announced, rfl, unprepended⟩
      ⟨here'.state, here'.app, here'.want, here'.fits, by simp only; omega, announced', rfl,
        unprepended'⟩ same kept unsent, fun _ _ => ⟨rfl, rfl⟩⟩

theorem Alike.output {o o' : Buffer} (alike : Alike fd t u) (unsent : o.readable = o'.readable) :
    Alike fd { t with outputBuffer := o } { u with outputBuffer := o' } := by
  cases alike with
  | between here here' reserved =>
    exact .between ⟨here.state, here.empty, here.own, here.unprepended⟩
      ⟨here'.state, here'.empty, here'.own, here'.unprepended⟩ reserved unsent
  | inside n here here' content reserved =>
    exact .inside n
      ⟨here.state, here.app, here.want, here.fits, here.unread, here.announced, here.socket,
        here.unprepended⟩
      ⟨here'.state, here'.app, here'.want, here'.fits, here'.unread, here'.announced, here'.socket,
        here'.unprepended⟩ content reserved unsent

theorem Alike.unsent (alike : Alike fd t u) :
    t.outputBuffer.readable = u.outputBuffer.readable := by
  cases alike <;> assumption

/-- A write event on `fd`. -/
theorem Paired.write (twins : Twins fd s r) (alike : Alike fd t u)
    (bound : t.socket = fd ∧ u.socket = fd) (k : KernelWrite) :
    Paired fd (t.writeSocket ctxSlots k fd s).1 (u.writeSocket ctxSlots k fd r).1
      (t.writeSocket ctxSlots k fd s).2 (u.writeSocket ctxSlots k fd r).2 := by
  have length : t.outputBuffer.readableBytes = u.outputBuffer.readableBytes := by
    rw [← Buffer.readable_length, ← Buffer.readable_length, alike.unsent]
  have wrote : Twins fd (ctxSlots.wrote t.socket k t.outputBuffer.readable s)
      (ctxSlots.wrote u.socket k u.outputBuffer.readable r) := by
    rw [bound.1, bound.2, alike.unsent]
    exact twins.wrote fd k u.outputBuffer.readable
  unfold CFrameTransport.writeSocket CFrameTransport.wrTransition
  rw [if_neg (not_not_intro bound.1), if_neg (not_not_intro bound.2), length]
  dsimp only
  generalize ctxSlots.wrote t.socket k t.outputBuffer.readable s = s₁ at wrote ⊢
  generalize ctxSlots.wrote u.socket k u.outputBuffer.readable r = r₁ at wrote ⊢
  split
  · have left : (t.outputBuffer.retrieve (k.ret u.outputBuffer.readableBytes).toNat).readable =
        (u.outputBuffer.retrieve (k.ret u.outputBuffer.readableBytes).toNat).readable := by
      rw [Buffer.readable_retrieve, Buffer.readable_retrieve, alike.unsent]
    have drained : (t.outputBuffer.retrieve (k.ret u.outputBuffer.readableBytes).toNat).readableBytes =
        (u.outputBuffer.retrieve (k.ret u.outputBuffer.readableBytes).toNat).readableBytes := by
      rw [← Buffer.readable_length, left, Buffer.readable_length]
    rw [drained]
    split
    · exact ⟨wrote.note _, fun _ => alike.output left, fun _ _ => bound⟩
    · exact ⟨wrote, fun _ => alike.output left, fun _ _ => bound⟩
  · dsimp only
    exact .closed wrote

/-- The handler of an added event. -/
theorem Paired.readHandler (paired : Paired fd t u s r) (inUse : s.client.isInUse = true)
    (efd : Socket) :
    Option.Rel (fun x y => Paired fd x.1 y.1 x.2 y.2) (readHandler efd t s) (readHandler efd u r) := by
  have twins := paired.twins
  unfold Tstlesrv.readHandler
  rw [← twins.conn.sfd, twins.answers]
  split
  · exact .some paired
  · next own =>
    obtain rfl : efd = fd := (not_not.mp own).trans (twins.tidy.own inUse)
    cases paired.alike inUse with
    | between here here' reserved unsent => exact Paired.header twins here here' reserved unsent _
    | inside n here here' content reserved unsent =>
      exact Paired.body twins inUse here here' content reserved unsent _

theorem Paired.writeHandler (paired : Paired fd t u s r) (inUse : s.client.isInUse = true)
    (added : s.client.ctx.wrEvent.added = true) (efd : Socket) :
    Paired fd (writeHandler efd t s).1 (writeHandler efd u r).1 (writeHandler efd t s).2
      (writeHandler efd u r).2 := by
  have twins := paired.twins
  unfold Tstlesrv.writeHandler
  rw [← twins.conn.sfd, twins.answers]
  split
  · exact paired
  · next own =>
    obtain rfl : efd = fd := (not_not.mp own).trans (twins.tidy.own inUse)
    exact .write twins (paired.alike inUse) (paired.bound inUse added) _

theorem Paired.answered (paired : Paired fd t u s r) (a : Answers) :
    Paired fd t u ⟨s.client, a, []⟩ ⟨r.client, a, []⟩ where
  twins := { paired.twins with answers := rfl, sights := .refl fd [] }
  alike := paired.alike
  bound := paired.bound

end Events

/-! ## Twin contexts in lockstep -/

namespace Context

/-- The events of a context, as the machine's labels. -/
def stepEvent (c : Context) (event : Opr × Answers) : Option Context :=
  c.step (.event event.1 event.2)

structure TwinContexts (fd : Socket) (c d : Context) : Prop where
  alive : c.alive = d.alive
  paired : ∀ a, Paired fd c.transport d.transport (c.scene a) (d.scene a)

theorem TwinContexts.after {fd : Socket} {c d : Context} (twins : TwinContexts fd c d)
    {x y : Option (CFrameTransport × Scene)}
    (handled : Option.Rel (fun x y => Paired fd x.1 y.1 x.2 y.2) x y) :
    TwinContexts fd (c.after x) (d.after y) ∧ (c.after x).seen fd = (d.after y).seen fd := by
  cases handled with
  | none => exact ⟨⟨rfl, twins.paired⟩, rfl⟩
  | some paired =>
    have sights := paired.twins.sights
    refine ⟨⟨twins.alive, fun a => paired.answered a⟩, ?_⟩
    exact Seen.mk.injEq .. ▸
      ⟨sights.delivered, sights.written, decide_eq_decide.mpr sights.closed, twins.alive⟩

theorem lockstep_twinContexts (fd : Socket) :
    Lockstep stepEvent (seen fd) (TwinContexts fd) := by
  rintro c d ⟨opr, a⟩ twins
  have paired := twins.paired a
  have conn := paired.twins.conn
  unfold stepEvent
  by_cases enabled : c.alive = true ∧ (c.client.ctx.event opr).added = true
  · obtain ⟨alive, added⟩ := enabled
    obtain ⟨e, assigned⟩ : ∃ e, (c.client.ctx.event opr).assigned = some e := by
      cases set : (c.client.ctx.event opr).assigned with
      | none => exact absurd (paired.twins.tidy.sane opr set) (by simp [scene, added])
      | some e => exact ⟨e, rfl⟩
    have inUse := paired.twins.tidy.inUse added
    have same : c.client.ctx.event opr = d.client.ctx.event opr := conn.event opr added
    rw [step_event_eq assigned alive added,
      step_event_eq (same ▸ assigned) (twins.alive ▸ alive) (same ▸ added), Option.rel_some_some]
    have handler := paired.twins.tidy.wired opr e assigned
    cases opr with
    | read =>
      rw [handle_read handler, handle_read handler]
      exact twins.after (paired.readHandler inUse e.fd)
    | write =>
      rw [handle_write handler, handle_write handler]
      exact twins.after (.some (paired.writeHandler inUse added e.fd))
  · have still : ¬ (d.alive = true ∧ (d.client.ctx.event opr).added = true) := by
      rw [← twins.alive]
      exact fun h => enabled ⟨h.1, (conn.added opr).trans h.2⟩
    rw [step_event_none enabled, step_event_none still]
    exact .none

end Context

end NewFramework.Tstlesrv
