import NewFramework.Tstlesrv.FrameTransport

/-!
# `ClientCtx`

A client context (`tstlesrv/clientctx.cpp`): the transport of one connection together with its two
libevent events.  The slots it connects to the transport's signals run on a `Scene`, which is the
context without its transport (`m_transport` is in the hands of the function that raised the
signal), the answers of its environment to the present event, and notes of what was done.

libevent is what its documentation says: `event_assign` sets an event up, `event_add` puts it
into the set of monitored events, `event_del` takes it out.  Each call reports a failure when
the environment says so; an `event_del` of an event that was never set up reads uninitialised
memory, so it is noted as a misuse and may report anything.
-/

namespace NewFramework.Tstlesrv
open NewFramework.Lib NewFramework.Net

/-! ## libevent -/

def evRead : Nat := 0x02
def evWrite : Nat := 0x04
def evPersist : Nat := 0x10

/-- `read_flag` and `write_flag`: the two events of a context and their handlers. -/
inductive Opr where
  | read
  | write
  deriving DecidableEq, Repr

/-- What `event_assign` stores in an event. -/
structure Assigned where
  fd : Socket
  flags : Nat
  handler : Opr
  deriving DecidableEq, Repr

/-- `struct event`, with its place in the set of its base. -/
structure Event where
  assigned : Option Assigned
  added : Bool
  deriving DecidableEq, Repr

/-- An event in memory that nothing has initialised. -/
def Event.uninit : Event := ⟨none, false⟩

/-- The signals of `BaseTransport` a context is connected to. -/
inductive Signal where
  | closeSocket
  | readSocketDone
  | setWriteState
  | setReadState
  | clearWriteEvent
  deriving DecidableEq, Repr

/-- What happened while an event was handled. -/
inductive Note where
  | signal (s : Signal)
  /-- a whole message was handed to the process -/
  | deliver (msg : List UInt8)
  | wrote (fd : Socket) (k : KernelWrite) (offered : List UInt8)
  /-- `event_del` or `event_add` failed in `set_ctx_flags_ctxnew` -/
  | libeventFailed
  /-- the `bad callback` branch of `on_setwritestate` -/
  | badCallback
  /-- `event_del` on an event that was never set up -/
  | delUnset (opr : Opr)
  /-- `event_assign` on an event that is still added -/
  | assignAdded (opr : Opr)
  /-- `close(fd)` -/
  | closed (fd : Socket)
  /-- `return_clientctx(this)` -/
  | returned
  deriving DecidableEq

/-- `event_del` takes a set-up event out of the set, whatever it returns. -/
def Event.del (e : Event) : Event := if e.assigned = none then e else { e with added := false }

def Event.delNotes (opr : Opr) (e : Event) : List Note :=
  if e.assigned = none then [.delUnset opr] else []

def Event.assignNotes (opr : Opr) (e : Event) : List Note :=
  if e.added then [.assignAdded opr] else []

/-- Whether the `event_del` and `event_add` of one call of `set_ctx_flags_ctxnew` succeed. -/
structure EventAnswers where
  del : Bool
  add : Bool
  deriving DecidableEq, Repr

/-- The answers of the environment while one event is handled: to the attempts of a `recv`, to
a `write`, and to libevent calls. -/
structure Answers where
  recv : Nat → KernelRecv
  write : KernelWrite
  setRead : EventAnswers
  setWrite : EventAnswers

/-- An environment in which libevent does what it is asked. -/
def Answers.answering (data : List UInt8) (write : KernelWrite) : Answers where
  recv _ := .ok data
  write := write
  setRead := ⟨true, true⟩
  setWrite := ⟨true, true⟩

/-! ## The context -/

inductive TypeProcess where
  | unknown
  | testProcess
  deriving DecidableEq, Repr

/-- `conn_ctx_t` -/
structure ConnCtx where
  flags : Nat
  sfd : Socket
  rdEvent : Event
  wrEvent : Event
  deriving DecidableEq

def ConnCtx.event (c : ConnCtx) : Opr → Event
  | .read => c.rdEvent
  | .write => c.wrEvent

def ConnCtx.setEvent (c : ConnCtx) (e : Event) : Opr → ConnCtx
  | .read => { c with rdEvent := e }
  | .write => { c with wrEvent := e }

@[simp] theorem ConnCtx.event_setEvent (c : ConnCtx) (e : Event) (opr : Opr) :
    (c.setEvent e opr).event opr = e := by
  cases opr <;> rfl

theorem ConnCtx.event_setEvent_ne (c : ConnCtx) (e : Event) {opr opr' : Opr} (other : opr' ≠ opr) :
    (c.setEvent e opr).event opr' = c.event opr' := by
  cases opr <;> cases opr' <;> first | rfl | exact absurd rfl other

@[simp] theorem ConnCtx.setEvent_sfd (c : ConnCtx) (e : Event) (opr : Opr) :
    (c.setEvent e opr).sfd = c.sfd := by
  cases opr <;> rfl

@[simp] theorem ConnCtx.setEvent_flags (c : ConnCtx) (e : Event) (opr : Opr) :
    (c.setEvent e opr).flags = c.flags := by
  cases opr <;> rfl

/-- `ClientCtx` without `m_transport`; `ctx` is `*m_ctx`. -/
structure ClientCtx where
  isInUse : Bool
  typeProcess : TypeProcess
  sessionID : Int
  notifyID : Int
  ctx : ConnCtx
  deriving DecidableEq

/-- The constructor, with the `conn_ctx_t` that the first `init` allocates: nothing looks at it
before, and its events are left uninitialised. -/
def ClientCtx.new : ClientCtx where
  isInUse := false
  typeProcess := .testProcess
  sessionID := 0
  notifyID := 0
  ctx := ⟨0, invalidSocket, .uninit, .uninit⟩

structure Scene where
  client : ClientCtx
  answers : Answers
  notes : List Note

namespace Scene

def note (s : Scene) (n : Note) : Scene := { s with notes := s.notes ++ [n] }

def mapCtx (s : Scene) (f : ConnCtx → ConnCtx) : Scene :=
  { s with client := { s.client with ctx := f s.client.ctx } }

/-- `event_del` -/
def eventDel (opr : Opr) (s : Scene) : Scene :=
  let e := s.client.ctx.event opr
  { s.mapCtx (fun c => c.setEvent e.del opr) with notes := s.notes ++ e.delNotes opr }

/-- `event_assign` -/
def eventAssign (opr : Opr) (a : Assigned) (s : Scene) : Scene :=
  let e := s.client.ctx.event opr
  { s.mapCtx (fun c => c.setEvent ⟨some a, false⟩ opr) with notes := s.notes ++ e.assignNotes opr }

/-- `event_add` where it succeeds; where it fails the event stays out of the set. -/
def eventAdd (opr : Opr) (s : Scene) : Scene :=
  s.mapCtx fun c => c.setEvent { c.event opr with added := true } opr

/-- `set_ctx_flags_ctxnew(flags, pEvent, oprflag)`, where `pEvent` is the event of `oprflag`. -/
def setCtxFlagsCtxnew (flags : Nat) (opr : Opr) (a : EventAnswers) (s : Scene) : Bool × Scene :=
  if s.client.ctx.flags = flags then (true, s)
  else
    let pending := s.client.ctx.flags ≠ 0
    let s := if pending then s.eventDel opr else s
    if pending ∧ a.del = false then (false, s.note .libeventFailed)
    else
      let s := s.mapCtx fun c => { c with flags := flags }
      if flags = 0 then (true, s)
      else
        let s := s.eventAssign opr ⟨s.client.ctx.sfd, flags, opr⟩
        if a.add then (true, s.eventAdd opr) else (false, s.note .libeventFailed)

def setReadCtxnew (s : Scene) : Bool × Scene :=
  s.setCtxFlagsCtxnew (evPersist + evRead) .read s.answers.setRead

def setWriteCtxnew (s : Scene) : Bool × Scene :=
  s.setCtxFlagsCtxnew (evPersist + evWrite) .write s.answers.setWrite

/-- `set_write_idle_ctxnew()`, whose only statement is commented out. -/
def setWriteIdleCtxnew (s : Scene) : Scene := s

/-- `setSessionID(sessionID)` -/
def setSessionID (sessionID : Int) (s : Scene) : Scene :=
  if sessionID ≤ 0 then s else { s with client := { s.client with sessionID := sessionID } }

/-- `setClientNotifyID(notifyID)` -/
def setClientNotifyID (notifyID : Int) (s : Scene) : Scene :=
  { s with client := { s.client with notifyID := notifyID } }

/-- `shutdown` and `close` of `m_sfd`, unless it is `INVALID_SOCKET` already. -/
def closeSfd (s : Scene) : Scene :=
  if s.client.ctx.sfd ≠ invalidSocket then
    (s.note (.closed s.client.ctx.sfd)).mapCtx fun c => { c with sfd := invalidSocket }
  else s

/-- `recycle_ctx()` -/
def recycleCtx (s : Scene) : Scene :=
  { s with client := { s.client with isInUse := false } }.note .returned

/-- `close_connection(isRecycle)`; a failure of either `event_del` is only logged. -/
def closeConnection (isRecycle : Bool) (s : Scene) : Scene :=
  let s := (s.eventDel .read).eventDel .write
  let s := (s.closeSfd.setSessionID 0).setClientNotifyID 0
  if isRecycle then s.recycleCtx else s

def onClosesocket (s : Scene) : Scene := s.closeConnection true

def onSetwritestate (s : Scene) : Scene :=
  let (good, s) := s.setWriteCtxnew
  if good then s else (s.note .badCallback).onClosesocket

def onSetreadstate (s : Scene) : Scene := s.setReadCtxnew.2

end Scene

/-- The slots of a context that `write_buffer` can reach; `SignalReadSocketDone` is none of
them. -/
def writeSlots : Slots Scene where
  closeSocket s := (s.note (.signal .closeSocket)).onClosesocket
  readSocketDone t s := some (t, s)
  setWriteState s := (s.note (.signal .setWriteState)).onSetwritestate
  clearWriteEvent s := (s.note (.signal .clearWriteEvent)).setWriteIdleCtxnew
  wrote fd k offered s := s.note (.wrote fd k offered)

/-- `CTestProcess::EchoIt` -/
def echoIt (onmsg : List UInt8) (t : CFrameTransport) (s : Scene) : CFrameTransport × Scene :=
  (t.writeBuffer writeSlots s.answers.write onmsg (s.note (.deliver onmsg))).2

/-- `on_readsocketdone()` -/
def onReadsocketdone (t : CFrameTransport) (s : Scene) : Option (CFrameTransport × Scene) :=
  let s := s.setReadCtxnew.2
  t.getMsg.map fun (oneMsg, t) => if oneMsg = [] then (t, s) else echoIt oneMsg t s

/-- All the slots of a context. -/
def ctxSlots : Slots Scene :=
  { writeSlots with
    readSocketDone := fun t s => onReadsocketdone t (s.note (.signal .readSocketDone)) }

/-- `read_handler(fd)` -/
def readHandler (fd : Socket) (t : CFrameTransport) (s : Scene) :
    Option (CFrameTransport × Scene) :=
  if fd ≠ s.client.ctx.sfd then some (t, s)
  else t.readSocket ctxSlots s.answers.recv fd s

/-- `write_handler(fd)` -/
def writeHandler (fd : Socket) (t : CFrameTransport) (s : Scene) : CFrameTransport × Scene :=
  if fd ≠ s.client.ctx.sfd then (t, s)
  else t.writeSocket ctxSlots s.answers.write fd s

theorem readHandler_own {fd : Socket} {t : CFrameTransport} {s : Scene}
    (own : fd = s.client.ctx.sfd) :
    readHandler fd t s = t.readSocket ctxSlots s.answers.recv fd s :=
  if_neg (not_not_intro own)

theorem writeHandler_own {fd : Socket} {t : CFrameTransport} {s : Scene}
    (own : fd = s.client.ctx.sfd) :
    writeHandler fd t s = t.writeSocket ctxSlots s.answers.write fd s :=
  if_neg (not_not_intro own)

theorem writeHandler_alien {fd : Socket} {t : CFrameTransport} {s : Scene}
    (alien : fd ≠ s.client.ctx.sfd) : writeHandler fd t s = (t, s) :=
  if_pos alien

/-- The assignments `init` starts with. -/
def Scene.opened (socket : Socket) (s : Scene) : Scene :=
  { s with client := { s.client with
    isInUse := true
    sessionID := 0
    notifyID := 0
    ctx := { s.client.ctx with sfd := socket, flags := 0 } } }

/-- `ClientCtx::init` on an accepted socket. -/
def initCtx (socket : Socket) (t : CFrameTransport) (s : Scene) :
    Bool × CFrameTransport × Scene :=
  if s.client.typeProcess = .unknown then (false, t, s)
  else
    let r := (s.opened socket).setReadCtxnew
    (r.1, t.init, r.2)

/-! ## What the functions of a context do to the scene -/

/-- `*m_ctx` once its connection is closed. -/
def ConnCtx.closed (c : ConnCtx) : ConnCtx :=
  { c with sfd := invalidSocket, rdEvent := c.rdEvent.del, wrEvent := c.wrEvent.del }

/-- The notes of `close_connection`. -/
def ConnCtx.closeNotes (c : ConnCtx) : List Note :=
  c.rdEvent.delNotes .read ++ c.wrEvent.delNotes .write ++
    (if c.sfd = invalidSocket then [] else [.closed c.sfd]) ++ [.returned]

theorem mem_closeNotes {c : ConnCtx} {n : Note} (among : n ∈ c.closeNotes) :
    (∃ opr, n = .delUnset opr) ∨ n = .closed c.sfd ∨ n = .returned := by
  have unset : ∀ (opr : Opr) (e : Event), n ∈ e.delNotes opr → n = .delUnset opr := by
    intro opr e
    unfold Event.delNotes
    split <;> simp
  simp only [ConnCtx.closeNotes, List.mem_append] at among
  rcases among with ((h | h) | h) | h
  · exact .inl ⟨_, unset _ _ h⟩
  · exact .inl ⟨_, unset _ _ h⟩
  · split at h
    · contradiction
    · exact .inr (.inl (List.mem_singleton.mp h))
  · exact .inr (.inr (List.mem_singleton.mp h))

namespace Scene

@[simp] theorem note_client (s : Scene) (n : Note) : (s.note n).client = s.client := rfl
@[simp] theorem note_answers (s : Scene) (n : Note) : (s.note n).answers = s.answers := rfl
@[simp] theorem note_notes (s : Scene) (n : Note) : (s.note n).notes = s.notes ++ [n] := rfl

theorem onClosesocket_eq (s : Scene) :
    s.onClosesocket =
      { client := { s.client with isInUse := false, notifyID := 0, ctx := s.client.ctx.closed }
        answers := s.answers
        notes := s.notes ++ s.client.ctx.closeNotes } := by
  by_cases gone : s.client.ctx.sfd = invalidSocket
  all_goals
    simp [onClosesocket, closeConnection, eventDel, closeSfd, setSessionID, setClientNotifyID,
      recycleCtx, note, mapCtx, ConnCtx.event, ConnCtx.setEvent, ConnCtx.closed,
      ConnCtx.closeNotes, gone]

/-- The scene when `set_ctx_flags_ctxnew` comes to its `event_add`. -/
def reassigned (flags : Nat) (opr : Opr) (s : Scene) : Scene :=
  let s := if s.client.ctx.flags ≠ 0 then s.eventDel opr else s
  let s := s.mapCtx fun c => { c with flags := flags }
  s.eventAssign opr ⟨s.client.ctx.sfd, flags, opr⟩

@[simp] theorem reassigned_sfd (flags : Nat) (opr : Opr) (s : Scene) :
    (s.reassigned flags opr).client.ctx.sfd = s.client.ctx.sfd := by
  unfold reassigned
  split <;> simp [eventAssign, eventDel, mapCtx]

theorem eventAdd_reassigned (flags : Nat) (opr : Opr) (s : Scene) :
    (s.reassigned flags opr).eventAdd opr =
      (s.reassigned flags opr).mapCtx fun c =>
        c.setEvent ⟨some ⟨s.client.ctx.sfd, flags, opr⟩, true⟩ opr := by
  have assigned : (s.reassigned flags opr).client.ctx.event opr =
      ⟨some ⟨s.client.ctx.sfd, flags, opr⟩, false⟩ := by
    unfold reassigned
    split <;> simp [eventAssign, eventDel, mapCtx]
  simp only [eventAdd, mapCtx, assigned]

/-- The ways through `set_ctx_flags_ctxnew`. -/
inductive FlagsSet (flags : Nat) (opr : Opr) (a : EventAnswers) (s : Scene) : Bool × Scene → Prop
  | same (flagged : s.client.ctx.flags = flags) : FlagsSet flags opr a s (true, s)
  | delFailed (other : s.client.ctx.flags ≠ flags) (pending : s.client.ctx.flags ≠ 0)
      (failed : a.del = false) :
      FlagsSet flags opr a s (false, (s.eventDel opr).note .libeventFailed)
  | addFailed (other : s.client.ctx.flags ≠ flags)
      (deleted : s.client.ctx.flags ≠ 0 → a.del = true) (failed : a.add = false) :
      FlagsSet flags opr a s (false, (s.reassigned flags opr).note .libeventFailed)
  | added (other : s.client.ctx.flags ≠ flags)
      (deleted : s.client.ctx.flags ≠ 0 → a.del = true) (good : a.add = true) :
      FlagsSet flags opr a s (true, (s.reassigned flags opr).eventAdd opr)

theorem reassigned_other (flags : Nat) {opr opr' : Opr} (other : opr' ≠ opr) (s : Scene) :
    (s.reassigned flags opr).client.ctx.event opr' = s.client.ctx.event opr' := by
  unfold reassigned
  split <;> cases opr <;> cases opr' <;> first | rfl | exact absurd rfl other

/-- `set_ctx_flags_ctxnew` leaves the event of the other kind alone. -/
theorem FlagsSet.other {flags : Nat} {opr opr' : Opr} {a : EventAnswers} {s : Scene}
    {r : Bool × Scene} (done : FlagsSet flags opr a s r) (other : opr' ≠ opr) :
    r.2.client.ctx.event opr' = s.client.ctx.event opr' := by
  cases done with
  | same => rfl
  | delFailed => exact s.client.ctx.event_setEvent_ne _ other
  | addFailed => exact s.reassigned_other flags other
  | added => exact (ConnCtx.event_setEvent_ne _ _ other).trans (s.reassigned_other flags other)

/-- The notes `set_ctx_flags_ctxnew` leaves; when it fails, libevent did. -/
theorem FlagsSet.notes {flags : Nat} {opr : Opr} {a : EventAnswers} {s : Scene} {r : Bool × Scene}
    (done : FlagsSet flags opr a s r) :
    ∃ new, r.2.notes = s.notes ++ new ∧
      (∀ n ∈ new, n = .delUnset opr ∨ n = .assignAdded opr ∨ n = .libeventFailed) ∧
      (r.1 = false → .libeventFailed ∈ new) := by
  have del : ∀ e : Event, ∀ n ∈ e.delNotes opr, n = .delUnset opr := by
    intro e n
    unfold Event.delNotes
    split <;> simp
  have assign : ∀ e : Event, ∀ n ∈ e.assignNotes opr, n = .assignAdded opr := by
    intro e n
    unfold Event.assignNotes
    split <;> simp
  have reassigned : ∃ new, (s.reassigned flags opr).notes = s.notes ++ new ∧
      ∀ n ∈ new, n = .delUnset opr ∨ n = .assignAdded opr := by
    unfold Scene.reassigned
    split
    · refine ⟨_, List.append_assoc _ _ _, ?_⟩
      intro n among
      rcases List.mem_append.mp among with h | h
      · exact .inl (del _ n h)
      · exact .inr (assign _ n h)
    · exact ⟨_, rfl, fun n among => .inr (assign _ n among)⟩
  cases done with
  | same => exact ⟨[], by simp, by simp, by simp⟩
  | delFailed =>
    refine ⟨_, List.append_assoc _ _ _, ?_, fun _ => by simp⟩
    intro n among
    rcases List.mem_append.mp among with h | h
    · exact .inl (del _ n h)
    · exact .inr (.inr (List.mem_singleton.mp h))
  | addFailed =>
    obtain ⟨new, notes, which⟩ := reassigned
    refine ⟨new ++ [.libeventFailed], by simp [notes], ?_, fun _ => by simp⟩
    intro n among
    rcases List.mem_append.mp among with h | h
    · exact (which n h).imp_right .inl
    · exact .inr (.inr (List.mem_singleton.mp h))
  | added =>
    obtain ⟨new, notes, which⟩ := reassigned
    exact ⟨new, notes, fun n among => (which n among).imp_right .inl, by simp⟩

/-- Where flags are pending, the event is deleted first, set up or not. -/
theorem FlagsSet.delUnset {flags : Nat} {opr : Opr} {a : EventAnswers} {s : Scene}
    {r : Bool × Scene} (done : FlagsSet flags opr a s r) (other : s.client.ctx.flags ≠ flags)
    (pending : s.client.ctx.flags ≠ 0) (unset : (s.client.ctx.event opr).assigned = none) :
    .delUnset opr ∈ r.2.notes := by
  have deleted : .delUnset opr ∈ (s.eventDel opr).notes := by
    simp [eventDel, Event.delNotes, unset]
  have reassigned : .delUnset opr ∈ (s.reassigned flags opr).notes := by
    unfold Scene.reassigned
    rw [if_pos pending]
    exact List.mem_append_left _ deleted
  cases done with
  | same flagged => exact absurd flagged other
  | delFailed => exact List.mem_append_left _ deleted
  | addFailed => exact List.mem_append_left _ reassigned
  | added => exact reassigned

theorem setCtxFlagsCtxnew_flagsSet {flags : Nat} (used : flags ≠ 0) (opr : Opr) (a : EventAnswers)
    (s : Scene) : FlagsSet flags opr a s (s.setCtxFlagsCtxnew flags opr a) := by
  unfold setCtxFlagsCtxnew
  by_cases flagged : s.client.ctx.flags = flags
  · rw [if_pos flagged]
    exact .same flagged
  rw [if_neg flagged]
  dsimp only
  by_cases failed : s.client.ctx.flags ≠ 0 ∧ a.del = false
  · rw [if_pos failed, if_pos failed.1]
    exact .delFailed flagged failed.1 failed.2
  have deleted : s.client.ctx.flags ≠ 0 → a.del = true := by
    intro pending
    cases del : a.del with
    | true => rfl
    | false => exact absurd ⟨pending, del⟩ failed
  rw [if_neg failed, if_neg used]
  split
  · next good => exact .added flagged deleted good
  · next bad => exact .addFailed flagged deleted (by simpa using bad)

theorem setReadCtxnew_flagsSet (s : Scene) :
    FlagsSet (evPersist + evRead) .read s.answers.setRead s s.setReadCtxnew :=
  setCtxFlagsCtxnew_flagsSet (by decide) _ _ _

theorem setWriteCtxnew_flagsSet (s : Scene) :
    FlagsSet (evPersist + evWrite) .write s.answers.setWrite s s.setWriteCtxnew :=
  setCtxFlagsCtxnew_flagsSet (by decide) _ _ _

end Scene

/-- A context told of a message takes it from the input buffer and may fill the output buffer. -/
theorem readSocketDone_transport {t t' : CFrameTransport} {s s' : Scene}
    (raised : ctxSlots.readSocketDone t s = some (t', s')) :
    ∃ msg t₁ o, t.getMsg = some (msg, t₁) ∧ t' = { t₁ with outputBuffer := o } := by
  simp only [ctxSlots, onReadsocketdone] at raised
  obtain ⟨⟨msg, t₁⟩, got, done⟩ := Option.map_eq_some_iff.mp raised
  refine ⟨msg, t₁, ?_⟩
  dsimp only at done
  split at done
  · simp only [Prod.mk.injEq] at done
    exact ⟨t₁.outputBuffer, got, done.1.symm⟩
  · obtain ⟨o, sent⟩ := CFrameTransport.writeBuffer_transport writeSlots _ msg t₁ _
    exact ⟨o, got, (congrArg Prod.fst done).symm.trans sent⟩

theorem steady_ctxSlots : CFrameTransport.Steady ctxSlots := by
  intro t s t' s' raised
  obtain ⟨msg, t₁, o, got, rfl⟩ := readSocketDone_transport raised
  rw [CFrameTransport.getMsg_some got]
  exact ⟨rfl, rfl⟩

theorem readSocketDone_unprepended {t t' : CFrameTransport} {s s' : Scene}
    (raised : ctxSlots.readSocketDone t s = some (t', s')) (unprepended : t.inBuffer.Unprepended) :
    t'.inBuffer.Unprepended := by
  obtain ⟨msg, t₁, o, got, rfl⟩ := readSocketDone_transport raised
  have kept : t₁.inBuffer.Unprepended := CFrameTransport.getMsg_unprepended got unprepended
  exact kept

theorem writeBuffer_ctxSlots (k : KernelWrite) (buf : List UInt8) (t : CFrameTransport) (s : Scene) :
    t.writeBuffer ctxSlots k buf s = t.writeBuffer writeSlots k buf s := by
  simp only [CFrameTransport.writeBuffer, ctxSlots]

theorem closeSocket_ctxSlots (s : Scene) :
    ctxSlots.closeSocket s =
      { client := { s.client with isInUse := false, notifyID := 0, ctx := s.client.ctx.closed }
        answers := s.answers
        notes := s.notes ++ .signal .closeSocket :: s.client.ctx.closeNotes } := by
  have raised : ctxSlots.closeSocket s = (s.note (.signal .closeSocket)).onClosesocket := rfl
  rw [raised, Scene.onClosesocket_eq]
  simp

/-- A context told of a message takes it, sets its read event and echoes the message. -/
theorem readSocketDone_ctxSlots {t t₁ : CFrameTransport} {msg : List UInt8} {s s₁ : Scene}
    (got : t.getMsg = some (msg, t₁)) (some_bytes : msg ≠ [])
    (told : (s.note (.signal .readSocketDone)).setReadCtxnew.2 = s₁) :
    ctxSlots.readSocketDone t s =
      some (t₁.writeBuffer ctxSlots s₁.answers.write msg (s₁.note (.deliver msg))).2 := by
  rw [writeBuffer_ctxSlots]
  simp only [ctxSlots, onReadsocketdone, told, got, Option.map_some, if_neg some_bytes, echoIt]

/-- The notes an event may leave while the connection stays as it is. -/
def Note.Plain : Note → Prop
  | .signal s => s = .readSocketDone ∨ s = .setReadState
  | .deliver _ | .wrote _ _ _ => True
  | _ => False

/-- A rule for one event of a context: `Open` holds while its connection is served, `Done` when
the event is over, and a connection is closed at most once on the way. -/
structure Served (Open Done : Scene → Prop) : Prop where
  note : ∀ {s n}, n.Plain → Open s → Open (s.note n)
  setRead : ∀ {s}, Open s → Open s.setReadCtxnew.2
  setWrite : ∀ {s}, Open s → Done (ctxSlots.setWriteState s)
  close : ∀ {s}, Open s → Done (ctxSlots.closeSocket s)
  done : ∀ {s}, Open s → Done s

namespace Served

variable {Open Done : Scene → Prop} (served : Served Open Done) {s : Scene} {t : CFrameTransport}
include served

theorem writeBuffer (k : KernelWrite) (buf : List UInt8) (before : Open s) :
    Done (t.writeBuffer ctxSlots k buf s).2.2 := by
  have wrote : Open (s.note (.wrote t.socket k buf)) := served.note trivial before
  rw [t.writeBuffer_owner]
  split
  · exact served.setWrite wrote
  · exact served.done wrote

theorem readSocketDone {t' : CFrameTransport} {s' : Scene} (before : Open s)
    (raised : ctxSlots.readSocketDone t s = some (t', s')) : Done s' := by
  have told : Open (s.note (.signal .readSocketDone)).setReadCtxnew.2 :=
    served.setRead (served.note (.inl rfl) before)
  simp only [ctxSlots, onReadsocketdone] at raised
  obtain ⟨⟨msg, t₁⟩, -, done⟩ := Option.map_eq_some_iff.mp raised
  split at done
  · simp only [Prod.mk.injEq] at done
    rw [← done.2]
    exact served.done told
  · rw [echoIt, ← writeBuffer_ctxSlots] at done
    have ended := served.writeBuffer (t := t₁)
      (s.note (.signal .readSocketDone)).setReadCtxnew.2.answers.write msg
      (served.note (n := .deliver msg) trivial told)
    rw [done] at ended
    exact ended

theorem readHandler {fd : Socket} {t' : CFrameTransport} {s' : Scene} (before : Open s)
    (handled : readHandler fd t s = some (t', s')) : Done s' := by
  unfold Tstlesrv.readHandler at handled
  split at handled
  · simp only [Option.some.injEq, Prod.mk.injEq] at handled
    rw [← handled.2]
    exact served.done before
  · cases CFrameTransport.readSocket_oneSignal steady_ctxSlots handled with
    | quiet => exact served.done before
    | closeSocket => exact served.close before
    | readSocketDone raised => exact served.readSocketDone before raised
    | setWriteState => exact served.setWrite before

theorem writeHandler (clear : ∀ {s}, Open s → Done (s.note (.signal .clearWriteEvent)))
    {fd : Socket} (before : Open s) : Done (writeHandler fd t s).2 := by
  unfold Tstlesrv.writeHandler
  split
  · exact served.done before
  · rcases t.writeSocket_owner ctxSlots s.answers.write fd s with alien | ⟨s₁, wrote, rest⟩
    · rw [alien]
      exact served.close before
    · have written : Open s₁ := wrote ▸ served.note trivial before
      rcases rest with h | h | h <;> rw [h]
      · exact served.done written
      · exact clear written
      · exact served.close written

end Served

/-! ## The machine of one context -/

/-- A context, its transport, the notes of the last call, and whether the object still exists
(`create_connection` deletes a context whose `init` failed, and a failed assertion ends the
process). -/
structure Context where
  client : ClientCtx
  transport : CFrameTransport
  notes : List Note
  alive : Bool

/-- What the environment makes a context do. -/
inductive Call where
  | init (socket : Socket) (a : Answers)
  | event (opr : Opr) (a : Answers)
  | writeBuffer (buf : List UInt8) (a : Answers)

namespace Context

/-- `new ClientCtx`, with the transport its first `init` will allocate. -/
def new (rdAppState : AppState) : Context where
  client := .new
  transport := .new rdAppState
  notes := []
  alive := true

def scene (c : Context) (a : Answers) : Scene := ⟨c.client, a, []⟩

/-- What a handler leaves behind; `none` is a failed assertion. -/
def after (c : Context) : Option (CFrameTransport × Scene) → Context
  | some (t, s) => { c with client := s.client, transport := t, notes := s.notes }
  | none => { c with notes := [], alive := false }

/-- libevent calls the handler of an added event with the descriptor it was set up with. -/
def handle (e : Assigned) (a : Answers) (c : Context) : Context :=
  match e.handler with
  | .read => c.after (readHandler e.fd c.transport (c.scene a))
  | .write => c.after (some (writeHandler e.fd c.transport (c.scene a)))

/-- `init` on an accepted socket; the context is deleted where it fails. -/
def initOn (socket : Socket) (a : Answers) (c : Context) : Context :=
  let r := initCtx socket c.transport (c.scene a)
  { c.after (some r.2) with alive := r.1 }

/-- The slot of a signal that the transport raises while it serves the connection. -/
def raise (sig : Signal) (a : Answers) (c : Context) : Context :=
  let s := (c.scene a)
  match sig with
  | .closeSocket => c.after (some (c.transport, ctxSlots.closeSocket s))
  | .readSocketDone => c.after (ctxSlots.readSocketDone c.transport s)
  | .setWriteState => c.after (some (c.transport, ctxSlots.setWriteState s))
  | .setReadState => c.after (some (c.transport, (s.note (.signal .setReadState)).onSetreadstate))
  | .clearWriteEvent => c.after (some (c.transport, ctxSlots.clearWriteEvent s))

/-- One call.  A context that is not in use can be initialised, a persistent event may fire
while it is added, and an open connection can be written to. -/
def step (c : Context) : Call → Option Context
  | .init socket a =>
    if c.alive ∧ c.client.isInUse = false ∧ socket ≠ invalidSocket then some (c.initOn socket a)
    else none
  | .event opr a =>
    match (c.client.ctx.event opr).assigned with
    | none => none
    | some e =>
      if c.alive ∧ (c.client.ctx.event opr).added then some (c.handle e a) else none
  | .writeBuffer buf a =>
    if c.alive ∧ c.client.isInUse ∧ buf.length < 2 ^ 32 then
      some (c.after (some (c.transport.writeBuffer ctxSlots a.write buf (c.scene a)).2))
    else none

theorem handle_read {e : Assigned} (reader : e.handler = .read) (a : Answers) (c : Context) :
    c.handle e a = c.after (readHandler e.fd c.transport (c.scene a)) := by
  unfold handle
  rw [reader]

theorem handle_write {e : Assigned} (writer : e.handler = .write) (a : Answers) (c : Context) :
    c.handle e a = c.after (some (writeHandler e.fd c.transport (c.scene a))) := by
  unfold handle
  rw [writer]

theorem step_init {c c' : Context} {socket : Socket} {a : Answers}
    (moved : c.step (.init socket a) = some c') :
    c.alive = true ∧ c.client.isInUse = false ∧ socket ≠ invalidSocket ∧ c' = c.initOn socket a := by
  unfold step at moved
  dsimp only at moved
  split at moved
  · next enabled => exact ⟨enabled.1, enabled.2.1, enabled.2.2, (Option.some.inj moved).symm⟩
  · contradiction

theorem step_event_eq {c : Context} {opr : Opr} {e : Assigned}
    (assigned : (c.client.ctx.event opr).assigned = some e) (alive : c.alive = true)
    (added : (c.client.ctx.event opr).added = true) (a : Answers) :
    c.step (.event opr a) = some (c.handle e a) := by
  unfold step
  simp only [assigned, alive, added, and_self, if_true]

theorem step_event_none {c : Context} {opr : Opr}
    (still : ¬ (c.alive = true ∧ (c.client.ctx.event opr).added = true)) (a : Answers) :
    c.step (.event opr a) = none := by
  unfold step
  dsimp only
  split
  · rfl
  · rw [if_neg still]

theorem step_event {c c' : Context} {opr : Opr} {a : Answers}
    (moved : c.step (.event opr a) = some c') :
    ∃ e, (c.client.ctx.event opr).assigned = some e ∧ c.alive = true ∧
      (c.client.ctx.event opr).added = true ∧ c' = c.handle e a := by
  unfold step at moved
  dsimp only at moved
  split at moved
  · contradiction
  · next e assigned =>
    split at moved
    · next enabled => exact ⟨e, assigned, enabled.1, enabled.2, (Option.some.inj moved).symm⟩
    · contradiction

theorem step_writeBuffer {c c' : Context} {buf : List UInt8} {a : Answers}
    (moved : c.step (.writeBuffer buf a) = some c') :
    c.alive = true ∧ c.client.isInUse = true ∧
      c' = c.after (some (c.transport.writeBuffer ctxSlots a.write buf (c.scene a)).2) := by
  unfold step at moved
  dsimp only at moved
  split at moved
  · next enabled => exact ⟨enabled.1, enabled.2.1, (Option.some.inj moved).symm⟩
  · contradiction

/-- What a call leaves that keeps to a rule: the end of its scene, or a failed assertion. -/
def Ended (Done : Scene → Prop) (c c' : Context) : Prop :=
  (∃ s, Done s ∧ c'.client = s.client ∧ c'.notes = s.notes ∧ c'.alive = c.alive) ∨
    (c'.client = c.client ∧ c'.notes = [] ∧ c'.alive = false)

theorem after_done {Done : Scene → Prop} {c : Context} {r : Option (CFrameTransport × Scene)}
    (ended : ∀ t s, r = some (t, s) → Done s) : Ended Done c (c.after r) := by
  cases r with
  | none => exact .inr ⟨rfl, rfl, rfl⟩
  | some r => exact .inl ⟨r.2, ended r.1 r.2 rfl, rfl, rfl, rfl⟩

section Rules

variable {Open Done : Scene → Prop} (served : Served Open Done)
  (clear : ∀ {s}, Open s → Done (s.note (.signal .clearWriteEvent))) {c : Context} {a : Answers}
  (before : Open (c.scene a))
include served clear before

/-- The rule for one event, on the context. -/
theorem handle_done (e : Assigned) : Ended Done c (c.handle e a) := by
  unfold handle
  split
  · exact after_done fun t s handled => served.readHandler before handled
  · apply after_done
    intro t s handled
    have ended := @Served.writeHandler Open Done served (c.scene a) c.transport clear e.fd before
    rw [Option.some.inj handled] at ended
    exact ended

/-- The rule for one signal. -/
theorem raise_done (sig : Signal) : Ended Done c (c.raise sig a) := by
  have kept : ∀ {s}, Done s → ∀ t s', some (c.transport, s) = some (t, s') → Done s' := by
    intro s ended t s' same
    simp only [Option.some.injEq, Prod.mk.injEq] at same
    exact same.2 ▸ ended
  unfold raise
  cases sig with
  | closeSocket => exact after_done (kept (served.close before))
  | readSocketDone =>
    apply after_done
    intro t s raised
    exact served.readSocketDone before raised
  | setWriteState => exact after_done (kept (served.setWrite before))
  | setReadState =>
    exact after_done (kept (served.done (served.setRead (served.note (.inr rfl) before))))
  | clearWriteEvent => exact after_done (kept (clear before))

end Rules

/-! ## What holds of every context -/

/-- An event that is set up has the handler of its kind. -/
def Wired (c : ConnCtx) : Prop := ∀ opr e, (c.event opr).assigned = some e → e.handler = opr

theorem Wired.setEvent {c : ConnCtx} (wired : Wired c) {opr : Opr} {e : Event}
    (own : ∀ a, e.assigned = some a → a.handler = opr) : Wired (c.setEvent e opr) := by
  intro opr' a held
  by_cases same : opr' = opr
  · subst same
    rw [ConnCtx.event_setEvent] at held
    exact own a held
  · rw [c.event_setEvent_ne e same] at held
    exact wired opr' a held

theorem Wired.del {c : ConnCtx} (wired : Wired c) (opr : Opr) :
    Wired (c.setEvent (c.event opr).del opr) := by
  refine wired.setEvent fun a held => wired opr a ?_
  unfold Event.del at held
  split at held <;> exact held

theorem Wired.closed {c : ConnCtx} (wired : Wired c) : Wired c.closed :=
  (wired.del .read).del .write

/-- What holds of a context between two events: an event that was never set up is not added, a
context that is not in use has no event added, and one that is in use serves `fd`. -/
structure Tidy (fd : Socket) (c : ClientCtx) : Prop where
  kind : c.typeProcess = .testProcess
  wired : Wired c.ctx
  sane : ∀ opr, (c.ctx.event opr).assigned = none → (c.ctx.event opr).added = false
  quiet : c.isInUse = false → ∀ opr, (c.ctx.event opr).added = false
  own : c.isInUse = true → c.ctx.sfd = fd

theorem del_added {e : Event} (sane : e.assigned = none → e.added = false) :
    e.del.added = false := by
  unfold Event.del
  split
  · next unset => exact sane unset
  · rfl

@[simp] theorem del_assigned (e : Event) : e.del.assigned = e.assigned := by
  unfold Event.del
  split <;> rfl

theorem tidy_new (fd : Socket) : Tidy fd .new where
  kind := rfl
  wired := by intro opr e; cases opr <;> simp [ClientCtx.new, ConnCtx.event, Event.uninit]
  sane := by intro opr _; cases opr <;> rfl
  quiet := by intro _ opr; cases opr <;> rfl
  own := by simp [ClientCtx.new]

theorem Tidy.onClosesocket {fd : Socket} {s : Scene} (tidy : Tidy fd s.client) :
    Tidy fd s.onClosesocket.client := by
  rw [Scene.onClosesocket_eq]
  have quiet : ∀ opr, (s.client.ctx.closed.event opr).added = false := by
    intro opr
    cases opr
    · exact del_added (tidy.sane .read)
    · exact del_added (tidy.sane .write)
  exact
    { kind := tidy.kind, wired := tidy.wired.closed, sane := fun opr _ => quiet opr
      quiet := fun _ => quiet, own := fun h => by simp at h }

/-- While it is in use a context may have events added and deleted. -/
theorem Tidy.setEvent {fd : Socket} {c : ClientCtx} (tidy : Tidy fd c) (inUse : c.isInUse = true)
    {opr : Opr} {e : Event} (own : ∀ a, e.assigned = some a → a.handler = opr)
    (sane : e.assigned = none → e.added = false) :
    Tidy fd { c with ctx := c.ctx.setEvent e opr } where
  kind := tidy.kind
  wired := tidy.wired.setEvent own
  sane opr' unset := by
    by_cases same : opr' = opr
    · subst same
      simp only [ConnCtx.event_setEvent] at unset ⊢
      exact sane unset
    · simp only [c.ctx.event_setEvent_ne e same] at unset ⊢
      exact tidy.sane opr' unset
  quiet idle := by simp [inUse] at idle
  own h := by simpa using tidy.own h

theorem Tidy.eventDel {fd : Socket} {s : Scene} (tidy : Tidy fd s.client)
    (inUse : s.client.isInUse = true) (opr : Opr) : Tidy fd (s.eventDel opr).client :=
  tidy.setEvent inUse (fun a held => tidy.wired opr a (by simpa using held))
    fun _ => del_added (tidy.sane opr)

theorem Tidy.reassigned {fd : Socket} {s : Scene} (tidy : Tidy fd s.client)
    (inUse : s.client.isInUse = true) (flags : Nat) (opr : Opr) :
    Tidy fd (s.reassigned flags opr).client ∧ (s.reassigned flags opr).client.isInUse = true := by
  have deleted : Tidy fd (if s.client.ctx.flags ≠ 0 then s.eventDel opr else s).client ∧
      (if s.client.ctx.flags ≠ 0 then s.eventDel opr else s).client.isInUse = true := by
    split
    · exact ⟨tidy.eventDel inUse opr, inUse⟩
    · exact ⟨tidy, inUse⟩
  have flagged : Tidy fd { (if s.client.ctx.flags ≠ 0 then s.eventDel opr else s).client with
      ctx := { (if s.client.ctx.flags ≠ 0 then s.eventDel opr else s).client.ctx with
        flags := flags } } := ⟨deleted.1.kind, deleted.1.wired, deleted.1.sane, deleted.1.quiet,
    deleted.1.own⟩
  refine ⟨flagged.setEvent deleted.2 ?_ fun _ => rfl, deleted.2⟩
  intro a held
  injection held with held
  rw [← held]

theorem Tidy.flagsSet {fd : Socket} {flags : Nat} {opr : Opr} {a : EventAnswers} {s : Scene}
    {r : Bool × Scene} (tidy : Tidy fd s.client) (inUse : s.client.isInUse = true)
    (done : Scene.FlagsSet flags opr a s r) :
    Tidy fd r.2.client ∧ r.2.client.isInUse = true := by
  cases done with
  | same => exact ⟨tidy, inUse⟩
  | delFailed => exact ⟨tidy.eventDel inUse opr, inUse⟩
  | addFailed => exact tidy.reassigned inUse flags opr
  | added =>
    obtain ⟨assigned, used⟩ := tidy.reassigned inUse flags opr
    refine ⟨assigned.setEvent used (fun a held => assigned.wired opr a held) ?_, used⟩
    intro unset
    exact absurd unset (by simp [Scene.reassigned, Scene.eventAssign, Scene.mapCtx])

theorem served_tidy (fd : Socket) :
    Served (fun s => Tidy fd s.client ∧ s.client.isInUse = true) (fun s => Tidy fd s.client) where
  note _ h := h
  setRead h := h.1.flagsSet h.2 (Scene.setReadCtxnew_flagsSet _)
  setWrite := by
    rintro s ⟨tidy, inUse⟩
    obtain ⟨flagged, -⟩ := Tidy.flagsSet (s := s.note (.signal .setWriteState)) tidy inUse
      (Scene.setWriteCtxnew_flagsSet _)
    simp only [ctxSlots, writeSlots, Scene.onSetwritestate]
    split
    · exact flagged
    · exact Tidy.onClosesocket flagged
  close {s} h := Tidy.onClosesocket (s := s.note (.signal .closeSocket)) h.1
  done h := h.1

theorem initOn_eq {c : Context} (kind : c.client.typeProcess = .testProcess) (socket : Socket)
    (a : Answers) :
    c.initOn socket a =
      { client := ((c.scene a).opened socket).setReadCtxnew.2.client
        transport := c.transport.init
        notes := ((c.scene a).opened socket).setReadCtxnew.2.notes
        alive := ((c.scene a).opened socket).setReadCtxnew.1 } := by
  unfold initOn initCtx
  rw [if_neg (by simp [scene, kind])]
  rfl

theorem Tidy.initOn {fd : Socket} {c : Context} (tidy : Tidy fd c.client) (socket : Socket)
    (a : Answers) : Tidy socket (c.initOn socket a).client := by
  have opened : Tidy socket ((c.scene a).opened socket).client :=
    ⟨tidy.kind, tidy.wired, tidy.sane, by simp [Scene.opened], fun _ => rfl⟩
  rw [initOn_eq tidy.kind]
  exact (opened.flagsSet rfl (Scene.setReadCtxnew_flagsSet _)).1

/-- An added event belongs to a context in use. -/
theorem Tidy.inUse {fd : Socket} {c : ClientCtx} (tidy : Tidy fd c) {opr : Opr}
    (added : (c.ctx.event opr).added = true) : c.isInUse = true := by
  cases used : c.isInUse with
  | true => rfl
  | false => exact absurd (tidy.quiet used opr) (by simp [added])

theorem tidy_step {c c' : Context} {call : Call} (tidy : ∃ fd, Tidy fd c.client)
    (moved : c.step call = some c') : ∃ fd, Tidy fd c'.client := by
  obtain ⟨fd, tidy⟩ := tidy
  cases call with
  | init socket a =>
    obtain ⟨-, -, -, rfl⟩ := step_init moved
    exact ⟨socket, tidy.initOn socket a⟩
  | event opr a =>
    obtain ⟨e, -, -, added, rfl⟩ := step_event moved
    refine ⟨fd, ?_⟩
    rcases handle_done (served_tidy fd) (fun h => h.1) (c := c) (a := a)
      ⟨tidy, tidy.inUse added⟩ e with ⟨s, tidy', client, -⟩ | ⟨client, -⟩
    · rw [client]
      exact tidy'
    · rw [client]
      exact tidy
  | writeBuffer buf a =>
    obtain ⟨-, inUse, rfl⟩ := step_writeBuffer moved
    exact ⟨fd, (served_tidy fd).writeBuffer _ _ ⟨tidy, inUse⟩⟩

end Context

end NewFramework.Tstlesrv
