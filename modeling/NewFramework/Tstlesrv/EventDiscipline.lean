import NewFramework.Lib.Run
import NewFramework.Tstlesrv.IoThread

/-!
# The libevent discipline of a context

What `ClientCtx` (`tstlesrv/clientctx.cpp`) owes to libevent and to the free list, over any run of
an IO thread.  The discipline is broken by every `close_connection` of a context whose write event
was never set up, and by the first `set_write_ctxnew` of every context: `m_flags` is shared by the
two events, so the flags of the read event make it delete the write event.  A run keeps to the
discipline exactly as long as no transport asks for either.
-/

namespace NewFramework.Tstlesrv
open NewFramework.Lib NewFramework.Net

/-- The transport asked for the connection to be closed, or for the write event. -/
def Context.Raised (notes : List Note) : Prop :=
  .signal .closeSocket ∈ notes ∨ .signal .setWriteState ∈ notes

namespace IoThread
open Context

/-- What the contexts of an IO thread owe to libevent and to the free list. -/
structure Disciplined (io : IoThread) : Prop where
  /-- `event_del` comes after an `event_assign` -/
  deleted : ∀ c ∈ io.contexts, ∀ opr, .delUnset opr ∉ c.notes
  /-- `event_assign` is for events that are not added -/
  assigned : ∀ c ∈ io.contexts, ∀ opr, .assignAdded opr ∉ c.notes
  /-- an open connection is read -/
  reading : ∀ c ∈ io.contexts, c.alive = true → c.client.isInUse = true →
    c.client.ctx.rdEvent = ⟨some ⟨c.client.ctx.sfd, evPersist + evRead, .read⟩, true⟩
  /-- a closed one has no event added -/
  silent : ∀ c ∈ io.contexts, c.alive = true → c.client.isInUse = false →
    ∀ opr, (c.client.ctx.event opr).added = false
  /-- the free list holds each closed context once, and no other -/
  listed : io.idleCtxs.Nodup ∧ ∀ i, i ∈ io.idleCtxs ↔
    ∃ c, io.contexts[i]? = some c ∧ c.alive = true ∧ c.client.isInUse = false

/-- Nothing has been closed and no write event asked for: the client of a context. -/
structure Unwritten (c : ClientCtx) : Prop where
  inUse : c.isInUse = true
  flags : c.ctx.flags = evPersist + evRead
  reads : c.ctx.rdEvent = ⟨some ⟨c.ctx.sfd, evPersist + evRead, .read⟩, true⟩
  writes : c.ctx.wrEvent = .uninit

/-- No note of a close, of a request for the write event or of a misuse of libevent. -/
def Harmless (notes : List Note) : Prop :=
  ∀ n ∈ notes, n.Plain ∨ n = .signal .clearWriteEvent ∨ n = .libeventFailed ∨ ∃ fd, n = .closed fd

theorem Harmless.not_raised {notes : List Note} (harmless : Harmless notes) : ¬ Raised notes := by
  rintro (h | h) <;> simpa [Note.Plain] using harmless _ h

theorem Harmless.returned {notes : List Note} (harmless : Harmless notes) :
    notes.count .returned = 0 := by
  rw [List.count_eq_zero]
  intro h
  simpa [Note.Plain] using harmless _ h

/-- The scene of a call while nothing was asked for. -/
structure Untouched (c : ClientCtx) (s : Scene) : Prop where
  client : s.client = c
  notes : Harmless s.notes

theorem Untouched.note {c : ClientCtx} {s : Scene} (here : Untouched c s) {n : Note}
    (plain : n.Plain ∨ n = .signal .clearWriteEvent) : Untouched c (s.note n) where
  client := here.client
  notes m among := by
    rcases List.mem_append.mp among with h | h
    · exact here.notes m h
    · rw [List.mem_singleton.mp h]
      exact plain.imp_right .inl

/-- Once something was asked for, the write event has been deleted that was never set up. -/
theorem served_unwritten {c : ClientCtx} (unwritten : Unwritten c) :
    Served (Untouched c)
      (fun s => Untouched c s ∨ Raised s.notes ∧ .delUnset .write ∈ s.notes) where
  note plain here := here.note (.inl plain)
  setRead {s} here := by
    have flagged : s.setReadCtxnew = (true, s) :=
      if_pos (here.client ▸ unwritten.flags)
    rw [flagged]
    exact here
  setWrite {s} here := by
    have flagged := (s.note (.signal .setWriteState)).setWriteCtxnew_flagsSet
    have flags : (s.note (.signal .setWriteState)).client.ctx.flags = evPersist + evRead :=
      here.client ▸ unwritten.flags
    have unset : ((s.note (.signal .setWriteState)).client.ctx.event .write).assigned = none := by
      rw [Scene.note_client, here.client, ConnCtx.event, unwritten.writes, Event.uninit]
    have deleted := flagged.delUnset (by rw [flags]; decide) (by rw [flags]; decide) unset
    obtain ⟨more, notes, -⟩ := flagged.notes
    have told : .signal .setWriteState ∈ (s.note (.signal .setWriteState)).setWriteCtxnew.2.notes := by
      rw [notes]
      exact List.mem_append_left _ (by simp)
    refine .inr ?_
    simp only [ctxSlots, writeSlots, Scene.onSetwritestate]
    split
    · exact ⟨.inr told, deleted⟩
    · rw [Scene.onClosesocket_eq]
      exact ⟨.inr (List.mem_append_left _ (List.mem_append_left _ told)),
        List.mem_append_left _ (List.mem_append_left _ deleted)⟩
  close {s} here := by
    rw [closeSocket_ctxSlots]
    refine .inr ⟨.inl (by simp), ?_⟩
    simp [ConnCtx.closeNotes, Event.delNotes, here.client, unwritten.writes, Event.uninit]
  done here := .inl here

/-- What holds while no transport has asked for anything. -/
structure Calm (io : IoThread) : Prop where
  idle : io.idleCtxs = []
  clients : ∀ c ∈ io.contexts, c.alive = true → Unwritten c.client
  notes : ∀ c ∈ io.contexts, Harmless c.notes

theorem calm_start : Calm start := ⟨rfl, by simp [start], by simp [start]⟩

theorem Calm.disciplined {io : IoThread} (calm : Calm io) : Disciplined io where
  deleted c among opr h := by simpa [Note.Plain] using calm.notes c among _ h
  assigned c among opr h := by simpa [Note.Plain] using calm.notes c among _ h
  reading c among alive _ := (calm.clients c among alive).reads
  silent c among alive idle := by simp [(calm.clients c among alive).inUse] at idle
  listed := by
    refine ⟨by simp [calm.idle], fun i => ⟨fun h => by simp [calm.idle] at h, ?_⟩⟩
    rintro ⟨c, held, alive, idle⟩
    simp [(calm.clients c (List.mem_of_getElem? held) alive).inUse] at idle

/-- A call ends without a request: nothing is returned, and the other contexts stay. -/
theorem calm_settle {io : IoThread} {i : Nat} {c : Context} (idle : io.idleCtxs = [])
    (others : ∀ d ∈ io.contexts.set i c,
      d = c ∨ (d.alive = true → Unwritten d.client) ∧ Harmless d.notes)
    (client : c.alive = true → Unwritten c.client) (notes : Harmless c.notes) (running : Bool) :
    Calm { io.settle i c with running := running } where
  idle := by simp [IoThread.settle, idle, notes.returned]
  clients d among alive := by
    rcases others d among with rfl | other
    · exact client alive
    · exact other.1 alive
  notes d among := by
    rcases others d among with rfl | other
    · exact notes
    · exact other.2

/-- `init` of a new context sets its read event up and adds it, or leaves the context to be
deleted. -/
theorem initOn_new (rdAppState : AppState) (socket : Socket) (a : Answers) :
    (((Context.new rdAppState).initOn socket a).alive = true →
        Unwritten ((Context.new rdAppState).initOn socket a).client) ∧
      Harmless ((Context.new rdAppState).initOn socket a).notes := by
  have kind : (Context.new rdAppState).client.typeProcess = .testProcess := rfl
  have event : ∀ c : ConnCtx, c.rdEvent = c.event .read := fun _ => rfl
  have event' : ∀ c : ConnCtx, c.wrEvent = c.event .write := fun _ => rfl
  rw [initOn_eq kind]
  cases add : a.setRead.add
  · refine ⟨?_, ?_⟩ <;>
      simp [Scene.setReadCtxnew, Scene.setCtxFlagsCtxnew, Scene.opened, scene, Context.new,
        ClientCtx.new, evPersist, evRead, Scene.eventAssign, Scene.mapCtx, Event.assignNotes,
        ConnCtx.event, Event.uninit, Scene.note, Harmless, add]
  · refine ⟨fun _ => ⟨?_, ?_, ?_, ?_⟩, ?_⟩ <;>
      simp [Scene.setReadCtxnew, Scene.setCtxFlagsCtxnew, Scene.opened, scene, Context.new,
        ClientCtx.new, evPersist, evRead, Scene.eventAssign, Scene.eventAdd, Scene.mapCtx,
        Event.assignNotes, ConnCtx.event, ConnCtx.setEvent, Event.uninit, Harmless, add]

theorem Calm.accept {io : IoThread} (calm : Calm io) (socket : Socket) (rdAppState : AppState)
    (a : Answers) : Calm (io.createConnection socket rdAppState a) := by
  obtain ⟨client, notes⟩ := initOn_new rdAppState socket a
  unfold createConnection getClientctx
  rw [calm.idle]
  simp only [popIdle, List.getElem?_concat_length]
  refine calm_settle rfl ?_ ?_ ?_ io.running
  · intro d among
    simp only [List.set_append_right _ _ (Nat.le_refl _), Nat.sub_self, List.set_cons_zero] at among
    rcases List.mem_append.mp among with other | new
    · exact .inr ⟨calm.clients d other, calm.notes d other⟩
    · exact .inl (List.mem_singleton.mp new)
  · split
    · exact client
    · next gone => exact fun alive => absurd alive gone
  · split
    · exact notes
    · intro n among
      rcases List.mem_append.mp among with h | h
      · exact notes n h
      · exact .inr (.inr (.inr ⟨socket, List.mem_singleton.mp h⟩))

/-- No context has raised a request in its last call. -/
def Unrequested (io : IoThread) : Prop := ∀ c ∈ io.contexts, ¬ Raised c.notes

theorem Calm.unrequested {io : IoThread} (calm : Calm io) : Unrequested io :=
  fun c among => (calm.notes c among).not_raised

/-- A step that ends without a request keeps everything calm; one with a request breaks the
discipline. -/
theorem Calm.step {io io' : IoThread} {call : IoCall} (calm : Calm io)
    (moved : io.step call = some io') :
    Calm io' ∨ ∃ c ∈ io'.contexts, Raised c.notes ∧ .delUnset .write ∈ c.notes := by
  cases step_moved moved with
  | accept => exact .inl (calm.accept _ _ _)
  | @called i c c' a held alive called =>
    have among := List.mem_of_getElem? held
    have unwritten := calm.clients c among alive
    have others : ∀ d ∈ io.contexts.set i c',
        d = c' ∨ (d.alive = true → Unwritten d.client) ∧ Harmless d.notes := by
      intro d here
      rcases List.mem_or_eq_of_mem_set here with other | same
      · exact .inr ⟨calm.clients d other, calm.notes d other⟩
      · exact .inl same
    have now : c' ∈ (io.settle i c').contexts :=
      List.mem_set (List.getElem?_eq_some_iff.mp held).1 c'
    rcases called.ended (served_unwritten unwritten) (fun h => .inl (h.note (.inr rfl)))
      ⟨rfl, by simp [Harmless, scene]⟩ with ⟨s, ended, client, notes, -⟩ | ⟨client, notes, gone⟩
    · rcases ended with untouched | broken
      · refine .inl (calm_settle calm.idle others ?_ ?_ _)
        · intro _
          rw [client, untouched.client]
          exact unwritten
        · rw [notes]
          exact untouched.notes
      · exact .inr ⟨c', now, notes ▸ broken⟩
    · refine .inl (calm_settle calm.idle others ?_ (by simp [Harmless, notes]) _)
      intro alive
      simp [gone] at alive

/-- A run keeps the discipline exactly as long as no transport signals that it wants its
connection closed or its write event set. -/
theorem always_disciplined_iff (calls : List IoCall) :
    Always step Disciplined start calls ↔
      EachStep step (fun _ _ io' => Unrequested io') start calls := by
  have exact_steps : EachStep step (fun _ _ io' => Disciplined io') start calls ↔
      EachStep step (fun _ _ io' => Unrequested io') start calls := by
    refine EachStep.iff_of_invariant ?_ ?_ calm_start
    · intro io call io' calm unrequested moved
      rcases Calm.step calm moved with after | ⟨c, among, raised, -⟩
      · exact ⟨after, after.disciplined⟩
      · exact absurd raised (unrequested c among)
    · intro io call io' calm moved disciplined
      rcases Calm.step calm moved with after | ⟨c, among, -, broken⟩
      · exact after.unrequested
      · exact absurd broken (disciplined.deleted c among .write)
  exact ⟨fun h => exact_steps.mp h.2, fun h => ⟨calm_start.disciplined, exact_steps.mpr h⟩⟩

/-- A client connects and leaves. -/
def visit : List IoCall :=
  [.accept 5 .closeConnection (.answering [] ⟨none, .eagain⟩),
    .event 0 .read (.answering [] ⟨none, .eagain⟩)]

/-- `close_connection` deletes a write event that was never set up. -/
theorem not_always_disciplined_visit : ¬ Always step Disciplined start visit := by
  intro always
  have deleted : (exec step start visit).any (fun io =>
      io.contexts.any fun c => decide (.delUnset .write ∈ c.notes)) = true := by decide +kernel
  obtain ⟨io, reached, broken⟩ := (Option.any_eq_true _ _).mp deleted
  obtain ⟨c, among, broken⟩ := List.any_eq_true.mp broken
  exact (always.of_exec reached).deleted c among .write (of_decide_eq_true broken)

end IoThread

end NewFramework.Tstlesrv
