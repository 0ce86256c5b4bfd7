import NewFramework.Lib.Run
import NewFramework.Tstlesrv.ClientCtx

/-!
# When the write path closes a connection

A context (`tstlesrv/clientctx.cpp`) in any run of initialisations, events and calls of
`write_buffer`.  Its write event is persistent and `set_write_idle_ctxnew` does nothing, so the
event stays registered when `m_outputBuffer_` has drained; `wr_transition` also takes `EAGAIN` for
the end of the connection.  The write path behaves in exactly the runs in which every write event
that is handled leaves something to write, or meets a kernel that fails for good.
-/

namespace NewFramework.Tstlesrv
open NewFramework.Lib NewFramework.Net

/-- A failure other than `EAGAIN`/`EWOULDBLOCK`. -/
def Fatal (k : KernelWrite) : Prop := k.room = none ∧ k.errno ≠ .eagain

instance (k : KernelWrite) : Decidable (Fatal k) := inferInstanceAs (Decidable (_ ∧ _))

/-- A `write` that failed for good. -/
def Note.FatalWrite : Note → Prop
  | .wrote _ k _ => Fatal k
  | _ => False

instance : DecidablePred Note.FatalWrite := by
  intro n
  cases n <;> unfold Note.FatalWrite <;> infer_instance

namespace Context

/-- The write path raised `SignalCloseSocket`, or closed the connection in a slot. -/
def ClosedByWrite : Call → List Note → Prop
  | .event .write _, notes | .writeBuffer _ _, notes =>
    .signal .closeSocket ∈ notes ∨ .badCallback ∈ notes
  | .event .read _, notes | .init _ _, notes => .badCallback ∈ notes

instance (call : Call) (notes : List Note) : Decidable (ClosedByWrite call notes) := by
  unfold ClosedByWrite
  split <;> infer_instance

/-- The call is a write event that gets past `CheckParam`. -/
def WriteHandled (c : Context) : Call → Prop
  | .event .write _ => c.client.ctx.wrEvent.assigned.map Assigned.fd = some c.client.ctx.sfd
  | _ => False

instance (c : Context) (call : Call) : Decidable (c.WriteHandled call) := by
  unfold WriteHandled
  split <;> infer_instance

/-- One call keeps the rules of the write path. -/
structure HealthyStep (c : Context) (call : Call) (c' : Context) : Prop where
  closes : ClosedByWrite call c'.notes →
    (∃ n ∈ c'.notes, n.FatalWrite) ∨ .libeventFailed ∈ c'.notes
  removes : .signal .clearWriteEvent ∈ c'.notes → c'.client.ctx.wrEvent.added = false
  unsent : c.WriteHandled call → c.transport.outputBuffer.readable ≠ []

instance (c : Context) (call : Call) (c' : Context) : Decidable (HealthyStep c call c') :=
  decidable_of_iff ((ClosedByWrite call c'.notes →
        (∃ n ∈ c'.notes, n.FatalWrite) ∨ .libeventFailed ∈ c'.notes) ∧
      (.signal .clearWriteEvent ∈ c'.notes → c'.client.ctx.wrEvent.added = false) ∧
      (c.WriteHandled call → c.transport.outputBuffer.readable ≠ []))
    ⟨fun h => ⟨h.1, h.2.1, h.2.2⟩, fun h => ⟨h.closes, h.removes, h.unsent⟩⟩

/-- How many bytes wait in `m_outputBuffer_`. -/
abbrev waiting (c : Context) : Nat := c.transport.outputBuffer.readableBytes

/-- A write event that is handled finds its own socket and something to write, and the kernel
takes some of it but not all, or fails for good. -/
def LeavesUnsent (c : Context) : Call → Prop
  | .event .write a =>
    c.WriteHandled (.event .write a) →
      c.transport.socket = c.client.ctx.sfd ∧ c.waiting ≠ 0 ∧ (Fatal a.write ∨
        (0 < asInt32 (a.write.ret c.waiting) ∧ a.write.accepted c.waiting < c.waiting))
  | _ => True

/-- Until a write event drains the buffer, whatever closes in a slot is a failure of libevent. -/
def Sound (s : Scene) : Prop :=
  (.badCallback ∈ s.notes → .libeventFailed ∈ s.notes) ∧ .signal .clearWriteEvent ∉ s.notes

/-- More notes that are neither `badCallback` nor a cleared write event. -/
theorem Sound.extend {s s' : Scene} (sound : Sound s) {new : List Note}
    (notes : s'.notes = s.notes ++ new) (tame : .badCallback ∉ new)
    (uncleared : .signal .clearWriteEvent ∉ new) : Sound s' := by
  obtain ⟨excused, silent⟩ := sound
  refine ⟨?_, ?_⟩
  · intro bad
    rw [notes] at bad ⊢
    rcases List.mem_append.mp bad with h | h
    · exact List.mem_append_left _ (excused h)
    · exact absurd h tame
  · rw [notes, List.mem_append]
    rintro (h | h)
    · exact silent h
    · exact uncleared h

theorem Sound.flagsSet {flags : Nat} {opr : Opr} {a : EventAnswers} {s : Scene} {r : Bool × Scene}
    (sound : Sound s) (done : Scene.FlagsSet flags opr a s r) : Sound r.2 := by
  obtain ⟨new, notes, which, -⟩ := done.notes
  refine sound.extend notes (fun among => ?_) fun among => ?_
  all_goals
    rcases which _ among with h | h | h <;> contradiction

theorem Sound.onClosesocket {s : Scene} (sound : Sound s) : Sound s.onClosesocket := by
  rw [Scene.onClosesocket_eq]
  refine sound.extend rfl (fun among => ?_) fun among => ?_
  all_goals
    rcases mem_closeNotes among with ⟨opr, h⟩ | h | h <;> contradiction

theorem Sound.onSetwritestate {s : Scene} (sound : Sound s) : Sound s.onSetwritestate := by
  have flagged := s.setWriteCtxnew_flagsSet
  obtain ⟨new, notes, -, excuse⟩ := flagged.notes
  obtain ⟨excused, silent⟩ := sound.flagsSet flagged
  unfold Scene.onSetwritestate
  dsimp only
  split
  · exact ⟨excused, silent⟩
  · next bad =>
    have failed : .libeventFailed ∈ s.setWriteCtxnew.2.notes := by
      rw [notes]
      exact List.mem_append_right _ (excuse (by simpa using bad))
    have called : Sound (s.setWriteCtxnew.2.note .badCallback) :=
      ⟨fun _ => List.mem_append_left _ failed, by simpa using silent⟩
    exact called.onClosesocket

theorem Sound.signal {s : Scene} (sound : Sound s) {sig : Signal} (other : sig ≠ .clearWriteEvent) :
    Sound (s.note (.signal sig)) :=
  sound.extend rfl (by simp) (by simp [other.symm])

theorem served_sound : Served Sound Sound where
  note := by
    intro s n plain sound
    refine (sound.extend rfl ?_ ?_ : Sound (s.note n)) <;> rw [List.mem_singleton] <;>
      rintro rfl
    · exact plain
    · exact absurd plain (by simp [Note.Plain])
  setRead sound := sound.flagsSet (Scene.setReadCtxnew_flagsSet _)
  setWrite sound := (sound.signal (by decide)).onSetwritestate
  close sound := (sound.signal (by decide)).onClosesocket
  done := id

theorem sound_scene (c : Context) (a : Answers) : Sound (c.scene a) :=
  ⟨by simp [scene], by simp [scene]⟩

/-- `write_buffer` does not raise `SignalCloseSocket`. -/
theorem writeBuffer_unsignalled (k : KernelWrite) (buf : List UInt8) (t : CFrameTransport)
    {s : Scene} (before : .signal .closeSocket ∉ s.notes) :
    .signal .closeSocket ∉ (t.writeBuffer ctxSlots k buf s).2.2.notes := by
  have wrote : .signal .closeSocket ∉ (s.note (.wrote t.socket k buf)).notes := by simpa using before
  rw [t.writeBuffer_owner]
  split
  swap
  · exact wrote
  · have told : .signal .closeSocket ∉
        ((s.note (.wrote t.socket k buf)).note (.signal .setWriteState)).notes := by
      simpa using before
    have flagged :=
      ((s.note (.wrote t.socket k buf)).note (.signal .setWriteState)).setWriteCtxnew_flagsSet
    obtain ⟨new, notes, which, -⟩ := flagged.notes
    have kept : .signal .closeSocket ∉ (((s.note (.wrote t.socket k buf)).note
        (.signal .setWriteState)).setWriteCtxnew.2).notes := by
      rw [notes, List.mem_append]
      rintro (h | h)
      · exact told h
      · rcases which _ h with h | h | h <;> contradiction
    simp only [ctxSlots, writeSlots, Scene.onSetwritestate]
    split
    · exact kept
    · rw [Scene.onClosesocket_eq]
      simp only [Scene.note_notes, Scene.note_client, List.mem_append, List.mem_singleton]
      rintro ((h | h) | h)
      · exact kept h
      · contradiction
      · rcases mem_closeNotes h with ⟨opr, h⟩ | h | h <;> contradiction

/-- A call that is no write event keeps the rules. -/
theorem HealthyStep.of_sound {c c' : Context} {call : Call} (other : ∀ a, call ≠ .event .write a)
    (unsignalled : (∃ buf a, call = .writeBuffer buf a) → .signal .closeSocket ∉ c'.notes)
    (excused : .badCallback ∈ c'.notes → .libeventFailed ∈ c'.notes)
    (silent : .signal .clearWriteEvent ∉ c'.notes) : HealthyStep c call c' where
  closes closed := by
    right
    cases call with
    | event opr a =>
      cases opr with
      | write => exact absurd rfl (other a)
      | read => exact excused closed
    | init socket a => exact excused closed
    | writeBuffer buf a => exact excused (closed.resolve_left (unsignalled ⟨buf, a, rfl⟩))
  removes cleared := absurd cleared silent
  unsent handled := by
    cases call with
    | event opr a =>
      cases opr with
      | write => exact absurd rfl (other a)
      | read => exact handled.elim
    | init socket a => exact handled.elim
    | writeBuffer buf a => exact handled.elim

theorem healthyStep_init (c : Context) (socket : Socket) (a : Answers) :
    HealthyStep c (.init socket a) (c.initOn socket a) := by
  have sound : Sound (initCtx socket c.transport (c.scene a)).2.2 := by
    unfold initCtx
    split
    · exact sound_scene c a
    · have fresh : Sound ((c.scene a).opened socket) := sound_scene c a
      exact fresh.flagsSet (Scene.setReadCtxnew_flagsSet _)
  exact .of_sound (by simp) (by simp) sound.1 sound.2

theorem healthyStep_read {c : Context} {a : Answers} {e : Assigned} (reader : e.handler = .read) :
    HealthyStep c (.event .read a) (c.handle e a) := by
  have ended : (∃ s, Sound s ∧ (c.handle e a).notes = s.notes) ∨ (c.handle e a).notes = [] := by
    rw [handle_read reader]
    rcases after_done fun t s handled => served_sound.readHandler (t := c.transport)
      (sound_scene c a) handled with ⟨s, sound, -, notes, -⟩ | ⟨-, notes, -⟩
    · exact .inl ⟨s, sound, notes⟩
    · exact .inr notes
  rcases ended with ⟨s, sound, notes⟩ | notes
  · exact .of_sound (by simp) (by simp) (notes ▸ sound.1) (notes ▸ sound.2)
  · exact .of_sound (by simp) (by simp) (by simp [notes]) (by simp [notes])

theorem healthyStep_writeBuffer (c : Context) (buf : List UInt8) (a : Answers) :
    HealthyStep c (.writeBuffer buf a)
      (c.after (some (c.transport.writeBuffer ctxSlots a.write buf (c.scene a)).2)) := by
  have sound : Sound (c.transport.writeBuffer ctxSlots a.write buf (c.scene a)).2.2 :=
    served_sound.writeBuffer _ _ (sound_scene c a)
  exact .of_sound (by simp) (fun _ => writeBuffer_unsignalled _ _ _ (by simp [scene])) sound.1
    sound.2

/-- A signalled close with no failure among the notes breaks the rules. -/
theorem not_healthyStep_of_close {c c' : Context} {a : Answers} {s : Scene}
    (notes : c'.notes = (ctxSlots.closeSocket s).notes)
    (healthy : ∀ n ∈ s.notes, ¬ n.FatalWrite ∧ n ≠ .libeventFailed) :
    ¬ HealthyStep c (.event .write a) c' := by
  rw [closeSocket_ctxSlots] at notes
  intro kept
  have excuse := kept.closes (.inl (by simp [notes]))
  rw [notes] at excuse
  rcases excuse with ⟨n, among, fatal⟩ | among <;> rcases List.mem_append.mp among with h | h
  · exact (healthy n h).1 fatal
  · rcases List.mem_cons.mp h with rfl | h
    · exact fatal
    · rcases mem_closeNotes h with ⟨opr, rfl⟩ | rfl | rfl <;> exact fatal
  · exact (healthy _ h).2 rfl
  · rcases List.mem_cons.mp h with h | h
    · contradiction
    · rcases mem_closeNotes h with ⟨opr, h⟩ | h | h <;> contradiction

/-- A write event that gets past `CheckParam`. -/
theorem healthyStep_writeSocket_iff {c c' : Context} {a : Answers} {fd : Socket}
    (handled : c.WriteHandled (.event .write a)) (own : fd = c.client.ctx.sfd)
    (added : c.client.ctx.wrEvent.added = true)
    (left : c' = c.after (some (c.transport.writeSocket ctxSlots a.write fd (c.scene a)))) :
    HealthyStep c (.event .write a) c' ↔
      c.transport.socket = c.client.ctx.sfd ∧ c.waiting ≠ 0 ∧ (Fatal a.write ∨
        (0 < asInt32 (a.write.ret c.waiting) ∧ a.write.accepted c.waiting < c.waiting)) := by
  have notes : c'.notes =
      (c.transport.writeSocket ctxSlots a.write fd (c.scene a)).2.notes := by rw [left]; rfl
  have client : c'.client =
      (c.transport.writeSocket ctxSlots a.write fd (c.scene a)).2.client := by rw [left]; rfl
  by_cases socket : c.transport.socket = fd
  swap
  · have alien : (c.transport.writeSocket ctxSlots a.write fd (c.scene a)).2 =
        ctxSlots.closeSocket (c.scene a) := by
      unfold CFrameTransport.writeSocket
      rw [if_pos socket]
    rw [alien] at notes
    exact iff_of_false (not_healthyStep_of_close notes (by simp [scene]))
      fun h => socket (h.1.trans own.symm)
  have waits : c.transport.outputBuffer.readable ≠ [] ↔ c.waiting ≠ 0 :=
    not_congr (Buffer.readable_eq_nil _)
  have wrote : ctxSlots.wrote c.transport.socket a.write c.transport.outputBuffer.readable
      (c.scene a) = ⟨c.client, a, [.wrote c.transport.socket a.write
        c.transport.outputBuffer.readable]⟩ := rfl
  rcases CFrameTransport.writeSocket_own ctxSlots a.write socket (c.scene a) with
    ⟨positive, drained, done⟩ | ⟨positive, partly, done⟩ | ⟨failed, done⟩ <;>
    rw [done, wrote] at notes client
  · apply iff_of_false
    · intro healthy
      have removed := healthy.removes (by
        rw [notes]
        simp [ctxSlots, writeSlots, Scene.setWriteIdleCtxnew])
      rw [client] at removed
      exact Bool.noConfusion (added.symm.trans removed)
    · intro h
      rcases h.2.2 with fatal | h
      · rw [KernelWrite.ret_of_none fatal.1] at positive
        exact absurd positive (by decide)
      · exact absurd h.2 (Nat.not_lt.mpr drained)
  · refine iff_of_true ⟨?_, ?_, fun _ => waits.mpr (by unfold waiting; omega)⟩
      ⟨socket.trans own, by unfold waiting; omega, .inr ⟨positive, partly⟩⟩
    · rintro (h | h) <;> simp [notes] at h
    · intro h
      simp [notes] at h
  · by_cases fatal : Fatal a.write
    swap
    · exact iff_of_false (not_healthyStep_of_close notes (by simp [Note.FatalWrite, fatal]))
        fun h => h.2.2.elim fatal fun h => failed h.1
    rw [closeSocket_ctxSlots] at notes
    constructor
    · intro healthy
      exact ⟨socket.trans own, waits.mp (healthy.unsent handled), .inl fatal⟩
    · intro h
      have noted : .wrote c.transport.socket a.write c.transport.outputBuffer.readable ∈ c'.notes := by
        rw [notes]
        exact List.mem_append_left _ (List.mem_singleton.mpr rfl)
      refine ⟨fun _ => .inl ⟨_, noted, fatal⟩, ?_, fun _ => waits.mpr h.2.1⟩
      intro cleared
      rw [notes] at cleared
      simp only [List.mem_append, List.mem_cons, List.not_mem_nil, or_false] at cleared
      rcases cleared with h | h | h
      · contradiction
      · contradiction
      · rcases mem_closeNotes h with ⟨opr, h⟩ | h | h <;> contradiction

/-- A write event keeps the rules iff it leaves something to write or the kernel fails. -/
theorem healthyStep_write_iff {c : Context} {a : Answers} {e : Assigned}
    (assigned : c.client.ctx.wrEvent.assigned = some e) (writer : e.handler = .write)
    (added : c.client.ctx.wrEvent.added = true) :
    HealthyStep c (.event .write a) (c.handle e a) ↔ c.LeavesUnsent (.event .write a) := by
  by_cases own : e.fd = c.client.ctx.sfd
  · have mine : c.WriteHandled (.event .write a) := by
      simp only [WriteHandled, assigned, Option.map_some, own]
    have passed : c.handle e a =
        c.after (some (c.transport.writeSocket ctxSlots a.write e.fd (c.scene a))) := by
      rw [handle_write writer, writeHandler_own own]
      rfl
    exact (healthyStep_writeSocket_iff mine own added passed).trans ⟨fun h _ => h, fun h => h mine⟩
  · have alien : ¬ c.WriteHandled (.event .write a) := by
      simp only [WriteHandled, assigned, Option.map_some, Option.some.injEq]
      exact own
    have silent : (c.handle e a).notes = [] := by
      rw [handle_write writer, writeHandler_alien own]
      rfl
    refine iff_of_true ⟨?_, ?_, fun h => absurd h alien⟩ fun h => absurd h alien
    · rintro (h | h) <;> simp [silent] at h
    · intro h
      simp [silent] at h

theorem healthyStep_iff {c c' : Context} {call : Call} (tidy : ∃ fd, Tidy fd c.client)
    (moved : c.step call = some c') : HealthyStep c call c' ↔ c.LeavesUnsent call := by
  obtain ⟨fd, tidy⟩ := tidy
  cases call with
  | init socket a =>
    obtain ⟨-, -, -, rfl⟩ := step_init moved
    exact iff_of_true (healthyStep_init c socket a) trivial
  | event opr a =>
    obtain ⟨e, assigned, -, added, rfl⟩ := step_event moved
    cases opr with
    | read => exact iff_of_true (healthyStep_read (tidy.wired .read e assigned)) trivial
    | write => exact healthyStep_write_iff assigned (tidy.wired .write e assigned) added
  | writeBuffer buf a =>
    obtain ⟨-, -, rfl⟩ := step_writeBuffer moved
    exact iff_of_true (healthyStep_writeBuffer c buf a) trivial

/-- In every run of a new context the write path behaves iff each write event that is handled
leaves something to write, or meets a kernel that fails for good. -/
theorem eachStep_healthy_iff (rdAppState : AppState) (calls : List Call) :
    EachStep step HealthyStep (new rdAppState) calls ↔
      EachStep step (fun c call _ => c.LeavesUnsent call) (new rdAppState) calls :=
  EachStep.iff_of_invariant
    (fun _ _ _ tidy leaves moved =>
      ⟨tidy_step tidy moved, (healthyStep_iff tidy moved).mpr leaves⟩)
    (fun _ _ _ tidy moved healthy => (healthyStep_iff tidy moved).mp healthy)
    ⟨invalidSocket, tidy_new _⟩

/-- A one-byte message is echoed into a full socket, the write event sends the byte, and the
event stays registered: when it fires again nothing is left to write, and `wr_transition` takes
the result `0` for the end of a healthy connection. -/
theorem not_eachStep_healthy_drained :
    ¬ EachStep step HealthyStep (new .init)
      [.init 5 (.answering [] ⟨some 1, .eagain⟩),
        .event .read (.answering [0, 0, 0, 1] ⟨some 1, .eagain⟩),
        .event .read (.answering [97] ⟨none, .eagain⟩),
        .event .write (.answering [] ⟨some 1, .eagain⟩),
        .event .write (.answering [] ⟨some 1, .eagain⟩)] := by
  decide +kernel

end Context

end NewFramework.Tstlesrv
