import NewFramework.Lib.Run
import NewFramework.Tstlesrv.FrameTransport

/-!
# The outbound byte order of a transport

A transport (`tstlesrv/frametransport.cpp`) with calls of `write_buffer` and write events in any
order, each with its own answer of the kernel, until it raises `SignalCloseSocket`.

`write_buffer` offers its bytes to the socket first, also when older bytes still wait in
`m_outputBuffer_`; the bytes the socket takes then overtake them.  The stream is in order in
exactly the runs where this cannot be told apart: whatever a direct write gets into the socket
commutes with what waits.
-/

namespace NewFramework.Tstlesrv
open NewFramework.Lib NewFramework.Net

/-- What the socket and the owner of the transport have seen. -/
structure Wire where
  /-- the bytes the socket accepted -/
  sent : List UInt8
  closed : Bool

/-- The signals of the write path, heard by an owner that only notes them. -/
def wireSlots : Slots Wire where
  closeSocket w := { w with closed := true }
  readSocketDone t w := some (t, w)
  setWriteState w := w
  clearWriteEvent w := w
  wrote _ k offered w := { w with sent := w.sent ++ offered.take (k.accepted offered.length) }

/-- A call of `write_buffer` or a write event, with the kernel's answer. -/
inductive WriteOp where
  | writeBuffer (k : KernelWrite) (buf : List UInt8)
  | writeEvent (k : KernelWrite)
  deriving DecidableEq

/-- The kernel's answer is no fatal failure, and `write_buffer`'s `len` is a `uint32_t`. -/
def WriteOp.Admissible : WriteOp → Prop
  | .writeBuffer k buf => k.NonFatal ∧ buf.length < 2 ^ 32
  | .writeEvent k => k.NonFatal

instance : DecidablePred WriteOp.Admissible
  | .writeBuffer k buf => inferInstanceAs (Decidable (k.NonFatal ∧ buf.length < 2 ^ 32))
  | .writeEvent k => inferInstanceAs (Decidable k.NonFatal)

/-- A transport, its socket, and the buffers `write_buffer` accepted so far, concatenated. -/
structure Writer where
  transport : CFrameTransport
  wire : Wire
  accepted : List UInt8

namespace CFrameTransport

theorem writeBuffer_wire (k : KernelWrite) (buf : List UInt8) (t : CFrameTransport) (w : Wire) :
    (writeBuffer wireSlots k buf t w).2.2 =
      { w with sent := w.sent ++ buf.take (k.accepted buf.length) } := by
  unfold writeBuffer
  dsimp only
  split <;> rfl

/-- A write event after which the transport goes on moved what the socket took out of the
buffer. -/
theorem wrTransition_live {k : KernelWrite} {t : CFrameTransport} {w : Wire}
    (live : (wrTransition wireSlots k t w).2.closed = false) :
    (wrTransition wireSlots k t w).2.sent =
        w.sent ++ t.outputBuffer.readable.take (k.accepted t.outputBuffer.readableBytes) ∧
      (wrTransition wireSlots k t w).1.outputBuffer.readable =
        t.outputBuffer.readable.drop (k.accepted t.outputBuffer.readableBytes) := by
  unfold wrTransition at live ⊢
  dsimp only at live ⊢
  by_cases positive : 0 < asInt32 (k.ret t.outputBuffer.readableBytes)
  · have answered : k.room ≠ none := by
      intro failed
      rw [KernelWrite.ret_of_none failed] at positive
      exact absurd positive (by decide)
    have taken : (k.ret t.outputBuffer.readableBytes).toNat =
        k.accepted t.outputBuffer.readableBytes := by
      rw [KernelWrite.ret_of_room answered, Int.toNat_natCast]
    rw [if_pos positive]
    split <;> simp [wireSlots, taken]
  · rw [if_neg positive] at live
    exact absurd live (by simp [wireSlots])

theorem nwrote_of_lt {k : KernelWrite} {len : Nat} (small : k.accepted len < 2 ^ 31) :
    nwrote k len = k.accepted len := by
  unfold nwrote KernelWrite.ret KernelWrite.accepted at *
  cases answer : k.room with
  | none => simp [asInt32, toInt]
  | some room =>
    simp only [answer] at small ⊢
    rw [asInt32, toInt_of_lt (by omega), if_pos (by omega)]
    rfl

theorem nwrote_of_ge {k : KernelWrite} {len : Nat} (large : 2 ^ 31 ≤ k.accepted len)
    (fits : len < 2 ^ 32) : nwrote k len = 0 := by
  unfold nwrote KernelWrite.ret KernelWrite.accepted at *
  cases answer : k.room with
  | none => simp only [answer] at large; omega
  | some room =>
    simp only [answer] at large ⊢
    have negative := toInt_neg (w := 32) (n := min room len) (by omega) (by omega)
    rw [asInt32, if_neg (by omega)]

/-- A non-fatal answer makes `write_buffer` give its buffer up only where `(int)` makes an
accepted count negative. -/
theorem faultError_of_lt {k : KernelWrite} {len : Nat} (transient : k.NonFatal)
    (small : k.accepted len < 2 ^ 31) : faultError k len = false := by
  unfold faultError KernelWrite.ret KernelWrite.accepted at *
  cases answer : k.room with
  | none => simp [transient answer]
  | some room =>
    simp only [answer] at small ⊢
    have nonneg : ¬ asInt32 (min room len : Nat) < 0 := by
      rw [asInt32, toInt_of_lt (by omega)]
      omega
    simp only [decide_eq_false nonneg, Bool.false_and]

end CFrameTransport

namespace Writer
open CFrameTransport

/-- A transport as its constructor leaves it, serving `cfd`. -/
def start (rdAppState : AppState) (cfd : Socket) : Writer where
  transport := { CFrameTransport.new rdAppState with socket := cfd }
  wire := ⟨[], false⟩
  accepted := []

def step (s : Writer) (op : WriteOp) : Option Writer :=
  if s.wire.closed = false ∧ op.Admissible then
    match op with
    | .writeBuffer k buf =>
      let r := CFrameTransport.writeBuffer wireSlots k buf s.transport s.wire
      some {
        transport := r.2.1
        wire := r.2.2
        accepted := s.accepted ++ if faultError k buf.length then [] else buf }
    | .writeEvent k =>
      let r := wrTransition wireSlots k s.transport s.wire
      some { s with transport := r.1, wire := r.2 }
  else none

/-- The bytes that wait in `m_outputBuffer_`. -/
abbrev waiting (s : Writer) : List UInt8 := s.transport.outputBuffer.readable

/-- While the transport has not given up, the socket's bytes and then the waiting ones are the
accepted buffers in order. -/
def InOrder (s : Writer) : Prop :=
  s.wire.closed = false → s.wire.sent ++ s.waiting = s.accepted

instance (s : Writer) : Decidable s.InOrder := inferInstanceAs (Decidable (_ → _))

/-- What a direct write gets into the socket commutes with the waiting bytes, and its count is
no negative `int`. -/
def NoOvertaking (s : Writer) : WriteOp → Prop
  | .writeBuffer k buf =>
    k.accepted buf.length < 2 ^ 31 ∧
      buf.take (k.accepted buf.length) ++ s.waiting = s.waiting ++ buf.take (k.accepted buf.length)
  | .writeEvent _ => True

/-- With nothing waiting a direct write overtakes nothing. -/
theorem noOvertaking_of_empty {s : Writer} {k : KernelWrite} {buf : List UInt8}
    (empty : s.waiting = []) (small : k.accepted buf.length < 2 ^ 31) :
    s.NoOvertaking (.writeBuffer k buf) :=
  ⟨small, by simp [empty]⟩

theorem step_enabled {s s' : Writer} {op : WriteOp} (moved : s.step op = some s') :
    s.wire.closed = false ∧ op.Admissible := by
  unfold step at moved
  split at moved
  · assumption
  · contradiction

theorem step_writeBuffer {s s' : Writer} {k : KernelWrite} {buf : List UInt8}
    (moved : s.step (.writeBuffer k buf) = some s') :
    s'.wire.closed = false ∧
      s'.wire.sent = s.wire.sent ++ buf.take (k.accepted buf.length) ∧
      s'.waiting = s.waiting ++ deferred k buf ∧
      s'.accepted = s.accepted ++ if faultError k buf.length then [] else buf := by
  have enabled := step_enabled moved
  unfold step at moved
  rw [if_pos enabled] at moved
  injection moved with moved
  subst moved
  refine ⟨?_, ?_, writeBuffer_readable _ _ _ _ _, rfl⟩
  · simp only [writeBuffer_wire, enabled.1]
  · simp only [writeBuffer_wire]

theorem step_writeEvent {s s' : Writer} {k : KernelWrite}
    (moved : s.step (.writeEvent k) = some s') (live : s'.wire.closed = false) :
    s'.wire.sent = s.wire.sent ++ s.waiting.take (k.accepted s.waiting.length) ∧
      s'.waiting = s.waiting.drop (k.accepted s.waiting.length) ∧ s'.accepted = s.accepted := by
  have enabled := step_enabled moved
  unfold step at moved
  rw [if_pos enabled] at moved
  injection moved with moved
  subst moved
  obtain ⟨sent, waits⟩ := wrTransition_live live
  rw [Buffer.readable_length]
  exact ⟨sent, waits, rfl⟩

/-- A step that overtakes nothing keeps the order. -/
theorem InOrder.step {s s' : Writer} {op : WriteOp} (order : s.InOrder) (fair : s.NoOvertaking op)
    (moved : s.step op = some s') : s'.InOrder := by
  intro live
  obtain ⟨open_, admissible⟩ := step_enabled moved
  have before := order open_
  cases op with
  | writeBuffer k buf =>
    obtain ⟨-, sent, waits, accepted⟩ := step_writeBuffer moved
    obtain ⟨small, commutes⟩ := fair
    rw [faultError_of_lt admissible.1 small] at accepted
    rw [deferred, faultError_of_lt admissible.1 small, nwrote_of_lt small] at waits
    calc s'.wire.sent ++ s'.waiting
        = s.wire.sent ++ (buf.take (k.accepted buf.length) ++ s.waiting) ++
            buf.drop (k.accepted buf.length) := by
          simp only [sent, waits, Bool.false_eq_true, if_false, List.append_assoc]
      _ = s.wire.sent ++ s.waiting ++
            (buf.take (k.accepted buf.length) ++ buf.drop (k.accepted buf.length)) := by
          rw [commutes]
          simp only [List.append_assoc]
      _ = s'.accepted := by
          rw [before, List.take_append_drop, accepted]
          simp
  | writeEvent k =>
    obtain ⟨sent, waits, accepted⟩ := step_writeEvent moved live
    rw [sent, waits, accepted, List.append_assoc, List.take_append_drop, before]

/-- A step after which the bytes are in order overtook nothing. -/
theorem InOrder.only {s s' : Writer} {op : WriteOp} (order : s.InOrder)
    (moved : s.step op = some s') (order' : s'.InOrder) : s.NoOvertaking op := by
  obtain ⟨open_, admissible⟩ := step_enabled moved
  have before := order open_
  cases op with
  | writeEvent k => trivial
  | writeBuffer k buf =>
    obtain ⟨live, sent, waits, accepted⟩ := step_writeBuffer moved
    have after := order' live
    rw [sent, waits, accepted, ← before] at after
    have small : k.accepted buf.length < 2 ^ 31 := by
      by_contra large
      have lengths := congrArg List.length after
      have none_written := nwrote_of_ge (Nat.not_lt.mp large) admissible.2
      have := k.accepted_le buf.length
      simp only [deferred, none_written, List.drop_zero, List.length_append, List.length_take]
        at lengths
      split at lengths
      · simp only [List.length_nil] at lengths
        omega
      · omega
    refine ⟨small, ?_⟩
    rw [deferred, faultError_of_lt admissible.1 small, nwrote_of_lt small] at after
    simp only [Bool.false_eq_true, if_false] at after
    have cut : buf.take (k.accepted buf.length) ++ s.waiting ++ buf.drop (k.accepted buf.length) =
        s.waiting ++ buf.take (k.accepted buf.length) ++ buf.drop (k.accepted buf.length) := by
      refine List.append_cancel_left (?_ : s.wire.sent ++ _ = s.wire.sent ++ _)
      simpa only [List.append_assoc, List.take_append_drop] using after
    exact List.append_cancel_right cut

/-- The outbound bytes are in order in every state of a run iff no step of it overtakes. -/
theorem always_inOrder_iff (rdAppState : AppState) (cfd : Socket) (ops : List WriteOp) :
    Always step InOrder (start rdAppState cfd) ops ↔
      EachStep step (fun s op _ => s.NoOvertaking op) (start rdAppState cfd) ops :=
  Always.iff_eachStep (fun _ _ _ order fair moved => order.step fair moved)
    (fun _ _ _ order moved order' => order.only moved order') fun _ => rfl

/-- `ab` is written but for one byte, and `c` goes out before it. -/
theorem not_always_inOrder_overtaking :
    ¬ Always step InOrder (start .init 7)
      [.writeBuffer ⟨some 1, .eagain⟩ [97, 98], .writeBuffer ⟨some 1, .eagain⟩ [99]] := by
  decide +kernel

end Writer

end NewFramework.Tstlesrv
