import NewFramework.Tstlesrv.FrameTransport

/-!
# What `write_buffer` returns

The comment over `write_buffer` in `tstlesrv/frametransport.cpp` gives its result: 0 when everything
was sent, a positive value when a rest waits in `m_outputBuffer_` with the write event requested, a
negative one on an error.  The function keeps the buffer as it was on `EPIPE` and `ECONNRESET`, but
returns `remaining` there too, which is not negative.
-/

namespace NewFramework.Tstlesrv

open NewFramework.Lib NewFramework.Net

namespace CFrameTransport

/-- Slots that count the requests for the write event. -/
def requests : Slots Nat where
  closeSocket := id
  readSocketDone := fun t w => some (t, w)
  setWriteState := (· + 1)
  clearWriteEvent := id
  wrote := fun _ _ _ w => w

variable {k : KernelWrite} {buf : List UInt8} {t : CFrameTransport}

/-- The result of `write_buffer`, an `int32_t`. -/
def writeResult (k : KernelWrite) (buf : List UInt8) (t : CFrameTransport) : Int :=
  (writeBuffer requests k buf t 0).1

/-- `m_outputBuffer_` behind `write_buffer`. -/
def writeOutput (k : KernelWrite) (buf : List UInt8) (t : CFrameTransport) : Buffer :=
  (writeBuffer requests k buf t 0).2.1.outputBuffer

/-- How often `write_buffer` raises `SignalSetWriteState`. -/
def writeRequests (k : KernelWrite) (buf : List UInt8) (t : CFrameTransport) : Nat :=
  (writeBuffer requests k buf t 0).2.2

/-- The last `n` bytes were appended to `m_outputBuffer_` and the write event was requested. -/
def Pending (k : KernelWrite) (buf : List UInt8) (t : CFrameTransport) (n : Nat) : Prop :=
  n ≤ buf.length ∧
    (writeOutput k buf t).readable = t.outputBuffer.readable ++ buf.drop (buf.length - n) ∧
    writeRequests k buf t = 1

/-- The write failed with one of the errors that count as fatal. -/
def FailedFatally (fatal : Errno → Bool) (k : KernelWrite) : Prop :=
  k.room = none ∧ fatal k.errno = true

/-- What the comment promises. -/
structure KeepsContract (fatal : Errno → Bool) (k : KernelWrite) (buf : List UInt8)
    (t : CFrameTransport) : Prop where
  zero : writeResult k buf t = 0 ↔ k.accepted buf.length = buf.length
  positive : ∀ n : Nat, 0 < n → (writeResult k buf t = n ↔ Pending k buf t n)
  negative : writeResult k buf t < 0 ↔ FailedFatally fatal k
  untouched : FailedFatally fatal k →
    writeOutput k buf t = t.outputBuffer ∧ writeRequests k buf t = 0

/-! ## The result -/

section

variable {σ : Type*} (slots : Slots σ)

/-- Whatever is connected to its signals, `write_buffer` returns and appends the same, and
raises `SignalSetWriteState` as often. -/
theorem writeBuffer_slots (w : σ) :
    (writeBuffer slots k buf t w).1 = writeResult k buf t ∧
      (writeBuffer slots k buf t w).2.1.outputBuffer = writeOutput k buf t ∧
      (writeBuffer slots k buf t w).2.2 =
        slots.setWriteState^[writeRequests k buf t] (slots.wrote t.socket k buf w) := by
  unfold writeResult writeOutput writeRequests writeBuffer
  dsimp only
  split
  · exact ⟨rfl, rfl, rfl⟩
  · exact ⟨rfl, rfl, rfl⟩

end

/-- What the kernel took of a short buffer. -/
theorem nwrote_eq_accepted (short : buf.length < 2 ^ 31) :
    nwrote k buf.length = k.accepted buf.length := by
  unfold nwrote
  cases room : k.room with
  | none =>
    rw [KernelWrite.ret_of_none room, KernelWrite.accepted_of_none room]
    decide
  | some n =>
    have answered : k.room ≠ none := by
      rw [room]
      simp
    have below := k.accepted_le buf.length
    rw [KernelWrite.ret_of_room answered, asInt32, toInt_of_lt (by omega), if_pos (by omega),
      Int.toNat_natCast]

theorem faultError_iff (short : buf.length < 2 ^ 31) :
    faultError k buf.length = true ↔
      k.room = none ∧ (k.errno = .epipe ∨ k.errno = .econnreset) := by
  cases room : k.room with
  | none => simp [faultError, KernelWrite.ret_of_none room, show asInt32 (-1) = -1 by decide]
  | some n =>
    have answered : k.room ≠ none := by
      rw [room]
      simp
    have below := k.accepted_le buf.length
    have nonneg : ¬(asInt32 (k.ret buf.length) < 0) := by
      rw [KernelWrite.ret_of_room answered, asInt32, toInt_of_lt (by omega)]
      omega
    simp [faultError, nonneg]

/-- `write_buffer` returns how many bytes the kernel did not take. -/
theorem writeResult_eq (short : buf.length < 2 ^ 31) :
    writeResult k buf t = (buf.length - k.accepted buf.length : Nat) := by
  have result : writeResult k buf t = asInt32 ((buf.length - nwrote k buf.length : Nat) : Int) := by
    unfold writeResult writeBuffer
    dsimp only
    rw [apply_ite Prod.fst, ite_self]
  have small : 2 * (buf.length - k.accepted buf.length) < 2 ^ 32 := by omega
  rw [result, nwrote_eq_accepted short, asInt32, toInt_of_lt small]

/-- Without an error of its own kind, what the kernel did not take is appended. -/
theorem write_deferred (short : buf.length < 2 ^ 31) (no_fault : faultError k buf.length = false) :
    (writeOutput k buf t).readable =
        t.outputBuffer.readable ++ buf.drop (k.accepted buf.length) ∧
      writeRequests k buf t = if k.accepted buf.length < buf.length then 1 else 0 := by
  have below := k.accepted_le buf.length
  unfold writeOutput writeRequests writeBuffer
  rw [nwrote_eq_accepted short, no_fault]
  by_cases more : k.accepted buf.length < buf.length
  · have some_left : 0 < buf.length - k.accepted buf.length := by omega
    simp [more, some_left, requests]
  · have everything : k.accepted buf.length = buf.length := by omega
    simp [everything, requests]

/-! ## The contract -/

/-- The number of pending bytes is what the kernel did not take. -/
theorem pending_iff (short : buf.length < 2 ^ 31) (no_fault : faultError k buf.length = false)
    {n : Nat} (some_byte : 0 < n) :
    Pending k buf t n ↔ buf.length - k.accepted buf.length = n := by
  obtain ⟨readable, requested⟩ := write_deferred (t := t) short no_fault
  have below := k.accepted_le buf.length
  unfold Pending
  rw [readable, requested, List.append_cancel_left_eq]
  constructor
  · rintro ⟨inside, same, -⟩
    have lengths := congrArg List.length same
    rw [List.length_drop, List.length_drop] at lengths
    omega
  · intro rest
    subst rest
    refine ⟨Nat.sub_le _ _, ?_, if_pos (by omega)⟩
    rw [Nat.sub_sub_self below]

/-- Whatever errors count as fatal, with `EPIPE` and `ECONNRESET` among them, `write_buffer` keeps
the contract of its comment exactly when the write does not fail fatally. -/
theorem keepsContract_iff (fatal : Errno → Bool) (epipe : fatal .epipe = true)
    (econnreset : fatal .econnreset = true) (k : KernelWrite) (buf : List UInt8)
    (t : CFrameTransport) (short : buf.length < 2 ^ 31) :
    KeepsContract fatal k buf t ↔ ¬FailedFatally fatal k := by
  have below := k.accepted_le buf.length
  constructor
  · intro keeps failed
    have negative := keeps.negative.mpr failed
    rw [writeResult_eq short] at negative
    omega
  · intro survives
    have no_fault : faultError k buf.length = false := by
      by_contra fault
      obtain ⟨room, errno⟩ := (faultError_iff short).mp (by simpa using fault)
      apply survives
      refine ⟨room, ?_⟩
      rcases errno with errno | errno
      · rw [errno]
        exact epipe
      · rw [errno]
        exact econnreset
    constructor
    case zero =>
      rw [writeResult_eq short]
      omega
    case positive =>
      intro n some_byte
      rw [writeResult_eq short, pending_iff short no_fault some_byte]
      omega
    case negative =>
      rw [writeResult_eq short]
      exact iff_of_false (by omega) survives
    case untouched =>
      intro failed
      exact absurd failed survives

/-- The errors that `write_buffer` itself takes for fatal. -/
def brokenConnection : Errno → Bool
  | .epipe | .econnreset => true
  | _ => false

/-- The kernel takes two of three bytes. -/
theorem keepsContract_partial :
    KeepsContract brokenConnection ⟨some 2, .eagain⟩ [1, 2, 3] (new .init) ↔
      ¬FailedFatally brokenConnection ⟨some 2, .eagain⟩ :=
  keepsContract_iff brokenConnection rfl rfl _ _ _ (by decide)

/-- The peer is gone: `write_buffer` returns 3 for three bytes that it has kept nowhere. -/
theorem not_keepsContract_epipe :
    ¬KeepsContract brokenConnection ⟨none, .epipe⟩ [1, 2, 3] (new .init) := by
  intro keeps
  have negative := keeps.negative.mpr ⟨rfl, rfl⟩
  rw [writeResult_eq (by decide)] at negative
  exact absurd negative (by decide)

end CFrameTransport

end NewFramework.Tstlesrv
