import NewFramework.Net.BufferQueue

/-!
# The bytes in front of the content

One buffer (`muduo/net/Buffer.h`) that is neither prepended to nor shrunk nor swapped, under any
sequence of the other operations, with arguments of any size.  A run ends where an `assert` fails,
where more is allocated than a vector can hold, or where its user would write behind the storage.

The first `kCheapPrepend` bytes stay as they were, unless a sum of sizes in `ensureWritableBytes`
wraps around: then the storage itself may become shorter than that.
-/

namespace NewFramework.Net
open NewFramework.Lib

/-- The most that a vector of bytes, or any other object, can hold. -/
def maxSize : Nat := 2 ^ 63 - 1

namespace BufferOp

/-- The operations meant here.  `readv` delivers no more than it is asked for, and a number of bytes
that `int n` keeps. -/
def InPlace (b : RawBuffer) : BufferOp → Prop
  | .prepend _ | .shrink _ => False
  | .append data => data.length ≤ maxSize
  | .store data => data.length ≤ b.writableBytes.toNat
  | .readFd (some data) => data.length ≤ b.asked ∧ data.length < 2 ^ 31
  | _ => True

instance decidableInPlace (b : RawBuffer) : ∀ op : BufferOp, Decidable (op.InPlace b)
  | .prepend _ | .shrink _ => isFalse id
  | .append data => Nat.decLe data.length maxSize
  | .store data => Nat.decLe data.length b.writableBytes.toNat
  | .readFd (some data) =>
    @instDecidableAnd _ _ (Nat.decLe data.length b.asked) (Nat.decLt data.length (2 ^ 31))
  | .readFd none | .retrieve _ | .retrieveUntil _ | .retrieveInt64 | .retrieveInt32
  | .retrieveInt16 | .retrieveInt8 | .retrieveAll | .retrieveAsString _ | .retrieveAllAsString
  | .ensureWritableBytes _ | .hasWritten _ | .unwrite _ => isTrue trivial

end BufferOp

namespace RawBuffer

def reserved (b : RawBuffer) : List UInt8 := b.buffer.take kCheapPrepend

def stepInPlace (b : RawBuffer) (op : BufferOp) : Option RawBuffer :=
  if op.InPlace b then (op.run b).bind fun b' => if b'.buffer.length ≤ maxSize then some b' else none
  else none

theorem stepInPlace_some {b b' : RawBuffer} {op : BufferOp} (moved : b.stepInPlace op = some b') :
    op.InPlace b ∧ op.run b = some b' ∧ b'.buffer.length ≤ maxSize := by
  obtain ⟨inPlace, moved⟩ := Option.ite_none_right_eq_some.mp moved
  obtain ⟨r, run, moved⟩ := Option.bind_eq_some_iff.mp moved
  obtain ⟨holds, rfl⟩ := some_of_guard moved
  exact ⟨inPlace, run, holds⟩

/-- Objects that can exist have sizes whose sums do not wrap around. -/
theorem roomFor_of_maxSize {b : Buffer} (holds : b.buffer.length ≤ maxSize) {len : UInt64}
    (object : len.toNat ≤ maxSize) : b.raw.RoomFor len := by
  have upper := b.writer_le
  unfold maxSize at holds object
  have sized : b.Sized := by
    unfold Buffer.Sized
    omega
  unfold RoomFor
  rw [Buffer.toNat_writerIndex sized]
  right
  omega

/-- The operation left a buffer in order, nothing prepended, with the reserved bytes of `b`. -/
def Keeps (b : Buffer) (r : RawBuffer) : Prop :=
  ∃ b' : Buffer, r = b'.raw ∧ b'.Unprepended ∧ b'.reserved = b.reserved

theorem Keeps.of_run {b b' : Buffer} {run : Option RawBuffer} {r : RawBuffer}
    (ran : run = some r) (made : run = some b'.raw) (unprepended : b'.Unprepended)
    (same : b'.reserved = b.reserved) : Keeps b r :=
  ⟨b', Option.some.inj (ran.symm.trans made), unprepended, same⟩

section

variable {b : Buffer} (holds : b.buffer.length ≤ maxSize) (unprepended : b.Unprepended)
include holds

theorem sized_of_maxSize : b.Sized := by
  unfold maxSize at holds
  unfold Buffer.Sized
  omega

include unprepended

theorem keeps_retrieve {len : UInt64} {r : RawBuffer} (ran : b.raw.retrieve len = some r) :
    Keeps b r := by
  have asserts : len ≤ b.raw.readableBytes := by
    unfold retrieve at ran
    exact (Option.ite_none_right_eq_some.mp ran).1
  exact Keeps.of_run ran (Buffer.raw_retrieve (sized_of_maxSize holds) asserts)
    (unprepended.retrieve _) (b.reserved_retrieve _)

theorem keeps_retrieveAsString {len : UInt64} {r : RawBuffer}
    (ran : (b.raw.retrieveAsString len).map Prod.snd = some r) : Keeps b r := by
  obtain ⟨_, taken, rfl⟩ := Option.map_eq_some_iff.mp ran
  unfold retrieveAsString at taken
  obtain ⟨-, taken⟩ := Option.ite_none_right_eq_some.mp taken
  obtain ⟨_, retrieved, rfl⟩ := Option.map_eq_some_iff.mp taken
  exact keeps_retrieve holds unprepended retrieved

theorem keeps_ensureWritableBytes {len : UInt64} (room : b.raw.RoomFor len) {r : RawBuffer}
    (ran : b.raw.ensureWritableBytes len = some r) : Keeps b r := by
  have made := Buffer.raw_ensureWritableBytes (sized_of_maxSize holds) room
  exact Keeps.of_run ran made.1 (unprepended.ensureWritableBytes _)
    (b.reserved_ensureWritableBytes _)

theorem keeps_append {data : List UInt8} (object : data.length ≤ maxSize) {r : RawBuffer}
    (ran : b.raw.append data = some r) : Keeps b r := by
  have short : data.length < 2 ^ 64 := by
    unfold maxSize at object
    omega
  have length : (UInt64.ofNat data.length).toNat = data.length := UInt64.toNat_ofNat_of_lt short
  have room : b.raw.RoomFor (.ofNat data.length) := roomFor_of_maxSize holds (by rwa [length])
  have made := Buffer.raw_append_of_room (sized_of_maxSize holds) short room
  exact Keeps.of_run ran made.1 (unprepended.append _) (Buffer.reserved_append unprepended _)

theorem keeps_store {data : List UInt8} (room : data.length ≤ b.raw.writableBytes.toNat) :
    Keeps b (b.raw.store b.raw.writerIndex data) := by
  have sized := sized_of_maxSize holds
  rw [Buffer.toNat_writableBytes sized] at room
  exact ⟨_, Buffer.raw_storeAtWrite sized room, unprepended,
    Buffer.reserved_storeAtWrite unprepended data room⟩

theorem keeps_hasWritten {len : UInt64} {r : RawBuffer} (ran : b.raw.hasWritten len = some r) :
    Keeps b r := by
  have sized := sized_of_maxSize holds
  have room : len.toNat ≤ b.writableBytes := by
    rw [← Buffer.toNat_writableBytes sized, ← UInt64.le_iff_toNat_le]
    exact (some_of_guard ran).1
  exact Keeps.of_run ran (Buffer.raw_hasWritten sized rfl room) unprepended rfl

theorem keeps_unwrite {len : UInt64} {r : RawBuffer} (ran : b.raw.unwrite len = some r) :
    Keeps b r := by
  have sized := sized_of_maxSize holds
  have room : len.toNat ≤ b.readableBytes := by
    rw [← Buffer.toNat_readableBytes sized, ← UInt64.le_iff_toNat_le]
    exact (some_of_guard ran).1
  exact Keeps.of_run ran (Buffer.raw_unwrite sized room) unprepended rfl

/-- What goes through `extrabuf` is no more than that holds, so it finds room as any object does. -/
theorem keeps_readFd {data : List UInt8} (short : data.length < 2 ^ 31) {r : RawBuffer}
    (ran : b.raw.readFd (some data) = some r) : Keeps b r := by
  have upper := b.writer_le
  have sized := sized_of_maxSize holds
  have rest : (UInt64.ofNat (data.drop b.writableBytes).length).toNat =
      (data.drop b.writableBytes).length :=
    UInt64.toNat_ofNat_of_lt (show _ < 2 ^ 64 by rw [List.length_drop]; omega)
  have read := Buffer.raw_readFd_of_room sized (show data.length < 2 ^ 64 by omega) fun fits => by
    refine roomFor_of_maxSize ?_ ?_
    · rw [Buffer.fill_length]
      exact holds
    · rw [rest, List.length_drop]
      unfold maxSize
      omega
  exact Keeps.of_run ran read.1 (unprepended.readFd _) (Buffer.reserved_readFd unprepended _)

/-- No operation in place touches the reserved bytes, as long as the sums in
`ensureWritableBytes` fit. -/
theorem keeps_run {op : BufferOp} (inPlace : op.InPlace b.raw) (fits : op.Fits b.raw)
    {r : RawBuffer} (ran : op.run b.raw = some r) : Keeps b r := by
  cases op with
  | prepend data => exact inPlace.elim
  | shrink reserve => exact inPlace.elim
  | append data => exact keeps_append holds unprepended inPlace ran
  | retrieve len => exact keeps_retrieve holds unprepended ran
  | retrieveUntil stop =>
    exact keeps_retrieve holds unprepended (Option.ite_none_right_eq_some.mp ran).2
  | retrieveInt64 => exact keeps_retrieve holds unprepended ran
  | retrieveInt32 => exact keeps_retrieve holds unprepended ran
  | retrieveInt16 => exact keeps_retrieve holds unprepended ran
  | retrieveInt8 => exact keeps_retrieve holds unprepended ran
  | retrieveAll => exact ⟨b.retrieveAll, (Option.some.inj ran).symm, Nat.le_refl _, rfl⟩
  | retrieveAsString len => exact keeps_retrieveAsString holds unprepended ran
  | retrieveAllAsString => exact keeps_retrieveAsString holds unprepended ran
  | ensureWritableBytes len => exact keeps_ensureWritableBytes holds unprepended fits ran
  | store data =>
    obtain rfl := Option.some.inj ran
    exact keeps_store holds unprepended inPlace
  | hasWritten len => exact keeps_hasWritten holds unprepended ran
  | unwrite len => exact keeps_unwrite holds unprepended ran
  | readFd delivered =>
    cases delivered with
    | none => exact ⟨b, (Option.some.inj ran).symm, unprepended, rfl⟩
    | some data => exact keeps_readFd holds unprepended inPlace.2 ran

end

/-- The invariant of a run: a buffer in order, nothing prepended, with the given reserved bytes. -/
def Holding (bytes : List UInt8) (r : RawBuffer) : Prop :=
  ∃ b : Buffer, r = b.raw ∧ b.buffer.length ≤ maxSize ∧ b.Unprepended ∧ b.reserved = bytes

theorem Holding.step {bytes : List UInt8} {r r' : RawBuffer} {op : BufferOp}
    (holding : Holding bytes r) (fits : op.Fits r) (moved : r.stepInPlace op = some r') :
    Holding bytes r' := by
  obtain ⟨b, rfl, holds, unprepended, same⟩ := holding
  obtain ⟨inPlace, ran, holds'⟩ := stepInPlace_some moved
  obtain ⟨b', rfl, unprepended', kept⟩ := keeps_run holds unprepended inPlace fits ran
  exact ⟨b', rfl, holds', unprepended', kept.trans same⟩

/-- In every run whose sums fit, the reserved bytes are those of the start. -/
theorem always_reserved {b : Buffer} (unprepended : b.Unprepended)
    (holds : b.buffer.length ≤ maxSize) {ops : List BufferOp}
    (fits : EachStep stepInPlace (fun r op _ => op.Fits r) b.raw ops) :
    Always stepInPlace (fun r => r.reserved = b.reserved) b.raw ops := by
  have start : Holding b.reserved b.raw := ⟨b, rfl, holds, unprepended, rfl⟩
  refine Always.of_invariant ?_ ?_ start fits
  · intro r op r' holding fit moved
    exact holding.step fit moved
  · rintro _ ⟨b', rfl, -, -, same⟩
    exact same

/-- A full storage of 24 bytes, a frame's length in front.  `writerIndex_ + len` wraps around to 0
and then to 8: the storage is emptied, and comes back as zeros. -/
theorem not_always_reserved_ensureWritableBytes :
    ¬ Always stepInPlace (fun r => r.reserved = [0, 0, 0, 5, 0, 0, 0, 0])
      ((Buffer.ofSize 16).storeAtBegin [0, 0, 0, 5]).raw
      [.hasWritten 16, .ensureWritableBytes 18446744073709551592,
        .ensureWritableBytes 18446744073709551600] := by
  decide +kernel

end RawBuffer

end NewFramework.Net
