import NewFramework.Net.RawBuffer

/-!
# A `Buffer` is a queue of bytes

As long as no sum of sizes wraps around, the operations of `muduo/net/Buffer.h` with 64 bits are
those of the buffer whose indexes are in order, and these are the operations of a plain list.  The
only sums that can wrap around are those of `ensureWritableBytes` and `shrink`, whose argument
nothing bounds.
-/

namespace NewFramework.Net
open NewFramework.Lib

namespace RawBuffer

/-- No sum wraps around where room is made for `len` bytes. -/
def RoomFor (len : UInt64) (b : RawBuffer) : Prop :=
  len ≤ b.writableBytes ∨ len.toNat + 8 < 2 ^ 64 ∧
    (len.toNat + 8 ≤ b.writableBytes.toNat + b.prependableBytes.toNat ∨
      b.writerIndex.toNat + len.toNat < 2 ^ 64)

instance (len : UInt64) (b : RawBuffer) : Decidable (b.RoomFor len) :=
  inferInstanceAs (Decidable (_ ∨ _))

/-- The asserts of the constructor hold for every size, also where `kCheapPrepend + initialSize`
wraps around. -/
theorem ofSize_asserts (n : UInt64) :
    (ofSize n).readableBytes = 0 ∧ (ofSize n).writableBytes = n ∧
      (ofSize n).prependableBytes = cheapPrepend := by
  refine ⟨UInt64.sub_self cheapPrepend, ?_, rfl⟩
  unfold writableBytes size ofSize
  rw [List.length_replicate, UInt64.ofNat_toNat, UInt64.add_comm, UInt64.add_sub_cancel]

theorem ordered_ofSize_iff (n : UInt64) : (ofSize n).Ordered ↔ n.toNat + 8 < 2 ^ 64 := by
  have upper := n.toNat_lt
  have sum : (cheapPrepend + n).toNat = (8 + n.toNat) % 2 ^ 64 := UInt64.toNat_add ..
  unfold Ordered ofSize
  rw [List.length_replicate, sum]
  apply (and_iff_right (UInt64.le_refl _)).trans
  show 8 ≤ (8 + n.toNat) % 2 ^ 64 ↔ _
  omega

end RawBuffer

/-! ## With 64 bits and without -/

namespace Buffer

/-- The buffer as the machine has it. -/
def raw (b : Buffer) : RawBuffer where
  buffer := b.buffer
  readerIndex := .ofNat b.readerIndex
  writerIndex := .ofNat b.writerIndex

/-- The storage is as large as a vector can be. -/
def Sized (b : Buffer) : Prop := b.buffer.length < 2 ^ 64

variable {b : Buffer}

section Sizes

variable (sized : b.Sized)
include sized

theorem toNat_writerIndex : b.raw.writerIndex.toNat = b.writerIndex :=
  UInt64.toNat_ofNat_of_lt (b.writer_le.trans_lt sized)

theorem toNat_readerIndex : b.raw.readerIndex.toNat = b.readerIndex :=
  UInt64.toNat_ofNat_of_lt ((b.reader_le.trans b.writer_le).trans_lt sized)

theorem toNat_size : b.raw.size.toNat = b.buffer.length := UInt64.toNat_ofNat_of_lt sized

theorem toNat_readableBytes : b.raw.readableBytes.toNat = b.readableBytes := by
  have le : b.raw.readerIndex ≤ b.raw.writerIndex := by
    rw [UInt64.le_iff_toNat_le, toNat_readerIndex sized, toNat_writerIndex sized]
    exact b.reader_le
  rw [RawBuffer.readableBytes, UInt64.toNat_sub_of_le _ _ le, toNat_readerIndex sized,
    toNat_writerIndex sized]
  rfl

theorem toNat_writableBytes : b.raw.writableBytes.toNat = b.writableBytes := by
  have le : b.raw.writerIndex ≤ b.raw.size := by
    rw [UInt64.le_iff_toNat_le, toNat_writerIndex sized, toNat_size sized]
    exact b.writer_le
  rw [RawBuffer.writableBytes, UInt64.toNat_sub_of_le _ _ le, toNat_size sized,
    toNat_writerIndex sized]
  rfl

theorem readable_raw : b.raw.readable = b.readable := by
  rw [RawBuffer.readable, toNat_readableBytes sized, toNat_readerIndex sized]
  rfl

theorem ordered_raw : b.raw.Ordered := by
  refine ⟨?_, ?_⟩
  · rw [UInt64.le_iff_toNat_le, toNat_readerIndex sized, toNat_writerIndex sized]
    exact b.reader_le
  · rw [toNat_writerIndex sized]
    exact b.writer_le

end Sizes

theorem eq_raw {r : RawBuffer} (buffer : r.buffer = b.buffer)
    (reader : r.readerIndex.toNat = b.readerIndex) (writer : r.writerIndex.toNat = b.writerIndex) :
    r = b.raw := by
  obtain ⟨_, _, _⟩ := r
  obtain rfl := buffer
  simp only [raw, RawBuffer.mk.injEq, true_and]
  rw [← reader, ← writer, UInt64.ofNat_toNat, UInt64.ofNat_toNat]
  exact ⟨rfl, rfl⟩

section Operations

variable (sized : b.Sized)
include sized

theorem raw_retrieve {len : UInt64} (asserts : len ≤ b.raw.readableBytes) :
    b.raw.retrieve len = some (b.retrieve len.toNat).raw := by
  have readable := toNat_readableBytes sized
  have le := UInt64.le_iff_toNat_le.mp asserts
  have upper := b.writer_le
  unfold Sized at sized
  unfold RawBuffer.retrieve retrieve
  rw [if_pos asserts]
  apply congrArg some
  split
  · next less =>
    rw [UInt64.lt_iff_toNat_lt, readable] at less
    rw [dif_pos less]
    refine eq_raw rfl ?_ (toNat_writerIndex sized)
    unfold readableBytes at less
    rw [UInt64.toNat_add, toNat_readerIndex sized, Nat.mod_eq_of_lt (by omega)]
  · next less =>
    rw [UInt64.lt_iff_toNat_lt, readable] at less
    rw [dif_neg less]
    rfl

theorem raw_storeAtWrite {data : List UInt8} (room : data.length ≤ b.writableBytes) :
    b.raw.store b.raw.writerIndex data = (b.storeAtWrite data room).raw := by
  refine eq_raw ?_ (toNat_readerIndex sized) (toNat_writerIndex sized)
  rw [RawBuffer.store, toNat_writerIndex sized]
  rfl

theorem storeAtWrite_sized {data : List UInt8} (room : data.length ≤ b.writableBytes) :
    (b.storeAtWrite data room).Sized := by
  have upper := b.writer_le
  unfold Sized at sized ⊢
  unfold writableBytes at room
  simp only [storeAtWrite, List.length_append, List.length_take, List.length_drop]
  omega

theorem raw_hasWritten {len : UInt64} {n : Nat} (eq : len.toNat = n) (room : n ≤ b.writableBytes) :
    b.raw.hasWritten len = some (b.hasWritten n room).raw := by
  subst eq
  have upper := b.writer_le
  have asserts : len ≤ b.raw.writableBytes := by
    rwa [UInt64.le_iff_toNat_le, toNat_writableBytes sized]
  unfold Sized at sized
  unfold writableBytes at room
  rw [RawBuffer.hasWritten, if_pos asserts]
  refine congrArg some (eq_raw rfl (toNat_readerIndex sized) ?_)
  rw [UInt64.toNat_add, toNat_writerIndex sized, Nat.mod_eq_of_lt (by omega)]
  rfl

theorem raw_fill {data : List UInt8} {len : UInt64} (length : len.toNat = data.length)
    (room : data.length ≤ b.writableBytes) :
    (b.raw.store b.raw.writerIndex data).hasWritten len = some (b.fill data room).raw ∧
      (b.fill data room).Sized := by
  have stored := storeAtWrite_sized sized room
  rw [raw_storeAtWrite sized room]
  exact ⟨raw_hasWritten stored length _, stored⟩

theorem raw_unwrite {len : UInt64} (room : len.toNat ≤ b.readableBytes) :
    b.raw.unwrite len = some (b.unwrite len.toNat room).raw := by
  have asserts : len ≤ b.raw.readableBytes := by
    rwa [UInt64.le_iff_toNat_le, toNat_readableBytes sized]
  have le : len ≤ b.raw.writerIndex := by
    rw [UInt64.le_iff_toNat_le, toNat_writerIndex sized]
    exact room.trans (Nat.sub_le ..)
  rw [RawBuffer.unwrite, if_pos asserts]
  refine congrArg some (eq_raw rfl (toNat_readerIndex sized) ?_)
  rw [UInt64.toNat_sub_of_le _ _ le, toNat_writerIndex sized]
  rfl

theorem raw_prepend {data : List UInt8} (room : data.length ≤ b.prependableBytes) :
    b.raw.prepend data = some (b.prepend data room).raw := by
  have upper := b.reader_le.trans b.writer_le
  have length : (UInt64.ofNat data.length).toNat = data.length :=
    UInt64.toNat_ofNat_of_lt ((room.trans upper).trans_lt sized)
  have asserts : UInt64.ofNat data.length ≤ b.raw.readerIndex := by
    rwa [UInt64.le_iff_toNat_le, length, toNat_readerIndex sized]
  have reader : (b.raw.readerIndex - .ofNat data.length).toNat = b.readerIndex - data.length := by
    rw [UInt64.toNat_sub_of_le _ _ asserts, length, toNat_readerIndex sized]
  unfold prependableBytes at room
  rw [RawBuffer.prepend, RawBuffer.prependableBytes]
  dsimp only
  rw [if_pos asserts]
  refine congrArg some (eq_raw ?_ reader (toNat_writerIndex sized))
  dsimp only [RawBuffer.store, prepend]
  rw [reader, Nat.sub_add_cancel room]
  rfl

/-- The test of `makeSpace`. -/
theorem toNat_room : (b.raw.writableBytes + b.raw.prependableBytes).toNat =
    b.writableBytes + b.prependableBytes := by
  have writable := toNat_writableBytes sized
  have reader : b.raw.prependableBytes.toNat = b.prependableBytes := toNat_readerIndex sized
  have lower := b.reader_le
  have upper := b.writer_le
  unfold Sized at sized
  rw [UInt64.toNat_add, writable, reader]
  unfold writableBytes prependableBytes
  exact Nat.mod_eq_of_lt (by omega)

theorem raw_compact (front : kCheapPrepend < b.readerIndex) :
    b.raw.compact = (b.compact front).raw := by
  have lower := b.reader_le
  have upper := b.writer_le
  refine eq_raw ?_ rfl ?_
  · dsimp only [RawBuffer.compact, RawBuffer.store, compact]
    rw [readable_raw sized, readable_length]
    rfl
  · dsimp only [RawBuffer.compact]
    rw [UInt64.toNat_add, toNat_readableBytes sized]
    unfold Sized at sized
    have front : 8 < b.readerIndex := front
    apply Nat.mod_eq_of_lt
    show 8 + b.readableBytes < 2 ^ 64
    unfold readableBytes
    omega

omit sized in
theorem readableBytes_compact (r : RawBuffer) : r.compact.readableBytes = r.readableBytes := by
  dsimp only [RawBuffer.compact, RawBuffer.readableBytes]
  rw [UInt64.add_comm, UInt64.add_sub_cancel]

theorem compact_sized (front : kCheapPrepend < b.readerIndex) : (b.compact front).Sized := by
  have lower := b.reader_le
  have upper := b.writer_le
  have front : 8 < b.readerIndex := front
  unfold Sized at sized ⊢
  simp only [compact, List.length_append, List.length_take, List.length_drop, readable_length,
    readableBytes, kCheapPrepend]
  omega

theorem raw_makeSpace {len : UInt64} (less : b.writableBytes < len.toNat)
    (small : len.toNat + 8 < 2 ^ 64)
    (fits : len.toNat + 8 ≤ b.writableBytes + b.prependableBytes ∨
      b.writerIndex + len.toNat < 2 ^ 64) :
    b.raw.makeSpace len = some (b.makeSpace len.toNat less).raw ∧
      (b.makeSpace len.toNat less).Sized := by
  have needs : (len + RawBuffer.cheapPrepend).toNat = len.toNat + kCheapPrepend := by
    rw [UInt64.toNat_add]
    exact Nat.mod_eq_of_lt small
  have test : b.raw.writableBytes + b.raw.prependableBytes < len + RawBuffer.cheapPrepend ↔
      b.writableBytes + b.prependableBytes < len.toNat + kCheapPrepend := by
    rw [UInt64.lt_iff_toNat_lt, toNat_room sized, needs]
  unfold RawBuffer.makeSpace makeSpace
  by_cases grows : b.writableBytes + b.prependableBytes < len.toNat + kCheapPrepend
  · have fits : b.writerIndex + len.toNat < 2 ^ 64 := fits.resolve_left (Nat.not_le.mpr grows)
    have resized : (b.raw.writerIndex + len).toNat = b.writerIndex + len.toNat := by
      rw [UInt64.toNat_add, toNat_writerIndex sized, Nat.mod_eq_of_lt fits]
    have longer : b.buffer.length ≤ b.writerIndex + len.toNat := by
      unfold writableBytes at less
      omega
    rw [if_pos (test.mpr grows), dif_pos grows]
    constructor
    · refine congrArg some (eq_raw ?_ (toNat_readerIndex sized) (toNat_writerIndex sized))
      dsimp only [RawBuffer.resize, resize]
      rw [resized, List.take_of_length_le (show b.raw.buffer.length ≤ _ from longer)]
      rfl
    · unfold Sized resize
      simp only [List.length_append, List.length_replicate]
      omega
  · have front : kCheapPrepend < b.readerIndex := by
      unfold prependableBytes at grows
      omega
    have asserts : RawBuffer.cheapPrepend < b.raw.readerIndex := by
      rw [UInt64.lt_iff_toNat_lt, toNat_readerIndex sized]
      exact front
    rw [if_neg (mt test.mp grows), dif_neg grows, if_pos asserts,
      if_pos (readableBytes_compact _).symm, raw_compact sized front]
    exact ⟨rfl, compact_sized sized front⟩

theorem raw_ensureWritableBytes {len : UInt64} (room : b.raw.RoomFor len) :
    b.raw.ensureWritableBytes len = some (b.ensureWritableBytes len.toNat).raw ∧
      (b.ensureWritableBytes len.toNat).Sized := by
  have less : b.raw.writableBytes < len ↔ b.writableBytes < len.toNat := by
    rw [UInt64.lt_iff_toNat_lt, toNat_writableBytes sized]
  have made : (if b.raw.writableBytes < len then b.raw.makeSpace len else some b.raw) =
      some (b.ensureWritableBytes len.toNat).raw ∧ (b.ensureWritableBytes len.toNat).Sized := by
    unfold ensureWritableBytes
    by_cases short : b.writableBytes < len.toNat
    · rw [if_pos (less.mpr short), dif_pos short]
      have fits := room.resolve_left (UInt64.not_le.mpr (less.mpr short))
      rw [toNat_writableBytes sized, toNat_writerIndex sized] at fits
      have reader : b.raw.prependableBytes.toNat = b.prependableBytes := toNat_readerIndex sized
      rw [reader] at fits
      exact raw_makeSpace sized short fits.1 fits.2
    · rw [if_neg (mt less.mp short), dif_neg short]
      exact ⟨rfl, sized⟩
  refine ⟨?_, made.2⟩
  have asserts : len ≤ (b.ensureWritableBytes len.toNat).raw.writableBytes := by
    rw [UInt64.le_iff_toNat_le, toNat_writableBytes made.2]
    exact b.ensureWritableBytes_writable _
  rw [RawBuffer.ensureWritableBytes, made.1, Option.bind_some, if_pos asserts]

/-- Bytes that leave the content small fit. -/
theorem roomFor_of_small {len : UInt64} (small : b.readableBytes + len.toNat < 2 ^ 31) :
    b.raw.RoomFor len := by
  have lower := b.reader_le
  have upper := b.writer_le
  have reader : b.raw.prependableBytes.toNat = b.readerIndex := toNat_readerIndex sized
  unfold RawBuffer.RoomFor
  rw [UInt64.le_iff_toNat_le, toNat_writableBytes sized, toNat_writerIndex sized, reader]
  unfold readableBytes at small
  unfold writableBytes
  omega

theorem raw_append_of_room {data : List UInt8} (short : data.length < 2 ^ 64)
    (room : b.raw.RoomFor (.ofNat data.length)) :
    b.raw.append data = some (b.append data).raw ∧ (b.append data).Sized := by
  have length : (UInt64.ofNat data.length).toNat = data.length := UInt64.toNat_ofNat_of_lt short
  obtain ⟨made, sized'⟩ := raw_ensureWritableBytes sized room
  rw [length] at made sized'
  have fits := b.ensureWritableBytes_writable data.length
  rw [RawBuffer.append, made, Option.bind_some]
  exact raw_fill sized' length fits

theorem raw_append {data : List UInt8} (small : b.readableBytes + data.length < 2 ^ 31) :
    b.raw.append data = some (b.append data).raw ∧ (b.append data).Sized := by
  have short : data.length < 2 ^ 64 := by omega
  have length : (UInt64.ofNat data.length).toNat = data.length := UInt64.toNat_ofNat_of_lt short
  exact raw_append_of_room sized short (roomFor_of_small sized (by rwa [length]))

/-- The storage is full where more bytes came than it takes: the rest is in `extrabuf`. -/
theorem raw_readFd_of_room {data : List UInt8} (short : data.length < 2 ^ 64)
    (room : ∀ fits : (data.take b.writableBytes).length ≤ b.writableBytes,
      (b.fill (data.take b.writableBytes) fits).raw.RoomFor
        (.ofNat (data.drop b.writableBytes).length)) :
    b.raw.readFd (some data) = some (b.readFd data).raw ∧ (b.readFd data).Sized := by
  have length : (UInt64.ofNat data.length).toNat = data.length := UInt64.toNat_ofNat_of_lt short
  have test : UInt64.ofNat data.length ≤ b.raw.writableBytes ↔ data.length ≤ b.writableBytes := by
    rw [UInt64.le_iff_toNat_le, length, toNat_writableBytes sized]
  unfold RawBuffer.readFd readFd
  dsimp only
  by_cases fits : data.length ≤ b.writableBytes
  · obtain ⟨filled, sized'⟩ := raw_fill sized length fits
    obtain ⟨-, eq⟩ := some_of_guard filled
    rw [if_pos (test.mpr fits), dif_pos fits]
    exact ⟨congrArg some eq, sized'⟩
  · have taken : (data.take b.writableBytes).length = b.writableBytes :=
      List.length_take_of_le (Nat.le_of_not_le fits)
    have sized' : (b.fill (data.take b.writableBytes) (Nat.le_of_eq taken)).Sized :=
      storeAtWrite_sized sized (Nat.le_of_eq taken)
    have full : ({ b.raw.store b.raw.writerIndex (data.take b.writableBytes) with
        writerIndex := b.raw.size } : RawBuffer) =
        (b.fill (data.take b.writableBytes) (Nat.le_of_eq taken)).raw := by
      have stored := storeAtWrite_sized sized (Nat.le_of_eq taken)
      rw [raw_storeAtWrite sized (Nat.le_of_eq taken)]
      refine eq_raw rfl (toNat_readerIndex stored) ?_
      have upper := b.writer_le
      rw [toNat_size sized]
      show b.buffer.length = b.writerIndex + (data.take b.writableBytes).length
      rw [taken, writableBytes]
      omega
    have shorter : (data.drop b.writableBytes).length < 2 ^ 64 := by
      rw [List.length_drop]
      omega
    rw [if_neg (mt test.mp fits), dif_neg fits, toNat_writableBytes sized, full]
    exact raw_append_of_room sized' shorter (room _)

theorem raw_readFd {data : List UInt8} (small : b.readableBytes + data.length < 2 ^ 31) :
    b.raw.readFd (some data) = some (b.readFd data).raw ∧ (b.readFd data).Sized := by
  apply raw_readFd_of_room sized (by omega)
  intro fits
  have sized' : (b.fill (data.take b.writableBytes) fits).Sized := storeAtWrite_sized sized fits
  have left : (UInt64.ofNat (data.drop b.writableBytes).length).toNat =
      (data.drop b.writableBytes).length :=
    UInt64.toNat_ofNat_of_lt (show _ < 2 ^ 64 by rw [List.length_drop]; omega)
  apply roomFor_of_small sized'
  rw [left, readableBytes_fill, List.length_take, List.length_drop]
  omega

omit sized in
theorem sized_ofSize {n : UInt64} (small : n.toNat + 8 < 2 ^ 64) : (ofSize n.toNat).Sized := by
  unfold Sized ofSize kCheapPrepend
  rw [List.length_replicate]
  omega

omit sized in
theorem raw_ofSize {n : UInt64} (small : n.toNat + 8 < 2 ^ 64) :
    RawBuffer.ofSize n = (ofSize n.toNat).raw := by
  refine eq_raw ?_ rfl rfl
  have sum : (RawBuffer.cheapPrepend + n).toNat = 8 + n.toNat := by
    rw [UInt64.toNat_add]
    exact Nat.mod_eq_of_lt (show 8 + n.toNat < 2 ^ 64 by omega)
  rw [RawBuffer.ofSize, sum]
  rfl

theorem raw_shrink {reserve : UInt64} (small : b.readableBytes < 2 ^ 31)
    (room : (RawBuffer.ofSize (.ofNat kInitialSize)).RoomFor (b.raw.readableBytes + reserve)) :
    b.raw.shrink reserve = some (b.shrinkTo (b.raw.readableBytes + reserve).toNat).raw ∧
      (b.shrinkTo (b.raw.readableBytes + reserve).toNat).Sized := by
  have piece : b.raw.toStringPiece = some b.readable := by
    rw [RawBuffer.toStringPiece, if_pos, readable_raw sized]
    rw [UInt64.lt_iff_toNat_lt, toNat_readableBytes sized]
    exact small
  have initial : (UInt64.ofNat kInitialSize).toNat + 8 < 2 ^ 64 := by decide
  rw [raw_ofSize initial] at room
  obtain ⟨made, sized'⟩ := raw_ensureWritableBytes (sized_ofSize initial) room
  rw [RawBuffer.shrink, raw_ofSize initial, made, Option.bind_some, piece, Option.bind_some]
  apply raw_append sized'
  rw [readableBytes_ensureWritableBytes, readable_length]
  show 0 + b.readableBytes < 2 ^ 31
  omega

theorem prepend_sized {data : List UInt8} (room : data.length ≤ b.prependableBytes) :
    (b.prepend data room).Sized := by
  have upper := b.reader_le.trans b.writer_le
  unfold Sized at sized ⊢
  unfold prependableBytes at room
  simp only [prepend, List.length_append, List.length_take, List.length_drop]
  omega

/-- The bytes that `retrieveAsString` returns are those it drops. -/
theorem raw_retrieveAsString {len : UInt64} (asserts : len ≤ b.raw.readableBytes) :
    b.raw.retrieveAsString len =
      some (b.readable.take len.toNat, (b.retrieve len.toNat).raw) := by
  rw [RawBuffer.retrieveAsString, if_pos asserts, raw_retrieve sized asserts, readable_raw sized]
  rfl

theorem retrieve_sized (n : Nat) : (b.retrieve n).Sized := by
  unfold retrieve
  split <;> exact sized

/-- Where `len + kCheapPrepend` wraps around to what there is room for, an `assert` fails. -/
theorem ensureWritableBytes_eq_none {len : UInt64} (short : b.writableBytes < len.toNat)
    (wraps : 2 ^ 64 ≤ len.toNat + 8)
    (room : len.toNat + 8 - 2 ^ 64 ≤ b.writableBytes + b.prependableBytes) :
    b.raw.ensureWritableBytes len = none := by
  have bound := len.toNat_lt
  have needs : (len + RawBuffer.cheapPrepend).toNat = (len.toNat + 8) % 2 ^ 64 :=
    UInt64.toNat_add ..
  have less : b.raw.writableBytes < len := by
    rw [UInt64.lt_iff_toNat_lt, toNat_writableBytes sized]
    exact short
  have moves : ¬ b.raw.writableBytes + b.raw.prependableBytes < len + RawBuffer.cheapPrepend := by
    rw [UInt64.lt_iff_toNat_lt, toNat_room sized, needs]
    omega
  rw [RawBuffer.ensureWritableBytes, if_pos less, RawBuffer.makeSpace, if_neg moves]
  by_cases asserts : RawBuffer.cheapPrepend < b.raw.readerIndex
  · have front : kCheapPrepend < b.readerIndex := by
      rwa [UInt64.lt_iff_toNat_lt, toNat_readerIndex sized] at asserts
    have sized' := compact_sized sized front
    have small : ¬ len ≤ (b.compact front).raw.writableBytes := by
      rw [UInt64.le_iff_toNat_le, toNat_writableBytes sized']
      have upper : (b.compact front).buffer.length < 2 ^ 64 := sized'
      have writer : (b.compact front).writerIndex = 8 + b.readableBytes := rfl
      unfold writableBytes
      omega
    rw [if_pos asserts, if_pos (readableBytes_compact _).symm, raw_compact sized front,
      Option.bind_some, if_neg small]
  · rw [if_neg asserts, Option.bind_none]

/-- Where a sum wraps around, either an `assert` fails or the storage ends below `writerIndex_`. -/
theorem not_ordered_ensureWritableBytes {len : UInt64} (wraps : ¬ b.raw.RoomFor len)
    {r : RawBuffer} (made : b.raw.ensureWritableBytes len = some r) : ¬ r.Ordered := by
  have lower := b.reader_le
  have upper := b.writer_le
  have least : 8 ≤ b.buffer.length := b.prepend_le
  have bound := len.toNat_lt
  have writable := toNat_writableBytes sized
  have reader : b.raw.prependableBytes.toNat = b.prependableBytes := toNat_readerIndex sized
  have writer := toNat_writerIndex sized
  obtain ⟨short, wraps⟩ := not_or.mp wraps
  rw [UInt64.le_iff_toNat_le, writable, Nat.not_le] at short
  rw [writable, reader, writer] at wraps
  have less : b.raw.writableBytes < len := by rwa [UInt64.lt_iff_toNat_lt, writable]
  have needs : (len + RawBuffer.cheapPrepend).toNat = (len.toNat + 8) % 2 ^ 64 :=
    UInt64.toNat_add ..
  have grows : b.writableBytes + b.prependableBytes < (len.toNat + 8) % 2 ^ 64 := by
    by_contra moves
    have exceeds : 2 ^ 64 ≤ len.toNat + 8 := by omega
    rw [ensureWritableBytes_eq_none sized short exceeds (by omega)] at made
    contradiction
  have test : b.raw.writableBytes + b.raw.prependableBytes < len + RawBuffer.cheapPrepend := by
    rwa [UInt64.lt_iff_toNat_lt, toNat_room sized, needs]
  rw [RawBuffer.ensureWritableBytes, if_pos less, RawBuffer.makeSpace, if_pos test,
    Option.bind_some] at made
  obtain ⟨-, rfl⟩ := some_of_guard made
  rintro ⟨-, within⟩
  have resized : (b.raw.writerIndex + len).toNat = (b.writerIndex + len.toNat) % 2 ^ 64 := by
    rw [UInt64.toNat_add, writer]
  have length : b.raw.buffer.length = b.buffer.length := rfl
  dsimp only [RawBuffer.resize] at within
  rw [List.length_append, List.length_take, List.length_replicate, resized, writer] at within
  unfold writableBytes prependableBytes at *
  omega

end Operations

end Buffer

/-- In a new buffer only `len + kCheapPrepend` can wrap around. -/
theorem RawBuffer.ensureWritableBytes_ofSize_eq_none {len : UInt64}
    (wraps : ¬ (ofSize (.ofNat kInitialSize)).RoomFor len) :
    (ofSize (.ofNat kInitialSize)).ensureWritableBytes len = none := by
  have initial : (UInt64.ofNat kInitialSize).toNat + 8 < 2 ^ 64 := by decide
  have sized := Buffer.sized_ofSize initial
  rw [Buffer.raw_ofSize initial] at wraps ⊢
  unfold RoomFor at wraps
  rw [UInt64.le_iff_toNat_le, Buffer.toNat_writableBytes sized,
    Buffer.toNat_writerIndex sized] at wraps
  have writer : (Buffer.ofSize (UInt64.ofNat kInitialSize).toNat).writerIndex = 8 := rfl
  have writable : (Buffer.ofSize (UInt64.ofNat kInitialSize).toNat).writableBytes = 1024 := by
    rw [Buffer.writableBytes, Buffer.ofSize, List.length_replicate]
    rfl
  have prependable : (Buffer.ofSize (UInt64.ofNat kInitialSize).toNat).prependableBytes = 8 := rfl
  have bound := len.toNat_lt
  apply Buffer.ensureWritableBytes_eq_none sized <;> omega

namespace BufferOp

/-- The sums of the operation do not wrap around. -/
def Fits (b : RawBuffer) : BufferOp → Prop
  | .ensureWritableBytes len => b.RoomFor len
  | .shrink reserve =>
    (RawBuffer.ofSize (.ofNat kInitialSize)).RoomFor (b.readableBytes + reserve)
  | _ => True

instance (b : RawBuffer) (op : BufferOp) : Decidable (op.Fits b) := by
  unfold Fits
  split <;> infer_instance

/-- The operation leads from `b` to `b'`, and does to the readable bytes what it does to a plain
list. -/
structure Queues (b : Buffer) (op : BufferOp) (b' : Buffer) : Prop where
  run : op.run b.raw = some b'.raw
  sized : b'.Sized
  readable : b'.readable = (op.byteOp b.raw).apply b.readable

section

variable {b : Buffer} (sized : b.Sized)
include sized

theorem expected_raw (op : BufferOp) :
    op.expected b.raw = (op.byteOp b.raw).apply b.readable := by
  rw [expected, b.readable_raw sized]

theorem retrieve_queues {op : BufferOp} {len : UInt64}
    (run : op.run b.raw = b.raw.retrieve len) (byteOp : op.byteOp b.raw = .drop len.toNat)
    (asserts : len ≤ b.raw.readableBytes) : op.Queues b (b.retrieve len.toNat) where
  run := run.trans (b.raw_retrieve sized asserts)
  sized := b.retrieve_sized sized _
  readable := by
    rw [byteOp, Buffer.readable_retrieve]
    rfl

/-- Called as it asserts, an operation whose sums fit is that of a queue. -/
theorem exists_queues (op : BufferOp) (small : b.readableBytes < 2 ^ 31) (pre : op.Pre b.raw)
    (short : (op.expected b.raw).length < 2 ^ 31) (fits : op.Fits b.raw) :
    ∃ b', op.Queues b b' := by
  rw [expected_raw sized] at short
  cases op with
  | append data =>
    have short : (b.readable ++ data).length < 2 ^ 31 := short
    rw [List.length_append, Buffer.readable_length] at short
    obtain ⟨run, sized'⟩ := b.raw_append sized short
    exact ⟨_, run, sized', b.readable_append data⟩
  | prepend data =>
    have room : data.length ≤ b.prependableBytes := pre.trans_eq (b.toNat_readerIndex sized)
    exact ⟨_, b.raw_prepend sized room, b.prepend_sized sized room, b.readable_prepend data room⟩
  | retrieve len => exact ⟨_, retrieve_queues sized rfl rfl pre⟩
  | retrieveUntil stop =>
    have le : (stop - b.raw.readerIndex).toNat = stop.toNat - b.raw.readerIndex.toNat :=
      UInt64.toNat_sub_of_le _ _ pre.1
    have asserts : stop - b.raw.readerIndex ≤ b.raw.readableBytes := by
      have upper := UInt64.le_iff_toNat_le.mp pre.2
      rw [UInt64.le_iff_toNat_le, le, b.toNat_readableBytes sized, b.toNat_readerIndex sized]
      rw [b.toNat_writerIndex sized] at upper
      exact Nat.sub_le_sub_right upper _
    exact ⟨_, retrieve_queues sized (if_pos pre) (congrArg ByteOp.drop le.symm) asserts⟩
  | retrieveInt64 => exact ⟨_, retrieve_queues sized rfl rfl pre⟩
  | retrieveInt32 => exact ⟨_, retrieve_queues sized rfl rfl pre⟩
  | retrieveInt16 => exact ⟨_, retrieve_queues sized rfl rfl pre⟩
  | retrieveInt8 => exact ⟨_, retrieve_queues sized rfl rfl pre⟩
  | retrieveAll => exact ⟨b.retrieveAll, rfl, sized, b.readable_retrieveAll⟩
  | retrieveAsString len =>
    have run := congrArg (Option.map Prod.snd) (b.raw_retrieveAsString sized pre)
    exact ⟨_, run, b.retrieve_sized sized _, b.readable_retrieve _⟩
  | retrieveAllAsString =>
    have run := congrArg (Option.map Prod.snd)
      (b.raw_retrieveAsString sized (UInt64.le_refl b.raw.readableBytes))
    refine ⟨_, run, b.retrieve_sized sized _, ?_⟩
    rw [b.toNat_readableBytes sized, Buffer.readable_retrieve, ← b.readable_length,
      List.drop_length]
    rfl
  | ensureWritableBytes len =>
    obtain ⟨run, sized'⟩ := b.raw_ensureWritableBytes sized fits
    exact ⟨_, run, sized', b.readable_ensureWritableBytes _⟩
  | store data =>
    have room : data.length ≤ b.writableBytes := pre.trans_eq (b.toNat_writableBytes sized)
    exact ⟨_, congrArg some (b.raw_storeAtWrite sized room), b.storeAtWrite_sized sized room,
      b.readable_storeAtWrite data room⟩
  | hasWritten len =>
    have room : len.toNat ≤ b.writableBytes :=
      (UInt64.le_iff_toNat_le.mp pre).trans_eq (b.toNat_writableBytes sized)
    refine ⟨_, b.raw_hasWritten sized rfl room, sized, ?_⟩
    rw [Buffer.readable_hasWritten, byteOp, b.toNat_writerIndex sized]
    rfl
  | unwrite len =>
    have room : len.toNat ≤ b.readableBytes :=
      (UInt64.le_iff_toNat_le.mp pre).trans_eq (b.toNat_readableBytes sized)
    refine ⟨_, b.raw_unwrite sized room, sized, ?_⟩
    rw [Buffer.readable_unwrite]
    rfl
  | shrink reserve =>
    obtain ⟨run, sized'⟩ := b.raw_shrink sized small fits
    exact ⟨_, run, sized', b.readable_shrinkTo _⟩
  | readFd delivered =>
    cases delivered with
    | none => exact ⟨b, rfl, sized, rfl⟩
    | some data =>
      have short : (b.readable ++ data).length < 2 ^ 31 := short
      rw [List.length_append, Buffer.readable_length] at short
      obtain ⟨run, sized'⟩ := b.raw_readFd sized short
      exact ⟨_, run, sized', b.readable_readFd data⟩

theorem not_ordered_of_not_fits {op : BufferOp} (wraps : ¬ op.Fits b.raw) {r : RawBuffer}
    (moved : op.run b.raw = some r) : ¬ r.Ordered := by
  cases op with
  | ensureWritableBytes len => exact b.not_ordered_ensureWritableBytes sized wraps moved
  | shrink reserve =>
    have none : b.raw.shrink reserve = none := by
      rw [RawBuffer.shrink, RawBuffer.ensureWritableBytes_ofSize_eq_none wraps, Option.bind_none]
    exact (Option.some_ne_none r (moved.symm.trans none)).elim
  | _ => exact (wraps trivial).elim

end

end BufferOp

/-! ## Runs -/

/-- The condition on a step: an operation's sums fit. -/
def BuffersAct.Fits {ι : Type*} (s : Buffers ι) : BuffersAct ι → Prop
  | .call i op => op.Fits (s.buffers i)
  | .swap _ _ => True

namespace Buffers

variable {ι : Type*} [DecidableEq ι]

/-- All buffers are in order, and hold fewer than 2^31 readable bytes. -/
structure Queues (s : Buffers ι) : Prop where
  asserts : s.failed = false
  buffers : ∀ i, ∃ b : Buffer, s.buffers i = b.raw ∧ b.Sized ∧ b.readableBytes < 2 ^ 31

omit [DecidableEq ι] in
theorem Queues.consistent {s : Buffers ι} (queues : s.Queues) : s.Consistent := by
  refine ⟨queues.asserts, ?_⟩
  intro i
  obtain ⟨b, eq, sized, -⟩ := queues.buffers i
  rw [eq]
  exact b.ordered_raw sized

omit [DecidableEq ι] in
theorem queues_new {sizes : ι → UInt64} (small : ∀ i, (sizes i).toNat + 8 < 2 ^ 64) :
    (new sizes).Queues := by
  refine ⟨rfl, fun i => ⟨_, Buffer.raw_ofSize (small i), Buffer.sized_ofSize (small i), ?_⟩⟩
  rw [← Buffer.readable_length, Buffer.readable_ofSize]
  decide

theorem queues_swap {s : Buffers ι} (queues : s.Queues) (i j : ι) :
    (s.swap i j).Queues ∧ Refines s (.swap i j) (s.swap i j) := by
  have swapped : (s.swap i j).Queues := ⟨queues.asserts, fun k => queues.buffers (Equiv.swap i j k)⟩
  exact ⟨swapped, swapped.consistent, rfl⟩

theorem queues_call {s : Buffers ι} (queues : s.Queues) {i : ι} {op : BufferOp}
    (pre : op.Pre (s.buffers i)) (short : (op.expected (s.buffers i)).length < 2 ^ 31)
    (fits : op.Fits (s.buffers i)) :
    ∃ r, op.run (s.buffers i) = some r ∧
      Queues { s with buffers := Function.update s.buffers i r } ∧
      Refines s (.call i op) { s with buffers := Function.update s.buffers i r } := by
  obtain ⟨b, eq, sized, small⟩ := queues.buffers i
  rw [eq] at pre short fits
  obtain ⟨b', run, sized', readable⟩ := BufferOp.exists_queues sized op small pre short fits
  rw [← BufferOp.expected_raw sized] at readable
  have updated : Queues { s with buffers := Function.update s.buffers i b'.raw } := by
    refine ⟨queues.asserts, ?_⟩
    intro k
    obtain rfl | ne := eq_or_ne k i
    · refine ⟨b', Function.update_self .., sized', ?_⟩
      rwa [← b'.readable_length, readable]
    · obtain ⟨c, holds⟩ := queues.buffers k
      refine ⟨c, ?_⟩
      dsimp only
      rwa [Function.update_of_ne ne]
  refine ⟨b'.raw, eq ▸ run, updated, updated.consistent, ?_⟩
  funext k
  unfold expected
  obtain rfl | ne := eq_or_ne k i
  · dsimp only
    rw [Function.update_self, Function.update_self, b'.readable_raw sized', readable, eq]
  · dsimp only
    rw [Function.update_of_ne ne, Function.update_of_ne ne]

/-- The step of a call that the buffer's operation takes. -/
theorem step_call {s s' : Buffers ι} {i : ι} {op : BufferOp}
    (moved : s.step (.call i op) = some s') :
    op.Pre (s.buffers i) ∧ (op.expected (s.buffers i)).length < 2 ^ 31 ∧
      ((∃ r, op.run (s.buffers i) = some r ∧
          s' = { s with buffers := Function.update s.buffers i r }) ∨
        op.run (s.buffers i) = none ∧ s' = { s with failed := true }) := by
  unfold step at moved
  obtain ⟨⟨-, pre, short⟩, moved⟩ := Option.ite_none_right_eq_some.mp moved
  refine ⟨pre, short, ?_⟩
  cases run : op.run (s.buffers i) with
  | none =>
    rw [run] at moved
    exact .inr ⟨rfl, (Option.some.inj moved).symm⟩
  | some r =>
    rw [run] at moved
    exact .inl ⟨r, rfl, (Option.some.inj moved).symm⟩

theorem step_call_of_fails {s : Buffers ι} {i : ι} {op : BufferOp} (asserts : s.failed = false)
    (pre : op.Pre (s.buffers i)) (short : (op.expected (s.buffers i)).length < 2 ^ 31)
    (fails : op.run (s.buffers i) = none) :
    s.step (.call i op) = some { s with failed := true } := by
  unfold step
  dsimp only
  rw [if_pos ⟨asserts, pre, short⟩, fails]

theorem step_queues {s s' : Buffers ι} {a : BuffersAct ι} (queues : s.Queues) (fits : a.Fits s)
    (moved : s.step a = some s') : s'.Queues ∧ Refines s a s' := by
  cases a with
  | swap i j =>
    obtain ⟨-, rfl⟩ := some_of_guard moved
    exact queues_swap queues i j
  | call i op =>
    obtain ⟨pre, short, after⟩ := step_call moved
    obtain ⟨r, run, kept⟩ := queues_call queues pre short fits
    obtain ⟨r', run', rfl⟩ | ⟨none, -⟩ := after
    · obtain rfl := Option.some.inj (run.symm.trans run')
      exact kept
    · exact (Option.some_ne_none r (run.symm.trans none)).elim

theorem fits_of_consistent {s s' : Buffers ι} {a : BuffersAct ι} (queues : s.Queues)
    (moved : s.step a = some s') (consistent : s'.Consistent) : a.Fits s := by
  cases a with
  | swap i j => trivial
  | call i op =>
    by_contra wraps
    obtain ⟨b, eq, sized, -⟩ := queues.buffers i
    obtain ⟨-, -, ⟨r, run, rfl⟩ | ⟨-, rfl⟩⟩ := step_call moved
    · have ordered := consistent.ordered i
      dsimp only at ordered
      rw [Function.update_self] at ordered
      have wraps : ¬ op.Fits b.raw := eq ▸ wraps
      exact BufferOp.not_ordered_of_not_fits sized wraps (eq ▸ run) ordered
    · exact Bool.noConfusion consistent.asserts

/-- Buffers of any number and sizes are queues of bytes, whatever operations are called on them, as
long as the sums of sizes do not wrap around; where one does, they are not. -/
theorem consistent_and_eachStep_refines_iff (sizes : ι → UInt64) (acts : List (BuffersAct ι)) :
    (new sizes).Consistent ∧ EachStep step Refines (new sizes) acts ↔
      (∀ i, (sizes i).toNat + 8 < 2 ^ 64) ∧
        EachStep step (fun s a _ => a.Fits s) (new sizes) acts := by
  have start : (new sizes).Consistent ↔ ∀ i, (sizes i).toNat + 8 < 2 ^ 64 :=
    ⟨fun c i => (RawBuffer.ordered_ofSize_iff _).mp (c.ordered i),
      fun small => (queues_new small).consistent⟩
  rw [start]
  apply and_congr_right
  intro small
  exact EachStep.iff_of_invariant
    (fun s a s' queues fits moved => step_queues queues fits moved)
    (fun s a s' queues moved refines => fits_of_consistent queues moved refines.consistent)
    (queues_new small)

/-- Room for 2^64 - 1 bytes, asked of a new buffer: `len + kCheapPrepend` is 7, and
`assert(kCheapPrepend < readerIndex_)` fails. -/
theorem not_eachStep_refines_ensureWritableBytes :
    ¬ EachStep step Refines (new fun _ : Unit => .ofNat kInitialSize)
      [.call () (.ensureWritableBytes 18446744073709551615)] := by
  intro run
  have fails : (RawBuffer.ofSize (.ofNat kInitialSize)).ensureWritableBytes
      18446744073709551615 = none := by
    apply RawBuffer.ensureWritableBytes_ofSize_eq_none
    rw [RawBuffer.RoomFor, (RawBuffer.ofSize_asserts _).2.1, (RawBuffer.ofSize_asserts _).2.2]
    decide
  have small : (BufferOp.expected (.ofSize (.ofNat kInitialSize))
      (.ensureWritableBytes 18446744073709551615)).length < 2 ^ 31 := by decide
  have pre : (BufferOp.ensureWritableBytes 18446744073709551615).Pre
      (.ofSize (.ofNat kInitialSize)) := trivial
  have moved := step_call_of_fails (s := new fun _ : Unit => .ofNat kInitialSize) (i := ())
    rfl pre small fails
  exact Bool.noConfusion (run _ moved).1.consistent.asserts

end Buffers

end NewFramework.Net
