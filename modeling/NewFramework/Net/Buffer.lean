import NewFramework.Lib.BigEndian
import NewFramework.Lib.LineParser

/-!
# `muduo::net::Buffer`

The vector `buffer_` with its two indexes, from `muduo/net/Buffer.h` and `muduo/net/Buffer.cc`.  The
order `readerIndex_ ≤ writerIndex_ ≤ buffer_.size()` and the room for the prepended bytes are
fields, so a buffer whose readable region lies outside its storage cannot be built; an operation
whose `assert` could break them takes the asserted bound, or returns `none` where the assertion
fails.

`readable` is the region `[peek(), beginWrite())`: the second half of the file says what each
operation does to it and to the reserved bytes in front of it.
-/

namespace NewFramework.Net
open NewFramework.Lib

/-- `Buffer::kCheapPrepend` -/
def kCheapPrepend : Nat := 8

/-- `Buffer::kInitialSize` -/
def kInitialSize : Nat := 1024

/-- `Buffer::kCRLF` -/
def kCRLF : List UInt8 := [13, 10]

@[ext] structure Buffer where
  /-- `buffer_` -/
  buffer : List UInt8
  readerIndex : Nat
  writerIndex : Nat
  reader_le : readerIndex ≤ writerIndex
  writer_le : writerIndex ≤ buffer.length
  prepend_le : kCheapPrepend ≤ buffer.length

namespace Buffer

/-- `Buffer(initialSize)` -/
def ofSize (initialSize : Nat) : Buffer where
  buffer := List.replicate (kCheapPrepend + initialSize) 0
  readerIndex := kCheapPrepend
  writerIndex := kCheapPrepend
  reader_le := Nat.le_refl _
  writer_le := by simp
  prepend_le := by simp

def readableBytes (b : Buffer) : Nat := b.writerIndex - b.readerIndex

def writableBytes (b : Buffer) : Nat := b.buffer.length - b.writerIndex

def prependableBytes (b : Buffer) : Nat := b.readerIndex

/-- The bytes from `peek()` to `beginWrite()`. -/
def readable (b : Buffer) : List UInt8 := (b.buffer.drop b.readerIndex).take b.readableBytes

def retrieveAll (b : Buffer) : Buffer :=
  { b with
    readerIndex := kCheapPrepend
    writerIndex := kCheapPrepend
    reader_le := Nat.le_refl _
    writer_le := b.prepend_le }

/-- `findCRLF()`, as an offset from `peek()`. -/
def findCRLF (b : Buffer) : Option Nat := search kCRLF b.readable

/-- `retrieve(len)`; `assert(len <= readableBytes())` is the caller's. -/
def retrieve (b : Buffer) (len : Nat) : Buffer :=
  if h : len < b.readableBytes then
    { b with
      readerIndex := b.readerIndex + len
      reader_le := by unfold readableBytes at h; omega }
  else b.retrieveAll

/-- `retrieveUntil(peek() + len)` -/
def retrieveUntil (b : Buffer) (len : Nat) : Buffer := b.retrieve len

/-- `retrieveAsString(len)`; `none` where `assert(len <= readableBytes())` fails. -/
def retrieveAsString (b : Buffer) (len : Nat) : Option (List UInt8 × Buffer) :=
  if len ≤ b.readableBytes then some (b.readable.take len, b.retrieve len) else none

/-- `buffer_.resize(n)` for an `n` not below the present size. -/
def resize (b : Buffer) (n : Nat) : Buffer :=
  { b with
    buffer := b.buffer ++ List.replicate (n - b.buffer.length) 0
    writer_le := by have := b.writer_le; simp only [List.length_append]; omega
    prepend_le := by have := b.prepend_le; simp only [List.length_append]; omega }

/-- The `else` branch of `makeSpace`: the readable bytes move to `begin() + kCheapPrepend`. -/
def compact (b : Buffer) (_h : kCheapPrepend < b.readerIndex) : Buffer where
  buffer := b.buffer.take kCheapPrepend ++ b.readable ++
    b.buffer.drop (kCheapPrepend + b.readableBytes)
  readerIndex := kCheapPrepend
  writerIndex := kCheapPrepend + b.readableBytes
  reader_le := Nat.le_add_right _ _
  writer_le := by
    have := b.reader_le; have := b.writer_le; have := b.prepend_le
    simp only [readable, readableBytes, List.length_append, List.length_take, List.length_drop]
    omega
  prepend_le := by
    have := b.prepend_le
    simp only [List.length_append, List.length_take]
    omega

/-- `makeSpace(len)`, called only when `writableBytes() < len`. -/
def makeSpace (b : Buffer) (len : Nat) (_h : b.writableBytes < len) : Buffer :=
  if hroom : b.writableBytes + b.prependableBytes < len + kCheapPrepend then
    b.resize (b.writerIndex + len)
  else
    b.compact (by unfold prependableBytes at hroom; omega)

def ensureWritableBytes (b : Buffer) (len : Nat) : Buffer :=
  if h : b.writableBytes < len then b.makeSpace len h else b

/-- `data` is stored at `beginWrite()`; the indexes stay. -/
def storeAtWrite (b : Buffer) (data : List UInt8) (_room : data.length ≤ b.writableBytes) :
    Buffer :=
  { b with
    buffer := b.buffer.take b.writerIndex ++ data ++ b.buffer.drop (b.writerIndex + data.length)
    writer_le := by
      have := b.writer_le
      simp only [List.length_append, List.length_take]
      omega
    prepend_le := by
      have := b.prepend_le; have := b.writer_le
      simp only [List.length_append, List.length_take, List.length_drop]
      omega }

def hasWritten (b : Buffer) (len : Nat) (h : len ≤ b.writableBytes) : Buffer :=
  { b with
    writerIndex := b.writerIndex + len
    reader_le := by have := b.reader_le; omega
    writer_le := by have := b.writer_le; unfold writableBytes at h; omega }

/-- The kernel fills `[beginWrite(), beginWrite() + data.size())` and `hasWritten` is called
with that size. -/
def fill (b : Buffer) (data : List UInt8) (h : data.length ≤ b.writableBytes) : Buffer :=
  (b.storeAtWrite data h).hasWritten data.length (by
    have := b.writer_le
    unfold writableBytes at h ⊢
    simp only [storeAtWrite, List.length_append, List.length_take, List.length_drop]
    omega)

theorem ensureWritableBytes_writable (b : Buffer) (len : Nat) :
    len ≤ (b.ensureWritableBytes len).writableBytes := by
  have := b.reader_le; have := b.writer_le; have := b.prepend_le
  unfold ensureWritableBytes
  split
  · unfold makeSpace
    split
    · simp only [resize, writableBytes, List.length_append, List.length_replicate]
      omega
    · next hroom =>
      simp only [prependableBytes, writableBytes] at hroom
      simp only [compact, readable, readableBytes, writableBytes, List.length_append,
        List.length_take, List.length_drop]
      omega
  · omega

/-- `append(data, len)` -/
def append (b : Buffer) (data : List UInt8) : Buffer :=
  (b.ensureWritableBytes data.length).fill data (b.ensureWritableBytes_writable _)

/-- `unwrite(len)` -/
def unwrite (b : Buffer) (len : Nat) (h : len ≤ b.readableBytes) : Buffer :=
  { b with
    writerIndex := b.writerIndex - len
    reader_le := by have := b.reader_le; unfold readableBytes at h; omega
    writer_le := by have := b.writer_le; omega }

/-- `prepend(data, len)` -/
def prepend (b : Buffer) (data : List UInt8) (h : data.length ≤ b.prependableBytes) : Buffer :=
  { b with
    buffer := b.buffer.take (b.readerIndex - data.length) ++ data ++ b.buffer.drop b.readerIndex
    readerIndex := b.readerIndex - data.length
    reader_le := by have := b.reader_le; omega
    writer_le := by
      have := b.reader_le; have := b.writer_le
      unfold prependableBytes at h
      simp only [List.length_append, List.length_take, List.length_drop]
      omega
    prepend_le := by
      have := b.reader_le; have := b.writer_le; have := b.prepend_le
      unfold prependableBytes at h
      simp only [List.length_append, List.length_take, List.length_drop]
      omega }

/-- `shrink(reserve)`, which leaves a new buffer that was made ready for `len` bytes. -/
def shrinkTo (b : Buffer) (len : Nat) : Buffer :=
  ((ofSize kInitialSize).ensureWritableBytes len).append b.readable

/-- The kernel stores `data` at `begin()`, over the reserved bytes. -/
def storeAtBegin (b : Buffer) (data : List UInt8) : Buffer :=
  { b with
    buffer := data ++ b.buffer.drop data.length
    writer_le := by
      have := b.writer_le
      simp only [List.length_append, List.length_drop]
      omega
    prepend_le := by
      have := b.prepend_le
      simp only [List.length_append, List.length_drop]
      omega }

/-- The first `kCheapPrepend` bytes of the storage. -/
def reserved (b : Buffer) : List UInt8 := b.buffer.take kCheapPrepend

/-- The first four bytes of the storage. -/
def reserve (b : Buffer) : List UInt8 := b.buffer.take 4

/-- `peekInt32_FromReserve()` -/
def peekInt32FromReserve (b : Buffer) : Int := toInt 32 (beNat b.reserve)

/-- `readFd`, with what `readv` delivered: the bytes beyond `writableBytes()` went to
`extrabuf` and are appended. -/
def readFd (b : Buffer) (data : List UInt8) : Buffer :=
  if h : data.length ≤ b.writableBytes then b.fill data h
  else
    (b.fill (data.take b.writableBytes) (by rw [List.length_take]; exact Nat.min_le_left _ _)).append
      (data.drop b.writableBytes)

/-! ## The readable region -/

@[simp] theorem readable_length (b : Buffer) : b.readable.length = b.readableBytes := by
  have := b.reader_le; have := b.writer_le
  simp only [readable, readableBytes, List.length_take, List.length_drop]
  omega

theorem readable_eq_nil (b : Buffer) : b.readable = [] ↔ b.readableBytes = 0 := by
  rw [← List.length_eq_zero_iff, readable_length]

@[simp] theorem readable_ofSize (n : Nat) : (ofSize n).readable = [] := by
  simp [readable, readableBytes, ofSize]

@[simp] theorem readable_retrieveAll (b : Buffer) : b.retrieveAll.readable = [] := by
  simp [readable, readableBytes, retrieveAll]

@[simp] theorem readable_retrieve (b : Buffer) (len : Nat) :
    (b.retrieve len).readable = b.readable.drop len := by
  unfold retrieve
  split
  · simp only [readable, readableBytes, List.drop_take, List.drop_drop]
    congr 1
    omega
  · next h =>
    rw [readable_retrieveAll, List.drop_eq_nil_of_le]
    rw [readable_length]
    omega

@[simp] theorem readable_resize (b : Buffer) (n : Nat) : (b.resize n).readable = b.readable := by
  have := b.reader_le; have := b.writer_le
  simp only [readable, readableBytes, resize]
  rw [List.drop_append_of_le_length (by omega), List.take_append_of_le_length]
  simp only [List.length_drop]
  omega

@[simp] theorem readable_compact (b : Buffer) (h : kCheapPrepend < b.readerIndex) :
    (b.compact h).readable = b.readable := by
  have := b.prepend_le
  have prepended : (b.buffer.take kCheapPrepend).length = kCheapPrepend := by
    simp only [List.length_take]
    omega
  have covers : b.writerIndex - b.readerIndex = b.readable.length := b.readable_length.symm
  simp only [compact, readableBytes]
  rw [readable]
  simp only [readableBytes, List.append_assoc, Nat.add_sub_cancel_left]
  rw [List.drop_append_of_le_length (by omega), List.drop_eq_nil_of_le (by omega), List.nil_append,
    List.take_append_of_le_length (Nat.le_of_eq covers)]
  exact List.take_of_length_le (Nat.le_of_eq covers.symm)

@[simp] theorem readable_ensureWritableBytes (b : Buffer) (len : Nat) :
    (b.ensureWritableBytes len).readable = b.readable := by
  unfold ensureWritableBytes makeSpace
  split
  · split
    · exact b.readable_resize _
    · exact b.readable_compact _
  · rfl

@[simp] theorem readable_fill (b : Buffer) (data : List UInt8) (h : data.length ≤ b.writableBytes) :
    (b.fill data h).readable = b.readable ++ data := by
  have := b.reader_le; have := b.writer_le
  have upTo : (b.buffer.take b.writerIndex).length = b.writerIndex := by
    simp only [List.length_take]
    omega
  simp only [fill, hasWritten, storeAtWrite, readable, readableBytes]
  rw [List.append_assoc, List.drop_append_of_le_length (by omega), List.drop_take, List.take_append,
    List.take_of_length_le (by simp only [List.length_take, List.length_drop]; omega)]
  congr 1
  simp only [List.length_take, List.length_drop]
  rw [List.take_append_of_le_length (by omega), List.take_of_length_le (by omega)]

@[simp] theorem readable_storeAtWrite (b : Buffer) (data : List UInt8)
    (h : data.length ≤ b.writableBytes) : (b.storeAtWrite data h).readable = b.readable := by
  have := b.reader_le; have := b.writer_le
  simp only [storeAtWrite, readable, readableBytes]
  rw [List.append_assoc, List.drop_append_of_le_length (by simp only [List.length_take]; omega),
    List.take_append_of_le_length (by simp only [List.length_drop, List.length_take]; omega),
    List.drop_take, List.take_take, Nat.min_self]

@[simp] theorem readable_hasWritten (b : Buffer) (len : Nat) (h : len ≤ b.writableBytes) :
    (b.hasWritten len h).readable = b.readable ++ (b.buffer.drop b.writerIndex).take len := by
  have := b.reader_le; have := b.writer_le
  have sum : b.writerIndex + len - b.readerIndex = b.writerIndex - b.readerIndex + len := by omega
  simp only [hasWritten, readable, readableBytes]
  rw [sum, List.take_add, List.drop_drop, Nat.add_sub_cancel' b.reader_le]

@[simp] theorem readable_unwrite (b : Buffer) (len : Nat) (h : len ≤ b.readableBytes) :
    (b.unwrite len h).readable = b.readable.take (b.readable.length - len) := by
  rw [readable_length]
  simp only [unwrite, readable, readableBytes, List.take_take]
  congr 1
  omega

@[simp] theorem readable_prepend (b : Buffer) (data : List UInt8)
    (h : data.length ≤ b.prependableBytes) :
    (b.prepend data h).readable = data ++ b.readable := by
  have := b.reader_le; have := b.writer_le
  unfold prependableBytes at h
  have kept : (b.buffer.take (b.readerIndex - data.length)).length =
      b.readerIndex - data.length := by
    rw [List.length_take]
    omega
  have sum : b.writerIndex - (b.readerIndex - data.length) =
      data.length + (b.writerIndex - b.readerIndex) := by omega
  simp only [prepend, readable, readableBytes]
  rw [List.append_assoc, List.drop_append_of_le_length (Nat.le_of_eq kept.symm),
    List.drop_eq_nil_of_le (Nat.le_of_eq kept), List.nil_append, sum,
    List.take_length_add_append]

@[simp] theorem readable_append (b : Buffer) (data : List UInt8) :
    (b.append data).readable = b.readable ++ data := by
  simp [append]

@[simp] theorem readable_shrinkTo (b : Buffer) (len : Nat) :
    (b.shrinkTo len).readable = b.readable := by
  simp [shrinkTo]

@[simp] theorem readable_readFd (b : Buffer) (data : List UInt8) :
    (b.readFd data).readable = b.readable ++ data := by
  unfold readFd
  split
  · exact b.readable_fill _ _
  · simp

@[simp] theorem readableBytes_ensureWritableBytes (b : Buffer) (len : Nat) :
    (b.ensureWritableBytes len).readableBytes = b.readableBytes := by
  rw [← readable_length, readable_ensureWritableBytes, readable_length]

@[simp] theorem readableBytes_fill (b : Buffer) (data : List UInt8)
    (h : data.length ≤ b.writableBytes) :
    (b.fill data h).readableBytes = b.readableBytes + data.length := by
  rw [← readable_length, readable_fill, List.length_append, readable_length]

@[simp] theorem readableBytes_append (b : Buffer) (data : List UInt8) :
    (b.append data).readableBytes = b.readableBytes + data.length := by
  rw [← readable_length, readable_append, List.length_append, readable_length]

@[simp] theorem readableBytes_retrieve (b : Buffer) (len : Nat) :
    (b.retrieve len).readableBytes = b.readableBytes - len := by
  rw [← readable_length, readable_retrieve, List.length_drop, readable_length]

/-! ## The reserved bytes

`makeSpace` keeps the first `kCheapPrepend` bytes in place, so as long as nothing was
prepended no operation on the content touches them. -/

/-- Nothing was prepended: the content starts behind the reserved bytes. -/
def Unprepended (b : Buffer) : Prop := kCheapPrepend ≤ b.readerIndex

theorem unprepended_ofSize (n : Nat) : (ofSize n).Unprepended := Nat.le_refl _

theorem Unprepended.retrieve {b : Buffer} (h : b.Unprepended) (len : Nat) :
    (b.retrieve len).Unprepended := by
  unfold Unprepended Buffer.retrieve at *
  split
  · exact Nat.le_add_right_of_le h
  · exact Nat.le_refl _

theorem Unprepended.ensureWritableBytes {b : Buffer} (h : b.Unprepended) (len : Nat) :
    (b.ensureWritableBytes len).Unprepended := by
  unfold Unprepended Buffer.ensureWritableBytes makeSpace at *
  split
  · split
    · exact h
    · exact Nat.le_refl _
  · exact h

theorem Unprepended.fill {b : Buffer} (h : b.Unprepended) (data : List UInt8)
    (room : data.length ≤ b.writableBytes) : (b.fill data room).Unprepended := h

theorem Unprepended.append {b : Buffer} (h : b.Unprepended) (data : List UInt8) :
    (b.append data).Unprepended :=
  (h.ensureWritableBytes _).fill _ _

theorem Unprepended.storeAtBegin {b : Buffer} (h : b.Unprepended) (data : List UInt8) :
    (b.storeAtBegin data).Unprepended := h

theorem Unprepended.readFd {b : Buffer} (h : b.Unprepended) (data : List UInt8) :
    (b.readFd data).Unprepended := by
  unfold Buffer.readFd
  split
  · exact h.fill _ _
  · exact (h.fill _ _).append _

theorem reserve_eq (b : Buffer) : b.reserve = b.reserved.take 4 := by
  rw [reserve, reserved, List.take_take]
  rfl

@[simp] theorem reserved_retrieve (b : Buffer) (len : Nat) :
    (b.retrieve len).reserved = b.reserved := by
  unfold reserved retrieve
  split <;> rfl

@[simp] theorem reserved_ensureWritableBytes (b : Buffer) (len : Nat) :
    (b.ensureWritableBytes len).reserved = b.reserved := by
  have room : kCheapPrepend ≤ b.buffer.length := b.prepend_le
  have kept : (b.buffer.take kCheapPrepend).length = kCheapPrepend := List.length_take_of_le room
  unfold reserved ensureWritableBytes makeSpace
  split
  · split
    · exact List.take_append_of_le_length room
    · dsimp only [compact]
      rw [List.append_assoc, List.take_append_of_le_length kept.ge, List.take_take, Nat.min_self]
  · rfl

@[simp] theorem fill_length (b : Buffer) (data : List UInt8)
    (room : data.length ≤ b.writableBytes) :
    (b.fill data room).buffer.length = b.buffer.length := by
  have upper := b.writer_le
  unfold writableBytes at room
  simp only [fill, hasWritten, storeAtWrite, List.length_append, List.length_take,
    List.length_drop]
  omega

theorem reserved_storeAtWrite {b : Buffer} (h : b.Unprepended) (data : List UInt8)
    (room : data.length ≤ b.writableBytes) : (b.storeAtWrite data room).reserved = b.reserved := by
  have before : kCheapPrepend ≤ b.writerIndex := h.trans b.reader_le
  have upTo : (b.buffer.take b.writerIndex).length = b.writerIndex :=
    List.length_take_of_le b.writer_le
  dsimp only [reserved, storeAtWrite]
  rw [List.append_assoc, List.take_append_of_le_length (before.trans_eq upTo.symm), List.take_take,
    Nat.min_eq_left before]

theorem reserved_fill {b : Buffer} (h : b.Unprepended) (data : List UInt8)
    (room : data.length ≤ b.writableBytes) : (b.fill data room).reserved = b.reserved :=
  reserved_storeAtWrite h data room

theorem reserved_append {b : Buffer} (h : b.Unprepended) (data : List UInt8) :
    (b.append data).reserved = b.reserved := by
  rw [append, reserved_fill (h.ensureWritableBytes _), reserved_ensureWritableBytes]

theorem reserved_readFd {b : Buffer} (h : b.Unprepended) (data : List UInt8) :
    (b.readFd data).reserved = b.reserved := by
  unfold readFd
  split
  · exact reserved_fill h data _
  · rw [reserved_append (h.fill _ _), reserved_fill h]

@[simp] theorem reserve_retrieve (b : Buffer) (len : Nat) :
    (b.retrieve len).reserve = b.reserve := by
  rw [reserve_eq, reserved_retrieve, ← reserve_eq]

@[simp] theorem reserve_ensureWritableBytes (b : Buffer) (len : Nat) :
    (b.ensureWritableBytes len).reserve = b.reserve := by
  rw [reserve_eq, reserved_ensureWritableBytes, ← reserve_eq]

theorem reserve_fill {b : Buffer} (h : b.Unprepended) (data : List UInt8)
    (room : data.length ≤ b.writableBytes) : (b.fill data room).reserve = b.reserve := by
  rw [reserve_eq, reserved_fill h, ← reserve_eq]

theorem peekInt32FromReserve_congr {b b' : Buffer} (same : b'.reserve = b.reserve) :
    b'.peekInt32FromReserve = b.peekInt32FromReserve := by
  rw [peekInt32FromReserve, same, peekInt32FromReserve]

theorem reserve_length (b : Buffer) : b.reserve.length = 4 := by
  have := b.prepend_le
  simp only [reserve, List.length_take, kCheapPrepend] at *
  omega

theorem readable_storeAtBegin {b : Buffer} (h : b.Unprepended) {data : List UInt8}
    (short : data.length ≤ kCheapPrepend) : (b.storeAtBegin data).readable = b.readable := by
  unfold Unprepended at h
  simp only [readable, readableBytes, storeAtBegin]
  rw [List.drop_append, List.drop_eq_nil_of_le (by omega), List.nil_append, List.drop_drop]
  congr 2
  omega

theorem reserve_storeAtBegin (b : Buffer) {data : List UInt8} (short : data.length ≤ 4) :
    (b.storeAtBegin data).reserve = data ++ b.reserve.drop data.length := by
  simp only [reserve, storeAtBegin]
  rw [List.take_append, List.take_of_length_le short, List.drop_take]

end Buffer

end NewFramework.Net
