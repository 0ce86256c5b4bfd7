import Mathlib.Logic.Equiv.Basic
import NewFramework.Lib.Run
import NewFramework.Net.Buffer

/-!
# `muduo::net::Buffer` with its `size_t`

`Buffer` (`muduo/net/Buffer.h`) as the machine has it: the two indexes and all sizes are of 64 bits
and wrap around, the vector is resized to what they say, and an `assert` that fails ends the
operation.  A position in the storage is given by its distance from `begin()`.

Allocations are taken to succeed: an operation that throws is not in a run.
-/

namespace NewFramework.Net
open NewFramework.Lib

structure RawBuffer where
  /-- `buffer_` -/
  buffer : List UInt8
  readerIndex : UInt64
  writerIndex : UInt64
  deriving DecidableEq

namespace RawBuffer

/-- `kCheapPrepend` -/
def cheapPrepend : UInt64 := 8

/-- `Buffer(initialSize)` -/
def ofSize (initialSize : UInt64) : RawBuffer where
  buffer := List.replicate (cheapPrepend + initialSize).toNat 0
  readerIndex := cheapPrepend
  writerIndex := cheapPrepend

/-- `buffer_.size()` -/
def size (b : RawBuffer) : UInt64 := .ofNat b.buffer.length

def readableBytes (b : RawBuffer) : UInt64 := b.writerIndex - b.readerIndex

def writableBytes (b : RawBuffer) : UInt64 := b.size - b.writerIndex

def prependableBytes (b : RawBuffer) : UInt64 := b.readerIndex

/-- The bytes from `peek()` to `beginWrite()`. -/
def readable (b : RawBuffer) : List UInt8 :=
  (b.buffer.drop b.readerIndex.toNat).take b.readableBytes.toNat

/-- Bytes are copied to a position. -/
def store (position : UInt64) (data : List UInt8) (b : RawBuffer) : RawBuffer :=
  { b with
    buffer := b.buffer.take position.toNat ++ data ++
      b.buffer.drop (position.toNat + data.length) }

def retrieveAll (b : RawBuffer) : RawBuffer :=
  { b with readerIndex := cheapPrepend, writerIndex := cheapPrepend }

def retrieve (len : UInt64) (b : RawBuffer) : Option RawBuffer :=
  if len ≤ b.readableBytes then
    some (if len < b.readableBytes then { b with readerIndex := b.readerIndex + len }
      else b.retrieveAll)
  else none

/-- `retrieveUntil(end)` -/
def retrieveUntil (stop : UInt64) (b : RawBuffer) : Option RawBuffer :=
  if b.readerIndex ≤ stop ∧ stop ≤ b.writerIndex then b.retrieve (stop - b.readerIndex) else none

def retrieveInt64 (b : RawBuffer) : Option RawBuffer := b.retrieve 8
def retrieveInt32 (b : RawBuffer) : Option RawBuffer := b.retrieve 4
def retrieveInt16 (b : RawBuffer) : Option RawBuffer := b.retrieve 2
def retrieveInt8 (b : RawBuffer) : Option RawBuffer := b.retrieve 1

def retrieveAsString (len : UInt64) (b : RawBuffer) : Option (List UInt8 × RawBuffer) :=
  if len ≤ b.readableBytes then (b.retrieve len).map fun b' => (b.readable.take len.toNat, b')
  else none

def retrieveAllAsString (b : RawBuffer) : Option (List UInt8 × RawBuffer) :=
  b.retrieveAsString b.readableBytes

/-- `buffer_.resize(n)` -/
def resize (n : UInt64) (b : RawBuffer) : RawBuffer :=
  { b with buffer := b.buffer.take n.toNat ++ List.replicate (n.toNat - b.buffer.length) 0 }

/-- The readable bytes move to `begin() + kCheapPrepend`. -/
def compact (b : RawBuffer) : RawBuffer :=
  { b.store cheapPrepend b.readable with
    readerIndex := cheapPrepend
    writerIndex := cheapPrepend + b.readableBytes }

def makeSpace (len : UInt64) (b : RawBuffer) : Option RawBuffer :=
  if b.writableBytes + b.prependableBytes < len + cheapPrepend then
    some (b.resize (b.writerIndex + len))
  else if cheapPrepend < b.readerIndex then
    if b.readableBytes = b.compact.readableBytes then some b.compact else none
  else none

def ensureWritableBytes (len : UInt64) (b : RawBuffer) : Option RawBuffer :=
  (if b.writableBytes < len then b.makeSpace len else some b).bind fun b =>
    if len ≤ b.writableBytes then some b else none

def hasWritten (len : UInt64) (b : RawBuffer) : Option RawBuffer :=
  if len ≤ b.writableBytes then some { b with writerIndex := b.writerIndex + len } else none

def unwrite (len : UInt64) (b : RawBuffer) : Option RawBuffer :=
  if len ≤ b.readableBytes then some { b with writerIndex := b.writerIndex - len } else none

/-- `append(data, len)` -/
def append (data : List UInt8) (b : RawBuffer) : Option RawBuffer :=
  (b.ensureWritableBytes (.ofNat data.length)).bind fun b =>
    (b.store b.writerIndex data).hasWritten (.ofNat data.length)

/-- `prepend(data, len)` -/
def prepend (data : List UInt8) (b : RawBuffer) : Option RawBuffer :=
  let len : UInt64 := .ofNat data.length
  if len ≤ b.prependableBytes then
    let readerIndex := b.readerIndex - len
    some { b.store readerIndex data with readerIndex := readerIndex }
  else none

/-- `toStringPiece()`, for a length that the cast to `int` keeps. -/
def toStringPiece (b : RawBuffer) : Option (List UInt8) :=
  if b.readableBytes < 0x80000000 then some b.readable else none

/-- `shrink(reserve)`: what `other` is swapped for. -/
def shrink (reserve : UInt64) (b : RawBuffer) : Option RawBuffer :=
  ((ofSize (.ofNat kInitialSize)).ensureWritableBytes (b.readableBytes + reserve)).bind fun other =>
    b.toStringPiece.bind fun piece => other.append piece

/-- `sizeof extrabuf` -/
def extrabufSize : UInt64 := 65536

/-- The most that `readv` is asked for. -/
def asked (b : RawBuffer) : Nat :=
  if b.writableBytes < extrabufSize then b.writableBytes.toNat + extrabufSize.toNat
  else b.writableBytes.toNat

/-- `readFd`, with what `readv` delivered, or its failure. -/
def readFd (delivered : Option (List UInt8)) (b : RawBuffer) : Option RawBuffer :=
  let writable := b.writableBytes
  match delivered with
  | none => some b
  | some data =>
    let n : UInt64 := .ofNat data.length
    if n ≤ writable then
      some { b.store b.writerIndex data with writerIndex := b.writerIndex + n }
    else
      ({ b.store b.writerIndex (data.take writable.toNat) with writerIndex := b.size }).append
        (data.drop writable.toNat)

/-- `readerIndex_ <= writerIndex_ <= buffer_.size()` -/
def Ordered (b : RawBuffer) : Prop :=
  b.readerIndex ≤ b.writerIndex ∧ b.writerIndex.toNat ≤ b.buffer.length

instance (b : RawBuffer) : Decidable b.Ordered := inferInstanceAs (Decidable (_ ∧ _))

end RawBuffer

/-! ## The operations -/

/-- An operation of one buffer.  `store` is a write of the user through `beginWrite()`. -/
inductive BufferOp where
  | append (data : List UInt8)
  | prepend (data : List UInt8)
  | retrieve (len : UInt64)
  | retrieveUntil (stop : UInt64)
  | retrieveInt64
  | retrieveInt32
  | retrieveInt16
  | retrieveInt8
  | retrieveAll
  | retrieveAsString (len : UInt64)
  | retrieveAllAsString
  | ensureWritableBytes (len : UInt64)
  | store (data : List UInt8)
  | hasWritten (len : UInt64)
  | unwrite (len : UInt64)
  | shrink (reserve : UInt64)
  | readFd (delivered : Option (List UInt8))

/-- What an operation is on a plain list of bytes. -/
inductive ByteOp where
  | append (data : List UInt8)
  | prepend (data : List UInt8)
  | drop (n : Nat)
  | dropBack (n : Nat)
  | clear
  | keep

namespace ByteOp

def apply (bytes : List UInt8) : ByteOp → List UInt8
  | .append data => bytes ++ data
  | .prepend data => data ++ bytes
  | .drop n => bytes.drop n
  | .dropBack n => bytes.take (bytes.length - n)
  | .clear => []
  | .keep => bytes

end ByteOp

namespace BufferOp
open RawBuffer

def run (b : RawBuffer) : BufferOp → Option RawBuffer
  | .append data => b.append data
  | .prepend data => b.prepend data
  | .retrieve len => b.retrieve len
  | .retrieveUntil stop => b.retrieveUntil stop
  | .retrieveInt64 => b.retrieveInt64
  | .retrieveInt32 => b.retrieveInt32
  | .retrieveInt16 => b.retrieveInt16
  | .retrieveInt8 => b.retrieveInt8
  | .retrieveAll => some b.retrieveAll
  | .retrieveAsString len => (b.retrieveAsString len).map Prod.snd
  | .retrieveAllAsString => b.retrieveAllAsString.map Prod.snd
  | .ensureWritableBytes len => b.ensureWritableBytes len
  | .store data => some (b.store b.writerIndex data)
  | .hasWritten len => b.hasWritten len
  | .unwrite len => b.unwrite len
  | .shrink reserve => b.shrink reserve
  | .readFd delivered => b.readFd delivered

/-- What an operation asserts of its call; a write through `beginWrite()` stays in the room there,
and `readv` delivers no more than it is asked for. -/
def Pre (b : RawBuffer) : BufferOp → Prop
  | .prepend data => data.length ≤ b.prependableBytes.toNat
  | .retrieve len | .retrieveAsString len | .unwrite len => len ≤ b.readableBytes
  | .retrieveUntil stop => b.readerIndex ≤ stop ∧ stop ≤ b.writerIndex
  | .retrieveInt64 => 8 ≤ b.readableBytes
  | .retrieveInt32 => 4 ≤ b.readableBytes
  | .retrieveInt16 => 2 ≤ b.readableBytes
  | .retrieveInt8 => 1 ≤ b.readableBytes
  | .store data => data.length ≤ b.writableBytes.toNat
  | .hasWritten len => len ≤ b.writableBytes
  | .readFd (some data) => data.length ≤ b.asked
  | _ => True

instance (b : RawBuffer) (op : BufferOp) : Decidable (op.Pre b) := by
  unfold Pre
  split <;> infer_instance

/-- The operation on a plain list.  `hasWritten` appends what was stored at `beginWrite()`. -/
def byteOp (b : RawBuffer) : BufferOp → ByteOp
  | .append data | .readFd (some data) => .append data
  | .prepend data => .prepend data
  | .retrieve len | .retrieveAsString len => .drop len.toNat
  | .retrieveUntil stop => .drop (stop.toNat - b.readerIndex.toNat)
  | .retrieveInt64 => .drop 8
  | .retrieveInt32 => .drop 4
  | .retrieveInt16 => .drop 2
  | .retrieveInt8 => .drop 1
  | .retrieveAll | .retrieveAllAsString => .clear
  | .hasWritten len => .append ((b.buffer.drop b.writerIndex.toNat).take len.toNat)
  | .unwrite len => .dropBack len.toNat
  | .ensureWritableBytes _ | .store _ | .shrink _ | .readFd none => .keep

/-- The readable bytes after the operation, as a plain list has them. -/
def expected (b : RawBuffer) (op : BufferOp) : List UInt8 := (op.byteOp b).apply b.readable

end BufferOp

/-! ## Any number of buffers -/

structure Buffers (ι : Type*) where
  buffers : ι → RawBuffer
  /-- an `assert` failed -/
  failed : Bool

inductive BuffersAct (ι : Type*) where
  | call (i : ι) (op : BufferOp)
  | swap (i j : ι)

namespace Buffers

variable {ι : Type*} [DecidableEq ι]

/-- The buffers `Buffer(initialSize)`, each of its own size. -/
def new (sizes : ι → UInt64) : Buffers ι := ⟨fun i => .ofSize (sizes i), false⟩

/-- `buffers[i].swap(buffers[j])` -/
def swap (i j : ι) (s : Buffers ι) : Buffers ι :=
  { s with buffers := s.buffers ∘ Equiv.swap i j }

/-- An operation is called as it asserts, and leaves fewer than 2^31 readable bytes. -/
def step (s : Buffers ι) : BuffersAct ι → Option (Buffers ι)
  | .call i op =>
    if s.failed = false ∧ op.Pre (s.buffers i) ∧ (op.expected (s.buffers i)).length < 2 ^ 31 then
      match op.run (s.buffers i) with
      | some b => some { s with buffers := Function.update s.buffers i b }
      | none => some { s with failed := true }
    else none
  | .swap i j => if s.failed = false then some (s.swap i j) else none

/-- The readable bytes after a step, as plain lists have them. -/
def expected (s : Buffers ι) : BuffersAct ι → ι → List UInt8
  | .call i op => Function.update (fun k => (s.buffers k).readable) i (op.expected (s.buffers i))
  | .swap i j => (fun k => (s.buffers k).readable) ∘ Equiv.swap i j

/-- No `assert` failed, and all indexes are in order. -/
structure Consistent (s : Buffers ι) : Prop where
  asserts : s.failed = false
  ordered : ∀ i, (s.buffers i).Ordered

/-- After the step all buffers are consistent, and hold what plain lists of bytes would. -/
structure Refines (s : Buffers ι) (a : BuffersAct ι) (s' : Buffers ι) : Prop where
  consistent : s'.Consistent
  readable : (fun i => (s'.buffers i).readable) = s.expected a

end Buffers

end NewFramework.Net
