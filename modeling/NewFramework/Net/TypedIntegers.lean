import NewFramework.Lib.ByteOrder
import NewFramework.Net.Buffer

/-!
# Integers in a `Buffer`

`appendInt*`, `peekInt*`, `readInt*` and `prependInt*` (`muduo/net/Buffer.h`, `muduo/net/Endian.h`),
on a machine of either byte order: the integer is converted to network order, and its memory is
copied to the content or from there.  The functions of 16, 32 and 64 bits are one for `n` bytes;
those of 8 bits convert nothing.

`wire` is what an integer should be in the content, the big-endian bytes of its two's complement.
Lists of integers of mixed widths are read back as they were appended.
-/

namespace NewFramework.Net
open NewFramework.Lib

section Endian

variable (order : ByteOrder) (n : Nat)

/-- `hostToNetwork64`, `hostToNetwork32` and `hostToNetwork16` -/
def hostToNetwork (host : BitVec (8 * n)) : BitVec (8 * n) := .ofNat _ (order.swap n host.toNat)

/-- `networkToHost64`, `networkToHost32` and `networkToHost16` -/
def networkToHost (net : BitVec (8 * n)) : BitVec (8 * n) := .ofNat _ (order.swap n net.toNat)

theorem two_pow_bits : 2 ^ (8 * n) = 256 ^ n := by
  rw [Nat.pow_mul]

theorem toNat_hostToNetwork (host : BitVec (8 * n)) :
    (hostToNetwork order n host).toNat = order.swap n host.toNat := by
  have fits : host.toNat < 256 ^ n := two_pow_bits n ▸ host.isLt
  have swapped := order.swap_lt fits
  rw [← two_pow_bits] at swapped
  exact BitVec.toNat_ofNat .. |>.trans (Nat.mod_eq_of_lt swapped)

end Endian

namespace Buffer

section Bytes

variable (order : ByteOrder) (n : Nat)

def appendInt (x : BitVec (8 * n)) (b : Buffer) : Buffer :=
  b.append (order.bytes n (hostToNetwork order n x).toNat)

/-- `none` where `assert(readableBytes() >= sizeof(..))` fails. -/
def peekInt (b : Buffer) : Option (BitVec (8 * n)) :=
  if n ≤ b.readableBytes then
    some (networkToHost order n (.ofNat _ (order.value (b.readable.take n))))
  else none

/-- `none` where `assert(len <= prependableBytes())` fails. -/
def prependInt (x : BitVec (8 * n)) (b : Buffer) : Option Buffer :=
  let data := order.bytes n (hostToNetwork order n x).toNat
  if h : data.length ≤ b.prependableBytes then some (b.prepend data h) else none

end Bytes

section Widths

variable (order : ByteOrder)

def appendInt64 (x : Int64) (b : Buffer) : Buffer := b.appendInt order 8 x.toBitVec
def appendInt32 (x : Int32) (b : Buffer) : Buffer := b.appendInt order 4 x.toBitVec
def appendInt16 (x : Int16) (b : Buffer) : Buffer := b.appendInt order 2 x.toBitVec
def appendInt8 (x : Int8) (b : Buffer) : Buffer := b.append [x.toUInt8]

def peekInt64 (b : Buffer) : Option Int64 := (b.peekInt order 8).map .ofBitVec
def peekInt32 (b : Buffer) : Option Int32 := (b.peekInt order 4).map .ofBitVec
def peekInt16 (b : Buffer) : Option Int16 := (b.peekInt order 2).map .ofBitVec
def peekInt8 (b : Buffer) : Option Int8 := b.readable.head?.map UInt8.toInt8

def readInt64 (b : Buffer) : Option (Int64 × Buffer) :=
  (b.peekInt64 order).map fun x => (x, b.retrieve 8)
def readInt32 (b : Buffer) : Option (Int32 × Buffer) :=
  (b.peekInt32 order).map fun x => (x, b.retrieve 4)
def readInt16 (b : Buffer) : Option (Int16 × Buffer) :=
  (b.peekInt16 order).map fun x => (x, b.retrieve 2)
def readInt8 (b : Buffer) : Option (Int8 × Buffer) := b.peekInt8.map fun x => (x, b.retrieve 1)

def prependInt64 (x : Int64) (b : Buffer) : Option Buffer := b.prependInt order 8 x.toBitVec
def prependInt32 (x : Int32) (b : Buffer) : Option Buffer := b.prependInt order 4 x.toBitVec
def prependInt16 (x : Int16) (b : Buffer) : Option Buffer := b.prependInt order 2 x.toBitVec
def prependInt8 (x : Int8) (b : Buffer) : Option Buffer :=
  if h : [x.toUInt8].length ≤ b.prependableBytes then some (b.prepend [x.toUInt8] h) else none

end Widths

section Bytes

variable {order : ByteOrder} {n : Nat}

theorem readable_appendInt (x : BitVec (8 * n)) (b : Buffer) :
    (b.appendInt order n x).readable = b.readable ++ beBytes n x.toNat := by
  rw [appendInt, readable_append, toNat_hostToNetwork, order.bytes_swap]

theorem peekInt_of_readable {b : Buffer} {x : BitVec (8 * n)} {rest : List UInt8}
    (content : b.readable = beBytes n x.toNat ++ rest) : b.peekInt order n = some x := by
  have size : (beBytes n x.toNat).length = n := beBytes_length ..
  have fits : x.toNat < 256 ^ n := two_pow_bits n ▸ x.isLt
  have enough : n ≤ b.readableBytes := by
    rw [← b.readable_length, content, List.length_append, size]
    exact Nat.le_add_right n _
  have front : b.readable.take n = beBytes n x.toNat := by
    rw [content, List.take_append_of_le_length size.ge, List.take_of_length_le size.le]
  have memory : (BitVec.ofNat (8 * n) (order.value (beBytes n x.toNat))).toNat =
      order.value (beBytes n x.toNat) := by
    have bound := order.value_lt (beBytes n x.toNat)
    rw [size, ← two_pow_bits] at bound
    exact BitVec.toNat_ofNat .. |>.trans (Nat.mod_eq_of_lt bound)
  have swapped : order.swap n (order.value (beBytes n x.toNat)) = x.toNat := by
    have converted := order.swap_value (beBytes n x.toNat)
    rwa [size, beNat_beBytes fits] at converted
  rw [peekInt, if_pos enough, front, networkToHost, memory, swapped, BitVec.ofNat_toNat,
    BitVec.setWidth_eq]

theorem readable_prependInt {b : Buffer} {x : BitVec (8 * n)} (room : n ≤ b.prependableBytes) :
    ∃ p, b.prependInt order n x = some p ∧ p.readable = beBytes n x.toNat ++ b.readable := by
  have size : (order.bytes n (hostToNetwork order n x).toNat).length = n := order.bytes_length ..
  refine ⟨_, dif_pos (size.trans_le room), ?_⟩
  rw [readable_prepend, toNat_hostToNetwork, order.bytes_swap]

end Bytes

end Buffer

/-! ## Integers of any width -/

inductive IntWidth where
  | int8
  | int16
  | int32
  | int64
  deriving DecidableEq, Repr

/-- `sizeof` -/
def IntWidth.bytes : IntWidth → Nat
  | int8 => 1
  | int16 => 2
  | int32 => 4
  | int64 => 8

inductive TypedInt where
  | int8 (x : Int8)
  | int16 (x : Int16)
  | int32 (x : Int32)
  | int64 (x : Int64)
  deriving DecidableEq

namespace TypedInt

def width : TypedInt → IntWidth
  | int8 _ => .int8
  | int16 _ => .int16
  | int32 _ => .int32
  | int64 _ => .int64

def toInt : TypedInt → Int
  | int8 x => x.toInt
  | int16 x => x.toInt
  | int32 x => x.toInt
  | int64 x => x.toInt

/-- The two's complement, most significant byte first. -/
def wire (x : TypedInt) : List UInt8 :=
  beBytes x.width.bytes (x.toInt % 2 ^ (8 * x.width.bytes)).toNat

def appendTo (order : ByteOrder) (b : Buffer) : TypedInt → Buffer
  | int8 x => b.appendInt8 x
  | int16 x => b.appendInt16 order x
  | int32 x => b.appendInt32 order x
  | int64 x => b.appendInt64 order x

def prependTo (order : ByteOrder) (b : Buffer) : TypedInt → Option Buffer
  | int8 x => b.prependInt8 x
  | int16 x => b.prependInt16 order x
  | int32 x => b.prependInt32 order x
  | int64 x => b.prependInt64 order x

end TypedInt

namespace IntWidth

def peek (order : ByteOrder) (b : Buffer) : IntWidth → Option TypedInt
  | int8 => b.peekInt8.map .int8
  | int16 => (b.peekInt16 order).map .int16
  | int32 => (b.peekInt32 order).map .int32
  | int64 => (b.peekInt64 order).map .int64

def read (order : ByteOrder) (b : Buffer) : IntWidth → Option (TypedInt × Buffer)
  | int8 => b.readInt8.map fun (x, b) => (.int8 x, b)
  | int16 => (b.readInt16 order).map fun (x, b) => (.int16 x, b)
  | int32 => (b.readInt32 order).map fun (x, b) => (.int32 x, b)
  | int64 => (b.readInt64 order).map fun (x, b) => (.int64 x, b)

end IntWidth

namespace Buffer

def appendInts (order : ByteOrder) : List TypedInt → Buffer → Buffer
  | [], b => b
  | x :: ints, b => appendInts order ints (x.appendTo order b)

def readInts (order : ByteOrder) : List IntWidth → Buffer → Option (List TypedInt × Buffer)
  | [], b => some ([], b)
  | w :: widths, b =>
    (w.read order b).bind fun (x, b) => (readInts order widths b).map fun (ints, b) => (x :: ints, b)

end Buffer

namespace TypedInt

variable (order : ByteOrder)

theorem wire_length (x : TypedInt) : x.wire.length = x.width.bytes := beBytes_length ..

/-- One byte is converted by nothing. -/
theorem wire_int8 (x : Int8) : (int8 x).wire = [x.toUInt8] := by
  have bits : (x.toInt % 2 ^ 8).toNat = x.toUInt8.toNat := toNat_toInt_emod x.toBitVec
  have byte : x.toUInt8.toNat < 256 := x.toUInt8.toNat_lt
  show beBytes 1 (x.toInt % 2 ^ 8).toNat = _
  rw [bits, beBytes, beBytes, Nat.mod_eq_of_lt byte, UInt8.ofNat_toNat]
  rfl

theorem wire_int16 (x : Int16) : (int16 x).wire = beBytes 2 x.toBitVec.toNat :=
  congrArg (beBytes 2) (toNat_toInt_emod x.toBitVec)

example : (int16 (-2)).wire = [255, 254] := by decide

theorem wire_int32 (x : Int32) : (int32 x).wire = beBytes 4 x.toBitVec.toNat :=
  congrArg (beBytes 4) (toNat_toInt_emod x.toBitVec)

theorem wire_int64 (x : Int64) : (int64 x).wire = beBytes 8 x.toBitVec.toNat :=
  congrArg (beBytes 8) (toNat_toInt_emod x.toBitVec)

theorem readable_appendTo (x : TypedInt) (b : Buffer) :
    (x.appendTo order b).readable = b.readable ++ x.wire := by
  cases x with
  | int8 x => rw [wire_int8]; exact b.readable_append _
  | int16 x => rw [wire_int16]; exact Buffer.readable_appendInt (n := 2) x.toBitVec b
  | int32 x => rw [wire_int32]; exact Buffer.readable_appendInt (n := 4) x.toBitVec b
  | int64 x => rw [wire_int64]; exact Buffer.readable_appendInt (n := 8) x.toBitVec b

theorem peek_of_readable {x : TypedInt} {b : Buffer} {rest : List UInt8}
    (content : b.readable = x.wire ++ rest) : x.width.peek order b = some x := by
  cases x with
  | int8 x =>
    rw [wire_int8] at content
    have got : b.peekInt8 = some x := by
      rw [Buffer.peekInt8, content]
      rfl
    exact congrArg (Option.map int8) got
  | int16 x =>
    rw [wire_int16] at content
    have got : b.peekInt16 order = some x :=
      congrArg (Option.map Int16.ofBitVec)
        (Buffer.peekInt_of_readable (n := 2) content)
    exact congrArg (Option.map int16) got
  | int32 x =>
    rw [wire_int32] at content
    have got : b.peekInt32 order = some x :=
      congrArg (Option.map Int32.ofBitVec)
        (Buffer.peekInt_of_readable (n := 4) content)
    exact congrArg (Option.map int32) got
  | int64 x =>
    rw [wire_int64] at content
    have got : b.peekInt64 order = some x :=
      congrArg (Option.map Int64.ofBitVec)
        (Buffer.peekInt_of_readable (n := 8) content)
    exact congrArg (Option.map int64) got

/-- Reading is peeking, then retrieving as many bytes. -/
theorem read_eq (w : IntWidth) (b : Buffer) :
    w.read order b = (w.peek order b).map fun x => (x, b.retrieve w.bytes) := by
  cases w with
  | int8 => simp only [IntWidth.read, IntWidth.peek, Buffer.readInt8, Option.map_map]; rfl
  | int16 => simp only [IntWidth.read, IntWidth.peek, Buffer.readInt16, Option.map_map]; rfl
  | int32 => simp only [IntWidth.read, IntWidth.peek, Buffer.readInt32, Option.map_map]; rfl
  | int64 => simp only [IntWidth.read, IntWidth.peek, Buffer.readInt64, Option.map_map]; rfl

theorem read_of_readable {x : TypedInt} {b : Buffer} {rest : List UInt8}
    (content : b.readable = x.wire ++ rest) :
    x.width.read order b = some (x, b.retrieve x.width.bytes) ∧
      (b.retrieve x.width.bytes).readable = rest := by
  constructor
  · rw [read_eq, peek_of_readable order content, Option.map_some]
  · rw [Buffer.readable_retrieve, content, ← x.wire_length, List.drop_left]

theorem readable_prependTo (x : TypedInt) {b : Buffer} (room : x.width.bytes ≤ b.prependableBytes) :
    ∃ p, x.prependTo order b = some p ∧ p.readable = x.wire ++ b.readable := by
  cases x with
  | int8 x =>
    rw [wire_int8]
    exact ⟨_, dif_pos room, b.readable_prepend _ _⟩
  | int16 x => rw [wire_int16]; exact Buffer.readable_prependInt (n := 2) room
  | int32 x => rw [wire_int32]; exact Buffer.readable_prependInt (n := 4) room
  | int64 x => rw [wire_int64]; exact Buffer.readable_prependInt (n := 8) room

end TypedInt

namespace Buffer

variable (order : ByteOrder)

/-- What is appended stands on the wire, in order. -/
theorem readable_appendInts (ints : List TypedInt) (b : Buffer) :
    (b.appendInts order ints).readable = b.readable ++ ints.flatMap TypedInt.wire := by
  induction ints generalizing b with
  | nil => exact (List.append_nil _).symm
  | cons x ints ih =>
    rw [appendInts, ih, TypedInt.readable_appendTo, List.flatMap_cons, List.append_assoc]

/-- What stands on the wire is read back, whatever comes behind it. -/
theorem readInts_of_readable {ints : List TypedInt} {b : Buffer} {rest : List UInt8}
    (content : b.readable = ints.flatMap TypedInt.wire ++ rest) :
    ∃ b', b.readInts order (ints.map TypedInt.width) = some (ints, b') ∧ b'.readable = rest := by
  induction ints generalizing b with
  | nil => exact ⟨b, rfl, content⟩
  | cons x ints ih =>
    rw [List.flatMap_cons, List.append_assoc] at content
    obtain ⟨read, left⟩ := TypedInt.read_of_readable order content
    obtain ⟨b', reads, empty⟩ := ih left
    refine ⟨b', ?_, empty⟩
    rw [List.map_cons, readInts, read, Option.bind_some]
    dsimp only
    rw [reads, Option.map_some]

/-- Integers of any widths appended to any content are on the wire behind it, and are read back once
the content is retrieved; one that is prepended is in front of it. -/
theorem appendInts_readInts (b : Buffer) (ints : List TypedInt) :
    (b.appendInts order ints).readable = b.readable ++ ints.flatMap TypedInt.wire ∧
      (∃ empty, ((b.appendInts order ints).retrieve b.readableBytes).readInts order
          (ints.map TypedInt.width) = some (ints, empty) ∧ empty.readableBytes = 0) ∧
      ∀ x : TypedInt, x.width.bytes ≤ b.prependableBytes →
        ∃ p, x.prependTo order b = some p ∧ p.readable = x.wire ++ b.readable ∧
          x.width.peek order p = some x ∧
          ∃ b', x.width.read order p = some (x, b') ∧ b'.readable = b.readable := by
  have appended := b.readable_appendInts order ints
  refine ⟨appended, ?_, ?_⟩
  · have left : ((b.appendInts order ints).retrieve b.readableBytes).readable =
        ints.flatMap TypedInt.wire ++ [] := by
      rw [readable_retrieve, appended, ← b.readable_length, List.drop_left, List.append_nil]
    obtain ⟨empty, reads, none⟩ := readInts_of_readable order left
    exact ⟨empty, reads, (readable_eq_nil empty).mp none⟩
  · intro x room
    obtain ⟨p, prepended, content⟩ := x.readable_prependTo order room
    obtain ⟨read, left⟩ := TypedInt.read_of_readable order content
    exact ⟨p, prepended, content, TypedInt.peek_of_readable order content, _, read, left⟩

theorem appendInts_readInts_negative :
    ∃ p, (TypedInt.int32 (-5)).prependTo .little (ofSize 16) = some p ∧
      p.readable = [255, 255, 255, 251] ∧
      IntWidth.int32.peek .little p = some (.int32 (-5)) ∧
      ∃ b', IntWidth.int32.read .little p = some (.int32 (-5), b') ∧ b'.readable = [] :=
  (appendInts_readInts .little (ofSize 16) []).2.2 (.int32 (-5)) (by decide)

end Buffer

end NewFramework.Net
