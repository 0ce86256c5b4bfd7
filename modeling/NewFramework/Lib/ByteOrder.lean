import NewFramework.Lib.BigEndian

/-!
# Byte orders of a machine

A machine keeps an unsigned integer of `width` bytes in memory in its own byte order.  `swap` is
the conversion to the network's order and, being its own inverse, the one back.  The two meet in
`bytes_swap` and `swap_value`: what is stored after the one, or read before the other, is big-endian
on every machine.
-/

namespace NewFramework.Lib

theorem beNat_lt (bytes : List UInt8) : beNat bytes < 256 ^ bytes.length := by
  induction bytes using List.reverseRecOn with
  | nil => decide
  | append_singleton bytes b ih =>
    have byte : b.toNat < 256 := b.toNat_lt
    rw [beNat_concat, List.length_append, List.length_singleton, Nat.pow_succ]
    omega

/-- Reading and writing back a byte string. -/
theorem beBytes_beNat (bytes : List UInt8) : beBytes bytes.length (beNat bytes) = bytes := by
  induction bytes using List.reverseRecOn with
  | nil => rfl
  | append_singleton bytes b ih =>
    have byte : b.toNat < 256 := b.toNat_lt
    have quotient : (beNat bytes * 256 + b.toNat) / 256 = beNat bytes := by omega
    have rest : (beNat bytes * 256 + b.toNat) % 256 = b.toNat := by omega
    rw [beNat_concat, List.length_append, List.length_singleton, beBytes, quotient, rest, ih,
      UInt8.ofNat_toNat]

/-- The bits of a signed number are its two's complement. -/
theorem toNat_toInt_emod {w : Nat} (x : BitVec w) : (x.toInt % 2 ^ w).toNat = x.toNat := by
  have same := congrArg BitVec.toNat (BitVec.ofInt_toInt (x := x))
  rw [BitVec.toNat_ofInt] at same
  exact_mod_cast same

inductive ByteOrder where
  | little
  | big
  deriving DecidableEq, Repr

namespace ByteOrder

/-- The memory of an unsigned integer of `width` bytes. -/
def bytes (order : ByteOrder) (width value : Nat) : List UInt8 :=
  match order with
  | little => (beBytes width value).reverse
  | big => beBytes width value

/-- The unsigned integer that memory holds. -/
def value (order : ByteOrder) (memory : List UInt8) : Nat :=
  match order with
  | little => beNat memory.reverse
  | big => beNat memory

/-- The conversion between the order of the machine and the big-endian one. -/
def swap (order : ByteOrder) (width value : Nat) : Nat :=
  match order with
  | little => beNat (beBytes width value).reverse
  | big => value

variable (order : ByteOrder)

@[simp] theorem bytes_length (width value : Nat) : (order.bytes width value).length = width := by
  cases order with
  | little => rw [bytes, List.length_reverse, beBytes_length]
  | big => exact beBytes_length width value

theorem swap_lt {width value : Nat} (fits : value < 256 ^ width) :
    order.swap width value < 256 ^ width := by
  cases order with
  | little =>
    have bound := beNat_lt (beBytes width value).reverse
    rwa [List.length_reverse, beBytes_length] at bound
  | big => exact fits

theorem value_lt (memory : List UInt8) : order.value memory < 256 ^ memory.length := by
  cases order with
  | little =>
    have bound := beNat_lt memory.reverse
    rwa [List.length_reverse] at bound
  | big => exact beNat_lt memory

/-- Memory of one size is the same where it holds the same integer. -/
theorem value_injective {memory memory' : List UInt8} (length : memory.length = memory'.length)
    (same : order.value memory = order.value memory') : memory = memory' := by
  cases order with
  | little =>
    have reversed : memory.reverse.length = memory'.reverse.length := by
      rwa [List.length_reverse, List.length_reverse]
    have read : beNat memory.reverse = beNat memory'.reverse := same
    rw [← List.reverse_inj, ← beBytes_beNat memory.reverse, ← beBytes_beNat memory'.reverse,
      reversed, read]
  | big =>
    have read : beNat memory = beNat memory' := same
    rw [← beBytes_beNat memory, ← beBytes_beNat memory', length, read]

/-- A converted integer lies in memory most significant byte first. -/
theorem bytes_swap (width value : Nat) :
    order.bytes width (order.swap width value) = beBytes width value := by
  cases order with
  | little =>
    have swapped := beBytes_beNat (beBytes width value).reverse
    rw [List.length_reverse, beBytes_length] at swapped
    rw [bytes, swap, swapped, List.reverse_reverse]
  | big => rfl

/-- Memory is converted to what it stands for most significant byte first. -/
theorem swap_value (memory : List UInt8) :
    order.swap memory.length (order.value memory) = beNat memory := by
  cases order with
  | little =>
    have written := beBytes_beNat memory.reverse
    rw [List.length_reverse] at written
    rw [swap, value, written, List.reverse_reverse]
  | big => rfl

end ByteOrder

end NewFramework.Lib
