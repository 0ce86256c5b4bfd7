import Mathlib.Data.Nat.Digits.Lemmas

/-!
# Strings that end with a zero byte

Memory is a list of bytes, addresses are positions in it.  `storeString` is what `sprintf` does
to it, `strlen` reads it back; `decimal` is the conversion `%d`.
-/

namespace NewFramework.Lib

/-- The bytes of `text` and a zero byte, stored from `address` on. -/
def storeString (memory : List UInt8) (address : Nat) (text : List UInt8) : List UInt8 :=
  memory.take address ++ text ++ 0 :: memory.drop (address + text.length + 1)

/-- `strlen` -/
def strlen (memory : List UInt8) (address : Nat) : Nat :=
  ((memory.drop address).takeWhile (· ≠ 0)).length

/-- The addresses that `storeString` writes to, that of the zero byte included. -/
def storedAt (address : Nat) (text : List UInt8) : List Nat :=
  List.range' address (text.length + 1)

variable {memory text : List UInt8} {address : Nat}

theorem takeWhile_ne_zero (nonzero : ∀ b ∈ text, b ≠ 0) (rest : List UInt8) :
    (text ++ 0 :: rest).takeWhile (· ≠ 0) = text := by
  induction text with
  | nil => simp
  | cons b text ih =>
    have first : b ≠ 0 := nonzero b List.mem_cons_self
    rw [List.cons_append, List.takeWhile_cons_of_pos (by simpa using first),
      ih fun b mem => nonzero b (List.mem_cons_of_mem _ mem)]

/-- `strlen` reads the length of what was stored. -/
theorem strlen_storeString (inside : address ≤ memory.length) (nonzero : ∀ b ∈ text, b ≠ 0) :
    strlen (storeString memory address text) address = text.length := by
  have before : (memory.take address).length = address := List.length_take_of_le inside
  have there : (storeString memory address text).drop address =
      text ++ 0 :: memory.drop (address + text.length + 1) := by
    rw [storeString, List.append_assoc, List.drop_append, before, Nat.sub_self, List.drop_zero,
      List.drop_eq_nil_of_le (Nat.le_of_eq before), List.nil_append]
  rw [strlen, there, takeWhile_ne_zero nonzero]

/-- The zero byte is in memory. -/
theorem lt_length_storeString (inside : address ≤ memory.length) :
    address + text.length < (storeString memory address text).length := by
  simp only [storeString, List.length_append, List.length_cons, List.length_take_of_le inside]
  omega

section

variable (room : address + text.length < memory.length)
include room

theorem length_storeString : (storeString memory address text).length = memory.length := by
  have inside : address ≤ memory.length := by omega
  simp only [storeString, List.length_append, List.length_cons, List.length_take_of_le inside,
    List.length_drop]
  omega

theorem take_storeString :
    (storeString memory address text).take (address + text.length) =
      memory.take address ++ text := by
  have before : (memory.take address ++ text).length = address + text.length := by
    rw [List.length_append, List.length_take_of_le (by omega)]
  exact List.take_left' before

theorem getElem?_storeString :
    (storeString memory address text)[address + text.length]? = some 0 := by
  have before : (memory.take address ++ text).length = address + text.length := by
    rw [List.length_append, List.length_take_of_le (by omega)]
  rw [storeString, List.getElem?_append_right (Nat.le_of_eq before), before, Nat.sub_self,
    List.getElem?_cons_zero]

end

theorem forall_storedAt_lt {bound : Nat} :
    (∀ a ∈ storedAt address text, a < bound) ↔ address + text.length < bound := by
  simp only [storedAt, List.mem_range'_1]
  constructor
  · intro below
    exact below (address + text.length) (by omega)
  · intro last a between
    omega

/-! ## `%d` -/

/-- The decimal digits of a number, in ASCII. -/
def decimalNat (n : Nat) : List UInt8 :=
  if n = 0 then [48] else (Nat.digits 10 n).reverse.map fun digit => UInt8.ofNat (48 + digit)

/-- `%d` -/
def decimal (n : Int) : List UInt8 :=
  if n < 0 then 45 :: decimalNat n.natAbs else decimalNat n.natAbs

theorem decimalNat_length (n : Nat) : (decimalNat n).length = Nat.log 10 n + 1 := by
  unfold decimalNat
  by_cases zero : n = 0
  · simp [zero]
  · rw [if_neg zero, List.length_map, List.length_reverse, Nat.length_digits 10 n (by decide) zero]

theorem decimalNat_ne_zero (n : Nat) : ∀ b ∈ decimalNat n, b ≠ 0 := by
  unfold decimalNat
  by_cases zero : n = 0
  · simp [zero]
  · rw [if_neg zero]
    intro b mem
    obtain ⟨digit, there, rfl⟩ := List.mem_map.mp mem
    have small := Nat.digits_lt_base (by decide) (List.mem_reverse.mp there)
    intro nul
    have value := congrArg UInt8.toNat nul
    simp only [UInt8.toNat_ofNat', UInt8.toNat_zero] at value
    omega

theorem decimal_length (n : Int) :
    (decimal n).length = Nat.log 10 n.natAbs + 1 + if n < 0 then 1 else 0 := by
  unfold decimal
  by_cases negative : n < 0
  · rw [if_pos negative, if_pos negative, List.length_cons, decimalNat_length]
  · rw [if_neg negative, if_neg negative, decimalNat_length]

theorem decimal_ne_zero (n : Int) : ∀ b ∈ decimal n, b ≠ 0 := by
  unfold decimal
  by_cases negative : n < 0
  · rw [if_pos negative]
    intro b mem
    rcases List.mem_cons.mp mem with rfl | mem
    · decide
    · exact decimalNat_ne_zero _ b mem
  · rw [if_neg negative]
    exact decimalNat_ne_zero _

end NewFramework.Lib
