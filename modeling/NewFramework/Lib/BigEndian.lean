import Mathlib.Algebra.Group.Int.Defs
import Mathlib.Algebra.Group.Nat.Defs
import Mathlib.Data.List.Induction
import Mathlib.Tactic.Common

/-!
# Big-endian byte strings

`beNat` reads a byte string as an unsigned number, most significant byte first; `beBytes`
writes the low `width` bytes of a number.  `toInt w` is the two's complement reading of the
low `w` bits of a number, which is what a conversion to a signed integer of `w` bits keeps.
-/

namespace NewFramework.Lib

/-- The number a big-endian byte string stands for. -/
def beNat (bytes : List UInt8) : Nat := bytes.foldl (fun acc b => acc * 256 + b.toNat) 0

/-- The low `width` bytes of `value`, most significant first. -/
def beBytes : (width value : Nat) → List UInt8
  | 0, _ => []
  | width + 1, value => beBytes width (value / 256) ++ [UInt8.ofNat (value % 256)]

/-- Two's complement reading of the low `w` bits of `value`. -/
def toInt (w : Nat) (value : Int) : Int := value.bmod (2 ^ w)

@[simp] theorem beBytes_length (width value : Nat) : (beBytes width value).length = width := by
  induction width generalizing value with
  | zero => rfl
  | succ width ih => simp [beBytes, ih]

@[simp] theorem beNat_nil : beNat [] = 0 := rfl

@[simp] theorem beNat_concat (bytes : List UInt8) (b : UInt8) :
    beNat (bytes ++ [b]) = beNat bytes * 256 + b.toNat := by
  simp [beNat]

/-- Writing and reading back a number that fits its width. -/
theorem beNat_beBytes {width value : Nat} (fits : value < 256 ^ width) :
    beNat (beBytes width value) = value := by
  induction width generalizing value with
  | zero =>
    have : value = 0 := by simpa using fits
    simp [this, beBytes]
  | succ width ih =>
    have quotient : value / 256 < 256 ^ width := by
      rw [Nat.pow_succ] at fits
      omega
    rw [beBytes, beNat_concat, ih quotient, UInt8.toNat_ofNat', Nat.mod_mod]
    omega

/-- A number below half the range of the signed type is converted to itself. -/
theorem toInt_of_lt {w n : Nat} (small : 2 * n < 2 ^ w) : toInt w n = n := by
  unfold toInt
  generalize 2 ^ w = m at small ⊢
  apply Int.bmod_eq_of_le <;> omega

theorem toInt_lt {w : Nat} (wide : 0 < w) (value : Int) : toInt w value < 2 ^ (w - 1) := by
  obtain ⟨v, rfl⟩ : ∃ v, w = v + 1 := ⟨w - 1, by omega⟩
  unfold toInt
  have bound : value.bmod (2 ^ (v + 1)) < (((2 ^ (v + 1) : Nat) : Int) + 1) / 2 :=
    Int.bmod_lt (Nat.two_pow_pos _)
  have half : (((2 ^ (v + 1) : Nat) : Int) + 1) / 2 = 2 ^ v := by
    rw [Nat.pow_succ]
    push_cast
    omega
  rw [half] at bound
  exact bound

/-- A number of the upper half of the range is converted to a negative one. -/
theorem toInt_neg {w n : Nat} (large : 2 ^ w ≤ 2 * n) (fits : n < 2 ^ w) : toInt w n < 0 := by
  unfold toInt
  generalize 2 ^ w = m at large fits ⊢
  rw [Int.bmod_def, Int.emod_eq_of_lt (by omega) (by omega)]
  split <;> omega

end NewFramework.Lib
