import Mathlib.Data.List.Count
import Mathlib.Tactic.Common

/-!
# UTF-8 and UCS-2

A text is a list of characters, and `utf8` are the bytes of its encoding.  The first byte of a
character says how many bytes it takes; what a program finds out about a byte with a mask is here
said as the range that the byte is in.
-/

namespace NewFramework.Lib

/-- The UTF-8 encoding of a text. -/
def utf8 (text : List Char) : List UInt8 := text.flatMap String.utf8EncodeChar

/-- The little-endian UCS-2 encoding of a character that has one unit. -/
def ucs2Char (c : Char) : List UInt8 := [UInt8.ofNat (c.toNat % 256), UInt8.ofNat (c.toNat / 256)]

/-- The little-endian UCS-2 encoding of a text, behind the byte order mark. -/
def ucs2 (text : List Char) : List UInt8 := 0xFF :: 0xFE :: text.flatMap ucs2Char

/-- A byte that is not the first one of its character. -/
def Continues (b : UInt8) : Prop := 0x80 ≤ b.toNat ∧ b.toNat < 0xC0

/-- The encodings of one character. -/
inductive Encoded (c : Char) : List UInt8 → Prop
  | one (b : UInt8) (value : c.toNat < 0x80) (first : b.toNat < 0x80) : Encoded c [b]
  | two (a b : UInt8) (value : 0x80 ≤ c.toNat ∧ c.toNat < 0x800)
      (first : 0xC0 ≤ a.toNat ∧ a.toNat < 0xE0) (second : Continues b) : Encoded c [a, b]
  | three (a b d : UInt8) (value : 0x800 ≤ c.toNat ∧ c.toNat < 0x10000)
      (first : 0xE0 ≤ a.toNat ∧ a.toNat < 0xF0) (second : Continues b) (third : Continues d) :
      Encoded c [a, b, d]
  | four (a b d e : UInt8) (value : 0x10000 ≤ c.toNat)
      (first : 0xF0 ≤ a.toNat ∧ a.toNat < 0xF8) (second : Continues b) (third : Continues d)
      (fourth : Continues e) : Encoded c [a, b, d, e]

theorem continues_ofNat (n : Nat) : Continues (UInt8.ofNat (n % 64 + 0x80)) := by
  unfold Continues
  rw [UInt8.toNat_ofNat']
  omega

theorem encoded (c : Char) : Encoded c (String.utf8EncodeChar c) := by
  have value : c.val.toNat = c.toNat := rfl
  unfold String.utf8EncodeChar
  dsimp only
  rw [value]
  split
  · next small =>
    refine .one _ (by omega) ?_
    rw [UInt8.toNat_ofNat']
    omega
  split
  · next large small =>
    refine .two _ _ (by omega) ?_ (continues_ofNat _)
    rw [UInt8.toNat_ofNat']
    omega
  split
  · next large small =>
    refine .three _ _ _ (by omega) ?_ (continues_ofNat _) (continues_ofNat _)
    rw [UInt8.toNat_ofNat']
    omega
  · next large =>
    refine .four _ _ _ _ (by omega) ?_ (continues_ofNat _) (continues_ofNat _) (continues_ofNat _)
    rw [UInt8.toNat_ofNat']
    omega

/-! ## Masks -/

/-- What holds of all numbers below 256 holds of all bytes. -/
theorem forall_byte {p : UInt8 → Prop} (all : ∀ n : Fin 256, p (UInt8.ofNat n)) (b : UInt8) :
    p b := by
  have this := all ⟨b.toNat, b.toNat_lt⟩
  rwa [UInt8.ofNat_toNat] at this

theorem mask_80 (b : UInt8) : b &&& 0x80 = 0 ↔ b.toNat < 0x80 := by
  revert b
  exact forall_byte (by decide +kernel)

theorem mask_C0 (b : UInt8) : b &&& 0xC0 = 0x80 ↔ 0x80 ≤ b.toNat ∧ b.toNat < 0xC0 := by
  revert b
  exact forall_byte (by decide +kernel)

theorem mask_E0 (b : UInt8) : b &&& 0xE0 = 0xC0 ↔ 0xC0 ≤ b.toNat ∧ b.toNat < 0xE0 := by
  revert b
  exact forall_byte (by decide +kernel)

theorem mask_F0 (b : UInt8) : b &&& 0xF0 = 0xE0 ↔ 0xE0 ≤ b.toNat ∧ b.toNat < 0xF0 := by
  revert b
  exact forall_byte (by decide +kernel)

theorem high_of_first {b : UInt8} (first : 0xC0 ≤ b.toNat) : b &&& 0x80 ≠ 0 :=
  fun low => absurd ((mask_80 b).mp low) (by omega)

theorem Continues.high {b : UInt8} (continues : Continues b) : ¬ b &&& 0x80 = 0 :=
  fun low => absurd ((mask_80 b).mp low) (Nat.not_lt.mpr continues.1)

theorem Continues.masked {b : UInt8} (continues : Continues b) : b &&& 0xC0 = 0x80 :=
  (mask_C0 b).mpr continues

end NewFramework.Lib
