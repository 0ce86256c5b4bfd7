import Mathlib.Algebra.Group.Int.Defs
import Mathlib.Tactic.Common

/-!
# Signed arithmetic of 32 bits that must not overflow

`SignedInt` is the result of an expression of a signed type of 32 bits: its value, or nothing where
an operation in it left the range and has no meaning.  Division truncates towards zero.

An expression is evaluated by `of_add` and its like, which compute on values, and `of_eq`, which
asks that a value is in the range.
-/

namespace NewFramework.Lib

structure SignedInt where
  value : Option Int
  deriving DecidableEq

namespace SignedInt

def InRange (v : Int) : Prop := -2147483648 ≤ v ∧ v ≤ 2147483647

instance (v : Int) : Decidable (InRange v) := inferInstanceAs (Decidable (_ ∧ _))

/-- A value that is in the range. -/
def ofInt (v : Int) : SignedInt := ⟨some v⟩

def overflow : SignedInt := ⟨none⟩

/-- The result of an operation whose mathematical value is `v`. -/
def checked (v : Int) : SignedInt := if InRange v then ofInt v else overflow

def map₂ (op : Int → Int → SignedInt) (x y : SignedInt) : SignedInt :=
  ⟨x.value.bind fun u => y.value.bind fun v => (op u v).value⟩

instance : Coe Int SignedInt := ⟨ofInt⟩
instance (n : Nat) : OfNat SignedInt n := ⟨checked n⟩
instance : Add SignedInt := ⟨map₂ fun u v => checked (u + v)⟩
instance : Sub SignedInt := ⟨map₂ fun u v => checked (u - v)⟩
instance : Mul SignedInt := ⟨map₂ fun u v => checked (u * v)⟩
instance : Div SignedInt := ⟨map₂ fun u v => if v = 0 then overflow else checked (u.tdiv v)⟩
instance : Mod SignedInt := ⟨map₂ fun u v => if v = 0 then overflow else checked (u.tmod v)⟩

theorem value_ofInt (v : Int) : (ofInt v).value = some v := rfl

theorem checked_eq {v : Int} (lower : -2147483648 ≤ v) (upper : v ≤ 2147483647) :
    checked v = ofInt v :=
  if_pos ⟨lower, upper⟩

theorem checked_eq_overflow {v : Int} (large : 2147483647 < v) : checked v = overflow :=
  if_neg fun inRange => absurd inRange.2 (Int.not_le.mpr large)

theorem overflow_add (x : SignedInt) : overflow + x = overflow := rfl

theorem overflow_div (x : SignedInt) : overflow / x = overflow := rfl

theorem literal (n : Nat) : (OfNat.ofNat n : SignedInt) = checked (OfNat.ofNat n) := rfl

theorem ofInt_add (u v : Int) : ofInt u + ofInt v = checked (u + v) := rfl

theorem ofInt_sub (u v : Int) : ofInt u - ofInt v = checked (u - v) := rfl

theorem ofInt_mul (u v : Int) : ofInt u * ofInt v = checked (u * v) := rfl

/-- Where the dividend is not negative, truncation is rounding down. -/
theorem ofInt_div {u v : Int} (dividend : 0 ≤ u) (divisor : v ≠ 0) :
    ofInt u / ofInt v = checked (u / v) := by
  rw [← Int.tdiv_eq_ediv_of_nonneg dividend]
  exact congrArg SignedInt.mk (congrArg SignedInt.value (if_neg divisor))

theorem ofInt_mod {u v : Int} (dividend : 0 ≤ u) (divisor : v ≠ 0) :
    ofInt u % ofInt v = checked (u % v) := by
  rw [← Int.tmod_eq_emod_of_nonneg dividend]
  exact congrArg SignedInt.mk (congrArg SignedInt.value (if_neg divisor))

/-! ## What an expression can be -/

/-- `x` is `v` unless an operation in it left the range. -/
def Exact (x : SignedInt) (v : Int) : Prop := ∀ w, x.value = some w → w = v

section

variable {x y : SignedInt} {u v : Int}

theorem exact_ofInt (v : Int) : Exact (ofInt v) v := fun _ eq => (Option.some.inj eq).symm

theorem exact_checked (v : Int) : Exact (checked v) v := by
  unfold checked
  split
  · exact exact_ofInt v
  · intro w eq
    contradiction

theorem exact_map₂ {op : Int → Int → SignedInt} {w : Int} (left : Exact x u) (right : Exact y v)
    (result : Exact (op u v) w) : Exact (map₂ op x y) w := by
  intro z eq
  obtain ⟨a, first, rest⟩ := Option.bind_eq_some_iff.mp eq
  obtain ⟨b, second, eq⟩ := Option.bind_eq_some_iff.mp rest
  obtain rfl := left a first
  obtain rfl := right b second
  exact result z eq

theorem exact_literal (n : Nat) : Exact (OfNat.ofNat n : SignedInt) n := exact_checked n

theorem exact_add (left : Exact x u) (right : Exact y v) : Exact (x + y) (u + v) :=
  exact_map₂ left right (exact_checked _)

theorem exact_sub (left : Exact x u) (right : Exact y v) : Exact (x - y) (u - v) :=
  exact_map₂ left right (exact_checked _)

theorem exact_mul (left : Exact x u) (right : Exact y v) : Exact (x * y) (u * v) :=
  exact_map₂ left right (exact_checked _)

theorem exact_div (left : Exact x u) (right : Exact y v) (dividend : 0 ≤ u) (divisor : v ≠ 0) :
    Exact (x / y) (u / v) := by
  refine exact_map₂ left right ?_
  rw [← Int.tdiv_eq_ediv_of_nonneg dividend, if_neg divisor]
  exact exact_checked _

end

end SignedInt

end NewFramework.Lib
