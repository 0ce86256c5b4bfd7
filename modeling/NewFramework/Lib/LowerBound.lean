import Mathlib.Tactic.Common

/-!
# `std::lower_bound`

The binary search, on any list: it reads inside the list only, and it ends behind an element that is
less and in front of one that is not, whether or not the list is sorted.
-/

namespace NewFramework.Lib

variable {α : Type*} {less : α → Bool} {l : List α}

/-- The loop, for `len` elements from `first` on; it is left with nothing where an element outside of
the list would be read. -/
def lowerBoundLoop (less : α → Bool) (l : List α) : (fuel first len : Nat) → Option Nat
  | _, first, 0 => some first
  | 0, _, _ + 1 => none
  | fuel + 1, first, len + 1 =>
    let half := (len + 1) / 2
    match l[first + half]? with
    | none => none
    | some middle =>
      if less middle then lowerBoundLoop less l fuel (first + half + 1) (len + 1 - half - 1)
      else lowerBoundLoop less l fuel first half

/-- `lower_bound`, for `less` with its value; every round halves what is left. -/
def lowerBound (less : α → Bool) (l : List α) : Option Nat :=
  lowerBoundLoop less l l.length 0 l.length

/-- The place between what is less and what is not, as far as it looks. -/
structure IsBound (less : α → Bool) (l : List α) (r : Nat) : Prop where
  inside : r ≤ l.length
  before : ∀ a, 0 < r → l[r - 1]? = some a → less a = true
  behind : ∀ a, l[r]? = some a → less a = false

theorem lowerBoundLoop_spec {fuel first len : Nat} (enough : len ≤ fuel)
    (inside : first + len ≤ l.length)
    (before : ∀ a, 0 < first → l[first - 1]? = some a → less a = true)
    (behind : ∀ a, l[first + len]? = some a → less a = false) :
    ∃ r, lowerBoundLoop less l fuel first len = some r ∧ IsBound less l r := by
  induction fuel generalizing first len with
  | zero =>
    obtain rfl := Nat.le_zero.mp enough
    exact ⟨first, rfl, inside, before, behind⟩
  | succ fuel ih =>
    cases len with
    | zero => exact ⟨first, rfl, inside, before, behind⟩
    | succ len =>
      have there : first + (len + 1) / 2 < l.length := by omega
      rw [lowerBoundLoop, List.getElem?_eq_getElem there]
      dsimp only
      by_cases lessMiddle : less l[first + (len + 1) / 2]
      · rw [if_pos lessMiddle]
        refine ih (by omega) (by omega) ?_ ?_
        · intro a _ at_a
          rw [Nat.add_sub_cancel, List.getElem?_eq_getElem there] at at_a
          exact Option.some.inj at_a ▸ lessMiddle
        · intro a at_a
          exact behind a (by rw [← at_a]; congr 1; omega)
      · rw [if_neg lessMiddle]
        refine ih (by omega) (by omega) before ?_
        intro a at_a
        rw [List.getElem?_eq_getElem there] at at_a
        exact Option.some.inj at_a ▸ Bool.not_eq_true _ ▸ lessMiddle

/-- The search reads inside the list, and finds a bound. -/
theorem lowerBound_spec (less : α → Bool) (l : List α) :
    ∃ r, lowerBound less l = some r ∧ IsBound less l r := by
  refine lowerBoundLoop_spec (Nat.le_refl _) (by omega) ?_ ?_
  · intro a pos
    exact absurd pos (Nat.lt_irrefl 0)
  · intro a at_a
    rw [Nat.zero_add, List.getElem?_eq_none (Nat.le_refl _)] at at_a
    contradiction

end NewFramework.Lib
