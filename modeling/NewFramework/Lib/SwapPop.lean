import Mathlib.Tactic.Common

/-!
# Removing from an array by a swap with its last element

`swapPop l k` exchanges the element at `k` with the last one and drops it, the constant-time
removal of arrays whose elements know their positions: every other element stays where it was,
the last one excepted, which is at `k` now.
-/

namespace NewFramework.Lib

variable {α : Type*}

/-- `iter_swap(begin + k, end - 1)` and `pop_back`. -/
def swapPop (l : List α) (k : Nat) : List α :=
  match l[k]?, l.getLast? with
  | some x, some last => ((l.set k last).set (l.length - 1) x).dropLast
  | _, _ => l

theorem getElem?_swapPop {l : List α} {k : Nat} (inside : k < l.length - 1) (j : Nat) :
    (swapPop l k)[j]? = if j = k then l.getLast? else l.dropLast[j]? := by
  obtain ⟨x, at_k⟩ : ∃ x, l[k]? = some x := ⟨l[k], List.getElem?_eq_getElem (by omega)⟩
  obtain ⟨last, at_end⟩ : ∃ last, l.getLast? = some last :=
    ⟨l[l.length - 1], by rw [List.getLast?_eq_getElem?, List.getElem?_eq_getElem]⟩
  simp only [swapPop, at_k, at_end, List.getElem?_dropLast, List.getElem?_set, List.length_set]
  by_cases here : j = k
  · subst here
    simp only [if_true, inside]
    rw [if_neg (by omega), if_pos (by omega)]
  · by_cases before : j < l.length - 1
    · simp only [before, if_true, here, if_false]
      rw [if_neg (by omega), if_neg (fun same => here same.symm)]
    · simp [before, here]

theorem getElem?_swapPop_self {l : List α} {k : Nat} (inside : k < l.length - 1) :
    (swapPop l k)[k]? = l.getLast? := by
  rw [getElem?_swapPop inside, if_pos rfl]

theorem getElem?_swapPop_of_ne {l : List α} {k j : Nat} (inside : k < l.length - 1)
    (other : j ≠ k) : (swapPop l k)[j]? = l.dropLast[j]? := by
  rw [getElem?_swapPop inside, if_neg other]

end NewFramework.Lib
