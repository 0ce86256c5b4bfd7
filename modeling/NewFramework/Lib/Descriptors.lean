import NewFramework.Lib.Numbered

/-!
# A table of descriptors

The table has as many places as its owner may have descriptors open, each free or with a holder.
A descriptor that is opened is the lowest that is free, and there is none where all are taken.
-/

namespace NewFramework.Lib

variable {α : Type*} {t : List (Option α)} {i : Nat} {x : α}

/-- The number of the free places. -/
def freePlaces (t : List (Option α)) : Nat := t.countP Option.isNone

/-- The lowest free descriptor. -/
def lowestFree (t : List (Option α)) : Option Nat := t.findIdx? Option.isNone

theorem lowestFree_eq_none : lowestFree t = none ↔ freePlaces t = 0 := by
  unfold lowestFree freePlaces
  rw [List.findIdx?_eq_none_iff, List.countP_eq_zero]
  simp [Option.isSome_iff_ne_none]

theorem getElem?_lowestFree (lowest : lowestFree t = some i) : t[i]? = some none := by
  obtain ⟨inside, free, -⟩ := List.findIdx?_eq_some_iff_getElem.mp lowest
  rw [List.getElem?_eq_getElem inside, Option.isNone_iff_eq_none.mp free]

/-- A place with other contents stays as it is. -/
theorem getElem?_set_apart {y z : Option α} {j : Nat} (here : t[i]? = some y) {x : Option α}
    (there : t[j]? = some x) (apart : y ≠ x) : (t.set i z)[j]? = some x := by
  have other : i ≠ j := by
    rintro rfl
    exact apart (Option.some.inj (here.symm.trans there))
  rwa [List.getElem?_set_ne other]

theorem getElem?_opened (free : t[i]? = some none) : (t.set i (some x))[i]? = some (some x) := by
  obtain ⟨inside, -⟩ := List.getElem?_eq_some_iff.mp free
  exact List.getElem?_set_self inside

section Opened

variable (free : t[i]? = some none)
include free

theorem freePlaces_open : freePlaces (t.set i (some x)) + 1 = freePlaces t :=
  countP_set Option.isNone free

theorem count_open [DecidableEq α] (holder : α) :
    (t.set i (some x)).count (some holder) =
      t.count (some holder) + if x = holder then 1 else 0 := by
  have counted := @countP_set _ t none (some x) i (· == some holder) free
  simpa [List.count] using counted

end Opened

section Closed

variable (held : t[i]? = some (some x))
include held

theorem freePlaces_close : freePlaces (t.set i none) = freePlaces t + 1 :=
  countP_set Option.isNone held

theorem count_close [DecidableEq α] (holder : α) :
    (t.set i none).count (some holder) + (if x = holder then 1 else 0) =
      t.count (some holder) := by
  have counted := @countP_set _ t (some x) none i (· == some holder) held
  simpa [List.count] using counted

end Closed

end NewFramework.Lib
