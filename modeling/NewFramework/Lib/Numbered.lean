import Mathlib.Algebra.BigOperators.Group.List.Basic
import Mathlib.Tactic.Common

/-!
# Numbered components

Threads, handles and the like are kept in a list and named by their place in it: a step changes
one of them, or adds one at the end.
-/

namespace NewFramework.Lib

variable {α : Type*} {l : List α} {x y : α} {i j : Nat}

theorem getElem?_set_cases (there : (l.set i x)[j]? = some y) :
    j = i ∧ y = x ∨ j ≠ i ∧ l[j]? = some y := by
  rw [List.getElem?_set] at there
  split at there
  · next same =>
    split at there
    · exact .inl ⟨same.symm, (Option.some.inj there).symm⟩
    · contradiction
  · next other => exact .inr ⟨fun same => other same.symm, there⟩

theorem getElem?_concat_cases (there : (l ++ [x])[j]? = some y) :
    j < l.length ∧ l[j]? = some y ∨ j = l.length ∧ y = x := by
  rcases Nat.lt_trichotomy j l.length with old | new | beyond
  · rw [List.getElem?_append_left old] at there
    exact .inl ⟨old, there⟩
  · subst new
    rw [List.getElem?_concat_length] at there
    exact .inr ⟨rfl, (Option.some.inj there).symm⟩
  · rw [List.getElem?_eq_none (by rw [List.length_append, List.length_singleton]; omega)] at there
    contradiction

/-- What holds of all components holds of the one that is looked at and of the others. -/
theorem forall_mem_iff_eraseIdx {Q : α → Prop} (there : l[i]? = some x) :
    (∀ a ∈ l, Q a) ↔ Q x ∧ ∀ a ∈ l.eraseIdx i, Q a := by
  refine ⟨fun all => ⟨all x (List.mem_of_getElem? there),
    fun a mem => all a (List.mem_of_mem_eraseIdx mem)⟩, ?_⟩
  rintro ⟨here, others⟩ a mem
  obtain ⟨j, at_j⟩ := List.mem_iff_getElem?.mp mem
  by_cases same : j = i
  · subst same
    obtain rfl := Option.some.inj (at_j.symm.trans there)
    exact here
  · exact others a (List.mem_eraseIdx_iff_getElem?.mpr ⟨j, same, at_j⟩)

theorem forall_mem_set {Q : α → Prop} (there : l[i]? = some x) :
    (∀ a ∈ l.set i y, Q a) ↔ Q y ∧ ∀ a ∈ l.eraseIdx i, Q a := by
  obtain ⟨inside, -⟩ := List.getElem?_eq_some_iff.mp there
  rw [forall_mem_iff_eraseIdx (List.getElem?_set_self inside), List.eraseIdx_set_eq]

/-- A sum over the components, where one of them changes. -/
theorem sum_map_set {M : Type*} [AddCommMonoid M] (f : α → M) (there : l[i]? = some x) :
    ((l.set i y).map f).sum + f x = (l.map f).sum + f y := by
  induction l generalizing i with
  | nil => simp at there
  | cons a l ih =>
    cases i with
    | zero =>
      obtain rfl : a = x := Option.some.inj there
      rw [List.set_cons_zero, List.map_cons, List.map_cons, List.sum_cons, List.sum_cons, add_comm,
        add_comm (f y), add_assoc]
    | succ i =>
      rw [List.set_cons_succ, List.map_cons, List.map_cons, List.sum_cons, List.sum_cons, add_assoc,
        add_assoc, ih there]

/-- `List.countP_set` without its difference. -/
theorem countP_set (p : α → Bool) (there : l[i]? = some x) :
    (l.set i y).countP p + (if p x then 1 else 0) = l.countP p + if p y then 1 else 0 := by
  obtain ⟨inside, rfl⟩ := List.getElem?_eq_some_iff.mp there
  have counted := List.boole_getElem_le_countP (p := p) inside
  rw [List.countP_set inside]
  omega

end NewFramework.Lib
