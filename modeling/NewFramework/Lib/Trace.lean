import Mathlib.Data.List.Basic

/-!
# What came before

A statement about every entry of a trace and the entries before it.  A trace grows at its end, so
what holds at the entries there are holds for good, and a step has to show it for those it adds.
-/

namespace NewFramework.Lib

variable {α : Type*}

/-- `Q` holds of each entry and what came before it. -/
def AtEach (Q : List α → α → Prop) (trace : List α) : Prop :=
  ∀ before x after, trace = before ++ x :: after → Q before x

theorem atEach_nil {Q : List α → α → Prop} : AtEach Q [] := by
  intro before x after eq
  simp at eq

theorem atEach_concat {Q : List α → α → Prop} {trace : List α} {y : α} :
    AtEach Q (trace ++ [y]) ↔ AtEach Q trace ∧ Q trace y := by
  constructor
  · intro all
    refine ⟨fun before x after eq => all before x (after ++ [y]) ?_, all trace y [] rfl⟩
    rw [eq, List.append_assoc]
    rfl
  · rintro ⟨old, new⟩ before x after eq
    rcases List.eq_nil_or_concat after with rfl | ⟨rest, z, rfl⟩
    · obtain ⟨rfl, last⟩ := List.append_inj' eq rfl
      obtain rfl := List.singleton_inj.mp last
      exact new
    · have split : trace ++ [y] = (before ++ x :: rest) ++ [z] := by
        rw [eq]
        simp
      exact old before x rest (List.append_inj' split rfl).1

end NewFramework.Lib
