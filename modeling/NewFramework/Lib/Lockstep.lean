import Mathlib.Data.Option.Basic
import NewFramework.Lib.Run

/-!
# Observations and lockstep

An observer of a machine sees a value after every step, and nothing of a label that is not
enabled.  Two states that a lockstep relation keeps together give the observer the same trace,
whatever the labels are: the two-run rule behind every statement that something hidden in the state
does not show.
-/

namespace NewFramework.Lib

variable {σ α ω : Type*}

/-- What the observer sees of the steps that a list of labels makes. -/
def trace (step : σ → α → Option σ) (observe : σ → ω) : σ → List α → List ω
  | _, [] => []
  | s, a :: as =>
    match step s a with
    | none => trace step observe s as
    | some s' => observe s' :: trace step observe s' as

variable {step : σ → α → Option σ} {observe : σ → ω}

@[simp] theorem trace_nil (s : σ) : trace step observe s [] = [] := rfl

theorem trace_cons_some {s s' : σ} {a : α} {as : List α} (moved : step s a = some s') :
    trace step observe s (a :: as) = observe s' :: trace step observe s' as := by
  simp only [trace, moved]

/-- `R` is a lockstep relation: related states have the same labels enabled, and each takes
them to related states that look the same. -/
def Lockstep (step : σ → α → Option σ) (observe : σ → ω) (R : σ → σ → Prop) : Prop :=
  ∀ s t a, R s t →
    Option.Rel (fun s' t' => R s' t' ∧ observe s' = observe t') (step s a) (step t a)

theorem Lockstep.trace_eq {R : σ → σ → Prop} (lockstep : Lockstep step observe R) :
    ∀ {as : List α} {s t : σ}, R s t → trace step observe s as = trace step observe t as := by
  intro as
  induction as with
  | nil => intros; rfl
  | cons a as ih =>
    intro s t related
    have both := lockstep s t a related
    simp only [trace]
    cases hs : step s a with
    | none =>
      cases ht : step t a with
      | none => exact ih related
      | some t' =>
        rw [hs, ht] at both
        cases both
    | some s' =>
      cases ht : step t a with
      | none =>
        rw [hs, ht] at both
        cases both
      | some t' =>
        rw [hs, ht] at both
        cases both with
        | some same =>
          dsimp only
          rw [same.2, ih same.1]

end NewFramework.Lib
