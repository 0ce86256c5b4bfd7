import Mathlib.Algebra.Group.Nat.Defs
import Mathlib.Order.Basic
import Mathlib.Tactic.Common

/-!
# Runs of a labelled machine

A machine is a partial step function `step : σ → α → Option σ`: the label says which
component moves and what its environment answers, `none` that the label is not enabled in
the state.  A run is a list of labels.  `EachStep` speaks about the steps of a run and
`Always` about the states it visits; neither asks anything after a label that is not
enabled, so both are meaningful for every list of labels.

The two induction rules used everywhere are `EachStep.of_invariant` (what one step keeps,
every run keeps) and `EachStep.iff_of_invariant` (the exact condition under which a run
keeps it).  `potential_le` and `potential_eq_iff` are their counting form.  `Leads` speaks about a
run that exists; `Leads.of_variant` finds one.
-/

namespace NewFramework.Lib

variable {σ α : Type*} {step : σ → α → Option σ}

/-- The state a list of labels leads to. -/
def exec (step : σ → α → Option σ) : σ → List α → Option σ
  | s, [] => some s
  | s, a :: as => (step s a).bind fun s' => exec step s' as

/-- Every step of the run satisfies `Q`, a relation of the state before it, its label and the
state after it. -/
def EachStep (step : σ → α → Option σ) (Q : σ → α → σ → Prop) : σ → List α → Prop
  | _, [] => True
  | s, a :: as => ∀ s', step s a = some s' → Q s a s' ∧ EachStep step Q s' as

/-- Every state the run visits, the first one included, satisfies `P`. -/
def Always (step : σ → α → Option σ) (P : σ → Prop) (s : σ) (as : List α) : Prop :=
  P s ∧ EachStep step (fun _ _ s' => P s') s as

/-- A step behind a guard. -/
theorem some_of_guard {p : Prop} [Decidable p] {s t : σ}
    (moved : (if p then some s else none) = some t) : p ∧ s = t := by
  obtain ⟨holds, eq⟩ := Option.ite_none_right_eq_some.mp moved
  exact ⟨holds, Option.some.inj eq⟩

@[simp] theorem exec_nil (s : σ) : exec step s [] = some s := rfl

@[simp] theorem exec_cons (s : σ) (a : α) (as : List α) :
    exec step s (a :: as) = (step s a).bind fun s' => exec step s' as := rfl

theorem exec_cons_some {s s' : σ} {a : α} {as : List α} :
    exec step s (a :: as) = some s' ↔ ∃ m, step s a = some m ∧ exec step m as = some s' := by
  simp [Option.bind_eq_some_iff]

@[simp] theorem eachStep_nil {Q : σ → α → σ → Prop} (s : σ) : EachStep step Q s [] := trivial

instance decidableEachStep {Q : σ → α → σ → Prop} [∀ s a s', Decidable (Q s a s')] :
    ∀ (s : σ) (as : List α), Decidable (EachStep step Q s as)
  | _, [] => isTrue trivial
  | s, a :: as =>
    match moved : step s a with
    | none => isTrue fun s' h => by rw [moved] at h; contradiction
    | some m =>
      have := decidableEachStep (Q := Q) m as
      decidable_of_iff (Q s a m ∧ EachStep step Q m as)
        ⟨fun h s' eq => Option.some.inj (moved.symm.trans eq) ▸ h, fun h => h m moved⟩

instance decidableAlways {P : σ → Prop} [DecidablePred P] (s : σ) (as : List α) :
    Decidable (Always step P s as) :=
  inferInstanceAs (Decidable (_ ∧ _))

theorem EachStep.mono {Q R : σ → α → σ → Prop} (imp : ∀ s a s', Q s a s' → R s a s') :
    ∀ {as : List α} {s : σ}, EachStep step Q s as → EachStep step R s as
  | [], _, _ => trivial
  | _ :: _, _, run => fun s' moved =>
    ⟨imp _ _ _ (run s' moved).1, EachStep.mono imp (run s' moved).2⟩

theorem EachStep.and {Q R : σ → α → σ → Prop} :
    ∀ {as : List α} {s : σ}, EachStep step Q s as → EachStep step R s as →
      EachStep step (fun s a s' => Q s a s' ∧ R s a s') s as
  | [], _, _, _ => True.intro
  | _ :: _, _, left, right => fun s' moved =>
    ⟨⟨(left s' moved).1, (right s' moved).1⟩, (left s' moved).2.and (right s' moved).2⟩

/-- What every label satisfies, every step of the run does. -/
theorem EachStep.of_forall {C : α → Prop} :
    ∀ {as : List α}, (∀ a ∈ as, C a) → ∀ s : σ, EachStep step (fun _ a _ => C a) s as
  | [], _, _ => True.intro
  | a :: _, all, _ => fun s' _ =>
    ⟨all a (List.mem_cons_self ..),
      EachStep.of_forall (fun b mem => all b (List.mem_cons_of_mem _ mem)) s'⟩

theorem EachStep.trivial : ∀ (s : σ) (as : List α), EachStep step (fun _ _ _ => True) s as
  | _, [] => True.intro
  | _, _ :: as => fun s' _ => ⟨True.intro, EachStep.trivial s' as⟩

/-- The run rule: an invariant that every admitted step keeps, and that makes every admitted
step satisfy `Q`, makes every step of an admitted run satisfy `Q`. -/
theorem EachStep.of_invariant {Inv : σ → Prop} {C Q : σ → α → σ → Prop}
    (keeps : ∀ s a s', Inv s → C s a s' → step s a = some s' → Inv s' ∧ Q s a s') :
    ∀ {as : List α} {s : σ}, Inv s → EachStep step C s as → EachStep step Q s as := by
  intro as
  induction as with
  | nil => intros; trivial
  | cons a as ih =>
    intro s inv admitted s' moved
    obtain ⟨here, rest⟩ := admitted s' moved
    obtain ⟨inv', holds⟩ := keeps s a s' inv here moved
    exact ⟨holds, ih inv' rest⟩

/-- The exact form of the run rule: when moreover a step that satisfies `Q` was admitted, the
runs whose steps satisfy `Q` are the admitted ones. -/
theorem EachStep.iff_of_invariant {Inv : σ → Prop} {C Q : σ → α → σ → Prop}
    (keeps : ∀ s a s', Inv s → C s a s' → step s a = some s' → Inv s' ∧ Q s a s')
    (only : ∀ s a s', Inv s → step s a = some s' → Q s a s' → C s a s') :
    ∀ {as : List α} {s : σ}, Inv s → (EachStep step Q s as ↔ EachStep step C s as) := by
  intro as
  induction as with
  | nil => intros; exact Iff.rfl
  | cons a as ih =>
    intro s inv
    constructor
    · intro run s' moved
      obtain ⟨here, rest⟩ := run s' moved
      have admitted := only s a s' inv moved here
      exact ⟨admitted, (ih (keeps s a s' inv admitted moved).1).mp rest⟩
    · intro run
      exact EachStep.of_invariant keeps inv run

/-- An invariant of the admitted steps holds at the end of an admitted run. -/
theorem exec_invariant {Inv : σ → Prop} {C : σ → α → σ → Prop}
    (keeps : ∀ s a s', Inv s → C s a s' → step s a = some s' → Inv s') :
    ∀ {as : List α} {s t : σ}, Inv s → EachStep step C s as → exec step s as = some t → Inv t := by
  intro as
  induction as with
  | nil =>
    intro s t inv _ reached
    cases reached
    exact inv
  | cons a as ih =>
    intro s t inv admitted reached
    obtain ⟨m, moved, rest⟩ := exec_cons_some.mp reached
    obtain ⟨here, later⟩ := admitted m moved
    exact ih (keeps s a m inv here moved) later rest

/-- What always holds, holds in the state a run ends in. -/
theorem Always.of_exec {P : σ → Prop} :
    ∀ {as : List α} {s t : σ}, Always step P s as → exec step s as = some t → P t := by
  intro as
  induction as with
  | nil =>
    intro s t always reached
    cases reached
    exact always.1
  | cons a as ih =>
    intro s t always reached
    obtain ⟨m, moved, rest⟩ := exec_cons_some.mp reached
    exact ih (always.2 m moved) rest

/-- `Always` from an invariant that implies `P`. -/
theorem Always.of_invariant {Inv P : σ → Prop} {C : σ → α → σ → Prop}
    (keeps : ∀ s a s', Inv s → C s a s' → step s a = some s' → Inv s')
    (imp : ∀ s, Inv s → P s) {as : List α} {s : σ} (inv : Inv s)
    (admitted : EachStep step C s as) : Always step P s as :=
  ⟨imp s inv, EachStep.of_invariant
    (fun s a s' h c moved => ⟨keeps s a s' h c moved, imp s' (keeps s a s' h c moved)⟩) inv
    admitted⟩

/-- The exact form: the states of a run satisfy the inductive `P` iff its steps are admitted. -/
theorem Always.iff_eachStep {P : σ → Prop} {C : σ → α → σ → Prop}
    (keeps : ∀ s a s', P s → C s a s' → step s a = some s' → P s')
    (only : ∀ s a s', P s → step s a = some s' → P s' → C s a s')
    {as : List α} {s : σ} (init : P s) : Always step P s as ↔ EachStep step C s as := by
  have exact_steps : EachStep step (fun _ _ s' => P s') s as ↔ EachStep step C s as :=
    EachStep.iff_of_invariant
      (fun s a s' h c moved => ⟨keeps s a s' h c moved, keeps s a s' h c moved⟩) only init
  exact ⟨fun h => exact_steps.mp h.2, fun h => ⟨init, exact_steps.mpr h⟩⟩

section Leads

/-- A run of labels in `C` leads to a state that satisfies `P`. -/
def Leads (step : σ → α → Option σ) (C : α → Prop) (P : σ → Prop) (s : σ) : Prop :=
  ∃ as t, (∀ a ∈ as, C a) ∧ exec step s as = some t ∧ P t

variable {C : α → Prop} {P : σ → Prop} {s : σ}

theorem Leads.here (holds : P s) : Leads step C P s :=
  ⟨[], s, nofun, rfl, holds⟩

theorem Leads.cons {s' : σ} {a : α} (allowed : C a) (moved : step s a = some s')
    (leads : Leads step C P s') : Leads step C P s := by
  obtain ⟨as, t, all, reached, holds⟩ := leads
  exact ⟨a :: as, t, List.forall_mem_cons.mpr ⟨allowed, all⟩,
    exec_cons_some.mpr ⟨s', moved, reached⟩, holds⟩

/-- The variant rule: where the invariant holds, either the goal can be reached or a label leads on
and lowers the variant. -/
theorem Leads.of_variant {Inv : σ → Prop} (variant : σ → Nat)
    (onward : ∀ s, Inv s → Leads step C P s ∨
      ∃ a s', C a ∧ step s a = some s' ∧ Inv s' ∧ variant s' < variant s) (inv : Inv s) :
    Leads step C P s := by
  induction height : variant s using Nat.strongRecOn generalizing s with
  | _ n ih =>
    rcases onward s inv with leads | ⟨a, s', allowed, moved, inv', less⟩
    · exact leads
    · exact (ih (variant s') (height ▸ less) inv' rfl).cons allowed moved

/-- A run that leads to a state without `P` does not always keep it. -/
theorem Leads.not_always (leads : Leads step C (¬ P ·) s) :
    ¬ ∀ as, (∀ a ∈ as, C a) → Always step P s as := by
  obtain ⟨as, t, all, reached, fails⟩ := leads
  exact fun always => fails ((always as all).of_exec reached)

end Leads

section Potential

variable {β : Type*} [PartialOrder β] {D : σ → β} {Inv : σ → Prop} {C : σ → α → σ → Prop}

/-- A potential no step lowers is not lowered by a run. -/
theorem potential_le (inv_step : ∀ s a s', Inv s → step s a = some s' → Inv s')
    (rise : ∀ s a s', Inv s → step s a = some s' → D s ≤ D s') :
    ∀ {as : List α} {s t : σ}, Inv s → exec step s as = some t → D s ≤ D t := by
  intro as
  induction as with
  | nil =>
    intro s t _ reached
    cases reached
    exact le_refl _
  | cons a as ih =>
    intro s t inv reached
    obtain ⟨m, moved, rest⟩ := exec_cons_some.mp reached
    exact (rise s a m inv moved).trans (ih (inv_step s a m inv moved) rest)

/-- Where exactly the steps outside `C` raise the potential, a run ends with the potential it
started with iff all its steps were in `C`. -/
theorem potential_eq_iff (inv_step : ∀ s a s', Inv s → step s a = some s' → Inv s')
    (rise : ∀ s a s', Inv s → step s a = some s' → D s ≤ D s')
    (same : ∀ s a s', Inv s → step s a = some s' → (D s' = D s ↔ C s a s')) :
    ∀ {as : List α} {s t : σ}, Inv s → exec step s as = some t →
      (D t = D s ↔ EachStep step C s as) := by
  intro as
  induction as with
  | nil =>
    intro s t _ reached
    cases reached
    exact iff_of_true rfl trivial
  | cons a as ih =>
    intro s t inv reached
    obtain ⟨m, moved, rest⟩ := exec_cons_some.mp reached
    have inv' := inv_step s a m inv moved
    have tail := ih inv' rest
    constructor
    · intro equal s' moved'
      obtain rfl : m = s' := Option.some.inj (moved.symm.trans moved')
      have first : D m = D s :=
        le_antisymm (equal ▸ potential_le inv_step rise inv' rest) (rise s a m inv moved)
      exact ⟨(same s a m inv moved).mp first, tail.mp (equal.trans first.symm)⟩
    · intro run
      obtain ⟨here, later⟩ := run m moved
      exact (tail.mpr later).trans ((same s a m inv moved).mpr here)

end Potential

end NewFramework.Lib
