import Mathlib.Tactic.Common

/-!
# Loops without a counter

The body of a `while` as a function from the state to the next state or to a result.  `rounds`
runs it for at most so many rounds; `Ends` says that some number of rounds is enough.
-/

namespace NewFramework.Lib

variable {σ ρ : Type*} {body : σ → σ ⊕ ρ} {s : σ} {r : ρ}

/-- The result of the loop, if it ends within `n` rounds. -/
def rounds (body : σ → σ ⊕ ρ) : Nat → σ → Option ρ
  | 0, _ => none
  | n + 1, s =>
    match body s with
    | .inl s' => rounds body n s'
    | .inr r => some r

/-- The loop ends. -/
def Ends (body : σ → σ ⊕ ρ) (s : σ) : Prop := ∃ n, (rounds body n s).isSome

/-- More rounds change nothing. -/
theorem rounds_mono {n m : Nat} (le : n ≤ m) (ended : rounds body n s = some r) :
    rounds body m s = some r := by
  induction n generalizing m s with
  | zero => simp [rounds] at ended
  | succ n ih =>
    cases m with
    | zero => omega
    | succ m =>
      simp only [rounds] at ended ⊢
      cases next : body s with
      | inl s' =>
        rw [next] at ended
        exact ih (by omega) ended
      | inr result =>
        rw [next] at ended
        exact ended

/-- The loop has one result. -/
theorem rounds_unique {n m : Nat} {r' : ρ} (ended : rounds body n s = some r)
    (ended' : rounds body m s = some r') : r = r' := by
  rcases Nat.le_total n m with le | le
  · exact Option.some.inj ((rounds_mono le ended).symm.trans ended')
  · exact Option.some.inj (ended.symm.trans (rounds_mono le ended'))

/-- A round that changes nothing is repeated for ever. -/
theorem not_ends_of_stuck (stuck : body s = .inl s) : ¬Ends body s := by
  have never : ∀ n, rounds body n s = none := by
    intro n
    induction n with
    | zero => rfl
    | succ n ih => simp only [rounds, stuck, ih]
  rintro ⟨n, ended⟩
  rw [never n] at ended
  contradiction

/-- Where every further round keeps an invariant and lowers a measure, the loop ends within one
round more than the measure. -/
theorem rounds_of_measure {Inv : σ → Prop} (measure : σ → Nat)
    (lowers : ∀ s s', Inv s → body s = .inl s' → Inv s' ∧ measure s' < measure s) :
    ∀ {n : Nat} {s : σ}, Inv s → measure s < n → (rounds body n s).isSome := by
  intro n
  induction n with
  | zero => intro s _ below; omega
  | succ n ih =>
    intro s inv below
    simp only [rounds]
    cases next : body s with
    | inl s' =>
      obtain ⟨inv', less⟩ := lowers s s' inv next
      exact ih inv' (by omega)
    | inr r => rfl

theorem ends_of_measure {Inv : σ → Prop} (measure : σ → Nat)
    (lowers : ∀ s s', Inv s → body s = .inl s' → Inv s' ∧ measure s' < measure s) (inv : Inv s) :
    Ends body s :=
  ⟨measure s + 1, rounds_of_measure measure lowers inv (Nat.lt_succ_self _)⟩

end NewFramework.Lib
