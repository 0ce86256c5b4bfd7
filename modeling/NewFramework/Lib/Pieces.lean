import NewFramework.Lib.LineParser

/-!
# The pieces between separators

`Pieces sep s ps` says that `ps` are the pieces of `s` between occurrences of `sep` that are found
one behind the other from the left, the last piece being what is behind all of them.
-/

namespace NewFramework.Lib

variable {α : Type*} {sep s : List α}

/-- `sep` begins in `s` behind `n` elements, and not before. -/
def FirstAt (sep s : List α) (n : Nat) : Prop :=
  sep <+: s.drop n ∧ ∀ k < n, ¬ sep <+: s.drop k

inductive Pieces (sep : List α) : List α → List (List α) → Prop
  | last {s : List α} (absent : ¬ sep <:+: s) : Pieces sep s [s]
  | piece {s : List α} {n : Nat} {ps : List (List α)} (first : FirstAt sep s n)
      (rest : Pieces sep (s.drop (n + sep.length)) ps) : Pieces sep s (s.take n :: ps)

/-- One piece is all. -/
theorem Pieces.absent {p : List α} (pieces : Pieces sep s [p]) : ¬ sep <:+: s := by
  cases pieces with
  | last absent => exact absent
  | piece first rest => cases rest

/-- The pieces are determined. -/
theorem Pieces.unique {ps qs : List (List α)} (left : Pieces sep s ps) (right : Pieces sep s qs) :
    ps = qs := by
  induction left generalizing qs with
  | last absent =>
    cases right with
    | last => rfl
    | piece first =>
      exact absurd (first.1.isInfix.trans (List.drop_suffix _ _).isInfix) absent
  | @piece s n ps first rest ih =>
    cases right with
    | last absent =>
      exact absurd (first.1.isInfix.trans (List.drop_suffix _ _).isInfix) absent
    | @piece _ m qs first' rest' =>
      obtain rfl : n = m := by
        rcases Nat.lt_trichotomy n m with lt | eq | lt
        · exact absurd first.1 (first'.2 n lt)
        · exact eq
        · exact absurd first'.1 (first.2 m lt)
      rw [ih rest']

section

variable [DecidableEq α]

theorem search_eq_some_iff {n : Nat} : search sep s = some n ↔ FirstAt sep s n ∧ n ≤ s.length := by
  induction s generalizing n with
  | nil =>
    unfold search FirstAt
    by_cases empty : sep = []
    · rw [if_pos empty, empty]
      constructor
      · intro eq
        obtain rfl := Option.some.inj eq
        simp
      · rintro ⟨-, le⟩
        rw [Nat.le_zero.mp le]
    · rw [if_neg empty]
      simp [empty]
  | cons x xs ih =>
    rw [search_cons]
    split
    · next here =>
      constructor
      · intro eq
        obtain rfl := Option.some.inj eq
        exact ⟨⟨here, fun k lt => absurd lt (Nat.not_lt_zero k)⟩, Nat.zero_le _⟩
      · rintro ⟨⟨-, before⟩, -⟩
        cases n with
        | zero => rfl
        | succ n => exact absurd here (before 0 (Nat.succ_pos n))
    · next other =>
      cases n with
      | zero =>
        constructor
        · intro eq
          obtain ⟨m, -, eq⟩ := Option.map_eq_some_iff.mp eq
          contradiction
        · rintro ⟨⟨here, -⟩, -⟩
          exact absurd here other
      | succ n =>
        have shift : (search sep xs).map (· + 1) = some (n + 1) ↔ search sep xs = some n := by
          simp
        rw [shift, ih]
        unfold FirstAt
        constructor
        · rintro ⟨⟨there, before⟩, le⟩
          refine ⟨⟨there, ?_⟩, Nat.succ_le_succ le⟩
          intro k lt
          cases k with
          | zero => exact other
          | succ k => exact before k (Nat.lt_of_succ_lt_succ lt)
        · rintro ⟨⟨there, before⟩, le⟩
          refine ⟨⟨there, ?_⟩, Nat.le_of_succ_le_succ le⟩
          intro k lt
          exact before (k + 1) (Nat.succ_lt_succ lt)

theorem search_eq_none_iff : search sep s = none ↔ ¬ sep <:+: s := by
  induction s with
  | nil =>
    unfold search
    by_cases empty : sep = [] <;> simp [empty]
  | cons x xs ih =>
    rw [search_cons, List.infix_cons_iff]
    split
    · next here => simp [here]
    · next other => simp [other, ih]

end

end NewFramework.Lib
