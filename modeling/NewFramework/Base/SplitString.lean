import Mathlib.Data.List.Lex
import Mathlib.Order.Fin.Basic
import NewFramework.Lib.Loop
import NewFramework.Lib.Pieces
import NewFramework.Lib.SortedSet

/-!
# `SplitString`

The loop over the separators in `SplitString` (`muduo/base/common.cpp`) has no counter, so it is a
loop that may not end.
-/

namespace NewFramework.Base
open NewFramework.Lib

/-- A `char` as `std::string` compares it, by its value as `unsigned char`. -/
abbrev StringChar := Fin 256

abbrev StdString := List StringChar

namespace StdString

def space : StringChar := 32

/-- `s.find(c, pos)` -/
def find (s c : StdString) (pos : Nat) : Option Nat :=
  if pos ≤ s.length then (search c (s.drop pos)).map (pos + ·) else none

/-- `s.substr(pos, n)` -/
def substr (s : StdString) (pos n : Nat) : StdString := (s.drop pos).take n

/-- `stringTrimEx(sInput)`, which leaves a string of spaces alone. -/
def stringTrimEx (sInput : StdString) : StdString :=
  let trimmed := ((sInput.dropWhile (· = space)).reverse.dropWhile (· = space)).reverse
  if trimmed = [] then sInput else trimmed

end StdString

open StdString

/-- `pos1`, `pos2` and `v` in the loop of `SplitString`. -/
structure SplitState where
  pos1 : Nat
  pos2 : Option Nat
  v : SortedSet StdString

/-- One round of the `while` loop. -/
def splitRound (s c : StdString) (st : SplitState) : SplitState ⊕ SplitState :=
  match st.pos2 with
  | none => .inr st
  | some pos2 =>
    let v := st.v.insert (substr s st.pos1 (pos2 - st.pos1))
    let pos1 := pos2 + c.length
    .inl ⟨pos1, find s c pos1, v⟩

/-- What `SplitString` does behind the loop. -/
def splitRest (s : StdString) (st : SplitState) : SortedSet StdString × StdString :=
  let v := if st.pos1 ≠ s.length then st.v.insert (s.drop st.pos1) else st.v
  let sretTerms := v.toList.flatMap (· ++ [space])
  (v, stringTrimEx sretTerms)

/-- `SplitString(s, v, c)`: the set after it and what it returns, if the loop ends within `n`
rounds. -/
def splitString (n : Nat) (s : StdString) (v : SortedSet StdString) (c : StdString) :
    Option (SortedSet StdString × StdString) :=
  match find s c 0 with
  | none => some (v.insert s, s)
  | some pos2 => (rounds (splitRound s c) n ⟨0, some pos2, v⟩).map (splitRest s)

/-! ## Where the separator is not empty -/

/-- The pieces that go into the set: all of them, but for an empty one behind the last
separator. -/
def kept (ps : List StdString) : List StdString :=
  if ps.length ≠ 1 ∧ ps.getLast? = some [] then ps.dropLast else ps

variable {s c : StdString} {v : SortedSet StdString}

theorem find_eq_none {pos : Nat} (inside : pos ≤ s.length) :
    find s c pos = none ↔ ¬ c <:+: s.drop pos := by
  unfold find
  rw [if_pos inside, Option.map_eq_none_iff, search_eq_none_iff]

theorem find_eq_some {pos pos2 : Nat} (found : find s c pos = some pos2) :
    ∃ n, pos2 = pos + n ∧ FirstAt c (s.drop pos) n ∧ pos2 + c.length ≤ s.length := by
  unfold find at found
  split at found
  · next inside =>
    obtain ⟨n, search, rfl⟩ := Option.map_eq_some_iff.mp found
    have fits := search_le search
    rw [List.length_drop] at fits
    exact ⟨n, rfl, (search_eq_some_iff.mp search).1, by omega⟩
  · contradiction

/-- From any position the loop ends, with the pieces from there on in the set, but for the last
one, which begins where the loop ends. -/
theorem splitRound_ends (some_char : c ≠ []) {pos : Nat} (inside : pos ≤ s.length) :
    ∃ n st front, rounds (splitRound s c) n ⟨pos, find s c pos, v⟩ = some st ∧
      st.pos1 ≤ s.length ∧ Pieces c (s.drop pos) (front ++ [s.drop st.pos1]) ∧
      ∀ x, x ∈ st.v ↔ x ∈ v ∨ x ∈ front := by
  generalize left : s.length - pos = k
  induction k using Nat.strong_induction_on generalizing pos v with
  | _ k ih =>
    cases found : find s c pos with
    | none =>
      refine ⟨1, ⟨pos, none, v⟩, [], rfl, inside, .last ((find_eq_none inside).mp found), ?_⟩
      simp
    | some pos2 =>
      obtain ⟨m, rfl, first, fits⟩ := find_eq_some found
      have pos_c : 0 < c.length := List.length_pos_iff.mpr some_char
      obtain ⟨n, st, front, ended, last, pieces, mem⟩ := ih (s.length - (pos + m + c.length))
        (by omega) (v := v.insert (substr s pos (pos + m - pos))) fits rfl
      refine ⟨n + 1, st, (s.drop pos).take m :: front, ended, last, ?_, ?_⟩
      · refine .piece first ?_
        rw [List.drop_drop]
        rwa [Nat.add_assoc] at pieces
      · intro x
        rw [mem, SortedSet.mem_insert, substr, Nat.add_sub_cancel_left, List.mem_cons]
        tauto

theorem mem_splitRest {st : SplitState} {x : StdString} :
    x ∈ (splitRest s st).1 ↔ x ∈ st.v ∨ st.pos1 ≠ s.length ∧ x = s.drop st.pos1 := by
  unfold splitRest
  dsimp only
  split
  · next more =>
    rw [SortedSet.mem_insert]
    constructor
    · rintro (rfl | mem)
      · exact .inr ⟨more, rfl⟩
      · exact .inl mem
    · rintro (mem | ⟨-, rfl⟩)
      · exact .inr mem
      · exact .inl rfl
  · next done =>
    constructor
    · exact .inl
    · rintro (mem | ⟨more, -⟩)
      · exact mem
      · exact absurd more done

theorem mem_kept {front : List StdString} {last x : StdString} (some_piece : front ≠ []) :
    x ∈ kept (front ++ [last]) ↔ x ∈ front ∨ last ≠ [] ∧ x = last := by
  have several : (front ++ [last]).length ≠ 1 := by
    have pos := List.length_pos_iff.mpr some_piece
    rw [List.length_append, List.length_singleton]
    omega
  unfold kept
  by_cases empty : last = []
  · rw [if_pos ⟨several, by rw [List.getLast?_concat, empty]⟩, List.dropLast_concat]
    simp [empty]
  · rw [if_neg fun both => empty (by simpa using both.2)]
    simp [empty]

/-- The call ends, and the set has the pieces and nothing else besides. -/
def Splits (s : StdString) (v : SortedSet StdString) (c : StdString) : Prop :=
  ∃ n v' ret, splitString n s v c = some (v', ret) ∧
    ∃ ps, (∀ qs, Pieces c s qs ↔ qs = ps) ∧ ∀ x, x ∈ v' ↔ x ∈ v ∨ x ∈ kept ps

theorem splits_of_ne_nil (some_char : c ≠ []) : Splits s v c := by
  have determined : ∀ {ps}, Pieces c s ps → ∀ qs, Pieces c s qs ↔ qs = ps := by
    intro ps pieces qs
    constructor
    · intro other
      exact other.unique pieces
    · rintro rfl
      exact pieces
  unfold Splits splitString
  cases found : find s c 0 with
  | none =>
    have absent : ¬ c <:+: s := (find_eq_none (Nat.zero_le _)).mp found
    refine ⟨0, v.insert s, s, rfl, [s], determined (.last absent), ?_⟩
    intro x
    rw [SortedSet.mem_insert, or_comm]
    simp [kept]
  | some pos2 =>
    obtain ⟨n, st, front, ended, inside, pieces, mem⟩ :=
      splitRound_ends (s := s) (v := v) some_char (Nat.zero_le _)
    rw [found] at ended
    have some_piece : front ≠ [] := by
      rintro rfl
      rw [(find_eq_none (Nat.zero_le _)).mpr pieces.absent] at found
      contradiction
    refine ⟨n, (splitRest s st).1, (splitRest s st).2, ?_, _, determined pieces, ?_⟩
    · simp only [ended, Option.map_some]
    · intro x
      have end_iff : s.drop st.pos1 ≠ [] ↔ st.pos1 ≠ s.length := by
        rw [ne_eq, List.drop_eq_nil_iff]
        omega
      rw [mem_splitRest, mem, mem_kept some_piece, end_iff, or_assoc]

/-! ## The empty separator -/

theorem find_nil (s : StdString) : find s [] 0 = some 0 := by
  cases s <;> rfl

/-- Every round finds the empty separator where it was. -/
theorem splitRound_nil (n : Nat) : rounds (splitRound s []) n ⟨0, some 0, v⟩ = none := by
  induction n generalizing v with
  | zero => rfl
  | succ n ih =>
    rw [rounds]
    dsimp only [splitRound]
    rw [List.length_nil, find_nil]
    exact ih

theorem not_splits_nil (s : StdString) (v : SortedSet StdString) : ¬ Splits s v [] := by
  rintro ⟨n, v', ret, ended, -⟩
  unfold splitString at ended
  rw [find_nil] at ended
  dsimp only at ended
  rw [splitRound_nil] at ended
  contradiction

/-- `SplitString` ends, and then it is exact, for every separator but the empty one. -/
theorem splits_iff : Splits s v c ↔ c ≠ [] := by
  constructor
  · rintro splits rfl
    exact not_splits_nil s v splits
  · exact splits_of_ne_nil

/-- An empty separator is found for ever. -/
theorem not_splits_empty : ¬ Splits [97, 98] SortedSet.empty [] :=
  not_splits_nil [97, 98] SortedSet.empty

example : (splitString 4 [97, 44, 98, 44] SortedSet.empty [44]).map
    (fun result => (result.1.toList, result.2)) = some ([[97], [98]], [97, 32, 98]) := by decide

end NewFramework.Base
