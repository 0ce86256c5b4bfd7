import Mathlib.Data.List.Range
import Mathlib.Data.List.Nodup
import NewFramework.Lib.Run

/-!
# Emission of a signal

`operator()` of `tstlesrv/sigslot.h` takes the next node of `m_connected_slots` before it calls the
present one.  A slot may disconnect and connect what it likes, this very signal included; what it
did to the list is seen when it returns.
-/

namespace NewFramework.Tstlesrv
open NewFramework.Lib

/-- A running `operator()`: the nodes of `m_connected_slots`, the node `it` stands on (`none` is
`end()`), and the nodes it has called.  Nodes are named by numbers below `fresh`. -/
structure Emission where
  nodes : List Nat
  it : Option Nat
  called : List Nat
  fresh : Nat
  faulted : Bool

/-- What a slot did to the list by the time it returns: some nodes are gone, and `added` new ones
stand at the end. -/
structure SlotEffect where
  removed : List Nat
  added : Nat

namespace Emission

/-- `operator()` on a signal with the connections `0 … n - 1`. -/
def start (n : Nat) : Emission := ⟨List.range n, (List.range n).head?, [], n, false⟩

/-- `itNext = it; ++itNext` -/
def itNext (s : Emission) (n : Nat) : Option Nat := (s.nodes.dropWhile (· ≠ n)).tail.head?

/-- One round of the loop.  When the next node is gone, the next round reads freed memory. -/
def step (s : Emission) (e : SlotEffect) : Option Emission :=
  match s.it with
  | none => none
  | some n =>
    if s.faulted = false then
      some {
        nodes := s.nodes.filter (· ∉ e.removed) ++ List.range' s.fresh e.added
        it := s.itNext n
        called := s.called ++ [n]
        fresh := s.fresh + e.added
        faulted := (s.itNext n).any (· ∈ e.removed) }
    else none

/-- The slot left the next node alone. -/
def NextKept (s : Emission) (e : SlotEffect) : Prop :=
  ∀ n ∈ s.it, ∀ next ∈ s.itNext n, next ∉ e.removed

/-- The emission has not gone wrong; of the `n` connections it started with it has called each at
most once and in order, and all that are still there once it is over. -/
structure Delivers (n : Nat) (s : Emission) : Prop where
  live : s.faulted = false
  once : s.called.Nodup
  order : (s.called.filter (· < n)).Pairwise (· < ·)
  all : s.it = none → ∀ x ∈ s.nodes, x < n → x ∈ s.called

/-- `before` was called and `rest` is to come; once the loop is over, what is left was connected
too late. -/
structure Walking (n : Nat) (before rest : List Nat) (s : Emission) : Prop where
  live : s.faulted = false
  split : s.nodes = before ++ rest
  known : ∀ x ∈ before, x ∈ s.called
  distinct : (s.called ++ rest).Nodup
  below : ∀ x ∈ s.called ++ rest, x < s.fresh
  started : n ≤ s.fresh
  order : ((s.called ++ rest).filter (· < n)).Pairwise (· < ·)
  here : s.it = rest.head? ∨ s.it = none ∧ ∀ x ∈ rest, n ≤ x

theorem walking_start (n : Nat) : Walking n [] (List.range n) (start n) where
  live := rfl
  split := rfl
  known := by simp
  distinct := List.nodup_range
  below := by simp [start]
  started := Nat.le_refl n
  order := List.pairwise_lt_range.sublist List.filter_sublist
  here := .inl rfl

theorem Walking.delivers {n : Nat} {before rest : List Nat} {s : Emission}
    (walking : Walking n before rest s) : Delivers n s where
  live := walking.live
  once := (List.nodup_append.mp walking.distinct).1
  order := by
    have order := walking.order
    rw [List.filter_append] at order
    exact (List.pairwise_append.mp order).1
  all := by
    intro ended x mem small
    rw [walking.split] at mem
    rcases List.mem_append.mp mem with called | left
    · exact walking.known x called
    · rcases walking.here with stands | ⟨-, late⟩
      · rw [ended, eq_comm, List.head?_eq_none_iff] at stands
        rw [stands] at left
        contradiction
      · exact absurd small (Nat.not_lt.mpr (late x left))

/-- The next node is the one after the present one. -/
theorem itNext_split {s : Emission} {before rest : List Nat} {m : Nat}
    (split : s.nodes = before ++ m :: rest) (away : m ∉ before) : s.itNext m = rest.head? := by
  have skipped : ∀ x ∈ before, decide (x ≠ m) = true := by
    intro x mem
    rw [decide_eq_true_eq]
    rintro rfl
    exact away mem
  rw [itNext, split, List.dropWhile_append_of_pos skipped]
  simp

/-- One round that leaves the next node alone. -/
theorem Walking.step {n : Nat} {before rest : List Nat} {s s' : Emission} {e : SlotEffect}
    (walking : Walking n before rest s) (kept : s.NextKept e) (moved : s.step e = some s') :
    ∃ before' rest', Walking n before' rest' s' := by
  unfold Emission.step at moved
  cases stands : s.it with
  | none => simp [stands] at moved
  | some m =>
    simp only [stands, if_pos walking.live, Option.some.injEq] at moved
    have head : rest.head? = some m := by
      rcases walking.here with here | ⟨ended, -⟩
      · rw [← here, stands]
      · rw [stands] at ended
        contradiction
    obtain ⟨later, rfl⟩ := List.head?_eq_some_iff.mp head
    have distinct := walking.distinct
    have away : m ∉ before := by
      intro mem
      exact (List.nodup_append.mp distinct).2.2 m (walking.known m mem) m List.mem_cons_self rfl
    have next : s.itNext m = later.head? := itNext_split walking.split away
    have passed : (s.called ++ [m]) ++ later = s.called ++ m :: later := by
      rw [List.append_assoc, List.singleton_append]
    have fresh_above : ∀ x ∈ List.range' s.fresh e.added, s.fresh ≤ x ∧ x < s.fresh + e.added := by
      intro x mem
      rw [List.mem_range'_1] at mem
      exact mem
    have shorter : ((s.called ++ [m]) ++ later.filter (· ∉ e.removed)).Sublist
        (s.called ++ m :: later) := by
      rw [← passed]
      exact List.Sublist.append_left List.filter_sublist _
    subst moved
    refine ⟨(before ++ [m]).filter (· ∉ e.removed),
      later.filter (· ∉ e.removed) ++ List.range' s.fresh e.added, ?_⟩
    refine
      { live := ?_, split := ?_, known := ?_, distinct := ?_, below := ?_, started := ?_
        order := ?_, here := ?_ }
    · rw [Option.any_eq_false]
      intro x mem
      simpa using kept m stands x mem
    · dsimp only
      rw [walking.split, ← List.append_assoc, ← List.filter_append, List.append_assoc,
        List.singleton_append]
    · intro x mem
      rcases List.mem_append.mp (List.mem_filter.mp mem).1 with old | this
      · exact List.mem_append_left _ (walking.known x old)
      · exact List.mem_append_right _ this
    · dsimp only
      rw [← List.append_assoc]
      refine List.nodup_append.mpr ⟨distinct.sublist shorter, List.nodup_range', ?_⟩
      intro x mem y new
      have := walking.below x (shorter.subset mem)
      have := (fresh_above y new).1
      omega
    · dsimp only
      rw [← List.append_assoc]
      intro x mem
      rcases List.mem_append.mp mem with old | new
      · have := walking.below x (shorter.subset old)
        omega
      · exact (fresh_above x new).2
    · have := walking.started
      dsimp only
      omega
    · dsimp only
      have none_new : (List.range' s.fresh e.added).filter (· < n) = [] := by
        rw [List.filter_eq_nil_iff]
        intro x new
        have := (fresh_above x new).1
        have := walking.started
        simp only [decide_eq_true_eq]
        omega
      rw [← List.append_assoc, List.filter_append, none_new, List.append_nil]
      exact walking.order.sublist (shorter.filter _)
    · dsimp only
      rw [next]
      cases later with
      | nil =>
        right
        refine ⟨rfl, ?_⟩
        intro x mem
        have := (fresh_above x (by simpa using mem)).1
        have := walking.started
        omega
      | cons x later =>
        left
        have stays : x ∉ e.removed := kept m stands x (by rw [next]; rfl)
        rw [List.filter_cons, if_pos (by simpa using stays)]
        rfl

/-- Every emission, whatever its slots do to the signal, goes right, calls the connections it
started with in order, none twice, and leaves out only such as are gone, iff no slot disconnects
the node after its own. -/
theorem always_delivers_iff (n : Nat) (effects : List SlotEffect) :
    Always step (Delivers n) (start n) effects ↔
      EachStep step (fun s e _ => s.NextKept e) (start n) effects := by
  have exact_steps : EachStep step (fun _ _ s' => Delivers n s') (start n) effects ↔
      EachStep step (fun s e _ => s.NextKept e) (start n) effects := by
    have init : ∃ before rest, Walking n before rest (start n) := ⟨_, _, walking_start n⟩
    refine @EachStep.iff_of_invariant _ _ step (fun s => ∃ before rest, Walking n before rest s) _ _
      ?_ ?_ _ _ init
    · rintro s e s' ⟨before, rest, walking⟩ kept moved
      obtain ⟨before', rest', walking'⟩ := walking.step kept moved
      exact ⟨⟨before', rest', walking'⟩, walking'.delivers⟩
    · rintro s e s' ⟨before, rest, walking⟩ moved delivers m stands next at_next
      unfold Emission.step at moved
      simp only [Option.mem_def.mp stands, if_pos walking.live, Option.some.injEq] at moved
      have live := delivers.live
      rw [← moved] at live
      intro removed
      simp only [Option.mem_def.mp at_next, Option.any_some, decide_eq_false_iff_not] at live
      exact live removed
  constructor
  · intro always
    exact exact_steps.mp always.2
  · intro kept
    exact ⟨(walking_start n).delivers, exact_steps.mpr kept⟩

end Emission

end NewFramework.Tstlesrv
