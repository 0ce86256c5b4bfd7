import Mathlib.Data.List.Sort

/-!
# Sorted sets

`std::set` as the list of its elements in strictly increasing order.  The order is part of the
type, so that the first element is the least one, the elements below a bound are a prefix, and
two sets whose elements correspond have the same size.
-/

namespace NewFramework.Lib

structure SortedSet (α : Type*) [LinearOrder α] where
  toList : List α
  sorted : toList.Pairwise (· < ·)

namespace SortedSet

variable {α β : Type*} [LinearOrder α] [LinearOrder β]

instance : Membership α (SortedSet α) := ⟨fun s a => a ∈ s.toList⟩

instance (a : α) (s : SortedSet α) : Decidable (a ∈ s) := inferInstanceAs (Decidable (a ∈ s.toList))

@[simp] theorem mem_toList {a : α} {s : SortedSet α} : a ∈ s.toList ↔ a ∈ s := Iff.rfl

def empty : SortedSet α := ⟨[], .nil⟩

def size (s : SortedSet α) : Nat := s.toList.length

/-- `*begin()`, unless `begin() == end()`. -/
def begin? (s : SortedSet α) : Option α := s.toList.head?

/-- `insert`, which leaves the set alone when the element is there. -/
def insert (a : α) (s : SortedSet α) : SortedSet α :=
  if mem : a ∈ s then s
  else
    { toList := s.toList.orderedInsert (· ≤ ·) a
      sorted := by
        have le : (s.toList.orderedInsert (· ≤ ·) a).Pairwise (· ≤ ·) :=
          (s.sorted.imp le_of_lt).orderedInsert a _
        have distinct : (s.toList.orderedInsert (· ≤ ·) a).Nodup :=
          (List.perm_orderedInsert (· ≤ ·) a s.toList).nodup_iff.mpr
            (List.nodup_cons.mpr ⟨mem, s.sorted.imp ne_of_lt⟩)
        exact (le.and distinct).imp fun both => lt_of_le_of_ne both.1 both.2 }

def erase (a : α) (s : SortedSet α) : SortedSet α where
  toList := s.toList.erase a
  sorted := s.sorted.sublist List.erase_sublist

/-- The elements before `lower_bound(a)`. -/
def below (a : α) (s : SortedSet α) : List α := s.toList.takeWhile (· < a)

/-- What is left when they are erased. -/
def eraseBelow (a : α) (s : SortedSet α) : SortedSet α where
  toList := s.toList.dropWhile (· < a)
  sorted := s.sorted.sublist (List.dropWhile_sublist _)

theorem nodup (s : SortedSet α) : s.toList.Nodup := s.sorted.imp ne_of_lt

@[simp] theorem not_mem_empty (a : α) : a ∉ (empty : SortedSet α) := List.not_mem_nil

@[simp] theorem mem_insert {a b : α} {s : SortedSet α} : a ∈ s.insert b ↔ a = b ∨ a ∈ s := by
  unfold insert
  split
  · next mem =>
    constructor
    · exact .inr
    · rintro (rfl | there)
      · exact mem
      · exact there
  · exact List.mem_orderedInsert (· ≤ ·)

@[simp] theorem mem_erase {a b : α} {s : SortedSet α} : a ∈ s.erase b ↔ a ≠ b ∧ a ∈ s :=
  s.nodup.mem_erase_iff

/-- In increasing order, what is below a bound comes first. -/
theorem mem_takeWhile_lt {a b : α} : ∀ {l : List α}, l.Pairwise (· < ·) →
    (b ∈ l.takeWhile (· < a) ↔ b ∈ l ∧ b < a) ∧ (b ∈ l.dropWhile (· < a) ↔ b ∈ l ∧ a ≤ b) := by
  intro l sorted
  induction l with
  | nil => simp
  | cons c l ih =>
    obtain ⟨first, sorted⟩ := List.pairwise_cons.mp sorted
    obtain ⟨before, after⟩ := ih sorted
    by_cases lt : c < a
    · have not_le : ¬ a ≤ c := not_le.mpr lt
      simp only [List.takeWhile_cons, List.dropWhile_cons, lt, decide_true, if_true, List.mem_cons,
        before, after]
      constructor
      · constructor
        · rintro (rfl | ⟨mem, below⟩)
          · exact ⟨.inl rfl, lt⟩
          · exact ⟨.inr mem, below⟩
        · rintro ⟨rfl | mem, below⟩
          · exact .inl rfl
          · exact .inr ⟨mem, below⟩
      · constructor
        · rintro ⟨mem, above⟩
          exact ⟨.inr mem, above⟩
        · rintro ⟨rfl | mem, above⟩
          · exact absurd above not_le
          · exact ⟨mem, above⟩
    · have le : a ≤ c := not_lt.mp lt
      have above : ∀ d ∈ c :: l, a ≤ d := by
        intro d mem
        rcases List.mem_cons.mp mem with rfl | mem
        · exact le
        · exact le.trans (first d mem).le
      simp only [List.takeWhile_cons, List.dropWhile_cons, lt, decide_false, Bool.false_eq_true,
        if_false, List.not_mem_nil, false_iff]
      exact ⟨fun ⟨mem, below⟩ => absurd (above b mem) (not_le.mpr below),
        fun mem => ⟨mem, above b mem⟩, And.left⟩

@[simp] theorem mem_below {a b : α} {s : SortedSet α} : b ∈ s.below a ↔ b ∈ s ∧ b < a :=
  (mem_takeWhile_lt s.sorted).1

@[simp] theorem mem_eraseBelow {a b : α} {s : SortedSet α} :
    b ∈ s.eraseBelow a ↔ b ∈ s ∧ a ≤ b :=
  (mem_takeWhile_lt s.sorted).2

theorem below_sorted (a : α) (s : SortedSet α) : (s.below a).Pairwise (· < ·) :=
  s.sorted.sublist (List.takeWhile_sublist _)

theorem begin?_eq_none {s : SortedSet α} : s.begin? = none ↔ ∀ a, a ∉ s := by
  rw [begin?, List.head?_eq_none_iff, List.eq_nil_iff_forall_not_mem]
  exact Iff.rfl

theorem begin?_mem {a : α} {s : SortedSet α} (first : s.begin? = some a) : a ∈ s :=
  List.mem_of_mem_head? first

theorem begin?_le {a b : α} {s : SortedSet α} (first : s.begin? = some a) (mem : b ∈ s) :
    a ≤ b := by
  obtain ⟨rest, eq⟩ := List.head?_eq_some_iff.mp first
  have sorted := s.sorted
  rw [eq] at sorted
  rw [← mem_toList, eq] at mem
  rcases List.mem_cons.mp mem with rfl | mem
  · exact le_refl _
  · exact (List.rel_of_pairwise_cons sorted mem).le

theorem begin?_eq_some {a : α} {s : SortedSet α} (mem : a ∈ s) (least : ∀ b ∈ s, a ≤ b) :
    s.begin? = some a := by
  cases first : s.begin? with
  | none => exact absurd mem (begin?_eq_none.mp first a)
  | some b => rw [le_antisymm (least b (begin?_mem first)) (begin?_le first mem)]

/-- Sets whose elements correspond have the same size. -/
theorem size_eq_of_map {s : SortedSet α} {t : SortedSet β} (f : α → β)
    (inj : ∀ a ∈ s, ∀ b ∈ s, f a = f b → a = b) (image : ∀ b, b ∈ t ↔ ∃ a ∈ s, f a = b) :
    s.size = t.size := by
  have distinct : (s.toList.map f).Nodup := by
    refine (List.nodup_map_iff_inj_on s.nodup).mpr inj
  have perm : (s.toList.map f).Perm t.toList := by
    rw [List.perm_ext_iff_of_nodup distinct t.nodup]
    intro b
    rw [List.mem_map, mem_toList, image]
    exact Iff.rfl
  have length := perm.length_eq
  rwa [List.length_map] at length

end SortedSet
end NewFramework.Lib
