import Mathlib.Tactic.Common

/-!
# Reading a byte string

A reader takes bytes from the front of what is left, with a state beside them, and it may fail.
Where it reads the encodings of a kind of values and nothing else, so does a loop of it.
-/

namespace NewFramework.Lib

abbrev Reader (ε σ : Type) := EStateM ε (List UInt8 × σ)

namespace Reader

variable {ε σ α β : Type} {s s' t : List UInt8 × σ}

theorem bind_eq_ok {r : Reader ε σ α} {f : α → Reader ε σ β} {b : β} :
    (r >>= f) s = .ok b t ↔ ∃ a s', r s = .ok a s' ∧ f a s' = .ok b t := by
  change EStateM.bind r f s = .ok b t ↔ _
  unfold EStateM.bind
  constructor
  · intro done
    cases first : r s with
    | ok a s' =>
      rw [first] at done
      exact ⟨a, s', rfl, done⟩
    | error e s' =>
      rw [first] at done
      contradiction
  · rintro ⟨a, s', first, next⟩
    rw [first]
    exact next

theorem pure_eq_ok {a b : α} : (pure a : Reader ε σ α) s = .ok b t ↔ a = b ∧ s = t := by
  change EStateM.Result.ok a s = .ok b t ↔ _
  exact EStateM.Result.ok.injEq a s b t ▸ Iff.rfl

/-- Fails where the condition does not hold. -/
def check (holds : Prop) [Decidable holds] (e : ε) : Reader ε σ Unit :=
  if holds then pure () else throw e

theorem check_bind {holds : Prop} [Decidable holds] {e : ε} {f : Unit → Reader ε σ β} {b : β} :
    (check holds e >>= f) s = .ok b t ↔ holds ∧ f () s = .ok b t := by
  rw [bind_eq_ok]
  unfold check
  by_cases yes : holds
  · rw [if_pos yes, and_iff_right yes]
    exact ⟨fun ⟨_, _, done, next⟩ => (pure_eq_ok.mp done).2 ▸ next, fun next => ⟨(), s, rfl, next⟩⟩
  · rw [if_neg yes]
    refine iff_of_false ?_ (fun both => yes both.1)
    rintro ⟨_, _, done, -⟩
    contradiction

/-- Changes the state beside the bytes. -/
def update (change : σ → σ) : Reader ε σ Unit := modify fun s => (s.1, change s.2)

theorem update_eq_ok {change : σ → σ} {u : Unit} :
    (update change : Reader ε σ Unit) s = .ok u t ↔ (s.1, change s.2) = t := by
  change EStateM.Result.ok () (s.1, change s.2) = .ok u t ↔ _
  simp

/-- The next `n` bytes, of which there may be less. -/
def fread (n : Nat) : Reader ε σ (List UInt8) :=
  modifyGet fun s => (s.1.take n, (s.1.drop n, s.2))

/-- The next `n` bytes. -/
def exactly (n : Nat) (short : ε) : Reader ε σ (List UInt8) := do
  let bytes ← fread n
  check (bytes.length = n) short
  return bytes

/-- A reader of what `encode` writes for the good values; it leaves the state as it is. -/
structure Reads (r : Reader ε σ α) (good : α → Prop) (encode : α → List UInt8) : Prop where
  eq_ok : ∀ {bytes left : List UInt8} {state state' : σ} {a : α},
    r (bytes, state) = .ok a (left, state') ↔ good a ∧ bytes = encode a ++ left ∧ state' = state

variable {r : Reader ε σ α} {good : α → Prop} {encode : α → List UInt8}

theorem reads_exactly (n : Nat) (short : ε) :
    Reads (exactly n short : Reader ε σ (List UInt8)) (fun bytes => bytes.length = n) id where
  eq_ok := by
    intro bytes left state state' a
    unfold exactly
    rw [bind_eq_ok]
    simp only [check_bind, pure_eq_ok]
    constructor
    · rintro ⟨read, s, done, enough, rfl, rfl⟩
      cases done
      exact ⟨enough, (List.take_append_drop n bytes).symm, rfl⟩
    · rintro ⟨enough, rfl, rfl⟩
      refine ⟨a, (left, state'), ?_, enough, rfl, rfl⟩
      subst enough
      change EStateM.Result.ok ((a ++ left).take a.length) ((a ++ left).drop a.length, state') = _
      rw [List.take_left, List.drop_left]

theorem Reads.bind_eq_ok (reads : Reads r good encode) {f : α → Reader ε σ β} {b : β}
    {bytes : List UInt8} {state : σ} :
    (r >>= f) (bytes, state) = .ok b t ↔
      ∃ a left, good a ∧ bytes = encode a ++ left ∧ f a (left, state) = .ok b t := by
  rw [Reader.bind_eq_ok]
  constructor
  · rintro ⟨a, ⟨left, state'⟩, done, next⟩
    obtain ⟨is_good, encoded, rfl⟩ := reads.eq_ok.mp done
    exact ⟨a, left, is_good, encoded, next⟩
  · rintro ⟨a, left, is_good, encoded, next⟩
    exact ⟨a, (left, state), reads.eq_ok.mpr ⟨is_good, encoded, rfl⟩, next⟩

theorem Reads.map (reads : Reads r good encode) {into : α → β} {good' : β → Prop}
    {encode' : β → List UInt8}
    (same : ∀ b used, (∃ a, good a ∧ used = encode a ∧ into a = b) ↔ good' b ∧ used = encode' b) :
    Reads (do return into (← r)) good' encode' where
  eq_ok := by
    intro bytes left state state' b
    rw [reads.bind_eq_ok]
    simp only [pure_eq_ok, Prod.mk.injEq]
    constructor
    · rintro ⟨a, left', is_good, rfl, eq, rfl, rfl⟩
      obtain ⟨is_good', encoded⟩ := (same b (encode a)).mp ⟨a, is_good, rfl, eq⟩
      exact ⟨is_good', congrArg (· ++ left') encoded, rfl⟩
    · rintro ⟨is_good', rfl, rfl⟩
      obtain ⟨a, is_good, encoded, eq⟩ := (same b (encode' b)).mpr ⟨is_good', rfl⟩
      exact ⟨a, left, is_good, congrArg (· ++ left) encoded, eq, rfl, rfl⟩

/-- `n` rounds that push what they read to a vector. -/
def many (r : Reader ε σ α) : Nat → Reader ε σ (List α)
  | 0 => pure []
  | n + 1 => do
    let a ← r
    let rest ← many r n
    return a :: rest

theorem Reads.many (reads : Reads r good encode) (n : Nat) :
    Reads (Reader.many r n) (fun all => all.length = n ∧ ∀ a ∈ all, good a)
      (fun all => all.flatMap encode) := by
  induction n with
  | zero =>
    constructor
    intro bytes left state state' all
    simp only [Reader.many, pure_eq_ok, Prod.mk.injEq]
    constructor
    · rintro ⟨rfl, rfl, rfl⟩
      simp
    · rintro ⟨⟨none, -⟩, rfl, rfl⟩
      obtain rfl := List.length_eq_zero_iff.mp none
      simp
  | succ n ih =>
    constructor
    intro bytes left state state' all
    simp only [Reader.many, reads.bind_eq_ok, ih.bind_eq_ok, pure_eq_ok, Prod.mk.injEq]
    constructor
    · rintro ⟨a, _, is_good, rfl, rest, _, ⟨rfl, are_good⟩, rfl, rfl, rfl, rfl⟩
      refine ⟨⟨rfl, List.forall_mem_cons.mpr ⟨is_good, are_good⟩⟩, ?_, rfl⟩
      rw [List.flatMap_cons, List.append_assoc]
    · rintro ⟨⟨length, are_good⟩, rfl, rfl⟩
      obtain ⟨a, rest, rfl⟩ := List.exists_cons_of_length_eq_add_one length
      obtain ⟨is_good, are_good⟩ := List.forall_mem_cons.mp are_good
      refine ⟨a, _, is_good, ?_, rest, left, ⟨Nat.succ.inj length, are_good⟩, rfl, rfl, rfl, rfl⟩
      rw [List.flatMap_cons, List.append_assoc]

/-- `n` rounds that push what they read into the state. -/
def each (r : Reader ε σ α) (push : σ → α → σ) : Nat → Reader ε σ Unit
  | 0 => pure ()
  | n + 1 => do
    let a ← r
    update fun state => push state a
    each r push n

theorem Reads.each_eq_ok (reads : Reads r good encode) {push : σ → α → σ} {n : Nat}
    {bytes left : List UInt8} {state state' : σ} {u : Unit} :
    each r push n (bytes, state) = .ok u (left, state') ↔
      ∃ all : List α, (all.length = n ∧ ∀ a ∈ all, good a) ∧
        bytes = all.flatMap encode ++ left ∧ state' = all.foldl push state := by
  induction n generalizing bytes state with
  | zero =>
    simp only [each, pure_eq_ok, Prod.mk.injEq]
    constructor
    · rintro ⟨-, rfl, rfl⟩
      exact ⟨[], by simp⟩
    · rintro ⟨all, ⟨none, -⟩, rfl, rfl⟩
      obtain rfl := List.length_eq_zero_iff.mp none
      simp
  | succ n ih =>
    simp only [each, reads.bind_eq_ok]
    constructor
    · rintro ⟨a, left', is_good, rfl, next⟩
      obtain ⟨_, s, updated, more⟩ := Reader.bind_eq_ok.mp next
      obtain rfl := update_eq_ok.mp updated
      obtain ⟨rest, ⟨rfl, are_good⟩, rfl, rfl⟩ := ih.mp more
      refine ⟨a :: rest, ⟨rfl, List.forall_mem_cons.mpr ⟨is_good, are_good⟩⟩, ?_, rfl⟩
      rw [List.flatMap_cons, List.append_assoc]
    · rintro ⟨all, ⟨length, are_good⟩, rfl, rfl⟩
      obtain ⟨a, rest, rfl⟩ := List.exists_cons_of_length_eq_add_one length
      obtain ⟨is_good, are_good⟩ := List.forall_mem_cons.mp are_good
      refine ⟨a, rest.flatMap encode ++ left, is_good, ?_, Reader.bind_eq_ok.mpr ?_⟩
      · rw [List.flatMap_cons, List.append_assoc]
      · exact ⟨(), _, update_eq_ok.mpr rfl,
          ih.mpr ⟨rest, ⟨Nat.succ.inj length, are_good⟩, rfl, rfl⟩⟩

theorem Reads.each_bind (reads : Reads r good encode) {push : σ → α → σ} {n : Nat}
    {f : Unit → Reader ε σ β} {b : β} {bytes : List UInt8} {state : σ} :
    (each r push n >>= f) (bytes, state) = .ok b t ↔
      ∃ (all : List α) (left : List UInt8), (all.length = n ∧ ∀ a ∈ all, good a) ∧
        bytes = all.flatMap encode ++ left ∧ f () (left, all.foldl push state) = .ok b t := by
  rw [Reader.bind_eq_ok]
  constructor
  · rintro ⟨_, ⟨left, state'⟩, done, next⟩
    obtain ⟨all, are_good, encoded, rfl⟩ := reads.each_eq_ok.mp done
    exact ⟨all, left, are_good, encoded, next⟩
  · rintro ⟨all, left, are_good, encoded, next⟩
    exact ⟨(), _, reads.each_eq_ok.mpr ⟨all, are_good, encoded, rfl⟩, next⟩

end Reader

end NewFramework.Lib
