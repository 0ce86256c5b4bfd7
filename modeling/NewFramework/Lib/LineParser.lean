import Mathlib.Data.List.Infix
import Mathlib.Data.List.TakeWhile
import Mathlib.Tactic.Common

/-!
# Parsers that read line by line

A line is what stands before the first occurrence of a separator.  A parser looks at one line
after the other: it takes the line and goes on, or stops with a result, or has no whole line and
waits.  `parse_append` says that such a parser does not see where its input was cut: what it makes
of a prefix it makes of the whole input too, and where it waited it goes on from there.
-/

namespace NewFramework.Lib

/-! ## The first occurrence -/

section Search

variable {α : Type*} [DecidableEq α]

/-- `std::search`: where `sep` first begins. -/
def search (sep : List α) : List α → Option Nat
  | [] => if sep = [] then some 0 else none
  | x :: xs => if sep <+: x :: xs then some 0 else (search sep xs).map (· + 1)

theorem search_cons (sep : List α) (x : α) (xs : List α) :
    search sep (x :: xs) = if sep <+: x :: xs then some 0 else (search sep xs).map (· + 1) := rfl

variable {c : α}

/-- `std::find` comes to a first occurrence. -/
theorem takeWhile_ne_append {xs : List α} (free : c ∉ xs) (ys : List α) :
    (xs ++ c :: ys).takeWhile (· ≠ c) = xs := by
  rw [List.takeWhile_append_of_pos fun x mem => by simpa using ne_of_mem_of_not_mem mem free]
  simp

theorem dropWhile_ne_append {xs : List α} (free : c ∉ xs) (ys : List α) :
    (xs ++ c :: ys).dropWhile (· ≠ c) = c :: ys := by
  rw [List.dropWhile_append_of_pos fun x mem => by simpa using ne_of_mem_of_not_mem mem free]
  simp

theorem not_mem_takeWhile_ne (l : List α) : c ∉ l.takeWhile (· ≠ c) := by
  intro mem
  simpa using List.mem_takeWhile_imp mem

theorem dropWhile_ne_cons {l ys : List α} {x : α} (found : l.dropWhile (· ≠ c) = x :: ys) :
    l = l.takeWhile (· ≠ c) ++ c :: ys := by
  have here : x = c := by
    have head := List.head?_dropWhile_not (· ≠ c) l
    rw [found] at head
    simpa using head
  subst here
  rw [← found]
  exact List.takeWhile_append_dropWhile.symm

theorem dropWhile_ne_of_mem {l : List α} (mem : c ∈ l) :
    l.dropWhile (· ≠ c) = c :: (l.dropWhile (· ≠ c)).tail := by
  obtain ⟨xs, ys, rfl, free⟩ := List.eq_append_cons_of_mem mem
  rw [dropWhile_ne_append free, List.tail_cons]

theorem search_le {sep l : List α} {n : Nat} (found : search sep l = some n) :
    n + sep.length ≤ l.length := by
  induction l generalizing n with
  | nil =>
    obtain ⟨rfl, rfl⟩ : sep = [] ∧ 0 = n := by simpa [search] using found
    exact Nat.le_refl _
  | cons x xs ih =>
    rw [search_cons] at found
    split at found
    · next here =>
      obtain rfl := Option.some.inj found
      simpa using here.length_le
    · obtain ⟨m, later, rfl⟩ := Option.map_eq_some_iff.mp found
      have := ih later
      simp only [List.length_cons]
      omega

theorem search_append {sep l : List α} {n : Nat} (found : search sep l = some n) (r : List α) :
    search sep (l ++ r) = some n := by
  induction l generalizing n with
  | nil =>
    obtain ⟨rfl, rfl⟩ : sep = [] ∧ 0 = n := by simpa [search] using found
    cases r <;> simp [search]
  | cons x xs ih =>
    have fits := search_le found
    rw [search_cons] at found
    rw [List.cons_append, search_cons]
    split at found
    · next here =>
      have still : sep <+: x :: (xs ++ r) := here.trans (List.prefix_append (x :: xs) r)
      rw [if_pos still]
      exact found
    · next other =>
      have still : ¬ sep <+: x :: (xs ++ r) := fun here =>
        other (List.prefix_of_prefix_length_le here (List.prefix_append (x :: xs) r) (by omega))
      obtain ⟨m, later, rfl⟩ := Option.map_eq_some_iff.mp found
      rw [if_neg still, ih later]
      rfl

variable {a b : α}

/-- A line without the separator ends where the separator follows it. -/
theorem search_pair (ne : a ≠ b) {line : List α} (free : ¬ [a, b] <:+: line) (rest : List α) :
    search [a, b] (line ++ a :: b :: rest) = some line.length := by
  induction line with
  | nil => simp [search]
  | cons x xs ih =>
    have other : ¬ [a, b] <+: x :: (xs ++ a :: b :: rest) := by
      intro here
      obtain ⟨rfl, next⟩ := List.cons_prefix_cons.mp here
      cases xs with
      | nil => exact ne (List.cons_prefix_cons.mp next).1.symm
      | cons y ys =>
        obtain ⟨rfl, -⟩ := List.cons_prefix_cons.mp next
        exact free ⟨[], ys, rfl⟩
    have later := ih fun inner => free (inner.trans (List.suffix_cons x xs).isInfix)
    rw [List.cons_append, search_cons, if_neg other, later]
    rfl

theorem search_pair_eq_some (ne : a ≠ b) {l : List α} {n : Nat} :
    search [a, b] l = some n ↔
      ∃ line rest, l = line ++ a :: b :: rest ∧ n = line.length ∧ ¬ [a, b] <:+: line := by
  constructor
  · intro found
    induction l generalizing n with
    | nil => simp [search] at found
    | cons x xs ih =>
      rw [search_cons] at found
      split at found
      · next here =>
        obtain rfl := Option.some.inj found
        obtain ⟨rest, eq⟩ := here
        exact ⟨[], rest, eq.symm, rfl, by simp⟩
      · next other =>
        obtain ⟨m, later, rfl⟩ := Option.map_eq_some_iff.mp found
        obtain ⟨line, rest, rfl, rfl, free⟩ := ih later
        refine ⟨x :: line, rest, rfl, rfl, ?_⟩
        intro inner
        rcases List.infix_cons_iff.mp inner with here | inner
        · exact other (here.trans (List.prefix_append (x :: line) _))
        · exact free inner
  · rintro ⟨line, rest, rfl, rfl, free⟩
    exact search_pair ne free rest

end Search

section Pair

variable {α : Type*} {a b : α}

/-- A letter of its own does not make a separator. -/
theorem not_infix_pair {c : α} (other : c ≠ a ∧ c ≠ b) {xs ys : List α} (left : ¬ [a, b] <:+: xs)
    (right : ¬ [a, b] <:+: ys) : ¬ [a, b] <:+: xs ++ c :: ys := by
  intro inner
  induction xs with
  | nil =>
    rcases List.infix_cons_iff.mp inner with here | inner
    · exact other.1 (List.cons_prefix_cons.mp here).1.symm
    · exact right inner
  | cons x xs ih =>
    rcases List.infix_cons_iff.mp inner with here | inner
    · obtain ⟨rfl, next⟩ := List.cons_prefix_cons.mp here
      cases xs with
      | nil => exact other.2 (List.cons_prefix_cons.mp next).1.symm
      | cons y ys =>
        obtain ⟨rfl, -⟩ := List.cons_prefix_cons.mp next
        exact left ⟨[], ys, rfl⟩
    · exact ih (fun deeper => left (deeper.trans (List.suffix_cons x xs).isInfix)) inner

/-- Behind a separator a piece without one does not end in one. -/
theorem eq_nil_of_pair_suffix (ne : a ≠ b) {xs ys : List α} (before : [a, b] <:+ xs)
    (free : ¬ [a, b] <:+: ys) (after : [a, b] <:+ xs ++ ys) : ys = [] := by
  rcases List.eq_nil_or_concat ys with rfl | ⟨zs, z, rfl⟩
  · rfl
  exfalso
  rw [List.concat_eq_append] at free after
  obtain ⟨xs, rfl⟩ := before
  rcases List.eq_nil_or_concat zs with rfl | ⟨zs, y, rfl⟩
  · obtain ⟨pre, eq⟩ := after
    have eq : pre ++ [a] ++ [b] = xs ++ [a] ++ [b] ++ [z] := by simpa using eq
    have eq := (List.append_inj' eq rfl).1
    exact ne (List.cons.inj (List.append_inj' eq rfl).2).1
  · obtain ⟨pre, eq⟩ := after
    have eq : pre ++ [a, b] = xs ++ [a, b] ++ zs ++ [y, z] := by simpa using eq
    have last := (List.append_inj' eq rfl).2
    exact free ⟨zs, [], by simp [last]⟩

end Pair

/-! ## The parser -/

/-- What a parser makes of a line: it takes the line and goes on, or stops; then `taken` says
whether the line is taken. -/
inductive Verdict (σ ρ : Type*) where
  | next (state : σ)
  | stop (result : ρ) (state : σ) (taken : Bool)

/-- Where a parser has come to.  Without a result it waits for more input. -/
@[ext] structure Parsed (σ ρ α : Type*) where
  result : Option ρ
  state : σ
  rest : List α

section Parse

variable {α σ ρ : Type*} [DecidableEq α] {sep : List α} {consume : σ → List α → Verdict σ ρ}

/-- The parser, for at most `fuel` lines. -/
def parseLines (sep : List α) (consume : σ → List α → Verdict σ ρ) :
    Nat → σ → List α → Parsed σ ρ α
  | 0, s, input => ⟨none, s, input⟩
  | fuel + 1, s, input =>
    match search sep input with
    | none => ⟨none, s, input⟩
    | some n =>
      match consume s (input.take n) with
      | .next s' => parseLines sep consume fuel s' (input.drop (n + sep.length))
      | .stop result s' taken =>
        ⟨some result, s', if taken then input.drop (n + sep.length) else input⟩

/-- The parser, for all lines: each takes at least its separator. -/
def parse (sep : List α) (consume : σ → List α → Verdict σ ρ) (s : σ) (input : List α) :
    Parsed σ ρ α :=
  parseLines sep consume (input.length + 1) s input

theorem length_drop_lt (pos : sep ≠ []) {input : List α} {n : Nat}
    (found : search sep input = some n) : (input.drop (n + sep.length)).length < input.length := by
  have fits := search_le found
  have := List.length_pos_iff.mpr pos
  rw [List.length_drop]
  omega

theorem parseLines_fuel (pos : sep ≠ []) {fuel fuel' : Nat} {s : σ} {input : List α}
    (enough : input.length < fuel) (enough' : input.length < fuel') :
    parseLines sep consume fuel s input = parseLines sep consume fuel' s input := by
  induction fuel generalizing fuel' s input with
  | zero => omega
  | succ fuel ih =>
    obtain ⟨fuel', rfl⟩ := Nat.exists_eq_succ_of_ne_zero (Nat.ne_of_gt (Nat.zero_lt_of_lt enough'))
    unfold parseLines
    cases found : search sep input with
    | none => rfl
    | some n =>
      have shorter := length_drop_lt pos found
      dsimp only
      cases consume s (input.take n) with
      | next s' => exact ih (by omega) (by omega)
      | stop => rfl

theorem parse_waits {s : σ} {input : List α} (none_found : search sep input = none) :
    parse sep consume s input = ⟨none, s, input⟩ := by
  rw [parse, parseLines, none_found]

theorem parse_line (pos : sep ≠ []) {s : σ} {input : List α} {n : Nat}
    (found : search sep input = some n) :
    parse sep consume s input =
      match consume s (input.take n) with
      | .next s' => parse sep consume s' (input.drop (n + sep.length))
      | .stop result s' taken =>
        ⟨some result, s', if taken then input.drop (n + sep.length) else input⟩ := by
  rw [parse, parseLines, found]
  dsimp only
  cases consume s (input.take n) with
  | next s' => exact parseLines_fuel pos (length_drop_lt pos found) (Nat.lt_succ_self _)
  | stop => rfl

/-- What a waiting parser has left is no whole line. -/
theorem search_rest (pos : sep ≠ []) {s : σ} {input : List α}
    (waits : (parse sep consume s input).result = none) :
    search sep (parse sep consume s input).rest = none := by
  induction len : input.length using Nat.strong_induction_on generalizing s input with
  | _ len ih =>
    subst len
    cases found : search sep input with
    | none =>
      rw [parse_waits found]
      exact found
    | some n =>
      rw [parse_line pos found] at waits ⊢
      cases verdict : consume s (input.take n) with
      | next s' =>
        rw [verdict] at waits
        exact ih _ (length_drop_lt pos found) waits rfl
      | stop =>
        rw [verdict] at waits
        contradiction

/-- More input changes nothing where the parser has stopped, and it goes on where it waited. -/
theorem parse_append (pos : sep ≠ []) (s : σ) (xs ys : List α) :
    parse sep consume s (xs ++ ys) =
      match parse sep consume s xs with
      | ⟨some result, s', rest⟩ => ⟨some result, s', rest ++ ys⟩
      | ⟨none, s', rest⟩ => parse sep consume s' (rest ++ ys) := by
  induction len : xs.length using Nat.strong_induction_on generalizing s xs with
  | _ len ih =>
    subst len
    cases found : search sep xs with
    | none => rw [parse_waits found]
    | some n =>
      have fits := search_le found
      rw [parse_line pos found, parse_line pos (search_append found ys),
        List.take_append_of_le_length (by omega), List.drop_append_of_le_length (by omega)]
      cases consume s (xs.take n) with
      | next s' => exact ih _ (length_drop_lt pos found) s' _ rfl
      | stop result s' taken => cases taken <;> rfl

/-- What a parser keeps while it goes on, and what holds where it stops. -/
def Verdict.Keeps (Inv : σ → Prop) (Stop : ρ → σ → Prop) : Verdict σ ρ → Prop
  | .next s => Inv s
  | .stop result s _ => Stop result s

/-- The invariant of a parser holds where it waits. -/
def Parsed.Keeps (Inv : σ → Prop) (Stop : ρ → σ → Prop) : Parsed σ ρ α → Prop
  | ⟨none, s, _⟩ => Inv s
  | ⟨some result, s, _⟩ => Stop result s

theorem parse_keeps {Inv : σ → Prop} {Stop : ρ → σ → Prop}
    (keeps : ∀ s line, Inv s → (consume s line).Keeps Inv Stop) {s : σ} (inv : Inv s)
    (input : List α) : (parse sep consume s input).Keeps Inv Stop := by
  have lines (fuel : Nat) {s : σ} (inv : Inv s) (input : List α) :
      (parseLines sep consume fuel s input).Keeps Inv Stop := by
    induction fuel generalizing s input with
    | zero => exact inv
    | succ fuel ih =>
      unfold parseLines
      cases search sep input with
      | none => exact inv
      | some n =>
        have kept := keeps s (input.take n) inv
        dsimp only
        cases verdict : consume s (input.take n) with
        | next s' =>
          rw [verdict] at kept
          exact ih kept _
        | stop =>
          rw [verdict] at kept
          exact kept
  exact lines _ inv input

theorem parse_rest_suffix (s : σ) (input : List α) :
    (parse sep consume s input).rest <:+ input := by
  have lines (fuel : Nat) (s : σ) (input : List α) :
      (parseLines sep consume fuel s input).rest <:+ input := by
    induction fuel generalizing s input with
    | zero => exact List.suffix_rfl
    | succ fuel ih =>
      unfold parseLines
      cases search sep input with
      | none => exact List.suffix_rfl
      | some n =>
        dsimp only
        cases consume s (input.take n) with
        | next s' => exact (ih s' _).trans (List.drop_suffix _ _)
        | stop result s' taken =>
          cases taken with
          | false => exact List.suffix_rfl
          | true => exact List.drop_suffix _ _
  exact lines _ s input

section Pair

variable {a b : α}

/-- A line and the two bytes behind it. -/
theorem parse_pair (ne : a ≠ b) (s : σ) {line : List α} (free : ¬ [a, b] <:+: line)
    (rest : List α) :
    parse [a, b] consume s (line ++ a :: b :: rest) =
      match consume s line with
      | .next s' => parse [a, b] consume s' rest
      | .stop result s' taken =>
        ⟨some result, s', if taken then rest else line ++ a :: b :: rest⟩ := by
  have behind : (line ++ a :: b :: rest).drop (line.length + [a, b].length) = rest := by
    rw [List.drop_length_add_append]
    rfl
  rw [parse_line (List.cons_ne_nil a [b]) (search_pair ne free rest), List.take_left, behind]

/-- A parser that stops has looked at a line. -/
theorem exists_line (ne : a ≠ b) {s : σ} {input : List α}
    (stops : (parse [a, b] consume s input).result ≠ none) :
    ∃ line rest, input = line ++ a :: b :: rest ∧ ¬ [a, b] <:+: line := by
  cases found : search [a, b] input with
  | none =>
    rw [parse_waits found] at stops
    contradiction
  | some n =>
    obtain ⟨line, rest, split, -, free⟩ := (search_pair_eq_some ne).mp found
    exact ⟨line, rest, split, free⟩

end Pair

/-! ## Input in chunks -/

/-- The parser is called after each chunk, until it stops; with the chunks that are left. -/
def parseChunks (sep : List α) (consume : σ → List α → Verdict σ ρ) :
    σ → List α → List (List α) → Parsed σ ρ α × List (List α)
  | s, pending, [] => (⟨none, s, pending⟩, [])
  | s, pending, chunk :: chunks =>
    match parse sep consume s (pending ++ chunk) with
    | ⟨some result, s', rest⟩ => (⟨some result, s', rest⟩, chunks)
    | ⟨none, s', rest⟩ => parseChunks sep consume s' rest chunks

/-- The cuts make no difference: one call on the whole input does the same. -/
theorem parseChunks_eq (pos : sep ≠ []) {s : σ} {pending : List α} {chunks left : List (List α)}
    {p : Parsed σ ρ α} (none_found : search sep pending = none)
    (parsed : parseChunks sep consume s pending chunks = (p, left)) :
    parse sep consume s (pending ++ chunks.flatten) =
      { p with rest := p.rest ++ left.flatten } := by
  induction chunks generalizing s pending with
  | nil =>
    obtain ⟨rfl, rfl⟩ := Prod.mk.inj parsed
    simp [parse_waits none_found]
  | cons chunk chunks ih =>
    rw [List.flatten_cons, ← List.append_assoc, parse_append pos]
    have stuck : _ → search sep (parse sep consume s (pending ++ chunk)).rest = none :=
      search_rest pos
    unfold parseChunks at parsed
    cases called : parse sep consume s (pending ++ chunk) with
    | mk result s' rest =>
      rw [called] at parsed stuck
      cases result with
      | some r =>
        obtain ⟨rfl, rfl⟩ := Prod.mk.inj parsed
        rfl
      | none => exact ih (stuck rfl) parsed

end Parse

/-! ## Two parsers -/

section Map

variable {α σ τ ρ : Type*} [DecidableEq α] {sep : List α}

def Verdict.map (f : σ → τ) : Verdict σ ρ → Verdict τ ρ
  | .next s => .next (f s)
  | .stop result s taken => .stop result (f s) taken

def Parsed.map (f : σ → τ) (p : Parsed σ ρ α) : Parsed τ ρ α := ⟨p.result, f p.state, p.rest⟩

/-- Parsers that agree on every line agree. -/
theorem parse_map {f : σ → τ} {consume : σ → List α → Verdict σ ρ}
    {consume' : τ → List α → Verdict τ ρ}
    (agree : ∀ s line, consume' (f s) line = (consume s line).map f) (s : σ) (input : List α) :
    parse sep consume' (f s) input = (parse sep consume s input).map f := by
  have lines (fuel : Nat) (s : σ) (input : List α) :
      parseLines sep consume' fuel (f s) input = (parseLines sep consume fuel s input).map f := by
    induction fuel generalizing s input with
    | zero => rfl
    | succ fuel ih =>
      unfold parseLines
      cases search sep input with
      | none => rfl
      | some n =>
        dsimp only
        rw [agree]
        cases consume s (input.take n) with
        | next s' => exact ih s' _
        | stop => rfl
  exact lines _ s input

end Map

end NewFramework.Lib
