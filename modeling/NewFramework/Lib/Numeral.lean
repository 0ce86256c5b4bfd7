import Mathlib.Data.Nat.Digits.Lemmas

/-!
# Numerals

The canonical numeral of a number in a base, its digits as numbers and the most significant first.
It is written by taking the last digit again and again, it has no leading zero, and the value of its
digits is the number.
-/

namespace NewFramework.Lib

/-- The digits of `n`; those of 0 are a single 0. -/
def numeral (base n : Nat) : List Nat := if n = 0 then [0] else (Nat.digits base n).reverse

/-- The value of digits. -/
def numeralValue (base : Nat) (digits : List Nat) : Nat :=
  digits.foldl (fun value digit => value * base + digit) 0

/-- The value of a text whose characters are digits. -/
def parseNumeral {α : Type*} (base : Nat) (digit : α → Option Nat) (text : List α) : Option Nat :=
  (text.mapM digit).map (numeralValue base)

variable {base n : Nat}

theorem numeral_of_lt (small : n < base) : numeral base n = [n] := by
  unfold numeral
  by_cases zero : n = 0
  · rw [if_pos zero, zero]
  · rw [if_neg zero, Nat.digits_of_lt base n zero small, List.reverse_singleton]

/-- The last digit is the remainder. -/
theorem numeral_of_le (one_lt : 1 < base) (large : base ≤ n) :
    numeral base n = numeral base (n / base) ++ [n % base] := by
  have more : n / base ≠ 0 := (Nat.div_pos large (by omega)).ne'
  unfold numeral
  rw [if_neg (show n ≠ 0 by omega), if_neg more, Nat.digits_def' one_lt (by omega),
    List.reverse_cons]

theorem lt_of_mem_numeral (one_lt : 1 < base) {digit : Nat} (mem : digit ∈ numeral base n) :
    digit < base := by
  unfold numeral at mem
  split at mem
  · rw [List.mem_singleton.mp mem]
    omega
  · exact Nat.digits_lt_base one_lt (List.mem_reverse.mp mem)

theorem numeralValue_append (base : Nat) (digits : List Nat) (last : Nat) :
    numeralValue base (digits ++ [last]) = numeralValue base digits * base + last := by
  unfold numeralValue
  rw [List.foldl_append, List.foldl_cons, List.foldl_nil]

theorem numeralValue_numeral (one_lt : 1 < base) : numeralValue base (numeral base n) = n := by
  induction n using Nat.strong_induction_on with
  | _ n ih =>
    rcases Nat.lt_or_ge n base with small | large
    · rw [numeral_of_lt small]
      exact (Nat.add_comm _ _).trans (by rw [Nat.zero_mul, Nat.add_zero])
    · have less : n / base < n := Nat.div_lt_self (by omega) one_lt
      rw [numeral_of_le one_lt large, numeralValue_append, ih _ less]
      exact Nat.div_add_mod' n base

/-- Only 0 begins with a zero. -/
theorem head?_numeral (one_lt : 1 < base) (pos : 0 < n) : (numeral base n).head? ≠ some 0 := by
  induction n using Nat.strong_induction_on with
  | _ n ih =>
    rcases Nat.lt_or_ge n base with small | large
    · rw [numeral_of_lt small, List.head?_cons]
      intro zero
      have := Option.some.inj zero
      omega
    · have less : n / base < n := Nat.div_lt_self (by omega) one_lt
      have more : 0 < n / base := Nat.div_pos large (by omega)
      rw [numeral_of_le one_lt large]
      cases digits : numeral base (n / base) with
      | nil =>
        have value : numeralValue base (numeral base (n / base)) = n / base :=
          numeralValue_numeral one_lt
        rw [digits] at value
        exact absurd value.symm more.ne'
      | cons first rest =>
        have nonzero := ih _ less more
        rwa [digits] at nonzero

/-- A numeral has as many digits as the number needs. -/
theorem length_numeral_le (one_lt : 1 < base) {k : Nat} (some_digit : 0 < k) (below : n < base ^ k) :
    (numeral base n).length ≤ k := by
  unfold numeral
  split
  · exact some_digit
  · rw [List.length_reverse]
    exact (Nat.digits_length_le_iff one_lt n).mpr below

/-- Reading what was written. -/
theorem parseNumeral_map {α : Type*} {digit : α → Option Nat} {char : Nat → α} (one_lt : 1 < base)
    (reads : ∀ d < base, digit (char d) = some d) (n : Nat) :
    parseNumeral base digit ((numeral base n).map char) = some n := by
  have each : ∀ digits : List Nat, (∀ d ∈ digits, d < base) →
      (digits.map char).mapM digit = some digits := by
    intro digits below
    induction digits with
    | nil => rfl
    | cons d digits ih =>
      have rest := ih fun d mem => below d (List.mem_cons_of_mem _ mem)
      rw [List.map_cons, List.mapM_cons, reads d (below d List.mem_cons_self), rest]
      rfl
  unfold parseNumeral
  rw [each _ fun d mem => lt_of_mem_numeral one_lt mem, Option.map_some,
    numeralValue_numeral one_lt]

end NewFramework.Lib
