import Mathlib.Data.BitVec
import Mathlib.SetTheory.Cardinal.Finite

/-!
# Mixing without loss

A function of bit strings that is built from a few steps, none of which loses anything:
`x ^= x >> s`, the product with a number that has an inverse, and a part of a state that is changed
with the help of the other.

`Apart block g` are two strings of one length that agree outside of the block `g`.  A function that
goes from block to block and loses nothing in any of them, `Mixes`, tells such strings apart; and
where a block has as many contents as there are values, it takes every value by what that block
holds.
-/

namespace NewFramework.Lib
open Function

section Steps

variable {w : Nat}

/-- From the highest bit down, each bit is the given one and one that is known. -/
theorem xorShift_injective {s : Nat} (pos : 0 < s) :
    Injective fun x : BitVec w => x ^^^ (x >>> s) := by
  intro x y same
  have above (n : Nat) : ∀ i, w ≤ i + n → x.getLsbD i = y.getLsbD i := by
    induction n with
    | zero =>
      intro i outside
      rw [BitVec.getLsbD_of_ge x i outside, BitVec.getLsbD_of_ge y i outside]
    | succ n ih =>
      intro i reach
      have known : x.getLsbD (s + i) = y.getLsbD (s + i) := ih (s + i) (by omega)
      have bit := congrArg (BitVec.getLsbD · i) same
      simpa only [BitVec.getLsbD_xor, BitVec.getLsbD_ushiftRight, known, Bool.xor_left_inj]
        using bit
  exact BitVec.eq_of_getLsbD_eq fun i _ => above w i (Nat.le_add_left w i)

theorem mul_injective {m inverse : BitVec w} (unit : m * inverse = 1#w) :
    Injective fun x : BitVec w => x * m := by
  intro x y same
  have undone := congrArg (· * inverse) same
  simpa only [BitVec.mul_assoc, unit, BitVec.mul_one] using undone

end Steps

section Pairs

variable {α β : Type*}

theorem changeFst_injective {f : α → β → α} (mixes : ∀ b, Injective fun a => f a b) :
    Injective fun p : α × β => (f p.1 p.2, p.2) := by
  rintro ⟨a, b⟩ ⟨a', b'⟩ same
  obtain ⟨first, rfl⟩ := Prod.mk.inj same
  exact congrArg (·, b) (mixes b first)

theorem changeSnd_injective {f : β → α → β} (mixes : ∀ a, Injective fun b => f b a) :
    Injective fun p : α × β => (p.1, f p.2 p.1) := by
  rintro ⟨a, b⟩ ⟨a', b'⟩ same
  obtain ⟨rfl, second⟩ := Prod.mk.inj same
  exact congrArg (a, ·) (mixes a second)

end Pairs

section Blocks

variable {α β : Type*} {block g : Nat} {xs ys : List α}

/-- They agree outside of one block. -/
structure Apart (block g : Nat) (xs ys : List α) : Prop where
  length : xs.length = ys.length
  outside : ∀ i, i / block ≠ g → xs[i]? = ys[i]?

/-- The block holds this. -/
def withBlock (block g : Nat) (xs : List α) (contents : Fin block → α) : List α :=
  xs.take (block * g) ++ List.ofFn contents ++ xs.drop (block * (g + 1))

theorem withBlock_injective : Injective (withBlock block g xs) := by
  intro contents contents' same
  exact List.ofFn_injective (List.append_cancel_left (List.append_cancel_right same))

section Behind

variable {b c rest others : List α} (positive : 0 < block) (left : b.length = block)
  (right : c.length = block)
include positive left right

theorem Apart.behind (apart : Apart block g (b ++ rest) (c ++ others)) {i : Nat}
    (other : i / block + 1 ≠ g) : rest[i]? = others[i]? := by
  have agree := apart.outside (block + i) (by rwa [Nat.add_div_left i positive])
  rwa [← left, List.getElem?_append_right (Nat.le_add_right _ _), left, ← right,
    List.getElem?_append_right (Nat.le_add_right _ _), Nat.add_sub_cancel_left] at agree

theorem Apart.rest_eq (apart : Apart block 0 (b ++ rest) (c ++ others)) : rest = others :=
  List.ext_getElem? fun _ => apart.behind positive left right (Nat.succ_ne_zero _)

theorem Apart.later (apart : Apart block (g + 1) (b ++ rest) (c ++ others)) :
    b = c ∧ Apart block g rest others := by
  have total := apart.length
  rw [List.length_append, List.length_append, left, right] at total
  refine ⟨List.ext_getElem? fun i => ?_, Nat.add_left_cancel total, fun i other => ?_⟩
  · by_cases inside : i < block
    · have agree := apart.outside i (by
        rw [Nat.div_eq_of_lt inside]
        exact (Nat.succ_ne_zero g).symm)
      rwa [List.getElem?_append_left (by omega), List.getElem?_append_left (by omega)] at agree
    · rw [List.getElem?_eq_none (by omega), List.getElem?_eq_none (by omega)]
  · exact apart.behind positive left right fun eq => other (Nat.succ.inj eq)

end Behind

variable (complete : block * (g + 1) ≤ xs.length)
include complete

theorem take_length : (xs.take (block * g)).length = block * g := by
  rw [List.length_take]
  have before : block * g ≤ block * (g + 1) := Nat.mul_le_mul_left block g.le_succ
  omega

theorem apart_withBlock (contents : Fin block → α) :
    Apart block g xs (withBlock block g xs contents) := by
  have before := take_length complete
  have upTo : block * (g + 1) = block * g + block := Nat.mul_succ block g
  constructor
  · rw [withBlock, List.length_append, List.length_append, before, List.length_ofFn,
      List.length_drop]
    omega
  · intro i other
    rw [withBlock]
    by_cases below : i < block * g
    · rw [List.append_assoc, List.getElem?_append_left (by omega), List.getElem?_take_of_lt below]
    · have behind : block * (g + 1) ≤ i := by
        by_contra inside
        have lower : g * block ≤ i := Nat.mul_comm block g ▸ Nat.le_of_not_lt below
        have upper : i < (g + 1) * block := Nat.mul_comm block (g + 1) ▸ Nat.lt_of_not_le inside
        exact other (Nat.div_eq_of_lt_le lower upper)
      have length : (xs.take (block * g) ++ List.ofFn contents).length = block * (g + 1) := by
        rw [List.length_append, before, List.length_ofFn, upTo]
      rw [List.getElem?_append_right (by omega), length, List.getElem?_drop,
        Nat.add_sub_cancel' behind]

/-- As many contents as values, and no two of them with the same. -/
theorem exists_withBlock [Finite α] [Finite β] {f : List α → β}
    (card : Nat.card β = Nat.card α ^ block)
    (tells : ∀ xs ys, Apart block g xs ys → f xs = f ys → xs = ys) (y : β) :
    ∃ contents, f (withBlock block g xs contents) = y := by
  have injective : Injective fun contents => f (withBlock block g xs contents) := by
    intro contents contents' same
    have left := apart_withBlock complete contents
    have right := apart_withBlock complete contents'
    have apart : Apart block g (withBlock block g xs contents) (withBlock block g xs contents') :=
      ⟨left.length.symm.trans right.length, fun i other =>
        (left.outside i other).symm.trans (right.outside i other)⟩
    exact withBlock_injective (tells _ _ apart same)
  have many : Nat.card (Fin block → α) = Nat.card β := by
    rw [card, Nat.card_fun, Nat.card_fin]
  exact ((Nat.bijective_iff_injective_and_card _).mpr ⟨injective, many⟩).surjective y

end Blocks

section Mixes

variable {α σ : Type*} {block : Nat} {step run : σ → List α → σ}

/-- `run` takes `block` elements after the other with `step`, and then fewer; in none of these are
two states or two contents made one. -/
structure Mixes (block : Nat) (step run : σ → List α → σ) : Prop where
  positive : 0 < block
  unfolds : ∀ s b rest, b.length = block → run s (b ++ rest) = run (step s b) rest
  state : ∀ b, b.length = block → Injective fun s => step s b
  contents : ∀ s b b', b.length = block → b'.length = block → step s b = step s b' → b = b'
  restState : ∀ rest, rest.length < block → Injective fun s => run s rest
  rest : ∀ s xs ys, xs.length < block → xs.length = ys.length → run s xs = run s ys → xs = ys

/-- The length decreases by a block. -/
theorem blocks_induction {P : List α → Prop} (positive : 0 < block)
    (short : ∀ xs, xs.length < block → P xs)
    (long : ∀ b rest, b.length = block → P rest → P (b ++ rest)) (xs : List α) : P xs := by
  by_cases enough : xs.length < block
  · exact short xs enough
  · have first : (xs.take block).length = block := by
      rw [List.length_take]
      omega
    have smaller : (xs.drop block).length < xs.length := by
      rw [List.length_drop]
      omega
    rw [← List.take_append_drop block xs]
    exact long _ _ first (blocks_induction positive short long (xs.drop block))
termination_by xs.length

namespace Mixes

variable (mixes : Mixes block step run)
include mixes

theorem injective (xs : List α) : Injective fun s => run s xs := by
  induction xs using blocks_induction mixes.positive with
  | short xs fewer => exact mixes.restState xs fewer
  | long b rest length ih =>
    intro s t same
    dsimp only at same
    rw [mixes.unfolds s b rest length, mixes.unfolds t b rest length] at same
    exact mixes.state b length (ih same)

/-- The block in which they may differ is the first one, or the states are still the same. -/
theorem tells {g : Nat} {xs ys : List α} {s : σ} (apart : Apart block g xs ys)
    (same : run s xs = run s ys) : xs = ys := by
  have positive := mixes.positive
  induction xs using blocks_induction positive generalizing s g ys with
  | short xs fewer => exact mixes.rest s xs ys fewer apart.length same
  | long b rest length ih =>
    have total := apart.length
    rw [List.length_append, length] at total
    obtain ⟨c, others, rfl, clength⟩ : ∃ c others, ys = c ++ others ∧ c.length = block :=
      ⟨ys.take block, ys.drop block, (List.take_append_drop block ys).symm, by
        rw [List.length_take]
        omega⟩
    rw [mixes.unfolds s b rest length, mixes.unfolds s c others clength] at same
    cases g with
    | zero =>
      obtain rfl := apart.rest_eq positive length clength
      rw [mixes.contents s b c length clength (mixes.injective rest same)]
    | succ g =>
      obtain ⟨rfl, later⟩ := apart.later positive length clength
      rw [ih later same]

end Mixes

end Mixes

end NewFramework.Lib
