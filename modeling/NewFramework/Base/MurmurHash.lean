import NewFramework.Lib.ByteOrder
import NewFramework.Lib.Mixing

/-!
# `MurmurHash2` and `MurmurHash64B`

The hashes of `muduo/base/murmurhash.h`, of the bytes of a key, in the unsigned arithmetic of 32
bits.  A key has a length that `uint32_t len`, or `int len` of `MurmurHash64B`, can have.  A word of
it is read in the byte order of the machine.

Neither loses anything on the way: keys of one length that differ within one aligned block (of 4
bytes, of 8 for `MurmurHash64B`) have different hashes, and what a complete block holds reaches
every hash.
-/

namespace NewFramework.Base.MurmurHash
open NewFramework.Lib Function

/-- `m` and `r`, "mixing constants generated offline" -/
def m : BitVec 32 := 0x5bd1e995#32
def r : Nat := 24

/-- One word is mixed into the hash: `k *= m; k ^= k >> r; k *= m; h *= m; h ^= k`. -/
def mix (h k : BitVec 32) : BitVec 32 :=
  let k := k * m
  let k := k ^^^ (k >>> r)
  let k := k * m
  h * m ^^^ k

def byte (b : UInt8) : BitVec 32 := b.toBitVec.setWidth 32

/-- `switch(len)`, where the cases fall through. -/
def mixTail (h : BitVec 32) : List UInt8 → BitVec 32
  | [d0, d1, d2] => (h ^^^ byte d2 <<< 16 ^^^ byte d1 <<< 8 ^^^ byte d0) * m
  | [d0, d1] => (h ^^^ byte d1 <<< 8 ^^^ byte d0) * m
  | [d0] => (h ^^^ byte d0) * m
  | _ => h

section Words

variable (order : ByteOrder)

/-- `*(unsigned int *)data` -/
def word (d0 d1 d2 d3 : UInt8) : BitVec 32 := .ofNat 32 (order.value [d0, d1, d2, d3])

/-- `while(len >= 4)`, and the bytes that are left. -/
def mixWords (h : BitVec 32) : List UInt8 → BitVec 32 × List UInt8
  | d0 :: d1 :: d2 :: d3 :: data => mixWords (mix h (word order d0 d1 d2 d3)) data
  | data => (h, data)

/-- "a few final mixes of the hash" -/
def finalMix (h : BitVec 32) : BitVec 32 :=
  let h := h ^^^ (h >>> 13)
  let h := h * m
  h ^^^ (h >>> 15)

def murmurHash2 (key : List UInt8) (seed : BitVec 32) : BitVec 32 :=
  let h := seed ^^^ .ofNat 32 key.length
  let (h, data) := mixWords order h key
  finalMix (mixTail h data)

/-- `while(len >= 8)`, with `h1` and `h2` in turn. -/
def mixPairs (h1 h2 : BitVec 32) : List UInt8 → BitVec 32 × BitVec 32 × List UInt8
  | d0 :: d1 :: d2 :: d3 :: e0 :: e1 :: e2 :: e3 :: data =>
    mixPairs (mix h1 (word order d0 d1 d2 d3)) (mix h2 (word order e0 e1 e2 e3)) data
  | data => (h1, h2, data)

/-- `if(len >= 4)` -/
def mixLast (h1 : BitVec 32) : List UInt8 → BitVec 32 × List UInt8
  | d0 :: d1 :: d2 :: d3 :: data => (mix h1 (word order d0 d1 d2 d3), data)
  | data => (h1, data)

/-- One of the two is mixed into the other. -/
def cross (s : Nat) (h h' : BitVec 32) : BitVec 32 := (h ^^^ (h' >>> s)) * m

def finalCross (h1 h2 : BitVec 32) : BitVec 32 × BitVec 32 :=
  let h1 := cross 18 h1 h2
  let h2 := cross 22 h2 h1
  let h1 := cross 17 h1 h2
  let h2 := cross 19 h2 h1
  (h1, h2)

def murmurHash64B (key : List UInt8) (seed : BitVec 32) : BitVec 64 :=
  let h1 := seed ^^^ .ofNat 32 key.length
  let h2 := 0#32
  let (h1, h2, data) := mixPairs order h1 h2 key
  let (h1, data) := mixLast order h1 data
  let h2 := mixTail h2 data
  let (h1, h2) := finalCross h1 h2
  let h := h1.setWidth 64
  (h <<< 32) ||| h2.setWidth 64

end Words

/-! ## Nothing is lost -/

theorem m_unit : m * 0xe59b19bd#32 = 1#32 := by decide

theorem mix_state (k : BitVec 32) : Injective fun h => mix h k := by
  intro h h' same
  exact mul_injective m_unit ((BitVec.xor_left_inj _).mp same)

theorem mix_word (h : BitVec 32) : Injective (mix h) := by
  intro k k' same
  have product := mul_injective m_unit ((BitVec.xor_right_inj (h * m)).mp same)
  exact mul_injective m_unit (xorShift_injective (by decide) product)

theorem finalMix_injective : Injective finalMix := by
  intro h h' same
  have product := xorShift_injective (by decide) same
  exact xorShift_injective (by decide) (mul_injective m_unit product)

theorem cross_injective (s : Nat) (h' : BitVec 32) : Injective fun h => cross s h h' := by
  intro h k same
  exact (BitVec.xor_left_inj _).mp (mul_injective m_unit same)

theorem finalCross_injective : Injective fun p : BitVec 32 × BitVec 32 => finalCross p.1 p.2 := by
  have first := changeFst_injective (cross_injective 18)
  have second := changeSnd_injective (cross_injective 22)
  have third := changeFst_injective (cross_injective 17)
  have fourth := changeSnd_injective (cross_injective 19)
  exact fourth.comp (third.comp (second.comp first))

section Tail

variable {d0 d1 d2 e0 e1 e2 : UInt8}

theorem byte_bit (b : UInt8) (i : Nat) : (byte b).getLsbD i = b.toBitVec.getLsbD i := by
  rw [byte, BitVec.getLsbD_setWidth]
  by_cases inside : i < 32
  · simp [inside]
  · rw [BitVec.getLsbD_of_ge b.toBitVec i (by omega)]
    simp

theorem high_bit (b : UInt8) (i : Nat) : b.toBitVec.getLsbD (8 + i) = false :=
  BitVec.getLsbD_of_ge b.toBitVec (8 + i) (Nat.le_add_right 8 i)

theorem eq_of_bits {b c : UInt8} (bits : ∀ i < 8, b.toBitVec.getLsbD i = c.toBitVec.getLsbD i) :
    b = c :=
  UInt8.toBitVec_inj.mp (BitVec.eq_of_getLsbD_eq bits)

/-- What the cases of `switch` mix into the hash; a byte that is not there counts as 0. -/
def tailWord (d0 d1 d2 : UInt8) : BitVec 32 := byte d2 <<< 16 ^^^ byte d1 <<< 8 ^^^ byte d0

theorem tailWord_injective (same : tailWord d0 d1 d2 = tailWord e0 e1 e2) :
    d0 = e0 ∧ d1 = e1 ∧ d2 = e2 := by
  have bit (i : Nat) := congrArg (BitVec.getLsbD · i) same
  simp only [tailWord, BitVec.getLsbD_xor, BitVec.getLsbD_shiftLeft, byte_bit] at bit
  refine ⟨eq_of_bits fun i inside => ?_, eq_of_bits fun i inside => ?_,
    eq_of_bits fun i inside => ?_⟩
  · simpa [inside, show i < 16 by omega] using bit i
  · simpa [show 8 + i < 16 by omega, show 8 + i < 32 by omega, high_bit] using bit (8 + i)
  · have second : 16 + i - 8 = 8 + i := by omega
    have first : 16 + i = 8 + (8 + i) := by omega
    have third := bit (16 + i)
    rw [second, Nat.add_sub_cancel_left, first, high_bit, high_bit, high_bit, high_bit] at third
    simpa [show 8 + (8 + i) < 32 by omega, show ¬ 8 + (8 + i) < 16 by omega] using third

/-- The bytes of a tail, the missing ones as 0. -/
def tailOf (data : List UInt8) : BitVec 32 :=
  tailWord (data.getD 0 0) (data.getD 1 0) (data.getD 2 0)

theorem mixTail_eq (h : BitVec 32) {data : List UInt8} (fewer : data.length < 4) :
    mixTail h data = if data = [] then h else (h ^^^ tailOf data) * m := by
  match data, fewer with
  | [], _ => rfl
  | [d0], _ => simp [mixTail, tailOf, tailWord, byte]
  | [d0, d1], _ => simp [mixTail, tailOf, tailWord, byte, BitVec.xor_assoc]
  | [d0, d1, d2], _ => simp [mixTail, tailOf, tailWord, BitVec.xor_assoc]

theorem mixTail_state {data : List UInt8} (fewer : data.length < 4) :
    Injective fun h => mixTail h data := by
  intro h h' same
  simp only [mixTail_eq _ fewer] at same
  split at same
  · exact same
  · exact (BitVec.xor_left_inj _).mp (mul_injective m_unit same)

theorem mixTail_data (h : BitVec 32) {data data' : List UInt8} (fewer : data.length < 4)
    (length : data.length = data'.length) (same : mixTail h data = mixTail h data') :
    data = data' := by
  rw [mixTail_eq h fewer, mixTail_eq h (length ▸ fewer)] at same
  by_cases empty : data = []
  · subst empty
    exact (List.length_eq_zero_iff.mp length.symm).symm
  · have full : data' ≠ [] := by
      rintro rfl
      exact empty (List.length_eq_zero_iff.mp length)
    rw [if_neg empty, if_neg full] at same
    have words := (BitVec.xor_right_inj h).mp (mul_injective m_unit same)
    obtain ⟨first, second, third⟩ := tailWord_injective words
    apply List.ext_getElem length
    intro i inside inside'
    have small : i < 3 := by omega
    match i, small with
    | 0, _ => simpa [inside, inside'] using first
    | 1, _ => simpa [inside, inside'] using second
    | 2, _ => simpa [inside, inside'] using third

end Tail

/-! ## Blocks -/

section Blocks

variable (order : ByteOrder)

/-- A word of four bytes. -/
def wordOf (data : List UInt8) : BitVec 32 := .ofNat 32 (order.value data)

theorem value_lt_word {data : List UInt8} (four : data.length = 4) :
    order.value data < 2 ^ 32 := by
  have bound := order.value_lt data
  rwa [four] at bound

theorem wordOf_injective {data data' : List UInt8} (four : data.length = 4)
    (four' : data'.length = 4) (same : wordOf order data = wordOf order data') : data = data' := by
  have values := congrArg BitVec.toNat same
  rw [wordOf, wordOf, BitVec.toNat_ofNat, BitVec.toNat_ofNat,
    Nat.mod_eq_of_lt (value_lt_word order four), Nat.mod_eq_of_lt (value_lt_word order four')]
    at values
  exact order.value_injective (four.trans four'.symm) values

theorem exists_four {data : List UInt8} (four : data.length = 4) :
    ∃ d0 d1 d2 d3, data = [d0, d1, d2, d3] := by
  match data, four with
  | [d0, d1, d2, d3], _ => exact ⟨d0, d1, d2, d3, rfl⟩

/-- The loop and the `switch` of `MurmurHash2`. -/
def hashWords (h : BitVec 32) (data : List UInt8) : BitVec 32 :=
  mixTail (mixWords order h data).1 (mixWords order h data).2

theorem mixWords_short (h : BitVec 32) {data : List UInt8} (fewer : data.length < 4) :
    mixWords order h data = (h, data) := by
  match data, fewer with
  | [], _ | [_], _ | [_, _], _ | [_, _, _], _ => rfl

theorem hashWords_mixes :
    Mixes 4 (fun h data => mix h (wordOf order data)) (hashWords order) where
  positive := by decide
  unfolds h b rest four := by
    obtain ⟨d0, d1, d2, d3, rfl⟩ := exists_four four
    rfl
  state b _ := mix_state (wordOf order b)
  contents h b b' four four' same := wordOf_injective order four four' (mix_word h same)
  restState rest fewer h h' same := by
    simp only [hashWords, mixWords_short order _ fewer] at same
    exact mixTail_state fewer same
  rest h data data' fewer length same := by
    rw [hashWords, hashWords, mixWords_short order h fewer,
      mixWords_short order h (length ▸ fewer)] at same
    exact mixTail_data h fewer length same

/-- The loop, the word after it and the `switch` of `MurmurHash64B`. -/
def hashPairs (h : BitVec 32 × BitVec 32) (data : List UInt8) : BitVec 32 × BitVec 32 :=
  let (h1, h2, data) := mixPairs order h.1 h.2 data
  let (h1, data) := mixLast order h1 data
  (h1, mixTail h2 data)

theorem hashPairs_few (h : BitVec 32 × BitVec 32) {data : List UInt8} (fewer : data.length < 4) :
    hashPairs order h data = (h.1, mixTail h.2 data) := by
  match data, fewer with
  | [], _ | [_], _ | [_, _], _ | [_, _, _], _ => rfl

theorem hashPairs_four (h : BitVec 32 × BitVec 32) {four data : List UInt8}
    (length : four.length = 4) (fewer : data.length < 4) :
    hashPairs order h (four ++ data) = (mix h.1 (wordOf order four), mixTail h.2 data) := by
  obtain ⟨d0, d1, d2, d3, rfl⟩ := exists_four length
  match data, fewer with
  | [], _ | [_], _ | [_, _], _ | [_, _, _], _ => rfl

/-- One word may come before the tail. -/
theorem few_or_four {data : List UInt8} (fewer : data.length < 8) :
    data.length < 4 ∨ ∃ four rest, data = four ++ rest ∧ four.length = 4 ∧ rest.length < 4 := by
  by_cases few : data.length < 4
  · exact .inl few
  · refine .inr ⟨data.take 4, data.drop 4, (List.take_append_drop 4 data).symm, ?_, ?_⟩
    · rw [List.length_take]
      omega
    · rw [List.length_drop]
      omega

/-- Both halves of eight bytes. -/
def mixBoth (h : BitVec 32 × BitVec 32) (data : List UInt8) : BitVec 32 × BitVec 32 :=
  (mix h.1 (wordOf order (data.take 4)), mix h.2 (wordOf order (data.drop 4)))

theorem mixBoth_contents (h : BitVec 32 × BitVec 32) {data data' : List UInt8}
    (eight : data.length = 8) (eight' : data'.length = 8)
    (same : mixBoth order h data = mixBoth order h data') : data = data' := by
  have takes {bytes : List UInt8} (eight : bytes.length = 8) :
      (bytes.take 4).length = 4 ∧ (bytes.drop 4).length = 4 := by
    rw [List.length_take, List.length_drop, eight]
    decide
  obtain ⟨first, second⟩ := Prod.mk.inj same
  have front := wordOf_injective order (takes eight).1 (takes eight').1 (mix_word _ first)
  have back := wordOf_injective order (takes eight).2 (takes eight').2 (mix_word _ second)
  rw [← List.take_append_drop 4 data, front, back, List.take_append_drop]

theorem hashPairs_mixes : Mixes 8 (mixBoth order) (hashPairs order) where
  positive := by decide
  unfolds h b rest eight := by
    match b, eight with
    | [_, _, _, _, _, _, _, _], _ => rfl
  state b _ := (mix_state _).prodMap (mix_state _)
  contents h b b' eight eight' same := mixBoth_contents order h eight eight' same
  restState rest fewer h h' same := by
    rcases few_or_four fewer with few | ⟨four, rest, rfl, length, few⟩
    · simp only [hashPairs_few order _ few] at same
      obtain ⟨first, second⟩ := Prod.mk.inj same
      exact Prod.ext first (mixTail_state few second)
    · simp only [hashPairs_four order _ length few] at same
      obtain ⟨first, second⟩ := Prod.mk.inj same
      exact Prod.ext (mix_state _ first) (mixTail_state few second)
  rest h data data' fewer lengths same := by
    rcases few_or_four fewer with few | ⟨four, rest, rfl, length, few⟩
    · rw [hashPairs_few order h few, hashPairs_few order h (lengths ▸ few)] at same
      exact mixTail_data h.2 few lengths (Prod.mk.inj same).2
    · rcases few_or_four (lengths ▸ fewer) with few' | ⟨four', rest', rfl, length', few'⟩
      · rw [List.length_append] at lengths
        omega
      · rw [hashPairs_four order h length few, hashPairs_four order h length' few'] at same
        rw [List.length_append, List.length_append, length, length'] at lengths
        obtain ⟨first, second⟩ := Prod.mk.inj same
        rw [wordOf_injective order length length' (mix_word h.1 first),
          mixTail_data h.2 few (Nat.add_left_cancel lengths) second]

end Blocks

/-! ## The hashes -/

/-- No two seeds have the same hash of a key, and no two keys of one length that differ within one
aligned block; and a complete block can be filled so that the hash is any given one. -/
structure Distinguishes {w : Nat} (block : Nat) (hash : List UInt8 → BitVec 32 → BitVec w) :
    Prop where
  seeds : ∀ key, Injective (hash key)
  keys : ∀ seed g key key', Apart block g key key' → hash key seed = hash key' seed → key = key'
  reaches : ∀ seed g key, block * (g + 1) ≤ key.length →
    ∀ value, ∃ contents, hash (withBlock block g key contents) seed = value

theorem card_bitVec (w : Nat) : Nat.card (BitVec w) = 2 ^ w := by
  rw [Nat.card_congr BitVec.equivFin.toEquiv, Nat.card_fin]

theorem finite_bitVec (w : Nat) : Finite (BitVec w) := .of_equiv _ BitVec.equivFin.toEquiv.symm

def byteBits : UInt8 ≃ BitVec 8 := ⟨UInt8.toBitVec, UInt8.ofBitVec, fun _ => rfl, fun _ => rfl⟩

theorem card_bytes : Nat.card UInt8 = 256 := by
  rw [Nat.card_congr byteBits, card_bitVec]
  rfl

theorem finite_bytes : Finite UInt8 :=
  have := finite_bitVec 8
  .of_equiv (BitVec 8) byteBits.symm

theorem distinguishes_of_mixes {σ : Type} {block w : Nat} {step run : σ → List UInt8 → σ}
    (mixes : Mixes block step run) {start : Nat → BitVec 32 → σ} {final : σ → BitVec w}
    (starts : ∀ len, Injective (start len)) (finals : Injective final)
    (wide : 2 ^ w = 256 ^ block) {hash : List UInt8 → BitVec 32 → BitVec w}
    (eq : ∀ key seed, hash key seed = final (run (start key.length seed) key)) :
    Distinguishes block hash := by
  have keys (seed : BitVec 32) (g : Nat) (key key' : List UInt8) (apart : Apart block g key key')
      (same : hash key seed = hash key' seed) : key = key' := by
    rw [eq, eq, ← apart.length] at same
    exact mixes.tells apart (finals same)
  refine ⟨fun key seed seed' same => ?_, keys, fun seed g key complete value => ?_⟩
  · rw [eq, eq] at same
    exact starts _ (mixes.injective key (finals same))
  · have bytes := finite_bytes
    have words := finite_bitVec w
    have card : Nat.card (BitVec w) = Nat.card UInt8 ^ block := by
      rw [card_bitVec, card_bytes, wide]
    exact exists_withBlock complete card (keys seed g) value

/-- `h = h1; h = (h << 32) | h2` -/
def join (p : BitVec 32 × BitVec 32) : BitVec 64 := p.1.setWidth 64 <<< 32 ||| p.2.setWidth 64

theorem join_injective : Injective join := by
  rintro ⟨h1, h2⟩ ⟨k1, k2⟩ same
  have bit (i : Nat) := congrArg (BitVec.getLsbD · i) same
  simp only [join, BitVec.getLsbD_or, BitVec.getLsbD_shiftLeft, BitVec.getLsbD_setWidth] at bit
  refine Prod.ext (BitVec.eq_of_getLsbD_eq fun i inside => ?_)
    (BitVec.eq_of_getLsbD_eq fun i inside => ?_)
  · have high (h : BitVec 32) : h.getLsbD (32 + i) = false :=
      BitVec.getLsbD_of_ge h (32 + i) (Nat.le_add_right 32 i)
    simpa [high, show 32 + i < 64 by omega, show i < 64 by omega] using bit (32 + i)
  · simpa [inside, show i < 64 by omega] using bit i

section Hashes

variable (order : ByteOrder) (key : List UInt8) (seed : BitVec 32)

theorem murmurHash2_eq :
    murmurHash2 order key seed = finalMix (hashWords order (seed ^^^ .ofNat 32 key.length) key) :=
  rfl

theorem murmurHash64B_eq :
    murmurHash64B order key seed =
      let h := hashPairs order (seed ^^^ .ofNat 32 key.length, 0#32) key
      join (finalCross h.1 h.2) :=
  rfl

end Hashes

/-- On a machine of either byte order, keys of one length, which is one that `len` can have, that
differ in one aligned block of four bytes (`MurmurHash2`) or eight (`MurmurHash64B`) have different
hashes, as have two seeds; and every hash is that of a key with other contents in a complete
block. -/
theorem hashes_distinguish (order : ByteOrder) :
    Distinguishes 4 (murmurHash2 order) ∧ Distinguishes 8 (murmurHash64B order) := by
  have seeded (len : Nat) : Injective fun seed : BitVec 32 => seed ^^^ .ofNat 32 len :=
    fun _ _ same => (BitVec.xor_left_inj _).mp same
  constructor
  · exact distinguishes_of_mixes (hashWords_mixes order) seeded finalMix_injective (by decide)
      (murmurHash2_eq order)
  · have paired (len : Nat) : Injective fun seed : BitVec 32 => (seed ^^^ .ofNat 32 len, 0#32) :=
      fun _ _ same => seeded len (Prod.mk.inj same).1
    exact distinguishes_of_mixes (hashPairs_mixes order) paired
      (join_injective.comp finalCross_injective) (by decide) (murmurHash64B_eq order)

/-- "It will not produce the same results on little-endian and big-endian machines." -/
example : murmurHash2 .little [1, 2, 3, 4] 0#32 ≠ murmurHash2 .big [1, 2, 3, 4] 0#32 := by decide

end NewFramework.Base.MurmurHash
