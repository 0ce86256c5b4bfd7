import Mathlib.Data.List.Basic
import NewFramework.Lib.SignedInt
import NewFramework.Lib.Utf8

/-!
# `Convert`, which encoding a text has and how many Chinese characters

These are functions of `muduo/base/convert.cpp`.  `detectEncoding` looks at the bytes up to the
first character that tells it the encoding; the counters go through all of them.  A counter is an
`int`.
-/

namespace NewFramework.Base
open NewFramework.Lib

inductive Encoding where
  | kUnknown
  | kUnicode
  | kGBK
  | kUTF8
  deriving DecidableEq, Repr

namespace Convert

/-- How a counter stops without a result. -/
inductive Stop where
  | abort
  | assertion
  | overflow
  /-- A unit behind the end is read. -/
  | outside
  deriving DecidableEq, Repr

/-- The `for` loop of `detectEncoding`, on the bytes from `i` on. -/
def detectFrom : List UInt8 → Encoding
  | b :: b1 :: b2 :: rest =>
    if b &&& 0x80 ≠ 0 then
      if b1 &&& 0x80 = 0 then .kGBK
      else if b &&& 0xE0 = 0xC0 then
        if b1 &&& 0xC0 = 0x80 then .kGBK else detectFrom (b2 :: rest)
      else if b &&& 0xF0 = 0xE0 then
        if b1 &&& 0xC0 = 0x80 then
          if b2 &&& 0xC0 = 0x80 then .kUTF8 else .kGBK
        else .kGBK
      else .kGBK
    else detectFrom (b1 :: b2 :: rest)
  | _ => .kUTF8

/-- `detectEncoding(content)` -/
def detectEncoding (content : List UInt8) : Encoding :=
  if content.length < 2 then .kGBK
  else if content[0]? = some 0xFF ∧ content[1]? = some 0xFE then .kUnicode
  else detectFrom content

/-- `++cnt` -/
def increment (cnt : Int) : Except Stop Int :=
  match ((cnt : SignedInt) + 1).value with
  | some cnt => .ok cnt
  | none => .error .overflow

/-- The `for` loop of `countChineseCharsUtf8`, on the bytes that are left; `skip` of them have been
stepped over. -/
def countUtf8From : (skip : Nat) → List UInt8 → (cnt : Int) → Except Stop Int
  | _, [], cnt => .ok cnt
  | skip + 1, _ :: rest, cnt => countUtf8From skip rest cnt
  | 0, c :: rest, cnt =>
    if c &&& 0x80 = 0 then countUtf8From 0 rest cnt
    else if c &&& 0xE0 = 0xC0 then countUtf8From 1 rest cnt
    else if c &&& 0xF0 = 0xE0 then do
      let cnt ← increment cnt
      countUtf8From 2 rest cnt
    else .error .abort

/-- `countChineseCharsUtf8(content)` -/
def countChineseCharsUtf8 (content : List UInt8) : Except Stop Int := countUtf8From 0 content 0

/-- The units of 16 bits, little-endian. -/
def units : List UInt8 → List Nat
  | lo :: hi :: rest => (lo.toNat + 256 * hi.toNat) :: units rest
  | _ => []

/-- The `for` loop of `countChineseCharsUcs2`, for so many rounds. -/
def countUcs2From : (rounds : Nat) → (p : List Nat) → (cnt : Int) → Except Stop Int
  | 0, _, cnt => .ok cnt
  | _ + 1, [], _ => .error .outside
  | rounds + 1, unit :: p, cnt =>
    if unit > 127 then do
      let cnt ← increment cnt
      countUcs2From rounds p cnt
    else countUcs2From rounds p cnt

/-- `countChineseCharsUcs2(content)` -/
def countChineseCharsUcs2 (content : List UInt8) : Except Stop Int :=
  if content.length % 2 = 0 then
    countUcs2From (content.length / 2 - 2) ((units content).drop 1) 0
  else .error .assertion

/-! ## Counting -/

def intMax : Int := 2147483647

/-- A character that takes three bytes. -/
def TakesThree (c : Char) : Prop := 0x800 ≤ c.toNat ∧ c.toNat < 0x10000

/-- A character that takes four bytes. -/
def TakesFour (c : Char) : Prop := 0x10000 ≤ c.toNat

instance (c : Char) : Decidable (TakesThree c) := inferInstanceAs (Decidable (_ ∧ _))
instance (c : Char) : Decidable (TakesFour c) := inferInstanceAs (Decidable (_ ≤ _))

/-- How many characters take three bytes. -/
def threes (text : List Char) : Nat := text.countP TakesThree

theorem increment_eq {cnt : Int} (nonneg : 0 ≤ cnt) :
    increment cnt = if cnt < intMax then .ok (cnt + 1) else .error .overflow := by
  unfold increment intMax
  by_cases lt : cnt < 2147483647
  · simp (disch := omega) only [SignedInt.literal, SignedInt.ofInt_add, SignedInt.checked_eq,
      SignedInt.value_ofInt, if_pos lt]
  · simp (disch := omega) only [SignedInt.literal, SignedInt.ofInt_add, SignedInt.checked_eq,
      SignedInt.checked_eq_overflow, if_neg lt]
    rfl

section

variable {c : Char} {text : List Char} {cnt n : Int}

/-- A loop that counts one more goes on if `int` can count it. -/
theorem increment_bind_ok_iff {next : Int → Except Stop Int} (nonneg : 0 ≤ cnt) :
    (increment cnt >>= next) = .ok n ↔ cnt < intMax ∧ next (cnt + 1) = .ok n := by
  rw [increment_eq nonneg]
  by_cases lt : cnt < intMax
  · rw [if_pos lt, and_iff_right lt]
    rfl
  · rw [if_neg lt]
    refine iff_of_false ?_ (fun both => lt both.1)
    intro stopped
    contradiction

theorem not_takesFour (lt : c.toNat < 0x10000) : ¬ TakesFour c := Nat.not_le.mpr lt

theorem not_takesThree (lt : c.toNat < 0x800) : ¬ TakesThree c :=
  fun three => absurd three.1 (Nat.not_le.mpr lt)

/-- The counter steps over a character, counts it, or aborts. -/
theorem countUtf8From_char (c : Char) (rest : List UInt8) (cnt : Int) :
    countUtf8From 0 (String.utf8EncodeChar c ++ rest) cnt =
      if TakesFour c then .error .abort
      else if TakesThree c then increment cnt >>= countUtf8From 0 rest
      else countUtf8From 0 rest cnt := by
  have code := encoded c
  generalize String.utf8EncodeChar c = bytes at code
  cases code with
  | one b value first =>
    rw [if_neg (not_takesFour (by omega)), if_neg (not_takesThree (by omega))]
    exact if_pos ((mask_80 b).mpr first)
  | two a b value first second =>
    have high : ¬ a &&& 0x80 = 0 := high_of_first (by omega)
    rw [if_neg (not_takesFour (by omega)), if_neg (not_takesThree (by omega))]
    simp only [List.cons_append, List.nil_append, countUtf8From, if_neg high,
      if_pos ((mask_E0 a).mpr first)]
  | three a b d value first second third =>
    have high : ¬ a &&& 0x80 = 0 := high_of_first (by omega)
    have not_two : ¬ a &&& 0xE0 = 0xC0 := fun two => absurd ((mask_E0 a).mp two) (by omega)
    rw [if_neg (not_takesFour (by omega)), if_pos (show TakesThree c from value)]
    simp only [List.cons_append, List.nil_append, countUtf8From, if_neg high, if_neg not_two,
      if_pos ((mask_F0 a).mpr first)]
  | four a b d e value first second third fourth =>
    have high : ¬ a &&& 0x80 = 0 := high_of_first (by omega)
    have not_two : ¬ a &&& 0xE0 = 0xC0 := fun two => absurd ((mask_E0 a).mp two) (by omega)
    have not_three : ¬ a &&& 0xF0 = 0xE0 := fun three => absurd ((mask_F0 a).mp three) (by omega)
    rw [if_pos (show TakesFour c from value)]
    simp only [List.cons_append, List.nil_append, countUtf8From, if_neg high, if_neg not_two,
      if_neg not_three]

/-- The counter has a result where no character takes four bytes and `int` can count those that
take three. -/
theorem countUtf8From_ok_iff (nonneg : 0 ≤ cnt) (fits : cnt ≤ intMax) :
    countUtf8From 0 (utf8 text) cnt = .ok n ↔
      (∀ c ∈ text, ¬ TakesFour c) ∧ cnt + threes text ≤ intMax ∧ n = cnt + threes text := by
  induction text generalizing cnt with
  | nil =>
    have stop : countUtf8From 0 (utf8 []) cnt = .ok cnt := rfl
    simp only [stop, Except.ok.injEq, threes, List.countP_nil, List.not_mem_nil, false_implies,
      implies_true, true_and]
    constructor
    · rintro rfl
      exact ⟨by simpa using fits, by simp⟩
    · rintro ⟨-, rfl⟩
      simp
  | cons c text ih =>
    have step := countUtf8From_char c (utf8 text) cnt
    rw [show utf8 (c :: text) = String.utf8EncodeChar c ++ utf8 text from List.flatMap_cons, step]
    rw [List.forall_mem_cons]
    by_cases four : TakesFour c
    · simp [four]
    by_cases three : TakesThree c
    · have count : threes (c :: text) = threes text + 1 := List.countP_cons_of_pos (by simpa using three)
      have nonneg' : 0 ≤ cnt + 1 := by omega
      rw [if_neg four, if_pos three, increment_bind_ok_iff nonneg, count, and_iff_right four]
      constructor
      · rintro ⟨lt, done⟩
        obtain ⟨short, fits', rfl⟩ := (ih nonneg' lt).mp done
        exact ⟨short, by omega, by omega⟩
      · rintro ⟨short, fits', rfl⟩
        have lt : cnt < intMax := by omega
        exact ⟨lt, (ih nonneg' lt).mpr ⟨short, by omega, by omega⟩⟩
    · have count : threes (c :: text) = threes text := List.countP_cons_of_neg (by simpa using three)
      rw [if_neg four, if_neg three, count, and_iff_right four]
      exact ih nonneg fits

/-! ## Detection -/

/-- What decides it for UTF-8: there are only ASCII characters, or the first other one takes three
bytes, or it takes two and is the last character. -/
def Detected (text : List Char) : Prop :=
  match text.dropWhile (·.toNat < 0x80) with
  | [] => True
  | c :: rest => TakesThree c ∨ c.toNat < 0x800 ∧ rest = []

theorem utf8_ne_nil {text : List Char} (some_char : text ≠ []) : utf8 text ≠ [] := by
  cases text with
  | nil => contradiction
  | cons c text =>
    intro empty
    exact String.utf8EncodeChar_ne_nil (List.append_eq_nil_iff.mp empty).1

/-- The loop goes over ASCII characters, and the first other one decides. -/
theorem detectFrom_utf8_iff (text : List Char) :
    detectFrom (utf8 text) = .kUTF8 ↔ Detected text := by
  induction text with
  | nil => exact iff_of_true rfl trivial
  | cons c text ih =>
    rw [show utf8 (c :: text) = String.utf8EncodeChar c ++ utf8 text from List.flatMap_cons]
    have code := encoded c
    generalize String.utf8EncodeChar c = bytes at code
    unfold Detected
    cases code with
    | one b value first =>
      have low : ¬ b &&& 0x80 ≠ 0 := not_not.mpr ((mask_80 b).mpr first)
      rw [List.dropWhile_cons_of_pos (by simpa using value)]
      change _ ↔ Detected text
      rw [← ih]
      match utf8 text with
      | [] => exact iff_of_true rfl rfl
      | [_] => exact iff_of_true rfl rfl
      | b1 :: b2 :: rest =>
        simp only [List.cons_append, List.nil_append]
        rw [detectFrom, if_neg low]
    | two a b value first second =>
      rw [List.dropWhile_cons_of_neg (by simpa using value.1)]
      dsimp only
      have undecided : ¬ TakesThree c := not_takesThree value.2
      by_cases last : text = []
      · rw [last]
        exact iff_of_true rfl (.inr ⟨value.2, rfl⟩)
      · obtain ⟨b2, rest, more⟩ := List.exists_cons_of_ne_nil (utf8_ne_nil last)
        rw [more, List.cons_append, List.cons_append, List.nil_append, detectFrom,
          if_pos (high_of_first first.1), if_neg second.high, if_pos ((mask_E0 a).mpr first),
          if_pos second.masked]
        exact iff_of_false (by decide) (by simp [undecided, last])
    | three a b d value first second third =>
      have not_two : ¬ a &&& 0xE0 = 0xC0 := fun two => absurd ((mask_E0 a).mp two) (by omega)
      rw [List.dropWhile_cons_of_neg (by simp; omega)]
      dsimp only
      rw [List.cons_append, List.cons_append, List.cons_append, detectFrom,
        if_pos (high_of_first (by omega)), if_neg second.high, if_neg not_two,
        if_pos ((mask_F0 a).mpr first), if_pos second.masked, if_pos third.masked]
      exact iff_of_true rfl (.inl value)
    | four a b d e value first second third fourth =>
      have not_two : ¬ a &&& 0xE0 = 0xC0 := fun two => absurd ((mask_E0 a).mp two) (by omega)
      have not_three : ¬ a &&& 0xF0 = 0xE0 := fun three => absurd ((mask_F0 a).mp three) (by omega)
      have undecided : ¬ TakesThree c := fun three => absurd three.2 (Nat.not_lt.mpr value)
      rw [List.dropWhile_cons_of_neg (by simp; omega)]
      dsimp only
      rw [List.cons_append, List.cons_append, List.cons_append, detectFrom,
        if_pos (high_of_first (by omega)), if_neg second.high, if_neg not_two, if_neg not_three]
      refine iff_of_false (by decide) ?_
      rintro (three | ⟨two, -⟩)
      · exact undecided three
      · omega

/-- No UTF-8 begins with a byte order mark of UCS-2. -/
theorem detectEncoding_utf8 (two : 2 ≤ (utf8 text).length) :
    detectEncoding (utf8 text) = detectFrom (utf8 text) := by
  have unmarked : (utf8 text)[0]? ≠ some 0xFF := by
    cases text with
    | nil => simp [utf8]
    | cons c text =>
      rw [show utf8 (c :: text) = String.utf8EncodeChar c ++ utf8 text from List.flatMap_cons]
      have code := encoded c
      generalize String.utf8EncodeChar c = bytes at code
      intro marked
      cases code
      all_goals
        obtain rfl := Option.some.inj marked
        contradiction
  unfold detectEncoding
  rw [if_neg (Nat.not_lt.mpr two), if_neg fun marked => unmarked marked.1]

/-- A text that is found to be UTF-8 and that the counter comes to the end of. -/
def Recognised (content : List UInt8) : Prop :=
  detectEncoding content = .kUTF8 ∧ ∃ n, countChineseCharsUtf8 content = .ok n

/-- Exactly these texts in UTF-8 are recognised: the first character that is not ASCII takes three
bytes, or it takes two and is the last one, or there is none; no character takes four; and `int` can
count those that take three. -/
theorem recognised_iff (two : 2 ≤ (utf8 text).length) :
    Recognised (utf8 text) ↔
      Detected text ∧ (∀ c ∈ text, ¬ TakesFour c) ∧ threes text ≤ intMax := by
  have counted : (∃ n, countChineseCharsUtf8 (utf8 text) = .ok n) ↔
      (∀ c ∈ text, ¬ TakesFour c) ∧ threes text ≤ intMax := by
    unfold countChineseCharsUtf8
    simp only [countUtf8From_ok_iff (Int.le_refl 0) (by decide), Int.zero_add]
    constructor
    · rintro ⟨n, short, fits, -⟩
      exact ⟨short, fits⟩
    · rintro ⟨short, fits⟩
      exact ⟨_, short, fits, rfl⟩
  unfold Recognised
  rw [detectEncoding_utf8 two, detectFrom_utf8_iff, counted]

theorem recognised_iff_chinese : Recognised (utf8 ['a', '中']) := by
  refine (recognised_iff (by decide)).mpr ⟨.inl (by decide), ?_, by decide⟩
  exact List.forall_mem_cons.mpr ⟨by decide, List.forall_mem_singleton.mpr (by decide)⟩

/-- A character of two bytes is taken for GBK, and one of four bytes aborts the counter. -/
theorem not_recognised :
    2 ≤ (utf8 ['é', 'a']).length ∧ ¬ Recognised (utf8 ['é', 'a']) ∧
      2 ≤ (utf8 ['😀']).length ∧ countChineseCharsUtf8 (utf8 ['😀']) = .error .abort := by
  refine ⟨by decide, ?_, by decide, by decide⟩
  intro recognised
  exact absurd recognised.1 (by decide)

/-! ## The two counters -/

/-- The characters that are not ASCII. -/
def nonAscii (text : List Char) : Nat := text.countP (0x80 ≤ ·.toNat)

/-- The characters that both counters are made for: ASCII, or three bytes in UTF-8 and one unit in
UCS-2. -/
def Countable (text : List Char) : Prop := ∀ c ∈ text, c.toNat < 0x80 ∨ TakesThree c

theorem threes_eq (countable : Countable text) : threes text = nonAscii text := by
  refine List.countP_congr ?_
  intro c mem
  simp only [decide_eq_true_eq]
  constructor
  · intro three
    have lower := three.1
    omega
  · intro high
    rcases countable c mem with low | three
    · omega
    · exact three

theorem ucs2_length (text : List Char) : (ucs2 text).length = 2 * (text.length + 1) := by
  have each : ∀ text : List Char, (text.flatMap ucs2Char).length = 2 * text.length := by
    intro text
    induction text with
    | nil => rfl
    | cons c text ih =>
      rw [List.flatMap_cons, List.length_append, ih, List.length_cons]
      unfold ucs2Char
      rw [List.length_cons, List.length_cons, List.length_nil]
      omega
  unfold ucs2
  rw [List.length_cons, List.length_cons, each]
  omega

/-- Each character is a unit. -/
theorem units_flatMap (countable : Countable text) :
    units (text.flatMap ucs2Char) = text.map (·.toNat) := by
  induction text with
  | nil => rfl
  | cons c text ih =>
    have rest := ih fun d mem => countable d (List.mem_cons_of_mem _ mem)
    have small : c.toNat < 0x10000 := by
      rcases countable c List.mem_cons_self with low | three
      · omega
      · exact three.2
    have unit : (UInt8.ofNat (c.toNat % 256)).toNat + 256 * (UInt8.ofNat (c.toNat / 256)).toNat =
        c.toNat := by
      rw [UInt8.toNat_ofNat', UInt8.toNat_ofNat']
      omega
    rw [List.flatMap_cons, List.map_cons]
    unfold ucs2Char
    rw [List.cons_append, List.cons_append, List.nil_append, units, unit]
    exact congrArg _ rest

theorem countUcs2From_ok_iff {rounds : Nat} (nonneg : 0 ≤ cnt) (fits : cnt ≤ intMax)
    (enough : rounds ≤ text.length) :
    countUcs2From rounds (text.map (·.toNat)) cnt = .ok n ↔
      cnt + nonAscii (text.take rounds) ≤ intMax ∧ n = cnt + nonAscii (text.take rounds) := by
  induction rounds generalizing text cnt with
  | zero =>
    rw [countUcs2From, List.take_zero, show ((nonAscii [] : Nat) : Int) = 0 from rfl, Int.add_zero,
      Except.ok.injEq]
    exact ⟨fun eq => ⟨fits, eq.symm⟩, fun both => both.2.symm⟩
  | succ rounds ih =>
    cases text with
    | nil => contradiction
    | cons c text =>
      rw [List.map_cons, countUcs2From, List.take_succ_cons]
      by_cases high : c.toNat > 127
      · have count : nonAscii (c :: text.take rounds) = nonAscii (text.take rounds) + 1 :=
          List.countP_cons_of_pos (by simp; omega)
        have nonneg' : 0 ≤ cnt + 1 := by omega
        have enough' := Nat.le_of_succ_le_succ enough
        rw [if_pos high, increment_bind_ok_iff nonneg, count]
        constructor
        · rintro ⟨lt, done⟩
          obtain ⟨fits', rfl⟩ := (ih nonneg' lt enough').mp done
          exact ⟨by omega, by omega⟩
        · rintro ⟨fits', rfl⟩
          have lt : cnt < intMax := by omega
          exact ⟨lt, (ih nonneg' lt enough').mpr ⟨by omega, by omega⟩⟩
      · have count : nonAscii (c :: text.take rounds) = nonAscii (text.take rounds) :=
          List.countP_cons_of_neg (by simp; omega)
        rw [if_neg high, count]
        exact ih nonneg fits (Nat.le_of_succ_le_succ enough)

theorem nonAscii_getLast (last : text.getLast? = some c) :
    nonAscii text = nonAscii text.dropLast + if 0x80 ≤ c.toNat then 1 else 0 := by
  have whole : text = text.dropLast ++ [c] := (List.dropLast_append_getLast? c last).symm
  unfold nonAscii
  conv_lhs => rw [whole]
  rw [List.countP_append, List.countP_singleton]
  simp

/-- The loop over UCS-2 leaves out the last unit. -/
theorem countChineseCharsUcs2_ok_iff (countable : Countable text) :
    countChineseCharsUcs2 (ucs2 text) = .ok n ↔
      nonAscii text.dropLast ≤ intMax ∧ n = nonAscii text.dropLast := by
  have length := ucs2_length text
  have rounds : (ucs2 text).length / 2 - 2 = text.length - 1 := by omega
  have behind : (units (ucs2 text)).drop 1 = text.map (·.toNat) := units_flatMap countable
  have enough : text.length - 1 ≤ text.length := Nat.sub_le _ _
  have counted := countUcs2From_ok_iff (n := n) (Int.le_refl 0) (by decide) enough
  rw [← List.dropLast_eq_take, Int.zero_add] at counted
  unfold countChineseCharsUcs2
  rw [if_pos (by omega), rounds, behind]
  exact counted

/-- Both counters return the number of characters that are not ASCII. -/
def CountersAgree (text : List Char) : Prop :=
  countChineseCharsUtf8 (utf8 text) = .ok (nonAscii text) ∧
    countChineseCharsUcs2 (ucs2 text) = .ok (nonAscii text)

/-- The counters agree exactly on the texts that end in an ASCII character, and on the empty one, as
long as `int` can count. -/
theorem countersAgree_iff (countable : Countable text) :
    CountersAgree text ↔
      (∀ c, text.getLast? = some c → c.toNat < 0x80) ∧ nonAscii text ≤ intMax := by
  have utf8_iff : countChineseCharsUtf8 (utf8 text) = .ok (nonAscii text) ↔
      nonAscii text ≤ intMax := by
    have short : ∀ c ∈ text, ¬ TakesFour c := by
      intro c mem
      rcases countable c mem with low | three
      · exact not_takesFour (by omega)
      · exact not_takesFour three.2
    unfold countChineseCharsUtf8
    rw [countUtf8From_ok_iff (Int.le_refl 0) (by decide), Int.zero_add, threes_eq countable]
    exact ⟨fun all => all.2.1, fun fits => ⟨short, fits, rfl⟩⟩
  unfold CountersAgree
  rw [utf8_iff, countChineseCharsUcs2_ok_iff countable]
  cases last : text.getLast? with
  | none =>
    obtain rfl := List.getLast?_eq_none_iff.mp last
    simp [nonAscii, intMax]
  | some c =>
    have count := nonAscii_getLast last
    constructor
    · rintro ⟨fits, -, same⟩
      refine ⟨?_, fits⟩
      intro d eq
      obtain rfl := Option.some.inj eq
      by_contra high
      rw [if_pos (by omega)] at count
      omega
    · rintro ⟨low, fits⟩
      rw [if_neg (Nat.not_le.mpr (low c rfl))] at count
      exact ⟨fits, by omega, by omega⟩

/-- A text that ends in an ASCII character. -/
theorem countersAgree_iff_sentence : CountersAgree ['中', '文', '.'] := by
  refine (countersAgree_iff ?_).mpr ⟨?_, by decide⟩
  · exact List.forall_mem_cons.mpr ⟨by decide, List.forall_mem_cons.mpr
      ⟨by decide, List.forall_mem_singleton.mpr (by decide)⟩⟩
  · intro c last
    obtain rfl := Option.some.inj last
    decide

/-- The last character is not counted in UCS-2. -/
theorem not_countersAgree :
    Countable ['中', '文'] ∧ countChineseCharsUtf8 (utf8 ['中', '文']) = .ok 2 ∧
      countChineseCharsUcs2 (ucs2 ['中', '文']) = .ok 1 ∧ ¬ CountersAgree ['中', '文'] := by
  have ucs2_one : countChineseCharsUcs2 (ucs2 ['中', '文']) = .ok 1 := by decide
  refine ⟨?_, by decide, ucs2_one, ?_⟩
  · exact List.forall_mem_cons.mpr ⟨by decide, List.forall_mem_singleton.mpr (by decide)⟩
  · intro agree
    exact absurd (ucs2_one.symm.trans agree.2) (by decide)

end

end Convert

end NewFramework.Base
