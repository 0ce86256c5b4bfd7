import Mathlib.Tactic.IntervalCases
import NewFramework.Lib.BigEndian
import NewFramework.Lib.CString
import NewFramework.Lib.Numeral

/-!
# `muduo::LogStream`, the integers and pointers

The functions are from `muduo/base/LogStream.cc` and `muduo/base/LogStream.h`.  A value of an
integer type is its mathematical value; no operation of `convert` leaves the type, as all of them
make the value smaller.  Memory is a list of bytes.
-/

namespace NewFramework.Base
open NewFramework.Lib

/-- The integer types with an `operator<<`. -/
inductive IntegerType where
  | short
  | unsignedShort
  | int
  | unsignedInt
  | long
  | unsignedLong
  | longLong
  | unsignedLongLong
  deriving DecidableEq, Repr

namespace IntegerType

def bits : IntegerType → Nat
  | short | unsignedShort => 16
  | int | unsignedInt => 32
  | long | unsignedLong | longLong | unsignedLongLong => 64

def signed : IntegerType → Bool
  | short | int | long | longLong => true
  | unsignedShort | unsignedInt | unsignedLong | unsignedLongLong => false

/-- The least value. -/
def min (T : IntegerType) : Int := if T.signed then -2 ^ (T.bits - 1) else 0

/-- The number after the greatest value. -/
def bound (T : IntegerType) : Int := if T.signed then 2 ^ (T.bits - 1) else 2 ^ T.bits

/-- The values of the type. -/
def InRange (T : IntegerType) (v : Int) : Prop := T.min ≤ v ∧ v < T.bound

instance (T : IntegerType) (v : Int) : Decidable (T.InRange v) :=
  inferInstanceAs (Decidable (_ ∧ _))

/-- `static_cast<T>(v)` -/
def cast (T : IntegerType) (v : Int) : Int :=
  if T.signed then toInt T.bits v else v % 2 ^ T.bits

end IntegerType

namespace LogStream

/-- `digits`, in which `zero` points to the place 9. -/
def digits : List UInt8 :=
  [57, 56, 55, 54, 53, 52, 51, 50, 49, 48, 49, 50, 51, 52, 53, 54, 55, 56, 57]

/-- `digitsHex` -/
def digitsHex : List UInt8 :=
  [48, 49, 50, 51, 52, 53, 54, 55, 56, 57, 65, 66, 67, 68, 69, 70]

/-- `zero[lsd]`, unless that is outside of `digits`. -/
def zero (lsd : Int) : Option UInt8 := if 9 + lsd < 0 then none else digits[(9 + lsd).toNat]?

/-- The `do` loop of `convert`, with the text between `buf` and `p`. -/
def convertLoop (i : Int) (text : List UInt8) : Option (List UInt8) :=
  match zero (i.tmod 10) with
  | none => none
  | some c => if i.tdiv 10 ≠ 0 then convertLoop (i.tdiv 10) (text ++ [c]) else some (text ++ [c])
termination_by i.natAbs
decreasing_by
  rw [Int.natAbs_tdiv]
  exact Nat.div_lt_self (Int.natAbs_pos.mpr fun zero => by simp_all) (by decide)

/-- `convert(buf, value)`: the memory after it, and the length that it returns. -/
def convert (data : List UInt8) (buf : Nat) (value : Int) : Option (List UInt8 × Nat) := do
  let text ← convertLoop value []
  let text := if value < 0 then text ++ [45] else text
  some (storeString data buf text.reverse, text.length)

/-- The `do` loop of `convertHex`. -/
def convertHexLoop (i : Nat) (text : List UInt8) : Option (List UInt8) :=
  match digitsHex[i % 16]? with
  | none => none
  | some c => if i / 16 ≠ 0 then convertHexLoop (i / 16) (text ++ [c]) else some (text ++ [c])
termination_by i
decreasing_by exact Nat.div_lt_self (Nat.pos_of_ne_zero fun zero => by simp_all) (by decide)

/-- `convertHex(buf, value)` -/
def convertHex (data : List UInt8) (buf : Nat) (value : Nat) : Option (List UInt8 × Nat) := do
  let text ← convertHexLoop value []
  some (storeString data buf text.reverse, text.length)

def kSmallBuffer : Nat := 4000

def kMaxNumericSize : Nat := 32

/-- `FixedBuffer`, whose size is that of its data. -/
structure FixedBuffer where
  data : List UInt8
  cur : Nat

namespace FixedBuffer

def new (size : Nat) : FixedBuffer := ⟨List.replicate size 0, 0⟩

def avail (b : FixedBuffer) : Int := b.data.length - b.cur

/-- `toString()` -/
def text (b : FixedBuffer) : List UInt8 := b.data.take b.cur

/-- `add(len)` -/
def add (b : FixedBuffer) (len : Nat) : FixedBuffer := { b with cur := b.cur + len }

/-- `cur_` is in the data, and the data has the size of the buffer. -/
structure Sound (size : Nat) (b : FixedBuffer) : Prop where
  whole : b.data.length = size
  inside : b.cur ≤ size

end FixedBuffer

/-- `formatInteger(v)` -/
def formatInteger (b : FixedBuffer) (v : Int) : Option FixedBuffer :=
  if (kMaxNumericSize : Int) ≤ b.avail then do
    let (data, len) ← convert b.data b.cur v
    some ({ b with data := data }.add len)
  else some b

/-- `operator<<(v)`; those of the short types cast to `int` and `unsigned int`. -/
def put (T : IntegerType) (v : Int) (b : FixedBuffer) : Option FixedBuffer :=
  match T with
  | .short => formatInteger b (IntegerType.int.cast v)
  | .unsignedShort => formatInteger b (IntegerType.unsignedInt.cast v)
  | _ => formatInteger b v

/-- `operator<<(const void* p)` -/
def putPointer (v : Nat) (b : FixedBuffer) : Option FixedBuffer :=
  if (kMaxNumericSize : Int) ≤ b.avail then do
    let data := (b.data.set b.cur 48).set (b.cur + 1) 120
    let (data, len) ← convertHex data (b.cur + 2) v
    some ({ b with data := data }.add (len + 2))
  else some b

/-! ## The digits -/

/-- A digit as a character. -/
def digitChar (d : Nat) : UInt8 := UInt8.ofNat (48 + d)

/-- A hexadecimal digit as a character. -/
def hexChar (d : Nat) : UInt8 := digitsHex.getD d 0

theorem zero_eq {lsd : Int} (lower : -10 < lsd) (upper : lsd < 10) :
    zero lsd = some (digitChar lsd.natAbs) := by
  interval_cases lsd <;> rfl

theorem convertLoop_eq (i : Int) (text : List UInt8) :
    convertLoop i text = some (text ++ ((numeral 10 i.natAbs).map digitChar).reverse) := by
  generalize absolute : i.natAbs = n
  induction n using Nat.strong_induction_on generalizing i text with
  | _ n ih =>
    have quotient : (i.tdiv 10).natAbs = n / 10 := by
      rw [Int.natAbs_tdiv, absolute]
      rfl
    have remainder : (i.tmod 10).natAbs = n % 10 := by
      rw [Int.natAbs_tmod, absolute]
      rfl
    have digit : zero (i.tmod 10) = some (digitChar (n % 10)) := by
      rw [← remainder]
      exact zero_eq (by omega) (by omega)
    rw [convertLoop, digit]
    dsimp only
    rcases Nat.lt_or_ge n 10 with small | large
    · have last : i.tdiv 10 = 0 := by omega
      rw [if_neg (not_not.mpr last), numeral_of_lt small, Nat.mod_eq_of_lt small]
      rfl
    · have more : i.tdiv 10 ≠ 0 := by omega
      rw [if_pos more, ih (n / 10) (by omega) _ _ quotient,
        numeral_of_le (by decide) large, List.map_append, List.reverse_append, List.append_assoc]
      rfl

theorem convertHexLoop_eq (i : Nat) (text : List UInt8) :
    convertHexLoop i text = some (text ++ ((numeral 16 i).map hexChar).reverse) := by
  induction i using Nat.strong_induction_on generalizing text with
  | _ i ih =>
    have digit : digitsHex[i % 16]? = some (hexChar (i % 16)) := by
      have below : i % 16 < digitsHex.length := Nat.mod_lt i (by decide)
      unfold hexChar
      rw [List.getD_eq_getElem?_getD, List.getElem?_eq_getElem below, Option.getD_some]
    rw [convertHexLoop, digit]
    dsimp only
    rcases Nat.lt_or_ge i 16 with small | large
    · rw [if_neg (by omega), numeral_of_lt small, Nat.mod_eq_of_lt small]
      rfl
    · rw [if_pos (by omega), ih (i / 16) (by omega), numeral_of_le (by decide) large,
        List.map_append, List.reverse_append, List.append_assoc]
      rfl

/-- `decimal` has the digits of the numeral. -/
theorem decimalNat_eq (n : Nat) : decimalNat n = (numeral 10 n).map digitChar := by
  unfold decimalNat numeral
  by_cases zero : n = 0
  · rw [if_pos zero, if_pos zero]
    rfl
  · rw [if_neg zero, if_neg zero]
    rfl

/-- The canonical hexadecimal numeral. -/
def hexadecimal (n : Nat) : List UInt8 := (numeral 16 n).map hexChar

theorem convert_eq (data : List UInt8) (buf : Nat) (value : Int) :
    convert data buf value =
      some (storeString data buf (decimal value), (decimal value).length) := by
  unfold convert decimal
  rw [convertLoop_eq, List.nil_append, decimalNat_eq, Option.bind_eq_bind, Option.bind_some]
  by_cases negative : value < 0
  · simp only [if_pos negative, List.reverse_append, List.reverse_reverse, List.reverse_singleton,
      List.singleton_append, List.length_append, List.length_reverse, List.length_cons,
      List.length_nil]
  · simp only [if_neg negative, List.reverse_reverse, List.length_reverse]

theorem convertHex_eq (data : List UInt8) (buf value : Nat) :
    convertHex data buf value =
      some (storeString data buf (hexadecimal value), (hexadecimal value).length) := by
  unfold convertHex hexadecimal
  rw [convertHexLoop_eq, List.nil_append, Option.bind_eq_bind, Option.bind_some,
    List.reverse_reverse, List.length_reverse]

/-! ## The text read back -/

/-- The value of a decimal digit. -/
def decimalDigit (c : UInt8) : Option Nat :=
  if 48 ≤ c.toNat ∧ c.toNat ≤ 57 then some (c.toNat - 48) else none

/-- The value of a hexadecimal digit. -/
def hexDigit (c : UInt8) : Option Nat := digitsHex.idxOf? c

/-- The value of a decimal numeral that may have a minus sign. -/
def parseDecimal : List UInt8 → Option Int
  | 45 :: digits => (parseNumeral 10 decimalDigit digits).map fun n : Nat => -(n : Int)
  | digits => (parseNumeral 10 decimalDigit digits).map fun n : Nat => (n : Int)

theorem decimalDigit_digitChar {d : Nat} (lt : d < 10) : decimalDigit (digitChar d) = some d := by
  interval_cases d <;> rfl

theorem hexDigit_hexChar {d : Nat} (lt : d < 16) : hexDigit (hexChar d) = some d := by
  interval_cases d <;> rfl

/-- A numeral without superfluous digits. -/
structure Canonical (digit : UInt8 → Option Nat) (text : List UInt8) : Prop where
  digits : ∀ c ∈ text, (digit c).isSome
  some_digit : text ≠ []
  leading : text.head?.bind digit = some 0 → text.length = 1

theorem canonical_map {base : Nat} {digit : UInt8 → Option Nat} {char : Nat → UInt8}
    (one_lt : 1 < base) (reads : ∀ d < base, digit (char d) = some d) (n : Nat) :
    Canonical digit ((numeral base n).map char) where
  digits := by
    intro c mem
    obtain ⟨d, there, rfl⟩ := List.mem_map.mp mem
    rw [reads d (lt_of_mem_numeral one_lt there)]
    rfl
  some_digit := by
    intro empty
    have value : numeralValue base (numeral base n) = n := numeralValue_numeral one_lt
    rw [List.map_eq_nil_iff.mp empty] at value
    obtain rfl : n = 0 := value.symm
    rw [numeral_of_lt (by omega)] at empty
    contradiction
  leading := by
    intro zero
    rcases Nat.eq_zero_or_pos n with rfl | pos
    · rw [numeral_of_lt (by omega)]
      rfl
    · have nonzero := head?_numeral one_lt pos
      cases digits : numeral base n with
      | nil =>
        rw [digits] at zero
        contradiction
      | cons d rest =>
        have below := lt_of_mem_numeral one_lt (digits ▸ List.mem_cons_self : d ∈ numeral base n)
        rw [digits, List.map_cons, List.head?_cons, Option.bind_some, reads d below] at zero
        rw [digits] at nonzero
        exact absurd zero nonzero

theorem parseDecimal_decimal (v : Int) : parseDecimal (decimal v) = some v := by
  have digits : parseNumeral 10 decimalDigit (decimalNat v.natAbs) = some v.natAbs := by
    rw [decimalNat_eq]
    exact parseNumeral_map (by decide) (fun d lt => decimalDigit_digitChar lt) _
  unfold decimal
  by_cases negative : v < 0
  · rw [if_pos negative, parseDecimal, digits, Option.map_some]
    exact congrArg some (by omega)
  · have unsigned : ∀ c ∈ decimalNat v.natAbs, c ≠ 45 := by
      intro c mem
      rw [decimalNat_eq] at mem
      obtain ⟨d, there, rfl⟩ := List.mem_map.mp mem
      have lt := lt_of_mem_numeral (by decide) there
      interval_cases d <;> decide
    rw [if_neg negative, parseDecimal, digits, Option.map_some]
    · exact congrArg some (by omega)
    · intro rest eq
      exact unsigned 45 (eq ▸ List.mem_cons_self) rfl

/-- A decimal numeral, with a minus sign only before a negative one. -/
theorem decimal_canonical (v : Int) :
    ∃ digits, decimal v = (if v < 0 then [45] else []) ++ digits ∧
      Canonical decimalDigit digits := by
  refine ⟨decimalNat v.natAbs, ?_, ?_⟩
  · unfold decimal
    split <;> rfl
  · rw [decimalNat_eq]
    exact canonical_map (by decide) (fun d lt => decimalDigit_digitChar lt) _

/-! ## The room -/

theorem natAbs_le_of_inRange {T : IntegerType} {v : Int} (inRange : T.InRange v) :
    v.natAbs ≤ 2 ^ 64 := by
  obtain ⟨lower, upper⟩ := inRange
  have least : -2 ^ 63 ≤ T.min := by cases T <;> decide
  have greatest : T.bound ≤ 2 ^ 64 := by cases T <;> decide
  omega

/-- Twenty digits and a sign are enough. -/
theorem decimal_length_le {T : IntegerType} {v : Int} (inRange : T.InRange v) :
    (decimal v).length ≤ 21 := by
  have bound := natAbs_le_of_inRange inRange
  have digits : (decimalNat v.natAbs).length ≤ 20 := by
    rw [decimalNat_eq, List.length_map]
    exact length_numeral_le (by decide) (by decide) (lt_of_le_of_lt bound (by decide))
  unfold decimal
  split
  · rw [List.length_cons]
    omega
  · omega

theorem hexadecimal_length_le {v : Nat} (fits : v < 2 ^ 64) : (hexadecimal v).length ≤ 16 := by
  unfold hexadecimal
  rw [List.length_map]
  exact length_numeral_le (by decide) (by decide) fits

/-- A cast to a wider type keeps the value. -/
theorem cast_int {v : Int} (inRange : IntegerType.short.InRange v) : IntegerType.int.cast v = v := by
  obtain ⟨lower, upper⟩ := inRange
  have lower : -32768 ≤ v := lower
  have upper : v < 32768 := upper
  show v.bmod 4294967296 = v
  exact Int.bmod_eq_of_le (by omega) (by omega)

theorem cast_unsignedInt {v : Int} (inRange : IntegerType.unsignedShort.InRange v) :
    IntegerType.unsignedInt.cast v = v := by
  obtain ⟨lower, upper⟩ := inRange
  have lower : 0 ≤ v := lower
  have upper : v < 65536 := upper
  show v % 4294967296 = v
  exact Int.emod_eq_of_lt lower (by omega)

theorem put_eq {T : IntegerType} {v : Int} (inRange : T.InRange v) (b : FixedBuffer) :
    put T v b = formatInteger b v := by
  cases T with
  | short => exact congrArg (formatInteger b) (cast_int inRange)
  | unsignedShort => exact congrArg (formatInteger b) (cast_unsignedInt inRange)
  | _ => rfl

/-! ## The stream -/

/-- `text` stands behind what the buffer held, and a zero byte behind it. -/
structure Appended (size : Nat) (text : List UInt8) (b b' : FixedBuffer) : Prop where
  sound : b'.Sound size
  text : b'.text = b.text ++ text
  terminated : b'.data[b'.cur]? = some 0

variable {size : Nat} {b : FixedBuffer}

theorem appended_storeString {text : List UInt8} (sound : b.Sound size)
    (room : b.cur + text.length < size) :
    Appended size text b ⟨storeString b.data b.cur text, b.cur + text.length⟩ := by
  have inside : b.cur + text.length < b.data.length := sound.whole ▸ room
  exact ⟨⟨(length_storeString inside).trans sound.whole, room.le⟩, take_storeString inside,
    getElem?_storeString inside⟩

theorem formatInteger_appends {T : IntegerType} {v : Int} (inRange : T.InRange v)
    (sound : b.Sound size) (room : (kMaxNumericSize : Int) ≤ b.avail) :
    ∃ b', formatInteger b v = some b' ∧ Appended size (decimal v) b b' := by
  have length := decimal_length_le inRange
  have enough : b.cur + (decimal v).length < size := by
    unfold FixedBuffer.avail kMaxNumericSize at room
    have whole := sound.whole
    omega
  refine ⟨_, ?_, appended_storeString sound enough⟩
  unfold formatInteger
  rw [if_pos room, convert_eq]
  rfl

/-- With room or without, the buffer stays sound. -/
theorem put_sound {T : IntegerType} {v : Int} (inRange : T.InRange v) (sound : b.Sound size) :
    ∃ b', put T v b = some b' ∧ b'.Sound size := by
  rw [put_eq inRange]
  by_cases room : (kMaxNumericSize : Int) ≤ b.avail
  · obtain ⟨b', formatted, appended⟩ := formatInteger_appends inRange sound room
    exact ⟨b', formatted, appended.sound⟩
  · exact ⟨b, if_neg room, sound⟩

/-- So no number of values gets out of the buffer of a stream. -/
theorem put_all_sound (values : List (IntegerType × Int))
    (inRange : ∀ value ∈ values, value.1.InRange value.2) :
    ∃ b, values.foldlM (fun b value => put value.1 value.2 b) (FixedBuffer.new kSmallBuffer) =
      some b ∧ b.Sound kSmallBuffer := by
  have step : ∀ b : FixedBuffer, b.Sound kSmallBuffer →
      ∃ b', values.foldlM (fun b value => put value.1 value.2 b) b = some b' ∧
        b'.Sound kSmallBuffer := by
    induction values with
    | nil =>
      intro b sound
      exact ⟨b, rfl, sound⟩
    | cons value values ih =>
      intro b sound
      obtain ⟨first, others⟩ := List.forall_mem_cons.mp inRange
      obtain ⟨b', formatted, sound'⟩ := put_sound first sound
      rw [List.foldlM_cons, formatted]
      exact ih others b' sound'
  exact step _ ⟨List.length_replicate, Nat.zero_le _⟩

/-- The prefix and the digits of a pointer are one text. -/
theorem storeString_behind {data text : List UInt8} {buf : Nat} (x y : UInt8)
    (room : buf + 2 ≤ data.length) :
    storeString ((data.set buf x).set (buf + 1) y) (buf + 2) text =
      storeString data buf (x :: y :: text) := by
  obtain ⟨before, p, q, rest, rfl, rfl⟩ :
      ∃ before p q rest, data = before ++ p :: q :: rest ∧ before.length = buf := by
    refine ⟨data.take buf, data[buf], data[buf + 1], data.drop (buf + 2), ?_,
      List.length_take_of_le (by omega)⟩
    rw [← List.drop_eq_getElem_cons, ← List.drop_eq_getElem_cons, List.take_append_drop]
  have there : ((before ++ p :: q :: rest).set before.length x).set (before.length + 1) y =
      before ++ x :: y :: rest := by
    rw [List.set_append_right _ _ (le_refl _), Nat.sub_self, List.set_cons_zero,
      List.set_append_right _ _ (by omega), Nat.add_sub_cancel_left, List.set_cons_succ,
      List.set_cons_zero]
  have first : (before ++ x :: y :: rest).take (before.length + 2) = before ++ [x, y] := by
    rw [List.take_length_add_append]
    rfl
  unfold storeString
  rw [there, first, List.take_left, List.length_cons, List.length_cons,
    show before.length + 2 + text.length + 1 = before.length + (text.length + 1 + 2) by omega,
    show before.length + (text.length + 1 + 1) + 1 = before.length + (text.length + 1 + 2) by omega,
    List.drop_length_add_append, List.drop_length_add_append]
  simp only [List.append_assoc, List.cons_append, List.nil_append, List.drop_succ_cons]

theorem putPointer_appends {v : Nat} (fits : v < 2 ^ 64) (sound : b.Sound size)
    (room : (kMaxNumericSize : Int) ≤ b.avail) :
    ∃ b', putPointer v b = some b' ∧ Appended size (48 :: 120 :: hexadecimal v) b b' := by
  have length := hexadecimal_length_le fits
  have whole := sound.whole
  have enough : b.cur + (48 :: 120 :: hexadecimal v).length < size := by
    unfold FixedBuffer.avail kMaxNumericSize at room
    rw [List.length_cons, List.length_cons]
    omega
  refine ⟨_, ?_, appended_storeString sound enough⟩
  unfold putPointer
  rw [List.length_cons, List.length_cons] at enough
  rw [if_pos room]
  dsimp only
  rw [convertHex_eq, storeString_behind 48 120 (by omega)]
  rfl

/-! ## Exactness -/

/-- The formatting of a value of an integer type: the memory that `convert` leaves and the length it
returns, what this text is, and what it adds to a stream that has the room it asks for. -/
structure FormatsInteger (T : IntegerType) (v : Int) : Prop where
  converts : ∀ data buf, convert data buf v =
    some (storeString data buf (decimal v), (decimal v).length)
  canonical : ∃ digits, decimal v = (if v < 0 then [45] else []) ++ digits ∧
    Canonical decimalDigit digits
  room : (decimal v).length + 1 ≤ kMaxNumericSize
  parses : parseDecimal (decimal v) = some v
  appends : ∀ size b, b.Sound size → (kMaxNumericSize : Int) ≤ b.avail →
    ∃ b', put T v b = some b' ∧ Appended size (decimal v) b b'

/-- The same for a pointer, whose text begins with `0x`. -/
structure FormatsPointer (v : Nat) : Prop where
  converts : ∀ data buf, convertHex data buf v =
    some (storeString data buf (hexadecimal v), (hexadecimal v).length)
  canonical : Canonical hexDigit (hexadecimal v)
  room : 2 + (hexadecimal v).length + 1 ≤ kMaxNumericSize
  parses : parseNumeral 16 hexDigit (hexadecimal v) = some v
  appends : ∀ size b, b.Sound size → (kMaxNumericSize : Int) ≤ b.avail →
    ∃ b', putPointer v b = some b' ∧ Appended size (48 :: 120 :: hexadecimal v) b b'

/-- Every value of every integer type is formatted exactly, the least ones included, and so is
every pointer. -/
theorem formats_exactly :
    (∀ (T : IntegerType) (v : Int), T.InRange v → FormatsInteger T v) ∧
      ∀ v, v < 2 ^ 64 → FormatsPointer v := by
  constructor
  · intro T v inRange
    refine ⟨?_, decimal_canonical v, ?_, parseDecimal_decimal v, ?_⟩
    · intro data buf
      exact convert_eq data buf v
    · exact Nat.succ_le_succ ((decimal_length_le inRange).trans (by decide))
    · intro size b sound room
      rw [put_eq inRange]
      exact formatInteger_appends inRange sound room
  · intro v fits
    have length := hexadecimal_length_le fits
    refine ⟨?_, ?_, ?_, ?_, ?_⟩
    · intro data buf
      exact convertHex_eq data buf v
    · exact canonical_map (by decide) (fun d lt => hexDigit_hexChar lt) v
    · unfold kMaxNumericSize
      omega
    · exact parseNumeral_map (by decide) (fun d lt => hexDigit_hexChar lt) v
    · intro size b sound room
      exact putPointer_appends fits sound room

/-- The least `long long`, and the greatest pointer. -/
theorem formats_exactly_minimum :
    FormatsInteger .longLong (-9223372036854775808) ∧ FormatsPointer 18446744073709551615 :=
  ⟨formats_exactly.1 .longLong _ (by decide), formats_exactly.2 _ (by decide)⟩

example : decimal (-32768) = [45, 51, 50, 55, 54, 56] := by decide

end LogStream

end NewFramework.Base
