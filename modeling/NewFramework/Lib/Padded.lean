import NewFramework.Lib.Numeral

/-!
# Fields of a fixed width

A numeral is padded on the left to the width of its field; the padding does not change what is
read, whether it is zeros or is skipped.  A text of such fields is read field by field.
-/

namespace NewFramework.Lib

variable {α β : Type*} {base : Nat} {digit : α → Option Nat} {fill : α} {text : List α}

theorem mapM_replicate (zero : digit fill = some 0) (k : Nat) :
    (List.replicate k fill ++ text).mapM digit =
      (text.mapM digit).map (List.replicate k 0 ++ ·) := by
  induction k with
  | zero => simp
  | succ k ih =>
    rw [List.replicate_succ, List.cons_append, List.mapM_cons, zero, ih]
    cases text.mapM digit <;> rfl

theorem numeralValue_replicate (k : Nat) (digits : List Nat) :
    numeralValue base (List.replicate k 0 ++ digits) = numeralValue base digits := by
  induction k with
  | zero => rfl
  | succ k ih =>
    rw [← ih, List.replicate_succ, List.cons_append]
    unfold numeralValue
    rw [List.foldl_cons, Nat.zero_mul]

/-- Leading zeros change nothing. -/
theorem parseNumeral_leftpad (zero : digit fill = some 0) (width : Nat) :
    parseNumeral base digit (text.leftpad width fill) = parseNumeral base digit text := by
  unfold parseNumeral List.leftpad
  rw [mapM_replicate zero, Option.map_map]
  exact congrArg (Option.map · (text.mapM digit)) (funext fun digits => numeralValue_replicate _ _)

/-- Padding that is skipped. -/
theorem dropWhile_leftpad {p : α → Bool} (skipped : p fill) (head : ∀ c ∈ text.head?, ¬ p c)
    (width : Nat) : (text.leftpad width fill).dropWhile p = text := by
  unfold List.leftpad
  rw [List.dropWhile_append_of_pos fun c mem => (List.mem_replicate.mp mem).2 ▸ skipped]
  cases text with
  | nil => rfl
  | cons c text => exact List.dropWhile_cons_of_neg (head c rfl)

/-- The next field, and the text behind it. -/
def readField (width : Nat) (read : List α → Option β) (text : List α) : Option (β × List α) :=
  (read (text.take width)).map fun value => (value, text.drop width)

theorem readField_append {width : Nat} {read : List α → Option β} {field : List α} {value : β}
    (length : field.length = width) (reads : read field = some value) (rest : List α) :
    readField width read (field ++ rest) = some (value, rest) := by
  unfold readField
  rw [List.take_left' length, List.drop_left' length, reads]
  rfl

/-- A field that is always the same. -/
def literal [DecidableEq α] (expected field : List α) : Option Unit :=
  if field = expected then some () else none

end NewFramework.Lib
