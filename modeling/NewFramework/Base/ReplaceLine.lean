import NewFramework.Lib.Lines
import NewFramework.Lib.LineParser

/-!
# `ReplaceLineInFile`

`ReplaceLineInFile` is in `muduo/base/common.cpp`.  The file is read line by line into a buffer of
4096 characters, and what is to be written is put together in memory.
-/

namespace NewFramework.Base
open NewFramework.Lib

namespace ReplaceLine

def newlineChar : UInt8 := 10

/-- `sizeof(line)` -/
def sizeofLine : Nat := 4096

/-- A string in a buffer, up to its zero byte. -/
def cString (buffer : List UInt8) : List UInt8 := buffer.takeWhile (· ≠ 0)

/-- `in.getline(line, n)`: the line and what is left to read.  It fails where nothing is left, and
where the buffer is full before the line ends. -/
def getline (n : Nat) (input : List UInt8) : Option (List UInt8 × List UInt8) :=
  if input = [] then none
  else
    let line := input.takeWhile (· ≠ newlineChar)
    if line.length ≤ n - 1 then some (line, (input.dropWhile (· ≠ newlineChar)).tail) else none

/-- What is left is shorter. -/
theorem getline_lt {n : Nat} {input line rest : List UInt8}
    (read : getline n input = some (line, rest)) : rest.length < input.length := by
  unfold getline at read
  split at read
  · contradiction
  · next more =>
    dsimp only at read
    split at read
    · obtain ⟨-, rfl⟩ := Prod.mk.inj (Option.some.inj read)
      have shorter := (List.dropWhile_suffix (l := input) (· ≠ newlineChar)).length_le
      have pos := List.length_pos_iff.mpr more
      rw [List.length_tail]
      omega
    · contradiction

/-- What the loop adds for a line, in front of the line end. -/
def replaceLine (specifyLine newline line : List UInt8) : List UInt8 :=
  match search specifyLine (cString line) with
  | none => cString line
  | some _ => newline ++ cString (line.drop specifyLine.length)

/-- The `while` loop. -/
def replaceLoop (specifyLine newline input tempStr : List UInt8) : List UInt8 :=
  match _read : getline sizeofLine input with
  | none => tempStr
  | some (line, rest) =>
    replaceLoop specifyLine newline rest
      (tempStr ++ replaceLine specifyLine newline line ++ [newlineChar])
termination_by input.length
decreasing_by exact getline_lt _read

/-- `ReplaceLineInFile(fileName, SpecifyLine, newline)`: the file after it; `readable` and `writable`
say whether the file can be opened. -/
def replaceLineInFile (readable writable : Bool) (file specifyLine newline : List UInt8) :
    List UInt8 :=
  if !readable then file
  else
    let tempStr := replaceLoop specifyLine newline file []
    if !writable then file else tempStr

/-! ## The loop -/

variable {specifyLine newline file : List UInt8}

/-- The loop takes the lines up to the first one that is too long. -/
theorem replaceLoop_eq (specifyLine newline input tempStr : List UInt8) :
    replaceLoop specifyLine newline input tempStr = tempStr ++ unlines newlineChar
      (((lines newlineChar input).takeWhile (·.length ≤ sizeofLine - 1)).map
        (replaceLine specifyLine newline)) := by
  generalize length : input.length = n
  induction n using Nat.strong_induction_on generalizing input tempStr with
  | _ n ih =>
    rw [replaceLoop]
    split
    · next stops =>
      unfold getline at stops
      split at stops
      · next empty =>
        rw [empty]
        exact (List.append_nil tempStr).symm
      · next more =>
        dsimp only at stops
        split at stops
        · contradiction
        · next long =>
          rw [lines_eq_cons more, List.takeWhile_cons_of_neg (by simpa using long)]
          exact (List.append_nil tempStr).symm
    · next line rest read =>
      rw [ih rest.length (length ▸ getline_lt read) rest _ rfl]
      unfold getline at read
      split at read
      · contradiction
      · next more =>
        dsimp only at read
        split at read
        · next short =>
          obtain ⟨rfl, rfl⟩ := Prod.mk.inj (Option.some.inj read)
          rw [lines_eq_cons more, List.takeWhile_cons_of_pos (by simpa using short), List.map_cons,
            unlines_cons]
          simp only [List.append_assoc, List.singleton_append]
        · contradiction

/-- What is written. -/
theorem replaceLineInFile_eq (file specifyLine newline : List UInt8) :
    replaceLineInFile true true file specifyLine newline =
      unlines newlineChar (((lines newlineChar file).takeWhile (·.length ≤ sizeofLine - 1)).map
        (replaceLine specifyLine newline)) :=
  replaceLoop_eq specifyLine newline file []

/-! ## What is kept -/

/-- The line with the first occurrence replaced. -/
def replaceFirst (pattern replacement line : List UInt8) : List UInt8 :=
  match search pattern line with
  | none => line
  | some column =>
    line.take column ++ replacement ++ line.drop (column + pattern.length)

/-- The file that is written has the lines of the file that was read, with the first occurrence in
each replaced. -/
def KeepsRest (file specifyLine newline : List UInt8) : Prop :=
  IsText newlineChar ((lines newlineChar file).map (replaceFirst specifyLine newline))
    (replaceLineInFile true true file specifyLine newline)

/-- No line is longer than the buffer takes, and where the pattern is found behind the first column,
it makes no difference that the beginning of the line is replaced instead. -/
structure Fits (file specifyLine newline : List UInt8) : Prop where
  short : ∀ line ∈ lines newlineChar file, line.length ≤ sizeofLine - 1
  atStart : ∀ line ∈ lines newlineChar file, ∀ column, search specifyLine line = some column →
    newline ++ (line.drop specifyLine.length).take column = line.take column ++ newline

variable {line : List UInt8}

theorem cString_eq {l : List UInt8} (nulFree : 0 ∉ l) : cString l = l := by
  refine List.takeWhile_eq_self_iff.mpr ?_
  intro c mem
  simpa using ne_of_mem_of_not_mem mem nulFree

theorem replaceLine_eq (nulFree : 0 ∉ line) :
    replaceLine specifyLine newline line =
      match search specifyLine line with
      | none => line
      | some _ => newline ++ line.drop specifyLine.length := by
  have rest : 0 ∉ line.drop specifyLine.length := fun mem => nulFree (List.mem_of_mem_drop mem)
  unfold replaceLine
  rw [cString_eq nulFree, cString_eq rest]

theorem length_replaceLine (nulFree : 0 ∉ line) :
    (replaceLine specifyLine newline line).length =
      (replaceFirst specifyLine newline line).length := by
  rw [replaceLine_eq nulFree]
  unfold replaceFirst
  cases found : search specifyLine line with
  | none => rfl
  | some column =>
    have fits := search_le found
    simp only [List.length_append, List.length_take, List.length_drop]
    omega

theorem replaceLine_eq_replaceFirst_iff (nulFree : 0 ∉ line) :
    replaceLine specifyLine newline line = replaceFirst specifyLine newline line ↔
      ∀ column, search specifyLine line = some column →
        newline ++ (line.drop specifyLine.length).take column = line.take column ++ newline := by
  rw [replaceLine_eq nulFree]
  unfold replaceFirst
  cases found : search specifyLine line with
  | none => simp
  | some column =>
    have parts : line.drop specifyLine.length =
        (line.drop specifyLine.length).take column ++ line.drop (column + specifyLine.length) := by
      rw [Nat.add_comm column, ← List.drop_drop, List.take_append_drop]
    have cancel : newline ++ line.drop specifyLine.length =
        line.take column ++ newline ++ line.drop (column + specifyLine.length) ↔
        newline ++ (line.drop specifyLine.length).take column = line.take column ++ newline := by
      conv_lhs => rw [parts]
      rw [← List.append_assoc, List.append_left_inj]
    dsimp only
    rw [cancel]
    constructor
    · intro same column' eq
      obtain rfl := Option.some.inj eq
      exact same
    · intro all
      exact all column rfl

/-- The rest of the file is kept iff the lines fit the buffer and the pattern is where it would have
to be. -/
theorem keepsRest_iff (nulFree : 0 ∉ file) :
    KeepsRest file specifyLine newline ↔ Fits file specifyLine newline := by
  have clean : ∀ line ∈ lines newlineChar file, 0 ∉ line :=
    fun line mem nul => nulFree (mem_of_mem_lines mem nul)
  unfold KeepsRest
  rw [replaceLineInFile_eq, isText_takeWhile_iff fun line mem => length_replaceLine (clean line mem)]
  constructor
  · rintro ⟨short, same⟩
    refine ⟨fun line mem => by simpa using short line mem, ?_⟩
    intro line mem
    exact (replaceLine_eq_replaceFirst_iff (clean line mem)).mp (same line mem)
  · rintro ⟨short, atStart⟩
    refine ⟨fun line mem => by simpa using short line mem, ?_⟩
    intro line mem
    exact (replaceLine_eq_replaceFirst_iff (clean line mem)).mpr (atStart line mem)

/-- Where the rest is kept and the replacement is within a line, the lines that are written are the
lines that were read, with the first occurrence in each replaced. -/
theorem KeepsRest.lines_eq (keeps : KeepsRest file specifyLine newline)
    (within : newlineChar ∉ newline) :
    lines newlineChar (replaceLineInFile true true file specifyLine newline) =
      (lines newlineChar file).map (replaceFirst specifyLine newline) := by
  refine IsText.lines_eq keeps ?_
  intro l mem
  obtain ⟨line, there, rfl⟩ := List.mem_map.mp mem
  have free := not_mem_of_mem_lines there
  unfold replaceFirst
  cases search specifyLine line with
  | none => exact free
  | some column =>
    simp only [List.mem_append, not_or]
    exact ⟨⟨fun front => free (List.mem_of_mem_take front), within⟩,
      fun behind => free (List.mem_of_mem_drop behind)⟩

/-- A line that begins with the pattern, and one without it. -/
theorem keepsRest_iff_atStart : KeepsRest [97, 61, 98, 10, 99, 10] [97, 61] [97, 61, 120] := by
  have atStart : ∀ line ∈ lines newlineChar [97, 61, 98, 10, 99, 10],
      ∀ column ∈ search [97, 61] line,
        [97, 61, 120] ++ (line.drop 2).take column = line.take column ++ [97, 61, 120] := by
    decide
  exact (keepsRest_iff (by decide)).mpr ⟨by decide, atStart⟩

/-- The pattern `a=` behind a space: the space is gone and the equality sign is there twice. -/
theorem not_keepsRest_indented :
    ¬ KeepsRest [32, 97, 61, 98, 10] [97, 61] [120, 61] := by
  have written : replaceLineInFile true true [32, 97, 61, 98, 10] [97, 61] [120, 61] =
      [120, 61, 61, 98, 10] := (replaceLineInFile_eq _ _ _).trans (by decide)
  unfold KeepsRest IsText
  rw [written]
  decide

/-- A first line that the buffer does not take empties the file. -/
theorem erased_of_long {line : List UInt8} {rest : List (List UInt8)}
    (first : lines newlineChar file = line :: rest) (long : sizeofLine - 1 < line.length) :
    replaceLineInFile true true file specifyLine newline = [] := by
  rw [replaceLineInFile_eq, first, List.takeWhile_cons_of_neg (by simpa using long)]
  rfl

end ReplaceLine

end NewFramework.Base
