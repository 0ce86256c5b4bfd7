import NewFramework.Lib.LineParser

/-!
# Lines

The lines of a text are what stands in front of its line ends, and what is behind the last of them
unless that is empty.  `unlines` puts a line end behind each line; `IsText` says that a text has these
lines, the last of which may be without its line end.
-/

namespace NewFramework.Lib

variable {α : Type*} {nl : α} {ls : List (List α)} {text : List α}

/-- The lines of a text that goes on behind `piece`. -/
def linesFrom [DecidableEq α] (nl : α) (piece : List α) : List α → List (List α)
  | [] => if piece = [] then [] else [piece]
  | c :: rest =>
    if c = nl then piece :: linesFrom nl [] rest else linesFrom nl (piece ++ [c]) rest

def lines [DecidableEq α] (nl : α) (text : List α) : List (List α) := linesFrom nl [] text

def unlines (nl : α) (ls : List (List α)) : List α := ls.flatMap (· ++ [nl])

/-- The text has these lines. -/
def IsText (nl : α) (ls : List (List α)) (text : List α) : Prop :=
  text = unlines nl ls ∨ text ++ [nl] = unlines nl ls ∧ ls.getLast? ≠ some []

theorem unlines_cons (l : List α) (ls : List (List α)) :
    unlines nl (l :: ls) = l ++ nl :: unlines nl ls := by
  unfold unlines
  rw [List.flatMap_cons, List.append_assoc, List.singleton_append]

theorem unlines_append (ls ms : List (List α)) :
    unlines nl (ls ++ ms) = unlines nl ls ++ unlines nl ms :=
  List.flatMap_append

theorem unlines_eq_nil : unlines nl ls = [] ↔ ls = [] := by
  cases ls with
  | nil => exact iff_of_true rfl rfl
  | cons l ls =>
    rw [unlines_cons]
    simp

theorem isText_cons {l m : List α} (length : l.length = m.length) :
    IsText nl (m :: ls) (l ++ nl :: text) ↔ l = m ∧ IsText nl ls text := by
  unfold IsText
  rw [unlines_cons, List.append_assoc, List.cons_append]
  have tail : ∀ rest, l ++ nl :: rest = m ++ nl :: unlines nl ls ↔ l = m ∧ rest = unlines nl ls := by
    intro rest
    constructor
    · intro same
      obtain ⟨first, later⟩ := List.append_inj same length
      exact ⟨first, (List.cons.inj later).2⟩
    · rintro ⟨rfl, rfl⟩
      rfl
  have last : text ++ [nl] = unlines nl ls → (m :: ls).getLast? = ls.getLast? := by
    intro ended
    have more : ls ≠ [] := by
      rintro rfl
      simp [unlines] at ended
    obtain ⟨k, ks, rfl⟩ := List.exists_cons_of_ne_nil more
    exact List.getLast?_cons_cons
  rw [tail, tail, and_assoc, ← and_or_left]
  refine and_congr_right fun _ => or_congr_right (and_congr_right ?_)
  intro ended
  rw [last ended]

/-- Nothing is the text of no line. -/
theorem not_isText_nil (m : List α) : ¬ IsText nl (m :: ls) [] := by
  rintro (empty | ⟨ended, last⟩)
  · rw [unlines_cons] at empty
    simp at empty
  · rw [unlines_cons] at ended
    cases m with
    | nil =>
      have none_left : unlines nl ls = [] := (List.cons.inj ended).2.symm
      rw [unlines_eq_nil.mp none_left] at last
      exact last rfl
    | cons c m => simp at ended

/-- Lines that are written one by one up to some line, in the lengths that they should have, make the
text iff all are written and are as they should be. -/
theorem isText_takeWhile_iff {β : Type*} {f g : β → List α} {p : β → Bool} {ms : List β}
    (lengths : ∀ m ∈ ms, (f m).length = (g m).length) :
    IsText nl (ms.map g) (unlines nl ((ms.takeWhile p).map f)) ↔
      (∀ m ∈ ms, p m) ∧ ∀ m ∈ ms, f m = g m := by
  induction ms with
  | nil => exact iff_of_true (.inl rfl) (by simp)
  | cons m ms ih =>
    have rest := ih fun k mem => lengths k (List.mem_cons_of_mem _ mem)
    rw [List.forall_mem_cons, List.forall_mem_cons, List.map_cons]
    by_cases taken : p m
    · rw [List.takeWhile_cons_of_pos taken, List.map_cons, unlines_cons,
        isText_cons (lengths m List.mem_cons_self), rest]
      tauto
    · rw [List.takeWhile_cons_of_neg taken]
      exact iff_of_false (not_isText_nil _) fun both => taken both.1.1

section

variable [DecidableEq α]

theorem linesFrom_append {piece l : List α} (free : nl ∉ l) (rest : List α) :
    linesFrom nl piece (l ++ rest) = linesFrom nl (piece ++ l) rest := by
  induction l generalizing piece with
  | nil => rw [List.nil_append, List.append_nil]
  | cons c l ih =>
    rw [List.cons_append, linesFrom, if_neg (List.ne_of_not_mem_cons free).symm,
      ih (List.not_mem_of_not_mem_cons free), List.append_assoc, List.singleton_append]

/-- The first line and the others. -/
theorem lines_line {l : List α} (free : nl ∉ l) (rest : List α) :
    lines nl (l ++ nl :: rest) = l :: lines nl rest := by
  unfold lines
  rw [linesFrom_append free]
  exact if_pos rfl

/-- A last line without its line end. -/
theorem lines_last {l : List α} (some_char : l ≠ []) (free : nl ∉ l) : lines nl l = [l] := by
  have whole : linesFrom nl [] (l ++ []) = linesFrom nl ([] ++ l) [] := linesFrom_append free []
  rw [List.append_nil, List.nil_append] at whole
  unfold lines
  rw [whole]
  exact if_neg some_char

/-- The first line is what stands in front of the first line end. -/
theorem lines_eq_cons (some_char : text ≠ []) :
    lines nl text = text.takeWhile (· ≠ nl) :: lines nl (text.dropWhile (· ≠ nl)).tail := by
  by_cases mem : nl ∈ text
  · have whole := dropWhile_ne_cons (dropWhile_ne_of_mem mem)
    have split : text = text.takeWhile (· ≠ nl) ++ nl :: (text.dropWhile (· ≠ nl)).tail := by
      rw [← dropWhile_ne_of_mem mem]
      exact List.takeWhile_append_dropWhile.symm
    conv_lhs => rw [split]
    exact lines_line (not_mem_takeWhile_ne text) _
  · have all : text.takeWhile (· ≠ nl) = text := by
      refine List.takeWhile_eq_self_iff.mpr ?_
      intro c there
      simpa using ne_of_mem_of_not_mem there mem
    have none_left : text.dropWhile (· ≠ nl) = [] := by
      have whole := List.takeWhile_append_dropWhile (p := (· ≠ nl)) (l := text)
      rw [all] at whole
      simpa using whole
    rw [all, none_left]
    exact lines_last some_char mem

theorem mem_of_mem_linesFrom {piece l : List α} (mem : l ∈ linesFrom nl piece text) {c : α}
    (there : c ∈ l) : c ∈ piece ∨ c ∈ text := by
  induction text generalizing piece with
  | nil =>
    unfold linesFrom at mem
    split at mem
    · contradiction
    · rw [List.mem_singleton.mp mem] at there
      exact .inl there
  | cons d text ih =>
    rw [linesFrom] at mem
    split at mem
    · rcases List.mem_cons.mp mem with rfl | mem
      · exact .inl there
      · exact .inr (List.mem_cons_of_mem _ ((ih mem).resolve_left List.not_mem_nil))
    · rcases ih mem with old | later
      · rcases List.mem_append.mp old with old | here
        · exact .inl old
        · rw [List.mem_singleton.mp here]
          exact .inr List.mem_cons_self
      · exact .inr (List.mem_cons_of_mem _ later)

/-- The characters of a line are characters of the text. -/
theorem mem_of_mem_lines {l : List α} (mem : l ∈ lines nl text) {c : α} (there : c ∈ l) :
    c ∈ text :=
  (mem_of_mem_linesFrom mem there).resolve_left List.not_mem_nil

theorem not_mem_of_mem_linesFrom {piece l : List α} (free : nl ∉ piece)
    (mem : l ∈ linesFrom nl piece text) : nl ∉ l := by
  induction text generalizing piece with
  | nil =>
    unfold linesFrom at mem
    split at mem
    · contradiction
    · rw [List.mem_singleton.mp mem]
      exact free
  | cons d text ih =>
    rw [linesFrom] at mem
    split at mem
    · rcases List.mem_cons.mp mem with rfl | mem
      · exact free
      · exact ih List.not_mem_nil mem
    · next other =>
      refine ih ?_ mem
      intro there
      rcases List.mem_append.mp there with there | here
      · exact free there
      · exact other (List.mem_singleton.mp here).symm

/-- No line has a line end in it. -/
theorem not_mem_of_mem_lines {l : List α} (mem : l ∈ lines nl text) : nl ∉ l :=
  not_mem_of_mem_linesFrom List.not_mem_nil mem

theorem lines_unlines_append (free : ∀ l ∈ ls, nl ∉ l) (rest : List α) :
    lines nl (unlines nl ls ++ rest) = ls ++ lines nl rest := by
  induction ls with
  | nil => rfl
  | cons l ls ih =>
    rw [unlines_cons, List.append_assoc, List.cons_append, lines_line (free l List.mem_cons_self),
      ih fun m mem => free m (List.mem_cons_of_mem _ mem), List.cons_append]

/-- Lines without line ends are the lines of each of their texts. -/
theorem IsText.lines_eq (isText : IsText nl ls text) (free : ∀ l ∈ ls, nl ∉ l) :
    lines nl text = ls := by
  rcases isText with rfl | ⟨ended, last⟩
  · have whole := lines_unlines_append free []
    rw [List.append_nil] at whole
    exact whole.trans (List.append_nil ls)
  · rcases List.eq_nil_or_concat ls with rfl | ⟨ms, l, rfl⟩
    · simp [unlines] at ended
    · rw [List.concat_eq_append] at *
      rw [unlines_append, show unlines nl [l] = l ++ [nl] by simp [unlines], ← List.append_assoc]
        at ended
      have some_char : l ≠ [] := by
        rintro rfl
        exact last (by simp)
      rw [(List.append_inj' ended rfl).1,
        lines_unlines_append fun m mem => free m (List.mem_append_left _ mem),
        lines_last some_char (free l (by simp))]

end

end NewFramework.Lib
