import Mathlib.Data.List.Infix
import Mathlib.Tactic.Common

/-!
# Trees of files and directories

A place in a tree is the list of the names on the way to it from the root, and a path is a list of
components that leads from one place to another.  `mkdir` makes one directory.  `makeAll` makes one
after the other the directories along a path, until it is refused one; `isDirectory_makeAll_iff`
says from the tree before it whether the end of the path is a directory after it.
-/

namespace NewFramework.Lib

inductive FileKind where
  | file
  | directory
  deriving DecidableEq, Repr

/-- A component of a path: `.`, `..`, or a name. -/
inductive Component (ν : Type*) where
  | dot
  | dotdot
  | name (n : ν)
  deriving DecidableEq, Repr

/-- What is at each place.  The root is a directory, and what exists is in a directory. -/
@[ext] structure FileTree (ν : Type*) where
  kind : List ν → Option FileKind
  root : kind [] = some .directory
  parent : ∀ p n, kind (p ++ [n]) ≠ none → kind p = some .directory

inductive MkdirResult where
  | created
  | eexist
  | other
  deriving DecidableEq, Repr

namespace FileTree

variable {ν : Type*} {t t' : FileTree ν} {p q : List ν} {cs : List (Component ν)}
  {c : Component ν}

/-- The place that a component leads to. -/
def step (p : List ν) : Component ν → List ν
  | .dot => p
  | .dotdot => p.dropLast
  | .name n => p ++ [n]

def walk (p : List ν) (cs : List (Component ν)) : List ν := cs.foldl step p

/-- The path leads from directory to directory. -/
def IsDirectory (t : FileTree ν) (p : List ν) : List (Component ν) → Prop
  | [] => t.kind p = some .directory
  | c :: cs => t.kind p = some .directory ∧ t.IsDirectory (step p c) cs

instance IsDirectory.decide (t : FileTree ν) (p : List ν) :
    (cs : List (Component ν)) → Decidable (t.IsDirectory p cs)
  | [] => inferInstanceAs (Decidable (t.kind p = some .directory))
  | c :: cs =>
    have := IsDirectory.decide t (step p c) cs
    inferInstanceAs (Decidable (_ ∧ _))

theorem walk_concat (p : List ν) (cs : List (Component ν)) (c : Component ν) :
    walk p (cs ++ [c]) = step (walk p cs) c := by
  unfold walk
  rw [List.foldl_append, List.foldl_cons, List.foldl_nil]

theorem isDirectory_concat :
    t.IsDirectory p (cs ++ [c]) ↔
      t.IsDirectory p cs ∧ t.kind (walk p (cs ++ [c])) = some .directory := by
  induction cs generalizing p with
  | nil => exact Iff.rfl
  | cons d cs ih =>
    rw [List.cons_append, IsDirectory, IsDirectory, ih, and_assoc]
    rfl

theorem IsDirectory.of_append {ds : List (Component ν)} (directory : t.IsDirectory p (cs ++ ds)) :
    t.IsDirectory p cs := by
  induction cs generalizing p with
  | nil =>
    cases ds with
    | nil => exact directory
    | cons d ds => exact directory.1
  | cons c cs ih => exact ⟨directory.1, ih directory.2⟩

theorem IsDirectory.last (directory : t.IsDirectory p cs) :
    t.kind (walk p cs) = some .directory := by
  rcases List.eq_nil_or_concat cs with rfl | ⟨cs, c, rfl⟩
  · exact directory
  · rw [List.concat_eq_append] at *
    exact (isDirectory_concat.mp directory).2

theorem IsDirectory.mono (directory : t.IsDirectory p cs)
    (keeps : ∀ q, t.kind q = some .directory → t'.kind q = some .directory) :
    t'.IsDirectory p cs := by
  induction cs generalizing p with
  | nil => exact keeps p directory
  | cons c cs ih => exact ⟨keeps p directory.1, ih directory.2⟩

/-- A directory is in a directory, and so is the root. -/
theorem kind_dropLast (directory : t.kind p = some .directory) :
    t.kind p.dropLast = some .directory := by
  rcases List.eq_nil_or_concat p with rfl | ⟨p, n, rfl⟩
  · exact t.root
  · rw [List.concat_eq_append, List.dropLast_concat]
    refine t.parent p n ?_
    rw [← List.concat_eq_append, directory]
    simp

/-! ## Along a path -/

/-- The paths lead one component further each, or no further, from `cs` to `final`. -/
inductive Chain {β : Type*} (comps : β → List (Component ν)) :
    List (Component ν) → List β → List (Component ν) → Prop
  | nil (cs : List (Component ν)) : Chain comps cs [] cs
  | same {d : β} {ds : List β} {cs final : List (Component ν)} (same : comps d = cs)
      (rest : Chain comps cs ds final) : Chain comps cs (d :: ds) final
  | longer {d : β} {ds : List β} {cs final : List (Component ν)} (c : Component ν)
      (longer : comps d = cs ++ [c]) (rest : Chain comps (cs ++ [c]) ds final) :
      Chain comps cs (d :: ds) final

variable {β : Type*} {comps : β → List (Component ν)} {refuses : β → Bool} {ds : List β}
  {final : List (Component ν)}

/-- The end of the chain is a directory where its start and the end of each path are. -/
theorem Chain.isDirectory_iff (chain : Chain comps cs ds final) :
    t.IsDirectory p final ↔
      t.IsDirectory p cs ∧ ∀ d ∈ ds, t.kind (walk p (comps d)) = some .directory := by
  induction chain with
  | nil cs => simp
  | same same rest ih =>
    rw [ih, List.forall_mem_cons, same]
    exact ⟨fun both => ⟨both.1, both.1.last, both.2⟩, fun all => ⟨all.1, all.2.2⟩⟩
  | longer c longer rest ih => rw [ih, List.forall_mem_cons, longer, isDirectory_concat, and_assoc]

variable [DecidableEq ν]

/-- A new directory in a directory. -/
def makeDirectory (t : FileTree ν) (p : List ν) (n : ν) (inside : t.kind p = some .directory) :
    FileTree ν where
  kind q := if q = p ++ [n] then some .directory else t.kind q
  root := by
    rw [if_neg (by simp)]
    exact t.root
  parent q m there := by
    by_cases self : q = p ++ [n]
    · rw [if_pos self]
    · rw [if_neg self]
      by_cases new : q ++ [m] = p ++ [n]
      · rw [(List.append_inj' new rfl).1]
        exact inside
      · rw [if_neg new] at there
        exact t.parent q m there

/-- `mkdir`, where it is not refused for a reason of its own.  It is refused where the path to the
new directory does not lead there. -/
def mkdir (t : FileTree ν) (p : List ν) (cs : List (Component ν)) : FileTree ν × MkdirResult :=
  match cs.getLast? with
  | none => (t, .eexist)
  | some last =>
    if inside : t.IsDirectory p cs.dropLast then
      match last with
      | .name n =>
        if t.kind (walk p cs.dropLast ++ [n]) = none then
          (t.makeDirectory (walk p cs.dropLast) n inside.last, .created)
        else (t, .eexist)
      | .dot | .dotdot => (t, .eexist)
    else (t, .other)

/-- There is a new directory at `q` and nothing else is new. -/
def Adds (t : FileTree ν) (q : List ν) (t' : FileTree ν) : Prop :=
  ∀ r, t'.kind r = if r = q then some .directory else t.kind r

/-- `mkdir` in a directory. -/
theorem mkdir_concat (inside : t.IsDirectory p cs) (c : Component ν) :
    t.kind (walk p (cs ++ [c])) = none ∧
        (∃ t', t.mkdir p (cs ++ [c]) = (t', .created) ∧ t.Adds (walk p (cs ++ [c])) t') ∨
      t.kind (walk p (cs ++ [c])) ≠ none ∧ t.mkdir p (cs ++ [c]) = (t, .eexist) := by
  rw [walk_concat]
  unfold mkdir
  simp only [List.getLast?_concat, List.dropLast_concat, inside, dite_true]
  cases c with
  | dot => exact .inr ⟨by simp [step, inside.last], rfl⟩
  | dotdot => exact .inr ⟨by simp [step, kind_dropLast inside.last], rfl⟩
  | name n =>
    by_cases free : t.kind (walk p cs ++ [n]) = none
    · simp only [step, free, if_true]
      exact .inl ⟨trivial, _, rfl, fun r => rfl⟩
    · simp only [step, free, if_false]
      exact .inr ⟨free, trivial⟩

/-- `mkdir` where there is a directory already. -/
theorem mkdir_of_isDirectory (directory : t.IsDirectory p cs) : t.mkdir p cs = (t, .eexist) := by
  rcases List.eq_nil_or_concat cs with rfl | ⟨cs, c, rfl⟩
  · rfl
  · rw [List.concat_eq_append] at *
    obtain ⟨inside, last⟩ := isDirectory_concat.mp directory
    rcases mkdir_concat inside c with ⟨none, -⟩ | ⟨-, exist⟩
    · rw [last] at none
      contradiction
    · exact exist

/-- `mkdir` changes nothing or makes the directory at the end of the path. -/
theorem mkdir_cases (t : FileTree ν) (p : List ν) (cs : List (Component ν)) :
    (t.mkdir p cs).1 = t ∨ t.kind (walk p cs) = none ∧ t.Adds (walk p cs) (t.mkdir p cs).1 := by
  rcases List.eq_nil_or_concat cs with rfl | ⟨cs, c, rfl⟩
  · exact .inl rfl
  · rw [List.concat_eq_append]
    by_cases inside : t.IsDirectory p cs
    · rcases mkdir_concat inside c with ⟨none, t', made, adds⟩ | ⟨-, exist⟩
      · rw [made]
        exact .inr ⟨none, adds⟩
      · rw [exist]
        exact .inl rfl
    · left
      unfold mkdir
      simp only [List.getLast?_concat, List.dropLast_concat, inside, dite_false]

theorem Adds.directory (adds : t.Adds q t') {r : List ν}
    (directory : t.kind r = some .directory) : t'.kind r = some .directory := by
  rw [adds]
  split
  · rfl
  · exact directory

/-! ## `mkdir` along a path -/

/-- `mkdir` for one path after the other, until one is refused. -/
def makeAll (comps : β → List (Component ν)) (refuses : β → Bool) (p : List ν) :
    FileTree ν → List β → FileTree ν
  | t, [] => t
  | t, d :: ds =>
    if refuses d then t
    else
      match t.mkdir p (comps d) with
      | (t, .other) => t
      | (t, _) => makeAll comps refuses p t ds

/-- What is new is a directory at the end of a path before the first refused one. -/
theorem makeAll_kind (q : List ν) :
    (makeAll comps refuses p t ds).kind q = t.kind q ∨
      t.kind q = none ∧ (makeAll comps refuses p t ds).kind q = some .directory ∧
        ∃ e ∈ ds.takeWhile (!refuses ·), walk p (comps e) = q := by
  induction ds generalizing t with
  | nil => exact .inl rfl
  | cons d ds ih =>
    rw [makeAll]
    split
    · exact .inl rfl
    · next allowed =>
      have first : (d :: ds).takeWhile (!refuses ·) = d :: ds.takeWhile (!refuses ·) :=
        List.takeWhile_cons_of_pos (by simpa using allowed)
      have one : (t.mkdir p (comps d)).1.kind q = t.kind q ∨ t.kind q = none ∧
          (t.mkdir p (comps d)).1.kind q = some .directory ∧ walk p (comps d) = q := by
        rcases mkdir_cases t p (comps d) with same | ⟨none, adds⟩
        · exact .inl (congrArg (fun t => t.kind q) same)
        · by_cases here : q = walk p (comps d)
          · subst here
            exact .inr ⟨none, (adds _).trans (if_pos rfl), rfl⟩
          · exact .inl ((adds q).trans (if_neg here))
      rw [first]
      have whole : ∀ last : FileTree ν, last.kind q = (t.mkdir p (comps d)).1.kind q ∨
          (t.mkdir p (comps d)).1.kind q = none ∧ last.kind q = some .directory ∧
            (∃ e ∈ ds.takeWhile (!refuses ·), walk p (comps e) = q) →
          last.kind q = t.kind q ∨ t.kind q = none ∧ last.kind q = some .directory ∧
            ∃ e ∈ d :: ds.takeWhile (!refuses ·), walk p (comps e) = q := by
        rintro last (same | ⟨absent, made, e, mem, eq⟩)
        · rcases one with still | ⟨none, made, eq⟩
          · exact .inl (same.trans still)
          · exact .inr ⟨none, same.trans made, d, List.mem_cons_self, eq⟩
        · rcases one with still | ⟨none, made', eq'⟩
          · exact .inr ⟨still.symm.trans absent, made, e, List.mem_cons_of_mem _ mem, eq⟩
          · exact .inr ⟨none, made, d, List.mem_cons_self, eq'⟩
      split
      · next t' other =>
        rw [other] at whole
        exact whole t' (.inl rfl)
      · next t' result other made =>
        rw [made] at whole
        exact whole _ ih

theorem makeAll_directory (directory : t.kind q = some .directory) :
    (makeAll comps refuses p t ds).kind q = some .directory := by
  have new : ((makeAll comps refuses p t ds).kind q = t.kind q) ∨ _ := makeAll_kind q
  rcases new with same | new
  · exact same.trans directory
  · exact new.2.1

theorem makeAll_cons {d : β} (allowed : refuses d = false) {result : MkdirResult}
    (made : t.mkdir p (comps d) = (t', result)) (goes_on : result ≠ .other) :
    makeAll comps refuses p t (d :: ds) = makeAll comps refuses p t' ds := by
  rw [makeAll, allowed, made]
  cases result with
  | other => contradiction
  | created => rfl
  | eexist => rfl

/-- One component further there is a directory, unless there is a file. -/
theorem mkdir_reaches (inside : t.IsDirectory p cs) {ds : List (Component ν)}
    (next : ds = cs ∨ ∃ c, ds = cs ++ [c]) (free : t.kind (walk p ds) ≠ some .file) :
    ∃ t' result, t.mkdir p ds = (t', result) ∧ result ≠ .other ∧ t'.IsDirectory p ds ∧
      ∀ q, t'.kind q = some .file → t.kind q = some .file := by
  rcases next with rfl | ⟨c, rfl⟩
  · exact ⟨t, .eexist, mkdir_of_isDirectory inside, by decide, inside, fun _ file => file⟩
  · rcases mkdir_concat inside c with ⟨none, t', made, adds⟩ | ⟨there, exist⟩
    · refine ⟨t', .created, made, by decide, ?_, ?_⟩
      · exact isDirectory_concat.mpr
          ⟨inside.mono fun q directory => adds.directory directory, (adds _).trans (if_pos rfl)⟩
      · intro q file
        rw [adds] at file
        split at file
        · contradiction
        · exact file
    · refine ⟨t, .eexist, exist, by decide, isDirectory_concat.mpr ⟨inside, ?_⟩, fun _ file => file⟩
      cases kind : t.kind (walk p (cs ++ [c])) with
      | none => exact absurd kind there
      | some kind' =>
        cases kind' with
        | file => exact absurd kind free
        | directory => rfl

/-- Where all is there, nothing changes. -/
theorem makeAll_eq_self
    (there : ∀ d ∈ ds, t.kind (walk p (comps d)) = some .directory) :
    makeAll comps refuses p t ds = t := by
  refine FileTree.ext (funext fun q => ?_)
  have new : ((makeAll comps refuses p t ds).kind q = t.kind q) ∨ _ := makeAll_kind q
  rcases new with same | ⟨none, -, e, mem, eq⟩
  · exact same
  · rw [← eq, there e (List.takeWhile_subset _ mem)] at none
    contradiction

/-- Where no file is in the way, every path before the first refused one is made. -/
theorem Chain.makeAll_reaches (chain : Chain comps cs ds final) (start : t.IsDirectory p cs)
    (free : ∀ d ∈ ds, t.kind (walk p (comps d)) ≠ some .file) :
    ∀ e ∈ ds.takeWhile (!refuses ·),
      (makeAll comps refuses p t ds).kind (walk p (comps e)) = some .directory := by
  have one : ∀ {t : FileTree ν} {d : β} {ds : List β} {cs : List (Component ν)},
      t.IsDirectory p cs → (comps d = cs ∨ ∃ c, comps d = cs ++ [c]) →
      (∀ e ∈ d :: ds, t.kind (walk p (comps e)) ≠ some .file) →
      (∀ {t : FileTree ν}, t.IsDirectory p (comps d) →
        (∀ e ∈ ds, t.kind (walk p (comps e)) ≠ some .file) →
        ∀ e ∈ ds.takeWhile (!refuses ·),
          (makeAll comps refuses p t ds).kind (walk p (comps e)) = some .directory) →
      ∀ e ∈ (d :: ds).takeWhile (!refuses ·),
        (makeAll comps refuses p t (d :: ds)).kind (walk p (comps e)) = some .directory := by
    intro t d ds cs inside next free later e mem
    cases allowed : refuses d with
    | true =>
      rw [List.takeWhile_cons_of_neg (by simp [allowed])] at mem
      contradiction
    | false =>
      rw [List.takeWhile_cons_of_pos (by simp [allowed])] at mem
      obtain ⟨t', result, made, goes_on, reached, old⟩ :=
        mkdir_reaches inside next (free d List.mem_cons_self)
      rw [makeAll_cons allowed made goes_on]
      rcases List.mem_cons.mp mem with rfl | mem
      · exact makeAll_directory reached.last
      · exact later reached (fun e there file => free e (List.mem_cons_of_mem _ there) (old _ file))
          e mem
  induction chain generalizing t with
  | nil => simp
  | same same rest ih =>
    refine one start (.inl same) free ?_
    rw [same]
    exact ih
  | longer c longer rest ih =>
    refine one start (.inr ⟨c, longer⟩) free ?_
    rw [longer]
    exact ih

/-- After it the end of the path is a directory iff each path on the way ends at a directory before
it, or at nothing, and then one that ends there comes before the first refused one. -/
theorem Chain.isDirectory_makeAll_iff (chain : Chain comps cs ds final)
    (start : t.IsDirectory p cs) :
    (makeAll comps refuses p t ds).IsDirectory p final ↔
      ∀ d ∈ ds, t.kind (walk p (comps d)) = some .directory ∨
        t.kind (walk p (comps d)) = none ∧
          ∃ e ∈ ds.takeWhile (!refuses ·), walk p (comps e) = walk p (comps d) := by
  constructor
  · intro directory d mem
    have made := (chain.isDirectory_iff.mp directory).2 d mem
    have new : ((makeAll comps refuses p t ds).kind _ = t.kind _) ∨ _ :=
      makeAll_kind (walk p (comps d))
    rcases new with same | ⟨none, -, before⟩
    · exact .inl (same.symm.trans made)
    · exact .inr ⟨none, before⟩
  · intro all
    have free : ∀ d ∈ ds, t.kind (walk p (comps d)) ≠ some .file := by
      intro d mem file
      rcases all d mem with there | ⟨none, -⟩
      · rw [there] at file
        contradiction
      · rw [none] at file
        contradiction
    refine chain.isDirectory_iff.mpr ⟨start.mono fun q => makeAll_directory, ?_⟩
    intro d mem
    rcases all d mem with there | ⟨-, e, before, eq⟩
    · exact makeAll_directory there
    · rw [← eq]
      exact chain.makeAll_reaches start free e before

end FileTree

end NewFramework.Lib
