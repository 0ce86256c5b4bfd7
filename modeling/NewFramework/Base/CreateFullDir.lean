import NewFramework.Lib.FileTree

/-!
# `CreateFullDir`

`CreateFullDir` is in `muduo/base/common.cpp`.  Paths are byte strings.  `mkdir` and `opendir` may
fail for reasons that are not in the tree: `refuses` says for which directories `mkdir` does, with
another error than `EEXIST`, and `opens` for which `opendir` does not.
-/

namespace NewFramework.Base
open NewFramework.Lib

abbrev PathString := List UInt8

def slash : UInt8 := 47

namespace PathString

/-- What stands between two slashes, where an empty piece counts for nothing. -/
def component : PathString → List (Component PathString)
  | [] => []
  | [46] => [.dot]
  | [46, 46] => [.dotdot]
  | n => [.name n]

/-- The components of a path that goes on behind `piece`. -/
def componentsFrom (piece : PathString) : PathString → List (Component PathString)
  | [] => component piece
  | ch :: rest =>
    if ch = slash then component piece ++ componentsFrom [] rest
    else componentsFrom (piece ++ [ch]) rest

def components (path : PathString) : List (Component PathString) := componentsFrom [] path

/-- Where a path starts: an absolute one at the root, a relative one in the working directory. -/
def start (cwd : List PathString) (path : PathString) : List PathString :=
  if path.head? = some slash then [] else cwd

/-- Where a path leads. -/
def place (cwd : List PathString) (path : PathString) : List PathString :=
  FileTree.walk (start cwd path) (components path)

end PathString

open PathString

/-- The path is that of a directory. -/
def IsDirectory (cwd : List PathString) (tree : FileTree PathString) (path : PathString) : Prop :=
  tree.IsDirectory (start cwd path) (components path)

instance (cwd : List PathString) (tree : FileTree PathString) (path : PathString) :
    Decidable (IsDirectory cwd tree path) :=
  FileTree.IsDirectory.decide tree (start cwd path) (components path)

section

variable (opens refuses : PathString → Bool) (cwd : List PathString)

/-- `isPathExist(lpszdir)` -/
def isPathExist (tree : FileTree PathString) (lpszdir : PathString) : Bool :=
  opens lpszdir && decide (IsDirectory cwd tree lpszdir)

/-- `::mkdir(dir.c_str(), mode)` -/
def mkdir (tree : FileTree PathString) (dir : PathString) :
    FileTree PathString × MkdirResult :=
  if refuses dir then (tree, .other) else tree.mkdir (start cwd dir) (components dir)

/-- The loop of `mkpath`, which comes to one slash after the other; `dir` is what is in front. -/
def mkpathFrom (tree : FileTree PathString) (mdret : Int) (dir : PathString) :
    PathString → FileTree PathString × Int
  | [] => (tree, mdret)
  | ch :: rest =>
    if ch = slash then
      if dir.length = 0 then mkpathFrom tree mdret (dir ++ [ch]) rest
      else
        match mkdir refuses cwd tree dir with
        | (tree, .created) => mkpathFrom tree 0 (dir ++ [ch]) rest
        | (tree, .eexist) => mkpathFrom tree (-1) (dir ++ [ch]) rest
        | (tree, .other) => (tree, -1)
    else mkpathFrom tree mdret (dir ++ [ch]) rest

/-- `s` with the trailing slash that `mkpath` forces. -/
def withSlash (s : PathString) : PathString :=
  if s.getLast? ≠ some slash then s ++ [slash] else s

/-- `mkpath(s)`; `mdret` starts with what happens to be in the variable. -/
def mkpath (tree : FileTree PathString) (mdret : Int) (s : PathString) :
    FileTree PathString × Int :=
  mkpathFrom refuses cwd tree mdret [] (withSlash s)

/-- A pointer as a `bool`. -/
def boolOfPointer {α : Type*} (pointer : Option α) : Bool := pointer.isSome

/-- `CreateFullDir(lpszdir)`: the tree after it and what it returns. -/
def createFullDir (mdret : Int) (tree : FileTree PathString) (lpszdir : PathString) :
    FileTree PathString × Bool :=
  if isPathExist opens cwd tree lpszdir then (tree, true)
  else
    let (tree, mdret) := mkpath refuses cwd tree mdret lpszdir
    (tree, boolOfPointer (if mdret ≠ 0 then some "false" else some "true"))

end

/-! ## The directories on the way -/

/-- The paths that the loop calls `mkdir` for, in this order. -/
def dirsFrom (dir : PathString) : PathString → List PathString
  | [] => []
  | ch :: rest =>
    if ch = slash ∧ dir ≠ [] then dir :: dirsFrom (dir ++ [ch]) rest
    else dirsFrom (dir ++ [ch]) rest

def dirs (path : PathString) : List PathString := dirsFrom [] (withSlash path)

variable {opens refuses : PathString → Bool} {cwd p : List PathString}
  {tree : FileTree PathString} {path : PathString} {mdret : Int}

theorem componentsFrom_slash (piece front rest : PathString) :
    componentsFrom piece (front ++ slash :: rest) =
      componentsFrom piece front ++ components rest := by
  induction front generalizing piece with
  | nil =>
    rw [List.nil_append]
    exact if_pos rfl
  | cons ch front ih =>
    rw [List.cons_append, componentsFrom, componentsFrom]
    split
    · rw [ih, List.append_assoc]
    · rw [ih]

theorem componentsFrom_of_not_mem {piece rest : PathString} (free : slash ∉ rest) :
    componentsFrom piece rest = component (piece ++ rest) := by
  induction rest generalizing piece with
  | nil => rw [componentsFrom, List.append_nil]
  | cons ch rest ih =>
    rw [componentsFrom, if_neg (List.ne_of_not_mem_cons free).symm,
      ih (List.not_mem_of_not_mem_cons free), List.append_assoc]
    rfl

theorem components_concat_slash (front : PathString) :
    components (front ++ [slash]) = components front := by
  unfold components
  rw [componentsFrom_slash]
  exact List.append_nil _

theorem components_withSlash (path : PathString) : components (withSlash path) = components path := by
  unfold withSlash
  split
  · exact components_concat_slash path
  · rfl

/-- A piece behind a slash adds its component. -/
theorem components_append {base piece : PathString}
    (whole : base = [] ∨ base.getLast? = some slash) (free : slash ∉ piece) :
    components (base ++ piece) = components base ++ component piece := by
  rcases whole with rfl | last
  · exact componentsFrom_of_not_mem free
  · obtain ⟨front, rfl⟩ : ∃ front, base = front ++ [slash] :=
      ⟨base.dropLast, (List.dropLast_append_getLast? slash last).symm⟩
    rw [components_concat_slash, List.append_assoc, List.singleton_append, components,
      componentsFrom_slash]
    exact congrArg _ (componentsFrom_of_not_mem free)

theorem component_cases (piece : PathString) : component piece = [] ∨ ∃ c, component piece = [c] := by
  unfold component
  split
  · exact .inl rfl
  · exact .inr ⟨_, rfl⟩
  · exact .inr ⟨_, rfl⟩
  · exact .inr ⟨_, rfl⟩

/-- From slash to slash a path has one component more, or none. -/
theorem chain_dirsFrom {base piece rest : PathString}
    (whole : base = [] ∨ base.getLast? = some slash) (free : slash ∉ piece)
    (last : rest.getLast? = some slash ∨ rest = [] ∧ piece = []) :
    FileTree.Chain components (components base) (dirsFrom (base ++ piece) rest)
      (components (base ++ piece ++ rest)) := by
  induction rest generalizing base piece with
  | nil =>
    rcases last with last | ⟨-, rfl⟩
    · contradiction
    · rw [List.append_nil, List.append_nil]
      exact .nil _
  | cons ch rest ih =>
    have later : rest.getLast? = some slash ∨ rest = [] := by
      rcases last with last | ⟨empty, -⟩
      · cases rest with
        | nil => exact .inr rfl
        | cons d rest => exact .inl (by rwa [List.getLast?_cons_cons] at last)
      · contradiction
    have assoc : base ++ piece ++ ch :: rest = base ++ (piece ++ [ch]) ++ rest := by simp
    have assoc' : base ++ piece ++ [ch] = base ++ (piece ++ [ch]) := List.append_assoc _ _ _
    rw [dirsFrom]
    by_cases isSlash : ch = slash
    · subst isSlash
      have whole' : base ++ piece ++ [slash] = [] ∨
          (base ++ piece ++ [slash]).getLast? = some slash := .inr (by simp)
      have next := ih whole' List.not_mem_nil (later.imp_right fun empty => ⟨empty, rfl⟩)
      rw [components_concat_slash, components_append whole free, List.append_nil,
        List.append_assoc _ [slash], List.singleton_append] at next
      by_cases empty : base ++ piece = []
      · obtain ⟨rfl, rfl⟩ := List.append_eq_nil_iff.mp empty
        rw [if_neg (by simp)]
        exact next
      · rw [if_pos ⟨rfl, empty⟩]
        rcases component_cases piece with none | ⟨c, one⟩
        · rw [none, List.append_nil] at next
          refine .same ?_ next
          rw [components_append whole free, none, List.append_nil]
        · rw [one] at next
          refine .longer c ?_ next
          rw [components_append whole free, one]
    · rw [if_neg fun both => isSlash both.1, assoc, assoc']
      refine ih whole ?_ ?_
      · intro mem
        rcases List.mem_append.mp mem with mem | mem
        · exact free mem
        · exact isSlash (List.mem_singleton.mp mem).symm
      · rcases later with later | rfl
        · exact .inl later
        · rcases last with last | ⟨empty, -⟩
          · exact absurd (Option.some.inj last) isSlash
          · contradiction

/-- The directories on the way are what stands in front of a slash. -/
theorem mem_dirsFrom_iff {dir rest d : PathString} :
    d ∈ dirsFrom dir rest ↔
      d ≠ [] ∧ ∃ front behind, rest = front ++ slash :: behind ∧ d = dir ++ front := by
  induction rest generalizing dir with
  | nil => simp [dirsFrom]
  | cons ch rest ih =>
    have first : (∃ front behind, ch :: rest = front ++ slash :: behind ∧ d = dir ++ front) ↔
        (ch = slash ∧ d = dir) ∨
          ∃ front behind, rest = front ++ slash :: behind ∧ d = dir ++ [ch] ++ front := by
      constructor
      · rintro ⟨front, behind, eq, rfl⟩
        cases front with
        | nil =>
          obtain ⟨rfl, rfl⟩ := List.cons.inj eq
          exact .inl ⟨rfl, List.append_nil dir⟩
        | cons c front =>
          obtain ⟨rfl, rfl⟩ := List.cons.inj eq
          exact .inr ⟨front, behind, rfl, List.append_cons dir _ front⟩
      · rintro (⟨rfl, rfl⟩ | ⟨front, behind, rfl, rfl⟩)
        · exact ⟨[], rest, rfl, (List.append_nil d).symm⟩
        · exact ⟨ch :: front, behind, rfl, (List.append_cons dir _ front).symm⟩
    rw [first, and_or_left, ← ih, dirsFrom]
    split
    · next here =>
      rw [List.mem_cons]
      refine or_congr_left ⟨?_, fun both => both.2.2⟩
      rintro rfl
      exact ⟨here.2, here.1, rfl⟩
    · next goes_on =>
      refine (or_iff_right ?_).symm
      rintro ⟨some_char, isSlash, rfl⟩
      exact goes_on ⟨isSlash, some_char⟩

/-- The path itself is one of them, and so is all of it in front of a slash. -/
theorem mem_dirs_iff {d : PathString} :
    d ∈ dirs path ↔ d ≠ [] ∧ ∃ behind, withSlash path = d ++ slash :: behind := by
  unfold dirs
  rw [mem_dirsFrom_iff]
  constructor
  · rintro ⟨some_char, front, behind, eq, rfl⟩
    exact ⟨some_char, behind, eq⟩
  · rintro ⟨some_char, behind, eq⟩
    exact ⟨some_char, d, behind, eq, rfl⟩

theorem dirsFrom_stop {dir : PathString} (some_char : dir ≠ []) (rest : PathString) :
    dirsFrom dir (slash :: rest) = dir :: dirsFrom (dir ++ [slash]) rest :=
  if_pos ⟨rfl, some_char⟩

theorem dirsFrom_skip {dir : PathString} {ch : UInt8} (goes_on : ¬ (ch = slash ∧ dir ≠ []))
    (rest : PathString) : dirsFrom dir (ch :: rest) = dirsFrom (dir ++ [ch]) rest :=
  if_neg goes_on

/-- The loop makes the directories on the way. -/
theorem mkpathFrom_tree {dir rest : PathString} (same : ∀ d ∈ dirsFrom dir rest, start cwd d = p) :
    (mkpathFrom refuses cwd tree mdret dir rest).1 =
      FileTree.makeAll components refuses p tree (dirsFrom dir rest) := by
  induction rest generalizing tree mdret dir with
  | nil => rfl
  | cons ch rest ih =>
    rw [mkpathFrom]
    by_cases isSlash : ch = slash
    · subst isSlash
      rw [if_pos rfl]
      by_cases empty : dir = []
      · have skip : dirsFrom dir (slash :: rest) = dirsFrom (dir ++ [slash]) rest :=
          dirsFrom_skip (fun both => both.2 empty) rest
        rw [skip] at same ⊢
        rw [if_pos (by simp [empty])]
        exact ih same
      · rw [dirsFrom_stop empty] at same ⊢
        have later := fun d mem => same d (List.mem_cons_of_mem _ mem)
        rw [if_neg (by simpa using empty), FileTree.makeAll, mkdir, same dir List.mem_cons_self]
        cases refuses dir with
        | true => rfl
        | false =>
          rcases tree.mkdir p (components dir) with ⟨tree', result⟩
          cases result with
          | created => exact ih later
          | eexist => exact ih later
          | other => rfl
    · rw [dirsFrom_skip fun both => isSlash both.1] at same ⊢
      rw [if_neg isSlash]
      exact ih same

theorem chain_dirs (path : PathString) :
    FileTree.Chain components [] (dirs path) (components path) := by
  have last : (withSlash path).getLast? = some slash := by
    unfold withSlash
    split
    · simp
    · next there => simpa using there
  have first : ([] : PathString) = [] ∨ ([] : PathString).getLast? = some slash := .inl rfl
  have chain := chain_dirsFrom first List.not_mem_nil (.inl last)
  rwa [List.append_nil, List.nil_append, components_withSlash] at chain

variable (some_char : path ≠ [])
include some_char

theorem head?_withSlash : (withSlash path).head? = path.head? := by
  unfold withSlash
  split
  · exact List.head?_append_of_ne_nil _ some_char
  · rfl

theorem start_of_mem_dirs {d : PathString} (mem : d ∈ dirs path) : start cwd d = start cwd path := by
  obtain ⟨some_char', behind, eq⟩ := mem_dirs_iff.mp mem
  have head := head?_withSlash some_char
  rw [eq, List.head?_append_of_ne_nil _ some_char'] at head
  unfold start
  rw [head]

theorem mkpath_tree :
    (mkpath refuses cwd tree mdret path).1 =
      FileTree.makeAll components refuses (start cwd path) tree (dirs path) :=
  mkpathFrom_tree fun _ mem => start_of_mem_dirs some_char mem

omit some_char

/-! ## What `CreateFullDir` reports -/

/-- It returns true, whatever has happened. -/
theorem createFullDir_result : (createFullDir opens refuses cwd mdret tree path).2 = true := by
  unfold createFullDir
  split
  · rfl
  · show boolOfPointer _ = true
    split <;> rfl

/-- A tree with a working directory in it. -/
structure FileSystem where
  tree : FileTree PathString
  cwd : List PathString
  inside : tree.kind cwd = some .directory

theorem FileSystem.isDirectory_start (fs : FileSystem) (path : PathString) :
    fs.tree.IsDirectory (start fs.cwd path) [] := by
  show fs.tree.kind (start fs.cwd path) = some .directory
  unfold start
  split
  · exact fs.tree.root
  · exact fs.inside

/-- The result of `CreateFullDir` says whether the path is that of a directory; where it is true the
paths in front of its slashes are, too; and the call made again changes nothing and returns true. -/
structure ReportsTruth (opens refuses : PathString → Bool) (mdret : Int) (fs : FileSystem)
    (path : PathString) : Prop where
  truth : (createFullDir opens refuses fs.cwd mdret fs.tree path).2 = true ↔
    IsDirectory fs.cwd (createFullDir opens refuses fs.cwd mdret fs.tree path).1 path
  prefixes : (createFullDir opens refuses fs.cwd mdret fs.tree path).2 = true →
    ∀ front rest, path = front ++ slash :: rest → front ≠ [] →
      IsDirectory fs.cwd (createFullDir opens refuses fs.cwd mdret fs.tree path).1 front
  again : ∀ tree opens refuses mdret, IsDirectory fs.cwd tree path →
    createFullDir opens refuses fs.cwd mdret tree path = (tree, true)

/-- Each directory on the way to the path is there, or there is nothing in its place and it is made
before the first `mkdir` that is refused. -/
def Creatable (refuses : PathString → Bool) (fs : FileSystem) (path : PathString) : Prop :=
  ∀ d ∈ dirs path, fs.tree.kind (place fs.cwd d) = some .directory ∨
    fs.tree.kind (place fs.cwd d) = none ∧
      ∃ e ∈ (dirs path).takeWhile (!refuses ·), place fs.cwd e = place fs.cwd d

variable {fs : FileSystem}

theorem createFullDir_again (some_char : path ≠ []) (directory : IsDirectory cwd tree path) :
    createFullDir opens refuses cwd mdret tree path = (tree, true) := by
  have there := ((chain_dirs path).isDirectory_iff.mp directory).2
  have same : (createFullDir opens refuses cwd mdret tree path).1 = tree := by
    unfold createFullDir
    split
    · rfl
    · exact (mkpath_tree some_char).trans (FileTree.makeAll_eq_self there)
  exact Prod.ext same createFullDir_result

/-- After the call the path is that of a directory iff it could be made one. -/
theorem isDirectory_createFullDir_iff (some_char : path ≠ []) :
    IsDirectory fs.cwd (createFullDir opens refuses fs.cwd mdret fs.tree path).1 path ↔
      Creatable refuses fs path := by
  have chain := chain_dirs path
  have start_of : ∀ d ∈ dirs path,
      place fs.cwd d = FileTree.walk (start fs.cwd path) (components d) := by
    intro d mem
    rw [place, start_of_mem_dirs some_char mem]
  have creatable : Creatable refuses fs path ↔ ∀ d ∈ dirs path,
      fs.tree.kind (FileTree.walk (start fs.cwd path) (components d)) = some .directory ∨
        fs.tree.kind (FileTree.walk (start fs.cwd path) (components d)) = none ∧
          ∃ e ∈ (dirs path).takeWhile (!refuses ·),
            FileTree.walk (start fs.cwd path) (components e) =
              FileTree.walk (start fs.cwd path) (components d) := by
    refine forall₂_congr fun d mem => ?_
    rw [start_of d mem]
    refine or_congr_right (and_congr_right fun _ => exists_congr fun e => and_congr_right ?_)
    intro before
    rw [start_of e (List.takeWhile_subset _ before)]
  rw [creatable]
  unfold createFullDir
  split
  · next exist =>
    have directory : IsDirectory fs.cwd fs.tree path := by
      unfold isPathExist at exist
      simp only [Bool.and_eq_true, decide_eq_true_eq] at exist
      exact exist.2
    exact iff_of_true directory fun d mem => .inl ((chain.isDirectory_iff.mp directory).2 d mem)
  · show IsDirectory fs.cwd (mkpath refuses fs.cwd fs.tree mdret path).1 path ↔ _
    rw [mkpath_tree some_char]
    exact chain.isDirectory_makeAll_iff (fs.isDirectory_start path)

/-- `CreateFullDir` reports the truth iff it can make the path a directory: it never reports that it
could not. -/
theorem reportsTruth_iff (some_char : path ≠ []) :
    ReportsTruth opens refuses mdret fs path ↔ Creatable refuses fs path := by
  have directory_iff : IsDirectory fs.cwd (createFullDir opens refuses fs.cwd mdret fs.tree path).1
      path ↔ Creatable refuses fs path := isDirectory_createFullDir_iff some_char
  rw [← directory_iff]
  constructor
  · intro reports
    exact reports.truth.mp createFullDir_result
  · intro directory
    refine ⟨iff_of_true createFullDir_result directory, ?_, ?_⟩
    · rintro - front rest rfl some_front
      have start_front : start fs.cwd front = start fs.cwd (front ++ slash :: rest) := by
        unfold start
        rw [List.head?_append_of_ne_nil _ some_front]
      unfold IsDirectory components at *
      rw [componentsFrom_slash] at directory
      rw [start_front]
      exact directory.of_append
    · intro tree opens refuses mdret there
      exact createFullDir_again some_char there

/-- Nothing but the root, which is the working directory. -/
def emptyFileSystem : FileSystem where
  tree :=
    { kind := fun p => if p = [] then some .directory else none
      root := rfl
      parent := by
        intro p n there
        rw [if_neg (by simp)] at there
        contradiction }
  cwd := []
  inside := rfl

/-- The path `/a//b/`, where `mkdir` is never refused. -/
theorem reportsTruth_iff_made :
    ReportsTruth (fun _ => true) (fun _ => false) 0 emptyFileSystem [47, 97, 47, 47, 98, 47] := by
  refine (reportsTruth_iff (by decide)).mpr ?_
  unfold Creatable
  decide

/-- `mkdir` is refused for `/a`: `CreateFullDir` returns true and there is no `/a`. -/
theorem not_reportsTruth_refused :
    ¬ ReportsTruth (fun _ => true) (fun _ => true) 0 emptyFileSystem [47, 97] := by
  intro reports
  have directory := reports.truth.mp createFullDir_result
  exact absurd directory (by decide)

end NewFramework.Base
