import AdaptiveAutosar.Foundations.Cursor

/-! # Path names

A path is looked up part by part. Where an entry of a directory leads, `..` and links among them, is
what the tree of directories says.
-/

namespace Foundations.Path
set_option autoImplicit false

def slash : UInt8 := 0x2f
def dot : UInt8 := 0x2e

/-- Empty parts and `.` lead nowhere. -/
def steps (parts : List Bytes) : List Bytes := parts.filter fun part => part ≠ [] ∧ part ≠ [dot]

/-- A part that a file can have as its name. -/
def IsName (part : Bytes) : Prop := part ≠ [] ∧ part ≠ [dot] ∧ part ≠ [dot, dot]

instance (part : Bytes) : Decidable (IsName part) := @instDecidableAnd _ _ _ (@instDecidableAnd _ _ _ _)

/-- What is behind the last slash. -/
def lastPart (path : Bytes) : Bytes := (path.splitOn slash).getLastD []

/-- The way to the directory of the last part. -/
def leading (path : Bytes) : List Bytes := steps (path.splitOn slash).dropLast

/-- The way to the directory that the whole path names. -/
def components (path : Bytes) : List Bytes := steps (path.splitOn slash)

theorem splitOn_ne_nil (path : Bytes) : path.splitOn slash ≠ [] := List.splitOn_ne_nil _ _

theorem splitOn_join (root name : Bytes) :
    (root ++ slash :: name).splitOn slash = root.splitOn slash ++ name.splitOn slash :=
  List.splitOn_append_cons_self _ _

theorem lastPart_join (root name : Bytes) : lastPart (root ++ slash :: name) = lastPart name := by
  rw [lastPart, splitOn_join, List.getLastD_eq_getLast?, List.getLast?_append_of_ne_nil _ (splitOn_ne_nil name),
    ← List.getLastD_eq_getLast?, lastPart]

theorem leading_join (root name : Bytes) :
    leading (root ++ slash :: name) = components root ++ leading name := by
  rw [leading, splitOn_join, List.dropLast_append_of_ne_nil (splitOn_ne_nil name), steps, List.filter_append]
  rfl

/-- A closing slash leads no further. -/
theorem components_slash (path : Bytes) : components (path ++ [slash]) = components path := by
  rw [components, splitOn_join, steps, List.filter_append]
  exact List.append_nil _

theorem components_of_isName {path : Bytes} (named : IsName (lastPart path)) :
    components path = leading path ++ [lastPart path] := by
  have whole : (path.splitOn slash).dropLast ++ [lastPart path] = path.splitOn slash := by
    rw [lastPart, List.getLastD_eq_getLast?, List.getLast?_eq_some_getLast (splitOn_ne_nil path), Option.getD_some,
      List.dropLast_append_getLast]
  have kept : steps [lastPart path] = [lastPart path] := by
    rw [steps, List.filter_singleton, decide_eq_true ⟨named.1, named.2.1⟩, cond_true]
  rw [components, ← whole, steps, List.filter_append]
  exact congrArg (leading path ++ ·) kept

/-! ## Lookup -/

structure Directories where
  Directory : Type
  top : Directory
  working : Directory
  /-- The directory that an entry is or, as a link, leads to. -/
  enter : Directory → Bytes → Option Directory
  /-- The directory of the file that is written when an entry is opened; the entry may be a link to it. -/
  target : Directory → Bytes → Option Directory
  target_of_enter : ∀ dir name, (enter dir name).isSome → target dir name = none

namespace Directories

def start (tree : Directories) (path : Bytes) : tree.Directory :=
  if path.head? = some slash then tree.top else tree.working

def walk (tree : Directories) (dir : tree.Directory) (parts : List Bytes) : Option tree.Directory :=
  parts.foldlM tree.enter dir

def directory (tree : Directories) (path : Bytes) : Option tree.Directory :=
  tree.walk (tree.start path) (components path)

/-- The directory of the entry that the path names from `dir`. -/
def entryFrom (tree : Directories) (dir : tree.Directory) (path : Bytes) : Option tree.Directory :=
  if IsName (lastPart path) then tree.walk dir (leading path) else none

/-- The path names an entry of the directory `root`. -/
def EntryInside (tree : Directories) (root path : Bytes) : Prop :=
  ∃ dir, tree.directory (root ++ [slash]) = some dir ∧ tree.entryFrom (tree.start path) path = some dir

/-- The path names an entry of the directory `root`, and opening it writes a file of this directory. -/
def FileInside (tree : Directories) (root path : Bytes) : Prop :=
  ∃ dir, tree.directory (root ++ [slash]) = some dir ∧ tree.entryFrom (tree.start path) path = some dir ∧
    tree.target dir (lastPart path) = some dir

variable (tree : Directories)

theorem walk_append (dir : tree.Directory) (front back : List Bytes) :
    tree.walk dir (front ++ back) = (tree.walk dir front).bind fun next => tree.walk next back :=
  List.foldlM_append

theorem start_join (root name : Bytes) : tree.start (root ++ slash :: name) = tree.start (root ++ [slash]) := by
  cases root <;> rfl

theorem entryFrom_join (root name : Bytes) :
    tree.entryFrom (tree.start (root ++ slash :: name)) (root ++ slash :: name) =
      (tree.directory (root ++ [slash])).bind fun dir => tree.entryFrom dir name := by
  unfold entryFrom directory
  rw [lastPart_join, leading_join, start_join, components_slash]
  by_cases named : IsName (lastPart name)
  · simp only [if_pos named, walk_append]
  · simp only [if_neg named, Option.bind_fun_none]

/-- What is behind the root's slash is looked up from the root. -/
theorem entryInside_join_iff (root name : Bytes) : tree.EntryInside root (root ++ slash :: name) ↔
    ∃ dir, tree.directory (root ++ [slash]) = some dir ∧ tree.entryFrom dir name = some dir := by
  unfold EntryInside
  rw [entryFrom_join]
  refine exists_congr fun dir => and_congr_right fun root => ?_
  rw [root, Option.bind_some]

theorem fileInside_join_iff (root name : Bytes) : tree.FileInside root (root ++ slash :: name) ↔
    ∃ dir, tree.directory (root ++ [slash]) = some dir ∧ tree.entryFrom dir name = some dir ∧
      tree.target dir (lastPart name) = some dir := by
  unfold FileInside
  rw [entryFrom_join, lastPart_join]
  refine exists_congr fun dir => and_congr_right fun root => ?_
  rw [root, Option.bind_some]

theorem walked_of_entry {dir holder : tree.Directory} {path : Bytes} (entry : tree.entryFrom dir path = some holder) :
    IsName (lastPart path) ∧ tree.walk dir (leading path) = some holder := by
  unfold entryFrom at entry
  by_cases named : IsName (lastPart path)
  · rw [if_pos named] at entry
    exact ⟨named, entry⟩
  · rw [if_neg named] at entry
    cases entry

/-- A directory is no file. -/
theorem not_fileInside_self (root : Bytes) : ¬ tree.FileInside root root := by
  rintro ⟨dir, isDirectory, entry, written⟩
  obtain ⟨named, walked⟩ := tree.walked_of_entry entry
  have absolute : tree.start (root ++ [slash]) = tree.start root := by
    cases root with
    | nil => exact absurd rfl named.1
    | cons first rest => rfl
  rw [directory, absolute, components_slash, components_of_isName named, walk_append, walked] at isDirectory
  have entered : tree.enter dir (lastPart root) = some dir := by simpa [walk] using isDirectory
  have none := tree.target_of_enter dir (lastPart root) (by rw [entered]; rfl)
  rw [none] at written
  cases written

end Directories

/-! ## Single parts -/

/-- The path is one part, beside those that lead nowhere. -/
structure Single (path : Bytes) : Prop where
  named : IsName (lastPart path)
  leading : leading path = []

theorem single_of_slash_notMem {path : Bytes} (noSlash : slash ∉ path) (named : IsName path) : Single path := by
  have one := List.splitOn_eq_singleton noSlash
  exact ⟨by rwa [lastPart, one], by rw [Path.leading, one]; rfl⟩

namespace Directories

theorem entryFrom_of_single (tree : Directories) {path : Bytes} (single : Single path) (dir : tree.Directory) :
    tree.entryFrom dir path = some dir := by
  rw [entryFrom, if_pos single.named, single.leading]
  rfl

/-- Every part leads one step further from the top, but for one name behind `depth` steps, that of a file. -/
def stairs (depth : ℕ) (name : Bytes) : Directories where
  Directory := ℕ
  top := 0
  working := 0
  enter step part := if step = depth ∧ part = name then none else some (step + 1)
  target step part := if step = depth ∧ part = name then some step else none
  target_of_enter step part := by
    by_cases there : step = depth ∧ part = name
    · rw [if_pos there]
      exact fun entered => by cases entered
    · rw [if_neg there, if_neg there]
      exact fun _ => rfl

theorem stairs_enter {depth : ℕ} {name part : Bytes} {step next : ℕ}
    (entered : (stairs depth name).enter step part = some next) : next = step + 1 := by
  by_cases there : step = depth ∧ part = name
  · exact absurd (entered.symm.trans (if_pos there)) (by simp)
  · exact (Option.some.inj ((if_neg there).symm.trans entered)).symm

theorem stairs_walk {depth : ℕ} {name : Bytes} {parts : List Bytes} {step next : ℕ}
    (walked : (stairs depth name).walk step parts = some next) : next = step + parts.length := by
  induction parts generalizing step with
  | nil => exact (Option.some.inj walked).symm
  | cons part rest ih =>
    obtain ⟨middle, entered, walked⟩ := Option.bind_eq_some_iff.mp walked
    cases stairs_enter entered
    rw [ih walked, List.length_cons]
    omega

theorem stairs_climb (name : Bytes) {depth : ℕ} (parts : List Bytes) (step : ℕ) (before : step + parts.length ≤ depth) :
    (stairs depth name).walk step parts = some (step + parts.length) := by
  induction parts generalizing step with
  | nil => rfl
  | cons part rest ih =>
    rw [List.length_cons] at before
    have entered : (stairs depth name).enter step part = some (step + 1) := if_neg (by omega)
    have climbed := ih (step + 1) (by omega)
    show ((stairs depth name).enter step part).bind _ = _
    rw [entered]
    exact climbed.trans (congrArg some (by rw [List.length_cons]; omega))

theorem stairs_directory (name root : Bytes) :
    (stairs (components root).length name).directory (root ++ [slash]) = some (components root).length := by
  have bottom : (stairs (components root).length name).start (root ++ [slash]) = (0 : ℕ) := ite_self _
  have climbed := stairs_climb name (components root) 0 (Nat.le_of_eq (Nat.zero_add _))
  rw [Nat.zero_add] at climbed
  rw [directory, components_slash, bottom]
  exact climbed

theorem stairs_target (depth : ℕ) (name : Bytes) : (stairs depth name).target depth name = some depth :=
  if_pos ⟨rfl, rfl⟩

theorem single_of_stairs {depth : ℕ} {name path : Bytes}
    (found : (stairs depth name).entryFrom depth path = some depth) : Single path := by
  obtain ⟨named, walked⟩ := (stairs depth name).walked_of_entry found
  have steps := stairs_walk walked
  exact ⟨named, List.eq_nil_of_length_eq_zero (by omega)⟩

end Directories
end Foundations.Path
