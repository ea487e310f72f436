import Mathlib.Data.Set.Function
import Mathlib.Tactic.Common

/-! # Files under paths

A file store maps paths to contents. `replaceVia` is the usual way to save a file whole: write a
temporary file, then rename it onto the target.
-/

namespace Foundations
set_option autoImplicit false

abbrev FileStore (P C : Type) := P → Option C

namespace FileStore
variable {P C : Type} [DecidableEq P]

def put (files : FileStore P C) (path : P) (content : C) : FileStore P C :=
  Function.update files path (some content)

def remove (files : FileStore P C) (path : P) : FileStore P C :=
  Function.update files path none

/-- Renaming a file onto itself changes nothing. -/
def rename (files : FileStore P C) (source target : P) : FileStore P C :=
  if source = target then files
  else Function.update (Function.update files target (files source)) source none

def replaceVia (files : FileStore P C) (temporary target : P) (content : C) : FileStore P C :=
  (files.put temporary content).rename temporary target

theorem put_at (files : FileStore P C) (path q : P) (content : C) :
    files.put path content q = if q = path then some content else files q :=
  Function.update_apply files path _ q

theorem remove_at (files : FileStore P C) (path q : P) :
    files.remove path q = if q = path then none else files q :=
  Function.update_apply files path _ q

theorem remove_put (files : FileStore P C) (path : P) (content : C) :
    (files.put path content).remove path = files.remove path :=
  Function.update_idem _ _ files

/-- What a replacement leaves at each path. -/
theorem replaceVia_at (files : FileStore P C) (temporary target q : P) (content : C) :
    files.replaceVia temporary target content q =
      if q = target then some content else if q = temporary then none else files q := by
  unfold replaceVia rename
  by_cases same : temporary = target
  · subst same
    rw [if_pos rfl, put_at]
    by_cases h : q = temporary <;> simp only [h, if_true, if_false]
  · rw [if_neg same, Function.update_apply, Function.update_apply, put_at, put_at, if_pos rfl]
    by_cases h : q = temporary
    · subst h
      simp only [same, if_true, if_false]
    · simp only [h, if_false]

theorem replaceVia_target (files : FileStore P C) (temporary target : P) (content : C) :
    files.replaceVia temporary target content target = some content := by
  rw [replaceVia_at, if_pos rfl]

/-- Removing a file changes a set of paths unless the file is not there or not among them. -/
theorem eqOn_remove_iff (files : FileStore P C) (path : P) (paths : Set P) :
    Set.EqOn (files.remove path) files paths ↔ (path ∈ paths → files path = none) := by
  constructor
  · intro same member
    rw [← same member, remove_at, if_pos rfl]
  · intro absent q member
    rw [remove_at]
    by_cases h : q = path
    · subst h
      rw [if_pos rfl, absent member]
    · rw [if_neg h]

/-- A replacement changes nothing among `paths` when the target held the content already and the
temporary file was not there. -/
theorem eqOn_replaceVia_iff (files : FileStore P C) (temporary target : P) (content : C)
    {paths : Set P} (member : target ∈ paths) :
    Set.EqOn (files.replaceVia temporary target content) files paths ↔
      files target = some content ∧
        (temporary ∈ paths → temporary ≠ target → files temporary = none) := by
  constructor
  · intro same
    refine ⟨?_, ?_⟩
    · rw [← same member, replaceVia_target]
    · intro inside other
      rw [← same inside, replaceVia_at, if_neg other, if_pos rfl]
  · rintro ⟨held, absent⟩ q inside
    rw [replaceVia_at]
    by_cases h : q = target
    · subst h
      rw [if_pos rfl, held]
    · rw [if_neg h]
      by_cases ht : q = temporary
      · subst ht
        rw [if_pos rfl, absent inside h]
      · rw [if_neg ht]

end FileStore
end Foundations
