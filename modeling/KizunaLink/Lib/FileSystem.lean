import Mathlib.Data.List.Basic
import Mathlib.Data.List.Nodup
import Mathlib.Logic.Function.Basic

/-!
# Files under their names

A directory leads names to inodes, and an inode has lines.  An open handle is an
inode: it stays with its file when the name is removed or given to another one.
Two names never lead to one inode, so that a file is changed under its own name
only.  A name without a file has no lines.
-/

set_option autoImplicit false

namespace KizunaLink.Lib

open Function

structure FileSystem (Name Line : Type) where
  names : List Name
  inode : Name → Option Nat
  contents : Nat → List Line
  next : Nat
  nodup : names.Nodup
  listed : ∀ name, (inode name).isSome = true ↔ name ∈ names
  fresh : ∀ name index, inode name = some index → index < next
  injective : ∀ name other index, inode name = some index → inode other = some index → name = other

namespace FileSystem

variable {Name Line : Type}

def content (files : FileSystem Name Line) (name : Name) : List Line :=
  (files.inode name).elim [] files.contents

def empty : FileSystem Name Line where
  names := []
  inode _ := none
  contents _ := []
  next := 0
  nodup := List.nodup_nil
  listed _ := by simp
  fresh _ _ found := by cases found
  injective _ _ _ found := by cases found

/-- A handle that writes at the end of its file. -/
def append (files : FileSystem Name Line) (index : Nat) (lines : List Line) :
    FileSystem Name Line :=
  { files with
    contents := Function.update files.contents index (files.contents index ++ lines) }

section Handles

variable {files : FileSystem Name Line}

theorem content_of_inode {name : Name} {index : Nat} (found : files.inode name = some index) :
    files.content name = files.contents index := by
  rw [content, found]
  rfl

theorem content_append_self {name : Name} {index : Nat} (lines : List Line)
    (found : files.inode name = some index) :
    (files.append index lines).content name = files.content name ++ lines := by
  have after : (files.append index lines).inode name = some index := found
  rw [content_of_inode found, content_of_inode after]
  exact update_self _ _ _

theorem content_append_other {name other : Name} {index : Nat} (lines : List Line)
    (found : files.inode name = some index) (different : other ≠ name) :
    (files.append index lines).content other = files.content other := by
  unfold content append
  dsimp only
  cases lookup : files.inode other with
  | none => rfl
  | some another =>
    have apart : another ≠ index := by
      rintro rfl
      exact different (files.injective other name another lookup found)
    exact update_of_ne apart _ _

end Handles

variable [DecidableEq Name] (files : FileSystem Name Line)

section Names

variable {files}

theorem listed_update_some (name : Name) (index : Nat) (other : Name) :
    (Function.update files.inode name (some index) other).isSome = true ↔
      other ∈ files.names.insert name := by
  by_cases same : other = name
  · simp [same]
  · simp [files.listed, List.mem_insert_iff, same]

theorem fresh_update_next (name other : Name) (index : Nat)
    (found : Function.update files.inode name (some files.next) other = some index) :
    index < files.next + 1 := by
  by_cases same : other = name
  · rw [same, update_self] at found
    cases found
    exact Nat.lt_succ_self _
  · rw [update_of_ne same] at found
    exact Nat.lt_succ_of_lt (files.fresh other index found)

theorem injective_update_next (name first second : Name) (index : Nat)
    (found : Function.update files.inode name (some files.next) first = some index)
    (again : Function.update files.inode name (some files.next) second = some index) :
    first = second := by
  have old : ∀ other, other ≠ name →
      Function.update files.inode name (some files.next) other ≠ some files.next := by
    intro other different lookup
    rw [update_of_ne different] at lookup
    exact Nat.lt_irrefl _ (files.fresh other _ lookup)
  by_cases isFirst : first = name
  · by_cases isSecond : second = name
    · rw [isFirst, isSecond]
    · rw [isFirst, update_self] at found
      cases found
      exact absurd again (old second isSecond)
  · by_cases isSecond : second = name
    · rw [isSecond, update_self] at again
      cases again
      exact absurd found (old first isFirst)
    · rw [update_of_ne isFirst] at found
      rw [update_of_ne isSecond] at again
      exact files.injective first second index found again

theorem inode_of_update_none (name other : Name) (index : Nat)
    (found : Function.update files.inode name none other = some index) :
    files.inode other = some index := by
  by_cases same : other = name
  · rw [same, update_self] at found
    cases found
  · rwa [update_of_ne same] at found

theorem listed_update_none (name other : Name) :
    (Function.update files.inode name none other).isSome = true ↔
      other ∈ files.names.filter (fun listed => decide (listed ≠ name)) := by
  by_cases same : other = name
  · simp [same]
  · simp [files.listed, same]

end Names

variable (name : Name)

/-- A new file with these lines under the name, in place of any old one. -/
def replace (lines : List Line) : FileSystem Name Line where
  names := files.names.insert name
  inode := Function.update files.inode name (some files.next)
  contents := Function.update files.contents files.next lines
  next := files.next + 1
  nodup := files.nodup.insert
  listed := listed_update_some name files.next
  fresh := fresh_update_next name
  injective := injective_update_next name

/-- Open for appending: an absent file is created. -/
def touch : FileSystem Name Line :=
  match files.inode name with
  | some _ => files
  | none => files.replace name []

def remove : FileSystem Name Line where
  names := files.names.filter fun listed => decide (listed ≠ name)
  inode := Function.update files.inode name none
  contents := files.contents
  next := files.next
  nodup := files.nodup.filter _
  listed := listed_update_none name
  fresh other index found := files.fresh other index (inode_of_update_none name other index found)
  injective first second index found again :=
    files.injective first second index (inode_of_update_none name first index found)
      (inode_of_update_none name second index again)

variable {files}

theorem content_replace_self (lines : List Line) :
    (files.replace name lines).content name = lines := by
  simp [content, replace]

theorem content_replace_other {name other : Name} (lines : List Line) (different : other ≠ name) :
    (files.replace name lines).content other = files.content other := by
  unfold content replace
  dsimp only
  rw [update_of_ne different]
  cases lookup : files.inode other with
  | none => rfl
  | some index =>
    have older : index ≠ files.next := Nat.ne_of_lt (files.fresh other index lookup)
    exact update_of_ne older _ _

theorem inode_replace_other {name other : Name} (lines : List Line) (different : other ≠ name) :
    (files.replace name lines).inode other = files.inode other :=
  update_of_ne different _ _

theorem content_remove_self : (files.remove name).content name = [] := by
  simp [content, remove]

theorem content_remove_other {name other : Name} (different : other ≠ name) :
    (files.remove name).content other = files.content other := by
  unfold content remove
  dsimp only
  rw [update_of_ne different]

theorem inode_remove_other {name other : Name} (different : other ≠ name) :
    (files.remove name).inode other = files.inode other :=
  update_of_ne different _ _

/-- Opening changes no content, and leads the name to a file. -/
theorem content_touch (name other : Name) :
    (files.touch name).content other = files.content other := by
  unfold touch
  split
  · rfl
  · next missing =>
      by_cases same : other = name
      · rw [same, content_replace_self, content, missing]
        rfl
      · exact content_replace_other [] same

theorem inode_touch : ((files.touch name).inode name).isSome = true := by
  unfold touch
  split
  · next index found => rw [found]; rfl
  · simp [replace]

end FileSystem

end KizunaLink.Lib
