import KizunaLink.Lib.Suffix
import KizunaLink.Logger.Writer

/-!
# What pruning keeps

A file is meant to hold the end of what was written to it, with at least those of
the last `max_lines` lines that belong to it.  It does as long as a prune renames
its temporary file over a log that is as it was read and that no write has open:
lines that come after the read are not in the temporary file, and a write with an
open file goes on with the file that was replaced.  A file that is deleted as an
old one must hold none of these lines, and not be open either.
-/

set_option autoImplicit false

namespace KizunaLink.Logger

open KizunaLink.Lib List

variable {Line : Type}

def linesAt (path : Path) (entries : List (Path × Line)) : List Line :=
  entries.filterMap fun entry => if entry.1 = path then some entry.2 else none

theorem mem_linesAt {path : Path} {line : Line} {entries : List (Path × Line)}
    (member : (path, line) ∈ entries) : line ∈ linesAt path entries :=
  mem_filterMap.mpr ⟨(path, line), member, if_pos rfl⟩

theorem linesAt_append (path : Path) (first second : List (Path × Line)) :
    linesAt path (first ++ second) = linesAt path first ++ linesAt path second :=
  filterMap_append

theorem linesAt_self (path : Path) (lines : List Line) :
    linesAt path (lines.map fun line => (path, line)) = lines := by
  simp [linesAt, filterMap_map]

theorem linesAt_other {path other : Path} (lines : List Line) (different : other ≠ path) :
    linesAt other (lines.map fun line => (path, line)) = [] := by
  simp [linesAt, different.symm]

namespace CircularFileWriter

variable (writer : CircularFileWriter Line)

/-- The last `max_lines` lines that were written, to whatever file. -/
def recent : List (Path × Line) :=
  writer.written.rtake writer.config.maxLines

/-- The log and the lines read from it, for a step that renames over it. -/
def replaced (act : LogAct Line) : Option (Path × List Line) :=
  match act, writer.prune with
  | .rename true, .rewriting path lines _ => some (path, lines)
  | _, _ => none

def deleted (act : LogAct Line) : Option Path :=
  match act, writer.call with
  | .remove true, .removing path _ _ => some path
  | _, _ => none

def NotOpen (path : Path) : Prop :=
  ∀ index ∈ writer.file, writer.files.inode path ≠ some index

structure Undisturbed (writer : CircularFileWriter Line) (act : LogAct Line) : Prop where
  renamed : ∀ log ∈ writer.replaced act,
    writer.files.content log.1 = log.2 ∧ writer.NotOpen log.1
  removed : ∀ path ∈ writer.deleted act,
    linesAt path writer.recent = [] ∧ writer.NotOpen path

instance (writer : CircularFileWriter Line) (path : Path) : Decidable (writer.NotOpen path) :=
  inferInstanceAs (Decidable (∀ index ∈ writer.file, writer.files.inode path ≠ some index))

instance [DecidableEq Line] (writer : CircularFileWriter Line) (act : LogAct Line) :
    Decidable (writer.Undisturbed act) :=
  decidable_of_iff
    ((∀ log ∈ writer.replaced act, writer.files.content log.1 = log.2 ∧ writer.NotOpen log.1) ∧
      ∀ path ∈ writer.deleted act, linesAt path writer.recent = [] ∧ writer.NotOpen path)
    ⟨fun both => ⟨both.1, both.2⟩, fun undisturbed => ⟨undisturbed.1, undisturbed.2⟩⟩

/-! ## The invariant -/

/-- What the file of a path is meant to hold: the recent lines of the path at least, and
the end of what was there at first and of what was written to it. -/
def Holds (old : FileSystem Path Line) (writer : CircularFileWriter Line) (path : Path)
    (content : List Line) : Prop :=
  linesAt path writer.recent <:+ content ∧
    content <:+ old.content path ++ linesAt path writer.written

/-- Every file is as it is meant to be, and an open one is that of the current path. -/
structure Kept (old : FileSystem Path Line) (writer : CircularFileWriter Line) : Prop where
  opened : ∀ index, writer.file = some index →
    writer.files.inode writer.currentDate = some index
  holds : ∀ path, Holds old writer path (writer.files.content path)

variable {old : FileSystem Path Line} {writer : CircularFileWriter Line}

theorem kept_new (config : Config) (files : FileSystem Path Line) :
    Kept files (new config files) := by
  refine ⟨fun _ found => (by cases found), fun path => ?_⟩
  have nothing : linesAt path (new config files).written = [] := rfl
  have none_recent : linesAt path (new config files).recent = [] := by
    simp [recent, new, linesAt]
  rw [Holds, nothing, none_recent, append_nil]
  exact ⟨nil_suffix, suffix_refl _⟩

namespace Kept

section

variable (kept : Kept old writer)
include kept

variable {index : Nat} {path : Path}

theorem current_ne (notOpen : writer.NotOpen path) (found : writer.file = some index) :
    writer.currentDate ≠ path := by
  rintro rfl
  exact notOpen index found (kept.opened index found)

theorem holds_update {files : FileSystem Path Line}
    (others : ∀ other, other ≠ path → files.content other = writer.files.content other)
    (here : Holds old writer path (files.content path)) (other : Path) :
    Holds old writer other (files.content other) := by
  by_cases same : other = path
  · rw [same]
    exact here
  · rw [others other same]
    exact kept.holds other

theorem close : Kept old { writer with file := none } :=
  ⟨fun _ found => (by cases found), kept.holds⟩

theorem ensureFileOpen (lines : List Line) (day : Nat) :
    Kept old (writer.ensureFileOpen lines day) := by
  unfold CircularFileWriter.ensureFileOpen
  dsimp only
  split
  · exact ⟨kept.close.opened, kept.holds⟩
  · exact ⟨kept.opened, kept.holds⟩

theorem openFile (today : Path) (lines : List Line) : Kept old (writer.openFile today lines) := by
  refine ⟨fun _ found => found, fun path => ?_⟩
  have same : (writer.openFile today lines).files.content path = writer.files.content path :=
    FileSystem.content_touch today path
  rw [same]
  exact kept.holds path

theorem remove (notOpen : writer.NotOpen path) (unneeded : linesAt path writer.recent = [])
    (call : WritePoint Line) :
    Kept old { writer with files := writer.files.remove path, call } := by
  have here : Holds old writer path ((writer.files.remove path).content path) := by
    rw [FileSystem.content_remove_self, Holds, unneeded]
    exact ⟨suffix_refl _, nil_suffix⟩
  refine ⟨fun index found => ?_, kept.holds_update (fun other different => ?_) here⟩
  · have different := kept.current_ne notOpen found
    exact (FileSystem.inode_remove_other different).trans (kept.opened index found)
  · exact FileSystem.content_remove_other different

theorem appendLines (found : writer.file = some index) (lines : List Line) :
    Kept old (writer.appendLines index lines) := by
  have current := kept.opened index found
  refine ⟨fun other same => ?_, fun path => ?_⟩
  · cases Option.some.inj (found.symm.trans same)
    exact current
  · -- each path gets its share of the new lines, in its file and in the records alike
    let share := linesAt path (lines.map fun line => (writer.currentDate, line))
    have content : (writer.appendLines index lines).files.content path =
        writer.files.content path ++ share := by
      by_cases same : path = writer.currentDate
      · subst same
        rw [show share = lines from linesAt_self _ lines]
        exact FileSystem.content_append_self lines current
      · rw [show share = [] from linesAt_other lines same, append_nil]
        exact FileSystem.content_append_other lines current same
    have recent : linesAt path (writer.appendLines index lines).recent <:+
        linesAt path writer.recent ++ share := by
      rw [← linesAt_append]
      exact (rtake_append_suffix _ _ _).filterMap _
    have written : linesAt path (writer.appendLines index lines).written =
        linesAt path writer.written ++ share :=
      linesAt_append _ _ _
    rw [Holds, content, written, ← append_assoc]
    obtain ⟨hasRecent, isEnd⟩ := kept.holds path
    exact ⟨recent.trans (suffix_append_self_iff.mpr hasRecent),
      suffix_append_self_iff.mpr isEnd⟩

theorem endWrite (found : writer.file = some index) (lines : List Line) (count day : Nat) :
    Kept old (writer.endWrite index lines count day) := by
  have appended := kept.appendLines found (lines.take count)
  unfold CircularFileWriter.endWrite
  dsimp only
  split
  · exact appended
  · split
    · exact ⟨appended.close.opened, appended.holds⟩
    · exact ⟨appended.opened, appended.holds⟩

theorem rename {lines : List Line} (unchanged : writer.files.content path = lines)
    (notOpen : writer.NotOpen path) : Kept old (writer.rename path lines) := by
  subst unchanged
  let last := (writer.files.content path).rtake writer.config.maxLines
  have here : Holds old writer path ((writer.files.replace path last).content path) := by
    obtain ⟨hasRecent, isEnd⟩ := kept.holds path
    have few : (linesAt path writer.recent).length ≤ writer.config.maxLines :=
      (length_filterMap_le _ _).trans (length_rtake_le _ _)
    rw [FileSystem.content_replace_self]
    exact ⟨suffix_rtake hasRecent few, (rtake_suffix _ _).trans isEnd⟩
  refine ⟨fun index found => ?_, kept.holds_update (fun other different => ?_) here⟩
  · have different := kept.current_ne notOpen found
    exact (FileSystem.inode_replace_other _ different).trans (kept.opened index found)
  · exact FileSystem.content_replace_other _ different

theorem step {act : LogAct Line} {next : CircularFileWriter Line}
    (undisturbed : writer.Undisturbed act) (stepped : writer.step act = some next) :
    Kept old next := by
  cases moved_of_step stepped with
  | ensureFileOpen lines day free => exact kept.ensureFileOpen lines day
  | openFile today lines point => exact kept.openFile today lines
  | notOpened | scan _ _ _ _ | notRemoved _ _ _ _ | setPrune _ _ | finish _ =>
    exact ⟨kept.opened, kept.holds⟩
  | remove path rest lines point =>
    have ready := undisturbed.removed path (by simp [deleted, point])
    exact kept.remove ready.2 ready.1 _
  | endWrite index lines count day point found => exact kept.endWrite found lines count day
  | rename path lines point =>
    have ready := undisturbed.renamed (path, lines) (by simp [replaced, point])
    exact kept.rename ready.1 ready.2

end

end Kept

end CircularFileWriter

open CircularFileWriter

theorem pruning_keeps_recent_lines (config : Config) (files : FileSystem Path Line)
    (acts : List (LogAct Line)) (final : CircularFileWriter Line)
    (meets : (logSystem Line).Meets Undisturbed (new config files) acts)
    (reached : (logSystem Line).run (new config files) acts = some final) :
    (∀ path line, (path, line) ∈ final.recent → line ∈ final.files.content path) ∧
      ∀ path,
        linesAt path final.recent <:+ final.files.content path ∧
        final.files.content path <:+ files.content path ++ linesAt path final.written := by
  have kept : Kept files final :=
    (logSystem Line).run_invariant Undisturbed (Kept files)
      (fun kept => kept.step) acts (kept_new config files) meets reached
  refine ⟨fun path line member => ?_, kept.holds⟩
  exact (kept.holds path).1.subset (mem_linesAt member)

def pruneToTwo : List (LogAct Nat) :=
  [.look, .openForReading true, .readLines true, .createTmp true, .writeTmp true, .writeTmp true,
    .rename true, .finish]

/-- Fifty lines and a prune on the first day, and a write on each of the next two days; the
file of the first day is deleted. -/
def threeDays : List (LogAct Nat) :=
  [.write (List.range 50) 0, .openFile true, .scan true [], .endWrite 50 0] ++ pruneToTwo ++
    [.write [50, 51] 1, .openFile true, .scan true [], .endWrite 2 1,
      .write [52] 2, .openFile true, .scan true [], .remove true, .endWrite 1 2]

theorem three_days_are_kept :
    ∃ final, (logSystem Nat).run (new ⟨2, 2, true⟩ .empty) threeDays = some final ∧
      final.recent = [(some 1, 51), (some 2, 52)] ∧
      (final.files.content (some 0), final.files.content (some 1),
        final.files.content (some 2)) = ([], [50, 51], [52]) ∧
      ∀ path line, (path, line) ∈ final.recent → line ∈ final.files.content path := by
  have outcome : ((logSystem Nat).run (new ⟨2, 2, true⟩ .empty) threeDays).map
      (fun final => (final.recent, final.files.content (some 0), final.files.content (some 1),
        final.files.content (some 2))) =
      some ([(some 1, 51), (some 2, 52)], [], [50, 51], [52]) := by decide +kernel
  obtain ⟨final, reached, shown⟩ := Option.map_eq_some_iff.mp outcome
  obtain ⟨recent, contents⟩ := Prod.mk.inj shown
  exact ⟨final, reached, recent, contents,
    (pruning_keeps_recent_lines ⟨2, 2, true⟩ .empty threeDays final (by decide +kernel)
      reached).1⟩

/-- The thread has read the fifty lines of the log when a line is written to it. -/
def writeDuringPrune : List (LogAct Nat) :=
  [.write (List.range 50) 0, .openFile true, .endWrite 50 0,
    .look, .openForReading true, .readLines true,
    .write [50] 0, .openFile true, .endWrite 1 0,
    .createTmp true, .writeTmp true, .writeTmp true, .rename true, .finish]

theorem write_during_prune_is_lost :
    ∃ final, (logSystem Nat).run (new ⟨2, 0, false⟩ .empty) writeDuringPrune = some final ∧
      final.isPruning = false ∧ (none, 50) ∈ final.recent ∧
      50 ∉ final.files.content none := by
  have outcome : ((logSystem Nat).run (new ⟨2, 0, false⟩ .empty) writeDuringPrune).map
      (fun final => (final.isPruning, final.recent, final.files.content none)) =
      some (false, [(none, 49), (none, 50)], [48, 49]) := by decide +kernel
  obtain ⟨final, reached, shown⟩ := Option.map_eq_some_iff.mp outcome
  obtain ⟨resting, rest⟩ := Prod.mk.inj shown
  obtain ⟨recent, content⟩ := Prod.mk.inj rest
  refine ⟨final, reached, resting, ?_, ?_⟩
  · rw [recent]
    decide
  · rw [content]
    decide

end KizunaLink.Logger
