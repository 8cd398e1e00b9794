import KizunaLink.Lib.FileSystem
import KizunaLink.Lib.System
import Mathlib.Data.List.DropRight
import Mathlib.Data.List.Sort

/-!
# The log writer

Model of `CircularFileWriter` (common/logger/writer.rs).  A write takes the lock,
opens the file of the day if it has to, deletes old daily files, appends its lines
and may start a thread that prunes the file.  The thread takes the lock only to say
that it is done, so its file operations come between those of the writes.  Each
operation is a step, and any of them may fail.

A line is whatever a file keeps apart from other lines: a write hands over whole
lines, as the formatter does.  The thread reads up to the end of a file that only
grows, so that its last read sees all the lines there are.  The temporary file has
a name that no log has, and is seen when it is renamed.
-/

set_option autoImplicit false

namespace KizunaLink.Logger

open KizunaLink.Lib

/-- The file of a log that is not rotated, or one whose name the deletion of old files
matches.  These count in the order of their names; the acts say which is today's. -/
abbrev Path := Option Nat

structure Config where
  maxLines : Nat
  maxFiles : Nat
  rotateDaily : Bool

def Config.currentPath (config : Config) (day : Nat) : Path :=
  if config.rotateDaily then some day else none

def Config.pruneThreshold (config : Config) : Nat := max (config.maxLines / 10) 50

/-- Where the `write` that holds the lock stands, with the lines it is to write. -/
inductive WritePoint (Line : Type) where
  | unlocked
  | opening (today : Path) (lines : List Line)
  | scanning (lines : List Line)
  | removing (path : Path) (rest : List Path) (lines : List Line)
  | writing (lines : List Line)

/-- Where the thread of `spawn_prune` stands.  While it rewrites, `count` of the last
`max_lines` lines are in the temporary file. -/
inductive PrunePoint (Line : Type) where
  | none
  | looking (path : Path)
  | opening (path : Path)
  | reading (path : Path) (index : Nat)
  | creating (path : Path) (lines : List Line)
  | rewriting (path : Path) (lines : List Line) (count : Nat)
  | finishing

/-- `written` are all lines that were put into a file, each with the path it was opened under. -/
structure CircularFileWriter (Line : Type) where
  config : Config
  files : FileSystem Path Line
  file : Option Nat := none
  currentDate : Path := none
  linesSincePrune : Nat := 0
  isPruning : Bool := false
  call : WritePoint Line := .unlocked
  prune : PrunePoint Line := .none
  written : List (Path × Line) := []

namespace CircularFileWriter

variable {Line : Type}

def new (config : Config) (files : FileSystem Path Line) : CircularFileWriter Line :=
  { config, files }

variable (writer : CircularFileWriter Line)

def needRotate (today : Path) : Bool :=
  writer.file.isNone ||
    match writer.currentDate, today with
    | some curr, some new => curr != new
    | none, _ | some _, none => false

def ensureFileOpen (lines : List Line) (day : Nat) : CircularFileWriter Line :=
  let today := writer.config.currentPath day
  if writer.needRotate today then { writer with file := none, call := .opening today lines }
  else { writer with call := .writing lines }

def openFile (today : Path) (lines : List Line) : CircularFileWriter Line :=
  let files := writer.files.touch today
  { writer with
    files
    file := files.inode today
    currentDate := today
    call :=
      if writer.config.rotateDaily && decide (0 < writer.config.maxFiles) then .scanning lines
      else .writing lines }

/-- The oldest of the files that are listed, as many as there are too many. -/
def toDelete (unread : List Path) : List Path :=
  let listed := writer.files.names.filter fun path => !unread.contains path
  let logFiles := (listed.filterMap id).insertionSort (· ≤ ·)
  (logFiles.take (logFiles.length - writer.config.maxFiles)).map some

def cleanup (paths : List Path) (lines : List Line) : WritePoint Line :=
  match paths with
  | [] => .writing lines
  | path :: rest => .removing path rest lines

def appendLines (index : Nat) (lines : List Line) : CircularFileWriter Line :=
  { writer with
    files := writer.files.append index lines
    written := writer.written ++ lines.map fun line => (writer.currentDate, line)
    call := .unlocked }

/-- The file is closed before the thread starts. -/
def spawnPrune (day : Nat) : CircularFileWriter Line :=
  { writer with
    file := none
    linesSincePrune := 0
    isPruning := true
    prune := .looking (writer.config.currentPath day) }

/-- The count is a `u32`. -/
def countLines (newLines : Nat) : CircularFileWriter Line :=
  { writer with linesSincePrune := (writer.linesSincePrune + newLines) % 2 ^ 32 }

/-- The end of a write that has put its first `count` lines into the file: if some are
left, it returns an error and counts none. -/
def endWrite (index : Nat) (lines : List Line) (count day : Nat) : CircularFileWriter Line :=
  let appended := writer.appendLines index (lines.take count)
  if count < lines.length then appended
  else
    let counted := appended.countLines lines.length
    if writer.config.pruneThreshold ≤ counted.linesSincePrune ∧ writer.isPruning = false then
      counted.spawnPrune day
    else counted

def setPrune (prune : PrunePoint Line) : CircularFileWriter Line := { writer with prune }

def look (path : Path) : PrunePoint Line :=
  if (writer.files.inode path).isSome then .opening path else .finishing

def openForReading (path : Path) : PrunePoint Line :=
  match writer.files.inode path with
  | some index => .reading path index
  | none => .finishing

def readLines (path : Path) (index : Nat) : PrunePoint Line :=
  let lines := writer.files.contents index
  if writer.config.maxLines < lines.length then .creating path lines else .finishing

def rename (path : Path) (lines : List Line) : CircularFileWriter Line :=
  { writer with
    files := writer.files.replace path (lines.rtake writer.config.maxLines)
    prune := .finishing }

end CircularFileWriter

/-- A `success` says how the operation of the step ends; `unread` are the entries of the
directory that cannot be read. -/
inductive LogAct (Line : Type) where
  | write (lines : List Line) (day : Nat)
  | openFile (success : Bool)
  | scan (success : Bool) (unread : List Path)
  | remove (success : Bool)
  | endWrite (count day : Nat)
  | look
  | openForReading (success : Bool)
  | readLines (success : Bool)
  | createTmp (success : Bool)
  | writeTmp (success : Bool)
  | rename (success : Bool)
  | finish

variable {Line : Type}

def CircularFileWriter.step (writer : CircularFileWriter Line) :
    LogAct Line → Option (CircularFileWriter Line)
  | .write lines day =>
    match writer.call with
    | .unlocked => some (writer.ensureFileOpen lines day)
    | .opening _ _ | .scanning _ | .removing _ _ _ | .writing _ => none
  | .openFile success =>
    match writer.call with
    | .opening today lines =>
      some (if success then writer.openFile today lines else { writer with call := .unlocked })
    | .unlocked | .scanning _ | .removing _ _ _ | .writing _ => none
  | .scan success unread =>
    match writer.call with
    | .scanning lines =>
      some { writer with
        call :=
          CircularFileWriter.cleanup (if success then writer.toDelete unread else []) lines }
    | .unlocked | .opening _ _ | .removing _ _ _ | .writing _ => none
  | .remove success =>
    match writer.call with
    | .removing path rest lines =>
      some { writer with
        files := if success then writer.files.remove path else writer.files
        call := CircularFileWriter.cleanup rest lines }
    | .unlocked | .opening _ _ | .scanning _ | .writing _ => none
  | .endWrite count day =>
    match writer.call, writer.file with
    | .writing lines, some index => some (writer.endWrite index lines count day)
    | .writing _, none | .unlocked, _ | .opening _ _, _ | .scanning _, _ | .removing _ _ _, _ =>
      none
  | .look =>
    match writer.prune with
    | .looking path => some (writer.setPrune (writer.look path))
    | .none | .opening _ | .reading _ _ | .creating _ _ | .rewriting _ _ _ | .finishing => none
  | .openForReading success =>
    match writer.prune with
    | .opening path =>
      some (writer.setPrune (if success then writer.openForReading path else .finishing))
    | .none | .looking _ | .reading _ _ | .creating _ _ | .rewriting _ _ _ | .finishing => none
  | .readLines success =>
    match writer.prune with
    | .reading path index =>
      some (writer.setPrune (if success then writer.readLines path index else .finishing))
    | .none | .looking _ | .opening _ | .creating _ _ | .rewriting _ _ _ | .finishing => none
  | .createTmp success =>
    match writer.prune with
    | .creating path lines =>
      some (writer.setPrune (if success then .rewriting path lines 0 else .finishing))
    | .none | .looking _ | .opening _ | .reading _ _ | .rewriting _ _ _ | .finishing => none
  | .writeTmp success =>
    match writer.prune with
    | .rewriting path lines count =>
      if count < writer.config.maxLines then
        some (writer.setPrune
          (if success then .rewriting path lines (count + 1) else .finishing))
      else none
    | .none | .looking _ | .opening _ | .reading _ _ | .creating _ _ | .finishing => none
  | .rename success =>
    match writer.prune with
    | .rewriting path lines count =>
      if count = writer.config.maxLines then
        some (if success then writer.rename path lines else writer.setPrune .finishing)
      else none
    | .none | .looking _ | .opening _ | .reading _ _ | .creating _ _ | .finishing => none
  | .finish =>
    match writer.prune, writer.call with
    | .finishing, .unlocked => some { writer with isPruning := false, prune := .none }
    | .finishing, .opening _ _ | .finishing, .scanning _ | .finishing, .removing _ _ _
    | .finishing, .writing _ | .none, _ | .looking _, _ | .opening _, _ | .reading _ _, _
    | .creating _ _, _ | .rewriting _ _ _, _ => none

def logSystem (Line : Type) : System (CircularFileWriter Line) (LogAct Line) :=
  ⟨CircularFileWriter.step⟩

namespace CircularFileWriter

/-! ## What a step can do

Before its rename, the thread only moves on by itself. -/

inductive Moved (writer : CircularFileWriter Line) :
    LogAct Line → CircularFileWriter Line → Prop where
  | ensureFileOpen (lines : List Line) (day : Nat) (free : writer.call = .unlocked) :
      Moved writer (.write lines day) (writer.ensureFileOpen lines day)
  | openFile (today : Path) (lines : List Line) (point : writer.call = .opening today lines) :
      Moved writer (.openFile true) (writer.openFile today lines)
  | notOpened : Moved writer (.openFile false) { writer with call := .unlocked }
  | scan (success : Bool) (unread : List Path) (lines : List Line)
      (point : writer.call = .scanning lines) :
      Moved writer (.scan success unread)
        { writer with call := cleanup (if success then writer.toDelete unread else []) lines }
  | remove (path : Path) (rest : List Path) (lines : List Line)
      (point : writer.call = .removing path rest lines) :
      Moved writer (.remove true)
        { writer with files := writer.files.remove path, call := cleanup rest lines }
  | notRemoved (path : Path) (rest : List Path) (lines : List Line)
      (point : writer.call = .removing path rest lines) :
      Moved writer (.remove false) { writer with call := cleanup rest lines }
  | endWrite (index : Nat) (lines : List Line) (count day : Nat)
      (point : writer.call = .writing lines) (found : writer.file = some index) :
      Moved writer (.endWrite count day) (writer.endWrite index lines count day)
  | setPrune (act : LogAct Line) (prune : PrunePoint Line) :
      Moved writer act (writer.setPrune prune)
  | rename (path : Path) (lines : List Line)
      (point : writer.prune = .rewriting path lines writer.config.maxLines) :
      Moved writer (.rename true) (writer.rename path lines)
  | finish (free : writer.call = .unlocked) :
      Moved writer .finish { writer with isPruning := false, prune := .none }

theorem moved_of_step {writer next : CircularFileWriter Line} {act : LogAct Line}
    (stepped : writer.step act = some next) : Moved writer act next := by
  cases act with
  | write lines day =>
    simp only [step] at stepped
    split at stepped
    · next free =>
        cases stepped
        exact .ensureFileOpen lines day free
    all_goals cases stepped
  | openFile success =>
    simp only [step] at stepped
    split at stepped
    · next today lines point =>
        cases stepped
        cases success with
        | true => exact .openFile today lines point
        | false => exact .notOpened
    all_goals cases stepped
  | scan success unread =>
    simp only [step] at stepped
    split at stepped
    · next lines point =>
        cases stepped
        exact .scan success unread lines point
    all_goals cases stepped
  | remove success =>
    simp only [step] at stepped
    split at stepped
    · next path rest lines point =>
        cases stepped
        cases success with
        | true => exact .remove path rest lines point
        | false => exact .notRemoved path rest lines point
    all_goals cases stepped
  | endWrite count day =>
    simp only [step] at stepped
    split at stepped
    · next lines index point found =>
        cases stepped
        exact .endWrite index lines count day point found
    all_goals cases stepped
  | look | openForReading | readLines | createTmp =>
    simp only [step] at stepped
    split at stepped
    · cases stepped
      exact .setPrune _ _
    all_goals cases stepped
  | writeTmp success =>
    simp only [step] at stepped
    split at stepped
    · obtain ⟨_, moved⟩ := Option.ite_none_right_eq_some.mp stepped
      cases moved
      exact .setPrune _ _
    all_goals cases stepped
  | rename success =>
    simp only [step] at stepped
    split at stepped
    · next path lines count point =>
        obtain ⟨complete, moved⟩ := Option.ite_none_right_eq_some.mp stepped
        cases moved
        subst complete
        cases success with
        | true => exact .rename path lines point
        | false => exact .setPrune _ _
    all_goals cases stepped
  | finish =>
    simp only [step] at stepped
    split at stepped
    · next free =>
        cases stepped
        exact .finish free
    all_goals cases stepped

/-- A write that has come past `ensure_file_open` has a file. -/
def HasFile (writer : CircularFileWriter Line) : Prop :=
  match writer.call with
  | .unlocked | .opening _ _ => True
  | .scanning _ | .removing _ _ _ | .writing _ => writer.file.isSome = true

theorem hasFile_of_file {writer : CircularFileWriter Line} (found : writer.file.isSome = true) :
    writer.HasFile := by
  unfold HasFile
  split
  · trivial
  · trivial
  all_goals exact found

theorem HasFile.step {writer next : CircularFileWriter Line} {act : LogAct Line}
    (hasFile : writer.HasFile) (stepped : writer.step act = some next) : next.HasFile := by
  cases moved_of_step stepped with
  | ensureFileOpen lines day free =>
    unfold ensureFileOpen
    dsimp only
    split
    · trivial
    · next current =>
        -- a missing file alone is a reason to open one
        refine hasFile_of_file ?_
        cases opened : writer.file with
        | none => simp [needRotate, opened] at current
        | some index => rfl
  | openFile today lines point => exact hasFile_of_file (FileSystem.inode_touch today)
  | notOpened => trivial
  | scan _ _ _ point | remove _ _ _ point | notRemoved _ _ _ point =>
    rw [HasFile, point] at hasFile
    exact hasFile_of_file hasFile
  | endWrite index lines count day point found =>
    unfold endWrite
    dsimp only
    split
    · trivial
    · split <;> trivial
  | setPrune _ _ | rename _ _ _ | finish _ => exact hasFile

/-- The `expect` at the end of `ensure_file_open` never fails. -/
theorem file_open_at_write (config : Config) (files : FileSystem Path Line)
    (acts : List (LogAct Line)) (final : CircularFileWriter Line) (lines : List Line)
    (reached : (logSystem Line).run (new config files) acts = some final)
    (point : final.call = .writing lines) : final.file.isSome = true := by
  have initial : (new config files).HasFile := trivial
  have hasFile : final.HasFile :=
    (logSystem Line).run_invariant_of_step HasFile
      (fun hasFile => hasFile.step) acts initial reached
  rw [HasFile, point] at hasFile
  exact hasFile

theorem file_open_after_failed_scan :
    ∃ final, (logSystem Nat).run (new ⟨2, 2, true⟩ .empty)
        [.write [7] 0, .openFile true, .scan false []] = some final ∧ final.file.isSome = true :=
  ⟨_, rfl, file_open_at_write ⟨2, 2, true⟩ .empty
    [.write [7] 0, .openFile true, .scan false []] _ [7] rfl rfl⟩

end CircularFileWriter

end KizunaLink.Logger
