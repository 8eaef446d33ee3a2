import LogParse.RotationOrder
import LogParse.Library.Locality

/-!
# The file sink, and several sinks in one directory

`FileSink` appends everything to one file through a stream that may keep bytes
back.  A program may have any number of file sinks and rotating file sinks in
one directory; each call of a sink is a critical section of that sink.
-/

namespace LogParse

/-- `m_file` and the name it was opened under. -/
structure FileSink where
  path : Text
  mFile : Stream := {}
  deriving DecidableEq, Repr

namespace FileSink

/-- The constructor. -/
def make (file : Text) (outcome : OpenOutcome) (directory : Directory) :
    Except Text (FileSink × Directory) :=
  match outcome with
  | .opened =>
      pure ({ path := file, mFile := { isOpen := true } },
        directory.append file [])
  | .notOpened => throw "Failed to to open log file.".toList
  | .noDirectory message => throw message

/-- `m_file.write(buffer.data(), buffer.size())`. -/
def write (sink : FileSink) (buffer : Text) : FileSink :=
  if sink.mFile.isOpen then
    { sink with
      mFile := { sink.mFile with buffered := sink.mFile.buffered ++ buffer } }
  else sink

/-- The stream moves the first bytes it has kept back to its file. -/
def spill (sink : FileSink) (directory : Directory) (count : Nat) :
    FileSink × Directory :=
  if sink.mFile.isOpen then
    ({ sink with
        mFile := { sink.mFile with buffered := sink.mFile.buffered.drop count } },
      directory.extend sink.path (sink.mFile.buffered.take count))
  else (sink, directory)

def flush (sink : FileSink) (directory : Directory) : FileSink × Directory :=
  sink.spill directory sink.mFile.buffered.length

def isOpen (sink : FileSink) : Bool := sink.mFile.isOpen

/-- The destructor closes the stream. -/
def close (sink : FileSink) (directory : Directory) : FileSink × Directory :=
  let (flushed, after) := sink.flush directory
  ({ flushed with mFile := {} }, after)

end FileSink

inductive DiskSink where
  | file (sink : FileSink)
  | rotating (sink : RotatingFileSink)
  deriving DecidableEq, Repr

/-- A call of a sink, or its stream moving bytes to the disk.  The outcome is
that of the rotation, if the write rotates. -/
inductive SinkOp where
  | write (buffer : Text) (outcome : RotateOutcome)
  | flush
  | spill (count : Nat)
  deriving DecidableEq, Repr

namespace DiskSink

def fromFiles (files : SinkFiles) : DiskSink × Directory :=
  (.rotating files.sink, files.directory)

/-- Exceptions are the caller's concern. -/
def step (sink : DiskSink) (directory : Directory) (op : SinkOp) :
    DiskSink × Directory :=
  match sink, op with
  | .file sink, .write buffer _ => (.file (sink.write buffer), directory)
  | .file sink, .flush =>
      let (flushed, after) := sink.flush directory
      (.file flushed, after)
  | .file sink, .spill count =>
      let (spilled, after) := sink.spill directory count
      (.file spilled, after)
  | .rotating sink, .write buffer outcome =>
      fromFiles (SinkFiles.write ⟨sink, directory⟩ buffer outcome).2
  | .rotating sink, .flush => fromFiles (SinkFiles.flush ⟨sink, directory⟩)
  | .rotating sink, .spill count =>
      fromFiles (SinkFiles.spill ⟨sink, directory⟩ count)

/-- The names a sink uses. -/
def Uses : DiskSink → Text → Prop
  | .file sink, name => name = sink.path
  | .rotating sink, name =>
      ∃ index ≤ sink.mMaxFiles, name = slot sink.mFile index

def storeStep : StoreStep DiskSink SinkOp Text (Option Text) :=
  fun sink directory op => some (sink.step directory op)

end DiskSink

/-- A change of the directory that uses these names only. -/
structure LocalEdit (names : Text → Prop) (edit : Directory → Directory) :
    Prop where
  frame : ∀ directory name, ¬ names name →
    edit directory name = directory name
  congr : ∀ {left right : Directory}, AgreeOn names left right →
    AgreeOn names (edit left) (edit right)

namespace LocalEdit

variable {names : Text → Prop} {first second : Directory → Directory}
  {file source target : Text}

theorem refl : LocalEdit names id := ⟨fun _ _ _ => rfl, id⟩

theorem comp (local₁ : LocalEdit names first)
    (local₂ : LocalEdit names second) : LocalEdit names (second ∘ first) where
  frame directory name other := by
    rw [Function.comp_apply, local₂.frame _ name other,
      local₁.frame _ name other]
  congr agree := local₂.congr (local₁.congr agree)

theorem ite {condition : Directory → Prop} [DecidablePred condition]
    (decided : ∀ {left right : Directory}, AgreeOn names left right →
      (condition left ↔ condition right))
    (local₁ : LocalEdit names first) (local₂ : LocalEdit names second) :
    LocalEdit names fun directory =>
      if condition directory then first directory else second directory where
  frame directory name other := by
    split
    · exact local₁.frame directory name other
    · exact local₂.frame directory name other
  congr {left right} agree := by
    by_cases holds : condition left
    · simp only [if_pos holds, if_pos ((decided agree).mp holds)]
      exact local₁.congr agree
    · simp only [if_neg holds, if_neg (mt (decided agree).mpr holds)]
      exact local₂.congr agree

/-- What is stored under one name depends on what is there. -/
theorem update (content : Option Text → Option Text) (mine : names file) :
    LocalEdit names fun directory =>
      Function.update directory file (content (directory file)) where
  frame directory name other := by
    have different : name ≠ file := fun same => other (same ▸ mine)
    simp [different]
  congr agree name isMine := by
    by_cases same : name = file
    · subst name
      simp [agree file mine]
    · simp [same, agree name isMine]

theorem append (bytes : Text) (mine : names file) :
    LocalEdit names fun directory => directory.append file bytes :=
  update (fun content => some (content.getD [] ++ bytes)) mine

theorem extend (bytes : Text) (mine : names file) :
    LocalEdit names fun directory => directory.extend file bytes := by
  have same : (fun directory : Directory => directory.extend file bytes) =
      fun directory => Function.update directory file
        ((directory file).map (· ++ bytes)) := by
    funext directory
    unfold Directory.extend
    cases found : directory file with
    | none => exact (Function.update_eq_self_iff.mpr found.symm).symm
    | some content => rfl
  rw [same]
  exact update _ mine

theorem rename (isSource : names source) (isTarget : names target) :
    LocalEdit names fun directory => directory.rename source target where
  frame directory name other := by
    have notTarget : name ≠ target := fun same => other (same ▸ isTarget)
    have notSource : name ≠ source := fun same => other (same ▸ isSource)
    simp [Directory.rename, notTarget, notSource]
  congr agree name isMine := by
    by_cases same : name = target
    · subst name
      simp [Directory.rename, agree source isSource]
    · by_cases vacated : name = source
      · subst name
        simp [Directory.rename, same]
      · simp [Directory.rename, same, vacated, agree name isMine]

end LocalEdit

end LogParse
