import LogParse.Config
import LogParse.Library.Machine
import Mathlib.Data.List.Basic

/-!
# The rotating file sink

The sink writes through an output stream that may keep bytes back until it is
flushed or closed.  A directory maps the names of the files in it to what they
hold.  The operations that may fail without ending the program take their
outcome as an argument: creating the directory of the log file, opening the
log file, and each rename of `rotate`.
-/

namespace LogParse

abbrev Directory := Text → Option Text

namespace Directory

/-- Appends to a file, which is created if need be. -/
def append (directory : Directory) (name bytes : Text) : Directory :=
  Function.update directory name
    (some ((directory name).getD [] ++ bytes))

/-- Writes to the end of a file that was opened under this name.  If the name
has been removed, the bytes are in no file of the directory. -/
def extend (directory : Directory) (name bytes : Text) : Directory :=
  match directory name with
  | some content =>
      Function.update directory name (some (content ++ bytes))
  | none => directory

/-- `std::filesystem::rename` of a file that exists. -/
def rename (directory : Directory) (source target : Text) : Directory :=
  Function.update (Function.update directory source none) target
    (directory source)

theorem append_of_ne {name other : Text} (different : other ≠ name)
    (directory : Directory) (bytes : Text) :
    directory.append name bytes other = directory other :=
  Function.update_of_ne different _ _

end Directory

/-- `m_stream`: whether it is open, and the bytes it has not yet moved to its
file. -/
structure Stream where
  isOpen : Bool := false
  buffered : Text := []
  deriving DecidableEq, Repr

/-- How the system answers the constructor of a sink: `create_directories` may throw,
and the file may not open. -/
inductive OpenOutcome where
  | opened
  | notOpened
  | noDirectory (message : Text)
  deriving DecidableEq, Repr

structure RotatingFileSink where
  mFile : Text
  mStream : Stream := {}
  mMaxFileSize : Nat
  mMaxFiles : Nat
  deriving DecidableEq, Repr

/-- The sink and the directory of its files. -/
structure SinkFiles where
  sink : RotatingFileSink
  directory : Directory

/-- How the system answers one call of `rotate`: the iterations whose rename
fails, and whether the log file opens again. -/
structure RotateOutcome where
  failedRenames : List Nat := []
  reopens : Bool := true
  deriving DecidableEq, Repr

/-- `m_file.string() + "." + std::to_string(index)`. -/
def backup (file : Text) (index : Nat) : Text :=
  file ++ '.' :: Nat.toDigits 10 index

/-- `src` in the iteration of `rotate` that fills the backup `index`. -/
def rotationSource (file : Text) (index : Nat) : Text :=
  if index = 1 then file else backup file (index - 1)

/-- One iteration of the loop of `rotate`. -/
def shiftOne (file : Text) (failedRenames : List Nat) (index : Nat)
    (directory : Directory) : Directory :=
  let source := rotationSource file index
  let target := backup file index
  if (directory source).isSome && index ∉ failedRenames then
    directory.rename source target
  else directory

/-- The loop of `rotate`, from the index it has come to. -/
def shiftBackups (file : Text) (failedRenames : List Nat) :
    Nat → Directory → Directory
  | 0, directory => directory
  | index + 1, directory =>
      shiftBackups file failedRenames index
        (shiftOne file failedRenames (index + 1) directory)

namespace SinkFiles

def setStream (files : SinkFiles) (stream : Stream) : SinkFiles :=
  { files with sink := { files.sink with mStream := stream } }

/-- `m_stream.open(m_file, std::ios::app | std::ios::binary)`. -/
def openStream (files : SinkFiles) (opens : Bool) : SinkFiles :=
  if opens then
    { files with
      directory := files.directory.append files.sink.mFile [] }.setStream
        { isOpen := true }
  else files.setStream {}

/-- The stream moves the first bytes it has kept back to its file. -/
def spill (files : SinkFiles) (count : Nat) : SinkFiles :=
  let stream := files.sink.mStream
  if stream.isOpen then
    { files with
      directory := files.directory.extend files.sink.mFile
        (stream.buffered.take count) }.setStream
          { stream with buffered := stream.buffered.drop count }
  else files

/-- `m_stream.flush()`. -/
def flush (files : SinkFiles) : SinkFiles :=
  files.spill files.sink.mStream.buffered.length

/-- `m_stream.close()`. -/
def closeStream (files : SinkFiles) : SinkFiles :=
  files.flush.setStream {}

/-- `m_stream.write(buffer.data(), buffer.size())`; a stream that is not open
takes nothing. -/
def put (files : SinkFiles) (buffer : Text) : SinkFiles :=
  let stream := files.sink.mStream
  if stream.isOpen then
    files.setStream { stream with buffered := stream.buffered ++ buffer }
  else files

def rotate (files : SinkFiles) (outcome : RotateOutcome) :
    Except Text Unit × SinkFiles :=
  let closed := files.closeStream
  let shifted := shiftBackups files.sink.mFile outcome.failedRenames
    files.sink.mMaxFiles closed.directory
  let reopened :=
    { closed with directory := shifted }.openStream outcome.reopens
  if reopened.sink.mStream.isOpen then (pure (), reopened)
  else (throw "Failed to reopen log file.".toList, reopened)

/-- `current_size + buffer.size() >= m_max_file_size`, on `std::size_t`. -/
def rotates (files : SinkFiles) (buffer : Text) : Bool :=
  let currentSize :=
    match files.directory files.sink.mFile with
    | some content => content.length
    | none => 0
  files.sink.mMaxFileSize ≤ (currentSize + buffer.length) % 2 ^ 64

def write (files : SinkFiles) (buffer : Text) (outcome : RotateOutcome) :
    Except Text Unit × SinkFiles :=
  if files.rotates buffer then
    match files.rotate outcome with
    | (.ok (), rotated) => (pure (), rotated.put buffer)
    | (.error message, rotated) => (.error message, rotated)
  else (pure (), files.put buffer)

end SinkFiles

/-- The constructor. -/
def RotatingFileSink.make (file : Text) (maxFileSize maxFiles : Nat)
    (outcome : OpenOutcome) (directory : Directory) :
    Except Text SinkFiles :=
  let sink : RotatingFileSink :=
    { mFile := file, mMaxFileSize := maxFileSize, mMaxFiles := maxFiles }
  match outcome with
  | .opened => pure (SinkFiles.openStream ⟨sink, directory⟩ true)
  | .notOpened => throw "Failed to open log file.".toList
  | .noDirectory message => throw message

theorem backup_injective (file : Text) :
    Function.Injective (backup file) := by
  intro left right same
  have digits : Nat.toDigits 10 left = Nat.toDigits 10 right := by
    simpa [backup] using same
  have values := congrArg (Nat.ofDigitChars 10 · 0) digits
  simpa [Nat.ofDigitChars_ten_toDigits] using values

theorem backup_ne_file (file : Text) (index : Nat) :
    backup file index ≠ file := by
  intro same
  have lengths := congrArg List.length same
  simp [backup] at lengths

theorem backup_ne_backup (file : Text) {left right : Nat}
    (different : left ≠ right) : backup file left ≠ backup file right :=
  fun same => different (backup_injective file same)

/-- The names that a rotation moves files along: the log file, then its
backups. -/
def slot (file : Text) : Nat → Text
  | 0 => file
  | index + 1 => backup file (index + 1)

theorem slot_injective (file : Text) : Function.Injective (slot file) := by
  intro left right same
  cases left with
  | zero =>
      cases right with
      | zero => rfl
      | succ right => exact absurd same.symm (backup_ne_file file _)
  | succ left =>
      cases right with
      | zero => exact absurd same (backup_ne_file file _)
      | succ right => exact backup_injective file same

theorem slot_ne_slot (file : Text) {left right : Nat}
    (different : left ≠ right) : slot file left ≠ slot file right :=
  fun same => different (slot_injective file same)

theorem rotationSource_succ (file : Text) (index : Nat) :
    rotationSource file (index + 1) = slot file index := by
  cases index with
  | zero => rfl
  | succ index => exact if_neg (by omega)

/-- The loop of `rotate` renames the file in this slot to the next one: it
comes to the slot, there is a file, and the system does not refuse. -/
def MovesOn (file : Text) (failedRenames : List Nat) (count : Nat)
    (directory : Directory) (index : Nat) : Prop :=
  index < count ∧ (directory (slot file index)).isSome = true ∧
    index + 1 ∉ failedRenames

instance (file : Text) (failedRenames : List Nat) (count : Nat)
    (directory : Directory) (index : Nat) :
    Decidable (MovesOn file failedRenames count directory index) :=
  inferInstanceAs (Decidable (_ ∧ _ ∧ _))

/-- The directory after the loop of `rotate`, in terms of the one before it,
whichever files there are and whichever renames fail. -/
structure Renamed (file : Text) (failedRenames : List Nat) (count : Nat)
    (before after : Directory) : Prop where
  active : after file =
    if MovesOn file failedRenames count before 0 then none else before file
  backup : ∀ index, index < count → after (backup file (index + 1)) =
    if MovesOn file failedRenames count before index then
      before (slot file index)
    else if MovesOn file failedRenames count before (index + 1) then none
    else before (backup file (index + 1))
  others : ∀ name, (∀ index, index ≤ count → name ≠ slot file index) →
    after name = before name

section ShiftOne

variable (file : Text) (failedRenames : List Nat) {count : Nat}
  (directory : Directory)

theorem shiftOne_succ :
    shiftOne file failedRenames (count + 1) directory =
      if MovesOn file failedRenames (count + 1) directory count then
        directory.rename (slot file count) (slot file (count + 1))
      else directory := by
  simp only [shiftOne, rotationSource_succ, MovesOn, Nat.lt_succ_self,
    true_and, Bool.and_eq_true, decide_eq_true_eq]
  rfl

theorem shiftOne_target :
    shiftOne file failedRenames (count + 1) directory
        (slot file (count + 1)) =
      if MovesOn file failedRenames (count + 1) directory count then
        directory (slot file count)
      else directory (slot file (count + 1)) := by
  rw [shiftOne_succ]
  split
  · simp [Directory.rename]
  · rfl

theorem shiftOne_source :
    shiftOne file failedRenames (count + 1) directory (slot file count) =
      if MovesOn file failedRenames (count + 1) directory count then none
      else directory (slot file count) := by
  have different : slot file count ≠ slot file (count + 1) :=
    slot_ne_slot file (by omega)
  rw [shiftOne_succ]
  split
  · simp [Directory.rename, different]
  · rfl

theorem shiftOne_other {name : Text} (notSource : name ≠ slot file count)
    (notTarget : name ≠ slot file (count + 1)) :
    shiftOne file failedRenames (count + 1) directory name =
      directory name := by
  rw [shiftOne_succ]
  split
  · simp [Directory.rename, notSource, notTarget]
  · rfl

theorem shiftOne_below {index : Nat} (below : index < count) :
    shiftOne file failedRenames (count + 1) directory (slot file index) =
      directory (slot file index) := by
  apply shiftOne_other
  · exact slot_ne_slot file (by omega)
  · exact slot_ne_slot file (by omega)

/-- The first iteration decides whether the last slot but one is vacated; it
leaves all files below alone, and with them what the later iterations do. -/
theorem movesOn_shiftOne {index : Nat} (below : index < count) :
    MovesOn file failedRenames count
        (shiftOne file failedRenames (count + 1) directory) index ↔
      MovesOn file failedRenames (count + 1) directory index := by
  have within : index < count + 1 := Nat.lt_succ_of_lt below
  simp only [MovesOn, shiftOne_below file failedRenames directory below,
    below, within]

theorem vacated_shiftOne {index : Nat} (within : index ≤ count) :
    (if MovesOn file failedRenames count
          (shiftOne file failedRenames (count + 1) directory) index then none
      else shiftOne file failedRenames (count + 1) directory
        (slot file index)) =
      if MovesOn file failedRenames (count + 1) directory index then none
      else directory (slot file index) := by
  rcases Nat.lt_or_eq_of_le within with below | rfl
  · simp only [movesOn_shiftOne file failedRenames directory below,
      shiftOne_below file failedRenames directory below]
  · rw [if_neg fun moves => Nat.lt_irrefl _ moves.1]
    exact shiftOne_source file failedRenames directory

end ShiftOne

/-- The loop invariant: the iterations down to `count` have settled the slots
above it and left the files below it alone. -/
theorem shiftBackups_renamed (file : Text) (failedRenames : List Nat)
    (count : Nat) (directory : Directory) :
    Renamed file failedRenames count directory
      (shiftBackups file failedRenames count directory) := by
  induction count generalizing directory with
  | zero =>
      refine ⟨?_, fun _ below => absurd below (Nat.not_lt_zero _),
        fun _ _ => rfl⟩
      rw [if_neg fun moves => Nat.not_lt_zero _ moves.1]
      rfl
  | succ count induction =>
      obtain ⟨active, backups, others⟩ :=
        induction (shiftOne file failedRenames (count + 1) directory)
      have vacated (index : Nat) (within : index ≤ count) :=
        vacated_shiftOne file failedRenames directory within
      constructor
      · calc
          _ = _ := active
          _ = _ := vacated 0 (Nat.zero_le count)
      · intro index below
        rcases Nat.lt_succ_iff_lt_or_eq.mp below with lower | rfl
        · calc
            _ = _ := backups index lower
            _ = _ := by
              rw [← slot, vacated (index + 1) lower,
                shiftOne_below file failedRenames directory lower]
              simp only [movesOn_shiftOne file failedRenames directory lower]
        · have last : ¬ MovesOn file failedRenames (index + 1) directory
              (index + 1) :=
            fun moves => Nat.lt_irrefl _ moves.1
          have above (other : Nat) (within : other ≤ index) :
              slot file (index + 1) ≠ slot file other :=
            slot_ne_slot file (by omega)
          calc
            _ = _ := others _ above
            _ = _ := shiftOne_target file failedRenames directory
            _ = _ := by rw [if_neg last, slot]
      · intro name apart
        calc
          _ = _ := others name fun index within => apart index (by omega)
          _ = directory name := by
            apply shiftOne_other
            · exact apart count (by omega)
            · exact apart (count + 1) (Nat.le_refl _)

/-- The directory after the loop of `rotate` when every rename succeeds: each
backup has the content of the file before it, and only the last one may keep
its own. -/
structure Shifted (file : Text) (count : Nat) (before after : Directory) :
    Prop where
  inner : ∀ index, 0 < index → index < count →
    after (backup file index) = before (rotationSource file index)
  last : 0 < count → after (backup file count) =
    (before (rotationSource file count)).or (before (backup file count))
  active : 0 < count → after file = none
  others : ∀ name, name ≠ file →
    (∀ index, 0 < index → index ≤ count → name ≠ backup file index) →
    after name = before name

theorem movesOn_nil {file : Text} {count : Nat} {directory : Directory}
    {index : Nat} :
    MovesOn file [] count directory index ↔
      index < count ∧ (directory (slot file index)).isSome = true := by
  simp [MovesOn]

/-- What a slot holds after it has been vacated. -/
theorem vacated_eq_none {file : Text} {count : Nat} {directory : Directory}
    {index : Nat} (inside : index < count) :
    (if MovesOn file [] count directory index then none
      else directory (slot file index)) = none := by
  cases held : directory (slot file index) with
  | none => exact ite_self none
  | some content =>
      exact if_pos (movesOn_nil.mpr ⟨inside, by rw [held]; rfl⟩)

theorem shiftBackups_shifted (file : Text) (count : Nat)
    (directory : Directory) :
    Shifted file count directory (shiftBackups file [] count directory) := by
  obtain ⟨active, backups, others⟩ :=
    shiftBackups_renamed file [] count directory
  constructor
  · intro index positive inside
    obtain ⟨index, rfl⟩ := Nat.exists_eq_add_one.mpr positive
    rw [backups index (by omega), rotationSource_succ, ← slot,
      vacated_eq_none inside]
    cases held : directory (slot file index) with
    | none => exact ite_self none
    | some content =>
        exact if_pos (movesOn_nil.mpr ⟨by omega, by rw [held]; rfl⟩)
  · intro positive
    obtain ⟨index, rfl⟩ := Nat.exists_eq_add_one.mpr positive
    have last : ¬ MovesOn file [] (index + 1) directory (index + 1) :=
      fun moves => Nat.lt_irrefl _ moves.1
    rw [backups index (Nat.lt_succ_self index), rotationSource_succ,
      if_neg last]
    cases held : directory (slot file index) with
    | none => exact if_neg fun moves => by simp [MovesOn, held] at moves
    | some content =>
        exact if_pos
          (movesOn_nil.mpr ⟨Nat.lt_succ_self index, by rw [held]; rfl⟩)
  · intro positive
    exact active.trans (vacated_eq_none positive)
  · intro name notFile notBackup
    apply others
    intro index within
    cases index with
    | zero => exact notFile
    | succ index => exact notBackup (index + 1) (Nat.succ_pos index) within

end LogParse
