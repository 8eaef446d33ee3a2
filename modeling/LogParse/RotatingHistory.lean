import LogParse.RotationShift

/-!
# What the rotating file sink keeps of the log

The sink is run in a directory where the log has not been kept before.  It may
be closed and created again, and its stream moves bytes to the disk when it
likes.  The numbered files and the active one hold the newest records, cut
between records only.
-/

namespace LogParse

/-- A sink, or none while it is closed, its directory, and the history: the
records whose `write` returned, and the number of rotations. -/
structure FileLog where
  directory : Directory
  sink : Option RotatingFileSink := none
  records : List Text := []
  rotations : Nat := 0

inductive FileOp where
  | create (outcome : OpenOutcome)
  | write (buffer : Text) (outcome : RotateOutcome)
  | flush
  | spill (count : Nat)
  | close
  deriving DecidableEq, Repr

/-- Every file operation of the step succeeds. -/
def FileOp.succeeds : FileOp → Bool
  | .create outcome => outcome = .opened
  | .write _ outcome => outcome.failedRenames = [] && outcome.reopens
  | .flush | .spill _ | .close => true

namespace FileLog

def setFiles (log : FileLog) (files : SinkFiles) : FileLog :=
  { log with directory := files.directory, sink := some files.sink }

def create (file : Text) (maxFileSize maxFiles : Nat) (log : FileLog)
    (outcome : OpenOutcome) : Option FileLog :=
  match log.sink with
  | some _ => none
  | none =>
      match RotatingFileSink.make file maxFileSize maxFiles outcome
        log.directory with
      | .ok files => some (log.setFiles files)
      | .error _ => some log

def write (log : FileLog) (buffer : Text) (outcome : RotateOutcome) :
    Option FileLog :=
  match log.sink with
  | none => none
  | some sink =>
      let files : SinkFiles := ⟨sink, log.directory⟩
      let rotations :=
        if files.rotates buffer then log.rotations + 1 else log.rotations
      match files.write buffer outcome with
      | (.ok (), written) =>
          some { log.setFiles written with
            records := log.records ++ [buffer]
            rotations := rotations }
      | (.error _, written) =>
          some { log.setFiles written with rotations := rotations }

def flush (log : FileLog) : Option FileLog :=
  log.sink.map fun sink =>
    log.setFiles (SinkFiles.flush ⟨sink, log.directory⟩)

def spill (log : FileLog) (count : Nat) : Option FileLog :=
  log.sink.map fun sink =>
    log.setFiles (SinkFiles.spill ⟨sink, log.directory⟩ count)

/-- The destructor. -/
def close (log : FileLog) : Option FileLog :=
  log.sink.map fun sink =>
    let closed := SinkFiles.closeStream ⟨sink, log.directory⟩
    { log with directory := closed.directory, sink := none }

/-- The bytes of the active file, followed by those still in the stream. -/
def activeBytes (file : Text) (log : FileLog) : Text :=
  (log.directory file).getD [] ++
    match log.sink with
    | some sink => sink.mStream.buffered
    | none => []

/-- The numbered files from the last to the first, then the active one. -/
def readBack (file : Text) (maxFiles : Nat) (log : FileLog) : Text :=
  ((List.range maxFiles).reverse.flatMap fun index =>
    (log.directory (backup file (index + 1))).getD []) ++
    log.activeBytes file

end FileLog

/-- A sink that is always created with the same arguments. -/
def fileLogMachine (file : Text) (maxFileSize maxFiles : Nat)
    (directory : Directory) : Machine FileLog FileOp where
  start := { directory := directory }
  step log
    | .create outcome => log.create file maxFileSize maxFiles outcome
    | .write buffer outcome => log.write buffer outcome
    | .flush => log.flush
    | .spill count => log.spill count
    | .close => log.close

/-- What a step of the machine does. -/
inductive FileStep (file : Text) (maxFileSize maxFiles : Nat)
    (log : FileLog) : FileOp → FileLog → Prop where
  | create : log.sink = none →
      FileStep file maxFileSize maxFiles log (.create .opened)
        (log.setFiles (SinkFiles.openStream
          ⟨{ mFile := file, mMaxFileSize := maxFileSize,
             mMaxFiles := maxFiles }, log.directory⟩ true))
  | createThrows {outcome : OpenOutcome} :
      log.sink = none → outcome ≠ .opened →
      FileStep file maxFileSize maxFiles log (.create outcome) log
  | write {sink : RotatingFileSink} {buffer : Text} {outcome : RotateOutcome}
      {files : SinkFiles} :
      log.sink = some sink →
      SinkFiles.write ⟨sink, log.directory⟩ buffer outcome =
        (.ok (), files) →
      FileStep file maxFileSize maxFiles log (.write buffer outcome)
        { log.setFiles files with
          records := log.records ++ [buffer]
          rotations :=
            if SinkFiles.rotates ⟨sink, log.directory⟩ buffer then
              log.rotations + 1
            else log.rotations }
  | writeThrows {sink : RotatingFileSink} {buffer message : Text}
      {outcome : RotateOutcome} {files : SinkFiles} :
      log.sink = some sink →
      SinkFiles.write ⟨sink, log.directory⟩ buffer outcome =
        (.error message, files) →
      FileStep file maxFileSize maxFiles log (.write buffer outcome)
        { log.setFiles files with
          rotations :=
            if SinkFiles.rotates ⟨sink, log.directory⟩ buffer then
              log.rotations + 1
            else log.rotations }
  | flush {sink : RotatingFileSink} :
      log.sink = some sink →
      FileStep file maxFileSize maxFiles log .flush
        (log.setFiles (SinkFiles.flush ⟨sink, log.directory⟩))
  | spill {sink : RotatingFileSink} (count : Nat) :
      log.sink = some sink →
      FileStep file maxFileSize maxFiles log (.spill count)
        (log.setFiles (SinkFiles.spill ⟨sink, log.directory⟩ count))
  | close {sink : RotatingFileSink} :
      log.sink = some sink →
      FileStep file maxFileSize maxFiles log .close
        { log with
          directory := (SinkFiles.closeStream ⟨sink, log.directory⟩).directory
          sink := none }

theorem FileStep.of_step {file : Text} {maxFileSize maxFiles : Nat}
    {directory : Directory} {log after : FileLog} {op : FileOp}
    (stepped : (fileLogMachine file maxFileSize maxFiles directory).step
      log op = some after) :
    FileStep file maxFileSize maxFiles log op after := by
  cases isSink : log.sink with
  | none =>
      cases op with
      | create outcome =>
          simp only [fileLogMachine, FileLog.create, isSink] at stepped
          cases outcome with
          | opened =>
              obtain rfl := Option.some.inj stepped
              exact .create isSink
          | notOpened | noDirectory =>
              obtain rfl := Option.some.inj stepped
              exact .createThrows isSink (by simp)
      | write => simp [fileLogMachine, FileLog.write, isSink] at stepped
      | flush => simp [fileLogMachine, FileLog.flush, isSink] at stepped
      | spill => simp [fileLogMachine, FileLog.spill, isSink] at stepped
      | close => simp [fileLogMachine, FileLog.close, isSink] at stepped
  | some sink =>
      cases op with
      | create => simp [fileLogMachine, FileLog.create, isSink] at stepped
      | write buffer outcome =>
          simp only [fileLogMachine, FileLog.write, isSink] at stepped
          split at stepped
          · rename_i files wrote
            obtain rfl := Option.some.inj stepped
            exact .write isSink wrote
          · rename_i message files wrote
            obtain rfl := Option.some.inj stepped
            exact .writeThrows isSink wrote
      | flush =>
          simp only [fileLogMachine, FileLog.flush, isSink,
            Option.map_some, Option.some.injEq] at stepped
          subst after
          exact .flush isSink
      | spill count =>
          simp only [fileLogMachine, FileLog.spill, isSink,
            Option.map_some, Option.some.injEq] at stepped
          subst after
          exact .spill count isSink
      | close =>
          simp only [fileLogMachine, FileLog.close, isSink,
            Option.map_some, Option.some.injEq] at stepped
          subst after
          exact .close isSink

/-- An open stream and its file, which hold these bytes together. -/
structure SinkFiles.Holds (files : SinkFiles) (bytes : Text) : Prop where
  isOpen : files.sink.mStream.isOpen = true
  content : ∃ content, files.directory files.sink.mFile = some content ∧
    content ++ files.sink.mStream.buffered = bytes

/-- What a step that does not rotate leaves alone. -/
structure SinkFiles.SameBackups (before after : SinkFiles) : Prop where
  file : after.sink.mFile = before.sink.mFile
  maxFiles : after.sink.mMaxFiles = before.sink.mMaxFiles
  others : ∀ name, name ≠ before.sink.mFile →
    after.directory name = before.directory name

namespace SinkFiles

variable {files : SinkFiles} {bytes : Text}

theorem Holds.spill (holds : files.Holds bytes) (count : Nat) :
    (files.spill count).Holds bytes ∧
      files.SameBackups (files.spill count) := by
  obtain ⟨isOpen, content, found, together⟩ := holds
  refine ⟨⟨?_, ?_⟩, ?_⟩
  · simp [SinkFiles.spill, isOpen, setStream]
  · refine ⟨content ++ files.sink.mStream.buffered.take count, ?_, ?_⟩
    · simp [SinkFiles.spill, isOpen, setStream, Directory.extend, found]
    · simp [SinkFiles.spill, isOpen, setStream, together]
  · constructor
    · simp [SinkFiles.spill, isOpen, setStream]
    · simp [SinkFiles.spill, isOpen, setStream]
    · intro name different
      simp [SinkFiles.spill, isOpen, setStream, Directory.extend, found,
        different]

theorem Holds.put (holds : files.Holds bytes) (buffer : Text) :
    (files.put buffer).Holds (bytes ++ buffer) ∧
      files.SameBackups (files.put buffer) := by
  obtain ⟨isOpen, content, found, together⟩ := holds
  refine ⟨⟨?_, content, ?_, ?_⟩, ?_⟩
  · simp [SinkFiles.put, isOpen, setStream]
  · simp [SinkFiles.put, isOpen, setStream, found]
  · simp [SinkFiles.put, isOpen, setStream, ← together]
  · constructor <;> simp [SinkFiles.put, isOpen, setStream]

/-- Closing moves everything to the file. -/
theorem Holds.closeStream (holds : files.Holds bytes) :
    files.closeStream.directory files.sink.mFile = some bytes ∧
      files.SameBackups files.closeStream := by
  have flushed := holds.spill files.sink.mStream.buffered.length
  obtain ⟨⟨_, content, found, together⟩, same⟩ := flushed
  have nothingLeft : files.flush.sink.mStream.buffered = [] := by
    simp [SinkFiles.flush, SinkFiles.spill, holds.isOpen, setStream]
  constructor
  · have stays : files.closeStream.directory files.sink.mFile =
        some content := by
      rw [← same.file]
      exact found
    rw [stays, ← together]
    change _ = some (content ++ files.flush.sink.mStream.buffered)
    rw [nothingLeft, List.append_nil]
  · exact ⟨same.file, same.maxFiles, same.others⟩

end SinkFiles

/-- The numbered files of the directory: these from the first on, and behind
them only older ones. -/
structure Backups (older : Text → Prop) (file : Text) (directory : Directory)
    (contents : List Text) : Prop where
  newer : ∀ index content, contents[index]? = some content →
    directory (backup file (index + 1)) = some content
  older : ∀ index content, contents.length ≤ index →
    directory (backup file (index + 1)) = some content → older content

namespace Backups

variable {older : Text → Prop} {file bytes : Text} {maxFiles : Nat}
  {before after : Directory} {contents : List Text}

theorem congr (backups : Backups older file before contents)
    (same : ∀ name, name ≠ file → after name = before name) :
    Backups older file after contents := by
  have same (index : Nat) := same _ (backup_ne_file file (index + 1))
  constructor
  · intro index content found
    rw [same]
    exact backups.newer index content found
  · intro index content beyond
    rw [same]
    exact backups.older index content beyond

/-- The sources of the renames are the active file and the backups before the
last one. -/
theorem source_newer (backups : Backups older file before contents)
    (active : before file = some bytes) {index : Nat} {content : Text}
    (found : (bytes :: contents)[index]? = some content) :
    before (rotationSource file (index + 1)) = some content := by
  rw [rotationSource_succ]
  cases index with
  | zero => exact active.trans found
  | succ index => exact backups.newer index content found

theorem source_older (backups : Backups older file before contents)
    {index : Nat} {content : Text} (beyond : contents.length < index)
    (found : before (rotationSource file (index + 1)) = some content) :
    older content := by
  obtain ⟨index, rfl⟩ := Nat.exists_eq_add_one_of_ne_zero
    (Nat.ne_zero_of_lt beyond)
  rw [rotationSource_succ] at found
  exact backups.older index content (Nat.le_of_lt_succ beyond) found

/-- A rotation puts the active file in front and lets go of what exceeds the
number of backups. -/
theorem shift (backups : Backups older file before contents)
    (active : before file = some bytes) (bounded : contents.length ≤ maxFiles)
    (shifted : Shifted file maxFiles before after) :
    Backups older file after ((bytes :: contents).take maxFiles) := by
  have kept {index : Nat} (outside : maxFiles ≤ index) :
      after (backup file (index + 1)) = before (backup file (index + 1)) := by
    apply shifted.others
    · exact backup_ne_file file (index + 1)
    · intro other _ below
      apply backup_ne_backup
      omega
  constructor
  · intro index content found
    rw [List.getElem?_take, Option.ite_none_right_eq_some] at found
    obtain ⟨inside, found⟩ := found
    have source := backups.source_newer active found
    rcases Nat.lt_or_eq_of_le inside with inner | rfl
    · rw [shifted.inner (index + 1) (Nat.succ_pos index) inner, source]
    · rw [shifted.last (Nat.succ_pos index), source, Option.some_or]
  · intro index content beyond found
    rw [List.length_take, List.length_cons] at beyond
    rcases Nat.lt_trichotomy (index + 1) maxFiles with inner | rfl | outside
    · rw [shifted.inner (index + 1) (Nat.succ_pos index) inner] at found
      exact backups.source_older (by omega) found
    · rw [shifted.last (Nat.succ_pos index)] at found
      rcases Option.or_eq_some_iff.mp found with moved | ⟨_, stayed⟩
      · exact backups.source_older (by omega) moved
      · exact backups.older index content (by omega) stayed
    · rw [kept (by omega)] at found
      exact backups.older index content (by omega) found

/-- Without older files, the numbered ones are just these. -/
theorem numbered
    (backups : Backups (fun _ => False) file before contents) (index : Nat) :
    before (backup file (index + 1)) = contents[index]? := by
  cases found : contents[index]? with
  | some content => exact backups.newer index content found
  | none =>
      have beyond := List.getElem?_eq_none_iff.mp found
      cases held : before (backup file (index + 1)) with
      | none => rfl
      | some content => exact (backups.older index content beyond held).elim

/-- Reading the numbered files from the last to the first. -/
theorem read (backups : Backups (fun _ => False) file before contents)
    (bounded : contents.length ≤ maxFiles) :
    ((List.range maxFiles).reverse.flatMap fun index =>
      (before (backup file (index + 1))).getD []) =
        contents.reverse.flatten := by
  have slots : (List.range maxFiles).map (fun index =>
      (before (backup file (index + 1))).getD []) =
        contents ++ List.replicate (maxFiles - contents.length) [] := by
    apply List.ext_getElem?
    intro index
    rw [List.getElem?_map]
    by_cases inside : index < maxFiles
    · rw [List.getElem?_range inside, Option.map_some,
        backups.numbered index]
      by_cases present : index < contents.length
      · rw [List.getElem?_append_left present,
          List.getElem?_eq_getElem present]
        rfl
      · rw [List.getElem?_eq_none (by omega),
          List.getElem?_append_right (by omega),
          List.getElem?_replicate_of_lt (by omega)]
        rfl
    · rw [List.getElem?_eq_none (by simpa using inside), Option.map_none,
        List.getElem?_eq_none]
      simp only [List.length_append, List.length_replicate]
      omega
  rw [List.flatMap_def, List.map_reverse, slots,
    List.reverse_append, List.flatten_append, List.reverse_replicate,
    List.flatten_replicate_nil, List.nil_append]

end Backups

/-- A rotation that succeeds moves the active file to the first backup and
opens an empty one. -/
theorem SinkFiles.Holds.rotate {files : SinkFiles} {bytes : Text}
    (holds : files.Holds bytes) {outcome : RotateOutcome}
    (renames : outcome.failedRenames = []) (reopens : outcome.reopens = true)
    (positive : 0 < files.sink.mMaxFiles) {older : Text → Prop}
    {contents : List Text}
    (backups : Backups older files.sink.mFile files.directory contents)
    (bounded : contents.length ≤ files.sink.mMaxFiles) :
    ∃ after, files.rotate outcome = (.ok (), after) ∧ after.Holds [] ∧
      after.sink.mFile = files.sink.mFile ∧
      after.sink.mMaxFiles = files.sink.mMaxFiles ∧
      Backups older files.sink.mFile after.directory
        ((bytes :: contents).take files.sink.mMaxFiles) := by
  obtain ⟨active, _, _, kept⟩ := holds.closeStream
  rw [files.closeStream_directory] at active kept
  have shifted := shiftBackups_shifted files.sink.mFile
    files.sink.mMaxFiles files.contents
  have moved := (backups.congr kept).shift active bounded shifted
  have gone := shifted.active positive
  have rotated := files.rotate_reopens reopens
  rw [renames] at rotated
  refine ⟨_, rotated, ⟨rfl, [], ?_, rfl⟩, rfl, rfl, ?_⟩
  · simp [Directory.append, gone]
  · apply moved.congr
    intro name different
    exact Directory.append_of_ne different _ _

/-- The backups and the active file hold these records, the newest ones of the
log. -/
structure KeepsTail (older : Text → Prop) (file : Text) (maxFiles : Nat)
    (log : FileLog) (backups : List (List Text)) (active : List Text) :
    Prop where
  opened : ∀ sink, log.sink = some sink →
    sink.mFile = file ∧ sink.mMaxFiles = maxFiles ∧
      SinkFiles.Holds ⟨sink, log.directory⟩ active.flatten
  closed : log.sink = none → (log.directory file).getD [] = active.flatten
  numbered : Backups older file log.directory (backups.map List.flatten)
  length_eq : backups.length = min log.rotations maxFiles
  tail : backups.reverse.flatten ++ active <:+ log.records
  whole : log.rotations ≤ maxFiles →
    backups.reverse.flatten ++ active = log.records

namespace KeepsTail

variable {older : Text → Prop} {file : Text} {maxFileSize maxFiles : Nat}
  {log after : FileLog} {backups : List (List Text)} {active : List Text}

/-- The sink moves bytes between its stream and its file. -/
theorem move (keeps : KeepsTail older file maxFiles log backups active)
    {sink : RotatingFileSink} (isSink : log.sink = some sink)
    {files : SinkFiles} (holds : files.Holds active.flatten)
    (same : SinkFiles.SameBackups ⟨sink, log.directory⟩ files) :
    KeepsTail older file maxFiles (log.setFiles files) backups active := by
  obtain ⟨fileEq, maxFilesEq, _⟩ := keeps.opened sink isSink
  refine ⟨?_, by simp [FileLog.setFiles], ?_, keeps.length_eq, keeps.tail,
    keeps.whole⟩
  · intro other isOther
    obtain rfl : files.sink = other := Option.some.inj isOther
    exact ⟨same.file.trans fileEq, same.maxFiles.trans maxFilesEq, holds⟩
  · apply keeps.numbered.congr
    intro name different
    rw [← fileEq] at different
    exact same.others name different

/-- A record is appended to the active file. -/
theorem append (keeps : KeepsTail older file maxFiles log backups active)
    {sink : RotatingFileSink} (isSink : log.sink = some sink)
    (buffer : Text) :
    KeepsTail older file maxFiles
      { log.setFiles (SinkFiles.put ⟨sink, log.directory⟩ buffer) with
        records := log.records ++ [buffer] }
      backups (active ++ [buffer]) := by
  obtain ⟨fileEq, maxFilesEq, holds⟩ := keeps.opened sink isSink
  obtain ⟨putHolds, same⟩ := holds.put buffer
  refine ⟨?_, by simp [FileLog.setFiles], ?_, keeps.length_eq, ?_, ?_⟩
  · intro other isOther
    obtain rfl := Option.some.inj isOther
    refine ⟨same.file.trans fileEq, same.maxFiles.trans maxFilesEq, ?_⟩
    have appended : (active ++ [buffer]).flatten =
        active.flatten ++ buffer := by
      simp
    rw [appended]
    exact putHolds
  · apply keeps.numbered.congr
    intro name different
    rw [← fileEq] at different
    exact same.others name different
  · obtain ⟨lost, records⟩ := keeps.tail
    refine ⟨lost, ?_⟩
    simp [← records]
  · intro few
    rw [← List.append_assoc, keeps.whole few]

/-- A rotation turns the active file into the first backup. -/
theorem rotate (positive : 0 < maxFiles)
    (keeps : KeepsTail older file maxFiles log backups active)
    {sink : RotatingFileSink} (isSink : log.sink = some sink)
    {outcome : RotateOutcome} (renames : outcome.failedRenames = [])
    (reopens : outcome.reopens = true) :
    ∃ files, SinkFiles.rotate ⟨sink, log.directory⟩ outcome =
        (.ok (), files) ∧
      KeepsTail older file maxFiles
        { log.setFiles files with rotations := log.rotations + 1 }
        ((active :: backups).take maxFiles) [] := by
  obtain ⟨rfl, rfl, holds⟩ := keeps.opened sink isSink
  have bounded : backups.length ≤ sink.mMaxFiles := by
    rw [keeps.length_eq]
    exact Nat.min_le_right _ _
  obtain ⟨files, rotated, rotatedHolds, fileEq, maxFilesEq, numbered⟩ :=
    holds.rotate renames reopens positive keeps.numbered (by simpa)
  have split : (backups.reverse.flatten ++ active) =
      ((active :: backups).drop sink.mMaxFiles).reverse.flatten ++
        ((active :: backups).take sink.mMaxFiles).reverse.flatten := by
    rw [← List.flatten_append, ← List.reverse_append,
      List.take_append_drop]
    simp
  refine ⟨files, rotated, ?_, by simp [FileLog.setFiles], ?_, ?_, ?_, ?_⟩
  · intro other isOther
    obtain rfl : files.sink = other := Option.some.inj isOther
    exact ⟨fileEq, maxFilesEq, rotatedHolds⟩
  · simpa [FileLog.setFiles, List.map_take] using numbered
  · simp only [List.length_take, List.length_cons, keeps.length_eq]
    omega
  · rw [List.append_nil]
    have suffix : ((active :: backups).take
        sink.mMaxFiles).reverse.flatten <:+
          backups.reverse.flatten ++ active := by
      rw [split]
      exact List.suffix_append _ _
    exact suffix.trans keeps.tail
  · intro few
    have short : (active :: backups).length ≤ sink.mMaxFiles := by
      rw [List.length_cons, keeps.length_eq]
      exact Nat.le_trans (Nat.succ_le_succ (Nat.min_le_left _ _)) few
    rw [List.take_of_length_le short, List.append_nil]
    simpa [FileLog.setFiles] using keeps.whole (Nat.le_of_succ_le few)

/-- A write appends its record, or starts a new active file with it. -/
theorem write (positive : 0 < maxFiles)
    (keeps : KeepsTail older file maxFiles log backups active) {buffer : Text}
    {outcome : RotateOutcome} (renames : outcome.failedRenames = [])
    (reopens : outcome.reopens = true)
    (stepped : FileStep file maxFileSize maxFiles log
      (.write buffer outcome) after) :
    ∃ sink, log.sink = some sink ∧
      if SinkFiles.rotates ⟨sink, log.directory⟩ buffer then
        KeepsTail older file maxFiles after
          ((active :: backups).take maxFiles) [buffer]
      else KeepsTail older file maxFiles after backups (active ++ [buffer]) := by
  cases stepped with
  | @write sink _ _ files isSink wrote =>
      refine ⟨sink, isSink, ?_⟩
      cases rotates : SinkFiles.rotates ⟨sink, log.directory⟩ buffer with
      | false =>
          simp only [SinkFiles.write, rotates, Bool.false_eq_true, if_false,
            pure, Except.pure, Prod.mk.injEq, true_and] at wrote
          subst files
          rw [if_neg (by decide)]
          exact keeps.append isSink buffer
      | true =>
          obtain ⟨rotated, rotation, rotatedKeeps⟩ :=
            keeps.rotate positive isSink renames reopens
          simp only [SinkFiles.write, rotates, if_true, rotation, pure,
            Except.pure, Prod.mk.injEq, true_and] at wrote
          subst files
          rw [if_pos rfl]
          exact rotatedKeeps.append rfl buffer
  | @writeThrows sink _ _ _ _ isSink threw =>
      cases rotates : SinkFiles.rotates ⟨sink, log.directory⟩ buffer with
      | false => simp [SinkFiles.write, rotates, pure, Except.pure] at threw
      | true =>
          obtain ⟨rotated, rotation, _⟩ :=
            keeps.rotate positive isSink renames reopens
          simp [SinkFiles.write, rotates, rotation, pure, Except.pure]
            at threw

theorem create (keeps : KeepsTail older file maxFiles log backups active)
    (noSink : log.sink = none) :
    KeepsTail older file maxFiles
      (log.setFiles (SinkFiles.openStream
        ⟨{ mFile := file, mMaxFileSize := maxFileSize,
           mMaxFiles := maxFiles }, log.directory⟩ true))
      backups active := by
  refine ⟨?_, by simp [FileLog.setFiles], ?_, keeps.length_eq,
    keeps.tail, keeps.whole⟩
  · intro other isOther
    obtain rfl := Option.some.inj isOther
    refine ⟨rfl, rfl, rfl, (log.directory file).getD [], ?_, ?_⟩
    · simp [FileLog.setFiles, SinkFiles.openStream, SinkFiles.setStream,
        Directory.append]
    · simpa [SinkFiles.openStream, SinkFiles.setStream]
        using keeps.closed noSink
  · apply keeps.numbered.congr
    intro name different
    simp [FileLog.setFiles, SinkFiles.openStream, SinkFiles.setStream,
      Directory.append, different]

theorem close (keeps : KeepsTail older file maxFiles log backups active)
    {sink : RotatingFileSink} (isSink : log.sink = some sink) :
    KeepsTail older file maxFiles
      { log with
        directory := (SinkFiles.closeStream ⟨sink, log.directory⟩).directory
        sink := none }
      backups active := by
  obtain ⟨rfl, rfl, holds⟩ := keeps.opened sink isSink
  obtain ⟨activeEq, same⟩ := holds.closeStream
  refine ⟨by simp, ?_, keeps.numbered.congr same.others,
    keeps.length_eq, keeps.tail, keeps.whole⟩
  intro _
  dsimp only at activeEq ⊢
  rw [activeEq, Option.getD_some]

theorem spill (keeps : KeepsTail older file maxFiles log backups active)
    {sink : RotatingFileSink} (isSink : log.sink = some sink)
    (count : Nat) :
    KeepsTail older file maxFiles
      (log.setFiles (SinkFiles.spill ⟨sink, log.directory⟩ count))
      backups active := by
  obtain ⟨_, _, holds⟩ := keeps.opened sink isSink
  obtain ⟨spilledHolds, same⟩ := holds.spill count
  exact keeps.move isSink spilledHolds same

/-- A step that is no write leaves the parts of the log as they are. -/
theorem step {op : FileOp}
    (stepped : FileStep file maxFileSize maxFiles log op after)
    (succeeds : op.succeeds = true)
    (notWrite : ∀ buffer outcome, op ≠ .write buffer outcome)
    (keeps : KeepsTail older file maxFiles log backups active) :
    KeepsTail older file maxFiles after backups active := by
  cases stepped with
  | create noSink => exact keeps.create noSink
  | createThrows _ fails =>
      exact absurd (by simpa [FileOp.succeeds] using succeeds) fails
  | write | writeThrows => exact absurd rfl (notWrite _ _)
  | flush isSink => exact keeps.spill isSink _
  | spill count isSink => exact keeps.spill isSink count
  | close isSink => exact keeps.close isSink

theorem preserved (positive : 0 < maxFiles) {directory : Directory} :
    (fileLogMachine file maxFileSize maxFiles directory).Preserves
      (fun _ op => op.succeeds = true)
      fun log => ∃ backups active,
        KeepsTail older file maxFiles log backups active := by
  rintro before op after stepped succeeds ⟨backups, active, keeps⟩
  by_cases isWrite : ∃ buffer outcome, op = .write buffer outcome
  · obtain ⟨buffer, outcome, rfl⟩ := isWrite
    obtain ⟨renames, reopens⟩ : outcome.failedRenames = [] ∧
        outcome.reopens = true := by
      simpa [FileOp.succeeds] using succeeds
    obtain ⟨sink, _, written⟩ :=
      keeps.write positive renames reopens (.of_step stepped)
    split at written
    · exact ⟨_, _, written⟩
    · exact ⟨_, _, written⟩
  · have notWrite : ∀ buffer outcome, op ≠ .write buffer outcome :=
      fun buffer outcome same => isWrite ⟨buffer, outcome, same⟩
    exact ⟨backups, active, keeps.step (.of_step stepped) succeeds notWrite⟩

theorem start {directory : Directory} (noLog : directory file = none)
    (found : ∀ index content,
      directory (backup file (index + 1)) = some content → older content) :
    KeepsTail older file maxFiles { directory := directory } [] [] where
  opened := by simp
  closed _ := by simp [noLog]
  numbered := ⟨by simp, fun index content _ => found index content⟩
  length_eq := by simp
  tail := by simp
  whole _ := rfl

theorem activeBytes (keeps : KeepsTail older file maxFiles log backups active) :
    log.activeBytes file = active.flatten := by
  unfold FileLog.activeBytes
  cases isSink : log.sink with
  | none => simpa using keeps.closed isSink
  | some sink =>
      obtain ⟨rfl, _, _, content, found, together⟩ :=
        keeps.opened sink isSink
      dsimp only at found ⊢
      rw [found]
      exact together

end KeepsTail

/-- Whatever the sink has gone through, the numbered files and the active one
are, in order, a tail of the log, each of them whole records: as many backups
as there were rotations or as may be kept, and the whole log as long as that
is enough. -/
theorem rotation_keeps_tail {file : Text} {maxFileSize maxFiles : Nat}
    (positive : 0 < maxFiles) {directory : Directory}
    (noLog : directory file = none)
    (noBackup : ∀ index, directory (backup file (index + 1)) = none)
    {ops : List FileOp} {log : FileLog}
    (run : (fileLogMachine file maxFileSize maxFiles directory).Run
      (fun _ op => op.succeeds = true) { directory := directory } ops log) :
    ∃ (backups : List (List Text)) (active : List Text),
      (∀ index, log.directory (backup file (index + 1)) =
        (backups[index]?).map List.flatten) ∧
      backups.length = min log.rotations maxFiles ∧
      log.activeBytes file = active.flatten ∧
      log.readBack file maxFiles =
        (backups.reverse.flatten ++ active).flatten ∧
      backups.reverse.flatten ++ active <:+ log.records ∧
      (log.rotations ≤ maxFiles →
        backups.reverse.flatten ++ active = log.records) := by
  have start : KeepsTail (fun _ => False) file maxFiles
      { directory := directory } [] [] :=
    .start noLog fun index content found => by simp [noBackup] at found
  obtain ⟨backups, active, keeps⟩ :=
    run.invariant (KeepsTail.preserved positive) ⟨[], [], start⟩
  have bounded : (backups.map List.flatten).length ≤ maxFiles := by
    rw [List.length_map, keeps.length_eq]
    exact Nat.min_le_right _ _
  refine ⟨backups, active, ?_, keeps.length_eq, keeps.activeBytes, ?_,
    keeps.tail, keeps.whole⟩
  · intro index
    rw [keeps.numbered.numbered index, List.getElem?_map]
  · rw [FileLog.readBack, keeps.numbered.read bounded, keeps.activeBytes,
      List.flatten_append, ← List.map_reverse, List.flatten_flatten]

theorem rotation_keeps_tail_one_backup :
    ∃ log : FileLog,
      (fileLogMachine "logs/a".toList 2 1 fun _ => none).Reachable log ∧
      log.rotations = 3 ∧ log.records = ["bc".toList, [], "de".toList] ∧
      ∃ (backups : List (List Text)) (active : List Text),
        log.readBack "logs/a".toList 1 =
          (backups.reverse.flatten ++ active).flatten ∧
        backups.reverse.flatten ++ active <:+ log.records := by
  obtain ⟨log, run, rotations, records⟩ := Machine.exists_run
    (fileLogMachine "logs/a".toList 2 1 fun _ => none)
    (fun _ op => op.succeeds = true) { directory := fun _ => none }
    [.create .opened, .write "bc".toList {}, .close, .create .opened,
      .write [] {}, .spill 1, .write "de".toList {}, .flush]
    (fun log => log.rotations = 3 ∧
      log.records = ["bc".toList, [], "de".toList]) (by decide)
  obtain ⟨backups, active, _, _, _, read, tail, _⟩ :=
    rotation_keeps_tail Nat.one_pos rfl (fun _ => rfl) run
  exact ⟨log, ⟨_, run.free⟩, rotations, records, backups, active, read, tail⟩

end LogParse
