import LogParse.RotatingHistory
import LogParse.Library.Shelf

/-!
# Rotation under failures

Renames may fail, and so may opening the log file, in the constructor and in
any rotation.  Records are lost then, but never cut, repeated or put in
another order, and no other file of the directory is touched.
-/

namespace LogParse

/-- Each file holds the items of its slot. -/
def Shelved (file : Text) (count : Nat) (directory : Directory)
    (shelf : Shelf Text) : Prop :=
  ∀ index ≤ count,
    (directory (slot file index)).getD [] = (shelf index).flatten

namespace Shelved

variable {file : Text} {count index : Nat} {directory : Directory}
  {shelf : Shelf Text}

theorem rename (shelved : Shelved file count directory shelf) :
    Shelved file count
      (directory.rename (slot file index) (slot file (index + 1)))
      (shelf.advance index) := by
  intro other within
  by_cases isTarget : other = index + 1
  · subst other
    simpa [Directory.rename, Shelf.advance]
      using shelved index (by omega)
  · have notTarget := slot_ne_slot file isTarget
    by_cases isSource : other = index
    · subst other
      simp [Directory.rename, Shelf.advance, notTarget]
    · have notSource := slot_ne_slot file isSource
      simpa [Directory.rename, Shelf.advance, notTarget, notSource, isTarget,
        isSource] using shelved other within

theorem shiftOne (shelved : Shelved file count directory shelf)
    (failedRenames : List Nat) (below : index < count) :
    ∃ after,
      Shelved file count (shiftOne file failedRenames (index + 1) directory)
        after ∧ (after.read count).Sublist (shelf.read count) := by
  rw [shiftOne_succ]
  split
  · exact ⟨_, shelved.rename, shelf.read_advance_sublist below⟩
  · exact ⟨shelf, shelved, .refl _⟩

/-- The loop of `rotate`, whichever of its renames fail. -/
theorem shiftBackups {steps : Nat}
    (shelved : Shelved file count directory shelf)
    (failedRenames : List Nat) (within : steps ≤ count) :
    ∃ after,
      Shelved file count
        (shiftBackups file failedRenames steps directory) after ∧
      (after.read count).Sublist (shelf.read count) := by
  induction steps generalizing directory shelf with
  | zero => exact ⟨shelf, shelved, .refl _⟩
  | succ steps induction =>
      obtain ⟨shifted, shiftedShelved, fewer⟩ :=
        shelved.shiftOne failedRenames within
      obtain ⟨after, afterShelved, fewest⟩ :=
        induction shiftedShelved (Nat.le_of_succ_le within)
      exact ⟨after, afterShelved, fewest.trans fewer⟩

end Shelved

/-- The log file with what the stream keeps back, or without a stream. -/
def SinkFiles.Active (files : SinkFiles) (bytes : Text) : Prop :=
  files.Holds bytes ∨ files.sink.mStream = {} ∧
    (files.directory files.sink.mFile).getD [] = bytes

/-- Only the log file and its backups differ from the other directory. -/
def SameElsewhere (file : Text) (maxFiles : Nat) (others : Directory)
    (directory : Directory) : Prop :=
  ∀ name, (∀ index, index ≤ maxFiles → name ≠ slot file index) →
    directory name = others name

structure SinkFiles.Keeps (file : Text) (maxFiles : Nat) (others : Directory)
    (files : SinkFiles) (shelf : Shelf Text) : Prop where
  file_eq : files.sink.mFile = file
  maxFiles_eq : files.sink.mMaxFiles = maxFiles
  active : files.Active (shelf 0).flatten
  backups : ∀ index < maxFiles,
    (files.directory (backup file (index + 1))).getD [] =
      (shelf (index + 1)).flatten
  elsewhere : SameElsewhere file maxFiles others files.directory

namespace SinkFiles

variable {file : Text} {maxFiles : Nat} {others : Directory}
  {files after : SinkFiles} {shelf : Shelf Text} {bytes : Text}

theorem Active.spill (active : files.Active bytes) (count : Nat) :
    (files.spill count).Active bytes ∧
      files.SameBackups (files.spill count) := by
  rcases active with holds | ⟨closed, found⟩
  · obtain ⟨spilled, same⟩ := holds.spill count
    exact ⟨.inl spilled, same⟩
  · have still : files.spill count = files := by
      simp [SinkFiles.spill, closed]
    rw [still]
    exact ⟨.inr ⟨closed, found⟩, rfl, rfl, fun _ _ => rfl⟩

/-- A stream that is not open takes nothing. -/
theorem Active.put (active : files.Active bytes) (buffer : Text) :
    ((files.put buffer).Active (bytes ++ buffer) ∨
        (files.put buffer).Active bytes) ∧
      files.SameBackups (files.put buffer) := by
  rcases active with holds | ⟨closed, found⟩
  · obtain ⟨written, same⟩ := holds.put buffer
    exact ⟨.inl (.inl written), same⟩
  · have still : files.put buffer = files := by
      simp [SinkFiles.put, closed]
    rw [still]
    exact ⟨.inr (.inr ⟨closed, found⟩), rfl, rfl, fun _ _ => rfl⟩

theorem Active.closeStream (active : files.Active bytes) :
    (files.closeStream.directory files.sink.mFile).getD [] = bytes ∧
      files.SameBackups files.closeStream := by
  rcases active with holds | ⟨closed, found⟩
  · obtain ⟨content, same⟩ := holds.closeStream
    exact ⟨by rw [content]; rfl, same⟩
  · have still : files.closeStream = files.setStream {} := by
      simp [SinkFiles.closeStream, SinkFiles.flush, SinkFiles.spill, closed]
    rw [still]
    exact ⟨found, rfl, rfl, fun _ _ => rfl⟩

/-- A sink with a stream that keeps nothing back, over these files. -/
theorem Active.fresh (sink : RotatingFileSink) (directory : Directory)
    (opens : Bool) :
    (SinkFiles.openStream ⟨sink, directory⟩ opens).Active
      ((directory sink.mFile).getD []) := by
  cases opens with
  | true =>
      refine .inl ⟨rfl, (directory sink.mFile).getD [], ?_, ?_⟩
      · simp [openStream, setStream, Directory.append]
      · simp [openStream, setStream]
  | false => exact .inr ⟨rfl, rfl⟩

namespace Keeps

/-- The log file changes and nothing else. -/
theorem move (keeps : files.Keeps file maxFiles others shelf)
    (same : files.SameBackups after) {items : List Text}
    (active : after.Active items.flatten) :
    after.Keeps file maxFiles others (Function.update shelf 0 items) := by
  refine ⟨same.file.trans keeps.file_eq,
    same.maxFiles.trans keeps.maxFiles_eq, by simpa using active, ?_, ?_⟩
  · intro index below
    rw [same.others _ (keeps.file_eq ▸ backup_ne_file file _),
      keeps.backups index below]
    simp
  · intro name apart
    rw [same.others name, keeps.elsewhere name apart]
    exact keeps.file_eq ▸ apart 0 (Nat.zero_le maxFiles)

/-- Nothing but the stream changes. -/
theorem still (keeps : files.Keeps file maxFiles others shelf)
    (same : files.SameBackups after)
    (active : after.Active (shelf 0).flatten) :
    after.Keeps file maxFiles others shelf := by
  have moved := keeps.move same active
  rwa [Function.update_eq_self] at moved

theorem spill (keeps : files.Keeps file maxFiles others shelf)
    (count : Nat) : (files.spill count).Keeps file maxFiles others shelf := by
  obtain ⟨active, same⟩ := keeps.active.spill count
  exact keeps.still same active

theorem put (keeps : files.Keeps file maxFiles others shelf)
    (buffer : Text) :
    ∃ after, (files.put buffer).Keeps file maxFiles others after ∧
      (after.read maxFiles).Sublist (shelf.read maxFiles ++ [buffer]) := by
  obtain ⟨active | active, same⟩ := keeps.active.put buffer
  · have grown : (shelf 0 ++ [buffer]).flatten =
        (shelf 0).flatten ++ buffer := by
      simp
    refine ⟨shelf.put buffer, keeps.move same (grown ▸ active), ?_⟩
    rw [Shelf.read_put]
  · exact ⟨shelf, keeps.still same active, List.sublist_append_left _ _⟩

theorem closeStream (keeps : files.Keeps file maxFiles others shelf) :
    Shelved file maxFiles files.closeStream.directory shelf ∧
      SameElsewhere file maxFiles others files.closeStream.directory := by
  obtain ⟨content, same⟩ := keeps.active.closeStream
  rw [keeps.file_eq] at content
  constructor
  · intro index within
    cases index with
    | zero => exact content
    | succ index =>
        have different : slot file (index + 1) ≠ files.sink.mFile := by
          rw [keeps.file_eq]
          exact backup_ne_file file _
        rw [same.others _ different]
        exact keeps.backups index within
  · intro name apart
    rw [same.others name, keeps.elsewhere name apart]
    exact keeps.file_eq ▸ apart 0 (Nat.zero_le maxFiles)

end Keeps

end SinkFiles

/-- A sink is created over the files, or its rotation opens the log file
again or fails to. -/
theorem Shelved.openStream {file : Text} {maxFiles : Nat}
    {others directory : Directory} {shelf : Shelf Text}
    (shelved : Shelved file maxFiles directory shelf)
    (elsewhere : SameElsewhere file maxFiles others directory)
    (sink : RotatingFileSink) (fileEq : sink.mFile = file)
    (maxFilesEq : sink.mMaxFiles = maxFiles) (opens : Bool) :
    (SinkFiles.openStream ⟨sink, directory⟩ opens).Keeps file maxFiles others
      shelf := by
  have active := SinkFiles.Active.fresh sink directory opens
  rw [fileEq] at active
  have content : (directory file).getD [] = (shelf 0).flatten :=
    shelved 0 (Nat.zero_le maxFiles)
  rw [content] at active
  have unchanged (name : Text) (different : name ≠ file) :
      (SinkFiles.openStream ⟨sink, directory⟩ opens).directory name =
        directory name := by
    subst file
    cases opens with
    | true => exact Directory.append_of_ne different _ _
    | false => rfl
  refine ⟨?_, ?_, active, ?_, ?_⟩
  · cases opens <;> exact fileEq
  · cases opens <;> exact maxFilesEq
  · intro index below
    rw [unchanged _ (backup_ne_file file _)]
    exact shelved (index + 1) below
  · intro name apart
    rw [unchanged name (apart 0 (Nat.zero_le maxFiles)),
      elsewhere name apart]

namespace SinkFiles.Keeps

variable {file : Text} {maxFiles : Nat} {others : Directory}
  {files : SinkFiles} {shelf : Shelf Text}

/-- Whatever fails in a rotation, it loses whole records at most. -/
theorem rotate (keeps : files.Keeps file maxFiles others shelf)
    (outcome : RotateOutcome) :
    ∃ after, (files.rotate outcome).2.Keeps file maxFiles others after ∧
      (after.read maxFiles).Sublist (shelf.read maxFiles) := by
  obtain ⟨shelved, elsewhere⟩ := keeps.closeStream
  obtain ⟨after, shifted, fewer⟩ :=
    shelved.shiftBackups outcome.failedRenames (Nat.le_refl maxFiles)
  have renamed := shiftBackups_renamed file outcome.failedRenames maxFiles
    files.closeStream.directory
  have shiftedElsewhere : SameElsewhere file maxFiles others
      (shiftBackups file outcome.failedRenames maxFiles
        files.closeStream.directory) := by
    intro name apart
    rw [renamed.others name apart, elsewhere name apart]
  refine ⟨after, ?_, fewer⟩
  have sinkEq := files.closeStream_sink
  have reopened := shifted.openStream shiftedElsewhere files.closeStream.sink
    (by rw [sinkEq]; exact keeps.file_eq)
    (by rw [sinkEq]; exact keeps.maxFiles_eq) outcome.reopens
  have rotated : (files.rotate outcome).2 = SinkFiles.openStream
      ⟨files.closeStream.sink, shiftBackups file outcome.failedRenames
        maxFiles files.closeStream.directory⟩ outcome.reopens := by
    rw [SinkFiles.rotate, keeps.file_eq, keeps.maxFiles_eq]
    split <;> rfl
  rw [rotated]
  exact reopened

/-- Only a write that returns may have stored its record. -/
theorem write (keeps : files.Keeps file maxFiles others shelf)
    {buffer : Text} {outcome : RotateOutcome} {result : Except Text Unit}
    {written : SinkFiles}
    (wrote : files.write buffer outcome = (result, written)) :
    ∃ after, written.Keeps file maxFiles others after ∧
      (after.read maxFiles).Sublist
        (shelf.read maxFiles ++ if result.isOk then [buffer] else []) := by
  unfold SinkFiles.write at wrote
  split at wrote
  · obtain ⟨rotatedShelf, rotatedKeeps, fewer⟩ := keeps.rotate outcome
    split at wrote
    · rename_i rotated isRotated
      rw [isRotated] at rotatedKeeps
      obtain ⟨after, putKeeps, fewest⟩ := rotatedKeeps.put buffer
      obtain ⟨rfl, rfl⟩ := Prod.mk.inj wrote
      exact ⟨after, putKeeps, fewest.trans (fewer.append_right _)⟩
    · rename_i message rotated isRotated
      rw [isRotated] at rotatedKeeps
      obtain ⟨rfl, rfl⟩ := Prod.mk.inj wrote
      exact ⟨rotatedShelf, rotatedKeeps,
        fewer.trans (List.sublist_append_left _ _)⟩
  · obtain ⟨rfl, rfl⟩ := Prod.mk.inj wrote
    exact keeps.put buffer

end SinkFiles.Keeps

/-- The files hold whole records, a part of the older ones and the log. -/
structure FileLog.Ordered (file : Text) (maxFiles : Nat) (others : Directory)
    (older : List Text) (log : FileLog) (shelf : Shelf Text) : Prop where
  opened : ∀ sink, log.sink = some sink →
    SinkFiles.Keeps file maxFiles others ⟨sink, log.directory⟩ shelf
  closed : log.sink = none → Shelved file maxFiles log.directory shelf ∧
    SameElsewhere file maxFiles others log.directory
  inOrder : (shelf.read maxFiles).Sublist (older ++ log.records)

namespace FileLog.Ordered

variable {file : Text} {maxFileSize maxFiles : Nat} {others : Directory}
  {older : List Text} {log after : FileLog} {shelf : Shelf Text}

theorem of_keeps {files : SinkFiles}
    (keeps : files.Keeps file maxFiles others shelf)
    (isSink : log.sink = some files.sink)
    (directoryEq : log.directory = files.directory)
    (inOrder : (shelf.read maxFiles).Sublist (older ++ log.records)) :
    log.Ordered file maxFiles others older shelf := by
  refine ⟨?_, by simp [isSink], inOrder⟩
  intro sink isOther
  obtain rfl := Option.some.inj (isSink.symm.trans isOther)
  rw [directoryEq]
  exact keeps

theorem step {op : FileOp}
    (ordered : log.Ordered file maxFiles others older shelf)
    (stepped : FileStep file maxFileSize maxFiles log op after) :
    ∃ next, after.Ordered file maxFiles others older next := by
  cases stepped with
  | create noSink =>
      obtain ⟨shelved, elsewhere⟩ := ordered.closed noSink
      have keeps := shelved.openStream elsewhere
        { mFile := file, mMaxFileSize := maxFileSize, mMaxFiles := maxFiles }
        rfl rfl true
      exact ⟨shelf, .of_keeps keeps rfl rfl ordered.inOrder⟩
  | createThrows => exact ⟨shelf, ordered⟩
  | write isSink wrote =>
      obtain ⟨next, keeps, fewer⟩ := (ordered.opened _ isSink).write wrote
      refine ⟨next, .of_keeps keeps rfl rfl (fewer.trans ?_)⟩
      rw [← List.append_assoc]
      exact ordered.inOrder.append (.refl _)
  | writeThrows isSink threw =>
      obtain ⟨next, keeps, fewer⟩ := (ordered.opened _ isSink).write threw
      rw [Except.isOk, Except.toBool, if_neg (by decide),
        List.append_nil] at fewer
      exact ⟨next, .of_keeps keeps rfl rfl (fewer.trans ordered.inOrder)⟩
  | flush isSink =>
      exact ⟨shelf, .of_keeps ((ordered.opened _ isSink).spill _) rfl rfl
        ordered.inOrder⟩
  | spill count isSink =>
      exact ⟨shelf, .of_keeps ((ordered.opened _ isSink).spill count) rfl rfl
        ordered.inOrder⟩
  | close isSink =>
      exact ⟨shelf, by simp, fun _ => (ordered.opened _ isSink).closeStream,
        ordered.inOrder⟩

theorem activeBytes (ordered : log.Ordered file maxFiles others older shelf) :
    log.activeBytes file = (shelf 0).flatten := by
  unfold FileLog.activeBytes
  cases isSink : log.sink with
  | none =>
      have content := (ordered.closed isSink).1 0 (Nat.zero_le maxFiles)
      simpa [slot] using content
  | some sink =>
      obtain ⟨rfl, _, active, _, _⟩ := ordered.opened sink isSink
      rcases active with ⟨_, content, found, together⟩ | ⟨closed, found⟩
      · dsimp only at found ⊢
        rw [found]
        exact together
      · dsimp only at closed found ⊢
        rw [closed, found, List.append_nil]

theorem backups (ordered : log.Ordered file maxFiles others older shelf)
    {index : Nat} (below : index < maxFiles) :
    (log.directory (backup file (index + 1))).getD [] =
      (shelf (index + 1)).flatten := by
  cases isSink : log.sink with
  | none => exact (ordered.closed isSink).1 (index + 1) below
  | some sink => exact (ordered.opened sink isSink).backups index below

theorem elsewhere (ordered : log.Ordered file maxFiles others older shelf) :
    SameElsewhere file maxFiles others log.directory := by
  cases isSink : log.sink with
  | none => exact (ordered.closed isSink).2
  | some sink => exact (ordered.opened sink isSink).elsewhere

end FileLog.Ordered

/-- The files as they were found, one item each. -/
def foundShelf (file : Text) (directory : Directory) : Shelf Text :=
  fun index => [(directory (slot file index)).getD []]

/-- Whatever the directory held, whichever renames fail and whenever the log
file does not open: the backups and the active file, read in order, are whole
files found there and whole records whose `write` returned, none of them twice
and all in their order, and no other name of the directory has changed. -/
theorem rotation_keeps_order {file : Text} {maxFileSize maxFiles : Nat}
    {directory : Directory} {ops : List FileOp} {log : FileLog}
    (run : (fileLogMachine file maxFileSize maxFiles directory).Run
      Machine.Free { directory := directory } ops log) :
    ∃ shelf : Shelf Text,
      (∀ index < maxFiles,
        (log.directory (backup file (index + 1))).getD [] =
          (shelf (index + 1)).flatten) ∧
      log.activeBytes file = (shelf 0).flatten ∧
      (shelf.read maxFiles).Sublist
        ((foundShelf file directory).read maxFiles ++ log.records) ∧
      ∀ name, (∀ index ≤ maxFiles, name ≠ slot file index) →
        log.directory name = directory name := by
  have start : FileLog.Ordered file maxFiles directory
      ((foundShelf file directory).read maxFiles) { directory := directory }
      (foundShelf file directory) := by
    refine ⟨by simp, fun _ => ⟨?_, fun _ _ => rfl⟩, by simp⟩
    intro index _
    simp [foundShelf]
  have preserved : (fileLogMachine file maxFileSize maxFiles
      directory).Preserves Machine.Free fun log => ∃ shelf,
        log.Ordered file maxFiles directory
          ((foundShelf file directory).read maxFiles) shelf := by
    rintro before op after stepped _ ⟨shelf, ordered⟩
    exact ordered.step (.of_step stepped)
  obtain ⟨shelf, ordered⟩ := run.invariant preserved ⟨_, start⟩
  exact ⟨shelf, fun _ below => ordered.backups below, ordered.activeBytes,
    ordered.inOrder, ordered.elsewhere⟩

/-- Once the first backup cannot be renamed and the log file does not open:
the first record and the one written meanwhile are lost. -/
theorem rotation_keeps_order_failing :
    ∃ log : FileLog,
      (fileLogMachine "logs/a".toList 4 2 fun _ => none).Reachable log ∧
      log.records.length = 4 ∧
      log.readBack "logs/a".toList 2 = "cdghij".toList ∧
      ∃ shelf : Shelf Text,
        log.activeBytes "logs/a".toList = (shelf 0).flatten ∧
        (shelf.read 2).Sublist
          ((foundShelf "logs/a".toList fun _ => none).read 2 ++ log.records) := by
  obtain ⟨log, run, records, read⟩ := Machine.exists_run
    (fileLogMachine "logs/a".toList 4 2 fun _ => none) Machine.Free
    { directory := fun _ => none }
    [.create .opened, .write "ab".toList {}, .flush, .write "cd".toList {},
      .flush, .write "ef".toList { failedRenames := [2], reopens := false },
      .write "ef".toList {}, .close, .create .opened,
      .write "ghij".toList {}]
    (fun log => log.records.length = 4 ∧
      log.readBack "logs/a".toList 2 = "cdghij".toList) (by decide +kernel)
  obtain ⟨shelf, _, active, inOrder, _⟩ := rotation_keeps_order run
  exact ⟨log, ⟨_, run⟩, records, read, shelf, active, inOrder⟩

end LogParse
