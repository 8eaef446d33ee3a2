import LogParse.RotatingFileSink

/-!
# One rotation of any directory

A rotation finds whatever files there are, with gaps between the backups, and
some of its renames may fail.  When all succeed it is an exact shift.  The
error of a rename is ignored, though, and the next iteration replaces the file
that has stayed in its way.
-/

namespace LogParse

namespace SinkFiles

/-- What the files hold, the log file together with the bytes that are still
in its stream. -/
def contents (files : SinkFiles) : Directory :=
  if files.sink.mStream.isOpen then
    files.directory.extend files.sink.mFile files.sink.mStream.buffered
  else files.directory

theorem closeStream_directory (files : SinkFiles) :
    files.closeStream.directory = files.contents := by
  by_cases isOpen : files.sink.mStream.isOpen = true
  · simp [closeStream, flush, spill, setStream, contents, isOpen]
  · simp [closeStream, flush, spill, setStream, contents, isOpen]

theorem closeStream_sink (files : SinkFiles) :
    files.closeStream.sink = { files.sink with mStream := {} } := by
  by_cases isOpen : files.sink.mStream.isOpen = true
  · simp [closeStream, flush, spill, setStream, isOpen]
  · simp [closeStream, flush, spill, setStream, isOpen]

/-- A rotation that opens the log file again returns, with an empty stream. -/
theorem rotate_reopens (files : SinkFiles) {outcome : RotateOutcome}
    (reopens : outcome.reopens = true) :
    files.rotate outcome = (.ok (), {
      sink := { files.sink with mStream := { isOpen := true } }
      directory := (shiftBackups files.sink.mFile outcome.failedRenames
        files.sink.mMaxFiles files.contents).append files.sink.mFile [] }) := by
  simp [rotate, openStream, setStream, reopens, closeStream_directory,
    closeStream_sink, pure, Except.pure]

end SinkFiles

/-- Each file is moved on by one, the log file into the first backup; where
there was none, the next backup is gone, except that the last one stays.  The
log file is new, and no other name changes. -/
structure ExactShift (file : Text) (count : Nat) (before after : Directory) :
    Prop where
  moved : ∀ index, 0 < index → index < count → ∀ content,
    before (backup file index) = some content →
      after (backup file (index + 1)) = some content
  first : ∀ content, before file = some content →
    after (backup file 1) = some content
  gap : ∀ index, 0 < index → index < count →
    before (rotationSource file index) = none →
      after (backup file index) = none
  last : before (rotationSource file count) = none →
    after (backup file count) = before (backup file count)
  active : after file = some []
  others : ∀ name, name ≠ file →
    (∀ index, 0 < index → index ≤ count → name ≠ backup file index) →
    after name = before name

namespace ExactShift

variable {file : Text} {count : Nat} {before after : Directory}

theorem of_shifted (positive : 0 < count)
    (shifted : Shifted file count before after) :
    ExactShift file count before (after.append file []) := by
  have apart {name : Text} (notFile : name ≠ file) :
      after.append file [] name = after name :=
    Directory.append_of_ne notFile _ _
  have moved (index : Nat) (below : index < count) (content : Text)
      (held : before (slot file index) = some content) :
      after.append file [] (backup file (index + 1)) = some content := by
    rw [apart (backup_ne_file file _)]
    rcases Nat.lt_or_eq_of_le (Nat.succ_le_of_lt below) with inside | isLast
    · rw [shifted.inner _ (Nat.succ_pos index) inside, rotationSource_succ,
        held]
    · have atLast := shifted.last positive
      rw [← isLast, rotationSource_succ, held] at atLast
      exact atLast
  constructor
  · intro index positiveIndex below content held
    obtain ⟨index, rfl⟩ := Nat.exists_eq_add_one.mpr positiveIndex
    exact moved (index + 1) below content held
  · intro content held
    exact moved 0 positive content held
  · intro index positiveIndex below absent
    rw [apart (backup_ne_file file index),
      shifted.inner index positiveIndex below, absent]
  · intro absent
    rw [apart (backup_ne_file file count), shifted.last positive, absent]
    rfl
  · simp [Directory.append, shifted.active positive]
  · intro name notFile notBackup
    rw [apart notFile, shifted.others name notFile notBackup]

/-- Only the last backup can disappear, and only when a file takes its
place. -/
theorem kept (shift : ExactShift file count before after) {name content : Text}
    (held : before name = some content) :
    (∃ other, after other = some content) ∨
      name = backup file count ∧
        (before (rotationSource file count)).isSome = true := by
  by_cases isFile : name = file
  · subst name
    exact .inl ⟨_, shift.first content held⟩
  by_cases isBackup :
      ∃ index, 0 < index ∧ index ≤ count ∧ name = backup file index
  · obtain ⟨index, positive, within, rfl⟩ := isBackup
    rcases Nat.lt_or_eq_of_le within with below | rfl
    · exact .inl ⟨_, shift.moved index positive below content held⟩
    · cases source : before (rotationSource file index) with
      | none => exact .inl ⟨_, (shift.last source).trans held⟩
      | some _ => exact .inr ⟨rfl, rfl⟩
  · refine .inl ⟨name, (shift.others name isFile ?_).trans held⟩
    intro index positive within same
    exact isBackup ⟨index, positive, within, same⟩

end ExactShift

/-- Whatever the directory holds, a rotation whose file operations succeed is
an exact shift of it. -/
theorem rotate_exactShift (files : SinkFiles)
    (positive : 0 < files.sink.mMaxFiles) {outcome : RotateOutcome}
    (renames : outcome.failedRenames = []) (reopens : outcome.reopens = true) :
    ∃ after, files.rotate outcome = (.ok (), after) ∧
      after.contents = after.directory ∧
      ExactShift files.sink.mFile files.sink.mMaxFiles files.contents
        after.directory ∧
      ∀ name content, files.contents name = some content →
        (∃ other, after.directory other = some content) ∨
          name = backup files.sink.mFile files.sink.mMaxFiles ∧
            (files.contents (rotationSource files.sink.mFile
              files.sink.mMaxFiles)).isSome = true := by
  have shift := ExactShift.of_shifted positive
    (shiftBackups_shifted files.sink.mFile files.sink.mMaxFiles files.contents)
  rw [← renames] at shift
  refine ⟨_, files.rotate_reopens reopens, ?_, shift, ?_⟩
  · simp [SinkFiles.contents, Directory.extend, Directory.append]
  · intro name content held
    exact shift.kept held

/-- Bytes still in the stream, and a gap between the backups. -/
theorem rotate_exactShift_gap :
    ∃ files after, SinkFiles.rotate files {} = (.ok (), after) ∧
      files.contents "logs/a".toList = some "xy".toList ∧
      files.contents (backup "logs/a".toList 1) = none ∧
      ExactShift "logs/a".toList 3 files.contents after.directory := by
  let files : SinkFiles :=
    { sink := {
        mFile := "logs/a".toList
        mStream := { isOpen := true, buffered := "y".toList }
        mMaxFileSize := 4
        mMaxFiles := 3 }
      directory := fun name =>
        if name = "logs/a".toList then some "x".toList
        else if name = "logs/a.2".toList then some "old".toList
        else none }
  obtain ⟨after, rotated, _, shift, _⟩ :=
    @rotate_exactShift files (by decide) {} rfl rfl
  exact ⟨files, after, rotated, by decide, by decide, shift⟩

section Retains

variable (file : Text) (failedRenames : List Nat) (count : Nat)
  (before after : Directory)

/-- What the log file and each backup but the last one held is still under one
of the names. -/
def Retains : Prop :=
  ∀ index < count, ∀ content ∈ before (slot file index),
    ∃ other < count + 1, after (slot file other) = some content

instance : Decidable (Retains file count before after) :=
  inferInstanceAs (Decidable (∀ _ < _, ∀ _ ∈ _, ∃ _ < _, _))

/-- Another file is moved into the slot, and the file that is there does not
move on. -/
def Overwritten (index : Nat) : Prop :=
  (before (slot file index)).isSome = true ∧
    ¬ MovesOn file failedRenames count before index ∧
    0 < index ∧ MovesOn file failedRenames count before (index - 1)

instance (index : Nat) :
    Decidable (Overwritten file failedRenames count before index) :=
  inferInstanceAs (Decidable (_ ∧ _ ∧ _ ∧ _))

/-- A file with the same bytes survives: another one that is not overwritten,
or the log file that is created anew, if there are none. -/
def SurvivesElsewhere (index : Nat) : Prop :=
  (∃ other < count + 1, before (slot file other) = before (slot file index) ∧
    ¬ Overwritten file failedRenames count before other) ∨
  before (slot file index) = some [] ∧
    (before file = none ∨ MovesOn file failedRenames count before 0)

instance (index : Nat) :
    Decidable (SurvivesElsewhere file failedRenames count before index) :=
  inferInstanceAs (Decidable ((∃ _ < _, _) ∨ _))

variable {file failedRenames count before after}

/-- A file that is not overwritten is where it was or in the next slot. -/
theorem Renamed.kept {index : Nat} {content : Text}
    (renamed : Renamed file failedRenames count before after)
    (within : index < count + 1)
    (held : before (slot file index) = some content)
    (spared : ¬ Overwritten file failedRenames count before index) :
    ∃ other < count + 1,
      after.append file [] (slot file other) = some content := by
  by_cases moves : MovesOn file failedRenames count before index
  · refine ⟨index + 1, Nat.succ_lt_succ moves.1, ?_⟩
    rw [slot, Directory.append_of_ne (backup_ne_file file _),
      renamed.backup index moves.1, if_pos moves, held]
  · refine ⟨index, within, ?_⟩
    cases index with
    | zero =>
        have stays : after file = some content := by
          rw [renamed.active, if_neg moves]
          exact held
        simp [slot, Directory.append, stays]
    | succ index =>
        have quiet : ¬ MovesOn file failedRenames count before index := by
          intro arrives
          exact spared ⟨by rw [held]; rfl, moves, Nat.succ_pos index, arrives⟩
        rw [slot, Directory.append_of_ne (backup_ne_file file _),
          renamed.backup index (Nat.lt_of_succ_lt_succ within),
          if_neg quiet, if_neg moves]
        exact held

/-- Where the content of a slot comes from. -/
theorem Renamed.origin {index : Nat} {content : Text}
    (renamed : Renamed file failedRenames count before after)
    (within : index < count + 1)
    (found : after.append file [] (slot file index) = some content) :
    (∃ other < count + 1, before (slot file other) = some content ∧
      ¬ Overwritten file failedRenames count before other) ∨
    content = [] ∧
      (before file = none ∨ MovesOn file failedRenames count before 0) := by
  cases index with
  | zero =>
      have unspoilt : ¬ Overwritten file failedRenames count before 0 :=
        fun overwritten => Nat.lt_irrefl 0 overwritten.2.2.1
      have isContent : (after file).getD [] = content := by
        simpa [slot, Directory.append] using found
      rw [renamed.active] at isContent
      by_cases moves : MovesOn file failedRenames count before 0
      · rw [if_pos moves] at isContent
        exact .inr ⟨isContent.symm, .inr moves⟩
      · rw [if_neg moves] at isContent
        cases held : before file with
        | none =>
            rw [held] at isContent
            exact .inr ⟨isContent.symm, .inl rfl⟩
        | some bytes =>
            rw [held] at isContent
            refine .inl ⟨0, Nat.succ_pos count, ?_, unspoilt⟩
            rw [← isContent]
            exact held
  | succ index =>
      have below : index < count := Nat.lt_of_succ_lt_succ within
      rw [slot, Directory.append_of_ne (backup_ne_file file _),
        renamed.backup index below] at found
      by_cases arrives : MovesOn file failedRenames count before index
      · rw [if_pos arrives] at found
        exact .inl ⟨index, Nat.lt_succ_of_lt below, found,
          fun overwritten => overwritten.2.1 arrives⟩
      · rw [if_neg arrives] at found
        split at found
        · cases found
        · exact .inl ⟨index + 1, within, found,
            fun overwritten => arrives overwritten.2.2.2⟩

end Retains

/-- A rotation that returns keeps what the log file and the backups before the
last one held exactly if each file that is overwritten survives elsewhere. -/
theorem rotate_retains_iff (files : SinkFiles) {outcome : RotateOutcome}
    (reopens : outcome.reopens = true) :
    ∃ after, files.rotate outcome = (.ok (), after) ∧
      (Retains files.sink.mFile files.sink.mMaxFiles files.contents
          after.directory ↔
        ∀ index < files.sink.mMaxFiles,
          Overwritten files.sink.mFile outcome.failedRenames
              files.sink.mMaxFiles files.contents index →
            SurvivesElsewhere files.sink.mFile outcome.failedRenames
              files.sink.mMaxFiles files.contents index) := by
  have renamed := shiftBackups_renamed files.sink.mFile
    outcome.failedRenames files.sink.mMaxFiles files.contents
  refine ⟨_, files.rotate_reopens reopens, ?_⟩
  constructor
  · intro retains index below overwritten
    obtain ⟨content, held⟩ := Option.isSome_iff_exists.mp overwritten.1
    obtain ⟨other, within, found⟩ := retains index below content held
    rcases renamed.origin within found with
      ⟨origin, originWithin, same, spared⟩ | ⟨rfl, anew⟩
    · exact .inl ⟨origin, originWithin, same.trans held.symm, spared⟩
    · exact .inr ⟨held, anew⟩
  · intro survives index below content held
    by_cases overwritten : Overwritten files.sink.mFile
        outcome.failedRenames files.sink.mMaxFiles files.contents index
    · rcases survives index below overwritten with
        ⟨other, within, same, spared⟩ | ⟨empty, anew⟩
      · exact renamed.kept within (same.trans held) spared
      · obtain rfl : [] = content := Option.some.inj (empty.symm.trans held)
        refine ⟨0, Nat.succ_pos _, ?_⟩
        have fresh : shiftBackups files.sink.mFile outcome.failedRenames
            files.sink.mMaxFiles files.contents files.sink.mFile = none := by
          rw [renamed.active]
          rcases anew with absent | moves
          · rw [absent, ite_self]
          · exact if_pos moves
        simp [slot, Directory.append, fresh]
    · exact renamed.kept (Nat.lt_succ_of_lt below) held overwritten

/-- The log file cannot be renamed: it keeps growing, and its backup moves
on. -/
theorem rotate_retains_iff_active :
    ∃ files after,
      SinkFiles.rotate files { failedRenames := [1] } = (.ok (), after) ∧
      files.sink.mMaxFiles = 2 ∧
      files.contents (backup "logs/a".toList 1) = some "b".toList ∧
      Retains "logs/a".toList 2 files.contents after.directory := by
  let files : SinkFiles :=
    { sink := {
        mFile := "logs/a".toList
        mStream := { isOpen := true }
        mMaxFileSize := 4
        mMaxFiles := 2 }
      directory := fun name =>
        if name = "logs/a".toList then some "c".toList
        else if name = "logs/a.1".toList then some "b".toList
        else none }
  obtain ⟨after, rotated, retains_iff⟩ :=
    @rotate_retains_iff files { failedRenames := [1] } rfl
  exact ⟨files, after, rotated, rfl, by decide,
    retains_iff.mpr (by decide)⟩

/-- The first of two backups cannot be renamed, and the log file takes its
place. -/
theorem rotate_destroys_backup :
    ∃ files after,
      SinkFiles.rotate files { failedRenames := [2] } = (.ok (), after) ∧
      files.sink.mMaxFiles = 2 ∧
      files.contents (backup "logs/a".toList 1) = some "b".toList ∧
      ¬ Retains "logs/a".toList 2 files.contents after.directory := by
  let files : SinkFiles :=
    { sink := {
        mFile := "logs/a".toList
        mStream := { isOpen := true }
        mMaxFileSize := 4
        mMaxFiles := 2 }
      directory := fun name =>
        if name = "logs/a".toList then some "c".toList
        else if name = "logs/a.1".toList then some "b".toList
        else none }
  exact ⟨files, _, rfl, rfl, by decide, by decide⟩

end LogParse
