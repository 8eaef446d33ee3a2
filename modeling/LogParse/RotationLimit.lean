import LogParse.RotatingHistory

/-!
# The size limit of the rotating file sink

A write rotates when the file reaches its maximal size, but it measures the
file on the disk.  What the stream still holds back is not counted, so the
limit is kept as long as those bytes make no difference to the decision.
-/

namespace LogParse

/-- Smaller than the limit, or a single record. -/
def WithinLimit (maxFileSize : Nat) (records : List Text) : Prop :=
  records.flatten.length < maxFileSize ∨ records.length = 1

instance (maxFileSize : Nat) (records : List Text) :
    Decidable (WithinLimit maxFileSize records) :=
  inferInstanceAs (Decidable (_ ∨ _))

/-- A file with these contents was found, and the records it is known to
consist of are within the limit. -/
def FoundWithin (maxFileSize : Nat) (found : Nat → Option (List Text))
    (content : Text) : Prop :=
  ∃ index part, found index = some part ∧ part.flatten = content ∧
    WithinLimit maxFileSize part

/-- The numbered files and the active one, with the bytes still buffered, each
consist of whole records of the log and are within the limit.  Behind them
there are only such numbered files as were found, within the limit too. -/
def FileLog.WithinLimits (file : Text) (maxFileSize : Nat)
    (found : Nat → Option (List Text)) (log : FileLog) : Prop :=
  ∃ (backups : List (List Text)) (active : List Text),
    (∀ index part, backups[index]? = some part →
      log.directory (backup file (index + 1)) = some part.flatten) ∧
    (∀ index content, backups.length ≤ index →
      log.directory (backup file (index + 1)) = some content →
        FoundWithin maxFileSize found content) ∧
    log.activeBytes file = active.flatten ∧
    backups.reverse.flatten ++ active <:+ log.records ∧
    WithinLimit maxFileSize active ∧
    ∀ part ∈ backups, WithinLimit maxFileSize part

/-- The size of the file on the disk. -/
def FileLog.onDisk (file : Text) (log : FileLog) : Nat :=
  ((log.directory file).getD []).length

/-- If the file on the disk stays below the limit with the record of a write,
so does the file together with the bytes the stream holds back. -/
def FileOp.limitVisible (file : Text) (maxFileSize : Nat) (log : FileLog) :
    FileOp → Prop
  | .write buffer _ =>
      (log.onDisk file + buffer.length) % 2 ^ 64 < maxFileSize →
        (log.activeBytes file).length + buffer.length < maxFileSize
  | _ => True

instance (file : Text) (maxFileSize : Nat) (log : FileLog) :
    (op : FileOp) → Decidable (op.limitVisible file maxFileSize log)
  | .write _ _ => inferInstanceAs (Decidable (_ → _))
  | .create _ | .flush | .spill _ | .close => inferInstanceAs (Decidable True)

namespace SinkFiles

variable (files : SinkFiles)

@[simp] theorem maxFileSize_setStream (stream : Stream) :
    (files.setStream stream).sink.mMaxFileSize =
      files.sink.mMaxFileSize := rfl

@[simp] theorem maxFileSize_openStream (opens : Bool) :
    (files.openStream opens).sink.mMaxFileSize =
      files.sink.mMaxFileSize := by
  cases opens <;> rfl

@[simp] theorem maxFileSize_spill (count : Nat) :
    (files.spill count).sink.mMaxFileSize = files.sink.mMaxFileSize := by
  simp only [SinkFiles.spill]
  split <;> rfl

@[simp] theorem maxFileSize_flush :
    files.flush.sink.mMaxFileSize = files.sink.mMaxFileSize :=
  files.maxFileSize_spill _

@[simp] theorem maxFileSize_put (buffer : Text) :
    (files.put buffer).sink.mMaxFileSize = files.sink.mMaxFileSize := by
  simp only [SinkFiles.put]
  split <;> rfl

@[simp] theorem maxFileSize_rotate (outcome : RotateOutcome) :
    (files.rotate outcome).2.sink.mMaxFileSize =
      files.sink.mMaxFileSize := by
  simp only [SinkFiles.rotate]
  split <;> simp [SinkFiles.closeStream]

theorem maxFileSize_write {buffer : Text} {outcome : RotateOutcome}
    {result : Except Text Unit} {written : SinkFiles}
    (wrote : files.write buffer outcome = (result, written)) :
    written.sink.mMaxFileSize = files.sink.mMaxFileSize := by
  obtain rfl : (files.write buffer outcome).2 = written :=
    congrArg Prod.snd wrote
  rw [← files.maxFileSize_rotate outcome]
  simp only [SinkFiles.write]
  split
  · cases rotated : files.rotate outcome with
    | mk result after => cases result <;> simp
  · simp

end SinkFiles

/-- The sink was created with this limit. -/
def FileLog.HasLimit (maxFileSize : Nat) (log : FileLog) : Prop :=
  ∀ sink, log.sink = some sink → sink.mMaxFileSize = maxFileSize

theorem FileLog.HasLimit.setFiles {maxFileSize : Nat} (log : FileLog)
    {files : SinkFiles} (limit : files.sink.mMaxFileSize = maxFileSize) :
    (log.setFiles files).HasLimit maxFileSize := by
  intro sink isSink
  obtain rfl : files.sink = sink := Option.some.inj isSink
  exact limit

theorem FileLog.HasLimit.step {file : Text} {maxFileSize maxFiles : Nat}
    {before after : FileLog} {op : FileOp}
    (limit : before.HasLimit maxFileSize)
    (stepped : FileStep file maxFileSize maxFiles before op after) :
    after.HasLimit maxFileSize := by
  cases stepped with
  | create noSink => exact .setFiles before (by simp)
  | createThrows => exact limit
  | write isSink wrote | writeThrows isSink wrote =>
      have same := SinkFiles.maxFileSize_write _ wrote
      exact .setFiles before (same.trans (limit _ isSink))
  | flush isSink => exact .setFiles before (by simpa using limit _ isSink)
  | spill count isSink =>
      exact .setFiles before (by simpa using limit _ isSink)
  | close isSink =>
      intro sink closed
      cases closed

/-- A tail of the log whose parts are within the limit. -/
structure KeepsLimit (older : Text → Prop) (file : Text)
    (maxFileSize maxFiles : Nat) (log : FileLog) (backups : List (List Text))
    (active : List Text) : Prop where
  tail : KeepsTail older file maxFiles log backups active
  active : WithinLimit maxFileSize active
  backups : ∀ part ∈ backups, WithinLimit maxFileSize part

section KeepsLimit

variable {older : Text → Prop} {file : Text} {maxFileSize maxFiles : Nat}
  {log after : FileLog} {backups : List (List Text)} {active : List Text}

/-- The decision of a write, from the sizes it looks at. -/
theorem rotates_iff {sink : RotatingFileSink}
    (limit : sink.mMaxFileSize = maxFileSize) (buffer : Text) :
    SinkFiles.rotates ⟨sink, log.directory⟩ buffer = true ↔
      maxFileSize ≤ (log.onDisk sink.mFile + buffer.length) % 2 ^ 64 := by
  unfold SinkFiles.rotates FileLog.onDisk
  cases found : log.directory sink.mFile <;> simp [found, limit]

theorem KeepsLimit.write (positive : 0 < maxFiles)
    (keeps : KeepsLimit older file maxFileSize maxFiles log backups active)
    (limit : log.HasLimit maxFileSize) {buffer : Text}
    {outcome : RotateOutcome}
    (succeeds : (FileOp.write buffer outcome).succeeds = true)
    (visible : (FileOp.write buffer outcome).limitVisible file maxFileSize
      log)
    (stepped : FileStep file maxFileSize maxFiles log
      (.write buffer outcome) after) :
    ∃ backups active,
      KeepsLimit older file maxFileSize maxFiles after backups active := by
  obtain ⟨renames, reopens⟩ : outcome.failedRenames = [] ∧
      outcome.reopens = true := by
    simpa [FileOp.succeeds] using succeeds
  obtain ⟨sink, isSink, outcome⟩ :=
    keeps.tail.write positive renames reopens stepped
  obtain ⟨rfl, _, _⟩ := keeps.tail.opened sink isSink
  split at outcome
  · refine ⟨_, _, outcome, .inr rfl, ?_⟩
    intro part member
    rcases List.mem_cons.mp (List.mem_of_mem_take member) with rfl | older
    · exact keeps.active
    · exact keeps.backups part older
  · rename_i stays
    have below : (log.onDisk sink.mFile + buffer.length) % 2 ^ 64 <
        maxFileSize := by
      rw [rotates_iff (limit sink isSink)] at stays
      exact Nat.lt_of_not_le stays
    have together := visible below
    rw [keeps.tail.activeBytes] at together
    refine ⟨_, _, outcome, .inl ?_, keeps.backups⟩
    simpa using together

theorem KeepsLimit.preserved (positive : 0 < maxFiles)
    {directory : Directory} :
    (fileLogMachine file maxFileSize maxFiles directory).Preserves
      (fun log op => op.succeeds = true ∧
        op.limitVisible file maxFileSize log)
      fun log => log.HasLimit maxFileSize ∧ ∃ backups active,
        KeepsLimit older file maxFileSize maxFiles log backups active := by
  rintro before op after stepped ⟨succeeds, visible⟩
    ⟨limit, backups, active, keeps⟩
  have fileStep : FileStep file maxFileSize maxFiles before op after :=
    .of_step stepped
  refine ⟨limit.step fileStep, ?_⟩
  by_cases isWrite : ∃ buffer outcome, op = .write buffer outcome
  · obtain ⟨buffer, outcome, rfl⟩ := isWrite
    exact keeps.write positive limit succeeds visible fileStep
  · have notWrite : ∀ buffer outcome, op ≠ .write buffer outcome :=
      fun buffer outcome same => isWrite ⟨buffer, outcome, same⟩
    exact ⟨backups, active, keeps.tail.step fileStep succeeds notWrite,
      keeps.active, keeps.backups⟩

end KeepsLimit

/-- The limit is kept in every run in which the bytes that the stream holds
back never hide that a write reaches it, if the numbered files that are found
keep it. -/
theorem rotation_within_limits {file : Text} {maxFileSize maxFiles : Nat}
    (positive : 0 < maxFiles) (positiveSize : 0 < maxFileSize)
    {directory : Directory} (noLog : directory file = none)
    {older : Nat → Option (List Text)}
    (found : ∀ index, directory (backup file (index + 1)) =
      (older index).map List.flatten)
    (within : ∀ index part, older index = some part →
      WithinLimit maxFileSize part)
    {ops : List FileOp} {log : FileLog}
    (run : (fileLogMachine file maxFileSize maxFiles directory).Run
      (fun log op => op.succeeds = true ∧
        op.limitVisible file maxFileSize log)
      { directory := directory } ops log) :
    log.WithinLimits file maxFileSize older := by
  have foundWithin : ∀ index content,
      directory (backup file (index + 1)) = some content →
        FoundWithin maxFileSize older content := by
    intro index content isContent
    rw [found index] at isContent
    obtain ⟨part, isPart, together⟩ := Option.map_eq_some_iff.mp isContent
    exact ⟨index, part, isPart, together, within index part isPart⟩
  have start : KeepsLimit (FoundWithin maxFileSize older) file maxFileSize
      maxFiles { directory := directory } [] [] := by
    refine ⟨.start noLog foundWithin, .inl ?_, by simp⟩
    simpa using positiveSize
  have noSink : FileLog.HasLimit maxFileSize { directory := directory } := by
    intro sink isSink
    cases isSink
  obtain ⟨_, backups, active, keeps⟩ :=
    run.invariant (KeepsLimit.preserved positive) ⟨noSink, [], [], start⟩
  refine ⟨backups, active, ?_, ?_, keeps.tail.activeBytes, keeps.tail.tail,
    keeps.active, keeps.backups⟩
  · intro index part isPart
    apply keeps.tail.numbered.newer
    rw [List.getElem?_map, isPart]
    rfl
  · intro index content beyond
    apply keeps.tail.numbered.older
    rwa [List.length_map]

/-- Every record is flushed before the next one is written, and there is an
older file that moves on. -/
theorem rotation_within_limits_flushed :
    let directory : Directory :=
      Directory.append (fun _ => none) "logs/a.1".toList "old".toList
    let older (index : Nat) : Option (List Text) :=
      if index = 0 then some ["old".toList] else none
    ∃ log, (fileLogMachine "logs/a".toList 4 2 directory).Run
        (fun log op => op.succeeds = true ∧
          op.limitVisible "logs/a".toList 4 log)
        { directory := directory }
        [.create .opened, .write "abc".toList {}, .flush,
          .write "de".toList {}, .flush] log ∧
      log.directory "logs/a.2".toList = some "old".toList ∧
      log.WithinLimits "logs/a".toList 4 older := by
  intro directory older
  obtain ⟨log, run, moved⟩ := Machine.exists_run
    (fileLogMachine "logs/a".toList 4 2 directory)
    (fun log op => op.succeeds = true ∧
      op.limitVisible "logs/a".toList 4 log)
    { directory := directory }
    [.create .opened, .write "abc".toList {}, .flush,
      .write "de".toList {}, .flush]
    (fun log => log.directory "logs/a.2".toList = some "old".toList)
    (by decide +kernel)
  refine ⟨log, run, moved, rotation_within_limits (by decide) (by decide)
    (by decide) ?_ ?_ run⟩
  · intro index
    cases index with
    | zero => decide
    | succ index =>
        have other : backup "logs/a".toList (index + 1 + 1) ≠
            backup "logs/a".toList 1 :=
          backup_ne_backup _ (by omega)
        exact Directory.append_of_ne other _ _
  · intro index part isPart
    cases index with
    | zero =>
        obtain rfl := Option.some.inj isPart
        exact .inr rfl
    | succ index => simp [older] at isPart

/-- The second record is written while the first one is still in the stream's
buffer: the file on the disk is empty, and nothing rotates. -/
theorem rotation_exceeds_limit :
    ∃ log, (fileLogMachine "logs/a".toList 4 1 fun _ => none).Run
        (fun _ op => op.succeeds = true) { directory := fun _ => none }
        [.create .opened, .write "abc".toList {}, .write "de".toList {}] log ∧
      ¬ log.WithinLimits "logs/a".toList 4 fun _ => none := by
  obtain ⟨log, run, records, together⟩ := Machine.exists_run
    (fileLogMachine "logs/a".toList 4 1 fun _ => none)
    (fun _ op => op.succeeds = true) { directory := fun _ => none }
    [.create .opened, .write "abc".toList {}, .write "de".toList {}]
    (fun log => log.records = ["abc".toList, "de".toList] ∧
      log.activeBytes "logs/a".toList = "abcde".toList) (by decide +kernel)
  refine ⟨log, run, ?_⟩
  rintro ⟨backups, active, _, _, content, tail, within, _⟩
  have newest : active <:+ ["abc".toList, "de".toList] := by
    rw [← records]
    exact (List.suffix_append _ _).trans tail
  rw [together] at content
  simp only [List.suffix_cons_iff, List.suffix_nil] at newest
  rcases newest with rfl | rfl | rfl
  · exact absurd within (by decide)
  · exact absurd content (by decide)
  · exact absurd content (by decide)

end LogParse
