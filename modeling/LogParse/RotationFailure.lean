import LogParse.RotatingHistory

/-!
# A log file that does not open again

A rotation that cannot open the log file again throws and leaves its stream
closed.  The next write only notices if it rotates itself; otherwise the
stream takes nothing and the write returns as usual.
-/

namespace LogParse

/-- A write that returns has put its whole record into the open stream, behind
what the stream held. -/
def StoresRecord (transition : Machine.Transition FileLog FileOp) : Prop :=
  match transition.label with
  | .write buffer outcome =>
      ∀ sink ∈ transition.before.sink,
        let files : SinkFiles := ⟨sink, transition.before.directory⟩
        (files.write buffer outcome).1.isOk = true →
          ∃ written ∈ transition.after.sink,
            written.mStream.isOpen = true ∧
              written.mStream.buffered =
                (if files.rotates buffer then [] else sink.mStream.buffered) ++
                  buffer
  | .create _ | .flush | .spill _ | .close => True

instance : DecidablePred StoresRecord := fun transition =>
  match transition with
  | ⟨_, .write _ _, _⟩ => inferInstanceAs (Decidable (∀ _ ∈ _, _ → _))
  | ⟨_, .create _, _⟩ | ⟨_, .flush, _⟩ | ⟨_, .spill _, _⟩ | ⟨_, .close, _⟩ =>
      inferInstanceAs (Decidable True)

/-- A write finds its stream open, or rotates. -/
def FileOp.openOrRotates (log : FileLog) : FileOp → Prop
  | .write buffer _ =>
      ∀ sink ∈ log.sink, sink.mStream.isOpen = true ∨
        SinkFiles.rotates ⟨sink, log.directory⟩ buffer = true
  | .create _ | .flush | .spill _ | .close => True

instance (log : FileLog) :
    (op : FileOp) → Decidable (op.openOrRotates log)
  | .write _ _ => inferInstanceAs (Decidable (∀ _ ∈ _, _))
  | .create _ | .flush | .spill _ | .close => inferInstanceAs (Decidable True)

namespace SinkFiles

variable {files : SinkFiles} {buffer : Text} {outcome : RotateOutcome}

/-- A rotation that returns has opened an empty stream. -/
theorem rotate_ok {rotated : SinkFiles}
    (returned : files.rotate outcome = (.ok (), rotated)) :
    rotated.sink.mStream = { isOpen := true } := by
  cases reopens : outcome.reopens with
  | true =>
      rw [files.rotate_reopens reopens] at returned
      obtain rfl := (Prod.mk.inj returned).2
      rfl
  | false =>
      simp [rotate, openStream, reopens, setStream, throw, throwThe,
        MonadExceptOf.throw] at returned

theorem put_open (isOpen : files.sink.mStream.isOpen = true) :
    (files.put buffer).sink.mStream =
      { isOpen := true,
        buffered := files.sink.mStream.buffered ++ buffer } := by
  simp [put, isOpen, setStream]

theorem put_closed (isClosed : ¬ files.sink.mStream.isOpen = true) :
    files.put buffer = files := by
  simp [put, isClosed]

/-- A write that rotates and returns leaves its record alone in an open
stream. -/
theorem write_rotates {written : SinkFiles}
    (rotates : files.rotates buffer = true)
    (returned : files.write buffer outcome = (.ok (), written)) :
    written.sink.mStream = { isOpen := true, buffered := buffer } := by
  simp only [write, rotates, if_true] at returned
  cases rotated : files.rotate outcome with
  | mk result reopened =>
      rw [rotated] at returned
      cases result with
      | error message => cases returned
      | ok =>
          have fresh := rotate_ok rotated
          obtain rfl := (Prod.mk.inj returned).2
          rw [put_open (congrArg Stream.isOpen fresh), fresh]
          rfl

theorem write_stays (stays : files.rotates buffer = false) :
    files.write buffer outcome = (.ok (), files.put buffer) := by
  simp only [write, stays, Bool.false_eq_true, if_false]
  rfl

end SinkFiles

section Write

variable {sink : RotatingFileSink} {log after : FileLog} {buffer : Text}
  {outcome : RotateOutcome}

theorem openOrRotates_iff (isSink : log.sink = some sink) :
    (FileOp.write buffer outcome).openOrRotates log ↔
      sink.mStream.isOpen = true ∨
        SinkFiles.rotates ⟨sink, log.directory⟩ buffer = true := by
  simp [FileOp.openOrRotates, isSink]

/-- A write that throws promises nothing. -/
theorem storesRecord_of_throws {message : Text} {files : SinkFiles}
    (isSink : log.sink = some sink)
    (threw : SinkFiles.write ⟨sink, log.directory⟩ buffer outcome =
      (.error message, files)) :
    StoresRecord ⟨log, .write buffer outcome, after⟩ := by
  intro other isOther _ returned
  obtain rfl := Option.some.inj (isSink.symm.trans isOther)
  rw [threw] at returned
  cases returned

theorem storesRecord_of_rotates {written : SinkFiles}
    (isSink : log.sink = some sink)
    (rotates : SinkFiles.rotates ⟨sink, log.directory⟩ buffer = true)
    (wrote : SinkFiles.write ⟨sink, log.directory⟩ buffer outcome =
      (.ok (), written)) (isAfter : after.sink = some written.sink) :
    StoresRecord ⟨log, .write buffer outcome, after⟩ := by
  intro other isOther _ _
  obtain rfl := Option.some.inj (isSink.symm.trans isOther)
  have stream := SinkFiles.write_rotates rotates wrote
  refine ⟨written.sink, isAfter, ?_, ?_⟩
  · rw [stream]
  · rw [stream, rotates]
    rfl

theorem storesRecord_iff_of_stays {written : SinkFiles}
    (isSink : log.sink = some sink)
    (stays : SinkFiles.rotates ⟨sink, log.directory⟩ buffer = false)
    (wrote : SinkFiles.write ⟨sink, log.directory⟩ buffer outcome =
      (.ok (), written)) (isAfter : after.sink = some written.sink) :
    StoresRecord ⟨log, .write buffer outcome, after⟩ ↔
      sink.mStream.isOpen = true := by
  obtain rfl : SinkFiles.put ⟨sink, log.directory⟩ buffer = written :=
    congrArg Prod.snd ((SinkFiles.write_stays stays).symm.trans wrote)
  constructor
  · intro stores
    by_contra isClosed
    obtain ⟨stored, isStored, isOpen, _⟩ :=
      stores sink isSink (by rw [wrote]; rfl)
    rw [SinkFiles.put_closed isClosed] at isAfter
    obtain rfl := Option.some.inj (isAfter.symm.trans isStored)
    exact isClosed isOpen
  · intro isOpen other isOther _ _
    obtain rfl := Option.some.inj (isSink.symm.trans isOther)
    have stream :
        (SinkFiles.put ⟨sink, log.directory⟩ buffer).sink.mStream =
          { isOpen := true, buffered := sink.mStream.buffered ++ buffer } :=
      SinkFiles.put_open isOpen
    refine ⟨_, isAfter, ?_, ?_⟩
    · rw [stream]
    · rw [stream, stays]
      rfl

end Write

/-- A write that returns stores its record exactly if it finds the stream open
or rotates. -/
theorem storesRecord_iff {file : Text} {maxFileSize maxFiles : Nat}
    {before after : FileLog} {op : FileOp}
    (stepped : FileStep file maxFileSize maxFiles before op after) :
    StoresRecord ⟨before, op, after⟩ ↔ op.openOrRotates before := by
  cases stepped with
  | create | createThrows | flush | spill | close => exact Iff.rfl
  | @write sink buffer _ _ isSink wrote =>
      rw [openOrRotates_iff isSink]
      cases rotates : SinkFiles.rotates ⟨sink, before.directory⟩ buffer with
      | true =>
          simpa using storesRecord_of_rotates isSink rotates wrote rfl
      | false =>
          simpa using storesRecord_iff_of_stays isSink rotates wrote rfl
  | @writeThrows sink buffer _ _ _ isSink threw =>
      rw [openOrRotates_iff isSink]
      cases rotates : SinkFiles.rotates ⟨sink, before.directory⟩ buffer with
      | true => simpa using storesRecord_of_throws isSink threw
      | false =>
          have returned := (SinkFiles.write_stays rotates).symm.trans threw
          cases returned

/-- Whatever fails on the way, all the writes that return store their records
exactly if each write finds its stream open or rotates. -/
theorem writes_store_iff {file : Text} {maxFileSize maxFiles : Nat}
    {directory : Directory} {ops : List FileOp} {log : FileLog}
    (run : (fileLogMachine file maxFileSize maxFiles directory).Run
      Machine.Free { directory := directory } ops log) :
    (∀ transition ∈ (fileLogMachine file maxFileSize maxFiles
        directory).transitions { directory := directory } ops,
      StoresRecord transition) ↔
    ∀ transition ∈ (fileLogMachine file maxFileSize maxFiles
        directory).transitions { directory := directory } ops,
      transition.label.openOrRotates transition.before := by
  constructor
  · intro stores transition member
    exact (storesRecord_iff (.of_step (run.step_eq transition member))).mp
      (stores transition member)
  · intro condition transition member
    exact (storesRecord_iff (.of_step (run.step_eq transition member))).mpr
      (condition transition member)

/-- The log file does not open again, and the next write is too large to go
unnoticed: it rotates once more. -/
theorem writes_store_rotating :
    ∃ log, (fileLogMachine "logs/a".toList 4 1 fun _ => none).Run Machine.Free
        { directory := fun _ => none }
        [.create .opened, .write "abc".toList {}, .spill 3,
          .write "de".toList { reopens := false },
          .write "fghi".toList {}] log ∧
      ∀ transition ∈ (fileLogMachine "logs/a".toList 4 1
          fun _ => none).transitions { directory := fun _ => none }
          [.create .opened, .write "abc".toList {}, .spill 3,
            .write "de".toList { reopens := false },
            .write "fghi".toList {}],
        StoresRecord transition := by
  obtain ⟨log, run, _⟩ := Machine.exists_run
    (fileLogMachine "logs/a".toList 4 1 fun _ => none) Machine.Free
    { directory := fun _ => none }
    [.create .opened, .write "abc".toList {}, .spill 3,
      .write "de".toList { reopens := false }, .write "fghi".toList {}]
    (fun _ => True) (by decide +kernel)
  exact ⟨log, run, (writes_store_iff run).mpr (by decide +kernel)⟩

/-- A small record after the failure: the write returns, and the record is
neither in the file nor in the stream. -/
theorem write_loses_record :
    ∃ log, (fileLogMachine "logs/a".toList 4 1 fun _ => none).Run Machine.Free
        { directory := fun _ => none }
        [.create .opened, .write "abc".toList {}, .spill 3,
          .write "de".toList { reopens := false },
          .write "f".toList {}] log ∧
      ¬ ∀ transition ∈ (fileLogMachine "logs/a".toList 4 1
          fun _ => none).transitions { directory := fun _ => none }
          [.create .opened, .write "abc".toList {}, .spill 3,
            .write "de".toList { reopens := false },
            .write "f".toList {}],
        StoresRecord transition := by
  obtain ⟨log, run, _⟩ := Machine.exists_run
    (fileLogMachine "logs/a".toList 4 1 fun _ => none) Machine.Free
    { directory := fun _ => none }
    [.create .opened, .write "abc".toList {}, .spill 3,
      .write "de".toList { reopens := false }, .write "f".toList {}]
    (fun _ => True) (by decide +kernel)
  exact ⟨log, run, by decide +kernel⟩

end LogParse
