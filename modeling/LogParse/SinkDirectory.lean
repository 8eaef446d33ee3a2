import LogParse.FileSink
import Mathlib.Data.List.DropRight

/-!
# Sinks with files of their own

A sink uses its file, and a rotating sink its backups too.  Sinks that use
different names do not disturb each other, in whatever order their calls come
and their streams reach the disk.
-/

namespace LogParse

/-- What a sink does with the directory, in one call. -/
structure LocalAction (names : Text → Prop)
    (action : Directory → DiskSink × Directory) : Prop where
  stays : ∀ directory, (action directory).1.Uses = names
  frame : ∀ directory name, ¬ names name →
    (action directory).2 name = directory name
  congr : ∀ {left right : Directory}, AgreeOn names left right →
    (action left).1 = (action right).1 ∧
      AgreeOn names (action left).2 (action right).2

namespace LocalAction

variable {names : Text → Prop}
  {first second : Directory → DiskSink × Directory}

theorem of_edit {next : DiskSink} {edit : Directory → Directory}
    (uses : next.Uses = names) (isLocal : LocalEdit names edit) :
    LocalAction names fun directory => (next, edit directory) :=
  ⟨fun _ => uses, isLocal.frame, fun agree => ⟨rfl, isLocal.congr agree⟩⟩

theorem ite {condition : Directory → Prop} [DecidablePred condition]
    (decided : ∀ {left right : Directory}, AgreeOn names left right →
      (condition left ↔ condition right))
    (local₁ : LocalAction names first) (local₂ : LocalAction names second) :
    LocalAction names fun directory =>
      if condition directory then first directory else second directory where
  stays directory := by
    split
    · exact local₁.stays directory
    · exact local₂.stays directory
  frame directory name other := by
    split
    · exact local₁.frame directory name other
    · exact local₂.frame directory name other
  congr {left right} agree := by
    by_cases holds : condition left
    · simp only [if_pos holds, if_pos ((decided agree).mp holds)]
      exact local₁.congr agree
    · simp only [if_neg holds, if_neg (mt (decided agree).mpr holds)]
      exact local₂.congr agree

end LocalAction

section Rotating

variable {names : Text → Prop} {file : Text} {count : Nat}

theorem LocalEdit.shiftOne (mine : ∀ index ≤ count, names (slot file index))
    (failedRenames : List Nat) {index : Nat} (below : index < count) :
    LocalEdit names (LogParse.shiftOne file failedRenames (index + 1)) := by
  have edit : LogParse.shiftOne file failedRenames (index + 1) =
      fun directory =>
        if MovesOn file failedRenames (index + 1) directory index then
          directory.rename (slot file index) (slot file (index + 1))
        else id directory := by
    funext directory
    exact shiftOne_succ file failedRenames directory
  rw [edit]
  refine .ite ?_ (.rename (mine index (Nat.le_of_lt below))
    (mine (index + 1) below)) .refl
  intro left right agree
  simp only [MovesOn, agree _ (mine index (Nat.le_of_lt below))]

theorem LocalEdit.shiftBackups
    (mine : ∀ index ≤ count, names (slot file index))
    (failedRenames : List Nat) {steps : Nat} (within : steps ≤ count) :
    LocalEdit names (LogParse.shiftBackups file failedRenames steps) := by
  induction steps with
  | zero => exact .refl
  | succ steps induction =>
      exact (LocalEdit.shiftOne mine failedRenames within).comp
        (induction (Nat.le_of_succ_le within))

variable (sink : RotatingFileSink)

namespace DiskSink

theorem uses_rotating (stream : Stream) :
    (DiskSink.rotating { sink with mStream := stream }).Uses =
      (DiskSink.rotating sink).Uses := rfl

theorem uses_slot {index : Nat} (within : index ≤ sink.mMaxFiles) :
    (DiskSink.rotating sink).Uses (slot sink.mFile index) :=
  ⟨index, within, rfl⟩

theorem uses_file : (DiskSink.rotating sink).Uses sink.mFile :=
  uses_slot sink (Nat.zero_le _)

theorem local_spill (count : Nat) :
    LocalAction (DiskSink.rotating sink).Uses fun directory =>
      fromFiles (SinkFiles.spill ⟨sink, directory⟩ count) := by
  cases isOpen : sink.mStream.isOpen with
  | true =>
      simp only [SinkFiles.spill, isOpen, if_true, SinkFiles.setStream,
        fromFiles]
      exact .of_edit (uses_rotating sink _) (.extend _ (uses_file sink))
  | false =>
      simp only [SinkFiles.spill, isOpen, Bool.false_eq_true, if_false,
        fromFiles]
      exact .of_edit rfl .refl

/-- The stream after a `put`; the directory plays no part. -/
theorem put_eq (directory : Directory) (buffer : Text) :
    SinkFiles.put ⟨sink, directory⟩ buffer =
      ⟨(SinkFiles.put ⟨sink, fun _ => none⟩ buffer).sink, directory⟩ := by
  cases isOpen : sink.mStream.isOpen <;>
    simp [SinkFiles.put, isOpen, SinkFiles.setStream]

theorem uses_put (directory : Directory) (buffer : Text) :
    (DiskSink.rotating
      (SinkFiles.put ⟨sink, directory⟩ buffer).sink).Uses =
        (DiskSink.rotating sink).Uses := by
  cases isOpen : sink.mStream.isOpen <;>
    simp [SinkFiles.put, isOpen, SinkFiles.setStream, uses_rotating]

theorem local_put (buffer : Text) :
    LocalAction (DiskSink.rotating sink).Uses fun directory =>
      fromFiles (SinkFiles.put ⟨sink, directory⟩ buffer) := by
  have split : (fun directory =>
      fromFiles (SinkFiles.put ⟨sink, directory⟩ buffer)) =
      fun directory => (.rotating
        (SinkFiles.put ⟨sink, fun _ => none⟩ buffer).sink, directory) := by
    funext directory
    rw [put_eq]
    rfl
  rw [split]
  exact .of_edit (uses_put sink _ buffer) .refl

/-- The directory after the loop of `rotate`, and after the log file is
opened again. -/
def rotateEdit (sink : RotatingFileSink) (outcome : RotateOutcome)
    (directory : Directory) : Directory :=
  let shifted := LogParse.shiftBackups sink.mFile outcome.failedRenames
    sink.mMaxFiles (SinkFiles.closeStream ⟨sink, directory⟩).directory
  if outcome.reopens then shifted.append sink.mFile [] else shifted

theorem rotate_eq (outcome : RotateOutcome) (directory : Directory) :
    SinkFiles.rotate ⟨sink, directory⟩ outcome =
      (if outcome.reopens then .ok ()
        else .error "Failed to reopen log file.".toList,
        ⟨{ sink with mStream := { isOpen := outcome.reopens } },
          rotateEdit sink outcome directory⟩) := by
  have sinkEq := SinkFiles.closeStream_sink ⟨sink, directory⟩
  cases reopens : outcome.reopens <;>
    simp [SinkFiles.rotate, SinkFiles.openStream, SinkFiles.setStream,
      rotateEdit, reopens, sinkEq, pure, Except.pure, throw, throwThe,
      MonadExceptOf.throw]

theorem local_rotateEdit (outcome : RotateOutcome) :
    LocalEdit (DiskSink.rotating sink).Uses (rotateEdit sink outcome) := by
  have closes : LocalEdit (DiskSink.rotating sink).Uses fun directory =>
      (SinkFiles.closeStream ⟨sink, directory⟩).directory := by
    simp only [SinkFiles.closeStream_directory, SinkFiles.contents]
    split
    · exact .extend _ (uses_file sink)
    · exact .refl
  have shifts := closes.comp (.shiftBackups
    (fun _ within => uses_slot sink within) outcome.failedRenames
      (Nat.le_refl sink.mMaxFiles))
  cases reopens : outcome.reopens with
  | true =>
      have edit : rotateEdit sink outcome = (·.append sink.mFile []) ∘
          LogParse.shiftBackups sink.mFile outcome.failedRenames
            sink.mMaxFiles ∘
          fun directory =>
            (SinkFiles.closeStream ⟨sink, directory⟩).directory := by
        funext directory
        simp [rotateEdit, reopens]
      rw [edit]
      exact shifts.comp (.append [] (uses_file sink))
  | false =>
      have edit : rotateEdit sink outcome =
          LogParse.shiftBackups sink.mFile outcome.failedRenames
            sink.mMaxFiles ∘
          fun directory =>
            (SinkFiles.closeStream ⟨sink, directory⟩).directory := by
        funext directory
        simp [rotateEdit, reopens]
      rw [edit]
      exact shifts

theorem local_write (buffer : Text) (outcome : RotateOutcome) :
    LocalAction (DiskSink.rotating sink).Uses fun directory =>
      fromFiles (SinkFiles.write ⟨sink, directory⟩ buffer outcome).2 := by
  let rotated : RotatingFileSink :=
    { sink with mStream := { isOpen := outcome.reopens } }
  let after := if outcome.reopens then
      (SinkFiles.put ⟨rotated, fun _ => none⟩ buffer).sink
    else rotated
  have split : (fun directory =>
      fromFiles (SinkFiles.write ⟨sink, directory⟩ buffer outcome).2) =
      fun directory =>
        if SinkFiles.rotates ⟨sink, directory⟩ buffer = true then
          (.rotating after, rotateEdit sink outcome directory)
        else fromFiles (SinkFiles.put ⟨sink, directory⟩ buffer) := by
    funext directory
    unfold SinkFiles.write
    split
    · rw [rotate_eq]
      cases reopens : outcome.reopens with
      | true =>
          simp only [if_true, fromFiles]
          rw [put_eq]
          simp [after, rotated, reopens]
      | false => simp [after, rotated, reopens, fromFiles]
    · rfl
  rw [split]
  refine .ite ?_ (.of_edit ?_ (local_rotateEdit sink outcome))
    (local_put sink buffer)
  · intro left right agree
    simp only [SinkFiles.rotates, agree _ (uses_file sink)]
  · dsimp only [after]
    split
    · exact uses_put rotated _ buffer
    · rfl

end DiskSink

end Rotating

namespace DiskSink

theorem local_spill_file (sink : FileSink) (count : Nat) :
    LocalAction (DiskSink.file sink).Uses fun directory =>
      (.file (sink.spill directory count).1,
        (sink.spill directory count).2) := by
  have mine : (DiskSink.file sink).Uses sink.path := rfl
  cases isOpen : sink.mFile.isOpen with
  | true =>
      simp only [FileSink.spill, isOpen, if_true]
      exact .of_edit rfl (.extend _ mine)
  | false =>
      simp only [FileSink.spill, isOpen, Bool.false_eq_true, if_false]
      exact .of_edit rfl .refl

theorem local_step (sink : DiskSink) (op : SinkOp) :
    LocalAction sink.Uses fun directory => sink.step directory op := by
  cases sink with
  | file sink =>
      cases op with
      | write buffer outcome =>
          refine .of_edit ?_ .refl
          unfold FileSink.write
          split <;> rfl
      | flush => exact local_spill_file sink _
      | spill count => exact local_spill_file sink count
  | rotating sink =>
      cases op with
      | write buffer outcome => exact local_write sink buffer outcome
      | flush => exact local_spill sink sink.mStream.buffered.length
      | spill count => exact local_spill sink count

theorem storeStep_local : Local storeStep Uses where
  frame {sink directory op next after} stepped name other := by
    have action := local_step sink op
    obtain rfl : (sink.step directory op).2 = after :=
      congrArg Prod.snd (Option.some.inj stepped)
    exact action.frame directory name other
  stays {sink directory op next after} stepped := by
    have action := local_step sink op
    obtain rfl : (sink.step directory op).1 = next :=
      congrArg Prod.fst (Option.some.inj stepped)
    exact action.stays directory
  congr {sink directory op next after other} stepped agree := by
    have stepEq := Option.some.inj stepped
    obtain rfl : (sink.step directory op).1 = next := congrArg Prod.fst stepEq
    obtain rfl : (sink.step directory op).2 = after := congrArg Prod.snd stepEq
    obtain ⟨same, agreeAfter⟩ := (local_step sink op).congr agree
    exact ⟨(sink.step other op).2, congrArg some (Prod.ext same.symm rfl),
      agreeAfter⟩

end DiskSink

/-- The buffers written, in order. -/
def writesOf (ops : List SinkOp) : List Text :=
  ops.filterMap fun
    | .write buffer _ => some buffer
    | _ => none

def SinkOp.isFlush : SinkOp → Bool
  | .flush => true
  | _ => false

/-- The calls up to the last flush. -/
def flushedOps (ops : List SinkOp) : List SinkOp :=
  ops.rdropWhile fun op => !op.isFlush

theorem FileSink.write_path (sink : FileSink) (buffer : Text) :
    (sink.write buffer).path = sink.path := by
  unfold FileSink.write
  split <;> rfl

theorem FileSink.spill_path (sink : FileSink) (directory : Directory)
    (count : Nat) : (sink.spill directory count).1.path = sink.path := by
  unfold FileSink.spill
  split <;> rfl

theorem writesOf_snoc (ops : List SinkOp) (op : SinkOp) :
    writesOf (ops ++ [op]) = writesOf ops ++ writesOf [op] :=
  List.filterMap_append

theorem flushedOps_flush (ops : List SinkOp) :
    flushedOps (ops ++ [.flush]) = ops ++ [.flush] :=
  List.rdropWhile_concat_neg _ _ _ (by simp [SinkOp.isFlush])

theorem flushedOps_other {op : SinkOp} (notFlush : op.isFlush = false)
    (ops : List SinkOp) : flushedOps (ops ++ [op]) = flushedOps ops :=
  List.rdropWhile_concat_pos _ _ _ (by simp [notFlush])

/-- The file and what the stream keeps back are the old content and all
writes; those before the last flush are in the file. -/
structure FileSink.Stored (old : Text) (ops : List SinkOp) (sink : FileSink)
    (directory : Directory) : Prop where
  isOpen : sink.mFile.isOpen = true
  content : ∃ content, directory sink.path = some content ∧
    content ++ sink.mFile.buffered = old ++ (writesOf ops).flatten ∧
    old ++ (writesOf (flushedOps ops)).flatten <+: content

namespace FileSink.Stored

variable {old : Text} {ops : List SinkOp} {sink : FileSink}
  {directory other : Directory}

theorem transfer (stored : sink.Stored old ops directory)
    (same : other sink.path = directory sink.path) :
    sink.Stored old ops other := by
  refine ⟨stored.isOpen, ?_⟩
  rw [same]
  exact stored.content

theorem write (stored : sink.Stored old ops directory) (buffer : Text)
    (outcome : RotateOutcome) :
    (sink.write buffer).Stored old (ops ++ [.write buffer outcome])
      directory := by
  obtain ⟨isOpen, content, found, together, flushed⟩ := stored
  simp only [FileSink.write, isOpen, if_true]
  refine ⟨rfl, content, found, ?_, ?_⟩
  · rw [writesOf_snoc, List.flatten_append, ← List.append_assoc, together]
    simp [writesOf]
  · rwa [flushedOps_other rfl]

theorem spill (stored : sink.Stored old ops directory) (count : Nat) :
    (sink.spill directory count).1.Stored old (ops ++ [.spill count])
      (sink.spill directory count).2 := by
  obtain ⟨isOpen, content, found, together, flushed⟩ := stored
  simp only [FileSink.spill, isOpen, if_true]
  refine ⟨rfl, content ++ sink.mFile.buffered.take count, ?_, ?_, ?_⟩
  · simp [Directory.extend, found]
  · rw [List.append_assoc, List.take_append_drop, together, writesOf_snoc]
    simp [writesOf]
  · rw [flushedOps_other rfl]
    exact flushed.trans (List.prefix_append _ _)

theorem flush (stored : sink.Stored old ops directory) :
    (sink.flush directory).1.Stored old (ops ++ [.flush])
      (sink.flush directory).2 := by
  obtain ⟨isOpen, content, found, together, _⟩ := stored
  simp only [FileSink.flush, FileSink.spill, isOpen, if_true,
    List.take_length, List.drop_length]
  have written : content ++ sink.mFile.buffered =
      old ++ (writesOf (ops ++ [.flush])).flatten := by
    rw [together, writesOf_snoc]
    simp [writesOf]
  refine ⟨rfl, content ++ sink.mFile.buffered, ?_, ?_, ?_⟩
  · simp [Directory.extend, found]
  · rw [List.append_nil, written]
  · rw [flushedOps_flush]
    exact ⟨[], by rw [List.append_nil, written]⟩

end FileSink.Stored

/-- Whole files found here and whole buffers written, in their order. -/
def RotatingFileSink.Stored (file : Text) (maxFiles : Nat)
    (found : Directory) (ops : List SinkOp) (sink : RotatingFileSink)
    (directory : Directory) : Prop :=
  ∃ shelf : Shelf Text,
    (directory file).getD [] ++ sink.mStream.buffered = (shelf 0).flatten ∧
    (∀ index < maxFiles, (directory (backup file (index + 1))).getD [] =
      (shelf (index + 1)).flatten) ∧
    (shelf.read maxFiles).Sublist
      ((foundShelf file found).read maxFiles ++ writesOf ops)

/-- The invariant of a rotating sink that has the directory to itself. -/
structure SinkFiles.Serves (file : Text) (maxFiles : Nat) (found : Directory)
    (ops : List SinkOp) (files : SinkFiles) (shelf : Shelf Text) : Prop where
  keeps : files.Keeps file maxFiles found shelf
  inOrder : (shelf.read maxFiles).Sublist
    ((foundShelf file found).read maxFiles ++ writesOf ops)

namespace SinkFiles.Serves

variable {file : Text} {maxFiles : Nat} {found : Directory}
  {ops : List SinkOp} {files : SinkFiles} {shelf : Shelf Text}

theorem write (serves : files.Serves file maxFiles found ops shelf)
    (buffer : Text) (outcome : RotateOutcome) :
    ∃ after, (files.write buffer outcome).2.Serves file maxFiles found
      (ops ++ [.write buffer outcome]) after := by
  cases wrote : files.write buffer outcome with
  | mk result written =>
  obtain ⟨after, keeps, fewer⟩ := serves.keeps.write wrote
  refine ⟨after, keeps, fewer.trans ?_⟩
  rw [writesOf_snoc, ← List.append_assoc]
  refine serves.inOrder.append ?_
  split
  · exact .refl _
  · exact List.nil_sublist _

theorem still {op : SinkOp} {after : SinkFiles}
    (serves : files.Serves file maxFiles found ops shelf)
    (noWrite : writesOf [op] = [])
    (keeps : after.Keeps file maxFiles found shelf) :
    after.Serves file maxFiles found (ops ++ [op]) shelf := by
  refine ⟨keeps, ?_⟩
  rw [writesOf_snoc, noWrite, List.append_nil]
  exact serves.inOrder

theorem stored {names : Text → Prop} {directory : Directory}
    (serves : files.Serves file maxFiles found ops shelf)
    (mine : ∀ index ≤ maxFiles, names (slot file index))
    (agree : AgreeOn names directory files.directory) :
    files.sink.Stored file maxFiles found ops directory := by
  obtain ⟨⟨rfl, rfl, active, backups, _⟩, inOrder⟩ := serves
  refine ⟨shelf, ?_, ?_, inOrder⟩
  · have same := agree _ (mine 0 (Nat.zero_le _))
    rw [slot] at same
    rw [same]
    rcases active with ⟨_, content, isContent, together⟩ | ⟨closed, content⟩
    · rw [isContent]
      exact together
    · rw [closed, content, List.append_nil]
  · intro index below
    have same := agree _ (mine (index + 1) below)
    rw [slot] at same
    rw [same]
    exact backups index below

end SinkFiles.Serves

namespace DiskSink

/-- The stream is open and empty, and the file exists. -/
def Fresh (directory : Directory) : DiskSink → Prop
  | .file sink =>
      sink.mFile = { isOpen := true } ∧ (directory sink.path).isSome = true
  | .rotating sink => sink.mStream = { isOpen := true } ∧
      (directory sink.mFile).isSome = true

/-- What a sink that was fresh in the directory found has stored. -/
def Stored (found : Directory) (ops : List SinkOp) (directory : Directory) :
    DiskSink → DiskSink → Prop
  | .file sink, .file now =>
      now.path = sink.path ∧
        now.Stored ((found sink.path).getD []) ops directory
  | .rotating sink, .rotating now =>
      now.Stored sink.mFile sink.mMaxFiles found ops directory
  | _, _ => False

/-- The same, with the invariant of a rotating sink. -/
def Serves (sink : DiskSink) (found : Directory) (ops : List SinkOp)
    (now : DiskSink × Directory) : Prop :=
  match sink, now with
  | .file sink, (.file now, directory) =>
      now.path = sink.path ∧
        now.Stored ((found sink.path).getD []) ops directory
  | .rotating sink, (.rotating now, directory) => ∃ shelf,
      SinkFiles.Serves sink.mFile sink.mMaxFiles found ops ⟨now, directory⟩
        shelf
  | _, _ => False

variable {found directory own : Directory} {sink now : DiskSink}
  {ops : List SinkOp}

theorem Fresh.serves (fresh : sink.Fresh found) :
    sink.Serves found [] (sink, found) := by
  cases sink with
  | file sink =>
      obtain ⟨stream, exists_⟩ := fresh
      obtain ⟨content, isContent⟩ := Option.isSome_iff_exists.mp exists_
      refine ⟨rfl, by rw [stream], content, isContent, ?_, ?_⟩
      · rw [stream, isContent]
        rfl
      · rw [isContent]
        simp [flushedOps, writesOf]
  | rotating sink =>
      obtain ⟨stream, exists_⟩ := fresh
      obtain ⟨content, isContent⟩ := Option.isSome_iff_exists.mp exists_
      refine ⟨foundShelf sink.mFile found, ⟨rfl, rfl, ?_, ?_, ?_⟩, ?_⟩
      · refine .inl ⟨by rw [stream], content, isContent, ?_⟩
        simp [foundShelf, slot, isContent, stream]
      · intro index _
        simp [foundShelf, slot]
      · exact fun _ _ => rfl
      · simp [writesOf]

theorem Serves.step (serves : sink.Serves found ops (now, directory))
    (op : SinkOp) :
    sink.Serves found (ops ++ [op]) (now.step directory op) := by
  cases sink with
  | file sink =>
      cases now with
      | rotating now => exact serves.elim
      | file now =>
          obtain ⟨path, stored⟩ := serves
          cases op with
          | write buffer outcome =>
              exact ⟨(now.write_path buffer).trans path,
                stored.write buffer outcome⟩
          | flush => exact ⟨(now.spill_path _ _).trans path, stored.flush⟩
          | spill count =>
              exact ⟨(now.spill_path _ _).trans path, stored.spill count⟩
  | rotating sink =>
      cases now with
      | file now => exact serves.elim
      | rotating now =>
          obtain ⟨shelf, serves⟩ := serves
          cases op with
          | write buffer outcome => exact serves.write buffer outcome
          | flush => exact ⟨shelf, serves.still rfl (serves.keeps.spill _)⟩
          | spill count =>
              exact ⟨shelf, serves.still rfl (serves.keeps.spill count)⟩

/-- The run of a sink that has the directory to itself. -/
theorem Fresh.serves_of_run (fresh : sink.Fresh found)
    (run : (soloMachine storeStep sink found).Run Machine.Free (sink, found)
      ops (now, own)) : sink.Serves found ops (now, own) := by
  refine run.invariant_labels ?_ fresh.serves
  rintro taken ⟨now, middle⟩ op after stepped _ serves
  obtain rfl : now.step middle op = after := Option.some.inj stepped
  exact serves.step op

/-- What a sink stores shows in every directory that agrees on its names. -/
theorem Serves.stored (serves : sink.Serves found ops (now, own))
    (agree : AgreeOn sink.Uses directory own) :
    Stored found ops directory sink now := by
  cases sink with
  | file sink =>
      cases now with
      | rotating now => exact serves.elim
      | file now =>
          obtain ⟨path, stored⟩ := serves
          exact ⟨path, stored.transfer (agree now.path path)⟩
  | rotating sink =>
      cases now with
      | file now => exact serves.elim
      | rotating now =>
          obtain ⟨shelf, serves⟩ := serves
          exact serves.stored (fun _ => uses_slot sink) agree

end DiskSink

/-- File sinks and rotating file sinks that use different names, called in any
order, by any threads, while their streams reach the disk as they please and
rotations fail: each is as if its calls had been all, in the directory found,
and so are the files it uses, in which it has stored what it was given; and no
other file of the directory has changed. -/
theorem sinks_share_directory {ι : Type} [DecidableEq ι]
    {sinks last : ι → DiskSink} {found directory : Directory}
    {ops : List (ι × SinkOp)}
    (apart : ∀ sink other, sink ≠ other → ∀ name,
      (sinks sink).Uses name → ¬ (sinks other).Uses name)
    (fresh : ∀ sink, (sinks sink).Fresh found)
    (run : (sharedMachine DiskSink.storeStep sinks found).Run
      Machine.Free (sinks, found) ops (last, directory)) :
    (∀ sink,
      (∃ own, (soloMachine DiskSink.storeStep (sinks sink) found).Run
          Machine.Free (sinks sink, found) (labelsOf sink ops)
          (last sink, own) ∧
        AgreeOn (sinks sink).Uses directory own) ∧
      DiskSink.Stored found (labelsOf sink ops) directory (sinks sink)
        (last sink)) ∧
    ∀ name, (∀ sink, ¬ (sinks sink).Uses name) →
      directory name = found name := by
  constructor
  · intro sink
    obtain ⟨own, solo, agree⟩ :=
      solo_of_shared DiskSink.storeStep_local apart run sink
    exact ⟨⟨own, solo, agree⟩,
      ((fresh sink).serves_of_run solo).stored agree⟩
  · intro name nobody
    exact shared_frame DiskSink.storeStep_local run nobody

/-- A file sink and a rotating sink whose rotation fails to rename. -/
theorem sinks_share_directory_two :
    let found : Directory := Directory.append
      (Directory.append (fun _ => none) "logs/a".toList []) "logs/b".toList []
    let sinks (isFile : Bool) : DiskSink :=
      if isFile then
        .file { path := "logs/a".toList, mFile := { isOpen := true } }
      else .rotating
        { mFile := "logs/b".toList, mStream := { isOpen := true },
          mMaxFileSize := 4, mMaxFiles := 1 }
    let ops : List (Bool × SinkOp) :=
      [(true, .write "one".toList {}), (false, .write "xyz".toList {}),
        (true, .spill 2), (false, .flush), (true, .write "two".toList {}),
        (false, .write "uvw".toList { failedRenames := [1] }),
        (false, .flush), (false, .write "end".toList {})]
    ∃ (last : Bool → DiskSink) (directory : Directory),
      directory "logs/a".toList = some "on".toList ∧
      directory "logs/b.1".toList = some "xyzuvw".toList ∧
      (∀ sink, ∃ own, (soloMachine DiskSink.storeStep (sinks sink)
          found).Run Machine.Free (sinks sink, found) (labelsOf sink ops)
          (last sink, own) ∧
        AgreeOn (sinks sink).Uses directory own) ∧
      directory "logs/c".toList = none := by
  intro found sinks ops
  obtain ⟨⟨last, directory⟩, run, spilled, rotated⟩ := Machine.exists_run
    (sharedMachine DiskSink.storeStep sinks found) Machine.Free
    (sinks, found) ops
    (fun state => state.2 "logs/a".toList = some "on".toList ∧
      state.2 "logs/b.1".toList = some "xyzuvw".toList) (by decide +kernel)
  have notFile : ∀ index ≤ 1, "logs/a".toList ≠ slot "logs/b".toList index := by
    decide
  have unused : ∀ index ≤ 1, "logs/c".toList ≠ slot "logs/b".toList index := by
    decide
  obtain ⟨stored, others⟩ := sinks_share_directory
    (by
      intro sink other different name
      cases sink <;> cases other
      · exact absurd rfl different
      · rintro ⟨index, within, rfl⟩ same
        exact notFile index within same.symm
      · rintro rfl ⟨index, within, same⟩
        exact notFile index within same
      · exact absurd rfl different)
    (by
      intro sink
      cases sink <;> exact ⟨rfl, by decide⟩)
    run
  refine ⟨last, directory, spilled, rotated, fun sink => (stored sink).1,
    ?_⟩
  refine (others "logs/c".toList fun sink => ?_).trans (by decide)
  cases sink
  · rintro ⟨index, within, same⟩
    exact unused index within same
  · exact fun same : "logs/c".toList = "logs/a".toList =>
      absurd same (by decide)

end LogParse
