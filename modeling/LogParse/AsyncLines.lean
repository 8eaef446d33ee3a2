import LogParse.AsyncProducers
import LogParse.LoggerFiles
import LogParse.SinkFanOut

/-!
# Lines of many producers under exceptions

Any number of threads log through an asynchronous backend of any overflow
policy, and formatter and sinks throw as they like, as long as no timestamp is
cut short.  A sink may miss records, but it has whole lines only, no record
twice, and those of each producer in order; and so has its file.
-/

namespace LogParse

/-- The token that the rendering throws at is not a timestamp. -/
def SparesTimestamps (tokens : List Token) (throws : Option (Nat × Nat)) :
    Prop :=
  ∀ thrown ∈ throws, ∀ token ∈ tokens[thrown.1]?, token.kind ≠ .timestamp

instance (tokens : List Token) (throws : Option (Nat × Nat)) :
    Decidable (SparesTimestamps tokens throws) :=
  inferInstanceAs (Decidable (∀ _ ∈ _, ∀ _ ∈ _, _))

section Rendering

variable {platform : Platform} {cache : TimestampCache}

/-- The rendering ends with the whole text or with an exception, and leaves
a cache that others can use. -/
theorem appendTokens_whole (sound : cache.Sound platform) (buffer : Text)
    {tokens : List Token} {throws : Option (Nat × Nat)}
    (spares : SparesTimestamps tokens throws) (record : LogRecord) :
    ∃ result after, after.Sound platform ∧
      appendTokens platform record throws cache buffer tokens =
        (result, after) ∧
      (result = none → throws ≠ none) ∧
      ∀ text ∈ result, text = buffer ++ tokens.flatMap fun token =>
        Formatter.renderToken platform token record := by
  induction tokens generalizing throws cache buffer with
  | nil =>
      refine ⟨some buffer, cache, sound, by cases throws <;> rfl, ?_⟩
      simp
  | cons token tokens induction =>
      match throws with
      | none =>
          obtain ⟨after, appended, afterSound⟩ :=
            appendTokens_spec sound buffer (token :: tokens) record
          exact ⟨_, after, afterSound, appended, by simp, by simp⟩
      | some (0, length) =>
          have noTimestamp := spares (0, length) rfl token rfl
          refine ⟨none, cache, sound, ?_, by simp, by simp⟩
          cases kind : token.kind <;>
            simp_all [appendTokens, appendToken]
      | some (position + 1, length) =>
          obtain ⟨next, appended, nextSound⟩ :=
            appendToken_spec sound buffer token record
          have later : SparesTimestamps tokens (some (position, length)) := by
            rintro _ ⟨⟩ other isOther
            exact spares (position + 1, length) rfl other isOther
          obtain ⟨result, after, afterSound, rest, _, whole⟩ :=
            induction nextSound (buffer ++
              Formatter.renderToken platform token record) later
          refine ⟨result, after, afterSound, ?_, by simp, ?_⟩
          · simp [appendTokens, appended, rest]
          · intro text isText
            rw [whole text isText, List.flatMap_cons, List.append_assoc]

end Rendering

theorem SinkManager.mem_writeFrom {throwing : List Nat} {buffer : Text}
    {position : Nat} {sinks : List Sink} {sink : Sink}
    (isSink : sink ∈ (SinkManager.writeFrom throwing buffer position
      sinks).2) :
    ∃ earlier ∈ sinks, sink = earlier ∧ throwing ≠ [] ∨
      sink = earlier.write buffer := by
  induction sinks generalizing position with
  | nil => simp [SinkManager.writeFrom] at isSink
  | cons first rest induction =>
      unfold SinkManager.writeFrom at isSink
      split at isSink
      · rename_i throws
        exact ⟨sink, isSink, .inl ⟨rfl, List.ne_nil_of_mem throws⟩⟩
      · rcases List.mem_cons.mp isSink with isFirst | isLater
        · exact ⟨first, .head _, .inr isFirst⟩
        · obtain ⟨earlier, member, cases⟩ := induction isLater
          exact ⟨earlier, .tail _ member, cases⟩

/-- A sink has got the whole line or nothing. -/
theorem Output.emit_whole {platform : Platform} (output : Output)
    (sound : output.cache.Sound platform) {fault : EmitFault}
    (spares : SparesTimestamps output.formatter.mTokens fault.rendering)
    (record : LogRecord) :
    let after := (output.emit platform fault record).2
    after.formatter = output.formatter ∧ after.cache.Sound platform ∧
      ∀ sink ∈ after.sinks, ∃ earlier ∈ output.sinks,
        sink = earlier ∧ fault ≠ {} ∨
        sink = earlier.write (output.formatter.render platform record) := by
  obtain ⟨result, cache, cacheSound, appended, threw, whole⟩ :=
    appendTokens_whole sound [] spares record
  cases result with
  | none =>
      simp only [Output.emit, Formatter.format, appended]
      refine ⟨trivial, cacheSound, fun sink isSink =>
        ⟨sink, isSink, .inl ⟨rfl, ?_⟩⟩⟩
      rintro rfl
      exact threw rfl rfl
  | some text =>
      have isLine : text ++ ['\n'] =
          output.formatter.render platform record := by
        rw [whole text rfl, List.nil_append, Formatter.render]
      simp only [Output.emit, Formatter.format, appended, isLine]
      refine ⟨trivial, cacheSound, fun sink isSink => ?_⟩
      obtain ⟨earlier, member, ⟨same, throws⟩ | written⟩ :=
        SinkManager.mem_writeFrom isSink
      · refine ⟨earlier, member, .inl ⟨same, ?_⟩⟩
        rintro rfl
        exact throws rfl
      · exact ⟨earlier, member, .inr written⟩

namespace AsyncBackend

variable {ι κ : Type} [DecidableEq ι] [DecidableEq κ]

/-- No exception cuts a timestamp short. -/
def SparesTimestamp (backend : AsyncBackend ι κ LogRecord Output)
    (label : AsyncLabel ι κ LogRecord EmitFault) : Prop :=
  ∀ fault ∈ label.fault?,
    SparesTimestamps backend.output.formatter.mTokens fault.rendering

instance (backend : AsyncBackend ι κ LogRecord Output)
    (label : AsyncLabel ι κ LogRecord EmitFault) :
    Decidable (backend.SparesTimestamp label) :=
  inferInstanceAs (Decidable (∀ _ ∈ _, _))

/-- Each sink holds whole lines of records that the worker has handed out, and
all of them if nothing has thrown. -/
structure HoldsLines (platform : Platform) (formatter : Formatter)
    (labels : List (AsyncLabel ι κ LogRecord EmitFault))
    (backend : AsyncBackend ι κ LogRecord Output) : Prop where
  formatter_eq : backend.output.formatter = formatter
  sound : backend.output.cache.Sound platform
  lines : ∀ sink ∈ backend.output.sinks,
    ∃ kept : List (Ticketed LogRecord), kept.Sublist backend.written ∧
      sink.received =
        kept.map (fun entry => formatter.render platform entry.item) ∧
      ((∀ fault ∈ faults labels, fault = {}) → kept = backend.written)

namespace HoldsLines

variable {platform : Platform} {formatter : Formatter}
  {labels : List (AsyncLabel ι κ LogRecord EmitFault)}
  {label : AsyncLabel ι κ LogRecord EmitFault}
  {before after : AsyncBackend ι κ LogRecord Output}

omit [DecidableEq ι] [DecidableEq κ] in
/-- A step that hands no record to the sinks. -/
theorem still (holds : before.HoldsLines platform formatter labels)
    (formatterSame : after.output.formatter = before.output.formatter)
    (cache : after.output.cache = before.output.cache)
    (sinks : ∀ sink ∈ after.output.sinks, ∃ earlier ∈ before.output.sinks,
      sink.received = earlier.received)
    (written : after.written = before.written)
    (noFault : label.fault? = none) :
    after.HoldsLines platform formatter (labels ++ [label]) := by
  constructor
  · exact formatterSame.trans holds.formatter_eq
  · rw [cache]
    exact holds.sound
  · intro sink isSink
    obtain ⟨earlier, member, same⟩ := sinks sink isSink
    rw [same, written, faults_snoc, noFault, Option.toList_none,
      List.append_nil]
    exact holds.lines earlier member

omit [DecidableEq ι] [DecidableEq κ] in
theorem write (holds : before.HoldsLines platform formatter labels)
    {fault : EmitFault} {entry : Ticketed LogRecord}
    (spares : SparesTimestamps before.output.formatter.mTokens
      fault.rendering)
    (output : after.output =
      (before.output.emit platform fault entry.item).2)
    (calls : after.calls = before.calls ++ [.write entry]) :
    after.HoldsLines platform formatter
      (labels ++ [.workerWrite fault]) := by
  have written : after.written = before.written ++ [entry] := by
    simp [AsyncBackend.written, calls, SinkCall.entry?]
  obtain ⟨formatterSame, cacheSound, sinks⟩ :=
    before.output.emit_whole holds.sound spares entry.item
  constructor
  · rw [output]
    exact formatterSame.trans holds.formatter_eq
  · rw [output]
    exact cacheSound
  · intro sink isSink
    rw [output] at isSink
    obtain ⟨earlier, member, ⟨rfl, threw⟩ | rfl⟩ := sinks sink isSink
    · obtain ⟨kept, fewer, received, _⟩ := holds.lines sink member
      refine ⟨kept, ?_, received, ?_⟩
      · rw [written]
        exact fewer.trans (List.sublist_append_left _ _)
      · intro calm
        refine absurd (calm fault ?_) threw
        simp [faults_snoc, AsyncLabel.fault?]
    · obtain ⟨kept, fewer, received, all⟩ := holds.lines earlier member
      refine ⟨kept ++ [entry], ?_, ?_, ?_⟩
      · rw [written]
        exact fewer.append (.refl _)
      · rw [Sink.received_write, received, holds.formatter_eq]
        simp
      · intro calm
        rw [written, all]
        intro other isOther
        exact calm other (by simp [faults_snoc, isOther])

theorem step (holds : before.HoldsLines platform formatter labels)
    (stepped : AsyncStep (Output.emitter platform) before label after)
    (spares : before.SparesTimestamp label) :
    after.HoldsLines platform formatter (labels ++ [label]) := by
  have flushed : ∀ sink ∈ before.output.flush.sinks,
      ∃ earlier ∈ before.output.sinks, sink.received = earlier.received := by
    intro sink isSink
    obtain ⟨earlier, member, rfl⟩ := List.mem_map.mp isSink
    exact ⟨earlier, member, Sink.received_flush earlier⟩
  have same : ∀ sink ∈ before.output.sinks,
      ∃ earlier ∈ before.output.sinks, sink.received = earlier.received :=
    fun sink isSink => ⟨sink, isSink, rfl⟩
  cases stepped with
  | workerWrite fault writing => exact holds.write (spares fault rfl) rfl rfl
  | workerFlush flushing | flushReturn passed =>
      refine holds.still rfl rfl flushed ?_ rfl
      simp [AsyncBackend.written, SinkCall.entry?]
  | _ => exact holds.still rfl rfl same rfl rfl

end HoldsLines

/-- Whatever throws but the rendering of a timestamp, under every policy and
in every interleaving of any number of producers: each sink has received whole
lines, of records that were logged, none twice and those of a producer in its
order, and without exceptions those of all records the worker has come to; and
the closed file of a file sink has just these. -/
theorem sinks_hold_lines {platform : Platform} {capacity : Nat}
    (positive : 0 < capacity) {policy : OverflowPolicy}
    {formatter : Formatter} {count : Nat}
    {labels : List (AsyncLabel ι κ LogRecord EmitFault)}
    {backend : AsyncBackend ι κ LogRecord Output}
    (run : (asyncMachine ι κ (Output.emitter platform) capacity policy
      { formatter := formatter, sinks := List.replicate count {} }).Run
      SparesTimestamp (.make capacity policy
        { formatter := formatter, sinks := List.replicate count {} }) labels
        backend)
    {file : FileSink} {found : Directory} {old : Text}
    (fresh : (DiskSink.file file).Fresh found)
    (oldContent : found file.path = some old) :
    ∀ sink ∈ backend.output.sinks, ∃ kept : List (Ticketed LogRecord),
      sink.received =
        kept.map (fun entry => formatter.render platform entry.item) ∧
      kept.Sublist backend.written ∧ (kept.map Ticketed.ticket).Nodup ∧
      (∀ producer, (Ledger.owned (owners (Output.emitter platform) capacity
        policy { formatter := formatter, sinks := List.replicate count {} }
        labels) producer kept).Sublist (logged producer labels)) ∧
      ((∀ fault ∈ faults labels, fault = {}) → kept = backend.written) ∧
      ∀ now directory, file.Took found sink.events now directory →
        (now.close directory).2 file.path = some (old ++ (kept.map
          fun entry => formatter.render platform entry.item).flatten) := by
  have holds : backend.HoldsLines platform formatter labels := by
    refine run.invariant_labels ?_ ?_
    · intro taken before label after stepped spares holds
      exact holds.step (.of_step stepped) spares
    · refine ⟨rfl, .empty, fun sink isSink => ⟨[], ?_, ?_, ?_⟩⟩
      · exact List.nil_sublist _
      · rw [List.eq_of_mem_replicate isSink]
        rfl
      · exact fun _ => rfl
  have accounts : backend.Accounts :=
    run.invariant (Accounts.preserved _) (.start policy positive _)
  have attributed := Attributed.of_run positive run
  intro sink isSink
  obtain ⟨kept, fewer, received, all⟩ := holds.lines sink isSink
  have accepted := fewer.trans accounts.written_sublist
  refine ⟨kept, received, fewer, ?_, ?_, all, ?_⟩
  · have distinct := accounts.sound.balanced.numbered ▸
      List.nodup_range (n := backend.custody.ledger.accepted.length)
    exact distinct.sublist (accepted.map _)
  · intro producer
    refine (Ledger.owned_sublist accepted).trans ?_
    rw [owners, attributed.owned]
    exact takenIn_sublist producer run
  · intro now directory took
    rw [← received]
    exact took.closed fresh oldContent

/-- The message of the first record cannot be rendered, and the second sink
throws on the second one. -/
theorem sinks_hold_lines_throwing :
    let formatter := Formatter.make ['%', 'm']
    let output : Output :=
      { formatter := formatter, sinks := List.replicate 2 {} }
    let labels : List (AsyncLabel Bool Unit LogRecord EmitFault) :=
      [.logPush true { message := ['a'] }, .logCount true, .workerCheck,
        .workerPop, .workerWrite { rendering := some (0, 0) }, .workerCount,
        .logPush false { message := ['b'] }, .logCount false,
        .workerCompare, .workerCheck, .workerPop,
        .workerWrite { sinks := [1] }]
    ∃ (backend : AsyncBackend Bool Unit LogRecord Output) (sink : Sink)
      (kept : List (Ticketed LogRecord)),
      sink ∈ backend.output.sinks ∧ sink.received = [['b', '\n']] ∧
      sink.received =
        kept.map (fun entry => formatter.render .epoch entry.item) ∧
      (kept.map Ticketed.ticket).Nodup ∧
      (Ledger.owned (owners (Output.emitter .epoch) 1 .dropOldest output
        labels) false kept).Sublist [{ message := ['b'] }] := by
  intro formatter output labels
  let file : FileSink :=
    { path := "logs/log".toList, mFile := { isOpen := true } }
  let found : Directory := Directory.append (fun _ => none) "logs/log".toList []
  have fresh : (DiskSink.file file).Fresh found := ⟨rfl, rfl⟩
  have oldContent : found file.path = some [] := rfl
  obtain ⟨backend, run, sinks⟩ := Machine.exists_run
    (asyncMachine Bool Unit (Output.emitter .epoch) 1 .dropOldest output)
    SparesTimestamp (.make 1 .dropOldest output) labels
    (fun backend => backend.output.sinks =
      [{ events := [.write ['b', '\n']] }, {}]) (by decide)
  have isSink : (⟨[.write ['b', '\n']]⟩ : Sink) ∈ backend.output.sinks := by
    simp [sinks]
  obtain ⟨kept, received, _, distinct, inOrder, _, _⟩ :=
    sinks_hold_lines (by decide) run fresh oldContent _ isSink
  exact ⟨backend, _, kept, isSink, rfl, received, distinct, inOrder false⟩

end AsyncBackend

end LogParse
