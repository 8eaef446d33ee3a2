import LogParse.LoggerEquivalence
import LogParse.PatternMeaning
import LogParse.SinkDirectory

/-!
# From the calls to the file

The transcript of a program is defined by recursion on its calls and the
meaning of its patterns, without queues, threads, caches, buffers or streams.
A file sink of the logger has a beginning of it in its file at any time, all
of it so far once `flush` has returned, and the whole once it is closed.
-/

namespace LogParse

/-- What the calls write, from a level and a pattern on. -/
def transcript (platform : Platform) :
    Level → Text → List Command → List Text
  | _, _, [] => []
  | level, pattern, .log recordLevel record :: rest =>
      if recordLevel.lt level then transcript platform level pattern rest
      else (meaning platform record pattern ++ ['\n']) ::
        transcript platform level pattern rest
  | _, pattern, .setLevel level :: rest =>
      transcript platform level pattern rest
  | level, pattern, .flush :: rest => transcript platform level pattern rest
  | level, _, .setPattern pattern :: rest =>
      transcript platform level pattern rest

theorem transcript_prefix (platform : Platform) (level : Level)
    (pattern : Text) (program later : List Command) :
    transcript platform level pattern program <+:
      transcript platform level pattern (program ++ later) := by
  induction program generalizing level pattern with
  | nil => exact List.nil_prefix
  | cons command rest induction =>
      cases command with
      | log recordLevel record =>
          simp only [List.cons_append, transcript]
          split
          · exact induction level pattern
          · exact (List.prefix_cons_inj _).mpr (induction level pattern)
      | setLevel next => exact induction next pattern
      | flush => exact induction level pattern
      | setPattern next => exact induction level next

/-- Every sink of the synchronous logger receives the transcript. -/
theorem SyncLogger.exec_received {platform : Platform} (logger : SyncLogger)
    (sound : logger.output.cache.Sound platform) {pattern : Text}
    (formatter : logger.output.formatter = Formatter.make pattern)
    (program : List Command) :
    (logger.exec platform program).output.received =
      logger.output.received.map
        (· ++ transcript platform logger.mLevel pattern program) := by
  induction program generalizing logger pattern with
  | nil => simp [SyncLogger.exec, transcript]
  | cons command rest induction =>
      have first : logger.exec platform (command :: rest) =
          (logger.call platform command).exec platform rest := rfl
      rw [first]
      cases command with
      | log level record =>
          cases below : level.lt logger.mLevel with
          | true =>
              have skipped :
                  logger.call platform (.log level record) = logger := by
                simp [SyncLogger.call, below]
              rw [skipped, induction logger sound formatter]
              simp [transcript, below]
          | false =>
              obtain ⟨levelSame, formatterSame, stillSound, received⟩ :=
                logger.call_log sound below record
              rw [induction _ stillSound (formatterSame.trans formatter),
                received, levelSame, formatter, Formatter.render_make]
              simp [transcript, below, Function.comp_def]
      | setLevel level =>
          exact induction (logger.call platform (.setLevel level)) sound
            formatter
      | flush =>
          have flushed := induction (logger.call platform .flush) sound
            formatter
          rw [flushed]
          simp [SyncLogger.call, SyncBackend.flush, transcript]
      | setPattern next =>
          exact induction (logger.call platform (.setPattern next)) sound rfl

/-- The call that the logger has made. -/
def SinkOp.event? : SinkOp → Option SinkEvent
  | .write buffer _ => some (.write buffer)
  | .flush => some .flush
  | .spill _ => none

/-- The sink has taken these calls, and its stream has moved bytes to the disk
whenever it liked. -/
def FileSink.Took (sink : FileSink) (found : Directory)
    (events : List SinkEvent) (now : FileSink) (directory : Directory) :
    Prop :=
  ∃ ops : List SinkOp, ops.filterMap SinkOp.event? = events ∧
    (soloMachine DiskSink.storeStep (.file sink) found).Run Machine.Free
      (.file sink, found) ops (.file now, directory)

theorem writesOf_eq (ops : List SinkOp) :
    writesOf ops =
      (ops.filterMap SinkOp.event?).filterMap SinkEvent.buffer? := by
  rw [List.filterMap_filterMap]
  apply List.filterMap_congr
  intro op _
  cases op <;> rfl

/-- After a flush the stream has only moved bytes. -/
theorem writesOf_flushedOps {ops : List SinkOp} {events : List SinkEvent}
    (flushed : ops.filterMap SinkOp.event? = events ++ [.flush]) :
    writesOf (flushedOps ops) = writesOf ops := by
  induction ops using List.reverseRecOn generalizing events with
  | nil => simp at flushed
  | append_singleton ops op induction =>
      rw [List.filterMap_append] at flushed
      cases op with
      | write buffer outcome => simp [SinkOp.event?] at flushed
      | flush => rw [flushedOps_flush]
      | spill count =>
          have noCall :
              ops.filterMap SinkOp.event? = events ++ [.flush] := by
            rw [← flushed]
            exact (List.append_nil _).symm
          rw [flushedOps_other rfl, induction noCall, writesOf_snoc]
          exact (List.append_nil _).symm

namespace FileSink.Took

variable {sink now : FileSink} {found directory : Directory} {old : Text}
  {events : List SinkEvent}

theorem stored (took : sink.Took found events now directory)
    (fresh : (DiskSink.file sink).Fresh found)
    (content : found sink.path = some old) :
    ∃ ops, ops.filterMap SinkOp.event? = events ∧ now.path = sink.path ∧
      now.Stored old ops directory := by
  obtain ⟨ops, calls, run⟩ := took
  obtain ⟨path, stored⟩ := fresh.serves_of_run run
  rw [content] at stored
  exact ⟨ops, calls, path, stored⟩

/-- The file has the old content and a beginning of what was received. -/
theorem content (took : sink.Took found events now directory)
    (fresh : (DiskSink.file sink).Fresh found)
    (oldContent : found sink.path = some old) :
    ∃ content, directory sink.path = some content ∧
      content <+: old ++ (events.filterMap SinkEvent.buffer?).flatten := by
  obtain ⟨ops, rfl, path, _, content, isContent, together, _⟩ :=
    took.stored fresh oldContent
  rw [path] at isContent
  refine ⟨content, isContent, ?_⟩
  rw [← writesOf_eq, ← together]
  exact List.prefix_append _ _

/-- After a flush the file has everything. -/
theorem flushed (took : sink.Took found events now directory)
    (fresh : (DiskSink.file sink).Fresh found)
    (oldContent : found sink.path = some old) {before : List SinkEvent}
    (isFlush : events = before ++ [.flush]) :
    directory sink.path =
      some (old ++ (events.filterMap SinkEvent.buffer?).flatten) := by
  obtain ⟨ops, rfl, path, _, content, isContent, together, flushed⟩ :=
    took.stored fresh oldContent
  rw [path] at isContent
  rw [writesOf_flushedOps isFlush] at flushed
  have lengths := congrArg List.length together
  rw [List.length_append] at lengths
  rw [← writesOf_eq, isContent, flushed.eq_of_length_le (by omega)]

/-- The destructor of the sink leaves everything in the file. -/
theorem closed (took : sink.Took found events now directory)
    (fresh : (DiskSink.file sink).Fresh found)
    (oldContent : found sink.path = some old) :
    (now.close directory).2 sink.path =
      some (old ++ (events.filterMap SinkEvent.buffer?).flatten) := by
  obtain ⟨ops, rfl, path, isOpen, content, isContent, together, _⟩ :=
    took.stored fresh oldContent
  rw [← writesOf_eq, ← together, ← path]
  simp [FileSink.close, FileSink.flush, FileSink.spill, isOpen,
    Directory.extend, isContent]

end FileSink.Took

/-- Where no sink has received anything at first, each has received the
buffers but the later ones. -/
theorem Output.received_of_mem {output : Output} {count : Nat}
    {buffers later : List Text}
    (received : output.received.map (· ++ later) =
      (List.replicate count {}).map fun sink : Sink =>
        sink.received ++ buffers)
    {sink : Sink} (isSink : sink ∈ output.sinks) :
    sink.received ++ later = buffers := by
  have member : sink.received ++ later ∈ output.received.map (· ++ later) :=
    List.mem_map_of_mem (List.mem_map_of_mem isSink)
  rw [received] at member
  obtain ⟨first, isFirst, same⟩ := List.mem_map.mp member
  rw [List.eq_of_mem_replicate isFirst] at same
  exact same.symm

theorem Output.received_eq_of_mem {output : Output} {count : Nat}
    {buffers : List Text}
    (received : output.received = (List.replicate count {}).map
      fun sink : Sink => sink.received ++ buffers)
    {sink : Sink} (isSink : sink ∈ output.sinks) :
    sink.events.filterMap SinkEvent.buffer? = buffers := by
  have noneLater : output.received.map (· ++ []) =
      (List.replicate count {}).map fun sink : Sink =>
        sink.received ++ buffers := by
    simpa using received
  have all := Output.received_of_mem noneLater isSink
  rw [List.append_nil] at all
  exact all

/-- The last call of each sink was `flush`. -/
theorem Output.flush_events {output : Output} {sink : Sink}
    (isSink : sink ∈ output.flush.sinks) :
    ∃ before, sink.events = before ++ [.flush] := by
  obtain ⟨before, _, rfl⟩ := List.mem_map.mp isSink
  exact ⟨before.events, rfl⟩

namespace AsyncLogger

variable {platform : Platform} {logger after : AsyncLogger}

theorem committed_prefix (logger : AsyncLogger) :
    logger.committed <+: logger.program := by
  unfold committed program
  split
  · simp
  · exact (List.prefix_append_right_inj _).mpr (List.take_prefix 1 _)

/-- The caller of `flush` has called `flush` of every sink when it returns. -/
theorem flushReturn_events
    (returned : logger.step platform (.backend (.flushReturn ())) =
      some after) {sink : Sink} (isSink : sink ∈ after.backend.output.sinks) :
    ∃ before, sink.events = before ++ [.flush] := by
  cases LoggerStep.of_step returned with
  | backend permitted stepped =>
      rw [settle_backend] at isSink
      cases stepped with
      | flushReturn passed => exact Output.flush_events isSink

end AsyncLogger

section Loggers

variable {platform : Platform} {config : Config} {program : List Command}
  {count : Nat} {cache : TimestampCache} {file : FileSink}
  {found : Directory} {old : Text}

theorem SyncLogger.exec_make_received (sound : cache.Sound platform)
    (count : Nat) (program : List Command) :
    ((SyncLogger.make config cache (List.replicate count {})).exec platform
        program).output.received =
      (List.replicate count {}).map fun sink : Sink => sink.received ++
        transcript platform config.level config.pattern program := by
  rw [SyncLogger.exec_received _ sound rfl]
  simp [Output.received, SyncLogger.make]

/-- A logger with a synchronous backend: whatever the program has come to, the
file holds a beginning of its transcript, and all of it after a `flush` or the
destruction. -/
theorem sync_file_holds_transcript (sound : cache.Sound platform)
    (fresh : (DiskSink.file file).Fresh found)
    (oldContent : found file.path = some old) {sink : Sink}
    (isSink : sink ∈
      ((SyncLogger.make config cache (List.replicate count {})).exec platform
        program).output.sinks)
    {now : FileSink} {directory : Directory}
    (took : file.Took found sink.events now directory) :
    let whole := old ++
      (transcript platform config.level config.pattern program).flatten
    (∃ content, directory file.path = some content ∧ content <+: whole) ∧
    (∀ before, program = before ++ [.flush] →
      directory file.path = some whole) ∧
    (now.close directory).2 file.path = some whole := by
  have received : sink.events.filterMap SinkEvent.buffer? =
      transcript platform config.level config.pattern program :=
    Output.received_eq_of_mem
      (SyncLogger.exec_make_received sound count program) isSink
  rw [← received]
  refine ⟨took.content fresh oldContent, ?_, took.closed fresh oldContent⟩
  rintro before rfl
  rw [SyncLogger.exec_append] at isSink
  obtain ⟨earlier, events⟩ := Output.flush_events isSink
  exact took.flushed fresh oldContent events

/-- The debug message is below the level, and the stream has moved one byte
before it is flushed. -/
theorem sync_file_holds_transcript_two_records :
    let config : Config := { pattern := ['%', 'm'] }
    let program : List Command :=
      [.log .info { message := ['a'] }, .log .debug { message := ['b'] },
        .setLevel .trace, .log .debug { message := ['c'] }, .flush]
    ∃ (sink : Sink) (directory : Directory),
      sink ∈ ((SyncLogger.make config {} (List.replicate 1 {})).exec .epoch
        program).output.sinks ∧
      directory "logs/log".toList =
        some ("old".toList ++ ['a', '\n', 'c', '\n']) ∧
      directory "logs/log".toList = some ("old".toList ++
        (transcript .epoch .info ['%', 'm'] program).flatten) := by
  intro config program
  let found : Directory :=
    Directory.append (fun _ => none) "logs/log".toList "old".toList
  let file : FileSink :=
    { path := "logs/log".toList, mFile := { isOpen := true } }
  let ops : List SinkOp :=
    [.write ['a', '\n'] {}, .spill 1, .write ['c', '\n'] {}, .flush]
  let sink : Sink := { events := ops.filterMap SinkOp.event? }
  obtain ⟨⟨last, directory⟩, run, isFile, content⟩ := Machine.exists_run
    (soloMachine DiskSink.storeStep (.file file) found) Machine.Free
    (.file file, found) ops
    (fun state => state.1 = .file file ∧ state.2 "logs/log".toList =
      some ("old".toList ++ ['a', '\n', 'c', '\n'])) (by decide)
  obtain rfl : last = .file file := isFile
  have isSink : sink ∈
      ((SyncLogger.make config {} (List.replicate 1 {})).exec .epoch
        program).output.sinks := by decide
  have fresh : (DiskSink.file file).Fresh found := ⟨rfl, rfl⟩
  have oldContent : found file.path = some "old".toList := rfl
  obtain ⟨_, flushed, _⟩ := sync_file_holds_transcript .empty fresh
    oldContent isSink ⟨ops, rfl, run⟩
  exact ⟨sink, directory, isSink, content,
    flushed (program.take 4) rfl⟩

/-- A logger with an asynchronous backend whose worker serves. -/
theorem async_file_holds_transcript {recordSize : Nat}
    (positive : 0 < config.queueCapacity)
    (blocks : config.overflowPolicy = .block) (fenced : Fenced program)
    (fresh : (DiskSink.file file).Fresh found)
    (oldContent : found file.path = some old)
    {start logger : AsyncLogger}
    (built : AsyncLogger.Built platform Construction.ChecksInitialized
      recordSize config (List.replicate count {}) program start)
    {labels : List LoggerLabel}
    (run : (loggerMachine platform start).Run AsyncLogger.Calm start labels
      logger) :
    let fileHolds (commands : List Command) : Text := old ++
      (transcript platform config.level config.pattern commands).flatten
    (∀ sink ∈ logger.backend.output.sinks, ∀ now directory,
      file.Took found sink.events now directory →
      ∃ content, directory file.path = some content ∧
        content <+: fileHolds program) ∧
    (∀ after,
      logger.step platform (.backend (.flushReturn ())) = some after →
      ∀ sink ∈ after.backend.output.sinks, ∀ now directory,
      file.Took found sink.events now directory →
      directory file.path = some (fileHolds logger.done)) ∧
    (logger.backend.stopper = .done →
      ∀ sink ∈ logger.backend.output.sinks, ∀ now directory,
      file.Took found sink.events now directory →
      (now.close directory).2 file.path = some (fileHolds program)) := by
  intro fileHolds
  have tracks := AsyncLogger.Tracks.of_run positive blocks
    TimestampCache.Sound.empty fenced built run
  refine ⟨?_, ?_, ?_⟩
  · intro sink isSink now directory took
    obtain ⟨content, isContent, isPrefix⟩ := took.content fresh oldContent
    refine ⟨content, isContent, isPrefix.trans ?_⟩
    obtain ⟨rest, split⟩ := logger.committed_prefix
    have soFar := Output.received_of_mem (tracks.follows.received.trans
      (SyncLogger.exec_make_received .empty count logger.committed)) isSink
    have committed := transcript_prefix platform config.level
      config.pattern logger.committed rest
    rw [split, tracks.program_eq, ← soFar] at committed
    obtain ⟨later, together⟩ := (List.prefix_append _ _).trans committed
    dsimp only [fileHolds]
    rw [← together, List.flatten_append, ← List.append_assoc]
    exact List.prefix_append _ _
  · intro after returned sink isSink now directory took
    obtain ⟨rest, _, received⟩ := tracks.flushed returned
    have flushed := Output.received_eq_of_mem (received.trans
      (SyncLogger.exec_make_received .empty count logger.done)) isSink
    obtain ⟨before, events⟩ := logger.flushReturn_events returned isSink
    dsimp only [fileHolds]
    rw [← flushed]
    exact took.flushed fresh oldContent events
  · intro destroyed sink isSink now directory took
    have received := Output.received_eq_of_mem ((tracks.destroyed
      destroyed).trans (SyncLogger.exec_make_received .empty count program))
      isSink
    dsimp only [fileHolds]
    rw [← received]
    exact took.closed fresh oldContent

end Loggers

/-- The client sleeps in `flush`, and the worker drains the second record
after `stop`. -/
theorem async_file_holds_transcript_two_records :
    let program : List Command :=
      [.log .info { message := ['a'] }, .flush,
        .setPattern ['%', '%', '%', 'm'],
        .log .debug { message := ['c'] }, .log .warn { message := ['b'] }]
    ∃ (logger : AsyncLogger) (now : FileSink) (directory : Directory),
      logger.backend.stopper = .done ∧
      directory "logs/log".toList =
        some ("old".toList ++ ['a', '\n', '%', 'b', '\n']) ∧
      (now.close directory).2 "logs/log".toList = some ("old".toList ++
        (transcript .epoch .info ['%', 'm'] program).flatten) := by
  intro program
  let config : Config := { pattern := ['%', 'm'], queueCapacity := 1 }
  let found : Directory :=
    Directory.append (fun _ => none) "logs/log".toList "old".toList
  let file : FileSink :=
    { path := "logs/log".toList, mFile := { isOpen := true } }
  let ops : List SinkOp :=
    [.write ['a', '\n'] {}, .flush, .write ['%', 'b', '\n'] {}, .spill 2,
      .flush]
  let sink : Sink := { events := ops.filterMap SinkOp.event? }
  have fresh : (DiskSink.file file).Fresh found := ⟨rfl, rfl⟩
  have oldContent : found file.path = some "old".toList := rfl
  obtain ⟨⟨last, directory⟩, sinkRun, isFile, content⟩ := Machine.exists_run
    (soloMachine DiskSink.storeStep (.file file) found) Machine.Free
    (.file file, found) ops
    (fun state => state.1 = .file file ∧ state.2 "logs/log".toList =
      some ("old".toList ++ ['a', '\n', '%', 'b', '\n'])) (by decide)
  obtain rfl : last = .file file := isFile
  obtain ⟨logger, run, destroyed, sinks⟩ := Machine.exists_run
    (loggerMachine .epoch
      (AsyncLogger.fresh config (List.replicate 1 {}) program))
    AsyncLogger.Calm (AsyncLogger.fresh config (List.replicate 1 {}) program)
    [.backend (.logPush () { message := ['a'] }), .backend .workerCheck,
      .backend .workerPop, .backend (.logCount ()),
      .backend (.flushEnter ()), .backend (.flushLock ()),
      .backend (.flushLoadProcessed ()), .backend (.flushLoadSubmitted ()),
      .backend (.flushDecide ()), .backend (.workerWrite {}),
      .backend .workerCount, .backend .workerCompare,
      .backend .workerNotify, .backend (.flushLock ()),
      .backend (.flushLoadProcessed ()), .backend (.flushLoadSubmitted ()),
      .backend (.flushDecide ()), .backend (.flushReturn ()), .call, .call,
      .backend (.logPush () { message := ['b'] }), .backend (.logCount ()),
      .backend .stopBegin, .backend .stopShutdown, .backend .workerCheck,
      .backend .workerPop, .backend (.workerWrite {}),
      .backend .workerCount, .backend .workerPop, .backend .workerFlush,
      .backend .stopJoin]
    (fun logger => logger.backend.stopper = .done ∧
      logger.backend.output.sinks = [sink]) (by decide)
  have isSink : sink ∈ logger.backend.output.sinks := by simp [sinks]
  have built : AsyncLogger.Built .epoch Construction.ChecksInitialized 128
      config (List.replicate 1 {}) program
      (AsyncLogger.fresh config (List.replicate 1 {}) program) :=
    .of_fresh (by decide) ⟨false, 7, 3⟩
  obtain ⟨_, _, closed⟩ := async_file_holds_transcript (by decide) rfl
    (by decide) fresh oldContent built run
  exact ⟨logger, file, directory, destroyed, content,
    closed destroyed sink isSink file directory ⟨ops, rfl, sinkRun⟩⟩

end LogParse
