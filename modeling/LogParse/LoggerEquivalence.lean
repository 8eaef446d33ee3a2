import LogParse.LoggerClient

/-!
# The two backends do the same

A record counts for the synchronous logger when `log` is called, for the
asynchronous one when the queue takes it in.  What the worker has yet to write
is all that tells them apart, and the pattern does not change under it.
-/

namespace LogParse

namespace SyncLogger

variable {platform : Platform}

theorem exec_append (logger : SyncLogger) (first second : List Command) :
    logger.exec platform (first ++ second) =
      (logger.exec platform first).exec platform second :=
  List.foldl_append

/-- A record that is logged reaches every sink. -/
theorem call_log (logger : SyncLogger)
    (sound : logger.output.cache.Sound platform) {level : Level}
    (above : level.lt logger.mLevel = false) (record : LogRecord) :
    let after := logger.call platform (.log level record)
    after.mLevel = logger.mLevel ∧
      after.output.formatter = logger.output.formatter ∧
      after.output.cache.Sound platform ∧
      after.output.received = logger.output.received.map
        (· ++ [logger.output.formatter.render platform record]) := by
  obtain ⟨cache, cacheSound, emitted⟩ :=
    logger.output.emit_spec platform sound record
  simp [call, above, SyncBackend.log, emitted, cacheSound, Output.received,
    Function.comp_def]

end SyncLogger

namespace AsyncLogger

/-- The commands whose effect is decided: those that are done, and the `log`
whose record the queue has taken in. -/
def committed (logger : AsyncLogger) : List Command :=
  logger.done ++
    if logger.backend.producers () = .outside then []
    else logger.todo.take 1

/-- What the worker has yet to write. -/
def pending (platform : Platform) (logger : AsyncLogger) : List Text :=
  logger.backend.unwritten.map fun entry =>
    logger.backend.output.formatter.render platform entry.item

/-- The asynchronous logger is behind the synchronous one by what is
pending, and a pattern may only be set when nothing is. -/
structure Follows (platform : Platform) (sync : SyncLogger)
    (logger : AsyncLogger) : Prop where
  level : logger.mLevel = sync.mLevel
  formatter : logger.backend.output.formatter = sync.output.formatter
  sound : logger.backend.output.cache.Sound platform
  syncSound : sync.output.cache.Sound platform
  received : logger.backend.output.received.map
    (· ++ logger.pending platform) = sync.output.received
  fenced : ∃ flushed, fencedFrom flushed logger.todo = true ∧
    (flushed = true → logger.backend.unwritten = [])

/-- The logger follows after some more commands. -/
def FollowsOn (platform : Platform) (sync : SyncLogger)
    (before after : AsyncLogger) : Prop :=
  ∃ commands, after.committed = before.committed ++ commands ∧
    Follows platform (sync.exec platform commands) after

namespace Follows

variable {platform : Platform} {capacity : Nat} {sync : SyncLogger}
  {before after logger : AsyncLogger} {label : LoggerLabel}
  {backendLabel : AsyncLabel Unit Unit LogRecord EmitFault}
  {backend : AsyncBackend Unit Unit LogRecord Output}

/-- A step that commits nothing, in which the sinks receive what was
pending. -/
theorem stay (follows : Follows platform sync before)
    (producer : backend.producers () = before.backend.producers ())
    (formatter : backend.output.formatter =
      before.backend.output.formatter)
    (sound : backend.output.cache.Sound platform)
    (received : backend.output.received.map
        (· ++ backend.unwritten.map fun entry =>
          backend.output.formatter.render platform entry.item) =
      before.backend.output.received.map (· ++ before.pending platform))
    (unwritten : before.backend.unwritten = [] → backend.unwritten = []) :
    FollowsOn platform sync before { before with backend := backend } := by
  refine ⟨[], by simp [committed, producer], ?_⟩
  obtain ⟨flushed, fence, fresh⟩ := follows.fenced
  exact ⟨follows.level, formatter.trans follows.formatter, sound,
    follows.syncSound, received.trans follows.received,
    ⟨flushed, fence, fun isFlushed => unwritten (fresh isFlushed)⟩⟩

/-- A step that hands nothing to the sinks. -/
theorem idle (follows : Follows platform sync before)
    (producer : backend.producers () = before.backend.producers ())
    (formatter : backend.output.formatter =
      before.backend.output.formatter)
    (cache : backend.output.cache = before.backend.output.cache)
    (received : backend.output.received = before.backend.output.received)
    (unwritten : backend.unwritten = before.backend.unwritten) :
    FollowsOn platform sync before { before with backend := backend } := by
  apply follows.stay producer formatter
  · rw [cache]
    exact follows.sound
  · rw [received, formatter, unwritten]
    rfl
  · rw [unwritten]
    exact id

/-- The queue takes a record in. -/
theorem push (follows : Follows platform sync before)
    {level : Level} {record : LogRecord} {rest : List Command}
    (next : before.todo = .log level record :: rest)
    (above : level.lt before.mLevel = false)
    (outside : before.backend.producers () = .outside)
    (inside : backend.producers () ≠ .outside)
    (output : backend.output = before.backend.output)
    (entry : Ticketed LogRecord) (item : entry.item = record)
    (unwritten : backend.unwritten = before.backend.unwritten ++ [entry]) :
    FollowsOn platform sync before { before with backend := backend } := by
  rw [follows.level] at above
  obtain ⟨levelSame, formatterSame, syncSound, syncReceived⟩ :=
    sync.call_log follows.syncSound above record
  obtain ⟨flushed, fence, _⟩ := follows.fenced
  refine ⟨[.log level record], ?_, ?_⟩
  · simp [committed, outside, inside, next]
  · refine ⟨follows.level.trans levelSame.symm, ?_, ?_, syncSound, ?_,
      false, ?_, by simp⟩
    · rw [output]
      exact follows.formatter.trans formatterSame.symm
    · rw [output]
      exact follows.sound
    · refine Eq.trans ?_ syncReceived.symm
      rw [← follows.received, ← follows.formatter, List.map_map]
      simp [pending, output, unwritten, item, Function.comp_def]
    · rw [next] at fence ⊢
      exact fence

/-- The worker writes the next record. -/
theorem write (follows : Follows platform sync before)
    {loop : Loop} {entry : Ticketed LogRecord}
    (writing : before.backend.worker = .writing loop entry) :
    FollowsOn platform sync before { before with
      backend :=
        { before.backend with
          output := (Output.emitter platform).write {} entry.item
            before.backend.output
          calls := before.backend.calls ++ [.write entry]
          worker := .counting loop entry } } := by
  obtain ⟨cache, cacheSound, emitted⟩ :=
    before.backend.output.emit_spec platform follows.sound entry.item
  have unwritten : before.backend.unwritten =
      entry :: before.backend.custody.queue.contents := by
    simp [AsyncBackend.unwritten, writing, Worker.unwritten]
  refine follows.stay rfl ?_ ?_ ?_ ?_
  · simp [Output.emitter, emitted]
  · simpa [Output.emitter, emitted] using cacheSound
  · rw [pending, unwritten]
    simp [Output.emitter, emitted, Output.received,
      AsyncBackend.unwritten, Worker.unwritten, Function.comp_def]
  · simp [unwritten]

theorem stepBackend (follows : Follows platform sync before)
    (client : before.Client capacity)
    (settles : Settles capacity before.backend)
    (calm : (LoggerLabel.backend backendLabel).calm = true)
    (permitted : before.permits backendLabel = true)
    (stepped : AsyncStep (Output.emitter platform) before.backend
      backendLabel backend) :
    FollowsOn platform sync before (before.settle backendLabel backend) := by
  have sound := client.watched.accounts.sound
  cases stepped with
  | @logAccepted producer record custody outside pushed =>
      obtain ⟨level, rest, next, above⟩ := permits_logPush permitted
      rw [settle_unfinished (by simp [finishes])]
      refine follows.push next above outside (by simp) rfl
        (before.backend.custody.ledger.stamp record) rfl ?_
      have contents := (sound.accepted pushed).contents
      simp only [Queue.kept, client.blocking.policy_eq] at contents
      simp [AsyncBackend.unwritten, contents]
  | logRefused outside pushed =>
      obtain ⟨level, rest, next, above⟩ := permits_logPush permitted
      exact absurd pushed (client.notRefused (by simp [next]))
  | logCount submitting =>
      obtain ⟨level, record, rest, next, above⟩ :=
        client.logging _ submitting
      obtain ⟨flushed, fence, _⟩ := follows.fenced
      rw [settle_finished rfl]
      refine ⟨[], by simp [committed, submitting, advance, next], ?_⟩
      refine ⟨follows.level, follows.formatter, follows.sound,
        follows.syncSound, follows.received, false, ?_, by simp⟩
      simpa [next, fencedFrom, advance] using fence
  | workerPop popping popped =>
      rw [settle_unfinished rfl]
      refine follows.idle rfl rfl rfl rfl ?_
      simp [AsyncBackend.unwritten, Worker.unwritten, popping,
        (sound.delivered popped).contents]
  | workerMiss popping popped | workerDrained popping popped =>
      rw [settle_unfinished rfl]
      obtain ⟨_, _, rfl⟩ := sound.ended popped
      refine follows.idle rfl rfl rfl rfl ?_
      simp [AsyncBackend.unwritten, Worker.unwritten, popping]
  | workerWrite fault writing =>
      obtain rfl : fault = {} := by simpa [LoggerLabel.calm] using calm
      rw [settle_unfinished rfl]
      exact follows.write writing
  | workerCheck place | workerServed place | workerDraining place
  | workerEqual place | workerUnequal place | workerNotify place =>
      rw [settle_unfinished rfl]
      refine follows.idle rfl rfl rfl rfl ?_
      simp [AsyncBackend.unwritten, Worker.unwritten, place]
  | workerFlush flushing =>
      rw [settle_unfinished rfl]
      refine follows.idle rfl rfl rfl (Output.received_flush _) ?_
      simp [AsyncBackend.unwritten, Worker.unwritten, flushing]
  | flushReturn passed =>
      obtain ⟨rest, next⟩ := client.flushing (by simp [passed])
      have outside := client.notLogging (by simp [next]) ()
      obtain ⟨flushed, fence, _⟩ := follows.fenced
      rw [settle_finished rfl]
      refine ⟨[.flush], ?_, ?_⟩
      · simp [committed, advance, outside, next, AsyncBackend.placeFlusher]
      · refine ⟨follows.level, follows.formatter, follows.sound,
          follows.syncSound, ?_, true, ?_, ?_⟩
        · have flushedBoth : before.backend.output.flush.received.map
              (· ++ before.pending platform) =
                sync.output.flush.received := by
            simpa using follows.received
          exact flushedBoth
        · simpa [next, fencedFrom, advance] using fence
        · intro _
          exact client.passed settles passed
  | flushEnter | flushLock | flushLoadProcessed | flushLoadSubmitted
  | flushPass | flushSleep | flushSpurious | stopBegin | stopAgain
  | stopShutdown | stopJoin =>
      rw [settle_unfinished rfl]
      exact follows.idle rfl rfl rfl rfl rfl

theorem step (follows : Follows platform sync before)
    (client : before.Client capacity)
    (settles : Settles capacity before.backend)
    (calm : label.calm = true)
    (stepped : LoggerStep platform before label after) :
    FollowsOn platform sync before after := by
  cases stepped with
  | @filtered level record rest next below =>
      have outside := client.notLogging (by simp [next, below]) ()
      obtain ⟨flushed, fence, fresh⟩ := follows.fenced
      refine ⟨[.log level record], ?_, ?_⟩
      · simp [committed, advance, outside, next]
      · have skipped : sync.exec platform [.log level record] = sync := by
          simp [SyncLogger.exec, SyncLogger.call, ← follows.level, below]
        rw [skipped]
        refine ⟨follows.level, follows.formatter, follows.sound,
          follows.syncSound, follows.received, false, ?_, by simp⟩
        simpa [next, fencedFrom, advance] using fence
  | @setLevel level rest next =>
      have outside := client.notLogging (by simp [next]) ()
      obtain ⟨flushed, fence, fresh⟩ := follows.fenced
      refine ⟨[.setLevel level], ?_, ?_⟩
      · simp [committed, advance, outside, next]
      · refine ⟨rfl, follows.formatter, follows.sound, follows.syncSound,
          follows.received, false, ?_, by simp⟩
        simpa [next, fencedFrom, advance] using fence
  | @setPattern pattern rest next =>
      have outside := client.notLogging (by simp [next]) ()
      obtain ⟨flushed, fence, fresh⟩ := follows.fenced
      obtain ⟨isFlushed, fenceRest⟩ : flushed = true ∧
          fencedFrom false rest = true := by
        simpa [next, fencedFrom] using fence
      have nothing := fresh isFlushed
      refine ⟨[.setPattern pattern], ?_, ?_⟩
      · simp [committed, advance, outside, next]
      · have received := follows.received
        rw [pending, nothing] at received
        refine ⟨follows.level, rfl, follows.sound, follows.syncSound, ?_,
          false, ?_, by simp⟩
        · change before.backend.output.received.map
            (· ++ before.backend.unwritten.map _) = sync.output.received
          rw [nothing]
          exact received
        · simpa [next, advance] using fenceRest
  | backend permitted stepped =>
      exact follows.stepBackend client settles calm permitted stepped

end Follows

/-- The logger on its way through a program, beside the synchronous logger
that makes the same calls. -/
structure Tracks (platform : Platform) (capacity : Nat) (first : SyncLogger)
    (program : List Command) (logger : AsyncLogger) : Prop where
  client : logger.Client capacity
  settles : Settles capacity logger.backend
  program_eq : logger.program = program
  follows : Follows platform (first.exec platform logger.committed) logger

/-- In the steps admitted here no formatter and no sink throws. -/
abbrev Calm (_before : AsyncLogger) (label : LoggerLabel) : Prop :=
  label.calm = true

namespace Tracks

variable {platform : Platform} {capacity : Nat} {first : SyncLogger}
  {program : List Command} {before after logger : AsyncLogger}
  {label : LoggerLabel}

theorem step (tracks : Tracks platform capacity first program before)
    (small : capacity < 2 ^ 63) (calm : label.calm = true)
    (stepped : LoggerStep platform before label after) :
    Tracks platform capacity first program after := by
  obtain ⟨commands, committed, follows⟩ :=
    tracks.follows.step tracks.client tracks.settles calm stepped
  refine ⟨tracks.client.step stepped,
    tracks.client.settles small tracks.settles stepped, ?_, ?_⟩
  · rw [← tracks.program_eq]
    cases stepped with
    | filtered | setLevel | setPattern => exact program_advance
    | backend => exact program_settle
  · rw [committed, SyncLogger.exec_append]
    exact follows

theorem start {config : Config} {cache : TimestampCache}
    {sinks : List Sink} (positive : 0 < config.queueCapacity)
    (blocks : config.overflowPolicy = .block)
    (sound : cache.Sound platform) (fenced : Fenced program) :
    Tracks platform config.queueCapacity (SyncLogger.make config cache sinks)
      program (fresh config sinks program) := by
  refine ⟨.start positive blocks sinks program, trivial, rfl, rfl, rfl,
    .empty, sound, ?_, false, fenced, by simp⟩
  simp [fresh, make, pending, AsyncBackend.unwritten, AsyncBackend.make,
    Worker.unwritten, committed, SyncLogger.exec, SyncLogger.make,
    Output.received, Custody.make, Queue.contents, Queue.make]

/-- The logger is tracked from the return of its constructor on. -/
theorem of_run {recordSize : Nat} {config : Config} {cache : TimestampCache}
    {sinks : List Sink} {labels : List LoggerLabel} {start : AsyncLogger}
    (positive : 0 < config.queueCapacity)
    (blocks : config.overflowPolicy = .block)
    (sound : cache.Sound platform) (fenced : Fenced program)
    (built : Built platform Construction.ChecksInitialized recordSize config
      sinks program start)
    (run : (loggerMachine platform start).Run Calm start labels logger) :
    Tracks platform config.queueCapacity (SyncLogger.make config cache sinks)
      program logger := by
  have fresh : Tracks platform config.queueCapacity
      (SyncLogger.make config cache sinks) program
      (AsyncLogger.fresh config sinks program) :=
    .start positive blocks sound fenced
  have started := built.holds _ fresh fun _ stepped =>
    fresh.step built.room_lt rfl stepped
  exact run.invariant (fun _ _ _ stepped calm tracks =>
    Tracks.step tracks built.room_lt calm (.of_step stepped)) started

/-- After the destruction everything is committed and written. -/
theorem destroyed (tracks : Tracks platform capacity first program logger)
    (destroyed : logger.backend.stopper = .done) :
    logger.backend.output.received =
      (first.exec platform program).output.received := by
  have client := tracks.client
  have nothing : logger.todo = [] := client.ended (by simp [destroyed])
  have outside := client.notLogging (by simp [nothing]) ()
  have done : logger.committed = program := by
    rw [← tracks.program_eq]
    simp [committed, AsyncLogger.program, outside, nothing]
  have received := tracks.follows.received
  rw [done, pending, client.draining.unwritten_eq_nil
    (client.blocking.joined destroyed)] at received
  simpa using received

/-- When `flush` returns, everything before it is committed and written. -/
theorem flushed (tracks : Tracks platform capacity first program logger)
    (returned : logger.step platform (.backend (.flushReturn ())) =
      some after) :
    ∃ rest, program = logger.done ++ .flush :: rest ∧
      after.backend.output.received =
        (first.exec platform logger.done).output.received := by
  have client := tracks.client
  cases LoggerStep.of_step returned with
  | backend permitted stepped =>
      cases stepped with
      | flushReturn passed =>
          obtain ⟨rest, next⟩ := client.flushing (by simp [passed])
          have outside := client.notLogging (by simp [next]) ()
          have done : logger.committed = logger.done := by
            simp [committed, outside]
          refine ⟨rest, ?_, ?_⟩
          · rw [← tracks.program_eq, AsyncLogger.program, next]
          · have received := tracks.follows.received
            rw [done, pending, client.passed tracks.settles passed]
              at received
            rw [settle_backend]
            refine Eq.trans (Output.received_flush _) ?_
            simpa using received

end Tracks

/-- A logger with an asynchronous backend does what one with a synchronous
backend does if its worker finds `m_running` initialized, or `true` in its
storage: after the destruction each sink has received the same buffers, at
each return of `flush` it has received those of the calls before, and until
then client and worker are never both stuck. -/
theorem async_equivalent_to_sync {platform : Platform} {recordSize : Nat}
    {config : Config} (positive : 0 < config.queueCapacity)
    (blocks : config.overflowPolicy = .block)
    {cache : TimestampCache} (sound : cache.Sound platform)
    {sinks : List Sink} {program : List Command} (fenced : Fenced program)
    {start logger : AsyncLogger}
    (built : Built platform Construction.ChecksInitialized recordSize config
      sinks program start)
    {labels : List LoggerLabel}
    (run : (loggerMachine platform start).Run Calm start labels logger) :
    let sync := SyncLogger.make config cache sinks
    (logger.backend.stopper = .done →
      logger.backend.output.received =
        (sync.exec platform program).output.received) ∧
    (∀ after,
      logger.step platform (.backend (.flushReturn ())) = some after →
      ∃ rest, program = logger.done ++ .flush :: rest ∧
        after.backend.output.received =
          (sync.exec platform logger.done).output.received) ∧
    (logger.backend.stopper ≠ .done → Client.Moves platform logger) := by
  have tracks := Tracks.of_run positive blocks sound fenced built run
  exact ⟨tracks.destroyed, fun _ => tracks.flushed,
    tracks.client.moves positive⟩

/-- The worker has tested the `true` of the storage when the client starts.
The client has to sleep in `flush`, and the worker drains the second record
after `stop`. -/
theorem async_equivalent_to_sync_two_records :
    let config : Config :=
      { pattern := ['%', 'm'], queueCapacity := 1 }
    let program : List Command :=
      [.log .info { message := ['a'] }, .flush,
        .setPattern ['%', '%', '%', 'm'],
        .log .debug { message := ['c'] }, .log .warn { message := ['b'] }]
    ∃ start logger labels,
      Built .epoch Construction.ChecksInitialized 128 config [{}, {}] program
        start ∧
      (loggerMachine .epoch start).Run Calm start labels logger ∧
      logger.backend.stopper = .done ∧
      ((SyncLogger.make config {} [{}, {}]).exec .epoch
        program).output.received =
          [[['a', '\n'], ['%', 'b', '\n']], [['a', '\n'], ['%', 'b', '\n']]] ∧
      logger.backend.output.received =
        ((SyncLogger.make config {} [{}, {}]).exec .epoch
          program).output.received := by
  intro config program
  let backend : AsyncBackend Unit Unit LogRecord Output :=
    { AsyncBackend.make 1 .block
        { formatter := Formatter.make ['%', 'm'], sinks := [{}, {}] } with
      worker := .popping .serving }
  have built : Built .epoch Construction.ChecksInitialized 128 config
      [{}, {}] program (make config backend program) :=
    .of_exec (by decide) ⟨true, 7, 3⟩ [.use .workerCheck, .construct,
      .construct, .construct, .construct, .construct] rfl
  obtain ⟨logger, run, destroyed⟩ := Machine.exists_run
    (loggerMachine .epoch (make config backend program)) Calm
    (make config backend program)
    [.backend (.logPush () { message := ['a'] }), .backend .workerPop,
      .backend (.logCount ()), .backend (.flushEnter ()),
      .backend (.flushLock ()), .backend (.flushLoadProcessed ()),
      .backend (.flushLoadSubmitted ()), .backend (.flushDecide ()),
      .backend (.workerWrite {}), .backend .workerCount,
      .backend .workerCompare, .backend .workerNotify,
      .backend (.flushLock ()), .backend (.flushLoadProcessed ()),
      .backend (.flushLoadSubmitted ()), .backend (.flushDecide ()),
      .backend (.flushReturn ()), .call, .call,
      .backend (.logPush () { message := ['b'] }), .backend (.logCount ()),
      .backend .stopBegin, .backend .stopShutdown, .backend .workerCheck,
      .backend .workerPop, .backend (.workerWrite {}),
      .backend .workerCount, .backend .workerPop, .backend .workerFlush,
      .backend .stopJoin]
    (fun logger => logger.backend.stopper = .done) (by decide)
  refine ⟨_, logger, _, built, run, destroyed, by decide, ?_⟩
  exact (async_equivalent_to_sync (by decide) rfl .empty (by decide) built
    run).1 destroyed

/-- Nobody wakes a client that sleeps in `flush` while the worker waits in its
second loop. -/
theorem Client.not_moves {platform : Platform} {logger : AsyncLogger}
    {rest : List Command} {due : List Nat}
    (next : logger.todo = .flush :: rest)
    (asleep : logger.backend.flushers () = .asleep due)
    (outside : logger.backend.producers () = .outside)
    (unstopped : logger.backend.stopper = .outside)
    (draining : logger.backend.worker = .popping .draining)
    (empty : logger.backend.custody.queue.mSize = 0)
    (opened : logger.backend.custody.queue.mShutdown = false) :
    ¬Client.Moves platform logger := by
  rintro ⟨label, _, deliberate, enabled⟩
  obtain ⟨after, stepped⟩ := Option.isSome_iff_exists.mp enabled
  cases LoggerStep.of_step stepped with
  | filtered here | setLevel here | setPattern here =>
      rw [next] at here
      cases here
  | backend permitted moved =>
      cases moved with
      | logAccepted | logRefused | stopBegin | stopAgain =>
          simp [permits, next] at permitted
      | logCount submitting =>
          rw [outside] at submitting
          cases submitting
      | workerPop place popped | workerDrained place popped
      | workerMiss place popped =>
          obtain ⟨_, _, closed⟩ := Custody.pop_empty empty popped
          rw [opened] at closed
          cases closed
      | workerCheck place | workerWrite fault place | workerServed place
      | workerDraining place | workerEqual place | workerUnequal place
      | workerNotify place | workerFlush place =>
          rw [draining] at place
          cases place
      | flushSpurious => cases deliberate
      | flushEnter place | flushLock place | flushLoadProcessed place
      | flushLoadSubmitted place | flushPass place | flushSleep place
      | flushReturn place =>
          rw [asleep] at place
          cases place
      | stopShutdown place | stopJoin place =>
          rw [unstopped] at place
          cases place

/-- The storage held `false` when the worker tested `m_running`, so it drains
the queue and does not notify the client. -/
theorem async_stuck_before_done :
    let config : Config := { pattern := ['%', 'm'], queueCapacity := 1 }
    let program : List Command := [.log .info { message := ['a'] }, .flush]
    ∃ start logger labels,
      Built .epoch Machine.Free 128 config [{}] program start ∧
      (loggerMachine .epoch start).Run Calm start labels logger ∧
      logger.backend.stopper ≠ .done ∧ ¬Client.Moves .epoch logger := by
  intro config program
  let backend : AsyncBackend Unit Unit LogRecord Output :=
    { AsyncBackend.make 1 .block
        { formatter := Formatter.make ['%', 'm'], sinks := [{}] } with
      worker := .popping .draining }
  have built : Built .epoch Machine.Free 128 config [{}] program
      (make config backend program) :=
    .of_exec (by decide) ⟨false, 0, 0⟩ [.use .workerCheck, .construct,
      .construct, .construct, .construct, .construct] rfl
  obtain ⟨logger, run, next, asleep, outside, unstopped, draining, empty,
      opened⟩ := Machine.exists_run
    (loggerMachine .epoch (make config backend program)) Calm
    (make config backend program)
    [.backend (.logPush () { message := ['a'] }), .backend (.logCount ()),
      .backend (.flushEnter ()), .backend (.flushLock ()),
      .backend (.flushLoadProcessed ()), .backend (.flushLoadSubmitted ()),
      .backend (.flushDecide ()), .backend .workerPop,
      .backend (.workerWrite {}), .backend .workerCount]
    (fun logger => logger.todo = [.flush] ∧
      logger.backend.flushers () = .asleep [0] ∧
      logger.backend.producers () = .outside ∧
      logger.backend.stopper = .outside ∧
      logger.backend.worker = .popping .draining ∧
      logger.backend.custody.queue.mSize = 0 ∧
      logger.backend.custody.queue.mShutdown = false) (by decide)
  exact ⟨_, logger, _, built, run, by simp [unstopped],
    Client.not_moves next asleep outside unstopped draining empty opened⟩

end AsyncLogger

end LogParse
