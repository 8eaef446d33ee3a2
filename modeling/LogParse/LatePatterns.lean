import LogParse.LateChoice
import LogParse.LoggerTermination

/-!
# Patterns come late, but on schedule

The asynchronous logger, with its queue, counters, threads and condition
variables, is a late logger: each of its steps is a step of the late logger or
none that shows, and what the late logger can do it can do, so it writes
exactly the lines on the schedule of its program.
-/

namespace LogParse

namespace AsyncLogger

/-- The backlog of the late logger is what the worker has yet to write. -/
structure Refines (platform : Platform) (count : Nat) (late : LateLogger)
    (logger : AsyncLogger) : Prop where
  level : logger.mLevel = late.level
  formatter : logger.backend.output.formatter = Formatter.make late.pattern
  sound : logger.backend.output.cache.Sound platform
  backlog : logger.backend.unwritten.map Ticketed.item = late.backlog
  received : logger.backend.output.received =
    List.replicate count late.lines

/-- The step does not show, or the late logger takes one too. -/
def RefinesOn (platform : Platform) (count capacity : Nat)
    (late : LateLogger) (before after : AsyncLogger) : Prop :=
  Refines platform count late after ∧ after.committed = before.committed ∨
  ∃ label next, late.step platform capacity label = some next ∧
    Refines platform count next after ∧
    after.committed = before.committed ++ label.command?.toList

namespace Refines

variable {platform : Platform} {count capacity : Nat} {late : LateLogger}
  {before after logger : AsyncLogger} {label : LoggerLabel}
  {backendLabel : AsyncLabel Unit Unit LogRecord EmitFault}
  {backend : AsyncBackend Unit Unit LogRecord Output}

/-- A step of the backend that hands nothing to the sinks. -/
theorem idle (refines : Refines platform count late before)
    (formatter : backend.output.formatter =
      before.backend.output.formatter)
    (cache : backend.output.cache = before.backend.output.cache)
    (received : backend.output.received = before.backend.output.received)
    (unwritten : backend.unwritten = before.backend.unwritten) :
    Refines platform count late { before with backend := backend } := by
  refine ⟨refines.level, formatter.trans refines.formatter, ?_, ?_,
    received.trans refines.received⟩
  · rw [cache]
    exact refines.sound
  · rw [unwritten]
    exact refines.backlog

theorem idleOn (refines : Refines platform count late before)
    (producer : backend.producers () = before.backend.producers ())
    (formatter : backend.output.formatter =
      before.backend.output.formatter)
    (cache : backend.output.cache = before.backend.output.cache)
    (received : backend.output.received = before.backend.output.received)
    (unwritten : backend.unwritten = before.backend.unwritten) :
    RefinesOn platform count capacity late before
      { before with backend := backend } :=
  .inl ⟨refines.idle formatter cache received unwritten,
    by simp [committed, producer]⟩

/-- The worker writes the next record. -/
theorem write (refines : Refines platform count late before)
    {loop : Loop} {entry : Ticketed LogRecord}
    (writing : before.backend.worker = .writing loop entry) :
    ∃ next, late.write platform = some next ∧
      Refines platform count next { before with
        backend :=
          { before.backend with
            output := (Output.emitter platform).write {} entry.item
              before.backend.output
            calls := before.backend.calls ++ [.write entry]
            worker := .counting loop entry } } := by
  obtain ⟨cache, cacheSound, emitted⟩ :=
    before.backend.output.emit_spec platform refines.sound entry.item
  have backlog := refines.backlog
  rw [AsyncBackend.unwritten, writing] at backlog
  refine ⟨_, by simp only [LateLogger.write, ← backlog]; rfl, ?_⟩
  refine ⟨refines.level, ?_, ?_, ?_, ?_⟩
  · simpa [Output.emitter, emitted] using refines.formatter
  · simpa [Output.emitter, emitted] using cacheSound
  · simp [AsyncBackend.unwritten, Worker.unwritten]
  · have received := refines.received
    rw [Output.received] at received
    have rendered := Formatter.render_make platform entry.item late.pattern
    simp only [Output.emitter, emitted, Output.received, List.map_map]
    calc
      before.backend.output.sinks.map
          (Sink.received ∘ (Sink.write ·
            (before.backend.output.formatter.render platform entry.item))) =
        (before.backend.output.sinks.map Sink.received).map
          (· ++ [meaning platform entry.item late.pattern ++ ['\n']]) := by
            rw [refines.formatter, rendered, List.map_map]
            simp [Function.comp_def]
      _ = _ := by rw [received, List.map_replicate]

/-- The queue takes a record in. -/
theorem push (refines : Refines platform count late before)
    {level : Level} {record : LogRecord}
    (above : level.lt before.mLevel = false)
    (hasRoom : late.backlog.length ≤ capacity)
    {entry : Ticketed LogRecord} (item : entry.item = record)
    (unwritten : backend.unwritten = before.backend.unwritten ++ [entry])
    (output : backend.output = before.backend.output) :
    ∃ next, late.call capacity (.log level record) = some next ∧
      Refines platform count next { before with backend := backend } := by
  rw [refines.level] at above
  refine ⟨_, by simp only [LateLogger.call, above, hasRoom]; rfl, ?_⟩
  refine ⟨refines.level, ?_, ?_, ?_, ?_⟩
  · rw [output]
    exact refines.formatter
  · rw [output]
    exact refines.sound
  · rw [unwritten, List.map_append, refines.backlog]
    simp [item]
  · rw [output]
    exact refines.received

/-- Before a push the backlog is no longer than the queue. -/
theorem hasRoom (refines : Refines platform count late before)
    (client : before.Client capacity) {record : LogRecord}
    {custody : Custody LogRecord}
    (pushed : before.backend.custody.push record = some (true, custody)) :
    late.backlog.length ≤ capacity := by
  have accepted := client.watched.accounts.sound.accepted pushed
  have contents := accepted.contents
  simp only [Queue.kept, client.blocking.policy_eq] at contents
  have formed := accepted.sound.formed
  have queued := formed.size_le
  rw [← formed.length_contents, contents, List.length_append,
    accepted.shape.capacity, client.blocking.capacity_eq] at queued
  have held := before.backend.worker.holds_le_one
  rw [← refines.backlog, AsyncBackend.unwritten, List.length_map,
    List.length_append]
  simp only [List.length_cons, List.length_nil] at queued
  omega

theorem stepBackend (refines : Refines platform count late before)
    (client : before.Client capacity)
    (settles : Settles capacity before.backend)
    (calm : (LoggerLabel.backend backendLabel).calm = true)
    (permitted : before.permits backendLabel = true)
    (stepped : AsyncStep (Output.emitter platform) before.backend
      backendLabel backend) :
    RefinesOn platform count capacity late before
      (before.settle backendLabel backend) := by
  have sound := client.watched.accounts.sound
  cases stepped with
  | @logAccepted producer record custody outside pushed =>
      obtain ⟨level, rest, next, above⟩ := permits_logPush permitted
      have contents := (sound.accepted pushed).contents
      simp only [Queue.kept, client.blocking.policy_eq] at contents
      let entry := before.backend.custody.ledger.stamp record
      let backend : AsyncBackend Unit Unit LogRecord Output :=
        { before.backend with
          custody := custody
          producers := Function.update before.backend.producers producer
            (.submitting entry.ticket) }
      have unwritten : backend.unwritten =
          before.backend.unwritten ++ [entry] := by
        simp [backend, entry, AsyncBackend.unwritten, contents]
      obtain ⟨after, called, refined⟩ := refines.push above
        (refines.hasRoom client pushed) rfl unwritten rfl
      rw [settle_unfinished (by simp [finishes])]
      refine .inr ⟨.call (.log level record), after, called, refined, ?_⟩
      simp [committed, outside, next, LateLabel.command?]
  | logRefused outside pushed =>
      obtain ⟨level, rest, next, above⟩ := permits_logPush permitted
      exact absurd pushed (client.notRefused (by simp [next]))
  | logCount submitting =>
      obtain ⟨level, record, rest, next, above⟩ :=
        client.logging _ submitting
      rw [settle_finished rfl]
      refine .inl ⟨?_, by simp [committed, submitting, advance, next]⟩
      exact ⟨refines.level, refines.formatter, refines.sound,
        refines.backlog, refines.received⟩
  | workerPop popping popped =>
      rw [settle_unfinished rfl]
      refine refines.idleOn rfl rfl rfl rfl ?_
      simp [AsyncBackend.unwritten, Worker.unwritten, popping,
        (sound.delivered popped).contents]
  | workerMiss popping popped | workerDrained popping popped =>
      rw [settle_unfinished rfl]
      obtain ⟨_, _, rfl⟩ := sound.ended popped
      refine refines.idleOn rfl rfl rfl rfl ?_
      simp [AsyncBackend.unwritten, Worker.unwritten, popping]
  | workerWrite fault writing =>
      obtain rfl : fault = {} := by simpa [LoggerLabel.calm] using calm
      obtain ⟨next, wrote, refined⟩ := refines.write writing
      rw [settle_unfinished rfl]
      exact .inr ⟨.write, next, wrote, refined,
        by simp [committed, LateLabel.command?]⟩
  | workerCheck place | workerServed place | workerDraining place
  | workerEqual place | workerUnequal place | workerNotify place =>
      rw [settle_unfinished rfl]
      refine refines.idleOn rfl rfl rfl rfl ?_
      simp [AsyncBackend.unwritten, Worker.unwritten, place]
  | workerFlush flushing =>
      rw [settle_unfinished rfl]
      refine refines.idleOn rfl rfl rfl (Output.received_flush _) ?_
      simp [AsyncBackend.unwritten, Worker.unwritten, flushing]
  | flushReturn passed =>
      obtain ⟨rest, next⟩ := client.flushing (by simp [passed])
      have outside := client.notLogging (by simp [next]) ()
      have nothing := client.passed settles passed
      have backlog := refines.backlog
      rw [nothing, List.map_nil] at backlog
      rw [settle_finished rfl]
      refine .inr ⟨.call .flush, late, ?_, ?_, ?_⟩
      · simp [LateLogger.step, LateLogger.call, ← backlog]
      · exact ⟨refines.level, refines.formatter, refines.sound,
          refines.backlog,
          (Output.received_flush _).trans refines.received⟩
      · simp [committed, advance, outside, next, AsyncBackend.placeFlusher,
          LateLabel.command?]
  | flushEnter | flushLock | flushLoadProcessed | flushLoadSubmitted
  | flushPass | flushSleep | flushSpurious | stopBegin | stopAgain
  | stopShutdown | stopJoin =>
      rw [settle_unfinished rfl]
      exact refines.idleOn rfl rfl rfl rfl rfl

theorem step (refines : Refines platform count late before)
    (client : before.Client capacity)
    (settles : Settles capacity before.backend)
    (calm : label.calm = true)
    (stepped : LoggerStep platform before label after) :
    RefinesOn platform count capacity late before after := by
  cases stepped with
  | @filtered level record rest next below =>
      have outside := client.notLogging (by simp [next, below]) ()
      refine .inr ⟨.call (.log level record), late, ?_, ?_, ?_⟩
      · simp [LateLogger.step, LateLogger.call, ← refines.level, below]
      · exact ⟨refines.level, refines.formatter, refines.sound,
          refines.backlog, refines.received⟩
      · simp [committed, advance, outside, next, LateLabel.command?]
  | @setLevel level rest next =>
      have outside := client.notLogging (by simp [next]) ()
      refine .inr ⟨.call (.setLevel level), _, rfl, ?_, ?_⟩
      · exact ⟨rfl, refines.formatter, refines.sound, refines.backlog,
          refines.received⟩
      · simp [committed, advance, outside, next, LateLabel.command?]
  | @setPattern pattern rest next =>
      have outside := client.notLogging (by simp [next]) ()
      refine .inr ⟨.call (.setPattern pattern), _, rfl, ?_, ?_⟩
      · exact ⟨refines.level, rfl, refines.sound, refines.backlog,
          refines.received⟩
      · simp [committed, advance, outside, next, LateLabel.command?]
  | backend permitted stepped =>
      exact refines.stepBackend client settles calm permitted stepped

theorem start (config : Config) (program : List Command) :
    Refines platform count (.make config)
      (fresh config (List.replicate count {}) program) := by
  refine ⟨rfl, rfl, .empty, ?_, ?_⟩
  · simp [fresh, make, AsyncBackend.unwritten, AsyncBackend.make,
      Worker.unwritten, Custody.make, Queue.contents, Queue.make,
      LateLogger.make]
  · simp [fresh, make, AsyncBackend.make, Output.received, Sink.received,
      LateLogger.make]

end Refines

/-- The logger beside the run of the late logger that it has shown so far. -/
structure Mirrors (platform : Platform) (config : Config) (count : Nat)
    (program : List Command) (logger : AsyncLogger) : Prop where
  client : logger.Client config.queueCapacity
  settles : Settles config.queueCapacity logger.backend
  program_eq : logger.program = program
  shown : ∃ labels late,
    (lateMachine platform config).Run Machine.Free (.make config) labels
      late ∧
    logger.committed = labels.filterMap LateLabel.command? ∧
    Refines platform count late logger

namespace Mirrors

variable {platform : Platform} {config : Config} {count : Nat}
  {program : List Command} {before after logger : AsyncLogger}
  {label : LoggerLabel}

theorem step (mirrors : Mirrors platform config count program before)
    (small : config.queueCapacity < 2 ^ 63)
    (calm : label.calm = true)
    (stepped : LoggerStep platform before label after) :
    Mirrors platform config count program after := by
  obtain ⟨client, settles, program_eq, labels, late, run, shown, refines⟩ :=
    mirrors
  refine ⟨client.step stepped, client.settles small settles stepped,
    (program_step stepped).trans program_eq, ?_⟩
  rcases refines.step client settles calm stepped with
    ⟨still, nothing⟩ | ⟨lateLabel, next, lateStepped, moved, more⟩
  · exact ⟨labels, late, run, nothing.trans shown, still⟩
  · refine ⟨labels ++ [lateLabel], next, run.snoc trivial lateStepped, ?_,
      moved⟩
    rw [more, shown, List.filterMap_append]
    cases lateLabel <;> rfl

theorem start (positive : 0 < config.queueCapacity)
    (blocks : config.overflowPolicy = .block) (program : List Command) :
    Mirrors platform config count program
      (fresh config (List.replicate count {}) program) :=
  ⟨.start positive blocks _ program, trivial, rfl, [], _, .nil, rfl,
    .start config program⟩

theorem of_run {recordSize : Nat} {start : AsyncLogger}
    {labels : List LoggerLabel} (positive : 0 < config.queueCapacity)
    (blocks : config.overflowPolicy = .block)
    (built : Built platform Construction.ChecksInitialized recordSize config
      (List.replicate count {}) program start)
    (run : (loggerMachine platform start).Run Calm start labels logger) :
    Mirrors platform config count program logger := by
  have first : Mirrors platform config count program
      (fresh config (List.replicate count {}) program) :=
    .start positive blocks program
  have started := built.holds _ first fun _ stepped =>
    first.step built.room_lt rfl stepped
  exact run.invariant (fun _ _ _ stepped calm mirrors =>
    Mirrors.step mirrors built.room_lt calm (.of_step stepped)) started

/-- After the destruction everything is committed and written. -/
theorem destroyed (mirrors : Mirrors platform config count program logger)
    (destroyed : logger.backend.stopper = .done) :
    logger.committed = program ∧ logger.backend.unwritten = [] := by
  have client := mirrors.client
  refine ⟨?_, client.draining.unwritten_eq_nil
    (client.blocking.joined destroyed)⟩
  have nothing : logger.todo = [] := client.ended (by simp [destroyed])
  have outside := client.notLogging (by simp [nothing]) ()
  rw [← mirrors.program_eq]
  simp [committed, AsyncLogger.program, outside, nothing]

end Mirrors

/-- Whatever the program and the interleaving, if the worker serves and nothing
throws: each sink holds one line for each record logged above the level, in
order, except for the last ones, which are no more than the queue and the
worker hold, and none after a `flush` or the destruction.  Each line is in one
of the patterns on schedule for it, and none in an older pattern than the line
before. -/
theorem lines_on_schedule {platform : Platform} {recordSize : Nat}
    {config : Config} (positive : 0 < config.queueCapacity)
    (blocks : config.overflowPolicy = .block) {count : Nat}
    {program : List Command} {start logger : AsyncLogger}
    (built : Built platform Construction.ChecksInitialized recordSize config
      (List.replicate count {}) program start)
    {labels : List LoggerLabel}
    (run : (loggerMachine platform start).Run Calm start labels logger) :
    let schedule := Schedule.of config logger.committed
    ∃ front back written,
      schedule.drafts = front ++ back ∧
      Schedule.Permits platform schedule.patterns front written ∧
      logger.backend.output.received =
        List.replicate count (written.map Prod.snd) ∧
      back.length ≤ config.queueCapacity + 1 ∧
      (∀ after, logger.step platform (.backend (.flushReturn ())) =
        some after → back = []) ∧
      (logger.backend.stopper = .done →
        back = [] ∧ logger.committed = program) := by
  have mirrors := Mirrors.of_run positive blocks built run
  obtain ⟨lateLabels, late, lateRun, shown, refines⟩ := mirrors.shown
  obtain ⟨front, back, written, onSchedule⟩ :=
    LateLogger.onSchedule_of_run lateRun
  rw [← shown] at onSchedule
  have empty (nothing : logger.backend.unwritten = []) : back = [] := by
    have backlog := onSchedule.backlog
    rw [← refines.backlog, nothing] at backlog
    exact List.map_eq_nil_iff.mp backlog
  refine ⟨front, back, written, onSchedule.split, onSchedule.permits, ?_,
    onSchedule.fits, ?_, ?_⟩
  · rw [← onSchedule.lines]
    exact refines.received
  · intro after returned
    cases LoggerStep.of_step returned with
    | backend permitted stepped =>
        cases stepped with
        | flushReturn passed =>
            exact empty (mirrors.client.passed mirrors.settles passed)
  · intro destroyed
    obtain ⟨all, nothing⟩ := mirrors.destroyed destroyed
    exact ⟨empty nothing, all⟩

/-- The worker has the first record in hand while the client sets the pattern
and logs the second one. -/
theorem lines_on_schedule_late :
    let config : Config := { pattern := ['%', 'm'], queueCapacity := 1 }
    let program : List Command :=
      [.log .info { message := ['a'] }, .setPattern ['1', '%', 'm'],
        .log .warn { message := ['b'] }, .flush]
    ∃ (logger : AsyncLogger) (front back : List Draft)
      (written : List (Nat × Text)),
      logger.committed = program.take 3 ∧
      logger.backend.output.received = [[['1', 'a', '\n']]] ∧
      (Schedule.of config (program.take 3)).drafts = front ++ back ∧
      Schedule.Permits .epoch
        (Schedule.of config (program.take 3)).patterns front written ∧
      [[['1', 'a', '\n']]] = List.replicate 1 (written.map Prod.snd) ∧
      back.length ≤ 2 := by
  intro config program
  obtain ⟨logger, run, committed, received⟩ := Machine.exists_run
    (loggerMachine .epoch (fresh config (List.replicate 1 {}) program))
    Calm (fresh config (List.replicate 1 {}) program)
    [.backend (.logPush () { message := ['a'] }), .backend .workerCheck,
      .backend .workerPop, .backend (.logCount ()), .call,
      .backend (.logPush () { message := ['b'] }),
      .backend (.workerWrite {})]
    (fun logger => logger.committed = program.take 3 ∧
      logger.backend.output.received = [[['1', 'a', '\n']]]) (by decide)
  have built : Built .epoch Construction.ChecksInitialized 128 config
      (List.replicate 1 {}) program
      (fresh config (List.replicate 1 {}) program) :=
    .of_fresh (by decide) ⟨false, 7, 3⟩
  obtain ⟨front, back, written, drafts, permits, lines, few, _⟩ :=
    lines_on_schedule (by decide) rfl built run
  rw [committed] at drafts permits
  exact ⟨logger, front, back, written, committed, received, drafts, permits,
    received.symm.trans lines, few⟩

end AsyncLogger

end LogParse
