import LogParse.LatePatterns

/-!
# Every line on schedule gets written

Whatever the late logger does, some interleaving of client and worker does.
Between two calls the worker rests with the oldest unwritten record in hand,
or waiting for one.
-/

namespace LogParse

namespace AsyncLogger

/-- The client is between two calls, and the worker is at this place. -/
structure Rests (platform : Platform) (count capacity : Nat)
    (todo : List Command) (late : LateLogger) (place : Worker LogRecord)
    (logger : AsyncLogger) : Prop where
  client : logger.Client capacity
  refines : Refines platform count late logger
  todo_eq : logger.todo = todo
  producer : logger.backend.producers () = .outside
  flusher : logger.backend.flushers () = .outside
  stopper : logger.backend.stopper = .outside
  worker : logger.backend.worker = place

theorem reaches_step {platform : Platform} {start logger next : AsyncLogger}
    {label : LoggerLabel} {holds : AsyncLogger → Prop}
    (moved : logger.step platform label = some next)
    (calm : label.calm = true)
    (reaches : (loggerMachine platform start).Reaches Calm next holds) :
    (loggerMachine platform start).Reaches Calm logger holds :=
  .step calm (show (loggerMachine platform start).step logger label = _
    from moved) reaches

/-- The worker holds the oldest unwritten record, or waits for one. -/
def AtCall (platform : Platform) (count capacity : Nat)
    (todo : List Command) (late : LateLogger) (logger : AsyncLogger) : Prop :=
  if late.backlog = [] then
    Rests platform count capacity todo late (.popping .serving) logger
  else ∃ entry,
    Rests platform count capacity todo late (.writing .serving entry) logger

namespace Rests

variable {platform : Platform} {count capacity : Nat}
  {todo rest : List Command} {late next : LateLogger}
  {place : Worker LogRecord} {start logger : AsyncLogger}
  {label : AsyncLabel Unit Unit LogRecord EmitFault}
  {backend : AsyncBackend Unit Unit LogRecord Output}

/-- A step of the worker that hands nothing to the sinks. -/
theorem idle (rests : Rests platform count capacity todo late place logger)
    (permitted : logger.permits label = true)
    (stepped : logger.backend.step (Output.emitter platform) label =
      some backend)
    (unfinished : finishes backend label = false)
    (output : backend.output = logger.backend.output)
    (unwritten : backend.unwritten = logger.backend.unwritten)
    (producer : backend.producers () = logger.backend.producers ())
    (flusher : backend.flushers () = .outside)
    (stopper : backend.stopper = logger.backend.stopper) :
    logger.step platform (.backend label) =
        some { logger with backend := backend } ∧
      Rests platform count capacity todo late backend.worker
        { logger with backend := backend } := by
  have same : logger.step platform (.backend label) =
      some { logger with backend := backend } := by
    simp [AsyncLogger.step, permitted, stepped, settle_unfinished unfinished]
  refine ⟨same, rests.client.step (.of_step same), ?_, rests.todo_eq,
    producer.trans rests.producer, flusher, stopper.trans rests.stopper, rfl⟩
  exact rests.refines.idle (by rw [output]) (by rw [output]) (by rw [output])
    unwritten

/-- The worker takes the next record if there is one. -/
theorem take (rests : Rests platform count capacity todo late
      (.popping .serving) logger) :
    (loggerMachine platform start).Reaches Calm logger
      (AtCall platform count capacity todo late) := by
  have backlog := rests.refines.backlog
  rw [AsyncBackend.unwritten, rests.worker] at backlog
  by_cases isEmpty : late.backlog = []
  · apply Machine.Reaches.here
    rw [AtCall, if_pos isEmpty]
    exact rests
  · have sound := rests.client.watched.accounts.sound
    have nonempty : logger.backend.custody.queue.contents ≠ [] := by
      intro contents
      rw [contents] at backlog
      exact isEmpty backlog.symm
    have size : logger.backend.custody.queue.mSize ≠ 0 := fun zero =>
      nonempty (sound.formed.contents_eq_nil_iff.mpr zero)
    have ready : logger.backend.custody.queue.popReady = true := by
      simp [Queue.popReady]
      omega
    rcases sound.pop_spec ready with ⟨front, after, popped, delivered⟩ |
      ⟨empty, _⟩
    · have stepped : logger.backend.step (Output.emitter platform)
          .workerPop = some { logger.backend with
            custody := after, worker := .writing .serving front } := by
        simp [AsyncBackend.step, AsyncBackend.workerPop, rests.worker, popped]
      obtain ⟨moved, arrived⟩ := rests.idle rfl stepped rfl rfl
        (by simp [AsyncBackend.unwritten, rests.worker, Worker.unwritten,
          delivered.contents]) rfl rests.flusher rfl
      refine reaches_step moved rfl (.here ?_)
      rw [AtCall, if_neg isEmpty]
      exact ⟨front, arrived⟩
    · exact absurd empty nonempty

theorem check (rests : Rests platform count capacity todo late .checking
      logger) :
    (loggerMachine platform start).Reaches Calm logger
      (AtCall platform count capacity todo late) := by
  have running := rests.client.watched.running rests.stopper
  have stepped : logger.backend.step (Output.emitter platform) .workerCheck =
      some { logger.backend with worker := .popping .serving } := by
    simp [AsyncBackend.step, AsyncBackend.workerCheck, rests.worker, running]
  obtain ⟨moved, arrived⟩ := rests.idle rfl stepped rfl rfl
    (by simp [AsyncBackend.unwritten, rests.worker, Worker.unwritten]) rfl
    rests.flusher rfl
  exact reaches_step moved rfl arrived.take

theorem compare {processed : UInt64} (rests : Rests platform count capacity
      todo late (.comparing processed) logger) :
    (loggerMachine platform start).Reaches Calm logger
      (AtCall platform count capacity todo late) := by
  by_cases equal : processed = logger.backend.mSubmitted
  · have stepped : logger.backend.step (Output.emitter platform)
        .workerCompare = some { logger.backend with worker := .notifying } :=
      by simp [AsyncBackend.step, AsyncBackend.workerCompare, rests.worker,
        equal]
    obtain ⟨moved, compared⟩ := rests.idle rfl stepped rfl rfl
      (by simp [AsyncBackend.unwritten, rests.worker, Worker.unwritten]) rfl
      rests.flusher rfl
    have unlocked : logger.backend.mFlushMutex = none :=
      rests.client.unlocked (by rw [rests.flusher]; rfl)
    have notified : AsyncBackend.step (Output.emitter platform)
        { logger.backend with worker := .notifying } .workerNotify =
          some { logger.backend with
            worker := .checking
            flushers := fun caller =>
              (logger.backend.flushers caller).wake } := by
      simp [AsyncBackend.step, AsyncBackend.workerNotify, unlocked]
    obtain ⟨woke, arrived⟩ := compared.idle rfl notified rfl rfl
      (by simp [AsyncBackend.unwritten, Worker.unwritten]) rfl
      (by simp [rests.flusher, FlushCall.wake]) rfl
    exact reaches_step moved rfl (reaches_step woke rfl arrived.check)
  · have stepped : logger.backend.step (Output.emitter platform)
        .workerCompare = some { logger.backend with worker := .checking } :=
      by simp [AsyncBackend.step, AsyncBackend.workerCompare, rests.worker,
        equal]
    obtain ⟨moved, arrived⟩ := rests.idle rfl stepped rfl rfl
      (by simp [AsyncBackend.unwritten, rests.worker, Worker.unwritten]) rfl
      rests.flusher rfl
    exact reaches_step moved rfl arrived.check

theorem processed {entry : Ticketed LogRecord} (rests : Rests platform count
      capacity todo late (.counting .serving entry) logger) :
    (loggerMachine platform start).Reaches Calm logger
      (AtCall platform count capacity todo late) := by
  have stepped : logger.backend.step (Output.emitter platform) .workerCount =
      some { logger.backend with
        mProcessed := logger.backend.mProcessed + 1
        finished := logger.backend.finished ++ [entry.ticket]
        worker := .comparing (logger.backend.mProcessed + 1) } := by
    simp [AsyncBackend.step, AsyncBackend.workerCount, rests.worker]
  obtain ⟨moved, counted⟩ := rests.idle rfl stepped rfl rfl
    (by simp [AsyncBackend.unwritten, rests.worker, Worker.unwritten]) rfl
    rests.flusher rfl
  exact reaches_step moved rfl counted.compare

theorem write {entry : Ticketed LogRecord} (rests : Rests platform count
      capacity todo late (.writing .serving entry) logger)
    (wrote : late.write platform = some next) :
    (loggerMachine platform start).Reaches Calm logger
      (AtCall platform count capacity todo next) := by
  obtain ⟨same, wroteSame, refines⟩ := rests.refines.write rests.worker
  obtain rfl : same = next := Option.some.inj (wroteSame.symm.trans wrote)
  have moved : logger.step platform (.backend (.workerWrite {})) =
      some { logger with
        backend :=
          { logger.backend with
            output := (Output.emitter platform).write {} entry.item
              logger.backend.output
            calls := logger.backend.calls ++ [.write entry]
            worker := .counting .serving entry } } := by
    simp [AsyncLogger.step, permits, AsyncBackend.step,
      AsyncBackend.workerWrite, rests.worker, settle, finishes]
  have written : Rests platform count capacity todo same
      (.counting .serving entry) _ :=
    ⟨rests.client.step (.of_step moved), refines, rests.todo_eq,
      rests.producer, rests.flusher, rests.stopper, rfl⟩
  exact reaches_step moved rfl written.processed

/-- The client is at its next call. -/
theorem atCall (rests : Rests platform count capacity todo late place logger)
    (worker : place = .popping .serving ∨
      late.backlog ≠ [] ∧ ∃ entry, place = .writing .serving entry) :
    (loggerMachine platform start).Reaches Calm logger
      (AtCall platform count capacity todo late) := by
  rcases worker with rfl | ⟨notEmpty, entry, rfl⟩
  · exact rests.take
  · apply Machine.Reaches.here
    rw [AtCall, if_neg notEmpty]
    exact ⟨entry, rests⟩

end Rests

namespace AtCall

variable {platform : Platform} {count capacity : Nat}
  {todo : List Command} {late next : LateLogger}
  {start logger : AsyncLogger} {command : Command}

theorem exists_rests (atCall : AtCall platform count capacity todo late
      logger) :
    ∃ place, Rests platform count capacity todo late place logger ∧
      (place = .popping .serving ∧ late.backlog = [] ∨
        late.backlog ≠ [] ∧ ∃ entry, place = .writing .serving entry) := by
  unfold AtCall at atCall
  split at atCall
  · rename_i isEmpty
    exact ⟨_, atCall, .inl ⟨rfl, isEmpty⟩⟩
  · rename_i notEmpty
    obtain ⟨entry, rests⟩ := atCall
    exact ⟨_, rests, .inr ⟨notEmpty, entry, rfl⟩⟩

/-- Where the late logger takes a record in, the queue has room for it. -/
theorem push_enabled {level : Level} {record : LogRecord}
    {place : Worker LogRecord}
    (rests : Rests platform count capacity (.log level record :: todo) late
      place logger)
    (worker : place = .popping .serving ∧ late.backlog = [] ∨
      late.backlog ≠ [] ∧ ∃ entry, place = .writing .serving entry)
    (positive : 0 < capacity) (hasRoom : late.backlog.length ≤ capacity) :
    ∃ custody, logger.backend.custody.push record = some (true, custody) ∧
      logger.backend.custody.Accepted record custody := by
  have sound := rests.client.watched.accounts.sound
  have blocking := rests.client.blocking
  have backlog := congrArg List.length rests.refines.backlog
  rw [AsyncBackend.unwritten, rests.worker, List.length_map,
    List.length_append] at backlog
  have queued : logger.backend.custody.queue.contents.length < capacity := by
    rcases worker with ⟨rfl, isEmpty⟩ | ⟨_, entry, rfl⟩
    · rw [isEmpty, List.length_nil] at backlog
      omega
    · simp only [Worker.unwritten, List.length_cons, List.length_nil]
        at backlog
      omega
  rw [sound.formed.length_contents] at queued
  have ready : logger.backend.custody.queue.pushReady = true := by
    simp [Queue.pushReady, blocking.policy_eq, blocking.capacity_eq, queued]
  rcases sound.push_spec ready record with
    ⟨_, custody, pushed, accepted⟩ | ⟨_, refused⟩
  · exact ⟨custody, pushed, accepted⟩
  · exact absurd refused (rests.client.notRefused (by simp [rests.todo_eq]))

theorem log {level : Level} {record : LogRecord}
    (atCall : AtCall platform count capacity (.log level record :: todo) late
      logger)
    (positive : 0 < capacity) (above : level.lt late.level = false)
    (called : late.call capacity (.log level record) = some next) :
    (loggerMachine platform start).Reaches Calm logger
      (AtCall platform count capacity todo next) := by
  obtain ⟨place, rests, worker⟩ := atCall.exists_rests
  have hasRoom : late.backlog.length ≤ capacity := by
    by_contra tooLong
    simp [LateLogger.call, above, tooLong] at called
  obtain ⟨custody, pushed, accepted⟩ :=
    push_enabled rests worker positive hasRoom
  have contents := accepted.contents
  simp only [Queue.kept, rests.client.blocking.policy_eq] at contents
  let entry := logger.backend.custody.ledger.stamp record
  let pushedBackend : AsyncBackend Unit Unit LogRecord Output :=
    { logger.backend with
      custody := custody
      producers := Function.update logger.backend.producers ()
        (.submitting entry.ticket) }
  let countedBackend : AsyncBackend Unit Unit LogRecord Output :=
    { pushedBackend with
      mSubmitted := logger.backend.mSubmitted + 1
      counted := logger.backend.counted ++ [entry.ticket]
      producers := Function.update pushedBackend.producers () .outside }
  have aboveLevel : level.lt logger.mLevel = false := by
    rw [rests.refines.level]
    exact above
  have pushes : logger.step platform (.backend (.logPush () record)) =
      some { logger with backend := pushedBackend } := by
    simp [AsyncLogger.step, permits, rests.todo_eq, aboveLevel,
      AsyncBackend.step, AsyncBackend.logPush, rests.producer, pushed, settle,
      finishes, pushedBackend, entry]
  have counts : AsyncLogger.step platform
      { logger with backend := pushedBackend } (.backend (.logCount ())) =
      some { logger.advance with backend := countedBackend } := by
    simp [AsyncLogger.step, permits, AsyncBackend.step,
      AsyncBackend.logCount, settle, finishes, advance, pushedBackend,
      countedBackend]
  have unwritten : pushedBackend.unwritten =
      logger.backend.unwritten ++ [entry] := by
    simp [pushedBackend, entry, AsyncBackend.unwritten, contents]
  obtain ⟨same, calledSame, refines⟩ :=
    rests.refines.push aboveLevel hasRoom rfl unwritten rfl
  obtain rfl : same = next := Option.some.inj (calledSame.symm.trans called)
  have client := (rests.client.step (.of_step pushes)).step (.of_step counts)
  have returned : Rests platform count capacity todo same place
      { logger.advance with backend := countedBackend } :=
    ⟨client, ⟨refines.level, refines.formatter, refines.sound,
      refines.backlog, refines.received⟩, by simp [advance, rests.todo_eq],
      by simp [countedBackend], rests.flusher, rests.stopper, rests.worker⟩
  refine reaches_step pushes rfl (reaches_step counts rfl
    (returned.atCall ?_))
  rcases worker with ⟨isPopping, _⟩ | ⟨_, isWriting⟩
  · exact .inl isPopping
  · refine .inr ⟨?_, isWriting⟩
    rw [← refines.backlog]
    simp [unwritten]

/-- With nothing left to write, as many records are processed as were
submitted. -/
theorem counters_equal {place : Worker LogRecord}
    (rests : Rests platform count capacity todo late place logger)
    (worker : place = .popping .serving) (isEmpty : late.backlog = []) :
    logger.backend.mProcessed = logger.backend.mSubmitted := by
  have accounts := rests.client.watched.accounts
  have balance := accounts.conservation
  have submitted := accounts.submission.length_eq fun _ => rests.producer
  have backlog := congrArg List.length rests.refines.backlog
  rw [AsyncBackend.unwritten, rests.worker, worker, isEmpty, List.length_map,
    List.length_append] at backlog
  rw [rests.client.blocking.kept, rests.worker, worker] at balance
  simp only [Worker.uncounted, Worker.unwritten, List.length_nil]
    at backlog balance
  rw [accounts.processed_eq, accounts.submitted_eq, submitted]
  congr 1
  omega

theorem flush (atCall : AtCall platform count capacity (.flush :: todo) late
      logger) (isEmpty : late.backlog = []) :
    (loggerMachine platform start).Reaches Calm logger
      (AtCall platform count capacity todo late) := by
  rw [AtCall, if_pos isEmpty] at atCall
  have equal := counters_equal atCall rfl isEmpty
  have unlocked : logger.backend.mFlushMutex = none :=
    atCall.client.unlocked (by rw [atCall.flusher]; rfl)
  let due := logger.backend.counted
  let processed : Loaded :=
    ⟨logger.backend.mProcessed, logger.backend.finished⟩
  let submitted : Loaded :=
    ⟨logger.backend.mSubmitted, logger.backend.counted⟩
  let entered := logger.backend.placeFlusher () (.entering due)
  let locked : AsyncBackend Unit Unit LogRecord Output :=
    { entered.placeFlusher () (.testing due none none) with
      mFlushMutex := some () }
  let loaded :=
    locked.placeFlusher () (.testing due (some processed) none)
  let tested :=
    loaded.placeFlusher () (.testing due (some processed) (some submitted))
  let passed := tested.placeFlusher () (.passed due)
  let returned : AsyncBackend Unit Unit LogRecord Output :=
    { passed.placeFlusher () .outside with
      output := logger.backend.output.flush
      calls := logger.backend.calls ++ [.flush]
      mFlushMutex := none }
  have enters : logger.step platform (.backend (.flushEnter ())) =
      some { logger with backend := entered } := by
    simp [AsyncLogger.step, permits, atCall.todo_eq, AsyncBackend.step,
      AsyncBackend.flushEnter, atCall.flusher, settle, finishes, entered, due]
  have locks : AsyncLogger.step platform { logger with backend := entered }
      (.backend (.flushLock ())) = some { logger with backend := locked } := by
    simp [AsyncLogger.step, permits, AsyncBackend.step,
      AsyncBackend.flushLock, settle, finishes, locked, entered,
      AsyncBackend.placeFlusher, unlocked]
  have loadsProcessed : AsyncLogger.step platform
      { logger with backend := locked } (.backend (.flushLoadProcessed ())) =
      some { logger with backend := loaded } := by
    simp [AsyncLogger.step, permits, AsyncBackend.step,
      AsyncBackend.flushLoadProcessed, settle, finishes, loaded, locked,
      entered, AsyncBackend.placeFlusher, processed]
  have loadsSubmitted : AsyncLogger.step platform
      { logger with backend := loaded } (.backend (.flushLoadSubmitted ())) =
      some { logger with backend := tested } := by
    simp [AsyncLogger.step, permits, AsyncBackend.step,
      AsyncBackend.flushLoadSubmitted, settle, finishes, tested, loaded,
      locked, entered, AsyncBackend.placeFlusher, submitted]
  have decides : AsyncLogger.step platform { logger with backend := tested }
      (.backend (.flushDecide ())) = some { logger with backend := passed } := by
    simp [AsyncLogger.step, permits, AsyncBackend.step,
      AsyncBackend.flushDecide, settle, finishes, passed, tested,
      AsyncBackend.placeFlusher, processed, submitted, equal]
  have returns : AsyncLogger.step platform { logger with backend := passed }
      (.backend (.flushReturn ())) =
      some { logger.advance with backend := returned } := by
    simp [AsyncLogger.step, permits, AsyncBackend.step,
      AsyncBackend.flushReturn, settle, finishes, returned, passed, advance,
      AsyncBackend.placeFlusher, Output.emitter, tested, loaded, locked,
      entered]
  have client := ((((((atCall.client.step (.of_step enters)).step
    (.of_step locks)).step (.of_step loadsProcessed)).step
    (.of_step loadsSubmitted)).step (.of_step decides)).step
    (.of_step returns))
  have arrived : Rests platform count capacity todo late (.popping .serving)
      { logger.advance with backend := returned } :=
    ⟨client, ⟨atCall.refines.level, atCall.refines.formatter,
      atCall.refines.sound, atCall.refines.backlog,
      (Output.received_flush _).trans atCall.refines.received⟩,
      by simp [advance, atCall.todo_eq], atCall.producer,
      by simp [returned, AsyncBackend.placeFlusher], atCall.stopper,
      atCall.worker⟩
  exact reaches_step enters rfl (reaches_step locks rfl
    (reaches_step loadsProcessed rfl (reaches_step loadsSubmitted rfl
      (reaches_step decides rfl (reaches_step returns rfl arrived.take)))))

/-- A call that does not enter the backend. -/
theorem call {after : AsyncLogger} {place : Worker LogRecord}
    {rest : List Command}
    (rests : Rests platform count capacity rest late place logger)
    (worker : place = .popping .serving ∨
      next.backlog ≠ [] ∧ ∃ entry, place = .writing .serving entry)
    (called : logger.call = some after)
    (refines : Refines platform count next after)
    (todo_eq : after.todo = todo)
    (producer : after.backend.producers = logger.backend.producers)
    (flusher : after.backend.flushers = logger.backend.flushers)
    (stopper : after.backend.stopper = logger.backend.stopper)
    (sameWorker : after.backend.worker = logger.backend.worker) :
    (loggerMachine platform start).Reaches Calm logger
      (AtCall platform count capacity todo next) := by
  have moved : logger.step platform .call = some after := called
  have arrived : Rests platform count capacity todo next place after :=
    ⟨rests.client.step (.of_step moved), refines, todo_eq,
      (congrFun producer ()).trans rests.producer,
      (congrFun flusher ()).trans rests.flusher,
      stopper.trans rests.stopper, sameWorker.trans rests.worker⟩
  exact reaches_step moved rfl (arrived.atCall worker)

/-- What the late logger does, client and worker can do. -/
theorem follow {label : LateLabel} (positive : 0 < capacity)
    (atCall : AtCall platform count capacity
      (label.command?.toList ++ todo) late logger)
    (stepped : late.step platform capacity label = some next) :
    (loggerMachine platform start).Reaches Calm logger
      (AtCall platform count capacity todo next) := by
  cases label with
  | write =>
      obtain ⟨place, rests, ⟨_, isEmpty⟩ | ⟨_, entry, rfl⟩⟩ :=
        atCall.exists_rests
      · simp [LateLogger.step, LateLogger.write, isEmpty] at stepped
      · exact rests.write stepped
  | call command =>
      obtain ⟨place, rests, worker⟩ := atCall.exists_rests
      have isNext : logger.todo = command :: todo := rests.todo_eq
      have resting : place = .popping .serving ∨
          late.backlog ≠ [] ∧ ∃ entry, place = .writing .serving entry :=
        worker.imp_left And.left
      cases command with
      | log level record =>
          cases below : level.lt late.level with
          | false => exact atCall.log positive below stepped
          | true =>
              obtain rfl : late = next := by
                simpa [LateLogger.step, LateLogger.call, below] using stepped
              have called : logger.call = some logger.advance := by
                simp [AsyncLogger.call, isNext, rests.refines.level, below]
              have refines : Refines platform count late logger.advance :=
                ⟨rests.refines.level, rests.refines.formatter,
                  rests.refines.sound, rests.refines.backlog,
                  rests.refines.received⟩
              exact call rests resting called refines
                (by simp [advance, isNext]) rfl rfl rfl rfl
      | setLevel level =>
          cases stepped
          have called : logger.call =
              some { logger.advance with mLevel := level } := by
            simp [AsyncLogger.call, isNext]
          refine call rests resting called ?_ (by simp [advance, isNext]) rfl
            rfl rfl rfl
          exact ⟨rfl, rests.refines.formatter, rests.refines.sound,
            rests.refines.backlog, rests.refines.received⟩
      | flush =>
          simp only [LateLogger.step, LateLogger.call] at stepped
          split at stepped
          · rename_i isEmpty
            cases stepped
            exact atCall.flush isEmpty
          · cases stepped
      | setPattern pattern =>
          cases stepped
          have called : logger.call = some { logger.advance with
              mConfig := { logger.mConfig with pattern := pattern }
              backend :=
                { logger.backend with
                  output := logger.backend.output.setPattern pattern } } := by
            simp [AsyncLogger.call, isNext]
          refine call rests resting called ?_ (by simp [advance, isNext]) rfl
            rfl rfl rfl
          exact ⟨rests.refines.level, rfl, rests.refines.sound,
            rests.refines.backlog, rests.refines.received⟩

/-- What the late logger does in a run, client and worker can do. -/
theorem follow_run {config : Config} {labels : List LateLabel}
    {first last : LateLogger} (positive : 0 < config.queueCapacity)
    (run : (lateMachine platform config).Run Machine.Free first labels last)
    (atCall : AtCall platform count config.queueCapacity
      (labels.filterMap LateLabel.command? ++ todo) first logger) :
    (loggerMachine platform start).Reaches Calm logger
      (AtCall platform count config.queueCapacity todo last) := by
  induction run generalizing todo with
  | nil => exact .here atCall
  | @snoc middle last labels label _ _ stepped induction =>
      have calls : (labels ++ [label]).filterMap LateLabel.command? ++ todo =
          labels.filterMap LateLabel.command? ++
            (label.command?.toList ++ todo) := by
        rw [List.filterMap_append, List.append_assoc]
        cases label <;> rfl
      rw [calls] at atCall
      exact (induction atCall).bind fun _ arrived =>
        arrived.follow positive stepped

end AtCall

/-- The program is done, and the late logger has nothing more to write. -/
structure Ending (platform : Platform) (count capacity : Nat)
    (late : LateLogger) (logger : AsyncLogger) : Prop where
  client : logger.Client capacity
  settles : Settles capacity logger.backend
  todo_eq : logger.todo = []
  refines : Refines platform count late logger

namespace Ending

variable {platform : Platform} {count capacity : Nat} {late : LateLogger}
  {start before after logger : AsyncLogger} {label : LoggerLabel}

theorem step (ending : Ending platform count capacity late before)
    (small : capacity < 2 ^ 63) (isEmpty : late.backlog = [])
    (calm : label.calm = true)
    (stepped : LoggerStep platform before label after) :
    Ending platform count capacity late after := by
  obtain ⟨client, settles, todo_eq, refines⟩ := ending
  have nothing : after.todo = [] := by
    cases stepped with
    | filtered | setLevel | setPattern => simp [advance, todo_eq]
    | backend permitted stepped =>
        unfold settle
        split <;> simp [advance, todo_eq]
  refine ⟨client.step stepped, client.settles small settles stepped, nothing,
    ?_⟩
  rcases refines.step client settles calm stepped with
    ⟨still, _⟩ | ⟨lateLabel, next, lateStepped, _, more⟩
  · exact still
  · exfalso
    cases lateLabel with
    | write => simp [LateLogger.step, LateLogger.write, isEmpty] at lateStepped
    | call command =>
        have sofar := after.committed_prefix.length_le
        have outside := client.notLogging (by simp [todo_eq]) ()
        rw [more, program_step stepped] at sofar
        simp [committed, outside, program, todo_eq, LateLabel.command?]
          at sofar

/-- The logger can be destroyed, and nothing more is written. -/
theorem reaches_done (ending : Ending platform count capacity late logger)
    (positive : 0 < capacity) (small : capacity < 2 ^ 63)
    (isEmpty : late.backlog = []) :
    (loggerMachine platform start).Reaches Calm logger fun last =>
      last.backend.stopper = .done ∧
      last.backend.output.received = List.replicate count late.lines := by
  have preserved : (loggerMachine platform start).Preserves
      (fun _ label => label.calm = true ∧ label.spurious = false)
      (Ending platform count capacity late) :=
    fun _ _ _ stepped admitted ending =>
      ending.step small isEmpty admitted.1 (.of_step stepped)
  obtain ⟨labels, last, run, stuck⟩ := Machine.exists_run_stuck preserved
    (fun _ _ _ stepped admitted ending =>
      ending.client.pays admitted.2 (.of_step stepped)) logger ending
  have arrived := run.invariant preserved ending
  refine ⟨labels, last, run.weaken fun _ _ => And.left, ?_,
    arrived.refines.received⟩
  by_contra unfinished
  have moves : Client.Moves platform last :=
    arrived.client.moves positive unfinished
  obtain ⟨label, calm, deliberate, enabled⟩ := moves
  have refused := stuck label ⟨calm, deliberate⟩
  simp only [loggerMachine] at refused
  simp [refused] at enabled

end Ending

/-- An asynchronous logger whose worker serves can come to its destruction
with these lines in each of its sinks. -/
def Writes (platform : Platform) (recordSize : Nat) (config : Config)
    (count : Nat) (program : List Command) (lines : List Text) : Prop :=
  ∃ start labels logger,
    Built platform Construction.ChecksInitialized recordSize config
      (List.replicate count {}) program start ∧
    (loggerMachine platform start).Run Calm start labels logger ∧
    logger.backend.stopper = .done ∧
    logger.backend.output.received = List.replicate count lines

theorem late_of_writes {platform : Platform} {recordSize : Nat}
    {config : Config} (positive : 0 < config.queueCapacity)
    (blocks : config.overflowPolicy = .block) {count : Nat}
    (someSink : 0 < count) {program : List Command} {lines : List Text}
    (writes : Writes platform recordSize config count program lines) :
    LateLogger.Writes platform config program lines := by
  obtain ⟨start, labels, logger, built, run, destroyed, received⟩ := writes
  have mirrors := Mirrors.of_run positive blocks built run
  obtain ⟨lateLabels, late, lateRun, shown, refines⟩ := mirrors.shown
  obtain ⟨all, nothing⟩ := mirrors.destroyed destroyed
  refine ⟨lateLabels, late, lateRun, shown.symm.trans all, ?_, ?_⟩
  · rw [← refines.backlog, nothing]
    rfl
  · rw [refines.received] at received
    exact List.replicate_right_injective (by omega) received

/-- The late logger writes what the asynchronous one can write. -/
theorem writes_of_late {platform : Platform} {recordSize : Nat}
    {config : Config} (positive : 0 < config.queueCapacity)
    (room : config.queueCapacity ≤ vectorMaxSize recordSize)
    (blocks : config.overflowPolicy = .block) (count : Nat)
    {program : List Command} {lines : List Text}
    (writes : LateLogger.Writes platform config program lines) :
    Writes platform recordSize config count program lines := by
  obtain ⟨lateLabels, late, lateRun, rfl, isEmpty, rfl⟩ := writes
  let start := fresh config (List.replicate count {})
    (lateLabels.filterMap LateLabel.command?)
  have built : Built platform Construction.ChecksInitialized recordSize config
      (List.replicate count {}) (lateLabels.filterMap LateLabel.command?)
      start := .of_fresh room ⟨true, 0, 0⟩
  have rests : Rests platform count config.queueCapacity
      (lateLabels.filterMap LateLabel.command? ++ []) (.make config)
      .checking start :=
    ⟨.start positive blocks _ _, .start config _, (List.append_nil _).symm,
      rfl, rfl, rfl, rfl⟩
  obtain ⟨labels, logger, run, destroyed, received⟩ :
      (loggerMachine platform start).Reaches Calm start fun last =>
        last.backend.stopper = .done ∧
        last.backend.output.received = List.replicate count late.lines := by
    refine rests.check.bind fun first atCall => ?_
    refine (atCall.follow_run positive lateRun).bind fun last arrived => ?_
    rw [AtCall, if_pos isEmpty] at arrived
    have settles : Settles config.queueCapacity last.backend := by
      simp [Settles, arrived.flusher, Settling]
    have ending : Ending platform count config.queueCapacity late last :=
      ⟨arrived.client, settles, arrived.todo_eq, arrived.refines⟩
    exact ending.reaches_done positive built.room_lt isEmpty
  exact ⟨start, labels, logger, built, run, destroyed, received⟩

/-- The lines an asynchronous logger can write for a program, if its worker
serves and nothing throws, are exactly those on its schedule.  What the
synchronous logger writes is among them. -/
theorem writes_iff_on_schedule {platform : Platform} {recordSize : Nat}
    {config : Config} (positive : 0 < config.queueCapacity)
    (room : config.queueCapacity ≤ vectorMaxSize recordSize)
    (blocks : config.overflowPolicy = .block) {count : Nat}
    (someSink : 0 < count) (program : List Command) :
    (∀ lines, Writes platform recordSize config count program lines ↔
      ∃ written, Schedule.Permits platform
        (Schedule.of config program).patterns
        (Schedule.of config program).drafts written ∧
        written.map Prod.snd = lines) ∧
    Writes platform recordSize config count program
      (transcript platform config.level config.pattern program) := by
  constructor
  · intro lines
    rw [← LateLogger.writes_iff]
    exact ⟨late_of_writes positive blocks someSink,
      writes_of_late positive room blocks count⟩
  · exact writes_of_late positive room blocks count
      (LateLogger.writes_transcript program)

/-- The first record can get the second pattern, or even the third, because
the flush comes after both. -/
theorem writes_iff_on_schedule_late :
    let config : Config := { pattern := ['%', 'm'], queueCapacity := 1 }
    let program : List Command :=
      [.log .info { message := ['a'] }, .setPattern ['1', '%', 'm'],
        .log .debug { message := ['x'] }, .log .warn { message := ['b'] },
        .setPattern ['2', '%', 'm'], .flush, .setPattern ['3', '%', 'm'],
        .log .info { message := ['c'] }]
    Writes .epoch 128 config 2 program
        [['1', 'a', '\n'], ['2', 'b', '\n'], ['3', 'c', '\n']] ∧
      Writes .epoch 128 config 2 program
        [['2', 'a', '\n'], ['2', 'b', '\n'], ['3', 'c', '\n']] ∧
      ¬ Writes .epoch 128 config 2 program
        [['1', 'a', '\n'], ['3', 'b', '\n'], ['3', 'c', '\n']] := by
  intro config program
  have schedule (lines : List Text) :
      Writes .epoch 128 config 2 program lines ↔ _ :=
    (writes_iff_on_schedule (by decide) (by decide) rfl (by decide)
      program).1 lines
  have drafts : (Schedule.of config program).drafts =
      [{ record := { message := ['a'] }, earliest := 0, latest := 2,
         room := 0 },
       { record := { message := ['b'] }, earliest := 1, latest := 2,
         room := 0 },
       { record := { message := ['c'] }, earliest := 3, latest := 3,
         room := 2 }] := by
    decide
  have patterns : (Schedule.of config program).patterns =
      [['%', 'm'], ['1', '%', 'm'], ['2', '%', 'm'], ['3', '%', 'm']] := by
    decide
  have written {record : LogRecord} {pattern line : Text}
      (rendered : (Formatter.make pattern).render .epoch record = line) :
      line = meaning .epoch record pattern ++ ['\n'] :=
    rendered.symm.trans (Formatter.render_make .epoch record pattern)
  rw [drafts, patterns] at schedule
  refine ⟨(schedule _).mpr ⟨[(1, _), (2, _), (3, _)], ⟨?_, by decide⟩, rfl⟩,
    (schedule _).mpr ⟨[(2, _), (2, _), (3, _)], ⟨?_, by decide⟩, rfl⟩, ?_⟩
  · exact .cons ⟨by decide, by decide, _, rfl, written (by decide)⟩
      (.cons ⟨by decide, by decide, _, rfl, written (by decide)⟩
        (.cons ⟨by decide, by decide, _, rfl, written (by decide)⟩ .nil))
  · exact .cons ⟨by decide, by decide, _, rfl, written (by decide)⟩
      (.cons ⟨by decide, by decide, _, rfl, written (by decide)⟩
        (.cons ⟨by decide, by decide, _, rfl, written (by decide)⟩ .nil))
  · rw [schedule]
    rintro ⟨chosen, ⟨allowed, _⟩, lines⟩
    rcases allowed with _ | ⟨_, _ | ⟨⟨earliest, latest, pattern, isPattern,
      text⟩, _⟩⟩
    rename_i first second rest _ _
    obtain ⟨index, line⟩ := second
    have isLine : line = ['3', 'b', '\n'] := by
      simp only [List.map_cons, List.cons.injEq] at lines
      exact lines.2.1
    have isIndex : index = 1 ∨ index = 2 := by
      simp only at earliest latest
      omega
    rcases isIndex with rfl | rfl
    · obtain rfl : ['1', '%', 'm'] = pattern := Option.some.inj isPattern
      have other : ['1', 'b', '\n'] = line :=
        (written (by decide)).trans text.symm
      rw [isLine] at other
      exact absurd other (by decide)
    · obtain rfl : ['2', '%', 'm'] = pattern := Option.some.inj isPattern
      have other : ['2', 'b', '\n'] = line :=
        (written (by decide)).trans text.symm
      rw [isLine] at other
      exact absurd other (by decide)

end AsyncLogger

end LogParse
