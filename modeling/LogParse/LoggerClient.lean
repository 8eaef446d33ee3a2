import LogParse.AsyncProgress
import LogParse.BuiltLogger

/-!
# One client of an asynchronous logger

The client is at one call at a time, so the backend has at most one producer
and one caller of `flush`, and never both.  Such a client gives every promise
the theorems on the backend ask of its threads, and its `flush` waits for
everything: between the processed and the submitted records there is never
more than the queue and the worker hold.
-/

namespace LogParse

namespace AsyncBackend

variable {ι κ ρ ε φ : Type} [DecidableEq ι] [DecidableEq κ]
  {backend : AsyncBackend ι κ ρ ε}

omit [DecidableEq ι] [DecidableEq κ] in
theorem Accounts.replaceOutput (accounts : backend.Accounts) (output : ε) :
    ({ backend with output := output } : AsyncBackend ι κ ρ ε).Accounts :=
  ⟨accounts.sound, accounts.submission, accounts.delivery,
    accounts.processed_eq, accounts.submitted_eq, accounts.comparing⟩

omit [DecidableEq ι] [DecidableEq κ] in
theorem Watched.replaceOutput (watched : backend.Watched) (output : ε) :
    ({ backend with output := output } : AsyncBackend ι κ ρ ε).Watched :=
  ⟨watched.accounts.replaceOutput output, watched.running, watched.serving,
    watched.locked, watched.watch⟩

omit [DecidableEq ι] [DecidableEq κ] in
theorem Draining.replaceOutput (draining : backend.Draining) (output : ε) :
    ({ backend with output := output } : AsyncBackend ι κ ρ ε).Draining :=
  ⟨draining.accounts.replaceOutput output, draining.stopping,
    draining.leaving, draining.drained, draining.final⟩

omit [DecidableEq ι] [DecidableEq κ] in
theorem Blocking.replaceOutput {capacity : Nat}
    (blocking : backend.Blocking capacity) (output : ε) :
    ({ backend with output := output } :
      AsyncBackend ι κ ρ ε).Blocking capacity :=
  ⟨blocking.capacity_eq, blocking.policy_eq, blocking.kept, blocking.closed,
    blocking.joined, blocking.held⟩

/-- The records that were accepted and are not written. -/
def unwritten (backend : AsyncBackend ι κ ρ ε) : List (Ticketed ρ) :=
  backend.worker.unwritten ++ backend.custody.queue.contents

omit [DecidableEq κ] in
omit [DecidableEq ι] in
/-- Nothing is unwritten when as many records are processed as were
submitted, nobody being inside `log`. -/
theorem Accounts.unwritten_eq_nil (accounts : backend.Accounts)
    (outside : ∀ producer, backend.producers producer = .outside)
    (all : backend.counted.length ≤ backend.finished.length) :
    backend.unwritten = [] := by
  have balance := accounts.conservation
  have submitted := accounts.submission.length_eq outside
  have noneHeld : backend.worker.unwritten.length = 0 := by omega
  have noneQueued : backend.custody.queue.contents.length = 0 := by omega
  rw [unwritten, List.length_eq_zero_iff.mp noneHeld,
    List.length_eq_zero_iff.mp noneQueued]
  rfl

omit [DecidableEq ι] [DecidableEq κ] in
theorem Draining.unwritten_eq_nil (draining : backend.Draining)
    (returned : backend.worker = .returned) : backend.unwritten = [] := by
  rw [unwritten, draining.drained (Or.inr returned), returned]
  rfl

end AsyncBackend

/-- The worker holds one record at most. -/
theorem Worker.holds_le_one {ρ : Type} (worker : Worker ρ) :
    worker.uncounted.length + worker.unwritten.length ≤ 1 := by
  cases worker <;> simp [Worker.uncounted, Worker.unwritten]

namespace AsyncLogger

/-- Where the backend is, the client is too. -/
structure Client (capacity : Nat) (logger : AsyncLogger) : Prop where
  watched : logger.backend.Watched
  draining : logger.backend.Draining
  blocking : logger.backend.Blocking capacity
  logging : ∀ ticket, logger.backend.producers () = .submitting ticket →
    ∃ level record rest, logger.todo = .log level record :: rest ∧
      level.lt logger.mLevel = false
  flushing : logger.backend.flushers () ≠ .outside →
    ∃ rest, logger.todo = .flush :: rest
  ended : logger.backend.stopper ≠ .outside → logger.todo = []

namespace Client

variable {platform : Platform} {capacity : Nat}
  {before after logger : AsyncLogger} {label : LoggerLabel}
  {backendLabel : AsyncLabel Unit Unit LogRecord EmitFault}
  {backend : AsyncBackend Unit Unit LogRecord Output}

theorem unstopped (client : logger.Client capacity)
    (busy : logger.todo ≠ []) : logger.backend.stopper = .outside := by
  by_contra stopped
  exact busy (client.ended stopped)

theorem notLogging (client : logger.Client capacity)
    (elsewhere : ∀ level record rest,
      logger.todo = .log level record :: rest →
        level.lt logger.mLevel = true) (producer : Unit) :
    logger.backend.producers producer = .outside := by
  by_contra inside
  cases place : logger.backend.producers producer with
  | outside => exact inside place
  | submitting ticket =>
      obtain ⟨level, record, rest, next, above⟩ :=
        client.logging ticket place
      simp [elsewhere level record rest next] at above

theorem notFlushing (client : logger.Client capacity)
    (elsewhere : ∀ rest, logger.todo ≠ .flush :: rest) (caller : Unit) :
    logger.backend.flushers caller = .outside := by
  by_contra inside
  obtain ⟨rest, next⟩ := client.flushing inside
  exact elsewhere rest next

theorem unlocked (client : logger.Client capacity)
    (free : (logger.backend.flushers ()).holdsMutex = false) :
    logger.backend.mFlushMutex = none := by
  cases mutex : logger.backend.mFlushMutex with
  | none => rfl
  | some caller =>
      have holds := client.blocking.held caller mutex
      rw [free] at holds
      simp at holds

/-- While the client has calls to make, its records are not refused. -/
theorem notRefused (client : logger.Client capacity)
    (busy : logger.todo ≠ []) {record : LogRecord}
    {custody : Custody LogRecord} :
    logger.backend.custody.push record ≠ some (false, custody) := by
  intro pushed
  obtain ⟨refuses, _⟩ := client.watched.accounts.sound.refused pushed
  have closed : logger.backend.custody.queue.mShutdown = true := by
    simpa [Queue.accepts, client.blocking.policy_eq] using refuses
  have stopped := client.blocking.closed.mp closed
  rw [client.unstopped busy] at stopped
  simp at stopped

/-- The client calls `log` only before it stops the backend, and stops it
only when no `log` is under way. -/
theorem orderly (client : before.Client capacity)
    (permitted : before.permits backendLabel = true) :
    before.backend.Orderly backendLabel := by
  constructor
  · intro isPush
    cases backendLabel <;> simp [AsyncLabel.isLogPush] at isPush
    obtain ⟨level, rest, next, _⟩ := permits_logPush permitted
    exact client.watched.running (client.unstopped (by simp [next]))
  · intro isStop
    cases backendLabel <;> simp [AsyncLabel.isStopBegin] at isStop
    have nothing : before.todo = [] := by
      simpa [permits] using permitted
    exact client.notLogging (by simp [nothing])

/-- Nobody waits in `flush` while the client counts a record. -/
theorem timely (client : before.Client capacity)
    (stepped : AsyncStep (Output.emitter platform) before.backend
      backendLabel backend) :
    before.backend.TimelyCount backendLabel := by
  intro isCount _
  right
  intro caller
  cases stepped <;> simp [AsyncLabel.isLogCount] at isCount
  rename_i submitting
  obtain ⟨level, record, rest, next, _⟩ := client.logging _ submitting
  rw [client.notFlushing (by simp [next])]
  rfl

/-- The client is where it was. -/
theorem stay (client : before.Client capacity) (watched : backend.Watched)
    (draining : backend.Draining) (blocking : backend.Blocking capacity)
    (producer : backend.producers () = before.backend.producers ())
    (flusher : backend.flushers () ≠ .outside →
      before.backend.flushers () ≠ .outside)
    (stopper : backend.stopper ≠ .outside →
      before.backend.stopper ≠ .outside) :
    ({ before with backend := backend } : AsyncLogger).Client capacity where
  watched := watched
  draining := draining
  blocking := blocking
  logging ticket submitting :=
    client.logging ticket (producer ▸ submitting)
  flushing inside := client.flushing (flusher inside)
  ended stopped := client.ended (stopper stopped)

/-- The client's call has returned. -/
theorem leave {next : AsyncLogger} (watched : next.backend.Watched)
    (draining : next.backend.Draining)
    (blocking : next.backend.Blocking capacity)
    (producer : next.backend.producers () = .outside)
    (flusher : next.backend.flushers () = .outside)
    (stopper : next.backend.stopper = .outside) : next.Client capacity where
  watched := watched
  draining := draining
  blocking := blocking
  logging ticket submitting := by
    rw [producer] at submitting
    simp at submitting
  flushing inside := absurd flusher inside
  ended stopped := absurd stopper stopped

theorem stepBackend (client : before.Client capacity)
    (permitted : before.permits backendLabel = true)
    (stepped : AsyncStep (Output.emitter platform) before.backend
      backendLabel backend) :
    (before.settle backendLabel backend).Client capacity := by
  have watched := client.watched.step (client.timely stepped) stepped
  have draining := client.draining.step (client.orderly permitted) stepped
  have blocking := client.blocking.step client.watched stepped
  cases stepped with
  | logAccepted outside pushed =>
      obtain ⟨level, rest, next, above⟩ := permits_logPush permitted
      rw [settle_unfinished (by simp [finishes])]
      refine ⟨watched, draining, blocking, ?_, client.flushing,
        client.ended⟩
      intro ticket _
      exact ⟨level, _, rest, next, above⟩
  | logRefused outside pushed =>
      obtain ⟨level, rest, next, above⟩ := permits_logPush permitted
      exact absurd pushed (client.notRefused (by simp [next]))
  | logCount submitting =>
      obtain ⟨level, record, rest, next, _⟩ := client.logging _ submitting
      rw [settle_finished rfl]
      exact leave watched draining blocking (by simp)
        (client.notFlushing (by simp [next]) ())
        (client.unstopped (by simp [next]))
  | flushEnter outside =>
      obtain ⟨rest, next⟩ := permits_flushEnter permitted
      rw [settle_unfinished rfl]
      exact ⟨watched, draining, blocking, client.logging,
        fun _ => ⟨rest, next⟩, client.ended⟩
  | flushReturn passed =>
      obtain ⟨rest, next⟩ := client.flushing (by simp [passed])
      rw [settle_finished rfl]
      exact leave watched draining blocking
        (client.notLogging (by simp [next]) ())
        (by simp [AsyncBackend.placeFlusher])
        (client.unstopped (by simp [next]))
  | flushLock entering unlocked =>
      rw [settle_unfinished rfl]
      exact client.stay watched draining blocking rfl
        (fun _ => by simp [entering]) id
  | flushLoadProcessed testing | flushLoadSubmitted testing
  | flushPass testing equal | flushSleep testing unequal =>
      rw [settle_unfinished rfl]
      exact client.stay watched draining blocking rfl
        (fun _ => by simp [testing]) id
  | flushSpurious asleep =>
      rw [settle_unfinished rfl]
      exact client.stay watched draining blocking rfl
        (fun _ => by simp [asleep]) id
  | workerNotify notifying unlocked =>
      rw [settle_unfinished rfl]
      refine client.stay watched draining blocking rfl ?_ id
      intro inside outside
      simp [outside, FlushCall.wake] at inside
  | stopBegin | stopAgain =>
      have nothing : before.todo = [] := by
        simpa [permits] using permitted
      rw [settle_unfinished rfl]
      exact ⟨watched, draining, blocking, client.logging, client.flushing,
        fun _ => nothing⟩
  | stopShutdown shuttingDown =>
      rw [settle_unfinished rfl]
      exact client.stay watched draining blocking rfl id
        (fun _ => by simp [shuttingDown])
  | stopJoin joining returned =>
      rw [settle_unfinished rfl]
      exact client.stay watched draining blocking rfl id
        (fun _ => by simp [joining])
  | workerCheck | workerPop | workerMiss | workerDrained | workerWrite
  | workerServed | workerDraining | workerEqual | workerUnequal
  | workerFlush =>
      rw [settle_unfinished rfl]
      exact client.stay watched draining blocking rfl id id

theorem step (client : before.Client capacity)
    (stepped : LoggerStep platform before label after) :
    after.Client capacity := by
  cases stepped with
  | filtered next below =>
      exact leave client.watched client.draining client.blocking
        (client.notLogging (by simp [next, below]) ())
        (client.notFlushing (by simp [next]) ())
        (client.unstopped (by simp [next]))
  | setLevel next =>
      exact leave client.watched client.draining client.blocking
        (client.notLogging (by simp [next]) ())
        (client.notFlushing (by simp [next]) ())
        (client.unstopped (by simp [next]))
  | setPattern next =>
      exact leave (client.watched.replaceOutput _)
        (client.draining.replaceOutput _) (client.blocking.replaceOutput _)
        (client.notLogging (by simp [next]) ())
        (client.notFlushing (by simp [next]) ())
        (client.unstopped (by simp [next]))
  | backend permitted stepped => exact client.stepBackend permitted stepped

theorem start {config : Config} (positive : 0 < config.queueCapacity)
    (blocks : config.overflowPolicy = .block) (sinks : List Sink)
    (program : List Command) :
    (fresh config sinks program).Client config.queueCapacity := by
  simp only [fresh, blocks]
  exact ⟨.start .block positive _, .start .block positive _, .start _ _,
    by simp [make, AsyncBackend.make], by simp [make, AsyncBackend.make],
    by simp [make, AsyncBackend.make]⟩

end Client

/-- What a caller of `flush` has loaded is not older than what the queue and
the worker can hold, and nothing is left behind when it has passed. -/
def Settling (capacity counted finished : Nat) : FlushCall → Prop
  | .testing _ processed submitted =>
      (∀ loaded ∈ processed, ∃ seen ≤ finished,
        loaded.value = UInt64.ofNat seen ∧ counted ≤ seen + capacity + 1) ∧
      ∀ loaded ∈ submitted, loaded.value = UInt64.ofNat counted
  | .passed _ => counted ≤ finished
  | .outside | .entering _ | .asleep _ => True

/-- The client's `flush` is settling. -/
def Settles (capacity : Nat)
    (backend : AsyncBackend Unit Unit LogRecord Output) : Prop :=
  Settling capacity backend.counted.length backend.finished.length
    (backend.flushers ())

namespace Settling

variable {capacity counted finished later : Nat} {call : FlushCall}

theorem mono (settling : Settling capacity counted finished call)
    (grown : finished ≤ later) : Settling capacity counted later call := by
  cases call with
  | testing due processed submitted =>
      refine ⟨?_, settling.2⟩
      intro loaded isLoaded
      obtain ⟨seen, isFinished, value, near⟩ := settling.1 loaded isLoaded
      exact ⟨seen, isFinished.trans grown, value, near⟩
  | passed due => exact Nat.le_trans settling grown
  | outside | entering due | asleep due => trivial

theorem wake (settling : Settling capacity counted finished call) :
    Settling capacity counted finished call.wake := by
  cases call <;> exact settling

/-- Equal counters mean equal numbers, because the numbers are close. -/
theorem pass {due : List Nat} {processed submitted : Loaded}
    (settling : Settling capacity counted finished
      (.testing due (some processed) (some submitted)))
    (small : capacity < 2 ^ 63)
    (equal : processed.value = submitted.value) : counted ≤ finished := by
  obtain ⟨seen, isFinished, value, near⟩ := settling.1 processed rfl
  rw [value, settling.2 submitted rfl, ← UInt64.toNat_inj,
    UInt64.toNat_ofNat', UInt64.toNat_ofNat'] at equal
  omega

end Settling

namespace Client

variable {platform : Platform} {capacity : Nat}
  {before after logger : AsyncLogger} {label : LoggerLabel}
  {backendLabel : AsyncLabel Unit Unit LogRecord EmitFault}
  {backend : AsyncBackend Unit Unit LogRecord Output}

/-- The submitted records that are not processed fit into the queue and the
worker's hands. -/
theorem backlog (client : logger.Client capacity)
    (outside : ∀ producer, logger.backend.producers producer = .outside) :
    logger.backend.counted.length ≤
      logger.backend.finished.length + capacity + 1 := by
  have balance := client.watched.accounts.conservation
  have submitted :=
    client.watched.accounts.submission.length_eq outside
  have formed := client.watched.accounts.sound.formed
  have queued : logger.backend.custody.queue.contents.length ≤ capacity := by
    rw [formed.length_contents, ← client.blocking.capacity_eq]
    exact formed.size_le
  have held := logger.backend.worker.holds_le_one
  rw [client.blocking.kept, List.length_nil] at balance
  omega

theorem settleBackend (client : before.Client capacity)
    (small : capacity < 2 ^ 63)
    (settles : Settles capacity before.backend)
    (stepped : AsyncStep (Output.emitter platform) before.backend
      backendLabel backend) :
    Settles capacity backend := by
  have outside (inside : before.backend.flushers () ≠ .outside) :
      ∀ producer, before.backend.producers producer = .outside := by
    obtain ⟨rest, next⟩ := client.flushing inside
    exact client.notLogging (by simp [next])
  cases stepped with
  | logCount submitting =>
      obtain ⟨level, record, rest, next, _⟩ := client.logging _ submitting
      have notFlushing := client.notFlushing (by simp [next]) ()
      simp [Settles, notFlushing, Settling]
  | workerServed counting | workerDraining counting =>
      exact settles.mono (by simp)
  | workerNotify notifying unlocked => exact settles.wake
  | flushEnter notFlushing =>
      simp [Settles, AsyncBackend.placeFlusher, Settling]
  | flushLock entering unlocked =>
      simp [Settles, AsyncBackend.placeFlusher, Settling]
  | flushLoadProcessed testing =>
      have near := client.backlog (outside (by simp [testing]))
      simp only [Settles, testing] at settles
      simp only [Settles, AsyncBackend.placeFlusher, Function.update_self]
      refine ⟨?_, settles.2⟩
      rintro loaded ⟨⟩
      exact ⟨_, Nat.le_refl _, client.watched.accounts.processed_eq, near⟩
  | flushLoadSubmitted testing =>
      simp only [Settles, testing] at settles
      simp only [Settles, AsyncBackend.placeFlusher, Function.update_self]
      refine ⟨settles.1, ?_⟩
      rintro loaded ⟨⟩
      exact client.watched.accounts.submitted_eq
  | flushPass testing equal =>
      simp only [Settles, testing] at settles
      simp only [Settles, AsyncBackend.placeFlusher, Function.update_self]
      exact settles.pass small equal
  | flushSleep testing unequal =>
      simp [Settles, AsyncBackend.placeFlusher, Settling]
  | flushSpurious asleep =>
      simp [Settles, AsyncBackend.placeFlusher, Settling]
  | flushReturn passed =>
      simp [Settles, AsyncBackend.placeFlusher, Settling]
  | logAccepted | logRefused | workerCheck | workerPop | workerMiss
  | workerDrained | workerWrite | workerEqual | workerUnequal | workerFlush
  | stopBegin | stopAgain | stopShutdown | stopJoin => exact settles

theorem settles (client : before.Client capacity)
    (small : capacity < 2 ^ 63)
    (settles : Settles capacity before.backend)
    (stepped : LoggerStep platform before label after) :
    Settles capacity after.backend := by
  cases stepped with
  | filtered next below | setLevel next | setPattern next => exact settles
  | backend permitted stepped =>
      rw [settle_backend]
      exact client.settleBackend small settles stepped

/-- A client that has passed the wait has left nothing behind. -/
theorem passed (client : logger.Client capacity)
    (settles : Settles capacity logger.backend) {due : List Nat}
    (passed : logger.backend.flushers () = .passed due) :
    logger.backend.unwritten = [] := by
  obtain ⟨rest, next⟩ := client.flushing (by simp [passed])
  simp only [Settles, passed] at settles
  exact client.watched.accounts.unwritten_eq_nil
    (client.notLogging (by simp [next])) settles

/-- Some step is enabled that is neither a spurious wakeup nor an
exception. -/
def Moves (platform : Platform) (logger : AsyncLogger) : Prop :=
  ∃ label : LoggerLabel, label.calm = true ∧ label.spurious = false ∧
    (logger.step platform label).isSome = true

theorem moves_backend
    (backendLabel : AsyncLabel Unit Unit LogRecord EmitFault)
    (permitted : logger.permits backendLabel = true)
    (calm : (LoggerLabel.backend backendLabel).calm = true)
    (deliberate : (LoggerLabel.backend backendLabel).spurious = false)
    (enabled : (logger.backend.step (Output.emitter platform)
      backendLabel).isSome = true) :
    Moves platform logger := by
  refine ⟨.backend backendLabel, calm, deliberate, ?_⟩
  simpa [AsyncLogger.step, permitted] using enabled

theorem moves_worker
    (enabled : (logger.backend.step (Output.emitter platform)
      (logger.backend.worker.next Unit Unit {})).isSome = true) :
    Moves platform logger := by
  cases place : logger.backend.worker <;> rw [place] at enabled <;>
    exact moves_backend _ rfl rfl rfl enabled

theorem moves_log (client : logger.Client capacity)
    (positive : 0 < capacity) {level : Level} {record : LogRecord}
    {rest : List Command} (next : logger.todo = .log level record :: rest) :
    Moves platform logger := by
  cases below : level.lt logger.mLevel with
  | true =>
      exact ⟨.call, rfl, rfl, by simp [AsyncLogger.step, call, next, below]⟩
  | false =>
      cases producer : logger.backend.producers () with
      | submitting ticket =>
          apply moves_backend (.logCount ()) rfl rfl rfl
          simp [AsyncBackend.step, AsyncBackend.logCount, producer]
      | outside =>
          by_cases empty : logger.backend.custody.queue.contents = []
          · refine moves_backend (.logPush () record) ?_ rfl rfl
              (client.blocking.logPush_enabled client.watched.accounts
                positive producer record empty)
            simp [permits, next, below]
          · have notFlushing := client.notFlushing (by simp [next]) ()
            have running :=
              client.watched.running (client.unstopped (by simp [next]))
            have serving := client.watched.serving running
            apply moves_worker
            apply AsyncBackend.worker_moves client.watched.accounts _ _ ?_
              (client.unlocked (by simp [notFlushing, FlushCall.holdsMutex]))
              (fun _ _ => Or.inl empty)
            intro returned
            simp [returned, Worker.leftServing] at serving

theorem moves_flusher (inside : logger.backend.flushers () ≠ .outside)
    (awake : ∀ due, logger.backend.flushers () ≠ .asleep due)
    (unlocked : ∀ due, logger.backend.flushers () = .entering due →
      logger.backend.mFlushMutex = none) : Moves platform logger := by
  have enabled := AsyncBackend.flusher_moves (Output.emitter platform) ()
    awake unlocked
  cases place : logger.backend.flushers () with
  | outside => exact absurd place inside
  | asleep due => exact absurd place (awake due)
  | entering due | passed due =>
      rw [place] at enabled
      exact moves_backend _ rfl rfl rfl enabled
  | testing due processed submitted =>
      rw [place] at enabled
      cases processed with
      | none => exact moves_backend _ rfl rfl rfl enabled
      | some processed =>
          cases submitted with
          | none => exact moves_backend _ rfl rfl rfl enabled
          | some submitted => exact moves_backend _ rfl rfl rfl enabled

theorem moves_flush (client : logger.Client capacity) {rest : List Command}
    (next : logger.todo = .flush :: rest) : Moves platform logger := by
  cases place : logger.backend.flushers () with
  | outside =>
      refine moves_backend (.flushEnter ()) ?_ rfl rfl ?_
      · simp [permits, next]
      · simp [AsyncBackend.step, AsyncBackend.flushEnter, place]
  | asleep due =>
      have running :=
        client.watched.running (client.unstopped (by simp [next]))
      apply moves_worker
      exact AsyncBackend.worker_moves_for_sleeper client.watched _ _ place
        running (client.notLogging (by simp [next])) client.blocking.kept
        (client.unlocked (by simp [place, FlushCall.holdsMutex]))
  | entering due | testing due processed submitted | passed due =>
      apply moves_flusher (by simp [place]) (by simp [place])
      intro _ entering
      exact client.unlocked (by simp [entering, FlushCall.holdsMutex])

theorem moves_stop (client : logger.Client capacity)
    (nothing : logger.todo = [])
    (unfinished : logger.backend.stopper ≠ .done) :
    Moves platform logger := by
  have notFlushing := client.notFlushing (by simp [nothing]) ()
  cases place : logger.backend.stopper with
  | outside =>
      refine moves_backend .stopBegin ?_ rfl rfl ?_
      · simp [permits, nothing]
      · simp [AsyncBackend.step, AsyncBackend.stopBegin, place,
          client.watched.running place]
  | shuttingDown =>
      apply moves_backend .stopShutdown rfl rfl rfl
      simp [AsyncBackend.step, AsyncBackend.stopShutdown, place]
  | joining =>
      by_cases returned : logger.backend.worker = .returned
      · apply moves_backend .stopJoin rfl rfl rfl
        simp [AsyncBackend.step, AsyncBackend.stopJoin, place, returned]
      · have closed := client.blocking.closed.mpr (Or.inl place)
        apply moves_worker
        exact AsyncBackend.worker_moves client.watched.accounts _ _ returned
          (client.unlocked (by simp [notFlushing, FlushCall.holdsMutex]))
          (fun _ _ => Or.inr closed)
  | done => exact absurd place unfinished

/-- Client and worker are never both stuck before the logger is
destroyed. -/
theorem moves (client : logger.Client capacity) (positive : 0 < capacity)
    (unfinished : logger.backend.stopper ≠ .done) :
    Moves platform logger := by
  cases next : logger.todo with
  | nil => exact client.moves_stop next unfinished
  | cons command rest =>
      cases command with
      | log level record => exact client.moves_log positive next
      | flush => exact client.moves_flush next
      | setLevel level =>
          exact ⟨.call, rfl, rfl, by simp [AsyncLogger.step, call, next]⟩
      | setPattern pattern =>
          exact ⟨.call, rfl, rfl, by simp [AsyncLogger.step, call, next]⟩

end Client

end AsyncLogger

end LogParse
