import LogParse.LoggerClient
import Mathlib.Algebra.Order.BigOperators.Group.List
import Mathlib.Algebra.Order.Group.Nat

/-!
# A client of an asynchronous logger comes to its end

Client and worker together take a number of steps that the length of the
program bounds, spurious wakeups aside, whatever throws and however they
interleave.  Every record pays in advance for its way through the worker and
for the caller of `flush` it may wake.
-/

namespace LogParse

/-- A call that has not begun. -/
def Command.cost : Command → Nat
  | .log _ _ => 13
  | .flush => 6
  | .setLevel _ | .setPattern _ => 1

theorem Command.cost_le (command : Command) : command.cost ≤ 13 := by
  cases command <;> simp [Command.cost]

def LogCall.cost : LogCall → Nat
  | .outside => 0
  | .submitting _ => 1

/-- A sleeping caller takes no step until a record that is paid for wakes
it. -/
def FlushCall.cost : FlushCall → Nat
  | .outside | .asleep _ => 0
  | .entering _ => 5
  | .testing _ none none => 4
  | .testing _ (some _) none | .testing _ none (some _) => 3
  | .testing _ (some _) (some _) => 2
  | .passed _ => 1

def Worker.cost {ρ : Type} (isRunning : Bool) : Worker ρ → Nat
  | .writing .serving _ => 14
  | .counting .serving _ => 13
  | .comparing _ => 12
  | .notifying => 11
  | .checking => if isRunning then 5 else 3
  | .popping .serving | .writing .draining _ => 4
  | .counting .draining _ => 3
  | .popping .draining => 2
  | .flushing => 1
  | .returned => 0

def StopCall.cost : StopCall → Nat
  | .outside => 3
  | .shuttingDown => 2
  | .joining => 1
  | .done => 0

theorem FlushCall.cost_wake (call : FlushCall) :
    call.wake.cost ≤ call.cost + 5 := by
  cases call <;> simp [FlushCall.wake, FlushCall.cost]

theorem FlushCall.wake_eq_outside {call : FlushCall} :
    call.wake = .outside ↔ call = .outside := by
  cases call <;> simp [FlushCall.wake]

/-- The backend, with eleven steps for each record in the queue. -/
def backendCost (backend : AsyncBackend Unit Unit LogRecord Output) : Nat :=
  (backend.producers ()).cost + (backend.flushers ()).cost +
    11 * backend.custody.queue.contents.length +
    backend.worker.cost backend.mRunning + backend.stopper.cost

namespace AsyncLogger

/-- The calls that have not begun. -/
def waiting (logger : AsyncLogger) : List Command :=
  if logger.backend.producers () = .outside ∧
      logger.backend.flushers () = .outside then logger.todo
  else logger.todo.tail

def cost (logger : AsyncLogger) : Nat :=
  (logger.waiting.map Command.cost).sum + backendCost logger.backend

/-- The client neither enters a call nor returns from one. -/
theorem cost_settle {logger : AsyncLogger}
    {label : AsyncLabel Unit Unit LogRecord EmitFault}
    {after : AsyncBackend Unit Unit LogRecord Output}
    (unfinished : finishes after label = false)
    (producer : after.producers () = .outside ↔
      logger.backend.producers () = .outside)
    (flusher : after.flushers () = .outside ↔
      logger.backend.flushers () = .outside)
    (lower : backendCost after < backendCost logger.backend) :
    (logger.settle label after).cost < logger.cost := by
  have waiting : (logger.settle label after).waiting = logger.waiting := by
    rw [settle_unfinished unfinished]
    simp only [AsyncLogger.waiting, producer, flusher]
  unfold cost
  rw [waiting, settle_backend]
  omega

namespace Client

variable {platform : Platform} {capacity : Nat}
  {before after logger : AsyncLogger} {label : LoggerLabel}
  {backendLabel : AsyncLabel Unit Unit LogRecord EmitFault}
  {backend : AsyncBackend Unit Unit LogRecord Output}

theorem pays_backend (client : before.Client capacity)
    (deliberate : (LoggerLabel.backend backendLabel).spurious = false)
    (permitted : before.permits backendLabel = true)
    (stepped : AsyncStep (Output.emitter platform) before.backend
      backendLabel backend) :
    (before.settle backendLabel backend).cost < before.cost := by
  have sound := client.watched.accounts.sound
  cases stepped with
  | workerCheck checking =>
      refine cost_settle rfl .rfl .rfl ?_
      simp only [backendCost, checking]
      cases before.backend.mRunning <;> simp [Worker.cost]
  | workerPop popping popped =>
      refine cost_settle rfl .rfl .rfl ?_
      rename_i loop _ _
      simp only [backendCost, popping, (sound.delivered popped).contents]
      cases loop <;> simp [Worker.cost] <;> omega
  | workerMiss popping popped =>
      refine cost_settle rfl .rfl .rfl ?_
      obtain ⟨_, closed, rfl⟩ := sound.ended popped
      have stopped : before.backend.mRunning = false := by
        apply client.draining.stopping
        rcases client.blocking.closed.mp closed with joining | done <;>
          simp [*]
      simp [backendCost, popping, stopped, Worker.cost]
  | workerDrained popping popped =>
      refine cost_settle rfl .rfl .rfl ?_
      obtain ⟨_, _, rfl⟩ := sound.ended popped
      simp [backendCost, popping, Worker.cost]
  | workerWrite fault writing =>
      refine cost_settle rfl .rfl .rfl ?_
      rename_i loop entry
      cases loop <;> simp [backendCost, writing, Worker.cost]
  | workerServed counting | workerDraining counting =>
      refine cost_settle rfl .rfl .rfl ?_
      simp [backendCost, counting, Worker.cost]
  | workerEqual comparing =>
      refine cost_settle rfl .rfl .rfl ?_
      simp [backendCost, comparing, Worker.cost]
  | workerUnequal comparing unequal =>
      refine cost_settle rfl .rfl .rfl ?_
      simp only [backendCost, comparing]
      cases before.backend.mRunning <;> simp [Worker.cost]
  | workerNotify notifying unlocked =>
      refine cost_settle rfl .rfl FlushCall.wake_eq_outside ?_
      have woken := (before.backend.flushers ()).cost_wake
      simp only [backendCost, notifying]
      cases before.backend.mRunning <;> simp [Worker.cost] <;> omega
  | workerFlush flushing =>
      refine cost_settle rfl .rfl .rfl ?_
      simp [backendCost, flushing, Worker.cost]
  | @logAccepted producer record custody outside pushed =>
      obtain ⟨level, rest, next, above⟩ := permits_logPush permitted
      have notFlushing := client.notFlushing (by simp [next]) ()
      have contents := (sound.accepted pushed).contents
      simp only [Queue.kept, client.blocking.policy_eq] at contents
      rw [settle_unfinished (by simp [finishes])]
      simp [cost, waiting, backendCost, outside, notFlushing, next, contents,
        Command.cost, LogCall.cost, FlushCall.cost]
      omega
  | logRefused outside pushed =>
      obtain ⟨level, rest, next, above⟩ := permits_logPush permitted
      exact absurd pushed (client.notRefused (by simp [next]))
  | logCount submitting =>
      obtain ⟨level, record, rest, next, above⟩ :=
        client.logging _ submitting
      have notFlushing := client.notFlushing (by simp [next]) ()
      rw [settle_finished rfl]
      simp [cost, waiting, backendCost, submitting, notFlushing, next,
        advance, LogCall.cost]
  | flushEnter outside =>
      obtain ⟨rest, next⟩ := permits_flushEnter permitted
      have notLogging := client.notLogging (by simp [next]) ()
      rw [settle_unfinished rfl]
      simp [cost, waiting, backendCost, outside, notLogging, next,
        AsyncBackend.placeFlusher, Command.cost, FlushCall.cost]
      omega
  | flushLock place =>
      refine cost_settle rfl .rfl (by simp [place,
        AsyncBackend.placeFlusher]) ?_
      simp [backendCost, place, AsyncBackend.placeFlusher, FlushCall.cost]
  | @flushLoadProcessed caller due submitted place =>
      refine cost_settle rfl .rfl (by simp [place,
        AsyncBackend.placeFlusher]) ?_
      cases submitted <;> simp [backendCost, place,
        AsyncBackend.placeFlusher, FlushCall.cost]
  | @flushLoadSubmitted caller due processed place =>
      refine cost_settle rfl .rfl (by simp [place,
        AsyncBackend.placeFlusher]) ?_
      cases processed <;> simp [backendCost, place,
        AsyncBackend.placeFlusher, FlushCall.cost]
  | flushPass place equal | flushSleep place unequal =>
      refine cost_settle rfl .rfl (by simp [place,
        AsyncBackend.placeFlusher]) ?_
      simp [backendCost, place, AsyncBackend.placeFlusher, FlushCall.cost]
  | flushSpurious asleep => cases deliberate
  | flushReturn passed =>
      obtain ⟨rest, next⟩ := client.flushing (by simp [passed])
      have notLogging := client.notLogging (by simp [next]) ()
      rw [settle_finished rfl]
      simp [cost, waiting, backendCost, passed, notLogging, next, advance,
        AsyncBackend.placeFlusher, FlushCall.cost]
  | stopBegin outside isRunning =>
      refine cost_settle rfl .rfl .rfl ?_
      have lower : before.backend.worker.cost false ≤
          before.backend.worker.cost true := by
        unfold Worker.cost
        split <;> simp
      simp only [backendCost, outside, isRunning, StopCall.cost]
      omega
  | stopAgain outside stopped =>
      rw [client.watched.running outside] at stopped
      cases stopped
  | stopShutdown place | stopJoin place returned =>
      refine cost_settle rfl .rfl .rfl ?_
      simp [backendCost, place, StopCall.cost]

/-- A call that does not enter the backend takes one step. -/
theorem pays (client : before.Client capacity)
    (deliberate : label.spurious = false)
    (stepped : LoggerStep platform before label after) :
    after.cost < before.cost := by
  cases stepped with
  | filtered next below =>
      have outside := client.notLogging (by simp [next, below]) ()
      have notFlushing := client.notFlushing (by simp [next]) ()
      simp [cost, waiting, outside, notFlushing, next, advance, Command.cost]
  | setLevel next =>
      have outside := client.notLogging (by simp [next]) ()
      have notFlushing := client.notFlushing (by simp [next]) ()
      simp [cost, waiting, outside, notFlushing, next, advance, Command.cost]
  | setPattern next =>
      have outside := client.notLogging (by simp [next]) ()
      have notFlushing := client.notFlushing (by simp [next]) ()
      simp [cost, waiting, outside, notFlushing, next, advance, Command.cost,
        backendCost]
  | backend permitted stepped =>
      exact client.pays_backend deliberate permitted stepped

/-- A logger at the start of its program. -/
theorem cost_fresh (config : Config) (sinks : List Sink)
    (program : List Command) :
    (fresh config sinks program).cost ≤ 13 * program.length + 8 := by
  have calls : (program.map Command.cost).sum ≤ program.length * 13 := by
    rw [← List.length_map Command.cost]
    apply List.sum_le_card_nsmul
    intro cost member
    obtain ⟨command, _, rfl⟩ := List.mem_map.mp member
    exact command.cost_le
  simp [cost, waiting, backendCost, fresh, make, AsyncBackend.make,
    Custody.make, Queue.contents, Queue.make, LogCall.cost, FlushCall.cost,
    Worker.cost, StopCall.cost]
  omega

end Client

/-- The program is done, and its records are written. -/
structure Finished (program : List Command) (logger : AsyncLogger) :
    Prop where
  done : logger.done = program
  todo : logger.todo = []
  destroyed : logger.backend.stopper = .done
  returned : logger.backend.worker = .returned
  unwritten : logger.backend.unwritten = []

/-- In the steps admitted here no caller wakes up without a notification.
Formatter and sinks may throw. -/
abbrev Deliberate (_before : AsyncLogger) (label : LoggerLabel) : Prop :=
  label.spurious = false

/-- A client that is under way. -/
structure OnItsWay (capacity : Nat) (program : List Command)
    (logger : AsyncLogger) : Prop where
  client : logger.Client capacity
  program_eq : logger.program = program

namespace OnItsWay

variable {platform : Platform} {capacity : Nat} {program : List Command}
  {start before after logger : AsyncLogger} {label : LoggerLabel}

theorem step (onItsWay : OnItsWay capacity program before)
    (stepped : LoggerStep platform before label after) :
    OnItsWay capacity program after :=
  ⟨onItsWay.client.step stepped,
    (program_step stepped).trans onItsWay.program_eq⟩

/-- The budget of a client whose constructor has returned. -/
theorem built {recordSize : Nat} {config : Config} {sinks : List Sink}
    (positive : 0 < config.queueCapacity)
    (blocks : config.overflowPolicy = .block)
    (built : Built platform Construction.ChecksInitialized recordSize config
      sinks program logger) :
    OnItsWay config.queueCapacity program logger ∧
      logger.cost ≤ 13 * program.length + 8 := by
  have first := Client.cost_fresh config sinks program
  have client := Client.start positive blocks sinks program
  refine built.holds (fun logger => OnItsWay _ program logger ∧
    logger.cost ≤ 13 * program.length + 8) ?_ fun after stepped => ?_
  · exact ⟨⟨client, rfl⟩, first⟩
  · have paid := client.pays rfl stepped
    exact ⟨step ⟨client, rfl⟩ stepped, by omega⟩

/-- Client and worker are stuck only at the end. -/
theorem finished_of_stuck (onItsWay : OnItsWay capacity program logger)
    (positive : 0 < capacity)
    (stuck : (loggerMachine platform start).Stuck Deliberate logger) :
    logger.Finished program := by
  have client := onItsWay.client
  have destroyed : logger.backend.stopper = .done := by
    by_contra unfinished
    have moves : Client.Moves platform logger :=
      client.moves positive unfinished
    obtain ⟨label, _, deliberate, enabled⟩ := moves
    have refused := stuck label deliberate
    simp only [loggerMachine] at refused
    simp [refused] at enabled
  have nothing : logger.todo = [] := client.ended (by simp [destroyed])
  have returned := client.blocking.joined destroyed
  refine ⟨?_, nothing, destroyed, returned,
    client.draining.unwritten_eq_nil returned⟩
  rw [← onItsWay.program_eq, AsyncLogger.program, nothing, List.append_nil]

end OnItsWay

/-- Every client of an asynchronous logger whose worker serves comes to its
end.  Whatever throws, client and worker take at most thirteen steps for each
call and eight more, in any order; they are stuck only when the logger is
destroyed and all records are written; and from wherever they are they get
there. -/
theorem program_terminates {platform : Platform} {recordSize : Nat}
    {config : Config} (positive : 0 < config.queueCapacity)
    (blocks : config.overflowPolicy = .block) {sinks : List Sink}
    {program : List Command} {start logger : AsyncLogger}
    (built : Built platform Construction.ChecksInitialized recordSize config
      sinks program start)
    {labels : List LoggerLabel}
    (run : (loggerMachine platform start).Run Deliberate start labels
      logger) :
    labels.length ≤ 13 * program.length + 8 ∧
    ((loggerMachine platform start).Stuck Deliberate logger →
      logger.Finished program) ∧
    ∃ more last, (loggerMachine platform start).Run Deliberate logger more
      last ∧ last.Finished program := by
  obtain ⟨started, first⟩ := OnItsWay.built positive blocks built
  have preserved : (loggerMachine platform start).Preserves Deliberate
      (OnItsWay config.queueCapacity program) :=
    fun _ _ _ stepped _ onItsWay => onItsWay.step (.of_step stepped)
  have paid ⦃before : AsyncLogger⦄ ⦃label : LoggerLabel⦄
      ⦃after : AsyncLogger⦄
      (stepped : (loggerMachine platform start).step before label =
        some after) (deliberate : Deliberate before label)
      (onItsWay : OnItsWay config.queueCapacity program before) :
      after.cost < before.cost :=
    onItsWay.client.pays deliberate (.of_step stepped)
  have onItsWay := run.invariant preserved started
  refine ⟨?_, onItsWay.finished_of_stuck positive, ?_⟩
  · have bounded := run.length_le preserved paid started
    omega
  · obtain ⟨more, last, finishing, stuck⟩ :=
      Machine.exists_run_stuck preserved paid logger onItsWay
    exact ⟨more, last, finishing, (finishing.invariant preserved
      onItsWay).finished_of_stuck positive stuck⟩

/-- The client has called `flush` while its record is in the queue, and the
first sink throws when the worker writes it. -/
theorem program_terminates_throwing :
    let config : Config := { pattern := ['%', 'm'], queueCapacity := 1 }
    let program : List Command :=
      [.log .info { message := ['a'] }, .flush, .setLevel .error]
    ∃ start logger : AsyncLogger,
      Built .epoch Construction.ChecksInitialized 128 config [{}, {}] program
        start ∧
      logger.backend.output.received = [[], []] ∧
      logger.backend.flushers () = .asleep [0] ∧
      ∃ more last, (loggerMachine .epoch start).Run Deliberate logger more
        last ∧ last.Finished program := by
  intro config program
  have built : Built .epoch Construction.ChecksInitialized 128 config
      [{}, {}] program (fresh config [{}, {}] program) :=
    .of_fresh (by decide) ⟨false, 7, 3⟩
  obtain ⟨logger, run, received, asleep⟩ := Machine.exists_run
    (loggerMachine .epoch (fresh config [{}, {}] program))
    Deliberate (fresh config [{}, {}] program)
    [.backend (.logPush () { message := ['a'] }), .backend (.logCount ()),
      .backend (.flushEnter ()), .backend .workerCheck,
      .backend .workerPop, .backend (.flushLock ()),
      .backend (.flushLoadProcessed ()), .backend (.flushLoadSubmitted ()),
      .backend (.flushDecide ()), .backend (.workerWrite { sinks := [0] })]
    (fun logger => logger.backend.output.received = [[], []] ∧
      logger.backend.flushers () = .asleep [0]) (by decide)
  exact ⟨_, logger, built, received, asleep,
    (program_terminates (by decide) rfl built run).2.2⟩

end AsyncLogger

end LogParse
