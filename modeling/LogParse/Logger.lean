import LogParse.Sink

/-!
# The logger on either backend

A client is a list of calls made on one logger from one thread, followed by
the destruction of the logger.  The synchronous backend handles a record in
the call of `log`.  The asynchronous one queues it, and the calls of the
client interleave with the steps of the worker.
-/

namespace LogParse

/-- The calls of a client.  The record of `log` is what `create_record` and
the formatting of its message made. -/
inductive Command where
  | log (level : Level) (record : LogRecord)
  | setLevel (level : Level)
  | flush
  | setPattern (pattern : Text)
  deriving DecidableEq, Repr

/-- Whether each `set_pattern` comes right after a `flush`.  The flag tells
whether the call before was one. -/
def fencedFrom : Bool → List Command → Bool
  | _, [] => true
  | flushed, .setPattern _ :: rest => flushed && fencedFrom false rest
  | _, .flush :: rest => fencedFrom true rest
  | _, .log _ _ :: rest | _, .setLevel _ :: rest => fencedFrom false rest

abbrev Fenced (program : List Command) : Prop :=
  fencedFrom false program = true

/-- `SyncBackend::log`. -/
def SyncBackend.log (platform : Platform) (fault : EmitFault)
    (output : Output) (record : LogRecord) : Bool × Output :=
  output.emit platform fault record

/-- `SyncBackend::flush`. -/
def SyncBackend.flush (output : Output) : Output := output.flush

/-- A `Logger` with a `SyncBackend`. -/
structure SyncLogger where
  mConfig : Config
  mLevel : Level
  output : Output
  deriving DecidableEq, Repr

namespace SyncLogger

/-- The constructor, once the sinks are added, on a thread with the given
timestamp cache. -/
def make (config : Config) (cache : TimestampCache) (sinks : List Sink) :
    SyncLogger :=
  { mConfig := config
    mLevel := config.level
    output :=
      { formatter := Formatter.make config.pattern
        cache := cache
        sinks := sinks } }

/-- One call in which nothing throws. -/
def call (platform : Platform) (logger : SyncLogger) : Command → SyncLogger
  | .log level record =>
      if level.lt logger.mLevel then logger
      else
        { logger with
          output := (SyncBackend.log platform {} logger.output record).2 }
  | .setLevel level => { logger with mLevel := level }
  | .flush => { logger with output := SyncBackend.flush logger.output }
  | .setPattern pattern =>
      { logger with
        mConfig := { logger.mConfig with pattern := pattern }
        output := logger.output.setPattern pattern }

def exec (platform : Platform) (logger : SyncLogger)
    (program : List Command) : SyncLogger :=
  program.foldl (call platform) logger

end SyncLogger

/-- `max_size()` of a `std::vector` whose elements have this size.  To ask for
more elements throws `std::length_error`. -/
def vectorMaxSize (elementSize : Nat) : Nat := (2 ^ 63 - 1) / elementSize

theorem vectorMaxSize_lt (elementSize : Nat) :
    vectorMaxSize elementSize < 2 ^ 63 := by
  have smaller := Nat.div_le_self (2 ^ 63 - 1) elementSize
  unfold vectorMaxSize
  omega

/-- A `Logger` with an `AsyncBackend` and the client's calls, those that have
returned and those that have not. -/
structure AsyncLogger where
  mConfig : Config
  mLevel : Level
  backend : AsyncBackend Unit Unit LogRecord Output
  done : List Command := []
  todo : List Command

/-- A call that does not enter the backend, or a step of the backend. -/
inductive LoggerLabel where
  | call
  | backend (label : AsyncLabel Unit Unit LogRecord EmitFault)

namespace LoggerLabel

/-- Nothing throws. -/
def calm : LoggerLabel → Bool
  | .backend (.workerWrite fault) => fault = {}
  | _ => true

def spurious : LoggerLabel → Bool
  | .backend (.flushSpurious _) => true
  | _ => false

end LoggerLabel

namespace AsyncLogger

/-- The constructor, once that of the backend has returned and the sinks are
added. -/
def make (config : Config)
    (backend : AsyncBackend Unit Unit LogRecord Output)
    (program : List Command) : AsyncLogger where
  mConfig := config
  mLevel := config.level
  backend := backend
  todo := program

/-- The call at hand has returned. -/
def advance (logger : AsyncLogger) : AsyncLogger :=
  { logger with
    done := logger.done ++ logger.todo.take 1
    todo := logger.todo.tail }

/-- A `log` below the level, `set_level` or `set_pattern`. -/
def call (logger : AsyncLogger) : Option AsyncLogger :=
  match logger.todo with
  | .log level _ :: _ =>
      if level.lt logger.mLevel then some logger.advance else none
  | .setLevel level :: _ => some { logger.advance with mLevel := level }
  | .setPattern pattern :: _ =>
      some { logger.advance with
        mConfig := { logger.mConfig with pattern := pattern }
        backend :=
          { logger.backend with
            output := logger.backend.output.setPattern pattern } }
  | .flush :: _ | [] => none

/-- The calls of the backend that the client is at.  The destructor follows
the last command. -/
def permits (logger : AsyncLogger) :
    AsyncLabel Unit Unit LogRecord EmitFault → Bool
  | .logPush _ record =>
      match logger.todo with
      | .log level mine :: _ => !level.lt logger.mLevel && mine = record
      | _ => false
  | .flushEnter _ =>
      match logger.todo with
      | .flush :: _ => true
      | _ => false
  | .stopBegin => logger.todo.isEmpty
  | _ => true

/-- Whether the client's call returns with a step: `log` after its increment,
or at once if its record was refused. -/
def finishes (after : AsyncBackend Unit Unit LogRecord Output) :
    AsyncLabel Unit Unit LogRecord EmitFault → Bool
  | .logPush _ _ => after.producers () = .outside
  | .logCount _ | .flushReturn _ => true
  | _ => false

def settle (logger : AsyncLogger)
    (label : AsyncLabel Unit Unit LogRecord EmitFault)
    (after : AsyncBackend Unit Unit LogRecord Output) : AsyncLogger :=
  if finishes after label then { logger.advance with backend := after }
  else { logger with backend := after }

def step (platform : Platform) (logger : AsyncLogger) :
    LoggerLabel → Option AsyncLogger
  | .call => logger.call
  | .backend label =>
      if logger.permits label then
        (logger.backend.step (Output.emitter platform) label).map
          (logger.settle label)
      else none

end AsyncLogger

def loggerMachine (platform : Platform) (start : AsyncLogger) :
    Machine AsyncLogger LoggerLabel where
  start := start
  step := AsyncLogger.step platform

/-- What each step can do, with the guard it was taken under. -/
inductive LoggerStep (platform : Platform) (before : AsyncLogger) :
    LoggerLabel → AsyncLogger → Prop where
  | filtered {level : Level} {record : LogRecord} {rest : List Command}
      (next : before.todo = .log level record :: rest)
      (below : level.lt before.mLevel = true) :
      LoggerStep platform before .call before.advance
  | setLevel {level : Level} {rest : List Command}
      (next : before.todo = .setLevel level :: rest) :
      LoggerStep platform before .call
        { before.advance with mLevel := level }
  | setPattern {pattern : Text} {rest : List Command}
      (next : before.todo = .setPattern pattern :: rest) :
      LoggerStep platform before .call
        { before.advance with
          mConfig := { before.mConfig with pattern := pattern }
          backend :=
            { before.backend with
              output := before.backend.output.setPattern pattern } }
  | backend {label : AsyncLabel Unit Unit LogRecord EmitFault}
      {backend : AsyncBackend Unit Unit LogRecord Output}
      (permitted : before.permits label = true)
      (stepped : AsyncStep (Output.emitter platform) before.backend label
        backend) :
      LoggerStep platform before (.backend label)
        (before.settle label backend)

theorem LoggerStep.of_step {platform : Platform}
    {before after : AsyncLogger} {label : LoggerLabel}
    (stepped : before.step platform label = some after) :
    LoggerStep platform before label after := by
  cases label with
  | call =>
      simp only [AsyncLogger.step, AsyncLogger.call] at stepped
      split at stepped
      · rename_i level record rest next
        split at stepped
        · rename_i below
          cases stepped
          exact .filtered next below
        · simp at stepped
      · rename_i level rest next
        cases stepped
        exact .setLevel next
      · rename_i pattern rest next
        cases stepped
        exact .setPattern next
      · simp at stepped
      · simp at stepped
  | backend label =>
      simp only [AsyncLogger.step] at stepped
      split at stepped
      · rename_i permitted
        rw [Option.map_eq_some_iff] at stepped
        obtain ⟨backend, backendStepped, rfl⟩ := stepped
        exact .backend permitted (.of_step backendStepped)
      · simp at stepped

namespace AsyncLogger

variable {logger : AsyncLogger}
  {label : AsyncLabel Unit Unit LogRecord EmitFault}
  {after : AsyncBackend Unit Unit LogRecord Output}

@[simp] theorem settle_backend :
    (logger.settle label after).backend = after := by
  unfold settle
  split <;> rfl

theorem settle_finished (finished : finishes after label = true) :
    logger.settle label after = { logger.advance with backend := after } :=
  if_pos finished

theorem settle_unfinished (unfinished : finishes after label = false) :
    logger.settle label after = { logger with backend := after } :=
  if_neg (by simp [unfinished])

/-- The client's program, whatever of it is done. -/
def program (logger : AsyncLogger) : List Command :=
  logger.done ++ logger.todo

@[simp] theorem program_advance :
    logger.advance.program = logger.program := by
  unfold program advance
  cases logger.todo <;> simp

@[simp] theorem program_settle :
    (logger.settle label after).program = logger.program := by
  unfold settle
  split
  · exact program_advance
  · rfl

theorem program_step {platform : Platform} {before after : AsyncLogger}
    {label : LoggerLabel} (stepped : LoggerStep platform before label after) :
    after.program = before.program := by
  cases stepped with
  | filtered | setLevel | setPattern => exact program_advance
  | backend => exact program_settle

/-- What a permitted call of the backend says about the client. -/
theorem permits_logPush {producer : Unit} {record : LogRecord}
    (permitted : logger.permits (.logPush producer record) = true) :
    ∃ level rest, logger.todo = .log level record :: rest ∧
      level.lt logger.mLevel = false := by
  simp only [permits] at permitted
  split at permitted
  · rename_i level mine rest next
    obtain ⟨above, rfl⟩ : level.lt logger.mLevel = false ∧ mine = record := by
      simpa using permitted
    exact ⟨level, rest, next, above⟩
  · simp at permitted

theorem permits_flushEnter {caller : Unit}
    (permitted : logger.permits (.flushEnter caller) = true) :
    ∃ rest, logger.todo = .flush :: rest := by
  simp only [permits] at permitted
  split at permitted
  · rename_i rest next
    exact ⟨rest, next⟩
  · simp at permitted

end AsyncLogger

end LogParse
