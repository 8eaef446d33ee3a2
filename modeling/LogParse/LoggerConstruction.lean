import LogParse.AsyncTermination
import LogParse.BuiltLogger
import LogParse.FileSink

/-!
# Sinks are added while the worker runs

The constructor of an asynchronous `Logger` starts the backend first and adds
the sinks of its configuration afterwards, to a vector that the worker reads
without a lock.  Opening the log file may fail; then the exception destroys
the backend again.  The steps of the worker interleave with all of this.
-/

namespace LogParse

/-- Where the constructor is. -/
inductive SetupPhase where
  | console
  | file
  | returned
  | thrown (message : Text)
  deriving DecidableEq, Repr

/-- A logger from the start of its worker on.  The flag tells whether anybody
has called `log`. -/
structure LoggerSetup (ι κ : Type) where
  construction : Construction ι κ LogRecord Output
  mConfig : Config
  phase : SetupPhase := .console
  directory : Directory
  logged : Bool := false

/-- A step of the backend, the next `if` of the constructor, or a call of
`add_sink` after it. -/
inductive SetupLabel (ι κ : Type) where
  | backend (label : ConstructionLabel ι κ LogRecord EmitFault)
  | proceed (outcome : OpenOutcome)
  | addSink

def AsyncLabel.byStop {ι κ ρ φ : Type} : AsyncLabel ι κ ρ φ → Bool
  | .stopBegin | .stopShutdown | .stopJoin => true
  | _ => false

def AsyncLabel.isLog {ι κ ρ φ : Type} : AsyncLabel ι κ ρ φ → Bool
  | .logPush _ _ => true
  | _ => false

/-- `m_sinks.emplace_back` of a new sink. -/
def Output.addSink (output : Output) : Output :=
  { output with sinks := output.sinks ++ [{}] }

namespace LoggerSetup

variable {ι κ : Type} [DecidableEq ι] [DecidableEq κ]

def backend (setup : LoggerSetup ι κ) :
    AsyncBackend ι κ LogRecord Output := setup.construction.backend

def pushSink (setup : LoggerSetup ι κ) : LoggerSetup ι κ :=
  { setup with
    construction :=
      { setup.construction with
        backend :=
          { setup.construction.backend with
            output := setup.construction.backend.output.addSink } } }

/-- The thread of the client is in the constructor of the backend, then in
that of the logger, and uses the object only when that has returned.  An
exception calls the destructor of the backend. -/
def allows (setup : LoggerSetup ι κ) :
    ConstructionLabel ι κ LogRecord EmitFault → Bool
  | .construct => true
  | .use label =>
      label.byWorker ||
        match setup.phase with
        | .console | .file => false
        | .returned => true
        | .thrown _ => label.byStop

def logs : ConstructionLabel ι κ LogRecord EmitFault → Bool
  | .construct => false
  | .use label => label.isLog

/-- `if (m_config.enable_console)`, then `if (m_config.enable_file)`. -/
def proceed (setup : LoggerSetup ι κ) (outcome : OpenOutcome) :
    Option (LoggerSetup ι κ) :=
  match setup.phase with
  | .console =>
      if setup.mConfig.enableConsole then
        some { setup.pushSink with phase := .file }
      else some { setup with phase := .file }
  | .file =>
      if setup.mConfig.enableFile then
        match FileSink.make setup.mConfig.filePath outcome
          setup.directory with
        | .ok (_, directory) =>
            some { setup.pushSink with
              phase := .returned
              directory := directory }
        | .error message => some { setup with phase := .thrown message }
      else some { setup with phase := .returned }
  | .returned | .thrown _ => none

def step (platform : Platform) (setup : LoggerSetup ι κ) :
    SetupLabel ι κ → Option (LoggerSetup ι κ)
  | .backend label =>
      if setup.allows label then
        (setup.construction.step (Output.emitter platform) label).map
          fun construction =>
            { setup with
              construction := construction
              logged := setup.logged || logs label }
      else none
  | .proceed outcome =>
      if setup.construction.pending = [] then setup.proceed outcome else none
  | .addSink =>
      if setup.construction.pending = [] ∧ setup.phase = .returned ∧
          setup.backend.stopper = .outside then some setup.pushSink
      else none

def make (config : Config) (storage : Storage) (directory : Directory) :
    LoggerSetup ι κ where
  construction := .make storage config.queueCapacity config.overflowPolicy
    { formatter := Formatter.make config.pattern, sinks := [] }
  mConfig := config
  directory := directory

end LoggerSetup

def setupMachine (ι κ : Type) [DecidableEq ι] [DecidableEq κ]
    (platform : Platform) (config : Config) (storage : Storage)
    (directory : Directory) :
    Machine (LoggerSetup ι κ) (SetupLabel ι κ) where
  start := .make config storage directory
  step := LoggerSetup.step platform

/-- What each step can do, with the guard it was taken under. -/
inductive SetupStep {ι κ : Type} [DecidableEq ι] [DecidableEq κ]
    (platform : Platform) (before : LoggerSetup ι κ) :
    SetupLabel ι κ → LoggerSetup ι κ → Prop where
  | backend {label : ConstructionLabel ι κ LogRecord EmitFault}
      {construction : Construction ι κ LogRecord Output}
      (allowed : before.allows label = true)
      (stepped : before.construction.step (Output.emitter platform) label =
        some construction) :
      SetupStep platform before (.backend label)
        { before with
          construction := construction
          logged := before.logged || LoggerSetup.logs label }
  | consoleAdded {outcome : OpenOutcome}
      (built : before.construction.pending = [])
      (phase : before.phase = .console)
      (enabled : before.mConfig.enableConsole = true) :
      SetupStep platform before (.proceed outcome)
        { before.pushSink with phase := .file }
  | consoleSkipped {outcome : OpenOutcome}
      (built : before.construction.pending = [])
      (phase : before.phase = .console)
      (disabled : before.mConfig.enableConsole = false) :
      SetupStep platform before (.proceed outcome)
        { before with phase := .file }
  | fileAdded {outcome : OpenOutcome} {sink : FileSink}
      {directory : Directory} (built : before.construction.pending = [])
      (phase : before.phase = .file)
      (enabled : before.mConfig.enableFile = true)
      (opened : FileSink.make before.mConfig.filePath outcome
        before.directory = .ok (sink, directory)) :
      SetupStep platform before (.proceed outcome)
        { before.pushSink with phase := .returned, directory := directory }
  | fileThrew {outcome : OpenOutcome} {message : Text}
      (built : before.construction.pending = [])
      (phase : before.phase = .file)
      (enabled : before.mConfig.enableFile = true)
      (threw : FileSink.make before.mConfig.filePath outcome
        before.directory = .error message) :
      SetupStep platform before (.proceed outcome)
        { before with phase := .thrown message }
  | fileSkipped {outcome : OpenOutcome}
      (built : before.construction.pending = [])
      (phase : before.phase = .file)
      (disabled : before.mConfig.enableFile = false) :
      SetupStep platform before (.proceed outcome)
        { before with phase := .returned }
  | addSink (built : before.construction.pending = [])
      (returned : before.phase = .returned)
      (unstopped : before.backend.stopper = .outside) :
      SetupStep platform before .addSink before.pushSink

theorem SetupStep.of_step {ι κ : Type} [DecidableEq ι] [DecidableEq κ]
    {platform : Platform} {before after : LoggerSetup ι κ}
    {label : SetupLabel ι κ}
    (stepped : before.step platform label = some after) :
    SetupStep platform before label after := by
  cases label with
  | backend label =>
      simp only [LoggerSetup.step] at stepped
      split at stepped
      · rename_i allowed
        obtain ⟨construction, moved, rfl⟩ :=
          Option.map_eq_some_iff.mp stepped
        exact .backend allowed moved
      · simp at stepped
  | proceed outcome =>
      simp only [LoggerSetup.step, LoggerSetup.proceed] at stepped
      split at stepped
      · rename_i built
        split at stepped
        · rename_i phase
          split at stepped
          · rename_i enabled
            cases stepped
            exact .consoleAdded built phase enabled
          · rename_i disabled
            cases stepped
            exact .consoleSkipped built phase (by simpa using disabled)
        · rename_i phase
          split at stepped
          · rename_i enabled
            split at stepped
            · rename_i opened
              cases stepped
              exact .fileAdded built phase enabled opened
            · rename_i threw
              cases stepped
              exact .fileThrew built phase enabled threw
          · rename_i disabled
            cases stepped
            exact .fileSkipped built phase (by simpa using disabled)
        · simp at stepped
        · simp at stepped
      · simp at stepped
  | addSink =>
      simp only [LoggerSetup.step] at stepped
      split at stepped
      · rename_i guarded
        cases stepped
        exact .addSink guarded.1 guarded.2.1 guarded.2.2
      · simp at stepped

/-- Waiting for the first record, or past the end of the queue. -/
def Worker.Idle {ρ : Type} (closed : Bool) : Worker ρ → Prop
  | .checking | .popping _ => True
  | .flushing | .returned => closed = true
  | .writing _ _ | .counting _ _ | .comparing _ | .notifying => False

/-- Nothing has come through the queue. -/
structure Quiet {ι κ : Type} (backend : AsyncBackend ι κ LogRecord Output) :
    Prop where
  empty : backend.custody.queue.mSize = 0
  idle : backend.worker.Idle backend.custody.queue.mShutdown
  unwritten : ∀ sink ∈ backend.output.sinks, sink.received = []

/-- `stop` does its steps in order. -/
structure Halting {ι κ ρ ε : Type} (backend : AsyncBackend ι κ ρ ε) :
    Prop where
  halted : backend.stopper ≠ .outside → backend.mRunning = false
  closed : backend.custody.queue.mShutdown = true ↔
    backend.stopper = .joining ∨ backend.stopper = .done
  joined : backend.stopper = .done → backend.worker = .returned

theorem Output.unwritten_flush {output : Output}
    (unwritten : ∀ sink ∈ output.sinks, sink.received = []) :
    ∀ sink ∈ output.flush.sinks, sink.received = [] := by
  intro sink isSink
  obtain ⟨before, isBefore, rfl⟩ := List.mem_map.mp isSink
  rw [Sink.received_flush]
  exact unwritten before isBefore

theorem Output.unwritten_addSink {output : Output}
    (unwritten : ∀ sink ∈ output.sinks, sink.received = []) :
    ∀ sink ∈ output.addSink.sinks, sink.received = [] := by
  intro sink isSink
  rcases List.mem_append.mp isSink with earlier | added
  · exact unwritten sink earlier
  · obtain rfl := List.mem_singleton.mp added
    rfl

theorem SinkManager.length_writeFrom (throwing : List Nat) (buffer : Text)
    (position : Nat) (sinks : List Sink) :
    (SinkManager.writeFrom throwing buffer position sinks).2.length =
      sinks.length := by
  induction sinks generalizing position with
  | nil => rfl
  | cons sink rest induction =>
      unfold SinkManager.writeFrom
      split
      · rfl
      · simp [induction (position + 1)]

theorem Output.length_emit (platform : Platform) (fault : EmitFault)
    (record : LogRecord) (output : Output) :
    (output.emit platform fault record).2.sinks.length =
      output.sinks.length := by
  unfold Output.emit
  split
  · exact SinkManager.length_writeFrom _ _ _ _
  · rfl

section Backend

variable {ι κ : Type} [DecidableEq ι] [DecidableEq κ] {platform : Platform}
  {before after : AsyncBackend ι κ LogRecord Output}
  {label : AsyncLabel ι κ LogRecord EmitFault}

theorem Quiet.step (quiet : Quiet before) (noLog : label.isLog = false)
    (stepped : AsyncStep (Output.emitter platform) before label after) :
    Quiet after := by
  obtain ⟨empty, idle, unwritten⟩ := quiet
  cases stepped with
  | logAccepted | logRefused => cases noLog
  | workerCheck checking => exact ⟨empty, trivial, unwritten⟩
  | workerPop popping popped =>
      obtain ⟨impossible, _⟩ := Custody.pop_empty empty popped
      cases impossible
  | workerMiss popping popped =>
      obtain ⟨_, rfl, _⟩ := Custody.pop_empty empty popped
      exact ⟨empty, trivial, unwritten⟩
  | workerDrained popping popped =>
      obtain ⟨_, rfl, closed⟩ := Custody.pop_empty empty popped
      exact ⟨empty, closed, unwritten⟩
  | workerWrite fault place | workerServed place | workerDraining place
  | workerEqual place | workerUnequal place | workerNotify place =>
      rw [place] at idle
      exact idle.elim
  | workerFlush flushing =>
      rw [flushing] at idle
      exact ⟨empty, idle, Output.unwritten_flush unwritten⟩
  | flushReturn passed =>
      exact ⟨empty, idle, Output.unwritten_flush unwritten⟩
  | stopShutdown shuttingDown =>
      refine ⟨empty, ?_, unwritten⟩
      cases place : before.worker <;> rw [place] at idle <;> trivial
  | _ => exact ⟨empty, idle, unwritten⟩

theorem Halting.step (halting : Halting before) (quiet : Quiet before)
    (noLog : label.isLog = false)
    (initialized : label.byStop = true → before.stopper = .outside →
      before.mRunning = true)
    (stepped : AsyncStep (Output.emitter platform) before label after) :
    Halting after := by
  obtain ⟨halted, closed, joined⟩ := halting
  have notReturned {place : Worker LogRecord} (here : before.worker = place)
      (alive : place ≠ .returned) : before.stopper ≠ .done :=
    fun done => alive (here ▸ joined done)
  cases stepped with
  | logAccepted | logRefused => cases noLog
  | workerCheck place | workerServed place | workerDraining place
  | workerEqual place | workerUnequal place | workerNotify place
  | workerWrite fault place =>
      exact ⟨halted, closed, fun done => absurd done (notReturned place
        (by simp))⟩
  | workerPop place popped | workerMiss place popped
  | workerDrained place popped =>
      obtain ⟨_, rfl, _⟩ := Custody.pop_empty quiet.empty popped
      exact ⟨halted, closed, fun done => absurd done (notReturned place
        (by simp))⟩
  | workerFlush place => exact ⟨halted, closed, fun _ => rfl⟩
  | stopBegin outside running =>
      refine ⟨fun _ => rfl, ?_, by simp⟩
      simpa [outside] using closed
  | stopAgain outside stopped =>
      rw [initialized rfl outside] at stopped
      cases stopped
  | stopShutdown shuttingDown =>
      exact ⟨fun _ => halted (by simp [shuttingDown]),
        by simp [Custody.shutdown, Queue.shutdown], by simp⟩
  | stopJoin joining returned =>
      refine ⟨fun _ => halted (by simp [joining]), ?_, fun _ => returned⟩
      simpa [joining] using closed
  | _ => exact ⟨halted, closed, joined⟩

omit [DecidableEq ι] [DecidableEq κ] in
/-- The steps the client's thread does not take in a constructor. -/
theorem inside_constructor (inside : label.byWorker = true ∨
    label.byStop = true) : label.isLog = false := by
  cases label <;> simp_all [AsyncLabel.byWorker, AsyncLabel.byStop,
    AsyncLabel.isLog]

theorem flushers_outside (inside : label.byWorker = true ∨
      label.byStop = true)
    (stepped : AsyncStep (Output.emitter platform) before label after)
    (outside : ∀ caller, before.flushers caller = .outside) :
    ∀ caller, after.flushers caller = .outside := by
  cases stepped with
  | workerNotify notifying unlocked =>
      intro caller
      simp [outside caller, FlushCall.wake]
  | logAccepted | logRefused | logCount | flushEnter | flushLock
  | flushLoadProcessed | flushLoadSubmitted | flushPass | flushSleep
  | flushSpurious | flushReturn =>
      simp [AsyncLabel.byWorker, AsyncLabel.byStop] at inside
  | _ => exact outside

theorem stopper_of_byWorker (byWorker : label.byWorker = true)
    (stepped : AsyncStep (Output.emitter platform) before label after) :
    after.stopper = before.stopper := by
  cases stepped <;> first | rfl | cases byWorker

theorem sinks_length
    (stepped : AsyncStep (Output.emitter platform) before label after) :
    after.output.sinks.length = before.output.sinks.length := by
  cases stepped with
  | workerWrite fault writing => exact Output.length_emit _ _ _ _
  | workerFlush | flushReturn => exact List.length_map _
  | _ => rfl

end Backend

namespace LoggerSetup

/-- The sinks that the constructor has added when it comes to a phase. -/
def sinksBefore (config : Config) (phase : SetupPhase) : Nat :=
  let console := if config.enableConsole then 1 else 0
  match phase with
  | .console => 0
  | .file | .thrown _ => console
  | .returned => console + if config.enableFile then 1 else 0

/-- The client's thread does one thing after the other: until the constructor
has returned nobody logs, calls `flush` or, unless it throws, `stop`. -/
structure Ordered {ι κ : Type} (config : Config) (found : Directory)
    (setup : LoggerSetup ι κ) : Prop where
  building : setup.construction.Building
  config_eq : setup.mConfig = config
  built : setup.phase ≠ .console → setup.construction.pending = []
  unlogged : setup.phase ≠ .returned → setup.logged = false
  unflushed : setup.phase ≠ .returned →
    ∀ caller, setup.backend.flushers caller = .outside
  unstopped : setup.phase = .console ∨ setup.phase = .file →
    setup.backend.stopper = .outside
  quiet : setup.logged = false → Quiet setup.backend
  halting : setup.logged = false → Halting setup.backend
  added : sinksBefore config setup.phase ≤ setup.backend.output.sinks.length
  unopened : setup.phase ≠ .returned → setup.directory = found
  threw : ∀ message, setup.phase = .thrown message →
    config.enableFile = true ∧ ∃ outcome,
      FileSink.make config.filePath outcome found = .error message

namespace Ordered

variable {ι κ : Type} [DecidableEq ι] [DecidableEq κ] {platform : Platform}
  {config : Config} {found : Directory} {before after : LoggerSetup ι κ}

omit [DecidableEq ι] [DecidableEq κ] in
theorem start (config : Config) (storage : Storage) (found : Directory) :
    Ordered config found (make config storage found : LoggerSetup ι κ) where
  building := .start storage _ _ _
  config_eq := rfl
  built later := absurd rfl later
  unlogged _ := rfl
  unflushed _ _ := rfl
  unstopped _ := rfl
  quiet _ := ⟨rfl, trivial, by simp [backend, make, Construction.make,
    AsyncBackend.make]⟩
  halting _ := ⟨fun stopped => absurd rfl stopped, by
    simp [backend, make, Construction.make, AsyncBackend.make, Custody.make,
      Queue.make], fun done => nomatch done⟩
  added := Nat.zero_le _
  unopened _ := rfl
  threw _ thrown := nomatch thrown

omit [DecidableEq ι] [DecidableEq κ] in
/-- The constructor comes to its next phase, with some more sinks or
without. -/
theorem move (ordered : Ordered config found before)
    (built : before.construction.pending = [])
    (early : before.phase = .console ∨ before.phase = .file)
    {output : Output} {phase : SetupPhase} {directory : Directory}
    (unwritten : (∀ sink ∈ before.backend.output.sinks,
      sink.received = []) → ∀ sink ∈ output.sinks, sink.received = [])
    (added : sinksBefore config phase ≤ output.sinks.length)
    (unopened : phase ≠ .returned → directory = found)
    (threw : ∀ message, phase = .thrown message →
      config.enableFile = true ∧ ∃ outcome,
        FileSink.make config.filePath outcome found = .error message) :
    Ordered config found
      { construction :=
          { before.construction with
            backend :=
              { before.construction.backend with output := output } }
        mConfig := before.mConfig
        phase := phase
        directory := directory
        logged := before.logged } := by
  have notReturned : before.phase ≠ .returned := by
    rcases early with phase | phase <;> simp [phase]
  have unlogged := ordered.unlogged notReturned
  have quiet := ordered.quiet unlogged
  have halting := ordered.halting unlogged
  exact
    { building := ⟨ordered.building.stopping, ordered.building.running⟩
      config_eq := ordered.config_eq
      built := fun _ => built
      unlogged := fun _ => unlogged
      unflushed := fun _ => ordered.unflushed notReturned
      unstopped := fun _ => ordered.unstopped early
      quiet := fun _ => ⟨quiet.empty, quiet.idle, unwritten quiet.unwritten⟩
      halting := fun _ => ⟨halting.halted, halting.closed, halting.joined⟩
      added := added
      unopened := unopened
      threw := threw }

omit [DecidableEq ι] [DecidableEq κ] in
theorem addSink (ordered : Ordered config found before) :
    Ordered config found before.pushSink where
  building := ⟨ordered.building.stopping, ordered.building.running⟩
  config_eq := ordered.config_eq
  built := ordered.built
  unlogged := ordered.unlogged
  unflushed := ordered.unflushed
  unstopped := ordered.unstopped
  quiet unlogged :=
    have quiet := ordered.quiet unlogged
    ⟨quiet.empty, quiet.idle, Output.unwritten_addSink quiet.unwritten⟩
  halting unlogged :=
    have halting := ordered.halting unlogged
    ⟨halting.halted, halting.closed, halting.joined⟩
  added := by
    refine Nat.le_trans ordered.added ?_
    simp [backend, pushSink, Output.addSink]
  unopened := ordered.unopened
  threw := ordered.threw

theorem construct (ordered : Ordered config found before)
    {construction : Construction ι κ LogRecord Output}
    (stepped : before.construction.step (Output.emitter platform)
      .construct = some construction) :
    Ordered config found
      { before with construction := construction } := by
  have building := ordered.building.construct stepped
  obtain ⟨member, rest, pending, rfl⟩ := Construction.step_construct stepped
  have unstopped : before.construction.backend.stopper = .outside := by
    by_contra stopped
    have none := ordered.building.stopping stopped
    rw [pending] at none
    cases none
  have isConsole : before.phase = .console := by
    by_contra later
    have none := ordered.built later
    rw [pending] at none
    cases none
  exact
    { building := building
      config_eq := ordered.config_eq
      built := fun later => absurd isConsole later
      unlogged := ordered.unlogged
      unflushed := by cases member <;> exact ordered.unflushed
      unstopped := by cases member <;> exact ordered.unstopped
      quiet := fun unlogged => by
        have quiet := ordered.quiet unlogged
        cases member <;> exact ⟨quiet.empty, quiet.idle, quiet.unwritten⟩
      halting := fun unlogged => by
        have halting := ordered.halting unlogged
        cases member <;>
          exact ⟨fun stopped => absurd unstopped stopped, halting.closed,
            halting.joined⟩
      added := by cases member <;> exact ordered.added
      unopened := ordered.unopened
      threw := ordered.threw }

/-- A step of the backend that the client's thread may take where it is. -/
theorem use (ordered : Ordered config found before)
    {label : AsyncLabel ι κ LogRecord EmitFault}
    {construction : Construction ι κ LogRecord Output}
    (allowed : before.allows (.use label) = true)
    (stepped : before.construction.step (Output.emitter platform)
      (.use label) = some construction) :
    Ordered config found
      { before with
        construction := construction
        logged := before.logged || label.isLog } := by
  have building := ordered.building.use stepped
  obtain ⟨guarded, backend, used, rfl⟩ := Construction.step_use stepped
  have inside (notReturned : before.phase ≠ .returned) :
      label.byWorker = true ∨ label.byStop = true := by
    cases phase : before.phase <;> simp_all [allows]
  have byWorker (early : before.phase = .console ∨ before.phase = .file) :
      label.byWorker = true := by
    rcases early with phase | phase <;> simpa [allows, phase] using allowed
  have initialized (byStop : label.byStop = true)
      (outside : before.construction.backend.stopper = .outside) :
      before.construction.backend.mRunning = true := by
    have complete : before.construction.pending = [] := by
      refine guarded.resolve_left ?_
      cases label <;> simp_all [AsyncLabel.byWorker, AsyncLabel.byStop]
    exact ordered.building.running (by simp [complete]) outside
  exact
    { building := building
      config_eq := ordered.config_eq
      built := ordered.built
      unlogged := fun notReturned => by
        simp [ordered.unlogged notReturned,
          inside_constructor (inside notReturned)]
      unflushed := fun notReturned => flushers_outside
        (inside notReturned) used (ordered.unflushed notReturned)
      unstopped := fun early =>
        (stopper_of_byWorker (byWorker early) used).trans
          (ordered.unstopped early)
      quiet := fun unlogged => by
        obtain ⟨noneBefore, noLog⟩ := Bool.or_eq_false_iff.mp unlogged
        exact (ordered.quiet noneBefore).step noLog used
      halting := fun unlogged => by
        obtain ⟨noneBefore, noLog⟩ := Bool.or_eq_false_iff.mp unlogged
        exact (ordered.halting noneBefore).step (ordered.quiet noneBefore)
          noLog initialized used
      added := by
        refine Nat.le_trans ordered.added (Nat.le_of_eq ?_)
        exact (sinks_length used).symm
      unopened := ordered.unopened
      threw := ordered.threw }

theorem step {label : SetupLabel ι κ}
    (ordered : Ordered config found before)
    (stepped : SetupStep platform before label after) :
    Ordered config found after := by
  have configEq := ordered.config_eq
  have added := ordered.added
  simp only [backend] at added
  cases stepped with
  | @backend label construction allowed stepped =>
      cases label with
      | construct =>
          have constructed := ordered.construct stepped
          simpa [logs] using constructed
      | use label => exact ordered.use allowed stepped
  | consoleAdded built phase enabled =>
      refine ordered.move built (.inl phase) Output.unwritten_addSink ?_
        (fun _ => ordered.unopened (by simp [phase])) (by simp)
      rw [configEq] at enabled
      simp [sinksBefore, enabled, Output.addSink]
  | consoleSkipped built phase disabled =>
      refine ordered.move built (.inl phase) id ?_
        (fun _ => ordered.unopened (by simp [phase])) (by simp)
      rw [configEq] at disabled
      simp [sinksBefore, disabled]
  | fileAdded built phase enabled opened =>
      refine ordered.move built (.inr phase) Output.unwritten_addSink ?_
        (by simp) (by simp)
      rw [configEq] at enabled
      simp only [sinksBefore, phase] at added
      simpa [sinksBefore, enabled, Output.addSink] using added
  | @fileThrew outcome message built phase enabled threw =>
      have unopened := ordered.unopened (by simp [phase])
      rw [phase] at added
      rw [configEq] at enabled
      rw [configEq, unopened] at threw
      refine ordered.move built (.inr phase) id added (fun _ => unopened) ?_
      rintro _ ⟨⟩
      exact ⟨enabled, outcome, threw⟩
  | fileSkipped built phase disabled =>
      refine ordered.move built (.inr phase) id ?_ (by simp) (by simp)
      rw [configEq] at disabled
      simp only [sinksBefore, phase] at added
      simpa [sinksBefore, disabled] using added
  | addSink built returned unstopped => exact ordered.addSink

theorem preserved {storage : Storage} :
    (setupMachine ι κ platform config storage found).Preserves Machine.Free
      (Ordered config found) :=
  fun _ _ _ stepped _ ordered => ordered.step (.of_step stepped)

end Ordered

/-- The next step of the worker goes through the sinks. -/
def AtSinks {ι κ : Type} (setup : LoggerSetup ι κ) : Prop :=
  setup.backend.worker = .flushing ∨
    ∃ loop entry, setup.backend.worker = .writing loop entry

/-- Nobody is at the sinks before the first record, or `stop`. -/
theorem Quiet.not_atSinks {ι κ : Type} {setup : LoggerSetup ι κ}
    (quiet : Quiet setup.backend) (halting : Halting setup.backend)
    (unstopped : setup.backend.stopper = .outside) : ¬ setup.AtSinks := by
  have idle := quiet.idle
  rintro (flushing | ⟨loop, entry, writing⟩)
  · rw [flushing] at idle
    have stopped := halting.closed.mp idle
    simp [unstopped] at stopped
  · rw [writing] at idle
    exact idle

/-- Whatever the storage held and however the worker runs ahead: the
constructor adds its sinks while nobody goes through them, the worker does not
go through them in a later `add_sink` as long as nobody has logged, and when a
record is written all sinks of the configuration are there. -/
theorem sinks_added_undisturbed {ι κ : Type} [DecidableEq ι] [DecidableEq κ]
    {platform : Platform} {config : Config} {storage : Storage}
    {directory : Directory} {labels : List (SetupLabel ι κ)}
    {setup : LoggerSetup ι κ}
    (run : (setupMachine ι κ platform config storage directory).Run
      Machine.Free (.make config storage directory) labels setup) :
    ∀ transition ∈ (setupMachine ι κ platform config storage
        directory).transitions (.make config storage directory) labels,
      (∀ outcome, transition.label = .proceed outcome →
        ¬ transition.before.AtSinks ∧
        ∀ caller, transition.before.backend.flushers caller = .outside) ∧
      (transition.label = .addSink → transition.before.logged = false →
        ¬ transition.before.AtSinks) ∧
      (∀ fault,
        transition.label = .backend (.use (.workerWrite fault)) →
        transition.before.phase = .returned ∧
        sinksBefore config .returned ≤
          transition.before.backend.output.sinks.length) := by
  intro transition member
  obtain ⟨ordered, _, stepped⟩ := run.forall_transitions Ordered.preserved
    (.start config storage directory) transition member
  have taken := SetupStep.of_step stepped
  obtain ⟨before, label, after⟩ := transition
  dsimp only at ordered taken ⊢
  refine ⟨?_, ?_, ?_⟩
  · rintro outcome rfl
    have early : before.phase = .console ∨ before.phase = .file := by
      cases taken with
      | consoleAdded built phase | consoleSkipped built phase =>
          exact .inl phase
      | fileAdded built phase | fileThrew built phase
      | fileSkipped built phase => exact .inr phase
    have notReturned : before.phase ≠ .returned := by
      rcases early with phase | phase <;> simp [phase]
    have unlogged := ordered.unlogged notReturned
    exact ⟨Quiet.not_atSinks (ordered.quiet unlogged)
      (ordered.halting unlogged) (ordered.unstopped early),
      ordered.unflushed notReturned⟩
  · rintro rfl unlogged
    cases taken with
    | addSink built returned unstopped =>
        exact Quiet.not_atSinks (ordered.quiet unlogged)
          (ordered.halting unlogged) unstopped
  · rintro fault rfl
    have returned : before.phase = .returned := by
      by_contra notReturned
      have quiet := ordered.quiet (ordered.unlogged notReturned)
      cases taken with
      | backend allowed moved =>
          obtain ⟨_, next, used, _⟩ := Construction.step_use moved
          cases used with
          | workerWrite fault writing =>
              have idle := quiet.idle
              rw [LoggerSetup.backend, writing] at idle
              exact idle
    have added := ordered.added
    rw [returned] at added
    exact ⟨returned, added⟩

/-- The worker has tested what the storage held and waits for a record when
the sinks are added, one of them by the client. -/
theorem sinks_added_undisturbed_early :
    let config : Config :=
      { pattern := ['%', 'm'], enableFile := true, queueCapacity := 2 }
    let labels : List (SetupLabel Unit Unit) :=
      [.backend (.use .workerCheck), .backend .construct,
        .backend .construct, .backend .construct, .backend .construct,
        .backend .construct, .proceed .opened, .proceed .opened, .addSink,
        .backend (.use (.logPush () { message := ['a'] })),
        .backend (.use .workerPop), .backend (.use (.workerWrite {}))]
    let machine := setupMachine Unit Unit .epoch config ⟨false, 7, 3⟩
      fun _ => none
    ∃ setup : LoggerSetup Unit Unit,
      setup.backend.output.received =
        [[['a', '\n']], [['a', '\n']], [['a', '\n']]] ∧
      ∀ transition ∈ machine.transitions machine.start labels,
        transition.label = .addSink → transition.before.logged = false →
          ¬ transition.before.AtSinks := by
  intro config labels machine
  obtain ⟨setup, run, received⟩ := Machine.exists_run machine Machine.Free
    machine.start labels (fun setup => setup.backend.output.received =
      [[['a', '\n']], [['a', '\n']], [['a', '\n']]]) (by decide +kernel)
  refine ⟨setup, received, fun transition member => ?_⟩
  exact (sinks_added_undisturbed run transition member).2.1

/-- A step before the first call of the client, in which the worker does not
test `m_running` too early. -/
def InConstructor {ι κ : Type} (setup : LoggerSetup ι κ) :
    SetupLabel ι κ → Prop
  | .backend label =>
      setup.construction.Inside Construction.ChecksInitialized label
  | .proceed _ | .addSink => True

/-- All that has happened to the backend is that sinks were added. -/
structure Prepared {ι κ : Type} (config : Config) (count : Nat)
    (construction : Construction ι κ LogRecord Output) : Prop where
  untouched : construction.Untouched config.queueCapacity
    config.overflowPolicy
    { formatter := Formatter.make config.pattern
      sinks := List.replicate count {} }
  building : construction.Building
  serves : construction.ServesUntilStopped

namespace Prepared

variable {ι κ : Type} {platform : Platform} {config : Config} {count : Nat}
  {found : Directory}

theorem start (config : Config) (storage : Storage) (found : Directory) :
    Prepared config 0
      (make config storage found : LoggerSetup ι κ).construction where
  untouched := .start storage _ _ _
  building := .start storage _ _ _
  serves _ := rfl

theorem pushSink {setup : LoggerSetup ι κ}
    (prepared : Prepared config count setup.construction) :
    Prepared config (count + 1) setup.pushSink.construction := by
  refine ⟨?_, ⟨prepared.building.stopping, prepared.building.running⟩,
    prepared.serves⟩
  have added := prepared.untouched.replace prepared.untouched.waiting
    setup.construction.backend.output.addSink
  have same : setup.construction.backend.output.addSink =
      { formatter := Formatter.make config.pattern
        sinks := List.replicate (count + 1) {} } := by
    rw [prepared.untouched.output_eq, List.replicate_succ']
    rfl
  rw [← same]
  exact added

variable [DecidableEq ι] [DecidableEq κ]

theorem backend {before after : Construction ι κ LogRecord Output}
    (prepared : Prepared config count before)
    {label : ConstructionLabel ι κ LogRecord EmitFault}
    (inside : before.Inside Construction.ChecksInitialized label)
    (stepped : before.step (Output.emitter platform) label = some after) :
    Prepared config count after := by
  have moved : (constructionMachine ι κ (Output.emitter platform)
      ⟨true, 0, 0⟩ config.queueCapacity config.overflowPolicy
      { formatter := Formatter.make config.pattern
        sinks := List.replicate count {} }).step before label =
        some after := stepped
  exact ⟨Construction.Untouched.preserved moved inside prepared.untouched,
    Construction.Building.preserved moved trivial prepared.building,
    (Construction.servesUntilStopped_iff prepared.building prepared.serves
      stepped).mpr inside.1⟩

theorem preserved {storage : Storage} :
    (setupMachine ι κ platform config storage found).Preserves InConstructor
      fun setup => ∃ count, Prepared config count setup.construction := by
  rintro before label after stepped admitted ⟨count, prepared⟩
  cases SetupStep.of_step stepped with
  | backend allowed moved => exact ⟨count, prepared.backend admitted moved⟩
  | consoleAdded | fileAdded | addSink => exact ⟨_, prepared.pushSink⟩
  | consoleSkipped | fileThrew | fileSkipped => exact ⟨count, prepared⟩

end Prepared

/-- When the constructor has returned, and however many sinks the client has
added since, the logger is one of those that the client's program starts
from. -/
theorem built_of_returned {platform : Platform} {config : Config}
    {storage : Storage} {found : Directory} {recordSize : Nat}
    {labels : List (SetupLabel Unit Unit)} {setup : LoggerSetup Unit Unit}
    (room : config.queueCapacity ≤ vectorMaxSize recordSize)
    (run : (setupMachine Unit Unit platform config storage found).Run
      InConstructor (.make config storage found) labels setup)
    (returned : setup.phase = .returned) (program : List Command) :
    AsyncLogger.Built platform Construction.ChecksInitialized recordSize
      config (List.replicate setup.backend.output.sinks.length {}) program
      (.make config setup.backend program) := by
  have ordered := run.free.invariant Ordered.preserved
    (.start config storage found)
  obtain ⟨count, prepared⟩ := run.invariant Prepared.preserved
    ⟨0, .start config storage found⟩
  have sinks : setup.backend.output.sinks.length = count := by
    rw [backend, prepared.untouched.output_eq, List.length_replicate]
  rw [sinks, backend]
  rcases prepared.untouched.eq_make_or_checked
      (ordered.built (by simp [returned])) prepared.serves with
    isFresh | isChecked
  · rw [isFresh]
    exact .of_fresh room storage
  · rw [isChecked]
    exact .of_exec room ⟨true, 0, 0⟩ [.use .workerCheck, .construct,
      .construct, .construct, .construct, .construct] rfl

/-- What the worker still does until it returns, nothing being queued. -/
def workerLeft (isRunning : Bool) : Worker LogRecord → Nat
  | .checking => if isRunning then 5 else 3
  | .popping .serving => 4
  | .popping .draining => 2
  | .flushing => 1
  | .returned | .writing _ _ | .counting _ _ | .comparing _ | .notifying => 0

def stopLeft : StopCall → Nat
  | .outside => 3
  | .shuttingDown => 2
  | .joining => 1
  | .done => 0

def unwindLeft {ι κ : Type} (backend : AsyncBackend ι κ LogRecord Output) :
    Nat :=
  workerLeft backend.mRunning backend.worker + stopLeft backend.stopper

theorem unwindLeft_le {ι κ : Type}
    (backend : AsyncBackend ι κ LogRecord Output) :
    unwindLeft backend ≤ 8 := by
  have worker : workerLeft backend.mRunning backend.worker ≤ 5 := by
    unfold workerLeft
    split <;> first | omega | split <;> omega
  have stopper : stopLeft backend.stopper ≤ 3 := by
    unfold stopLeft
    split <;> omega
  unfold unwindLeft
  omega

theorem Quiet.pays {ι κ : Type} [DecidableEq ι] [DecidableEq κ]
    {platform : Platform} {before after : AsyncBackend ι κ LogRecord Output}
    {label : AsyncLabel ι κ LogRecord EmitFault} (quiet : Quiet before)
    (halting : Halting before)
    (running : before.stopper = .outside → before.mRunning = true)
    (inside : label.byWorker = true ∨ label.byStop = true)
    (stepped : AsyncStep (Output.emitter platform) before label after) :
    unwindLeft after < unwindLeft before := by
  have idle := quiet.idle
  unfold unwindLeft
  cases stepped with
  | workerCheck checking =>
      rw [checking]
      cases before.mRunning <;> simp [workerLeft]
  | workerPop place popped =>
      obtain ⟨impossible, _⟩ := Custody.pop_empty quiet.empty popped
      cases impossible
  | workerMiss place popped =>
      obtain ⟨_, _, closed⟩ := Custody.pop_empty quiet.empty popped
      have halted : before.mRunning = false := by
        apply halting.halted
        rcases halting.closed.mp closed with joining | done <;> simp [*]
      simp [place, halted, workerLeft]
  | workerDrained place popped => simp [place, workerLeft]
  | workerWrite fault place | workerServed place | workerDraining place
  | workerEqual place | workerUnequal place | workerNotify place =>
      rw [place] at idle
      exact idle.elim
  | workerFlush flushing => simp [flushing, workerLeft]
  | stopBegin outside isRunning =>
      have lower : workerLeft false before.worker ≤
          workerLeft true before.worker := by
        unfold workerLeft
        split <;> simp
      simp only [outside, isRunning, stopLeft]
      omega
  | stopAgain outside stopped =>
      rw [running outside] at stopped
      cases stopped
  | stopShutdown shuttingDown => simp [shuttingDown, stopLeft]
  | stopJoin joining returned => simp [joining, stopLeft]
  | logAccepted | logRefused | logCount | flushEnter | flushLock
  | flushLoadProcessed | flushLoadSubmitted | flushPass | flushSleep
  | flushSpurious | flushReturn =>
      simp [AsyncLabel.byWorker, AsyncLabel.byStop] at inside

section Unwinding

variable {ι κ : Type} [DecidableEq ι] [DecidableEq κ] {platform : Platform}
  {config : Config} {found : Directory} {before after setup : LoggerSetup ι κ}
  {label : SetupLabel ι κ} {message : Text}

/-- The exception is on its way to the caller of the constructor. -/
structure Unwinding (config : Config) (found : Directory) (message : Text)
    (setup : LoggerSetup ι κ) : Prop where
  ordered : Ordered config found setup
  thrown : setup.phase = .thrown message

namespace Unwinding

/-- Only the destructor of the backend and the worker are left. -/
theorem cases_step (unwinding : Unwinding config found message before)
    (stepped : SetupStep platform before label after) :
    ∃ used next, (used.byWorker = true ∨ used.byStop = true) ∧
      AsyncStep (Output.emitter platform) before.backend used next ∧
      after = { before with
        construction := { before.construction with backend := next } } := by
  have built := unwinding.ordered.built (by simp [unwinding.thrown])
  have thrown := unwinding.thrown
  cases stepped with
  | @backend label construction allowed moved =>
      cases label with
      | construct =>
          obtain ⟨member, rest, pending, _⟩ :=
            Construction.step_construct moved
          rw [built] at pending
          cases pending
      | use label =>
          obtain ⟨_, next, used, rfl⟩ := Construction.step_use moved
          have inside : label.byWorker = true ∨ label.byStop = true := by
            simpa [allows, thrown] using allowed
          refine ⟨label, next, inside, used, ?_⟩
          simp [logs, inside_constructor inside]
  | consoleAdded built phase | consoleSkipped built phase
  | fileAdded built phase | fileThrew built phase | fileSkipped built phase
  | addSink built phase =>
      rw [thrown] at phase
      cases phase

theorem step (unwinding : Unwinding config found message before)
    (stepped : SetupStep platform before label after) :
    Unwinding config found message after := by
  refine ⟨unwinding.ordered.step stepped, ?_⟩
  obtain ⟨_, _, _, _, rfl⟩ := unwinding.cases_step stepped
  exact unwinding.thrown

omit [DecidableEq ι] [DecidableEq κ] in
theorem facts (unwinding : Unwinding config found message before) :
    Quiet before.backend ∧ Halting before.backend ∧
      (before.backend.stopper = .outside →
        before.backend.mRunning = true) := by
  have thrown := unwinding.thrown
  have ordered := unwinding.ordered
  have unlogged := ordered.unlogged (by simp [thrown])
  have built := ordered.built (by simp [thrown])
  exact ⟨ordered.quiet unlogged, ordered.halting unlogged,
    ordered.building.running (by simp [built])⟩

theorem pays (unwinding : Unwinding config found message before)
    (stepped : SetupStep platform before label after) :
    unwindLeft after.backend < unwindLeft before.backend := by
  obtain ⟨quiet, halting, running⟩ := unwinding.facts
  obtain ⟨_, _, inside, moved, rfl⟩ := unwinding.cases_step stepped
  exact Quiet.pays quiet halting running inside moved

/-- The destructor of the backend and the worker are stuck themselves if
nothing can go on. -/
theorem refused {storage : Storage} {start : Directory}
    (unwinding : Unwinding config found message setup)
    (stuck : (setupMachine ι κ platform config storage start).Stuck
      Machine.Free setup)
    (used : AsyncLabel ι κ LogRecord EmitFault)
    (inside : used.byWorker = true ∨ used.byStop = true) :
    setup.construction.backend.step (Output.emitter platform) used = none := by
  have built := unwinding.ordered.built (by simp [unwinding.thrown])
  have refused := stuck (.backend (.use used)) trivial
  have allowed : setup.allows (.use used) = true := by
    simpa [allows, unwinding.thrown] using inside
  simpa [setupMachine, LoggerSetup.step, allowed, Construction.step, built]
    using refused

/-- When nothing can go on, the worker is joined. -/
theorem joined_of_stuck {storage : Storage} {start : Directory}
    (unwinding : Unwinding config found message setup)
    (stuck : (setupMachine ι κ platform config storage start).Stuck
      Machine.Free setup) :
    setup.backend.worker = .returned ∧ setup.backend.stopper = .done := by
  obtain ⟨quiet, halting, running⟩ := unwinding.facts
  have refused := unwinding.refused stuck
  have idle := quiet.idle
  rw [LoggerSetup.backend] at quiet halting running idle ⊢
  cases stopper : setup.construction.backend.stopper with
  | outside =>
      have blocked := refused .stopBegin (.inr rfl)
      simp [AsyncBackend.step, AsyncBackend.stopBegin, stopper,
        running stopper] at blocked
  | shuttingDown =>
      have blocked := refused .stopShutdown (.inr rfl)
      simp [AsyncBackend.step, AsyncBackend.stopShutdown, stopper] at blocked
  | joining =>
      have closed := halting.closed.mpr (.inl stopper)
      cases place : setup.construction.backend.worker with
      | checking =>
          have blocked := refused .workerCheck (.inl rfl)
          simp [AsyncBackend.step, AsyncBackend.workerCheck, place]
            at blocked
      | popping loop =>
          have blocked := refused .workerPop (.inl rfl)
          have popped := Custody.pop_closed quiet.empty closed
          cases loop <;>
            simp [AsyncBackend.step, AsyncBackend.workerPop, place, popped]
              at blocked
      | flushing =>
          have blocked := refused .workerFlush (.inl rfl)
          simp [AsyncBackend.step, AsyncBackend.workerFlush, place]
            at blocked
      | returned =>
          have blocked := refused .stopJoin (.inr rfl)
          simp [AsyncBackend.step, AsyncBackend.stopJoin, stopper, place]
            at blocked
      | writing | counting | comparing | notifying =>
          rw [place] at idle
          exact idle.elim
  | done => exact ⟨halting.joined stopper, rfl⟩

end Unwinding

/-- If the log file does not open, the exception leaves the constructor: no
file has changed, no sink has got a record, and the destructor of the backend
and its worker end after at most eight steps, in any order, with the worker
joined. -/
theorem failed_constructor_unwinds {storage : Storage}
    {labels : List (SetupLabel ι κ)}
    (run : (setupMachine ι κ platform config storage found).Run Machine.Free
      (.make config storage found) labels setup)
    (thrown : setup.phase = .thrown message) {onward : List (SetupLabel ι κ)}
    {last : LoggerSetup ι κ}
    (unwound : (setupMachine ι κ platform config storage found).Run
      Machine.Free setup onward last) :
    (config.enableFile = true ∧ ∃ outcome,
      FileSink.make config.filePath outcome found = .error message) ∧
    (last.phase = .thrown message ∧ last.directory = found ∧
      ∀ sink ∈ last.backend.output.sinks, sink.received = []) ∧
    onward.length ≤ 8 ∧
    ((setupMachine ι κ platform config storage found).Stuck Machine.Free
        last →
      last.backend.worker = .returned ∧ last.backend.stopper = .done) ∧
    ∃ more rest, (setupMachine ι κ platform config storage found).Run
        Machine.Free last more rest ∧
      rest.backend.worker = .returned ∧ rest.backend.stopper = .done := by
  have preserved : (setupMachine ι κ platform config storage found).Preserves
      Machine.Free (Unwinding config found message) :=
    fun _ _ _ stepped _ unwinding => unwinding.step (.of_step stepped)
  have paid ⦃before : LoggerSetup ι κ⦄ ⦃label : SetupLabel ι κ⦄
      ⦃after : LoggerSetup ι κ⦄
      (stepped : (setupMachine ι κ platform config storage found).step
        before label = some after) (_ : Machine.Free before label)
      (unwinding : Unwinding config found message before) :
      unwindLeft after.backend < unwindLeft before.backend :=
    unwinding.pays (.of_step stepped)
  have first : Unwinding config found message setup :=
    ⟨run.invariant Ordered.preserved (.start config storage found), thrown⟩
  have unwinding := unwound.invariant preserved first
  refine ⟨first.ordered.threw message thrown, ⟨unwinding.thrown, ?_, ?_⟩,
    ?_, unwinding.joined_of_stuck, ?_⟩
  · exact unwinding.ordered.unopened (by simp [unwinding.thrown])
  · exact unwinding.facts.1.unwritten
  · have bounded : onward.length + unwindLeft last.backend ≤
        unwindLeft setup.backend := unwound.length_le preserved paid first
    have small := unwindLeft_le setup.backend
    omega
  · obtain ⟨more, rest, finishing, stuck⟩ :=
      Machine.exists_run_stuck preserved paid last unwinding
    exact ⟨more, rest, finishing,
      (finishing.invariant preserved unwinding).joined_of_stuck stuck⟩

/-- The storage held `false`, and the worker is already in the loop that only
drains the queue. -/
theorem failed_constructor_unwinds_draining :
    let config : Config := { enableFile := true, queueCapacity := 1 }
    let machine := setupMachine Unit Unit .epoch config ⟨false, 7, 3⟩
      fun _ => none
    ∃ setup last : LoggerSetup Unit Unit,
      setup.phase = .thrown "Failed to to open log file.".toList ∧
      machine.Run Machine.Free setup
        [.backend (.use .stopBegin), .backend (.use .stopShutdown)] last ∧
      ∃ more rest, machine.Run Machine.Free last more rest ∧
        rest.backend.worker = .returned ∧ rest.backend.stopper = .done := by
  intro config machine
  obtain ⟨setup, run, thrown, goesOn⟩ := Machine.exists_run machine
    Machine.Free machine.start
    [.backend (.use .workerCheck), .backend .construct, .backend .construct,
      .backend .construct, .backend .construct, .backend .construct,
      .proceed .opened, .proceed .notOpened]
    (fun setup =>
      setup.phase = .thrown "Failed to to open log file.".toList ∧
      (machine.exec Machine.Free setup [.backend (.use .stopBegin),
        .backend (.use .stopShutdown)]).isSome = true) (by decide +kernel)
  obtain ⟨last, reached⟩ := Option.isSome_iff_exists.mp goesOn
  have unwound := Machine.run_of_exec _ Machine.Free setup _ reached
  exact ⟨setup, last, thrown, unwound,
    (failed_constructor_unwinds run thrown unwound).2.2.2.2⟩

end Unwinding

end LoggerSetup

end LogParse
