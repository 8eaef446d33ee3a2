import LogParse.ConstructedBackend
import LogParse.Logger

/-!
# The asynchronous logger that its constructor leaves behind

The worker is a new thread, with an empty timestamp cache, and may be ahead of
the constructor.  Of a worker that serves nothing more is to be seen than that
it has tested `m_running` already.
-/

namespace LogParse

namespace AsyncLogger

/-- A logger whose constructor has returned, in the steps admitted.  The
elements of its queue have the given size. -/
inductive Built (platform : Platform)
    (admits : Construction Unit Unit LogRecord Output →
      ConstructionLabel Unit Unit LogRecord EmitFault → Prop)
    (recordSize : Nat) (config : Config) (sinks : List Sink)
    (program : List Command) : AsyncLogger → Prop where
  | returned {storage : Storage}
      {labels : List (ConstructionLabel Unit Unit LogRecord EmitFault)}
      {construction : Construction Unit Unit LogRecord Output}
      (room : config.queueCapacity ≤ vectorMaxSize recordSize)
      (run : (constructionMachine Unit Unit (Output.emitter platform) storage
        config.queueCapacity config.overflowPolicy
        { formatter := Formatter.make config.pattern, sinks := sinks }).Run
          (Construction.Inside admits)
          (.make storage config.queueCapacity config.overflowPolicy
            { formatter := Formatter.make config.pattern, sinks := sinks })
          labels construction)
      (complete : construction.pending = []) :
      Built platform admits recordSize config sinks program
        (make config construction.backend program)

/-- The worker has yet to test `m_running`. -/
def fresh (config : Config) (sinks : List Sink) (program : List Command) :
    AsyncLogger :=
  make config
    (AsyncBackend.make config.queueCapacity config.overflowPolicy
      { formatter := Formatter.make config.pattern, sinks := sinks })
    program

namespace Built

variable {platform : Platform} {recordSize : Nat} {config : Config}
  {sinks : List Sink} {program : List Command} {start : AsyncLogger}

/-- A worker that serves has tested `m_running` in front of the client, or has
yet to do so. -/
theorem fresh_or_checked
    (built : Built platform Construction.ChecksInitialized recordSize config
      sinks program start) :
    start = fresh config sinks program ∨
      (fresh config sinks program).step platform (.backend .workerCheck) =
        some start := by
  obtain ⟨room, run, complete⟩ := built
  rcases Construction.built_eq run complete with isFresh | isChecked
  · left
    rw [isFresh]
    rfl
  · right
    rw [isChecked]
    rfl

/-- What holds before the worker's test, and is preserved by it, holds of the
logger that the constructor leaves behind. -/
theorem holds
    (built : Built platform Construction.ChecksInitialized recordSize config
      sinks program start) (holds : AsyncLogger → Prop)
    (initially : holds (fresh config sinks program))
    (checked : ∀ after,
      LoggerStep platform (fresh config sinks program)
        (.backend .workerCheck) after → holds after) : holds start := by
  rcases built.fresh_or_checked with rfl | stepped
  · exact initially
  · exact checked start (.of_step stepped)

theorem room_lt
    {admits : Construction Unit Unit LogRecord Output →
      ConstructionLabel Unit Unit LogRecord EmitFault → Prop}
    (built : Built platform admits recordSize config sinks program start) :
    config.queueCapacity < 2 ^ 63 := by
  obtain ⟨room, _, _⟩ := built
  exact room.trans_lt (vectorMaxSize_lt recordSize)

theorem of_exec
    {admits : Construction Unit Unit LogRecord Output →
      ConstructionLabel Unit Unit LogRecord EmitFault → Prop}
    [∀ construction label, Decidable (admits construction label)]
    (room : config.queueCapacity ≤ vectorMaxSize recordSize)
    (storage : Storage)
    (labels : List (ConstructionLabel Unit Unit LogRecord EmitFault))
    {backend : AsyncBackend Unit Unit LogRecord Output}
    (executed : (constructionMachine Unit Unit (Output.emitter platform)
      storage config.queueCapacity config.overflowPolicy
      { formatter := Formatter.make config.pattern, sinks := sinks }).exec
        (Construction.Inside admits)
        (.make storage config.queueCapacity config.overflowPolicy
          { formatter := Formatter.make config.pattern, sinks := sinks })
        labels = some ⟨backend, []⟩) :
    Built platform admits recordSize config sinks program
      (make config backend program) :=
  .returned room (Machine.run_of_exec _ _ _ _ executed) rfl

/-- Whatever the storage holds, the constructor can return before the worker
takes a step. -/
theorem of_fresh (room : config.queueCapacity ≤ vectorMaxSize recordSize)
    (storage : Storage) :
    Built platform Construction.ChecksInitialized recordSize config sinks
      program (fresh config sinks program) :=
  .of_exec room storage
    [.construct, .construct, .construct, .construct, .construct] rfl

end Built

end AsyncLogger

end LogParse
