import LogParse.ConfigFields
import LogParse.QueueCustody

/-!
# The queue that a configuration file asks for

Neither the parser nor a constructor on the way bounds `queue_capacity`, so
the queue also has to be safe without a single slot.  Under `DropOldest` it is
not.
-/

namespace LogParse

/-- The queue the constructor of `Logger` builds with its backend.  A
synchronous backend has none. -/
def Config.queue {ρ : Type} [Inhabited ρ] (config : Config) :
    Option (Queue ρ) :=
  if config.async then
    some (Queue.make config.queueCapacity config.overflowPolicy)
  else none

/-- The queue under any order of operations.  A fault ends the run. -/
def faultMachine {ρ : Type} (queue : Queue ρ) :
    Machine (Except Fault (Queue ρ)) (QueueOp ρ) where
  start := .ok queue
  step
    | .ok queue, .push record =>
        if queue.pushReady then some ((queue.push record).map Prod.snd)
        else none
    | .ok queue, .pop =>
        if queue.popReady then some (queue.pop.map Prod.snd) else none
    | .ok queue, .shutdown => some (.ok queue.shutdown)
    | .error _, _ => none

namespace Queue

variable {ρ : Type}

/-- No order of operations runs into a fault. -/
def Safe (queue : Queue ρ) : Prop :=
  ∀ ops last, (faultMachine queue).Run Machine.Free (.ok queue) ops last →
    ∃ after, last = .ok after

/-- A predicate that every operation preserves without a fault keeps the
queue safe. -/
theorem Safe.of_preserved {queue : Queue ρ} (holds : Queue ρ → Prop)
    (pushes : ∀ before record, holds before → before.pushReady = true →
      ∃ result after, before.push record = .ok (result, after) ∧ holds after)
    (pops : ∀ before, holds before → before.popReady = true →
      ∃ result after, before.pop = .ok (result, after) ∧ holds after)
    (shutdowns : ∀ before, holds before → holds before.shutdown)
    (initially : holds queue) : queue.Safe := by
  intro ops last run
  have preserved : (faultMachine queue).Preserves Machine.Free
      fun state => ∃ before, state = .ok before ∧ holds before := by
    rintro _ op after stepped _ ⟨before, rfl, held⟩
    cases op with
    | push record =>
        simp only [faultMachine] at stepped
        split at stepped
        · rename_i ready
          obtain ⟨result, next, pushed, nextHeld⟩ :=
            pushes before record held ready
          rw [pushed, Option.some.injEq] at stepped
          exact ⟨next, stepped.symm, nextHeld⟩
        · simp at stepped
    | pop =>
        simp only [faultMachine] at stepped
        split at stepped
        · rename_i ready
          obtain ⟨result, next, popped, nextHeld⟩ := pops before held ready
          rw [popped, Option.some.injEq] at stepped
          exact ⟨next, stepped.symm, nextHeld⟩
        · simp at stepped
    | shutdown =>
        simp only [faultMachine, Option.some.injEq] at stepped
        exact ⟨before.shutdown, stepped.symm, shutdowns before held⟩
  obtain ⟨after, lastEq, _⟩ :=
    run.invariant preserved ⟨queue, rfl, initially⟩
  exact ⟨after, lastEq⟩

/-- A well-formed queue, whatever its policy. -/
theorem WellFormed.safe {queue : Queue ρ} (formed : queue.WellFormed) :
    queue.Safe := by
  refine Safe.of_preserved WellFormed ?_ ?_ ?_ formed
  · intro before record held ready
    obtain ⟨after, pushed⟩ := held.push_spec ready record
    exact ⟨_, after, pushed.result, pushed.formed⟩
  · intro before held _
    cases contents : before.contents with
    | nil => exact ⟨none, before, held.pop_empty contents, held⟩
    | cons front rest =>
        obtain ⟨after, popped, afterFormed, _⟩ := held.pop_cons contents
        exact ⟨some front, after, popped, afterFormed⟩
  · intro before held
    exact held.shutdown

/-- A queue without a slot whose policy never makes room. -/
structure Slotless (queue : Queue ρ) : Prop where
  capacity : queue.mCapacity = 0
  size : queue.mSize = 0
  policy : queue.mPolicy ≠ .dropOldest

theorem Slotless.push_eq {queue : Queue ρ} (slotless : queue.Slotless)
    (ready : queue.pushReady = true) (record : ρ) :
    queue.push record = .ok (false, queue) := by
  obtain ⟨capacity, size, notOldest⟩ := slotless
  cases policy : queue.mPolicy with
  | block =>
      have stopped : queue.mShutdown = true := by
        simpa [pushReady, policy, capacity] using ready
      simp [push, policy, stopped, pure, Except.pure]
  | dropNewest | discard =>
      simp [push, policy, capacity, size, pure, Except.pure]
  | dropOldest => exact absurd policy notOldest

theorem Slotless.safe {queue : Queue ρ} (slotless : queue.Slotless) :
    queue.Safe := by
  refine Safe.of_preserved Slotless ?_ ?_ ?_ slotless
  · intro before record held ready
    exact ⟨false, before, held.push_eq ready record, held⟩
  · intro before held _
    exact ⟨none, before, by simp [pop, held.size, pure, Except.pure], held⟩
  · intro before held
    exact ⟨held.capacity, held.size, held.policy⟩

/-- A new queue is safe unless it has to make room where there is none. -/
theorem safe_make_iff [Inhabited ρ] (capacity : Nat)
    (policy : OverflowPolicy) :
    (Queue.make capacity policy : Queue ρ).Safe ↔
      capacity ≠ 0 ∨ policy ≠ .dropOldest := by
  constructor
  · intro safe
    by_contra unguarded
    obtain ⟨rfl, rfl⟩ : capacity = 0 ∧ policy = .dropOldest := by
      simpa [not_or] using unguarded
    have run : (faultMachine (Queue.make 0 .dropOldest : Queue ρ)).Run
        Machine.Free (.ok (Queue.make 0 .dropOldest))
        [.push default] (.error .remainderByZero) :=
      .single trivial rfl
    obtain ⟨after, impossible⟩ := safe _ _ run
    simp at impossible
  · intro guarded
    rcases Nat.eq_zero_or_pos capacity with rfl | positive
    · have notOldest := guarded.resolve_left (by simp)
      exact Slotless.safe ⟨rfl, rfl, notOldest⟩
    · exact (WellFormed.make policy positive).safe

end Queue

/-- Whatever the program then does with the queue of this configuration, no
operation runs into a fault. -/
def Config.QueueSafe (ρ : Type) [Inhabited ρ] (config : Config) : Prop :=
  ∀ queue : Queue ρ, config.queue = some queue → queue.Safe

theorem Config.queueSafe_iff {ρ : Type} [Inhabited ρ] (config : Config) :
    config.QueueSafe ρ ↔
      config.mode = .sync ∨ config.queueCapacity ≠ 0 ∨
        config.overflowPolicy ≠ .dropOldest := by
  cases mode : config.mode with
  | sync => simp [QueueSafe, Config.queue, Config.async, mode]
  | async =>
      have built : config.queue (ρ := ρ) =
          some (Queue.make config.queueCapacity config.overflowPolicy) := by
        simp [Config.queue, Config.async, mode]
      simp [QueueSafe, built, Queue.safe_make_iff]

/-- A configuration file gives a safe queue exactly when its last valid lines
do not ask for an asynchronous logger that drops the oldest of no records. -/
theorem parse_queueSafe_iff (ρ : Type) [Inhabited ρ] (input : Text) :
    (parse input).QueueSafe ρ ↔
      lastValid modeKeys parseMode .async input = .sync ∨
        lastValid queueCapacityKeys parseSize (65535 + 1) input ≠ 0 ∨
        lastValid overflowPolicyKeys parseOverflowPolicy .block input ≠
          .dropOldest := by
  rw [Config.queueSafe_iff, mode_hasKeys.parse_eq,
    queueCapacity_hasKeys.parse_eq, overflowPolicy_hasKeys.parse_eq]

theorem parse_not_queueSafe :
    ∃ queue : Queue Nat,
      (parse "queue_capacity=0\noverflow_policy=drop_oldest".toList).queue =
        some queue ∧
      queue.push 7 = .error .remainderByZero ∧
      ¬(parse
        "queue_capacity=0\noverflow_policy=drop_oldest".toList).QueueSafe
          Nat := by
  refine ⟨Queue.make 0 .dropOldest, by decide, by decide, ?_⟩
  rw [Config.queueSafe_iff]
  decide

end LogParse
