import LogParse.AsyncProgress
import LogParse.Construction

/-!
# The destructor of the asynchronous backend terminates

The destructor calls `stop` when nobody else uses the object.  From then on
the worker and `stop` are alone, and together they take a number of steps that
is bounded by the records still queued, in whatever order and whatever throws;
when they can take no more, the worker is joined.
-/

namespace LogParse

/-- What the worker still does when `m_running` is false, the records in the
queue aside, for each of which it takes three steps. -/
def Worker.stepsLeft {ρ : Type} : Worker ρ → Nat
  | .writing .serving _ => 7
  | .counting .serving _ => 6
  | .comparing _ | .popping .serving => 5
  | .notifying | .writing .draining _ => 4
  | .checking | .counting .draining _ => 3
  | .popping .draining => 2
  | .flushing => 1
  | .returned => 0

def StopCall.stepsLeft : StopCall → Nat
  | .outside | .shuttingDown => 2
  | .joining => 1
  | .done => 0

/-- A step of the worker or of `stop` once it has begun. -/
def AsyncLabel.ofDestructor {ι κ ρ φ : Type} (label : AsyncLabel ι κ ρ φ) :
    Bool :=
  match label with
  | .stopShutdown | .stopJoin => true
  | _ => label.byWorker

namespace AsyncBackend

variable {ι κ ρ ε φ : Type} [DecidableEq ι] [DecidableEq κ]
  {before after backend : AsyncBackend ι κ ρ ε} {emitter : Emitter ρ ε φ}
  {label : AsyncLabel ι κ ρ φ}

/-- `stop` does its steps in order, and the mutex is held by a caller of
`flush`. -/
structure Shutting (backend : AsyncBackend ι κ ρ ε) : Prop where
  running : backend.stopper = .outside → backend.mRunning = true
  closed : backend.stopper = .joining ∨ backend.stopper = .done →
    backend.custody.queue.mShutdown = true
  joined : backend.stopper = .done → backend.worker = .returned
  held : ∀ caller, backend.mFlushMutex = some caller →
    (backend.flushers caller).holdsMutex = true

namespace Shutting

omit [DecidableEq ι] in
/-- One caller of `flush` moves on. -/
theorem place (shutting : before.Shutting) {caller : κ} {call : FlushCall}
    {mutex : Option κ} {output : ε} {calls : List (SinkCall ρ)}
    (held : mutex = some caller → call.holdsMutex = true)
    (others : ∀ other, other ≠ caller → mutex = some other →
      (before.flushers other).holdsMutex = true) :
    ({ before.placeFlusher caller call with
      output := output
      calls := calls
      mFlushMutex := mutex } : AsyncBackend ι κ ρ ε).Shutting := by
  refine ⟨shutting.running, shutting.closed, shutting.joined, ?_⟩
  intro other locked
  by_cases same : other = caller
  · subst other
    simpa [placeFlusher] using held locked
  · simpa [placeFlusher, same] using others other same locked

theorem step (shutting : before.Shutting) (sound : before.custody.Sound)
    (stepped : AsyncStep emitter before label after) : after.Shutting := by
  obtain ⟨running, closed, joined, held⟩ := shutting
  cases stepped with
  | logAccepted outside pushed =>
      refine ⟨running, fun stopping => ?_, joined, held⟩
      dsimp only
      rw [(sound.accepted pushed).shutdown_eq]
      exact closed stopping
  | logRefused outside pushed =>
      obtain ⟨_, rfl⟩ := sound.refused pushed
      exact ⟨running, closed, joined, held⟩
  | workerPop popping popped =>
      refine ⟨running, fun stopping => ?_, fun done => ?_, held⟩
      · dsimp only
        rw [(sound.delivered popped).shutdown_eq]
        exact closed stopping
      · simp [joined done] at popping
  | workerMiss popping popped | workerDrained popping popped =>
      obtain ⟨_, _, rfl⟩ := sound.ended popped
      refine ⟨running, closed, fun done => ?_, held⟩
      simp [joined done] at popping
  | workerCheck place | workerWrite fault place | workerServed place
  | workerDraining place | workerEqual place | workerUnequal place =>
      refine ⟨running, closed, fun done => ?_, held⟩
      simp [joined done] at place
  | workerNotify notifying unlocked =>
      refine ⟨running, closed, fun done => ?_, fun caller locked => ?_⟩
      · simp [joined done] at notifying
      · simp [unlocked] at locked
  | workerFlush flushing => exact ⟨running, closed, fun _ => rfl, held⟩
  | flushEnter outside =>
      refine place ⟨running, closed, joined, held⟩ ?_
        (fun other _ => held other)
      intro locked
      have holds := held _ locked
      simp [outside, FlushCall.holdsMutex] at holds
  | flushLock entering unlocked =>
      refine place ⟨running, closed, joined, held⟩ (fun _ => rfl) ?_
      intro other different locked
      exact absurd (Option.some.inj locked).symm different
  | flushLoadProcessed testing | flushLoadSubmitted testing
  | flushPass testing equal =>
      exact place ⟨running, closed, joined, held⟩ (fun _ => rfl)
        (fun other _ => held other)
  | flushSleep testing unequal =>
      exact place ⟨running, closed, joined, held⟩ (by simp) (by simp)
  | flushSpurious asleep =>
      refine place ⟨running, closed, joined, held⟩ ?_
        (fun other _ => held other)
      intro locked
      have holds := held _ locked
      simp [asleep, FlushCall.holdsMutex] at holds
  | flushReturn passed =>
      exact place ⟨running, closed, joined, held⟩ (by simp) (by simp)
  | stopBegin outside isRunning =>
      exact ⟨by simp, by simp, by simp, held⟩
  | stopAgain outside stopped =>
      simp [running outside] at stopped
  | stopShutdown shuttingDown =>
      exact ⟨by simp, fun _ => rfl, by simp, held⟩
  | stopJoin joining returned =>
      exact ⟨by simp, fun _ => closed (.inl joining), fun _ => returned, held⟩
  | logCount submitting => exact ⟨running, closed, joined, held⟩

omit [DecidableEq ι] [DecidableEq κ] in
theorem start [Inhabited ρ] (capacity : Nat) (policy : OverflowPolicy)
    (output : ε) :
    (AsyncBackend.make capacity policy output :
      AsyncBackend ι κ ρ ε).Shutting where
  running _ := rfl
  closed := by simp [AsyncBackend.make]
  joined := by simp [AsyncBackend.make]
  held := by simp [AsyncBackend.make]

end Shutting

/-- Only the worker and `stop` are left. -/
structure Closing (backend : AsyncBackend ι κ ρ ε) : Prop where
  draining : backend.Draining
  shutting : backend.Shutting
  begun : backend.stopper ≠ .outside
  alone : ∀ caller, backend.flushers caller = .outside

def stepsLeft (backend : AsyncBackend ι κ ρ ε) : Nat :=
  3 * backend.custody.queue.contents.length + backend.worker.stepsLeft +
    backend.stopper.stepsLeft

omit [DecidableEq ι] [DecidableEq κ] in
theorem stepsLeft_le (backend : AsyncBackend ι κ ρ ε) :
    backend.stepsLeft ≤ 3 * backend.custody.queue.contents.length + 9 := by
  have worker : backend.worker.stepsLeft ≤ 7 := by
    unfold Worker.stepsLeft
    split <;> omega
  have stopper : backend.stopper.stepsLeft ≤ 2 := by
    unfold StopCall.stepsLeft
    split <;> omega
  unfold stepsLeft
  omega

abbrev OfDestructor (_before : AsyncBackend ι κ ρ ε)
    (label : AsyncLabel ι κ ρ φ) : Prop :=
  label.ofDestructor = true

namespace Closing

omit [DecidableEq ι] [DecidableEq κ] in
theorem orderly (ofDestructor : label.ofDestructor = true) :
    before.Orderly label := by
  constructor <;> intro isLabel <;> cases label <;>
    simp_all [AsyncLabel.isLogPush, AsyncLabel.isStopBegin,
      AsyncLabel.ofDestructor, AsyncLabel.byWorker]

theorem step (closing : before.Closing)
    (stepped : AsyncStep emitter before label after)
    (ofDestructor : label.ofDestructor = true) : after.Closing := by
  have draining := closing.draining.step (orderly ofDestructor) stepped
  have shutting :=
    closing.shutting.step closing.draining.accounts.sound stepped
  refine ⟨draining, shutting, ?_, ?_⟩
  · have begun := closing.begun
    cases stepped <;> first | exact begun | simp
  · have alone := closing.alone
    cases stepped with
    | workerNotify notifying unlocked =>
        intro caller
        simp [alone caller, FlushCall.wake]
    | _ => first | exact alone | cases ofDestructor

/-- Each step lowers what is left. -/
theorem pays (closing : before.Closing)
    (stepped : AsyncStep emitter before label after)
    (ofDestructor : label.ofDestructor = true) :
    after.stepsLeft < before.stepsLeft := by
  have sound := closing.draining.accounts.sound
  have stopped := closing.draining.stopping closing.begun
  cases stepped with
  | workerCheck checking =>
      simp [stepsLeft, checking, stopped, Worker.stepsLeft]
  | @workerPop loop entry custody popping popped =>
      have shorter := congrArg List.length (sound.delivered popped).contents
      cases loop <;>
        simp only [stepsLeft, popping, Worker.stepsLeft, shorter,
          List.length_cons] <;> omega
  | workerMiss popping popped | workerDrained popping popped =>
      obtain ⟨_, _, rfl⟩ := sound.ended popped
      simp [stepsLeft, popping, Worker.stepsLeft]
  | @workerWrite loop entry fault writing =>
      cases loop <;> simp [stepsLeft, writing, Worker.stepsLeft]
  | workerServed counting | workerDraining counting =>
      simp [stepsLeft, counting, Worker.stepsLeft]
  | workerEqual comparing | workerUnequal comparing unequal =>
      simp [stepsLeft, comparing, Worker.stepsLeft]
  | workerNotify notifying unlocked =>
      simp [stepsLeft, notifying, Worker.stepsLeft]
  | workerFlush flushing => simp [stepsLeft, flushing, Worker.stepsLeft]
  | stopShutdown shuttingDown =>
      simp [stepsLeft, shuttingDown, StopCall.stepsLeft]
  | stopJoin joining returned =>
      simp [stepsLeft, joining, StopCall.stepsLeft]
  | _ => cases ofDestructor

omit [DecidableEq ι] [DecidableEq κ] in
theorem byWorker_next (worker : Worker ρ) (fault : φ) :
    (worker.next ι κ fault).ofDestructor = true := by
  cases worker <;> rfl

/-- As long as the worker is not joined, it or `stop` can go on. -/
theorem joined_of_stuck [Inhabited ρ] [Inhabited φ] {capacity : Nat}
    {policy : OverflowPolicy} {output : ε} (closing : backend.Closing)
    (stuck : (asyncMachine ι κ emitter capacity policy output).Stuck
      OfDestructor backend) :
    backend.worker = .returned ∧ backend.stopper = .done := by
  have notShutting : backend.stopper ≠ .shuttingDown := by
    intro shuttingDown
    have refused := stuck .stopShutdown rfl
    simp [asyncMachine, AsyncBackend.step, stopShutdown, shuttingDown]
      at refused
  have later : backend.stopper = .joining ∨ backend.stopper = .done := by
    cases place : backend.stopper with
    | outside => exact absurd place closing.begun
    | shuttingDown => exact absurd place notShutting
    | joining => exact .inl rfl
    | done => exact .inr rfl
  have unlocked : backend.mFlushMutex = none := by
    cases mutex : backend.mFlushMutex with
    | none => rfl
    | some caller =>
        have holds := closing.shutting.held caller mutex
        simp [closing.alone caller, FlushCall.holdsMutex] at holds
  have returned : backend.worker = .returned := by
    by_contra alive
    have moves := worker_moves closing.draining.accounts emitter
      (default : φ) alive unlocked
      (fun _ _ => .inr (closing.shutting.closed later))
    have refused := stuck _ (byWorker_next backend.worker (default : φ))
    simp only [asyncMachine] at refused
    simp [refused] at moves
  refine ⟨returned, ?_⟩
  rcases later with joining | done
  · have refused := stuck .stopJoin rfl
    simp [asyncMachine, AsyncBackend.step, stopJoin, joining, returned]
      at refused
  · exact done

end Closing

/-- Once `stop` has begun on an object that nobody else uses, the worker and
`stop` take at most nine steps and three for each record in the queue, in any
order; they are not stuck before the worker is joined, and then everything is
written. -/
theorem destructor_terminates [Inhabited ρ] [Inhabited φ] {capacity : Nat}
    (positive : 0 < capacity) {policy : OverflowPolicy} {output : ε}
    {labels : List (AsyncLabel ι κ ρ φ)}
    (run : (asyncMachine ι κ emitter capacity policy output).Run Orderly
      (.make capacity policy output) labels backend)
    (begun : backend.stopper ≠ .outside)
    (alone : ∀ caller, backend.flushers caller = .outside)
    {onward : List (AsyncLabel ι κ ρ φ)} {last : AsyncBackend ι κ ρ ε}
    (destroying : (asyncMachine ι κ emitter capacity policy output).Run
      OfDestructor backend onward last) :
    onward.length ≤ 3 * backend.custody.queue.contents.length + 9 ∧
    ((asyncMachine ι κ emitter capacity policy output).Stuck OfDestructor
        last →
      last.worker = .returned ∧ last.stopper = .done ∧
        last.written = last.custody.ledger.survivors) ∧
    ∃ more rest, (asyncMachine ι κ emitter capacity policy output).Run
        OfDestructor last more rest ∧
      rest.worker = .returned ∧ rest.stopper = .done ∧
        rest.written = rest.custody.ledger.survivors := by
  have kept : (asyncMachine ι κ emitter capacity policy output).Preserves
      Orderly fun backend => backend.Draining ∧ backend.Shutting :=
    fun _ _ _ stepped orderly held =>
      ⟨held.1.step orderly (.of_step stepped),
        held.2.step held.1.accounts.sound (.of_step stepped)⟩
  obtain ⟨draining, shutting⟩ := run.invariant kept
    ⟨.start policy positive output, .start capacity policy output⟩
  have closing : backend.Closing := ⟨draining, shutting, begun, alone⟩
  have preserved : (asyncMachine ι κ emitter capacity policy
      output).Preserves OfDestructor Closing :=
    fun _ _ _ stepped ofDestructor held =>
      held.step (.of_step stepped) ofDestructor
  have paid ⦃before : AsyncBackend ι κ ρ ε⦄ ⦃label : AsyncLabel ι κ ρ φ⦄
      ⦃after : AsyncBackend ι κ ρ ε⦄
      (stepped : (asyncMachine ι κ emitter capacity policy output).step
        before label = some after)
      (ofDestructor : OfDestructor before label) (held : before.Closing) :
      after.stepsLeft < before.stepsLeft :=
    held.pays (.of_step stepped) ofDestructor
  have ends {final : AsyncBackend ι κ ρ ε} (closed : final.Closing)
      (stuck : (asyncMachine ι κ emitter capacity policy output).Stuck
        OfDestructor final) :
      final.worker = .returned ∧ final.stopper = .done ∧
        final.written = final.custody.ledger.survivors := by
    obtain ⟨returned, done⟩ := closed.joined_of_stuck stuck
    exact ⟨returned, done, (closed.draining.returned returned).1⟩
  have closingLast := destroying.invariant preserved closing
  refine ⟨?_, ends closingLast, ?_⟩
  · have bounded := destroying.length_le preserved paid closing
    exact Nat.le_trans (Nat.le_of_add_right_le bounded) backend.stepsLeft_le
  · obtain ⟨more, rest, finishing, stuck⟩ :=
      Machine.exists_run_stuck preserved paid last closingLast
    exact ⟨more, rest, finishing,
      ends (finishing.invariant preserved closingLast) stuck⟩

/-- A record is queued when `stop` begins, and the worker has just popped
another one. -/
theorem destructor_terminates_queued :
    ∃ backend last : AsyncBackend Unit Unit Nat Unit,
      (asyncMachine Unit Unit Emitter.silent 2 .dropOldest ()).Run Orderly
        (.make 2 .dropOldest ())
        [.logPush () 7, .logCount (), .logPush () 8, .logCount (),
          .workerCheck, .workerPop, .stopBegin] backend ∧
      (asyncMachine Unit Unit Emitter.silent 2 .dropOldest ()).Run
        OfDestructor backend [.workerWrite (), .stopShutdown] last ∧
      ∃ more rest, (asyncMachine Unit Unit Emitter.silent 2 .dropOldest
          ()).Run OfDestructor last more rest ∧
        rest.worker = .returned ∧ rest.stopper = .done ∧
          rest.written = rest.custody.ledger.survivors := by
  obtain ⟨backend, run, begun, alone, goesOn⟩ := Machine.exists_run
    (asyncMachine Unit Unit (Emitter.silent (ρ := Nat)) 2 .dropOldest ())
    Orderly (.make 2 .dropOldest ())
    [.logPush () 7, .logCount (), .logPush () 8, .logCount (),
      .workerCheck, .workerPop, .stopBegin]
    (fun backend => backend.stopper ≠ .outside ∧
      (∀ caller, backend.flushers caller = .outside) ∧
      ((asyncMachine Unit Unit Emitter.silent 2 .dropOldest ()).exec
        OfDestructor backend [.workerWrite (), .stopShutdown]).isSome = true)
    (by decide)
  obtain ⟨last, reached⟩ := Option.isSome_iff_exists.mp goesOn
  have destroying := Machine.run_of_exec _ OfDestructor backend _ reached
  exact ⟨backend, last, run, destroying,
    (destructor_terminates (by decide) run begun alone destroying).2.2⟩

end AsyncBackend

end LogParse
