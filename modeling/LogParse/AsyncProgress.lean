import LogParse.AsyncFlush
import LogParse.AsyncShutdown

/-!
# Progress of the asynchronous backend

The worker waits in two places, in `pop` and for `m_flush_mutex`; a caller of
`flush` waits for that mutex and for a notification; a producer waits in
`push`.  Everywhere else a thread can take its next step.
-/

namespace LogParse

/-- What the worker does next. -/
def Worker.next {ρ : Type} (ι κ : Type) {φ : Type} (fault : φ) :
    Worker ρ → AsyncLabel ι κ ρ φ
  | .checking => .workerCheck
  | .popping _ => .workerPop
  | .writing _ _ => .workerWrite fault
  | .counting _ _ => .workerCount
  | .comparing _ => .workerCompare
  | .notifying => .workerNotify
  | .flushing | .returned => .workerFlush

/-- What a caller of `flush` does next, if it is not asleep. -/
def FlushCall.next {κ : Type} (ι ρ φ : Type) (caller : κ) :
    FlushCall → AsyncLabel ι κ ρ φ
  | .outside => .flushEnter caller
  | .entering _ => .flushLock caller
  | .testing _ none _ => .flushLoadProcessed caller
  | .testing _ (some _) none => .flushLoadSubmitted caller
  | .testing _ (some _) (some _) => .flushDecide caller
  | .asleep _ => .flushSpurious caller
  | .passed _ => .flushReturn caller

namespace AsyncBackend

variable {ι κ ρ ε φ : Type} [DecidableEq ι] [DecidableEq κ]

/-- A backend whose queue blocks: it evicts nothing and refuses records only
once it is shut down. -/
structure Blocking (capacity : Nat) (backend : AsyncBackend ι κ ρ ε) :
    Prop where
  capacity_eq : backend.custody.queue.mCapacity = capacity
  policy_eq : backend.custody.queue.mPolicy = .block
  kept : backend.custody.ledger.evicted = []
  closed : backend.custody.queue.mShutdown = true ↔
    backend.stopper = .joining ∨ backend.stopper = .done
  joined : backend.stopper = .done → backend.worker = .returned
  held : ∀ caller, backend.mFlushMutex = some caller →
    (backend.flushers caller).holdsMutex = true

namespace Blocking

variable {before after backend : AsyncBackend ι κ ρ ε}
  {emitter : Emitter ρ ε φ} {label : AsyncLabel ι κ ρ φ} {capacity : Nat}

omit [DecidableEq ι] [DecidableEq κ] in
/-- The worker moves on. -/
theorem move (blocking : before.Blocking capacity) {next : Worker ρ}
    {output : ε} {calls : List (SinkCall ρ)} {processed : UInt64}
    {finished : List Nat} (alive : before.worker ≠ .returned) :
    ({ before with
      output := output
      calls := calls
      mProcessed := processed
      finished := finished
      worker := next } : AsyncBackend ι κ ρ ε).Blocking capacity :=
  ⟨blocking.capacity_eq, blocking.policy_eq, blocking.kept, blocking.closed,
    fun done => absurd (blocking.joined done) alive, blocking.held⟩

omit [DecidableEq ι] in
/-- One caller of `flush` moves on. -/
theorem place (blocking : before.Blocking capacity) {caller : κ}
    {call : FlushCall} {mutex : Option κ} {output : ε}
    {calls : List (SinkCall ρ)}
    (held : mutex = some caller → call.holdsMutex = true)
    (others : ∀ other, other ≠ caller → mutex = some other →
      (before.flushers other).holdsMutex = true) :
    ({ before.placeFlusher caller call with
      output := output
      calls := calls
      mFlushMutex := mutex } : AsyncBackend ι κ ρ ε).Blocking capacity := by
  refine ⟨blocking.capacity_eq, blocking.policy_eq, blocking.kept,
    blocking.closed, blocking.joined, ?_⟩
  intro other locked
  by_cases same : other = caller
  · subst other
    simpa [placeFlusher] using held locked
  · simpa [placeFlusher, same] using others other same locked

theorem step (blocking : before.Blocking capacity)
    (watched : before.Watched)
    (stepped : AsyncStep emitter before label after) :
    after.Blocking capacity := by
  have sound := watched.accounts.sound
  cases stepped with
  | logAccepted outside pushed =>
      have accepted := sound.accepted pushed
      refine ⟨accepted.shape.capacity.trans blocking.capacity_eq,
        accepted.shape.policy.trans blocking.policy_eq, ?_, ?_,
        blocking.joined, blocking.held⟩
      · simpa [accepted.ledger, Custody.evictOldest, Queue.evicts,
          blocking.policy_eq, Ledger.accept] using blocking.kept
      · dsimp only
        rw [accepted.shutdown_eq]
        exact blocking.closed
  | logRefused outside pushed =>
      obtain ⟨_, rfl⟩ := sound.refused pushed
      exact blocking
  | workerPop popping popped =>
      have delivered := sound.delivered popped
      refine ⟨delivered.shape.capacity.trans blocking.capacity_eq,
        delivered.shape.policy.trans blocking.policy_eq, ?_, ?_, ?_,
        blocking.held⟩
      · simpa [delivered.ledger, Ledger.deliver] using blocking.kept
      · dsimp only
        rw [delivered.shutdown_eq]
        exact blocking.closed
      · intro done
        have returned := blocking.joined done
        simp [popping] at returned
  | workerMiss popping popped | workerDrained popping popped =>
      obtain ⟨_, _, rfl⟩ := sound.ended popped
      exact blocking.move (by simp [popping])
  | workerCheck checking => exact blocking.move (by simp [checking])
  | workerWrite fault writing => exact blocking.move (by simp [writing])
  | workerServed counting | workerDraining counting =>
      exact blocking.move (by simp [counting])
  | workerEqual comparing | workerUnequal comparing unequal =>
      exact blocking.move (by simp [comparing])
  | workerNotify notifying unlocked =>
      refine ⟨blocking.capacity_eq, blocking.policy_eq, blocking.kept,
        blocking.closed, ?_, ?_⟩
      · intro done
        have returned := blocking.joined done
        simp [notifying] at returned
      · intro caller locked
        simp [unlocked] at locked
  | workerFlush flushing => exact blocking.move (by simp [flushing])
  | flushEnter outside =>
      refine blocking.place ?_ (fun other _ => blocking.held other)
      intro locked
      have holds := blocking.held _ locked
      simp [outside, FlushCall.holdsMutex] at holds
  | flushLock entering unlocked =>
      refine blocking.place (fun _ => rfl) ?_
      intro other different locked
      exact absurd (Option.some.inj locked).symm different
  | flushLoadProcessed testing | flushLoadSubmitted testing
  | flushPass testing equal =>
      exact blocking.place (fun _ => rfl)
        (fun other _ => blocking.held other)
  | flushSleep testing unequal =>
      exact blocking.place (by simp) (by simp)
  | flushSpurious asleep =>
      refine blocking.place ?_ (fun other _ => blocking.held other)
      intro locked
      have holds := blocking.held _ locked
      simp [asleep, FlushCall.holdsMutex] at holds
  | flushReturn passed =>
      exact blocking.place (by simp) (by simp)
  | stopBegin outside running =>
      refine ⟨blocking.capacity_eq, blocking.policy_eq, blocking.kept, ?_,
        by simp, blocking.held⟩
      simpa [outside] using blocking.closed
  | stopAgain outside stopped =>
      have running := watched.running outside
      rw [stopped] at running
      simp at running
  | stopShutdown shuttingDown =>
      exact ⟨blocking.capacity_eq, blocking.policy_eq, blocking.kept,
        by simp [Custody.shutdown, Queue.shutdown], by simp, blocking.held⟩
  | stopJoin joining returned =>
      refine ⟨blocking.capacity_eq, blocking.policy_eq, blocking.kept, ?_,
        fun _ => returned, blocking.held⟩
      simpa [joining] using blocking.closed
  | logCount submitting =>
      exact ⟨blocking.capacity_eq, blocking.policy_eq, blocking.kept,
        blocking.closed, blocking.joined, blocking.held⟩

omit [DecidableEq ι] [DecidableEq κ] in
theorem start [Inhabited ρ] (capacity : Nat) (output : ε) :
    (AsyncBackend.make capacity .block output :
      AsyncBackend ι κ ρ ε).Blocking capacity where
  capacity_eq := rfl
  policy_eq := rfl
  kept := rfl
  closed := by simp [AsyncBackend.make, Custody.make, Queue.make]
  joined := by simp [AsyncBackend.make]
  held := by simp [AsyncBackend.make]

omit [DecidableEq κ] in
/-- An empty queue takes a record. -/
theorem logPush_enabled (blocking : backend.Blocking capacity)
    (accounts : backend.Accounts) (positive : 0 < capacity) {producer : ι}
    (outside : backend.producers producer = .outside) (record : ρ)
    (empty : backend.custody.queue.contents = []) :
    (backend.logPush producer record).isSome = true := by
  have size : backend.custody.queue.mSize = 0 :=
    accounts.sound.formed.contents_eq_nil_iff.mp empty
  have ready : backend.custody.queue.pushReady = true := by
    simp [Queue.pushReady, blocking.policy_eq, blocking.capacity_eq, size,
      positive]
  rcases accounts.sound.push_spec ready record with
    ⟨_, custody, pushed, _⟩ | ⟨_, pushed⟩
  · simp [logPush, outside, pushed]
  · simp [logPush, outside, pushed]

end Blocking

variable {backend : AsyncBackend ι κ ρ ε}

/-- The worker can move when nobody holds the mutex, it has not returned, and
there is a record to pop or the queue is shut down. -/
theorem worker_moves (accounts : backend.Accounts)
    (emitter : Emitter ρ ε φ) (fault : φ)
    (alive : backend.worker ≠ .returned)
    (unlocked : backend.mFlushMutex = none)
    (ready : ∀ loop, backend.worker = .popping loop →
      backend.custody.queue.contents ≠ [] ∨
        backend.custody.queue.mShutdown = true) :
    (backend.step emitter (backend.worker.next ι κ fault)).isSome = true := by
  cases place : backend.worker with
  | checking => simp [Worker.next, step, workerCheck, place]
  | popping loop =>
      have popReady : backend.custody.queue.popReady = true := by
        rcases ready loop place with nonempty | stopped
        · have size : 0 < backend.custody.queue.mSize := by
            apply Nat.pos_of_ne_zero
            intro zero
            exact nonempty
              (accounts.sound.formed.contents_eq_nil_iff.mpr zero)
          simp [Queue.popReady, size]
        · simp [Queue.popReady, stopped]
      rcases accounts.sound.pop_spec popReady with
        ⟨front, custody, popped, _⟩ | ⟨_, _, popped⟩
      · simp [Worker.next, step, workerPop, place, popped]
      · cases loop <;> simp [Worker.next, step, workerPop, place, popped]
  | writing loop entry => simp [Worker.next, step, workerWrite, place]
  | counting loop entry => simp [Worker.next, step, workerCount, place]
  | comparing processed => simp [Worker.next, step, workerCompare, place]
  | notifying => simp [Worker.next, step, workerNotify, place, unlocked]
  | flushing => simp [Worker.next, step, workerFlush, place]
  | returned => exact absurd place alive

/-- A caller of `flush` can move unless it sleeps or waits for the mutex. -/
theorem flusher_moves (emitter : Emitter ρ ε φ) (caller : κ)
    (awake : ∀ due, backend.flushers caller ≠ .asleep due)
    (unlocked : ∀ due, backend.flushers caller = .entering due →
      backend.mFlushMutex = none) :
    (backend.step emitter
      ((backend.flushers caller).next ι ρ φ caller)).isSome = true := by
  cases place : backend.flushers caller with
  | outside => simp [FlushCall.next, step, flushEnter, place]
  | entering due =>
      simp [FlushCall.next, step, flushLock, place, unlocked due place]
  | testing due processed submitted =>
      cases processed with
      | none => simp [FlushCall.next, step, flushLoadProcessed, place]
      | some processed =>
          cases submitted with
          | none => simp [FlushCall.next, step, flushLoadSubmitted, place]
          | some submitted =>
              simp only [FlushCall.next, step, flushDecide, place]
              split <;> rfl
  | asleep due => exact absurd place (awake due)
  | passed due => simp [FlushCall.next, step, flushReturn, place]

/-- A caller of `flush` sleeps only while something is left to do for the
worker. -/
theorem worker_moves_for_sleeper (watched : backend.Watched)
    (emitter : Emitter ρ ε φ) (fault : φ) {caller : κ} {due : List Nat}
    (asleep : backend.flushers caller = .asleep due)
    (running : backend.mRunning = true)
    (outside : ∀ producer, backend.producers producer = .outside)
    (kept : backend.custody.ledger.evicted = [])
    (unlocked : backend.mFlushMutex = none) :
    (backend.step emitter (backend.worker.next ι κ fault)).isSome = true := by
  have serving := watched.serving running
  apply worker_moves watched.accounts emitter fault ?_ unlocked
  · intro loop popping
    left
    intro empty
    have balance := watched.accounts.conservation
    have submitted := watched.accounts.submission.length_eq outside
    have equal : backend.mProcessed = backend.mSubmitted := by
      simp only [popping, empty, kept, Worker.uncounted, Worker.unwritten,
        List.length_nil] at balance
      rw [watched.accounts.processed_eq, watched.accounts.submitted_eq,
        submitted, ← balance]
      rfl
    have upToDate := watched.watch running equal
      (by simp [popping, Worker.comparesNext]) caller
    simp [asleep, FlushCall.upToDate] at upToDate
  · intro returned
    simp [returned, Worker.leftServing] at serving

end AsyncBackend

end LogParse
