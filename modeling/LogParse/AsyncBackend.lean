import LogParse.QueueCustody

/-!
# The asynchronous backend

Producers call `log`, any number of threads call `flush`, one worker runs
`worker_loop` and one thread calls `stop`.  Each access to a counter, each
critical section and each call of a sink is a step of its own.  What the
worker writes to is a parameter: `Emitter.write` formats a record and hands it
to the sinks, under any pattern of exceptions, all of which `worker_loop`
swallows.
-/

namespace LogParse

/-- `m_formatter` and `m_sinks` as the worker uses them. -/
structure Emitter (ρ ε φ : Type) where
  write : φ → ρ → ε → ε
  flush : ε → ε

/-- The emitter without sinks. -/
def Emitter.silent {ρ : Type} : Emitter ρ Unit Unit := ⟨fun _ _ => id, id⟩

/-- The two loops of `worker_loop`. -/
inductive Loop where
  | serving
  | draining
  deriving DecidableEq, Repr

/-- The next step of the worker. -/
inductive Worker (ρ : Type) where
  | checking
  | popping (loop : Loop)
  | writing (loop : Loop) (entry : Ticketed ρ)
  | counting (loop : Loop) (entry : Ticketed ρ)
  | comparing (processed : UInt64)
  | notifying
  | flushing
  | returned
  deriving DecidableEq, Repr

/-- A producer between its `push` and its `m_submitted.fetch_add`. -/
inductive LogCall where
  | outside
  | submitting (ticket : Nat)
  deriving DecidableEq, Repr

/-- A counter as `flush` has read it, with the records it counts. -/
structure Loaded where
  value : UInt64
  seen : List Nat
  deriving DecidableEq, Repr

/-- A thread and its place in `flush`.  Due are the records whose `log` had
returned when `flush` was called. -/
inductive FlushCall where
  | outside
  | entering (due : List Nat)
  | testing (due : List Nat) (processed submitted : Option Loaded)
  | asleep (due : List Nat)
  | passed (due : List Nat)
  deriving DecidableEq, Repr

inductive StopCall where
  | outside
  | shuttingDown
  | joining
  | done
  deriving DecidableEq, Repr

/-- What `m_sinks` was called for, and by whom. -/
inductive SinkCall (ρ : Type) where
  | write (entry : Ticketed ρ)
  | flush
  | finalFlush
  deriving DecidableEq, Repr

/-- The members of the backend, the threads around it, and the history:
which records the two counters count and how the sinks were called. -/
structure AsyncBackend (ι κ ρ ε : Type) where
  custody : Custody ρ
  mRunning : Bool := true
  mFlushMutex : Option κ := none
  mSubmitted : UInt64 := 0
  mProcessed : UInt64 := 0
  output : ε
  producers : ι → LogCall
  worker : Worker ρ := .checking
  flushers : κ → FlushCall
  stopper : StopCall := .outside
  counted : List Nat := []
  finished : List Nat := []
  calls : List (SinkCall ρ) := []

inductive AsyncLabel (ι κ ρ φ : Type) where
  | logPush (producer : ι) (record : ρ)
  | logCount (producer : ι)
  | workerCheck
  | workerPop
  | workerWrite (fault : φ)
  | workerCount
  | workerCompare
  | workerNotify
  | workerFlush
  | flushEnter (caller : κ)
  | flushLock (caller : κ)
  | flushLoadProcessed (caller : κ)
  | flushLoadSubmitted (caller : κ)
  | flushDecide (caller : κ)
  | flushSpurious (caller : κ)
  | flushReturn (caller : κ)
  | stopBegin
  | stopShutdown
  | stopJoin

namespace FlushCall

/-- What `m_flush_cv.notify_all()` does to one caller. -/
def wake : FlushCall → FlushCall
  | .asleep due => .entering due
  | other => other

/-- Whether the caller holds `m_flush_mutex`. -/
def holdsMutex : FlushCall → Bool
  | .testing _ _ _ | .passed _ => true
  | .outside | .entering _ | .asleep _ => false

end FlushCall

def SinkCall.entry? {ρ : Type} : SinkCall ρ → Option (Ticketed ρ)
  | .write entry => some entry
  | .flush | .finalFlush => none

namespace Worker

variable {ρ : Type}

/-- The record that was popped and is not yet written. -/
def unwritten : Worker ρ → List (Ticketed ρ)
  | .writing _ entry => [entry]
  | _ => []

/-- The record that is written and not yet counted. -/
def uncounted : Worker ρ → List (Ticketed ρ)
  | .counting _ entry => [entry]
  | _ => []

/-- Whether the worker has left its first loop. -/
def leftServing : Worker ρ → Bool
  | .popping .draining | .writing .draining _ | .counting .draining _ => true
  | .flushing | .returned => true
  | _ => false

/-- Whether the worker is on its way to notify the callers of `flush`, if the
counters are equal. -/
def comparesNext : Worker ρ → Bool
  | .comparing _ | .notifying => true
  | _ => false

end Worker

namespace AsyncBackend

variable {ι κ ρ ε φ : Type} [DecidableEq ι] [DecidableEq κ]

/-- `m_queue.push` in `log`. -/
def logPush (backend : AsyncBackend ι κ ρ ε) (producer : ι) (record : ρ) :
    Option (AsyncBackend ι κ ρ ε) :=
  match backend.producers producer, backend.custody.push record with
  | .outside, some (true, custody) =>
      let ticket := (backend.custody.ledger.stamp record).ticket
      some { backend with
        custody := custody
        producers := Function.update backend.producers producer
          (.submitting ticket) }
  | .outside, some (false, custody) =>
      some { backend with custody := custody }
  | _, _ => none

/-- `m_submitted.fetch_add(1)`. -/
def logCount (backend : AsyncBackend ι κ ρ ε) (producer : ι) :
    Option (AsyncBackend ι κ ρ ε) :=
  match backend.producers producer with
  | .submitting ticket =>
      some { backend with
        mSubmitted := backend.mSubmitted + 1
        counted := backend.counted ++ [ticket]
        producers := Function.update backend.producers producer .outside }
  | .outside => none

def workerCheck (backend : AsyncBackend ι κ ρ ε) :
    Option (AsyncBackend ι κ ρ ε) :=
  match backend.worker with
  | .checking =>
      let loop := if backend.mRunning then .serving else .draining
      some { backend with worker := .popping loop }
  | _ => none

def workerPop (backend : AsyncBackend ι κ ρ ε) :
    Option (AsyncBackend ι κ ρ ε) :=
  match backend.worker, backend.custody.pop with
  | .popping loop, some (some entry, custody) =>
      some { backend with custody := custody, worker := .writing loop entry }
  | .popping .serving, some (none, custody) =>
      some { backend with custody := custody, worker := .checking }
  | .popping .draining, some (none, custody) =>
      some { backend with custody := custody, worker := .flushing }
  | _, _ => none

/-- The `try` block. -/
def workerWrite (emitter : Emitter ρ ε φ) (backend : AsyncBackend ι κ ρ ε)
    (fault : φ) : Option (AsyncBackend ι κ ρ ε) :=
  match backend.worker with
  | .writing loop entry =>
      some { backend with
        output := emitter.write fault entry.item backend.output
        calls := backend.calls ++ [.write entry]
        worker := .counting loop entry }
  | _ => none

/-- `m_processed.fetch_add(1)`; only the first loop looks at the result. -/
def workerCount (backend : AsyncBackend ι κ ρ ε) :
    Option (AsyncBackend ι κ ρ ε) :=
  match backend.worker with
  | .counting loop entry =>
      let processed := backend.mProcessed + 1
      some { backend with
        mProcessed := processed
        finished := backend.finished ++ [entry.ticket]
        worker :=
          match loop with
          | .serving => .comparing processed
          | .draining => .popping .draining }
  | _ => none

def workerCompare (backend : AsyncBackend ι κ ρ ε) :
    Option (AsyncBackend ι κ ρ ε) :=
  match backend.worker with
  | .comparing processed =>
      some { backend with
        worker :=
          if processed = backend.mSubmitted then .notifying else .checking }
  | _ => none

/-- Locks `m_flush_mutex` for `m_flush_cv.notify_all()`. -/
def workerNotify (backend : AsyncBackend ι κ ρ ε) :
    Option (AsyncBackend ι κ ρ ε) :=
  match backend.worker, backend.mFlushMutex with
  | .notifying, none =>
      some { backend with
        flushers := fun caller => (backend.flushers caller).wake
        worker := .checking }
  | _, _ => none

def workerFlush (emitter : Emitter ρ ε φ) (backend : AsyncBackend ι κ ρ ε) :
    Option (AsyncBackend ι κ ρ ε) :=
  match backend.worker with
  | .flushing =>
      some { backend with
        output := emitter.flush backend.output
        calls := backend.calls ++ [.finalFlush]
        worker := .returned }
  | _ => none

/-- The backend with one caller of `flush` somewhere else. -/
def placeFlusher (backend : AsyncBackend ι κ ρ ε) (caller : κ)
    (place : FlushCall) : AsyncBackend ι κ ρ ε :=
  { backend with
    flushers := Function.update backend.flushers caller place }

def flushEnter (backend : AsyncBackend ι κ ρ ε) (caller : κ) :
    Option (AsyncBackend ι κ ρ ε) :=
  match backend.flushers caller with
  | .outside => some (backend.placeFlusher caller (.entering backend.counted))
  | _ => none

/-- Takes `m_flush_mutex`, on entry or on the way out of the wait. -/
def flushLock (backend : AsyncBackend ι κ ρ ε) (caller : κ) :
    Option (AsyncBackend ι κ ρ ε) :=
  match backend.flushers caller, backend.mFlushMutex with
  | .entering due, none =>
      some { backend.placeFlusher caller (.testing due none none) with
        mFlushMutex := some caller }
  | _, _ => none

/-- `m_processed.load()`.  The operands of `==` may be evaluated in either
order. -/
def flushLoadProcessed (backend : AsyncBackend ι κ ρ ε) (caller : κ) :
    Option (AsyncBackend ι κ ρ ε) :=
  match backend.flushers caller with
  | .testing due none submitted =>
      some (backend.placeFlusher caller
        (.testing due (some ⟨backend.mProcessed, backend.finished⟩)
          submitted))
  | _ => none

/-- `m_submitted.load()`. -/
def flushLoadSubmitted (backend : AsyncBackend ι κ ρ ε) (caller : κ) :
    Option (AsyncBackend ι κ ρ ε) :=
  match backend.flushers caller with
  | .testing due processed none =>
      some (backend.placeFlusher caller
        (.testing due processed
          (some ⟨backend.mSubmitted, backend.counted⟩)))
  | _ => none

/-- The outcome of the predicate.  Going to sleep releases the mutex. -/
def flushDecide (backend : AsyncBackend ι κ ρ ε) (caller : κ) :
    Option (AsyncBackend ι κ ρ ε) :=
  match backend.flushers caller with
  | .testing due (some processed) (some submitted) =>
      if processed.value = submitted.value then
        some (backend.placeFlusher caller (.passed due))
      else
        some { backend.placeFlusher caller (.asleep due) with
          mFlushMutex := none }
  | _ => none

def flushSpurious (backend : AsyncBackend ι κ ρ ε) (caller : κ) :
    Option (AsyncBackend ι κ ρ ε) :=
  match backend.flushers caller with
  | .asleep due => some (backend.placeFlusher caller (.entering due))
  | _ => none

/-- `m_sinks->flush()` and the return. -/
def flushReturn (emitter : Emitter ρ ε φ) (backend : AsyncBackend ι κ ρ ε)
    (caller : κ) : Option (AsyncBackend ι κ ρ ε) :=
  match backend.flushers caller with
  | .passed _ =>
      some { backend.placeFlusher caller .outside with
        output := emitter.flush backend.output
        calls := backend.calls ++ [.flush]
        mFlushMutex := none }
  | _ => none

/-- `m_running.compare_exchange_strong(expected, false)`. -/
def stopBegin (backend : AsyncBackend ι κ ρ ε) :
    Option (AsyncBackend ι κ ρ ε) :=
  match backend.stopper with
  | .outside =>
      if backend.mRunning then
        some { backend with mRunning := false, stopper := .shuttingDown }
      else some { backend with stopper := .done }
  | _ => none

def stopShutdown (backend : AsyncBackend ι κ ρ ε) :
    Option (AsyncBackend ι κ ρ ε) :=
  match backend.stopper with
  | .shuttingDown =>
      some { backend with
        custody := backend.custody.shutdown
        stopper := .joining }
  | _ => none

def stopJoin (backend : AsyncBackend ι κ ρ ε) :
    Option (AsyncBackend ι κ ρ ε) :=
  match backend.stopper, backend.worker with
  | .joining, .returned => some { backend with stopper := .done }
  | _, _ => none

def step (emitter : Emitter ρ ε φ) (backend : AsyncBackend ι κ ρ ε) :
    AsyncLabel ι κ ρ φ → Option (AsyncBackend ι κ ρ ε)
  | .logPush producer record => backend.logPush producer record
  | .logCount producer => backend.logCount producer
  | .workerCheck => backend.workerCheck
  | .workerPop => backend.workerPop
  | .workerWrite fault => backend.workerWrite emitter fault
  | .workerCount => backend.workerCount
  | .workerCompare => backend.workerCompare
  | .workerNotify => backend.workerNotify
  | .workerFlush => backend.workerFlush emitter
  | .flushEnter caller => backend.flushEnter caller
  | .flushLock caller => backend.flushLock caller
  | .flushLoadProcessed caller => backend.flushLoadProcessed caller
  | .flushLoadSubmitted caller => backend.flushLoadSubmitted caller
  | .flushDecide caller => backend.flushDecide caller
  | .flushSpurious caller => backend.flushSpurious caller
  | .flushReturn caller => backend.flushReturn emitter caller
  | .stopBegin => backend.stopBegin
  | .stopShutdown => backend.stopShutdown
  | .stopJoin => backend.stopJoin

/-- The backend after its constructor, all members initialized, and before the
worker has taken a step. -/
def make [Inhabited ρ] (capacity : Nat) (policy : OverflowPolicy)
    (output : ε) : AsyncBackend ι κ ρ ε :=
  { custody := Custody.make capacity policy
    output := output
    producers := fun _ => .outside
    flushers := fun _ => .outside }

end AsyncBackend

/-- What each step can do, with the guard it was taken under. -/
inductive AsyncStep {ι κ ρ ε φ : Type} [DecidableEq ι] [DecidableEq κ]
    (emitter : Emitter ρ ε φ) (before : AsyncBackend ι κ ρ ε) :
    AsyncLabel ι κ ρ φ → AsyncBackend ι κ ρ ε → Prop where
  | logAccepted {producer : ι} {record : ρ} {custody : Custody ρ}
      (outside : before.producers producer = .outside)
      (pushed : before.custody.push record = some (true, custody)) :
      AsyncStep emitter before (.logPush producer record)
        { before with
          custody := custody
          producers := Function.update before.producers producer
            (.submitting (before.custody.ledger.stamp record).ticket) }
  | logRefused {producer : ι} {record : ρ} {custody : Custody ρ}
      (outside : before.producers producer = .outside)
      (pushed : before.custody.push record = some (false, custody)) :
      AsyncStep emitter before (.logPush producer record)
        { before with custody := custody }
  | logCount {producer : ι} {ticket : Nat}
      (submitting : before.producers producer = .submitting ticket) :
      AsyncStep emitter before (.logCount producer)
        { before with
          mSubmitted := before.mSubmitted + 1
          counted := before.counted ++ [ticket]
          producers := Function.update before.producers producer .outside }
  | workerCheck (checking : before.worker = .checking) :
      AsyncStep emitter before .workerCheck
        { before with
          worker :=
            .popping (if before.mRunning then .serving else .draining) }
  | workerPop {loop : Loop} {entry : Ticketed ρ} {custody : Custody ρ}
      (popping : before.worker = .popping loop)
      (popped : before.custody.pop = some (some entry, custody)) :
      AsyncStep emitter before .workerPop
        { before with custody := custody, worker := .writing loop entry }
  | workerMiss {custody : Custody ρ}
      (popping : before.worker = .popping .serving)
      (popped : before.custody.pop = some (none, custody)) :
      AsyncStep emitter before .workerPop
        { before with custody := custody, worker := .checking }
  | workerDrained {custody : Custody ρ}
      (popping : before.worker = .popping .draining)
      (popped : before.custody.pop = some (none, custody)) :
      AsyncStep emitter before .workerPop
        { before with custody := custody, worker := .flushing }
  | workerWrite {loop : Loop} {entry : Ticketed ρ} (fault : φ)
      (writing : before.worker = .writing loop entry) :
      AsyncStep emitter before (.workerWrite fault)
        { before with
          output := emitter.write fault entry.item before.output
          calls := before.calls ++ [.write entry]
          worker := .counting loop entry }
  | workerServed {entry : Ticketed ρ}
      (counting : before.worker = .counting .serving entry) :
      AsyncStep emitter before .workerCount
        { before with
          mProcessed := before.mProcessed + 1
          finished := before.finished ++ [entry.ticket]
          worker := .comparing (before.mProcessed + 1) }
  | workerDraining {entry : Ticketed ρ}
      (counting : before.worker = .counting .draining entry) :
      AsyncStep emitter before .workerCount
        { before with
          mProcessed := before.mProcessed + 1
          finished := before.finished ++ [entry.ticket]
          worker := .popping .draining }
  | workerEqual
      (comparing : before.worker = .comparing before.mSubmitted) :
      AsyncStep emitter before .workerCompare
        { before with worker := .notifying }
  | workerUnequal {processed : UInt64}
      (comparing : before.worker = .comparing processed)
      (unequal : processed ≠ before.mSubmitted) :
      AsyncStep emitter before .workerCompare
        { before with worker := .checking }
  | workerNotify (notifying : before.worker = .notifying)
      (unlocked : before.mFlushMutex = none) :
      AsyncStep emitter before .workerNotify
        { before with
          flushers := fun caller => (before.flushers caller).wake
          worker := .checking }
  | workerFlush (flushing : before.worker = .flushing) :
      AsyncStep emitter before .workerFlush
        { before with
          output := emitter.flush before.output
          calls := before.calls ++ [.finalFlush]
          worker := .returned }
  | flushEnter {caller : κ} (outside : before.flushers caller = .outside) :
      AsyncStep emitter before (.flushEnter caller)
        (before.placeFlusher caller (.entering before.counted))
  | flushLock {caller : κ} {due : List Nat}
      (entering : before.flushers caller = .entering due)
      (unlocked : before.mFlushMutex = none) :
      AsyncStep emitter before (.flushLock caller)
        { before.placeFlusher caller (.testing due none none) with
          mFlushMutex := some caller }
  | flushLoadProcessed {caller : κ} {due : List Nat}
      {submitted : Option Loaded}
      (testing : before.flushers caller = .testing due none submitted) :
      AsyncStep emitter before (.flushLoadProcessed caller)
        (before.placeFlusher caller
          (.testing due (some ⟨before.mProcessed, before.finished⟩)
            submitted))
  | flushLoadSubmitted {caller : κ} {due : List Nat}
      {processed : Option Loaded}
      (testing : before.flushers caller = .testing due processed none) :
      AsyncStep emitter before (.flushLoadSubmitted caller)
        (before.placeFlusher caller
          (.testing due processed
            (some ⟨before.mSubmitted, before.counted⟩)))
  | flushPass {caller : κ} {due : List Nat} {processed submitted : Loaded}
      (testing : before.flushers caller =
        .testing due (some processed) (some submitted))
      (equal : processed.value = submitted.value) :
      AsyncStep emitter before (.flushDecide caller)
        (before.placeFlusher caller (.passed due))
  | flushSleep {caller : κ} {due : List Nat} {processed submitted : Loaded}
      (testing : before.flushers caller =
        .testing due (some processed) (some submitted))
      (unequal : processed.value ≠ submitted.value) :
      AsyncStep emitter before (.flushDecide caller)
        { before.placeFlusher caller (.asleep due) with mFlushMutex := none }
  | flushSpurious {caller : κ} {due : List Nat}
      (asleep : before.flushers caller = .asleep due) :
      AsyncStep emitter before (.flushSpurious caller)
        (before.placeFlusher caller (.entering due))
  | flushReturn {caller : κ} {due : List Nat}
      (passed : before.flushers caller = .passed due) :
      AsyncStep emitter before (.flushReturn caller)
        { before.placeFlusher caller .outside with
          output := emitter.flush before.output
          calls := before.calls ++ [.flush]
          mFlushMutex := none }
  | stopBegin (outside : before.stopper = .outside)
      (running : before.mRunning = true) :
      AsyncStep emitter before .stopBegin
        { before with mRunning := false, stopper := .shuttingDown }
  | stopAgain (outside : before.stopper = .outside)
      (stopped : before.mRunning = false) :
      AsyncStep emitter before .stopBegin { before with stopper := .done }
  | stopShutdown (shuttingDown : before.stopper = .shuttingDown) :
      AsyncStep emitter before .stopShutdown
        { before with
          custody := before.custody.shutdown
          stopper := .joining }
  | stopJoin (joining : before.stopper = .joining)
      (returned : before.worker = .returned) :
      AsyncStep emitter before .stopJoin { before with stopper := .done }

theorem AsyncStep.of_step {ι κ ρ ε φ : Type} [DecidableEq ι] [DecidableEq κ]
    {emitter : Emitter ρ ε φ} {before after : AsyncBackend ι κ ρ ε}
    {label : AsyncLabel ι κ ρ φ}
    (stepped : before.step emitter label = some after) :
    AsyncStep emitter before label after := by
  cases label with
  | logPush producer record =>
      simp only [AsyncBackend.step, AsyncBackend.logPush] at stepped
      split at stepped
      · rename_i custody outside pushed
        cases stepped
        exact .logAccepted outside pushed
      · rename_i custody outside pushed
        cases stepped
        exact .logRefused outside pushed
      · simp at stepped
  | logCount producer =>
      simp only [AsyncBackend.step, AsyncBackend.logCount] at stepped
      split at stepped
      · rename_i ticket submitting
        cases stepped
        exact .logCount submitting
      · simp at stepped
  | workerCheck =>
      simp only [AsyncBackend.step, AsyncBackend.workerCheck] at stepped
      split at stepped
      · rename_i checking
        cases stepped
        exact .workerCheck checking
      · simp at stepped
  | workerPop =>
      simp only [AsyncBackend.step, AsyncBackend.workerPop] at stepped
      split at stepped
      · rename_i loop entry custody popping popped
        cases stepped
        exact .workerPop popping popped
      · rename_i custody popping popped
        cases stepped
        exact .workerMiss popping popped
      · rename_i custody popping popped
        cases stepped
        exact .workerDrained popping popped
      · simp at stepped
  | workerWrite fault =>
      simp only [AsyncBackend.step, AsyncBackend.workerWrite] at stepped
      split at stepped
      · rename_i loop entry writing
        cases stepped
        exact .workerWrite fault writing
      · simp at stepped
  | workerCount =>
      simp only [AsyncBackend.step, AsyncBackend.workerCount] at stepped
      split at stepped
      · rename_i loop entry counting
        cases stepped
        cases loop with
        | serving => exact .workerServed counting
        | draining => exact .workerDraining counting
      · simp at stepped
  | workerCompare =>
      simp only [AsyncBackend.step, AsyncBackend.workerCompare] at stepped
      split at stepped
      · rename_i processed comparing
        cases stepped
        by_cases equal : processed = before.mSubmitted
        · rw [if_pos equal]
          exact .workerEqual (equal ▸ comparing)
        · rw [if_neg equal]
          exact .workerUnequal comparing equal
      · simp at stepped
  | workerNotify =>
      simp only [AsyncBackend.step, AsyncBackend.workerNotify] at stepped
      split at stepped
      · rename_i notifying unlocked
        cases stepped
        exact .workerNotify notifying unlocked
      · simp at stepped
  | workerFlush =>
      simp only [AsyncBackend.step, AsyncBackend.workerFlush] at stepped
      split at stepped
      · rename_i flushing
        cases stepped
        exact .workerFlush flushing
      · simp at stepped
  | flushEnter caller =>
      simp only [AsyncBackend.step, AsyncBackend.flushEnter] at stepped
      split at stepped
      · rename_i outside
        cases stepped
        exact .flushEnter outside
      · simp at stepped
  | flushLock caller =>
      simp only [AsyncBackend.step, AsyncBackend.flushLock] at stepped
      split at stepped
      · rename_i due entering unlocked
        cases stepped
        exact .flushLock entering unlocked
      · simp at stepped
  | flushLoadProcessed caller =>
      simp only [AsyncBackend.step, AsyncBackend.flushLoadProcessed]
        at stepped
      split at stepped
      · rename_i due submitted testing
        cases stepped
        exact .flushLoadProcessed testing
      · simp at stepped
  | flushLoadSubmitted caller =>
      simp only [AsyncBackend.step, AsyncBackend.flushLoadSubmitted]
        at stepped
      split at stepped
      · rename_i due processed testing
        cases stepped
        exact .flushLoadSubmitted testing
      · simp at stepped
  | flushDecide caller =>
      simp only [AsyncBackend.step, AsyncBackend.flushDecide] at stepped
      split at stepped
      · rename_i due processed submitted testing
        split at stepped
        · rename_i equal
          cases stepped
          exact .flushPass testing equal
        · rename_i unequal
          cases stepped
          exact .flushSleep testing unequal
      · simp at stepped
  | flushSpurious caller =>
      simp only [AsyncBackend.step, AsyncBackend.flushSpurious] at stepped
      split at stepped
      · rename_i due asleep
        cases stepped
        exact .flushSpurious asleep
      · simp at stepped
  | flushReturn caller =>
      simp only [AsyncBackend.step, AsyncBackend.flushReturn] at stepped
      split at stepped
      · rename_i due passed
        cases stepped
        exact .flushReturn passed
      · simp at stepped
  | stopBegin =>
      simp only [AsyncBackend.step, AsyncBackend.stopBegin] at stepped
      split at stepped
      · rename_i outside
        split at stepped
        · rename_i running
          cases stepped
          exact .stopBegin outside running
        · rename_i stopped
          cases stepped
          exact .stopAgain outside (Bool.not_eq_true _ ▸ stopped)
      · simp at stepped
  | stopShutdown =>
      simp only [AsyncBackend.step, AsyncBackend.stopShutdown] at stepped
      split at stepped
      · rename_i shuttingDown
        cases stepped
        exact .stopShutdown shuttingDown
      · simp at stepped
  | stopJoin =>
      simp only [AsyncBackend.step, AsyncBackend.stopJoin] at stepped
      split at stepped
      · rename_i joining returned
        cases stepped
        exact .stopJoin joining returned
      · simp at stepped

def asyncMachine {ρ ε φ : Type} (ι κ : Type) [DecidableEq ι] [DecidableEq κ]
    [Inhabited ρ] (emitter : Emitter ρ ε φ) (capacity : Nat)
    (policy : OverflowPolicy) (output : ε) :
    Machine (AsyncBackend ι κ ρ ε) (AsyncLabel ι κ ρ φ) where
  start := .make capacity policy output
  step := AsyncBackend.step emitter

end LogParse
