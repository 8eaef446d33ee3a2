import LogParse.AsyncAccounting
import Mathlib.Data.Fintype.Basic

/-!
# Shutdown of the asynchronous backend

`stop` may come at any step of the worker.  The two loops hand the records on
to each other without losing or repeating one, and the worker returns after a
bounded number of further `pop` calls.
-/

namespace LogParse

namespace AsyncLabel

variable {ι κ ρ φ : Type}

def isLogPush : AsyncLabel ι κ ρ φ → Bool
  | .logPush _ _ => true
  | _ => false

def isWorkerPop : AsyncLabel ι κ ρ φ → Bool
  | .workerPop => true
  | _ => false

def isStopBegin : AsyncLabel ι κ ρ φ → Bool
  | .stopBegin => true
  | _ => false

end AsyncLabel

/-- The `pop` calls the worker still makes when nobody pushes and `m_running`
is false. -/
def Worker.popsLeft {ρ : Type} (size : Nat) : Worker ρ → Nat
  | .popping .serving => max 2 (size + 1)
  | .flushing | .returned => 0
  | _ => size + 1

namespace AsyncBackend

variable {ι κ ρ ε φ : Type} [DecidableEq ι] [DecidableEq κ]

/-- `stop` is called when every call of `log` has returned, and no call
follows it. -/
def Orderly (before : AsyncBackend ι κ ρ ε) (label : AsyncLabel ι κ ρ φ) :
    Prop :=
  (label.isLogPush = true → before.mRunning = true) ∧
    (label.isStopBegin = true →
      ∀ producer, before.producers producer = .outside)

instance [Fintype ι] (before : AsyncBackend ι κ ρ ε)
    (label : AsyncLabel ι κ ρ φ) : Decidable (before.Orderly label) :=
  inferInstanceAs (Decidable
    ((label.isLogPush = true → before.mRunning = true) ∧
      (label.isStopBegin = true →
        ∀ producer, before.producers producer = .outside)))

structure Draining (backend : AsyncBackend ι κ ρ ε) : Prop where
  accounts : backend.Accounts
  stopping : backend.stopper ≠ .outside → backend.mRunning = false
  leaving : backend.worker.leftServing = true → backend.mRunning = false
  drained : backend.worker = .flushing ∨ backend.worker = .returned →
    backend.custody.queue.contents = []
  final : backend.worker = .returned → ∃ earlier later,
    backend.calls = earlier ++ .finalFlush :: later ∧
      ∀ call ∈ later, call.entry? = none

namespace Draining

variable {before after backend : AsyncBackend ι κ ρ ε}
  {emitter : Emitter ρ ε φ} {label : AsyncLabel ι κ ρ φ}

omit [DecidableEq ι] [DecidableEq κ] in
theorem ended (draining : before.Draining)
    (ended : before.worker = .flushing ∨ before.worker = .returned) :
    before.mRunning = false := by
  apply draining.leaving
  rcases ended with place | place <;> simp [place, Worker.leftServing]

omit [DecidableEq ι] [DecidableEq κ] in
/-- The worker moves, and is not about to return. -/
theorem move (draining : before.Draining)
    (accounts : after.Accounts)
    (stopperSame : after.stopper = before.stopper)
    (runningSame : after.mRunning = before.mRunning)
    (leaving : after.worker.leftServing = true → before.mRunning = false)
    (staying : after.worker ≠ .flushing ∧ after.worker ≠ .returned) :
    after.Draining where
  accounts := accounts
  stopping := by
    rw [stopperSame, runningSame]
    exact draining.stopping
  leaving := by
    rw [runningSame]
    exact leaving
  drained ended := by
    rcases ended with flushing | returned
    · exact absurd flushing staying.1
    · exact absurd returned staying.2
  final returned := absurd returned staying.2

theorem step (draining : before.Draining) (orderly : before.Orderly label)
    (stepped : AsyncStep emitter before label after) : after.Draining := by
  have accounts := draining.accounts.step stepped
  have leaving := draining.leaving
  cases stepped with
  | logAccepted outside pushed | logRefused outside pushed =>
      refine ⟨accounts, draining.stopping, leaving, ?_, draining.final⟩
      intro ended
      have running := orderly.1 rfl
      rw [draining.ended ended] at running
      simp at running
  | workerCheck checking =>
      refine draining.move accounts rfl rfl ?_ (by simp)
      cases running : before.mRunning <;> simp [Worker.leftServing]
  | @workerPop loop entry custody popping popped =>
      refine draining.move accounts rfl rfl ?_ (by simp)
      rw [popping] at leaving
      cases loop <;> exact leaving
  | workerMiss popping popped =>
      exact draining.move accounts rfl rfl (by simp [Worker.leftServing])
        (by simp)
  | workerDrained popping popped =>
      rw [popping] at leaving
      obtain ⟨empty, _, rfl⟩ := draining.accounts.sound.ended popped
      exact ⟨accounts, draining.stopping, leaving, fun _ => empty, by simp⟩
  | @workerWrite loop entry fault writing =>
      refine draining.move accounts rfl rfl ?_ (by simp)
      rw [writing] at leaving
      cases loop <;> exact leaving
  | workerServed counting =>
      exact draining.move accounts rfl rfl (by simp [Worker.leftServing])
        (by simp)
  | workerDraining counting =>
      rw [counting] at leaving
      exact draining.move accounts rfl rfl leaving (by simp)
  | workerEqual comparing | workerUnequal comparing unequal =>
      exact draining.move accounts rfl rfl (by simp [Worker.leftServing])
        (by simp)
  | workerNotify notifying unlocked =>
      exact draining.move accounts rfl rfl (by simp [Worker.leftServing])
        (by simp)
  | workerFlush flushing =>
      have drained := draining.drained (Or.inl flushing)
      rw [flushing] at leaving
      exact ⟨accounts, draining.stopping, leaving, fun _ => drained,
        fun _ => ⟨before.calls, [], rfl, by simp⟩⟩
  | flushReturn passed =>
      refine ⟨accounts, draining.stopping, leaving, draining.drained, ?_⟩
      intro returned
      obtain ⟨earlier, later, callsEq, noWrite⟩ := draining.final returned
      refine ⟨earlier, later ++ [.flush], ?_, ?_⟩
      · simp [callsEq]
      · intro call member
        rcases List.mem_append.mp member with old | new
        · exact noWrite call old
        · rw [List.mem_singleton.mp new]
          rfl
  | stopBegin outside running =>
      exact ⟨accounts, fun _ => rfl, fun _ => rfl, draining.drained,
        draining.final⟩
  | stopAgain outside stopped =>
      exact ⟨accounts, fun _ => stopped, leaving, draining.drained,
        draining.final⟩
  | stopShutdown shuttingDown =>
      exact ⟨accounts,
        fun _ => draining.stopping (by simp [shuttingDown]), leaving,
        draining.drained, draining.final⟩
  | stopJoin joining returned =>
      exact ⟨accounts, fun _ => draining.stopping (by simp [joining]),
        leaving, draining.drained, draining.final⟩
  | logCount | flushEnter | flushLock | flushLoadProcessed
  | flushLoadSubmitted | flushPass | flushSleep | flushSpurious =>
      exact ⟨accounts, draining.stopping, leaving, draining.drained,
        draining.final⟩

section Reachable

variable [Inhabited ρ] {capacity : Nat} {policy : OverflowPolicy}
  {output : ε}

omit [DecidableEq κ] [DecidableEq ι] in
theorem start (policy : OverflowPolicy) (positive : 0 < capacity)
    (output : ε) :
    (AsyncBackend.make capacity policy output :
      AsyncBackend ι κ ρ ε).Draining where
  accounts := .start policy positive output
  stopping := by simp [AsyncBackend.make]
  leaving := by simp [AsyncBackend.make, Worker.leftServing]
  drained := by simp [AsyncBackend.make]
  final := by simp [AsyncBackend.make]

theorem preserved :
    (asyncMachine ι κ emitter capacity policy output).Preserves Orderly
      Draining :=
  fun _ _ _ stepped orderly draining =>
    draining.step orderly (.of_step stepped)

end Reachable

omit [DecidableEq ι] [DecidableEq κ] in
/-- When the worker has returned, everything it had to write is written. -/
theorem returned (draining : backend.Draining)
    (returned : backend.worker = .returned) :
    backend.written = backend.custody.ledger.survivors ∧
      backend.custody.queue.contents = [] ∧
      backend.finished.length = backend.written.length := by
  have empty := draining.drained (Or.inr returned)
  have order := draining.accounts.sound.balanced.order
  obtain ⟨writtenEq, finishedEq⟩ := draining.accounts.delivery
  rw [returned] at writtenEq finishedEq
  refine ⟨?_, empty, ?_⟩
  · rw [← order, empty, writtenEq]
    simp [Worker.unwritten]
  · have lengths := congrArg List.length finishedEq
    simpa [Worker.uncounted] using lengths.symm

end Draining

/-- `stop` has set `m_running` to false. -/
structure Stopped (backend : AsyncBackend ι κ ρ ε) : Prop where
  accounts : backend.Accounts
  stopped : backend.mRunning = false

def popsLeft (backend : AsyncBackend ι κ ρ ε) : Nat :=
  backend.worker.popsLeft backend.custody.queue.contents.length

namespace Stopped

variable {before after : AsyncBackend ι κ ρ ε} {emitter : Emitter ρ ε φ}
  {label : AsyncLabel ι κ ρ φ}

theorem step (stopped : before.Stopped)
    (stepped : AsyncStep emitter before label after) : after.Stopped := by
  refine ⟨stopped.accounts.step stepped, ?_⟩
  cases stepped <;> first | exact stopped.stopped | rfl

/-- Every `pop` call is paid for. -/
theorem pays (stopped : before.Stopped) (orderly : before.Orderly label)
    (stepped : AsyncStep emitter before label after) :
    (if label.isWorkerPop then 1 else 0) + after.popsLeft ≤
      before.popsLeft := by
  cases stepped with
  | logAccepted outside pushed | logRefused outside pushed =>
      have running := orderly.1 rfl
      rw [stopped.stopped] at running
      simp at running
  | workerCheck checking =>
      simp [popsLeft, checking, stopped.stopped, Worker.popsLeft,
        AsyncLabel.isWorkerPop]
  | @workerPop loop entry custody popping popped =>
      have delivered := stopped.accounts.sound.delivered popped
      have shorter := congrArg List.length delivered.contents
      cases loop <;>
        simp [popsLeft, popping, Worker.popsLeft, AsyncLabel.isWorkerPop,
          shorter] <;> omega
  | workerMiss popping popped | workerDrained popping popped =>
      obtain ⟨empty, _, rfl⟩ := stopped.accounts.sound.ended popped
      simp [popsLeft, popping, empty, Worker.popsLeft,
        AsyncLabel.isWorkerPop]
  | workerWrite fault writing =>
      simp [popsLeft, writing, Worker.popsLeft, AsyncLabel.isWorkerPop]
  | workerServed counting | workerDraining counting =>
      simp [popsLeft, counting, Worker.popsLeft, AsyncLabel.isWorkerPop]
  | workerEqual comparing | workerUnequal comparing unequal =>
      simp [popsLeft, comparing, Worker.popsLeft, AsyncLabel.isWorkerPop]
  | workerNotify notifying unlocked =>
      simp [popsLeft, notifying, Worker.popsLeft, AsyncLabel.isWorkerPop]
  | workerFlush flushing =>
      simp [popsLeft, flushing, Worker.popsLeft, AsyncLabel.isWorkerPop]
  | logCount | flushEnter | flushLock | flushLoadProcessed
  | flushLoadSubmitted | flushPass | flushSleep | flushSpurious
  | flushReturn | stopBegin | stopAgain | stopShutdown | stopJoin =>
      simp [popsLeft, placeFlusher, Custody.shutdown_contents,
        AsyncLabel.isWorkerPop]

end Stopped

end AsyncBackend

end LogParse
