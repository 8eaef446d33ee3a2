import LogParse.AsyncFlush
import LogParse.Construction

/-!
# The backend that the constructor leaves behind

A worker that runs ahead of the constructor can do no more than test
`m_running` and wait for a record.  If it finds the member initialized, or
`true` in its storage, then all that the object does is what one does whose
members were initialized before its worker started.
-/

namespace LogParse

/-- The steps before the constructor has returned. -/
def ConstructionLabel.inConstructor {ι κ ρ φ : Type} :
    ConstructionLabel ι κ ρ φ → Bool
  | .construct => true
  | .use label => label.byWorker

namespace Construction

variable {ι κ ρ ε φ : Type}

/-- The backend with all members initialized. -/
def finish (construction : Construction ι κ ρ ε) : AsyncBackend ι κ ρ ε :=
  construction.pending.foldl constructMember construction.backend

/-- The initializers only write four of the members. -/
theorem finish_eq (construction : Construction ι κ ρ ε) :
    ∃ running mutex submitted processed,
      construction.finish =
        { construction.backend with
          mRunning := running
          mFlushMutex := mutex
          mSubmitted := submitted
          mProcessed := processed } := by
  obtain ⟨backend, pending⟩ := construction
  induction pending generalizing backend with
  | nil => exact ⟨_, _, _, _, rfl⟩
  | cons member rest induction =>
      obtain ⟨running, mutex, submitted, processed, finished⟩ :=
        induction (constructMember backend member)
      refine ⟨running, mutex, submitted, processed, ?_⟩
      cases member <;> exact finished

theorem finish_replace (construction : Construction ι κ ρ ε)
    (worker : Worker ρ) (output : ε) :
    ({ construction with
      backend :=
        { construction.backend with
          worker := worker
          output := output } } : Construction ι κ ρ ε).finish =
      { construction.finish with worker := worker, output := output } := by
  obtain ⟨backend, pending⟩ := construction
  induction pending generalizing backend with
  | nil => rfl
  | cons member rest induction =>
      have moved := induction (constructMember backend member)
      cases member <;> exact moved

theorem finish_complete {construction : Construction ι κ ρ ε}
    (complete : construction.pending = []) :
    construction.finish = construction.backend := by
  simp [finish, complete]

/-- Only the worker has come to use the object. -/
structure Untouched [Inhabited ρ] (capacity : Nat) (policy : OverflowPolicy)
    (output : ε) (construction : Construction ι κ ρ ε) : Prop where
  finish_eq : construction.finish =
    { AsyncBackend.make capacity policy output with
      worker := construction.backend.worker }
  waiting : construction.backend.worker = .checking ∨
    ∃ loop, construction.backend.worker = .popping loop

/-- While members are pending, only the worker uses the object. -/
structure Starting [Inhabited ρ] (capacity : Nat) (policy : OverflowPolicy)
    (output : ε) (construction : Construction ι κ ρ ε) : Prop where
  building : construction.Building
  untouched : construction.pending ≠ [] →
    construction.Untouched capacity policy output

/-- An admitted step of the backend, in which the worker does not test
`m_running` too early. -/
def Initialized
    (admits : AsyncBackend ι κ ρ ε → AsyncLabel ι κ ρ φ → Prop)
    (construction : Construction ι κ ρ ε) :
    ConstructionLabel ι κ ρ φ → Prop
  | .construct => True
  | .use label =>
      construction.ChecksInitialized (.use label) ∧
        admits construction.backend label

instance {admits : AsyncBackend ι κ ρ ε → AsyncLabel ι κ ρ φ → Prop}
    [∀ backend label, Decidable (admits backend label)]
    (construction : Construction ι κ ρ ε) :
    (label : ConstructionLabel ι κ ρ φ) →
      Decidable (construction.Initialized admits label)
  | .construct => inferInstanceAs (Decidable True)
  | .use _ => inferInstanceAs (Decidable (_ ∧ _))

/-- An admitted step before the constructor has returned. -/
def Inside
    (admits : Construction ι κ ρ ε → ConstructionLabel ι κ ρ φ → Prop)
    (construction : Construction ι κ ρ ε)
    (label : ConstructionLabel ι κ ρ φ) : Prop :=
  admits construction label ∧ label.inConstructor = true

instance
    {admits : Construction ι κ ρ ε → ConstructionLabel ι κ ρ φ → Prop}
    [∀ construction label, Decidable (admits construction label)]
    (construction : Construction ι κ ρ ε)
    (label : ConstructionLabel ι κ ρ φ) :
    Decidable (construction.Inside admits label) :=
  inferInstanceAs (Decidable (_ ∧ _))

variable [Inhabited ρ] {capacity : Nat} {policy : OverflowPolicy}
  {output : ε} {storage : Storage}

namespace Untouched

theorem start (storage : Storage) (capacity : Nat) (policy : OverflowPolicy)
    (output : ε) :
    (make storage capacity policy output : Construction ι κ ρ ε).Untouched
      capacity policy output :=
  ⟨rfl, .inl rfl⟩

theorem custody_eq {construction : Construction ι κ ρ ε}
    (untouched : construction.Untouched capacity policy output) :
    construction.backend.custody = Custody.make capacity policy := by
  obtain ⟨_, _, _, _, finished⟩ := construction.finish_eq
  exact congrArg AsyncBackend.custody
    (finished.symm.trans untouched.finish_eq)

theorem output_eq {construction : Construction ι κ ρ ε}
    (untouched : construction.Untouched capacity policy output) :
    construction.backend.output = output := by
  obtain ⟨_, _, _, _, finished⟩ := construction.finish_eq
  exact congrArg AsyncBackend.output
    (finished.symm.trans untouched.finish_eq)

theorem flushers_eq {construction : Construction ι κ ρ ε}
    (untouched : construction.Untouched capacity policy output) :
    construction.backend.flushers = fun _ => .outside := by
  obtain ⟨_, _, _, _, finished⟩ := construction.finish_eq
  exact congrArg AsyncBackend.flushers
    (finished.symm.trans untouched.finish_eq)

/-- The worker still waits, whatever the sinks are. -/
theorem replace {construction : Construction ι κ ρ ε}
    (untouched : construction.Untouched capacity policy output)
    {worker : Worker ρ}
    (waiting : worker = .checking ∨ ∃ loop, worker = .popping loop)
    (sinks : ε) :
    ({ construction with
      backend :=
        { construction.backend with
          worker := worker
          output := sinks } } : Construction ι κ ρ ε).Untouched capacity
        policy sinks :=
  ⟨by rw [finish_replace, untouched.finish_eq]; rfl, waiting⟩

/-- The worker waits in its first loop or has yet to enter it. -/
theorem eq_make_or_checked {construction : Construction ι κ ρ ε}
    (untouched : construction.Untouched capacity policy output)
    (complete : construction.pending = [])
    (serves : construction.ServesUntilStopped) :
    construction.backend = .make capacity policy output ∨
      construction.backend =
        { AsyncBackend.make capacity policy output with
          worker := .popping .serving } := by
  have backendEq := untouched.finish_eq
  rw [finish_complete complete] at backendEq
  rcases untouched.waiting with checking | ⟨loop, popping⟩
  · left
    rw [checking] at backendEq
    exact backendEq
  · right
    have unstopped : construction.backend.stopper = .outside := by
      rw [backendEq]
      rfl
    have first := serves unstopped
    rw [popping] at first backendEq
    cases loop with
    | serving => exact backendEq
    | draining => cases first

section Steps

variable [DecidableEq ι] [DecidableEq κ] {emitter : Emitter ρ ε φ}
  {before after : Construction ι κ ρ ε}

theorem construct (untouched : before.Untouched capacity policy output)
    (stepped : before.step emitter .construct = some after) :
    after.Untouched capacity policy output := by
  obtain ⟨member, rest, pending, rfl⟩ := step_construct stepped
  obtain ⟨_, worker⟩ := constructMember_threads before.backend member
  constructor
  · rw [worker, ← untouched.finish_eq]
    simp [finish, pending]
  · rw [worker]
    exact untouched.waiting

/-- The queue is empty, so the worker can only test `m_running`. -/
theorem use (untouched : before.Untouched capacity policy output)
    {label : AsyncLabel ι κ ρ φ} (byWorker : label.byWorker = true)
    (stepped : before.step emitter (.use label) = some after) :
    label = .workerCheck ∧ before.backend.worker = .checking ∧
      after = { before with
        backend :=
          { before.backend with
            worker := .popping
              (if before.backend.mRunning then .serving else .draining) } } := by
  obtain ⟨_, backend, used, rfl⟩ := step_use stepped
  have waiting := untouched.waiting
  have nothing {result : Option (Ticketed ρ)} {custody : Custody ρ} :
      before.backend.custody.pop ≠ some (result, custody) := by
    intro popped
    rw [untouched.custody_eq] at popped
    obtain ⟨_, _, closed⟩ := Custody.pop_empty rfl popped
    cases closed
  cases used with
  | workerCheck checking => exact ⟨rfl, checking, rfl⟩
  | workerPop place popped | workerMiss place popped
  | workerDrained place popped => exact absurd popped nothing
  | workerWrite fault place | workerServed place | workerDraining place
  | workerEqual place | workerUnequal place | workerNotify place
  | workerFlush place => simp [place] at waiting
  | _ => cases byWorker

theorem useStep (untouched : before.Untouched capacity policy output)
    {label : AsyncLabel ι κ ρ φ} (byWorker : label.byWorker = true)
    (stepped : before.step emitter (.use label) = some after) :
    after.Untouched capacity policy output := by
  obtain ⟨rfl, _, rfl⟩ := untouched.use byWorker stepped
  obtain rfl := untouched.output_eq
  exact untouched.replace (.inr ⟨_, rfl⟩) before.backend.output

theorem preserved
    {admits : Construction ι κ ρ ε → ConstructionLabel ι κ ρ φ → Prop} :
    (constructionMachine ι κ emitter storage capacity policy
      output).Preserves (Inside admits)
      (Untouched capacity policy output) := by
  rintro before label after stepped ⟨_, inside⟩ untouched
  cases label with
  | construct =>
      have constructed : before.step emitter .construct = some after :=
        stepped
      exact untouched.construct constructed
  | use label => exact untouched.useStep inside stepped

end Steps

end Untouched

namespace Starting

variable [DecidableEq ι] [DecidableEq κ] {emitter : Emitter ρ ε φ}

omit [DecidableEq ι] [DecidableEq κ] in
theorem start (storage : Storage) (capacity : Nat) (policy : OverflowPolicy)
    (output : ε) :
    (make storage capacity policy output : Construction ι κ ρ ε).Starting
      capacity policy output :=
  ⟨.start storage capacity policy output,
    fun _ => .start storage capacity policy output⟩

theorem preserved
    {admits : Construction ι κ ρ ε → ConstructionLabel ι κ ρ φ → Prop} :
    (constructionMachine ι κ emitter storage capacity policy
      output).Preserves admits (Starting capacity policy output) := by
  intro before label after stepped _ starting
  refine ⟨Building.preserved stepped trivial starting.building, ?_⟩
  intro incomplete
  cases label with
  | construct =>
      have constructed : before.step emitter .construct = some after :=
        stepped
      obtain ⟨member, rest, pending, _⟩ := step_construct constructed
      exact (starting.untouched (by simp [pending])).construct constructed
  | use label =>
      have used : before.step emitter (.use label) = some after := stepped
      obtain ⟨allowed, backend, _, rfl⟩ := step_use used
      exact (starting.untouched incomplete).useStep
        (allowed.resolve_right incomplete) used

end Starting

section Runs

variable [DecidableEq ι] [DecidableEq κ] {emitter : Emitter ρ ε φ}
  {admits : AsyncBackend ι κ ρ ε → AsyncLabel ι κ ρ φ → Prop}

/-- An initializer is no step of the initialized backend, and a worker that
runs ahead takes the same step there. -/
theorem simulates
    (free : ∀ backend label, label.byWorker = true → admits backend label) :
    (constructionMachine ι κ emitter storage capacity policy
      output).Simulates (Initialized admits)
      (Starting capacity policy output)
      (asyncMachine ι κ emitter capacity policy output) admits finish := by
  intro before label after stepped admitted starting
  cases label with
  | construct =>
      have constructed : before.step emitter .construct = some after :=
        stepped
      obtain ⟨member, rest, pending, rfl⟩ := step_construct constructed
      have same : before.finish = finish ⟨constructMember before.backend
          member, rest⟩ := by
        simp [finish, pending]
      rw [same]
      exact ⟨[], .nil⟩
  | use label =>
      have used : before.step emitter (.use label) = some after := stepped
      obtain ⟨allowed, backend, moved, isAfter⟩ := step_use_some used
      by_cases complete : before.pending = []
      · subst isAfter
        rw [finish_complete complete, finish_complete (by exact complete)]
        exact ⟨[label], .single admitted.2 moved⟩
      · have byWorker := allowed.resolve_right complete
        have untouched := starting.untouched complete
        obtain ⟨rfl, checking, rfl⟩ := untouched.use byWorker used
        have running : before.backend.mRunning = true := by
          rcases admitted.1 with isInitialized | isRunning
          · refine starting.building.running isInitialized ?_
            by_contra stopped
            exact complete (starting.building.stopping stopped)
          · exact isRunning
        refine ⟨[.workerCheck], .single (free _ _ rfl) ?_⟩
        have ahead := (untouched.useStep byWorker used).finish_eq
        rw [untouched.finish_eq, checking, ahead, running, if_pos rfl]
        rfl

/-- The initialized backend comes to the same state. -/
theorem finish_run {labels : List (ConstructionLabel ι κ ρ φ)}
    {construction : Construction ι κ ρ ε}
    (free : ∀ backend label, label.byWorker = true → admits backend label)
    (run : (constructionMachine ι κ emitter storage capacity policy
      output).Run (Initialized admits)
        (.make storage capacity policy output) labels construction) :
    ∃ used, (asyncMachine ι κ emitter capacity policy output).Run admits
      (.make capacity policy output) used construction.finish :=
  run.simulate (simulates free) Starting.preserved
    (.start storage capacity policy output)

/-- A constructor that has returned leaves behind a backend with its members
initialized, whose worker waits in its first loop or has yet to enter it. -/
theorem built_eq {labels : List (ConstructionLabel ι κ ρ φ)}
    {construction : Construction ι κ ρ ε}
    (run : (constructionMachine ι κ emitter storage capacity policy
      output).Run (Inside ChecksInitialized)
        (.make storage capacity policy output) labels construction)
    (complete : construction.pending = []) :
    construction.backend = .make capacity policy output ∨
      construction.backend =
        { AsyncBackend.make capacity policy output with
          worker := .popping .serving } := by
  have built := run.invariant Untouched.preserved
    (.start storage capacity policy output)
  have serving : (constructionMachine ι κ emitter storage capacity policy
      output).Preserves (Inside ChecksInitialized)
        fun construction => construction.Building ∧
          construction.ServesUntilStopped :=
    fun _ _ _ stepped admitted held =>
      ⟨Building.preserved stepped trivial held.1,
        (servesUntilStopped_iff held.1 held.2 stepped).mpr admitted.1⟩
  obtain ⟨_, serves⟩ := run.invariant serving
    ⟨.start storage capacity policy output, fun _ => rfl⟩
  exact built.eq_make_or_checked complete serves

end Runs

end Construction

/-- In every run whose increments of `m_submitted` are timely, and whose worker
tests no `m_running` that is not initialized, no caller of `flush` is left
asleep. -/
theorem flush_not_left_asleep {ι κ ρ ε φ : Type} [DecidableEq ι]
    [DecidableEq κ] [Inhabited ρ] {emitter : Emitter ρ ε φ}
    {storage : Storage} {capacity : Nat} (positive : 0 < capacity)
    {policy : OverflowPolicy} {output : ε}
    {labels : List (ConstructionLabel ι κ ρ φ)}
    {construction : Construction ι κ ρ ε}
    (run : (constructionMachine ι κ emitter storage capacity policy
      output).Run (Construction.Initialized AsyncBackend.TimelyCount)
        (.make storage capacity policy output) labels construction) :
    ¬construction.backend.LeftAsleep := by
  intro leftAsleep
  have complete : construction.pending = [] := by
    by_contra incomplete
    have starting := run.invariant Construction.Starting.preserved
      (.start storage capacity policy output)
    obtain ⟨caller, due, asleep⟩ := leftAsleep.asleep
    rw [(starting.untouched incomplete).flushers_eq] at asleep
    cases asleep
  have workerTimely (backend : AsyncBackend ι κ ρ ε)
      (label : AsyncLabel ι κ ρ φ) (byWorker : label.byWorker = true) :
      backend.TimelyCount label := by
    intro isCount
    cases label <;> cases isCount
    cases byWorker
  obtain ⟨used, finished⟩ := Construction.finish_run workerTimely run
  have watched := finished.invariant AsyncBackend.Watched.preserved
    (AsyncBackend.Watched.start policy positive output)
  rw [Construction.finish_complete complete] at watched
  exact watched.not_leftAsleep leftAsleep

/-- The worker tests the `true` of the storage before the constructor goes on,
and its notification wakes the caller. -/
theorem flush_not_left_asleep_notified :
    ∃ construction : Construction Unit Unit Nat Unit,
      (constructionMachine Unit Unit Emitter.silent ⟨true, 7, 3⟩ 1 .block
        ()).Reachable construction ∧
      construction.backend.flushers () = .entering [0] ∧
      construction.backend.mProcessed = construction.backend.mSubmitted ∧
      ¬construction.backend.LeftAsleep := by
  obtain ⟨construction, run, woken, equal⟩ := Machine.exists_run
    (constructionMachine Unit Unit (Emitter.silent (ρ := Nat)) ⟨true, 7, 3⟩
      1 .block ())
    (Construction.Initialized AsyncBackend.TimelyCount)
    (.make ⟨true, 7, 3⟩ 1 .block ())
    [.use .workerCheck, .construct, .construct, .construct, .construct,
      .construct, .use (.logPush () 7), .use (.logCount ()),
      .use (.flushEnter ()), .use (.flushLock ()),
      .use (.flushLoadProcessed ()), .use (.flushLoadSubmitted ()),
      .use (.flushDecide ()), .use .workerPop, .use (.workerWrite ()),
      .use .workerCount, .use .workerCompare, .use .workerNotify]
    (fun construction =>
      construction.backend.flushers () = .entering [0] ∧
      construction.backend.mProcessed = construction.backend.mSubmitted)
    (by decide)
  exact ⟨construction, ⟨_, run.free⟩, woken, equal,
    flush_not_left_asleep (by decide) run⟩

/-- The worker compares before the producer submits, the caller goes to sleep
in between, and nobody announces the increment that makes the counters
equal. -/
theorem flush_left_asleep :
    ∃ construction : Construction Unit Unit Nat Unit,
      (constructionMachine Unit Unit Emitter.silent ⟨false, 0, 0⟩ 1 .block
        ()).Reachable construction ∧ construction.backend.LeftAsleep := by
  obtain ⟨construction, run, ⟨unstopped, outside, empty, waiting⟩, equal,
      asleep⟩ := Machine.exists_run
    (constructionMachine Unit Unit (Emitter.silent (ρ := Nat))
      ⟨false, 0, 0⟩ 1 .block ())
    Machine.Free (.make ⟨false, 0, 0⟩ 1 .block ())
    [.construct, .construct, .construct, .construct, .construct,
      .use .workerCheck, .use (.logPush () 7), .use .workerPop,
      .use (.workerWrite ()), .use .workerCount, .use .workerCompare,
      .use (.flushEnter ()), .use (.flushLock ()),
      .use (.flushLoadProcessed ()), .use (.flushLoadSubmitted ()),
      .use (.flushDecide ()), .use (.logCount ()), .use .workerCheck]
    (fun construction => (construction.backend.stopper = .outside ∧
        (∀ producer, construction.backend.producers producer = .outside) ∧
        construction.backend.custody.queue.contents = [] ∧
        construction.backend.worker = .popping .serving) ∧
      construction.backend.mProcessed = construction.backend.mSubmitted ∧
      construction.backend.flushers () = .asleep []) (by decide)
  exact ⟨construction, ⟨_, run⟩, unstopped, outside, empty, ⟨_, waiting⟩,
    equal, (), [], asleep⟩

end LogParse
